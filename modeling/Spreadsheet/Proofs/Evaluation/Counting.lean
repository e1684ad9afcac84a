import Spreadsheet.Proofs.Evaluation.Depth
import Spreadsheet.Proofs.Evaluation.Rectangular
import Spreadsheet.Proofs.Function.Criteria
import Spreadsheet.Proofs.Number.Nearest

/-! Counting the cells of a range that meet a criterion. The counts for an equality and for the
inequality with the same operand add up to the number of cells, but for cells that meet both or
neither. -/

namespace Spreadsheet

open Formula (Expr BinaryOp)
open Spreadsheet.Function

namespace Sheet

/-- The values of the cells of a range, row by row. -/
def cellValues (s : Sheet) (r : Range) : List Value := r.cells.map fun a => .ofCell (s.get a)

theorem length_cellValues (s : Sheet) (r : Range) : (s.cellValues r).length = r.cellCount := by
  simp [cellValues, Range.cells, Range.cellCount]

theorem elements_block (s : Sheet) (r : Range) :
    elements (s.block r.first.row r.first.col r.rowCount r.colCount) = s.cellValues r := by
  rw [cellValues, Range.cells, List.map_flatMap]
  simp only [List.map_map]
  rfl

theorem length_elements_block (s : Sheet) (top left height width : Nat) :
    (elements (s.block top left height width)).length = height * width := by
  simp [elements, block, Value.toRows, Function.comp_def]

variable {s : Sheet} {limit : Nat} {r : Range} {rows : List (List Value)}
  (h : s.rangeValues limit r = .array rows)
include h

theorem isValid_of_rangeValues : r.first.isValid = true ∧ r.last.isValid = true := by
  rw [rangeValues] at h
  split at h
  · cases h
  · rename_i hinside
    simpa using hinside

theorem elements_rangeValues (hlimit : r.cellCount ≤ limit) :
    elements (.array rows) = s.cellValues r := by
  obtain ⟨hfirst, hlast⟩ := isValid_of_rangeValues h
  rw [rangeValues, hfirst, hlast, if_neg (by decide), if_neg (Nat.not_lt.mpr hlimit)] at h
  rw [← h, elements_block]

theorem length_elements_rangeValues_le : (elements (.array rows)).length ≤ r.cellCount := by
  rcases Nat.lt_or_ge limit r.cellCount with hclipped | hwhole
  · obtain ⟨hfirst, hlast⟩ := isValid_of_rangeValues h
    rw [rangeValues, hfirst, hlast, if_neg (by decide), if_pos hclipped, clippedValues] at h
    split at h
    · cases h
      exact Nat.zero_le _
    · split at h
      · cases h
      · -- What is left of a range that is cut has no more rows and columns.
        rw [← h, length_elements_block, Range.cellCount, Range.rowCount, Range.colCount]
        exact Nat.mul_le_mul (by omega) (by omega)
  · rw [elements_rangeValues h hwhole, length_cellValues]

/-- No range inside a sheet has so many cells that their number is not a double. -/
theorem length_elements_rangeValues_lt : (elements (.array rows)).length < 2 ^ 53 := by
  obtain ⟨hrow, hcol⟩ := Bool.and_eq_true_iff.mp (isValid_of_rangeValues h).2
  have hrows : r.rowCount ≤ maxRows := by
    have hlt := of_decide_eq_true hrow
    rw [Range.rowCount]
    omega
  have hcols : r.colCount ≤ maxColumns := by
    have hlt := of_decide_eq_true hcol
    rw [Range.colCount]
    omega
  calc (elements (.array rows)).length ≤ r.cellCount := length_elements_rangeValues_le h
    _ ≤ maxRows * maxColumns := Nat.mul_le_mul hrows hcols
    _ < 2 ^ 53 := by decide

end Sheet

namespace Formula.Expr

theorem eval_concat_literal {s : Scope} {d : Depth} {x : Expr} {v : Value} {t : String}
    (hx : x.eval s d.enterNode = .ok v) (hv : v.toText = .ok t) (operator : String) :
    (binary .concat (.literal (.text operator)) x).eval s d = .ok (.text (operator ++ t)) := by
  have hdeep := lt_of_eval hx
  have hnode : d.checkNode s.options = .ok () :=
    Depth.checkNode_of_lt (Nat.lt_of_succ_lt hdeep)
  have happly : BinaryOp.concat.apply (.text operator) v = .ok (.text (operator ++ t)) := by
    change Value.concat _ _ = _
    rw [Value.concat, hv]
    rfl
  rw [eval, eval, hnode, Depth.checkNode_of_lt hdeep, hx]
  cases v with
  | error e => cases hv
  | _ => exact congrArg (Except.ok <| Value.ofAnswer ·) happly

/-- The count of the cells of a range that meet a criterion made up of an operator and an operand. -/
def countOf (r : Range) (operator : String) (operand : Expr) : Expr :=
  .call "COUNTIF" [.range r, .binary .concat (.literal (.text operator)) operand]

end Formula.Expr

namespace Sheet

section

variable {s : Sheet} {o : EvaluationOptions} {r : Range} {rows : List (List Value)} {x : Expr}
  {v : Value} {operand : String} (hrows : s.rangeValues o.maxRangeCells r = .array rows)
  (hx : x.eval ⟨s, o⟩ ⟨2, 1⟩ = .ok v) (hv : v.toText = .ok operand) (operator : String)
include hrows hx hv

theorem evalArguments_countOf : aggregationFunctions[30].evalArguments 0 (Expr.delayList ⟨s, o⟩ ⟨1, 1⟩
    [.range r, .binary .concat (.literal (.text operator)) x]) =
      .ok (.ok [.array rows, .text (operator ++ operand)]) := by
  have hdeep : 2 < o.maxExpressionDepth := Expr.lt_of_eval hx
  have hrange : (Expr.range r).arrayArgument ⟨s, o⟩ ⟨1, 1⟩
      (fun _ => (Expr.range r).eval ⟨s, o⟩ ⟨1, 1⟩) = .ok (.array rows) := by
    rw [Expr.arrayArgument, Depth.checkNode_of_lt (Nat.lt_of_succ_lt hdeep), hrows]
    rfl
  have hkind : aggregationFunctions[30].argKind (0 + 1) = .scalar := rfl
  have hcriterion := Expr.eval_concat_literal (s := ⟨s, o⟩) (d := ⟨1, 1⟩) hx hv operator
  refine evalArguments_cons hrange (fun _ => Value.noConfusion) ?_
  refine evalArguments_cons ?_ (fun _ => Value.noConfusion) rfl
  simp only [evalArgument, hkind, hcriterion]
  rfl

theorem evaluate_countOf (hcalls : 1 ≤ o.maxCallDepth) : s.evaluate o (.countOf r operator x) =
    .ok (count ((elements (.array rows)).countP (Criterion.ofText (operator ++ operand)).isMet)) := by
  let f := aggregationFunctions[30]
  have hfind : find? "COUNTIF" = some f :=
    find?_of_mem (mem_all_of_aggregation (List.getElem_mem _)) (by decide +kernel)
  have hdeep : 2 < o.maxExpressionDepth := Expr.lt_of_eval hx
  have hnode : Depth.top.checkNode o = .ok () := Depth.checkNode_of_lt (Nat.zero_lt_of_lt hdeep)
  have hcall : Depth.top.enterNode.checkCall o = .ok () := Depth.checkCall_of_lt hcalls
  have hrun := run_of_evalArguments (f := f) rfl (evalArguments_countOf hrows hx hv operator)
  rw [countIf_eq_count (hrows ▸ s.rectangular_rangeValues _ _), Value.ofAnswer] at hrun
  have hfinite : Number.isFinite (Number.ofNat ((elements (.array rows)).countP
      (Criterion.ofText (operator ++ operand)).isMet)) = true :=
    Number.isFinite_ofNat (Nat.lt_of_le_of_lt List.countP_le_length
      (length_elements_rangeValues_lt hrows))
  rw [Expr.countOf, evaluate_call hfind hnode hcall rfl hrun, count, Value.finite_number,
    if_pos hfinite]

end

/-- A value meets exactly one of an equality and the inequality with the same operand, but where the
two read the operand in different ways, and the two counts of the cells of a range, if it is no error,
make up all its cells but for those values. -/
theorem evaluate_countOf_complement (operand : String) :
    (∀ v, (Criterion.ofText ("=" ++ operand)).isMet v =
        !(Criterion.ofText ("<>" ++ operand)).isMet v ↔
      Criterion.bothMet operand v = false ∧ Criterion.neitherMet operand v = false) ∧
    ∀ (s : Sheet) (o : EvaluationOptions) (r : Range) (rows : List (List Value)) (x : Expr) (v : Value),
      s.rangeValues o.maxRangeCells r = .array rows → 1 ≤ o.maxCallDepth →
      x.eval ⟨s, o⟩ ⟨2, 1⟩ = .ok v → v.toText = .ok operand →
      ∃ m n, s.evaluate o (.countOf r "=" x) = .ok (count m) ∧
        s.evaluate o (.countOf r "<>" x) = .ok (count n) ∧
        m + n + rows.flatten.countP (Criterion.neitherMet operand) =
          rows.flatten.length + rows.flatten.countP (Criterion.bothMet operand) ∧
        (r.cellCount ≤ o.maxRangeCells →
          rows.flatten = s.cellValues r ∧ rows.flatten.length = r.cellCount) := by
  have hopposed := Criterion.opposed_ofText operand
  constructor
  · intro v
    rw [← hopposed.both_eq, ← hopposed.neither_eq]
    cases (Criterion.ofText ("=" ++ operand)).isMet v <;>
      cases (Criterion.ofText ("<>" ++ operand)).isMet v <;> decide
  · intro s o r rows x v hrows hcalls hx hv
    refine ⟨_, _, evaluate_countOf hrows hx hv "=" hcalls, evaluate_countOf hrows hx hv "<>" hcalls,
      hopposed.countP_add _, fun hlimit => ?_⟩
    have hcells : rows.flatten = s.cellValues r := elements_rangeValues hrows hlimit
    exact ⟨hcells, hcells ▸ s.length_cellValues r⟩

/-- Four cells, one of them with the operand in another case of letters and one of them blank. -/
theorem evaluate_countOf_complement_letter :
    let s : Sheet := ⟨[], #[#[.text "A", .text "5"], #[.error (.plain .notAvailable)]]⟩
    let o : EvaluationOptions := .standard
    let r : Range := ⟨.relative 0 0, .relative 1 1⟩
    let rows : List (List Value) :=
      [[.text "A", .text "5"], [.error (.plain .notAvailable), .blank]]
    let x : Expr := .literal (.text "a")
    s.rangeValues o.maxRangeCells r = .array rows ∧ 1 ≤ o.maxCallDepth ∧
      x.eval ⟨s, o⟩ ⟨2, 1⟩ = .ok (.text "a") ∧ (Value.text "a").toText = .ok "a" ∧
      ∃ m n, s.evaluate o (.countOf r "=" x) = .ok (count m) ∧
        s.evaluate o (.countOf r "<>" x) = .ok (count n) ∧ m + n = r.cellCount := by
  intro s o r rows x
  have hneither : rows.flatten.countP (Criterion.neitherMet "a") = 0 := by decide +kernel
  have hboth : rows.flatten.countP (Criterion.bothMet "a") = 0 := by decide +kernel
  have hcalls : 1 ≤ o.maxCallDepth := by decide
  obtain ⟨m, n, hm, hn, hsum, hcells⟩ :=
    (evaluate_countOf_complement "a").2 s o r rows x (.text "a") rfl hcalls rfl rfl
  rw [hneither, hboth, (hcells (by decide)).2] at hsum
  exact ⟨rfl, hcalls, rfl, rfl, m, n, hm, hn, hsum⟩

/-- An error whose code the operand is and a text that spells the operand meet both criteria, and the
text of that code meets neither. -/
theorem not_complementary_criteria :
    let missing : CellError := .plain .notAvailable
    let s : Sheet := ⟨[], #[#[.error missing]]⟩
    let r : Range := .single (.relative 0 0)
    s.evaluate .standard (.countOf r "=" (.literal (.text "#N/A"))) = .ok (count 1) ∧
      s.evaluate .standard (.countOf r "<>" (.literal (.text "#N/A"))) = .ok (count 1) ∧
      r.cellCount = 1 ∧
      (Criterion.ofText "=#N/A").isMet (.text "#N/A") = false ∧
      (Criterion.ofText "<>#N/A").isMet (.text "#N/A") = false ∧
      (Criterion.ofText "=5").isMet (.text "5") = true ∧
      (Criterion.ofText "<>5").isMet (.text "5") = true := by
  intro missing s r
  have hrows : s.rangeValues EvaluationOptions.standard.maxRangeCells r =
      .array [[.error missing]] := rfl
  have hcount (operator : String) :=
    evaluate_countOf hrows (x := .literal (.text "#N/A")) rfl rfl operator (by decide)
  refine ⟨(hcount "=").trans (congrArg (Except.ok <| count ·) ?_),
    (hcount "<>").trans (congrArg (Except.ok <| count ·) ?_), rfl, ?_, ?_, ?_, ?_⟩ <;>
    decide +kernel

end Sheet

end Spreadsheet
