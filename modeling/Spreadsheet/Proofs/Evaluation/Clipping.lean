import Spreadsheet.Proofs.Evaluation.Depth
import Spreadsheet.Proofs.Evaluation.Rectangular
import Spreadsheet.Proofs.Function.Shapes
import Spreadsheet.Proofs.Sheet.Cells

/-! Ranges under different limits on their cells. Unless it is rejected, a range has the same elements
under each limit but for blanks, which functions that see sizes and positions can tell. -/

namespace Spreadsheet

open Formula

namespace Sheet

/-- Whether a range has more cells than a limit allows even where it is cut to those in use. -/
def Rejects (s : Sheet) (limit : Nat) (r : Range) : Prop :=
  s.rangeValues limit r = .error (.value s!"range {r.toText} has more than {limit} cells")

theorem entry_block (s : Sheet) (top left height width : Nat) (p : Nat × Nat) :
    (s.block top left height width).entry p =
      if p.1 < height ∧ p.2 < width then .ofCell (s.cellAt (top + p.1) (left + p.2)) else .blank := by
  rw [Value.entry, Function.elementAt?, block, Value.toRows, List.getElem?_map]
  by_cases hrow : p.1 < height
  · rw [List.getElem?_range hrow, Option.map_some, Option.bind_some, List.getElem?_map]
    by_cases hcol : p.2 < width
    · rw [List.getElem?_range hcol, if_pos ⟨hrow, hcol⟩]
      rfl
    · rw [if_neg fun h => hcol h.2, List.getElem?_eq_none (by simpa using hcol)]
      rfl
  · rw [if_neg fun h => hrow h.1, List.getElem?_eq_none (by simpa using hrow)]
    rfl

/-- Outside the rows and columns in use all cells are blank. -/
theorem entry_block_eq (s : Sheet) {top left height height' width width' : Nat}
    (hheight : height ≤ height') (hwidth : width ≤ width')
    (hrows : ∀ i, height ≤ i → i < height' → s.rowCount ≤ top + i)
    (hcols : ∀ j, width ≤ j → j < width' → s.colCount ≤ left + j) :
    (s.block top left height' width').entry = (s.block top left height width).entry := by
  funext p
  rw [entry_block, entry_block]
  by_cases hlarge : p.1 < height' ∧ p.2 < width'
  · by_cases hsmall : p.1 < height ∧ p.2 < width
    · rw [if_pos hlarge, if_pos hsmall]
    · have houtside : s.rowCount ≤ top + p.1 ∨ s.colCount ≤ left + p.2 := by
        by_cases hrow : p.1 < height
        · exact .inr (hcols _ (by omega) hlarge.2)
        · exact .inl (hrows _ (Nat.le_of_not_lt hrow) hlarge.1)
      rw [if_pos hlarge, if_neg hsmall, cellAt_of_outside houtside]
      rfl
  · rw [if_neg hlarge, if_neg (by omega)]

/-- A range that is cut to nothing has no elements, like a block without rows or columns. -/
theorem entry_clippedValues {s : Sheet} {limit : Nat} {r : Range}
    (h : s.clippedValues limit r ≠ .error (.value s!"range {r.toText} has more than {limit} cells")) :
    ∃ rows, s.clippedValues limit r = .array rows ∧ (Value.array rows).entry =
      (s.block r.first.row r.first.col (min (r.last.row + 1) s.rowCount - r.first.row)
        (min (r.last.col + 1) s.colCount - r.first.col)).entry := by
  rw [clippedValues] at h ⊢
  split at h
  · rename_i hempty
    rw [if_pos hempty]
    refine ⟨[], rfl, ?_⟩
    funext p
    rw [entry_block, if_neg (by omega)]
    rfl
  · rename_i hempty
    split at h
    · exact absurd rfl h
    · rename_i hlimit
      rw [if_neg hempty, if_neg hlimit]
      exact ⟨_, rfl, rfl⟩

section

variable {s : Sheet} {r : Range} (hrows : r.first.row ≤ r.last.row) (hcols : r.first.col ≤ r.last.col)
include hrows hcols

/-- Whether it is cut or not, a range has the same elements but for blanks. -/
theorem entry_rangeValues (hinside : (!r.first.isValid || !r.last.isValid) = false) {limit : Nat}
    (h : ¬s.Rejects limit r) : ∃ rows, s.rangeValues limit r = .array rows ∧
      (Value.array rows).entry =
        (s.block r.first.row r.first.col r.rowCount r.colCount).entry := by
  rw [Rejects, rangeValues, if_neg (ne_true_of_eq_false hinside)] at h
  rw [rangeValues, if_neg (ne_true_of_eq_false hinside)]
  split at h
  · rename_i hlimit
    obtain ⟨rows, hclipped, hentry⟩ := entry_clippedValues h
    rw [if_pos hlimit]
    refine ⟨rows, hclipped, hentry.trans (s.entry_block_eq ?_ ?_ ?_ ?_).symm⟩ <;>
      simp only [Range.rowCount, Range.colCount] <;> omega
  · rename_i hlimit
    rw [if_neg hlimit]
    exact ⟨_, rfl, rfl⟩

theorem sameUpToBlanks_rangeValues {limit limit' : Nat} (h : ¬s.Rejects limit r)
    (h' : ¬s.Rejects limit' r) :
    (s.rangeValues limit r).SameUpToBlanks (s.rangeValues limit' r) := by
  cases hinside : !r.first.isValid || !r.last.isValid with
  | true =>
    rw [rangeValues, rangeValues, if_pos hinside, if_pos hinside]
    exact .refl _
  | false =>
    obtain ⟨rows, hvalue, hentry⟩ := entry_rangeValues hrows hcols hinside h
    obtain ⟨rows', hvalue', hentry'⟩ := entry_rangeValues hrows hcols hinside h'
    have hrect := s.rectangular_rangeValues limit r
    have hrect' := s.rectangular_rangeValues limit' r
    rw [hvalue] at hrect ⊢
    rw [hvalue'] at hrect' ⊢
    exact .arrays (hentry.trans hentry'.symm) hrect hrect'

end

end Sheet

namespace Function

theorem isArray_evalArgument {f : Function} {index : Nat} {a : Delayed} {v : Value}
    (hkind : f.argKind index ≠ .array) (h : f.evalArgument index a = .ok v) :
    v.isArray = false := by
  rw [evalArgument] at h
  split at h
  · exact absurd ‹_› hkind
  · obtain ⟨w, -, hw⟩ := exists_ok_of_bind h
    cases w <;> cases hw <;> rfl

/-- Arguments that can differ only in arrays are equal where the arrays are. -/
theorem eq_of_evalArguments {V : Value → Value → Prop} (hV : Similarity V) {f : Function}
    {as bs : List Delayed} {index : Nat} {vs ws : List Value}
    (hvs : f.evalArguments index as = .ok (.ok vs)) (hws : f.evalArguments index bs = .ok (.ok ws))
    (h : List.Forall₂ V vs ws)
    (harrays : ∀ i a b, as[i]? = some a → bs[i]? = some b → f.argKind (index + i) = .array →
      a.array () = b.array ()) : vs = ws := by
  induction h generalizing as bs index with
  | nil => rfl
  | @cons v w vs ws hvw _ ih =>
    obtain _ | ⟨a, as⟩ := as
    · cases hvs
    obtain _ | ⟨b, bs⟩ := bs
    · cases hws
    obtain ⟨_, _, ⟨⟩, hv, hvs⟩ := exists_of_evalArguments_cons hvs
    obtain ⟨_, _, ⟨⟩, hw, hws⟩ := exists_of_evalArguments_cons hws
    have hhead : v = w := by
      by_cases hkind : f.argKind index = .array
      · have harray := harrays 0 a b rfl rfl hkind
        simp only [evalArgument, hkind] at hv hw
        exact Except.ok.inj (hv.symm.trans (harray.trans hw))
      · exact hV.eq_of_single hvw (isArray_evalArgument hkind hv)
    have htail : vs = ws := ih hvs hws fun i a b ha hb hkind =>
      harrays (i + 1) a b ha hb (by rw [Nat.add_comm i, ← Nat.add_assoc]; exact hkind)
    rw [hhead, htail]

theorem argKind_ne_array {f : Function} (h : ∀ p ∈ f.parameters, p.kind ≠ .array) (index : Nat) :
    f.argKind index ≠ .array := by
  rw [argKind]
  cases hp : f.parameter? index with
  | none => exact ArgKind.noConfusion
  | some p =>
    refine h p ?_
    rw [parameter?] at hp
    split at hp
    · exact List.mem_of_getElem? hp
    · split at hp
      · exact List.mem_of_getLast? hp
      · exact List.mem_of_getElem? hp

end Function

/-- Whether an eager function gives one result for arguments under two limits: it overlooks blanks in
them, or the ranges in those that are meant to be arrays have the same values. -/
def Sheet.Transparent (s : Sheet) (o : EvaluationOptions) (limit : Nat) (f : Function)
    (args : List Expr) : Prop :=
  (∀ d vs ws, f.evalArguments 0 (Expr.delayList ⟨s, o⟩ d args) = .ok (.ok vs) →
      f.evalArguments 0 (Expr.delayList ⟨s, { o with maxRangeCells := limit }⟩ d args) =
        .ok (.ok ws) → Function.OverlooksBlanks f.name vs ws) ∨
    ∀ i x, args[i]? = some x → f.argKind i = .array → ∀ r, .range r ∈ x.subterms →
      s.rangeValues o.maxRangeCells r = s.rangeValues limit r

/-- Where ranges have the same values, so has everything. -/
theorem simulation_of_ranges (s : Sheet) (o : EvaluationOptions) (limit : Nat) :
    Simulation .alike Eq ⟨s, o⟩ ⟨s, { o with maxRangeCells := limit }⟩ fun _ e =>
      e.Everywhere fun x => ∀ r, x = .range r →
        s.rangeValues o.maxRangeCells r = s.rangeValues limit r where
  toSimilarity := similarity_eq
  checkNode _ := .alike_rfl (fun _ => rfl) _
  checkCall _ := .alike_rfl (fun _ => rfl) _
  literal _ := rfl
  reference _ := rfl
  range he := he.self _ rfl
  operands he := he.operands
  operand he := he.operand
  arguments he := he.arguments
  elements he := he.elements
  constant _ _ _ := rfl
  keeps _ _ _ := Function.keeps_eq _ _ _

theorem simulation_sameUpToBlanks (s : Sheet) (o : EvaluationOptions) (limit : Nat) :
    Simulation .alike Value.SameUpToBlanks ⟨s, o⟩ ⟨s, { o with maxRangeCells := limit }⟩ fun _ e =>
      e.Everywhere fun x =>
        (∀ r, x = .range r → r.first.row ≤ r.last.row ∧ r.first.col ≤ r.last.col ∧
          ¬s.Rejects o.maxRangeCells r ∧ ¬s.Rejects limit r) ∧
        ∀ name args, x = .call name args → ∀ f g, Function.find? name = some f →
          f.implementation = .eager g → s.Transparent o limit f args where
  toSimilarity := similarity_sameUpToBlanks
  checkNode _ := .alike_rfl (fun _ => rfl) _
  checkCall _ := .alike_rfl (fun _ => rfl) _
  literal _ := .refl _
  reference _ := .refl _
  range he := by
    obtain ⟨hrows, hcols, h, h'⟩ := he.self.1 _ rfl
    exact Sheet.sameUpToBlanks_rangeValues hrows hcols h h'
  operands he := he.operands
  operand he := he.operand
  arguments he := he.arguments
  elements he := he.elements
  constant _ _ _ := .refl _
  keeps {d name args f} he hf _ g vs ws hg hvs hws h := by
    suffices hgives : g vs = g ws by
      rw [hgives]
      exact .refl _
    have hmem := Function.mem_all.mp (Function.mem_of_find? hf)
    rcases Function.answer_eq_of_mem f hmem g hg with hscalar | hblanks
    · exact congrArg g (Function.eq_of_evalArguments similarity_sameUpToBlanks hvs hws h
        fun i _ _ _ _ hkind => absurd hkind (Function.argKind_ne_array hscalar _))
    rcases he.self.2 name args rfl f g hf hg with hover | halike
    · exact hblanks vs ws h (hover _ vs ws hvs hws)
    · refine congrArg g (Function.eq_of_evalArguments similarity_sameUpToBlanks hvs hws h
        fun i a b ha hb hkind => ?_)
      rw [Expr.getElem?_delayList] at ha hb
      obtain ⟨x, hx, rfl⟩ := Option.map_eq_some_iff.mp ha
      rw [hx] at hb
      cases hb
      rw [Nat.zero_add] at hkind
      have hranges : x.Everywhere fun y => ∀ r, y = .range r →
          s.rangeValues o.maxRangeCells r = s.rangeValues limit r := by
        rintro _ hr r rfl
        exact halike i x hx hkind r hr
      exact ((simulation_of_ranges s o limit).follows_arrayValue hranges).eq_of_alike

namespace Sheet

/-- The limit on the cells of ranges shows only where it makes errors of ranges and, unless the ranges
have the same values, in functions that do not overlook blanks. Otherwise an expression has one value
under all such limits, which may differ by blanks if it is an array. -/
theorem evaluate_of_limits (s : Sheet) (e : Expr) (o : EvaluationOptions) (limit : Nat)
    (hranges : ∀ r, .range r ∈ e.subterms → r.first.row ≤ r.last.row ∧ r.first.col ≤ r.last.col ∧
      ¬s.Rejects o.maxRangeCells r ∧ ¬s.Rejects limit r)
    (hcalls : ∀ name args, .call name args ∈ e.subterms → ∀ f g, Function.find? name = some f →
      f.implementation = .eager g → s.Transparent o limit f args) :
    (∃ x, s.evaluate o e = .error x ∧ s.evaluate { o with maxRangeCells := limit } e = .error x) ∨
      ∃ v w, s.evaluate o e = .ok v ∧ s.evaluate { o with maxRangeCells := limit } e = .ok w ∧
        v.SameUpToBlanks w ∧ (v.isArray = false → v = w) ∧ v.toCell = w.toCell := by
  have heverywhere : e.Everywhere fun x =>
      (∀ r, x = .range r → r.first.row ≤ r.last.row ∧ r.first.col ≤ r.last.col ∧
        ¬s.Rejects o.maxRangeCells r ∧ ¬s.Rejects limit r) ∧
      ∀ name args, x = .call name args → ∀ f g, Function.find? name = some f →
        f.implementation = .eager g → s.Transparent o limit f args := by
    refine fun x hx => ⟨?_, ?_⟩
    · rintro r rfl
      exact hranges r hx
    · rintro name args rfl
      exact hcalls name args hx
  have hfollows := (simulation_sameUpToBlanks s o limit).follows_eval e .top heverywhere
  rw [evaluate, evaluate]
  generalize e.eval ⟨s, o⟩ .top = r, e.eval ⟨s, { o with maxRangeCells := limit }⟩ .top = r' at hfollows
  cases hfollows with
  | ok h => exact .inr ⟨_, _, rfl, rfl, h, h.eq_of_single, h.toCell_eq⟩
  | alike _ x => exact .inl ⟨x, rfl, rfl⟩
  | early h => cases h

/-- A disjunction over ten cells of which two are in use, under a limit that cuts the range and under
one that does not. -/
theorem evaluate_of_limits_disjunction :
    let s : Sheet := ⟨[], #[#[.boolean true], #[.boolean false]]⟩
    let r : Range := ⟨.relative 0 0, .relative 9 0⟩
    let e : Expr := .call "OR" [.range r]
    let o : EvaluationOptions := { EvaluationOptions.standard with maxRangeCells := 5 }
    ¬s.Rejects 5 r ∧ ¬s.Rejects 10 r ∧ s.rangeValues 5 r ≠ s.rangeValues 10 r ∧
      s.evaluate o e = .ok (.boolean true) ∧
      s.evaluate { o with maxRangeCells := 10 } e = .ok (.boolean true) := by
  intro s r e o
  let f := Function.logicalFunctions[2]
  have hlogical : f ∈ Function.logicalFunctions := List.getElem_mem _
  have hmem : f ∈ Function.all := by
    rw [Function.mem_all]
    simp [Function.unsorted, hlogical]
  have hfind : Function.find? "OR" = some f := Function.find?_of_mem hmem (by decide +kernel)
  have hcut : ¬s.Rejects 5 r := Value.noConfusion
  have hwhole : ¬s.Rejects 10 r := Value.noConfusion
  have hvalue : s.evaluate o e = .ok (.boolean true) := by
    rw [evaluate_call (v := .boolean true) hfind rfl rfl rfl rfl,
      Value.finite_eq_self (by simp) (by simp)]
  have hsubterms : e.subterms = [e, .range r] := rfl
  have hlimits := s.evaluate_of_limits e o 10
    (by
      intro r' hr'
      simp only [hsubterms, e, List.mem_cons, List.not_mem_nil, reduceCtorEq, Expr.range.injEq,
        false_or, or_false] at hr'
      exact hr' ▸ ⟨by decide, by decide, hcut, hwhole⟩)
    (by
      intro name args hcall f' g hf' _
      simp only [hsubterms, e, List.mem_cons, List.not_mem_nil, reduceCtorEq, Expr.call.injEq,
        or_false] at hcall
      obtain ⟨rfl, rfl⟩ := hcall
      obtain rfl := Option.some.inj (hfind.symm.trans hf')
      exact .inl fun _ _ _ _ _ => trivial)
  have hne : s.rangeValues 5 r ≠ s.rangeValues 10 r := fun h =>
    absurd (congrArg Function.dimensions h) (by decide)
  refine ⟨hcut, hwhole, hne, hvalue, ?_⟩
  rcases hlimits with ⟨x, hx, -⟩ | ⟨v, w, hv, hw, -, hsingle, -⟩
  · cases hvalue.symm.trans hx
  · cases hvalue.symm.trans hv
    rw [hw, ← hsingle rfl]

/-- The number of rows of a range depends on whether it is cut. -/
theorem evaluate_rows_ne :
    let s : Sheet := ⟨[], #[#[.boolean true], #[.boolean false]]⟩
    let r : Range := ⟨.relative 0 0, .relative 9 0⟩
    let e : Expr := .call "ROWS" [.range r]
    let o : EvaluationOptions := { EvaluationOptions.standard with maxRangeCells := 5 }
    ¬s.Rejects 5 r ∧ ¬s.Rejects 10 r ∧
      s.evaluate o e = .ok (.number (Number.ofNat 2)) ∧
      s.evaluate { o with maxRangeCells := 10 } e = .ok (.number (Number.ofNat 10)) ∧
      Value.number (Number.ofNat 2) ≠ Value.number (Number.ofNat 10) := by
  intro s r e o
  let f := Function.lookupFunctions[5]
  have hlookup : f ∈ Function.lookupFunctions := List.getElem_mem _
  have hmem : f ∈ Function.all := by
    rw [Function.mem_all]
    simp [Function.unsorted, hlookup]
  have hfind : Function.find? "ROWS" = some f := Function.find?_of_mem hmem (by decide +kernel)
  have hfinite : Number.isFinite (Number.ofNat 2) = true := by decide +kernel
  have hfinite' : Number.isFinite (Number.ofNat 10) = true := by decide +kernel
  refine ⟨Value.noConfusion, Value.noConfusion, ?_, ?_, ?_⟩
  · rw [evaluate_call (v := .number (Number.ofNat 2)) hfind rfl rfl rfl rfl, Value.finite_number,
      if_pos hfinite]
  · rw [evaluate_call (v := .number (Number.ofNat 10)) hfind rfl rfl rfl rfl, Value.finite_number,
      if_pos hfinite']
  · intro h
    have hword := congrArg Number.word (Value.number.inj h)
    revert hword
    decide +kernel

end Sheet

end Spreadsheet
