import Spreadsheet.Evaluation
import Spreadsheet.Position
import Mathlib.Tactic.IntervalCases

/-! What an evaluation reads. Two sheets of one size that agree wherever a reference of an
expression lies give the expression the same value, or end its evaluation at the same limit. -/

namespace Spreadsheet

namespace Range

theorem covers_single (a : Address) : (Range.single a).covers a.position = true := by
  simp [covers, single, Address.position]

/-- The positions that reading a range visits lie between its corners, also when the corners are
in the wrong order and only the first row or column is visited. -/
theorem covers_offset (r : Range) {i j : Nat} (hi : i < r.rowCount) (hj : j < r.colCount) :
    r.covers ⟨r.first.row + i, r.first.col + j⟩ = true := by
  simp only [rowCount, colCount] at hi hj
  simp only [covers, Bool.and_eq_true, decide_eq_true_eq]
  omega

end Range

namespace Sheet

/-- Two sheets of one size hold the same cells wherever one of the ranges lies. -/
structure AgreeOn (rs : List Range) (s t : Sheet) : Prop where
  rows : s.rowCount = t.rowCount
  cols : s.colCount = t.colCount
  cells : ∀ p : Position, (∃ r ∈ rs, r.covers p = true) → s.cellAt p.row p.col = t.cellAt p.row p.col

variable {s t : Sheet} {rs qs : List Range}

theorem AgreeOn.mono (h : s.AgreeOn rs t) (hsub : qs ⊆ rs) : s.AgreeOn qs t :=
  ⟨h.rows, h.cols, fun p ⟨r, hr, hp⟩ => h.cells p ⟨r, hsub hr, hp⟩⟩

theorem AgreeOn.left (h : s.AgreeOn (rs ++ qs) t) : s.AgreeOn rs t :=
  h.mono (List.subset_append_left rs qs)

theorem AgreeOn.right (h : s.AgreeOn (rs ++ qs) t) : s.AgreeOn qs t :=
  h.mono (List.subset_append_right rs qs)

theorem AgreeOn.cellAt_eq {r : Range} (h : s.AgreeOn [r] t) {p : Position}
    (hp : r.covers p = true) : s.cellAt p.row p.col = t.cellAt p.row p.col :=
  h.cells p ⟨r, List.mem_singleton.mpr rfl, hp⟩

theorem AgreeOn.valueAt_eq {a : Address} (h : s.AgreeOn [.single a] t) :
    s.valueAt a = t.valueAt a := by
  have hcell : s.get a = t.get a := h.cellAt_eq (Range.covers_single a)
  simp only [valueAt, hcell]

theorem block_congr {top left height width : Nat}
    (h : ∀ i < height, ∀ j < width, s.cellAt (top + i) (left + j) = t.cellAt (top + i) (left + j)) :
    s.block top left height width = t.block top left height width := by
  refine congrArg Value.array (List.map_congr_left fun i hi => List.map_congr_left fun j hj => ?_)
  rw [h i (List.mem_range.mp hi) j (List.mem_range.mp hj)]

theorem AgreeOn.block_eq {r : Range} (h : s.AgreeOn [r] t) {height width : Nat}
    (hh : height ≤ r.rowCount) (hw : width ≤ r.colCount) :
    s.block r.first.row r.first.col height width = t.block r.first.row r.first.col height width :=
  block_congr fun _ hi _ hj =>
    h.cellAt_eq (Range.covers_offset r (Nat.lt_of_lt_of_le hi hh) (Nat.lt_of_lt_of_le hj hw))

theorem AgreeOn.clippedValues_eq {r : Range} (h : s.AgreeOn [r] t) (limit : Nat) :
    s.clippedValues limit r = t.clippedValues limit r := by
  have hh : min (r.last.row + 1) t.rowCount - r.first.row ≤ r.rowCount := by
    simp only [Range.rowCount]; omega
  have hw : min (r.last.col + 1) t.colCount - r.first.col ≤ r.colCount := by
    simp only [Range.colCount]; omega
  simp only [clippedValues, h.rows, h.cols, h.block_eq hh hw]

theorem AgreeOn.rangeValues_eq {r : Range} (h : s.AgreeOn [r] t) (limit : Nat) :
    s.rangeValues limit r = t.rangeValues limit r := by
  simp only [rangeValues, h.clippedValues_eq limit, h.block_eq (Nat.le_refl _) (Nat.le_refl _)]

end Sheet

namespace Formula.Expr

variable {s t : Sheet} {o : EvaluationOptions}

theorem arrayArgument_congr (e : Expr) (d : Depth) (h : s.AgreeOn e.references t)
    (value : Unit → Except DepthExceeded Value) :
    e.arrayArgument ⟨s, o⟩ d value = e.arrayArgument ⟨t, o⟩ d value := by
  cases e with
  | range r => simp only [arrayArgument, h.rangeValues_eq]
  | reference a => simp only [arrayArgument, h.valueAt_eq]
  | _ => simp only [arrayArgument]

mutual

theorem eval_congr (e : Expr) (d : Depth) (h : s.AgreeOn e.references t) :
    e.eval ⟨s, o⟩ d = e.eval ⟨t, o⟩ d := by
  cases e with
  | literal c => simp only [eval]
  | reference a => simp only [eval, Sheet.AgreeOn.valueAt_eq h]
  | range r => simp only [eval]
  | name n => simp only [eval]
  | binary op l r =>
    simp only [references] at h
    simp only [eval, eval_congr l d.enterNode h.left, eval_congr r d.enterNode h.right]
  | unary op x =>
    simp only [references] at h
    simp only [eval, eval_congr x d.enterNode h]
  | call f args =>
    simp only [references] at h
    simp only [eval, delayList_congr args d.enterNode.enterCall h]
  | array rows =>
    simp only [references] at h
    simp only [eval, evalRows_congr rows d.enterNode h]

/-- The delayed arguments are the same closures, so a function cannot tell the sheets apart. -/
theorem delayList_congr (es : List Expr) (d : Depth) (h : s.AgreeOn (referencesOfList es) t) :
    delayList ⟨s, o⟩ d es = delayList ⟨t, o⟩ d es := by
  cases es with
  | nil => simp only [delayList]
  | cons e es =>
    simp only [referencesOfList] at h
    simp only [delayList, eval_congr e d h.left, arrayArgument_congr e d h.left,
      delayList_congr es d h.right]

theorem evalRow_congr (es : List Expr) (d : Depth) (h : s.AgreeOn (referencesOfList es) t) :
    evalRow ⟨s, o⟩ d es = evalRow ⟨t, o⟩ d es := by
  cases es with
  | nil => simp only [evalRow]
  | cons e es =>
    simp only [referencesOfList] at h
    simp only [evalRow, eval_congr e d h.left, evalRow_congr es d h.right]

theorem evalRows_congr (rows : List (List Expr)) (d : Depth)
    (h : s.AgreeOn (referencesOfRows rows) t) :
    evalRows ⟨s, o⟩ d rows = evalRows ⟨t, o⟩ d rows := by
  cases rows with
  | nil => simp only [evalRows]
  | cons row rows =>
    simp only [referencesOfRows] at h
    simp only [evalRows, evalRow_congr row d h.left, evalRows_congr rows d h.right]

end

end Formula.Expr

/-- An evaluation reads only what the references of its expression cover. -/
theorem Sheet.evaluate_eq_of_agreeOn {s t : Sheet} {e : Formula.Expr}
    (h : s.AgreeOn e.references t) (o : EvaluationOptions) : s.evaluate o e = t.evaluate o e :=
  e.eval_congr .top h

/-- A sum over `A1:B2` is blind to what stands in the third column. -/
theorem Sheet.evaluate_block_blind :
    let block : Formula.Expr := .call "SUM" [.range ⟨.relative 0 0, .relative 1 1⟩]
    let s : Sheet := ⟨[], #[#[.boolean true, .text "a", .blank], #[.text "b"]]⟩
    let t : Sheet := ⟨["x"], #[#[.boolean true, .text "a", .text "c"], #[.text "b"]]⟩
    s.cellAt 0 2 ≠ t.cellAt 0 2 ∧ s.AgreeOn block.references t ∧
      s.evaluate .standard block = t.evaluate .standard block := by
  intro block s t
  have agree : s.AgreeOn block.references t := by
    refine ⟨rfl, rfl, fun ⟨row, col⟩ ⟨r, hr, hp⟩ => ?_⟩
    obtain rfl : r = ⟨.relative 0 0, .relative 1 1⟩ := by
      simpa [block, Formula.Expr.references, Formula.Expr.referencesOfList] using hr
    have hbounds : row ≤ 1 ∧ col ≤ 1 := by
      simpa [Range.covers, Address.relative] using hp
    obtain ⟨hrow, hcol⟩ := hbounds
    interval_cases row <;> interval_cases col <;> rfl
  exact ⟨by simp [s, t, cellAt], agree, evaluate_eq_of_agreeOn agree .standard⟩

end Spreadsheet
