import Spreadsheet.Proofs.Formula.WellFormed
import Spreadsheet.Proofs.Sheet.Cells
import Spreadsheet.Sheet.Read

/-! Ranges read from a sheet. What is left out of a range that is cut is blank, a range is rejected
for the number of its cells in use alone, and the counts fit the words that they are computed in. -/

namespace Spreadsheet

namespace Sheet

/-- The values of a range, with all arithmetic on words: of 32 bits for rows and columns, of 64 bits
for numbers of cells. -/
def rangeValues? (s : Sheet) (limit : Nat) (r : Range) : Option Value :=
  if !r.first.isValid || !r.last.isValid then some (outside r.toText)
  else do
    let height ← Word.span? r.first.row r.last.row
    let width ← Word.span? r.first.col r.last.col
    if limit < (← Word.mul? 64 height width) then
      if Word.saturate 32 s.rowCount ≤ r.first.row ∨ Word.saturate 32 s.colCount ≤ r.first.col then
        return .array []
      let height ← Word.usedSpan? r.first.row r.last.row s.rowCount
      let width ← Word.usedSpan? r.first.col r.last.col s.colCount
      if limit < (← Word.mul? 64 height width) then
        return .error (.value s!"range {r.toText} has more than {limit} cells")
      return s.block r.first.row r.first.col height width
    return s.block r.first.row r.first.col height width

/-- How many cells of a range lie in the used range of a sheet. -/
def usedCount (s : Sheet) (r : Range) : Nat :=
  r.cells.countP fun a => s.usedRange?.any (·.contains a)

/-- A table of values that shows a range of a sheet from its first cell on and leaves out nothing but
blanks. -/
structure Shows (s : Sheet) (r : Range) (g : List (List Value)) : Prop where
  height : g.length ≤ r.rowCount
  width : ∃ width ≤ r.colCount, ∀ row ∈ g, row.length = width
  entry : ∀ i j (v : Value), (g[i]?.bind (·[j]?)) = some v →
    v = .ofCell (s.cellAt (r.first.row + i) (r.first.col + j))
  blank : ∀ a, r.contains a = true →
    g[a.row - r.first.row]?.bind (·[a.col - r.first.col]?) = none → s.get a = .blank

/-- The rows and columns of a range that stand in front of the end of those in use. -/
def usedHeight (s : Sheet) (r : Range) : Nat := min (r.last.row + 1) s.rowCount - r.first.row

def usedWidth (s : Sheet) (r : Range) : Nat := min (r.last.col + 1) s.colCount - r.first.col

/-- The pairs of a rectangle that are counted are those of the counted rows and columns. -/
theorem countP_rectangle {α β γ : Type} {f : α → β → γ} {p : γ → Bool} {rows : α → Bool}
    {cols : β → Bool} (h : ∀ a b, p (f a b) = (rows a && cols b)) (as : List α) (bs : List β) :
    (as.flatMap fun a => bs.map (f a)).countP p = as.countP rows * bs.countP cols := by
  induction as with
  | nil => simp
  | cons a as ih =>
    have hrow : (bs.map (f a)).countP p = if rows a then bs.countP cols else 0 := by
      rw [List.countP_map]
      cases hrows : rows a <;> simp [Function.comp_def, h, hrows]
    rw [List.flatMap_cons, List.countP_append, ih, hrow, List.countP_cons]
    split
    · rw [Nat.add_mul, Nat.one_mul, Nat.add_comm]
    · rw [Nat.add_zero, Nat.zero_add]

theorem countP_range_lt (first n m : Nat) :
    (List.range n).countP (fun i => decide (first + i < m)) = min n (m - first) := by
  induction n with
  | zero => simp
  | succ n ih =>
    rw [List.range_succ, List.countP_append, ih, List.countP_singleton]
    simp only [decide_eq_true_eq]
    split <;> omega

theorem usedCount_eq {r : Range} (hr : r.WellFormed) (s : Sheet) :
    s.usedCount r = s.usedHeight r * s.usedWidth r := by
  have hrows := hr.rows
  have hcols := hr.cols
  have hheight : min r.rowCount (s.rowCount - r.first.row) = s.usedHeight r := by
    rw [Range.rowCount, usedHeight]
    omega
  have hwidth : min r.colCount (s.colCount - r.first.col) = s.usedWidth r := by
    rw [Range.colCount, usedWidth]
    omega
  have hused (i j : Nat) :
      s.usedRange?.any (·.contains (.relative (r.first.row + i) (r.first.col + j))) =
        (decide (r.first.row + i < s.rowCount) && decide (r.first.col + j < s.colCount)) :=
    s.any_usedRange? _
  rw [usedCount, Range.cells, countP_rectangle hused, countP_range_lt, countP_range_lt, hheight,
    hwidth]

theorem getElem?_block {α : Type} (f : Nat → Nat → α) (height width i j : Nat) :
    (((List.range height).map fun i => (List.range width).map (f i))[i]?.bind (·[j]?)) =
      if i < height ∧ j < width then some (f i j) else none := by
  rw [List.getElem?_map]
  by_cases hi : i < height
  · rw [List.getElem?_range hi, Option.map_some, Option.bind_some, List.getElem?_map]
    by_cases hj : j < width
    · rw [List.getElem?_range hj, Option.map_some, if_pos ⟨hi, hj⟩]
    · rw [List.getElem?_eq_none (by simpa using hj), Option.map_none, if_neg fun h => hj h.2]
  · rw [List.getElem?_eq_none (by simpa using hi), Option.map_none, Option.bind_none,
      if_neg fun h => hi h.1]

/-- The first rows and columns of a range show it when all cells behind them are blank. -/
theorem exists_shows_block {s : Sheet} {r : Range} {height width : Nat}
    (hheight : height ≤ r.rowCount) (hwidth : width ≤ r.colCount)
    (hblank : ∀ a, r.contains a = true →
      r.first.row + height ≤ a.row ∨ r.first.col + width ≤ a.col → s.get a = .blank) :
    ∃ g, s.block r.first.row r.first.col height width = .array g ∧ s.Shows r g ∧
      g.length = height ∧ ∀ row ∈ g, row.length = width := by
  let cell (i j : Nat) := Value.ofCell (s.cellAt (r.first.row + i) (r.first.col + j))
  have hrows : ∀ row ∈ (List.range height).map (fun i => (List.range width).map (cell i)),
      row.length = width := by simp
  refine ⟨(List.range height).map fun i => (List.range width).map (cell i), rfl, ?_, by simp, hrows⟩
  constructor
  · simpa using hheight
  · exact ⟨width, hwidth, hrows⟩
  · intro i j v hv
    rw [getElem?_block] at hv
    split at hv
    · exact (Option.some.inj hv).symm
    · cases hv
  · intro a ha hnone
    have hfirst : r.first.row ≤ a.row ∧ r.first.col ≤ a.col := by
      simp only [Range.contains, Bool.and_eq_true, decide_eq_true_eq] at ha
      omega
    rw [getElem?_block] at hnone
    split at hnone
    · cases hnone
    · exact hblank a ha (by omega)

theorem shows_nil {s : Sheet} {r : Range} (hblank : ∀ a, r.contains a = true → s.get a = .blank) :
    s.Shows r [] where
  height := Nat.zero_le _
  width := ⟨0, Nat.zero_le _, by simp⟩
  entry := by simp
  blank a ha _ := hblank a ha

section

variable {s : Sheet} {limit : Nat} {r : Range} (hr : r.WellFormed)
include hr

theorem rangeValues_eq : s.rangeValues limit r =
    if limit < r.cellCount then
      if s.usedHeight r = 0 ∨ s.usedWidth r = 0 then .array []
      else if limit < s.usedCount r then
        .error (.value s!"range {r.toText} has more than {limit} cells")
      else s.block r.first.row r.first.col (s.usedHeight r) (s.usedWidth r)
    else s.block r.first.row r.first.col r.rowCount r.colCount := by
  rw [rangeValues, hr.isInside, usedCount_eq hr]
  rfl

/-- No arithmetic leaves the words that it is done in. -/
theorem rangeValues?_eq : s.rangeValues? limit r = some (s.rangeValues limit r) := by
  have hrows := hr.rows
  have hcols := hr.cols
  have hrow := hr.row_lt
  have hcol := hr.col_lt
  rw [maxRows] at hrow
  rw [maxColumns] at hcol
  have hempty : Word.saturate 32 s.rowCount ≤ r.first.row ∨ Word.saturate 32 s.colCount ≤ r.first.col ↔
      s.usedHeight r = 0 ∨ s.usedWidth r = 0 :=
    or_congr (Word.saturate_le_iff hrows (by omega)) (Word.saturate_le_iff hcols (by omega))
  rw [rangeValues_eq hr, rangeValues?, hr.isInside, hr.span?_row, hr.span?_col, usedCount_eq hr]
  simp only [Option.bind_eq_bind, Option.bind_some, hr.mul?_counts, hempty, Bool.false_eq_true,
    if_false]
  by_cases hlimit : limit < r.cellCount
  · rw [if_pos hlimit, if_pos hlimit]
    by_cases hnone : s.usedHeight r = 0 ∨ s.usedWidth r = 0
    · rw [if_pos hnone, if_pos hnone]
      rfl
    · have husedHeight : Word.usedSpan? r.first.row r.last.row s.rowCount = some (s.usedHeight r) :=
        Word.usedSpan?_eq (by omega) fun h => hnone (.inl h)
      have husedWidth : Word.usedSpan? r.first.col r.last.col s.colCount = some (s.usedWidth r) :=
        Word.usedSpan?_eq (by omega) fun h => hnone (.inr h)
      have hused : Word.mul? 64 (s.usedHeight r) (s.usedWidth r) =
          some (s.usedHeight r * s.usedWidth r) :=
        Word.mul?_eq (by rw [usedHeight, maxRows]; omega) (by rw [usedWidth, maxColumns]; omega)
      rw [if_neg hnone, if_neg hnone, husedHeight, husedWidth]
      simp only [Option.bind_some, hused]
      split <;> rfl
  · rw [if_neg hlimit, if_neg hlimit]
    rfl

/-- A range that is not rejected is shown, and in full unless it has too many cells. -/
theorem exists_shows_rangeValues (h : ¬(limit < r.cellCount ∧ limit < s.usedCount r)) :
    ∃ g, s.rangeValues limit r = .array g ∧ s.Shows r g ∧
      (r.cellCount ≤ limit → g.length = r.rowCount ∧ ∀ row ∈ g, row.length = r.colCount) := by
  have hrows := hr.rows
  have hcols := hr.cols
  have hinside (a : Address) (ha : r.contains a = true) :
      a.row ≤ r.last.row ∧ a.col ≤ r.last.col ∧ r.first.row ≤ a.row ∧ r.first.col ≤ a.col := by
    simp only [Range.contains, Bool.and_eq_true, decide_eq_true_eq] at ha
    omega
  rw [rangeValues_eq hr]
  by_cases hlimit : limit < r.cellCount
  · have hnot : ¬limit < s.usedCount r := fun hused => h ⟨hlimit, hused⟩
    have hfull : r.cellCount ≤ limit → False := Nat.not_le.mpr hlimit
    rw [if_pos hlimit, if_neg hnot]
    split
    · rename_i hnone
      refine ⟨[], rfl, shows_nil fun a ha => cellAt_of_outside ?_, fun h => (hfull h).elim⟩
      have := hinside a ha
      rw [usedHeight, usedWidth] at hnone
      omega
    · have hheight : s.usedHeight r ≤ r.rowCount := by
        rw [usedHeight, Range.rowCount]
        omega
      have hwidth : s.usedWidth r ≤ r.colCount := by
        rw [usedWidth, Range.colCount]
        omega
      obtain ⟨g, hg, hshows, -⟩ := exists_shows_block (s := s) hheight hwidth
        fun a ha houtside => cellAt_of_outside (by
          have := hinside a ha
          rw [usedHeight, usedWidth] at houtside
          omega)
      exact ⟨g, hg, hshows, fun h => (hfull h).elim⟩
  · obtain ⟨g, hg, hshows, hheight, hwidth⟩ := exists_shows_block (s := s) (r := r) le_rfl le_rfl
      fun a ha houtside => by
        have := hinside a ha
        rw [Range.rowCount, Range.colCount] at houtside
        omega
    rw [if_neg hlimit]
    exact ⟨g, hg, hshows, fun _ => ⟨hheight, hwidth⟩⟩

/-- Reading a range is exact. It is an error if and only if both the range and its part in the used
range have more cells than the limit; otherwise the values show the range, all of it if its cells do
not exceed the limit. No number leaves the words that it is computed in. -/
theorem rangeValues_exact (s : Sheet) (limit : Nat) :
    (s.rangeValues limit r = .error (.value s!"range {r.toText} has more than {limit} cells") ↔
      limit < r.cellCount ∧ limit < s.usedCount r) ∧
    (¬(limit < r.cellCount ∧ limit < s.usedCount r) →
      ∃ g, s.rangeValues limit r = .array g ∧ s.Shows r g ∧
        (r.cellCount ≤ limit → g.length = r.rowCount ∧ ∀ row ∈ g, row.length = r.colCount)) ∧
    s.rangeValues? limit r = some (s.rangeValues limit r) := by
  refine ⟨⟨fun herror => ?_, fun ⟨hlimit, hused⟩ => ?_⟩, exists_shows_rangeValues hr,
    rangeValues?_eq hr⟩
  · by_contra h
    obtain ⟨g, hg, -⟩ := exists_shows_rangeValues hr h
    rw [hg] at herror
    cases herror
  · have hne : ¬(s.usedHeight r = 0 ∨ s.usedWidth r = 0) := by
      rw [usedCount_eq hr] at hused
      rintro (hzero | hzero) <;> simp [hzero] at hused
    rw [rangeValues_eq hr, if_pos hlimit, if_neg hne, if_pos hused]

end

/-- `B1:D4` on two rows, the second one shorter: twelve cells, four of them in the used range. -/
theorem rangeValues_exact_ragged :
    let s : Sheet := ⟨[], #[#[.boolean true, .text "a", .text "b"], #[.boolean false]]⟩
    let r : Range := ⟨.relative 0 1, .relative 3 3⟩
    r.WellFormed ∧ (∃ g, s.rangeValues 4 r = .array g ∧ s.Shows r g) ∧
      s.rangeValues 3 r = .error (.value s!"range {r.toText} has more than {3} cells") := by
  intro s r
  have hr : r.WellFormed := ⟨by decide, by decide, by decide, by decide⟩
  have hcount : s.usedCount r = 4 := by decide
  obtain ⟨-, hshows, -⟩ := rangeValues_exact hr s 4
  obtain ⟨hrejected, -⟩ := rangeValues_exact hr s 3
  obtain ⟨g, hg, hg', -⟩ := hshows (by rw [hcount]; omega)
  exact ⟨hr, ⟨g, hg, hg'⟩, hrejected.mpr ⟨by decide, by rw [hcount]; omega⟩⟩

end Sheet

end Spreadsheet
