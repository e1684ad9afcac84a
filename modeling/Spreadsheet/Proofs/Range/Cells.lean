import Spreadsheet.Proofs.Address.Notation
import Spreadsheet.Proofs.Position
import Spreadsheet.Proofs.Range.Corners

/-! Ranges as sets of cells. The corners, the cells listed row by row, their number and the text of a
range all stand for one rectangle. -/

namespace Spreadsheet.Range

open Text

variable {r : Range} {a b x : Address}

/-! ### Cells -/

theorem contains_iff : r.contains x = true ↔
    (r.first.row ≤ x.row ∧ x.row ≤ r.last.row) ∧ r.first.col ≤ x.col ∧ x.col ≤ r.last.col := by
  simp only [contains, Bool.and_eq_true, decide_eq_true_eq, and_assoc]

theorem contains_ofCorners : (ofCorners a b).contains x = true ↔
    (min a.row b.row ≤ x.row ∧ x.row ≤ max a.row b.row) ∧
      min a.col b.col ≤ x.col ∧ x.col ≤ max a.col b.col := by
  rw [contains_iff, row_first_ofCorners, row_last_ofCorners, col_first_ofCorners, col_last_ofCorners]

theorem cells_ofCorners_comm (a b : Address) : (ofCorners b a).cells = (ofCorners a b).cells := by
  simp only [cells, rowCount, colCount, row_first_ofCorners, row_last_ofCorners, col_first_ofCorners,
    col_last_ofCorners, Nat.min_comm b.row, Nat.max_comm b.row, Nat.min_comm b.col, Nat.max_comm b.col]

theorem mem_cells (hr : r.WellFormed) : x.position ∈ r.cells.map Address.position ↔
    r.contains x = true := by
  have hrows := hr.rows
  have hcols := hr.cols
  simp only [contains_iff, cells, rowCount, colCount, List.map_flatMap, List.map_map, List.mem_flatMap,
    List.mem_map, List.mem_range, Function.comp_apply, Address.position, Address.relative,
    Position.mk.injEq]
  constructor
  · rintro ⟨i, hi, j, hj, hrow, hcol⟩
    omega
  · rintro ⟨hrow, hcol⟩
    exact ⟨x.row - r.first.row, by omega, x.col - r.first.col, by omega, by omega, by omega⟩

/-- The cells of a range come row by row, and each row from left to right. -/
theorem pairwise_cells (r : Range) :
    (r.cells.map Address.position).Pairwise fun p q => p.isBefore q = true := by
  have hascending (first n : Nat) : (List.range n).Pairwise (first + · < first + ·) :=
    List.pairwise_lt_range.imp fun h => Nat.add_lt_add_left h first
  rw [cells, List.map_flatMap]
  refine Position.pairwise_flatMap_rows (hascending r.first.row r.rowCount) ?_ ?_
  · intro i _ p hp
    simp only [List.map_map, List.mem_map] at hp
    obtain ⟨j, -, rfl⟩ := hp
    rfl
  · intro i _
    rw [List.map_map, List.pairwise_map]
    exact hascending r.first.col r.colCount

theorem length_cells (r : Range) : r.cells.length = r.cellCount := by
  simp [cells, cellCount]

/-- The number of cells in words: of 32 bits for rows and columns, of 64 bits for their product. -/
def cellCount? (r : Range) : Option Nat := do
  Word.mul? 64 (← Word.span? r.first.row r.last.row) (← Word.span? r.first.col r.last.col)

theorem cellCount?_eq (hr : r.WellFormed) : r.cellCount? = some r.cellCount := by
  rw [cellCount?, hr.span?_row, hr.span?_col]
  exact hr.mul?_counts

/-! ### Text -/

theorem ne_colon_of_mem_toText {c : Char} (h : c ∈ a.toText.toList) : (c != ':') = true := by
  rw [bne_iff_ne]
  rintro rfl
  rcases Address.isAlphanum_or_eq_of_mem h with h | h
  · exact absurd h (by decide)
  · exact absurd h (by decide)

theorem toList_cornersText (r : Range) :
    r.cornersText.toList = r.first.toText.toList ++ ':' :: r.last.toText.toList := by
  simp [cornersText]

theorem splitColon_toText (a : Address) : splitColon a.toText = none := by
  have hnot : ¬a.toText.toList.contains ':' = true := by
    rw [List.contains_iff_mem]
    exact fun h => absurd (ne_colon_of_mem_toText h) (by decide)
  exact if_neg hnot

theorem splitColon_cornersText (r : Range) :
    splitColon r.cornersText = some (r.first.toText, r.last.toText) := by
  have hfirst : ∀ c ∈ r.first.toText.toList, (c != ':') = true := fun _ => ne_colon_of_mem_toText
  have hstops : StopsAt (· != ':') (':' :: r.last.toText.toList) := stopsAt_cons rfl
  have hmem : r.cornersText.toList.contains ':' = true := by simp [toList_cornersText]
  rw [splitColon, if_pos hmem, toList_cornersText, takeWhile_append_of_stopsAt hfirst hstops,
    dropWhile_append_of_stopsAt hfirst hstops, List.tail_cons, String.ofList_toList,
    String.ofList_toList]

theorem trim_cornersText (r : Range) : Text.trim r.cornersText = r.cornersText := by
  have hblank {c : Char} (h : c ∈ r.cornersText.toList) : isBlank c = false := by
    rw [toList_cornersText, List.mem_append, List.mem_cons] at h
    rcases h with h | rfl | h
    · exact Address.isBlank_of_mem_toText h
    · rfl
    · exact Address.isBlank_of_mem_toText h
  have hstart : StopsAt isBlank r.cornersText.toList := stopsAt_of_forall fun _ => hblank
  have hend : StopsAt isBlank r.cornersText.toList.reverse :=
    stopsAt_of_forall fun _ h => hblank (List.mem_reverse.mp h)
  rw [Text.trim, trimChars_eq_self hstart hend, String.ofList_toList]

/-- The text of a range reads back as the range, with all four dollar signs. -/
theorem parse_toText (hr : r.WellFormed) : Range.parse r.toText = .ok r := by
  have hfirst := Address.parse_toText hr.first
  have hlast := Address.parse_toText hr.last
  rw [toText]
  by_cases hsame : r.first = r.last
  · have hsingle : single r.first = r := by
      unfold single
      nth_rewrite 2 [hsame]
      rfl
    simp only [if_pos hsame, Range.parse, Address.trim_toText, splitColon_toText, hfirst]
    exact congrArg Except.ok hsingle
  · simp only [if_neg hsame, Range.parse, trim_cornersText, splitColon_cornersText, hfirst, hlast]
    exact congrArg Except.ok (ofCorners_eq hr)

/-- The range between two corners of a sheet is one rectangle, whichever way it is looked at. -/
theorem ofCorners_consistent (ha : a.isValid = true) (hb : b.isValid = true) :
    (ofCorners a b).WellFormed ∧
    ((ofCorners b a).cells = (ofCorners a b).cells ∧
      ∀ x, (ofCorners b a).contains x = (ofCorners a b).contains x) ∧
    (∀ x, (ofCorners a b).contains x = true ↔
      (min a.row b.row ≤ x.row ∧ x.row ≤ max a.row b.row) ∧
        min a.col b.col ≤ x.col ∧ x.col ≤ max a.col b.col) ∧
    (∀ x, (ofCorners a b).contains x = true ↔
      x.position ∈ (ofCorners a b).cells.map Address.position) ∧
    ((ofCorners a b).cells.map Address.position).Pairwise (fun p q => p.isBefore q = true) ∧
    (ofCorners a b).cells.length = (ofCorners a b).cellCount ∧
    (ofCorners a b).cellCount? = some (ofCorners a b).cellCount ∧
    Range.parse (ofCorners a b).toText = .ok (ofCorners a b) := by
  have hr := wellFormed_ofCorners ha hb
  refine ⟨hr, ⟨cells_ofCorners_comm a b, fun x => Bool.eq_iff_iff.mpr ?_⟩, fun x => contains_ofCorners,
    fun x => (mem_cells hr).symm, pairwise_cells _, length_cells _, cellCount?_eq hr, parse_toText hr⟩
  rw [contains_ofCorners, contains_ofCorners, Nat.min_comm b.row, Nat.max_comm b.row,
    Nat.min_comm b.col, Nat.max_comm b.col]

/-- `$C1` and `A$3`: each dollar sign stays with its row or column. -/
theorem ofCorners_consistent_crossed :
    let a : Address := ⟨0, 2, false, true⟩
    let b : Address := ⟨2, 0, true, false⟩
    a.isValid = true ∧ b.isValid = true ∧
      Range.parse (ofCorners a b).toText = .ok ⟨⟨0, 0, false, false⟩, ⟨2, 2, true, true⟩⟩ := by
  intro a b
  have ha : a.isValid = true := by decide
  have hb : b.isValid = true := by decide
  obtain ⟨-, -, -, -, -, -, -, htext⟩ := ofCorners_consistent ha hb
  exact ⟨ha, hb, htext⟩

end Spreadsheet.Range
