import Spreadsheet.Position
import Spreadsheet.Proofs.Word

/-! The corners of a range. Two corners in any order make a range whose first corner is above and to
the left of the last one. Its rows and columns are few enough to be counted in words. -/

namespace Spreadsheet.Range

/-- Both corners lie inside a sheet, the first one above and to the left of the last one. -/
structure WellFormed (r : Range) : Prop where
  first : r.first.isValid = true
  last : r.last.isValid = true
  rows : r.first.row ≤ r.last.row
  cols : r.first.col ≤ r.last.col

theorem ordered_eq (x y : Nat × Bool) :
    (ordered x y).1.1 = min x.1 y.1 ∧ (ordered x y).2.1 = max x.1 y.1 := by
  rw [ordered]
  split
  · rename_i h
    exact ⟨(Nat.min_eq_left h).symm, (Nat.max_eq_right h).symm⟩
  · rename_i h
    have hle := Nat.le_of_not_le h
    exact ⟨(Nat.min_eq_right hle).symm, (Nat.max_eq_left hle).symm⟩

section

variable (a b : Address)

@[simp]
theorem row_first_ofCorners : (ofCorners a b).first.row = min a.row b.row := (ordered_eq _ _).1

@[simp]
theorem row_last_ofCorners : (ofCorners a b).last.row = max a.row b.row := (ordered_eq _ _).2

@[simp]
theorem col_first_ofCorners : (ofCorners a b).first.col = min a.col b.col := (ordered_eq _ _).1

@[simp]
theorem col_last_ofCorners : (ofCorners a b).last.col = max a.col b.col := (ordered_eq _ _).2

end

variable {a b : Address} {r : Range}

theorem wellFormed_ofCorners (ha : a.isValid = true) (hb : b.isValid = true) :
    (ofCorners a b).WellFormed := by
  rw [Address.isValid_iff] at ha hb
  constructor
  · rw [Address.isValid_iff, row_first_ofCorners, col_first_ofCorners]
    omega
  · rw [Address.isValid_iff, row_last_ofCorners, col_last_ofCorners]
    omega
  · rw [row_first_ofCorners, row_last_ofCorners]
    omega
  · rw [col_first_ofCorners, col_last_ofCorners]
    omega

/-- The corners of a range in order make it again, with all dollar signs. -/
theorem ofCorners_eq (h : r.WellFormed) : ofCorners r.first r.last = r := by
  simp [ofCorners, ordered, h.rows, h.cols]

namespace WellFormed

variable (hr : r.WellFormed)
include hr

theorem row_lt : r.last.row < maxRows := (Address.isValid_iff.mp hr.last).1

theorem col_lt : r.last.col < maxColumns := (Address.isValid_iff.mp hr.last).2

theorem isInside : (!r.first.isValid || !r.last.isValid) = false := by simp [hr.first, hr.last]

theorem span?_row : Word.span? r.first.row r.last.row = some r.rowCount :=
  Word.span?_eq hr.rows (Nat.lt_trans (Nat.succ_lt_succ hr.row_lt) (by decide))

theorem span?_col : Word.span? r.first.col r.last.col = some r.colCount :=
  Word.span?_eq hr.cols (Nat.lt_trans (Nat.succ_lt_succ hr.col_lt) (by decide))

theorem mul?_counts : Word.mul? 64 r.rowCount r.colCount = some r.cellCount := by
  have hrow := hr.row_lt
  have hcol := hr.col_lt
  apply Word.mul?_eq
  · rw [rowCount]
    omega
  · rw [colCount]
    omega

end WellFormed

end Spreadsheet.Range
