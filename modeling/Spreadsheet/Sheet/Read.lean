import Spreadsheet.Sheet
import Spreadsheet.Value

/-! Reading values from a sheet for formulas: single cells, and ranges as arrays. A range with too
many cells is cut to the rows and columns in use. -/

namespace Spreadsheet.Sheet

def outside (text : String) : Value := .error (.reference s!"{text} is outside the sheet")

/-- The value at an address. -/
def valueAt (s : Sheet) (a : Address) : Value :=
  if a.isValid then .ofCell (s.get a) else outside a.toText

/-- The values of a rectangle, row by row. -/
def block (s : Sheet) (top left height width : Nat) : Value :=
  .array ((List.range height).map fun i =>
    (List.range width).map fun j => .ofCell (s.cellAt (top + i) (left + j)))

/-- The values of a range of which the rows and columns behind those in use are left out. -/
def clippedValues (s : Sheet) (limit : Nat) (r : Range) : Value :=
  let height := min (r.last.row + 1) s.rowCount - r.first.row
  let width := min (r.last.col + 1) s.colCount - r.first.col
  if height = 0 ∨ width = 0 then .array []
  else if limit < height * width then
    .error (.value s!"range {r.toText} has more than {limit} cells")
  else s.block r.first.row r.first.col height width

/-- The values of a range, which is cut when it has more than `limit` cells. -/
def rangeValues (s : Sheet) (limit : Nat) (r : Range) : Value :=
  if !r.first.isValid || !r.last.isValid then outside r.toText
  else if limit < r.cellCount then s.clippedValues limit r
  else s.block r.first.row r.first.col r.rowCount r.colCount

end Spreadsheet.Sheet
