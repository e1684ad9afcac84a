import Spreadsheet.Cell
import Spreadsheet.Range

/-! Sheets: column headers and rows of cells. Rows may differ in length; a position that no row
reaches is blank. -/

namespace Spreadsheet

structure Sheet where
  headers : List String
  rows : Array (Array Cell)
  deriving Inhabited

namespace Sheet

def empty : Sheet := ⟨[], #[]⟩

/-- A table as a sheet: the headers, unless there are none, are also its first row. -/
def ofTable (headers : List String) (rows : List (List Cell)) : Sheet :=
  let header := if headers.isEmpty then [] else [headers.map Cell.text]
  ⟨headers, ((header ++ rows).map List.toArray).toArray⟩

def rowCount (s : Sheet) : Nat := s.rows.size

/-- The length of the longest row. -/
def colCount (s : Sheet) : Nat := s.rows.foldl (fun n row => max n row.size) 0

def cellAt (s : Sheet) (row col : Nat) : Cell :=
  match s.rows[row]? with
  | some cells => cells[col]?.getD .blank
  | none => .blank

def get (s : Sheet) (a : Address) : Cell := s.cellAt a.row a.col

/-- Lengthens an array to at least `n` elements. -/
def padTo {α : Type} (n : Nat) (x : α) (xs : Array α) : Array α :=
  xs ++ Array.replicate (n - xs.size) x

/-- Writes a cell; missing rows are added empty, and the row written to is filled up with blanks. -/
def set (s : Sheet) (row col : Nat) (c : Cell) : Sheet :=
  { s with
    rows := (padTo (row + 1) #[] s.rows).modify row fun cells =>
      (padTo (col + 1) .blank cells).setIfInBounds col c }

/-- The first column with a header, blanks around it and case not counted. -/
def columnIndex? (s : Sheet) (header : String) : Option Nat :=
  s.headers.findIdx? fun h => Text.sameAscii (Text.trim h) (Text.trim header)

/-- The smallest range that holds every stored cell. -/
def usedRange? (s : Sheet) : Option Range :=
  if s.rowCount = 0 ∨ s.colCount = 0 then none
  else some (.ofCorners (.relative 0 0) (.relative (s.rowCount - 1) (s.colCount - 1)))

/-- The stored cells with their addresses, row by row. -/
def toList (s : Sheet) : List (Address × Cell) :=
  s.rows.toList.zipIdx.flatMap fun (row, i) =>
    row.toList.zipIdx.map fun (c, j) => (.relative i j, c)

end Sheet

end Spreadsheet
