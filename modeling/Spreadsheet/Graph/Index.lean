import Spreadsheet.Position

/-! An index of cells: columns in ascending order, each with its rows in ascending order. The cells
that a range covers are found without a look at what lies to the right of it or below. -/

namespace Spreadsheet

abbrev CellIndex := List (Nat × List Nat)

namespace CellIndex

/-- Inserts a row into ascending rows, unless it is there. -/
def insertRow (row : Nat) : List Nat → List Nat
  | [] => [row]
  | r :: rows =>
    if row < r then row :: r :: rows
    else if row = r then r :: rows
    else r :: insertRow row rows

def insert (p : Position) : CellIndex → CellIndex
  | [] => [(p.col, [p.row])]
  | (col, rows) :: columns =>
    if p.col < col then (p.col, [p.row]) :: (col, rows) :: columns
    else if p.col = col then (col, insertRow p.row rows) :: columns
    else (col, rows) :: insert p columns

def ofPositions (ps : List Position) : CellIndex := ps.foldr insert []

/-- Of items in ascending order of their keys, those with keys between two bounds. -/
def between {α : Type} (key : α → Nat) (low high : Nat) (items : List α) : List α :=
  (items.dropWhile fun x => key x < low).takeWhile fun x => key x ≤ high

/-- The cells of an index that a range covers, whichever of its corners come first. -/
def within (columns : CellIndex) (r : Range) : List Position :=
  (between Prod.fst (min r.first.col r.last.col) (max r.first.col r.last.col) columns).flatMap
    fun (col, rows) =>
      (between id (min r.first.row r.last.row) (max r.first.row r.last.row) rows).map (⟨·, col⟩)

end CellIndex

end Spreadsheet
