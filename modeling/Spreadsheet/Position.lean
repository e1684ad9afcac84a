import Spreadsheet.Range

/-! Positions of cells, ordered row by row. -/

namespace Spreadsheet

structure Position where
  row : Nat
  col : Nat
  deriving DecidableEq, Repr, Inhabited

/-- The position of an address, whatever its dollar signs. -/
def Address.position (a : Address) : Position := ⟨a.row, a.col⟩

/-- Whether a position lies between the corners of a range, in whatever order these are. -/
def Range.covers (r : Range) (p : Position) : Bool :=
  min r.first.row r.last.row ≤ p.row && p.row ≤ max r.first.row r.last.row &&
    min r.first.col r.last.col ≤ p.col && p.col ≤ max r.first.col r.last.col

namespace Position

def address (p : Position) : Address := .relative p.row p.col

/-- Whether a position comes first when rows are read from left to right. -/
def isBefore (p q : Position) : Bool := p.row < q.row || (p.row == q.row && p.col < q.col)

/-- Inserts a position into sorted positions, unless it is there. -/
def insert (p : Position) : List Position → List Position
  | [] => [p]
  | q :: qs => if p.isBefore q then p :: q :: qs else if p = q then q :: qs else q :: insert p qs

/-- Sorts positions and leaves repetitions out. -/
def sort (ps : List Position) : List Position := ps.foldr insert []

end Position

end Spreadsheet
