import Spreadsheet.Address

/-! Rectangular ranges of cells such as `A1:B10`, written with the top left corner first. -/

namespace Spreadsheet

structure Range where
  first : Address
  last : Address
  deriving DecidableEq, Repr, Inhabited

namespace Range

/-- The smaller of two indices with its absolute marker, then the other one. -/
def ordered (a b : Nat × Bool) : (Nat × Bool) × (Nat × Bool) :=
  if a.1 ≤ b.1 then (a, b) else (b, a)

/-- The range between two opposite corners, given in any order. -/
def ofCorners (a b : Address) : Range :=
  let (top, bottom) := ordered (a.row, a.rowAbsolute) (b.row, b.rowAbsolute)
  let (left, right) := ordered (a.col, a.colAbsolute) (b.col, b.colAbsolute)
  ⟨⟨top.1, left.1, top.2, left.2⟩, ⟨bottom.1, right.1, bottom.2, right.2⟩⟩

def single (a : Address) : Range := ⟨a, a⟩

/-- Splits a text at its first colon. -/
def splitColon (s : String) : Option (String × String) :=
  let cs := s.toList
  if cs.contains ':' then
    some (String.ofList (cs.takeWhile (· != ':')), String.ofList (cs.dropWhile (· != ':')).tail)
  else none

def parse (s : String) : Except AddressError Range :=
  let text := Text.trim s
  let corner (part : String) : Except AddressError Address :=
    (Address.parse part).mapError (.invalidRange text)
  match splitColon text with
  | some (a, b) => do return ofCorners (← corner a) (← corner b)
  | none => (Address.parse text).map single

def rowCount (r : Range) : Nat := r.last.row - r.first.row + 1

def colCount (r : Range) : Nat := r.last.col - r.first.col + 1

def cellCount (r : Range) : Nat := r.rowCount * r.colCount

def isSingle (r : Range) : Bool := r.rowCount == 1 && r.colCount == 1

def contains (r : Range) (a : Address) : Bool :=
  r.first.row ≤ a.row && a.row ≤ r.last.row && r.first.col ≤ a.col && a.col ≤ r.last.col

/-- The addresses of a range, row by row. -/
def cells (r : Range) : List Address :=
  (List.range r.rowCount).flatMap fun i =>
    (List.range r.colCount).map fun j => .relative (r.first.row + i) (r.first.col + j)

/-- The first `n` addresses of a range. -/
def firstCells (r : Range) (n : Nat) : List Address :=
  (List.range (min n r.cellCount)).map fun k =>
    .relative (r.first.row + k / r.colCount) (r.first.col + k % r.colCount)

def cornersText (r : Range) : String := r.first.toText ++ ":" ++ r.last.toText

/-- The text of a range; when both corners are alike it is that of one address. -/
def toText (r : Range) : String := if r.first = r.last then r.first.toText else r.cornersText

end Range

end Spreadsheet
