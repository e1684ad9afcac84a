import Spreadsheet.Graph

/-! Cells on cycles of dependencies. A search goes along precedents and keeps the cells that it has
entered on a stack for as long as they may lead back to an earlier one. Cells that leave the stack
together lead to each other, and are on a cycle unless it is one cell that does not read itself. -/

namespace Spreadsheet.Graph

/-- A cell under search, with the precedents that are still to be looked at and the least number of
a cell on the stack that has been found from it. -/
structure Frame where
  cell : Position
  pending : List Position
  low : Nat

/-- The state of a search: the cells entered so far with their numbers, the stack, the path to the
cell where the search stands and the cells found on cycles, in each case the latest first. -/
structure Search where
  numbers : List (Position × Nat)
  stack : List Position
  path : List Frame
  cyclic : List Position

namespace Search

def start : Search := ⟨[], [], [], []⟩

def number? (s : Search) (p : Position) : Option Nat := s.numbers.lookup p

/-- Goes on to a cell that has no number yet. -/
def enter (g : Graph) (s : Search) (p : Position) : Search :=
  let number := s.numbers.length
  { s with
    numbers := (p, number) :: s.numbers
    stack := p :: s.stack
    path := ⟨p, g.precedents p, number⟩ :: s.path }

/-- Notes at the end of a path that a cell of some number has been found from there. -/
def lower (number : Nat) : List Frame → List Frame
  | [] => []
  | f :: path => { f with low := min f.low number } :: path

/-- Takes a cell off the stack, with all that lie on top of it. -/
def close (g : Graph) (s : Search) (p : Position) : Search :=
  let component := s.stack.takeWhile (· != p) ++ [p]
  let isCycle := 1 < component.length || (g.precedents p).contains p
  { s with
    stack := s.stack.drop component.length
    cyclic := if isCycle then component ++ s.cyclic else s.cyclic }

def moveTo (s : Search) (path : List Frame) : Search := { s with path }

/-- Looks at the next precedent of the cell where the search stands, or leaves the cell when there
is none. -/
def step (g : Graph) (s : Search) : Search :=
  match s.path with
  | [] => s
  | ⟨p, q :: pending, low⟩ :: path =>
    match s.number? q with
    | none => (s.moveTo (⟨p, pending, low⟩ :: path)).enter g q
    | some n =>
      s.moveTo (⟨p, pending, if s.stack.contains q then min low n else low⟩ :: path)
  | ⟨p, [], low⟩ :: path =>
    let t := s.moveTo (lower low path)
    if s.number? p = some low then t.close g p else t

/-- Searches from a cell, unless it has been entered before. -/
def visit (g : Graph) (fuel : Nat) (s : Search) (p : Position) : Search :=
  if (s.number? p).isSome then s else runUntil (·.path.isEmpty) (step g) fuel (s.enter g p)

end Search

/-- A search from all cells that read others. -/
def search (g : Graph) : Search := g.readers.foldl (Search.visit g g.walkSteps) .start

/-- The cells on cycles, in order. -/
def cycleMembers (g : Graph) : List Position := Position.sort g.search.cyclic

end Spreadsheet.Graph
