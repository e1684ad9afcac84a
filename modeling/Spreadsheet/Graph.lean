import Spreadsheet.Formula.Expr
import Spreadsheet.Graph.Index

/-! Dependencies between formula cells. A cell that reads another one depends on it; the cell read
is a precedent. The calculation order is a depth-first walk that lists a cell after its precedents. -/

namespace Spreadsheet

/-- What cells read and by what cells they are read, in each case as a map from a cell to a set. -/
structure Graph where
  reads : List (Position × List Position)
  readBy : List (Position × List Position)

namespace Graph

def empty : Graph := ⟨[], []⟩

/-- Adds a cell to the set that a map has for another cell. -/
def link (p q : Position) : List (Position × List Position) → List (Position × List Position)
  | [] => [(p, [q])]
  | (r, qs) :: rest =>
    if r = p then (r, Position.insert q qs) :: rest else (r, qs) :: link p q rest

def add (g : Graph) (precedent dependent : Position) : Graph :=
  ⟨link dependent precedent g.reads, link precedent dependent g.readBy⟩

/-- The graph that results when dependencies of cells, each on the one named first, are added. -/
def addAll (g : Graph) (dependencies : List (Position × Position)) : Graph :=
  dependencies.foldl (fun g (precedent, dependent) => g.add precedent dependent) g

/-- The dependencies between formula cells: on each cell that a reference covers, be it the cell of
the formula itself. Cells without a formula are left out. -/
def ofFormulas (formulas : List (Position × Formula.Expr)) : Graph :=
  let cells := CellIndex.ofPositions (formulas.map Prod.fst)
  empty.addAll <| formulas.flatMap fun (dependent, e) =>
    e.references.flatMap fun r => (cells.within r).map (·, dependent)

/-- The cells that a cell reads, in order. -/
def precedents (g : Graph) (p : Position) : List Position :=
  Position.sort ((g.reads.filter (·.1 = p)).flatMap Prod.snd)

/-- The cells that read a cell, in order. -/
def dependents (g : Graph) (p : Position) : List Position :=
  Position.sort ((g.readBy.filter (·.1 = p)).flatMap Prod.snd)

/-- The cells that read others, in order. -/
def readers (g : Graph) : List Position := Position.sort (g.reads.map Prod.fst)

/-- As many steps as a walk from one cell can take: it looks at each dependency once and leaves each
cell once. -/
def walkSteps (g : Graph) : Nat := g.readers.foldl (fun n p => n + 2 * (g.precedents p).length) 1

/-- Takes steps until a state is final, or the fuel is used up. -/
def runUntil {σ : Type} (isFinal : σ → Bool) (step : σ → σ) : (fuel : Nat) → σ → σ
  | 0, s => s
  | fuel + 1, s => if isFinal s then s else runUntil isFinal step fuel (step s)

/-- The state of a walk: the cells that it has entered, those that it has left again, and the path
to the cell where it stands, each with the precedents that are still to be looked at from there. In
each case the latest come first. -/
structure Walk where
  entered : List Position
  left : List Position
  path : List (Position × List Position)

namespace Walk

def start : Walk := ⟨[], [], []⟩

/-- Goes on to a cell that has not been entered yet. -/
def enter (g : Graph) (w : Walk) (p : Position) : Walk :=
  { w with
    entered := p :: w.entered
    path := (p, g.precedents p) :: w.path }

/-- Looks at the next precedent of the cell where the walk stands and enters it unless that has been
done, or leaves the cell when there is none. -/
def step (g : Graph) (w : Walk) : Walk :=
  match w.path with
  | [] => w
  | (p, q :: pending) :: path =>
    let w := { w with path := (p, pending) :: path }
    if w.entered.contains q then w else w.enter g q
  | (p, []) :: path => { w with left := p :: w.left, path }

/-- Walks from a cell, unless it has been entered before. -/
def visit (g : Graph) (fuel : Nat) (w : Walk) (p : Position) : Walk :=
  if w.entered.contains p then w else runUntil (·.path.isEmpty) (step g) fuel (w.enter g p)

end Walk

/-- A walk from the given cells in turn. -/
def walk (g : Graph) (cells : List Position) : Walk :=
  cells.foldl (Walk.visit g g.walkSteps) .start

/-- The cells to be calculated before and including the given ones, each after its precedents as
far as it is not on a cycle with them. -/
def order (g : Graph) (cells : List Position) : List Position := (g.walk cells).left.reverse

end Graph

end Spreadsheet
