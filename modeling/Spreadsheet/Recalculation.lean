import Spreadsheet.Evaluation
import Spreadsheet.Formula.Parser
import Spreadsheet.Graph.Cycle

/-! Recalculation of a sheet. Every formula cell is replaced by the value of its formula on the
resulting sheet; a formula that does not parse counts as `#VALUE!`, and a cell on a cycle of
references as `#REF!`. -/

namespace Spreadsheet

structure CalculationOptions where
  /-- Whether texts that start with an equals sign are formulas. -/
  formulaCells : Bool
  evaluation : EvaluationOptions
  deriving DecidableEq, Repr

def CalculationOptions.standard : CalculationOptions := ⟨true, .standard⟩

structure CalculationStats where
  formulaCount : Nat
  /-- The number of cells whose formula was evaluated. -/
  cellsCalculated : Nat
  circularReferences : Nat
  /-- The number of formula cells that became errors. -/
  errors : Nat
  deriving DecidableEq, Repr

namespace Sheet

def setAt (s : Sheet) (p : Position) (c : Cell) : Sheet := s.set p.row p.col c

def setAll (s : Sheet) (cells : List (Position × Cell)) : Sheet :=
  cells.foldl (fun s (p, c) => s.setAt p c) s

/-- The formula cells, row by row, with what their texts parse to. -/
def formulas (s : Sheet) : List (Position × Except Formula.ParseError Formula.Expr) :=
  s.toList.filterMap fun (a, c) => c.formulaText?.map fun text => (a.position, Formula.parse text)

def parsed (s : Sheet) : List (Position × Formula.Expr) :=
  s.formulas.filterMap fun (p, r) => r.toOption.map (p, ·)

/-- The error value of a formula cell that does not parse. -/
def malformed (e : Formula.ParseError) : Cell := .error (.value e.message)

def unparsed (s : Sheet) : List (Position × Cell) :=
  s.formulas.filterMap fun
    | (p, .error e) => some (p, malformed e)
    | (_, .ok _) => none

def circular : Cell := .error (.reference "circular reference")

/-- Evaluates formulas one after the other and stores the results; also the number of those that
are errors. -/
def calculate (o : EvaluationOptions) (s : Sheet) :
    List (Position × Formula.Expr) → Except DepthExceeded (Sheet × Nat)
  | [] => .ok (s, 0)
  | (p, e) :: rest => do
    let c := (← s.evaluate o e).toCell
    let (result, errors) ← calculate o (s.setAt p c) rest
    return (result, if c.isError then errors + 1 else errors)

/-- Recalculates the formula cells of a sheet. -/
def recalculate (s : Sheet) (o : CalculationOptions) :
    Except DepthExceeded (Sheet × CalculationStats) :=
  if !o.formulaCells then .ok (s, ⟨0, 0, 0, 0⟩)
  else do
    let parsed := s.parsed
    let unparsed := s.unparsed
    let graph := Graph.ofFormulas parsed
    let cycles := graph.cycleMembers
    let due := (graph.order (parsed.map Prod.fst)).filterMap fun p =>
      if cycles.contains p then none else (parsed.lookup p).map (p, ·)
    let start := (s.setAll unparsed).setAll (cycles.map (·, circular))
    let (result, errors) ← start.calculate o.evaluation due
    return (result, ⟨parsed.length + unparsed.length, due.length, cycles.length,
      errors + unparsed.length + cycles.length⟩)

end Sheet

end Spreadsheet
