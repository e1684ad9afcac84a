import Spreadsheet.Function.Aggregate
import Spreadsheet.Function.Criteria

/-! Conditional aggregations: sums, counts and means over the positions that meet criteria. -/

namespace Spreadsheet.Function

/-- The numbers of a selection; an error in it is the error of the whole. -/
def selectedNumbers (vs : List Value) : Except CellError (List Float) := do
  return (← vs.mapM (collectElement .numbers)).filterMap id

/-- For each position of a shape, whether the element that a range has there meets a criterion. -/
def met (shape : Nat × Nat) (range : Value) (criterion : Criterion) : List Bool :=
  (elementsWithin shape range).map fun v => v.any criterion.isMet

/-- The elements of a target at the positions of a shape that are marked. -/
def selected (shape : Nat × Nat) (target : Value) (marks : List Bool) : List Value :=
  ((elementsWithin shape target).zip marks).filterMap fun (v, b) => if b then v else none

/-- For each position of the range in the first argument, whether the criterion in the second one
is met there. -/
def metBy (args : List Value) : Except CellError (List Bool) := do
  let range ← argument args 0
  return met (dimensions range) range (.ofValue (← argument args 1))

/-- The elements of the target, by default the range itself, at which the criterion is met. -/
def selectedBy (args : List Value) : Except CellError (List Value) := do
  let range ← argument args 0
  return selected (dimensions range) ((args[2]?).getD range) (← metBy args)

def sumIf (args : List Value) : Answer := do
  return .number (sum (← selectedNumbers (← selectedBy args)))

def averageIf (args : List Value) : Answer := do
  return .number (← mean (← selectedNumbers (← selectedBy args)))

def countIf (args : List Value) : Answer := do
  return count ((← metBy args).count true)

/-- Arguments taken as pairs of a range and a criterion; none when one is left over. -/
def criteriaPairs? : List Value → Option (List (Value × Criterion))
  | [] => some []
  | [_] => none
  | range :: c :: rest => (criteriaPairs? rest).map ((range, Criterion.ofValue c) :: ·)

/-- For each position of a shape, whether all criteria are met there. -/
def allMet (shape : Nat × Nat) (pairs : List Value) : Except CellError (List Bool) :=
  match criteriaPairs? pairs with
  | none | some [] => .error (.value "criteria ranges and criteria must come in pairs")
  | some pairs =>
    if pairs.any fun (range, _) => dimensions range != shape then
      .error (.value "all ranges must have the same size")
    else
      .ok ((pairs.map fun (range, criterion) => met shape range criterion).foldl
        (List.zipWith (· && ·)) (List.replicate (shape.1 * shape.2) true))

/-- The elements of the first argument at which the criteria of the others are met. -/
def selectedByAll (args : List Value) : Except CellError (List Value) := do
  let target ← argument args 0
  let shape := dimensions target
  return selected shape target (← allMet shape args.tail)

def sumIfs (args : List Value) : Answer := do
  return .number (sum (← selectedNumbers (← selectedByAll args)))

def averageIfs (args : List Value) : Answer := do
  return .number (← mean (← selectedNumbers (← selectedByAll args)))

def countIfs (args : List Value) : Answer := do
  return count ((← allMet (dimensions (← argument args 0)) args).count true)

end Spreadsheet.Function
