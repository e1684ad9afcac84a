import Spreadsheet.Function.Definition

/-! Reading the arguments of functions: single values by position, the elements of arrays, and the
numbers that an aggregation takes from its arguments. -/

namespace Spreadsheet

namespace Function

/-- The answer of an eager function. -/
abbrev Answer := Except CellError Value

/-- A function without arguments. -/
def constant (v : Value) (_ : List Value) : Answer := .ok v

def argument (args : List Value) (index : Nat) : Except CellError Value :=
  match args[index]? with
  | some v => .ok v
  | none => .error (.value "missing argument")

/-- An argument that may be left out; a blank counts as left out. -/
def optional {α : Type} (read : Value → Except CellError α) (args : List Value) (index : Nat)
    (default : α) : Except CellError α :=
  match args[index]? with
  | none | some .blank => .ok default
  | some v => read v

def numberArg (args : List Value) (index : Nat) : Except CellError Float := do
  (← argument args index).toNumber

def optNumber (args : List Value) (index : Nat) (default : Float) : Except CellError Float :=
  optional Value.toNumber args index default

/-- A number without its fraction. -/
def wholeArg (args : List Value) (index : Nat) : Except CellError Float :=
  (numberArg args index).map Number.trunc

def optWhole (args : List Value) (index : Nat) (default : Float) : Except CellError Float :=
  (optNumber args index default).map Number.trunc

/-- A number as the integer that is left without its fraction. -/
def intArg (args : List Value) (index : Nat) : Except CellError Int :=
  (numberArg args index).map Number.truncToInt

def optInt (args : List Value) (index : Nat) (default : Float) : Except CellError Int :=
  (optNumber args index default).map Number.truncToInt

def boolArg (args : List Value) (index : Nat) : Except CellError Bool := do
  (← argument args index).toBool

def optBool (args : List Value) (index : Nat) (default : Bool) : Except CellError Bool :=
  optional Value.toBool args index default

def textArg (args : List Value) (index : Nat) : Except CellError String := do
  (← argument args index).toText

/-- The elements of an array row by row; any other value is its own only element. -/
def elements (v : Value) : List Value := v.toRows.flatten

/-- Height and width of a value seen as an array, whose first row decides on the width. -/
def dimensions (v : Value) : Nat × Nat :=
  let rows := v.toRows
  (rows.length, (rows.headD []).length)

/-- The first `n` elements of a list, and none in place of those that it does not have. -/
def fit {α : Type} (n : Nat) (xs : List α) : List (Option α) :=
  (xs.take n).map some ++ List.replicate (n - xs.length) none

/-- The elements of an array at the positions of a shape, row by row; none where it has none. -/
def elementsWithin (shape : Nat × Nat) (v : Value) : List (Option Value) :=
  (fit shape.1 v.toRows).flatMap fun row => fit shape.2 (row.getD [])

def elementAt? (v : Value) (row col : Nat) : Option Value := (v.toRows[row]?).bind (·[col]?)

/-- Which elements of arrays an aggregation takes. -/
inductive Collect where
  | numbers
  | values
  deriving DecidableEq

/-- The number that an array element adds: only numbers count, or also truth values, and texts as
0. -/
def collectElement (mode : Collect) : Value → Except CellError (Option Float)
  | .number x => .ok (some x)
  | .error e => .error e
  | .boolean b => .ok (if mode = .values then some (if b then 1 else 0) else none)
  | .text _ => .ok (if mode = .values then some 0 else none)
  | _ => .ok none

/-- The numbers of one argument: a blank has none, another single value must be a number. -/
def collectArgument (mode : Collect) : Value → Except CellError (List Float)
  | .array rows => do return (← rows.flatten.mapM (collectElement mode)).filterMap id
  | .blank => .ok []
  | v => do return [← v.toNumber]

/-- The numbers of all arguments in order. -/
def collectNumbers (mode : Collect) (args : List Value) : Except CellError (List Float) := do
  return (← args.mapM (collectArgument mode)).flatten

/-- The numbers of an array, or of a single value. -/
def arrayNumbers (v : Value) : Except CellError (List Float) := collectNumbers .numbers [v]

end Function

end Spreadsheet
