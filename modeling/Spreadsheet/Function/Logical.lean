import Spreadsheet.Function.Arguments
import Spreadsheet.Value.Order

/-! Logical functions. Those that choose among their arguments evaluate no more of them than the
choice needs. -/

namespace Spreadsheet.Function

/-- The outcome of a test: a truth value, or the error that the test is or causes. -/
def condition : Value → Except CellError Bool := Value.toBool

/-- The result of evaluating the first argument left, blank when there is none. -/
def firstResult : List Delayed → Except DepthExceeded Value
  | a :: _ => a.result
  | [] => .ok .blank

def ifThenElse : List Delayed → Except DepthExceeded Value
  | test :: rest => do
    match condition (← test.value ()) with
    | .error e => return .error e
    | .ok true => firstResult rest
    | .ok false =>
      match rest with
      | _ :: other :: _ => other.result
      | _ => return .boolean false
  | [] => .ok .blank

def noTestTrue : Value := .error (.notAvailable "no condition was TRUE")

/-- Goes through pairs of a test and its result. -/
def firstTrue : List Delayed → Except DepthExceeded Value
  | test :: result :: rest => do
    match condition (← test.value ()) with
    | .error e => return .error e
    | .ok true => result.result
    | .ok false => firstTrue rest
  | _ => .ok noTestTrue

def ifs (args : List Delayed) : Except DepthExceeded Value :=
  if args.length % 2 = 0 then firstTrue args
  else .ok (.error (.value "IFS expects test/value pairs"))

/-- Values match when they have one type and compare as equal. -/
def matchesCase (a b : Value) : Bool := a.typeName == b.typeName && a.compare b == .eq

def noCaseMatches : Value := .error (.notAvailable "no value matched")

/-- Goes through pairs of a case and its result; an argument left over is the default. -/
def firstCase (v : Value) : List Delayed → Except DepthExceeded Value
  | case :: result :: rest => do
    match ← case.value () with
    | .error e => return .error e
    | w => if matchesCase v w then result.result else firstCase v rest
  | [other] => other.result
  | [] => .ok noCaseMatches

def switch : List Delayed → Except DepthExceeded Value
  | a :: cases => do
    match ← a.value () with
    | .error e => return .error e
    | v => firstCase v cases
  | [] => .ok noCaseMatches

/-- The first argument, unless it is an error for which the next one stands in. -/
def replaceError (handled : CellError → Bool) : List Delayed → Except DepthExceeded Value
  | a :: rest => do
    match ← a.result with
    | .error e => if handled e then firstResult rest else return .error e
    | v => return v
  | [] => .ok .blank

/-- The truth value that an array element adds; texts and blanks add none. -/
def logicalElement : Value → Except CellError (Option Bool)
  | .boolean b => .ok (some b)
  | .number x => .ok (some (x != 0))
  | .error e => .error e
  | _ => .ok none

def logicalArgument : Value → Except CellError (List Bool)
  | .array rows => do return (← rows.flatten.mapM logicalElement).filterMap id
  | .blank => .ok []
  | v => do return [← v.toBool]

/-- All truth values of the arguments, of which there must be one. -/
def logicalValues (args : List Value) : Except CellError (List Bool) := do
  let values := (← args.mapM logicalArgument).flatten
  if values.isEmpty then .error (.value "no logical values") else return values

def logical (f : List Bool → Bool) (args : List Value) : Answer := do
  return .boolean (f (← logicalValues args))

def isOdd (values : List Bool) : Bool := values.count true % 2 == 1

def negation (args : List Value) : Answer := do return .boolean !(← boolArg args 0)

end Spreadsheet.Function
