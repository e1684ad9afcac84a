import Spreadsheet.Formula.Expr
import Spreadsheet.Tool.Descriptor

/-! Inputs of function tools: a JSON object that gives arguments by the names of parameters becomes
a call with literal arguments. -/

namespace Spreadsheet

/-- What is wrong with the input of a tool. -/
inductive InputFault where
  | malformed
  | noObject
  | unknownParameter (name : String)
  | emptyArray
  | badRows
  | nestedValue
  | unevenLists
  | badCount (detail : String)
  deriving DecidableEq, Repr

def InputFault.message : InputFault → String
  | malformed => "input does not have the expected fields"
  | noObject => "input must be an object"
  | unknownParameter name => s!"unknown parameter {name}"
  | emptyArray => "empty array"
  | badRows => "array rows must be non-empty and equally long"
  | nestedValue => "nested values must be scalars"
  | unevenLists => "repeating parameters need the same number of values"
  | badCount detail => detail

namespace Json

open Formula (Expr)

def scalar : Json → Except InputFault Expr
  | null => .ok (.literal .blank)
  | boolean b => .ok (.literal (.boolean b))
  | number n => .ok (.literal (.number n.toFloat))
  | text s => .ok (.literal (.text s))
  | array _ | object _ => .error .nestedValue

/-- The elements of each row, when all values are arrays. -/
def rowsOf? (elements : List Json) : Option (List (List Json)) :=
  elements.mapM fun
    | array row => some row
    | _ => none

/-- An argument: a list of rows is an array, any other list an array of one column. -/
def argument : Json → Except InputFault Expr
  | array [] => .error .emptyArray
  | array elements =>
    match rowsOf? elements with
    | some rows => do
      let values ← rows.mapM (·.mapM scalar)
      let width := (values.headD []).length
      if width = 0 ∨ values.any (·.length != width) then .error .badRows else .ok (.array values)
    | none => do return .array ((← elements.mapM scalar).map ([·]))
  | e => e.scalar

/-- The arguments for a repeating parameter. -/
def repeated : Option Json → List Json
  | none => []
  | some (array elements) => elements
  | some e => [e]

def membersOf : Json → Except InputFault (List (String × Json))
  | object members => .ok members
  | null => .ok []
  | _ => .error .noObject

end Json

namespace Function

open Formula (Expr)

/-- The number of fixed parameters up to the last one that is given. -/
def givenCount (f : Function) (members : List (String × Json)) : Nat :=
  let given := f.fixedParameters.reverse.dropWhile fun p => (members.lookup p.name).isNone
  given.length

def fixedArgument (members : List (String × Json)) (p : Parameter) : Except InputFault Expr :=
  match members.lookup p.name with
  | some e => e.argument
  | none => .ok (.literal .blank)

/-- The lists for the repeating parameters, which must be of one length. -/
def repeatedLists (f : Function) (members : List (String × Json)) :
    Except InputFault (List (List Json)) :=
  let lists := f.repeatedParameters.map fun p => Json.repeated (members.lookup p.name)
  let rounds := (lists.headD []).length
  if lists.any (·.length != rounds) then .error .unevenLists else .ok lists

/-- The elements of lists of one length in turn: the first ones, the second ones and so on. -/
def inTurn (lists : List (List Json)) : List Json :=
  (List.range (lists.headD []).length).flatMap fun i => lists.filterMap (·[i]?)

/-- The arguments that an object gives. Without arguments for repeating parameters, those behind the
last one given are left out. -/
def argumentsOf (f : Function) (members : List (String × Json)) :
    Except InputFault (List Expr) := do
  let fixed ← f.fixedParameters.mapM (fixedArgument members)
  let further := inTurn (← f.repeatedLists members)
  if further.isEmpty then return fixed.take (f.givenCount members)
  else return fixed ++ (← further.mapM Json.argument)

/-- The call that an input describes. -/
def callOf (f : Function) (input : Json) : Except InputFault Expr := do
  let members ← input.membersOf
  match members.find? fun (key, _) => f.parameters.all (·.name != key) with
  | some (key, _) => .error (.unknownParameter key)
  | none =>
    let args ← f.argumentsOf members
    match f.arityError? args.length with
    | some detail => .error (.badCount detail)
    | none => return .call f.name args

end Function

end Spreadsheet
