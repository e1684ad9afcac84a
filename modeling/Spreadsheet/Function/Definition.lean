import Spreadsheet.Value

/-! Definitions of functions: name, category, parameters and how arguments are passed. An eager
function gets the values of its arguments, none of which is an error; a delayed one decides itself
which arguments are evaluated. -/

namespace Spreadsheet

/-- The limits on depth that end an evaluation. -/
inductive DepthKind where
  | functionCall
  | expression
  deriving DecidableEq, Repr

def DepthKind.name : DepthKind → String
  | functionCall => "function call"
  | expression => "expression"

structure DepthExceeded where
  kind : DepthKind
  limit : Nat
  deriving DecidableEq, Repr

def DepthExceeded.message (e : DepthExceeded) : String :=
  s!"Evaluation exceeded the maximum {e.kind.name} depth of {e.limit}"

/-- An argument before its evaluation: as a single value and as an array. -/
structure Delayed where
  value : Unit → Except DepthExceeded Value
  array : Unit → Except DepthExceeded Value
  isRange : Bool

/-- The argument as the result of a function, where a range gives all its cells. -/
def Delayed.result (a : Delayed) : Except DepthExceeded Value :=
  if a.isRange then a.array () else a.value ()

namespace Function

/-- How an argument is evaluated for a parameter. -/
inductive ArgKind where
  | scalar
  | array
  | delayed
  deriving DecidableEq, Repr

def ArgKind.name : ArgKind → String
  | scalar => "scalar"
  | array => "array"
  | delayed => "lazy"

structure Parameter where
  name : String
  kind : ArgKind
  deriving DecidableEq, Repr

def scalar (name : String) : Parameter := ⟨name, .scalar⟩

def array (name : String) : Parameter := ⟨name, .array⟩

def delayed (name : String) : Parameter := ⟨name, .delayed⟩

inductive Category where
  | aggregation
  | lookup
  | logical
  | information
  | date
  | financial
  | text
  | math
  | statistical
  deriving DecidableEq, Repr

namespace Category

def all : List Category :=
  [aggregation, lookup, logical, information, date, financial, text, math, statistical]

def name : Category → String
  | aggregation => "aggregation"
  | lookup => "lookup"
  | logical => "logical"
  | information => "information"
  | date => "date"
  | financial => "financial"
  | text => "text"
  | math => "math"
  | statistical => "statistical"

/-- The category that a text names, in any case of letters. -/
def ofName? (s : String) : Option Category := all.find? fun c => Text.sameAscii c.name (Text.trim s)

end Category

inductive Implementation where
  | eager (f : List Value → Except CellError Value)
  | delayed (f : List Delayed → Except DepthExceeded Value)

end Function

/-- A function. The last `repeating` parameters stand for all further arguments in turn; `maxArgs`
is none when there may be any number. -/
structure Function where
  name : String
  category : Function.Category
  minArgs : Nat
  maxArgs : Option Nat
  parameters : List Function.Parameter
  repeating : Nat
  implementation : Function.Implementation
  description : String

namespace Function

/-- The parameter for the argument at an index. -/
def parameter? (f : Function) (index : Nat) : Option Parameter :=
  let count := f.parameters.length
  if index < count then f.parameters[index]?
  else if f.repeating = 0 ∨ count < f.repeating then f.parameters.getLast?
  else
    let fixed := count - f.repeating
    f.parameters[fixed + (index - fixed) % f.repeating]?

def argKind (f : Function) (index : Nat) : ArgKind :=
  ((f.parameter? index).map Parameter.kind).getD .scalar

def isDelayed (f : Function) : Bool :=
  match f.implementation with
  | .delayed _ => true
  | .eager _ => false

/-- The complaint about a number of arguments that the function does not take. -/
def arityError? (f : Function) (count : Nat) : Option String :=
  if count < f.minArgs then
    some s!"{f.name} expects at least {f.minArgs} argument(s), got {count}"
  else
    match f.maxArgs with
    | some limit =>
      if limit < count then some s!"{f.name} expects at most {limit} argument(s), got {count}"
      else none
    | none => none

end Function

end Spreadsheet
