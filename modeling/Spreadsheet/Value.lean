import Spreadsheet.Cell
import Spreadsheet.Number.Reading
import Spreadsheet.Text.Case

/-! Values of expressions: what a cell can hold, and rectangular arrays of values. The coercions
give the number, truth value or text that a value stands for, or the error that it causes. -/

namespace Spreadsheet

inductive Value where
  | blank
  | number (x : Float)
  | text (s : String)
  | boolean (b : Bool)
  | error (e : CellError)
  | array (rows : List (List Value))
  deriving Inhabited

namespace Value

def ofCell : Cell → Value
  | .blank => blank
  | .boolean b => boolean b
  | .number x => number x
  | .text s => text s
  | .error e => error e

/-- The cell that stores a value; an array has none. -/
def toCell : Value → Cell
  | blank => .blank
  | number x => .number x
  | text s => .text s
  | boolean b => .boolean b
  | error e => .error e
  | array _ =>
    .error (.value "array result cannot be stored in a single cell")

def ofError (kind : ErrorKind) : Value := error (.plain kind)

def isBlank : Value → Bool
  | blank => true
  | _ => false

def asError? : Value → Option CellError
  | error e => some e
  | _ => none

def isError (v : Value) : Bool := v.asError?.isSome

def arrayUsedAsScalar : CellError :=
  .value "array used where a single value is expected"

/-- The number in arithmetic: a truth value counts as 1 or 0, a blank as 0, a text as the number
that it spells. -/
def toNumber : Value → Except CellError Float
  | number x => .ok x
  | boolean b => .ok (if b then 1 else 0)
  | blank => .ok 0
  | text s =>
    match Number.ofText? s with
    | some x => .ok x
    | none => .error (.value s!"'{s}' is not a number")
  | error e => .error e
  | array _ => .error arrayUsedAsScalar

/-- The truth value in logic: any number but 0 is true, a blank is false. -/
def toBool : Value → Except CellError Bool
  | boolean b => .ok b
  | number x => .ok (x != 0)
  | blank => .ok false
  | text s =>
    let t := Text.trim s
    if Text.sameAscii t "TRUE" then .ok true
    else if Text.sameAscii t "FALSE" then .ok false
    else .error (.value s!"'{t}' is not a logical value")
  | error e => .error e
  | array _ => .error arrayUsedAsScalar

/-- The text of any value, as a concatenation shows it. -/
def display : Value → String
  | number x => Number.format x
  | text s => s
  | boolean b => booleanText b
  | error e => e.kind.code
  | blank => ""
  | array _ => ErrorKind.invalidValue.code

def toText : Value → Except CellError String
  | error e => .error e
  | array _ => .error arrayUsedAsScalar
  | v => .ok v.display

/-- The rows of an array; any other value is an array of one element. -/
def toRows : Value → List (List Value)
  | array rows => rows
  | v => [[v]]

def typeName : Value → String
  | blank => "blank"
  | number _ => "number"
  | text _ => "text"
  | boolean _ => "boolean"
  | error _ => "error"
  | array _ => "array"

end Value

end Spreadsheet
