import Spreadsheet.Cell.Error
import Spreadsheet.Number.Decimal

/-! Cells: what a sheet stores at one position. -/

namespace Spreadsheet

inductive Cell where
  | blank
  | boolean (b : Bool)
  | number (x : Float)
  | text (s : String)
  | error (e : CellError)
  deriving Inhabited

def booleanText (b : Bool) : String := if b then "TRUE" else "FALSE"

namespace Cell

def isBlank : Cell → Bool
  | blank => true
  | _ => false

def isError : Cell → Bool
  | error _ => true
  | _ => false

def asNumber? : Cell → Option Float
  | number x => some x
  | boolean b => some (if b then 1 else 0)
  | _ => none

def asBool? : Cell → Option Bool
  | boolean b => some b
  | number x => some (x != 0)
  | _ => none

def asText? : Cell → Option String
  | text s => some s
  | _ => none

def asError? : Cell → Option CellError
  | error e => some e
  | _ => none

def typeName : Cell → String
  | blank => "blank"
  | boolean _ => "boolean"
  | number _ => "number"
  | text _ => "text"
  | error _ => "error"

/-- The text of a cell with all digits of a number. -/
def display : Cell → String
  | blank => ""
  | boolean b => booleanText b
  | number x => Number.display x
  | text s => s
  | error e => e.kind.code

/-- Equality of cells: numbers by value, errors by kind. -/
def same : Cell → Cell → Bool
  | blank, blank => true
  | boolean a, boolean b => a == b
  | number x, number y => x == y
  | text s, text t => s == t
  | error e, error f => e.same f
  | _, _ => false

instance : BEq Cell := ⟨same⟩

/-- A formula cell holds text that starts, after blanks, with an equals sign. -/
def formulaText? : Cell → Option String
  | text s => if (Text.trimStartChars s.toList).head? == some '=' then some s else none
  | _ => none

def isFormula (c : Cell) : Bool := c.formulaText?.isSome

end Cell

end Spreadsheet
