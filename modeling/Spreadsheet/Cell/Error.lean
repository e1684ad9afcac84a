import Spreadsheet.Text.Blank

/-! Error values of cells: seven kinds, each with a code text, a number and a name, and an optional
detail that explains the error but takes no part in comparisons. -/

namespace Spreadsheet

inductive ErrorKind where
  | nullIntersection
  | divideByZero
  | invalidValue
  | invalidReference
  | nameNotFound
  | numericError
  | notAvailable
  deriving DecidableEq, Repr

namespace ErrorKind

/-- All kinds, in the order of their numbers. -/
def all : List ErrorKind :=
  [nullIntersection, divideByZero, invalidValue, invalidReference, nameNotFound, numericError,
    notAvailable]

def code : ErrorKind → String
  | nullIntersection => "#NULL!"
  | divideByZero => "#DIV/0!"
  | invalidValue => "#VALUE!"
  | invalidReference => "#REF!"
  | nameNotFound => "#NAME?"
  | numericError => "#NUM!"
  | notAvailable => "#N/A"

def toNat : ErrorKind → Nat
  | nullIntersection => 1
  | divideByZero => 2
  | invalidValue => 3
  | invalidReference => 4
  | nameNotFound => 5
  | numericError => 6
  | notAvailable => 7

def name : ErrorKind → String
  | nullIntersection => "NullIntersection"
  | divideByZero => "DivideByZero"
  | invalidValue => "InvalidValue"
  | invalidReference => "InvalidReference"
  | nameNotFound => "NameNotFound"
  | numericError => "NumericError"
  | notAvailable => "NotAvailable"

/-- The kind whose code a text spells, in any case of letters. -/
def ofCode? (s : String) : Option ErrorKind := all.find? fun kind => Text.sameAscii kind.code s

end ErrorKind

structure CellError where
  kind : ErrorKind
  detail : Option String
  deriving DecidableEq, Repr

namespace CellError

def plain (kind : ErrorKind) : CellError := ⟨kind, none⟩

def detailed (kind : ErrorKind) (detail : String) : CellError := ⟨kind, some detail⟩

def value (detail : String) : CellError := detailed .invalidValue detail

def num (detail : String) : CellError := detailed .numericError detail

def reference (detail : String) : CellError := detailed .invalidReference detail

def unknownName (detail : String) : CellError := detailed .nameNotFound detail

def notAvailable (detail : String) : CellError := detailed .notAvailable detail

def divideByZero : CellError := plain .divideByZero

/-- Errors are the same when their kinds are. -/
def same (e f : CellError) : Bool := e.kind == f.kind

end CellError

end Spreadsheet
