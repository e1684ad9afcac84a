import Spreadsheet.Function.Arguments

/-! Information functions. They look at the value of their argument, errors included. -/

namespace Spreadsheet.Function

def test (p : Value → Bool) : List Delayed → Except DepthExceeded Value
  | a :: _ => do return .boolean (p (← a.value ()))
  | [] => .ok (.boolean (p .blank))

def isErrorWith (p : ErrorKind → Bool) : Value → Bool
  | .error e => p e.kind
  | _ => false

def isNumber : Value → Bool
  | .number _ => true
  | _ => false

def isText : Value → Bool
  | .text _ => true
  | _ => false

def isLogical : Value → Bool
  | .boolean _ => true
  | _ => false

/-- The number of an error value. -/
def errorNumber : Value → Value
  | .error e => .number (Number.ofNat e.kind.toNat)
  | _ => .error (.notAvailable "value is not an error")

def errorType : List Delayed → Except DepthExceeded Value
  | a :: _ => do return errorNumber (← a.value ())
  | [] => .ok (errorNumber .blank)

def notAvailable (_ : List Value) : Answer := .error (.notAvailable "NA()")

end Spreadsheet.Function
