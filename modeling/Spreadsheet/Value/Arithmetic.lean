import Spreadsheet.Value.Order

/-! Arithmetic on values: what operators do with operands that are no errors. -/

namespace Spreadsheet.Value

def notFinite : CellError := .num "result is not a finite number"

/-- A number as the result of arithmetic, which must be finite. -/
def ofResult (x : Float) : Except CellError Value :=
  if Number.isFinite x then .ok (number x) else .error notFinite

def divide (x y : Float) : Except CellError Float :=
  if y == 0 then .error .divideByZero else .ok (x / y)

/-- A power, where zero has no powers that are zero or negative and a negative number none that
are fractions. -/
def power (base exponent : Float) : Except CellError Float :=
  if base == 0 && exponent == 0 then .error (.num "0^0 is undefined")
  else if base == 0 && exponent < 0 then .error .divideByZero
  else if base < 0 && !Number.isWhole exponent then
    .error (.num "negative base with a fractional exponent")
  else .ok (base.pow exponent)

/-- Applies an operation to the numbers of two operands, of which the left one is read first. -/
def arithmetic (f : Float → Float → Except CellError Float) (a b : Value) :
    Except CellError Value := do
  let x ← a.toNumber
  let y ← b.toNumber
  ofResult (← f x y)

def concat (a b : Value) : Except CellError Value := do
  let s ← a.toText
  let t ← b.toText
  return text (s ++ t)

def isArray : Value → Bool
  | array _ => true
  | _ => false

def compareWith (c : Comparison) (a b : Value) : Except CellError Value :=
  if a.isArray || b.isArray then .error (.value "cannot compare an array")
  else .ok (boolean (c.holds (a.compare b)))

end Spreadsheet.Value
