import Spreadsheet.Function.Aggregate
import Spreadsheet.Number.Power
import Spreadsheet.Number.Special
import Spreadsheet.Value.Arithmetic

/-! Mathematical functions. -/

namespace Spreadsheet.Function

/-- A function of the number in the first argument. -/
def unary (f : Float → Except CellError Float) (args : List Value) : Answer := do
  return .number (← f (← numberArg args 0))

/-- A function of one number that has a value everywhere. -/
def unaryTotal (f : Float → Float) : List Value → Answer := unary fun x => .ok (f x)

/-- The number to round and the number of digits, which more than 308 on either side do not
change. -/
def roundingArgs (args : List Value) : Except CellError (Float × Int) := do
  let x ← numberArg args 0
  let digits ← optInt args 1 0
  return (x, max (-308) (min 308 digits))

/-- The most digits behind the point to which rounding makes a difference. -/
def maxDigits : Int := 15

def signum (x : Float) : Float := if Number.isNegative x then -1 else 1

/-- The distance between 1 and the next double. -/
def epsilon : Float := 2.220446049250313e-16

/-- Rounds the magnitude of a number scaled by a power of ten, after raising it by a few units in
the last place, so that a number rounds like the decimal it was typed as. -/
def roundScaled (part : Float → Float) (args : List Value) : Answer := do
  let (x, digits) ← roundingArgs args
  if maxDigits < digits then return .number x
  else
    let multiplier := Number.powInt 10 digits
    let scaled := x.abs * multiplier
    return .number (signum x * part (scaled + scaled * epsilon * 4) / multiplier)

def roundHalfUp (x : Float) : Float := Number.floor (x + 0.5)

/-- Rounds away from zero, the noise of a small scaled number being taken off first. -/
def roundUp (args : List Value) : Answer := do
  let (x, digits) ← roundingArgs args
  if maxDigits < digits then return .number x
  else
    let multiplier := Number.powInt 10 digits
    let scaled := x.abs * multiplier
    let cleaned := if scaled < 1e6 then Number.round (scaled * 1e9) / 1e9 else scaled
    return .number (signum x * Number.ceil cleaned / multiplier)

/-- The remainder of a division rounded down, which has the sign of the divisor. -/
def modulo (args : List Value) : Answer := do
  let x ← numberArg args 0
  let divisor ← numberArg args 1
  if divisor == 0 then .error .divideByZero
  else
    let remainder := x - divisor * Number.floor (x / divisor)
    return .number (if remainder == divisor then 0 else remainder)

def power (args : List Value) : Answer := do
  let x ← numberArg args 0
  let y ← numberArg args 1
  return .number (← Value.power x y)

def squareRoot (x : Float) : Except CellError Float :=
  if x < 0 then .error (.num "square root of a negative number") else .ok x.sqrt

/-- A function of an angle, which must be less than 2 ^ 27. -/
def ofAngle (f : Float → Float) (x : Float) : Except CellError Float :=
  if 134217728 ≤ x.abs then .error (.num "angle is too large") else .ok (f x)

def ofUnitInterval (f : Float → Float) (x : Float) : Except CellError Float :=
  if -1 ≤ x && x ≤ 1 then .ok (f x) else .error (.num "argument must be between -1 and 1")

def arcTangent2 (args : List Value) : Answer := do
  let x ← numberArg args 0
  let y ← numberArg args 1
  if x == 0 && y == 0 then .error .divideByZero else return .number (Float.atan2 y x)

def toDegrees (x : Float) : Float := x * (180 / Number.pi)

def toRadians (x : Float) : Float := x * (Number.pi / 180)

def positive (x : Float) : Except CellError Float :=
  if x ≤ 0 then .error (.num "logarithm of a non-positive number") else .ok x

def ofPositive (f : Float → Float) (x : Float) : Except CellError Float := (positive x).map f

def logarithm (args : List Value) : Answer := do
  let x ← positive (← numberArg args 0)
  let base ← positive (← optNumber args 1 10)
  if base == 1 then .error .divideByZero else return .number (x.log / base.log)

def sign (x : Float) : Float := if 0 < x then 1 else if x < 0 then -1 else 0

/-- The number and the significance of a rounding to multiples. -/
def significanceArgs (args : List Value) : Except CellError (Float × Float) := do
  let x ← numberArg args 0
  let significance ← optNumber args 1 1
  if 0 < x && significance < 0 then
    .error (.num "number and significance have different signs")
  else return (x, significance)

def ceiling (args : List Value) : Answer := do
  let (x, significance) ← significanceArgs args
  if significance == 0 then return .number 0
  else return .number (Number.ceil (x / significance) * significance)

def floor (args : List Value) : Answer := do
  let (x, significance) ← significanceArgs args
  if significance == 0 then .error .divideByZero
  else return .number (Number.floor (x / significance) * significance)

/-- A product multiplied by one more element; what is no number makes it zero. -/
def multiplyElement (x : Float) : Value → Except CellError Float
  | .number y => .ok (x * y)
  | .error e => .error e
  | _ => .ok 0

/-- Multiplies products by elements one by one; products beyond the last element stay. -/
def multiplyElements (xs : List Float) (vs : List Value) : Except CellError (List Float) := do
  return (← (xs.zip vs).mapM fun (x, v) => multiplyElement x v) ++ xs.drop vs.length

def sumProduct (args : List Value) : Answer := do
  let shape := dimensions (← argument args 0)
  if args.any fun v => dimensions v != shape then
    .error (.value "arrays must have the same dimensions")
  else
    let products ← (args.map elements).foldlM multiplyElements
      (List.replicate (shape.1 * shape.2) 1)
    return .number (sum products)

/-- Operands of bitwise functions are below this limit. -/
def bitLimit : Nat := 0x1000000000000

def bitOperand (args : List Value) (index : Nat) : Except CellError Nat := do
  let x ← numberArg args index
  let n := Number.truncToInt x
  if 0 ≤ n ∧ n < bitLimit ∧ Number.isWhole x then return n.toNat
  else .error (.num "bitwise operands must be integers in 0..2^48")

def bitwise (f : Nat → Nat → Nat) (args : List Value) : Answer := do
  let a ← bitOperand args 0
  let b ← bitOperand args 1
  return count (f a b)

/-- Shifts by a number of bits, to the left when `amount` and `direction` have one sign. -/
def shift (direction : Int) (args : List Value) : Answer := do
  let n ← bitOperand args 0
  let amount := (← intArg args 1) * direction
  if 53 < amount.natAbs then .error (.num "shift amount must be between -53 and 53")
  else
    let shifted := if 0 ≤ amount then n <<< amount.natAbs else n >>> amount.natAbs
    if bitLimit ≤ shifted then .error (.num "shifted value exceeds 2^48") else return count shifted

end Spreadsheet.Function
