import Spreadsheet.Number.Reading

/-! JSON numbers. Integers of at most 64 bits stay exact. Every other literal is read as its leading
digits, as many as 64 bits hold, times a single power of ten, each step rounded to a double; the
result may therefore miss the nearest double in its last place. -/

namespace Spreadsheet.Json

inductive JsonNumber where
  | integer (i : Int)
  | float (x : Float)

namespace JsonNumber

def toFloat : JsonNumber → Float
  | integer i => Number.ofInt i
  | float x => x

/-- Digits read into a significand; `dropped` counts those that no longer fitted. -/
structure Significand where
  value : Nat
  dropped : Nat
  full : Bool

def Significand.start : Significand := ⟨0, 0, false⟩

/-- Integers of 64 bits are below this limit. -/
def wordLimit : Nat := 0x10000000000000000

/-- Appends a digit, unless an earlier one or this one does not fit into 64 bits. -/
def Significand.push (s : Significand) (c : Char) : Significand :=
  let next := s.value * 10 + Number.digitValue c
  if s.full || wordLimit ≤ next then { s with dropped := s.dropped + 1, full := true }
  else { s with value := next }

/-- The greatest exponent that is computed with; a greater one decides the value alone. -/
def maxExponent : Nat := 2147483647

/-- Multiplies by ten to the power of `e`, in steps of 308 toward zero while that is too small a
power to have; none when the result is infinite. -/
def scaled (x : Float) (e : Int) : (fuel : Nat) → Option Float
  | 0 => some 0
  | fuel + 1 =>
    if e.natAbs ≤ 308 then
      let power := Number.ofNat (Number.powerOfTen e.natAbs)
      if 0 ≤ e then some (x * power) |>.filter Number.isFinite else some (x / power)
    else if x == 0 then some x
    else if 0 ≤ e then none
    else scaled (x / 1e308) (e + 308) fuel

/-- The double that a significand and an exponent of ten stand for. -/
def compose (significand : Nat) (e : Int) : Option Float :=
  scaled (Number.ofNat significand) (max (-2147483648) (min 2147483647 e)) 5

/-- The parts of a literal: sign, integer digits, fraction digits and, if present, the sign and
digits of the exponent. -/
structure Literal where
  negative : Bool
  whole : List Char
  fraction : Option (List Char)
  exponent : Option (Bool × List Char)

/-- The significand of a literal and the power of ten that its point leaves. -/
def Literal.significand (l : Literal) : Nat × Int :=
  let whole := l.whole.foldl Significand.push Significand.start
  let after := (l.fraction.getD []).foldl Significand.push { whole with full := false }
  let used := (l.fraction.getD []).length - (after.dropped - whole.dropped)
  (after.value, (whole.dropped : Int) - used)

def Literal.toFloat? (l : Literal) : Option Float :=
  let (value, place) := l.significand
  let magnitude? :=
    match l.exponent with
    | none => compose value place
    | some (negative, ds) =>
      let e := Number.ofDigits ds
      if maxExponent < e then if value != 0 && !negative then none else some 0
      else compose value (if negative then place - e else place + e)
  magnitude?.map (Number.withSign l.negative)

/-- The number that a literal stands for, unless it is beyond the range of doubles. -/
def ofLiteral? (l : Literal) : Option JsonNumber :=
  let whole := Number.ofDigits l.whole
  let fits := if l.negative then 0 < whole && whole ≤ Number.signBit else whole < wordLimit
  if l.fraction.isNone && l.exponent.isNone && fits then
    some (.integer (Number.applySign l.negative whole))
  else if l.fraction.isNone && l.exponent.isNone && whole < wordLimit then
    some (.float (Number.withSign l.negative (Number.ofNat whole)))
  else l.toFloat?.map .float

end JsonNumber

end Spreadsheet.Json
