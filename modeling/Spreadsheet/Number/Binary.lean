/-! Doubles as exact binary fractions. `Parts` holds the sign, significand and exponent of a finite
double; integer parts, the order of doubles and the double nearest to a fraction are computed
from these parts in exact integer arithmetic. -/

namespace Spreadsheet.Number

/-- The finite double `± significand · 2 ^ exponent`. -/
structure Parts where
  negative : Bool
  significand : Nat
  exponent : Int
  deriving DecidableEq, Repr

def word (x : Float) : Nat := x.toBits.toNat

/-- The word in which only the bit of the sign is set. -/
def signBit : Nat := 0x8000000000000000

/-- The word in which only the lowest bit of the exponent is set; fractions are below it. -/
def exponentUnit : Nat := 0x10000000000000

/-- The exponent of infinities and of NaN, which is the greatest one. -/
def maxBiased : Nat := 2047

def isNegative (x : Float) : Bool := signBit ≤ word x

/-- The word without its sign. -/
def unsignedWord (x : Float) : Nat := word x % signBit

def biasedExponent (x : Float) : Nat := unsignedWord x / exponentUnit

def isFinite (x : Float) : Bool := biasedExponent x != maxBiased

def isZero (x : Float) : Bool := unsignedWord x == 0

/-- The parts of a finite double. -/
def parts (x : Float) : Parts :=
  let fraction := word x % exponentUnit
  match biasedExponent x with
  | 0 => ⟨isNegative x, fraction, -1074⟩
  | biased => ⟨isNegative x, exponentUnit + fraction, biased - 1075⟩

/-- Numerator and denominator of `a · 2 ^ e / b`. -/
def scaleTwo (a b : Nat) (e : Int) : Nat × Nat :=
  if 0 ≤ e then (a <<< e.toNat, b) else (a, b <<< (-e).toNat)

/-- The magnitude of a finite double as a fraction. -/
def magnitude (x : Float) : Nat × Nat :=
  scaleTwo (parts x).significand 1 (parts x).exponent

/-- The quotient `a / b` rounded to an integer, a half to the even neighbour. -/
def roundHalfEven (a b : Nat) : Nat :=
  let q := a / b
  let r := a % b
  if b < 2 * r || (2 * r == b && q % 2 == 1) then q + 1 else q

/-- The exponent of the last binary place of the double nearest to `a / b`. -/
def lastPlace (a b : Nat) : Int :=
  let guess : Int := (a.log2 : Int) - b.log2 - 52
  let (n, d) := scaleTwo a b (-guess)
  max (if n / d < exponentUnit then guess - 1 else guess) (-1074)

/-- The double nearest to `a / b`, a tie to the even neighbour, too large a fraction to infinity. -/
def nearest (a b : Nat) : Float :=
  if a == 0 then 0 else
    let e := lastPlace a b
    let (n, d) := scaleTwo a b (-e)
    let bits := (e + 1074).toNat * exponentUnit + roundHalfEven n d
    Float.ofBits (min bits (maxBiased * exponentUnit)).toUInt64

def withSign (negative : Bool) (x : Float) : Float := if negative then -x else x

def infinity : Float := .ofBits (maxBiased * exponentUnit).toUInt64

def ofNat (n : Nat) : Float := nearest n 1

def ofInt (i : Int) : Float := withSign (i < 0) (ofNat i.natAbs)

/-- An integer part of a double; zero keeps the sign of the double. -/
def integral (part : Float → Int) (x : Float) : Float :=
  if isFinite x then
    let i := part x
    if i == 0 then withSign (isNegative x) 0 else ofInt i
  else x

def applySign (negative : Bool) (n : Nat) : Int := if negative then -n else n

/-- The integer part toward zero. -/
def truncToInt (x : Float) : Int :=
  let (a, b) := magnitude x
  applySign (isNegative x) (a / b)

/-- The greatest integer that is not above the double. -/
def floorToInt (x : Float) : Int :=
  let (a, b) := magnitude x
  applySign (isNegative x) (if isNegative x then (a + b - 1) / b else a / b)

/-- The least integer that is not below the double. -/
def ceilToInt (x : Float) : Int :=
  let (a, b) := magnitude x
  applySign (isNegative x) (if isNegative x then a / b else (a + b - 1) / b)

/-- The nearest integer, a half away from zero. -/
def roundToInt (x : Float) : Int :=
  let (a, b) := magnitude x
  applySign (isNegative x) ((2 * a + b) / (2 * b))

def trunc (x : Float) : Float := integral truncToInt x

def floor (x : Float) : Float := integral floorToInt x

def ceil (x : Float) : Float := integral ceilToInt x

def round (x : Float) : Float := integral roundToInt x

/-- What is left of a double without its integer part. -/
def fract (x : Float) : Float := x - trunc x

def isWhole (x : Float) : Bool := fract x == 0

/-- Doubles other than NaN compare as these integers; the two zeros are one. -/
def orderKey (x : Float) : Int := applySign (isNegative x) (unsignedWord x)

/-- An order key that puts negative zero below zero. -/
def totalKey (x : Float) : Int :=
  if isNegative x then -(unsignedWord x : Int) - 1 else unsignedWord x

def compare (x y : Float) : Ordering := Ord.compare (orderKey x) (orderKey y)

/-- The integer part toward zero, limited to `lo` and `hi`; NaN counts as zero. -/
def truncClamped (lo hi : Int) (x : Float) : Int :=
  if x.isNaN then 0
  else if isFinite x then max lo (min hi (truncToInt x))
  else if isNegative x then lo else hi

end Spreadsheet.Number
