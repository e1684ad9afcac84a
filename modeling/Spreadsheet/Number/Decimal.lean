import Spreadsheet.Number.Binary

/-! Decimal text of doubles. `shortest` finds the fewest digits that read back as the same double,
`rounded` a given number of digits; the layouts put such digits into positional or scientific
form. -/

namespace Spreadsheet.Number

/-- The decimal fraction `significand · 10 ^ exponent`. -/
structure Decimal where
  significand : Nat
  exponent : Int
  deriving DecidableEq, Repr

def powerOfTen (n : Nat) : Nat := Nat.pow 10 n

/-- Numerator and denominator of `a · 10 ^ e / b`. -/
def scaleTen (a b : Nat) (e : Int) : Nat × Nat :=
  if 0 ≤ e then (a * powerOfTen e.toNat, b) else (a, b * powerOfTen (-e).toNat)

def digits (n : Nat) : List Char := Nat.toDigits 10 n

namespace Decimal

def toFraction (d : Decimal) : Nat × Nat := scaleTen d.significand 1 d.exponent

/-- The double nearest to a decimal fraction; far outside the range of doubles no power of ten
is computed. -/
def toFloat (d : Decimal) : Float :=
  let size : Int := (digits d.significand).length + d.exponent
  if d.significand == 0 || size < -400 then 0
  else if 400 < size then infinity
  else nearest d.toFraction.1 d.toFraction.2

/-- Whether a decimal fraction reads back as the magnitude of a double. -/
def readsBack (d : Decimal) (x : Float) : Bool := word d.toFloat == unsignedWord x

/-- Removes the zeros at the end of the digits, at most `fuel` of them. -/
def stripZeros : (fuel : Nat) → Decimal → Decimal
  | 0, d => d
  | fuel + 1, d =>
    if d.significand != 0 && d.significand % 10 == 0 then
      stripZeros fuel ⟨d.significand / 10, d.exponent + 1⟩
    else d

end Decimal

/-- The exponent of the power of ten in front of `a / b`: `10 ^ k ≤ a / b < 10 ^ (k + 1)`. -/
def leadingPlace (a b : Nat) : Int :=
  let guess := (((a.log2 : Int) - b.log2) * 30103).fdiv 100000
  let reaches (k : Int) : Bool :=
    let (n, d) := scaleTen a b (-k)
    d ≤ n
  if reaches (guess + 1) then guess + 1 else if reaches guess then guess else guess - 1

/-- Which of two equally near decimal fractions on a grid is taken: the larger one, or the one whose
last digit is even. -/
inductive Tie where
  | larger
  | even
  deriving DecidableEq, Repr

/-- Whether the fraction above is taken rather than the one below, whose significand is `n`. -/
def Tie.takesAbove (tie : Tie) (n : Nat) : Bool :=
  match tie with
  | larger => true
  | even => n % 2 == 1

/-- The neighbour of a magnitude with last decimal place `e` that reads back as it; of two the
nearer. -/
def neighbour? (tie : Tie) (x : Float) (e : Int) : Option Decimal :=
  let (a, b) := scaleTen (magnitude x).1 (magnitude x).2 (-e)
  let below : Decimal := ⟨a / b, e⟩
  let above : Decimal := ⟨a / b + 1, e⟩
  match below.readsBack x, above.readsBack x with
  | true, true =>
    let isAbove := b < 2 * (a % b) || (2 * (a % b) == b && tie.takesAbove (a / b))
    some (if isAbove then above else below)
  | true, false => some below
  | false, true => some above
  | false, false => none

/-- The first of the next `fuel` grids, each ten times finer, on which a neighbour reads back. -/
def firstNeighbour (tie : Tie) (x : Float) : (fuel : Nat) → (e : Int) → Decimal
  | 0, e => ⟨(magnitude x).1 * powerOfTen (-e).toNat / (magnitude x).2, e⟩
  | fuel + 1, e => (neighbour? tie x e).getD (firstNeighbour tie x fuel (e - 1))

/-- The fewest digits that read back as the magnitude of a finite double. -/
def shortest (tie : Tie) (x : Float) : Decimal :=
  if isZero x then ⟨0, 0⟩
  else (firstNeighbour tie x 17 (leadingPlace (magnitude x).1 (magnitude x).2)).stripZeros 20

/-- The exact value of a double rounded to `n` significant digits, a half to the even neighbour. -/
def rounded (n : Nat) (x : Float) : Decimal :=
  if isZero x then ⟨0, 1 - n⟩
  else
    let e := leadingPlace (magnitude x).1 (magnitude x).2 - (n - 1 : Nat)
    let (a, b) := scaleTen (magnitude x).1 (magnitude x).2 (-e)
    let q := roundHalfEven a b
    if q == powerOfTen n then ⟨q / 10, e + 1⟩ else ⟨q, e⟩

/-- Positional digits, without an exponent. -/
def Decimal.positional (d : Decimal) : List Char :=
  let ds := digits d.significand
  let point : Int := ds.length + d.exponent
  if d.significand == 0 then ['0']
  else if 0 ≤ d.exponent then ds ++ List.replicate d.exponent.toNat '0'
  else if 0 < point then ds.take point.toNat ++ '.' :: ds.drop point.toNat
  else '0' :: '.' :: (List.replicate (-point).toNat '0' ++ ds)

/-- One digit, the other digits after a point, and the exponent of ten. -/
def Decimal.scientific (d : Decimal) : List Char × Int :=
  match digits d.significand with
  | [] => (['0'], 0)
  | first :: rest =>
    (if rest.isEmpty then [first] else first :: '.' :: rest, d.exponent + rest.length)

def intText (i : Int) : String :=
  String.ofList ((if i < 0 then ['-'] else []) ++ digits i.natAbs)

/-- A double as written in messages and formulas: the fewest digits, positional, no exponent. -/
def display (x : Float) : String :=
  if x.isNaN then "NaN"
  else
    let body := if isFinite x then (shortest .larger x).positional else "inf".toList
    String.ofList (if isNegative x then '-' :: body else body)

def exponential (d : Decimal) (negative : Bool) : String :=
  let (mantissa, e) := d.scientific
  String.ofList (if negative then '-' :: mantissa else mantissa) ++ "e" ++ intText e

/-- The fewest digits in scientific form; zero has no sign. -/
def scientific (x : Float) : String :=
  if isZero x then "0e0" else exponential (shortest .larger x) (isNegative x)

/-- Exactly `n` significant digits in scientific form; zero has no sign. -/
def significant (n : Nat) (x : Float) : String :=
  if isZero x then
    String.ofList (if n ≤ 1 then ['0'] else '0' :: '.' :: List.replicate (n - 1) '0') ++ "e0"
  else exponential (rounded n x) (isNegative x)

/-- A number as it is shown in text: whole numbers below `10 ^ 15` in full, others rounded to 15
significant digits, very large and very small ones as in `1E+20`. One that rounds to more than the
greatest double is shown as infinite. -/
def format (x : Float) : String :=
  if x == 0 then "0"
  else if isWhole x && x.abs < 1e15 then intText (truncToInt x)
  else
    let r := (rounded 15 x).toFloat
    if isFinite r && (1e15 ≤ r || r < 1e-9) then
      let (mantissa, e) := (shortest .larger r).scientific
      let power := digits e.natAbs
      String.ofList ((if isNegative x then ['-'] else []) ++ mantissa ++
        ['E', if e < 0 then '-' else '+'] ++ (if power.length < 2 then '0' :: power else power))
    else display (withSign (isNegative x) r)

end Spreadsheet.Number
