import Spreadsheet.Number.Binary

/-! Dates of the proleptic Gregorian calendar and their serial numbers, which count days from
1899-12-30. -/

namespace Spreadsheet

structure Date where
  year : Int
  month : Nat
  day : Nat
  deriving DecidableEq, Repr

namespace Date

def isLeapYear (year : Int) : Bool :=
  year % 4 == 0 && (year % 100 != 0 || year % 400 == 0)

def yearLength (year : Int) : Nat := if isLeapYear year then 366 else 365

/-- The lengths of the months of a year. -/
def monthLengths (year : Int) : List Nat :=
  [31, if isLeapYear year then 29 else 28, 31, 30, 31, 30, 31, 31, 30, 31, 30, 31]

/-- The length of a month, counted from 1. -/
def monthLength (year : Int) (month : Nat) : Nat := ((monthLengths year)[month - 1]?).getD 0

/-- The days from 0001-01-01 to the first day of a year. -/
def yearStart (year : Int) : Int :=
  365 * (year - 1) + (year - 1) / 4 - (year - 1) / 100 + (year - 1) / 400

/-- The days from 0001-01-01 to the day with serial number 0. -/
def epoch : Int := 693593

def isValid (d : Date) : Bool :=
  1 ≤ d.month && d.month ≤ 12 && 1 ≤ d.day && d.day ≤ monthLength d.year d.month

/-- The date of a year, month and day, if there is such a day. -/
def ofParts? (year : Int) (month day : Nat) : Option Date :=
  let d : Date := ⟨year, month, day⟩
  if d.isValid then some d else none

/-- The day of the year, counted from 0. -/
def ordinal (d : Date) : Nat :=
  ((monthLengths d.year).take (d.month - 1)).foldl (· + ·) (d.day - 1)

def toSerial (d : Date) : Int := yearStart d.year + d.ordinal - epoch

/-- The year in which the day lies that is `n` days after 0001-01-01. -/
def yearOfDay (n : Int) : Int :=
  let guess := 400 * n / 146097 + 1
  if yearStart (guess + 1) ≤ n then guess + 1
  else if n < yearStart guess then guess - 1
  else guess

/-- The month and day that lie `n` days after the first day of the month `month`. -/
def splitMonths (month : Nat) : List Nat → (n : Nat) → Nat × Nat
  | [], n => (month, n + 1)
  | length :: lengths, n =>
    if n < length then (month, n + 1) else splitMonths (month + 1) lengths (n - length)

def ofSerial (serial : Int) : Date :=
  let n := serial + epoch
  let year := yearOfDay n
  let (month, day) := splitMonths 1 (monthLengths year) (n - yearStart year).toNat
  ⟨year, month, day⟩

/-- The same day of the month a number of months later, or the last day of a shorter month. -/
def addMonths (d : Date) (months : Int) : Date :=
  let total := d.year * 12 + (d.month - 1 : Nat) + months
  let year := total / 12
  let month := (total % 12).toNat + 1
  ⟨year, month, min d.day (monthLength year month)⟩

def isLastOfMonth (d : Date) : Bool := d.day == monthLength d.year d.month

/-- The greatest serial number, that of 9999-12-31. -/
def maxSerial : Int := 2958465

def isSupported (serial : Int) : Bool := 0 ≤ serial && serial ≤ maxSerial

/-- The day of the week of a serial number, counted from Monday as 0. -/
def weekday (serial : Int) : Nat := ((serial + 5) % 7).toNat

/-- A number with at least so many digits. -/
def padded (width n : Nat) : List Char :=
  let ds := Nat.toDigits 10 n
  List.replicate (width - ds.length) '0' ++ ds

/-- The text `YYYY-MM-DD` of a date whose year is not negative. -/
def toText (d : Date) : String :=
  String.ofList (padded 4 d.year.toNat ++ '-' :: padded 2 d.month ++ '-' :: padded 2 d.day)

end Date

end Spreadsheet
