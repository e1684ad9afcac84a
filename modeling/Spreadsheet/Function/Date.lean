import Spreadsheet.Function.Arguments
import Spreadsheet.Date.Text

/-! Date functions. A date is handled as its serial number; the time of day, which is the fraction
of a serial number, does not matter. -/

namespace Spreadsheet.Function

/-- The serial number of the day in which a point in time lies. -/
def serialOf (x : Float) : Except CellError Int :=
  let n := Number.floorToInt x
  if n < 0 then .error (.num "dates before 1899-12-30 are not supported")
  else if Date.maxSerial < n ∨ (n = Date.maxSerial ∧ !Number.isWhole x) then
    .error (.num "dates after 9999-12-31 are not supported")
  else .ok n

/-- The day that a value means: a serial number, or a text with a date or a serial number. -/
def dayOf : Value → Except CellError Int
  | .text s =>
    match Date.ofText? s, Number.ofText? s with
    | some d, _ => .ok d.toSerial
    | none, some x => serialOf x
    | none, none => .error (.value s!"'{s}' is not a date")
  | v => do serialOf (← v.toNumber)

def dayArg (args : List Value) (index : Nat) : Except CellError Int :=
  match args[index]? with
  | some v => dayOf v
  | none => .error (.value "missing date")

def outOfRange : CellError := .num "date out of range"

def supported (serial : Int) : Except CellError Int :=
  if Date.isSupported serial then .ok serial else .error outOfRange

def integer (i : Int) : Value := .number (Number.ofInt i)

/-- A day a number of months later, within the supported calendar. -/
def addMonths (serial months : Int) : Except CellError Int :=
  supported ((Date.ofSerial serial).addMonths months).toSerial

/-- The day of a year, month and day, where months and days outside their range roll over. -/
def rollOver (year month day : Int) : Int :=
  let total := year * 12 + month - 1
  (Date.mk (total / 12) ((total % 12).toNat + 1) 1).toSerial + day - 1

def date (args : List Value) : Answer := do
  let given ← intArg args 0
  let month ← intArg args 1
  let day ← intArg args 2
  let year := if 0 ≤ given ∧ given < 1900 then given + 1900 else given
  if year < 0 ∨ 10000 ≤ year ∨ 1000000 < month.natAbs ∨ 100000000 < day.natAbs then
    .error (.num "year must be between 0 and 9999")
  else return integer (← supported (rollOver year month day))

def dateValue (args : List Value) : Answer := do
  match ← argument args 0 with
  | .text s =>
    match Date.ofText? s with
    | some d => return integer d.toSerial
    | none => .error (.value s!"'{s}' is not a date")
  | v => .error (.value s!"expected date text, got {v.typeName}")

/-- A part of the date in the first argument. -/
def datePart (part : Date → Int) (args : List Value) : Answer := do
  return integer (part (Date.ofSerial (← dayArg args 0)))

/-- The first day of the week, counted from Monday, for the return types 11 to 17. -/
def weekStart? (returnType : Int) : Option Nat :=
  if 11 ≤ returnType ∧ returnType ≤ 17 then some (returnType - 11).toNat else none

/-- The days from one day of the week forward to another. -/
def daysAfter (day start : Nat) : Nat := (day + 7 - start) % 7

def invalidReturnType (x : Float) : CellError :=
  .num s!"invalid return_type {Number.display x}"

/-- The number of a day of the week under a return type. -/
def weekdayNumber? (returnType : Int) (day : Nat) : Option Nat :=
  if returnType = 1 then some (daysAfter day 6 + 1)
  else if returnType = 2 then some (day + 1)
  else if returnType = 3 then some day
  else (weekStart? returnType).map (daysAfter day · + 1)

def weekday (args : List Value) : Answer := do
  let day := Date.weekday (← dayArg args 0)
  let returnType ← optWhole args 1 1
  match weekdayNumber? (Number.truncToInt returnType) day with
  | some n => return integer n
  | none => .error (invalidReturnType returnType)

/-- The week of the year when weeks start on a given day and week 1 holds January 1. -/
def weekOfYear (serial : Int) (start : Nat) : Nat :=
  let d := Date.ofSerial serial
  (d.ordinal + daysAfter (Date.weekday (serial - d.ordinal)) start) / 7 + 1

/-- The ISO 8601 week: that of the Thursday of the week, counted in the Thursday's year. -/
def isoWeek (serial : Int) : Nat :=
  (Date.ofSerial (serial - Date.weekday serial + 3)).ordinal / 7 + 1

def weekNumber (args : List Value) : Answer := do
  let serial ← dayArg args 0
  let returnType ← optWhole args 1 1
  let code := Number.truncToInt returnType
  if code = 21 then return integer (isoWeek serial)
  else
    match if code = 1 then some 6 else if code = 2 then some 0 else weekStart? code with
    | some start => return integer (weekOfYear serial start)
    | none => .error (invalidReturnType returnType)

def monthsLater (args : List Value) : Answer := do
  let serial ← dayArg args 0
  let months ← intArg args 1
  return integer (← addMonths serial months)

/-- The day before the first day of the month after the one meant. -/
def endOfMonth (args : List Value) : Answer := do
  let d := Date.ofSerial (← dayArg args 0)
  let months ← intArg args 1
  let next ← addMonths (Date.mk d.year d.month 1).toSerial (months + 1)
  return integer (← supported (next - 1))

/-- The holidays in an argument that may be left out; blanks in it are skipped. -/
def holidays (args : List Value) (index : Nat) : Except CellError (List Int) :=
  match args[index]? with
  | some v => ((elements v).filter fun h => !h.isBlank).mapM dayOf
  | none => .ok []

/-- Monday to Friday, unless it is a holiday. -/
def isWorkday (holidays : List Int) (serial : Int) : Bool :=
  Date.weekday serial < 5 && !holidays.contains serial

/-- Adds to `count` the working days among the `days` days from a serial number on. -/
def countWorkdays (holidays : List Int) : (days : Nat) → (serial : Int) → (count : Nat) → Nat
  | 0, _, count => count
  | days + 1, serial, count =>
    countWorkdays holidays days (serial + 1)
      (if isWorkday holidays serial then count + 1 else count)

def netWorkdays (args : List Value) : Answer := do
  let a ← dayArg args 0
  let b ← dayArg args 1
  let holidays ← holidays args 2
  let count := countWorkdays holidays (a - b).natAbs.succ (min a b) 0
  return .number (Number.withSign (b < a) (Number.ofNat count))

/-- Goes day by day in one direction until `remaining` working days are passed; none when that
leaves the supported calendar, through which `fuel` days lead. -/
def passWorkdays (holidays : List Int) (step : Int) :
    (fuel remaining : Nat) → (serial : Int) → Option Int
  | _, 0, serial => some serial
  | 0, _ + 1, _ => none
  | fuel + 1, remaining + 1, serial =>
    let next := serial + step
    if Date.isSupported next then
      passWorkdays holidays step fuel
        (if isWorkday holidays next then remaining else remaining + 1) next
    else none

def workday (args : List Value) : Answer := do
  let serial ← dayArg args 0
  let days ← intArg args 1
  let holidays ← holidays args 2
  if Date.maxSerial < days.natAbs then .error (.num "days out of range")
  else
    match passWorkdays holidays (if 0 < days then 1 else -1) 2958466 days.natAbs serial with
    | some n => return integer n
    | none => .error outOfRange

/-- The days between two dates when every month has 30 days. -/
def days360 (start stop : Date) (european : Bool) : Int :=
  let between (d1 d2 : Nat) : Int :=
    (stop.year - start.year) * 360 + ((stop.month : Int) - start.month) * 30 + d2 - d1
  if european then between (min start.day 30) (min stop.day 30)
  else
    let endsFebruary (d : Date) : Bool := d.month == 2 && d.isLastOfMonth
    let d2 := if endsFebruary start && endsFebruary stop then 30 else stop.day
    let d1 := if endsFebruary start || start.day == 31 then 30 else start.day
    between d1 (if d1 == 30 && d2 == 31 then 30 else d2)

/-- Whether February 29 of a year lies between two dates. -/
def hasLeapDay (start stop : Date) (year : Int) : Bool :=
  let leap := Date.mk year 2 29
  leap.isValid && start.toSerial ≤ leap.toSerial && leap.toSerial ≤ stop.toSerial

/-- The length of a year in the actual/actual basis: that of the common year, of the year between
the dates, or the mean over all years touched. -/
def actualYearLength (start stop : Date) : Float :=
  if start.year = stop.year then Number.ofNat (Date.yearLength start.year)
  else if stop.year = start.year + 1 ∧
      (stop.month < start.month ∨ (stop.month = start.month ∧ stop.day ≤ start.day)) then
    if hasLeapDay start stop start.year || hasLeapDay start stop stop.year then 366 else 365
  else
    let count := (stop.year - start.year).toNat + 1
    let days := Date.yearStart (stop.year + 1) - Date.yearStart start.year
    Number.ofInt days / Number.ofNat count

def yearFraction (args : List Value) : Answer := do
  let a ← dayArg args 0
  let b ← dayArg args 1
  let basis := Number.truncClamped (-9223372036854775808) 9223372036854775807
    (← optNumber args 2 0)
  let start := Date.ofSerial (min a b)
  let stop := Date.ofSerial (max a b)
  let actual := Number.ofNat (a - b).natAbs
  if basis = 0 then return .number (Number.ofInt (days360 start stop false) / 360)
  else if basis = 1 then return .number (actual / actualYearLength start stop)
  else if basis = 2 then return .number (actual / 360)
  else if basis = 3 then return .number (actual / 365)
  else if basis = 4 then return .number (Number.ofInt (days360 start stop true) / 360)
  else .error (.num s!"invalid basis {Number.intText basis}")

def daysBetween (args : List Value) : Answer := do
  let stop ← dayArg args 0
  let start ← dayArg args 1
  return integer (stop - start)

/-- The whole months from one date to a later one. -/
def wholeMonths (start stop : Date) : Int :=
  (stop.year - start.year) * 12 + stop.month - start.month - if stop.day < start.day then 1 else 0

/-- The difference of two days, the first one not later, in a unit. -/
def difference (start stop : Int) (unit : String) : Except CellError Int :=
  let months := wholeMonths (Date.ofSerial start) (Date.ofSerial stop)
  match unit with
  | "Y" => .ok (months / 12)
  | "M" => .ok months
  | "D" => .ok (stop - start)
  | "YM" => .ok (months % 12)
  | "MD" => do return stop - (← addMonths start months)
  | "YD" => do return stop - (← addMonths start (months / 12 * 12))
  | _ => .error (.num s!"unknown unit '{unit}'")

def dateDifference (args : List Value) : Answer := do
  let start ← dayArg args 0
  let stop ← dayArg args 1
  let unit := (Text.trim (← textArg args 2)).toUpper
  if stop < start then .error (.num "start_date is after end_date")
  else return integer (← difference start stop unit)

end Spreadsheet.Function
