import Spreadsheet.Function.Aggregate
import Spreadsheet.Number.Power

/-! Financial functions. Money paid out is negative and money received positive; a payment type
other than 0 means payments at the beginning of each period. -/

namespace Spreadsheet.Function

/-- The terms of a loan or investment with constant payments: rate and number of periods, and 1 for
payments at the beginning of each period, else 0. -/
structure Annuity where
  rate : Float
  periods : Float
  due : Float

namespace Annuity

/-- How a unit of money grows over all periods. -/
def growth (a : Annuity) : Float := (1 + a.rate).pow a.periods

def futureValue (a : Annuity) (payment present : Float) : Float :=
  if a.rate == 0 then -(present + payment * a.periods)
  else -(present * a.growth + payment * (1 + a.rate * a.due) * (a.growth - 1) / a.rate)

def presentValue (a : Annuity) (payment future : Float) : Float :=
  if a.rate == 0 then -(future + payment * a.periods)
  else -(future + payment * (1 + a.rate * a.due) * (a.growth - 1) / a.rate) / a.growth

def payment (a : Annuity) (present future : Float) : Except CellError Float :=
  if a.periods == 0 then .error (.num "nper must not be 0")
  else if a.rate == 0 then .ok (-(present + future) / a.periods)
  else
    .ok (-a.rate * (present * a.growth + future) / ((1 + a.rate * a.due) * (a.growth - 1)))

/-- What is owed when interest for a period falls due, given the payment. -/
def balance (a : Annuity) (period present payment : Float) : Float :=
  if period == 1 then (if a.due == 1 then 0 else -present)
  else if a.due == 1 then
    { a with periods := period - 2, due := 1 : Annuity }.futureValue payment present - payment
  else { a with periods := period - 1, due := 0 : Annuity }.futureValue payment present

/-- The part of a payment that is interest. -/
def interest (a : Annuity) (period present future : Float) : Except CellError Float :=
  if period < 1 || a.periods < period then
    .error (.num s!"per must be between 1 and {Number.display a.periods}")
  else do
    return a.balance period present (← a.payment present future) * a.rate

end Annuity

/-- The payment type: 0, or 1 for any other number. -/
def dueArg (args : List Value) (index : Nat) : Except CellError Float := do
  return if (← optNumber args index 0) != 0 then 1 else 0

/-- The arguments rate, number of periods, two amounts of which the second may be left out, and
payment type. -/
def annuityArgs (args : List Value) : Except CellError (Annuity × Float × Float) := do
  let rate ← numberArg args 0
  let periods ← numberArg args 1
  let first ← numberArg args 2
  let second ← optNumber args 3 0
  return (⟨rate, periods, ← dueArg args 4⟩, first, second)

def payment (args : List Value) : Answer := do
  let (a, present, future) ← annuityArgs args
  return .number (← a.payment present future)

def futureValue (args : List Value) : Answer := do
  let (a, payment, present) ← annuityArgs args
  return .number (a.futureValue payment present)

def presentValue (args : List Value) : Answer := do
  let (a, payment, future) ← annuityArgs args
  return .number (a.presentValue payment future)

/-- The arguments of a payment's parts: annuity, period, present and future value. -/
def partArgs (args : List Value) : Except CellError (Annuity × Float × Float × Float) := do
  let rate ← numberArg args 0
  let period ← numberArg args 1
  let periods ← numberArg args 2
  let present ← numberArg args 3
  let future ← optNumber args 4 0
  return (⟨rate, periods, ← dueArg args 5⟩, period, present, future)

def interestPayment (args : List Value) : Answer := do
  let (a, period, present, future) ← partArgs args
  return .number (← a.interest period present future)

def principalPayment (args : List Value) : Answer := do
  let (a, period, present, future) ← partArgs args
  let interest ← a.interest period present future
  return .number ((← a.payment present future) - interest)

def periodCount (args : List Value) : Answer := do
  let rate ← numberArg args 0
  let payment ← numberArg args 1
  let present ← numberArg args 2
  let future ← optNumber args 3 0
  let due ← dueArg args 4
  if rate == 0 then
    if payment == 0 then .error (.num "pmt must not be 0 when rate is 0")
    else return .number (-(present + future) / payment)
  else
    let adjusted := payment * (1 + rate * due)
    let ratio := (adjusted - future * rate) / (present * rate + adjusted)
    if ratio.isNaN || ratio ≤ 0 || rate ≤ -1 then
      .error (.num "no number of periods reaches fv")
    else return .number (ratio.log / (1 + rate).log)

/-- The sum over cash flows of what `f` makes of each and its index. -/
def sumIndexed (f : Nat → Float → Float) (flows : List Float) : Float :=
  sum (flows.zipIdx.map fun (x, i) => f i x)

def netPresentValue (args : List Value) : Answer := do
  let rate ← numberArg args 0
  if rate == -1 then .error .divideByZero
  else
    let flows ← collectNumbers .numbers args.tail
    return .number (sumIndexed (fun i x => x / Number.powInt (1 + rate) (i + 1)) flows)

def maxIterations : Nat := 100

/-- Newton's iteration from a rate, until it moves by less than 1e-10; none when it does not settle
on a rate above -1. -/
def newton (f slope : Float → Float) : (fuel : Nat) → (rate : Float) → Option Float
  | 0, _ => none
  | fuel + 1, rate =>
    let s := slope rate
    if s == 0 || !Number.isFinite s then none
    else
      let next := rate - f rate / s
      if !Number.isFinite next || next ≤ -1 then none
      else if (next - rate).abs < 1e-10 then some next
      else newton f slope fuel next

/-- The root that Newton's method finds, for the function with the given name. -/
def root (name : String) (f slope : Float → Float) (guess : Float) : Answer :=
  match newton f slope maxIterations guess with
  | some rate => .ok (.number rate)
  | none => .error (.num s!"{name} did not converge within {maxIterations} iterations")

def internalRate (args : List Value) : Answer := do
  let flows ← arrayNumbers (← argument args 0)
  let guess ← optNumber args 1 0.1
  if !flows.any (0 < ·) || !flows.any (· < 0) then
    .error (.num "cash flows need at least one positive and one negative value")
  else
    let value (r : Float) : Float :=
      sumIndexed (fun i x => x / Number.powInt (1 + r) i) flows
    let slope (r : Float) : Float :=
      sumIndexed (fun i x => -(Number.ofNat i) * x / Number.powInt (1 + r) (i + 1)) flows
    root "IRR" value slope guess

/-- What an annuity leaves over at a rate, continued through the rate 0. -/
def annuityBalance (periods payment present future due rate : Float) : Float :=
  if rate.abs < 1e-12 then present + payment * periods + future
  else
    let factor := (1 + rate).pow periods
    present * factor + payment * (1 + rate * due) * (factor - 1) / rate + future

def rateOf (args : List Value) : Answer := do
  let periods ← numberArg args 0
  let payment ← numberArg args 1
  let present ← numberArg args 2
  let future ← optNumber args 3 0
  let due ← dueArg args 4
  let guess ← optNumber args 5 0.1
  if periods ≤ 0 then .error (.num "nper must be positive")
  else
    let f := annuityBalance periods payment present future due
    let slope (r : Float) : Float :=
      let h := 1e-7 * larger r.abs 1
      (f (r + h) - f (r - h)) / (2 * h)
    root "RATE" f slope guess

/-- The greatest period up to which functions step one by one. -/
def maxPeriods : Float := 1000000

/-- Annuity, present value, first and last period of a cumulative payment. -/
def cumulativeArgs (args : List Value) :
    Except CellError (Annuity × Float × Float × Float) := do
  let rate ← numberArg args 0
  let periods ← wholeArg args 1
  let present ← numberArg args 2
  let start ← wholeArg args 3
  let stop ← wholeArg args 4
  let due ← numberArg args 5
  if rate ≤ 0 || periods ≤ 0 || present ≤ 0 then
    .error (.num "rate, nper and pv must be positive")
  else if start < 1 || stop < start || periods < stop then
    .error (.num "periods must satisfy 1 <= start <= end <= nper")
  else if due != 0 && due != 1 then .error (.num "type must be 0 or 1")
  else if maxPeriods < stop then .error (.num "end_period is past the period limit")
  else return (⟨rate, periods, due⟩, present, start, stop)

/-- Adds what `f` gives for `count` periods from `period` on. -/
def sumPeriods (f : Float → Except CellError Float) :
    (count : Nat) → (period total : Float) → Except CellError Float
  | 0, _, total => .ok total
  | count + 1, period, total => do
    sumPeriods f count (period + 1) (total + (← f period))

/-- The number of steps of one from a whole number to another one, both included. -/
def stepCount (start stop : Float) : Nat :=
  (Number.truncToInt stop - Number.truncToInt start + 1).toNat

def cumulativeInterest (args : List Value) : Answer := do
  let (a, present, start, stop) ← cumulativeArgs args
  return .number (← sumPeriods (fun p => a.interest p present 0) (stepCount start stop) start 0)

def cumulativePrincipal (args : List Value) : Answer := do
  let (a, present, start, stop) ← cumulativeArgs args
  let payment ← a.payment present 0
  let principal (p : Float) : Except CellError Float := do
    return payment - (← a.interest p present 0)
  return .number (← sumPeriods principal (stepCount start stop) start 0)

/-- The last of `count` depreciations from a period on, given the total before and the one before;
`f` gives the depreciation of a period from the total. -/
def lastDepreciation (f : (period total : Float) → Float) :
    (count : Nat) → (period total last : Float) → Float
  | 0, _, _, last => last
  | count + 1, period, total, _ =>
    let d := f period total
    lastDepreciation f count (period + 1) (total + d) d

def fixedDeclining (args : List Value) : Answer := do
  let cost ← numberArg args 0
  let salvage ← numberArg args 1
  let life ← wholeArg args 2
  let period ← wholeArg args 3
  let month ← optWhole args 4 12
  let lastPeriod := if month < 12 then life + 1 else life
  if cost < 0 || salvage < 0 || life ≤ 0 || period ≤ 0 || lastPeriod < period then
    .error (.num "invalid depreciation arguments")
  else if !(1 ≤ month && month ≤ 12) then .error (.num "month must be between 1 and 12")
  else if maxPeriods < period then .error (.num "period is past the period limit")
  else if cost == 0 then return .number 0
  else
    let rate := Number.round ((1 - (salvage / cost).pow (1 / life)) * 1000) / 1000
    let first := cost * rate * month / 12
    let later (p total : Float) : Float :=
      if p == life + 1 then (cost - total) * rate * (12 - month) / 12 else (cost - total) * rate
    return .number (lastDepreciation later (stepCount 2 period) 2 first first)

def doubleDeclining (args : List Value) : Answer := do
  let cost ← numberArg args 0
  let salvage ← numberArg args 1
  let life ← numberArg args 2
  let period := Number.ceil (← numberArg args 3)
  let factor ← optNumber args 4 2
  if cost < 0 || salvage < 0 || life ≤ 0 || period ≤ 0 || Number.ceil life < period ||
      factor ≤ 0 then
    .error (.num "invalid depreciation arguments")
  else if maxPeriods < period then .error (.num "period is past the period limit")
  else
    let step (_ total : Float) : Float :=
      let book := cost - total
      smaller (book * factor / life) (larger (book - salvage) 0)
    return .number (lastDepreciation step (stepCount 1 period) 1 0 0)

def straightLine (args : List Value) : Answer := do
  let cost ← numberArg args 0
  let salvage ← numberArg args 1
  let life ← numberArg args 2
  if life == 0 then .error .divideByZero else return .number ((cost - salvage) / life)

def sumOfYears (args : List Value) : Answer := do
  let cost ← numberArg args 0
  let salvage ← numberArg args 1
  let life ← numberArg args 2
  let period ← numberArg args 3
  if life ≤ 0 || period ≤ 0 || life < period then
    .error (.num "per must satisfy 0 < per <= life")
  else return .number ((cost - salvage) * (life - period + 1) * 2 / (life * (life + 1)))

/-- A rate and the number of times a year at which it is compounded. -/
def compoundingArgs (args : List Value) : Except CellError (Float × Float) := do
  let rate ← numberArg args 0
  let times ← wholeArg args 1
  if rate ≤ 0 || times < 1 then .error (.num "rate must be positive and npery at least 1")
  else return (rate, times)

def effectiveRate (args : List Value) : Answer := do
  let (nominal, times) ← compoundingArgs args
  return .number ((1 + nominal / times).pow times - 1)

def nominalRate (args : List Value) : Answer := do
  let (effective, times) ← compoundingArgs args
  return .number (times * ((1 + effective).pow (1 / times) - 1))

end Spreadsheet.Function
