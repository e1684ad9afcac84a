import Spreadsheet.Function.Arguments

/-! Aggregations over the numbers of all arguments: sums, means, counts, order statistics and
measures of dispersion. -/

namespace Spreadsheet.Function

/-- The sum of numbers from left to right. It starts from negative zero, which leaves every number
that is added to it as it is; so a sum of negative zeros, or of nothing, is negative zero. -/
def sum (xs : List Float) : Float := xs.foldl (· + ·) (-0.0)

def count (n : Nat) : Value := .number (Number.ofNat n)

/-- A function of the numbers of all arguments. -/
def aggregate (mode : Collect) (f : List Float → Except CellError Float) (args : List Value) :
    Answer := do
  return .number (← f (← collectNumbers mode args))

def mean (xs : List Float) : Except CellError Float :=
  if xs.isEmpty then .error .divideByZero else .ok (sum xs / Number.ofNat xs.length)

/-- Whether a direct argument counts as a number. -/
def countsAsNumber : Value → Bool
  | .number _ | .boolean _ => true
  | .text s => (Number.ofText? s).isSome
  | _ => false

/-- The numbers in an argument; errors in arrays are not counted. -/
def countArgument : Value → Nat
  | .array rows =>
    rows.flatten.countP fun
      | .number _ => true
      | _ => false
  | v => if countsAsNumber v then 1 else 0

def countNumbers (args : List Value) : Answer :=
  .ok (count (args.foldl (fun n v => n + countArgument v) 0))

def countPresent (args : List Value) : Answer :=
  .ok (count ((args.flatMap elements).countP fun v => !v.isBlank))

def isEmptyCell : Value → Bool
  | .blank => true
  | .text s => s.isEmpty
  | _ => false

def countBlank (args : List Value) : Answer :=
  .ok (count ((args.flatMap elements).countP isEmptyCell))

def smaller (x y : Float) : Float := if y < x then y else x

def larger (x y : Float) : Float := if x < y then y else x

/-- The number left when `pick` chooses between numbers, 0 when there are none. -/
def extreme (pick : Float → Float → Float) : List Float → Except CellError Float
  | [] => .ok 0
  | x :: xs => .ok (xs.foldl pick x)

/-- Numbers in ascending order. -/
def sorted (xs : List Float) : List Float :=
  xs.mergeSort fun x y => Number.totalKey x ≤ Number.totalKey y

def median (xs : List Float) : Except CellError Float :=
  let ys := sorted xs
  let n := ys.length
  if n = 0 then .error (.num "MEDIAN of no numbers")
  else if n % 2 = 0 then .ok ((ys.getD (n / 2 - 1) 0 + ys.getD (n / 2) 0) / 2)
  else .ok (ys.getD (n / 2) 0)

/-- The first of the numbers that occur most often, of those behind the numbers in `seen`. A number
that was seen before is passed over, so that each is counted from where it occurs first; it must occur
more than once and more often than `best`. -/
def mostFrequent (seen : List Float) (best : Option (Float × Nat)) :
    List Float → Option (Float × Nat)
  | [] => best
  | x :: xs =>
    if seen.contains x then mostFrequent (x :: seen) best xs
    else
      let n := (x :: xs).count x
      let better := 1 < n && best.all (·.2 < n)
      mostFrequent (x :: seen) (if better then some (x, n) else best) xs

def mode (xs : List Float) : Except CellError Float :=
  match mostFrequent [] none xs with
  | some (x, _) => .ok x
  | none => .error (.notAvailable "no value repeats")

def product (xs : List Float) : Except CellError Float :=
  .ok (if xs.isEmpty then 0 else xs.foldl (· * ·) 1)

def square (x : Float) : Float := x * x

def sumOfSquares (xs : List Float) : Except CellError Float := .ok (sum (xs.map square))

/-- The element at position `k`, counted from 1 and rounded up, of the numbers in the order given
by `arrange`. -/
def kth (arrange : List Float → List Float) (args : List Value) : Answer := do
  let xs := arrange (sorted (← collectNumbers .numbers (args.take 1)))
  let k := Number.ceilToInt (← numberArg args 1)
  if 1 ≤ k then
    match xs[k.toNat - 1]? with
    | some x => return .number x
    | none => .error (.num s!"k must be between 1 and {xs.length}")
  else .error (.num s!"k must be between 1 and {xs.length}")

def small : List Value → Answer := kth id

def large : List Value → Answer := kth List.reverse

/-- The sum of the squared distances from the mean. -/
def squaredDeviations (xs : List Float) : Float :=
  if xs.isEmpty then 0
  else
    let m := sum xs / Number.ofNat xs.length
    sum (xs.map fun x => square (x - m))

/-- The variance of a whole population, or of a sample from it. -/
def variance (sample : Bool) (xs : List Float) : Except CellError Float :=
  let n := if sample then xs.length - 1 else xs.length
  if n = 0 then .error .divideByZero else .ok (squaredDeviations xs / Number.ofNat n)

def deviation (sample : Bool) (xs : List Float) : Except CellError Float :=
  (variance sample xs).map Float.sqrt

end Spreadsheet.Function
