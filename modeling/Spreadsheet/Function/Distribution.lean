import Spreadsheet.Function.Aggregate
import Spreadsheet.Number.Special

/-! Distributions, percentiles and linear regression. -/

namespace Spreadsheet.Function

def checkDeviation (sd : Float) : Except CellError Float :=
  if sd ≤ 0 then .error (.num "standard_dev must be positive") else .ok sd

/-- The cumulative probability or the density at `x`. -/
def normal (mean deviation x : Float) (cumulative : Bool) : Value :=
  .number
    (if cumulative then Number.normalCumulative mean deviation x
    else Number.normalDensity mean deviation x)

def normalDistribution (args : List Value) : Answer := do
  let x ← numberArg args 0
  let mean ← numberArg args 1
  let deviation ← checkDeviation (← numberArg args 2)
  return normal mean deviation x (← boolArg args 3)

def standardNormal (args : List Value) : Answer := do
  let z ← numberArg args 0
  return normal 0 1 z (← boolArg args 1)

def cumulativeStandardNormal (args : List Value) : Answer := do
  return normal 0 1 (← numberArg args 0) true

def normalInverse (args : List Value) : Answer := do
  let p ← numberArg args 0
  if p ≤ 0 || 1 ≤ p then .error (.num "probability must be strictly between 0 and 1")
  else
    let mean ← numberArg args 1
    let deviation ← checkDeviation (← numberArg args 2)
    return .number (Number.normalQuantile mean deviation p)

def checkProbability (p : Float) : Except CellError Float :=
  if 0 ≤ p && p ≤ 1 then .ok p else .error (.num "probability must be between 0 and 1")

/-- A number of trials, which is limited to 64 bits. -/
def trialCount (x : Float) : Nat := (Number.truncClamped 0 0xFFFFFFFFFFFFFFFF x).toNat

def binomialDistribution (args : List Value) : Answer := do
  let successes ← wholeArg args 0
  let trials ← wholeArg args 1
  let p ← checkProbability (← numberArg args 2)
  let cumulative ← boolArg args 3
  if successes < 0 || trials < 0 || trials < successes then
    .error (.num "number_s must be between 0 and trials")
  else
    let k := trialCount successes
    let n := trialCount trials
    return .number
      (if cumulative then Number.binomialCumulative k n p else Number.binomialMass k n p)

/-- The numbers of an array in ascending order, of which there must be one. -/
def sortedNumbers (args : List Value) : Except CellError (List Float) := do
  let xs := sorted (← arrayNumbers (← argument args 0))
  if xs.isEmpty then .error (.num "no numbers") else return xs

/-- The number at a rank, counted from 0; between two ranks it is interpolated. -/
def atRank (xs : List Float) (rank : Float) : Float :=
  let i := (Number.floorToInt rank).toNat
  let fraction := rank - Number.floor rank
  let lower := xs.getD i 0
  match xs[i + 1]? with
  | some upper => if 0 < fraction then lower + fraction * (upper - lower) else lower
  | none => lower

def percentileIncluding (xs : List Float) (k : Float) : Except CellError Float :=
  if 0 ≤ k && k ≤ 1 then .ok (atRank xs (k * Number.ofNat (xs.length - 1)))
  else .error (.num "k must be between 0 and 1")

def percentileExcluding (xs : List Float) (k : Float) : Except CellError Float :=
  let rank := k * Number.ofNat (xs.length + 1) - 1
  if k ≤ 0 || 1 ≤ k || rank < 0 || Number.ofNat (xs.length - 1) < rank then
    .error (.num "k is outside the range the data supports")
  else .ok (atRank xs rank)

def percentile (f : List Float → Float → Except CellError Float) (args : List Value) :
    Answer := do
  let xs ← sortedNumbers args
  return .number (← f xs (← numberArg args 1))

/-- A quartile, whose number must lie between two bounds, as the percentile of its quarter. -/
def quartile (f : List Float → Float → Except CellError Float) (least greatest : Float)
    (args : List Value) : Answer := do
  let xs ← sortedNumbers args
  let q ← wholeArg args 1
  if least ≤ q && q ≤ greatest then return .number (← f xs (q / 4))
  else
    .error (.num s!"quart must be between {Number.display least} and {Number.display greatest}")

/-- A position of two arrays counts when both hold numbers; an error in either is passed on. -/
def numberPair : Value × Value → Except CellError (Option (Float × Float))
  | (.error e, _) => .error e
  | (_, .error e) => .error e
  | (.number x, .number y) => .ok (some (x, y))
  | _ => .ok none

/-- The pairs of numbers at the positions of two arrays of one size. -/
def numberPairs (xs ys : Value) : Except CellError (List (Float × Float)) := do
  let xs := elements xs
  let ys := elements ys
  if xs.length = ys.length then return (← (xs.zip ys).mapM numberPair).filterMap id
  else .error (.notAvailable "arrays have different sizes")

/-- Means of pairs, and the sums of squares and products of the distances from them. -/
structure Moments where
  meanX : Float
  meanY : Float
  sxx : Float
  syy : Float
  sxy : Float

namespace Moments

def ofPairs (pairs : List (Float × Float)) : Except CellError Moments :=
  if pairs.isEmpty then .error .divideByZero
  else
    let n := Number.ofNat pairs.length
    let meanX := sum (pairs.map (·.1)) / n
    let meanY := sum (pairs.map (·.2)) / n
    let sumOf (f : Float → Float → Float) : Float :=
      pairs.foldl (fun total (x, y) => total + f (x - meanX) (y - meanY)) 0
    .ok ⟨meanX, meanY, sumOf fun dx _ => dx * dx, sumOf fun _ dy => dy * dy,
      sumOf fun dx dy => dx * dy⟩

def slope (m : Moments) : Except CellError Float :=
  if m.sxx == 0 then .error .divideByZero else .ok (m.sxy / m.sxx)

def intercept (m : Moments) : Except CellError Float := do
  return m.meanY - (← m.slope) * m.meanX

def correlation (m : Moments) : Except CellError Float :=
  let d := (m.sxx * m.syy).sqrt
  if d == 0 then .error .divideByZero else .ok (m.sxy / d)

end Moments

/-- The moments of the arrays at two positions of the arguments. -/
def moments (args : List Value) (x y : Nat) : Except CellError Moments := do
  Moments.ofPairs (← numberPairs (← argument args x) (← argument args y))

def correlation (args : List Value) : Answer := do
  return .number (← (← moments args 0 1).correlation)

def slope (args : List Value) : Answer := do
  return .number (← (← moments args 1 0).slope)

def intercept (args : List Value) : Answer := do
  return .number (← (← moments args 1 0).intercept)

def determination (args : List Value) : Answer := do
  return .number (square (← (← moments args 1 0).correlation))

def forecast (args : List Value) : Answer := do
  let x ← numberArg args 0
  let m ← moments args 2 1
  return .number ((← m.intercept) + (← m.slope) * x)

def regressionNumber : Value → Except CellError Float
  | .number x => .ok x
  | .error e => .error e
  | v => .error (.value s!"LINEST needs numbers, found {v.typeName}")

/-- A statistic as an array element, which is an error when it is not finite. -/
def statistic (x : Float) : Value :=
  if Number.isFinite x then .number x else .ofError .numericError

/-- A line fitted to pairs, with the sums that its statistics need. -/
structure Fit where
  slope : Float
  intercept : Float
  total : Float
  spread : Float
  meanX : Float
  hasIntercept : Bool

def fitLine (pairs : List (Float × Float)) (hasIntercept : Bool) : Except CellError Fit := do
  if hasIntercept then
    let m ← Moments.ofPairs pairs
    return ⟨← m.slope, ← m.intercept, m.syy, m.sxx, m.meanX, true⟩
  else
    let sxx := sum (pairs.map fun (x, _) => x * x)
    if sxx == 0 then .error .divideByZero
    else
      let sxy := sum (pairs.map fun (x, y) => x * y)
      return ⟨sxy / sxx, 0, sum (pairs.map fun (_, y) => y * y), sxx, 0, false⟩

/-- The statistics of a fitted line, in five rows of two. -/
def Fit.statistics (f : Fit) (pairs : List (Float × Float)) : Value :=
  let n := Number.ofNat pairs.length
  let residual := sum (pairs.map fun (x, y) => square (y - (f.slope * x + f.intercept)))
  let regression := f.total - residual
  let freedom := if f.hasIntercept then n - 2 else n - 1
  let errorY := (residual / freedom).sqrt
  let errorIntercept :=
    if f.hasIntercept then statistic (errorY * (1 / n + f.meanX * f.meanX / f.spread).sqrt)
    else .ofError .notAvailable
  let determination := if f.total == 0 then 1 else regression / f.total
  .array [
    [.number f.slope, .number f.intercept],
    [statistic (errorY / f.spread.sqrt), errorIntercept],
    [statistic determination, statistic errorY],
    [statistic (regression / (residual / freedom)), .number freedom],
    [statistic regression, statistic residual]]

def linearRegression (args : List Value) : Answer := do
  let ys ← (elements (← argument args 0)).mapM regressionNumber
  let counted := (List.range ys.length).map fun i => Number.ofNat (i + 1)
  let xs ← optional (fun v => (elements v).mapM regressionNumber) args 1 counted
  let hasIntercept ← optBool args 2 true
  let withStatistics ← optBool args 3 false
  if xs.length ≠ ys.length then
    .error (.detailed .invalidReference "known_y's and known_x's have different sizes")
  else if ys.isEmpty then .error (.value "no data")
  else
    let pairs := xs.zip ys
    let fit ← fitLine pairs hasIntercept
    if withStatistics then return fit.statistics pairs
    else return .array [[.number fit.slope, .number fit.intercept]]

end Spreadsheet.Function
