import Spreadsheet.Number.Binary

/-! Special functions behind the distributions: the error function, the normal quantile, the
logarithm of the gamma function and the regularized incomplete beta function. -/

namespace Spreadsheet.Number

def pi : Float := 3.141592653589793

/-- Sums the series of the error function: `term` is the next term, `n` its index. -/
def errorSeries (x : Float) : (fuel : Nat) → (n term total : Float) → Float
  | 0, _, _, total => total
  | fuel + 1, n, term, total =>
    if term < total * 1e-18 then total
    else errorSeries x fuel (n + 1) (term * 2 * x * x / (2 * n + 3)) (total + term)

/-- The error function for arguments from 0 to 3. -/
def erf (x : Float) : Float :=
  2 / pi.sqrt * (-x * x).exp * errorSeries x 300 0 x 0

/-- The continued fraction of the complementary error function from level `k` inwards. -/
def errorFraction (x : Float) : (fuel : Nat) → (k inner : Float) → Float
  | 0, _, inner => inner
  | fuel + 1, k, inner => errorFraction x fuel (k - 1) (x + k / 2 / inner)

/-- What the complementary error function divides `exp (-x * x)` by, for arguments of at least
one half. -/
def errorDivisor (x : Float) : Float := pi.sqrt * errorFraction x 400 400 x

/-- The complementary error function for arguments that are not negative. -/
def erfcUpper (x : Float) : Float := if x < 1 then 1 - erf x else (-x * x).exp / errorDivisor x

/-- The complementary error function. -/
def erfc (x : Float) : Float := if x < 0 then 2 - erfcUpper (-x) else erfcUpper x

/-- The probability that a normal variable is at most `x`. -/
def normalCumulative (mean deviation x : Float) : Float :=
  0.5 * erfc ((mean - x) / (deviation * (2 : Float).sqrt))

def normalDensity (mean deviation x : Float) : Float :=
  let d := (x - mean) / deviation
  (-0.5 * d * d).exp / (2.5066282746310007 * deviation)

/-- Halves an interval `fuel` times, keeping the part in which `below` turns from true to false. -/
def bisect (below : Float → Bool) : (fuel : Nat) → (lo hi : Float) → Float
  | 0, lo, hi => (lo + hi) / 2
  | fuel + 1, lo, hi =>
    let mid := (lo + hi) / 2
    if below mid then bisect below fuel mid hi else bisect below fuel lo mid

/-- The argument, not negative, at which the complementary error function is `q`. Small values are
compared by their logarithms, which do not lose digits. -/
def erfcInverseUpper (q : Float) : Float :=
  if 0.25 < q then
    let t := 1 - q
    if t == 0 then 0 else bisect (fun x => erf x < t) 100 0 2
  else bisect (fun x => q.log < -x * x - (errorDivisor x).log) 100 0.5 40

/-- The argument at which the complementary error function is `q`. -/
def erfcInverse (q : Float) : Float :=
  if 1 < q then -erfcInverseUpper (2 - q) else erfcInverseUpper q

/-- The value that a normal variable exceeds with probability `1 - p`. -/
def normalQuantile (mean deviation p : Float) : Float :=
  mean - deviation * (2 : Float).sqrt * erfcInverse (2 * p)

def lanczosStart : Float := 2.4857408913875355e-5

/-- The other coefficients of Lanczos's approximation. -/
def lanczos : List Float :=
  [1.0514237858172197, -3.4568709722201625, 4.512277094668948, -2.9828522532357664,
    1.056397115771267, -0.19542877319164587, 0.01709705434044412, -0.0005719261174043057,
    4.633994733599057e-6, -2.7199490848860772e-9]

/-- The logarithm of the gamma function for arguments of at least one half. -/
def lnGamma (x : Float) : Float :=
  let (_, s) := lanczos.foldl (fun (i, s) c => (i + 1, s + c / (x + i - 1))) (1, lanczosStart)
  s.log + 0.6207822376352452 + (x - 0.5) * ((x - 0.5 + 10.900511) / (1 : Float).exp).log

/-- The logarithm of a factorial. Factorials up to that of 170 are doubles. -/
def lnFactorial (n : Nat) : Float :=
  if n ≤ 170 then ((List.range n).foldl (fun x i => x * ofNat (i + 1)) 1).log
  else lnGamma (ofNat n + 1)

/-- A denominator kept away from zero. -/
def awayFromZero (x : Float) : Float :=
  if x.abs < 2.004168360008973e-292 then 2.004168360008973e-292 else x

/-- The continued fraction of the incomplete beta function, from its step `m` on. -/
def betaFraction (a b x : Float) : (fuel : Nat) → (m c d h : Float) → Float
  | 0, _, _, _, h => h
  | fuel + 1, m, c, d, h =>
    let even := m * (b - m) * x / ((a - 1 + m * 2) * (a + m * 2))
    let d := 1 / awayFromZero (1 + even * d)
    let c := awayFromZero (1 + even / c)
    let h := h * d * c
    let odd := -(a + m) * (a + b + m) * x / ((a + m * 2) * (a + 1 + m * 2))
    let d := 1 / awayFromZero (1 + odd * d)
    let c := awayFromZero (1 + odd / c)
    let h := h * (d * c)
    if (d * c - 1).abs ≤ 1.1102230246251565e-16 then h else betaFraction a b x fuel (m + 1) c d h

/-- The incomplete beta function without its leading factor; the fraction is followed for 140
steps at most. -/
def betaSeries (a b x : Float) : Float :=
  let d := 1 / awayFromZero (1 - (a + b) * x / (a + 1))
  betaFraction a b x 140 1 1 d d

/-- Whether a number is 1 but for the last places of its fraction. -/
def isNearlyOne (x : Float) : Bool := (x - 1).abs ≤ 4.440892098500626e-16

/-- The regularized incomplete beta function. -/
def betaRegularized (a b x : Float) : Float :=
  let factor :=
    if x == 0 || isNearlyOne x then 0
    else (lnGamma (a + b) - lnGamma a - lnGamma b + a * x.log + b * (1 - x).log).exp
  if x < (a + 1) / (a + b + 2) then factor * betaSeries a b x / a
  else 1 - factor * betaSeries b a (1 - x) / b

/-- The probability of `k` successes in `n` trials. -/
def binomialMass (k n : Nat) (p : Float) : Float :=
  if p == 0 then (if k = 0 then 1 else 0)
  else if isNearlyOne p then (if k = n then 1 else 0)
  else
    (lnFactorial n - lnFactorial k - lnFactorial (n - k) + ofNat k * p.log +
      ofNat (n - k) * (1 - p).log).exp

/-- The probability of at most `k` successes in `n` trials. -/
def binomialCumulative (k n : Nat) (p : Float) : Float :=
  if n ≤ k then 1 else betaRegularized (ofNat (n - k)) (ofNat k + 1) (1 - p)

end Spreadsheet.Number
