import Spreadsheet.Number.Binary

/-! Whole powers of doubles by repeated squaring. -/

namespace Spreadsheet.Number

/-- Multiplies `result` by `x` to the power of `n`, for which `fuel` binary digits suffice. -/
def powerLoop : (fuel n : Nat) → (x result : Float) → Float
  | 0, _, _, result => result
  | fuel + 1, n, x, result =>
    let result := if n % 2 == 1 then result * x else result
    if n / 2 == 0 then result else powerLoop fuel (n / 2) (x * x) result

/-- A double to a whole power; a negative power is the reciprocal of the positive one. -/
def powInt (x : Float) (n : Int) : Float :=
  let y := powerLoop (n.natAbs.log2 + 1) n.natAbs x 1
  if n < 0 then 1 / y else y

end Spreadsheet.Number
