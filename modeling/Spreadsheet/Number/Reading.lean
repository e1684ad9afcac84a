import Spreadsheet.Number.Decimal
import Spreadsheet.Text.Blank

/-! Numbers read from text: an optional sign, digits with at most one point and at least one
digit, and an optional exponent. Text that users type may end in a percent sign. -/

namespace Spreadsheet.Number

def digitValue (c : Char) : Nat := c.toNat - '0'.toNat

/-- The number that a list of digits spells. -/
def ofDigits (cs : List Char) : Nat := cs.foldl (fun n c => 10 * n + digitValue c) 0

/-- Splits an optional sign off; true stands for minus. -/
def splitSign : List Char → Bool × List Char
  | '-' :: cs => (true, cs)
  | '+' :: cs => (false, cs)
  | cs => (false, cs)

/-- The value of an exponent part, which is empty or `e`, an optional sign and digits. -/
def readExponent? : List Char → Option Int
  | [] => some 0
  | c :: cs =>
    let (negative, ds) := splitSign cs
    if (c == 'e' || c == 'E') && !ds.isEmpty && ds.all Char.isDigit then
      some (applySign negative (ofDigits ds))
    else none

/-- Reads decimal notation as the nearest double, which is infinite for too large a number. -/
def readDecimal? (cs : List Char) : Option Float :=
  let (negative, cs) := splitSign cs
  let whole := cs.takeWhile Char.isDigit
  let rest := cs.dropWhile Char.isDigit
  let fraction := if rest.head? == some '.' then rest.tail.takeWhile Char.isDigit else []
  let rest := if rest.head? == some '.' then rest.tail.dropWhile Char.isDigit else rest
  if whole.isEmpty && fraction.isEmpty then none
  else
    (readExponent? rest).map fun e =>
      withSign negative (Decimal.mk (ofDigits (whole ++ fraction)) (e - fraction.length)).toFloat

/-- The number that a text stands for where a number is wanted; never infinite. -/
def ofText? (s : String) : Option Float :=
  let cs := Text.trimChars s.toList
  let percent := cs.getLast? == some '%'
  let body := if percent then Text.trimEndChars cs.dropLast else cs
  ((readDecimal? body).map (· * (if percent then 0.01 else 1))).filter isFinite

end Spreadsheet.Number
