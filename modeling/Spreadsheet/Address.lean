import Spreadsheet.Number.Reading

/-! Cell addresses such as `B7` or `$C$12`. Rows and columns count from zero; in text a column is a
number in bijective base 26 and a row a decimal number, each counted from one, and a dollar sign
marks the part behind it as absolute. -/

namespace Spreadsheet

def maxRows : Nat := 1048576

def maxColumns : Nat := 16384

structure Address where
  row : Nat
  col : Nat
  rowAbsolute : Bool
  colAbsolute : Bool
  deriving DecidableEq, Repr, Inhabited

/-- What makes a text no address. -/
inductive AddressFault where
  | missingLetters
  | badLetters
  | malformedRow
  | rowZero
  deriving DecidableEq, Repr

def AddressFault.message : AddressFault → String
  | missingLetters => "missing column letters"
  | badLetters => "column letters must be A-Z"
  | malformedRow => "missing or malformed row number"
  | rowZero => "rows are numbered from 1"

inductive AddressError where
  | invalidAddress (text : String) (fault : AddressFault)
  | invalidRange (text : String) (corner : AddressError)
  | rowOutOfBounds (row : Nat)
  | columnOutOfBounds (letters : String)
  deriving DecidableEq, Repr

def AddressError.message : AddressError → String
  | invalidAddress text fault => s!"Invalid cell address '{text}': {fault.message}"
  | invalidRange text corner => s!"Invalid cell range '{text}': {corner.message}"
  | rowOutOfBounds row => s!"Row {row} is past the last row ({maxRows})"
  | columnOutOfBounds letters => s!"Column {letters} is past the last column (XFD)"

namespace Address

def relative (row col : Nat) : Address := ⟨row, col, false, false⟩

def absolute (row col : Nat) : Address := ⟨row, col, true, true⟩

def isValid (a : Address) : Bool := a.row < maxRows && a.col < maxColumns

theorem isValid_iff {a : Address} : a.isValid = true ↔ a.row < maxRows ∧ a.col < maxColumns := by
  simp [isValid]

def letterValue (c : Char) : Nat := c.toUpper.toNat - 'A'.toNat + 1

/-- The digits of a positive number in bijective base 26. -/
def lettersOf (n : Nat) : List Char :=
  if n = 0 then [] else lettersOf ((n - 1) / 26) ++ [Char.ofNat ('A'.toNat + (n - 1) % 26)]
termination_by n
decreasing_by omega

def columnLetters (col : Nat) : String := String.ofList (lettersOf (col + 1))

/-- Reads letters on to the column number `n`, which stops as soon as it is past the last one. -/
def readLetters (letters : String) : (n : Nat) → List Char → Except AddressError Nat
  | n, [] => .ok n
  | n, c :: cs =>
    if !c.isAlpha then .error (.invalidAddress letters .badLetters)
    else
      let next := n * 26 + letterValue c
      if maxColumns < next then .error (.columnOutOfBounds letters.toUpper)
      else readLetters letters next cs

/-- The column that letters name, counted from zero. -/
def columnOfLetters (letters : String) : Except AddressError Nat :=
  if letters.isEmpty then .error (.invalidAddress letters .missingLetters)
  else (readLetters letters 0 letters.toList).map (· - 1)

/-- Splits a dollar sign off. -/
def splitDollar : List Char → Bool × List Char
  | '$' :: cs => (true, cs)
  | cs => (false, cs)

/-- The parts of an address text: dollar sign, letters, dollar sign, the rest. -/
def splitParts (cs : List Char) : Bool × List Char × Bool × List Char :=
  let (colAbsolute, cs) := splitDollar cs
  let (rowAbsolute, rest) := splitDollar (cs.dropWhile Char.isAlpha)
  (colAbsolute, cs.takeWhile Char.isAlpha, rowAbsolute, rest)

/-- Whether a text has the form of an address, its numbers not looked at. -/
def hasForm (s : String) : Bool :=
  let (_, letters, _, digits) := splitParts s.toList
  !letters.isEmpty && !digits.isEmpty && digits.all Char.isDigit

/-- The greatest row number that an error reports. -/
def rowLimit : Nat := 4294967295

def parse (s : String) : Except AddressError Address :=
  let text := Text.trim s
  let (colAbsolute, letters, rowAbsolute, digits) := splitParts text.toList
  if letters.isEmpty then .error (.invalidAddress text .missingLetters)
  else if digits.isEmpty || !digits.all Char.isDigit then
    .error (.invalidAddress text .malformedRow)
  else do
    let col ← columnOfLetters (String.ofList letters)
    let row := Number.ofDigits digits
    if row = 0 then .error (.invalidAddress text .rowZero)
    else if maxRows < row then .error (.rowOutOfBounds (min row rowLimit))
    else .ok ⟨row - 1, col, rowAbsolute, colAbsolute⟩

def dollar (isAbsolute : Bool) : List Char := if isAbsolute then ['$'] else []

def toText (a : Address) : String :=
  String.ofList (dollar a.colAbsolute ++ lettersOf (a.col + 1) ++ dollar a.rowAbsolute ++
    Number.digits (a.row + 1))

end Address

end Spreadsheet
