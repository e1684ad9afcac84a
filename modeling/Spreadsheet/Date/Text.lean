import Spreadsheet.Date
import Spreadsheet.Number.Reading
import Spreadsheet.Text.Digit

/-! Date text: `YYYY-MM-DD`, month and day with one or two digits, which a time of day may follow
after a blank or a `T`. -/

namespace Spreadsheet.Date

/-- At least `least` and at most `most` digits at the front of a list. -/
def digitRun? (least most : Nat) (cs : List Char) : Option (List Char × List Char) :=
  let ds := (cs.take most).takeWhile Text.isDecimalDigit
  if ds.length < least then none else some (ds, cs.drop ds.length)

/-- What is left behind a given character. -/
def after? (c : Char) : List Char → Option (List Char)
  | d :: cs => if d == c then some cs else none
  | [] => none

/-- Skips what `read` reads, or nothing when it fails. -/
def skipOptional (read : List Char → Option (List Char)) (cs : List Char) : List Char :=
  (read cs).getD cs

/-- A point and at least one digit. -/
def skipFraction? (cs : List Char) : Option (List Char) := do
  let rest ← after? '.' cs
  let (_, rest) ← digitRun? 1 rest.length rest
  return rest

def skipSeconds? (cs : List Char) : Option (List Char) := do
  let (_, rest) ← digitRun? 2 2 (← after? ':' cs)
  return skipOptional skipFraction? rest

def skipTime? : List Char → Option (List Char)
  | c :: cs => do
    if c != 'T' && c != ' ' then none
    let (_, rest) ← digitRun? 1 2 cs
    let (_, rest) ← digitRun? 2 2 (← after? ':' rest)
    return skipOptional skipSeconds? rest
  | [] => none

/-- The number of a run of digits, which must be ASCII digits. -/
def number? (ds : List Char) : Option Nat :=
  if ds.all Char.isDigit then some (Number.ofDigits ds) else none

def ofText? (s : String) : Option Date := do
  let (year, rest) ← digitRun? 4 4 (Text.trimStartChars s.toList)
  let (month, rest) ← digitRun? 1 2 (← after? '-' rest)
  let (day, rest) ← digitRun? 1 2 (← after? '-' rest)
  if !(Text.trimStartChars (skipOptional skipTime? rest)).isEmpty then none
  ofParts? (← number? year) (← number? month) (← number? day)

end Spreadsheet.Date
