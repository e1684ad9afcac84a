import Spreadsheet.Value

/-! The order of values. Numbers come before texts, texts before truth values; texts compare without
regard to case, and a blank stands for the zero of the other value's type. -/

namespace Spreadsheet

/-- The comparisons that operators and criteria can ask for. -/
inductive Comparison where
  | equal
  | notEqual
  | lessThan
  | lessEqual
  | greaterThan
  | greaterEqual
  deriving DecidableEq, Repr

/-- Whether a comparison holds of two things in a given order. -/
def Comparison.holds : Comparison → Ordering → Bool
  | equal, o => o == .eq
  | notEqual, o => o != .eq
  | lessThan, o => o == .lt
  | lessEqual, o => o != .gt
  | greaterThan, o => o == .gt
  | greaterEqual, o => o != .lt

namespace Value

/-- The place of a type among the types. -/
def typeRank : Value → Nat
  | number _ => 0
  | text _ => 1
  | boolean _ => 2
  | _ => 3

/-- The value that a blank stands for beside another value. -/
def blankBeside : Value → Value
  | text _ => text ""
  | boolean _ => boolean false
  | _ => number 0

def compareTexts (s t : String) : Ordering := Ord.compare (Text.lower s) (Text.lower t)

/-- The order of values other than blanks. -/
def comparePresent : Value → Value → Ordering
  | number x, number y => Number.compare x y
  | text s, text t => compareTexts s t
  | boolean a, boolean b => Ord.compare a b
  | a, b => Ord.compare a.typeRank b.typeRank

def compare (a b : Value) : Ordering :=
  match a.isBlank, b.isBlank with
  | true, true => .eq
  | true, false => comparePresent b.blankBeside b
  | false, true => comparePresent a a.blankBeside
  | false, false => comparePresent a b

end Value

end Spreadsheet
