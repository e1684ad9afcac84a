import Spreadsheet.Function.Arguments
import Spreadsheet.Text.Wildcard
import Spreadsheet.Value.Order

/-! Criteria of the conditional aggregations. A criterion is a value to be equal to, or a text with
an optional comparison in front of a number, a truth value, an error code or a pattern. -/

namespace Spreadsheet.Function

inductive Criterion where
  | number (op : Comparison) (x : Float)
  | boolean (op : Comparison) (b : Bool)
  | pattern (p : Text.Pattern) (negated : Bool)
  | textOrder (op : Comparison) (s : String)
  | error (kind : ErrorKind)
  | blank
  | notBlank

namespace Criterion

/-- Splits a comparison off the front of a text. -/
def splitComparison : List Char → Option Comparison × List Char
  | '>' :: '=' :: cs => (some .greaterEqual, cs)
  | '<' :: '=' :: cs => (some .lessEqual, cs)
  | '<' :: '>' :: cs => (some .notEqual, cs)
  | '>' :: cs => (some .greaterThan, cs)
  | '<' :: cs => (some .lessThan, cs)
  | '=' :: cs => (some .equal, cs)
  | cs => (none, cs)

/-- The criterion of a comparison with a text that is neither number nor truth value nor error. -/
def ofWord (op : Comparison) (rest : List Char) : Criterion :=
  match op with
  | .equal => pattern (Text.patternOf rest) false
  | .notEqual => pattern (Text.patternOf rest) true
  | op => textOrder op (String.ofList rest)

def ofText (s : String) : Criterion :=
  let (op?, rest) := splitComparison s.toList
  let op := op?.getD .equal
  let text := String.ofList rest
  if rest.isEmpty then
    if op = .notEqual then notBlank else blank
  else
    match Number.ofText? text with
    | some x => number op x
    | none =>
      if Text.sameAscii text "TRUE" then boolean op true
      else if Text.sameAscii text "FALSE" then boolean op false
      else
        match ErrorKind.ofCode? (Text.trim text), op with
        | some kind, .equal => error kind
        | _, op => ofWord op rest

def ofValue : Value → Criterion
  | .number x => number .equal x
  | .boolean b => boolean .equal b
  | .text s => ofText s
  | .error e => error e.kind
  | .blank | .array _ => blank

/-- Whether a pattern matches a value; errors and arrays match none. -/
def patternMatches (p : Text.Pattern) : Value → Bool
  | .error _ | .array _ => false
  | v => p.isMatch (Text.lowerEach v.display)

/-- Whether a value meets a criterion. -/
def isMet : Criterion → Value → Bool
  | number op x, .number y => op.holds (Number.compare y x)
  | number op x, .text s =>
    if op = .equal then (Number.ofText? s).any (Number.compare · x == .eq) else op = .notEqual
  | number op _, _ => op = .notEqual
  | boolean op b, .boolean c => op.holds (Ord.compare c b)
  | boolean op _, _ => op = .notEqual
  | pattern p negated, v => patternMatches p v != negated
  | textOrder op s, .text t => op.holds (Value.compareTexts t s)
  | textOrder _ _, _ => false
  | error kind, .error e => e.kind == kind
  | error _, _ => false
  | blank, .blank => true
  | blank, .text s => s.isEmpty
  | blank, _ => false
  | notBlank, v => !v.isBlank

end Criterion

end Spreadsheet.Function
