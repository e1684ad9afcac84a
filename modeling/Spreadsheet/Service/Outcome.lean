import Spreadsheet.Formula.Token
import Spreadsheet.Function.Definition
import Spreadsheet.Json

/-! Outcomes of evaluating a formula for a client: a value, an error value, or a rejection when the
text is no formula or a limit on depth is exceeded. -/

namespace Spreadsheet

inductive Rejection where
  | malformed (e : Formula.ParseError)
  | tooDeep (e : DepthExceeded)

namespace Rejection

def kindName : Rejection → String
  | malformed _ => "ParseError"
  | tooDeep _ => "Fatal"

def message : Rejection → String
  | malformed e => e.message
  | tooDeep e => e.message

end Rejection

inductive Outcome where
  | value (v : Value)
  | error (e : CellError)
  | rejected (r : Rejection)

/-- A value inside a result; an error is its code. -/
def Value.toJson : Value → Json
  | blank => .null
  | number x => .ofFloat x
  | text s => .text s
  | boolean b => .boolean b
  | error e => .text e.kind.code
  | array rows => .array (rows.map fun row => .array (row.map toJson))
decreasing_by
  have inRow := List.sizeOf_lt_of_mem ‹_ ∈ row›
  have inRows := List.sizeOf_lt_of_mem ‹row ∈ rows›
  simp only [array.sizeOf_spec]
  omega

/-- A value as a whole result, where a blank counts as 0. -/
def Value.resultJson : Value → Json
  | blank => .ofFloat 0
  | v => v.toJson

namespace Outcome

def ofResult : Except DepthExceeded Value → Outcome
  | .ok (.error e) => error e
  | .ok v => value v
  | .error e => rejected (.tooDeep e)

/-- Whether the formula was evaluated, be it to an error value. -/
def isValid : Outcome → Bool
  | rejected _ => false
  | _ => true

def toJson : Outcome → Json
  | value v => .ofMembers [("result", v.resultJson)]
  | error e =>
    .ofMembers ([("error", .text e.kind.code), ("errorKind", .text e.kind.name)] ++
      (e.detail.map fun detail => ("detail", .text detail)).toList)
  | rejected r => .ofMembers [("error", .text r.message), ("errorKind", .text r.kindName)]

/-- The outcome as the answer to whether a formula is valid. -/
def checkJson : Outcome → Json
  | value v => .ofMembers [("isValid", .boolean true), ("value", v.resultJson)]
  | error e => .ofMembers [("isValid", .boolean true), ("value", .text e.kind.code)]
  | rejected r => .ofMembers [("isValid", .boolean false), ("error", .text r.message)]

end Outcome

end Spreadsheet
