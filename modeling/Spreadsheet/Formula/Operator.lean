import Spreadsheet.Formula.Expr
import Spreadsheet.Value.Arithmetic

/-! What the operators of formulas do with operands that are no errors. -/

namespace Spreadsheet.Formula

def BinaryOp.apply : BinaryOp → Value → Value → Except CellError Value
  | add => Value.arithmetic fun x y => .ok (x + y)
  | subtract => Value.arithmetic fun x y => .ok (x - y)
  | multiply => Value.arithmetic fun x y => .ok (x * y)
  | divide => Value.arithmetic Value.divide
  | power => Value.arithmetic Value.power
  | concat => Value.concat
  | equal => Value.compareWith .equal
  | notEqual => Value.compareWith .notEqual
  | lessThan => Value.compareWith .lessThan
  | lessEqual => Value.compareWith .lessEqual
  | greaterThan => Value.compareWith .greaterThan
  | greaterEqual => Value.compareWith .greaterEqual

/-- A plus sign leaves any single value as it is. -/
def UnaryOp.apply : UnaryOp → Value → Except CellError Value
  | negate, v => do return .number (-(← v.toNumber))
  | percent, v => do return .number ((← v.toNumber) / 100)
  | plus, .array _ => .error (.plain .invalidValue)
  | plus, v => .ok v

end Spreadsheet.Formula
