import Spreadsheet.Proofs.Recalculation.Failure
import Spreadsheet.Service.Validation

/-! What the validation service rejects: texts that are no formulas, and evaluations that exceed a
limit on depth. Errors of any other kind are values. -/

namespace Spreadsheet

namespace Outcome

variable {result : Except DepthExceeded Value} {r : Rejection}

end Outcome

namespace ServiceConfig

/-- An evaluation for a client exceeds a limit: that of a formula cell in its turn, or that of the
expression itself on the recalculated sheet. -/
def Exceeds (c : ServiceConfig) (e : Formula.Expr) (s : Sheet)
    (due : List (Position × Formula.Expr)) : Prop :=
  c.calculation.formulaCells = true ∧
      Sheet.ExceedsInTurn c.calculation.evaluation s.prepare due ∨
    ∃ t stats x, s.recalculate c.calculation = .ok (t, stats) ∧
      t.evaluate c.calculation.evaluation e = .error x

variable {c : ServiceConfig} {e : Formula.Expr} {s : Sheet} {due : List (Position × Formula.Expr)}

end ServiceConfig

end Spreadsheet
