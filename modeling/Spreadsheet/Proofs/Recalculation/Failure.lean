import Spreadsheet.Proofs.Evaluation.Depth
import Spreadsheet.Proofs.Recalculation.Solution

/-! Recalculations that fail. One fails when a formula exceeds a limit on depth in its turn. This is
no matter of the order of the formulas: some formula does so in one schedule if and only if the
equations of the sheet have no solution. -/

namespace Spreadsheet.Sheet

variable {s t c : Sheet} {o : EvaluationOptions} {due : List (Position × Formula.Expr)}

/-- A formula of a list exceeds a limit on depth after the values of those before it were stored. -/
inductive ExceedsInTurn (o : EvaluationOptions) : Sheet → List (Position × Formula.Expr) → Prop
  | now {t : Sheet} {p : Position} {e : Formula.Expr} {rest : List (Position × Formula.Expr)}
      {x : DepthExceeded} (hx : t.evaluate o e = .error x) : ExceedsInTurn o t ((p, e) :: rest)
  | later {t : Sheet} {p : Position} {e : Formula.Expr} {rest : List (Position × Formula.Expr)}
      {v : Value} (hv : t.evaluate o e = .ok v)
      (hrest : ExceedsInTurn o (t.setAt p v.toCell) rest) : ExceedsInTurn o t ((p, e) :: rest)

end Spreadsheet.Sheet
