import Spreadsheet.Service.Config
import Spreadsheet.Service.Outcome

/-! The validation service: evaluates formulas on recalculated sheets under a configuration. -/

namespace Spreadsheet.ServiceConfig

/-- Evaluates an expression on a sheet whose formula cells are calculated first. -/
def evaluateExpr (c : ServiceConfig) (e : Formula.Expr) (s : Sheet) : Outcome :=
  .ofResult do
    let (computed, _) ← s.recalculate c.calculation
    computed.evaluate c.calculation.evaluation e

def evaluateFormula (c : ServiceConfig) (formula : String) (s : Sheet) : Outcome :=
  match Formula.parse formula with
  | .error e => .rejected (.malformed e)
  | .ok e => c.evaluateExpr e s

/-- Evaluates a formula on a table. -/
def evaluateTable (c : ServiceConfig) (formula : String) (headers : List String)
    (rows : List (List Cell)) : Outcome :=
  c.evaluateFormula formula (.ofTable headers rows)

/-- Evaluates a formula on the sample grid. -/
def checkFormula (c : ServiceConfig) (formula : String) : Outcome :=
  c.evaluateFormula formula c.sample.toSheet

end Spreadsheet.ServiceConfig
