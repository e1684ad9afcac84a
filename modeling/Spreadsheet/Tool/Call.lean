import Spreadsheet.Service.Validation
import Spreadsheet.Tool.Input

/-! Calls of tools. -/

namespace Spreadsheet

inductive ToolError where
  | unknownTool (name : String)
  | invalidInput (tool : String) (fault : InputFault)
  | evaluation (r : Rejection)

def ToolError.message : ToolError → String
  | unknownTool name => s!"Unknown tool: {name}"
  | invalidInput tool fault => s!"Invalid input for {tool}: {fault.message}"
  | evaluation r => s!"Evaluation failed: {r.message}"

namespace ServiceConfig

/-- The answer of the tool that evaluates a formula, unless its input is malformed. -/
def evaluationOutput? (c : ServiceConfig) (input : Json) : Option Json := do
  let [formula, headers, rows] ← input.fields? ["formula", "headers", "dataRows"] | none
  let formula ← (← formula).text?
  let headers ← Json.fieldOr Json.texts? [] headers
  let rows ← Json.fieldOr Json.rows? [] rows
  return (c.evaluateTable formula headers rows).toJson

/-- The answer of the tool that checks a formula, unless its input is malformed. -/
def checkOutput? (c : ServiceConfig) (input : Json) : Option Json := do
  let [formula] ← input.fields? ["formula"] | none
  return (c.checkFormula (← (← formula).text?)).checkJson

/-- Calls a function on literal arguments. -/
def callFunction (c : ServiceConfig) (f : Function) (input : Json) : Except ToolError Json := do
  let e ← (f.callOf input).mapError (.invalidInput f.name)
  match c.evaluateExpr e .empty with
  | .rejected r => .error (.evaluation r)
  | outcome => return outcome.toJson

/-- Calls a tool by name. Those of the service are named exactly, functions in any case of
letters. -/
def callTool (c : ServiceConfig) (name : String) (input : Json) : Except ToolError Json :=
  let orMalformed (output : Option Json) : Except ToolError Json :=
    output.elim (.error (.invalidInput name .malformed)) .ok
  if name = ToolDescriptor.evaluateFormula then orMalformed (c.evaluationOutput? input)
  else if name = ToolDescriptor.checkFormulaSyntax then orMalformed (c.checkOutput? input)
  else
    match Function.find? name with
    | some f => c.callFunction f input
    | none => .error (.unknownTool name)

end ServiceConfig

end Spreadsheet
