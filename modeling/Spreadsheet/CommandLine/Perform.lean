import Spreadsheet.CommandLine.Arguments
import Spreadsheet.Json.Render
import Spreadsheet.Tool.Call

/-! What the commands do: the exit status, the output and the error of each, given the contents of
files. -/

namespace Spreadsheet.CommandLine

structure Report where
  exitStatus : Nat
  output : String
  error : Option String

namespace Report

/-- A report of JSON output. -/
def ofJson (exitStatus : Nat) (e : Json) : Report := ⟨exitStatus, e.pretty "" ++ "\n", none⟩

def failure (message : String) : Report := ⟨1, "", some s!"Error: {message}"⟩

end Report

/-- Fails with a message when there is no value. -/
def orFail {α : Type} (message : String) : Option α → Except String α
  | some a => .ok a
  | none => .error message

/-- The configuration of an invocation: the one of a file or the standard one, with the limits that
the arguments set. -/
def configOf (readFile : String → Option String) (i : Invocation) :
    Except String ServiceConfig := do
  let c ←
    match i.config with
    | none => .ok .standard
    | some file =>
      orFail s!"Failed to load config '{file}'" ((readFile file).bind ServiceConfig.ofText?)
  let limits := c.calculation.evaluation
  return { c with
    calculation.evaluation.maxCallDepth := i.maxCallDepth.getD limits.maxCallDepth
    calculation.evaluation.maxExpressionDepth :=
      i.maxExpressionDepth.getD limits.maxExpressionDepth }

/-- Reads a table from JSON text: a list of rows, or an object with headers and rows. -/
def parseTable? (s : String) : Option (List String × List (List Cell)) := do
  let t ← Json.Tree.parse? s
  let e ← t.toJson? Json.maxDepth
  match e.rows?, t with
  | some rows, _ => return ([], rows)
  | none, .object members =>
    let [headers, rows] ← Json.Tree.members? ["headers", "rows"] members | none
    return (← Json.Tree.fieldOr (Json.Tree.read? Json.texts?) [] headers,
      ← Json.Tree.fieldOr (Json.Tree.read? Json.rows?) [] rows)
  | none, _ => none

def readTable (readFile : String → Option String) (file : String) :
    Except String (List String × List (List Cell)) := do
  let text ← orFail s!"Failed to read '{file}'" (readFile file)
  orFail s!"Invalid data file '{file}'" (parseTable? text)

/-- The exit status of an answer about a formula. -/
def statusOf (o : Outcome) : Nat := if o.isValid then 0 else 1

def padded (width : Nat) (s : String) : String :=
  String.ofList (s.toList ++ List.replicate (width - s.length) ' ')

def functionLine (f : Function) : String :=
  padded 16 f.name ++ " " ++ padded 12 f.category.name ++ " " ++ f.description ++ "\n"

def listFunctions : Option String → Except String Report
  | none => .ok ⟨0, String.join (Function.all.map functionLine), none⟩
  | some name =>
    match Function.Category.ofName? name with
    | some c => .ok ⟨0, String.join ((Function.ofCategory c).map functionLine), none⟩
    | none =>
      let names := ", ".intercalate (Function.Category.all.map Function.Category.name)
      .error s!"Unknown category '{name}' (expected one of: {names})"

def run (readFile : String → Option String) (c : ServiceConfig) : Command → Except String Report
  | .eval formula data headers => do
    let (fileHeaders, rows) ← data.elim (.ok ([], [])) (readTable readFile)
    let outcome := c.evaluateTable formula (headers.getD fileHeaders) rows
    return .ofJson (statusOf outcome) outcome.toJson
  | .check formula =>
    let outcome := c.checkFormula formula
    .ok (.ofJson (statusOf outcome) outcome.checkJson)
  | .tools none => .ok (.ofJson 0 (.array (ToolDescriptor.all.map ToolDescriptor.toJson)))
  | .tools (some name) => do
    let tool ← orFail s!"No tool named '{name}'" (ToolDescriptor.find? name)
    return .ofJson 0 tool.toJson
  | .call tool input => do
    let input ← orFail "Tool input is not valid JSON" (Json.parse? input)
    let output ← (c.callTool tool input).mapError fun _ => s!"Tool '{tool}' failed"
    return .ofJson 0 output
  | .functions category => listFunctions category

def Invocation.perform (readFile : String → Option String) (i : Invocation) : Report :=
  match configOf readFile i >>= fun c => run readFile c i.command with
  | .ok report => report
  | .error message => .failure message

/-- The files that an invocation reads. -/
def Invocation.files (i : Invocation) : List String :=
  let data :=
    match i.command with
    | .eval _ data _ => data
    | _ => none
  i.config.toList ++ data.toList

def usageText : String :=
  "Usage: cellcalc [OPTIONS] <COMMAND>\n\nCommands: " ++
    ", ".intercalate (commands.map CommandForm.name) ++ "\n"

def settingName (s : Setting) : String :=
  match ((commonForms ++ commands.flatMap CommandForm.options).find? (·.setting = s)) with
  | some form => "--" ++ form.long
  | none => ""

def UsageFault.message : UsageFault → String
  | help | noCommand => usageText
  | version => "cellcalc 0.1.0\n"
  | unknownCommand name => s!"error: unrecognized subcommand '{name}'\n"
  | unknownOption argument => s!"error: unexpected argument '{argument}'\n"
  | missingValue setting => s!"error: a value is required for '{settingName setting}'\n"
  | repeatedOption setting => s!"error: '{settingName setting}' cannot be used multiple times\n"
  | badValue setting value => s!"error: invalid value '{value}' for '{settingName setting}'\n"
  | missingOperand => "error: a required argument was not provided\n"
  | excessOperand operand => s!"error: unexpected argument '{operand}'\n"

/-- Help and version are output; any other fault is an error with exit status 2. -/
def UsageFault.report : UsageFault → Report
  | help => ⟨0, UsageFault.help.message, none⟩
  | version => ⟨0, UsageFault.version.message, none⟩
  | fault => ⟨2, "", some fault.message⟩

/-- The report on the arguments of the program. -/
def perform (readFile : String → Option String) (args : List String) : Report :=
  match parse args with
  | .ok i => i.perform readFile
  | .error fault => fault.report

end Spreadsheet.CommandLine
