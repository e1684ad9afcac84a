import Spreadsheet.Function.Library
import Spreadsheet.Json

/-! The catalog of tools: one that evaluates a formula, one that checks a formula, and one for each
function. A descriptor holds the JSON schema of a tool's input. -/

namespace Spreadsheet

namespace Function

/-- How many of the last parameters take lists of arguments. -/
def repeatingCount (f : Function) : Nat :=
  if 0 < f.repeating ∧ f.repeating ≤ f.parameters.length then f.repeating
  else if f.maxArgs.isNone then min f.parameters.length 1
  else 0

/-- How many parameters take one argument each. -/
def fixedCount (f : Function) : Nat := f.parameters.length - f.repeatingCount

def fixedParameters (f : Function) : List Parameter := f.parameters.take f.fixedCount

def repeatedParameters (f : Function) : List Parameter := f.parameters.drop f.fixedCount

/-- Whether the parameter at an index must be given. -/
def isRequired (f : Function) (index : Nat) : Bool :=
  index < min f.minArgs f.fixedCount || (f.fixedCount ≤ index && f.fixedCount < f.minArgs)

def requiredNames (f : Function) : List String :=
  (f.parameters.zipIdx.filter fun (_, i) => f.isRequired i).map (·.1.name)

end Function

structure ToolDescriptor where
  name : String
  description : String
  inputSchema : Json

namespace ToolDescriptor

def evaluateFormula : String := "evaluate_formula"

def checkFormulaSyntax : String := "check_formula_syntax"

def ofType (name : String) : Json := .ofMembers [("type", .text name)]

def listOf (items : Json) : Json := .ofMembers [("type", .text "array"), ("items", items)]

def oneOfTypes (names : List String) : String × Json := ("type", .array (names.map .text))

def objectOf (properties : List (String × Json)) (required : List String) : Json :=
  .ofMembers [("type", .text "object"), ("properties", .ofMembers properties),
    ("required", .array (required.map .text))]

def cellSchema : Json := .ofMembers [oneOfTypes ["number", "string", "boolean", "null"]]

def parameterSchema : Function.ArgKind → Json
  | .array =>
    .ofMembers [oneOfTypes ["number", "string", "boolean", "null", "array"],
      ("description", .text "A value, a list (one column) or a list of rows")]
  | .scalar | .delayed => cellSchema

def evaluation : ToolDescriptor where
  name := evaluateFormula
  description :=
    "Evaluates a spreadsheet formula against tabular data. Headers occupy row 1 when given, " ++
      "data rows follow. Returns \x7bresult\x7d or \x7berror, errorKind\x7d; spreadsheet " ++
      "errors such as #DIV/0! are results, not failures."
  inputSchema :=
    objectOf
      [("formula", .ofMembers [("type", .text "string"),
        ("description", .text "Formula text, e.g. =SUM(A2:A10)")]),
        ("headers", listOf (ofType "string")), ("dataRows", listOf (listOf cellSchema))]
      ["formula"]

def syntaxCheck : ToolDescriptor where
  name := checkFormulaSyntax
  description :=
    "Checks whether a formula parses and evaluates on a small sample grid. A formula producing " ++
      "a spreadsheet error value is still valid."
  inputSchema := objectOf [("formula", ofType "string")] ["formula"]

def ofFunction (f : Function) : ToolDescriptor where
  name := f.name
  description := f.description
  inputSchema :=
    let property (p : Function.Parameter) (index : Nat) : String × Json :=
      let schema := parameterSchema p.kind
      (p.name, if index < f.fixedCount then schema else listOf schema)
    objectOf (f.parameters.zipIdx.map fun (p, i) => property p i) f.requiredNames

/-- All tools: first those of the service, then the functions by name. -/
def all : List ToolDescriptor := evaluation :: syntaxCheck :: Function.all.map ofFunction

/-- The tool with a name, or else with that name in another case of letters. -/
def find? (name : String) : Option ToolDescriptor :=
  (all.find? fun t => t.name == name) <|> all.find? fun t => Text.sameAscii t.name name

def toJson (t : ToolDescriptor) : Json :=
  .ofMembers [("name", .text t.name), ("description", .text t.description),
    ("inputSchema", t.inputSchema)]

end ToolDescriptor

end Spreadsheet
