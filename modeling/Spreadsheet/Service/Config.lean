import Spreadsheet.Json.Fields
import Spreadsheet.Recalculation

/-! Configuration of the validation service, and its JSON form, in which every part may be left
out. -/

namespace Spreadsheet

open Json (Tree)

/-- The table on which formulas are checked. -/
structure SampleGrid where
  headers : List String
  rows : List (List Cell)

namespace SampleGrid

/-- The numbers from 1 to 9 in three rows. -/
def standard : SampleGrid :=
  ⟨[], [[.number 1, .number 2, .number 3], [.number 4, .number 5, .number 6],
    [.number 7, .number 8, .number 9]]⟩

def toSheet (g : SampleGrid) : Sheet := .ofTable g.headers g.rows

def ofTree? (t : Tree) : Option SampleGrid := do
  let [headers, rows] ← t.fields? ["headers", "rows"] | none
  return ⟨← Tree.fieldOr (Tree.read? Json.texts?) standard.headers headers,
    ← Tree.fieldOr (Tree.read? Json.rows?) standard.rows rows⟩

end SampleGrid

/-- Limits are numbers of 64 bits, which no JSON integer exceeds. -/
def EvaluationOptions.ofTree? (t : Tree) : Option EvaluationOptions := do
  let [calls, nodes, cells] ← t.fields? ["maxCallDepth", "maxExpressionDepth", "maxRangeCells"]
    | none
  return ⟨← Tree.fieldOr (Tree.read? Json.count?) standard.maxCallDepth calls,
    ← Tree.fieldOr (Tree.read? Json.count?) standard.maxExpressionDepth nodes,
    ← Tree.fieldOr (Tree.read? Json.count?) standard.maxRangeCells cells⟩

def CalculationOptions.ofTree? (t : Tree) : Option CalculationOptions := do
  let [formulaCells, evaluation] ← t.fields? ["formulaCells", "evaluation"] | none
  return ⟨← Tree.fieldOr (Tree.read? Json.boolean?) standard.formulaCells formulaCells,
    ← Tree.fieldOr EvaluationOptions.ofTree? standard.evaluation evaluation⟩

structure ServiceConfig where
  sample : SampleGrid
  calculation : CalculationOptions

namespace ServiceConfig

def standard : ServiceConfig := ⟨.standard, .standard⟩

def isStandard (c : ServiceConfig) : Bool :=
  c.sample.headers == SampleGrid.standard.headers && c.sample.rows == SampleGrid.standard.rows &&
    c.calculation == .standard

def ofTree? (t : Tree) : Option ServiceConfig := do
  let [sample, calculation] ← t.fields? ["sample", "calculation"] | none
  return ⟨← Tree.fieldOr SampleGrid.ofTree? .standard sample,
    ← Tree.fieldOr CalculationOptions.ofTree? .standard calculation⟩

/-- Reads a configuration from JSON text. -/
def ofText? (s : String) : Option ServiceConfig := (Tree.parse? s).bind ofTree?

end ServiceConfig

end Spreadsheet
