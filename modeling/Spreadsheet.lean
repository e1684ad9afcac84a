import Spreadsheet.Main
import Spreadsheet.Formula.Printer
import Spreadsheet.Formula.Parser
import Spreadsheet.Json.Render
import Spreadsheet.Sheet
import Spreadsheet.Proofs.Evaluation.Finite
import Spreadsheet.Proofs.Evaluation.Footprint
import Spreadsheet.Proofs.Evaluation.Clipping
import Spreadsheet.Proofs.Graph.Cycle
import Spreadsheet.Proofs.Recalculation.Equations
import Spreadsheet.Proofs.Recalculation.Solution
import Spreadsheet.Proofs.Recalculation.Statistics
import Spreadsheet.Proofs.Recalculation.Failure
import Spreadsheet.Proofs.Service.Rejection
import Spreadsheet.Proofs.Number.Notation
import Spreadsheet.Proofs.Text.Prefix
import Spreadsheet.Proofs.Address.Notation
import Spreadsheet.Proofs.Formula.WellFormed
import Spreadsheet.Proofs.Formula.Soundness
import Spreadsheet.Proofs.Formula.Scanning
import Spreadsheet.Proofs.Formula.Spelling
import Spreadsheet.Proofs.Formula.Rereading
import Spreadsheet.Proofs.Formula.Canonical
import Spreadsheet.Proofs.Number.Nearest
import Spreadsheet.Proofs.Graph.Component
import Spreadsheet.Proofs.Evaluation.Accepted
import Spreadsheet.Proofs.Evaluation.Unreached
import Spreadsheet.Proofs.Evaluation.SingleCell
import Spreadsheet.Proofs.Function.Unreached
import Spreadsheet.Proofs.Evaluation.Counting
import Spreadsheet.Proofs.Tool.Layout
import Spreadsheet.Proofs.Text.Wildcard
import Spreadsheet.Proofs.Function.TextEquality
import Spreadsheet.Proofs.Number.Whole
import Spreadsheet.Proofs.Value.Order
import Spreadsheet.Proofs.Function.Nearest
import Spreadsheet.Proofs.Function.Tables
import Spreadsheet.Proofs.Evaluation.Arguments
import Spreadsheet.Proofs.Evaluation.Index
import Spreadsheet.Proofs.Evaluation.Lookup
import Spreadsheet.Proofs.Evaluation.Switch
import Spreadsheet.Proofs.Sheet.Ranges
import Spreadsheet.Proofs.Sheet.Writes
import Spreadsheet.Proofs.Formula.Nodes
import Spreadsheet.Proofs.Formula.Termination
import Spreadsheet.Proofs.Formula.Spacing
import Spreadsheet.Proofs.Address.Reading
import Spreadsheet.Proofs.Range.Cells
import Spreadsheet.Proofs.Evaluation.Conditional
import Spreadsheet.Proofs.Evaluation.Workdays
import Spreadsheet.Proofs.Evaluation.Supported
import Spreadsheet.Proofs.Evaluation.RollOver
import Spreadsheet.Proofs.Evaluation.Weeks
import Spreadsheet.Proofs.Evaluation.Midnight
import Spreadsheet.Proofs.Evaluation.Texts
import Spreadsheet.Proofs.Evaluation.FirstOccurrence
import Spreadsheet.Proofs.Evaluation.Aggregates
import Spreadsheet.Proofs.Evaluation.OrderStatistics
