import Spreadsheet.Evaluation.Options
import Spreadsheet.Function.Library
import Spreadsheet.Value.Arithmetic

/-! Calls of functions: the arguments are evaluated as the parameters ask for, and the result has
no number that is not finite. -/

namespace Spreadsheet

/-- Replaces the numbers of a value that are not finite by errors. -/
def Value.finite : Value → Value
  | number x => if Number.isFinite x then number x else error notFinite
  | array rows => array (rows.map fun row => row.map finite)
  | v => v
decreasing_by
  have inRow := List.sizeOf_lt_of_mem ‹_ ∈ row›
  have inRows := List.sizeOf_lt_of_mem ‹row ∈ rows›
  simp only [array.sizeOf_spec]
  omega

/-- The value of a result or of the error in its place. -/
def Value.ofAnswer : Except CellError Value → Value
  | .ok v => v
  | .error e => error e

namespace Function

/-- Evaluates the argument at an index of an eager function. -/
def evalArgument (f : Function) (index : Nat) (a : Delayed) : Except DepthExceeded Value :=
  match f.argKind index with
  | .array => a.array ()
  | _ => do
    match ← a.value () with
    | .array _ =>
      return .error (.value s!"argument {index + 1} of {f.name} must be a single value")
    | v => return v

/-- The values of the arguments from an index on, or the first error among them, behind which no
argument is evaluated. -/
def evalArguments (f : Function) :
    (index : Nat) → List Delayed → Except DepthExceeded (Except CellError (List Value))
  | _, [] => .ok (.ok [])
  | index, a :: rest => do
    match ← f.evalArgument index a with
    | .error e => return .error e
    | v => return (← evalArguments f (index + 1) rest).map (v :: ·)

/-- The result of a function for arguments of a number that it takes. -/
def run (f : Function) (args : List Delayed) : Except DepthExceeded Value :=
  match f.implementation with
  | .delayed g => g args
  | .eager g => do return .ofAnswer ((← f.evalArguments 0 args).bind g)

/-- Calls a function by name at a place of some depth. -/
def call (o : EvaluationOptions) (d : Depth) (name : String) (args : List Delayed) :
    Except DepthExceeded Value :=
  match find? name with
  | none => .ok (.error (.unknownName s!"unknown function '{name}'"))
  | some f =>
    match f.arityError? args.length with
    | some detail => .ok (.error (.value detail))
    | none => do
      d.checkCall o
      return (← f.run args).finite

end Function

end Spreadsheet
