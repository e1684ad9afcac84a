import Spreadsheet.Formula.Operator
import Spreadsheet.Function.Call
import Spreadsheet.Sheet.Read

/-! Evaluation of formulas on a sheet. Errors of cells are values; an evaluation fails only when it
exceeds a limit on depth. -/

namespace Spreadsheet

/-- The sheet that is read and the limits that hold during an evaluation. -/
structure Scope where
  sheet : Sheet
  options : EvaluationOptions

namespace Formula.Expr

def isRange : Expr → Bool
  | range _ => true
  | _ => false

/-- An argument where an array is meant: ranges and single references give their cells, anything
else its value. -/
def arrayArgument (s : Scope) (d : Depth) (value : Unit → Except DepthExceeded Value) :
    Expr → Except DepthExceeded Value
  | range r => do
    d.checkNode s.options
    return s.sheet.rangeValues s.options.maxRangeCells r
  | reference a => do
    d.checkNode s.options
    match s.sheet.valueAt a with
    | .error e => return if e.kind = .invalidReference then .error e else .array [[.error e]]
    | v => return .array [[v]]
  | _ => value ()

/-- An element of an array constant, which is no array itself. -/
def element : Value → Value
  | .array _ => .ofError .invalidValue
  | v => v

def rangeAsScalar (r : Range) : Value :=
  .error (.value s!"range {r.toText} used where a single value is expected")

mutual

/-- The value of an expression that stands at a place of some depth. An operation one of whose
operands is an error gives the first such error. -/
def eval (s : Scope) (d : Depth) : Expr → Except DepthExceeded Value
  | literal c => do d.checkNode s.options; return .ofCell c
  | reference a => do d.checkNode s.options; return s.sheet.valueAt a
  | range r => do d.checkNode s.options; return rangeAsScalar r
  | name n => do d.checkNode s.options; return .error (.unknownName s!"unknown name '{n}'")
  | binary op l r => do
    d.checkNode s.options
    match ← l.eval s d.enterNode with
    | .error e => return .error e
    | v =>
      match ← r.eval s d.enterNode with
      | .error e => return .error e
      | w => return .ofAnswer (op.apply v w)
  | unary op x => do
    d.checkNode s.options
    match ← x.eval s d.enterNode with
    | .error e => return .error e
    | v => return .ofAnswer (op.apply v)
  | call f args => do
    d.checkNode s.options
    Function.call s.options d.enterNode f (delayList s d.enterNode.enterCall args)
  | array rows => do
    d.checkNode s.options
    return .array (← evalRows s d.enterNode rows)

/-- The arguments of a call, to be evaluated when they are asked for. -/
def delayList (s : Scope) (d : Depth) : List Expr → List Delayed
  | [] => []
  | e :: es =>
    let value := fun _ => e.eval s d
    ⟨value, fun _ => e.arrayArgument s d value, e.isRange⟩ :: delayList s d es

def evalRow (s : Scope) (d : Depth) : List Expr → Except DepthExceeded (List Value)
  | [] => .ok []
  | e :: es => do
    let v ← e.eval s d
    return element v :: (← evalRow s d es)

def evalRows (s : Scope) (d : Depth) : List (List Expr) → Except DepthExceeded (List (List Value))
  | [] => .ok []
  | row :: rows => do
    let vs ← evalRow s d row
    return vs :: (← evalRows s d rows)

end

end Formula.Expr

/-- The value of a formula on a sheet. -/
def Sheet.evaluate (s : Sheet) (o : EvaluationOptions) (e : Formula.Expr) :
    Except DepthExceeded Value :=
  e.eval ⟨s, o⟩ .top

end Spreadsheet
