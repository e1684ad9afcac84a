import Spreadsheet.Function.Definition

/-! Limits of an evaluation and the depth that it has reached. -/

namespace Spreadsheet

structure EvaluationOptions where
  maxCallDepth : Nat
  maxExpressionDepth : Nat
  maxRangeCells : Nat
  deriving DecidableEq, Repr

def EvaluationOptions.standard : EvaluationOptions := ⟨256, 1024, 1000000⟩

/-- How many expressions and how many function calls enclose a place in a formula. -/
structure Depth where
  nodes : Nat
  calls : Nat
  deriving DecidableEq, Repr

namespace Depth

def top : Depth := ⟨0, 0⟩

def enterNode (d : Depth) : Depth := { d with nodes := d.nodes + 1 }

def enterCall (d : Depth) : Depth := { d with calls := d.calls + 1 }

/-- Fails when one more expression is too many. -/
def checkNode (o : EvaluationOptions) (d : Depth) : Except DepthExceeded Unit :=
  if o.maxExpressionDepth < d.nodes + 1 then .error ⟨.expression, o.maxExpressionDepth⟩
  else .ok ()

/-- Fails when one more function call is too many. -/
def checkCall (o : EvaluationOptions) (d : Depth) : Except DepthExceeded Unit :=
  if o.maxCallDepth < d.calls + 1 then .error ⟨.functionCall, o.maxCallDepth⟩ else .ok ()

end Depth

end Spreadsheet
