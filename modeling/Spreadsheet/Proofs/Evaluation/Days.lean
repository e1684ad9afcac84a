import Spreadsheet.Proofs.Evaluation.Arguments
import Spreadsheet.Proofs.Function.Days

/-! Days in formulas: the expressions that are read as a day, and as arguments. -/

namespace Spreadsheet.Formula.Expr

open Spreadsheet.Function
open Date (isSupported maxSerial ofSerial)

variable {s : Scope} {d : Depth}

/-- Whether an expression is read as a day. -/
def ReadsDay (s : Scope) (d : Depth) (e : Expr) (n : Int) : Prop :=
  ∃ v, e.eval s d = .ok v ∧ dayOf v = .ok n

theorem ReadsDay.lt {e : Expr} {n : Int} (h : e.ReadsDay s d.inside n) :
    d.nodes < s.options.maxExpressionDepth := by
  obtain ⟨v, hv, -⟩ := h
  exact Nat.lt_of_succ_lt (lt_of_eval hv)

theorem readsDay_literal {n : Int} (h : isSupported n = true)
    (hnodes : d.nodes < s.options.maxExpressionDepth) :
    (literal (.number (Number.ofInt n))).ReadsDay s d n :=
  ⟨integer n, eval_literal hnodes _, dayOf_integer h⟩

theorem readsInteger_literal {n : Int} (h : n.natAbs < 2 ^ 53)
    (hnodes : d.nodes < s.options.maxExpressionDepth) :
    (literal (.number (Number.ofInt n))).ReadsInteger s d n :=
  ⟨integer n, eval_literal hnodes _, toInteger_integer h⟩

theorem HaveArguments.day {kinds : List ArgKind} {e : Expr} {es : List Expr} {v : Value}
    {vs : List Value} {n : Int} (hv : e.eval s d = .ok v) (hn : dayOf v = .ok n)
    (hrest : HaveArguments s d kinds es vs) :
    HaveArguments s d (.scalar :: kinds) (e :: es) (v :: vs) :=
  have ⟨hsingle, herror⟩ := single_of_dayOf hn
  .cons (.scalar hv hsingle) herror hrest

end Spreadsheet.Formula.Expr
