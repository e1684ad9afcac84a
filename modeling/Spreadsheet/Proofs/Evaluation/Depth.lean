import Spreadsheet.Proofs.Evaluation.Simulation
import Spreadsheet.Proofs.Failure
import Spreadsheet.Proofs.Formula.Height

/-! Limits on depth. They only cut evaluation off: what an evaluation gives under some limits it gives
under all higher ones, and a tree whose paths keep to the limits evaluates to a value on every sheet,
whatever its functions ask for. -/

namespace Spreadsheet

theorem similarity_eq : Similarity (@Eq Value) where
  eq_or_arrays := .inl
  single _ _ := rfl
  cell _ _ := rfl
  finite h := h ▸ rfl
  binary h h' := h ▸ h' ▸ rfl
  unary h := h ▸ rfl

theorem Function.keeps_eq (f : Function) (as bs : List Delayed) : f.Keeps Eq as bs := by
  intro g vs ws _ _ _ h
  rw [List.forall₂_eq_eq_eq] at h
  rw [h]

namespace Depth

variable {o o' : EvaluationOptions} {d : Depth}

theorem checkNode_of_lt (h : d.nodes < o.maxExpressionDepth) : d.checkNode o = .ok () :=
  if_neg (by omega)

theorem checkCall_of_lt (h : d.calls < o.maxCallDepth) : d.checkCall o = .ok () :=
  if_neg (by omega)

end Depth

namespace Formula.Expr

/-- Whether an expression at a place of some depth keeps to the limits on each of its paths. -/
def FitsAt (o : EvaluationOptions) (d : Depth) (e : Expr) : Prop :=
  d.nodes + e.nodes ≤ o.maxExpressionDepth ∧ d.calls + e.calls ≤ o.maxCallDepth

end Formula.Expr

open Formula in
/-- Where each path keeps to the limits, none of them ends the evaluation. -/
theorem simulation_fits (s : Sheet) (o : EvaluationOptions) :
    Simulation .never Eq ⟨s, o⟩ ⟨s, o⟩ (Expr.FitsAt o) where
  toSimilarity := similarity_eq
  checkNode {d e} h := by
    have hroom : d.nodes < o.maxExpressionDepth := by
      have hpos := e.nodes_pos
      have hnodes := h.1
      omega
    rw [Depth.checkNode_of_lt hroom]
    exact .ok rfl
  checkCall {d f args} h := by
    have hroom : d.enterNode.calls < o.maxCallDepth := by
      have hcalls := h.2
      simp only [Expr.calls, Expr.weight] at hcalls
      simp only [Depth.enterNode]
      omega
    rw [Depth.checkCall_of_lt hroom]
    exact .ok rfl
  literal _ := rfl
  reference _ := rfl
  range _ := rfl
  operands h := by
    simp only [Expr.FitsAt, Expr.nodes, Expr.calls_binary, Depth.enterNode] at h ⊢
    omega
  operand h := by
    simp only [Expr.FitsAt, Expr.nodes, Expr.calls_unary, Depth.enterNode] at h ⊢
    omega
  arguments {d f args} h x hx := by
    have hnodes := Expr.nodesOfList_le_iff.mp (Nat.le_refl _) x hx
    have hcalls := (Expr.weightOfList_le_iff (o := 0) (c := 1)).mp (Nat.le_refl _) x hx
    simp only [Expr.FitsAt, Expr.nodes, Expr.calls, Expr.weight, Depth.enterNode,
      Depth.enterCall] at h hcalls ⊢
    omega
  elements {d rows} h row hrow x hx := by
    have hnodes := Expr.nodesOfRows_le_iff.mp (Nat.le_refl _) row hrow x hx
    have hcalls := (Expr.weightOfRows_le_iff (o := 0) (c := 1)).mp (Nat.le_refl _) row hrow x hx
    simp only [Expr.FitsAt, Expr.nodes, Expr.calls, Expr.weight, Depth.enterNode] at h hcalls ⊢
    omega
  constant _ _ _ := rfl
  keeps _ _ _ := Function.keeps_eq _ _ _

namespace Formula.Expr

variable {s : Scope}

theorem lt_of_eval {d : Depth} {e : Expr} {v : Value} (h : e.eval s d = .ok v) :
    d.nodes < s.options.maxExpressionDepth := by
  have hnode : d.checkNode s.options = .ok () := by
    cases e <;> rw [eval] at h <;> obtain ⟨_, hnode, -⟩ := exists_ok_of_bind h <;> exact hnode
  by_contra hdeep
  rw [Depth.checkNode, if_pos (by omega)] at hnode
  cases hnode

/-- The operations that stand on the first operand of one another, from the root on. -/
def spine : Expr → Nat
  | binary _ l _ => l.spine + 1
  | unary _ x => x.spine + 1
  | _ => 0

/-- First operands are evaluated first, so a long spine runs into the limit before anything else can
end the evaluation. -/
theorem eval_of_spine (e : Expr) (d : Depth)
    (h : s.options.maxExpressionDepth ≤ d.nodes + e.spine) :
    e.eval s d = .error ⟨.expression, s.options.maxExpressionDepth⟩ := by
  by_cases hlimit : s.options.maxExpressionDepth < d.nodes + 1
  · have hcheck : d.checkNode s.options = .error ⟨.expression, s.options.maxExpressionDepth⟩ := by
      rw [Depth.checkNode, if_pos hlimit]
    cases e <;> rw [eval, hcheck] <;> rfl
  · have hcheck : d.checkNode s.options = .ok () := by
      rw [Depth.checkNode, if_neg hlimit]
    have hnext {n : Nat} (hn : s.options.maxExpressionDepth ≤ d.nodes + (n + 1)) :
        s.options.maxExpressionDepth ≤ d.enterNode.nodes + n := by
      simp only [Depth.enterNode]
      omega
    cases e with
    | binary op l r =>
      rw [eval, hcheck]
      simp only [eval_of_spine l d.enterNode (hnext h), bind, Except.bind]
    | unary op x =>
      rw [eval, hcheck]
      simp only [eval_of_spine x d.enterNode (hnext h), bind, Except.bind]
    | _ =>
      simp only [spine] at h
      omega

end Formula.Expr

namespace Sheet

variable {e : Formula.Expr} {o : EvaluationOptions}

theorem exists_evaluate_of_fits (s : Sheet) (hfits : e.FitsAt o .top) :
    ∃ v, s.evaluate o e = .ok v := by
  obtain ⟨v, -, hv, -⟩ := ((simulation_fits s o).follows_eval e .top hfits).exists_ok
  exact ⟨v, hv⟩

theorem exists_evaluate (s : Sheet) (hnodes : e.nodes ≤ o.maxExpressionDepth)
    (hcalls : e.calls ≤ o.maxCallDepth) : ∃ v, s.evaluate o e = .ok v := by
  refine s.exists_evaluate_of_fits ?_
  rw [Formula.Expr.FitsAt, Depth.top, Nat.zero_add, Nat.zero_add]
  exact ⟨hnodes, hcalls⟩

theorem finishes_evaluate (s : Sheet) (hheight : e.height < o.maxExpressionDepth)
    (hcalls : e.calls ≤ o.maxCallDepth) : ∃ v, s.evaluate o e = .ok v :=
  s.exists_evaluate (Nat.le_trans e.nodes_le_height hheight) hcalls

theorem evaluate_of_spine (s : Sheet) (h : o.maxExpressionDepth ≤ e.spine) :
    s.evaluate o e = .error ⟨.expression, o.maxExpressionDepth⟩ :=
  e.eval_of_spine .top (Nat.le_add_left_of_le h)

end Sheet

end Spreadsheet
