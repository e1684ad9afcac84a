import Spreadsheet.Proofs.Evaluation.Simulation
import Spreadsheet.Proofs.Failure
import Spreadsheet.Proofs.Formula.Subterms

/-! Invariants of evaluation. What holds of the leaves of an expression, and is kept by operators and
eager functions, holds of every value that the expression and its arguments have. -/

namespace Spreadsheet

open Formula Formula.Expr

/-- A property of the values in one scope, for expressions that satisfy `R` at every subterm. -/
structure Invariant (Q : Value → Prop) (s : Scope) (R : Expr → Prop) : Prop where
  single {v : Value} : v.isArray = false →
    (∀ x, v = .number x → Number.isFinite x = true) → Q v
  cell {v : Value} : v.isArray = false → Q v → Q (.array [[v]])
  finite {v : Value} : Q v → Q v.finite
  binary {op : BinaryOp} {v w : Value} : Q v → Q w → Q (.ofAnswer (op.apply v w))
  unary {op : UnaryOp} {v : Value} : Q v → Q (.ofAnswer (op.apply v))
  literal {c : Cell} : R (.literal c) → Q (.ofCell c)
  reference {a : Address} : R (.reference a) → Q (s.sheet.valueAt a)
  range {r : Range} : R (.range r) → Q (s.sheet.rangeValues s.options.maxRangeCells r)
  constant {rows : List (List Expr)} {vss : List (List Value)} : R (.array rows) →
    vss.map List.length = rows.map List.length →
    (∀ vs ∈ vss, ∀ v ∈ vs, v.isArray = false ∧ Q v) → Q (.array vss)
  eager {f : Function} {g : List Value → Function.Answer} {vs : List Value} : f ∈ Function.all →
    f.implementation = .eager g → f.arityError? vs.length = none → (∀ v ∈ vs, Q v) →
    Q (Value.ofAnswer (g vs)).finite

theorem Function.exists_of_evalArguments_cons {f : Function} {index : Nat} {a : Delayed}
    {as : List Delayed} {vs : List Value} (h : f.evalArguments index (a :: as) = .ok (.ok vs)) :
    ∃ v rest, vs = v :: rest ∧ f.evalArgument index a = .ok v ∧
      f.evalArguments (index + 1) as = .ok (.ok rest) := by
  rw [evalArguments] at h
  obtain ⟨v, hv, hargs⟩ := exists_ok_of_bind h
  split at hargs
  · cases hargs
  · obtain ⟨r, hr, hcons⟩ := exists_ok_of_bind hargs
    cases r with
    | error e => cases hcons
    | ok rest =>
      cases hcons
      exact ⟨_, rest, rfl, hv, hr⟩

theorem Function.length_evalArguments {f : Function} {index : Nat} {as : List Delayed}
    {vs : List Value} (h : f.evalArguments index as = .ok (.ok vs)) : vs.length = as.length := by
  induction as generalizing index vs with
  | nil =>
    cases h
    rfl
  | cons a as ih =>
    obtain ⟨v, rest, rfl, -, hrest⟩ := exists_of_evalArguments_cons h
    exact congrArg (· + 1) (ih hrest)

namespace Invariant

variable {Q : Value → Prop} {s : Scope} {R : Expr → Prop}

theorem forall_of_forall₂ {vs ws : List Value} (h : List.Forall₂ (fun v w => v = w ∧ Q v) vs ws) :
    vs = ws ∧ ∀ v ∈ vs, Q v := by
  induction h with
  | nil => exact ⟨rfl, List.forall_mem_nil _⟩
  | cons hv _ ih => exact ⟨by rw [hv.1, ih.1], List.forall_mem_cons.mpr ⟨hv.2, ih.2⟩⟩

variable (h : Invariant Q s R)
include h

theorem similarity : Similarity fun v w => v = w ∧ Q v where
  eq_or_arrays hvw := .inl hvw.1
  single hv hfinite := ⟨rfl, h.single hv hfinite⟩
  cell hv hvw := ⟨rfl, h.cell hv hvw.2⟩
  finite hvw := ⟨congrArg _ hvw.1, h.finite hvw.2⟩
  binary := by
    rintro op v _ w _ ⟨rfl, hv⟩ ⟨rfl, hw⟩
    exact ⟨rfl, h.binary hv hw⟩
  unary := by
    rintro op v _ ⟨rfl, hv⟩
    exact ⟨rfl, h.unary hv⟩

/-- An invariant is a simulation of a scope by itself. -/
theorem simulation : Simulation .alike (fun v w => v = w ∧ Q v) s s fun _ e => e.Everywhere R where
  toSimilarity := h.similarity
  checkNode _ := .alike_rfl (fun _ => rfl) _
  checkCall _ := .alike_rfl (fun _ => rfl) _
  literal he := ⟨rfl, h.literal he.self⟩
  reference he := ⟨rfl, h.reference he.self⟩
  range he := ⟨rfl, h.range he.self⟩
  operands he := he.operands
  operand he := he.operand
  arguments he := he.arguments
  elements he := he.elements
  constant he hlengths hvss :=
    ⟨rfl, h.constant he.self hlengths fun vs hvs v hv =>
      ⟨(hvss vs hvs v hv).1, (hvss vs hvs v hv).2.2⟩⟩
  keeps {d name args f} _ hf harity g vs ws hg hvs _ hvw := by
    obtain ⟨rfl, hvs'⟩ := forall_of_forall₂ hvw
    rw [← length_delayList s d.enterNode.enterCall, ← Function.length_evalArguments hvs] at harity
    exact ⟨rfl, h.eager (Function.mem_of_find? hf) hg harity hvs'⟩

variable {e : Expr} {d : Depth} {v : Value}

theorem eval (he : e.Everywhere R) (hv : e.eval s d = .ok v) : Q v :=
  ((h.simulation.follows_eval e d he).of_ok hv hv).2

theorem arrayArgument (he : e.Everywhere R)
    (hv : e.arrayArgument s d (fun _ => e.eval s d) = .ok v) : Q v :=
  ((h.simulation.follows_arrayValue he).of_ok hv hv).2

theorem delayed {f : Function} {g : List Delayed → Except DepthExceeded Value} {args : List Expr}
    (hf : f ∈ Function.all) (hg : f.implementation = .delayed g)
    (hargs : ∀ x ∈ args, x.Everywhere R) (hv : g (delayList s d args) = .ok v) : Q v :=
  ((Function.uniform_of_mem hf hg h.similarity
    (h.simulation.follows_delayList args d hargs)).of_ok hv hv).2

/-- The arguments that an eager function is given. -/
theorem arguments {f : Function} {args : List Expr} {vs : List Value}
    (hargs : ∀ x ∈ args, x.Everywhere R)
    (hvs : f.evalArguments 0 (delayList s d args) = .ok (.ok vs)) : ∀ v ∈ vs, Q v := by
  have hrelated := Function.follows_evalArguments h.similarity f 0
    (h.simulation.follows_delayList args d hargs)
  cases hrelated.of_ok hvs hvs with
  | ok hvw => exact (forall_of_forall₂ hvw).2

end Invariant

end Spreadsheet
