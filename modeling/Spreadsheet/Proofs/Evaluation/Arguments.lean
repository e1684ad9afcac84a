import Spreadsheet.Proofs.Evaluation.Depth
import Spreadsheet.Proofs.Function.Tables

/-! Calls of eager functions on arguments with known values: the result is that of the function on
these values, or the first error among the arguments. -/

namespace Spreadsheet

/-- The depth at which the arguments of a call stand. -/
abbrev Depth.inside (d : Depth) : Depth := d.enterNode.enterCall

open Formula (Expr)
open Spreadsheet.Function

namespace Function

variable {f : Function} {index : Nat}

theorem argKind_eq {kind : ArgKind} (h : (f.parameters.map Parameter.kind)[index]? = some kind) :
    f.argKind index = kind := by
  rw [List.getElem?_map] at h
  obtain ⟨p, hp, rfl⟩ := Option.map_eq_some_iff.mp h
  have hlt : index < f.parameters.length := (List.getElem?_eq_some_iff.mp hp).1
  rw [argKind, parameter?, if_pos hlt, hp]
  rfl

theorem evalArguments_cons_eq {a : Delayed} {v : Value} (ha : f.evalArgument index a = .ok v)
    (herror : v.isError = false) (rest : List Delayed) :
    f.evalArguments index (a :: rest) =
      (f.evalArguments (index + 1) rest).map fun r => r.map (v :: ·) := by
  rw [evalArguments, ha]
  cases v with
  | error e => cases herror
  | _ => cases f.evalArguments (index + 1) rest <;> rfl

end Function

namespace Formula.Expr

variable {s : Scope} {d : Depth} {e : Expr} {v : Value}

/-- The value of an expression where an array is meant. -/
abbrev evalArray (s : Scope) (d : Depth) (e : Expr) : Except DepthExceeded Value :=
  e.arrayArgument s d fun _ => e.eval s d

theorem lt_of_evalArray {e : Expr} {v : Value} (h : e.evalArray s d = .ok v) :
    d.nodes < s.options.maxExpressionDepth := by
  have hroom (hcheck : ∃ u, d.checkNode s.options = .ok u) :
      d.nodes < s.options.maxExpressionDepth := by
    by_contra hdeep
    obtain ⟨u, hu⟩ := hcheck
    rw [Depth.checkNode, if_pos (by omega)] at hu
    cases hu
  cases e with
  | range r =>
    obtain ⟨u, hu, -⟩ := exists_ok_of_bind h
    exact hroom ⟨u, hu⟩
  | reference a =>
    obtain ⟨u, hu, -⟩ := exists_ok_of_bind h
    exact hroom ⟨u, hu⟩
  | _ => exact lt_of_eval h

/-- Whether an expression is read as an integer where a position is meant. -/
def ReadsInteger (s : Scope) (d : Depth) (e : Expr) (n : Int) : Prop :=
  ∃ v, e.eval s d = .ok v ∧ v.toInteger = .ok n

/-- Whether an expression has a value as the argument for a parameter. -/
inductive HasArgument (s : Scope) (d : Depth) (e : Expr) (v : Value) : ArgKind → Prop
  | scalar (hv : e.eval s d = .ok v) (hsingle : v.isArray = false) : HasArgument s d e v .scalar
  | array (hv : e.evalArray s d = .ok v) : HasArgument s d e v .array

/-- Arguments and their values, none of which is an error. Parameters at the end may be left out. -/
inductive HaveArguments (s : Scope) (d : Depth) : List ArgKind → List Expr → List Value → Prop
  | nil {kinds : List ArgKind} : HaveArguments s d kinds [] []
  | cons {kind : ArgKind} {kinds : List ArgKind} {e : Expr} {es : List Expr} {v : Value}
      {vs : List Value} (hfirst : HasArgument s d e v kind) (herror : v.isError = false)
      (hrest : HaveArguments s d kinds es vs) :
      HaveArguments s d (kind :: kinds) (e :: es) (v :: vs)

variable {f : Function} {kinds : List ArgKind} {es : List Expr} {vs : List Value}

theorem HasArgument.lt {kind : ArgKind} (h : HasArgument s d.inside e v kind) :
    d.nodes < s.options.maxExpressionDepth := by
  cases h with
  | scalar hv _ => exact Nat.lt_of_succ_lt (lt_of_eval hv)
  | array hv => exact Nat.lt_of_succ_lt (lt_of_evalArray hv)

theorem HaveArguments.lt (h : HaveArguments s d.inside kinds es vs) (hes : es ≠ []) :
    d.nodes < s.options.maxExpressionDepth := by
  cases h with
  | nil => exact absurd rfl hes
  | cons hfirst _ _ => exact hfirst.lt

theorem eval_call_run {name : String} {args : List Expr} (hfind : find? name = some f)
    (hnodes : d.nodes < s.options.maxExpressionDepth) (hcalls : d.calls < s.options.maxCallDepth)
    (harity : f.arityError? args.length = none) :
    (call name args).eval s d = Value.finite <$> f.run (delayList s d.inside args) := by
  have hcalled : Function.call s.options d.enterNode name (delayList s d.inside args) =
      Value.finite <$> f.run (delayList s d.inside args) := by
    have hcall : d.enterNode.checkCall s.options = .ok () := Depth.checkCall_of_lt hcalls
    rw [Function.call_eq, length_delayList, hfind]
    simp only [harity, hcall]
    cases f.run (delayList s d.inside args) <;> rfl
  rw [eval, Depth.checkNode_of_lt hnodes]
  exact (pure_bind () fun _ => Function.call s.options d.enterNode name _).trans hcalled

theorem eval_call_deep {name : String} {args : List Expr} (hfind : find? name = some f)
    (hcalls : s.options.maxCallDepth ≤ d.calls) (harity : f.arityError? args.length = none) :
    ∃ x, (call name args).eval s d = .error x := by
  have hcalled : Function.call s.options d.enterNode name (delayList s d.inside args) =
      .error ⟨.functionCall, s.options.maxCallDepth⟩ := by
    have hcall : d.enterNode.checkCall s.options =
        .error ⟨.functionCall, s.options.maxCallDepth⟩ := if_pos (Nat.lt_succ_of_le hcalls)
    rw [Function.call_eq, length_delayList, hfind]
    simp only [harity, hcall]
    rfl
  rw [eval]
  cases d.checkNode s.options with
  | error x => exact ⟨x, rfl⟩
  | ok => exact ⟨_, (pure_bind () fun _ => Function.call s.options d.enterNode name _).trans hcalled⟩

theorem HaveArguments.integer {n : Int} (hv : e.eval s d = .ok v) (hn : v.toInteger = .ok n)
    (hrest : HaveArguments s d kinds es vs) :
    HaveArguments s d (.scalar :: kinds) (e :: es) (v :: vs) :=
  have ⟨hsingle, herror⟩ := Value.single_of_toInteger hn
  .cons (.scalar hv hsingle) herror hrest

theorem HasArgument.evalArgument {kind : ArgKind} {index : Nat} (h : HasArgument s d e v kind)
    (hkind : f.argKind index = kind) : f.evalArgument index (delay s d e) = .ok v := by
  rw [Function.evalArgument, hkind]
  cases h with
  | array hv => exact hv
  | scalar hv hsingle =>
    simp only [delay, hv]
    cases v with
    | array rows => cases hsingle
    | _ => rfl

theorem eval_literal (h : d.nodes < s.options.maxExpressionDepth) (c : Cell) :
    (literal c).eval s d = .ok (.ofCell c) := by
  rw [eval, Depth.checkNode_of_lt h]
  rfl

/-- Arguments in front of others add their values to those of the others. -/
theorem HaveArguments.evalArguments_append (h : HaveArguments s d kinds es vs) {index : Nat}
    (hkinds : ∀ i kind, kinds[i]? = some kind → f.argKind (index + i) = kind) (rest : List Expr) :
    f.evalArguments index (delayList s d (es ++ rest)) =
      (f.evalArguments (index + es.length) (delayList s d rest)).map fun r => r.map (vs ++ ·) := by
  induction h generalizing index with
  | nil =>
    change f.evalArguments index (delayList s d rest) = _
    rcases f.evalArguments index (delayList s d rest) with _ | (_ | _) <;> rfl
  | @cons kind kinds e es v vs hfirst herror _ ih =>
    have hnext (i : Nat) (k : ArgKind) (hk : kinds[i]? = some k) : f.argKind (index + 1 + i) = k := by
      rw [Nat.add_assoc, Nat.add_comm 1]
      exact hkinds (i + 1) k hk
    refine (evalArguments_cons_eq (hfirst.evalArgument (hkinds 0 kind rfl)) herror _).trans ?_
    change (f.evalArguments (index + 1) (delayList s d (es ++ rest))).map _ = _
    rw [ih hnext, List.length_cons, Nat.add_right_comm, Nat.add_assoc]
    rcases f.evalArguments (index + (es.length + 1)) (delayList s d rest) with _ | (_ | _) <;> rfl

theorem HaveArguments.evalArguments
    (h : HaveArguments s d (f.parameters.map Parameter.kind) es vs) (rest : List Expr) :
    f.evalArguments 0 (delayList s d (es ++ rest)) =
      (f.evalArguments es.length (delayList s d rest)).map fun r => r.map (vs ++ ·) := by
  refine (h.evalArguments_append (fun i kind hi => ?_) rest).trans (by rw [Nat.zero_add])
  rw [Nat.zero_add]
  exact argKind_eq hi

section

variable {name : String} {g : List Value → Answer} (hfind : find? name = some f)
  (hg : f.implementation = .eager g) (hnodes : d.nodes < s.options.maxExpressionDepth)
  (hcalls : d.calls < s.options.maxCallDepth)
include hfind hg hnodes hcalls

theorem eval_call_eager {args : List Expr} {r : Except CellError (List Value)}
    (harity : f.arityError? args.length = none)
    (hargs : f.evalArguments 0 (delayList s d.inside args) = .ok r) :
    (call name args).eval s d = .ok (Value.ofAnswer (r.bind g)).finite := by
  rw [eval_call_run hfind hnodes hcalls harity, run, hg]
  simp only [hargs]
  rfl

/-- The kinds need not be those of the parameters, which stand for more arguments if they repeat. -/
theorem HaveArguments.eval_call_of_argKind (h : HaveArguments s d.inside kinds es vs)
    (hkinds : ∀ i kind, kinds[i]? = some kind → f.argKind i = kind)
    (harity : f.arityError? es.length = none) :
    (call name es).eval s d = .ok (Value.ofAnswer (g vs)).finite := by
  have hkinds' (i : Nat) (kind : ArgKind) (hi : kinds[i]? = some kind) : f.argKind (0 + i) = kind :=
    (congrArg f.argKind (Nat.zero_add i)).trans (hkinds i kind hi)
  have hargs := h.evalArguments_append hkinds' []
  rw [List.append_nil] at hargs
  refine eval_call_eager (r := .ok vs) hfind hg hnodes hcalls harity (hargs.trans ?_)
  exact congrArg (Except.ok <| Except.ok ·) (List.append_nil vs)

variable (h : HaveArguments s d.inside (f.parameters.map Parameter.kind) es vs)
include h

theorem HaveArguments.eval_call (harity : f.arityError? es.length = none) :
    (call name es).eval s d = .ok (Value.ofAnswer (g vs)).finite :=
  h.eval_call_of_argKind hfind hg hnodes hcalls (fun _ _ => argKind_eq) harity

/-- No argument behind the first error is evaluated. -/
theorem HaveArguments.eval_call_error {kind : ArgKind} {x : CellError} {rest : List Expr}
    (harity : f.arityError? (es ++ e :: rest).length = none)
    (hkind : (f.parameters.map Parameter.kind)[es.length]? = some kind)
    (he : HasArgument s d.inside e (.error x) kind) :
    (call name (es ++ e :: rest)).eval s d = .ok (.error x) := by
  have hfirst : f.evalArguments es.length (delayList s d.inside (e :: rest)) = .ok (.error x) := by
    change (f.evalArgument es.length (delay s d.inside e) >>= _) = _
    rw [he.evalArgument (argKind_eq hkind)]
    rfl
  have hargs := h.evalArguments (e :: rest)
  rw [hfirst] at hargs
  rw [eval_call_eager (r := .error x) hfind hg hnodes hcalls harity hargs]
  exact congrArg Except.ok (Value.finite_error x)

end

end Formula.Expr

end Spreadsheet
