import Spreadsheet.Proofs.Evaluation.Arguments
import Spreadsheet.Proofs.Evaluation.Invariant

/-! Calls that have a result. Each argument of the function has a value then, and the result is that of
the function on these values. -/

namespace Spreadsheet

theorem Function.le_maxArgs {f : Function} {count limit : Nat} (h : f.arityError? count = none)
    (hlimit : f.maxArgs = some limit) : count ≤ limit := by
  by_contra hmany
  rw [arityError?, hlimit] at h
  simp only at h
  rw [if_pos (Nat.lt_of_not_le hmany)] at h
  split at h <;> cases h

namespace Formula.Expr

open Spreadsheet.Function

variable {s : Scope} {d : Depth} {f : Function} {kinds : List ArgKind} {e : Expr} {es : List Expr}
  {v : Value} {vs : List Value}

theorem HasArgument.of_evalArgument {kind : ArgKind} {index : Nat} (hkind : f.argKind index = kind)
    (heager : kind ≠ .delayed) (h : f.evalArgument index (delay s d e) = .ok v)
    (hv : v.isError = false) : HasArgument s d e v kind := by
  rw [Function.evalArgument, hkind] at h
  cases kind with
  | delayed => exact absurd rfl heager
  | array => exact .array h
  | scalar =>
    obtain ⟨w, hw, hvalue⟩ := exists_ok_of_bind h
    cases w with
    | array rows =>
      cases hvalue
      cases hv
    | _ =>
      cases hvalue
      exact .scalar hw rfl

theorem HaveArguments.of_evalArguments {index : Nat}
    (hkinds : ∀ i kind, kinds[i]? = some kind → f.argKind (index + i) = kind)
    (heager : ArgKind.delayed ∉ kinds) (hlength : es.length ≤ kinds.length)
    (h : f.evalArguments index (delayList s d es) = .ok (.ok vs)) : HaveArguments s d kinds es vs := by
  induction es generalizing index kinds vs with
  | nil =>
    cases h
    exact .nil
  | cons e es ih =>
    obtain ⟨kind, kinds, rfl⟩ := List.exists_cons_of_length_pos (Nat.zero_lt_of_lt hlength)
    rw [List.mem_cons, not_or] at heager
    obtain ⟨v, vs, rfl, hv, hvs⟩ := exists_of_evalArguments_cons h
    have hvalid : v.isError = false := by
      cases v with
      | error x =>
        rw [delayList, Function.evalArguments, hv] at h
        cases h
      | _ => rfl
    have hnext (i : Nat) (k : ArgKind) (hk : kinds[i]? = some k) : f.argKind (index + 1 + i) = k := by
      rw [Nat.add_assoc, Nat.add_comm 1]
      exact hkinds (i + 1) k hk
    exact .cons (.of_evalArgument (hkinds 0 kind rfl) (Ne.symm heager.1) hv hvalid) hvalid
      (ih hnext heager.2 (Nat.le_of_succ_le_succ hlength) hvs)

/-- What a call was made on that has a result other than an error. -/
theorem exists_of_eval_call {name : String} {g : List Value → Answer} (hfind : find? name = some f)
    (hg : f.implementation = .eager g) (heager : ArgKind.delayed ∉ f.parameters.map Parameter.kind)
    (hlimit : f.maxArgs = some f.parameters.length) (h : (call name es).eval s d = .ok v)
    (hv : v.isError = false) :
    ∃ vs w, HaveArguments s d.inside (f.parameters.map Parameter.kind) es vs ∧
      f.arityError? es.length = none ∧ g vs = .ok w ∧ v = w.finite := by
  rw [eval] at h
  obtain ⟨-, -, hcall⟩ := exists_ok_of_bind h
  rw [Function.call_eq, length_delayList, hfind] at hcall
  simp only at hcall
  split at hcall
  · cases hcall
    cases hv
  rename_i harity
  obtain ⟨-, -, hcall⟩ := exists_ok_of_bind hcall
  obtain ⟨_, hrun, hfinite⟩ := exists_ok_of_bind hcall
  cases hfinite
  rw [run, hg] at hrun
  obtain ⟨r, hargs, hanswer⟩ := exists_ok_of_bind hrun
  cases hanswer
  have herror (x : CellError) : ¬(Value.error x).finite.isError = false := by
    rw [Value.finite_error]
    exact Bool.noConfusion
  cases r with
  | error x => exact absurd hv (herror x)
  | ok vs =>
    change (Value.ofAnswer (g vs)).finite.isError = false at hv
    cases hw : g vs with
    | error x =>
      rw [hw] at hv
      exact absurd hv (herror x)
    | ok w =>
      have hlength : es.length ≤ (f.parameters.map Parameter.kind).length := by
        rw [List.length_map]
        exact le_maxArgs harity hlimit
      refine ⟨vs, w, .of_evalArguments (fun i kind hi => ?_) heager hlength hargs, harity, hw, ?_⟩
      · rw [Nat.zero_add]
        exact argKind_eq hi
      · exact congrArg (fun a => (Value.ofAnswer a).finite) hw

end Formula.Expr

end Spreadsheet
