import Spreadsheet.Evaluation

/-! What a call makes of its arguments and of the result: each argument is delayed, and of a result
only numbers that are not finite are replaced, and by errors. -/

namespace Spreadsheet

namespace Value

theorem finite_array (rows : List (List Value)) :
    (array rows).finite = array (rows.map fun row => row.map finite) := by
  rw [finite]

theorem finite_number (x : Float) :
    (number x).finite = if Number.isFinite x then number x else error notFinite := by
  rw [finite]

theorem finite_eq_self {v : Value} (hnumber : ∀ x, v ≠ number x) (harray : ∀ rows, v ≠ array rows) :
    v.finite = v := by
  cases v with
  | number x => exact absurd rfl (hnumber x)
  | array rows => exact absurd rfl (harray rows)
  | _ => rw [finite] <;> assumption

theorem finite_text (t : String) : (text t).finite = text t := finite_eq_self (by simp) (by simp)

theorem finite_error (e : CellError) : (error e).finite = error e :=
  finite_eq_self (by simp) (by simp)

@[simp]
theorem isArray_finite (v : Value) : v.finite.isArray = v.isArray := by
  cases v with
  | number x =>
    rw [finite_number]
    split <;> rfl
  | array rows =>
    rw [finite_array]
    rfl
  | _ => rw [finite_eq_self (by simp) (by simp)]

end Value

open Formula

/-- A call as its equation. Where a proof unfolds a call instead, the kernel sorts the library. -/
theorem Function.call_eq (o : EvaluationOptions) (d : Depth) (name : String) (args : List Delayed) :
    call o d name args =
      match find? name with
      | none => .ok (.error (.unknownName s!"unknown function '{name}'"))
      | some f =>
        match f.arityError? args.length with
        | some detail => .ok (.error (.value detail))
        | none => do
          d.checkCall o
          return (← f.run args).finite := by
  unfold call
  cases find? name <;> rfl

theorem Function.evalArguments_cons {f : Function} {index : Nat} {a : Delayed} {rest : List Delayed}
    {v : Value} {vs : List Value} (ha : f.evalArgument index a = .ok v) (hv : ∀ e, v ≠ .error e)
    (hrest : f.evalArguments (index + 1) rest = .ok (.ok vs)) :
    f.evalArguments index (a :: rest) = .ok (.ok (v :: vs)) := by
  rw [evalArguments, ha, hrest]
  cases v with
  | error e => exact absurd rfl (hv e)
  | _ => rfl

theorem Function.run_of_evalArguments {f : Function} {args : List Delayed}
    {g : List Value → Except CellError Value} {vs : List Value} (hg : f.implementation = .eager g)
    (hargs : f.evalArguments 0 args = .ok (.ok vs)) : f.run args = .ok (.ofAnswer (g vs)) := by
  rw [run, hg]
  simp only [hargs]
  rfl

namespace Formula.Expr

theorem length_delayList (s : Scope) (d : Depth) (es : List Expr) :
    (delayList s d es).length = es.length := by
  induction es with
  | nil => rfl
  | cons e es ih => simp [delayList, ih]

/-- An expression as an argument. -/
def delay (s : Scope) (d : Depth) (e : Expr) : Delayed :=
  ⟨fun _ => e.eval s d, fun _ => e.arrayArgument s d fun _ => e.eval s d, e.isRange⟩

theorem getElem?_delayList (s : Scope) (d : Depth) (es : List Expr) (i : Nat) :
    (delayList s d es)[i]? = es[i]?.map (delay s d) := by
  induction es generalizing i with
  | nil => rfl
  | cons e es ih =>
    cases i with
    | zero => rfl
    | succ i => simp [delayList, ih]

theorem delayList_append (s : Scope) (d : Depth) (front rest : List Expr) (e : Expr) :
    delayList s d (front ++ e :: rest) =
      delayList s d front ++ delay s d e :: delayList s d rest := by
  induction front with
  | nil => rfl
  | cons c front ih =>
    rw [List.cons_append, delayList, ih]
    rfl

theorem eval_call {s : Scope} {d : Depth} {name : String} {args : List Expr} {f : Function}
    {v : Value} (hfind : Function.find? name = some f) (hnode : d.checkNode s.options = .ok ())
    (hcall : d.enterNode.checkCall s.options = .ok ())
    (harity : f.arityError? (delayList s d.enterNode.enterCall args).length = none)
    (hrun : f.run (delayList s d.enterNode.enterCall args) = .ok v) :
    (call name args).eval s d = .ok v.finite := by
  have hcalled : Function.call s.options d.enterNode name (delayList s d.enterNode.enterCall args) =
      .ok v.finite := by
    rw [Function.call_eq, hfind]
    simp only [harity, hcall, hrun]
    rfl
  rw [eval, hnode]
  exact (pure_bind () fun _ => Function.call s.options d.enterNode name _).trans hcalled

end Formula.Expr

theorem Sheet.evaluate_call {s : Sheet} {o : EvaluationOptions} {name : String} {args : List Expr}
    {f : Function} {v : Value} (hfind : Function.find? name = some f)
    (hnode : Depth.top.checkNode o = .ok ()) (hcall : Depth.top.enterNode.checkCall o = .ok ())
    (harity : f.arityError? (Expr.delayList ⟨s, o⟩ Depth.top.enterNode.enterCall args).length = none)
    (hrun : f.run (Expr.delayList ⟨s, o⟩ Depth.top.enterNode.enterCall args) = .ok v) :
    s.evaluate o (.call name args) = .ok v.finite :=
  Expr.eval_call hfind hnode hcall harity hrun

end Spreadsheet
