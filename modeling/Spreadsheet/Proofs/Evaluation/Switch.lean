import Spreadsheet.Proofs.Evaluation.Arguments
import Spreadsheet.Proofs.Value.Order

/-! `SWITCH` in formulas: the one way in which a call ends, by the values of its cases. -/

namespace Spreadsheet.Formula.Expr

open Spreadsheet.Function

variable {s : Scope} {d : Depth} {e c : Expr} {v w : Value}

/-- The value of an argument that becomes the result of its call. -/
abbrev evalResult (s : Scope) (d : Depth) (e : Expr) : Except DepthExceeded Value := (delay s d e).result

/-- Whether a case matches: its value has the type of the other one, and they compare as equal. Arrays
do not compare, and any two of them match. -/
def CaseMatches (s : Scope) (d : Depth) (e c : Expr) : Prop :=
  ∃ v w, e.eval s d.inside = .ok v ∧ c.eval s d.inside = .ok w ∧ v.typeName = w.typeName ∧
    ((binary .equal e c).eval s d.enterCall = .ok (.boolean true) ∨ v.isArray = true)

/-- Whether a case is an error or too deep. -/
def CaseFails (s : Scope) (d : Depth) (c : Expr) : Prop :=
  ∃ x : Except DepthExceeded CellError, c.eval s d.inside = Value.error <$> x

def CasePasses (s : Scope) (d : Depth) (e c : Expr) : Prop :=
  ¬CaseFails s d c ∧ ¬CaseMatches s d e c

/-- How a call ends: with the result of a case, with the default, or with a case that fails. -/
inductive Ending where
  | result (i : Nat)
  | otherwise
  | failure (i : Nat)

variable {cases : List (Expr × Expr)}

def PassBefore (s : Scope) (d : Depth) (e : Expr) (cases : List (Expr × Expr)) (i : Nat) : Prop :=
  ∀ j < i, ∀ p, cases[j]? = some p → CasePasses s d e p.1

def EndsWith (s : Scope) (d : Depth) (e : Expr) (cases : List (Expr × Expr)) : Ending → Prop
  | .result i => (∃ p, cases[i]? = some p ∧ CaseMatches s d e p.1) ∧ PassBefore s d e cases i
  | .otherwise => ∀ p ∈ cases, CasePasses s d e p.1
  | .failure i => (∃ p, cases[i]? = some p ∧ CaseFails s d p.1) ∧ PassBefore s d e cases i

def Ending.outcome (s : Scope) (d : Depth) (cases : List (Expr × Expr)) (other : Option Expr) :
    Ending → Except DepthExceeded Value
  | .result i => (cases[i]?.map fun p => p.2.evalResult s d.inside).getD (.ok noCaseMatches)
  | .otherwise => (other.map (evalResult s d.inside)).getD (.ok noCaseMatches)
  | .failure i => (cases[i]?.map fun p => p.1.eval s d.inside).getD (.ok noCaseMatches)

/-- The arguments behind the first one: each case and its result, and the default, if there is one. -/
def caseArguments (cases : List (Expr × Expr)) (other : Option Expr) : List Expr :=
  cases.flatMap (fun p => [p.1, p.2]) ++ other.toList

/-! ### Matches are comparisons -/

theorem eval_equal (hv : e.eval s d.inside = .ok v) (hw : c.eval s d.inside = .ok w)
    (hvalid : v.isError = false) (hvalid' : w.isError = false) :
    (binary .equal e c).eval s d.enterCall = .ok (.ofAnswer (Value.compareWith .equal v w)) := by
  have hdeep : d.inside.nodes < s.options.maxExpressionDepth := lt_of_eval hv
  have hnode : d.enterCall.checkNode s.options = .ok () :=
    Depth.checkNode_of_lt (Nat.lt_of_succ_lt hdeep)
  -- The operands of the comparison stand at the depth of the arguments of the call.
  have hv' : e.eval s d.enterCall.enterNode = .ok v := hv
  have hw' : c.eval s d.enterCall.enterNode = .ok w := hw
  rw [eval, hnode, hv', hw']
  cases v with
  | error x => cases hvalid
  | _ =>
    cases w with
    | error x => cases hvalid'
    | _ => rfl

theorem equal_or_array_iff (htype : v.typeName = w.typeName) :
    (Value.ofAnswer (Value.compareWith .equal v w) = .boolean true ∨ v.isArray = true) ↔
      v.compare w = .eq := by
  have hsame : Value.SameType v w := Value.sameType_iff.mpr htype
  cases hsame with
  | array rows rows' => exact ⟨fun _ => rfl, fun _ => .inr rfl⟩
  | _ => simp [Value.compareWith, Value.isArray, Value.ofAnswer, Comparison.holds]

theorem caseMatches_iff (hv : e.eval s d.inside = .ok v) (hw : c.eval s d.inside = .ok w)
    (hvalid : v.isError = false) (hvalid' : w.isError = false) :
    CaseMatches s d e c ↔ matchesCase v w = true := by
  have hequal : (binary .equal e c).eval s d.enterCall = .ok (.boolean true) ↔
      Value.ofAnswer (Value.compareWith .equal v w) = .boolean true := by
    rw [eval_equal hv hw hvalid hvalid', Except.ok.injEq]
  rw [matchesCase, Bool.and_eq_true, beq_iff_eq, beq_iff_eq]
  constructor
  · rintro ⟨v', w', hv', hw', htype, hmatch⟩
    obtain rfl : v = v' := Except.ok.inj (hv.symm.trans hv')
    obtain rfl : w = w' := Except.ok.inj (hw.symm.trans hw')
    exact ⟨htype, (equal_or_array_iff htype).mp (hmatch.imp_left hequal.mp)⟩
  · rintro ⟨htype, horder⟩
    exact ⟨v, w, hv, hw, htype, ((equal_or_array_iff htype).mpr horder).imp_left hequal.mpr⟩

theorem not_caseFails (hw : c.eval s d.inside = .ok w) (hvalid : w.isError = false) :
    ¬CaseFails s d c := by
  rintro ⟨x, hx⟩
  rw [hw] at hx
  cases x with
  | error t => cases hx
  | ok e =>
    cases hx
    cases hvalid

theorem caseFails_or (s : Scope) (d : Depth) (c : Expr) :
    CaseFails s d c ∨ ∃ w, c.eval s d.inside = .ok w ∧ w.isError = false := by
  cases hc : c.eval s d.inside with
  | error t => exact .inl ⟨.error t, hc⟩
  | ok w =>
    cases w with
    | error x => exact .inl ⟨.ok x, hc⟩
    | _ => exact .inr ⟨_, rfl, rfl⟩

/-- The value of a case that matches a value has its type, which is not that of errors. -/
theorem CaseMatches.not_caseFails (hv : e.eval s d.inside = .ok v) (hvalid : v.isError = false)
    (h : CaseMatches s d e c) : ¬CaseFails s d c := by
  obtain ⟨v', w, hv', hw, htype, -⟩ := h
  obtain rfl : v = v' := Except.ok.inj (hv.symm.trans hv')
  refine Expr.not_caseFails hw ?_
  cases w with
  | error x =>
    cases v with
    | error y => cases hvalid
    | _ => simp [Value.typeName] at htype
  | _ => rfl

/-! ### One ending -/

def StopsAt (s : Scope) (d : Depth) (e : Expr) (cases : List (Expr × Expr)) (i : Nat) : Prop :=
  (∃ p, cases[i]? = some p ∧ ¬CasePasses s d e p.1) ∧ PassBefore s d e cases i

theorem StopsAt.unique {i j : Nat} (hi : StopsAt s d e cases i) (hj : StopsAt s d e cases j) :
    i = j := by
  obtain ⟨⟨p, hp, hstop⟩, hbefore⟩ := hi
  obtain ⟨⟨q, hq, hstop'⟩, hbefore'⟩ := hj
  -- The first of two such cases would have to pass on the way to the other one.
  rcases Nat.lt_trichotomy i j with hlt | heq | hgt
  · exact absurd (hbefore' i hlt p hp) hstop
  · exact heq
  · exact absurd (hbefore j hgt q hq) hstop'

def Ending.index? : Ending → Option Nat
  | .result i => some i
  | .otherwise => none
  | .failure i => some i

theorem EndsWith.stopsAt_iff {ending : Ending} (h : EndsWith s d e cases ending) (i : Nat) :
    StopsAt s d e cases i ↔ ending.index? = some i := by
  cases ending with
  | otherwise =>
    refine ⟨?_, nofun⟩
    rintro ⟨⟨p, hp, hstop⟩, -⟩
    exact absurd (h p (List.mem_of_getElem? hp)) hstop
  | result k =>
    obtain ⟨⟨p, hp, hmatch⟩, hbefore⟩ := h
    have hstops : StopsAt s d e cases k := ⟨⟨p, hp, fun hpass => hpass.2 hmatch⟩, hbefore⟩
    exact ⟨fun hi => congrArg some (hstops.unique hi), fun hi => Option.some.inj hi ▸ hstops⟩
  | failure k =>
    obtain ⟨⟨p, hp, hfail⟩, hbefore⟩ := h
    have hstops : StopsAt s d e cases k := ⟨⟨p, hp, fun hpass => hpass.1 hfail⟩, hbefore⟩
    exact ⟨fun hi => congrArg some (hstops.unique hi), fun hi => Option.some.inj hi ▸ hstops⟩

section

variable (hv : e.eval s d.inside = .ok v) (hvalid : v.isError = false)
include hv hvalid

theorem EndsWith.not_failure {i : Nat} (h : EndsWith s d e cases (.result i)) :
    ¬EndsWith s d e cases (.failure i) := by
  obtain ⟨⟨p, hp, hmatch⟩, -⟩ := h
  rintro ⟨⟨q, hq, hfail⟩, -⟩
  obtain rfl : p = q := Option.some.inj (hp.symm.trans hq)
  exact hmatch.not_caseFails hv hvalid hfail

theorem EndsWith.unique {a b : Ending} (ha : EndsWith s d e cases a) (hb : EndsWith s d e cases b) :
    a = b := by
  have hindex : a.index? = b.index? :=
    Option.ext fun i => (ha.stopsAt_iff i).symm.trans (hb.stopsAt_iff i)
  cases a <;> cases b <;> cases hindex
  · rfl
  · exact absurd hb (ha.not_failure hv hvalid)
  · rfl
  · exact absurd ha (hb.not_failure hv hvalid)
  · rfl

end

/-! ### The ending of a call -/

def Ending.next : Ending → Ending
  | .result i => .result (i + 1)
  | .otherwise => .otherwise
  | .failure i => .failure (i + 1)

theorem outcome_next (ending : Ending) (p : Expr × Expr) (cases : List (Expr × Expr))
    (other : Option Expr) :
    ending.next.outcome s d (p :: cases) other = ending.outcome s d cases other := by
  cases ending <;> rfl

theorem PassBefore.cons {p : Expr × Expr} {i : Nat} (h : PassBefore s d e cases i)
    (hp : CasePasses s d e p.1) : PassBefore s d e (p :: cases) (i + 1) := by
  intro j hj q hq
  cases j with
  | zero =>
    obtain rfl : p = q := Option.some.inj hq
    exact hp
  | succ j => exact h j (Nat.lt_of_succ_lt_succ hj) q hq

theorem EndsWith.next {p : Expr × Expr} {ending : Ending} (h : EndsWith s d e cases ending)
    (hp : CasePasses s d e p.1) : EndsWith s d e (p :: cases) ending.next := by
  cases ending with
  | otherwise => exact List.forall_mem_cons.mpr ⟨hp, h⟩
  | result i => exact ⟨h.1, h.2.cons hp⟩
  | failure i => exact ⟨h.1, h.2.cons hp⟩

theorem firstCase_cons {case result : Delayed} {rest : List Delayed} (hw : case.value () = .ok w)
    (hvalid : w.isError = false) : firstCase v (case :: result :: rest) =
      if matchesCase v w then result.result else firstCase v rest := by
  rw [firstCase, hw]
  cases w with
  | error x => cases hvalid
  | _ => rfl

theorem firstCase_failure {case result : Delayed} {rest : List Delayed}
    {x : Except DepthExceeded CellError} (hcase : case.value () = Value.error <$> x) :
    firstCase v (case :: result :: rest) = case.value () := by
  rw [firstCase, hcase]
  cases x <;> rfl

/-- The search through the cases ends in some way and gives what belongs to it. -/
theorem exists_endsWith (hv : e.eval s d.inside = .ok v) (hvalid : v.isError = false)
    (cases : List (Expr × Expr)) (other : Option Expr) :
    ∃ ending, EndsWith s d e cases ending ∧
      firstCase v (delayList s d.inside (caseArguments cases other)) =
        ending.outcome s d cases other := by
  -- Each case ends the search or passes, and then the call ends as it does for the cases behind.
  induction cases with
  | nil =>
    refine ⟨.otherwise, nofun, ?_⟩
    cases other <;> rfl
  | cons p cases ih =>
    change ∃ ending, _ ∧ firstCase v (delay s d.inside p.1 :: delay s d.inside p.2 :: _) = _
    rcases caseFails_or s d p.1 with ⟨x, hx⟩ | ⟨w, hw, hvalid'⟩
    · exact ⟨.failure 0, ⟨⟨p, rfl, x, hx⟩, nofun⟩, firstCase_failure hx⟩
    · have hmatch := caseMatches_iff hv hw hvalid hvalid'
      by_cases hcase : CaseMatches s d e p.1
      · refine ⟨.result 0, ⟨⟨p, rfl, hcase⟩, nofun⟩, ?_⟩
        exact (firstCase_cons hw hvalid').trans (if_pos (hmatch.mp hcase))
      · obtain ⟨ending, hending, hrest⟩ := ih
        refine ⟨ending.next, hending.next ⟨not_caseFails hw hvalid', hcase⟩, ?_⟩
        rw [firstCase_cons hw hvalid', if_neg fun h => hcase (hmatch.mpr h), outcome_next]
        exact hrest

theorem find?_switch : find? "SWITCH" = some logicalFunctions[6] :=
  find?_getElem (fun _ => mem_all_of_logical) (by decide) (by decide +kernel)

section

variable (hcases : cases ≠ []) (other : Option Expr)
include hcases

theorem arityError?_switch (e : Expr) :
    logicalFunctions[6].arityError? (e :: caseArguments cases other).length = none := by
  obtain ⟨p, rest, rfl⟩ := List.exists_cons_of_ne_nil hcases
  have hlength : 3 ≤ (e :: caseArguments (p :: rest) other).length :=
    Nat.succ_le_succ (Nat.le_add_left 2 (caseArguments rest other).length)
  exact if_neg (Nat.not_lt.mpr hlength)

variable (hcalls : d.calls < s.options.maxCallDepth)
include hcalls

theorem eval_call_switch (hnodes : d.nodes < s.options.maxExpressionDepth) :
    (call "SWITCH" (e :: caseArguments cases other)).eval s d =
      Value.finite <$> switch (delayList s d.inside (e :: caseArguments cases other)) :=
  eval_call_run find?_switch hnodes hcalls (arityError?_switch hcases other e)

theorem eval_switch_failure {x : Except DepthExceeded CellError}
    (he : e.eval s d.inside = Value.error <$> x) :
    (call "SWITCH" (e :: caseArguments cases other)).eval s d = Value.error <$> x := by
  rcases Nat.lt_or_ge d.nodes s.options.maxExpressionDepth with hnodes | hdeep
  · have hswitch : switch (delayList s d.inside (e :: caseArguments cases other)) =
        Value.error <$> x := by
      change (e.eval s d.inside >>= _) = _
      rw [he]
      cases x <;> rfl
    rw [eval_call_switch hcases other hcalls hnodes, hswitch]
    cases x with
    | error t => rfl
    | ok y => exact congrArg Except.ok (Value.finite_error y)
  · -- Where the call stands too deep, so does its expression.
    rw [eval_of_spine e d.inside (Nat.le_add_right_of_le (Nat.le_succ_of_le hdeep))] at he
    rw [← he]
    exact eval_of_spine _ d (Nat.le_add_right_of_le hdeep)

theorem eval_switch_value (hv : e.eval s d.inside = .ok v) (hvalid : v.isError = false) :
    (call "SWITCH" (e :: caseArguments cases other)).eval s d =
      Value.finite <$> firstCase v (delayList s d.inside (caseArguments cases other)) := by
  rw [eval_call_switch hcases other hcalls (Nat.lt_of_succ_lt (lt_of_eval hv))]
  refine congrArg (Value.finite <$> ·) ?_
  change (e.eval s d.inside >>= _) = _
  rw [hv]
  cases v with
  | error x => cases hvalid
  | _ => rfl

end

/-- Where there is room for a call, a switch whose expression fails fails with it, and any other one ends
in exactly one way: with the result of the first case that matches, when all cases before it pass, with
the default when all cases pass, and else with the first case that fails. -/
theorem eval_switch (hcases : cases ≠ []) (other : Option Expr) :
    (s.options.maxCallDepth ≤ d.calls →
      ∃ x, (call "SWITCH" (e :: caseArguments cases other)).eval s d = .error x) ∧
    (d.calls < s.options.maxCallDepth →
      (∀ x : Except DepthExceeded CellError, e.eval s d.inside = Value.error <$> x →
        (call "SWITCH" (e :: caseArguments cases other)).eval s d = Value.error <$> x) ∧
      ∀ v, e.eval s d.inside = .ok v → v.isError = false →
        ∃ ending, EndsWith s d e cases ending ∧
          (∀ ending', EndsWith s d e cases ending' → ending' = ending) ∧
          (call "SWITCH" (e :: caseArguments cases other)).eval s d =
            Value.finite <$> ending.outcome s d cases other) := by
  refine ⟨fun hdeep => eval_call_deep find?_switch hdeep (arityError?_switch hcases other e),
    fun hcalls => ⟨fun x hx => eval_switch_failure hcases other hcalls hx, fun v hv hvalid => ?_⟩⟩
  obtain ⟨ending, hending, hfirst⟩ := exists_endsWith hv hvalid cases other
  refine ⟨ending, hending, fun ending' h => h.unique hv hvalid hending, ?_⟩
  rw [eval_switch_value hcases other hcalls hv hvalid, hfirst]

/-- A text that spells the number is passed over. -/
theorem eval_switch_number :
    let s : Scope := ⟨.empty, .standard⟩
    let e : Expr := .literal (.number 2)
    let cases : List (Expr × Expr) := [(.literal (.text "2"), .literal (.text "text")),
      (.literal (.number 2), .literal (.text "number"))]
    cases ≠ [] ∧ EndsWith s .top e cases (.result 1) ∧
      (call "SWITCH" (e :: caseArguments cases (some (.literal (.text "none"))))).eval s .top =
        .ok (.text "number") := by
  intro s e cases
  have hcases : cases ≠ [] := List.cons_ne_nil _ _
  have he : e.eval s Depth.top.inside = .ok (.number 2) := rfl
  have hends : EndsWith s .top e cases (.result 1) := by
    refine ⟨⟨_, rfl, (caseMatches_iff he rfl rfl rfl).mpr (by decide +kernel)⟩, fun j hj p hp => ?_⟩
    obtain rfl : j = 0 := Nat.lt_one_iff.mp hj
    obtain rfl := Option.some.inj hp
    refine ⟨not_caseFails rfl rfl, fun h => ?_⟩
    exact absurd ((caseMatches_iff he rfl rfl rfl).mp h) (by decide +kernel)
  have hswitch := ((eval_switch (s := s) (d := .top) (e := e) hcases
    (some (.literal (.text "none")))).2 (by decide)).2
  obtain ⟨ending, -, hunique, heval⟩ := hswitch (.number 2) he rfl
  obtain rfl := hunique _ hends
  refine ⟨hcases, hends, heval.trans ?_⟩
  exact congrArg Except.ok (Value.finite_text _)

/-- Two arrays match though they do not compare. -/
theorem eval_switch_arrays :
    let s : Scope := ⟨.empty, .standard⟩
    let e : Expr := .array [[.literal (.number 1)]]
    let c : Expr := .array [[.literal (.number 2)]]
    (binary .equal e c).eval s .top = .ok (.error (.value "cannot compare an array")) ∧
      (call "SWITCH" [e, c, .literal (.text "hit"), .literal (.text "miss")]).eval s .top =
        .ok (.text "hit") := by
  intro s e c
  have he : e.eval s Depth.top.inside = .ok (.array [[.number 1]]) := rfl
  have hvalue := eval_switch_value (d := .top) (List.cons_ne_nil (c, .literal (.text "hit")) [])
    (some (.literal (.text "miss"))) (by decide) he rfl
  refine ⟨rfl, hvalue.trans ?_⟩
  exact congrArg Except.ok (Value.finite_text _)

end Spreadsheet.Formula.Expr
