import Spreadsheet.Proofs.Evaluation.Arguments
import Spreadsheet.Proofs.Function.Conditional

/-! Conditional aggregations in formulas. The functions for several criteria take any number of ranges,
each with a criterion behind it. -/

namespace Spreadsheet

open Spreadsheet.Function

namespace Function

theorem length_alternate {α : Type} (pairs : List (α × α)) :
    (alternate pairs).length = 2 * pairs.length := by
  induction pairs with
  | nil => rfl
  | cons p pairs ih =>
    change (alternate pairs).length + 2 = _
    rw [ih, List.length_cons]
    omega

/-- The kinds of ranges and criteria in turn. -/
abbrev pairKinds (n : Nat) : List ArgKind := alternate (List.replicate n (.array, .scalar))

theorem eq_of_getElem?_pairKinds {n i : Nat} {kind : ArgKind}
    (h : (pairKinds n)[i]? = some kind) : (if i % 2 = 0 then .array else .scalar) = kind := by
  induction n generalizing i with
  | zero => cases h
  | succ n ih =>
    match i with
    | 0 => exact Option.some.inj h
    | 1 => exact Option.some.inj h
    -- Behind the first pair everything stands two places further.
    | i + 2 =>
      rw [Nat.add_mod_right]
      exact ih h

theorem find?_sumIf : find? "SUMIF" = some aggregationFunctions[29] :=
  find?_aggregation (i := 29) (by decide)

theorem find?_countIf : find? "COUNTIF" = some aggregationFunctions[30] :=
  find?_aggregation (i := 30) (by decide)

theorem find?_averageIf : find? "AVERAGEIF" = some aggregationFunctions[31] :=
  find?_aggregation (i := 31) (by decide)

theorem find?_sumIfs : find? "SUMIFS" = some aggregationFunctions[32] :=
  find?_aggregation (i := 32) (by decide)

theorem find?_countIfs : find? "COUNTIFS" = some aggregationFunctions[33] :=
  find?_aggregation (i := 33) (by decide)

theorem find?_averageIfs : find? "AVERAGEIFS" = some aggregationFunctions[34] :=
  find?_aggregation (i := 34) (by decide)

/-- A function whose last two parameters, a range and a criterion, stand for any number of pairs. -/
structure TakesPairs (f : Function) (fixed : List Parameter) : Prop where
  parameters : ∃ range criterion, f.parameters = fixed ++ [array range, scalar criterion]
  repeating : f.repeating = 2
  minArgs : f.minArgs = fixed.length + 2
  maxArgs : f.maxArgs = none

theorem takesPairs_sumIfs : aggregationFunctions[32].TakesPairs [array "sum_range"] :=
  ⟨⟨_, _, rfl⟩, rfl, rfl, rfl⟩

theorem takesPairs_countIfs : aggregationFunctions[33].TakesPairs [] := ⟨⟨_, _, rfl⟩, rfl, rfl, rfl⟩

theorem takesPairs_averageIfs : aggregationFunctions[34].TakesPairs [array "average_range"] :=
  ⟨⟨_, _, rfl⟩, rfl, rfl, rfl⟩

namespace TakesPairs

variable {f : Function} {fixed : List Parameter} (hf : f.TakesPairs fixed)
include hf

theorem argKind_add (i : Nat) :
    f.argKind (fixed.length + i) = if i % 2 = 0 then .array else .scalar := by
  obtain ⟨range, criterion, hparameters⟩ := hf.parameters
  have hlength : (fixed ++ [array range, scalar criterion]).length = fixed.length + 2 :=
    List.length_append
  have hparameter : f.parameter? (fixed.length + i) = f.parameters[fixed.length + i % 2]? := by
    simp only [parameter?, hparameters, hf.repeating, hlength, Nat.add_sub_cancel,
      Nat.add_sub_cancel_left]
    by_cases hi : i < 2
    · rw [if_pos (by omega), Nat.mod_eq_of_lt hi]
    · rw [if_neg (by omega), if_neg (by omega)]
  rw [argKind, hparameter, hparameters, List.getElem?_append_right (by omega),
    Nat.add_sub_cancel_left]
  rcases Nat.mod_two_eq_zero_or_one i with hi | hi <;> rw [hi] <;> rfl

theorem argKind_eq {n i : Nat} {kind : ArgKind}
    (h : (fixed.map Parameter.kind ++ pairKinds n)[i]? = some kind) : f.argKind i = kind := by
  rcases Nat.lt_or_ge i fixed.length with hi | hi
  · obtain ⟨range, criterion, hparameters⟩ := hf.parameters
    apply Function.argKind_eq
    rw [List.getElem?_append_left (by simpa using hi)] at h
    rw [hparameters, List.map_append, List.getElem?_append_left (by simpa using hi)]
    exact h
  · obtain ⟨j, rfl⟩ := Nat.exists_eq_add_of_le hi
    rw [List.getElem?_append_right (by simp), List.length_map, Nat.add_sub_cancel_left] at h
    rw [hf.argKind_add]
    exact eq_of_getElem?_pairKinds h

theorem arityError?_eq {count : Nat} (h : fixed.length + 2 ≤ count) : f.arityError? count = none := by
  rw [arityError?, hf.minArgs, if_neg (Nat.not_lt.mpr h), hf.maxArgs]

end TakesPairs

end Function

namespace Formula.Expr

variable {s : Scope} {d : Depth}

theorem HaveArguments.append {kinds kinds' : List ArgKind} {es es' : List Expr}
    {vs vs' : List Value} (h : HaveArguments s d kinds es vs) (hlength : es.length = kinds.length)
    (h' : HaveArguments s d kinds' es' vs') :
    HaveArguments s d (kinds ++ kinds') (es ++ es') (vs ++ vs') := by
  induction h with
  | nil =>
    obtain rfl := List.length_eq_zero_iff.mp hlength.symm
    exact h'
  | cons hfirst herror _ ih => exact .cons hfirst herror (ih (Nat.succ.inj hlength))

/-- Whether a range and a criterion have values, neither of them an error. -/
def HasPair (s : Scope) (d : Depth) (p : Expr × Expr) (v : Value × Value) : Prop :=
  HaveArguments s d [.array, .scalar] [p.1, p.2] [v.1, v.2]

variable {pairs pairs' : List (Expr × Expr)} {values : List (Value × Value)}

theorem haveArguments_alternate (h : List.Forall₂ (HasPair s d) pairs values) :
    HaveArguments s d (pairKinds pairs.length) (alternate pairs) (alternate values) := by
  induction h with
  | nil => exact .nil
  | cons hp _ ih => exact HaveArguments.append hp rfl ih

theorem HasPair.lt {p : Expr × Expr} {v : Value × Value} (h : HasPair s d.inside p v) :
    d.nodes < s.options.maxExpressionDepth :=
  HaveArguments.lt h (List.cons_ne_nil _ _)

theorem eval_call_pairs {name : String} {F : Function} {g : List Value → Answer}
    (hfind : find? name = some F) (hg : F.implementation = .eager g) {fixed : List Parameter}
    (hF : F.TakesPairs fixed) {es : List Expr} {vs : List Value}
    (hes : HaveArguments s d.inside (fixed.map Parameter.kind) es vs)
    (hlength : es.length = fixed.length) (hcalls : d.calls < s.options.maxCallDepth)
    (hne : pairs ≠ []) (h : List.Forall₂ (HasPair s d.inside) pairs values) :
    (call name (es ++ alternate pairs)).eval s d =
      .ok (Value.ofAnswer (g (vs ++ alternate values))).finite := by
  have hnodes : d.nodes < s.options.maxExpressionDepth := by
    cases h with
    | nil => exact absurd rfl hne
    | cons hp _ => exact hp.lt
  have hargs := hes.append (hlength.trans (List.length_map _).symm) (haveArguments_alternate h)
  have hpos := List.length_pos_of_ne_nil hne
  have harity : F.arityError? (es ++ alternate pairs).length = none := by
    apply hF.arityError?_eq
    rw [List.length_append, length_alternate]
    omega
  exact hargs.eval_call_of_argKind hfind hg hnodes hcalls (fun _ _ => hF.argKind_eq) harity

section

variable (hcalls : d.calls < s.options.maxCallDepth)
include hcalls

/-! ### Several criteria -/

section

variable (hne : pairs ≠ []) (h : List.Forall₂ (HasPair s d.inside) pairs values)
include hne h

theorem eval_countIfs : (call "COUNTIFS" (alternate pairs)).eval s d =
    .ok (Value.ofAnswer (countIfs (alternate values))).finite := by
  have hnone : HaveArguments s d.inside ([].map Parameter.kind) [] [] := .nil
  have heval := eval_call_pairs find?_countIfs rfl takesPairs_countIfs hnone rfl hcalls hne h
  exact heval

variable {t : Expr} {v : Value} (ht : HaveArguments s d.inside [.array] [t] [v])
include ht

theorem eval_sumIfs : (call "SUMIFS" (t :: alternate pairs)).eval s d =
    .ok (Value.ofAnswer (sumIfs (v :: alternate values))).finite := by
  have heval := eval_call_pairs find?_sumIfs rfl takesPairs_sumIfs ht rfl hcalls hne h
  exact heval

theorem eval_averageIfs : (call "AVERAGEIFS" (t :: alternate pairs)).eval s d =
    .ok (Value.ofAnswer (averageIfs (v :: alternate values))).finite := by
  have heval := eval_call_pairs find?_averageIfs rfl takesPairs_averageIfs ht rfl hcalls hne h
  exact heval

end

/-! ### One criterion -/

section

variable {r c t : Expr} {v w u : Value} (h : HasPair s d.inside (r, c) (v, w))
include h

theorem eval_countIf : (call "COUNTIF" [r, c]).eval s d =
    .ok (Value.ofAnswer (countIf [v, w])).finite :=
  HaveArguments.eval_call find?_countIf rfl h.lt hcalls h rfl

variable (ht : HaveArguments s d.inside [.array] [t] [u])
include ht

theorem eval_sumIf : (call "SUMIF" [r, c, t]).eval s d =
    .ok (Value.ofAnswer (sumIf [v, w, u])).finite :=
  HaveArguments.eval_call find?_sumIf rfl h.lt hcalls (HaveArguments.append h rfl ht) rfl

theorem eval_averageIf : (call "AVERAGEIF" [r, c, t]).eval s d =
    .ok (Value.ofAnswer (averageIf [v, w, u])).finite :=
  HaveArguments.eval_call find?_averageIf rfl h.lt hcalls (HaveArguments.append h rfl ht) rfl

end

section

variable {r c t : Expr} {v w u : Value} (hr : HaveArguments s d.inside [.array] [r] [v])
include hr

/-- An error in place of the criterion is the result of all of them. -/
theorem eval_error_criterion {x : CellError} (hx : HasArgument s d.inside c (.error x) .scalar) :
    ((call "COUNTIF" [r, c]).eval s d = .ok (.error x) ∧
      (call "COUNTIFS" [r, c]).eval s d = .ok (.error x)) ∧
      (HaveArguments s d.inside [.array] [t] [u] →
        ((call "SUMIF" [r, c, t]).eval s d = .ok (.error x) ∧
          (call "SUMIFS" [t, r, c]).eval s d = .ok (.error x)) ∧
          ((call "AVERAGEIF" [r, c, t]).eval s d = .ok (.error x) ∧
            (call "AVERAGEIFS" [t, r, c]).eval s d = .ok (.error x))) := by
  have hrange (kinds : List ArgKind) : HaveArguments s d.inside (.array :: kinds) [r] [v] :=
    hr.append rfl .nil
  refine ⟨⟨?_, ?_⟩, fun ht => ?_⟩
  · exact (hrange _).eval_call_error find?_countIf rfl hx.lt hcalls rfl rfl hx
  · exact (hrange _).eval_call_error find?_countIfs rfl hx.lt hcalls rfl rfl hx
  · have hboth : HaveArguments s d.inside [.array, .array, .scalar] [t, r] [u, v] :=
      ht.append rfl (hrange _)
    refine ⟨⟨?_, ?_⟩, ?_, ?_⟩
    · exact (hrange _).eval_call_error find?_sumIf rfl hx.lt hcalls rfl rfl hx
    · exact hboth.eval_call_error find?_sumIfs rfl hx.lt hcalls rfl rfl hx
    · exact (hrange _).eval_call_error find?_averageIf rfl hx.lt hcalls rfl rfl hx
    · exact hboth.eval_call_error find?_averageIfs rfl hx.lt hcalls rfl rfl hx

/-- The functions for one criterion give what those for several do with this criterion alone. -/
theorem eval_one_criterion (hc : HasArgument s d.inside c w .scalar) :
    (call "COUNTIF" [r, c]).eval s d = (call "COUNTIFS" [r, c]).eval s d ∧
      (HaveArguments s d.inside [.array] [t] [u] → dimensions v = dimensions u →
        (call "SUMIF" [r, c, t]).eval s d = (call "SUMIFS" [t, r, c]).eval s d ∧
          (call "AVERAGEIF" [r, c, t]).eval s d = (call "AVERAGEIFS" [t, r, c]).eval s d) := by
  by_cases hw : ∃ x, w = .error x
  · obtain ⟨x, rfl⟩ := hw
    obtain ⟨⟨hcount, hcounts⟩, htarget⟩ := eval_error_criterion (t := t) (u := u) hcalls hr hc
    refine ⟨hcount.trans hcounts.symm, fun ht _ => ?_⟩
    obtain ⟨⟨hsum, hsums⟩, haverage, haverages⟩ := htarget ht
    exact ⟨hsum.trans hsums.symm, haverage.trans haverages.symm⟩
  have herror : w.isError = false := by
    cases w <;> first | rfl | exact absurd ⟨_, rfl⟩ hw
  have h : HasPair s d.inside (r, c) (v, w) := hr.append rfl (.cons hc herror .nil)
  have hne := List.cons_ne_nil (r, c) []
  have hpairs : List.Forall₂ (HasPair s d.inside) [(r, c)] [(v, w)] := .cons h .nil
  refine ⟨?_, fun ht hshape => ⟨?_, ?_⟩⟩
  · rw [eval_countIf hcalls h, countIf_eq_countIfs]
    exact (eval_countIfs hcalls hne hpairs).symm
  · rw [eval_sumIf hcalls h ht, sumIf_eq_sumIfs w hshape]
    exact (eval_sumIfs hcalls hne hpairs ht).symm
  · rw [eval_averageIf hcalls h ht, averageIf_eq_averageIfs w hshape]
    exact (eval_averageIfs hcalls hne hpairs ht).symm

end

/-- The criteria may come in any order. -/
theorem eval_criteria_perm (h : pairs.Perm pairs')
    (hpairs : ∀ p ∈ pairs, ∃ v, HasPair s d.inside p v) :
    (call "COUNTIFS" (alternate pairs)).eval s d = (call "COUNTIFS" (alternate pairs')).eval s d ∧
      ∀ t v, HaveArguments s d.inside [.array] [t] [v] →
        (call "SUMIFS" (t :: alternate pairs)).eval s d =
            (call "SUMIFS" (t :: alternate pairs')).eval s d ∧
          (call "AVERAGEIFS" (t :: alternate pairs)).eval s d =
            (call "AVERAGEIFS" (t :: alternate pairs')).eval s d := by
  rcases eq_or_ne pairs [] with rfl | hne
  · rw [h.nil_eq]
    exact ⟨rfl, fun t v _ => ⟨rfl, rfl⟩⟩
  have hne' : pairs' ≠ [] := fun h' => hne (h' ▸ h).eq_nil
  -- One value is chosen for each pair, so that pairs in another order have their values in that order.
  choose! f hf using hpairs
  have hvalues : List.Forall₂ (HasPair s d.inside) pairs (pairs.map f) :=
    List.forall₂_map_right_iff.mpr (List.forall₂_same.mpr hf)
  have hvalues' : List.Forall₂ (HasPair s d.inside) pairs' (pairs'.map f) :=
    List.forall₂_map_right_iff.mpr (List.forall₂_same.mpr fun p hp => hf p (h.mem_iff.mpr hp))
  refine ⟨?_, fun t v ht => ⟨?_, ?_⟩⟩
  · rw [eval_countIfs hcalls hne hvalues, eval_countIfs hcalls hne' hvalues', countIfs_perm (h.map f)]
  · rw [eval_sumIfs hcalls hne hvalues ht, eval_sumIfs hcalls hne' hvalues' ht, sumIfs_perm (h.map f)]
  · rw [eval_averageIfs hcalls hne hvalues ht, eval_averageIfs hcalls hne' hvalues' ht,
      averageIfs_perm (h.map f)]

end

/-- Aggregations with one criterion agree with those with several, and these do not depend on the order
of their criteria: as functions on any values, and in formulas. There the first error among the arguments
is the result, so that the order is without effect only where none of them is an error. -/
theorem eval_conditional_agree :
    (∀ range criterion : Value, countIf [range, criterion] = countIfs [range, criterion]) ∧
    (∀ range criterion target : Value, dimensions range = dimensions target →
      sumIf [range, criterion, target] = sumIfs [target, range, criterion] ∧
        averageIf [range, criterion, target] = averageIfs [target, range, criterion]) ∧
    (∀ pairs pairs' : List (Value × Value), pairs.Perm pairs' →
      countIfs (alternate pairs) = countIfs (alternate pairs') ∧
        ∀ target, sumIfs (target :: alternate pairs) = sumIfs (target :: alternate pairs') ∧
          averageIfs (target :: alternate pairs) = averageIfs (target :: alternate pairs')) ∧
    ∀ (s : Scope) (d : Depth), d.calls < s.options.maxCallDepth →
      (∀ r c t v w u, HaveArguments s d.inside [.array] [r] [v] →
        HasArgument s d.inside c w .scalar →
          (call "COUNTIF" [r, c]).eval s d = (call "COUNTIFS" [r, c]).eval s d ∧
            (HaveArguments s d.inside [.array] [t] [u] → dimensions v = dimensions u →
              (call "SUMIF" [r, c, t]).eval s d = (call "SUMIFS" [t, r, c]).eval s d ∧
                (call "AVERAGEIF" [r, c, t]).eval s d = (call "AVERAGEIFS" [t, r, c]).eval s d)) ∧
      ∀ pairs pairs' : List (Expr × Expr), pairs.Perm pairs' →
        (∀ p ∈ pairs, ∃ v, HasPair s d.inside p v) →
          (call "COUNTIFS" (alternate pairs)).eval s d =
              (call "COUNTIFS" (alternate pairs')).eval s d ∧
            ∀ t v, HaveArguments s d.inside [.array] [t] [v] →
              (call "SUMIFS" (t :: alternate pairs)).eval s d =
                  (call "SUMIFS" (t :: alternate pairs')).eval s d ∧
                (call "AVERAGEIFS" (t :: alternate pairs)).eval s d =
                  (call "AVERAGEIFS" (t :: alternate pairs')).eval s d := by
  refine ⟨countIf_eq_countIfs, fun range criterion target hshape => ?_, fun pairs pairs' h => ?_,
    fun s d hcalls => ⟨fun r c t v w u => eval_one_criterion hcalls,
      fun pairs pairs' => eval_criteria_perm hcalls⟩⟩
  · exact ⟨sumIf_eq_sumIfs criterion hshape, averageIf_eq_averageIfs criterion hshape⟩
  · exact ⟨countIfs_perm h, fun target => ⟨sumIfs_perm h target, averageIfs_perm h target⟩⟩

/-- Two criteria on ranges of different shapes, in both orders. -/
theorem eval_conditional_agree_shapes :
    let s : Scope := ⟨.empty, .standard⟩
    let p : Expr × Expr :=
      (.array [[.literal (.number 1), .literal (.number 2)]], .literal (.text ">1"))
    let q : Expr × Expr := (.array [[.literal (.number 3)]], .literal (.number 3))
    HasPair s Depth.top.inside p (.array [[.number 1, .number 2]], .text ">1") ∧
      HasPair s Depth.top.inside q (.array [[.number 3]], .number 3) ∧
      (call "COUNTIFS" (alternate [p, q])).eval s .top =
        .ok (.error (.value "all ranges must have the same size")) ∧
      (call "COUNTIFS" (alternate [q, p])).eval s .top =
        .ok (.error (.value "all ranges must have the same size")) := by
  intro s p q
  have hp : HasPair s Depth.top.inside p (.array [[.number 1, .number 2]], .text ">1") :=
    .cons (.array rfl) rfl (.cons (.scalar rfl rfl) rfl .nil)
  have hq : HasPair s Depth.top.inside q (.array [[.number 3]], .number 3) :=
    .cons (.array rfl) rfl (.cons (.scalar rfl rfl) rfl .nil)
  have hresult : (call "COUNTIFS" (alternate [p, q])).eval s .top =
      .ok (.error (.value "all ranges must have the same size")) :=
    (eval_countIfs (by decide) (List.cons_ne_nil p [q]) (.cons hp (.cons hq .nil))).trans
      (congrArg Except.ok (Value.finite_error _))
  have hpairs (x : Expr × Expr) (hx : x ∈ [p, q]) : ∃ v, HasPair s Depth.top.inside x v := by
    rcases List.mem_pair.mp hx with rfl | rfl
    · exact ⟨_, hp⟩
    · exact ⟨_, hq⟩
  have hsame := (eval_conditional_agree.2.2.2 s .top (by decide)).2 [p, q] [q, p] (.swap q p []) hpairs
  exact ⟨hp, hq, hresult, hsame.1.symm.trans hresult⟩

end Formula.Expr

end Spreadsheet
