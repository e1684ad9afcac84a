import Spreadsheet.Proofs.Evaluation.Arguments
import Spreadsheet.Proofs.Function.Collected
import Spreadsheet.Proofs.Function.Mode

/-! Aggregations in formulas. `COUNT` counts the numbers that `SUM` adds, and `AVERAGE` is the quotient
of the two. `MODE` is the first of the numbers that occur most often. -/

namespace Spreadsheet

open Formula (BinaryOp)
open Spreadsheet.Function

namespace Function

/-- A function of arrays, of which it takes any number but none. -/
structure TakesArrays (f : Function) : Prop where
  parameters : ∃ name, f.parameters = [array name]
  repeating : f.repeating = 1
  minArgs : f.minArgs = 1
  maxArgs : f.maxArgs = none

namespace TakesArrays

variable {f : Function} (hf : f.TakesArrays)
include hf

theorem argKind_eq (i : Nat) : f.argKind i = .array := by
  obtain ⟨name, hparameters⟩ := hf.parameters
  have hparameter : f.parameter? i = some (array name) := by
    simp only [parameter?, hparameters, hf.repeating, List.length_singleton]
    split
    · obtain rfl : i = 0 := by omega
      rfl
    · simp [Nat.mod_one]
  rw [argKind, hparameter]
  rfl

theorem arityError?_eq_none {n : Nat} (hn : n ≠ 0) : f.arityError? n = none := by
  have hmin : ¬n < f.minArgs := by
    rw [hf.minArgs]
    omega
  rw [arityError?, if_neg hmin, hf.maxArgs]

end TakesArrays

end Function

namespace Formula.Expr

variable {s : Scope} {d : Depth} {es : List Expr} {vs : List Value}

/-- Arguments where arrays are meant, and their values, none of which is an error. -/
abbrev HaveArrays (s : Scope) (d : Depth) (es : List Expr) (vs : List Value) : Prop :=
  HaveArguments s d (List.replicate es.length .array) es vs

section

variable (h : HaveArrays s d.inside es vs) (hes : es ≠ [])
  (hcalls : d.calls < s.options.maxCallDepth)
include h hes hcalls

theorem HaveArrays.eval_call {name : String} {f : Function} {g : List Value → Answer}
    (hfind : find? name = some f) (hf : f.TakesArrays) (hg : f.implementation = .eager g) :
    (call name es).eval s d = .ok (Value.ofAnswer (g vs)).finite := by
  refine h.eval_call_of_argKind hfind hg (h.lt hes) hcalls (fun i kind hi => ?_)
    (hf.arityError?_eq_none (List.length_pos_of_ne_nil hes).ne')
  rw [hf.argKind_eq, List.eq_of_mem_replicate (List.mem_of_getElem? hi)]

theorem eval_sum :
    (call "SUM" es).eval s d =
      .ok (Value.ofAnswer (aggregate .numbers (Except.ok ∘ sum) vs)).finite :=
  h.eval_call hes hcalls (find?_aggregation (i := 0) (by decide)) ⟨⟨_, rfl⟩, rfl, rfl, rfl⟩ rfl

theorem eval_average :
    (call "AVERAGE" es).eval s d = .ok (Value.ofAnswer (aggregate .numbers mean vs)).finite :=
  h.eval_call hes hcalls (find?_aggregation (i := 1) (by decide)) ⟨⟨_, rfl⟩, rfl, rfl, rfl⟩ rfl

theorem eval_count :
    (call "COUNT" es).eval s d = .ok (Value.ofAnswer (countNumbers vs)).finite :=
  h.eval_call hes hcalls (find?_aggregation (i := 3) (by decide)) ⟨⟨_, rfl⟩, rfl, rfl, rfl⟩ rfl

/-- The two names stand for the same function. -/
theorem eval_mode {name : String} (hname : name ∈ ["MODE", "MODE.SNGL"]) :
    (call name es).eval s d = .ok (Value.ofAnswer (aggregate .numbers mode vs)).finite := by
  rcases List.mem_pair.mp hname with rfl | rfl
  · exact h.eval_call hes hcalls (find?_aggregation (i := 11) (by decide))
      ⟨⟨_, rfl⟩, rfl, rfl, rfl⟩ rfl
  · exact h.eval_call hes hcalls (find?_aggregation (i := 12) (by decide))
      ⟨⟨_, rfl⟩, rfl, rfl, rfl⟩ rfl

end

/-! ### Quotients -/

theorem eval_binary_error {op : BinaryOp} {l r : Expr} {x : CellError}
    (hl : l.eval s d.enterNode = .ok (.error x)) : (binary op l r).eval s d = .ok (.error x) := by
  rw [eval, Depth.checkNode_of_lt (Nat.lt_of_succ_lt (lt_of_eval hl)), hl]
  rfl

theorem eval_divide {l r : Expr} {x y : Float} (hl : l.eval s d.enterNode = .ok (.number x))
    (hr : r.eval s d.enterNode = .ok (.number y)) :
    (binary .divide l r).eval s d =
      .ok (Value.ofAnswer ((Value.divide x y).map .number)).finite := by
  have heval : (binary .divide l r).eval s d =
      .ok (Value.ofAnswer (Value.divide x y >>= Value.ofResult)) := by
    rw [eval, Depth.checkNode_of_lt (Nat.lt_of_succ_lt (lt_of_eval hl)), hl, hr]
    rfl
  rw [heval]
  cases Value.divide x y with
  | error e => exact congrArg Except.ok (Value.finite_error e).symm
  | ok q =>
    refine congrArg Except.ok (Eq.trans ?_ (Value.finite_number q).symm)
    change Value.ofAnswer (Value.ofResult q) = _
    rw [Value.ofResult]
    split <;> rfl

/-- A sum that is no number makes the mean the same error. -/
theorem finite_mean_of_sum {xs : List Float} (h : Number.isFinite (Function.sum xs) = false) :
    (Value.ofAnswer ((mean xs).map .number)).finite = .error Value.notFinite := by
  have hne : (xs.length == 0) = false := by
    cases xs with
    | nil => exact absurd h (by decide)
    | cons => rfl
  have hmean : mean xs = .ok (Function.sum xs / Number.ofNat xs.length) := by
    rw [mean_eq_divide, Value.divide, Number.ofNat_beq_zero, hne]
    rfl
  rw [hmean]
  change (Value.number _).finite = _
  rw [Value.finite_number, Number.not_isFinite_div h]
  rfl

theorem ofAnswer_mean_eq_iff {xs : List Float} :
    (Value.ofAnswer ((mean xs).map .number)).finite = .error .divideByZero ↔ xs = [] := by
  rw [mean]
  cases xs with
  | nil => exact iff_of_true (Value.finite_error _) rfl
  | cons x xs =>
    refine iff_of_false ?_ (List.cons_ne_nil _ _)
    change (Value.number _).finite ≠ _
    rw [Value.finite_number]
    split <;> simp [Value.notFinite, CellError.num, CellError.detailed, CellError.divideByZero,
      CellError.plain]

theorem finite_count_eq_zero_iff {n : Nat} : (count n).finite = .number 0 ↔ n = 0 := by
  constructor
  · intro h
    rw [count, Value.finite_number] at h
    split at h
    · have hzero : (Number.ofNat n == 0) = true := by
        rw [Value.number.inj h]
        decide +kernel
      rwa [Number.ofNat_beq_zero, beq_iff_eq] at hzero
    · cases h
  · rintro rfl
    exact (Value.finite_number _).trans (if_pos (Number.isFinite_ofNat (by decide)))

theorem eval_average_of_count {xs : List Float} {n : Float} (h : HaveArrays s d.inside es vs)
    (hdeep : HaveArrays s d.enterNode.inside es vs) (hes : es ≠ [])
    (hcalls : d.calls < s.options.maxCallDepth) (hxs : collectNumbers .numbers vs = .ok xs)
    (hn : (call "COUNT" es).eval s d = .ok (.number n)) :
    (call "AVERAGE" es).eval s d =
      (binary .divide (call "SUM" es) (call "COUNT" es)).eval s d := by
  have haverage := eval_average h hes hcalls
  have hsum := eval_sum hdeep hes hcalls
  have hcount := eval_count h hes hcalls
  have hdeepCount := eval_count hdeep hes hcalls
  rw [countNumbers_eq hxs] at hcount hdeepCount
  rw [aggregate_eq hxs] at haverage hsum
  -- The operands of the division stand one node further down.
  have hright : (call "COUNT" es).eval s d.enterNode = .ok (.number n) :=
    hdeepCount.trans (hcount.symm.trans hn)
  have hlength : n = Number.ofNat xs.length := by
    have hfinite : (count xs.length).finite = .number n := Except.ok.inj (hcount.symm.trans hn)
    rw [count, Value.finite_number] at hfinite
    split at hfinite
    · exact (Value.number.inj hfinite).symm
    · cases hfinite
  have hleft : (call "SUM" es).eval s d.enterNode = .ok (Value.number (Function.sum xs)).finite := hsum
  rw [haverage]
  cases hfinite : Number.isFinite (Function.sum xs) with
  | true =>
    rw [Value.finite_number, if_pos hfinite] at hleft
    rw [eval_divide hleft hright, mean_eq_divide, hlength]
  | false =>
    rw [Value.finite_number, hfinite] at hleft
    rw [eval_binary_error hleft, finite_mean_of_sum hfinite]

/-- `COUNT` gives the number of the numbers that are collected from the arguments. `SUM` adds them, and
`AVERAGE` is that sum divided by that count, so that it fails for the lack of numbers just where the
count is 0. What cannot be collected is the result of both `SUM` and `AVERAGE`. -/
theorem eval_average_eq_quotient :
    (∀ args xs, collectNumbers .numbers args = .ok xs →
      countNumbers args = .ok (count xs.length) ∧
        aggregate .numbers mean args =
          (Value.divide (Function.sum xs) (Number.ofNat xs.length)).map .number) ∧
    ∀ (s : Scope) (d : Depth) (es : List Expr) (vs : List Value), es ≠ [] →
      d.calls < s.options.maxCallDepth → HaveArrays s d.inside es vs →
      let total := call "SUM" es
      let counted := call "COUNT" es
      let average := call "AVERAGE" es
      (∀ e, collectNumbers .numbers vs = .error e →
        total.eval s d = .ok (.error e) ∧ average.eval s d = .ok (.error e)) ∧
      ∀ xs, collectNumbers .numbers vs = .ok xs →
        counted.eval s d = .ok (count xs.length).finite ∧
          total.eval s d = .ok (Value.number (Function.sum xs)).finite ∧
          (average.eval s d = .ok (.error .divideByZero) ↔ counted.eval s d = .ok (.number 0)) ∧
          (HaveArrays s d.enterNode.inside es vs → ∀ n, counted.eval s d = .ok (.number n) →
            average.eval s d = (binary .divide total counted).eval s d) := by
  refine ⟨fun args xs hxs => ⟨countNumbers_eq hxs, ?_⟩, fun s d es vs hes hcalls h => ?_⟩
  · rw [aggregate_eq hxs, mean_eq_divide]
  · intro total counted average
    have haverage := eval_average h hes hcalls
    have hsum := eval_sum h hes hcalls
    have hcount := eval_count h hes hcalls
    refine ⟨fun e he => ?_, fun xs hxs => ?_⟩
    · rw [aggregate_eq_error he] at haverage hsum
      rw [hsum, haverage]
      exact ⟨congrArg Except.ok (Value.finite_error e), congrArg Except.ok (Value.finite_error e)⟩
    · rw [countNumbers_eq hxs] at hcount
      rw [aggregate_eq hxs] at haverage hsum
      refine ⟨hcount, hsum, ?_, fun hdeep n hn =>
        eval_average_of_count h hdeep hes hcalls hxs hn⟩
      rw [haverage, hcount, Except.ok.injEq, Except.ok.injEq, ofAnswer_mean_eq_iff]
      exact List.length_eq_zero_iff.symm.trans finite_count_eq_zero_iff.symm

/-- An array with a number, a text and a boolean, an empty cell, a boolean and a text that spells a
number: of these six values three are counted. -/
theorem eval_average_eq_quotient_mixed :
    let s : Scope := ⟨.empty, .standard⟩
    let es : List Expr :=
      [.array [[.literal (.number 1), .literal (.text "2"), .literal (.boolean true)]],
        .reference (.relative 0 0), .literal (.boolean true), .literal (.text "4")]
    let vs : List Value :=
      [.array [[.number 1, .text "2", .boolean true]], .array [[.blank]], .boolean true, .text "4"]
    HaveArrays s Depth.top.inside es vs ∧ HaveArrays s Depth.top.enterNode.inside es vs ∧
      collectNumbers .numbers vs = .ok [1, 1, 4] ∧
      (call "COUNT" es).eval s .top = .ok (.number (Number.ofNat 3)) ∧
      (call "AVERAGE" es).eval s .top =
        (binary .divide (call "SUM" es) (call "COUNT" es)).eval s .top ∧
      (call "AVERAGE" es).eval s .top ≠ .ok (.error .divideByZero) := by
  intro s es vs
  have hvalues : HaveArrays s Depth.top.inside es vs :=
    .cons (.array rfl) rfl (.cons (.array rfl) rfl (.cons (.array rfl) rfl
      (.cons (.array rfl) rfl .nil)))
  have hdeep : HaveArrays s Depth.top.enterNode.inside es vs :=
    .cons (.array rfl) rfl (.cons (.array rfl) rfl (.cons (.array rfl) rfl
      (.cons (.array rfl) rfl .nil)))
  have hxs : collectNumbers .numbers vs = .ok [1, 1, 4] := by
    have hfour : Number.ofText? "4" = some 4 := by decide +kernel
    have htext : collectArgument .numbers (.text "4") = .ok [4] := by
      simp only [collectArgument, Value.toNumber, hfour]
      rfl
    simp only [collectNumbers, vs, List.mapM_cons, htext]
    rfl
  obtain ⟨hcount, -, hnone, hquotient⟩ := (eval_average_eq_quotient.2 s .top es vs
    (List.cons_ne_nil _ _) (by decide) hvalues).2 _ hxs
  have hthree : (call "COUNT" es).eval s .top = .ok (.number (Number.ofNat 3)) := by
    rw [hcount, count, Value.finite_number]
    exact congrArg Except.ok (if_pos (Number.isFinite_ofNat (by decide)))
  refine ⟨hvalues, hdeep, hxs, hthree, hquotient hdeep _ hthree, fun hdivide => ?_⟩
  have hzero := hcount.symm.trans (hnone.mp hdivide)
  exact absurd (finite_count_eq_zero_iff.mp (Except.ok.inj hzero)) (by decide)

/-! ### Modes -/

theorem eval_mode_of_numbers {name : String} (hname : name ∈ ["MODE", "MODE.SNGL"])
    (h : HaveArrays s d.inside es vs) (hes : es ≠ []) (hcalls : d.calls < s.options.maxCallDepth)
    {xs : List Float} (hxs : collectNumbers .numbers vs = .ok xs)
    (hfinite : ∀ x ∈ xs, Number.isFinite x = true) :
    ((call name es).eval s d = .ok (.error (.notAvailable "no value repeats")) ∧
        ∀ x ∈ xs, xs.count x ≤ 1) ∨
      ∃ x, (call name es).eval s d = .ok (.number x) ∧ IsMode xs x := by
  have heval := eval_mode h hes hcalls hname
  rw [aggregate_eq hxs] at heval
  rcases mode_eq hfinite with ⟨hnone, hdistinct⟩ | ⟨x, hx, hmode⟩
  · rw [hnone] at heval
    exact .inl ⟨heval.trans (congrArg Except.ok (Value.finite_error _)), hdistinct⟩
  · rw [hx] at heval
    refine .inr ⟨x, heval.trans (congrArg Except.ok ?_), hmode⟩
    exact (Value.finite_number x).trans (if_pos (hfinite x hmode.mem))

/-- `MODE` is the first of the numbers that occur most often, which must occur at least twice, and
`#N/A` where none does. -/
theorem eval_mode_isMode {name : String} (hname : name ∈ ["MODE", "MODE.SNGL"])
    (h : HaveArrays s d.inside es vs) (hes : es ≠ []) (hcalls : d.calls < s.options.maxCallDepth)
    {xs : List Float} (hxs : collectNumbers .numbers vs = .ok xs)
    (hfinite : ∀ x ∈ xs, Number.isFinite x = true) :
    ((∃ e : CellError, e.kind = .notAvailable ∧ (call name es).eval s d = .ok (.error e)) ↔
        ∀ x ∈ xs, xs.count x ≤ 1) ∧
      ((∃ y ∈ xs, 2 ≤ xs.count y) → ∃ x, (call name es).eval s d = .ok (.number x) ∧
        2 ≤ xs.count x ∧ (∀ y ∈ xs, xs.count y ≤ xs.count x) ∧
        ∃ front back, xs = front ++ x :: back ∧ ∀ y ∈ front, xs.count y < xs.count x) := by
  rcases eval_mode_of_numbers hname h hes hcalls hxs hfinite with
    ⟨hnone, hdistinct⟩ | ⟨x, hx, hmode⟩
  · refine ⟨iff_of_true ⟨_, rfl, hnone⟩ hdistinct, ?_⟩
    rintro ⟨y, hy, htwo⟩
    exact absurd (hdistinct y hy) (by omega)
  · refine ⟨iff_of_false ?_ fun hdistinct => ?_,
      fun _ => ⟨x, hx, hmode.repeated, hmode.most, hmode.first⟩⟩
    · rintro ⟨e, -, he⟩
      cases hx.symm.trans he
    · have hone := hdistinct x hmode.mem
      have htwo := hmode.repeated
      omega

/-- Of two numbers that both occur twice the mode is the one that occurs first, although the other one is
the first to occur again; a boolean in an array is no number. -/
theorem eval_mode_isMode_tie :
    let s : Scope := ⟨.empty, .standard⟩
    let es : List Expr := [.literal (.number 3),
      .array [[.literal (.number 2), .literal (.boolean true), .literal (.number 2)]],
      .literal (.number 3)]
    let vs : List Value := [.number 3, .array [[.number 2, .boolean true, .number 2]], .number 3]
    HaveArrays s Depth.top.inside es vs ∧ collectNumbers .numbers vs = .ok [3, 2, 2, 3] ∧
      (call "MODE" es).eval s .top = .ok (.number 3) := by
  intro s es vs
  have hvalues : HaveArrays s Depth.top.inside es vs :=
    .cons (.array rfl) rfl (.cons (.array rfl) rfl (.cons (.array rfl) rfl .nil))
  have hxs : collectNumbers .numbers vs = .ok [3, 2, 2, 3] := rfl
  have hfinite : ∀ x ∈ [3, 2, 2, 3], Number.isFinite x = true := by decide +kernel
  have htwo : ∀ x ∈ ([3, 2, 2, 3] : List Float), [3, 2, 2, 3].count x = 2 := by decide +kernel
  obtain ⟨x, hx, -, -, front, back, hsplit, hfront⟩ :=
    (eval_mode_isMode (List.mem_cons_self ..) hvalues (List.cons_ne_nil _ _) (by decide) hxs hfinite).2
      ⟨2, by simp, (htwo 2 (by simp)).ge⟩
  cases front with
  | nil =>
    obtain ⟨rfl, -⟩ := List.cons.inj hsplit
    exact ⟨hvalues, hxs, hx⟩
  | cons y front =>
    obtain ⟨rfl, -⟩ := List.cons.inj hsplit
    have hlt := hfront 3 (List.mem_cons_self ..)
    have hmem : x ∈ ([3, 2, 2, 3] : List Float) := by
      rw [hsplit]
      simp
    rw [htwo 3 (by simp), htwo x hmem] at hlt
    exact absurd hlt (by decide)

end Formula.Expr

end Spreadsheet
