import Spreadsheet.Proofs.Evaluation.Arguments
import Spreadsheet.Proofs.Function.OrderStatistics

/-! Order statistics in formulas. `SMALL` counts places from the least number of an array on and `LARGE`
from the greatest one; neither depends on how the elements of the array are arranged. -/

namespace Spreadsheet

open Spreadsheet.Function

namespace Formula.Expr

variable {s : Scope} {d : Depth}

/-- Whether an expression is read as an integer where a number is rounded up. -/
def ReadsRoundedUp (s : Scope) (d : Depth) (e : Expr) (n : Int) : Prop :=
  ∃ v x, e.eval s d = .ok v ∧ v.toNumber = .ok x ∧ Number.ceilToInt x = n

theorem readsRoundedUp_literal (hnodes : d.nodes < s.options.maxExpressionDepth) {n : Nat}
    (h : n < 2 ^ 53) : (literal (.number (Number.ofNat n))).ReadsRoundedUp s d n :=
  ⟨_, _, eval_literal hnodes _, rfl, Number.ceilToInt_ofNat h⟩

section

variable {a : Expr} {rows : List (List Value)}
  (ha : HasArgument s d.inside a (.array rows) .array) (hcalls : d.calls < s.options.maxCallDepth)
include ha hcalls

theorem eval_kth {name : String} {f : Function} {arrange : List Float → List Float}
    (hfind : find? name = some f) (hf : f.implementation = .eager (kth arrange))
    (hkinds : f.parameters.map Parameter.kind = [.array, .scalar]) (harity : f.arityError? 2 = none)
    {b : Expr} {w : Value} (hb : HasArgument s d.inside b w .scalar) (hw : w.isError = false) :
    (call name [a, b]).eval s d = .ok (Value.ofAnswer (kth arrange [.array rows, w])).finite := by
  have hargs : HaveArguments s d.inside (f.parameters.map Parameter.kind) [a, b]
      [.array rows, w] := by
    rw [hkinds]
    exact .cons ha rfl (.cons hb hw .nil)
  exact hargs.eval_call hfind hf ha.lt hcalls harity

variable {b : Expr} {w : Value} (hb : HasArgument s d.inside b w .scalar) (hw : w.isError = false)
include hb hw

theorem eval_large :
    (call "LARGE" [a, b]).eval s d = .ok (Value.ofAnswer (large [.array rows, w])).finite :=
  eval_kth ha hcalls (find?_aggregation (i := 15) (by decide)) rfl rfl rfl hb hw

theorem eval_small :
    (call "SMALL" [a, b]).eval s d = .ok (Value.ofAnswer (small [.array rows, w])).finite :=
  eval_kth ha hcalls (find?_aggregation (i := 16) (by decide)) rfl rfl rfl hb hw

end

section

variable {a : Expr} {rows : List (List Value)}
  (ha : HasArgument s d.inside a (.array rows) .array)
  (hvalid : ∀ v ∈ rows.flatten, v.isError = false)
  (hcalls : d.calls < s.options.maxCallDepth)
include ha hvalid hcalls

/-- `SMALL` reads the numbers in order. -/
theorem eval_small_of_place (hfinite : ∀ x ∈ numbersIn rows.flatten, Number.isFinite x = true)
    {b : Expr} {k : Nat} (hb : b.ReadsRoundedUp s d.inside k) (hpos : 1 ≤ k)
    (hk : k ≤ (numbersIn rows.flatten).length) :
    ∃ h : k - 1 < (sorted (numbersIn rows.flatten)).length,
      (call "SMALL" [a, b]).eval s d = .ok (.number (sorted (numbersIn rows.flatten))[k - 1]) := by
  have hlength : k - 1 < (sorted (numbersIn rows.flatten)).length := by
    rw [length_sorted]
    omega
  obtain ⟨w, x, hw, hx, hplace⟩ := hb
  obtain ⟨hsingle, herror⟩ := Value.single_of_toNumber hx
  have hmem := (IsOrderStatistic.getElem_sorted _ hlength).mem
  refine ⟨hlength, (eval_small ha hcalls (.scalar hw hsingle) herror).trans ?_⟩
  rw [small_eq hvalid hx hplace hpos hlength]
  exact congrArg Except.ok ((Value.finite_number _).trans (if_pos (hfinite _ hmem)))

theorem eval_large_eq_eval_small {b c : Expr} {k m : Nat} (hb : b.ReadsRoundedUp s d.inside k)
    (hc : c.ReadsRoundedUp s d.inside m) (hk : 1 ≤ k) (hm : 1 ≤ m)
    (hsum : k + m = (numbersIn rows.flatten).length + 1) :
    (call "LARGE" [a, b]).eval s d = (call "SMALL" [a, c]).eval s d := by
  obtain ⟨w, x, hw, hx, hplace⟩ := hb
  obtain ⟨w', x', hw', hx', hplace'⟩ := hc
  obtain ⟨hsingle, herror⟩ := Value.single_of_toNumber hx
  obtain ⟨hsingle', herror'⟩ := Value.single_of_toNumber hx'
  rw [eval_large ha hcalls (.scalar hw hsingle) herror,
    eval_small ha hcalls (.scalar hw' hsingle') herror',
    large_eq_small hvalid hx hplace hx' hplace' hk hm hsum]

theorem eval_eq_of_perm {a' b : Expr} {rows' : List (List Value)} {others : List Value} {w : Value}
    (ha' : HasArgument s d.inside a' (.array rows') .array)
    (hperm : rows'.flatten.Perm (rows.flatten ++ others))
    (hothers : ∀ v ∈ others, v.number? = none ∧ v.isError = false)
    (hb : HasArgument s d.inside b w .scalar) (hw : w.isError = false) :
    (call "SMALL" [a', b]).eval s d = (call "SMALL" [a, b]).eval s d ∧
      (call "LARGE" [a', b]).eval s d = (call "LARGE" [a, b]).eval s d := by
  rw [eval_small ha hcalls hb hw, eval_small ha' hcalls hb hw, eval_large ha hcalls hb hw,
    eval_large ha' hcalls hb hw]
  rw [small, large, kth_eq_of_perm hvalid id hperm hothers w,
    kth_eq_of_perm hvalid List.reverse hperm hothers w]
  exact ⟨rfl, rfl⟩

end

/-- `SMALL` gives one of the numbers of an array, fewer of which are below it than the place says while as
many are not above it, and at a later place no smaller number. `LARGE` counts the places from the other
end. Neither changes when the elements are rearranged or others that are no numbers are added. -/
theorem eval_small_isOrderStatistic {a : Expr} {rows : List (List Value)}
    (ha : HasArgument s d.inside a (.array rows) .array)
    (hvalid : ∀ v ∈ rows.flatten, v.isError = false)
    (hfinite : ∀ x ∈ numbersIn rows.flatten, Number.isFinite x = true)
    (hcalls : d.calls < s.options.maxCallDepth) :
    let xs := numbersIn rows.flatten
    let small (b : Expr) := (call "SMALL" [a, b]).eval s d
    let large (b : Expr) := (call "LARGE" [a, b]).eval s d
    (∀ (b : Expr) (k : Nat), b.ReadsRoundedUp s d.inside k → 1 ≤ k → k ≤ xs.length →
      ∃ v, small b = .ok (.number v) ∧ IsOrderStatistic xs k v ∧ xs.countP (· < v) < k ∧
        k ≤ xs.countP fun y => !decide (v < y)) ∧
    (∀ (b c : Expr) (k : Nat), b.ReadsRoundedUp s d.inside k →
      c.ReadsRoundedUp s d.inside (xs.length + 1 - k : Nat) → 1 ≤ k → k ≤ xs.length →
      large b = small c) ∧
    (∀ (b c : Expr) (k m : Nat), b.ReadsRoundedUp s d.inside k → c.ReadsRoundedUp s d.inside m →
      1 ≤ k → k ≤ m → m ≤ xs.length →
      ∃ v w, small b = .ok (.number v) ∧ small c = .ok (.number w) ∧
        Number.totalKey v ≤ Number.totalKey w ∧ ¬w < v) ∧
    ∀ (a' b : Expr) (rows' : List (List Value)) (others : List Value) (w : Value),
      HasArgument s d.inside a' (.array rows') .array →
      rows'.flatten.Perm (rows.flatten ++ others) →
      (∀ v ∈ others, v.number? = none ∧ v.isError = false) →
      HasArgument s d.inside b w .scalar → w.isError = false →
      (call "SMALL" [a', b]).eval s d = small b ∧ (call "LARGE" [a', b]).eval s d = large b := by
  intro xs small large
  refine ⟨fun b k hb hpos hk => ?_, fun b c k hb hc hpos hk => ?_,
    fun b c k m hb hc hpos hkm hm => ?_, fun a' b rows' others w ha' hperm hothers hb hw =>
      eval_eq_of_perm ha hvalid hcalls ha' hperm hothers hb hw⟩
  · obtain ⟨hlength, heval⟩ := eval_small_of_place ha hvalid hcalls hfinite hb hpos hk
    have hstatistic := IsOrderStatistic.getElem_sorted xs hlength
    rw [Nat.sub_add_cancel hpos] at hstatistic
    exact ⟨_, heval, hstatistic, hstatistic.countP_lt hfinite, hstatistic.le_countP hfinite⟩
  · have hsum : k + (xs.length + 1 - k) = xs.length + 1 := by omega
    exact eval_large_eq_eval_small ha hvalid hcalls hb hc hpos (by omega) hsum
  · obtain ⟨hlength, heval⟩ :=
      eval_small_of_place ha hvalid hcalls hfinite hb hpos (hkm.trans hm)
    obtain ⟨hlength', heval'⟩ :=
      eval_small_of_place ha hvalid hcalls hfinite hc (hpos.trans hkm) hm
    have hle := (inOrder_sorted xs).totalKey_le hlength hlength' (by omega)
    refine ⟨_, _, heval, heval', hle, fun hlt => ?_⟩
    have hmem := (IsOrderStatistic.getElem_sorted xs hlength).mem
    have hmem' := (IsOrderStatistic.getElem_sorted xs hlength').mem
    exact Int.not_lt.mpr hle (Number.totalKey_lt_of_lt (hfinite _ hmem') (hfinite _ hmem) hlt)

/-- The second number of four, two of which are the same, is the third one from the other end. With a text
and a boolean among them and in the opposite order it stays the same. -/
theorem eval_small_isOrderStatistic_tie :
    let s : Scope := ⟨.empty, .standard⟩
    let number (n : Nat) : Expr := .literal (.number (Number.ofNat n))
    let a : Expr := .array [[.literal (.number 3), .literal (.number 1)],
      [.literal (.number 3), .literal (.number 2)]]
    let a' : Expr := .array [[.literal (.boolean true), .literal (.text "x"), .literal (.number 2)],
      [.literal (.number 3), .literal (.number 1), .literal (.number 3)]]
    let rows : List (List Value) := [[.number 3, .number 1], [.number 3, .number 2]]
    HasArgument s Depth.top.inside a (.array rows) .array ∧
      (∀ v ∈ rows.flatten, v.isError = false) ∧
      (∀ x ∈ numbersIn rows.flatten, Number.isFinite x = true) ∧
      (number 2).ReadsRoundedUp s Depth.top.inside 2 ∧
      (call "SMALL" [a, number 2]).eval s .top = .ok (.number 2) ∧
      (call "LARGE" [a, number 3]).eval s .top = .ok (.number 2) ∧
      (call "SMALL" [a', number 2]).eval s .top = .ok (.number 2) := by
  intro s number a a' rows
  let others : List Value := [.text "x", .boolean true]
  have ha : HasArgument s Depth.top.inside a (.array rows) .array := .array rfl
  have hvalid : ∀ v ∈ rows.flatten, v.isError = false := by
    simp [rows, Value.isError, Value.asError?]
  have hfinite : ∀ x ∈ numbersIn rows.flatten, Number.isFinite x = true := by decide +kernel
  have hread (n : Nat) (hn : n < 2 ^ 53) : (number n).ReadsRoundedUp s Depth.top.inside n :=
    readsRoundedUp_literal (by decide) hn
  obtain ⟨hplaces, hlarge, -, hsame⟩ := eval_small_isOrderStatistic ha hvalid hfinite (by decide)
  obtain ⟨v, hsmall, hstatistic, -⟩ :=
    hplaces (number 2) 2 (hread 2 (by decide)) (by decide) (by decide)
  -- Only one of the numbers stands at the second place.
  have hunique : ∀ x ∈ numbersIn rows.flatten,
      (numbersIn rows.flatten).countP (fun y => Number.totalKey y < Number.totalKey x) < 2 →
      2 ≤ (numbersIn rows.flatten).countP (fun y => Number.totalKey y ≤ Number.totalKey x) →
      x = 2 := by
    decide +kernel
  obtain rfl := hunique v hstatistic.mem hstatistic.below hstatistic.notAbove
  have hperm := List.reverse_perm (rows.flatten ++ others)
  have hothers : ∀ v ∈ others, v.number? = none ∧ v.isError = false := by
    simp [others, Value.number?, Value.isError, Value.asError?]
  have ha' : HasArgument s Depth.top.inside a'
      (.array [[.boolean true, .text "x", .number 2], [.number 3, .number 1, .number 3]]) .array :=
    .array rfl
  refine ⟨ha, hvalid, hfinite, hread 2 (by decide), hsmall, ?_, ?_⟩
  · exact (hlarge (number 3) (number 2) 3 (hread 3 (by decide)) (hread 2 (by decide)) (by decide)
      (by decide)).trans hsmall
  · exact (hsame a' (number 2) _ others _ ha' hperm hothers (.scalar rfl rfl) rfl).1.trans hsmall

end Formula.Expr

end Spreadsheet
