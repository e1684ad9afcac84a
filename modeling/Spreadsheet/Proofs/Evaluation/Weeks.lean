import Spreadsheet.Proofs.Evaluation.Days
import Spreadsheet.Proofs.Function.Weeks

/-! Weeks in formulas: `WEEKNUM` goes on to the next week on the day that `WEEKDAY` counts as the first. -/

namespace Spreadsheet.Formula.Expr

open Spreadsheet.Function
open Date (isSupported ofSerial)

variable {s : Scope} {d : Depth} {rest : List Expr} {returnType : Int}

/-- Which return type the arguments behind the day give, which may be left out. -/
inductive ReadsReturnType (s : Scope) (d : Depth) : List Expr → Int → Prop
  | default : ReadsReturnType s d [] 1
  | given {e : Expr} {returnType : Int} (he : e.ReadsInteger s d returnType) :
      ReadsReturnType s d [e] returnType

theorem optWhole_of_toInteger {v w : Value} (hw : w.toInteger = .ok returnType)
    (hne : returnType ≠ 0) (hlt : returnType.natAbs < 2 ^ 53) :
    ∃ x, optWhole [v, w] 1 1 = .ok x ∧ Number.truncToInt x = returnType := by
  obtain ⟨x, hx, hreturn⟩ := Value.exists_of_toInteger hw
  refine ⟨Number.trunc x, ?_, (Number.truncToInt_trunc (hreturn ▸ hlt)).trans hreturn⟩
  cases w with
  | blank => exact absurd rfl (Value.ne_blank_of_toInteger hw hne)
  | _ => exact congrArg (Except.map Number.trunc) hx

theorem ReadsReturnType.arityError? {f : Function} {x : Expr} (h : ReadsReturnType s d rest returnType)
    (hmin : f.minArgs = 1) (hmax : f.maxArgs = some 2) :
    f.arityError? (x :: rest).length = none := by
  rw [Function.arityError?, hmin, hmax]
  cases h <;> rfl

section

variable {x : Expr} {n : Int} {start : Nat} (hx : x.ReadsDay s d.inside n)
  (hrest : ReadsReturnType s d.inside rest returnType) (hstart : StartsOn returnType start)
include hx hrest hstart

theorem exists_arguments_of_returnType : ∃ vs r,
    HaveArguments s d.inside [.scalar, .scalar] (x :: rest) vs ∧ dayArg vs 0 = .ok n ∧
      optWhole vs 1 1 = .ok r ∧ Number.truncToInt r = returnType := by
  obtain ⟨v, hv, hn⟩ := hx
  cases hrest with
  | default => exact ⟨[v], Number.trunc 1, .day hv hn .nil, hn, rfl, by decide +kernel⟩
  | given he =>
    obtain ⟨w, hw, hreturn⟩ := he
    unfold StartsOn at hstart
    obtain ⟨r, hr, htrunc⟩ := optWhole_of_toInteger (v := v) hreturn (by omega) (by omega)
    exact ⟨[v, w], r, .day hv hn (.integer hw hreturn .nil), hn, hr, htrunc⟩

variable (hcalls : d.calls < s.options.maxCallDepth)
include hcalls

theorem eval_weekday : (call "WEEKDAY" (x :: rest)).eval s d =
    .ok (integer (daysAfter (Date.weekday n) start + 1 : Nat)) := by
  have hfind : find? "WEEKDAY" = some dateFunctions[5] := find?_date (i := 5) (by decide)
  have harity := hrest.arityError? (f := dateFunctions[5]) (x := x) rfl rfl
  obtain ⟨vs, r, hvs, hday, hr, htype⟩ := exists_arguments_of_returnType hx hrest hstart
  have hsmall : daysAfter (Date.weekday n) start + 1 < 2 ^ 53 := by
    unfold daysAfter
    omega
  rw [HaveArguments.eval_call hfind rfl hx.lt hcalls hvs harity, weekday_eq hstart hday hr htype]
  exact congrArg Except.ok (finite_integer hsmall)

theorem eval_weeknum : (call "WEEKNUM" (x :: rest)).eval s d =
    .ok (integer (weekOfYear n start)) := by
  have hfind : find? "WEEKNUM" = some dateFunctions[6] := find?_date (i := 6) (by decide)
  have harity := hrest.arityError? (f := dateFunctions[6]) (x := x) rfl rfl
  obtain ⟨vs, r, hvs, hday, hr, htype⟩ := exists_arguments_of_returnType hx hrest hstart
  have hsmall : weekOfYear n start < 2 ^ 53 := (weekOfYear_le start n).trans_lt (by decide)
  rw [HaveArguments.eval_call hfind rfl hx.lt hcalls hvs harity, weekNumber_eq hstart hday hr htype]
  exact congrArg Except.ok (finite_integer hsmall)

end

/-- Within a year, `WEEKNUM` goes on just on the days that are the first of their week to `WEEKDAY`, and it
is 1 on January 1, for every return type that both functions have and that counts from 1. -/
theorem eval_weeknum_weekday {x : Expr} {n : Int} (hx : x.ReadsDay s d.inside n)
    (hrest : ReadsReturnType s d.inside rest returnType)
    (htype : returnType = 1 ∨ returnType = 2 ∨ 11 ≤ returnType ∧ returnType ≤ 17)
    (hcalls : d.calls < s.options.maxCallDepth) :
    (∀ x' : Expr, x'.ReadsDay s d.inside (n + 1) → (ofSerial (n + 1)).year = (ofSerial n).year →
      ∃ week weekday : Int, 1 ≤ weekday ∧ weekday ≤ 7 ∧
        (call "WEEKNUM" (x :: rest)).eval s d = .ok (integer week) ∧
        (call "WEEKDAY" (x' :: rest)).eval s d = .ok (integer weekday) ∧
        (call "WEEKNUM" (x' :: rest)).eval s d =
          .ok (integer (if weekday = 1 then week + 1 else week))) ∧
    ((ofSerial n).month = 1 → (ofSerial n).day = 1 →
      (call "WEEKNUM" (x :: rest)).eval s d = .ok (integer 1)) := by
  obtain ⟨start, hstart⟩ := exists_startsOn htype
  have hweek := eval_weeknum hx hrest hstart hcalls
  constructor
  · intro x' hx' hyear
    have hnext := eval_weeknum hx' hrest hstart hcalls
    rw [weekOfYear_succ start hstart.lt hyear] at hnext
    refine ⟨_, _, ?_, ?_, hweek, eval_weekday hx' hrest hstart hcalls, ?_⟩
    · omega
    · unfold daysAfter
      omega
    · rw [hnext]
      refine congrArg (fun week : Int => Except.ok (integer week)) ?_
      split <;> split <;> omega
  · intro hmonth hday
    rw [hweek, weekOfYear_first start (ordinal_of_first hmonth hday)]
    rfl

/-- With weeks that start on Wednesday, from Tuesday 2024-01-02 to Wednesday and on 2024-01-01. -/
theorem eval_weeknum_weekday_newYear :
    let s : Scope := ⟨.empty, .standard⟩
    let number (n : Int) : Expr := .literal (.number (Number.ofInt n))
    let rest : List Expr := [number 13]
    (number 45293).ReadsDay s Depth.top.inside 45293 ∧ ReadsReturnType s Depth.top.inside rest 13 ∧
      (∃ week weekday : Int, (call "WEEKNUM" (number 45293 :: rest)).eval s .top = .ok (integer week) ∧
        (call "WEEKDAY" (number 45294 :: rest)).eval s .top = .ok (integer weekday) ∧
        (call "WEEKNUM" (number 45294 :: rest)).eval s .top =
          .ok (integer (if weekday = 1 then week + 1 else week))) ∧
      (call "WEEKNUM" (number 45292 :: rest)).eval s .top = .ok (integer 1) := by
  intro s number rest
  have hday {n : Int} (h : isSupported n = true) : (number n).ReadsDay s Depth.top.inside n :=
    readsDay_literal h (by decide)
  have hrest : ReadsReturnType s Depth.top.inside rest 13 :=
    .given (readsInteger_literal (by decide) (by decide))
  have htype : (13 : Int) = 1 ∨ (13 : Int) = 2 ∨ (11 : Int) ≤ 13 ∧ (13 : Int) ≤ 17 := by decide
  have hx : (number 45293).ReadsDay s Depth.top.inside 45293 := hday (by decide)
  obtain ⟨hnext, -⟩ := eval_weeknum_weekday hx hrest htype (by decide)
  obtain ⟨-, hfirst⟩ := eval_weeknum_weekday (hday (n := 45292) (by decide)) hrest htype (by decide)
  obtain ⟨week, weekday, -, -, hweek, hweekday, hweek'⟩ :=
    hnext (number 45294) (hday (by decide)) (by decide)
  exact ⟨hx, hrest, ⟨week, weekday, hweek, hweekday, hweek'⟩, hfirst (by decide) (by decide)⟩

end Spreadsheet.Formula.Expr
