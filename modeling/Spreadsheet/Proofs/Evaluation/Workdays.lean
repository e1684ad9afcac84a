import Spreadsheet.Proofs.Evaluation.Days
import Spreadsheet.Proofs.Function.Workdays

/-! Working days in formulas: `WORKDAY` goes as many of them as `NETWORKDAYS` counts. -/

namespace Spreadsheet.Formula.Expr

open Spreadsheet.Function
open Date (isSupported maxSerial)

variable {s : Scope} {d : Depth} {hs : List Int}

/-- Which holidays the arguments behind the first two give, among which may be none. Blanks do not
count, and a day may be there many times. -/
inductive ReadsHolidays (s : Scope) (d : Depth) : List Expr → List Int → Prop
  | none : ReadsHolidays s d [] []
  | some {e : Expr} {v : Value} {hs : List Int} (hv : e.evalArray s d = .ok v)
      (hdays : ((Function.elements v).filter fun h => !h.isBlank).mapM dayOf = .ok hs) :
      ReadsHolidays s d [e] hs

theorem ReadsHolidays.haveArguments {rest : List Expr} (h : ReadsHolidays s d rest hs) :
    ∃ vs, HaveArguments s d [.array] rest vs ∧ ∀ v w, holidays (v :: w :: vs) 2 = .ok hs := by
  cases h with
  | none => exact ⟨[], .nil, fun _ _ => rfl⟩
  | @some e v _ hv hdays =>
    have herror : v.isError = false := by
      cases v with
      | error x => cases hdays
      | _ => rfl
    exact ⟨[v], .cons (.array hv) herror .nil, fun _ _ => hdays⟩

section

variable {x m : Expr} {rest : List Expr} {a b : Int} (hrest : ReadsHolidays s d.inside rest hs)
  (hcalls : d.calls < s.options.maxCallDepth)
include hrest hcalls

theorem eval_networkdays {y : Expr} (hx : x.ReadsDay s d.inside a) (hy : y.ReadsDay s d.inside b) :
    (call "NETWORKDAYS" (x :: y :: rest)).eval s d = .ok (.number (Number.withSign (b < a)
      (Number.ofNat (workdays hs (min a b) (max a b)).card))) := by
  have hfind : find? "NETWORKDAYS" = some dateFunctions[9] := find?_date (i := 9) (by decide)
  have hnodes := hx.lt
  obtain ⟨v, hv, ha⟩ := hx
  obtain ⟨w, hw, hb⟩ := hy
  obtain ⟨vs, hvs, hholidays⟩ := hrest.haveArguments
  have harity : dateFunctions[9].arityError? (x :: y :: rest).length = none := by
    cases hrest <;> rfl
  have hfinite : Number.isFinite (Number.ofNat (workdays hs (min a b) (max a b)).card) = true := by
    refine Number.isFinite_ofNat ((card_workdays_le _ _).trans_lt ?_)
    have hlow := dayOf_bounds ha
    have hhigh := dayOf_bounds hb
    have hfirst : Date.monthStart 0 = -693959 := by decide
    rw [maxSerial] at hlow hhigh
    omega
  have heval := HaveArguments.eval_call hfind rfl hnodes hcalls
    (.day hv ha (.day hw hb hvs)) harity
  rw [heval, netWorkdays_eq ha hb (hholidays v w)]
  refine congrArg Except.ok ((Value.finite_number _).trans (if_pos ?_))
  rw [Number.withSign]
  split
  · exact Number.isFinite_neg hfinite
  · exact hfinite

theorem eval_workday {k : Int} (hx : x.ReadsDay s d.inside a) (ha : isSupported a = true)
    (hm : m.ReadsInteger s d.inside k) :
    if maxSerial < k.natAbs ∨ (workdaysLeft hs a k).card < k.natAbs then
      ∃ detail, (call "WORKDAY" (x :: m :: rest)).eval s d = .ok (.error (.num detail))
    else ∃ n, (call "WORKDAY" (x :: m :: rest)).eval s d = .ok (integer n) ∧
      IsWorkdayAfter hs a k n := by
  have hfind : find? "WORKDAY" = some dateFunctions[10] := find?_date (i := 10) (by decide)
  have hnodes := hx.lt
  obtain ⟨v, hv, hday⟩ := hx
  obtain ⟨w, hw, hk⟩ := hm
  obtain ⟨vs, hvs, hholidays⟩ := hrest.haveArguments
  have harity : dateFunctions[10].arityError? (x :: m :: rest).length = none := by
    cases hrest <;> rfl
  have heval := HaveArguments.eval_call hfind rfl hnodes hcalls
    (.day hv hday (.integer hw hk hvs)) harity
  rw [heval]
  have hworkday := workday_eq hday ha hk (hholidays v w)
  split at hworkday
  · rw [if_pos ‹_›]
    obtain ⟨detail, herror⟩ := hworkday
    rw [herror]
    exact ⟨detail, congrArg Except.ok (Value.finite_error _)⟩
  · rw [if_neg ‹_›]
    obtain ⟨n, hn, hafter⟩ := hworkday
    rw [hn]
    exact ⟨n, congrArg Except.ok (finite_integer (natAbs_lt_of_isSupported hafter.supported)), hafter⟩

end

/-- `WORKDAY` fails just where too few working days are left, and what it gives is as many working days
away as `NETWORKDAYS` counts, which is negative when the days are swapped. -/
theorem eval_workday_networkdays {x m : Expr} {rest : List Expr} {a k : Int}
    (hx : x.ReadsDay s d.inside a) (ha : isSupported a = true) (hm : m.ReadsInteger s d.inside k)
    (hrest : ReadsHolidays s d.inside rest hs) (hcalls : d.calls < s.options.maxCallDepth) :
    (maxSerial < k.natAbs ∨ (workdaysLeft hs a k).card < k.natAbs →
      ∃ detail, (call "WORKDAY" (x :: m :: rest)).eval s d = .ok (.error (.num detail))) ∧
    (k.natAbs ≤ maxSerial → k.natAbs ≤ (workdaysLeft hs a k).card →
      ∃ w, (call "WORKDAY" (x :: m :: rest)).eval s d = .ok (integer w) ∧
        isSupported w = true ∧ (k = 0 → w = a) ∧ (k ≠ 0 → Date.weekday w < 5 ∧ w ∉ hs) ∧
        (0 < k → ∀ p q : Expr, p.ReadsDay s d.inside (a + 1) → q.ReadsDay s d.inside w →
          (call "NETWORKDAYS" (p :: q :: rest)).eval s d = .ok (integer k)) ∧
        (k < 0 → ∀ p q : Expr, p.ReadsDay s d.inside w → q.ReadsDay s d.inside (a - 1) →
          (call "NETWORKDAYS" (p :: q :: rest)).eval s d = .ok (integer (-k)))) ∧
    ∀ b c : Int, b < c → ∀ p q : Expr, p.ReadsDay s d.inside b → q.ReadsDay s d.inside c →
      ∃ y, (call "NETWORKDAYS" (p :: q :: rest)).eval s d = .ok (.number y) ∧
        (call "NETWORKDAYS" (q :: p :: rest)).eval s d = .ok (.number (-y)) := by
  have hforward {b c : Int} {p q : Expr} (h : b ≤ c) (hp : p.ReadsDay s d.inside b)
      (hq : q.ReadsDay s d.inside c) : (call "NETWORKDAYS" (p :: q :: rest)).eval s d =
        .ok (integer (workdays hs b c).card) := by
    rw [eval_networkdays hrest hcalls hp hq, decide_eq_false (Int.not_lt.mpr h), min_eq_left h,
      max_eq_right h, integer, Number.ofInt_natCast, Number.withSign, if_neg Bool.false_ne_true]
  have hworkday := eval_workday hrest hcalls hx ha hm
  refine ⟨fun hfew => by rwa [if_pos hfew] at hworkday, fun hlimit hleft => ?_, ?_⟩
  · rw [if_neg (not_or.mpr ⟨hlimit.not_gt, hleft.not_gt⟩)] at hworkday
    obtain ⟨w, hw, hafter⟩ := hworkday
    refine ⟨w, hw, hafter.supported, hafter.start, hafter.workday, fun h p q hp hq => ?_,
      fun h p q hp hq => ?_⟩
    · obtain ⟨hlt, hcard⟩ := hafter.ahead h
      rw [hforward hlt hp hq, hcard]
    · obtain ⟨hlt, hcard⟩ := hafter.back h
      rw [hforward (Int.le_sub_one_of_lt hlt) hp hq, hcard]
  · intro b c h p q hp hq
    refine ⟨_, hforward h.le hp hq, ?_⟩
    rw [eval_networkdays hrest hcalls hq hp, decide_eq_true h, min_eq_right h.le, max_eq_left h.le,
      Number.ofInt_natCast, Number.withSign, if_pos rfl]

/-- A working day after Friday 2023-12-29, where the Monday is a holiday twice. -/
theorem eval_workday_networkdays_newYear :
    let s : Scope := ⟨.empty, .standard⟩
    let day (n : Int) : Expr := .literal (.number (Number.ofInt n))
    let hs : List Int := [45292, 45290, 40000, 45292]
    let rest : List Expr := [.array [hs.map day]]
    (day 45289).ReadsDay s Depth.top.inside 45289 ∧ isSupported 45289 = true ∧
      (day 1).ReadsInteger s Depth.top.inside 1 ∧ ReadsHolidays s Depth.top.inside rest hs ∧
      ∃ w, (call "WORKDAY" (day 45289 :: day 1 :: rest)).eval s .top = .ok (integer w) ∧
        Date.weekday w < 5 ∧ w ∉ hs ∧
        (call "NETWORKDAYS" (day (45289 + 1) :: day w :: rest)).eval s .top = .ok (integer 1) := by
  intro s day hs rest
  have hday {n : Int} (h : isSupported n = true) : (day n).ReadsDay s Depth.top.inside n :=
    readsDay_literal h (by decide)
  have ha : isSupported 45289 = true := by decide
  have hnext : isSupported (45289 + 1) = true := by decide
  have hx : (day 45289).ReadsDay s Depth.top.inside 45289 := hday ha
  have hm : (day 1).ReadsInteger s Depth.top.inside 1 := readsInteger_literal (by decide) (by decide)
  have hrest : ReadsHolidays s Depth.top.inside rest hs := by
    have hsupported : ∀ n ∈ hs, isSupported n = true := by decide
    exact .some (v := .array [hs.map integer]) rfl (mapM_dayOf_integer hsupported)
  have hleft : (1 : Int).natAbs ≤ (workdaysLeft hs 45289 1).card := by
    have hwork : 45293 ∈ workdays hs (45289 + 1) maxSerial := by
      rw [workdays, Finset.mem_filter, Finset.mem_Icc]
      decide
    exact Finset.card_pos.mpr ⟨_, hwork⟩
  obtain ⟨-, hworkday, -⟩ := eval_workday_networkdays hx ha hm hrest (by decide)
  obtain ⟨w, hw, hsupported, -, hwork, hcount, -⟩ := hworkday (by decide) hleft
  obtain ⟨hweekday, hholiday⟩ := hwork (by decide)
  exact ⟨hx, ha, hm, hrest, w, hw, hweekday, hholiday,
    hcount (by decide) _ _ (hday hnext) (hday hsupported)⟩

end Spreadsheet.Formula.Expr
