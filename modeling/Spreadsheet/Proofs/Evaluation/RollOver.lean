import Spreadsheet.Proofs.Evaluation.Supported
import Spreadsheet.Proofs.Function.RollOver

/-! `DATE` in formulas: it makes a day of the parts that `YEAR`, `MONTH` and `DAY` give, and months and days
beyond their range count on from there. -/

namespace Spreadsheet.Formula.Expr

open Spreadsheet.Function
open Date (isSupported maxSerial)

variable {s : Scope} {d : Depth}

section

variable {y m e : Expr} {year month day : Int} (hy : y.ReadsInteger s d.inside year)
  (hm : m.ReadsInteger s d.inside month) (he : e.ReadsInteger s d.inside day)
  (hyear : 1900 ≤ year ∧ year ≤ 9999) (hcalls : d.calls < s.options.maxCallDepth)
include hy hm he hyear hcalls

theorem eval_date : (call "DATE" [y, m, e]).eval s d = .ok
    (if 1000000 < month.natAbs ∨ 100000000 < day.natAbs then
      .error (.num "year must be between 0 and 9999")
    else if isSupported (rollOver year month day) then integer (rollOver year month day)
    else .error outOfRange) := by
  have hfind : find? "DATE" = some dateFunctions[0] := find?_date (i := 0) (by decide)
  obtain ⟨v, hv, hyear'⟩ := hy
  obtain ⟨w, hw, hmonth⟩ := hm
  obtain ⟨u, hu, hday⟩ := he
  have hnodes : d.nodes < s.options.maxExpressionDepth := Nat.lt_of_succ_lt (lt_of_eval hv)
  have heval := HaveArguments.eval_call hfind rfl hnodes hcalls
    (.integer hv hyear' (.integer hw hmonth (.integer hu hday .nil))) rfl
  rw [heval, date_eq hyear' hmonth hday hyear]
  refine congrArg Except.ok ?_
  split
  · exact Value.finite_error _
  split
  · exact finite_integer (natAbs_lt_of_isSupported ‹_›)
  · exact Value.finite_error _

theorem eq_of_eval_date {v : Value} (h : (call "DATE" [y, m, e]).eval s d = .ok v)
    (hv : v.isError = false) : v = integer (rollOver year month day) := by
  rw [eval_date hy hm he hyear hcalls] at h
  obtain rfl := Except.ok.inj h
  split at hv
  · cases hv
  · split at hv
    · rw [if_neg ‹_›, if_pos ‹_›]
    · cases hv

theorem eval_date_of_isSupported (hmonth : month.natAbs ≤ 1000000) (hday : day.natAbs ≤ 100000000)
    (h : isSupported (rollOver year month day) = true) :
    (call "DATE" [y, m, e]).eval s d = .ok (integer (rollOver year month day)) := by
  rw [eval_date hy hm he hyear hcalls, if_neg (by omega), if_pos h]

end

theorem readsInteger_of_eval {e : Expr} {n : Int} (h : e.eval s d = .ok (integer n))
    (hn : n.natAbs < 2 ^ 53) : e.ReadsInteger s d n := ⟨_, h, toInteger_integer hn⟩

theorem eval_date_parts {x : Expr} {n : Int} (hx : x.ReadsDay s d.inside.inside n) (hlow : 2 ≤ n)
    (hhigh : n ≤ maxSerial) (hcalls : d.inside.calls < s.options.maxCallDepth) :
    (call "DATE" [call "YEAR" [x], call "MONTH" [x], call "DAY" [x]]).eval s d =
      .ok (integer n) := by
  have hsupported : isSupported n = true := isSupported_iff.mpr ⟨by omega, hhigh⟩
  have hyear := year_ofSerial_bounds hlow hhigh
  have hmonth := Date.isValid_ofSerial n
  have hday := Date.day_bounds hmonth
  have hlength := Date.daysIn_bounds (Date.ofSerial n).monthIndex
  simp only [Date.isValid, Bool.and_eq_true, decide_eq_true_eq] at hmonth
  have hparts := eval_dateParts hx hcalls
  simp only [dateParts, List.forall_mem_cons, List.not_mem_nil, false_implies, implies_true,
    and_true] at hparts
  obtain ⟨hy, hm, he⟩ := hparts
  have heval := eval_date_of_isSupported (readsInteger_of_eval hy (by omega))
    (readsInteger_of_eval hm (by omega)) (readsInteger_of_eval he (by omega)) hyear
    (Nat.lt_of_succ_lt hcalls) (by omega) (by omega)
  rw [rollOver_ofSerial] at heval
  exact heval hsupported

/-- `DATE` inverts `YEAR`, `MONTH` and `DAY`; where it succeeds, twelve more months are one more year, and
more days lead as many days on. -/
theorem eval_date_rollsOver (hcalls : d.inside.calls < s.options.maxCallDepth) :
    (∀ (x : Expr) (n : Int), x.ReadsDay s d.inside.inside n → 2 ≤ n → n ≤ maxSerial →
      (call "DATE" [call "YEAR" [x], call "MONTH" [x], call "DAY" [x]]).eval s d =
        .ok (integer n)) ∧
    ∀ (y m e : Expr) (year month day : Int), y.ReadsInteger s d.inside year →
      m.ReadsInteger s d.inside month → e.ReadsInteger s d.inside day →
      1900 ≤ year ∧ year ≤ 9999 →
      (∀ (y' m' : Expr) (k : Int), y'.ReadsInteger s d.inside (year + k) →
        m'.ReadsInteger s d.inside (month + 12 * k) → 1900 ≤ year + k ∧ year + k ≤ 9999 →
        ∀ v w : Value, (call "DATE" [y, m', e]).eval s d = .ok v → v.isError = false →
          (call "DATE" [y', m, e]).eval s d = .ok w → w.isError = false → v = w) ∧
      (∀ (e' : Expr) (j : Int), e'.ReadsInteger s d.inside (day + j) →
        ∀ v w : Value, (call "DATE" [y, m, e']).eval s d = .ok v → v.isError = false →
          (call "DATE" [y, m, e]).eval s d = .ok w → w.isError = false →
          ∃ n, w = integer n ∧ v = integer (n + j)) := by
  have hcalls' : d.calls < s.options.maxCallDepth := Nat.lt_of_succ_lt hcalls
  refine ⟨fun x n hx hlow hhigh => eval_date_parts hx hlow hhigh hcalls,
    fun y m e year month day hy hm he hyear => ⟨?_, ?_⟩⟩
  · intro y' m' k hy' hm' hyear' v w hv hvalid hw hvalid'
    rw [eq_of_eval_date hy hm' he hyear hcalls' hv hvalid,
      eq_of_eval_date hy' hm he hyear' hcalls' hw hvalid', rollOver_months]
  · intro e' j he' v w hv hvalid hw hvalid'
    refine ⟨_, eq_of_eval_date hy hm he hyear hcalls' hw hvalid', ?_⟩
    rw [eq_of_eval_date hy hm he' hyear hcalls' hv hvalid, rollOver_days]

/-- The leap day of 2024, which the fourteenth month of 2023 has too, and the day 400 days before it. -/
theorem eval_date_rollsOver_leapDay :
    let s : Scope := ⟨.empty, .standard⟩
    let number (n : Int) : Expr := .literal (.number (Number.ofInt n))
    let date (year month day : Int) : Expr := call "DATE" [number year, number month, number day]
    Depth.top.inside.calls < s.options.maxCallDepth ∧
      (call "DATE" [call "YEAR" [number 45351], call "MONTH" [number 45351],
        call "DAY" [number 45351]]).eval s .top = .ok (integer 45351) ∧
      (date (2023 + 1) 2 29).eval s .top = (date 2023 (2 + 12 * 1) 29).eval s .top ∧
      ∃ n, (date 2023 14 29).eval s .top = .ok (integer n) ∧
        (date 2023 14 (29 + -400)).eval s .top = .ok (integer (n + -400)) := by
  intro s number date
  have hcalls : Depth.top.inside.calls < s.options.maxCallDepth := by decide
  have hread (n : Int) (h : n.natAbs < 2 ^ 53) : (number n).ReadsInteger s Depth.top.inside n :=
    readsInteger_literal h (by decide)
  have hvalue (year month day : Int) (hyear : 1900 ≤ year ∧ year ≤ 9999)
      (hmonth : month.natAbs ≤ 1000000) (hday : day.natAbs ≤ 100000000)
      (h : isSupported (rollOver year month day) = true) :
      (date year month day).eval s .top = .ok (integer (rollOver year month day)) :=
    eval_date_of_isSupported (hread _ (by omega)) (hread _ (by omega)) (hread _ (by omega)) hyear
      (by decide) hmonth hday h
  have hfourteenth := hvalue 2023 14 29 (by decide) (by decide) (by decide) (by decide)
  obtain ⟨hparts, hrolls⟩ := eval_date_rollsOver (s := s) (d := .top) hcalls
  obtain ⟨hmonths, -⟩ := hrolls _ _ _ 2023 2 29 (hread _ (by decide)) (hread _ (by decide))
    (hread _ (by decide)) (by decide)
  obtain ⟨-, hdays⟩ := hrolls _ _ _ 2023 14 29 (hread _ (by decide)) (hread _ (by decide))
    (hread _ (by decide)) (by decide)
  refine ⟨hcalls, hparts _ 45351 (readsDay_literal (by decide) (by decide)) (by decide) (by decide),
    ?_, ?_⟩
  · have hleap := hvalue (2023 + 1) 2 29 (by decide) (by decide) (by decide) (by decide)
    have heq := hmonths _ _ 1 (hread (2023 + 1) (by decide)) (hread (2 + 12 * 1) (by decide))
      (by decide) _ _ hfourteenth rfl hleap rfl
    rw [hleap, ← heq]
    exact hfourteenth.symm
  · have hback := hvalue 2023 14 (29 + -400) (by decide) (by decide) (by decide) (by decide)
    obtain ⟨n, hn, hn'⟩ := hdays _ (-400) (hread (29 + -400) (by decide)) _ _ hback rfl hfourteenth rfl
    exact ⟨n, hn ▸ hfourteenth, hn' ▸ hback⟩

end Spreadsheet.Formula.Expr
