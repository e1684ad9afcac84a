import Spreadsheet.Proofs.Evaluation.Days
import Spreadsheet.Proofs.Function.Months

/-! Functions on months in formulas: which day `EOMONTH` gives, and how the units of `DATEDIF` make up the
time between two days. -/

namespace Spreadsheet.Formula.Expr

open Spreadsheet.Function
open Date (isSupported maxSerial ofSerial)

variable {s : Scope} {d : Depth}

/-! ### Months later -/

section

variable {x m : Expr} {months : Int} (hm : m.ReadsInteger s d.inside months)
  (hcalls : d.calls < s.options.maxCallDepth)
include hm hcalls

theorem eval_edate {n result : Int} (hx : x.ReadsDay s d.inside n)
    (h : addMonths n months = .ok result) :
    (call "EDATE" [x, m]).eval s d = .ok (integer result) := by
  have hfind : find? "EDATE" = some dateFunctions[7] := find?_date (i := 7) (by decide)
  have hnodes := hx.lt
  obtain ⟨v, hv, hn⟩ := hx
  obtain ⟨w, hw, hmonths⟩ := hm
  have hanswer : monthsLater [v, w] = .ok (integer result) := by
    have hday : dayArg [v, w] 0 = .ok n := hn
    have hinteger : intArg [v, w] 1 = .ok months := hmonths
    rw [monthsLater, hday, hinteger]
    change (addMonths n months >>= _) = _
    rw [h]
    rfl
  rw [← finite_integer (natAbs_lt_of_isSupported (isSupported_of_addMonths h))]
  have heval := HaveArguments.eval_call hfind rfl hnodes hcalls
    (.day hv hn (.integer hw hmonths .nil)) rfl
  rwa [hanswer] at heval

theorem eval_call_endOfMonth {start last : Date} (hstart : start.isValid = true)
    (hx : x.ReadsDay s d.inside start.toSerial) (hlast : last.isValid = true)
    (hend : last.isLastOfMonth = true) (hmonth : last.monthIndex = start.monthIndex + months) :
    (call "EOMONTH" [x, m]).eval s d =
      .ok (if 0 ≤ last.toSerial ∧ last.toSerial < maxSerial then integer last.toSerial
        else .error outOfRange) := by
  have hfind : find? "EOMONTH" = some dateFunctions[8] := find?_date (i := 8) (by decide)
  have hnodes := hx.lt
  obtain ⟨v, hv, hn⟩ := hx
  obtain ⟨w, hw, hmonths⟩ := hm
  have hdifference : months = last.monthIndex - start.monthIndex := by omega
  have heval := HaveArguments.eval_call hfind rfl hnodes hcalls
    (.day hv hn (.integer hw hmonths .nil)) rfl
  rw [heval, endOfMonth_eq hstart hn hlast hend (hdifference ▸ hmonths)]
  split
  · have hsupported : isSupported last.toSerial = true := isSupported_iff.mpr (by omega)
    exact congrArg Except.ok (finite_integer (natAbs_lt_of_isSupported hsupported))
  · exact congrArg Except.ok (Value.finite_error _)

end

/-- The end of a month is given if the day behind it is supported too, which that of 9999-12-31 is not. -/
theorem eval_endOfMonth {x m : Expr} {start : Date} {months : Int} (hstart : start.isValid = true)
    (hx : x.ReadsDay s d.inside start.toSerial) (hm : m.ReadsInteger s d.inside months)
    (hcalls : d.calls < s.options.maxCallDepth) :
    ∃ last : Date, last.isValid = true ∧ last.isLastOfMonth = true ∧
      last.monthIndex = start.monthIndex + months ∧
      (call "EOMONTH" [x, m]).eval s d =
        .ok (if 0 ≤ last.toSerial ∧ last.toSerial < maxSerial then integer last.toSerial
          else .error outOfRange) := by
  obtain ⟨last, hlast, hend, hmonth⟩ := Date.exists_lastOfMonth (start.monthIndex + months)
  exact ⟨last, hlast, hend, hmonth, eval_call_endOfMonth hm hcalls hstart hx hlast hend hmonth⟩

/-- The end of the February after 2024-01-15. -/
theorem eval_endOfMonth_leapDay :
    let s : Scope := ⟨.empty, .standard⟩
    let start : Date := ⟨2024, 1, 15⟩
    let x : Expr := .literal (.number (Number.ofInt 45306))
    let m : Expr := .literal (.number (Number.ofInt 1))
    start.isValid = true ∧ x.ReadsDay s Depth.top.inside start.toSerial ∧
      m.ReadsInteger s Depth.top.inside 1 ∧
      (call "EOMONTH" [x, m]).eval s .top = .ok (integer 45351) := by
  intro s start x m
  have hx : x.ReadsDay s Depth.top.inside start.toSerial := by
    rw [show start.toSerial = 45306 by decide]
    exact readsDay_literal (by decide) (by decide)
  have hm : m.ReadsInteger s Depth.top.inside 1 := readsInteger_literal (by decide) (by decide)
  have hstart : start.isValid = true := by decide
  obtain ⟨last, hlast, hend, hmonth, heval⟩ := eval_endOfMonth hstart hx hm (by decide)
  have hserial : last.toSerial = 45351 := by
    have hnext := Date.toSerial_of_isLastOfMonth hlast hend
    rw [hmonth, show Date.monthStart (start.monthIndex + 1 + 1) = 45352 by decide] at hnext
    omega
  rw [hserial] at heval
  exact ⟨hstart, hx, hm, heval⟩

/-- The last supported day ends a month and is not given as its end. -/
theorem eval_endOfMonth_lastSupported :
    let s : Scope := ⟨.empty, .standard⟩
    let last : Date := ⟨9999, 12, 31⟩
    let x : Expr := .literal (.number (Number.ofInt maxSerial))
    let m : Expr := .literal (.number (Number.ofInt 0))
    last.isValid = true ∧ last.isLastOfMonth = true ∧ last.toSerial = maxSerial ∧
      x.ReadsDay s Depth.top.inside last.toSerial ∧ m.ReadsInteger s Depth.top.inside 0 ∧
      (call "EOMONTH" [x, m]).eval s .top = .ok (.error outOfRange) := by
  intro s last x m
  have hvalid : last.isValid = true := by decide
  have hend : last.isLastOfMonth = true := by decide
  have hserial : last.toSerial = maxSerial := by decide
  have hx : x.ReadsDay s Depth.top.inside last.toSerial :=
    hserial ▸ readsDay_literal (isSupported_iff.mpr ⟨by decide, le_rfl⟩) (by decide)
  have hm : m.ReadsInteger s Depth.top.inside 0 := readsInteger_literal (by decide) (by decide)
  have hmonth : last.monthIndex = last.monthIndex + 0 := (add_zero _).symm
  have heval := eval_call_endOfMonth hm (by decide) hvalid hx hvalid hend hmonth
  rw [hserial, if_neg (fun h => lt_irrefl _ h.2)] at heval
  exact ⟨hvalid, hend, hserial, hx, hm, heval⟩

/-! ### Units of time between days -/

/-- Whether an expression is read as a unit, in any case of letters and with blanks around it. -/
def ReadsUnit (s : Scope) (d : Depth) (e : Expr) (unit : String) : Prop :=
  ∃ v t, e.eval s d = .ok v ∧ v.toText = .ok t ∧ (Text.trim t).toUpper = unit

section

variable {x y : Expr} {a b : Int} (hx : x.ReadsDay s d.inside a) (hy : y.ReadsDay s d.inside b)
  (h : a ≤ b) (hcalls : d.calls < s.options.maxCallDepth)
include hx hy h hcalls

theorem eval_datedif {u : Expr} {unit : String} {n : Int} (hu : u.ReadsUnit s d.inside unit)
    (hdifference : difference a b unit = .ok n) (hn : n.natAbs < 2 ^ 53) :
    (call "DATEDIF" [x, y, u]).eval s d = .ok (integer n) := by
  have hfind : find? "DATEDIF" = some dateFunctions[13] := find?_date (i := 13) (by decide)
  have hnodes := hx.lt
  obtain ⟨v, hv, ha⟩ := hx
  obtain ⟨w, hw, hb⟩ := hy
  obtain ⟨t, text, ht, htext, hunit⟩ := hu
  have hsingle : t.isArray = false ∧ t.isError = false := by
    cases t <;> first | exact ⟨rfl, rfl⟩ | cases htext
  have hanswer : dateDifference [v, w, t] = .ok (integer n) := by
    have hstart : dayArg [v, w, t] 0 = .ok a := ha
    have hstop : dayArg [v, w, t] 1 = .ok b := hb
    have htext : textArg [v, w, t] 2 = .ok text := htext
    rw [dateDifference, hstart, hstop, htext]
    change (if b < a then _ else difference a b (Text.trim text).toUpper >>= _) = _
    rw [if_neg (Int.not_lt.mpr h), hunit, hdifference]
    rfl
  rw [← finite_integer hn]
  have heval := HaveArguments.eval_call hfind rfl hnodes hcalls
    (.day hv ha (.day hw hb (.cons (.scalar ht hsingle.1) hsingle.2 .nil))) rfl
  rwa [hanswer] at heval

end

/-- The units of `DATEDIF` decompose the time between two days: the months into years and months, and all
of it into whole months or years, which `EDATE` adds to the first day, and days. -/
theorem eval_datedif_decomposes {x y : Expr} {a b : Int} (hx : x.ReadsDay s d.inside a)
    (hy : y.ReadsDay s d.inside b) (ha : isSupported a = true) (hb : isSupported b = true)
    (h : a ≤ b) (hcalls : d.calls < s.options.maxCallDepth) :
    ∃ years months days monthsOfYear daysOfMonth daysOfYear : Int,
      (∀ p ∈ [("Y", years), ("M", months), ("D", days), ("YM", monthsOfYear), ("MD", daysOfMonth),
          ("YD", daysOfYear)], ∀ u : Expr, u.ReadsUnit s d.inside p.1 →
        (call "DATEDIF" [x, y, u]).eval s d = .ok (integer p.2)) ∧
      0 ≤ years ∧ months = 12 * years + monthsOfYear ∧ 0 ≤ monthsOfYear ∧ monthsOfYear ≤ 11 ∧
      days = b - a ∧
      (0 ≤ daysOfMonth ∧ daysOfMonth ≤ 30 ∧ ∀ m : Expr, m.ReadsInteger s d.inside months →
        ∃ n, (call "EDATE" [x, m]).eval s d = .ok (integer n) ∧ n + daysOfMonth = b) ∧
      (0 ≤ daysOfYear ∧ daysOfYear ≤ 365 ∧ ∀ m : Expr, m.ReadsInteger s d.inside (12 * years) →
        ∃ n, (call "EDATE" [x, m]).eval s d = .ok (integer n) ∧ n + daysOfYear = b) := by
  obtain ⟨ha, -⟩ := isSupported_iff.mp ha
  obtain ⟨-, hb⟩ := isSupported_iff.mp hb
  have hlimit : maxSerial = 2958465 := rfl
  obtain ⟨hnonneg, hbound⟩ := wholeMonths_ofSerial_bounds ha hb h
  obtain ⟨n, hn, hle, hlt⟩ := exists_addMonths_wholeMonths ha hb h
  obtain ⟨n', hn', hle', hlt'⟩ := exists_addMonths_wholeYears ha hb h
  have hunits := difference_units hn hn'
  generalize wholeMonths (ofSerial a) (ofSerial b) = months at *
  refine ⟨months / 12, months, b - a, months % 12, b - n, b - n', fun p hp u hu => ?_, by omega,
    by omega, by omega, by omega, rfl, ⟨by omega, by omega, fun m hm => ?_⟩, by omega, by omega,
    fun m hm => ?_⟩
  · refine eval_datedif hx hy h hcalls hu (hunits p hp) ?_
    have hsmall : ∀ p ∈ [("Y", months / 12), ("M", months), ("D", b - a), ("YM", months % 12),
        ("MD", b - n), ("YD", b - n')], p.2.natAbs < 2 ^ 53 := by
      simp only [List.forall_mem_cons, List.not_mem_nil, false_implies, implies_true, and_true]
      omega
    exact hsmall p hp
  · exact ⟨n, eval_edate hm hcalls hx hn, by omega⟩
  · rw [Int.mul_comm] at hm
    exact ⟨n', eval_edate hm hcalls hx hn', by omega⟩

/-- From 2024-02-29 to 2025-03-28 the whole months end on 2025-02-28 and the whole years on that
day too. -/
theorem eval_datedif_decomposes_leapDay :
    let s : Scope := ⟨.empty, .standard⟩
    let x : Expr := .literal (.number (Number.ofInt 45351))
    let y : Expr := .literal (.number (Number.ofInt 45744))
    let unit (t : String) : Expr := .literal (.text t)
    isSupported 45351 = true ∧ isSupported 45744 = true ∧ x.ReadsDay s Depth.top.inside 45351 ∧
      y.ReadsDay s Depth.top.inside 45744 ∧ (unit " ym").ReadsUnit s Depth.top.inside "YM" ∧
      ∃ years months monthsOfYear : Int, months = 12 * years + monthsOfYear ∧
        (call "DATEDIF" [x, y, unit "Y"]).eval s .top = .ok (integer years) ∧
        (call "DATEDIF" [x, y, unit "M"]).eval s .top = .ok (integer months) ∧
        (call "DATEDIF" [x, y, unit " ym"]).eval s .top = .ok (integer monthsOfYear) := by
  intro s x y unit
  have ha : isSupported 45351 = true := by decide
  have hb : isSupported 45744 = true := by decide
  have hx : x.ReadsDay s Depth.top.inside 45351 := readsDay_literal ha (by decide)
  have hy : y.ReadsDay s Depth.top.inside 45744 := readsDay_literal hb (by decide)
  have hunit {t u : String} (h : (Text.trim t).toUpper = u) :
      (unit t).ReadsUnit s Depth.top.inside u := ⟨_, t, eval_literal (by decide) _, rfl, h⟩
  have hyears : (unit "Y").ReadsUnit s Depth.top.inside "Y" := hunit (by decide +kernel)
  have hmonths : (unit "M").ReadsUnit s Depth.top.inside "M" := hunit (by decide +kernel)
  have hrest : (unit " ym").ReadsUnit s Depth.top.inside "YM" := hunit (by decide +kernel)
  obtain ⟨years, months, days, monthsOfYear, daysOfMonth, daysOfYear, hunits, -, hsum, -⟩ :=
    eval_datedif_decomposes hx hy ha hb (by decide) (by decide)
  simp only [List.forall_mem_cons] at hunits
  exact ⟨ha, hb, hx, hy, hrest, years, months, monthsOfYear, hsum, hunits.1 _ hyears,
    hunits.2.1 _ hmonths, hunits.2.2.2.1 _ hrest⟩

end Spreadsheet.Formula.Expr
