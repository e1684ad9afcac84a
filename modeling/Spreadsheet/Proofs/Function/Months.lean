import Spreadsheet.Proofs.Function.Days

/-! Functions on months. The day a number of months later lies in the month meant, where it is the same
day or the last one. Between two days the whole months are counted, so that as many months behind the
first day do not pass the second. -/

namespace Spreadsheet.Function

open Date (isSupported maxSerial monthStart daysIn ofSerial)

theorem isSupported_of_addMonths {n months result : Int} (h : addMonths n months = .ok result) :
    isSupported result = true := gives_supported _ _ h

theorem gives_monthsLater (args : List Value) :
    Gives (fun v => ∃ n, isSupported n = true ∧ v = integer n) (monthsLater args) :=
  gives_bind fun _ => gives_bind fun _ => gives_integer fun _ => isSupported_of_addMonths

theorem gives_endOfMonth (args : List Value) :
    Gives (fun v => ∃ n, isSupported n = true ∧ v = integer n) (endOfMonth args) :=
  gives_bind fun _ => gives_bind fun _ => gives_bind fun _ => gives_integer (gives_supported _)

/-! ### Ends of months -/

/-- From the first day of a month the first day of another one is reached. -/
theorem addMonths_monthStart (k months : Int) :
    addMonths (monthStart k) months = supported (monthStart (k + months)) := by
  have hlong (k : Int) : 1 ≤ daysIn k := le_trans (by decide) (Date.daysIn_bounds k).1
  have hvalid : (Date.ofMonth k 1).isValid = true := Date.isValid_ofMonth.mpr ⟨le_rfl, hlong k⟩
  have hserial : (Date.ofMonth k 1).toSerial = monthStart k :=
    (Date.toSerial_ofMonth k 0).trans (add_zero _)
  have hlater := Date.toSerial_addMonths hvalid months
  rw [Date.monthIndex_ofMonth, Date.ofMonth, min_eq_left (hlong _)] at hlater
  rw [addMonths, ← hserial, Date.ofSerial_toSerial hvalid, Date.ofMonth, hlater]
  congr 1
  push_cast
  ring

/-- The end of a month is reached through the first day of the next one, which must be supported
though it is not the result. -/
theorem endOfMonth_eq {v w : Value} {d last : Date} (hd : d.isValid = true)
    (hv : dayOf v = .ok d.toSerial) (hlast : last.isValid = true) (hend : last.isLastOfMonth = true)
    (hw : w.toInteger = .ok (last.monthIndex - d.monthIndex)) :
    endOfMonth [v, w] = if 0 ≤ last.toSerial ∧ last.toSerial < maxSerial then
      .ok (integer last.toSerial) else .error outOfRange := by
  have hfirst : (Date.mk d.year d.month 1).toSerial = monthStart d.monthIndex := by
    have hserial := Date.toSerial_ofMonth d.monthIndex 0
    rw [Date.ofMonth_eq hd] at hserial
    exact hserial.trans (add_zero _)
  have hnext := Date.toSerial_of_isLastOfMonth hlast hend
  have hmonth : d.monthIndex + (last.monthIndex - d.monthIndex + 1) = last.monthIndex + 1 := by ring
  have hvalue : dayArg [v, w] 0 = .ok d.toSerial := hv
  have hmonths : intArg [v, w] 1 = .ok (last.monthIndex - d.monthIndex) := hw
  rw [endOfMonth, hvalue, hmonths]
  change (addMonths _ _ >>= _) = _
  rw [Date.ofSerial_toSerial hd, hfirst, addMonths_monthStart, hmonth, ← hnext, supported_eq]
  by_cases hroom : 0 ≤ last.toSerial + 1 ∧ last.toSerial + 1 ≤ maxSerial
  · rw [if_pos hroom]
    change (supported (last.toSerial + 1 - 1) >>= _) = _
    rw [add_sub_cancel_right, supported_eq]
    split <;> split <;> first | rfl | omega
  · rw [if_neg hroom, if_neg (by omega)]
    rfl

/-! ### Whole months between days -/

theorem wholeMonths_eq (start stop : Date) : wholeMonths start stop =
    stop.monthIndex - start.monthIndex - if stop.day < start.day then 1 else 0 := by
  rw [wholeMonths, Date.monthIndex, Date.monthIndex]
  ring

section

variable {start stop : Date} (hstart : start.isValid = true) (hstop : stop.isValid = true)
include hstart hstop

theorem wholeMonths_nonneg (h : start.toSerial ≤ stop.toSerial) : 0 ≤ wholeMonths start stop := by
  have hlow := Date.toSerial_bounds hstart
  have hhigh := Date.toSerial_bounds hstop
  have hmonth := Date.monthStart_strictMono.lt_iff_lt.mp ((hlow.1.trans h).trans_lt hhigh.2)
  rw [wholeMonths_eq]
  rcases (Int.le_of_lt_add_one hmonth).lt_or_eq with hlt | heq
  · split <;> omega
  · rw [Date.toSerial_eq hstart, Date.toSerial_eq hstop, heq] at h
    rw [heq, if_neg (by omega)]
    omega

/-- The day some months later does not pass the second day as long as these months are whole. -/
theorem addMonths_between {months : Int} (hlow : 0 ≤ months) (hhigh : months ≤ wholeMonths start stop) :
    start.toSerial ≤ (start.addMonths months).toSerial ∧
      (start.addMonths months).toSerial ≤ stop.toSerial := by
  have hday := Date.day_bounds hstart
  have hlength := Date.daysIn_bounds (start.monthIndex + months)
  have hnext := Date.monthStart_succ (start.monthIndex + months)
  have hfirst := Date.toSerial_eq hstart
  have hsecond := Date.toSerial_eq hstop
  rw [wholeMonths_eq] at hhigh
  rw [Date.toSerial_addMonths hstart]
  constructor
  · rcases hlow.eq_or_lt with rfl | hpos
    · rw [add_zero, min_eq_left hday.2, hfirst]
    · have hlater := Date.monthStart_strictMono.monotone
        (show start.monthIndex + 1 ≤ start.monthIndex + months by omega)
      have hend := Date.toSerial_bounds hstart
      omega
  · rcases lt_or_ge (start.monthIndex + months) stop.monthIndex with hlt | hge
    · have hlater := Date.monthStart_strictMono.monotone (Int.add_one_le_of_lt hlt)
      have hbegin := Date.toSerial_bounds hstop
      omega
    · -- In the month of the second day the months are whole only if its day is not an earlier one.
      split at hhigh
      · omega
      · have hmonth : start.monthIndex + months = stop.monthIndex := by omega
        rw [hmonth]
        omega

theorem sub_addMonths_wholeMonths_le :
    stop.toSerial - (start.addMonths (wholeMonths start stop)).toSerial ≤ 30 := by
  have hday := Date.day_bounds hstart
  have hday' := Date.day_bounds hstop
  have hlength := Date.daysIn_bounds start.monthIndex
  have hsecond := Date.toSerial_eq hstop
  rw [Date.toSerial_addMonths hstart, wholeMonths_eq]
  split
  · have hmonth : start.monthIndex + (stop.monthIndex - start.monthIndex - 1) =
        stop.monthIndex - 1 := by ring
    have hnext := Date.monthStart_succ (stop.monthIndex - 1)
    have hlength' := Date.daysIn_bounds (stop.monthIndex - 1)
    rw [sub_add_cancel] at hnext
    rw [hmonth]
    omega
  · have hmonth : start.monthIndex + (stop.monthIndex - start.monthIndex - 0) = stop.monthIndex := by
      ring
    have hlength' := Date.daysIn_bounds stop.monthIndex
    rw [hmonth]
    omega

theorem sub_addMonths_wholeYears_le :
    stop.toSerial - (start.addMonths (wholeMonths start stop / 12 * 12)).toSerial ≤ 365 := by
  have hday := Date.day_bounds hstart
  have hday' := Date.day_bounds hstop
  have hsecond := Date.toSerial_eq hstop
  have hmonths := wholeMonths_eq start stop
  rw [Date.toSerial_addMonths hstart]
  generalize hk : start.monthIndex + wholeMonths start stop / 12 * 12 = k
  have hlength := Date.daysIn_bounds k
  have hyear := Date.monthStart_add_twelve_le k 0
  rw [mul_zero, add_zero] at hyear
  rcases lt_or_ge stop.monthIndex (k + 12) with hlt | hge
  · have hend := Date.toSerial_bounds hstop
    have hlater := Date.monthStart_strictMono.monotone (Int.add_one_le_of_lt hlt)
    omega
  · -- The year is not whole in its last month, so the second day is an earlier one in it.
    have hleap := Date.monthStart_add_twelve_le k (-(wholeMonths start stop / 12))
    have hback : k + 12 * -(wholeMonths start stop / 12) = start.monthIndex := by omega
    rw [hback] at hleap
    split at hmonths
    · have hmonth : stop.monthIndex = k + 12 := by omega
      rw [hmonth] at hsecond
      omega
    · omega

end

section

variable {a b : Int} (ha : 0 ≤ a) (hb : b ≤ maxSerial)
include ha hb

/-- The day that whole months lead to is a supported one. -/
theorem exists_addMonths {months : Int} (hlow : 0 ≤ months)
    (hhigh : months ≤ wholeMonths (ofSerial a) (ofSerial b)) :
    ∃ n, addMonths a months = .ok n ∧ n = ((ofSerial a).addMonths months).toSerial ∧ n ≤ b := by
  have hbetween := addMonths_between (Date.isValid_ofSerial a) (Date.isValid_ofSerial b) hlow hhigh
  rw [Date.toSerial_ofSerial, Date.toSerial_ofSerial] at hbetween
  exact ⟨_, if_pos (isSupported_iff.mpr (by omega)), rfl, hbetween.2⟩

variable (h : a ≤ b)
include h

theorem wholeMonths_ofSerial_bounds : 0 ≤ wholeMonths (ofSerial a) (ofSerial b) ∧
    wholeMonths (ofSerial a) (ofSerial b) < 120000 := by
  have hfirst : monthStart 0 ≤ 0 := by decide
  have hstart := Date.monthIndex_ofSerial_bounds (hfirst.trans ha) (h.trans hb)
  have hstop := Date.monthIndex_ofSerial_bounds (hfirst.trans (ha.trans h)) hb
  constructor
  · exact wholeMonths_nonneg (Date.isValid_ofSerial a) (Date.isValid_ofSerial b) (by simpa)
  · rw [wholeMonths_eq]
    split <;> omega

theorem exists_addMonths_wholeMonths :
    ∃ n, addMonths a (wholeMonths (ofSerial a) (ofSerial b)) = .ok n ∧ n ≤ b ∧ b ≤ n + 30 := by
  have hnonneg := (wholeMonths_ofSerial_bounds ha hb h).1
  have hrest := sub_addMonths_wholeMonths_le (Date.isValid_ofSerial a) (Date.isValid_ofSerial b)
  obtain ⟨n, hn, hserial, hle⟩ := exists_addMonths ha hb hnonneg le_rfl
  rw [Date.toSerial_ofSerial, ← hserial] at hrest
  exact ⟨n, hn, hle, by omega⟩

theorem exists_addMonths_wholeYears :
    ∃ n, addMonths a (wholeMonths (ofSerial a) (ofSerial b) / 12 * 12) = .ok n ∧ n ≤ b ∧
      b ≤ n + 365 := by
  have hnonneg := (wholeMonths_ofSerial_bounds ha hb h).1
  have hrest := sub_addMonths_wholeYears_le (Date.isValid_ofSerial a) (Date.isValid_ofSerial b)
  obtain ⟨n, hn, hserial, hle⟩ := exists_addMonths ha hb
    (show 0 ≤ wholeMonths (ofSerial a) (ofSerial b) / 12 * 12 by omega) (by omega)
  rw [Date.toSerial_ofSerial, ← hserial] at hrest
  exact ⟨n, hn, hle, by omega⟩

end

/-- The difference of two days in each unit. -/
theorem difference_units {a b n n' : Int}
    (hmonths : addMonths a (wholeMonths (ofSerial a) (ofSerial b)) = .ok n)
    (hyears : addMonths a (wholeMonths (ofSerial a) (ofSerial b) / 12 * 12) = .ok n') :
    ∀ p ∈ [("Y", wholeMonths (ofSerial a) (ofSerial b) / 12),
      ("M", wholeMonths (ofSerial a) (ofSerial b)), ("D", b - a),
      ("YM", wholeMonths (ofSerial a) (ofSerial b) % 12), ("MD", b - n), ("YD", b - n')],
      difference a b p.1 = .ok p.2 := by
  simp only [List.forall_mem_cons, List.not_mem_nil, false_implies, implies_true, and_true]
  refine ⟨rfl, rfl, rfl, rfl, ?_, ?_⟩
  · change (addMonths a _ >>= _) = _
    rw [hmonths]
    rfl
  · change (addMonths a _ >>= _) = _
    rw [hyears]
    rfl

end Spreadsheet.Function
