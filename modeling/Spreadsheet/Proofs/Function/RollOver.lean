import Spreadsheet.Proofs.Function.Days

/-! Days of a year, month and day. Months are counted through all years and days from the first day of
such a month, so that what exceeds a year or a month rolls over. -/

namespace Spreadsheet.Function

open Date (isSupported maxSerial monthStart ofSerial)

/-! ### The day meant -/

theorem rollOver_eq (year month day : Int) :
    rollOver year month day = monthStart (12 * year + month - 1) + day - 1 := by
  have hfirst := Date.toSerial_ofMonth (12 * year + month - 1) 0
  rw [Date.ofMonth, Nat.cast_zero, add_zero] at hfirst
  rw [rollOver, Int.mul_comm year 12, hfirst]

/-- Twelve months are a year. -/
theorem rollOver_months (year month day k : Int) :
    rollOver year (month + 12 * k) day = rollOver (year + k) month day := by
  have hmonths : 12 * year + (month + 12 * k) - 1 = 12 * (year + k) + month - 1 := by ring
  rw [rollOver_eq, rollOver_eq, hmonths]

theorem rollOver_days (year month day j : Int) :
    rollOver year month (day + j) = rollOver year month day + j := by
  rw [rollOver_eq, rollOver_eq]
  ring

theorem rollOver_ofSerial (n : Int) :
    rollOver (ofSerial n).year (ofSerial n).month (ofSerial n).day = n := by
  have hserial := Date.toSerial_eq (Date.isValid_ofSerial n)
  rw [Date.toSerial_ofSerial, Date.monthIndex] at hserial
  rw [rollOver_eq]
  exact hserial.symm

/-- From 1900-01-01 on, a year is not taken for a number of years after 1900. -/
theorem year_ofSerial_bounds {n : Int} (hlow : 2 ≤ n) (hhigh : n ≤ maxSerial) :
    1900 ≤ (ofSerial n).year ∧ (ofSerial n).year ≤ 9999 := by
  -- The months are January 1900 and January 10000.
  have hfirst : monthStart 22800 = 2 := by decide
  have hend : monthStart 120000 = maxSerial + 1 := by decide
  have hmonth := Date.le_monthIndex_ofSerial_iff.mpr (hfirst.trans_le hlow)
  have hmonth' : (ofSerial n).monthIndex < 120000 :=
    Date.monthIndex_ofSerial_lt_iff.mpr (hend ▸ Int.lt_add_one_of_le hhigh)
  have hvalid := Date.isValid_ofSerial n
  simp only [Date.isValid, Bool.and_eq_true, decide_eq_true_eq] at hvalid
  rw [Date.monthIndex] at hmonth hmonth'
  omega

/-! ### The function -/

section

variable {v w u : Value} {year month day : Int} (hv : v.toInteger = .ok year)
  (hw : w.toInteger = .ok month) (hu : u.toInteger = .ok day) (hyear : 1900 ≤ year ∧ year ≤ 9999)
include hv hw hu hyear

theorem date_eq : date [v, w, u] =
    if 1000000 < month.natAbs ∨ 100000000 < day.natAbs then
      .error (.num "year must be between 0 and 9999")
    else if isSupported (rollOver year month day) then .ok (integer (rollOver year month day))
    else .error outOfRange := by
  have hgiven : intArg [v, w, u] 0 = .ok year := hv
  have hmonth : intArg [v, w, u] 1 = .ok month := hw
  have hday : intArg [v, w, u] 2 = .ok day := hu
  have hlate : ¬(0 ≤ year ∧ year < 1900) := by omega
  have hlimits : (year < 0 ∨ 10000 ≤ year ∨ 1000000 < month.natAbs ∨ 100000000 < day.natAbs) ↔
      (1000000 < month.natAbs ∨ 100000000 < day.natAbs) := by omega
  rw [date, hgiven, hmonth, hday]
  simp only [bind, Except.bind, if_neg hlate, hlimits]
  split
  · rfl
  rw [supported]
  by_cases hsupported : isSupported (rollOver year month day) = true
  · rw [if_pos hsupported, if_pos hsupported]
    rfl
  · rw [if_neg hsupported, if_neg hsupported]

end

end Spreadsheet.Function
