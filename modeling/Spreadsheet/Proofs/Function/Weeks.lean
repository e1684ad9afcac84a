import Spreadsheet.Proofs.Function.Days

/-! Weeks of a year. Days of the week are counted from the day on which weeks start, and weeks from that
of January 1, so that a week ends where the count of its days starts again. -/

namespace Spreadsheet.Function

open Date (ofSerial)

/-! ### Days of a year -/

theorem ordinal_ofSerial (n : Int) :
    Date.yearStart (ofSerial n).year + (ofSerial n).ordinal = n + Date.epoch := by
  have hserial : (ofSerial n).toSerial = n := Date.toSerial_ofSerial n
  rw [Date.toSerial] at hserial
  omega

theorem ordinal_succ {n : Int} (h : (ofSerial (n + 1)).year = (ofSerial n).year) :
    (ofSerial (n + 1)).ordinal = (ofSerial n).ordinal + 1 := by
  have hday := ordinal_ofSerial n
  have hnext := ordinal_ofSerial (n + 1)
  rw [h] at hnext
  omega

theorem ordinal_of_first {d : Date} (hmonth : d.month = 1) (hday : d.day = 1) : d.ordinal = 0 := by
  rw [Date.ordinal, hmonth, hday]
  rfl

theorem ordinal_ofSerial_lt (n : Int) : (ofSerial n).ordinal < 366 := by
  have hlast := (Date.yearStart_yearOfDay (n + Date.epoch)).2
  have hday := ordinal_ofSerial n
  have hyear : (ofSerial n).year = Date.yearOfDay (n + Date.epoch) := rfl
  rw [Date.yearStart_succ, ← hyear, Date.yearLength] at hlast
  split at hlast <;> omega

/-! ### Weeks that start on one day -/

section

variable {n : Int} (start : Nat)

theorem weekOfYear_succ (hstart : start < 7) (h : (ofSerial (n + 1)).year = (ofSerial n).year) :
    weekOfYear (n + 1) start =
      weekOfYear n start + if daysAfter (Date.weekday (n + 1)) start = 0 then 1 else 0 := by
  have hordinal := ordinal_succ h
  -- Both days count their weeks from the same January 1.
  have hfirst : n + 1 - ((ofSerial (n + 1)).ordinal : Int) = n - (ofSerial n).ordinal := by omega
  rw [weekOfYear, weekOfYear, hfirst, hordinal]
  unfold daysAfter Date.weekday
  split <;> omega

/-- Week 1 holds January 1, whatever day it is. -/
theorem weekOfYear_first (h : (ofSerial n).ordinal = 0) : weekOfYear n start = 1 := by
  rw [weekOfYear, h]
  unfold daysAfter
  omega

theorem weekOfYear_le (n : Int) : weekOfYear n start ≤ 54 := by
  have hordinal := ordinal_ofSerial_lt n
  rw [weekOfYear]
  unfold daysAfter
  omega

end

/-! ### Return types -/

/-- The day on which weeks start under a return type for which both functions count from 1. -/
def StartsOn (returnType : Int) (start : Nat) : Prop :=
  returnType = 1 ∧ start = 6 ∨ returnType = 2 ∧ start = 0 ∨ returnType = 11 + start ∧ start < 7

theorem exists_startsOn {returnType : Int}
    (h : returnType = 1 ∨ returnType = 2 ∨ 11 ≤ returnType ∧ returnType ≤ 17) :
    ∃ start, StartsOn returnType start := by
  obtain rfl | rfl | hnumbered := h
  · exact ⟨6, .inl ⟨rfl, rfl⟩⟩
  · exact ⟨0, .inr (.inl ⟨rfl, rfl⟩)⟩
  · exact ⟨(returnType - 11).toNat, .inr (.inr (by omega))⟩

theorem weekStart?_eq {start : Nat} (h : start < 7) : weekStart? (11 + start) = some start := by
  rw [weekStart?, if_pos (by omega), add_sub_cancel_left, Int.toNat_natCast]

section

variable {returnType : Int} {start : Nat} (hstart : StartsOn returnType start)
include hstart

theorem StartsOn.lt : start < 7 := by
  unfold StartsOn at hstart
  omega

theorem weekdayNumber?_eq {day : Nat} (hday : day < 7) :
    weekdayNumber? returnType day = some (daysAfter day start + 1) := by
  obtain ⟨rfl, rfl⟩ | ⟨rfl, rfl⟩ | ⟨rfl, hlt⟩ := hstart
  · rfl
  · have hmonday : daysAfter day 0 = day := by
      rw [daysAfter]
      omega
    rw [hmonday]
    rfl
  · rw [weekdayNumber?, if_neg (by omega), if_neg (by omega), if_neg (by omega), weekStart?_eq hlt]
    rfl

variable {args : List Value} {n : Int} {x : Float} (hday : dayArg args 0 = .ok n)
  (hx : optWhole args 1 1 = .ok x) (htype : Number.truncToInt x = returnType)
include hday hx htype

theorem weekday_eq : weekday args = .ok (integer (daysAfter (Date.weekday n) start + 1 : Nat)) := by
  have hweekday : Date.weekday n < 7 := by
    rw [Date.weekday]
    omega
  rw [weekday, hday, hx]
  simp only [bind, Except.bind, htype, weekdayNumber?_eq hstart hweekday]
  rfl

theorem weekNumber_eq : weekNumber args = .ok (integer (weekOfYear n start)) := by
  rw [weekNumber, hday, hx]
  simp only [bind, Except.bind, htype]
  obtain ⟨rfl, rfl⟩ | ⟨rfl, rfl⟩ | ⟨rfl, hlt⟩ := hstart
  · rfl
  · rfl
  · rw [if_neg (by omega), if_neg (by omega), if_neg (by omega), weekStart?_eq hlt]
    rfl

end

end Spreadsheet.Function
