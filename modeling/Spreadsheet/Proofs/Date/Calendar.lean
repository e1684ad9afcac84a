import Mathlib
import Spreadsheet.Date

/-! The calendar. Months are counted through all years, so that a date is a month and a day in it, and
its serial number the day on which the month starts and the days behind it. Serial numbers and dates
that exist stand for each other. -/

namespace Spreadsheet.Date

/-! ### Years -/

theorem yearStart_succ (year : Int) : yearStart (year + 1) = yearStart year + yearLength year := by
  unfold yearStart yearLength isLeapYear
  simp only [Bool.and_eq_true, Bool.or_eq_true, beq_iff_eq, bne_iff_ne]
  split <;> push_cast <;> omega

/-- A cycle of the calendar has 146097 days in 400 years, by which the year is guessed; the guess is
off by one year at most. -/
theorem yearStart_yearOfDay (n : Int) :
    yearStart (yearOfDay n) ≤ n ∧ n < yearStart (yearOfDay n + 1) := by
  unfold yearOfDay
  simp only
  split
  · refine ⟨‹_›, ?_⟩
    unfold yearStart at *
    omega
  split
  · rename_i hlow
    refine ⟨?_, by rwa [Int.sub_add_cancel]⟩
    unfold yearStart at *
    omega
  · constructor <;> omega

theorem sum_monthLengths (year : Int) : (monthLengths year).sum = yearLength year := by
  unfold monthLengths yearLength
  cases isLeapYear year <;> rfl

theorem getElem?_monthLengths {year : Int} {month : Nat} (h : month < 12) :
    (monthLengths year)[month]? = some (monthLength year (month + 1)) := by
  have hlength : month < (monthLengths year).length := h
  rw [monthLength, Nat.add_sub_cancel, List.getElem?_eq_getElem hlength, Option.getD_some]

theorem monthLength_bounds (year : Int) {month : Nat} (h : month < 12) :
    28 ≤ monthLength year (month + 1) ∧ monthLength year (month + 1) ≤ 31 := by
  have hget : (monthLengths year)[month]? = some (monthLength year (month + 1)) :=
    getElem?_monthLengths h
  have hmem := List.mem_of_getElem? hget
  generalize monthLength year (month + 1) = n at hmem ⊢
  simp only [monthLengths, List.mem_cons, List.not_mem_nil, or_false] at hmem
  split at hmem <;> omega

/-- The days of a year before one of its months, which is counted from 0. -/
def elapsed (year : Int) (month : Nat) : Nat := ((monthLengths year).take month).sum

theorem elapsed_succ (year : Int) {month : Nat} (h : month < 12) :
    elapsed year (month + 1) = elapsed year month + monthLength year (month + 1) := by
  rw [elapsed, elapsed, List.take_add_one, getElem?_monthLengths h, List.sum_append]
  rfl

theorem elapsed_twelve (year : Int) : elapsed year 12 = yearLength year := sum_monthLengths year

/-! ### Months through all years -/

/-- The months from January of the year 0 to that of a date. -/
def monthIndex (d : Date) : Int := 12 * d.year + d.month - 1

/-- The date of a day of a month. -/
def ofMonth (k : Int) (day : Nat) : Date := ⟨k / 12, (k % 12).toNat + 1, day⟩

def daysIn (k : Int) : Nat := monthLength (k / 12) ((k % 12).toNat + 1)

/-- The serial number of the first day of a month. -/
def monthStart (k : Int) : Int := yearStart (k / 12) + elapsed (k / 12) (k % 12).toNat - epoch

theorem daysIn_bounds (k : Int) : 28 ≤ daysIn k ∧ daysIn k ≤ 31 := monthLength_bounds _ (by omega)

theorem monthStart_succ (k : Int) : monthStart (k + 1) = monthStart k + daysIn k := by
  obtain ⟨m, hm, hk⟩ : ∃ m : Nat, m < 12 ∧ k % 12 = m := ⟨(k % 12).toNat, by omega, by omega⟩
  have hstep := elapsed_succ (k / 12) hm
  rw [monthStart, monthStart, daysIn, hk, Int.toNat_natCast]
  rcases Nat.lt_or_ge m 11 with hlt | hlast
  · have hyear : (k + 1) / 12 = k / 12 := by omega
    have hmonth : (k + 1) % 12 = (m + 1 : Nat) := by omega
    rw [hyear, hmonth, Int.toNat_natCast, hstep]
    push_cast
    ring
  · -- Behind December the next year starts.
    obtain rfl : m = 11 := by omega
    have hyear : (k + 1) / 12 = k / 12 + 1 := by omega
    have hmonth : (k + 1) % 12 = (0 : Nat) := by omega
    have hfirst : elapsed (k / 12 + 1) 0 = 0 := rfl
    rw [hyear, hmonth, Int.toNat_natCast, yearStart_succ, ← elapsed_twelve, hstep, hfirst]
    push_cast
    ring

theorem monthStart_strictMono : StrictMono monthStart := by
  refine strictMono_int_of_lt_succ fun k => ?_
  have hbounds := daysIn_bounds k
  rw [monthStart_succ]
  omega

/-- Two months of one name differ by a leap day at most, and then the shorter one is a February whose
next year has no leap day before March. -/
theorem monthStart_add_twelve_le (k years : Int) :
    monthStart (k + 12) + daysIn (k + 12 * years) ≤ monthStart k + daysIn k + 366 := by
  obtain ⟨m, hm, hk⟩ : ∃ m : Nat, m < 12 ∧ k % 12 = m := ⟨(k % 12).toNat, by omega, by omega⟩
  have hyear : (k + 12) / 12 = k / 12 + 1 := by omega
  have hmonth : (k + 12) % 12 = m := by omega
  have hyear' : (k + 12 * years) / 12 = k / 12 + years := by omega
  have hmonth' : (k + 12 * years) % 12 = m := by omega
  rw [monthStart, monthStart, daysIn, daysIn, hyear, hmonth, hyear', hmonth', hk, Int.toNat_natCast,
    yearStart_succ]
  suffices hdays : yearLength (k / 12) + elapsed (k / 12 + 1) m +
      monthLength (k / 12 + years) (m + 1) ≤
        elapsed (k / 12) m + monthLength (k / 12) (m + 1) + 366 by omega
  unfold elapsed monthLength monthLengths yearLength
  generalize isLeapYear (k / 12) = leap, isLeapYear (k / 12 + 1) = leap',
    isLeapYear (k / 12 + years) = leap''
  clear hk hmonth hmonth'
  revert leap leap' leap'' m
  decide

/-! ### Serial numbers -/

@[simp]
theorem monthIndex_ofMonth (k : Int) (day : Nat) : (ofMonth k day).monthIndex = k := by
  rw [monthIndex, ofMonth]
  push_cast
  omega

theorem toSerial_ofMonth (k : Int) (i : Nat) : (ofMonth k (i + 1)).toSerial = monthStart k + i := by
  have hordinal : (ofMonth k (i + 1)).ordinal = i + elapsed (k / 12) (k % 12).toNat :=
    List.foldl_eq_apply_foldr
  rw [toSerial, monthStart, hordinal, ofMonth]
  push_cast
  ring

theorem isValid_ofMonth {k : Int} {day : Nat} :
    (ofMonth k day).isValid = true ↔ 1 ≤ day ∧ day ≤ daysIn k := by
  simp only [isValid, Bool.and_eq_true, decide_eq_true_eq]
  simp only [ofMonth, daysIn]
  omega

section

variable {d : Date} (h : d.isValid = true)
include h

theorem ofMonth_eq (day : Nat) : ofMonth d.monthIndex day = ⟨d.year, d.month, day⟩ := by
  simp only [isValid, Bool.and_eq_true, decide_eq_true_eq] at h
  simp only [ofMonth, monthIndex, Date.mk.injEq, and_true]
  omega

theorem ofMonth_monthIndex : ofMonth d.monthIndex d.day = d := ofMonth_eq h d.day

theorem daysIn_monthIndex : daysIn d.monthIndex = monthLength d.year d.month := by
  have hmonth := congrArg (fun e : Date => monthLength e.year e.month) (ofMonth_monthIndex h)
  exact hmonth

theorem day_bounds : 1 ≤ d.day ∧ d.day ≤ daysIn d.monthIndex := by
  rw [← ofMonth_monthIndex h] at h
  exact isValid_ofMonth.mp h

theorem toSerial_eq : d.toSerial = monthStart d.monthIndex + d.day - 1 := by
  obtain ⟨i, hi⟩ := Nat.exists_eq_add_of_le' (day_bounds h).1
  have hserial := toSerial_ofMonth d.monthIndex i
  rw [← hi, ofMonth_monthIndex h] at hserial
  omega

theorem toSerial_bounds :
    monthStart d.monthIndex ≤ d.toSerial ∧ d.toSerial < monthStart (d.monthIndex + 1) := by
  have hday := day_bounds h
  rw [toSerial_eq h, monthStart_succ]
  omega

/-- Behind the last day of a month the next one starts. -/
theorem toSerial_of_isLastOfMonth (hlast : d.isLastOfMonth = true) :
    d.toSerial + 1 = monthStart (d.monthIndex + 1) := by
  rw [isLastOfMonth, beq_iff_eq] at hlast
  rw [toSerial_eq h, monthStart_succ, daysIn_monthIndex h, hlast]
  omega

theorem monthIndex_eq {k : Int} (hfirst : monthStart k ≤ d.toSerial)
    (hlast : d.toSerial < monthStart (k + 1)) : d.monthIndex = k := by
  obtain ⟨hfirst', hlast'⟩ := toSerial_bounds h
  have hle := monthStart_strictMono.lt_iff_lt.mp (hfirst.trans_lt hlast')
  have hge := monthStart_strictMono.lt_iff_lt.mp (hfirst'.trans_lt hlast)
  omega

end

theorem exists_lastOfMonth (k : Int) :
    ∃ last : Date, last.isValid = true ∧ last.isLastOfMonth = true ∧ last.monthIndex = k := by
  have hlength := daysIn_bounds k
  exact ⟨ofMonth k (daysIn k), isValid_ofMonth.mpr (by omega), beq_self_eq_true _,
    monthIndex_ofMonth k _⟩

/-- The month that a day of a year falls into. -/
theorem splitMonths_eq (month : Nat) (lengths : List Nat) {n : Nat} (h : n < lengths.sum) :
    ∃ j i, splitMonths month lengths n = (month + j, i + 1) ∧ j < lengths.length ∧
      (lengths.take j).sum + i = n ∧ n < (lengths.take (j + 1)).sum := by
  induction lengths generalizing month n with
  | nil => cases h
  | cons length lengths ih =>
    rw [List.sum_cons] at h
    rw [splitMonths]
    split
    · exact ⟨0, n, rfl, Nat.succ_pos _, Nat.zero_add n, by simpa⟩
    · obtain ⟨j, i, hsplit, hj, hsum, hnext⟩ := ih (month + 1) (n := n - length) (by omega)
      rw [hsplit, Nat.add_assoc, Nat.add_comm 1]
      refine ⟨j + 1, i, rfl, Nat.succ_lt_succ hj, ?_⟩
      simp only [List.take_succ_cons, List.sum_cons]
      omega

theorem ofSerial_eq (n : Int) :
    ∃ k i, ofSerial n = ofMonth k (i + 1) ∧ i < daysIn k ∧ monthStart k + i = n := by
  obtain ⟨hfirst, hlast⟩ := yearStart_yearOfDay (n + epoch)
  rw [yearStart_succ, ← sum_monthLengths] at hlast
  have hday : (n + epoch - yearStart (yearOfDay (n + epoch))).toNat <
      (monthLengths (yearOfDay (n + epoch))).sum := by omega
  obtain ⟨j, i, hsplit, hj, hsum, hnext⟩ := splitMonths_eq 1 _ hday
  have hserial : ofSerial n = ⟨yearOfDay (n + epoch), 1 + j, i + 1⟩ := by
    rw [ofSerial, hsplit]
  generalize yearOfDay (n + epoch) = year at *
  have hj : j < 12 := hj
  have hyear : (12 * year + j) / 12 = year := by omega
  have hmonth : ((12 * year + j) % 12).toNat = j := by omega
  have helapsed := elapsed_succ year hj
  change elapsed year j + i = _ at hsum
  change _ < elapsed year (j + 1) at hnext
  refine ⟨12 * year + j, i, ?_, ?_, ?_⟩
  · rw [hserial, ofMonth, hyear, hmonth, Nat.add_comm 1]
  · rw [daysIn, hyear, hmonth]
    omega
  · rw [monthStart, hyear, hmonth]
    omega

theorem isValid_ofSerial (n : Int) : (ofSerial n).isValid = true := by
  obtain ⟨k, i, hdate, hi, -⟩ := ofSerial_eq n
  rw [hdate, isValid_ofMonth]
  omega

@[simp]
theorem toSerial_ofSerial (n : Int) : (ofSerial n).toSerial = n := by
  obtain ⟨k, i, hdate, -, hserial⟩ := ofSerial_eq n
  rw [hdate, toSerial_ofMonth, hserial]

theorem ofSerial_toSerial {d : Date} (h : d.isValid = true) : ofSerial d.toSerial = d := by
  have hvalid := isValid_ofSerial d.toSerial
  obtain ⟨hfirst, hlast⟩ := toSerial_bounds h
  have hmonth : (ofSerial d.toSerial).monthIndex = d.monthIndex := by
    apply monthIndex_eq hvalid <;> rwa [toSerial_ofSerial]
  have hday : (ofSerial d.toSerial).day = d.day := by
    have hserial := toSerial_eq hvalid
    have hserial' := toSerial_eq h
    rw [toSerial_ofSerial, hmonth] at hserial
    omega
  rw [← ofMonth_monthIndex hvalid, hmonth, hday, ofMonth_monthIndex h]

theorem le_monthIndex_ofSerial_iff {n k : Int} : k ≤ (ofSerial n).monthIndex ↔ monthStart k ≤ n := by
  have hbounds := toSerial_bounds (isValid_ofSerial n)
  rw [toSerial_ofSerial] at hbounds
  constructor
  · exact fun h => (monthStart_strictMono.monotone h).trans hbounds.1
  · exact fun h => Int.le_of_lt_add_one (monthStart_strictMono.lt_iff_lt.mp (h.trans_lt hbounds.2))

theorem monthIndex_ofSerial_lt_iff {n k : Int} : (ofSerial n).monthIndex < k ↔ n < monthStart k := by
  rw [← not_le, le_monthIndex_ofSerial_iff, not_le]

/-- The months of the years up to 9999. -/
theorem monthIndex_ofSerial_bounds {n : Int} (hlow : monthStart 0 ≤ n) (hhigh : n ≤ maxSerial) :
    0 ≤ (ofSerial n).monthIndex ∧ (ofSerial n).monthIndex < 120000 := by
  have hend : monthStart 120000 = maxSerial + 1 := by decide
  exact ⟨le_monthIndex_ofSerial_iff.mpr hlow,
    monthIndex_ofSerial_lt_iff.mpr (hend ▸ Int.lt_add_one_of_le hhigh)⟩

/-! ### Months later -/

theorem addMonths_eq {d : Date} (h : d.isValid = true) (months : Int) : d.addMonths months =
    ofMonth (d.monthIndex + months) (min d.day (daysIn (d.monthIndex + months))) := by
  have htotal : d.year * 12 + (d.month - 1 : Nat) + months = d.monthIndex + months := by
    simp only [isValid, Bool.and_eq_true, decide_eq_true_eq] at h
    rw [monthIndex]
    omega
  rw [addMonths, htotal]
  rfl

theorem isValid_addMonths {d : Date} (h : d.isValid = true) (months : Int) :
    (d.addMonths months).isValid = true := by
  have hday := day_bounds h
  have hlength := daysIn_bounds (d.monthIndex + months)
  rw [addMonths_eq h, isValid_ofMonth]
  omega

theorem toSerial_addMonths {d : Date} (h : d.isValid = true) (months : Int) :
    (d.addMonths months).toSerial = monthStart (d.monthIndex + months) +
      min d.day (daysIn (d.monthIndex + months)) - 1 := by
  rw [toSerial_eq (isValid_addMonths h months), addMonths_eq h, monthIndex_ofMonth]
  rfl

end Spreadsheet.Date
