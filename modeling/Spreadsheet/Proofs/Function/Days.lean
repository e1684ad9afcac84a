import Spreadsheet.Function.Date
import Spreadsheet.Proofs.Date.Text
import Spreadsheet.Proofs.Failure
import Spreadsheet.Proofs.Function.Tables
import Spreadsheet.Proofs.Number.Whole

/-! Days as values. A number is read as a day only within the supported calendar, while a text may spell
an earlier date; a day within the calendar is read from the number that stands for it. -/

namespace Spreadsheet.Function

open Date (isSupported maxSerial monthStart)

theorem isSupported_iff {n : Int} : isSupported n = true ↔ 0 ≤ n ∧ n ≤ maxSerial := by
  simp [isSupported]

theorem supported_eq (n : Int) :
    supported n = if 0 ≤ n ∧ n ≤ maxSerial then .ok n else .error outOfRange := by
  simp only [supported, isSupported_iff]

section

variable {n : Int} (h : n.natAbs < 2 ^ 53)
include h

theorem finite_integer : (integer n).finite = integer n := by
  rw [integer, Value.finite_number, if_pos (Number.isFinite_ofInt h)]

theorem toInteger_integer : (integer n).toInteger = .ok n :=
  congrArg Except.ok (Number.truncToInt_ofInt h)

end

theorem natAbs_lt_of_le {n : Int} (hlow : monthStart 0 ≤ n) (hhigh : n ≤ maxSerial) :
    n.natAbs < 2 ^ 53 := by
  have hfirst : monthStart 0 = -693959 := by decide
  rw [maxSerial] at hhigh
  omega

section

variable {n : Int} (h : isSupported n = true)
include h

theorem natAbs_lt_of_isSupported : n.natAbs < 2 ^ 53 := by
  have hbounds := isSupported_iff.mp h
  rw [maxSerial] at hbounds
  omega

theorem dayOf_integer : dayOf (integer n) = .ok n := by
  obtain ⟨hlow, hhigh⟩ := isSupported_iff.mp h
  obtain ⟨m, rfl⟩ := Int.eq_ofNat_of_zero_le hlow
  have hfloor : Number.floorToInt (Number.ofInt m) = m := by
    rw [Number.ofInt_natCast]
    exact Number.floorToInt_ofNat (natAbs_lt_of_isSupported h)
  have hwhole : Number.isWhole (Number.ofInt maxSerial) = true := by decide +kernel
  change serialOf (Number.ofInt m) = .ok (m : Int)
  simp only [serialOf, hfloor]
  rw [if_neg (by omega), if_neg]
  rintro (hbeyond | ⟨hlast, hfraction⟩)
  · omega
  · simp [hlast, hwhole] at hfraction

end

section

variable {t : String} {date : Date} (h : Date.ofText? t = some date)
include h

theorem dayOf_text : dayOf (.text t) = .ok date.toSerial := by
  rw [dayOf, h]

theorem dateValue_text : dateValue [.text t] = .ok (integer date.toSerial) := by
  have hargument : argument [.text t] 0 = .ok (.text t) := rfl
  rw [dateValue, hargument]
  simp only [bind, Except.bind, h]
  rfl

end

theorem isSupported_of_serialOf {x : Float} {n : Int} (h : serialOf x = .ok n) :
    isSupported n = true := by
  simp only [serialOf] at h
  split at h
  · cases h
  split at h
  · cases h
  · cases h
    rw [isSupported_iff]
    omega

section

variable {v : Value} {n : Int} (h : dayOf v = .ok n)
include h

theorem dayOf_cases : isSupported n = true ∨
    ∃ t date, v = .text t ∧ Date.ofText? t = some date ∧ date.toSerial = n := by
  cases v with
  | text t =>
    simp only [dayOf] at h
    split at h
    · cases h
      exact .inr ⟨t, _, rfl, ‹_›, rfl⟩
    · exact .inl (isSupported_of_serialOf h)
    · cases h
  | _ =>
    obtain ⟨x, -, hx⟩ := exists_ok_of_bind h
    exact .inl (isSupported_of_serialOf hx)

theorem dayOf_bounds : monthStart 0 ≤ n ∧ n ≤ maxSerial := by
  rcases dayOf_cases h with hsupported | ⟨t, date, -, hdate, rfl⟩
  · have hfirst : monthStart 0 ≤ 0 := by decide
    obtain ⟨hlow, hhigh⟩ := isSupported_iff.mp hsupported
    exact ⟨hfirst.trans hlow, hhigh⟩
  · exact Date.toSerial_of_ofText? hdate

theorem single_of_dayOf : v.isArray = false ∧ v.isError = false := by
  cases v with
  | error e => cases h
  | array rows => cases h
  | _ => exact ⟨rfl, rfl⟩

end

theorem datePart_bounds {n : Int} (hlow : Date.monthStart 0 ≤ n) (hhigh : n ≤ maxSerial) :
    (Date.ofSerial n).year.natAbs < 2 ^ 53 ∧ ((Date.ofSerial n).month : Int).natAbs < 2 ^ 53 ∧
      ((Date.ofSerial n).day : Int).natAbs < 2 ^ 53 := by
  have hvalid := Date.isValid_ofSerial n
  have hmonth := Date.monthIndex_ofSerial_bounds hlow hhigh
  have hday := Date.day_bounds hvalid
  have hlength := Date.daysIn_bounds (Date.ofSerial n).monthIndex
  simp only [Date.isValid, Bool.and_eq_true, decide_eq_true_eq] at hvalid
  rw [Date.monthIndex] at hmonth
  omega

/-! ### Days that are given -/

theorem gives_supported (n : Int) : Gives (isSupported · = true) (supported n) := by
  rw [supported]
  split
  · exact gives_ok.mpr ‹_›
  · exact gives_error

theorem gives_integer {r : Except CellError Int} (h : Gives (isSupported · = true) r) :
    Gives (fun v => ∃ n, isSupported n = true ∧ v = integer n) (do return integer (← r)) :=
  h.bind_of_gives fun n hn => gives_ok.mpr ⟨n, hn, rfl⟩

theorem gives_date (args : List Value) :
    Gives (fun v => ∃ n, isSupported n = true ∧ v = integer n) (date args) :=
  gives_bind fun _ => gives_bind fun _ => gives_bind fun _ =>
    gives_ite gives_error (gives_integer (gives_supported _))

theorem gives_dateValue (w : Value) (vs : List Value) : Gives (fun v => ∃ t date, w = .text t ∧
    Date.ofText? t = some date ∧ v = integer date.toSerial) (dateValue (w :: vs)) := by
  intro v h
  obtain ⟨_, hw, h⟩ := exists_ok_of_bind h
  cases hw
  cases w with
  | text t =>
    cases hdate : Date.ofText? t with
    | some date =>
      simp only [hdate] at h
      cases h
      exact ⟨t, date, rfl, hdate, rfl⟩
    | none =>
      simp only [hdate] at h
      cases h
  | _ => cases h

end Spreadsheet.Function
