import Spreadsheet.Date.Text
import Spreadsheet.Proofs.Address.Numerals
import Spreadsheet.Proofs.Date.Calendar

/-! Dates read from text. They exist, and their years have four digits. -/

namespace Spreadsheet.Date

theorem length_digitRun? {least most : Nat} {cs ds rest : List Char}
    (h : digitRun? least most cs = some (ds, rest)) : ds.length ≤ most := by
  rw [digitRun?] at h
  split at h
  · cases h
  · cases h
    exact (List.takeWhile_prefix _).length_le.trans (List.length_take_le _ _)

theorem number?_lt {ds : List Char} {n : Nat} (h : number? ds = some n) : n < 10 ^ ds.length := by
  rw [number?] at h
  split at h
  · rename_i hdigits
    cases h
    have hlt : ∀ m ∈ ds.reverse.map Number.digitValue, m < 10 := by
      intro m hm
      obtain ⟨c, hc, rfl⟩ := List.mem_map.mp hm
      exact Address.digitValue_lt (List.all_eq_true.mp hdigits c (List.mem_reverse.mp hc))
    have hnumber := Nat.ofDigits_lt_base_pow_length (by decide) hlt
    rwa [List.length_map, List.length_reverse, ← Address.rowNumber, Address.rowNumber_eq] at hnumber
  · cases h

theorem ofParts?_eq {year : Int} {month day : Nat} {d : Date}
    (h : ofParts? year month day = some d) : d.isValid = true ∧ d.year = year := by
  rw [ofParts?] at h
  split at h
  · cases h
    exact ⟨‹_›, rfl⟩
  · cases h

theorem ofText?_year {s : String} {d : Date} (h : ofText? s = some d) :
    d.isValid = true ∧ 0 ≤ d.year ∧ d.year < 10000 := by
  simp only [ofText?, Option.bind_eq_bind, Option.bind_eq_some_iff] at h
  obtain ⟨⟨year, _⟩, hyear, _, -, ⟨month, _⟩, -, _, -, ⟨day, _⟩, -, hend⟩ := h
  split at hend
  · cases hend
  simp only [Option.bind_eq_some_iff] at hend
  obtain ⟨y, hy, m, -, n, -, hdate⟩ := hend
  have hlt := number?_lt hy
  have hlength := Nat.pow_le_pow_right (by decide : 0 < 10) (length_digitRun? hyear)
  obtain ⟨hvalid, hdate⟩ := ofParts?_eq hdate
  refine ⟨hvalid, ?_, ?_⟩ <;> rw [hdate] <;> omega

/-- The days of the years up to 9999. -/
theorem toSerial_of_year {d : Date} (h : d.isValid = true) (hfirst : 0 ≤ d.year)
    (hlast : d.year < 10000) : monthStart 0 ≤ d.toSerial ∧ d.toSerial ≤ maxSerial := by
  obtain ⟨hlow, hhigh⟩ := toSerial_bounds h
  have hmonth : 0 ≤ d.monthIndex ∧ d.monthIndex + 1 ≤ 120000 := by
    simp only [isValid, Bool.and_eq_true, decide_eq_true_eq] at h
    rw [monthIndex]
    omega
  have hend : monthStart 120000 = maxSerial + 1 := by decide
  have hlow' := monthStart_strictMono.monotone hmonth.1
  have hhigh' := monthStart_strictMono.monotone hmonth.2
  omega

theorem toSerial_of_ofText? {s : String} {d : Date} (h : ofText? s = some d) :
    monthStart 0 ≤ d.toSerial ∧ d.toSerial ≤ maxSerial := by
  obtain ⟨hvalid, hfirst, hlast⟩ := ofText?_year h
  exact toSerial_of_year hvalid hfirst hlast

end Spreadsheet.Date
