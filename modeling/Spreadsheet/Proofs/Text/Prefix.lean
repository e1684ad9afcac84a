import Mathlib
import Spreadsheet.Text.Blank

/-! Prefixes of character lists that a scanner takes off, texts that trimming leaves alone, and
texts that spell the same in ASCII. -/

namespace Spreadsheet.Text

/-- What follows a list begins with no character that has the property `p`. -/
def StopsAt (p : Char → Bool) (cs : List Char) : Prop := ∀ c ∈ cs.head?, p c = false

section

variable {p : Char → Bool} {cs after : List Char}

theorem stopsAt_nil : StopsAt p [] := by simp [StopsAt]

theorem stopsAt_cons {c : Char} (h : p c = false) : StopsAt p (c :: cs) := by
  simpa [StopsAt] using h

theorem StopsAt.head?_ne {c : Char} (h : StopsAt p cs) (hc : p c = true) : cs.head? ≠ some c :=
  fun hhead => by simp [h c hhead] at hc

theorem takeWhile_append_of_stopsAt (h : ∀ c ∈ cs, p c = true) (hafter : StopsAt p after) :
    (cs ++ after).takeWhile p = cs := by
  rw [List.takeWhile_append_of_pos h]
  cases after with
  | nil => simp
  | cons c rest => simp [hafter c rfl]

theorem dropWhile_append_of_stopsAt (h : ∀ c ∈ cs, p c = true) (hafter : StopsAt p after) :
    (cs ++ after).dropWhile p = after := by
  rw [List.dropWhile_append_of_pos h]
  cases after with
  | nil => simp
  | cons c rest => simp [hafter c rfl]

theorem dropWhile_of_stopsAt (h : StopsAt p cs) : cs.dropWhile p = cs := by
  rw [← List.nil_append cs]
  exact dropWhile_append_of_stopsAt (by simp) h

theorem stopsAt_of_forall (h : ∀ c ∈ cs, p c = false) : StopsAt p cs :=
  fun c hc => h c (List.mem_of_mem_head? hc)

theorem StopsAt.append (h : StopsAt p cs) (hafter : StopsAt p after) : StopsAt p (cs ++ after) := by
  cases cs with
  | nil => exact hafter
  | cons c cs => exact h

theorem stopsAt_append (hne : cs ≠ []) (h : ∀ c ∈ cs, p c = false) : StopsAt p (cs ++ after) := by
  cases cs with
  | nil => exact absurd rfl hne
  | cons c cs => exact stopsAt_cons (h c List.mem_cons_self)

end

/-- Trimming leaves a text alone that neither begins nor ends with a blank. -/
theorem trimChars_eq_self {cs : List Char} (hfirst : StopsAt isBlank cs)
    (hlast : StopsAt isBlank cs.reverse) : trimChars cs = cs := by
  rw [trimChars, trimStartChars, dropWhile_of_stopsAt hfirst, trimEndChars, dropEndWhile,
    dropWhile_of_stopsAt hlast, List.reverse_reverse]

theorem isDigit_iff {c : Char} : c.isDigit = true ↔ 48 ≤ c.toNat ∧ c.toNat ≤ 57 := by
  simp only [Char.isDigit, Char.toNat, UInt32.le_iff_toNat_le, ge_iff_le, Bool.and_eq_true,
    decide_eq_true_eq]
  rfl

theorem isAlpha_iff {c : Char} : c.isAlpha = true ↔
    (65 ≤ c.toNat ∧ c.toNat ≤ 90) ∨ (97 ≤ c.toNat ∧ c.toNat ≤ 122) := by
  simp only [Char.isAlpha, Char.isUpper, Char.isLower, Char.toNat, UInt32.le_iff_toNat_le,
    ge_iff_le, Bool.or_eq_true, Bool.and_eq_true, decide_eq_true_eq]
  rfl

theorem isAlpha_of_isDigit {c : Char} (h : c.isDigit = true) : c.isAlpha = false := by
  rw [isDigit_iff] at h
  rw [← Bool.not_eq_true, isAlpha_iff]
  omega

/-- What holds of all characters below a number holds of each of them. -/
@[elab_as_elim]
theorem char_of_forall {n : Nat} {P : Char → Prop} (c : Char) (hc : c.toNat < n)
    (h : ∀ i < n, P (Char.ofNat i)) : P c := by
  have hP := h c.toNat hc
  rwa [Char.ofNat_toNat] at hP

/-- Case mapping keeps digits apart from the other ASCII characters. -/
theorem isDigit_toLower {c : Char} (h : c.toNat < 128) : c.toLower.isDigit = c.isDigit :=
  char_of_forall c h (by decide)

theorem isBlank_of_isAlphanum {c : Char} (h : c.isAlphanum = true) : isBlank c = false := by
  rw [Char.isAlphanum, Bool.or_eq_true, isAlpha_iff, isDigit_iff] at h
  simp only [isBlank, Bool.or_eq_false_iff, Bool.and_eq_false_iff, decide_eq_false_iff_not,
    beq_eq_false_iff_ne]
  omega

theorem isBlank_of_isDigit {c : Char} (h : c.isDigit = true) : isBlank c = false :=
  isBlank_of_isAlphanum (by simp [Char.isAlphanum, h])

theorem sameAscii_iff {s t : String} :
    sameAscii s t = true ↔ s.toList.map Char.toLower = t.toList.map Char.toLower := by
  rw [sameAscii, beq_iff_eq, String.toLower, String.toLower, ← String.toList_inj, String.toList_map,
    String.toList_map]

theorem sameAscii_iff_toUpper {s t : String} : sameAscii s t = true ↔ s.toUpper = t.toUpper := by
  rw [sameAscii_iff, String.toUpper, String.toUpper, ← String.toList_inj, String.toList_map,
    String.toList_map]
  constructor <;> intro h
  · simpa [Function.comp_def] using congrArg (List.map Char.toUpper) h
  · simpa [Function.comp_def] using congrArg (List.map Char.toLower) h

end Spreadsheet.Text
