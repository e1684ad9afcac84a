import Spreadsheet.Proofs.Address.Notation
import Spreadsheet.Proofs.Word

/-! Columns and rows as numbers. Letters are digits from 1 to 26 and there is no zero among them, so
every number has one spelling; a row has one without zeros in front. -/

namespace Spreadsheet.Address

open Number Text

def columnNumber (letters : List Char) : Nat := Nat.ofDigits 26 (letters.reverse.map letterValue)

def rowNumber (digits : List Char) : Nat := Nat.ofDigits 10 (digits.reverse.map digitValue)

theorem columnNumber_concat (letters : List Char) (c : Char) :
    columnNumber (letters ++ [c]) = columnNumber letters * 26 + letterValue c := by
  unfold columnNumber
  rw [List.reverse_concat, List.map_cons, Nat.ofDigits_cons]
  omega

theorem rowNumber_concat (digits : List Char) (c : Char) :
    rowNumber (digits ++ [c]) = 10 * rowNumber digits + digitValue c := by
  unfold rowNumber
  rw [List.reverse_concat, List.map_cons, Nat.ofDigits_cons]
  omega

theorem rowNumber_eq (digits : List Char) : rowNumber digits = ofDigits digits := by
  induction digits using List.reverseRecOn with
  | nil => rfl
  | append_singleton digits c ih => rw [rowNumber_concat, ih, ofDigits, ofDigits, List.foldl_concat]

/-! ### Spellings -/

theorem letterValue_pos (c : Char) : 0 < letterValue c := Nat.succ_pos _

theorem letterValue_le {c : Char} (h : c.isAlpha = true) : letterValue c ≤ 26 := by
  have hc := isAlpha_iff.mp h
  revert h
  exact char_of_forall (n := 123) (P := fun c => c.isAlpha = true → letterValue c ≤ 26) c (by omega)
    (by decide)

theorem letter_letterValue {c : Char} (h : c.isAlpha = true) :
    letter (letterValue c - 1) = c.toUpper := by
  have hc := isAlpha_iff.mp h
  revert h
  exact char_of_forall (n := 123)
    (P := fun c => c.isAlpha = true → letter (letterValue c - 1) = c.toUpper) c (by omega) (by decide)

theorem lettersOf_columnNumber {letters : List Char} (h : ∀ c ∈ letters, c.isAlpha = true) :
    lettersOf (columnNumber letters) = letters.map Char.toUpper := by
  induction letters using List.reverseRecOn with
  | nil =>
    rw [columnNumber]
    simp [lettersOf]
  | append_singleton letters c ih =>
    have hc : c.isAlpha = true := h c (by simp)
    have hpos := letterValue_pos c
    have hle := letterValue_le hc
    -- The last letter is a digit from 1 to 26, one above the remainder that spells it.
    have hnumber : columnNumber letters * 26 + letterValue c =
        columnNumber letters * 26 + (letterValue c - 1) + 1 := by omega
    have hdiv : (columnNumber letters * 26 + (letterValue c - 1)) / 26 = columnNumber letters := by
      omega
    have hmod : (columnNumber letters * 26 + (letterValue c - 1)) % 26 = letterValue c - 1 := by
      omega
    rw [columnNumber_concat, hnumber, lettersOf_succ, hdiv, hmod, letter_letterValue hc,
      ih fun c hc => h c (by simp [hc]), List.map_append, List.map_singleton]

theorem digitValue_lt {c : Char} (h : c.isDigit = true) : digitValue c < 10 := by
  have hc := isDigit_iff.mp h
  change c.toNat - 48 < 10
  omega

theorem digitChar_digitValue {c : Char} (h : c.isDigit = true) : (digitValue c).digitChar = c := by
  have hc := isDigit_iff.mp h
  revert h
  exact char_of_forall (n := 58) (P := fun c => c.isDigit = true → (digitValue c).digitChar = c) c
    (by omega) (by decide)

theorem dropWhile_of_rowNumber_eq_zero {digits : List Char} (h : ∀ c ∈ digits, c.isDigit = true)
    (hzero : rowNumber digits = 0) : digits.dropWhile (· == '0') = [] := by
  rw [List.dropWhile_eq_nil_iff]
  induction digits using List.reverseRecOn with
  | nil => simp
  | append_singleton digits c ih =>
    rw [rowNumber_concat] at hzero
    intro b hb
    rcases List.mem_append.mp hb with hb | hb
    · exact ih (fun c hc => h c (by simp [hc])) (by omega) b hb
    · obtain rfl := List.mem_singleton.mp hb
      have hchar := digitChar_digitValue (h b (by simp))
      rw [show digitValue b = 0 by omega] at hchar
      simp [← hchar]

/-- The decimal spelling of the number of some digits is these without the zeros in front. -/
theorem digits_rowNumber {digits : List Char} (h : ∀ c ∈ digits, c.isDigit = true)
    (hpos : rowNumber digits ≠ 0) :
    Number.digits (rowNumber digits) = digits.dropWhile (· == '0') := by
  induction digits using List.reverseRecOn with
  | nil => exact absurd rfl hpos
  | append_singleton digits c ih =>
    have hdigits : ∀ c ∈ digits, c.isDigit = true := fun c hc => h c (by simp [hc])
    have hc : c.isDigit = true := h c (by simp)
    have hlast : Number.digits (digitValue c) = [c] := by
      rw [Number.digits, Nat.toDigits_of_lt_base (digitValue_lt hc), digitChar_digitValue hc]
    rw [rowNumber_concat] at hpos ⊢
    rw [List.dropWhile_append]
    by_cases hzero : rowNumber digits = 0
    · have hne : c ≠ '0' := by
        rintro rfl
        exact hpos (by rw [hzero]; rfl)
      rw [hzero, dropWhile_of_rowNumber_eq_zero hdigits hzero]
      simpa [hne] using hlast
    · rw [← ih hdigits hzero, if_neg (by simpa using digits_ne_nil _), Number.digits,
        ← Nat.toDigits_append_toDigits (by decide) (Nat.pos_of_ne_zero hzero) (digitValue_lt hc)]
      exact congrArg _ hlast

/-! ### Letters read one by one -/

/-- The column number that letters make of the number `n` read before them. -/
def columnFrom (n : Nat) (letters : List Char) : Nat :=
  letters.foldl (fun n c => n * 26 + letterValue c) n

theorem columnNumber_eq (letters : List Char) : columnNumber letters = columnFrom 0 letters := by
  induction letters using List.reverseRecOn with
  | nil => rfl
  | append_singleton letters c ih =>
    rw [columnNumber_concat, columnFrom, List.foldl_concat, ih, columnFrom]

theorem le_columnFrom (n : Nat) (letters : List Char) : n ≤ columnFrom n letters := by
  induction letters generalizing n with
  | nil => exact le_rfl
  | cons c letters ih =>
    calc n ≤ n * 26 + letterValue c := by omega
      _ ≤ columnFrom n (c :: letters) := ih _

theorem columnNumber_pos {letters : List Char} (hne : letters ≠ []) : 0 < columnNumber letters := by
  obtain ⟨c, letters, rfl⟩ := List.exists_cons_of_ne_nil hne
  rw [columnNumber_eq]
  calc 0 < 0 * 26 + letterValue c := Nat.lt_add_left _ (letterValue_pos c)
    _ ≤ columnFrom 0 (c :: letters) := le_columnFrom _ letters

section

variable {s : String} {letters : List Char} (h : ∀ c ∈ letters, c.isAlpha = true)
include h

/-- Numbers only grow on the way, so that the reader may stop at the first one past the limit. -/
theorem readLetters_eq {n : Nat} (hn : n ≤ maxColumns) : readLetters s n letters =
    if maxColumns < columnFrom n letters then .error (.columnOutOfBounds s.toUpper)
    else .ok (columnFrom n letters) := by
  induction letters generalizing n with
  | nil => exact (if_neg (Nat.not_lt.mpr hn)).symm
  | cons c letters ih =>
    obtain ⟨hc, hletters⟩ := List.forall_mem_cons.mp h
    rw [readLetters, hc]
    by_cases hnext : maxColumns < n * 26 + letterValue c
    · have hpast : maxColumns < columnFrom n (c :: letters) :=
        Nat.lt_of_lt_of_le hnext (le_columnFrom _ letters)
      rw [if_pos hpast]
      exact if_pos hnext
    · have hrest := ih hletters (Nat.le_of_not_lt hnext)
      exact (if_neg hnext).trans hrest

theorem columnOfLetters_eq (hne : letters ≠ []) : columnOfLetters (String.ofList letters) =
    if maxColumns < columnNumber letters then
      .error (.columnOutOfBounds (String.ofList letters).toUpper)
    else .ok (columnNumber letters - 1) := by
  have hempty : (String.ofList letters).isEmpty = false := by simpa using hne
  rw [columnOfLetters, hempty, if_neg Bool.false_ne_true, String.toList_ofList,
    readLetters_eq h (Nat.zero_le _), columnNumber_eq]
  split <;> rfl

end

/-! ### Reading in words -/

/-- One more letter behind a column number, in words of 32 bits. -/
def nextColumn? (n : Nat) (c : Char) : Option Nat := do
  Word.add? 32 (← Word.add? 32 (← Word.mul? 32 n 26) (← Word.sub? c.toUpper.toNat 'A'.toNat)) 1

/-- One more digit behind a row number, in words of 64 bits and cut to the greatest number that is
reported. -/
def nextRow? (n : Nat) (c : Char) : Option Nat := do
  return min (← Word.add? 64 (← Word.mul? 64 n 10) (← Word.sub? c.toNat '0'.toNat)) rowLimit

def readLetters? (letters : String) : (n : Nat) → List Char → Option (Except AddressError Nat)
  | n, [] => some (.ok n)
  | n, c :: cs =>
    if !c.isAlpha then some (.error (.invalidAddress letters .badLetters))
    else do
      let next ← nextColumn? n c
      if maxColumns < next then some (.error (.columnOutOfBounds letters.toUpper))
      else readLetters? letters next cs

def columnOfLetters? (letters : String) : Option (Except AddressError Nat) :=
  if letters.isEmpty then some (.error (.invalidAddress letters .missingLetters))
  else do
    match ← readLetters? letters 0 letters.toList with
    | .error e => some (.error e)
    | .ok n => (Word.sub? n 1).map .ok

def rowOfDigits? (digits : List Char) : Option Nat := digits.foldlM nextRow? 0

theorem nextColumn?_eq {n : Nat} {c : Char} (hc : c.isAlpha = true) (hn : n ≤ maxColumns) :
    nextColumn? n c = some (n * 26 + letterValue c) := by
  have hupper : 65 ≤ c.toUpper.toNat := by
    have hlt := isAlpha_iff.mp hc
    revert hc
    exact char_of_forall (n := 123) (P := fun c => c.isAlpha = true → 65 ≤ c.toUpper.toNat) c
      (by omega) (by decide)
  have hvalue : c.toUpper.toNat - 65 + 1 ≤ 26 := letterValue_le hc
  rw [maxColumns] at hn
  have hmul : Word.mul? 32 n 26 = some (n * 26) := if_pos (by omega)
  have hsub : Word.sub? c.toUpper.toNat 'A'.toNat = some (c.toUpper.toNat - 65) := if_pos hupper
  have hadd : Word.add? 32 (n * 26) (c.toUpper.toNat - 65) =
    some (n * 26 + (c.toUpper.toNat - 65)) := if_pos (by omega)
  rw [nextColumn?, hmul, hsub]
  change (Word.add? 32 (n * 26) (c.toUpper.toNat - 65)).bind _ = _
  rw [hadd]
  exact if_pos (by omega)

theorem readLetters?_eq {s : String} {n : Nat} (hn : n ≤ maxColumns) (cs : List Char) :
    readLetters? s n cs = some (readLetters s n cs) := by
  induction cs generalizing n with
  | nil => rfl
  | cons c cs ih =>
    rw [readLetters?, readLetters]
    cases hc : c.isAlpha with
    | false => rfl
    | true =>
      simp only [nextColumn?_eq hc hn, Bool.not_true, Bool.false_eq_true, if_false, Option.bind_eq_bind,
        Option.bind_some]
      split
      · rfl
      · exact ih (Nat.le_of_not_lt ‹_›)

/-- The number of some letters is positive, so that one can be taken off. -/
theorem columnOfLetters?_eq {letters : List Char} (h : ∀ c ∈ letters, c.isAlpha = true)
    (hne : letters ≠ []) :
    columnOfLetters? (String.ofList letters) = some (columnOfLetters (String.ofList letters)) := by
  have hempty : (String.ofList letters).isEmpty = false := by simpa using hne
  have hpos : 1 ≤ columnFrom 0 letters := columnNumber_eq letters ▸ columnNumber_pos hne
  rw [columnOfLetters?, columnOfLetters, hempty, if_neg Bool.false_ne_true, if_neg Bool.false_ne_true,
    String.toList_ofList, readLetters?_eq (Nat.zero_le _), readLetters_eq h (Nat.zero_le _)]
  by_cases hpast : maxColumns < columnFrom 0 letters
  · rw [if_pos hpast]
    rfl
  · rw [if_neg hpast]
    change (Word.sub? (columnFrom 0 letters) 1).map _ = _
    rw [Word.sub?, if_pos hpos]
    rfl

theorem nextRow?_eq {c : Char} (hc : c.isDigit = true) (n : Nat) :
    nextRow? (min n rowLimit) c = some (min (10 * n + digitValue c) rowLimit) := by
  have hdigit := isDigit_iff.mp hc
  have hle : min n rowLimit ≤ rowLimit := Nat.min_le_right _ _
  have hvalue : digitValue c = c.toNat - 48 := rfl
  have hmul : Word.mul? 64 (min n rowLimit) 10 = some (min n rowLimit * 10) :=
    if_pos (by rw [rowLimit] at hle ⊢; omega)
  have hsub : Word.sub? c.toNat '0'.toNat = some (c.toNat - 48) := if_pos hdigit.1
  have hadd : Word.add? 64 (min n rowLimit * 10) (c.toNat - 48) =
      some (min n rowLimit * 10 + (c.toNat - 48)) :=
    if_pos (by rw [rowLimit] at hle ⊢; omega)
  rw [nextRow?, hmul, hsub]
  change (Word.add? 64 (min n rowLimit * 10) (c.toNat - 48)).bind _ = _
  rw [hadd, hvalue]
  exact congrArg some (by rw [rowLimit]; omega)

theorem rowOfDigits?_eq {digits : List Char} (h : ∀ c ∈ digits, c.isDigit = true) :
    rowOfDigits? digits = some (min (ofDigits digits) rowLimit) := by
  have hfrom (n : Nat) : digits.foldlM nextRow? (min n rowLimit) =
      some (min (digits.foldl (fun n c => 10 * n + digitValue c) n) rowLimit) := by
    induction digits generalizing n with
    | nil => rfl
    | cons c digits ih =>
      obtain ⟨hc, hdigits⟩ := List.forall_mem_cons.mp h
      rw [List.foldlM_cons, nextRow?_eq hc]
      exact ih hdigits _
  exact hfrom 0

end Spreadsheet.Address
