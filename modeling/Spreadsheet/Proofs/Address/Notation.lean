import Spreadsheet.Address
import Spreadsheet.Proofs.Number.Notation
import Spreadsheet.Proofs.Text.Prefix

/-! The text of an address reads back as the address. -/

namespace Spreadsheet.Address

open Number Text

def letter (n : Nat) : Char := Char.ofNat ('A'.toNat + n)

theorem isAlpha_letter {n : Nat} (h : n < 26) : (letter n).isAlpha = true := by
  have hall : ∀ n < 26, (letter n).isAlpha = true := by decide
  exact hall n h

theorem letterValue_letter {n : Nat} (h : n < 26) : letterValue (letter n) = n + 1 := by
  have hall : ∀ n < 26, letterValue (letter n) = n + 1 := by decide
  exact hall n h

theorem lettersOf_succ (n : Nat) : lettersOf (n + 1) = lettersOf (n / 26) ++ [letter (n % 26)] := by
  rw [lettersOf]
  simp [letter]

theorem isAlpha_of_mem_lettersOf {n : Nat} {c : Char} (h : c ∈ lettersOf n) : c.isAlpha = true := by
  induction n using Nat.strongRecOn with
  | ind n ih =>
    cases n with
    | zero => simp [lettersOf] at h
    | succ n =>
      rw [lettersOf_succ, List.mem_append, List.mem_singleton] at h
      rcases h with h | rfl
      · exact ih (n / 26) (by omega) h
      · exact isAlpha_letter (Nat.mod_lt n (by decide))

/-- Reading the letters of a column number adds them to it. -/
theorem readLetters_lettersOf {s : String} {n : Nat} (h : n ≤ maxColumns) (rest : List Char) :
    readLetters s 0 (lettersOf n ++ rest) = readLetters s n rest := by
  induction n using Nat.strongRecOn generalizing rest with
  | ind n ih =>
    cases n with
    | zero => simp [lettersOf]
    | succ n =>
      have hdigit : n % 26 < 26 := Nat.mod_lt n (by decide)
      have hvalue : n / 26 * 26 + (n % 26 + 1) = n + 1 := by omega
      rw [lettersOf_succ, List.append_assoc, ih (n / 26) (by omega) (by omega),
        List.singleton_append, readLetters, isAlpha_letter hdigit, letterValue_letter hdigit, hvalue]
      simp [Nat.not_lt.mpr h]

theorem lettersOf_succ_ne_nil (n : Nat) : lettersOf (n + 1) ≠ [] := by simp [lettersOf_succ]

theorem columnOfLetters_lettersOf {col : Nat} (h : col < maxColumns) :
    columnOfLetters (String.ofList (lettersOf (col + 1))) = .ok col := by
  have hread (s : String) : readLetters s 0 (lettersOf (col + 1)) = .ok (col + 1) := by
    simpa [readLetters] using readLetters_lettersOf (s := s) h []
  rw [columnOfLetters, String.toList_ofList, hread]
  simp [lettersOf_succ_ne_nil, Except.map]

variable {a : Address}

theorem toList_toText (a : Address) : a.toText.toList =
    dollar a.colAbsolute ++ (lettersOf (a.col + 1) ++ (dollar a.rowAbsolute ++ digits (a.row + 1))) := by
  simp [toText]

theorem splitDollar_dollar (b : Bool) {cs : List Char} (h : StopsAt (· == '$') cs) :
    splitDollar (dollar b ++ cs) = (b, cs) := by
  cases b with
  | true => rfl
  | false =>
    cases cs with
    | nil => rfl
    | cons c cs =>
      have hc := h c rfl
      simp only [beq_eq_false_iff_ne, ne_eq] at hc
      simp [dollar, splitDollar, hc]

/-- The letters and the digits of a text that has the shape of an address. -/
structure AreParts (letters digits : List Char) : Prop where
  letters_ne : letters ≠ []
  digits_ne : digits ≠ []
  isAlpha : ∀ c ∈ letters, c.isAlpha = true
  isDigit : ∀ c ∈ digits, c.isDigit = true

theorem splitParts_of_parts {letters digits : List Char} (h : AreParts letters digits)
    (colAbsolute rowAbsolute : Bool) :
    splitParts (dollar colAbsolute ++ (letters ++ (dollar rowAbsolute ++ digits))) =
      (colAbsolute, letters, rowAbsolute, digits) := by
  have hletters : StopsAt (· == '$') (letters ++ (dollar rowAbsolute ++ digits)) := by
    refine stopsAt_append h.letters_ne fun c hc => beq_false_of_ne ?_
    rintro rfl
    simpa using h.isAlpha _ hc
  have hdollar : StopsAt (· == '$') digits := by
    refine stopsAt_of_forall fun c hc => beq_false_of_ne ?_
    rintro rfl
    simpa using h.isDigit _ hc
  have hrow : StopsAt Char.isAlpha (dollar rowAbsolute ++ digits) := by
    cases rowAbsolute with
    | true => exact stopsAt_cons rfl
    | false => exact stopsAt_of_forall fun c hc => isAlpha_of_isDigit (h.isDigit c hc)
  rw [splitParts, splitDollar_dollar colAbsolute hletters]
  simp only [dropWhile_append_of_stopsAt h.isAlpha hrow, takeWhile_append_of_stopsAt h.isAlpha hrow,
    splitDollar_dollar rowAbsolute hdollar]

theorem splitParts_toText (a : Address) : splitParts a.toText.toList =
    (a.colAbsolute, lettersOf (a.col + 1), a.rowAbsolute, digits (a.row + 1)) := by
  rw [toList_toText]
  exact splitParts_of_parts ⟨lettersOf_succ_ne_nil _, digits_ne_nil _,
    fun _ => isAlpha_of_mem_lettersOf, fun _ => isDigit_of_mem_digits⟩ _ _

theorem all_digits (n : Nat) : (digits n).all Char.isDigit = true :=
  List.all_eq_true.mpr fun _ => isDigit_of_mem_digits

theorem hasForm_toText (a : Address) : hasForm a.toText = true := by
  simp only [hasForm, splitParts_toText, all_digits]
  simp [lettersOf_succ_ne_nil, digits_ne_nil]

/-- Letters and digits, each with or without a dollar sign in front. -/
def HasShape (cs : List Char) : Prop :=
  ∃ colAbsolute letters rowAbsolute digits, AreParts letters digits ∧
    cs = dollar colAbsolute ++ (letters ++ (dollar rowAbsolute ++ digits))

theorem dollar_splitDollar (cs : List Char) :
    dollar (splitDollar cs).1 ++ (splitDollar cs).2 = cs := by
  unfold splitDollar
  split <;> rfl

/-- A text has the form of an address if and only if it has the shape of one. -/
theorem hasForm_iff {s : String} : hasForm s = true ↔ HasShape s.toList := by
  constructor
  · intro h
    simp only [hasForm, splitParts, Bool.and_eq_true, Bool.not_eq_true', List.isEmpty_eq_false_iff,
      List.all_eq_true] at h
    obtain ⟨⟨hletters, hdigits⟩, hisDigit⟩ := h
    refine ⟨(splitDollar s.toList).1, (splitDollar s.toList).2.takeWhile Char.isAlpha,
      (splitDollar ((splitDollar s.toList).2.dropWhile Char.isAlpha)).1,
      (splitDollar ((splitDollar s.toList).2.dropWhile Char.isAlpha)).2,
      ⟨hletters, hdigits, List.all_eq_true.mp List.all_takeWhile, hisDigit⟩, ?_⟩
    rw [dollar_splitDollar, List.takeWhile_append_dropWhile, dollar_splitDollar]
  · rintro ⟨colAbsolute, letters, rowAbsolute, digits, h, hs⟩
    simp only [hasForm, hs, splitParts_of_parts h, Bool.and_eq_true, Bool.not_eq_true',
      List.isEmpty_eq_false_iff, List.all_eq_true]
    exact ⟨⟨h.letters_ne, h.digits_ne⟩, h.isDigit⟩

/-- What stands in the text of an address: letters, digits and dollar signs. -/
theorem isAlphanum_or_eq_of_mem {c : Char} (h : c ∈ a.toText.toList) :
    c.isAlphanum = true ∨ c = '$' := by
  have hmem_dollar {b : Bool} (hc : c ∈ dollar b) : c = '$' := by
    cases b <;> simp_all [dollar]
  rw [toList_toText, List.mem_append, List.mem_append, List.mem_append] at h
  rcases h with h | h | h | h
  · exact .inr (hmem_dollar h)
  · exact .inl (by simp [Char.isAlphanum, isAlpha_of_mem_lettersOf h])
  · exact .inr (hmem_dollar h)
  · exact .inl (by simp [Char.isAlphanum, isDigit_of_mem_digits h])

theorem isBlank_of_mem_toText {c : Char} (h : c ∈ a.toText.toList) : isBlank c = false := by
  rcases isAlphanum_or_eq_of_mem h with h | rfl
  · exact isBlank_of_isAlphanum h
  · rfl

theorem exists_toText (a : Address) :
    ∃ c cs, a.toText.toList = c :: cs ∧ (c.isAlpha = true ∨ c = '$') := by
  obtain ⟨l, ls, hletters⟩ := List.exists_cons_of_ne_nil (lettersOf_succ_ne_nil a.col)
  have hl : l.isAlpha = true := isAlpha_of_mem_lettersOf (hletters ▸ List.mem_cons_self)
  rw [toList_toText, hletters]
  cases a.colAbsolute with
  | true => exact ⟨'$', _, rfl, .inr rfl⟩
  | false => exact ⟨l, _, rfl, .inl hl⟩

/-- An address has digits, so that it spells no word of letters. -/
theorem sameAscii_toText (a : Address) {s : String} (hs : ∀ c ∈ s.toList, c.isAlpha = true) :
    sameAscii a.toText s = false := by
  obtain ⟨d, ds, hdigits⟩ := List.exists_cons_of_ne_nil (digits_ne_nil (a.row + 1))
  have hd : d.isDigit = true := isDigit_of_mem_digits (hdigits ▸ List.mem_cons_self)
  rw [← Bool.not_eq_true, sameAscii_iff]
  intro hsame
  have hmem : d.toLower ∈ s.toList.map Char.toLower := by
    rw [← hsame]
    exact List.mem_map_of_mem (by simp [toList_toText, hdigits])
  obtain ⟨c, hc, heq⟩ := List.mem_map.mp hmem
  have hc' := isAlpha_iff.mp (hs c hc)
  have hd' := isDigit_iff.mp hd
  have hsame_digit := congrArg Char.isDigit heq
  rw [isDigit_toLower (by omega), isDigit_toLower (by omega), hd, isDigit_iff] at hsame_digit
  omega

theorem trim_toText (a : Address) : Text.trim a.toText = a.toText := by
  have hstops (cs : List Char) (h : ∀ c ∈ cs, c ∈ a.toText.toList) : StopsAt isBlank cs :=
    fun c hc => isBlank_of_mem_toText (h c (List.mem_of_mem_head? hc))
  rw [Text.trim, trimChars_eq_self (hstops _ fun _ => id) (hstops _ (by simp)), String.ofList_toList]

theorem parse_toText (h : a.isValid = true) : Address.parse a.toText = .ok a := by
  rw [isValid_iff] at h
  simp only [Address.parse, trim_toText, splitParts_toText, all_digits, ofDigits_digits,
    columnOfLetters_lettersOf h.2]
  simp [lettersOf_succ_ne_nil, digits_ne_nil, bind, Except.bind, Nat.not_lt.mpr h.1]

theorem readLetters_le {s : String} {cs : List Char} {n m : Nat} (hn : n ≤ maxColumns)
    (h : readLetters s n cs = .ok m) : m ≤ maxColumns := by
  induction cs generalizing n with
  | nil =>
    obtain rfl : n = m := by simpa [readLetters] using h
    exact hn
  | cons c cs ih =>
    simp only [readLetters] at h
    split at h
    · simp at h
    · split at h
      · simp at h
      · exact ih (Nat.le_of_not_lt ‹_›) h

theorem lt_maxColumns_of_columnOfLetters {letters : String} {col : Nat}
    (h : columnOfLetters letters = .ok col) : col < maxColumns := by
  rw [columnOfLetters] at h
  split at h
  · simp at h
  · cases hread : readLetters letters 0 letters.toList with
    | error e => simp [hread, Except.map] at h
    | ok n =>
      obtain rfl : n - 1 = col := by simpa [hread, Except.map] using h
      have hle := readLetters_le (Nat.zero_le _) hread
      exact Nat.lt_of_le_of_lt (Nat.sub_le_sub_right hle 1) (by decide)

/-- What an address text names lies inside the limits of a sheet. -/
theorem isValid_of_parse {s : String} (h : Address.parse s = .ok a) : a.isValid = true := by
  simp only [Address.parse] at h
  split at h
  · simp at h
  · split at h
    · simp at h
    · cases hcol : columnOfLetters (String.ofList (splitParts (Text.trim s).toList).2.1) with
      | error e => simp [hcol, bind, Except.bind] at h
      | ok col =>
        simp only [hcol, bind, Except.bind] at h
        split at h
        · simp at h
        · split at h
          · simp at h
          · obtain rfl := Except.ok.inj h
            exact isValid_iff.mpr ⟨by dsimp only; omega, lt_maxColumns_of_columnOfLetters hcol⟩

end Spreadsheet.Address
