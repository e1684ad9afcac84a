import Spreadsheet.Proofs.Address.Numerals

/-! Reading an address is exact: what it gives is what the dollar signs, letters and digits of the text
say, and there is nothing else to fail on but their shape and the limits of a sheet. -/

namespace Spreadsheet.Address

open Number Text

variable {s : String} {a : Address} {letters digits : List Char}

/-- What a text of the shape of an address says: columns and rows count from one in it. -/
inductive Denotes : List Char → Address → Prop
  | parts {letters digits : List Char} {a : Address} (h : AreParts letters digits)
      (hcol : columnNumber letters = a.col + 1) (hrow : rowNumber digits = a.row + 1) :
      Denotes (dollar a.colAbsolute ++ (letters ++ (dollar a.rowAbsolute ++ digits))) a

/-- The faults of a text that has the shape of an address. -/
inductive IsOutside : AddressError → Prop
  | row (n : Nat) : IsOutside (.rowOutOfBounds n)
  | column (letters : String) : IsOutside (.columnOutOfBounds letters)
  | rowZero (text : String) : IsOutside (.invalidAddress text .rowZero)

/-- A text in capitals, without the zeros at the start of its digits. -/
def normalized (cs : List Char) : List Char :=
  (cs.map Char.toUpper).takeWhile (!·.isDigit) ++
    ((cs.map Char.toUpper).dropWhile (!·.isDigit)).dropWhile (· == '0')

/-- Reading with all arithmetic on words: of 32 bits for columns, of 64 bits for rows. -/
def parse? (s : String) : Option (Except AddressError Address) :=
  let text := Text.trim s
  let (colAbsolute, letters, rowAbsolute, digits) := splitParts text.toList
  if letters.isEmpty then some (.error (.invalidAddress text .missingLetters))
  else if digits.isEmpty || !digits.all Char.isDigit then
    some (.error (.invalidAddress text .malformedRow))
  else do
    match ← columnOfLetters? (String.ofList letters) with
    | .error e => some (.error e)
    | .ok col =>
      let row ← rowOfDigits? digits
      if row = 0 then some (.error (.invalidAddress text .rowZero))
      else if maxRows < row then some (.error (.rowOutOfBounds row))
      else (Word.sub? row 1).map fun row => .ok ⟨row, col, rowAbsolute, colAbsolute⟩

theorem toList_trim (s : String) : (Text.trim s).toList = trimChars s.toList := String.toList_ofList

/-! ### Texts with the shape of an address -/

section

variable (h : AreParts letters digits) {colAbsolute rowAbsolute : Bool}
  (hs : trimChars s.toList = dollar colAbsolute ++ (letters ++ (dollar rowAbsolute ++ digits)))
include h hs

theorem parse_of_parts : parse s =
    if maxColumns < columnNumber letters then
      .error (.columnOutOfBounds (String.ofList letters).toUpper)
    else if rowNumber digits = 0 then .error (.invalidAddress (Text.trim s) .rowZero)
    else if maxRows < rowNumber digits then .error (.rowOutOfBounds (min (rowNumber digits) rowLimit))
    else .ok ⟨rowNumber digits - 1, columnNumber letters - 1, rowAbsolute, colAbsolute⟩ := by
  have hall : digits.all Char.isDigit = true := List.all_eq_true.mpr h.isDigit
  have hletters : letters.isEmpty = false := List.isEmpty_eq_false_iff.mpr h.letters_ne
  have hdigits : digits.isEmpty = false := List.isEmpty_eq_false_iff.mpr h.digits_ne
  unfold parse
  simp only [toList_trim, hs, splitParts_of_parts h, hletters, hdigits, hall,
    columnOfLetters_eq h.isAlpha h.letters_ne, rowNumber_eq]
  by_cases hcol : maxColumns < columnNumber letters
  · rw [if_pos hcol, if_pos hcol]
    rfl
  · rw [if_neg hcol, if_neg hcol]
    rfl

theorem parse?_of_parts : parse? s = some (parse s) := by
  have hall : digits.all Char.isDigit = true := List.all_eq_true.mpr h.isDigit
  have hletters : letters.isEmpty = false := List.isEmpty_eq_false_iff.mpr h.letters_ne
  have hdigits : digits.isEmpty = false := List.isEmpty_eq_false_iff.mpr h.digits_ne
  rw [parse_of_parts h hs]
  unfold parse?
  simp only [toList_trim, hs, splitParts_of_parts h, hletters, hdigits, hall,
    columnOfLetters?_eq h.isAlpha h.letters_ne, columnOfLetters_eq h.isAlpha h.letters_ne,
    rowOfDigits?_eq h.isDigit, ← rowNumber_eq, Bool.not_true, Bool.or_self, Bool.false_eq_true,
    if_false, Option.bind_eq_bind, Option.bind_some]
  by_cases hcol : maxColumns < columnNumber letters
  · rw [if_pos hcol, if_pos hcol]
  -- A row past the limit of what is reported is past that of a sheet, and a row of zero is neither.
  have hzero : min (rowNumber digits) rowLimit = 0 ↔ rowNumber digits = 0 := by
    rw [rowLimit]
    omega
  have hpast : maxRows < min (rowNumber digits) rowLimit ↔ maxRows < rowNumber digits := by
    rw [rowLimit, maxRows]
    omega
  simp only [if_neg hcol, hzero, hpast]
  by_cases hrow : rowNumber digits = 0
  · rw [if_pos hrow, if_pos hrow]
  by_cases hlimit : maxRows < rowNumber digits
  · rw [if_neg hrow, if_neg hrow, if_pos hlimit, if_pos hlimit]
  · have hmin : min (rowNumber digits) rowLimit = rowNumber digits := by
      rw [rowLimit]
      rw [maxRows] at hlimit
      omega
    rw [if_neg hrow, if_neg hrow, if_neg hlimit, if_neg hlimit, hmin, Word.sub?,
      if_pos (Nat.one_le_iff_ne_zero.mpr hrow)]
    rfl

end

/-- Without the shape of an address there are no letters, or no digits behind them up to the end. -/
theorem parse_of_not_hasShape (h : ¬HasShape (trimChars s.toList)) :
    ∃ fault, fault ≠ .rowZero ∧ parse s = .error (.invalidAddress (Text.trim s) fault) ∧
      parse? s = some (parse s) := by
  have hform : hasForm (Text.trim s) = false := by
    rw [← Bool.not_eq_true, hasForm_iff, toList_trim]
    exact h
  unfold parse parse?
  by_cases hletters : (splitParts (Text.trim s).toList).2.1.isEmpty = true
  · refine ⟨.missingLetters, by decide, ?_⟩
    simp only [if_pos hletters, and_self]
  · have hrow : ((splitParts (Text.trim s).toList).2.2.2.isEmpty ||
        !(splitParts (Text.trim s).toList).2.2.2.all Char.isDigit) = true := by
      by_contra hrow
      simp only [Bool.or_eq_true, Bool.not_eq_true', not_or, Bool.not_eq_true] at hletters hrow
      simp [hasForm, hletters, hrow] at hform
    refine ⟨.malformedRow, by decide, ?_⟩
    simp only [if_neg hletters, if_pos hrow, and_self]

theorem parse?_eq (s : String) : parse? s = some (parse s) := by
  by_cases h : HasShape (trimChars s.toList)
  · obtain ⟨colAbsolute, letters, rowAbsolute, digits, h, hs⟩ := h
    exact parse?_of_parts h hs
  · obtain ⟨-, -, -, hwords⟩ := parse_of_not_hasShape h
    exact hwords

theorem hasShape_iff : HasShape (trimChars s.toList) ↔
    (∃ a, parse s = .ok a) ∨ ∃ e, IsOutside e ∧ parse s = .error e := by
  constructor
  · rintro ⟨colAbsolute, letters, rowAbsolute, digits, h, hs⟩
    rw [parse_of_parts h hs]
    split_ifs
    · exact .inr ⟨_, .column _, rfl⟩
    · exact .inr ⟨_, .rowZero _, rfl⟩
    · exact .inr ⟨_, .row _, rfl⟩
    · exact .inl ⟨_, rfl⟩
  · intro h
    by_contra hnot
    obtain ⟨fault, hfault, herror, -⟩ := parse_of_not_hasShape hnot
    rw [herror] at h
    obtain ⟨a, ha⟩ | ⟨e, he, heq⟩ := h
    · cases ha
    · cases heq
      cases he
      exact hfault rfl

theorem parse_eq_ok_iff :
    parse s = .ok a ↔ Denotes (trimChars s.toList) a ∧ a.isValid = true := by
  constructor
  · intro ha
    obtain ⟨colAbsolute, letters, rowAbsolute, digits, h, hs⟩ := hasShape_iff.mpr (.inl ⟨a, ha⟩)
    have hvalid := isValid_of_parse ha
    rw [parse_of_parts h hs] at ha
    split_ifs at ha with _ hrow
    obtain rfl := Except.ok.inj ha
    have hcol : columnNumber letters = columnNumber letters - 1 + 1 :=
      (Nat.sub_add_cancel (columnNumber_pos h.letters_ne)).symm
    have hrow : rowNumber digits = rowNumber digits - 1 + 1 :=
      (Nat.sub_add_cancel (Nat.pos_of_ne_zero hrow)).symm
    have hdenotes := Denotes.parts
      (a := ⟨rowNumber digits - 1, columnNumber letters - 1, rowAbsolute, colAbsolute⟩) h hcol hrow
    rw [hs]
    exact ⟨hdenotes, hvalid⟩
  · rintro ⟨hdenotes, hvalid⟩
    generalize hs : trimChars s.toList = cs at hdenotes
    obtain ⟨h, hcol, hrow⟩ := hdenotes
    rw [isValid_iff] at hvalid
    rw [parse_of_parts h hs, hcol, hrow, if_neg (by omega), if_neg (by omega), if_neg (by omega)]
    rfl

/-! ### Normalized texts -/

theorem map_toUpper_dollar (b : Bool) : (dollar b).map Char.toUpper = dollar b := by
  cases b <;> rfl

theorem toUpper_of_isDigit {c : Char} (h : c.isDigit = true) : c.toUpper = c := by
  have hc := isDigit_iff.mp h
  revert h
  exact char_of_forall (n := 58) (P := fun c => c.isDigit = true → c.toUpper = c) c (by omega)
    (by decide)

theorem isDigit_toUpper_of_isAlpha {c : Char} (h : c.isAlpha = true) : c.toUpper.isDigit = false := by
  have hc := isAlpha_iff.mp h
  revert h
  exact char_of_forall (n := 123) (P := fun c => c.isAlpha = true → c.toUpper.isDigit = false) c
    (by omega) (by decide)

theorem normalized_of_parts (h : AreParts letters digits) (colAbsolute rowAbsolute : Bool) :
    normalized (dollar colAbsolute ++ (letters ++ (dollar rowAbsolute ++ digits))) =
      dollar colAbsolute ++ (letters.map Char.toUpper ++
        (dollar rowAbsolute ++ digits.dropWhile (· == '0'))) := by
  have hdigits : digits.map Char.toUpper = digits :=
    (List.map_congr_left fun c hc => toUpper_of_isDigit (h.isDigit c hc)).trans (List.map_id' digits)
  have hfront : ∀ c ∈ dollar colAbsolute ++ (letters.map Char.toUpper ++ dollar rowAbsolute),
      (!c.isDigit) = true := by
    have hdollar (b : Bool) : ∀ c ∈ dollar b, c.isDigit = false := by cases b <;> simp [dollar]
    intro c hc
    rw [List.mem_append, List.mem_append] at hc
    rw [Bool.not_eq_true']
    rcases hc with hc | hc | hc
    · exact hdollar _ c hc
    · obtain ⟨b, hb, rfl⟩ := List.mem_map.mp hc
      exact isDigit_toUpper_of_isAlpha (h.isAlpha b hb)
    · exact hdollar _ c hc
  have hstops : StopsAt (!·.isDigit) digits := fun c hc => by
    simp [h.isDigit c (List.mem_of_mem_head? hc)]
  have hsplit : (dollar colAbsolute ++ (letters ++ (dollar rowAbsolute ++ digits))).map Char.toUpper =
      (dollar colAbsolute ++ (letters.map Char.toUpper ++ dollar rowAbsolute)) ++ digits := by
    simp only [List.map_append, map_toUpper_dollar, hdigits, List.append_assoc]
  rw [normalized, hsplit, takeWhile_append_of_stopsAt hfront hstops,
    dropWhile_append_of_stopsAt hfront hstops, List.append_assoc, List.append_assoc]

theorem toList_toText_of_denotes {cs : List Char} (h : Denotes cs a) :
    a.toText.toList = normalized cs := by
  obtain ⟨h, hcol, hrow⟩ := h
  rw [normalized_of_parts h, toList_toText, ← hcol, lettersOf_columnNumber h.isAlpha, ← hrow,
    digits_rowNumber h.isDigit (by omega)]

/-- Reading and writing of addresses is exact. A text is read as an address if and only if it says so
and the address lies inside a sheet; the text of such an address is read as it, and is the text that
was read in normalized form. A text without blanks around it has the form of an address if and only if
it is read or fails for a limit of the sheet. No number leaves the words that it is computed in. -/
theorem parse_exact (s : String) :
    (∀ a, parse s = .ok a ↔ Denotes (trimChars s.toList) a ∧ a.isValid = true) ∧
    (∀ a : Address, a.isValid = true → parse a.toText = .ok a) ∧
    (∀ a, parse s = .ok a → a.toText.toList = normalized (trimChars s.toList)) ∧
    (Text.trim s = s →
      (hasForm s = true ↔ (∃ a, parse s = .ok a) ∨ ∃ e, IsOutside e ∧ parse s = .error e)) ∧
    parse? s = some (parse s) := by
  refine ⟨fun a => parse_eq_ok_iff, fun a => parse_toText, fun a ha => ?_, fun htrim => ?_, parse?_eq s⟩
  · exact toList_toText_of_denotes (parse_eq_ok_iff.mp ha).1
  · have hchars : trimChars s.toList = s.toList := by rw [← toList_trim, htrim]
    rw [hasForm_iff, ← hchars, hasShape_iff]

end Spreadsheet.Address
