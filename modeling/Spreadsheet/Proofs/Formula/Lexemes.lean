import Spreadsheet.Proofs.Formula.WellFormed

/-! The parts that tokens are made of: the parts of a number, each with what it asks of the text that
follows it, and the characters of names and of error literals. -/

namespace Spreadsheet.Formula

open Text

/-- A mantissa, in front of a text that does not go on with it. -/
inductive Mantissa : List Char → List Char → Prop
  | whole {whole rest : List Char} (hwhole : ∀ c ∈ whole, c.isDigit = true)
    (hrest : StopsAt Char.isDigit rest) (hpoint : StopsAt (· == '.') rest) : Mantissa whole rest
  | point {whole fraction rest : List Char} (hwhole : ∀ c ∈ whole, c.isDigit = true)
    (hfraction : ∀ c ∈ fraction, c.isDigit = true) (hrest : StopsAt Char.isDigit rest) :
    Mantissa (whole ++ '.' :: fraction) rest

def isMark (c : Char) : Bool := c == 'e' || c == 'E'

/-- A sign, perhaps empty, in front of a text. -/
inductive Signed : List Char → List Char → Prop
  | unsigned {rest : List Char} (h : StopsAt (fun c => c == '+' || c == '-') rest) : Signed [] rest
  | sign {c : Char} (h : c = '+' ∨ c = '-') (rest : List Char) : Signed [c] rest

/-- An exponent, perhaps empty, in front of a text that does not go on with it. -/
inductive Exponent : List Char → List Char → Prop
  | none {rest : List Char} (h : StopsAt isMark rest) : Exponent [] rest
  | digits {mark : Char} {sign digits rest : List Char} (hmark : isMark mark = true)
    (hsign : Signed sign (digits ++ rest)) (hne : digits ≠ [])
    (hdigits : ∀ c ∈ digits, c.isDigit = true) (hrest : StopsAt Char.isDigit rest) :
    Exponent (mark :: (sign ++ digits)) rest

theorem isNameChar_of_first {c : Char} (h : c.isAlpha = true ∨ c = '_' ∨ c = '$') :
    isNameChar c = true := by
  rcases h with h | rfl | rfl
  · simp [isNameChar, Char.isAlphanum, h]
  · rfl
  · rfl

theorem isBlank_of_isNameChar {c : Char} (h : isNameChar c = true) : isBlank c = false := by
  simp only [isNameChar, Bool.or_eq_true, beq_iff_eq] at h
  rcases h with ((h | rfl) | rfl) | rfl
  · exact isBlank_of_isAlphanum h
  all_goals rfl

theorem isBlank_of_isErrorChar {c : Char} (h : isErrorChar c = true) : isBlank c = false := by
  simp only [isErrorChar, Bool.or_eq_true, beq_iff_eq] at h
  rcases h with ((h | rfl) | rfl) | rfl
  · exact isBlank_of_isAlphanum h
  all_goals rfl

theorem stopsAt_dropWhile {p : Char → Bool} (cs : List Char) : StopsAt p (cs.dropWhile p) := by
  intro c hc
  have hhead := List.head?_dropWhile_not p cs
  rw [Option.mem_def.mp hc] at hhead
  simpa using hhead

/-- Every text is the characters with a property in front of it and what they stop at. -/
theorem exists_span (p : Char → Bool) (cs : List Char) :
    ∃ word rest, cs = word ++ rest ∧ (∀ c ∈ word, p c = true) ∧ StopsAt p rest :=
  ⟨cs.takeWhile p, cs.dropWhile p, List.takeWhile_append_dropWhile.symm,
    List.all_eq_true.mp List.all_takeWhile, stopsAt_dropWhile cs⟩

theorem exists_cons_of_not_stopsAt {p : Char → Bool} {cs : List Char} (h : ¬ StopsAt p cs) :
    ∃ c rest, cs = c :: rest ∧ p c = true := by
  cases cs with
  | nil => exact absurd stopsAt_nil h
  | cons c rest => exact ⟨c, rest, rfl, by simpa [StopsAt] using h⟩

theorem Mantissa.stopsAt {m rest : List Char} (h : Mantissa m rest) :
    StopsAt Char.isDigit rest := by
  cases h <;> assumption

theorem Mantissa.eq {m rest : List Char} (h : Mantissa m rest) : mantissaPart (m ++ rest) = m := by
  cases h with
  | whole hwhole hrest hpoint =>
    have hhead : rest.head? ≠ some '.' := hpoint.head?_ne rfl
    simp only [mantissaPart, takeWhile_append_of_stopsAt hwhole hrest, List.drop_left]
    simp [hhead]
  | @point whole fraction _ hwhole hfraction hrest =>
    have htake : (whole ++ '.' :: (fraction ++ rest)).takeWhile Char.isDigit = whole :=
      takeWhile_append_of_stopsAt hwhole (stopsAt_cons rfl)
    rw [List.append_assoc, List.cons_append]
    simp only [mantissaPart, htake, List.drop_left]
    simp [takeWhile_append_of_stopsAt hfraction hrest]

/-- Every text has a mantissa in front, if only an empty one. -/
theorem exists_mantissa (cs : List Char) : ∃ m rest, cs = m ++ rest ∧ Mantissa m rest := by
  obtain ⟨whole, rest, rfl, hwhole, hrest⟩ := exists_span Char.isDigit cs
  by_cases hpoint : StopsAt (· == '.') rest
  · exact ⟨whole, rest, rfl, .whole hwhole hrest hpoint⟩
  · obtain ⟨c, tail, rfl, hc⟩ := exists_cons_of_not_stopsAt hpoint
    obtain rfl : c = '.' := by simpa using hc
    obtain ⟨fraction, last, rfl, hfraction, hlast⟩ := exists_span Char.isDigit tail
    exact ⟨whole ++ '.' :: fraction, last, by simp, .point hwhole hfraction hlast⟩

theorem exists_mantissa_cons {c : Char} (hc : c.isDigit = true ∨ c = '.') (cs : List Char) :
    ∃ ds rest, cs = ds ++ rest ∧ Mantissa (c :: ds) rest := by
  obtain ⟨mantissa, rest, hsplit, hmantissa⟩ := exists_mantissa (c :: cs)
  obtain ⟨ds, hds⟩ : ∃ ds, mantissaPart (c :: cs) = c :: ds := mantissaPart_cons hc
  obtain rfl : mantissa = c :: ds := by rw [← hds, hsplit, hmantissa.eq]
  exact ⟨ds, rest, by simpa using hsplit, hmantissa⟩

theorem exists_signed (cs : List Char) : ∃ sign rest, cs = sign ++ rest ∧ Signed sign rest := by
  by_cases hsign : StopsAt (fun c => c == '+' || c == '-') cs
  · exact ⟨[], cs, rfl, .unsigned hsign⟩
  · obtain ⟨c, rest, rfl, hc⟩ := exists_cons_of_not_stopsAt hsign
    exact ⟨[c], rest, rfl, .sign (by simpa using hc) rest⟩

theorem exponentPart?_mark {mark : Char} {sign rest : List Char} (hmark : isMark mark = true)
    (hsign : Signed sign rest) : exponentPart? (mark :: (sign ++ rest)) =
      if (rest.takeWhile Char.isDigit).isEmpty then none
      else some (mark :: (sign ++ rest.takeWhile Char.isDigit)) := by
  rw [isMark] at hmark
  cases hsign with
  | unsigned h =>
    have hplus : rest.head? ≠ some '+' := h.head?_ne rfl
    have hminus : rest.head? ≠ some '-' := h.head?_ne rfl
    simp [exponentPart?, hmark, hplus, hminus]
  | sign h rest => rcases h with rfl | rfl <;> simp [exponentPart?, hmark]

theorem exponentPart?_of_stopsAt_mark {cs : List Char} (h : StopsAt isMark cs) :
    exponentPart? cs = some [] := by
  cases cs with
  | nil => rfl
  | cons c cs =>
    have hc := h c rfl
    rw [isMark] at hc
    simp [exponentPart?, hc]

theorem Exponent.eq {x rest : List Char} (h : Exponent x rest) :
    exponentPart? (x ++ rest) = some x := by
  cases h with
  | none h => exact exponentPart?_of_stopsAt_mark h
  | @digits mark sign digits _ hmark hsign hne hdigits hrest =>
    rw [List.cons_append, List.append_assoc, exponentPart?_mark hmark hsign,
      takeWhile_append_of_stopsAt hdigits hrest, if_neg (by simpa using hne)]

theorem exponent_of_some {cs x : List Char} (h : exponentPart? cs = some x) :
    ∃ rest, cs = x ++ rest ∧ Exponent x rest := by
  by_cases hstop : StopsAt isMark cs
  · obtain rfl : [] = x := by simpa [exponentPart?_of_stopsAt_mark hstop] using h
    exact ⟨cs, rfl, .none hstop⟩
  · obtain ⟨mark, tail, rfl, hmark⟩ := exists_cons_of_not_stopsAt hstop
    obtain ⟨sign, rest, rfl, hsign⟩ := exists_signed tail
    obtain ⟨digits, last, rfl, hdigits, hlast⟩ := exists_span Char.isDigit rest
    rw [exponentPart?_mark hmark hsign, takeWhile_append_of_stopsAt hdigits hlast] at h
    split at h
    · cases h
    · rename_i hne
      obtain rfl := Option.some.inj h
      exact ⟨last, by simp, .digits hmark hsign (by simpa using hne) hdigits hlast⟩

/-- The token of a word, given the character behind it and whether it is in front of an opening
parenthesis. -/
def wordToken (word : List Char) (next : Option Char) (isCall : Bool) : Except Fault Token :=
  let text := String.ofList word
  if next == some '!' then .error .otherSheet
  else if !isCall && sameAscii text "TRUE" then .ok (.boolean true)
  else if !isCall && sameAscii text "FALSE" then .ok (.boolean false)
  else if !isCall && Address.hasForm text then
    match Address.parse text with
    | .ok a => .ok (.cell a)
    | .error e => .error (.impossibleReference text e)
  else if word.contains '$' then .error (.badReference text)
  else .ok (.identifier text)

theorem wordLexeme_eq {c : Char} {word rest : List Char}
    (hword : ∀ d ∈ c :: word, isNameChar d = true) (hrest : StopsAt isNameChar rest) :
    wordLexeme (c :: word ++ rest) = (wordToken (c :: word) rest.head?
      ((rest.dropWhile isBlank).head? == some '(')).map fun t => (t, word.length) := by
  have htake : (c :: word ++ rest).takeWhile isNameChar = c :: word :=
    takeWhile_append_of_stopsAt hword hrest
  have hdrop : (c :: word ++ rest).drop (c :: word).length = rest := List.drop_left
  rw [List.length_cons] at hdrop
  simp only [wordLexeme, wordToken, htake, hdrop, List.length_cons, Nat.add_sub_cancel]
  split_ifs
  · rfl
  · rfl
  · rfl
  · cases Address.parse (String.ofList (c :: word)) <;> rfl
  · rfl
  · rfl

end Spreadsheet.Formula
