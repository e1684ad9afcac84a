import Spreadsheet.Formula.Printer
import Spreadsheet.Proofs.Formula.Lexemes

/-! Scanning of canonical text, token by token. What follows an operand decides whether its text is
one token: `continues` are the characters that no operand may stand in front of, and an error literal
may not stand in front of a slash either. -/

namespace Spreadsheet.Formula

open Number Text

/-- A scan that begins with the given tokens, at any positions, and goes on as `rest`. -/
inductive Begins : List Token → Scan → Scan → Prop
  | nil {rest : Scan} : Begins [] rest rest
  | cons {t : Token} {ts : List Token} {p : Nat} {s rest : Scan} (h : Begins ts s rest) :
    Begins (t :: ts) (.token t p s) rest

theorem Begins.append {ts us : List Token} {s middle rest : Scan} (h : Begins ts s middle)
    (h' : Begins us middle rest) : Begins (ts ++ us) s rest := by
  induction h with
  | nil => exact h'
  | cons _ ih => exact (ih h').cons

theorem Begins.split {ts us : List Token} {s rest : Scan} (h : Begins (ts ++ us) s rest) :
    ∃ middle, Begins ts s middle ∧ Begins us middle rest := by
  induction ts generalizing s with
  | nil => exact ⟨s, .nil, h⟩
  | cons t ts ih =>
    cases h with
    | cons h =>
      obtain ⟨middle, hfirst, hlast⟩ := ih h
      exact ⟨middle, .cons hfirst, hlast⟩

theorem Begins.exists_token {t : Token} {ts : List Token} {s rest : Scan}
    (h : Begins (t :: ts) s rest) : ∃ p middle, s = .token t p middle ∧ Begins ts middle rest := by
  cases h with
  | cons h => exact ⟨_, _, rfl, h⟩

theorem Begins.exists_singleton {t : Token} {s rest : Scan} (h : Begins [t] s rest) :
    ∃ p, s = .token t p rest := by
  obtain ⟨p, middle, rfl, hnil⟩ := h.exists_token
  cases hnil with
  | nil => exact ⟨p, rfl⟩

theorem Begins.head?_eq {t : Token} {ts : List Token} {s rest : Scan} (h : Begins ts s rest)
    (ht : ts.head? = some t) : s.head? = some t := by
  cases h with
  | nil => simp at ht
  | cons _ => exact ht

theorem Begins.clean_iff {ts : List Token} {s rest : Scan} (h : Begins ts s rest) :
    s.Clean ↔ rest.Clean := by
  induction h with
  | nil => rfl
  | cons _ ih => exact ih

theorem Begins.length_eq {ts : List Token} {s rest : Scan} (h : Begins ts s rest) :
    s.length = ts.length + rest.length := by
  induction h with
  | nil => simp
  | cons _ ih =>
    rw [Scan.length, ih, List.length_cons]
    omega

/-- A text scans as the given tokens when `after` follows it. -/
def Spells (ts : List Token) (text after : List Char) : Prop :=
  ∀ p, ∃ q, Begins ts (scanFrom 0 p (text ++ after)) (scanFrom 0 q after)

/-- A text is no sequence of tokens when `after` follows it. -/
def Faults (text after : List Char) : Prop := ∀ p, ¬ (scanFrom 0 p (text ++ after)).Clean

section

variable {ts us : List Token} {text more after : List Char}

theorem spells_nil : Spells [] [] after := fun p => ⟨p, .nil⟩

theorem Spells.append (h : Spells ts text (more ++ after)) (h' : Spells us more after) :
    Spells (ts ++ us) (text ++ more) after := by
  intro p
  obtain ⟨q, hq⟩ := h p
  obtain ⟨r, hr⟩ := h' q
  exact ⟨r, by rw [List.append_assoc]; exact hq.append hr⟩

theorem Spells.faults (h : Spells ts text (more ++ after)) (h' : Faults more after) :
    Faults (text ++ more) after := by
  intro p
  obtain ⟨q, hq⟩ := h p
  rw [List.append_assoc, hq.clean_iff]
  exact h' q

theorem Faults.append (h : Faults text (more ++ after)) : Faults (text ++ more) after := by
  intro p
  rw [List.append_assoc]
  exact h p

end

section

variable {c : Char} {text after : List Char} {t : Token}

theorem scanFrom_lexeme (hblank : isBlank c = false)
    (h : lexeme c (text ++ after) = .ok (t, text.length)) (p : Nat) :
    scanFrom 0 p (c :: (text ++ after)) = .token t p (scanFrom 0 (p + 1 + text.length) after) := by
  have hle : text.length ≤ (text ++ after).length := by simp
  have hafter := scanFrom_drop text.length (p + 1) (text ++ after)
  rw [List.drop_left, Nat.min_eq_left hle] at hafter
  rw [scanFrom, hblank, h, ← hafter]
  rfl

theorem spells_lexeme (hblank : isBlank c = false)
    (h : lexeme c (text ++ after) = .ok (t, text.length)) : Spells [t] (c :: text) after := by
  intro p
  refine ⟨p + 1 + text.length, ?_⟩
  rw [List.cons_append, scanFrom_lexeme hblank h]
  exact .cons .nil

theorem spells_symbol (h : symbol? c = some t) : Spells [t] [c] after :=
  fun p => ⟨p + 1, by rw [List.singleton_append, scanFrom_symbol h]; exact .cons .nil⟩

theorem faults_lexeme {e : Fault} (hblank : isBlank c = false)
    (h : lexeme c (text ++ after) = .error e) : Faults (c :: text) after := by
  intro p
  rw [List.cons_append, scanFrom, hblank, h]
  exact id

end

/-- The characters that may not follow an operand. -/
def continues (c : Char) : Bool :=
  isNameChar c || c == '!' || c == '?' || c == '"' || c == '(' || isBlank c

section

variable {after : List Char}

theorem stopsAt_isNameChar (h : StopsAt continues after) : StopsAt isNameChar after := by
  intro c hc
  have := h c hc
  simp_all [continues]

/-- A character as it stands between quotes. -/
def doubled (c : Char) : List Char := if c == '"' then ['"', '"'] else [c]

theorem doubled_of_ne {c : Char} (h : c ≠ '"') : doubled c = [c] := by simp [doubled, h]

theorem textBody?_doubled (cs : List Char) (h : StopsAt (· == '"') after) :
    textBody? (cs.flatMap doubled ++ '"' :: after) =
      some (cs, (cs.flatMap doubled).length + 1) := by
  induction cs with
  | nil =>
    cases after with
    | nil => rfl
    | cons c cs =>
      have hc := beq_eq_false_iff_ne.mp (h c rfl)
      rw [List.flatMap_nil, List.nil_append, textBody?]
      · rfl
      · simpa using hc
  | cons c cs ih =>
    rw [List.flatMap_cons, List.append_assoc, List.length_append]
    by_cases hc : c = '"'
    · subst hc
      simp [doubled, textBody?, ih, Nat.add_comm, Nat.add_left_comm]
    · rw [doubled_of_ne hc, List.singleton_append, textBody?, ih]
      · simp [Nat.add_comm]
      all_goals simp [hc]

theorem toList_quoted (s : String) :
    (quoted s).toList = '"' :: (s.toList.flatMap doubled ++ ['"']) := by
  rw [quoted, String.toList_ofList]
  rfl

theorem spells_text (s : String) (h : StopsAt (· == '"') after) :
    Spells [.text s] (quoted s).toList after := by
  rw [toList_quoted]
  refine spells_lexeme rfl ?_
  have hlexeme (cs : List Char) : lexeme '"' cs = textLexeme cs := rfl
  rw [hlexeme, textLexeme, List.append_assoc, List.singleton_append, textBody?_doubled _ h]
  simp

theorem mantissaPart_append {cs : List Char} (hcs : IsPositional cs)
    (h : StopsAt isNameChar after) : mantissaPart (cs ++ after) = cs := by
  have hdigit : StopsAt Char.isDigit after := fun c hc => by
    have := h c hc
    simp_all [isNameChar, Char.isAlphanum]
  have hpoint : StopsAt (· == '.') after := fun c hc => by
    have := h c hc
    simp_all [isNameChar]
  obtain ⟨whole, fraction, hwhole, _, hfraction, rfl | rfl⟩ := hcs
  · exact (Mantissa.whole hwhole hdigit hpoint).eq
  · exact (Mantissa.point hwhole hfraction hdigit).eq

theorem exponentPart?_of_stopsAt (h : StopsAt isNameChar after) :
    exponentPart? after = some [] := by
  refine exponentPart?_of_stopsAt_mark fun c hc => ?_
  rw [← Bool.not_eq_true, isMark, Bool.or_eq_true, beq_iff_eq, beq_iff_eq]
  rintro (rfl | rfl)
  · exact absurd (h 'e' hc) (by decide)
  · exact absurd (h 'E' hc) (by decide)

theorem symbol?_of_isAlphanum {c : Char} (h : c.isAlphanum = true) : symbol? c = none := by
  unfold symbol?
  split <;> first | rfl | simp [Char.isAlphanum] at h

theorem lexeme_of_isDigit {c : Char} (h : c.isDigit = true) (cs : List Char) :
    lexeme c cs = numberLexeme (c :: cs) := by
  have hne (d : Char) (hd : d.isDigit = false) : (c == d) = false := by
    rw [beq_eq_false_iff_ne]
    rintro rfl
    simp [h] at hd
  rw [lexeme, symbol?_of_isAlphanum (by simp [Char.isAlphanum, h])]
  simp [hne, h]

theorem spells_number {x : Float} (hfinite : isFinite x = true) (hpos : isNegative x = false)
    (h : StopsAt isNameChar after) : Spells [.number x] (display x).toList after := by
  have hpositional := display_positional hfinite hpos
  have hread := readDecimal?_display hfinite hpos
  obtain ⟨c, cs, hcs, hc⟩ := hpositional.exists_cons
  rw [hcs] at hpositional hread ⊢
  refine spells_lexeme (isBlank_of_isDigit hc) ?_
  rw [lexeme_of_isDigit hc, numberLexeme, ← List.cons_append, mantissaPart_append hpositional h]
  simp [exponentPart?_of_stopsAt h, hread, Option.filter, hfinite]

theorem lexeme_of_first {c : Char} (h : c.isAlpha = true ∨ c = '_' ∨ c = '$') (cs : List Char) :
    lexeme c cs = wordLexeme (c :: cs) := by
  rcases h with h | rfl | rfl
  · have hne (d : Char) (hd : d.isAlpha = false) : (c == d) = false := by
      rw [beq_eq_false_iff_ne]
      rintro rfl
      simp [h] at hd
    have hdigit : c.isDigit = false := by
      rw [← Bool.not_eq_true]
      intro hc
      simp [isAlpha_of_isDigit hc] at h
    rw [lexeme, symbol?_of_isAlphanum (by simp [Char.isAlphanum, h])]
    simp [hne, h, hdigit]
  · rfl
  · rfl

/-- What follows an operand does not change how its word is read. -/
theorem wordLexeme_append {word : List Char} (hword : ∀ c ∈ word, isNameChar c = true)
    (h : StopsAt continues after) : wordLexeme (word ++ after) = wordLexeme word := by
  have hcall : ((after.dropWhile isBlank).head? == some '(') = false := by
    have hblank : StopsAt isBlank after := fun c hc => by
      have := h c hc
      simp_all [continues]
    rw [dropWhile_of_stopsAt hblank, beq_eq_false_iff_ne]
    exact h.head?_ne rfl
  have hsheet : after.head? ≠ some '!' := h.head?_ne rfl
  have htake : word.takeWhile isNameChar = word := by
    simpa using takeWhile_append_of_stopsAt hword stopsAt_nil
  simp only [wordLexeme, takeWhile_append_of_stopsAt hword (stopsAt_isNameChar h), List.drop_left,
    hcall, htake, List.drop_length]
  simp [hsheet]

theorem spells_word {c : Char} {cs : List Char} {t : Token}
    (hfirst : c.isAlpha = true ∨ c = '_' ∨ c = '$') (hword : ∀ d ∈ c :: cs, isNameChar d = true)
    (h : StopsAt continues after) (ht : wordLexeme (c :: cs) = .ok (t, cs.length)) :
    Spells [t] (c :: cs) after := by
  refine spells_lexeme (isBlank_of_isNameChar (isNameChar_of_first hfirst)) ?_
  rw [lexeme_of_first hfirst, ← List.cons_append, wordLexeme_append hword h, ht]

theorem spells_boolean (b : Bool) (h : StopsAt continues after) :
    Spells [.boolean b] (booleanText b).toList after := by
  cases b with
  | true =>
    have htext : (booleanText true).toList = ['T', 'R', 'U', 'E'] := by simp [booleanText]
    have hword : ['T', 'R', 'U', 'E'].all isNameChar = true := by rfl
    rw [htext]
    exact spells_word (.inl rfl) (List.all_eq_true.mp hword) h (by cbv)
  | false =>
    have htext : (booleanText false).toList = ['F', 'A', 'L', 'S', 'E'] := by simp [booleanText]
    have hword : ['F', 'A', 'L', 'S', 'E'].all isNameChar = true := by rfl
    rw [htext]
    exact spells_word (.inl rfl) (List.all_eq_true.mp hword) h (by cbv)

theorem spells_address {a : Address} (ha : a.isValid = true) (h : StopsAt continues after) :
    Spells [.cell a] a.toText.toList after := by
  obtain ⟨c, cs, hcs, hc⟩ := Address.exists_toText a
  have hword : ∀ d ∈ c :: cs, isNameChar d = true := by
    intro d hd
    rcases Address.isAlphanum_or_eq_of_mem (hcs ▸ hd) with hd | rfl
    · simp [isNameChar, hd]
    · rfl
  have htake : (c :: cs).takeWhile isNameChar = c :: cs := by
    simpa using takeWhile_append_of_stopsAt hword stopsAt_nil
  rw [hcs]
  refine spells_word (hc.imp_right .inr) hword h ?_
  have ha' : String.ofList (c :: cs) = a.toText := by rw [← hcs, String.ofList_toList]
  have htrue : "TRUE".toList.all Char.isAlpha = true := by cbv
  have hfalse : "FALSE".toList.all Char.isAlpha = true := by cbv
  simp [wordLexeme, htake, List.drop_length, ha', Address.hasForm_toText,
    Address.parse_toText ha, Address.sameAscii_toText a (List.all_eq_true.mp htrue),
    Address.sameAscii_toText a (List.all_eq_true.mp hfalse)]

theorem spells_name {s : String} (hs : IsPlainName s) (h : StopsAt continues after) :
    Spells [.identifier s] s.toList after := by
  obtain ⟨c, cs, hcs, hc⟩ := hs.first
  have hword : ∀ d ∈ c :: cs, isNameChar d = true := fun d hd => (hs.chars d (hcs ▸ hd)).1
  have hdollar : '$' ∉ c :: cs := fun hd => (hs.chars '$' (hcs ▸ hd)).2 rfl
  have htake : (c :: cs).takeWhile isNameChar = c :: cs := by
    simpa using takeWhile_append_of_stopsAt hword stopsAt_nil
  rw [hcs]
  refine spells_word (hc.imp_right .inl) hword h ?_
  have hs' : String.ofList (c :: cs) = s := by rw [← hcs, String.ofList_toList]
  simp only [wordLexeme, htake, List.drop_length, hs', hs.notTrue, hs.notFalse, hs.notAddress]
  simp [hdollar]

theorem spells_function {s : String} (hs : IsName s) :
    Spells [.identifier s] s.toList ('(' :: after) := by
  obtain ⟨c, cs, hcs, hc⟩ := hs.first
  have hword : ∀ d ∈ c :: cs, isNameChar d = true := fun d hd => (hs.chars d (hcs ▸ hd)).1
  have hdollar : '$' ∉ c :: cs := fun hd => (hs.chars '$' (hcs ▸ hd)).2 rfl
  have hs' : String.ofList (c :: cs) = s := by rw [← hcs, String.ofList_toList]
  have htake : (c :: cs ++ '(' :: after).takeWhile isNameChar = c :: cs :=
    takeWhile_append_of_stopsAt hword (stopsAt_cons rfl)
  have hcall : isBlank '(' = false := rfl
  rw [hcs]
  refine spells_lexeme (isBlank_of_isNameChar (isNameChar_of_first (hc.imp_right .inl))) ?_
  rw [lexeme_of_first (hc.imp_right .inl), ← List.cons_append]
  simp only [wordLexeme, htake, List.drop_left, hs']
  simp [hcall, hdollar]

/-- The characters of an error code behind its first one, which is `#`. -/
def codeTail (kind : ErrorKind) : List Char := kind.code.toList.tail

theorem toList_code (kind : ErrorKind) : kind.code.toList = '#' :: codeTail kind := by
  cases kind <;> decide +kernel

theorem isErrorChar_of_mem_codeTail {kind : ErrorKind} {c : Char} (h : c ∈ codeTail kind) :
    isErrorChar c = true := by
  have hall : (codeTail kind).all isErrorChar = true := by cases kind <;> decide +kernel
  exact List.all_eq_true.mp hall c h

theorem spells_error (kind : ErrorKind) (h : StopsAt isErrorChar after) :
    Spells [.error kind] kind.code.toList after := by
  have hcode : ErrorKind.ofCode? (String.ofList ('#' :: codeTail kind)) = some kind := by
    cases kind <;> decide +kernel
  have hlexeme (cs : List Char) : lexeme '#' cs = errorLexeme cs := rfl
  rw [toList_code]
  refine spells_lexeme rfl ?_
  simp only [hlexeme, errorLexeme,
    takeWhile_append_of_stopsAt (fun c => isErrorChar_of_mem_codeTail) h, hcode]

/-- No error code goes on with a slash behind another one. -/
theorem ofCode?_slash (kind : ErrorKind) (cs : List Char) :
    ErrorKind.ofCode? (String.ofList ('#' :: codeTail kind ++ '/' :: cs)) = none := by
  have hstart : ∀ k : ErrorKind, (('#' :: codeTail kind ++ ['/']).map Char.toLower).isPrefixOf
      (k.code.toList.map Char.toLower) = false := by
    intro k
    cases kind <;> cases k <;> decide +kernel
  rw [ErrorKind.ofCode?, List.find?_eq_none]
  intro k _ hsame
  rw [sameAscii_iff, String.toList_ofList] at hsame
  have hsplit : ('#' :: codeTail kind ++ ['/']).map Char.toLower ++ cs.map Char.toLower =
      k.code.toList.map Char.toLower := by
    rw [hsame, ← List.map_append, List.append_assoc, List.singleton_append]
  have htrue := List.isPrefixOf_iff_prefix.mpr ⟨_, hsplit⟩
  rw [hstart k] at htrue
  cases htrue

theorem faults_error (kind : ErrorKind) : Faults kind.code.toList ('/' :: after) := by
  have hlexeme (cs : List Char) : lexeme '#' cs = errorLexeme cs := rfl
  have htake : (codeTail kind ++ '/' :: after).takeWhile isErrorChar =
      codeTail kind ++ '/' :: after.takeWhile isErrorChar := by
    rw [List.takeWhile_append_of_pos fun c => isErrorChar_of_mem_codeTail,
      List.takeWhile_cons_of_pos rfl]
  have hnone := ofCode?_slash kind (after.takeWhile isErrorChar)
  rw [List.cons_append] at hnone
  have hfault : lexeme '#' (codeTail kind ++ '/' :: after) = .error (.unknownError
      (String.ofList ('#' :: (codeTail kind ++ '/' :: after.takeWhile isErrorChar)))) := by
    simp only [hlexeme, errorLexeme, htake, hnone]
  rw [toList_code]
  exact faults_lexeme rfl hfault

end

end Spreadsheet.Formula
