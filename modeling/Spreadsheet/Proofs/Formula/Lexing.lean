import Spreadsheet.Proofs.Formula.Scanning

/-! The spellings of tokens. A token is found in a text exactly if it is spelled there and what
follows does not go on with it. -/

namespace Spreadsheet.Formula

open Number Text

/-- The character `c` and the text after it spell a token in front of `rest`. -/
inductive Lexes : (c : Char) → (text rest : List Char) → Token → Prop
  | symbol {c : Char} {rest : List Char} {t : Token} (h : symbol? c = some t) : Lexes c [] rest t
  | lessEqual (rest : List Char) : Lexes '<' ['='] rest .lessEqual
  | notEqual (rest : List Char) : Lexes '<' ['>'] rest .notEqual
  | lessThan {rest : List Char} (hequal : StopsAt (· == '=') rest)
    (hgreater : StopsAt (· == '>') rest) : Lexes '<' [] rest .lessThan
  | greaterEqual (rest : List Char) : Lexes '>' ['='] rest .greaterEqual
  | greaterThan {rest : List Char} (h : StopsAt (· == '=') rest) : Lexes '>' [] rest .greaterThan
  | text (body : List Char) {rest : List Char} (h : StopsAt (· == '"') rest) :
    Lexes '"' (body.flatMap doubled ++ ['"']) rest (.text (String.ofList body))
  | number {c : Char} {mantissa exponent rest : List Char} {x : Float}
    (hfirst : c.isDigit = true ∨ c = '.' ∧ ∃ d ∈ mantissa.head?, d.isDigit = true)
    (hmantissa : Mantissa (c :: mantissa) (exponent ++ rest)) (hexponent : Exponent exponent rest)
    (hx : (readDecimal? (c :: (mantissa ++ exponent))).filter isFinite = some x) :
    Lexes c (mantissa ++ exponent) rest (.number x)
  | error {text rest : List Char} {kind : ErrorKind} (htext : ∀ d ∈ text, isErrorChar d = true)
    (hrest : StopsAt isErrorChar rest)
    (hkind : ErrorKind.ofCode? (String.ofList ('#' :: text)) = some kind) :
    Lexes '#' text rest (.error kind)
  | word {c : Char} {text rest : List Char} {t : Token}
    (hfirst : c.isAlpha = true ∨ c = '_' ∨ c = '$') (htext : ∀ d ∈ text, isNameChar d = true)
    (hrest : StopsAt isNameChar rest)
    (ht : wordToken (c :: text) rest.head? ((rest.dropWhile isBlank).head? == some '(') = .ok t) :
    Lexes c text rest t

theorem numberLexeme_eq {c : Char} {mantissa exponent rest : List Char} {x : Float}
    (hmantissa : Mantissa (c :: mantissa) (exponent ++ rest)) (hexponent : Exponent exponent rest)
    (hx : (readDecimal? (c :: (mantissa ++ exponent))).filter isFinite = some x) :
    numberLexeme (c :: (mantissa ++ exponent ++ rest)) =
      .ok (.number x, (mantissa ++ exponent).length) := by
  have hsplit : c :: (mantissa ++ exponent ++ rest) = c :: mantissa ++ (exponent ++ rest) := by simp
  rw [numberLexeme, hsplit, hmantissa.eq, List.drop_left, hexponent.eq]
  simp only [List.cons_append, hx, List.length_cons, Nat.add_sub_cancel]

theorem lexeme_point {d : Char} (hd : d.isDigit = true) (cs : List Char) :
    lexeme '.' (d :: cs) = numberLexeme ('.' :: d :: cs) := by
  have hsymbol : symbol? '.' = none := rfl
  simp [lexeme, hsymbol, hd]

/-- A token that is spelled in front of a text is found there. -/
theorem Lexes.lexeme_eq {c : Char} {text rest : List Char} {t : Token} (h : Lexes c text rest t) :
    lexeme c (text ++ rest) = .ok (t, text.length) := by
  cases h with
  | symbol h => rw [lexeme, h]; rfl
  | lessEqual | notEqual | greaterEqual => rfl
  | lessThan hequal hgreater =>
    cases rest with
    | nil => rfl
    | cons d rest =>
      have hd : d ≠ '=' := by simpa using hequal d rfl
      have hd' : d ≠ '>' := by simpa using hgreater d rfl
      have hlexeme (cs : List Char) : lexeme '<' cs = .ok (lessLexeme cs) := rfl
      simp [hlexeme, lessLexeme, hd, hd']
  | greaterThan h =>
    cases rest with
    | nil => rfl
    | cons d rest =>
      have hd : d ≠ '=' := by simpa using h d rfl
      have hlexeme (cs : List Char) : lexeme '>' cs = .ok (greaterLexeme cs) := rfl
      simp [hlexeme, greaterLexeme, hd]
  | text body h =>
    have hlexeme (cs : List Char) : lexeme '"' cs = textLexeme cs := rfl
    rw [hlexeme, textLexeme, List.append_assoc, List.singleton_append, textBody?_doubled _ h]
    simp
  | @number _ mantissa exponent _ x hfirst hmantissa hexponent hx =>
    rw [← numberLexeme_eq hmantissa hexponent hx]
    rcases hfirst with hdigit | ⟨rfl, d, hd, hdigit⟩
    · exact lexeme_of_isDigit hdigit _
    · obtain ⟨ds, rfl⟩ := List.head?_eq_some_iff.mp hd
      exact lexeme_point hdigit _
  | error htext hrest hkind =>
    have hlexeme (cs : List Char) : lexeme '#' cs = errorLexeme cs := rfl
    simp only [hlexeme, errorLexeme, takeWhile_append_of_stopsAt htext hrest, hkind]
  | word hfirst htext hrest ht =>
    have hall : ∀ d ∈ c :: text, isNameChar d = true :=
      List.forall_mem_cons.mpr ⟨isNameChar_of_first hfirst, htext⟩
    rw [lexeme_of_first hfirst, ← List.cons_append, wordLexeme_eq hall hrest, ht]
    rfl

theorem textBody?_eq_some {cs body : List Char} {n : Nat} (h : textBody? cs = some (body, n)) :
    ∃ rest, cs = body.flatMap doubled ++ '"' :: rest ∧ n = (body.flatMap doubled).length + 1 ∧
      StopsAt (· == '"') rest := by
  fun_induction textBody? cs generalizing body n with
  | case1 => cases h
  | case2 cs ih =>
    obtain ⟨⟨b, m⟩, hb, heq⟩ := Option.map_eq_some_iff.mp h
    obtain ⟨rfl, rfl⟩ := Prod.mk.inj heq
    obtain ⟨rest, rfl, rfl, hrest⟩ := ih hb
    exact ⟨rest, by simp [doubled], by simp [doubled], hrest⟩
  | case3 cs hcs =>
    obtain ⟨rfl, rfl⟩ := Prod.mk.inj (Option.some.inj h)
    refine ⟨cs, rfl, rfl, fun d hd => beq_false_of_ne ?_⟩
    rintro rfl
    obtain ⟨rest, rfl⟩ := List.head?_eq_some_iff.mp hd
    exact hcs rest rfl
  | case4 c cs hfirst hquote ih =>
    obtain ⟨⟨b, m⟩, hb, heq⟩ := Option.map_eq_some_iff.mp h
    obtain ⟨rfl, rfl⟩ := Prod.mk.inj heq
    obtain ⟨rest, rfl, rfl, hrest⟩ := ih hb
    have hc : c ≠ '"' := by
      rintro rfl
      exact hquote rfl
    exact ⟨rest, by simp [doubled_of_ne hc], by simp [doubled_of_ne hc], hrest⟩

section

variable {c : Char} {cs : List Char} {t : Token} {n : Nat}

theorem exists_lexes_less (h : lessLexeme cs = (t, n)) :
    ∃ text rest, cs = text ++ rest ∧ n = text.length ∧ Lexes '<' text rest t := by
  rw [lessLexeme] at h
  split at h <;> cases h
  · obtain ⟨rest, rfl⟩ := List.head?_eq_some_iff.mp ‹_›
    exact ⟨['='], rest, rfl, rfl, .lessEqual rest⟩
  · obtain ⟨rest, rfl⟩ := List.head?_eq_some_iff.mp ‹_›
    exact ⟨['>'], rest, rfl, rfl, .notEqual rest⟩
  · rename_i hequal hgreater
    refine ⟨[], cs, rfl, rfl, .lessThan (fun d hd => ?_) fun d hd => ?_⟩
    · exact beq_false_of_ne fun hd' => hequal (hd' ▸ hd)
    · exact beq_false_of_ne fun hd' => hgreater (hd' ▸ hd)

theorem exists_lexes_greater (h : greaterLexeme cs = (t, n)) :
    ∃ text rest, cs = text ++ rest ∧ n = text.length ∧ Lexes '>' text rest t := by
  rw [greaterLexeme] at h
  split at h <;> cases h
  · obtain ⟨rest, rfl⟩ := List.head?_eq_some_iff.mp ‹_›
    exact ⟨['='], rest, rfl, rfl, .greaterEqual rest⟩
  · rename_i hequal
    refine ⟨[], cs, rfl, rfl, .greaterThan fun d hd => ?_⟩
    exact beq_false_of_ne fun hd' => hequal (hd' ▸ hd)

theorem exists_lexes_text (h : textLexeme cs = .ok (t, n)) :
    ∃ text rest, cs = text ++ rest ∧ n = text.length ∧ Lexes '"' text rest t := by
  rw [textLexeme] at h
  split at h
  · rename_i body m hbody
    cases h
    obtain ⟨rest, rfl, rfl, hrest⟩ := textBody?_eq_some hbody
    exact ⟨_, rest, by simp, by simp, .text body hrest⟩
  · cases h

theorem exists_lexes_number (hc : c.isDigit = true ∨ c = '.' ∧ ∃ d ∈ cs.head?, d.isDigit = true)
    (h : numberLexeme (c :: cs) = .ok (t, n)) :
    ∃ text rest, cs = text ++ rest ∧ n = text.length ∧ Lexes c text rest t := by
  obtain ⟨ds, tail, rfl, hmantissa⟩ := exists_mantissa_cons (hc.imp_right And.left) cs
  rw [← List.cons_append, numberLexeme, hmantissa.eq, List.drop_left] at h
  simp only at h
  split at h
  · cases h
  rename_i exponent hpart
  obtain ⟨rest, rfl, hexponent⟩ := exponent_of_some hpart
  split at h
  · rename_i x hx
    cases h
    refine ⟨ds ++ exponent, rest, by simp, by simp, .number ?_ hmantissa hexponent hx⟩
    refine hc.imp_right fun hpoint => hpoint.imp_right fun hdigit => ?_
    obtain ⟨d, hd, hdigit⟩ := hdigit
    refine ⟨d, ?_, hdigit⟩
    cases ds with
    | nil => exact absurd hdigit (by simp [hmantissa.stopsAt d hd])
    | cons e ds => exact hd
  · cases h

theorem exists_lexes_error (h : errorLexeme cs = .ok (t, n)) :
    ∃ text rest, cs = text ++ rest ∧ n = text.length ∧ Lexes '#' text rest t := by
  obtain ⟨text, rest, rfl, htext, hrest⟩ := exists_span isErrorChar cs
  simp only [errorLexeme, takeWhile_append_of_stopsAt htext hrest] at h
  split at h
  · rename_i kind hkind
    cases h
    exact ⟨text, rest, rfl, rfl, .error htext hrest hkind⟩
  · cases h

theorem exists_lexes_word (hc : c.isAlpha = true ∨ c = '_' ∨ c = '$')
    (h : wordLexeme (c :: cs) = .ok (t, n)) :
    ∃ text rest, cs = text ++ rest ∧ n = text.length ∧ Lexes c text rest t := by
  obtain ⟨text, rest, rfl, htext, hrest⟩ := exists_span isNameChar cs
  have hall : ∀ d ∈ c :: text, isNameChar d = true :=
    List.forall_mem_cons.mpr ⟨isNameChar_of_first hc, htext⟩
  rw [← List.cons_append, wordLexeme_eq hall hrest] at h
  cases hword : wordToken (c :: text) rest.head? ((rest.dropWhile isBlank).head? == some '(') with
  | error e => simp [hword, Except.map] at h
  | ok u =>
    rw [hword] at h
    cases h
    exact ⟨text, rest, rfl, rfl, .word hc htext hrest hword⟩

/-- A token that is found in a text is spelled there. -/
theorem exists_lexes (h : lexeme c cs = .ok (t, n)) :
    ∃ text rest, cs = text ++ rest ∧ n = text.length ∧ Lexes c text rest t := by
  rw [lexeme] at h
  split at h
  · rename_i u hsymbol
    cases h
    exact ⟨[], cs, rfl, rfl, .symbol hsymbol⟩
  split at h
  · rename_i hless
    obtain rfl : c = '<' := by simpa using hless
    exact exists_lexes_less (Except.ok.inj h)
  split at h
  · rename_i hgreater
    obtain rfl : c = '>' := by simpa using hgreater
    exact exists_lexes_greater (Except.ok.inj h)
  split at h
  · rename_i hquote
    obtain rfl : c = '"' := by simpa using hquote
    exact exists_lexes_text h
  split at h
  · rename_i hnumber
    refine exists_lexes_number ?_ h
    simpa [Option.any_eq_true] using hnumber
  split at h
  · rename_i herror
    obtain rfl : c = '#' := by simpa using herror
    exact exists_lexes_error h
  split at h
  · rename_i hword
    exact exists_lexes_word (by simpa [or_assoc] using hword) h
  · cases h

end

end Spreadsheet.Formula
