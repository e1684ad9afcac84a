import Spreadsheet.Proofs.Formula.Lexing
import Spreadsheet.Proofs.Formula.Positions
import Spreadsheet.Proofs.Formula.Soundness

/-! Blanks between tokens. A token stays the same when blanks are put behind it, since no token goes
on with a blank and a name in front of a parenthesis is recognised across blanks. -/

namespace Spreadsheet.Formula

open Number Text

/-- The text behind a token, and the same text with blanks put in: it begins with the same character
or a blank, and behind blanks with the same character. -/
structure Loosens (rest rest' : List Char) : Prop where
  head : ∀ d ∈ rest'.head?, rest.head? = some d ∨ isBlank d = true
  next : (rest'.dropWhile isBlank).head? = (rest.dropWhile isBlank).head?

section

variable {rest rest' : List Char}

theorem Loosens.stopsAt {p : Char → Bool} (h : Loosens rest rest')
    (hp : ∀ d, p d = true → isBlank d = false) (hrest : StopsAt p rest) : StopsAt p rest' := by
  intro d hd
  rw [← Bool.not_eq_true]
  intro hpd
  rcases h.head d hd with hd | hd
  · simp [hrest d hd] at hpd
  · simp [hp d hpd] at hd

theorem Loosens.append (h : Loosens rest rest') (text : List Char) :
    Loosens (text ++ rest) (text ++ rest') := by
  refine ⟨fun d hd => ?_, ?_⟩
  · cases text with
    | nil => exact h.head d hd
    | cons c text => exact .inl hd
  · rw [List.dropWhile_append, List.dropWhile_append]
    split
    · exact h.next
    · rename_i hne
      rw [List.isEmpty_iff] at hne
      rw [List.head?_append_of_ne_nil _ hne, List.head?_append_of_ne_nil _ hne]

theorem isBlank_of_beq {c : Char} (hc : isBlank c = false) (d : Char) (h : (d == c) = true) :
    isBlank d = false := by
  rwa [beq_iff_eq.mp h]

theorem isBlank_of_isMark {d : Char} (h : isMark d = true) : isBlank d = false := by
  simp only [isMark, Bool.or_eq_true, beq_iff_eq] at h
  rcases h with rfl | rfl <;> rfl

theorem Mantissa.loosen {m : List Char} (h : Mantissa m rest) (hr : Loosens rest rest') :
    Mantissa m rest' := by
  have hdigit (hrest : StopsAt Char.isDigit rest) : StopsAt Char.isDigit rest' :=
    hr.stopsAt (fun _ => isBlank_of_isDigit) hrest
  cases h with
  | whole hwhole hrest hpoint =>
    exact .whole hwhole (hdigit hrest) (hr.stopsAt (isBlank_of_beq rfl) hpoint)
  | point hwhole hfraction hrest => exact .point hwhole hfraction (hdigit hrest)

theorem Exponent.loosen {x : List Char} (h : Exponent x rest) (hr : Loosens rest rest') :
    Exponent x rest' := by
  cases h with
  | none h => exact .none (hr.stopsAt (fun _ => isBlank_of_isMark) h)
  | digits hmark hsign hne hdigits hrest =>
    refine .digits hmark ?_ hne hdigits (hr.stopsAt (fun _ => isBlank_of_isDigit) hrest)
    cases hsign with
    | unsigned h =>
      refine .unsigned ((hr.append _).stopsAt (fun d hd => ?_) h)
      simp only [Bool.or_eq_true, beq_iff_eq] at hd
      rcases hd with rfl | rfl <;> rfl
    | sign h => exact .sign h _

/-- Only an exclamation mark behind a word matters. -/
theorem wordToken_congr {word : List Char} {next next' : Option Char} {isCall : Bool}
    (h : next ≠ some '!') (h' : next' ≠ some '!') :
    wordToken word next isCall = wordToken word next' isCall := by
  simp only [wordToken, beq_eq_false_iff_ne.mpr h, beq_eq_false_iff_ne.mpr h']

theorem next_ne_of_wordToken {word : List Char} {next : Option Char} {isCall : Bool} {t : Token}
    (h : wordToken word next isCall = .ok t) : next ≠ some '!' := by
  rintro rfl
  cases h

/-- Blanks put behind a token leave it as it is. -/
theorem Lexes.loosen {c : Char} {text : List Char} {t : Token} (h : Lexes c text rest t)
    (hr : Loosens rest rest') : Lexes c text rest' t := by
  cases h with
  | symbol h => exact .symbol h
  | lessEqual => exact .lessEqual rest'
  | notEqual => exact .notEqual rest'
  | lessThan hequal hgreater =>
    exact .lessThan (hr.stopsAt (isBlank_of_beq rfl) hequal)
      (hr.stopsAt (isBlank_of_beq rfl) hgreater)
  | greaterEqual => exact .greaterEqual rest'
  | greaterThan h => exact .greaterThan (hr.stopsAt (isBlank_of_beq rfl) h)
  | text body h => exact .text body (hr.stopsAt (isBlank_of_beq rfl) h)
  | number hfirst hmantissa hexponent hx =>
    exact .number hfirst (hmantissa.loosen (hr.append _)) (hexponent.loosen hr) hx
  | error htext hrest hkind =>
    exact .error htext (hr.stopsAt (fun _ => isBlank_of_isErrorChar) hrest) hkind
  | word hfirst htext hrest ht =>
    have hnext := next_ne_of_wordToken ht
    have hnext' : rest'.head? ≠ some '!' := fun h =>
      (hr.head '!' h).elim hnext (by decide)
    refine .word hfirst htext (hr.stopsAt (fun _ => isBlank_of_isNameChar) hrest) ?_
    rwa [hr.next, wordToken_congr hnext' hnext]

theorem Mantissa.isBlank {m : List Char} (h : Mantissa m rest) : ∀ d ∈ m, isBlank d = false := by
  cases h with
  | whole hwhole => exact fun d hd => isBlank_of_isDigit (hwhole d hd)
  | point hwhole hfraction =>
    rw [List.forall_mem_append, List.forall_mem_cons]
    exact ⟨fun d hd => isBlank_of_isDigit (hwhole d hd), rfl,
      fun d hd => isBlank_of_isDigit (hfraction d hd)⟩

theorem Exponent.isBlank {x : List Char} (h : Exponent x rest) : ∀ d ∈ x, isBlank d = false := by
  cases h with
  | none => simp
  | @digits _ sign _ _ hmark hsign hne hdigits =>
    have hblank : ∀ d ∈ sign, Text.isBlank d = false := by
      cases hsign with
      | unsigned => simp
      | sign h =>
        rw [List.forall_mem_singleton]
        rcases h with rfl | rfl <;> rfl
    rw [List.forall_mem_cons, List.forall_mem_append]
    exact ⟨isBlank_of_isMark hmark, hblank, fun d hd => isBlank_of_isDigit (hdigits d hd)⟩

/-- No token ends with a blank. -/
theorem Lexes.stopsAt_reverse {c : Char} {text : List Char} {t : Token}
    (h : Lexes c text rest t) : StopsAt isBlank text.reverse := by
  cases h with
  | symbol | lessThan | greaterThan => exact stopsAt_nil
  | lessEqual | notEqual | greaterEqual => exact stopsAt_cons rfl
  | text body =>
    rw [List.reverse_append]
    exact stopsAt_cons rfl
  | number _ hmantissa hexponent =>
    refine stopsAt_of_forall fun d hd => ?_
    rw [List.mem_reverse, List.mem_append] at hd
    rcases hd with hd | hd
    · exact hmantissa.isBlank d (List.mem_cons_of_mem _ hd)
    · exact hexponent.isBlank d hd
  | error htext =>
    exact stopsAt_of_forall fun d hd => isBlank_of_isErrorChar (htext d (List.mem_reverse.mp hd))
  | word _ htext =>
    exact stopsAt_of_forall fun d hd => isBlank_of_isNameChar (htext d (List.mem_reverse.mp hd))

end

/-- A text that is a sequence of tokens, and the same text with blanks put in between two tokens, in
front of the first one or behind the last one. -/
inductive Respaced : List Char → List Char → Prop
  | finish : Respaced [] []
  | blank {b : Char} {cs cs' : List Char} (hb : isBlank b = true) (h : Respaced cs cs') :
    Respaced (b :: cs) (b :: cs')
  | inserted {b : Char} {cs cs' : List Char} (hb : isBlank b = true) (h : Respaced cs cs') :
    Respaced cs (b :: cs')
  | token {c : Char} {cs cs' : List Char} {t : Token} {n : Nat} (hc : isBlank c = false)
    (ht : lexeme c cs = .ok (t, n)) (h : Respaced (cs.drop n) cs') :
    Respaced (c :: cs) (c :: (cs.take n ++ cs'))

theorem Respaced.loosens {cs cs' : List Char} (h : Respaced cs cs') : Loosens cs cs' := by
  induction h with
  | finish => exact ⟨fun d hd => .inl hd, rfl⟩
  | blank hb _ ih =>
    refine ⟨fun d hd => .inl hd, ?_⟩
    rw [List.dropWhile_cons_of_pos hb, List.dropWhile_cons_of_pos hb]
    exact ih.next
  | inserted hb _ ih =>
    refine ⟨fun d hd => .inr ?_, ?_⟩
    · obtain rfl := Option.some.inj hd
      exact hb
    · rw [List.dropWhile_cons_of_pos hb]
      exact ih.next
  | token hc =>
    have hblank : ¬ isBlank _ = true := Bool.not_eq_true _ ▸ hc
    refine ⟨fun d hd => .inl hd, ?_⟩
    rw [List.dropWhile_cons_of_neg hblank, List.dropWhile_cons_of_neg hblank]
    rfl

/-- Scans of the same tokens, wherever these stand. -/
abbrev Scan.SameTokens : Scan → Scan → Prop := Scan.Alike fun _ _ => True

theorem scanFrom_blank {b : Char} (hb : isBlank b = true) (p : Nat) (cs : List Char) :
    scanFrom 0 p (b :: cs) = scanFrom 0 (p + 1) cs := by rw [scanFrom, if_pos hb]

/-- A text with blanks put in scans as the same tokens. -/
theorem Respaced.sameTokens {cs cs' : List Char} (h : Respaced cs cs') (p q : Nat) :
    (scanFrom 0 p cs).SameTokens (scanFrom 0 q cs') := by
  induction h generalizing p q with
  | finish => exact .finish trivial
  | blank hb _ ih =>
    rw [scanFrom_blank hb, scanFrom_blank hb]
    exact ih _ _
  | inserted hb _ ih =>
    rw [scanFrom_blank hb]
    exact ih _ _
  | @token c cs cs' t n hc ht h ih =>
    obtain ⟨text, rest, rfl, rfl, hlexes⟩ := exists_lexes ht
    rw [List.drop_left] at h ih
    rw [List.take_left, scanFrom_lexeme hc ht,
      scanFrom_lexeme hc (hlexes.loosen h.loosens).lexeme_eq]
    exact .token trivial t (ih _ _)

/-- A text that scans to its end consists of blanks and tokens. -/
theorem clean_induction {P : List Char → Prop} (nil : P [])
    (blank : ∀ b cs, isBlank b = true → P cs → P (b :: cs))
    (token : ∀ c text rest t, isBlank c = false → Lexes c text rest t → P rest →
      P (c :: (text ++ rest)))
    {cs : List Char} {p : Nat} (h : (scanFrom 0 p cs).Clean) : P cs := by
  induction hn : cs.length using Nat.strongRecOn generalizing cs p with
  | ind n ih =>
    cases cs with
    | nil => exact nil
    | cons c cs =>
      by_cases hc : isBlank c = true
      · rw [scanFrom_blank hc] at h
        exact blank c cs hc (ih cs.length (by simp [← hn]) h rfl)
      rw [Bool.not_eq_true] at hc
      cases hlexeme : lexeme c cs with
      | error e =>
        rw [scanFrom, hc, hlexeme] at h
        exact h.elim
      | ok l =>
        obtain ⟨text, rest, rfl, hl, hlexes⟩ := exists_lexes hlexeme
        rw [scanFrom_lexeme hc hlexes.lexeme_eq] at h
        exact token c text rest l.1 hc hlexes (ih rest.length (by simp [← hn]) h rfl)

/-- Blanks may be put behind a text that scans to its end. -/
theorem respaced_append_blanks {cs blanks : List Char} {p : Nat} (h : (scanFrom 0 p cs).Clean)
    (hblanks : ∀ b ∈ blanks, isBlank b = true) : Respaced cs (cs ++ blanks) := by
  refine clean_induction (P := fun cs => Respaced cs (cs ++ blanks)) ?_ ?_ ?_ h
  · induction blanks with
    | nil => exact .finish
    | cons b blanks ih =>
      rw [List.forall_mem_cons] at hblanks
      exact .inserted hblanks.1 (ih hblanks.2)
  · exact fun b cs hb hcs => .blank hb hcs
  · intro c text rest t hc hlexes hrest
    have htoken : Respaced (c :: (text ++ rest))
        (c :: ((text ++ rest).take text.length ++ (rest ++ blanks))) :=
      .token hc hlexes.lexeme_eq (by rwa [List.drop_left])
    rwa [List.take_left, ← List.append_assoc] at htoken

theorem loosens_drop_blanks {cs blanks : List Char} (hblanks : ∀ b ∈ blanks, isBlank b = true) :
    Loosens (cs ++ blanks) cs := by
  refine ⟨fun d hd => .inl ?_, ?_⟩
  · obtain ⟨ds, rfl⟩ := List.head?_eq_some_iff.mp hd
    rfl
  · rw [List.dropWhile_append]
    split
    · rename_i hempty
      rw [List.isEmpty_iff.mp hempty, List.dropWhile_eq_nil_iff.mpr hblanks]
    · rename_i hne
      rw [List.head?_append_of_ne_nil _ (by simpa using hne)]

/-- A token that is found in front of blanks ends before them. -/
theorem Lexes.exists_of_append_blanks {c : Char} {text rest cs blanks : List Char} {t : Token}
    (h : Lexes c text rest t) (hblanks : ∀ b ∈ blanks, isBlank b = true)
    (hsplit : text ++ rest = cs ++ blanks) : ∃ more, cs = text ++ more ∧ rest = more ++ blanks := by
  rcases List.append_eq_append_iff.mp hsplit with ⟨more, hcs, hrest⟩ | ⟨tail, htext, htail⟩
  · exact ⟨more, hcs, hrest⟩
  · rcases List.eq_nil_or_concat tail with rfl | ⟨front, b, rfl⟩
    · exact ⟨[], by simpa using htext.symm, by simpa using htail.symm⟩
    · have hblank : isBlank b = true := hblanks b (by simp [htail])
      have hsolid := h.stopsAt_reverse b (by simp [htext])
      simp [hblank] at hsolid

/-- Blanks at the end of a text are in no token. -/
theorem clean_of_append_blanks {cs blanks : List Char} {p : Nat}
    (hblanks : ∀ b ∈ blanks, isBlank b = true) (h : (scanFrom 0 p (cs ++ blanks)).Clean) (q : Nat) :
    (scanFrom 0 q cs).Clean := by
  refine clean_induction
    (P := fun text => ∀ cs q, text = cs ++ blanks → (scanFrom 0 q cs).Clean) ?_ ?_ ?_ h cs q rfl
  · intro cs q hcs
    obtain ⟨rfl, -⟩ := List.append_eq_nil_iff.mp hcs.symm
    exact trivial
  · intro b text hb ih cs q hcs
    cases cs with
    | nil => exact trivial
    | cons c cs =>
      obtain ⟨rfl, rfl⟩ := List.cons.inj hcs
      rw [scanFrom_blank hb]
      exact ih cs _ rfl
  · intro c text rest t hc hlexes ih cs q hcs
    cases cs with
    | nil => exact trivial
    | cons d cs =>
      obtain ⟨rfl, hsplit⟩ := List.cons.inj hcs
      obtain ⟨more, rfl, rfl⟩ := hlexes.exists_of_append_blanks hblanks hsplit
      rw [scanFrom_lexeme hc (hlexes.loosen (loosens_drop_blanks hblanks)).lexeme_eq]
      exact ih more _ rfl

theorem Scan.Alike.clean {Q : Nat → Nat → Prop} {s s' : Scan} (h : s.Alike Q s') (hs : s.Clean) :
    s'.Clean := by
  induction h with
  | finish => exact trivial
  | fault => exact hs
  | token _ _ _ ih => exact ih hs

/-- A text in front of blanks scans as it does without them. -/
theorem sameTokens_append_blanks {cs blanks : List Char} {p : Nat}
    (h : (scanFrom 0 p cs).Clean) (hblanks : ∀ b ∈ blanks, isBlank b = true) (q : Nat) :
    (scanFrom 0 p cs).SameTokens (scanFrom 0 q (cs ++ blanks)) :=
  (respaced_append_blanks h hblanks).sameTokens p q

theorem Scan.SameTokens.symm {s s' : Scan} (h : s.SameTokens s') : s'.SameTokens s := by
  induction h with
  | finish => exact .finish trivial
  | fault _ e => exact .fault trivial e
  | token _ t _ ih => exact .token trivial t ih

theorem Scan.SameTokens.trans {s s' s'' : Scan} (h : s.SameTokens s') (h' : s'.SameTokens s'') :
    s.SameTokens s'' := by
  induction h generalizing s'' with
  | finish =>
    cases h' with
    | finish => exact .finish trivial
  | fault _ e =>
    cases h' with
    | fault => exact .fault trivial e
  | token _ t _ ih =>
    cases h' with
    | token _ _ h' => exact .token trivial t (ih h')

/-- The text `s'` is the formula `s` with blanks put in at boundaries of tokens, in front of the
equals sign or at the end. -/
def InsertsBlanks (s s' : String) : Prop :=
  ∃ front front' body body', (∀ b ∈ front, isBlank b = true) ∧ (∀ b ∈ front', isBlank b = true) ∧
    s.toList = front ++ '=' :: body ∧ s'.toList = front' ++ '=' :: body' ∧ Respaced body body'

/-- Trimming takes blanks off both ends of a formula. -/
theorem trimChars_formula {front : List Char} (hfront : ∀ b ∈ front, isBlank b = true)
    (body : List Char) :
    ∃ cs blanks, body = cs ++ blanks ∧ (∀ b ∈ blanks, isBlank b = true) ∧
      trimChars (front ++ '=' :: body) = '=' :: cs := by
  obtain ⟨blanks, cs, hsplit, hblanks, hcs⟩ := exists_span isBlank body.reverse
  have hbody : body = cs.reverse ++ blanks.reverse := by
    rw [← List.reverse_append, ← hsplit, List.reverse_reverse]
  refine ⟨cs.reverse, blanks.reverse, hbody, by simpa using hblanks, ?_⟩
  have hlast : StopsAt isBlank (cs ++ ['=']) := hcs.append (stopsAt_cons rfl)
  rw [trimChars, trimStartChars, dropWhile_append_of_stopsAt hfront (stopsAt_cons rfl), trimEndChars,
    dropEndWhile, List.reverse_cons, hsplit, List.append_assoc,
    dropWhile_append_of_stopsAt hblanks hlast, List.reverse_append]
  rfl

/-- Blanks put in between tokens, in front of the equals sign or at the end of a formula leave its
tree as it is. -/
theorem parse_insertsBlanks {s s' : String} {e : Expr} (h : parse s = .ok e)
    (hs : InsertsBlanks s s') : parse s' = .ok e := by
  obtain ⟨front, front', body, body', hfront, hfront', htext, htext', hbody⟩ := hs
  obtain ⟨cs, blanks, rfl, hblanks, htrim⟩ := trimChars_formula hfront body
  obtain ⟨cs', blanks', rfl, hblanks', htrim'⟩ := trimChars_formula hfront' body'
  obtain ⟨-, text, hscanned, hclean⟩ := parse_sound h
  rw [htext, htrim] at hscanned
  obtain rfl : cs = text := List.tail_eq_of_cons_eq hscanned
  rw [parse, htext, htrim] at h
  rw [parse, htext', htrim']
  have hbodies : (scanFrom 0 1 cs).SameTokens (scanFrom 0 1 (cs' ++ blanks')) :=
    (sameTokens_append_blanks hclean hblanks 1).trans (hbody.sameTokens 1 1)
  have hclean' : (scanFrom 0 1 cs').Clean :=
    clean_of_append_blanks hblanks' (hbodies.clean hclean) 1
  have hsame : (scanFrom 0 1 cs).SameTokens (scanFrom 0 1 cs') :=
    hbodies.trans (sameTokens_append_blanks hclean' hblanks' 1).symm
  have halike := alike_wholeExpression hsame
  simp only at h ⊢
  rw [h] at halike
  generalize wholeExpression (scanFrom 0 1 cs') = r at halike ⊢
  cases halike with
  | ok heq => rw [heq]

def comparedSum : Expr := .binary .notEqual (.call "SUM" [.reference (.relative 0 0)])
  (.reference (.relative 1 1))

theorem parse_comparedSum : parse "=Sum(A1)<>B2" = .ok comparedSum := by
  have hscan : scanFrom 0 1 ['S', 'u', 'm', '(', 'A', '1', ')', '<', '>', 'B', '2'] =
      .token (.identifier "Sum") 1 (.token .leftParen 4 (.token (.cell (.relative 0 0)) 5
        (.token .rightParen 7 (.token .notEqual 8 (.token (.cell (.relative 1 1)) 10
          (.finish 12)))))) := by cbv
  exact parse_of_scan (by cbv) hscan (by cbv)

/-- A blank in front of the parenthesis of a call, and blanks around other tokens. -/
theorem insertsBlanks_comparedSum : InsertsBlanks "=Sum(A1)<>B2" "  =Sum (A1)\t<> B2 " := by
  refine ⟨[], [' ', ' '], ['S', 'u', 'm', '(', 'A', '1', ')', '<', '>', 'B', '2'],
    ['S', 'u', 'm', ' ', '(', 'A', '1', ')', '\t', '<', '>', ' ', 'B', '2', ' '], by simp,
    List.all_eq_true.mp rfl, by cbv, by cbv, ?_⟩
  refine .token (t := .identifier "Sum") (n := 2) rfl (by cbv) (.inserted rfl ?_)
  refine .token (t := .leftParen) (n := 0) rfl rfl ?_
  refine .token (t := .cell (.relative 0 0)) (n := 1) rfl (by cbv) ?_
  refine .token (t := .rightParen) (n := 0) rfl rfl (.inserted rfl ?_)
  refine .token (t := .notEqual) (n := 1) rfl rfl (.inserted rfl ?_)
  exact .token (t := .cell (.relative 1 1)) (n := 1) rfl (by cbv) (.inserted rfl .finish)

theorem parse_insertsBlanks_comparedSum : parse "=Sum(A1)<>B2" = .ok comparedSum ∧
    InsertsBlanks "=Sum(A1)<>B2" "  =Sum (A1)\t<> B2 " ∧
      parse "  =Sum (A1)\t<> B2 " = .ok comparedSum :=
  ⟨parse_comparedSum, insertsBlanks_comparedSum,
    parse_insertsBlanks parse_comparedSum insertsBlanks_comparedSum⟩

end Spreadsheet.Formula
