import Spreadsheet.Proofs.Formula.Lexemes
import Spreadsheet.Proofs.Text.Slices

/-! Scanning at byte offsets. Here a scanner goes through a text by slices at byte offsets and by
loops with a bounded number of rounds; it has no result if a slice is taken inside a character or a
loop does not come to its end. It is shown to have a result, which is that of scanning the
characters. -/

namespace Spreadsheet.Formula

open Number String Text

theorem parse_of_head?_ne {s : String} (h : (trimChars s.toList).head? ≠ some '=') :
    parse s = .error ⟨0, .missingEquals⟩ := by
  rw [parse]
  split
  · rename_i hcs
    simp [hcs] at h
  · rfl

namespace Offsets

/-- A scanned token with the offset behind it. -/
abbrev Located := Except Fault (Token × Nat)

section

variable (input : String)

/-- The character at an offset, if there is one. -/
def peek? (pos : Nat) : Option (Option Char) := (sliceFrom? input pos).map List.head?

/-- The character behind the one at an offset. -/
def peekSecond? (pos : Nat) : Option (Option Char) := (sliceFrom? input pos).map (·[1]?)

/-- The offset behind the character at an offset. -/
def advance? (pos : Nat) : Option Nat := do
  match ← peek? input pos with
  | some c => return pos + c.utf8Size
  | none => return pos

/-- More rounds than a loop over the characters of the text needs. -/
def rounds : Nat := input.length + 1

/-- The offset behind the characters with a property that stand at an offset. -/
def skipWhile? (p : Char → Bool) : (rounds : Nat) → (pos : Nat) → Option Nat
  | 0, _ => none
  | rounds + 1, pos => do
    match ← peek? input pos with
    | some c => if p c then skipWhile? p rounds (← advance? input pos) else return pos
    | none => return pos

def lessAt? (start : Nat) : Option Located := do
  let pos ← advance? input start
  match ← peek? input pos with
  | some '=' => return .ok (.lessEqual, ← advance? input pos)
  | some '>' => return .ok (.notEqual, ← advance? input pos)
  | _ => return .ok (.lessThan, pos)

def greaterAt? (start : Nat) : Option Located := do
  let pos ← advance? input start
  match ← peek? input pos with
  | some '=' => return .ok (.greaterEqual, ← advance? input pos)
  | _ => return .ok (.greaterThan, pos)

/-- A text literal from a character of it on; `body` are the characters before in reverse order. -/
def textFrom? : (rounds : Nat) → (body : List Char) → (pos : Nat) → Option Located
  | 0, _, _ => none
  | rounds + 1, body, pos => do
    match ← peek? input pos with
    | some '"' =>
      if (← peekSecond? input pos) == some '"' then
        textFrom? rounds ('"' :: body) (← advance? input (← advance? input pos))
      else return .ok (.text (ofList body.reverse), ← advance? input pos)
    | some c => textFrom? rounds (c :: body) (← advance? input pos)
    | none => return .error .unterminatedText

def textAt? (start : Nat) : Option Located := do
  textFrom? input (rounds input) [] (← advance? input start)

def mantissaEnd? (start : Nat) : Option Nat := do
  let pos ← skipWhile? input Char.isDigit (rounds input) start
  if (← peek? input pos) == some '.' then
    skipWhile? input Char.isDigit (rounds input) (← advance? input pos)
  else return pos

def signEnd? (start : Nat) : Option Nat := do
  match ← peek? input start with
  | some '+' | some '-' => advance? input start
  | _ => return start

/-- The offset behind an exponent, if there is one; no offset if its digits are missing. -/
def exponentEnd? (start : Nat) : Option (Option Nat) := do
  if (← peek? input start).any isMark then
    let pos ← signEnd? input (← advance? input start)
    if (← peek? input pos).any Char.isDigit then
      return some (← skipWhile? input Char.isDigit (rounds input) pos)
    else return none
  else return some start

def numberAt? (start : Nat) : Option Located := do
  match ← exponentEnd? input (← mantissaEnd? input start) with
  | none => return .error .missingExponent
  | some stop =>
    let text ← slice? input start stop
    match (readDecimal? text).filter isFinite with
    | some x => return .ok (.number x, stop)
    | none => return .error (.numberOutOfRange (ofList text))

def errorAt? (start : Nat) : Option Located := do
  let stop ← skipWhile? input isErrorChar (rounds input) (← advance? input start)
  let text ← slice? input start stop
  match ErrorKind.ofCode? (ofList text) with
  | some kind => return .ok (.error kind, stop)
  | none => return .error (.unknownError (ofList text))

def wordAt? (start : Nat) : Option Located := do
  let stop ← skipWhile? input isNameChar (rounds input) start
  let word ← slice? input start stop
  let next ← peek? input stop
  let rest ← sliceFrom? input stop
  let isCall := rest.find? (fun c => !isBlank c) == some '('
  return (wordToken word next isCall).map fun t => (t, stop)

/-- The token that begins with the character `c`, which is not blank, at an offset. -/
def tokenAt? (c : Char) (start : Nat) : Option Located := do
  match symbol? c with
  | some t => return .ok (t, ← advance? input start)
  | none =>
    if c == '<' then lessAt? input start
    else if c == '>' then greaterAt? input start
    else if c == '"' then textAt? input start
    else if c.isDigit || (c == '.' && (← peekSecond? input start).any Char.isDigit) then
      numberAt? input start
    else if c == '#' then errorAt? input start
    else if c.isAlpha || c == '_' || c == '$' then wordAt? input start
    else return .error (.unexpectedCharacter c)

/-- The position of an offset in characters, the equals sign in front of the text counted. -/
def positionOf? (pos : Nat) : Option Nat := do
  let front ← slice? input 0 (min pos input.utf8ByteSize)
  return front.length + 1

/-- Scans a text from an offset on, one token in each round. -/
def scan? : (rounds : Nat) → (pos : Nat) → Option Scan
  | 0, _ => none
  | count + 1, pos => do
    let start ← skipWhile? input isBlank (rounds input) pos
    let position ← positionOf? input start
    match ← peek? input start with
    | none => return .finish position
    | some c =>
      match ← tokenAt? input c start with
      | .ok (t, stop) => return .token t position (← scan? count stop)
      | .error e => return .fault ⟨position, e⟩

end

/-- Reads a formula whose tokens are found at byte offsets. -/
def parse? (s : String) : Option (Except ParseError Expr) :=
  match trimChars s.toList with
  | '=' :: cs => (scan? (ofList cs) (rounds (ofList cs)) 0).map wholeExpression
  | _ => some (.error ⟨0, .missingEquals⟩)

variable {input : String} {front back : List Char} {c : Char}

theorem peek?_eq (h : input.toList = front ++ back) :
    peek? input (utf8Len front) = some back.head? := by
  rw [peek?, sliceFrom?_of_parts h, Option.map_some]

theorem peekSecond?_eq (h : input.toList = front ++ c :: back) :
    peekSecond? input (utf8Len front) = some back.head? := by
  rw [peekSecond?, sliceFrom?_of_parts h, Option.map_some, List.getElem?_cons_succ,
    List.head?_eq_getElem?]

theorem advance?_eq (h : input.toList = front ++ c :: back) :
    advance? input (utf8Len front) = some (utf8Len (front ++ [c])) := by
  rw [advance?, peek?_eq h]
  simp

theorem toList_next (h : input.toList = front ++ c :: back) :
    input.toList = front ++ [c] ++ back := by
  rw [h, List.append_assoc, List.singleton_append]

/-- A loop over what is left of the text has more rounds than it needs. -/
theorem length_lt_rounds (h : input.toList = front ++ back) : back.length < rounds input := by
  have hlength : input.length = front.length + back.length := by
    rw [← length_toList, h, List.length_append]
  rw [rounds]
  omega

theorem skipWhile?_eq {p : Char → Bool} {count : Nat} (h : input.toList = front ++ back)
    (hcount : back.length < count) :
    skipWhile? input p count (utf8Len front) = some (utf8Len (front ++ back.takeWhile p)) := by
  induction count generalizing front back with
  | zero => exact absurd hcount (Nat.not_lt_zero _)
  | succ count ih =>
    rw [skipWhile?, peek?_eq h]
    cases back with
    | nil => simp
    | cons c back =>
      rw [List.length_cons, Nat.succ_lt_succ_iff] at hcount
      simp only [advance?_eq h, List.head?_cons, Option.bind_eq_bind, Option.bind_some]
      by_cases hc : p c = true
      · rw [if_pos hc, ih (toList_next h) hcount, List.takeWhile_cons_of_pos hc, List.append_assoc,
          List.singleton_append]
      · rw [if_neg hc, List.takeWhile_cons_of_neg hc, List.append_nil]
        rfl

/-- Where a lexeme that begins with the character `c` ends. -/
def located (front : List Char) (c : Char) (back : List Char) (l : Lexeme) : Located :=
  l.map fun (t, n) => (t, utf8Len (front ++ c :: back.take n))

theorem located_ok {text : List Char} (t : Token) : located front c (text ++ back)
    (.ok (t, text.length)) = .ok (t, utf8Len (front ++ c :: text)) := by
  rw [located, Except.map]
  simp only [List.take_left]

theorem lessAt?_eq (h : input.toList = front ++ c :: back) :
    lessAt? input (utf8Len front) = some (located front c back (.ok (lessLexeme back))) := by
  have hnext := toList_next h
  simp only [lessAt?, lessLexeme, advance?_eq h, peek?_eq hnext, Option.bind_eq_bind,
    Option.bind_some]
  cases back with
  | nil => rfl
  | cons d back =>
    simp only [List.head?_cons, advance?_eq hnext, Option.bind_some]
    by_cases hequal : d = '='
    · subst hequal
      simp [located, Except.map]
    by_cases hgreater : d = '>'
    · subst hgreater
      simp [located, Except.map]
    · simp [located, Except.map, hequal, hgreater]

theorem greaterAt?_eq (h : input.toList = front ++ c :: back) :
    greaterAt? input (utf8Len front) = some (located front c back (.ok (greaterLexeme back))) := by
  have hnext := toList_next h
  simp only [greaterAt?, greaterLexeme, advance?_eq h, peek?_eq hnext, Option.bind_eq_bind,
    Option.bind_some]
  cases back with
  | nil => rfl
  | cons d back =>
    simp only [List.head?_cons, advance?_eq hnext, Option.bind_some]
    by_cases hequal : d = '='
    · subst hequal
      simp [located, Except.map]
    · simp [located, Except.map, hequal]

theorem textFrom?_eq {count : Nat} (body : List Char) (h : input.toList = front ++ back)
    (hcount : back.length < count) : textFrom? input count body (utf8Len front) =
      some (match textBody? back with
        | some (s, n) => .ok (.text (ofList (body.reverse ++ s)), utf8Len (front ++ back.take n))
        | none => .error .unterminatedText) := by
  induction count generalizing front back body with
  | zero => exact absurd hcount (Nat.not_lt_zero _)
  | succ count ih =>
    rw [textFrom?, peek?_eq h]
    cases back with
    | nil => simp [textBody?]
    | cons c back =>
      have hnext := toList_next h
      rw [List.length_cons, Nat.succ_lt_succ_iff] at hcount
      simp only [advance?_eq h, peekSecond?_eq h, List.head?_cons, Option.bind_eq_bind,
        Option.bind_some]
      by_cases hquote : c = '"'
      · subst hquote
        cases back with
        | nil => simp [textBody?]
        | cons d back =>
          simp only [advance?_eq hnext]
          by_cases hd : d = '"'
          · subst hd
            rw [List.length_cons] at hcount
            have hrest := ih ('"' :: body) (toList_next hnext) (by omega)
            simp only [List.head?_cons, BEq.rfl, if_true, Option.bind_some, hrest, textBody?]
            cases textBody? back <;> simp
          · have hne : (some d == some '"') = false := by simpa using hd
            simp [hne, textBody?, hd]
      · have hrest := ih (c :: body) hnext hcount
        simp only [hrest]
        rw [textBody?]
        · cases textBody? back <;> simp
        all_goals simp [hquote]

theorem textAt?_eq (h : input.toList = front ++ c :: back) :
    textAt? input (utf8Len front) = some (located front c back (textLexeme back)) := by
  have hnext := toList_next h
  simp only [textAt?, advance?_eq h, textFrom?_eq [] hnext (length_lt_rounds hnext), textLexeme,
    Option.bind_eq_bind, Option.bind_some]
  cases textBody? back <;> simp [located, Except.map]

theorem skip_eq {p : Char → Bool} {word : List Char} (h : input.toList = front ++ word ++ back)
    (hword : ∀ c ∈ word, p c = true) (hback : StopsAt p back) :
    skipWhile? input p (rounds input) (utf8Len front) = some (utf8Len (front ++ word)) := by
  rw [List.append_assoc] at h
  rw [skipWhile?_eq h (length_lt_rounds h), takeWhile_append_of_stopsAt hword hback]

theorem mantissaEnd?_eq {mantissa : List Char} (h : input.toList = front ++ mantissa ++ back)
    (hmantissa : Mantissa mantissa back) :
    mantissaEnd? input (utf8Len front) = some (utf8Len (front ++ mantissa)) := by
  cases hmantissa with
  | whole hwhole hback hpoint =>
    have hhead : (back.head? == some '.') = false := by
      rw [beq_eq_false_iff_ne]
      exact hpoint.head?_ne rfl
    simp only [mantissaEnd?, skip_eq h hwhole hback, peek?_eq h, hhead, Option.bind_eq_bind,
      Option.bind_some]
    rfl
  | @point whole fraction _ hwhole hfraction hback =>
    have hfirst : input.toList = front ++ whole ++ ('.' :: (fraction ++ back)) := by
      rw [h]
      simp
    have hpoint : input.toList = front ++ whole ++ ['.'] ++ fraction ++ back := by
      rw [h]
      simp
    simp only [mantissaEnd?, skip_eq hfirst hwhole (stopsAt_cons rfl), peek?_eq hfirst,
      advance?_eq hfirst, skip_eq hpoint hfraction hback, Option.bind_eq_bind, Option.bind_some]
    simp

theorem signEnd?_eq {sign : List Char} (h : input.toList = front ++ sign ++ back)
    (hsign : Signed sign back) :
    signEnd? input (utf8Len front) = some (utf8Len (front ++ sign)) := by
  cases hsign with
  | unsigned hback =>
    rw [List.append_nil] at h ⊢
    rw [signEnd?, peek?_eq h]
    cases back with
    | nil => rfl
    | cons c back =>
      have hc := hback c rfl
      simp only [Bool.or_eq_false_iff, beq_eq_false_iff_ne] at hc
      simp [hc.1, hc.2]
  | @sign c hc back =>
    rw [List.append_assoc, List.singleton_append] at h
    rw [signEnd?, peek?_eq h, ← advance?_eq h]
    rcases hc with rfl | rfl <;> rfl

theorem exponentEnd?_mark {mark : Char} {sign : List Char}
    (h : input.toList = front ++ mark :: (sign ++ back)) (hmark : isMark mark = true)
    (hsign : Signed sign back) : exponentEnd? input (utf8Len front) =
      some (if (back.takeWhile Char.isDigit).isEmpty then none
        else some (utf8Len (front ++ mark :: (sign ++ back.takeWhile Char.isDigit)))) := by
  have hnext : input.toList = front ++ [mark] ++ sign ++ back := by
    rw [h]
    simp
  have hdigit : back.head?.any Char.isDigit = !(back.takeWhile Char.isDigit).isEmpty := by
    cases back with
    | nil => rfl
    | cons c back => cases hc : c.isDigit <;> simp [hc]
  simp only [exponentEnd?, peek?_eq h, advance?_eq h, signEnd?_eq hnext hsign, peek?_eq hnext,
    skipWhile?_eq hnext (length_lt_rounds hnext), hdigit, Option.bind_eq_bind, Option.bind_some,
    List.head?_cons, Option.any_some, hmark, if_true]
  cases hempty : (back.takeWhile Char.isDigit).isEmpty with
  | true => rfl
  | false => simp

theorem exponentEnd?_eq (h : input.toList = front ++ back) : exponentEnd? input (utf8Len front) =
    some ((exponentPart? back).map fun exponent => utf8Len (front ++ exponent)) := by
  by_cases hstop : StopsAt isMark back
  · have hmark : back.head?.any isMark = false := by
      cases back with
      | nil => rfl
      | cons c back => exact hstop c rfl
    simp [exponentEnd?, peek?_eq h, hmark, exponentPart?_of_stopsAt_mark hstop]
  · obtain ⟨mark, tail, rfl, hmark⟩ := exists_cons_of_not_stopsAt hstop
    obtain ⟨sign, back, rfl, hsign⟩ := exists_signed tail
    rw [exponentEnd?_mark h hmark hsign, exponentPart?_mark hmark hsign]
    split <;> rfl

theorem numberAt?_eq (h : input.toList = front ++ c :: back) (hc : c.isDigit = true ∨ c = '.') :
    numberAt? input (utf8Len front) = some (located front c back (numberLexeme (c :: back))) := by
  obtain ⟨ds, rest, rfl, hmantissa⟩ := exists_mantissa_cons hc back
  have hinput : input.toList = front ++ (c :: ds) ++ rest := by
    rw [h]
    simp
  rw [← List.cons_append, numberLexeme, hmantissa.eq, List.drop_left]
  simp only [numberAt?, mantissaEnd?_eq hinput hmantissa, exponentEnd?_eq hinput,
    Option.bind_eq_bind, Option.bind_some]
  cases hexponent : exponentPart? rest with
  | none => rfl
  | some exponent =>
    obtain ⟨last, rfl, -⟩ := exponent_of_some hexponent
    have hslice : slice? input (utf8Len front) (utf8Len (front ++ c :: (ds ++ exponent))) =
        some (c :: (ds ++ exponent)) := by
      refine slice?_of_parts (?_ : input.toList = front ++ c :: (ds ++ exponent) ++ last)
      rw [hinput]
      simp
    simp only [Option.map_some, List.append_assoc, List.cons_append, hslice, Option.bind_some]
    cases (readDecimal? (c :: (ds ++ exponent))).filter isFinite with
    | none => rfl
    | some x =>
      simp only
      rw [List.length_cons, Nat.add_sub_cancel, ← List.append_assoc ds, located_ok]
      rfl

theorem errorAt?_eq (h : input.toList = front ++ '#' :: back) :
    errorAt? input (utf8Len front) = some (located front '#' back (errorLexeme back)) := by
  have hnext := toList_next h
  obtain ⟨word, rest, rfl, hword, hrest⟩ := exists_span isErrorChar back
  rw [← List.append_assoc] at hnext
  have hslice : slice? input (utf8Len front) (utf8Len (front ++ ['#'] ++ word)) =
      some ('#' :: word) := by
    rw [List.append_assoc, List.singleton_append]
    refine slice?_of_parts (?_ : input.toList = front ++ '#' :: word ++ rest)
    rw [h, List.append_assoc, List.cons_append]
  simp only [errorAt?, errorLexeme, advance?_eq h, skip_eq hnext hword hrest, hslice,
    takeWhile_append_of_stopsAt hword hrest, Option.bind_eq_bind, Option.bind_some]
  cases ErrorKind.ofCode? (ofList ('#' :: word)) with
  | none => rfl
  | some kind =>
    simp only
    rw [located_ok, List.append_assoc]
    rfl

theorem find?_not {p : Char → Bool} (cs : List Char) :
    cs.find? (fun c => !p c) = (cs.dropWhile p).head? := by
  induction cs with
  | nil => rfl
  | cons c cs ih => cases hc : p c <;> simp [hc, ih]

theorem wordAt?_eq (h : input.toList = front ++ c :: back) (hc : isNameChar c = true) :
    wordAt? input (utf8Len front) = some (located front c back (wordLexeme (c :: back))) := by
  obtain ⟨word, rest, rfl, hword, hrest⟩ := exists_span isNameChar back
  have hinput : input.toList = front ++ c :: word ++ rest := by
    rw [h]
    simp
  have hall : ∀ d ∈ c :: word, isNameChar d = true := List.forall_mem_cons.mpr ⟨hc, hword⟩
  rw [← List.cons_append, wordLexeme_eq hall hrest]
  simp only [wordAt?, skip_eq hinput hall hrest, slice?_of_parts hinput, peek?_eq hinput,
    sliceFrom?_of_parts hinput, find?_not, Option.bind_eq_bind, Option.bind_some]
  cases wordToken (c :: word) rest.head? ((rest.dropWhile isBlank).head? == some '(') with
  | error e => rfl
  | ok t => exact congrArg some (located_ok t).symm

/-- At an offset the same token is found as in the characters from there on. -/
theorem tokenAt?_eq (h : input.toList = front ++ c :: back) :
    tokenAt? input c (utf8Len front) = some (located front c back (lexeme c back)) := by
  simp only [tokenAt?, lexeme, peekSecond?_eq h, advance?_eq h, Option.bind_eq_bind,
    Option.bind_some]
  cases hsymbol : symbol? c with
  | some t => rfl
  | none =>
    simp only
    split
    · exact lessAt?_eq h
    split
    · exact greaterAt?_eq h
    split
    · exact textAt?_eq h
    split
    · rename_i hnumber
      refine numberAt?_eq h ?_
      simp only [Bool.or_eq_true, Bool.and_eq_true, beq_iff_eq] at hnumber
      exact hnumber.imp id And.left
    split
    · rename_i herror
      obtain rfl : c = '#' := by simpa using herror
      exact errorAt?_eq h
    split
    · rename_i hword
      exact wordAt?_eq h (isNameChar_of_first (by simpa [or_assoc] using hword))
    · rfl

theorem positionOf?_eq (h : input.toList = front ++ back) :
    positionOf? input (utf8Len front) = some (front.length + 1) := by
  have hle : utf8Len front ≤ input.utf8ByteSize := by
    rw [← utf8Len_toList, h, utf8Len_append]
    exact Nat.le_add_right _ _
  have hslice : slice? input (utf8Len []) (utf8Len ([] ++ front)) = some front := slice?_of_parts h
  rw [utf8Len_nil, List.nil_append] at hslice
  rw [positionOf?, Nat.min_eq_left hle, hslice]
  rfl

/-- Scanning at byte offsets comes to an end, takes no slice inside a character and finds the tokens
of the characters at their positions. -/
theorem scan?_eq {count : Nat} (h : input.toList = front ++ back) (hcount : back.length < count) :
    scan? input count (utf8Len front) = some (scanFrom 0 (front.length + 1) back) := by
  induction count generalizing front back with
  | zero => exact absurd hcount (Nat.not_lt_zero _)
  | succ count ih =>
    obtain ⟨blanks, rest, rfl, hblanks, hrest⟩ := exists_span isBlank back
    rw [← List.append_assoc] at h
    rw [scanFrom_dropWhile, takeWhile_append_of_stopsAt hblanks hrest,
      dropWhile_append_of_stopsAt hblanks hrest]
    simp only [scan?, skip_eq h hblanks hrest, positionOf?_eq h, peek?_eq h, Option.bind_eq_bind,
      Option.bind_some, List.length_append]
    rw [Nat.add_right_comm]
    cases rest with
    | nil => rfl
    | cons c rest =>
      have hblank : isBlank c = false := hrest c rfl
      simp only [List.head?_cons, tokenAt?_eq h, Option.bind_some, scanFrom, hblank]
      cases lexeme c rest with
      | error e => rfl
      | ok l =>
        obtain ⟨t, n⟩ := l
        have hnext : input.toList = front ++ blanks ++ c :: rest.take n ++ rest.drop n := by
          rw [h]
          simp
        have hlength : (rest.drop n).length < count := by
          simp only [List.length_append, List.length_cons] at hcount
          rw [List.length_drop]
          omega
        have hposition : (front ++ blanks ++ c :: rest.take n).length + 1 =
            front.length + 1 + blanks.length + 1 + min n rest.length := by
          simp only [List.length_append, List.length_cons, List.length_take]
          omega
        simp only [located, Except.map, ih hnext hlength, Option.bind_some, hposition]
        rw [scanFrom_drop n]
        rfl

theorem parse?_eq (s : String) : parse? s = some (parse s) := by
  by_cases hhead : (trimChars s.toList).head? = some '='
  · obtain ⟨cs, htrim⟩ := List.head?_eq_some_iff.mp hhead
    have hcs : (ofList cs).toList = [] ++ cs := toList_ofList
    have hscan := scan?_eq hcs (length_lt_rounds hcs)
    rw [utf8Len_nil] at hscan
    rw [parse?, parse, htrim]
    simp only [hscan]
    rfl
  · rw [parse_of_head?_ne hhead, parse?]
    split
    · rename_i hcs
      simp [hcs] at hhead
    · rfl

end Offsets

end Spreadsheet.Formula
