import Spreadsheet.Formula.Parser
import Spreadsheet.Proofs.Address.Notation
import Spreadsheet.Proofs.Range.Corners

/-! Well-formed tokens, scans and syntax trees: what scanning yields, and what the parser builds
from it. -/

namespace Spreadsheet

namespace Formula

/-- A name as it is scanned in front of a parenthesis. -/
structure IsName (s : String) : Prop where
  first : ∃ c cs, s.toList = c :: cs ∧ (c.isAlpha = true ∨ c = '_')
  chars : ∀ c ∈ s.toList, isNameChar c = true ∧ c ≠ '$'

/-- A name that stands for no truth value and has not the form of an address. -/
structure IsPlainName (s : String) : Prop extends IsName s where
  notTrue : Text.sameAscii s "TRUE" = false
  notFalse : Text.sameAscii s "FALSE" = false
  notAddress : Address.hasForm s = false

structure IsFunctionName (s : String) : Prop extends IsName s where
  upper : s.toUpper = s

/-- A constant that a formula can spell as one token. -/
def IsLiteral : Cell → Prop
  | .blank => False
  | .number x => Number.isFinite x = true ∧ Number.isNegative x = false
  | .error e => e.detail = none
  | .text _ | .boolean _ => True

/-- A constant that can stand in an array constant, where numbers may have a sign. -/
def IsElement : Expr → Prop
  | .literal (.number x) => Number.isFinite x = true
  | .literal c => IsLiteral c
  | _ => False

namespace Expr

mutual

def WellFormed : Expr → Prop
  | literal c => IsLiteral c
  | reference a => a.isValid = true
  | range r => r.WellFormed
  | name s => IsPlainName s
  | binary _ l r => l.WellFormed ∧ r.WellFormed
  | unary _ x => x.WellFormed
  | call f args => IsFunctionName f ∧ WellFormedList args
  | array rows =>
    isRectangular rows = true ∧ rows ≠ [] ∧ ∀ row ∈ rows, row ≠ [] ∧ ∀ e ∈ row, IsElement e

def WellFormedList : List Expr → Prop
  | [] => True
  | e :: es => e.WellFormed ∧ WellFormedList es

end

theorem WellFormed.binary {op : BinaryOp} {l r : Expr} (hl : l.WellFormed) (hr : r.WellFormed) :
    (Expr.binary op l r).WellFormed := by
  rw [WellFormed]
  exact ⟨hl, hr⟩

theorem WellFormed.unary {op : UnaryOp} {x : Expr} (hx : x.WellFormed) :
    (Expr.unary op x).WellFormed := by rwa [WellFormed]

theorem wellFormedList_iff {es : List Expr} : WellFormedList es ↔ ∀ e ∈ es, e.WellFormed := by
  induction es with
  | nil => simp [WellFormedList]
  | cons e es ih => simp [WellFormedList, ih]

end Expr

/-- A token that can be scanned in front of the token `next`. -/
def Token.WellFormed (next : Option Token) : Token → Prop
  | number x => Number.isFinite x = true ∧ Number.isNegative x = false
  | cell a => a.isValid = true
  | identifier s => IsName s ∧ (next = some .leftParen ∨ IsPlainName s)
  | _ => True

namespace Scan

def WellFormed : Scan → Prop
  | token t _ rest => t.WellFormed rest.head? ∧ rest.WellFormed
  | _ => True

/-- A scan that reaches the end of the text. -/
def Clean : Scan → Prop
  | finish _ => True
  | fault _ => False
  | token _ _ rest => rest.Clean

end Scan

open Number Text

theorem scanFrom_drop (n p : Nat) (cs : List Char) :
    scanFrom n p cs = scanFrom 0 (p + min n cs.length) (cs.drop n) := by
  induction cs generalizing n p with
  | nil => simp [scanFrom]
  | cons c cs ih =>
    cases n with
    | zero => simp
    | succ n =>
      have hposition : p + min (n + 1) (c :: cs).length = p + 1 + min n cs.length := by
        rw [List.length_cons]
        omega
      rw [scanFrom, ih n (p + 1), hposition, List.drop_succ_cons]

theorem scanFrom_dropWhile (p : Nat) (cs : List Char) :
    scanFrom 0 p cs = scanFrom 0 (p + (cs.takeWhile isBlank).length) (cs.dropWhile isBlank) := by
  induction cs generalizing p with
  | nil => rfl
  | cons c cs ih =>
    by_cases hc : isBlank c = true
    · rw [List.takeWhile_cons_of_pos hc, List.dropWhile_cons_of_pos hc, scanFrom, if_pos hc, ih,
        List.length_cons, Nat.add_right_comm, Nat.add_assoc]
    · rw [List.takeWhile_cons_of_neg hc, List.dropWhile_cons_of_neg hc]
      rfl

theorem scanFrom_symbol {c : Char} {t : Token} (h : symbol? c = some t) (p : Nat)
    (cs : List Char) : scanFrom 0 p (c :: cs) = .token t p (scanFrom 0 (p + 1) cs) := by
  have hblank : isBlank c = false := by
    revert h
    unfold symbol?
    split <;> first | exact fun _ => rfl | simp
  rw [scanFrom, hblank, lexeme, h]
  rfl

/-- An opening parenthesis behind blanks is the next token. -/
theorem head?_scanFrom {n p : Nat} {cs : List Char}
    (h : ((cs.drop n).dropWhile isBlank).head? = some '(') :
    (scanFrom n p cs).head? = some .leftParen := by
  obtain ⟨rest, hrest⟩ := List.head?_eq_some_iff.mp h
  rw [scanFrom_drop, scanFrom_dropWhile, hrest, scanFrom_symbol rfl]
  rfl

theorem mantissaPart_cons {c : Char} {cs : List Char} (hc : c.isDigit = true ∨ c = '.') :
    ∃ ds, mantissaPart (c :: cs) = c :: ds := by
  simp only [mantissaPart]
  rcases hc with hc | rfl
  · rw [List.takeWhile_cons_of_pos hc]
    split <;> exact ⟨_, rfl⟩
  · simp

theorem wellFormed_numberLexeme {c : Char} {cs : List Char} {t : Token} {n : Nat}
    {next : Option Token} (hc : c.isDigit = true ∨ c = '.')
    (h : numberLexeme (c :: cs) = .ok (t, n)) : t.WellFormed next := by
  obtain ⟨ds, hds⟩ : ∃ ds, mantissaPart (c :: cs) = c :: ds := mantissaPart_cons hc
  simp only [numberLexeme, hds] at h
  split at h
  · simp at h
  · split at h
    · rename_i x hx
      obtain ⟨rfl, _⟩ := Prod.mk.injEq .. ▸ Except.ok.inj h
      obtain ⟨hread, hfinite⟩ := Option.filter_eq_some_iff.mp hx
      refine ⟨hfinite, isNegative_of_readDecimal? hread fun d hd => ?_⟩
      obtain rfl : c = d := by simpa using hd
      rintro rfl
      simp at hc
    · simp at h

theorem isName_ofList {c : Char} {cs : List Char} (hc : c.isAlpha = true ∨ c = '_' ∨ c = '$')
    (hchars : ∀ d ∈ c :: cs, isNameChar d = true) (hdollar : '$' ∉ c :: cs) :
    IsName (String.ofList (c :: cs)) := by
  refine ⟨⟨c, cs, String.toList_ofList, ?_⟩, fun d hd => ?_⟩
  · rcases hc with hc | hc | rfl
    · exact .inl hc
    · exact .inr hc
    · exact absurd List.mem_cons_self hdollar
  · rw [String.toList_ofList] at hd
    exact ⟨hchars d hd, fun heq => hdollar (heq ▸ hd)⟩

theorem wellFormed_wordLexeme {c : Char} {cs : List Char} {t : Token} {n : Nat}
    {next : Option Token} (hc : c.isAlpha = true ∨ c = '_' ∨ c = '$')
    (hnext : ((cs.drop n).dropWhile isBlank).head? = some '(' → next = some .leftParen)
    (h : wordLexeme (c :: cs) = .ok (t, n)) : t.WellFormed next := by
  have hname : isNameChar c = true := by
    rcases hc with hc | rfl | rfl <;> simp_all [isNameChar, Char.isAlphanum]
  simp only [wordLexeme, List.takeWhile_cons_of_pos hname, List.length_cons, List.drop_succ_cons,
    Nat.add_sub_cancel] at h
  generalize hw : cs.takeWhile isNameChar = w at h
  have hchars : ∀ d ∈ c :: w, isNameChar d = true := by
    have hall := List.all_takeWhile (p := isNameChar) (l := cs)
    rw [hw] at hall
    exact List.forall_mem_cons.mpr ⟨hname, List.all_eq_true.mp hall⟩
  split at h
  · simp at h
  split at h
  · simp only [Except.ok.injEq, Prod.mk.injEq] at h
    obtain ⟨rfl, _⟩ := h
    trivial
  split at h
  · simp only [Except.ok.injEq, Prod.mk.injEq] at h
    obtain ⟨rfl, _⟩ := h
    trivial
  split at h
  · split at h
    · rename_i a ha
      simp only [Except.ok.injEq, Prod.mk.injEq] at h
      obtain ⟨rfl, _⟩ := h
      exact Address.isValid_of_parse ha
    · simp at h
  split at h
  · simp at h
  · rename_i htrue hfalse hform hdollar
    simp only [Except.ok.injEq, Prod.mk.injEq] at h
    obtain ⟨rfl, rfl⟩ := h
    have hisName : IsName (String.ofList (c :: w)) :=
      isName_ofList hc hchars (by simpa using hdollar)
    refine ⟨hisName, ?_⟩
    -- In front of a parenthesis a word may look like `TRUE` or an address: it names a function.
    by_cases hcall : ((cs.drop w.length).dropWhile isBlank).head? = some '('
    · exact .inl (hnext hcall)
    · refine .inr { hisName with notTrue := ?_, notFalse := ?_, notAddress := ?_ }
      · simpa [hcall] using htrue
      · simpa [hcall] using hfalse
      · simpa [hcall] using hform

theorem wellFormed_lexeme {c : Char} {cs : List Char} {t : Token} {n : Nat} {next : Option Token}
    (hnext : ((cs.drop n).dropWhile isBlank).head? = some '(' → next = some .leftParen)
    (h : lexeme c cs = .ok (t, n)) : t.WellFormed next := by
  rw [lexeme] at h
  split at h
  · rename_i u hsymbol
    simp only [Except.ok.injEq, Prod.mk.injEq] at h
    obtain ⟨rfl, _⟩ := h
    unfold symbol? at hsymbol
    split at hsymbol <;> cases hsymbol <;> trivial
  split at h
  · simp only [Except.ok.injEq, lessLexeme] at h
    split at h <;> cases h <;> trivial
  split at h
  · simp only [Except.ok.injEq, greaterLexeme] at h
    split at h <;> cases h <;> trivial
  split at h
  · simp only [textLexeme] at h
    split at h <;> cases h
    trivial
  split at h
  · rename_i hdigit
    refine wellFormed_numberLexeme ?_ h
    simp only [Bool.or_eq_true, Bool.and_eq_true, beq_iff_eq] at hdigit
    exact hdigit.imp id And.left
  split at h
  · simp only [errorLexeme] at h
    split at h <;> cases h
    trivial
  split at h
  · rename_i hword
    refine wellFormed_wordLexeme ?_ hnext h
    simpa [or_assoc] using hword
  · simp at h

theorem wellFormed_scanFrom (n p : Nat) (cs : List Char) : (scanFrom n p cs).WellFormed := by
  induction cs generalizing n p with
  | nil => simp [scanFrom, Scan.WellFormed]
  | cons c cs ih =>
    cases n with
    | succ n => exact ih n (p + 1)
    | zero =>
      rw [scanFrom]
      split
      · exact ih 0 (p + 1)
      · split
        · rename_i t n h
          exact ⟨wellFormed_lexeme head?_scanFrom h, ih n (p + 1)⟩
        · trivial

end Formula

end Spreadsheet
