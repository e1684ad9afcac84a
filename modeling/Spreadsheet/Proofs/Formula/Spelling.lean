import Spreadsheet.Proofs.Formula.Scanning

/-! The tokens of canonical text. The text of a well-formed tree scans as them, unless an error
literal stands in front of a slash: `#N/A` and `/` with nothing between them are no tokens. -/

namespace Spreadsheet.Formula

open Number Text

def BinaryOp.token : BinaryOp → Token
  | add => .plus
  | subtract => .minus
  | multiply => .star
  | divide => .slash
  | power => .caret
  | concat => .ampersand
  | equal => .equal
  | notEqual => .notEqual
  | lessThan => .lessThan
  | lessEqual => .lessEqual
  | greaterThan => .greaterThan
  | greaterEqual => .greaterEqual

def literalTokens : Cell → List Token
  | .blank => []
  | .number x => [.number x]
  | .text s => [.text s]
  | .boolean b => [.boolean b]
  | .error e => [.error e.kind]

def elementTokens : Expr → List Token
  | .literal (.number x) => if isNegative x then [.minus, .number (-x)] else [.number x]
  | .literal c => literalTokens c
  | _ => []

namespace Expr

mutual

/-- The tokens of the canonical text. -/
def tokens : Expr → List Token
  | literal c => literalTokens c
  | reference a => [.cell a]
  | range r => [.cell r.first, .colon, .cell r.last]
  | name s => [.identifier s]
  | binary op l r => [.leftParen] ++ l.tokens ++ [op.token] ++ r.tokens ++ [.rightParen]
  | unary .negate x => [.minus] ++ x.tokens
  | unary .plus x => [.plus] ++ x.tokens
  | unary .percent x =>
    (if x.isUnary then [.leftParen] ++ x.tokens ++ [.rightParen] else x.tokens) ++ [.percent]
  | call f args =>
    [.identifier f] ++ [.leftParen] ++ [.comma].intercalate (tokensOfList args) ++ [.rightParen]
  | array rows =>
    [.leftBrace] ++
      [.semicolon].intercalate (rows.map fun row => [.comma].intercalate (row.map elementTokens)) ++
      [.rightBrace]

def tokensOfList : List Expr → List (List Token)
  | [] => []
  | e :: es => e.tokens :: tokensOfList es

end

/-- Whether the text of an operand ends in an error literal. -/
def endsInError : Expr → Bool
  | literal (.error _) => true
  | unary .negate x => x.endsInError
  | unary .plus x => x.endsInError
  | _ => false

mutual

/-- Whether an error literal stands right in front of a slash. -/
def glued : Expr → Bool
  | binary op l r => (op == .divide && l.endsInError) || l.glued || r.glued
  | unary _ x => x.glued
  | call _ args => gluedList args
  | _ => false

def gluedList : List Expr → Bool
  | [] => false
  | e :: es => e.glued || gluedList es

end

end Expr

section

variable {after : List Char}

theorem spells_leftParen : Spells [.leftParen] ['('] after := spells_symbol rfl

theorem spells_minus : Spells [.minus] ['-'] after := spells_symbol rfl

theorem spells_plus : Spells [.plus] ['+'] after := spells_symbol rfl

theorem spells_operator {op : BinaryOp} (h : StopsAt (fun c => c == '=' || c == '>') after) :
    Spells [op.token] op.symbol.toList after := by
  have hless : lessLexeme after = (.lessThan, 0) := by
    rw [lessLexeme]
    split
    · exact absurd (h '=' ‹_›) (by decide)
    · exact absurd (h '>' ‹_›) (by decide)
    · rfl
  have hgreater : greaterLexeme after = (.greaterThan, 0) := by
    rw [greaterLexeme]
    split
    · exact absurd (h '=' ‹_›) (by decide)
    · rfl
  cases op <;> simp only [BinaryOp.token, BinaryOp.symbol, String.reduceToList]
  case lessThan => exact spells_lexeme rfl (congrArg Except.ok hless)
  case greaterThan => exact spells_lexeme rfl (congrArg Except.ok hgreater)
  case notEqual => exact spells_lexeme rfl rfl
  case lessEqual => exact spells_lexeme rfl rfl
  case greaterEqual => exact spells_lexeme rfl rfl
  all_goals exact spells_symbol rfl

theorem stopsAt_operator (op : BinaryOp) (after : List Char) :
    StopsAt continues (op.symbol.toList ++ after) := by
  cases op <;> simp only [BinaryOp.symbol, String.reduceToList] <;> exact stopsAt_cons rfl

theorem head?_operator {op : BinaryOp} (h : op ≠ .divide) :
    (op.symbol.toList ++ after).head? ≠ some '/' := by
  cases op <;> simp [BinaryOp.symbol] at h ⊢

theorem stopsAt_isErrorChar (h : StopsAt continues after) (hslash : after.head? ≠ some '/') :
    StopsAt isErrorChar after := by
  intro c hc
  have hcontinues := h c hc
  have hne : c ≠ '/' := fun heq => hslash (heq ▸ hc)
  simp_all [continues, isErrorChar, isNameChar]

theorem spells_literal {c : Cell} (hc : IsLiteral c) (h : StopsAt continues after)
    (hslash : (Expr.literal c).endsInError = true → after.head? ≠ some '/') :
    Spells (literalTokens c) (literalText c).toList after := by
  cases c with
  | blank => exact hc.elim
  | boolean b => exact spells_boolean b h
  | number x =>
    rw [literalText, if_neg (not_lt_zero hc.2)]
    exact spells_number hc.1 hc.2 (stopsAt_isNameChar h)
  | text s =>
    refine spells_text s fun c hc => ?_
    have := h c hc
    simp_all [continues]
  | error e => exact spells_error e.kind (stopsAt_isErrorChar h (hslash rfl))

theorem spells_element {e : Expr} (he : IsElement e) (h : StopsAt continues after)
    (hslash : after.head? ≠ some '/') :
    Spells (elementTokens e) e.elementText.toList after := by
  cases e with
  | literal c =>
    cases c with
    | number x =>
      simp only [elementTokens, Expr.elementText]
      cases hneg : isNegative x with
      | true =>
        rw [display_of_isNegative he hneg]
        have hpos : isNegative (-x) = false := by simp [isNegative_neg he, hneg]
        exact (spells_symbol rfl).append
          (spells_number (isFinite_neg he) hpos (stopsAt_isNameChar h))
      | false => exact spells_number he hneg (stopsAt_isNameChar h)
    | _ =>
      rw [elementTokens, Expr.elementText, Expr.toText]
      · exact spells_literal he h fun _ => hslash
      all_goals simp
  | _ => exact he.elim

/-- Texts that spell their tokens in front of a separator spell them with separators between. -/
theorem spells_intercalate {α : Type} {sep : Char} {t : Token} (hsep : symbol? sep = some t)
    {tokens : α → List Token} {text : α → List Char} {xs : List α}
    (hmore : ∀ x ∈ xs, ∀ more, Spells (tokens x) (text x) (sep :: more))
    (hlast : ∀ x ∈ xs, Spells (tokens x) (text x) after) :
    Spells ([t].intercalate (xs.map tokens)) ([sep].intercalate (xs.map text)) after := by
  induction xs with
  | nil => exact spells_nil
  | cons x xs ih =>
    cases xs with
    | nil => simpa using hlast x (by simp)
    | cons y ys =>
      have hrest := ih (fun z hz => hmore z (List.mem_cons_of_mem x hz))
        (fun z hz => hlast z (List.mem_cons_of_mem x hz))
      simp only [List.map_cons, List.intercalate_cons_cons] at hrest ⊢
      exact ((hmore x List.mem_cons_self _).append (spells_symbol hsep)).append hrest

/-- One text among others that is no sequence of tokens spoils the whole. -/
theorem faults_intercalate {α : Type} {sep : Char} {t : Token} (hsep : symbol? sep = some t)
    {tokens : α → List Token} {text : α → List Char} {bad : α → Bool} {xs : List α}
    (hgood : ∀ x ∈ xs, bad x = false → ∀ more, Spells (tokens x) (text x) (sep :: more))
    (hmore : ∀ x ∈ xs, bad x = true → ∀ more, Faults (text x) (sep :: more))
    (hlast : ∀ x ∈ xs, bad x = true → Faults (text x) after) (h : ∃ x ∈ xs, bad x = true) :
    Faults ([sep].intercalate (xs.map text)) after := by
  induction xs with
  | nil => simp at h
  | cons x xs ih =>
    cases xs with
    | nil => simpa using hlast x (by simp) (by simpa using h)
    | cons y ys =>
      rw [List.map_cons, List.map_cons, List.intercalate_cons_cons, ← List.map_cons]
      cases hx : bad x with
      | true => exact ((hmore x List.mem_cons_self hx _).append).append
      | false =>
        have hrest := ih (fun z hz => hgood z (List.mem_cons_of_mem x hz))
          (fun z hz => hmore z (List.mem_cons_of_mem x hz))
          (fun z hz => hlast z (List.mem_cons_of_mem x hz)) (by simpa [hx] using h)
        exact ((hgood x List.mem_cons_self hx _).append (spells_symbol hsep)).faults hrest

end

namespace Expr

theorem no_comparison {c : Char} (h : c.isAlphanum = true ∨ c = '_' ∨ c = '$') :
    c ≠ '=' ∧ c ≠ '>' := by
  constructor <;> rintro rfl <;> simp [Char.isAlphanum] at h

theorem exists_literalText {c : Cell} (hc : IsLiteral c) :
    ∃ d ds, (literalText c).toList = d :: ds ∧ d ≠ '=' ∧ d ≠ '>' := by
  cases c with
  | blank => exact hc.elim
  | boolean b => cases b <;> simp [literalText, booleanText]
  | number x =>
    rw [literalText, if_neg (not_lt_zero hc.2)]
    obtain ⟨d, ds, hds, hd⟩ := (display_positional hc.1 hc.2).exists_cons
    exact ⟨d, ds, hds, no_comparison (.inl (by simp [Char.isAlphanum, hd]))⟩
  | text s => exact ⟨'"', _, toList_quoted s, by decide⟩
  | error e => exact ⟨'#', _, toList_code e.kind, by decide⟩

theorem exists_nameText {s : String} (hs : IsName s) :
    ∃ c cs, s.toList = c :: cs ∧ c ≠ '=' ∧ c ≠ '>' := by
  obtain ⟨c, cs, hcs, hc⟩ := hs.first
  exact ⟨c, cs, hcs, no_comparison (hc.imp (by simp_all [Char.isAlphanum]) .inl)⟩

theorem exists_addressText (a : Address) :
    ∃ c cs, a.toText.toList = c :: cs ∧ c ≠ '=' ∧ c ≠ '>' := by
  obtain ⟨c, cs, hcs, hc⟩ := Address.exists_toText a
  exact ⟨c, cs, hcs, no_comparison (hc.imp (by simp_all [Char.isAlphanum]) .inr)⟩

/-- A text begins with no character that could belong to a comparison sign. -/
theorem exists_toText : ∀ {e : Expr}, e.WellFormed →
    ∃ c cs, e.toText.toList = c :: cs ∧ c ≠ '=' ∧ c ≠ '>'
  | literal c, he => by
    rw [WellFormed] at he
    rw [toText]
    exact exists_literalText he
  | reference a, _ => by
    rw [toText]
    exact exists_addressText a
  | range r, _ => by
    obtain ⟨c, cs, hcs, hc⟩ := exists_addressText r.first
    exact ⟨c, _, by rw [toText, Range.cornersText, String.toList_append, String.toList_append, hcs,
      List.cons_append, List.cons_append], hc⟩
  | name s, he => by
    rw [WellFormed] at he
    rw [toText]
    exact exists_nameText he.toIsName
  | binary op l r, _ => by simp [toText]
  | unary .negate x, _ => by simp [toText]
  | unary .plus x, _ => by simp [toText]
  | unary .percent x, he => by
    rw [WellFormed] at he
    obtain ⟨c, cs, hcs, hc⟩ := exists_toText he
    rw [toText]
    cases x.isUnary with
    | true => simp
    | false => exact ⟨c, cs ++ ['%'], by simp [hcs], hc⟩
  | call f args, he => by
    rw [WellFormed] at he
    obtain ⟨c, cs, hcs, hc⟩ := exists_nameText he.1.toIsName
    exact ⟨c, _, by rw [toText, String.toList_append, String.toList_append, String.toList_append,
      hcs, List.cons_append, List.cons_append, List.cons_append], hc⟩
  | array rows, _ => by simp [toText]

theorem stopsAt_toText {e : Expr} (he : e.WellFormed) (after : List Char) :
    StopsAt (fun c => c == '=' || c == '>') (e.toText.toList ++ after) := by
  obtain ⟨c, cs, hcs, hc⟩ := exists_toText he
  rw [hcs]
  exact stopsAt_cons (by simpa using hc)

theorem stopsAt_reverse_literalText {c : Cell} (hc : IsLiteral c) :
    StopsAt isBlank (literalText c).toList.reverse := by
  cases c with
  | blank => exact hc.elim
  | boolean b =>
    cases b <;> simp only [literalText, booleanText, if_true, if_false, Bool.false_eq_true,
      String.reduceToList] <;> exact stopsAt_cons rfl
  | number x =>
    rw [literalText, if_neg (not_lt_zero hc.2)]
    refine stopsAt_of_forall fun d hd => ?_
    rcases (display_positional hc.1 hc.2).isDigit_or_eq (List.mem_reverse.mp hd) with hd | rfl
    · exact isBlank_of_isDigit hd
    · rfl
  | text s =>
    rw [literalText, toList_quoted, List.reverse_cons, List.reverse_append]
    exact stopsAt_cons rfl
  | error e =>
    rw [literalText, toList_code, List.reverse_cons]
    refine (stopsAt_of_forall fun d hd => ?_).append (stopsAt_cons rfl)
    exact isBlank_of_isErrorChar (isErrorChar_of_mem_codeTail (List.mem_reverse.mp hd))

theorem stopsAt_reverse_address (a : Address) : StopsAt isBlank a.toText.toList.reverse :=
  stopsAt_of_forall fun _ hc => Address.isBlank_of_mem_toText (List.mem_reverse.mp hc)

/-- A text ends in no blank. -/
theorem stopsAt_reverse_toText : ∀ {e : Expr}, e.WellFormed →
    StopsAt isBlank e.toText.toList.reverse
  | literal c, he => by
    rw [WellFormed] at he
    rw [toText]
    exact stopsAt_reverse_literalText he
  | reference a, _ => by
    rw [toText]
    exact stopsAt_reverse_address a
  | range r, _ => by
    rw [toText, Range.cornersText, String.toList_append, List.reverse_append,
      String.toList_append, List.reverse_append]
    exact (stopsAt_reverse_address r.last).append (stopsAt_cons rfl)
  | name s, he => by
    rw [WellFormed] at he
    rw [toText]
    exact stopsAt_of_forall fun c hc => isBlank_of_isNameChar (he.chars c (List.mem_reverse.mp hc)).1
  | binary op l r, _ => by
    rw [toText, String.toList_append, List.reverse_append]
    exact stopsAt_cons rfl
  | unary .negate x, he => by
    rw [WellFormed] at he
    rw [toText, String.toList_append, List.reverse_append]
    exact (stopsAt_reverse_toText he).append (stopsAt_cons rfl)
  | unary .plus x, he => by
    rw [WellFormed] at he
    rw [toText, String.toList_append, List.reverse_append]
    exact (stopsAt_reverse_toText he).append (stopsAt_cons rfl)
  | unary .percent x, _ => by
    rw [toText, String.toList_append, List.reverse_append]
    exact stopsAt_cons rfl
  | call f args, _ => by
    rw [toText, String.toList_append, List.reverse_append]
    exact stopsAt_cons rfl
  | array rows, _ => by
    rw [toText, String.toList_append, List.reverse_append]
    exact stopsAt_cons rfl

theorem tokensOfList_eq (es : List Expr) : tokensOfList es = es.map tokens := by
  induction es with
  | nil => rfl
  | cons e es ih => rw [tokensOfList, ih, List.map_cons]

theorem gluedList_eq (es : List Expr) : gluedList es = es.any glued := by
  induction es with
  | nil => rfl
  | cons e es ih => rw [gluedList, ih, List.any_cons]

theorem textsOfList_eq (es : List Expr) : textsOfList es = es.map toText := by
  induction es with
  | nil => rw [textsOfList, List.map_nil]
  | cons e es ih => rw [textsOfList, ih, List.map_cons]

theorem textsOfElements_eq (es : List Expr) : textsOfElements es = es.map elementText := by
  induction es with
  | nil => rw [textsOfElements, List.map_nil]
  | cons e es ih => rw [textsOfElements, ih, List.map_cons]

theorem textsOfRows_eq (rows : List (List Expr)) :
    textsOfRows rows = rows.map fun row => ",".intercalate (row.map elementText) := by
  induction rows with
  | nil => rw [textsOfRows, List.map_nil]
  | cons row rows ih => rw [textsOfRows, ih, textsOfElements_eq, List.map_cons]

theorem toList_callText (f : String) (args : List Expr) : (call f args).toText.toList =
    f.toList ++ ['('] ++ [','].intercalate (args.map fun e => e.toText.toList) ++ [')'] := by
  simp [toText, textsOfList_eq, Function.comp_def]

theorem toList_arrayText (rows : List (List Expr)) : (array rows).toText.toList =
    ['\x7b'] ++ [';'].intercalate
      (rows.map fun row => [','].intercalate (row.map fun e => e.elementText.toList)) ++ ['\x7d'] := by
  simp [toText, textsOfRows_eq, Function.comp_def]

theorem spells_array {rows : List (List Expr)} (h : ∀ row ∈ rows, ∀ e ∈ row, IsElement e)
    (after : List Char) : Spells (array rows).tokens (array rows).toText.toList after := by
  have hrow (more : List Char) (hmore : StopsAt continues more) (hslash : more.head? ≠ some '/')
      {row : List Expr} (hmem : row ∈ rows) :
      Spells ([.comma].intercalate (row.map elementTokens))
        ([','].intercalate (row.map fun e => e.elementText.toList)) more :=
    spells_intercalate rfl
      (fun e he more => spells_element (h row hmem e he) (stopsAt_cons rfl) (by simp))
      fun e he => spells_element (h row hmem e he) hmore hslash
  rw [tokens, toList_arrayText]
  refine ((spells_symbol rfl).append (spells_intercalate rfl ?_ ?_)).append (spells_symbol rfl)
  · exact fun row hmem more => hrow _ (stopsAt_cons rfl) (by simp) hmem
  · exact fun row hmem => hrow _ (stopsAt_cons rfl) (by simp) hmem

theorem spells_range {r : Range} (hr : r.WellFormed) {after : List Char}
    (h : StopsAt continues after) : Spells (range r).tokens (range r).toText.toList after := by
  have hcolon (more : List Char) : Spells [.colon] [':'] more := spells_symbol rfl
  simp only [tokens, toText, Range.cornersText, String.toList_append, String.reduceToList]
  exact ((spells_address hr.first (stopsAt_cons rfl)).append (hcolon _)).append
    (spells_address hr.last h)

theorem spells_binary {op : BinaryOp} {l r : Expr} {after : List Char} (hr : r.WellFormed)
    (hleft : ∀ more, Spells l.tokens l.toText.toList (op.symbol.toList ++ more))
    (hright : Spells r.tokens r.toText.toList (')' :: after)) :
    Spells (binary op l r).tokens (binary op l r).toText.toList after := by
  simp only [tokens, toText, String.toList_append, String.reduceToList]
  exact (((spells_leftParen.append (hleft _)).append
    (spells_operator (stopsAt_toText hr _))).append hright).append (spells_symbol rfl)

theorem spells_call {f : String} (hf : IsName f) {args : List Expr} {after : List Char}
    (hmore : ∀ e ∈ args, ∀ more, Spells e.tokens e.toText.toList (',' :: more))
    (hlast : ∀ e ∈ args, Spells e.tokens e.toText.toList (')' :: after)) :
    Spells (call f args).tokens (call f args).toText.toList after := by
  rw [tokens, toList_callText, tokensOfList_eq]
  exact (((spells_function hf).append (spells_symbol rfl)).append
    (spells_intercalate rfl hmore hlast)).append (spells_symbol rfl)

mutual

/-- The text of a tree without glued errors is its tokens, whatever may follow an operand. -/
theorem spells_tokens : ∀ {e : Expr}, e.WellFormed → e.glued = false → ∀ {after : List Char},
    StopsAt continues after → (e.endsInError = true → after.head? ≠ some '/') →
      Spells e.tokens e.toText.toList after
  | literal c, he, _, _, h, hslash => by
    rw [WellFormed] at he
    rw [tokens, toText]
    exact spells_literal he h hslash
  | reference a, he, _, _, h, _ => by
    rw [WellFormed] at he
    rw [tokens, toText]
    exact spells_address he h
  | range r, he, _, _, h, _ => by
    rw [WellFormed] at he
    exact spells_range he h
  | name s, he, _, _, h, _ => by
    rw [WellFormed] at he
    rw [tokens, toText]
    exact spells_name he h
  | binary op l r, he, hglued, after, _, _ => by
    rw [WellFormed] at he
    rw [glued, Bool.or_eq_false_iff, Bool.or_eq_false_iff] at hglued
    have hleft (more : List Char) : Spells l.tokens l.toText.toList (op.symbol.toList ++ more) :=
      spells_tokens he.1 hglued.1.2 (stopsAt_operator op more)
        fun hends => head?_operator fun hop => by simp [hop, hends] at hglued
    have hright : Spells r.tokens r.toText.toList (')' :: after) :=
      spells_tokens he.2 hglued.2 (stopsAt_cons rfl) (by simp)
    exact spells_binary he.2 hleft hright
  | unary .negate x, he, hglued, _, h, hslash => by
    rw [WellFormed] at he
    rw [glued] at hglued
    rw [tokens, toText, String.toList_append]
    exact (spells_symbol rfl).append (spells_tokens he hglued h hslash)
  | unary .plus x, he, hglued, _, h, hslash => by
    rw [WellFormed] at he
    rw [glued] at hglued
    rw [tokens, toText, String.toList_append]
    exact (spells_symbol rfl).append (spells_tokens he hglued h hslash)
  | unary .percent x, he, hglued, _, _, _ => by
    rw [WellFormed] at he
    rw [glued] at hglued
    rw [tokens, toText, String.toList_append]
    refine Spells.append ?_ (spells_symbol rfl)
    -- A percent sign comes after the operand, which therefore cannot stand in front of a slash.
    cases x.isUnary with
    | true =>
      simp only [if_true, String.toList_append, String.reduceToList]
      exact ((spells_symbol rfl).append
        (spells_tokens he hglued (stopsAt_cons rfl) (by simp))).append (spells_symbol rfl)
    | false => exact spells_tokens he hglued (stopsAt_cons rfl) (by simp)
  | call f args, he, hglued, after, _, _ => by
    rw [WellFormed] at he
    rw [glued, gluedList_eq, List.any_eq_false] at hglued
    have harg {e : Expr} (hmem : e ∈ args) {after : List Char} (h : StopsAt continues after)
        (hslash : after.head? ≠ some '/') : Spells e.tokens e.toText.toList after :=
      spells_tokensOfList he.2 e hmem (Bool.not_eq_true _ ▸ hglued e hmem) h hslash
    exact spells_call he.1.toIsName (fun e hmem _ => harg hmem (stopsAt_cons rfl) (by simp))
      fun e hmem => harg hmem (stopsAt_cons rfl) (by simp)
  | array rows, he, _, after, _, _ => by
    rw [WellFormed] at he
    exact spells_array (fun row hrow => (he.2.2 row hrow).2) after

theorem spells_tokensOfList : ∀ {es : List Expr}, WellFormedList es → ∀ e ∈ es, e.glued = false →
    ∀ {after : List Char}, StopsAt continues after → after.head? ≠ some '/' →
      Spells e.tokens e.toText.toList after
  | x :: xs, he, e, hmem, hglued, _, h, hslash => by
    rw [WellFormedList] at he
    rcases List.mem_cons.mp hmem with heq | hmem
    · rw [heq] at hglued ⊢
      exact spells_tokens he.1 hglued h fun _ => hslash
    · exact spells_tokensOfList he.2 e hmem hglued h hslash

end

theorem faults_slash : ∀ {e : Expr}, e.endsInError = true → ∀ {after : List Char},
    Faults e.toText.toList ('/' :: after)
  | literal (.error x), _, _ => by
    rw [toText]
    exact faults_error x.kind
  | unary .negate x, h, _ => by
    rw [endsInError] at h
    rw [toText, String.toList_append]
    exact spells_minus.faults (faults_slash h)
  | unary .plus x, h, _ => by
    rw [endsInError] at h
    rw [toText, String.toList_append]
    exact spells_plus.faults (faults_slash h)

mutual

/-- An error literal in front of a slash keeps a text from being scanned. -/
theorem faults_glued : ∀ {e : Expr}, e.WellFormed → e.glued = true → ∀ {after : List Char},
    StopsAt continues after → Faults e.toText.toList after
  | binary op l r, he, hglued, after, _ => by
    rw [WellFormed] at he
    rw [glued, Bool.or_eq_true, Bool.or_eq_true, Bool.and_eq_true, beq_iff_eq] at hglued
    simp only [toText, String.toList_append, String.reduceToList]
    -- The first part that cannot be scanned decides: the left operand, or else the right one.
    by_cases hleft : (op = .divide ∧ l.endsInError = true) ∨ l.glued = true
    · refine ((spells_leftParen.faults ?_).append).append.append
      rcases hleft with ⟨rfl, hends⟩ | hleft
      · simpa [BinaryOp.symbol] using faults_slash hends
      · simpa using faults_glued he.1 hleft (stopsAt_operator op _)
    · have hgood : l.glued = false := Bool.not_eq_true _ ▸ fun h => hleft (.inr h)
      have hleft (more : List Char) : Spells l.tokens l.toText.toList (op.symbol.toList ++ more) :=
        spells_tokens he.1 hgood (stopsAt_operator op more)
          fun hends => head?_operator fun hop => hleft (.inl ⟨hop, hends⟩)
      have hright : Faults r.toText.toList (')' :: after) :=
        faults_glued he.2 (hglued.resolve_left ‹_›) (stopsAt_cons rfl)
      exact (((spells_leftParen.append (hleft _)).append
        (spells_operator (stopsAt_toText he.2 _))).faults hright).append
  | unary .negate x, he, hglued, _, h => by
    rw [WellFormed] at he
    rw [glued] at hglued
    rw [toText, String.toList_append]
    exact spells_minus.faults (faults_glued he hglued h)
  | unary .plus x, he, hglued, _, h => by
    rw [WellFormed] at he
    rw [glued] at hglued
    rw [toText, String.toList_append]
    exact spells_plus.faults (faults_glued he hglued h)
  | unary .percent x, he, hglued, _, _ => by
    rw [WellFormed] at he
    rw [glued] at hglued
    rw [toText, String.toList_append]
    refine Faults.append ?_
    cases x.isUnary with
    | true =>
      simp only [if_true, String.toList_append, String.reduceToList]
      exact (spells_leftParen.faults (faults_glued he hglued (stopsAt_cons rfl))).append
    | false => exact faults_glued he hglued (stopsAt_cons rfl)
  | call f args, he, hglued, after, _ => by
    rw [WellFormed] at he
    rw [glued, gluedList_eq, List.any_eq_true] at hglued
    rw [toList_callText]
    refine Faults.append ?_
    refine ((spells_function he.1.toIsName).append (spells_symbol rfl)).faults ?_
    have hgood : ∀ e ∈ args, e.glued = false → ∀ more,
        Spells e.tokens e.toText.toList (',' :: more) := fun e hmem hgood more =>
      spells_tokensOfList he.2 e hmem hgood (stopsAt_cons rfl) (by simp)
    refine faults_intercalate (rfl : symbol? ',' = some .comma) hgood ?_ ?_ hglued
    · exact fun e hmem hbad more => faults_gluedList he.2 e hmem hbad (stopsAt_cons rfl)
    · exact fun e hmem hbad => faults_gluedList he.2 e hmem hbad (stopsAt_cons rfl)

theorem faults_gluedList : ∀ {es : List Expr}, WellFormedList es → ∀ e ∈ es, e.glued = true →
    ∀ {after : List Char}, StopsAt continues after → Faults e.toText.toList after
  | x :: xs, he, e, hmem, hglued, _, h => by
    rw [WellFormedList] at he
    rcases List.mem_cons.mp hmem with heq | hmem
    · rw [heq] at hglued ⊢
      exact faults_glued he.1 hglued h
    · exact faults_gluedList he.2 e hmem hglued h

end

end Expr

end Spreadsheet.Formula
