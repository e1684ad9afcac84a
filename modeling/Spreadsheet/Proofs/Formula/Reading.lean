import Spreadsheet.Proofs.Formula.Acceptance
import Spreadsheet.Proofs.Formula.Spelling

/-! What the parser makes of tokens, operand by operand: each kind of operand is read up to a token
that does not go on with it, and every opening token takes one of the nesting levels left. -/

namespace Spreadsheet.Formula

/-- What a parser makes of the given tokens in front of a token, or of the end, that has the
property `Q`: a tree, with the tokens behind, or an error. -/
def Reads (p : Scan → Except ParseError (Parsed Expr)) (Q : Option Token → Prop) (ts : List Token)
    (result : Option Expr) : Prop :=
  ∀ s rest, Begins ts s rest → rest.Clean → Q rest.head? → (p s).toOption = result.map (·, rest)

/-- The tokens that end a range operand. -/
def EndsRange (t : Option Token) : Prop := t ≠ some .colon ∧ t ≠ some .leftParen

def EndsPostfix (t : Option Token) : Prop := EndsRange t ∧ t ≠ some .percent

def EndsSigned (t : Option Token) : Prop := EndsPostfix t ∧ t ≠ some .caret

/-- The tokens that end an expression. -/
def EndsExpression (t : Option Token) : Prop := t = none ∨ t = some .rightParen ∨ t = some .comma

section

variable {α β : Type} {t : Token} {p : Nat} {rest : Scan}

@[simp]
theorem toOption_bind {x : Except ParseError α} {f : α → Except ParseError β} :
    (x >>= f).toOption = x.toOption.bind fun a => (f a).toOption := by
  cases x <;> rfl

theorem check_of_clean (h : rest.Clean) : rest.check = .ok rest := by
  cases rest with
  | fault e => exact h.elim
  | _ => rfl

theorem advance_token (h : rest.Clean) : (Scan.token t p rest).advance = .ok rest :=
  check_of_clean h

end

section

variable {operand : OperandParser} {op? : Token → Option BinaryOp} {room : Nat}
  {Q Q' : Option Token → Prop} {ts us : List Token} {result : Option Expr}

theorem toOption_chainRest {left : Expr} {s : Scan} (h : s.head?.bind op? = none) :
    chainRest op? operand room left s = .ok (left, s) := by
  cases room <;> rw [chainRest, h]

/-- A chain in front of none of its operators is its first operand. -/
theorem Reads.chain (h : Reads (operand room) Q ts result)
    (hQ : ∀ t, Q' t → Q t ∧ t.bind op? = none) :
    Reads (chain op? operand room) Q' ts result := by
  intro s rest hs hrest hend
  obtain ⟨hend, hop⟩ := hQ _ hend
  rw [Formula.chain, toOption_bind, h s rest hs hrest hend]
  cases result with
  | none => rfl
  | some e => simp [toOption_chainRest hop, Except.toOption]

/-- A chain of two operands. -/
theorem Reads.chain_binary {op : BinaryOp} {left right : Option Expr}
    (hl : Reads (operand (room + 1)) Q ts left) (hr : Reads (operand room) Q us right)
    (hop : op? op.token = some op) (hQop : Q (some op.token))
    (hQ : ∀ t, Q' t → Q t ∧ t.bind op? = none) :
    Reads (Formula.chain op? operand (room + 1)) Q' (ts ++ [op.token] ++ us)
      (left.bind fun a => right.map fun b => .binary op a b) := by
  intro s rest hs hrest hend
  obtain ⟨hend, hstop⟩ := hQ _ hend
  obtain ⟨middle, hleft, hright⟩ := hs.split
  obtain ⟨before, hleft, hop'⟩ := hleft.split
  obtain ⟨p, rfl⟩ := hop'.exists_singleton
  have hmiddle : middle.Clean := hright.clean_iff.mpr hrest
  rw [Formula.chain, toOption_bind, hl s _ hleft hmiddle hQop]
  cases left with
  | none => rfl
  | some a =>
    have hhead : (Scan.token op.token p middle).head?.bind op? = some op := hop
    simp only [Option.map_some, Option.bind_some, chainRest, hhead, advance_token hmiddle]
    change (operand room middle >>= _).toOption = _
    rw [toOption_bind, hr middle rest hright hrest hend]
    cases right with
    | none => rfl
    | some b => simp [toOption_chainRest hstop, Except.toOption]

end

/-- What is read inside one more nesting level. -/
def deeper (result : Nat → Option Expr) : Nat → Option Expr
  | 0 => none
  | levels + 1 => result levels

section

variable {levels room : Nat} {Q : Option Token → Prop} {ts us : List Token}
  {result : Nat → Option Expr}

theorem EndsExpression.endsSigned {t : Option Token} (h : EndsExpression t) : EndsSigned t := by
  rcases h with rfl | rfl | rfl <;> simp [EndsSigned, EndsPostfix, EndsRange]

theorem endsSigned_operator {op : BinaryOp} (h : op ≠ .power) : EndsSigned (some op.token) := by
  cases op <;> simp [EndsSigned, EndsPostfix, EndsRange, BinaryOp.token] at h ⊢

theorem EndsExpression.bind_eq_none {t : Option Token} (h : EndsExpression t) :
    t.bind comparisonOp? = none ∧ t.bind sumOp? = none ∧ t.bind concatOp? = none ∧
      t.bind productOp? = none := by
  rcases h with rfl | rfl | rfl <;> exact ⟨rfl, rfl, rfl, rfl⟩

theorem Reads.end_chain {operand : OperandParser} {op? : Token → Option BinaryOp}
    {e : Option Expr} (h : Reads (operand room) EndsExpression ts e)
    (hop : ∀ t, EndsExpression t → t.bind op? = none) :
    Reads (Formula.chain op? operand room) EndsExpression ts e :=
  h.chain fun t ht => ⟨ht, hop t ht⟩

/-- An operand that is followed by no operator is an expression. -/
theorem Reads.expression {e : Option Expr}
    (h : Reads (signedOperand levels room) EndsSigned ts e) :
    Reads (Formula.expression (signedOperand levels) room) EndsExpression ts e := by
  have hproduct : Reads (Formula.chain productOp? (signedOperand levels) room) EndsExpression ts e :=
    h.chain fun t ht => ⟨ht.endsSigned, ht.bind_eq_none.2.2.2⟩
  exact ((hproduct.end_chain fun t ht => ht.bind_eq_none.2.2.1).end_chain
    fun t ht => ht.bind_eq_none.2.1).end_chain fun t ht => ht.bind_eq_none.1

/-- What may stand behind an operand of `op` in parentheses. -/
def EndsOperand (op : BinaryOp) (t : Option Token) : Prop :=
  EndsExpression t ∨ t = some op.token

theorem Reads.end_operand {operand : OperandParser} {op? : Token → Option BinaryOp}
    {op : BinaryOp} {e : Option Expr} (h : Reads (operand room) (EndsOperand op) ts e)
    (hop : op? op.token = none) (hend : ∀ t, EndsExpression t → t.bind op? = none) :
    Reads (Formula.chain op? operand room) (EndsOperand op) ts e :=
  h.chain fun t ht => ⟨ht, ht.elim (hend t) fun h => by rw [h]; exact hop⟩

/-- The level of chains that an operator belongs to. -/
theorem operator_level {op : BinaryOp} (h : op ≠ .power) :
    productOp? op.token = some op ∨
      productOp? op.token = none ∧ (concatOp? op.token = some op ∨
        concatOp? op.token = none ∧ (sumOp? op.token = some op ∨
          sumOp? op.token = none ∧ comparisonOp? op.token = some op)) := by
  cases op <;> simp [BinaryOp.token, productOp?, concatOp?, sumOp?, comparisonOp?] at h ⊢

theorem Reads.expression_binary {op : BinaryOp} {left right : Option Expr} (hop : op ≠ .power)
    (hl : Reads (signedOperand levels (room + 1)) EndsSigned ts left)
    (hr : Reads (signedOperand levels room) EndsSigned us right) :
    Reads (Formula.expression (signedOperand levels) (room + 1)) EndsExpression
      (ts ++ [op.token] ++ us) (left.bind fun a => right.map fun b => .binary op a b) := by
  have hoperand {room : Nat} {ts : List Token} {e : Option Expr}
      (h : Reads (signedOperand levels room) EndsSigned ts e) :
      Reads (signedOperand levels room) (EndsOperand op) ts e := fun s rest hs hrest hend =>
    h s rest hs hrest (hend.elim EndsExpression.endsSigned fun h => h ▸ endsSigned_operator hop)
  have hstop : ∀ t, EndsExpression t → EndsOperand op t := fun t => .inl
  have htoken : EndsOperand op (some op.token) := .inr rfl
  have hproduct (t) (h : EndsExpression t) : t.bind productOp? = none := h.bind_eq_none.2.2.2
  have hconcat (t) (h : EndsExpression t) : t.bind concatOp? = none := h.bind_eq_none.2.2.1
  have hsum (t) (h : EndsExpression t) : t.bind sumOp? = none := h.bind_eq_none.2.1
  have hcomparison (t) (h : EndsExpression t) : t.bind comparisonOp? = none := h.bind_eq_none.1
  -- Chains below the level of the operator pass on its operands, those above it the result.
  rcases operator_level hop with h | ⟨h₁, h | ⟨h₂, h | ⟨h₃, h⟩⟩⟩
  · have hchain := (hoperand hl).chain_binary (hoperand hr) h htoken
      fun t ht => ⟨hstop t ht, hproduct t ht⟩
    exact ((hchain.end_chain hconcat).end_chain hsum).end_chain hcomparison
  · have hl₁ := (hoperand hl).end_operand h₁ hproduct
    have hr₁ := (hoperand hr).end_operand h₁ hproduct
    have hchain := hl₁.chain_binary hr₁ h htoken fun t ht => ⟨hstop t ht, hconcat t ht⟩
    exact (hchain.end_chain hsum).end_chain hcomparison
  · have hl₂ := ((hoperand hl).end_operand h₁ hproduct).end_operand h₂ hconcat
    have hr₂ := ((hoperand hr).end_operand h₁ hproduct).end_operand h₂ hconcat
    have hchain := hl₂.chain_binary hr₂ h htoken fun t ht => ⟨hstop t ht, hsum t ht⟩
    exact hchain.end_chain hcomparison
  · have hl₃ := (((hoperand hl).end_operand h₁ hproduct).end_operand h₂ hconcat).end_operand h₃ hsum
    have hr₃ := (((hoperand hr).end_operand h₁ hproduct).end_operand h₂ hconcat).end_operand h₃ hsum
    exact hl₃.chain_binary hr₃ h htoken fun t ht => ⟨hstop t ht, hcomparison t ht⟩

/-- Whether a token can begin the text of an expression. -/
def Opens (t : Token) : Prop := t ≠ .rightParen ∧ t ≠ .comma

/-- What a parser makes of tokens inside any number of levels, if its room suffices for them. -/
def ReadsAt (p : (inner : Option OperandParser) → OperandParser) (Q : Option Token → Prop)
    (ts : List Token) (result : Nat → Option Expr) : Prop :=
  ∀ levels room, 2 * levels + 1 ≤ room →
    Reads (p (inside levels) room) Q ts (result levels)

theorem ReadsAt.mono {p : (inner : Option OperandParser) → OperandParser}
    {Q' : Option Token → Prop} (h : ReadsAt p Q ts result) (hQ : ∀ t, Q' t → Q t) :
    ReadsAt p Q' ts result := fun levels room hroom s rest hs hrest hend =>
  h levels room hroom s rest hs hrest (hQ _ hend)

theorem enter_succ {s : Scan} : (enter (inside (levels + 1)) (room + 1) s).toOption =
    some (signedStep (inside levels), room) := by
  rw [enter_inside]
  rfl

theorem exists_room (h : 2 * levels + 1 ≤ room) : ∃ n, room = n + 1 ∧ 2 * levels ≤ n :=
  ⟨room - 1, by omega, by omega⟩

/-- Tokens in parentheses. -/
theorem ReadsAt.paren
    (h : ∀ levels room, 2 * levels + 2 ≤ room →
      Reads (Formula.expression (signedStep (inside levels)) room) EndsExpression ts
        (result levels))
    {t : Token} (ht : ts.head? = some t) (hopen : Opens t) :
    ReadsAt primary (fun _ => True) ([.leftParen] ++ ts ++ [.rightParen]) (deeper result) := by
  intro levels room hroom s rest hs hrest _
  obtain ⟨n, rfl, hn⟩ := exists_room hroom
  obtain ⟨before, hs, hclose⟩ := hs.split
  obtain ⟨q, rfl⟩ := hclose.exists_singleton
  obtain ⟨p, middle, rfl, hts⟩ := hs.exists_token
  have hmiddle : middle.Clean := hts.clean_iff.mpr hrest
  have hhead := hts.head?_eq ht
  rw [primary, Scan.head?]
  simp only [advance_token hmiddle]
  -- The first token inside is no closing parenthesis, so the group is not an empty one.
  change (pure middle >>= _ : Except ParseError (Parsed Expr)).toOption = _
  rw [pure_bind, hhead]
  split
  · rename_i hparen
    exact absurd (Option.some.inj hparen) hopen.1
  · cases levels with
    | zero => rfl
    | succ levels =>
      have hread := h levels n (by omega) middle _ hts hrest (.inr (.inl rfl))
      rw [toOption_bind, enter_succ, Option.bind_some, toOption_bind]
      simp only [hread]
      cases hresult : result levels with
      | none => simp [deeper, hresult]
      | some e =>
        simp only [deeper, hresult, Option.map_some, Option.bind_some, Scan.head?,
          advance_token hrest]
        rfl

theorem ReadsAt.range (h : ReadsAt primary EndsRange ts result) :
    ReadsAt rangeOperand EndsRange ts result := by
  intro levels room hroom s rest hs hrest hend
  rw [rangeOperand, toOption_bind, h levels room hroom s rest hs hrest hend]
  cases result levels with
  | none => rfl
  | some e =>
    simp only [Option.map_some, Option.bind_some]
    split
    · exact absurd ‹_› hend.1
    · rfl

theorem percents_eq {e : Expr} {s : Scan} (h : s.head? ≠ some .percent) :
    percents room e s = .ok (e, s) := by
  cases room <;> rw [percents] <;> split <;> first | exact absurd ‹_› h | rfl

theorem percents_percent {e : Expr} {p : Nat} {rest : Scan} (h : rest.Clean)
    (hend : rest.head? ≠ some .percent) :
    percents (room + 1) e (.token .percent p rest) = .ok (.unary .percent e, rest) := by
  rw [percents, Scan.head?]
  simp only [advance_token h]
  exact percents_eq hend

theorem ReadsAt.percents (h : ReadsAt rangeOperand EndsRange ts result) :
    ReadsAt postfixOperand EndsPostfix ts result := by
  intro levels room hroom s rest hs hrest hend
  rw [postfixOperand, toOption_bind, h levels room hroom s rest hs hrest hend.1]
  cases result levels with
  | none => rfl
  | some e => simp [percents_eq hend.2, Except.toOption]

theorem ReadsAt.percent (h : ReadsAt rangeOperand EndsRange ts result) :
    ReadsAt postfixOperand EndsPostfix (ts ++ [.percent])
      (fun levels => (result levels).map (.unary .percent)) := by
  intro levels room hroom s rest hs hrest hend
  obtain ⟨n, rfl, hn⟩ := exists_room hroom
  obtain ⟨middle, hs, hpercent⟩ := hs.split
  obtain ⟨p, rfl⟩ := hpercent.exists_singleton
  have hstop : EndsRange (some .percent) := by simp [EndsRange]
  rw [postfixOperand, toOption_bind, h levels _ hroom s _ hs hrest hstop]
  simp only
  cases result levels with
  | none => rfl
  | some e => simp [percents_percent hrest hend.2, Except.toOption]

theorem ReadsAt.signed (h : ReadsAt postfixOperand EndsPostfix ts result)
    {t : Token} (ht : ts.head? = some t) (hsign : signOp? t = none) :
    ReadsAt signedStep EndsSigned ts result := by
  intro levels room hroom s rest hs hrest hend
  rw [signedStep, hs.head?_eq ht, Option.bind_some, hsign]
  simp only
  rw [powerOperand, toOption_bind, h levels room hroom s rest hs hrest hend.1]
  cases result levels with
  | none => rfl
  | some e =>
    simp only [Option.map_some, Option.bind_some]
    split
    · exact absurd ‹_› hend.2
    · rfl

theorem ReadsAt.power {exponent : Nat → Option Expr}
    (h : ReadsAt postfixOperand EndsPostfix ts result) {t : Token} (ht : ts.head? = some t)
    (hsign : signOp? t = none) (hexponent : ReadsAt signedStep EndsSigned us exponent) :
    ReadsAt signedStep EndsSigned (ts ++ [.caret] ++ us) fun levels =>
      (result levels).bind fun l => (deeper exponent levels).map fun r => .binary .power l r := by
  intro levels room hroom s rest hs hrest hend
  obtain ⟨n, rfl, hn⟩ := exists_room hroom
  obtain ⟨middle, hs, hright⟩ := hs.split
  obtain ⟨before, hleft, hcaret⟩ := hs.split
  obtain ⟨p, rfl⟩ := hcaret.exists_singleton
  have hmiddle : middle.Clean := hright.clean_iff.mpr hrest
  have hstop : EndsPostfix (some .caret) := by simp [EndsPostfix, EndsRange]
  rw [signedStep, hleft.head?_eq ht, Option.bind_some, hsign]
  simp only
  rw [powerOperand, toOption_bind, h levels _ hroom s _ hleft hmiddle hstop]
  cases result levels with
  | none => rfl
  | some l =>
    simp only [Option.map_some, Option.bind_some, Scan.head?, advance_token hmiddle]
    -- The exponent is read one level deeper, with its own sign.
    change (enter (inside levels) (n + 1) middle >>= _).toOption = _
    cases levels with
    | zero => rfl
    | succ levels =>
      rw [toOption_bind, enter_succ, Option.bind_some, toOption_bind,
        hexponent levels n (by omega) middle rest hright hrest hend]
      cases hresult : exponent levels with
      | none => simp [deeper, hresult]
      | some r => simp [deeper, hresult, Except.toOption, pure, Except.pure]

theorem ReadsAt.sign {t : Token} {op : UnaryOp} (ht : signOp? t = some op)
    (h : ReadsAt signedStep EndsSigned ts result) :
    ReadsAt signedStep EndsSigned ([t] ++ ts) fun levels =>
      (deeper result levels).map (.unary op) := by
  intro levels room hroom s rest hs hrest hend
  obtain ⟨n, rfl, hn⟩ := exists_room hroom
  obtain ⟨p, middle, rfl, hts⟩ := hs.exists_token
  have hmiddle : middle.Clean := hts.clean_iff.mpr hrest
  rw [signedStep, Scan.head?, Option.bind_some, ht]
  simp only [advance_token hmiddle]
  change (enter (inside levels) (n + 1) middle >>= _).toOption = _
  cases levels with
  | zero => rfl
  | succ levels =>
    rw [toOption_bind, enter_succ, Option.bind_some, toOption_bind,
      h levels n (by omega) middle rest hts hrest hend]
    cases hresult : result levels with
    | none => simp [deeper, hresult]
    | some e => simp [deeper, hresult, Except.toOption, pure, Except.pure]

end

section

variable {Q : Option Token → Prop}

/-- The tokens that are operands by themselves. -/
def Token.operand? : Token → Option Expr
  | number x => some (.number x)
  | text s => some (.literal (.text s))
  | boolean b => some (.literal (.boolean b))
  | error kind => some (.literal (.error (.plain kind)))
  | cell a => some (.reference a)
  | _ => none

theorem readsAt_operand {t : Token} {e : Expr} (h : t.operand? = some e) :
    ReadsAt primary Q [t] fun _ => some e := by
  intro levels room _ s rest hs hrest _
  obtain ⟨p, rfl⟩ := hs.exists_singleton
  rw [primary, Scan.head?]
  cases t <;> simp only [Token.operand?, Option.some.injEq, reduceCtorEq] at h <;> subst h <;>
    simp only [advance_token hrest] <;> rfl

theorem readsAt_name {s : String} : ReadsAt primary EndsRange [.identifier s]
    fun _ => some (.name s) := by
  intro levels room _ t rest hs hrest hend
  obtain ⟨p, rfl⟩ := hs.exists_singleton
  rw [primary, Scan.head?]
  simp only [advance_token hrest]
  change (pure rest >>= _ : Except ParseError (Parsed Expr)).toOption = _
  rw [pure_bind]
  split
  · exact absurd ‹_› hend.2
  · rfl

theorem readsAt_corners (a b : Address) :
    ReadsAt rangeOperand EndsRange [.cell a, .colon, .cell b]
      fun _ => some (.range (.ofCorners a b)) := by
  intro levels room hroom s rest hs hrest _
  obtain ⟨p, colon, rfl, hcolon⟩ := hs.exists_token
  obtain ⟨q, corner, rfl, hcorner⟩ := hcolon.exists_token
  obtain ⟨n, rfl⟩ := hcorner.exists_singleton
  have hfirst : ReadsAt primary (fun _ => True) [.cell a] fun _ => some (.reference a) :=
    readsAt_operand rfl
  have hadvance : (Scan.token .colon q (.token (.cell b) n rest)).advance =
      .ok (.token (.cell b) n rest) := advance_token hrest
  rw [rangeOperand, toOption_bind, hfirst levels room hroom (.token (.cell a) p _)
    (.token .colon q (.token (.cell b) n rest)) (.cons .nil) hrest trivial]
  have hlast : (Scan.token (.cell b) n rest).advance = .ok rest := advance_token hrest
  simp only [Option.map_some, Option.bind_some, Scan.head?, hadvance]
  simp only [bind, Except.bind, hlast]
  rfl

end

section

variable {levels room fuel p : Nat} {function : String} {rest : Scan}
  {argument : Scan → Except ParseError (Parsed Expr)}

/-- One more argument, unless there is none to be read. -/
theorem arguments_succ {t : Token} {acc : List Expr} {s : Scan} (ht : s.head? = some t)
    (hopen : Opens t) : arguments function argument (fuel + 1) acc s = (do
      let (arg, s) ← argument s
      match s.head? with
      | some .comma => do arguments function argument fuel (arg :: acc) (← s.advance)
      | some .rightParen => return ((arg :: acc).reverse, ← s.advance)
      | some t => s.fail (.badSeparator function t)
      | none => s.fail (.missingCallParen function)) := by
  rw [arguments, ht]
  split
  · exact absurd (Option.some.inj ‹_›) hopen.2
  · exact absurd (Option.some.inj ‹_›) hopen.1
  · rfl

theorem arguments_last {t : Token} {e : Option Expr} {acc : List Expr} {s : Scan}
    (ht : s.head? = some t) (hopen : Opens t) (hrest : rest.Clean)
    (h : (argument s).toOption = e.map (·, .token .rightParen p rest)) :
    (arguments function argument (fuel + 1) acc s).toOption =
      e.map fun a => ((a :: acc).reverse, rest) := by
  rw [arguments_succ ht hopen, toOption_bind, h]
  cases e with
  | none => rfl
  | some a =>
    simp only [Option.map_some, Option.bind_some, Scan.head?, advance_token hrest]
    rfl

theorem arguments_comma {t : Token} {e : Option Expr} {acc : List Expr} {s : Scan}
    (ht : s.head? = some t) (hopen : Opens t) (hrest : rest.Clean)
    (h : (argument s).toOption = e.map (·, .token .comma p rest)) :
    (arguments function argument (fuel + 1) acc s).toOption =
      e.bind fun a => (arguments function argument fuel (a :: acc) rest).toOption := by
  rw [arguments_succ ht hopen, toOption_bind, h]
  cases e with
  | none => rfl
  | some a =>
    simp only [Option.map_some, Option.bind_some, Scan.head?, advance_token hrest]
    rfl

/-- The arguments of a call up to its closing parenthesis. -/
theorem reads_arguments {tokens : Expr → List Token} {result : Expr → Option Expr}
    {es : List Expr} (hne : es ≠ [])
    (hread : ∀ e ∈ es, Reads argument EndsExpression (tokens e) (result e))
    (hopen : ∀ e ∈ es, ∃ t, (tokens e).head? = some t ∧ Opens t) {acc : List Expr} {s : Scan}
    (hs : Begins ([.comma].intercalate (es.map tokens) ++ [.rightParen]) s rest)
    (hrest : rest.Clean) (hfuel : s.length ≤ fuel) :
    (arguments function argument fuel acc s).toOption =
      (es.mapM result).map fun args => (acc.reverse ++ args, rest) := by
  -- Each step of the loop takes an argument and a comma; the last one meets the parenthesis.
  induction es generalizing acc s fuel with
  | nil => exact absurd rfl hne
  | cons e es ih =>
    obtain ⟨t, ht, hopens⟩ := hopen e List.mem_cons_self
    have hargument := hread e List.mem_cons_self
    cases es with
    | nil =>
      rw [List.map_singleton, List.intercalate_singleton] at hs
      obtain ⟨middle, harg, hclose⟩ := hs.split
      obtain ⟨p, rfl⟩ := hclose.exists_singleton
      have hlength := harg.length_eq
      obtain ⟨n, rfl⟩ : ∃ n, fuel = n + 1 := ⟨fuel - 1, by simp [Scan.length] at hlength; omega⟩
      rw [arguments_last (harg.head?_eq ht) hopens hrest
        (hargument s _ harg hrest (.inr (.inl rfl)))]
      cases hresult : result e <;> simp [hresult]
    | cons e' es =>
      rw [List.map_cons, List.map_cons, List.intercalate_cons_cons, ← List.map_cons,
        List.append_assoc] at hs
      obtain ⟨before, harg, hmore⟩ := hs.split
      obtain ⟨middle, harg, hcomma⟩ := harg.split
      obtain ⟨p, rfl⟩ := hcomma.exists_singleton
      have hbefore : before.Clean := hmore.clean_iff.mpr hrest
      have hlength := harg.length_eq
      simp only [Scan.length] at hlength
      obtain ⟨n, rfl⟩ : ∃ n, fuel = n + 1 := ⟨fuel - 1, by omega⟩
      rw [arguments_comma (harg.head?_eq ht) hopens hbefore
        (hargument s _ harg hbefore (.inr (.inr rfl)))]
      have hih (a : Expr) : (arguments function argument n (a :: acc) before).toOption =
          ((e' :: es).mapM result).map fun args => ((a :: acc).reverse ++ args, rest) :=
        ih (by simp) (fun x hx => hread x (List.mem_cons_of_mem e hx))
          (fun x hx => hopen x (List.mem_cons_of_mem e hx)) hmore (by omega)
      rw [List.mapM_cons]
      cases result e with
      | none => rfl
      | some a =>
        simp only [Option.bind_some, hih]
        cases (e' :: es).mapM result <;> simp

theorem head?_arguments {tokens : Expr → List Token} {e : Expr} {es : List Expr} {t : Token}
    {s : Scan} (hs : Begins ([.comma].intercalate ((e :: es).map tokens) ++ [.rightParen]) s rest)
    (ht : (tokens e).head? = some t) : s.head? = some t := by
  refine hs.head?_eq ?_
  cases es <;> simp [List.intercalate_cons_cons, List.head?_append, ht]

/-- A call from its opening parenthesis on. -/
theorem callTail_eq {f : String} {tokens : Expr → List Token} {result : Expr → Nat → Option Expr}
    {es : List Expr}
    (h : ∀ e ∈ es, ∀ levels room, 2 * levels + 2 ≤ room →
      Reads (Formula.expression (signedStep (inside levels)) room) EndsExpression (tokens e)
        (result e levels))
    (hopen : ∀ e ∈ es, ∃ t, (tokens e).head? = some t ∧ Opens t) {n : Nat} (hn : 2 * levels ≤ n)
    {middle : Scan}
    (hargs : Begins ([.comma].intercalate (es.map tokens) ++ [.rightParen]) middle rest)
    (hrest : rest.Clean) :
    (callTail (inside levels) f (n + 1) (.token .leftParen p middle)).toOption =
      (deeper (fun levels => (es.mapM (result · levels)).map (.call f)) levels).map (·, rest) := by
  rw [callTail, advance_token (hargs.clean_iff.mpr hrest)]
  change (enter (inside levels) (n + 1) middle >>= _).toOption = _
  cases levels with
  | zero => rfl
  | succ levels =>
    rw [toOption_bind, enter_succ, Option.bind_some]
    simp only [deeper]
    cases es with
    | nil =>
      obtain ⟨r, rfl⟩ := hargs.exists_singleton
      simp only [Scan.head?, advance_token hrest]
      rfl
    | cons e es =>
      obtain ⟨t, ht, hopens⟩ := hopen e List.mem_cons_self
      have hread : (arguments f (expression (signedStep (inside levels)) n) (middle.length + 1) []
          middle).toOption = ((e :: es).mapM (result · levels)).map fun args => (args, rest) :=
        reads_arguments (by simp) (fun x hx => h x hx levels n (by omega)) hopen hargs hrest
          (Nat.le_succ _)
      rw [head?_arguments hargs ht]
      split
      · exact absurd (Option.some.inj ‹_›) hopens.1
      · rw [toOption_bind, hread]
        cases (e :: es).mapM (result · levels) <;> rfl

/-- A call with its arguments in parentheses. -/
theorem readsAt_call {f : String} (hf : f.toUpper = f) {tokens : Expr → List Token}
    {result : Expr → Nat → Option Expr} {es : List Expr}
    (h : ∀ e ∈ es, ∀ levels room, 2 * levels + 2 ≤ room →
      Reads (Formula.expression (signedStep (inside levels)) room) EndsExpression (tokens e)
        (result e levels))
    (hopen : ∀ e ∈ es, ∃ t, (tokens e).head? = some t ∧ Opens t) :
    ReadsAt primary EndsRange
      ([.identifier f] ++ [.leftParen] ++ [.comma].intercalate (es.map tokens) ++ [.rightParen])
      (deeper fun levels => (es.mapM (result · levels)).map (.call f)) := by
  intro levels room hroom s rest hs hrest _
  obtain ⟨n, rfl, hn⟩ := exists_room hroom
  rw [List.append_assoc, List.append_assoc] at hs
  obtain ⟨paren, hname, hparen⟩ := hs.split
  obtain ⟨p, rfl⟩ := hname.exists_singleton
  obtain ⟨middle, hopening, hargs⟩ := hparen.split
  obtain ⟨q, rfl⟩ := hopening.exists_singleton
  have hmiddle : middle.Clean := hargs.clean_iff.mpr hrest
  have hadvance : (Scan.token (.identifier f) p (.token .leftParen q middle)).advance =
    .ok (.token .leftParen q middle) := advance_token hmiddle
  rw [primary, Scan.head?]
  simp only [hadvance]
  change (callTail (inside levels) f.toUpper (n + 1) (.token .leftParen q middle)).toOption = _
  rw [hf]
  exact callTail_eq h hopen hn hargs hrest

end

section

variable {levels room fuel p : Nat} {rest : Scan}

/-- A pair of tokens and a tree such that an element of an array constant is read as the tree. -/
def ReadsElement (x : List Token × Expr) : Prop :=
  ∀ s rest, Begins x.1 s rest → rest.Clean → element s = .ok (x.2, rest)

theorem elementValue_literal {t : Token} {c : Cell} (ht : t.literal? = some c)
    (hrest : rest.Clean) : elementValue false (.token t p rest) = .ok (.literal c, rest) := by
  cases t <;> cases ht <;> simp only [elementValue, Scan.head?, advance_token hrest] <;> rfl

theorem DerivesElement.reads {x : List Token × Expr} (h : DerivesElement x.1 x.2) :
    ReadsElement x := by
  obtain ⟨ts, e⟩ := x
  intro s rest hs hrest
  cases h with
  | @literal t c ht =>
    obtain ⟨p, rfl⟩ := hs.exists_singleton
    rw [element, Scan.head?]
    split
    · cases Option.some.inj ‹_›; cases ht
    · cases Option.some.inj ‹_›; cases ht
    · exact elementValue_literal ht hrest
  | @plus t c ht =>
    obtain ⟨p, middle, rfl, hvalue⟩ := hs.exists_token
    obtain ⟨q, rfl⟩ := hvalue.exists_singleton
    have hadvance : (Scan.token .plus p (.token t q rest)).advance = .ok (.token t q rest) :=
      advance_token hrest
    simp only [element, Scan.head?, hadvance]
    exact elementValue_literal ht hrest
  | minus x =>
    obtain ⟨p, middle, rfl, hvalue⟩ := hs.exists_token
    obtain ⟨q, rfl⟩ := hvalue.exists_singleton
    have hadvance : (Scan.token .minus p (.token (.number x) q rest)).advance =
        .ok (.token (.number x) q rest) := advance_token hrest
    simp only [element, Scan.head?, hadvance, bind, Except.bind, elementValue, advance_token hrest]
    rfl

/-- The tokens that an element is written with. -/
theorem derivesElement_elementTokens {e : Expr} (he : IsElement e) :
    DerivesElement (elementTokens e) e := by
  cases e with
  | literal c =>
    cases c with
    | blank => exact he.elim
    | number x =>
      rw [elementTokens]
      split
      · have h := DerivesElement.minus (-x)
        rwa [Number.neg_neg_of_isFinite he] at h
      · exact .literal rfl
    | error x =>
      obtain ⟨kind, detail⟩ := x
      obtain rfl : detail = none := he
      exact .literal rfl
    | _ => exact .literal rfl
  | _ => exact he.elim

section

variable {x : List Token × Expr} {row : List Expr} {rows : List (List Expr)} {value : Scan}

theorem elements_comma (hx : ReadsElement x) (hvalue : Begins x.1 value rest)
    (hrest : rest.Clean) : elements (fuel + 1) row rows (.token .comma p value) =
      elements fuel (x.2 :: row) rows rest := by
  rw [elements, Scan.head?]
  simp only [advance_token (hvalue.clean_iff.mpr hrest), bind, Except.bind,
    hx value rest hvalue hrest]

theorem elements_semicolon (hx : ReadsElement x) (hvalue : Begins x.1 value rest)
    (hrest : rest.Clean) : elements (fuel + 1) row rows (.token .semicolon p value) =
      elements fuel [x.2] (row.reverse :: rows) rest := by
  rw [elements, Scan.head?]
  simp only [advance_token (hvalue.clean_iff.mpr hrest), bind, Except.bind,
    hx value rest hvalue hrest]

end

/-- The elements of a row that follow its first ones. -/
theorem elements_row (row : List Expr) (rows : List (List Expr)) {xs : List (List Token × Expr)}
    (hxs : ∀ x ∈ xs, ReadsElement x) {s : Scan}
    (hs : Begins (xs.flatMap fun x => [.comma] ++ x.1) s rest) (hrest : rest.Clean)
    (hfuel : s.length < fuel) :
    ∃ fuel', rest.length < fuel' ∧
      elements fuel row rows s = elements fuel' ((xs.map Prod.snd).reverse ++ row) rows rest := by
  induction xs generalizing row s fuel with
  | nil =>
    cases hs with
    | nil => exact ⟨fuel, hfuel, rfl⟩
  | cons x xs ih =>
    rw [List.flatMap_cons] at hs
    obtain ⟨middle, hfirst, hmore⟩ := hs.split
    obtain ⟨p, value, rfl, hvalue⟩ := hfirst.exists_token
    have hmiddle : middle.Clean := hmore.clean_iff.mpr hrest
    have hlength : value.length = x.1.length + middle.length := hvalue.length_eq
    rw [Scan.length] at hfuel
    obtain ⟨n, rfl⟩ : ∃ n, fuel = n + 1 := ⟨fuel - 1, by omega⟩
    obtain ⟨fuel', hfuel', heq⟩ := ih (x.2 :: row)
      (fun y hy => hxs y (List.mem_cons_of_mem x hy)) hmore (by omega : middle.length < n)
    refine ⟨fuel', hfuel', ?_⟩
    rw [elements_comma (hxs x List.mem_cons_self) hvalue hmiddle, heq]
    simp

/-- The rows that follow the first ones, up to the closing brace. -/
theorem elements_rows {more : List (List (List Token × Expr))} {row : List Expr}
    {rows : List (List Expr)} (hmore : ∀ xs ∈ more, xs ≠ [] ∧ ∀ x ∈ xs, ReadsElement x) {s : Scan}
    (hs : Begins (more.flatMap fun xs => [.semicolon] ++ rowText xs) s
      (.token .rightBrace p rest)) (hrest : rest.Clean) (hfuel : s.length < fuel) :
    elements fuel row rows s =
      .ok ((row.reverse :: rows).reverse ++ more.map (·.map Prod.snd),
        .token .rightBrace p rest) := by
  induction more generalizing row rows s fuel with
  | nil =>
    cases hs with
    | nil =>
      obtain ⟨n, rfl⟩ : ∃ n, fuel = n + 1 := ⟨fuel - 1, by omega⟩
      simp [elements, Scan.head?]
  | cons xs more ih =>
    obtain ⟨hne, hxs⟩ := hmore xs List.mem_cons_self
    obtain ⟨x, xs, rfl⟩ := List.exists_cons_of_ne_nil hne
    rw [List.flatMap_cons, rowText_cons] at hs
    obtain ⟨middle, hfirst, hlater⟩ := hs.split
    obtain ⟨before, hsemicolon, hrow⟩ := hfirst.split
    obtain ⟨q, rfl⟩ := hsemicolon.exists_singleton
    obtain ⟨tail, hbefore, htail⟩ := hrow.split
    have hmiddle : middle.Clean := hlater.clean_iff.mpr hrest
    have htailClean : tail.Clean := htail.clean_iff.mpr hmiddle
    have hlength : before.length = x.1.length + tail.length := hbefore.length_eq
    rw [Scan.length] at hfuel
    obtain ⟨n, rfl⟩ : ∃ n, fuel = n + 1 := ⟨fuel - 1, by omega⟩
    -- The first element is read with the semicolon, the others as the rest of a row.
    obtain ⟨fuel', hfuel', heq⟩ := elements_row [x.2] (row.reverse :: rows)
      (fun y hy => hxs y (List.mem_cons_of_mem x hy)) htail hmiddle (by omega : tail.length < n)
    rw [elements_semicolon (hxs x List.mem_cons_self) hbefore htailClean, heq,
      ih (fun ys hys => hmore ys (List.mem_cons_of_mem _ hys)) hlater hfuel']
    simp

/-- An array constant from its opening brace on. -/
theorem arrayConstant_eq {rows : List (List (List Token × Expr))} (hne : rows ≠ [])
    (hrows : ∀ row ∈ rows, row ≠ [] ∧ ∀ x ∈ row, ReadsElement x)
    (hrect : isRectangular (rows.map (·.map Prod.snd)) = true) {inner : Scan}
    (hs : Begins (rowsText rows ++ [.rightBrace]) inner rest) (hrest : rest.Clean) :
    arrayConstant (inside levels) room (.token .leftBrace p inner) =
      enter (inside levels) room inner >>= fun _ =>
        pure (.array (rows.map (·.map Prod.snd)), rest) := by
  -- The parser reads the first element by itself and all the others in one loop.
  obtain ⟨row, rows, rfl⟩ := List.exists_cons_of_ne_nil hne
  obtain ⟨hrow, helements⟩ := hrows row List.mem_cons_self
  obtain ⟨x, xs, rfl⟩ := List.exists_cons_of_ne_nil hrow
  rw [rowsText_cons, rowText_cons] at hs
  obtain ⟨close, hrows', hclose⟩ := hs.split
  obtain ⟨q, rfl⟩ := hclose.exists_singleton
  obtain ⟨middle, hfirst, hmore⟩ := hrows'.split
  obtain ⟨tail, hvalue, htail⟩ := hfirst.split
  have hmiddle : middle.Clean := hmore.clean_iff.mpr hrest
  have htailClean : tail.Clean := htail.clean_iff.mpr hmiddle
  have hinnerClean : inner.Clean := hvalue.clean_iff.mpr htailClean
  obtain ⟨fuel', hfuel', heq⟩ := elements_row [x.2] []
    (fun y hy => helements y (List.mem_cons_of_mem x hy)) htail hmiddle (Nat.lt_succ_self _)
  have hall : elements (tail.length + 1) [x.2] [] tail =
      .ok (((x :: xs) :: rows).map (·.map Prod.snd), .token .rightBrace q rest) := by
    rw [heq, elements_rows (fun ys hys => hrows ys (List.mem_cons_of_mem _ hys)) hmore hrest
      hfuel']
    simp
  have hfirst := helements x List.mem_cons_self inner tail hvalue htailClean
  rw [arrayConstant, advance_token hinnerClean]
  simp only [bind, Except.bind, hfirst, hall, hrect, if_true, advance_token hrest]

theorem readsAt_array {rows : List (List Expr)} (h : (Expr.array rows).WellFormed) :
    ReadsAt primary (fun _ => True) (Expr.array rows).tokens
      (deeper fun _ => some (.array rows)) := by
  intro levels room hroom s rest hs hrest _
  obtain ⟨n, rfl, hn⟩ := exists_room hroom
  rw [Expr.WellFormed] at h
  obtain ⟨hrect, hne, hrows⟩ := h
  have htrees : (rows.map (·.map fun e => (elementTokens e, e))).map (·.map Prod.snd) = rows := by
    simp [Function.comp_def]
  have htexts : rowsText (rows.map (·.map fun e => (elementTokens e, e))) = [.semicolon].intercalate
      (rows.map fun row => [.comma].intercalate (row.map elementTokens)) := by
    simp [rowsText, rowText, Function.comp_def]
  have hread : ∀ row ∈ rows.map (·.map fun e => (elementTokens e, e)),
      row ≠ [] ∧ ∀ x ∈ row, ReadsElement x := by
    simp only [List.forall_mem_map, ne_eq, List.map_eq_nil_iff]
    exact fun row hrow => ⟨(hrows row hrow).1, fun e he =>
      (derivesElement_elementTokens ((hrows row hrow).2 e he)).reads⟩
  rw [Expr.tokens, ← htexts] at hs
  obtain ⟨p, inner, rfl, hinner⟩ := hs.exists_token
  rw [primary, Scan.head?]
  change (arrayConstant (inside levels) (n + 1) (.token .leftBrace p inner)).toOption = _
  rw [arrayConstant_eq (by simpa using hne) hread (htrees.symm ▸ hrect) hinner hrest, htrees]
  cases levels <;> rfl

end

end Spreadsheet.Formula
