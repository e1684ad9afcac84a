import Spreadsheet.Proofs.Formula.Reading

/-! What the grammar derives, the parser accepts, unless it runs into one of its two limits; and it
does not run into them when the levels and the room are at least as many as the tokens. -/

namespace Spreadsheet.Formula

/-- A failure for one of the two limits on depth. -/
def Exceeds {α : Type} (r : Except ParseError α) : Prop :=
  ∃ p, r = .error ⟨p, .nestedTooDeep⟩ ∨ r = .error ⟨p, .tooManyOperations⟩

/-- One result is the other one, unless the limits are not `enough` and it fails for one of them. -/
def Agrees {α : Type} (enough : Prop) (r r' : Except ParseError α) : Prop :=
  r = r' ∨ ¬ enough ∧ Exceeds r

section

variable {α β : Type} {enough enough' : Prop} {r r' r'' : Except ParseError α}

theorem Agrees.refl : Agrees enough r r := .inl rfl

theorem Agrees.mono (h : Agrees enough r r') (hen : enough' → enough) : Agrees enough' r r' :=
  h.imp id fun ⟨hnot, hr⟩ => ⟨mt hen hnot, hr⟩

theorem Agrees.trans (h : Agrees enough r r') (h' : Agrees enough r' r'') :
    Agrees enough r r'' := by
  rcases h with rfl | h
  · exact h'
  · exact .inr h

theorem Exceeds.bind {f : α → Except ParseError β} (h : Exceeds r) : Exceeds (r >>= f) := by
  obtain ⟨p, rfl | rfl⟩ := h
  · exact ⟨p, .inl rfl⟩
  · exact ⟨p, .inr rfl⟩

theorem Agrees.bind {a : α} {f : α → Except ParseError β} {q : Except ParseError β}
    (h : Agrees enough r (.ok a)) (hf : Agrees enough (f a) q) : Agrees enough (r >>= f) q := by
  rcases h with rfl | ⟨hnot, h⟩
  · exact hf
  · exact .inr ⟨hnot, h.bind⟩

theorem agrees_advance {t : Token} {p : Nat} {rest : Scan} {f : Scan → Except ParseError β}
    {q : Except ParseError β} (hrest : rest.Clean) (hf : Agrees enough (f rest) q) :
    Agrees enough ((Scan.token t p rest).advance >>= f) q := by
  rw [advance_token hrest]
  exact hf

theorem agrees_enter {levels room : Nat} {s : Scan}
    {f : OperandParser × Nat → Except ParseError β} {q : Except ParseError β}
    (hen : enough → 0 < levels ∧ 0 < room)
    (hf : ∀ l n, levels = l + 1 → room = n + 1 → Agrees enough (f (signedStep (inside l), n)) q) :
    Agrees enough (enter (inside levels) room s >>= f) q := by
  cases levels with
  | zero => exact .inr ⟨fun h => absurd (hen h).1 (Nat.lt_irrefl 0), s.position, .inl rfl⟩
  | succ l =>
    cases room with
    | zero => exact .inr ⟨fun h => absurd (hen h).2 (Nat.lt_irrefl 0), s.position, .inr rfl⟩
    | succ n =>
      rw [enter_inside]
      exact hf l n rfl rfl

end

/-- The loosest category whose phrases may go on with the token. -/
def Token.rank : Token → Nat
  | leftParen => 1
  | colon => 2
  | percent => 3
  | caret => 4
  | star | slash => 5
  | ampersand => 6
  | plus | minus => 7
  | equal | notEqual | lessThan | lessEqual | greaterThan | greaterEqual => 8
  | _ => 9

namespace Phrase

def rank : Phrase → Nat
  | primary => 1
  | range => 2
  | percentage => 3
  | signed | power => 4
  | chain .product => 5
  | chain .concat => 6
  | chain .sum => 7
  | chain .comparison => 8

def Ends (k : Phrase) (next : Option Token) : Prop := ∀ t, next = some t → k.rank < t.rank

/-- What phrases of a category begin with. -/
def first : Phrase → Phrase
  | chain l => l.operand
  | percentage => range
  | k => k

def parser (levels : Nat) : Phrase → OperandParser
  | primary => Formula.primary (inside levels)
  | range => rangeOperand (inside levels)
  | percentage => postfixOperand (inside levels)
  | power => powerOperand (inside levels)
  | signed => signedStep (inside levels)
  | chain .product => Formula.chain productOp? (signedStep (inside levels))
  | chain .concat => Formula.chain concatOp? (Formula.chain productOp? (signedStep (inside levels)))
  | chain .sum =>
    Formula.chain sumOp?
      (Formula.chain concatOp? (Formula.chain productOp? (signedStep (inside levels))))
  | chain .comparison => expression (signedStep (inside levels))

theorem parser_chain (levels : Nat) (l : Level) :
    (chain l).parser levels = Formula.chain l.operator? (l.operand.parser levels) := by
  cases l <;> rfl

/-- How the parser of a phrase goes on when it has read the phrase so far. -/
def resume (levels : Nat) : Phrase → (room : Nat) → Expr → Scan → Except ParseError (Parsed Expr)
  | chain l => chainRest l.operator? (l.operand.parser levels)
  | percentage => percents
  | _ => fun _ e s => .ok (e, s)

theorem rank_first_le (k : Phrase) : k.first.rank ≤ k.rank := by
  rcases k with (_ | _ | _ | _) | _ | _ | _ | _ | _ <;> decide

theorem rank_operand_lt (l : Level) : l.operand.rank < (chain l).rank := by cases l <;> decide

end Phrase

theorem Level.rank_operator {l : Level} {t : Token} {op : BinaryOp} (h : l.operator? t = some op) :
    t.rank = (Phrase.chain l).rank := by
  cases l <;> cases t <;> first | rfl | cases h

theorem Phrase.Ends.mono {k k' : Phrase} {next : Option Token} (h : k.Ends next)
    (hk : k'.rank ≤ k.rank) : k'.Ends next := fun t ht => Nat.lt_of_le_of_lt hk (h t ht)

theorem Phrase.ends_some {k : Phrase} {t : Token} (h : k.rank < t.rank) : k.Ends (some t) := by
  intro u hu
  obtain rfl := Option.some.inj hu
  exact h

theorem Phrase.resume_eq {k : Phrase} (levels room : Nat) {e : Expr} {s : Scan}
    (h : k.Ends s.head?) : k.resume levels room e s = .ok (e, s) := by
  cases k with
  | chain l =>
    refine toOption_chainRest ?_
    rw [Option.bind_eq_none_iff]
    intro t ht
    rw [Option.eq_none_iff_forall_not_mem]
    intro op hop
    have := h t ht
    rw [Level.rank_operator hop] at this
    exact Nat.lt_irrefl _ this
  | percentage =>
    refine percents_eq fun hpercent => ?_
    exact absurd (h .percent hpercent) (by decide)
  | _ => rfl

/-- The parser reads the tokens `ts` as the beginning of a phrase, with the tree `e`. -/
def Completes (k : Phrase) (ts : List Token) (e : Expr) : Prop :=
  ∀ levels room s rest, Begins ts s rest → rest.Clean → k.first.Ends rest.head? →
    ∃ used < ts.length, Agrees (ts.length ≤ levels ∧ ts.length ≤ room) (k.parser levels room s)
      (k.resume levels (room - used) e rest)

section

variable {k : Phrase} {l : Level} {ts us : List Token} {e f : Expr}

theorem Completes.ends (h : Completes k ts e) {levels room : Nat} {s rest : Scan}
    (hs : Begins ts s rest) (hrest : rest.Clean) (hend : k.Ends rest.head?) :
    Agrees (ts.length ≤ levels ∧ ts.length ≤ room) (k.parser levels room s) (.ok (e, rest)) := by
  obtain ⟨used, -, hagrees⟩ := h levels room s rest hs hrest (hend.mono k.rank_first_le)
  rwa [Phrase.resume_eq _ _ hend] at hagrees

theorem completes_operand (hne : ts ≠ []) (h : Completes l.operand ts e) :
    Completes (.chain l) ts e := by
  intro levels room s rest hs hrest hend
  refine ⟨0, List.length_pos_of_ne_nil hne, ?_⟩
  rw [Phrase.parser_chain]
  exact (h.ends hs hrest hend).bind .refl

theorem completes_operation {t : Token} {op : BinaryOp} (left : Completes (.chain l) ts e)
    (hop : l.operator? t = some op) (right : Completes l.operand us f) :
    Completes (.chain l) (ts ++ [t] ++ us) (.binary op e f) := by
  intro levels room s rest hs hrest hend
  obtain ⟨middle, hs, hus⟩ := hs.split
  obtain ⟨before, hts, ht⟩ := hs.split
  obtain ⟨p, rfl⟩ := ht.exists_singleton
  have hmiddle : middle.Clean := hus.clean_iff.mpr hrest
  have hstop : l.operand.Ends (some t) := Phrase.ends_some (by
    rw [Level.rank_operator hop]
    exact Phrase.rank_operand_lt l)
  obtain ⟨used, hused, hleft⟩ := left levels room s _ hts hmiddle hstop
  refine ⟨used + 1, by simp; omega, ?_⟩
  refine (hleft.mono fun h => ?_).trans ?_
  · simp at h
    omega
  · have hhead : (Scan.token t p middle).head?.bind l.operator? = some op := hop
    rw [Phrase.resume]
    generalize hn : room - used = n
    cases n with
    | zero =>
      rw [chainRest, hhead]
      refine .inr ⟨fun h => ?_, ?_⟩
      · simp at h
        omega
      · simp only [advance_token hmiddle]
        exact ⟨middle.position, .inr rfl⟩
    | succ n =>
      rw [chainRest, hhead]
      refine agrees_advance hmiddle (((right.ends hus hrest hend).mono fun h => ?_).bind ?_)
      · simp at h
        omega
      · rw [show room - (used + 1) = n by omega]
        exact .refl

/-- A category whose phrases are not read piece by piece. -/
theorem completes_of_agrees (hk : k.first = k) (hne : ts ≠ [])
    (h : ∀ levels room s rest, Begins ts s rest → rest.Clean → k.Ends rest.head? →
      Agrees (ts.length ≤ levels ∧ ts.length ≤ room) (k.parser levels room s) (.ok (e, rest))) :
    Completes k ts e := by
  intro levels room s rest hs hrest hend
  rw [hk] at hend
  refine ⟨0, List.length_pos_of_ne_nil hne, ?_⟩
  rw [Phrase.resume_eq _ _ hend]
  exact h levels room s rest hs hrest hend

theorem completes_sign {t : Token} {op : UnaryOp} (ht : signOp? t = some op)
    (h : Completes .signed ts e) : Completes .signed ([t] ++ ts) (.unary op e) := by
  refine completes_of_agrees rfl (by simp) fun levels room s rest hs hrest hend => ?_
  obtain ⟨p, middle, rfl, hts⟩ := hs.exists_token
  rw [Phrase.parser, signedStep, Scan.head?, Option.bind_some, ht]
  refine agrees_advance (hts.clean_iff.mpr hrest) (agrees_enter ?_ fun l n hl hn => ?_)
  · simp
    omega
  · subst hl hn
    refine ((h.ends hts hrest hend).mono fun hen => ?_).bind .refl
    simp at hen
    omega

theorem completes_unsigned {t : Token} (ht : ts.head? = some t) (hsign : signOp? t = none)
    (h : Completes .power ts e) : Completes .signed ts e := by
  refine completes_of_agrees rfl (by rintro rfl; simp at ht) fun levels room s rest hs hrest hend => ?_
  rw [Phrase.parser, signedStep, hs.head?_eq ht, Option.bind_some, hsign]
  exact h.ends hs hrest hend

theorem completes_base (hne : ts ≠ []) (h : Completes .percentage ts e) :
    Completes .power ts e := by
  refine completes_of_agrees rfl hne fun levels room s rest hs hrest hend => ?_
  rw [Phrase.parser, powerOperand]
  refine (h.ends hs hrest (hend.mono (by decide))).bind ?_
  simp only
  split
  · exact absurd (hend .caret ‹_›) (by decide)
  · exact .refl

theorem completes_power (left : Completes .percentage ts e) (right : Completes .signed us f) :
    Completes .power (ts ++ [.caret] ++ us) (.binary .power e f) := by
  refine completes_of_agrees rfl (by simp) fun levels room s rest hs hrest hend => ?_
  obtain ⟨middle, hs, hus⟩ := hs.split
  obtain ⟨before, hts, hcaret⟩ := hs.split
  obtain ⟨p, rfl⟩ := hcaret.exists_singleton
  have hmiddle : middle.Clean := hus.clean_iff.mpr hrest
  have hstop : Phrase.percentage.Ends (some .caret) := Phrase.ends_some (by decide)
  rw [Phrase.parser, powerOperand]
  refine ((left.ends hts hmiddle hstop).mono fun hen => ?_).bind ?_
  · simp at hen
    omega
  · simp only [Scan.head?]
    refine agrees_advance hmiddle (agrees_enter ?_ fun l n hl hn => ?_)
    · simp
      omega
    · subst hl hn
      refine ((right.ends hus hrest hend).mono fun hen => ?_).bind .refl
      simp at hen
      omega

theorem completes_whole (hne : ts ≠ []) (h : Completes .range ts e) :
    Completes .percentage ts e := by
  intro levels room s rest hs hrest hend
  refine ⟨0, List.length_pos_of_ne_nil hne, ?_⟩
  exact (h.ends hs hrest hend).bind .refl

theorem completes_percent (h : Completes .percentage ts e) :
    Completes .percentage (ts ++ [.percent]) (.unary .percent e) := by
  intro levels room s rest hs hrest hend
  obtain ⟨middle, hts, hpercent⟩ := hs.split
  obtain ⟨p, rfl⟩ := hpercent.exists_singleton
  have hstop : Phrase.range.Ends (some .percent) := Phrase.ends_some (by decide)
  obtain ⟨used, hused, hagrees⟩ := h levels room s _ hts hrest hstop
  refine ⟨used + 1, by simp; omega, (hagrees.mono fun hen => ?_).trans ?_⟩
  · simp at hen
    omega
  · rw [Phrase.resume]
    generalize hn : room - used = n
    cases n with
    | zero =>
      rw [percents, Scan.head?]
      refine .inr ⟨fun hen => ?_, ?_⟩
      · simp at hen
        omega
      · simp only [advance_token hrest]
        exact ⟨rest.position, .inr rfl⟩
    | succ n =>
      rw [percents, Scan.head?, show room - (used + 1) = n by omega]
      exact agrees_advance hrest .refl

theorem completes_single (hne : ts ≠ []) (h : Completes .primary ts e) : Completes .range ts e := by
  refine completes_of_agrees rfl hne fun levels room s rest hs hrest hend => ?_
  rw [Phrase.parser, rangeOperand]
  refine (h.ends hs hrest (hend.mono (by decide))).bind ?_
  simp only
  split
  · exact absurd (hend .colon ‹_›) (by decide)
  · exact .refl

theorem completes_corners {a : Address} (b : Address) (h : Completes .primary ts (.reference a)) :
    Completes .range (ts ++ [.colon, .cell b]) (.range (.ofCorners a b)) := by
  refine completes_of_agrees rfl (by simp) fun levels room s rest hs hrest hend => ?_
  obtain ⟨middle, hts, hcolon⟩ := hs.split
  obtain ⟨p, corner, rfl, hcorner⟩ := hcolon.exists_token
  obtain ⟨q, rfl⟩ := hcorner.exists_singleton
  have hstop : Phrase.primary.Ends (some .colon) := Phrase.ends_some (by decide)
  rw [Phrase.parser, rangeOperand]
  refine ((h.ends hts hrest hstop).mono fun hen => ?_).bind ?_
  · simp at hen
    omega
  · simp only [Scan.head?]
    exact agrees_advance hrest (agrees_advance hrest .refl)

theorem completes_literal {t : Token} {c : Cell} (h : t.literal? = some c) :
    Completes .primary [t] (.literal c) := by
  refine completes_of_agrees rfl (by simp) fun levels room s rest hs hrest hend => ?_
  obtain ⟨p, rfl⟩ := hs.exists_singleton
  rw [Phrase.parser, primary, Scan.head?]
  cases t <;> cases h <;> exact agrees_advance hrest .refl

theorem completes_reference (a : Address) : Completes .primary [.cell a] (.reference a) := by
  refine completes_of_agrees rfl (by simp) fun levels room s rest hs hrest hend => ?_
  obtain ⟨p, rfl⟩ := hs.exists_singleton
  rw [Phrase.parser, primary, Scan.head?]
  exact agrees_advance hrest .refl

theorem completes_name (n : String) : Completes .primary [.identifier n] (.name n) := by
  refine completes_of_agrees rfl (by simp) fun levels room s rest hs hrest hend => ?_
  obtain ⟨p, rfl⟩ := hs.exists_singleton
  rw [Phrase.parser, primary, Scan.head?]
  refine agrees_advance hrest ?_
  split
  · exact absurd (hend .leftParen ‹_›) (by decide)
  · exact .refl

theorem completes_paren {t : Token} (ht : ts.head? = some t) (hopen : Opens t)
    (h : Completes (.chain .comparison) ts e) :
    Completes .primary ([.leftParen] ++ ts ++ [.rightParen]) e := by
  refine completes_of_agrees rfl (by simp) fun levels room s rest hs hrest hend => ?_
  obtain ⟨middle, hs, hclose⟩ := hs.split
  obtain ⟨q, rfl⟩ := hclose.exists_singleton
  obtain ⟨p, inner, rfl, hts⟩ := hs.exists_token
  have hstop : (Phrase.chain .comparison).Ends (some .rightParen) := Phrase.ends_some (by decide)
  rw [Phrase.parser, primary, Scan.head?]
  refine agrees_advance (hts.clean_iff.mpr hrest) ?_
  rw [hts.head?_eq ht]
  split
  · exact absurd (Option.some.inj ‹_›) hopen.1
  · refine agrees_enter ?_ fun l n hl hn => ?_
    · simp
      omega
    · subst hl hn
      refine ((h.ends hts hrest hstop).mono fun hen => ?_).bind ?_
      · simp at hen
        omega
      · simp only [Scan.head?]
        exact agrees_advance hrest .refl

theorem sublist_rowText {x : List Token × Expr} {row : List (List Token × Expr)} (h : x ∈ row) :
    x.1.Sublist (rowText row) := by
  obtain ⟨pre, post, heq, -⟩ := exists_intercalate Token.comma (List.mem_map_of_mem h)
  rw [rowText, heq]
  exact (List.sublist_append_right pre x.1).trans (List.sublist_append_left _ post)

theorem agrees_arguments {enough : Prop} {function : String} {levels room : Nat}
    {args : List (List Token × Expr)} (hne : args ≠ [])
    (hargs : ∀ arg ∈ args, Completes (.chain .comparison) arg.1 arg.2)
    (hopen : ∀ arg ∈ args, ∃ t, arg.1.head? = some t ∧ Opens t)
    (hen : ∀ arg ∈ args, enough → arg.1.length ≤ levels ∧ arg.1.length ≤ room) {fuel : Nat}
    {acc : List Expr} {s rest : Scan} (hs : Begins (rowText args ++ [.rightParen]) s rest)
    (hrest : rest.Clean) (hfuel : s.length ≤ fuel) :
    Agrees enough
      (arguments function (expression (signedStep (inside levels)) room) fuel acc s)
      (.ok (acc.reverse ++ args.map Prod.snd, rest)) := by
  induction args generalizing acc s fuel with
  | nil => exact absurd rfl hne
  | cons arg args ih =>
    obtain ⟨t, ht, hopens⟩ := hopen arg List.mem_cons_self
    have hargument := hargs arg List.mem_cons_self
    have harglen := hen arg List.mem_cons_self
    cases args with
    | nil =>
      rw [rowText_singleton] at hs
      obtain ⟨middle, harg, hclose⟩ := hs.split
      obtain ⟨p, rfl⟩ := hclose.exists_singleton
      have hlength := harg.length_eq
      rw [Scan.length] at hlength
      obtain ⟨n, rfl⟩ : ∃ n, fuel = n + 1 := ⟨fuel - 1, by omega⟩
      have hstop : (Phrase.chain .comparison).Ends (some .rightParen) :=
        Phrase.ends_some (by decide)
      rw [arguments_succ (harg.head?_eq ht) hopens]
      refine ((hargument.ends harg hrest hstop).mono harglen).bind ?_
      rw [List.map_singleton, ← List.reverse_cons]
      exact agrees_advance hrest .refl
    | cons next args =>
      rw [rowText_cons_cons, List.append_assoc] at hs
      obtain ⟨before, harg, hmore⟩ := hs.split
      obtain ⟨middle, harg, hcomma⟩ := harg.split
      obtain ⟨p, rfl⟩ := hcomma.exists_singleton
      have hbefore : before.Clean := hmore.clean_iff.mpr hrest
      have hlength := harg.length_eq
      rw [Scan.length] at hlength
      obtain ⟨n, rfl⟩ : ∃ n, fuel = n + 1 := ⟨fuel - 1, by omega⟩
      have hstop : (Phrase.chain .comparison).Ends (some .comma) := Phrase.ends_some (by decide)
      have hih : Agrees enough (arguments function _ n (arg.2 :: acc) before) _ :=
        ih (by simp) (fun x hx => hargs x (List.mem_cons_of_mem arg hx))
          (fun x hx => hopen x (List.mem_cons_of_mem arg hx))
          (fun x hx => hen x (List.mem_cons_of_mem arg hx)) hmore (by omega)
      rw [arguments_succ (harg.head?_eq ht) hopens]
      refine ((hargument.ends harg hbefore hstop).mono harglen).bind ?_
      rw [List.map_cons, List.append_cons, ← List.reverse_cons]
      exact agrees_advance hbefore hih

theorem completes_call (f : String) {args : List (List Token × Expr)}
    (hargs : ∀ arg ∈ args, Completes (.chain .comparison) arg.1 arg.2)
    (hopen : ∀ arg ∈ args, ∃ t, arg.1.head? = some t ∧ Opens t) :
    Completes .primary ([.identifier f, .leftParen] ++ rowText args ++ [.rightParen])
      (.call f.toUpper (args.map Prod.snd)) := by
  refine completes_of_agrees rfl (by simp) fun levels room s rest hs hrest hend => ?_
  rw [List.append_assoc] at hs
  obtain ⟨inner, hname, hinner⟩ := hs.split
  obtain ⟨p, paren, rfl, hparen⟩ := hname.exists_token
  obtain ⟨q, rfl⟩ := hparen.exists_singleton
  have hclean : inner.Clean := hinner.clean_iff.mpr hrest
  rw [Phrase.parser, primary, Scan.head?]
  refine agrees_advance hclean ?_
  simp only [Scan.head?]
  rw [callTail]
  refine agrees_advance hclean (agrees_enter ?_ fun l n hl hn => ?_)
  · simp
    omega
  · subst hl hn
    cases args with
    | nil =>
      obtain ⟨r, rfl⟩ := hinner.exists_singleton
      exact agrees_advance hrest .refl
    | cons arg args =>
      obtain ⟨t, ht, hopens⟩ := hopen arg List.mem_cons_self
      have hhead : inner.head? = some t := hinner.head?_eq (by
        rw [rowText_cons, List.append_assoc, List.head?_append, ht, Option.some_or])
      simp only [hhead]
      split
      · exact absurd (Option.some.inj ‹_›) hopens.1
      · refine (agrees_arguments (by simp) hargs hopen (fun x hx hen => ?_) hinner hrest
          (Nat.le_succ _)).bind .refl
        have := (sublist_rowText hx).length_le
        simp at hen
        omega

theorem completes_array {rows : List (List (List Token × Expr))} (hne : rows ≠ [])
    (hrows : ∀ row ∈ rows, row ≠ [] ∧ ∀ x ∈ row, DerivesElement x.1 x.2)
    (hrect : isRectangular (rows.map (·.map Prod.snd)) = true) :
    Completes .primary ([.leftBrace] ++ rowsText rows ++ [.rightBrace])
      (.array (rows.map (·.map Prod.snd))) := by
  refine completes_of_agrees rfl (by simp) fun levels room s rest hs hrest hend => ?_
  obtain ⟨p, inner, rfl, hinner⟩ := hs.exists_token
  rw [Phrase.parser, primary, Scan.head?]
  simp only
  rw [arrayConstant_eq hne (fun row hrow => ⟨(hrows row hrow).1, fun x hx =>
    ((hrows row hrow).2 x hx).reads⟩) hrect hinner hrest]
  refine agrees_enter ?_ fun _ _ _ _ => .refl
  simp
  omega

end

def Phrase.mayBeSigned : Phrase → Bool
  | chain _ | signed => true
  | _ => false

theorem Derives.exists_head {k : Phrase} {ts : List Token} {e : Expr} (h : Derives k ts e) :
    ∃ t, ts.head? = some t ∧ Opens t ∧ (k.mayBeSigned = false → signOp? t = none) := by
  induction h with
  | operand _ ih =>
    obtain ⟨t, ht, hopen, -⟩ := ih
    exact ⟨t, ht, hopen, by simp [Phrase.mayBeSigned]⟩
  | operation _ _ _ ih =>
    obtain ⟨t, ht, hopen, -⟩ := ih
    exact ⟨t, by simp [ht], hopen, by simp [Phrase.mayBeSigned]⟩
  | @sign ts t op e ht _ _ =>
    refine ⟨t, rfl, ?_, by simp [Phrase.mayBeSigned]⟩
    cases t <;> cases ht <;> simp [Opens]
  | unsigned _ ih =>
    obtain ⟨t, ht, hopen, -⟩ := ih
    exact ⟨t, ht, hopen, by simp [Phrase.mayBeSigned]⟩
  | base _ ih | whole _ ih | single _ ih => exact ih
  | power _ _ ih | percent _ ih | corners _ _ ih =>
    obtain ⟨t, ht, hopen, hsign⟩ := ih
    exact ⟨t, by simp [ht], hopen, hsign⟩
  | @literal t c ht =>
    refine ⟨t, rfl, ?_, fun _ => ?_⟩
    · cases t <;> cases ht <;> simp [Opens]
    · cases t <;> cases ht <;> rfl
  | reference a => exact ⟨.cell a, rfl, by simp [Opens], fun _ => rfl⟩
  | name s | call s => exact ⟨.identifier s, rfl, by simp [Opens], fun _ => rfl⟩
  | paren => exact ⟨.leftParen, rfl, by simp [Opens], fun _ => rfl⟩
  | array => exact ⟨.leftBrace, rfl, by simp [Opens], fun _ => rfl⟩

theorem Derives.ne_nil {k : Phrase} {ts : List Token} {e : Expr} (h : Derives k ts e) :
    ts ≠ [] := by
  rintro rfl
  obtain ⟨t, ht, -⟩ := h.exists_head
  cases ht

theorem Derives.completes {k : Phrase} {ts : List Token} {e : Expr} (h : Derives k ts e) :
    Completes k ts e := by
  induction h with
  | operand h ih => exact completes_operand h.ne_nil ih
  | operation _ hop _ ihl ihr => exact completes_operation ihl hop ihr
  | sign ht _ ih => exact completes_sign ht ih
  | unsigned h ih =>
    obtain ⟨t, ht, -, hsign⟩ := h.exists_head
    exact completes_unsigned ht (hsign rfl) ih
  | base h ih => exact completes_base h.ne_nil ih
  | power _ _ ihl ihr => exact completes_power ihl ihr
  | whole h ih => exact completes_whole h.ne_nil ih
  | percent _ ih => exact completes_percent ih
  | single h ih => exact completes_single h.ne_nil ih
  | corners b _ ih => exact completes_corners b ih
  | literal h => exact completes_literal h
  | reference a => exact completes_reference a
  | name s => exact completes_name s
  | call f args h ih =>
    refine completes_call f ih fun arg harg => ?_
    obtain ⟨t, ht, hopen, -⟩ := (h arg harg).exists_head
    exact ⟨t, ht, hopen⟩
  | paren h ih =>
    obtain ⟨t, ht, hopen, -⟩ := h.exists_head
    exact completes_paren ht hopen ih
  | array rows hne hrows hrect => exact completes_array hne hrows hrect

theorem agrees_wholeExpression {ts : List Token} {e : Expr}
    (h : Derives (.chain .comparison) ts e) {s : Scan} (hs : s.tokens? = some ts) :
    Agrees (ts.length ≤ maxNesting ∧ ts.length ≤ maxHeight) (wholeExpression s) (.ok e) := by
  obtain ⟨p, hbegins⟩ := Scan.tokens?_eq_some.mp hs
  obtain ⟨t, ht, -⟩ := h.exists_head
  have hhead : s.head? = some t := hbegins.head?_eq ht
  have hread : Agrees _ ((Phrase.chain .comparison).parser maxNesting maxHeight s)
      (.ok (e, .finish p)) :=
    h.completes.ends hbegins trivial (by simp [Phrase.Ends, Scan.head?])
  rw [wholeExpression, check_of_clean (hbegins.clean_iff.mpr trivial), signedOperand_eq]
  simp only [bind, Except.bind, hhead]
  exact hread.bind .refl

/-- A formula whose tokens are derived is accepted, unless it runs into a limit. -/
theorem agrees_parse {s : String} {ts : List Token} {e : Expr} (hs : formulaTokens? s = some ts)
    (h : Derives (.chain .comparison) ts e) :
    Agrees (ts.length ≤ maxNesting ∧ ts.length ≤ maxHeight) (parse s) (.ok e) := by
  rw [formulaTokens?] at hs
  split at hs
  · rename_i cs hcs
    rw [parse, hcs]
    exact agrees_wholeExpression h hs
  · cases hs

theorem exists_begins (ts : List Token) : ∃ s, Begins ts s (.finish 0) := by
  induction ts with
  | nil => exact ⟨.finish 0, .nil⟩
  | cons t ts ih =>
    obtain ⟨s, hs⟩ := ih
    exact ⟨.token t 0 s, hs.cons⟩

/-- No tokens are a phrase in two ways: the parser, given enough levels and room, finds one tree. -/
theorem Derives.unique {k : Phrase} {ts : List Token} {e e' : Expr} (h : Derives k ts e)
    (h' : Derives k ts e') : e = e' := by
  obtain ⟨s, hs⟩ := exists_begins ts
  have hend : k.Ends (Scan.finish 0).head? := by simp [Phrase.Ends, Scan.head?]
  have hread {e : Expr} (h : Derives k ts e) :
      k.parser ts.length ts.length s = .ok (e, .finish 0) :=
    (h.completes.ends hs trivial hend).resolve_right fun hnot => hnot.1 ⟨le_rfl, le_rfl⟩
  have hboth := (hread h).symm.trans (hread h')
  simpa using hboth

/-- The parser implements the grammar: it accepts only what the tokens of a text derive; whatever they
derive is accepted, unless the tokens are more than the nesting levels and a limit on depth is
exceeded; and no tokens derive two trees. -/
theorem parse_grammar (s : String) :
    (∀ e, parse s = .ok e → ∃ ts, formulaTokens? s = some ts ∧ Derives (.chain .comparison) ts e) ∧
    (∀ ts e, formulaTokens? s = some ts → Derives (.chain .comparison) ts e →
      parse s = .ok e ∨ maxNesting < ts.length ∧ ∃ p, parse s = .error ⟨p, .nestedTooDeep⟩ ∨
        parse s = .error ⟨p, .tooManyOperations⟩) ∧
    ∀ ts e e', Derives (.chain .comparison) ts e → Derives (.chain .comparison) ts e' → e = e' := by
  refine ⟨fun e h => ?_, fun ts e hs h => ?_, fun ts e e' => Derives.unique⟩
  · obtain ⟨ts, hts, hfits⟩ := parse_fits h
    exact ⟨ts, hts, hfits.derives⟩
  · refine (agrees_parse hs h).imp id fun ⟨hnot, hexceeds⟩ => ⟨?_, hexceeds⟩
    by_contra hle
    have hmax : maxNesting ≤ maxHeight := by decide
    exact hnot ⟨Nat.le_of_not_lt hle, (Nat.le_of_not_lt hle).trans hmax⟩

/-- `A1^-B1%`: the percent sign belongs to the exponent, below its sign. -/
def signedExponent : Expr := .binary .power (.reference (.relative 0 0))
  (.unary .negate (.unary .percent (.reference (.relative 0 1))))

theorem scan_signedExponent : scanFrom 0 1 ['A', '1', '^', '-', 'B', '1', '%'] =
    .token (.cell (.relative 0 0)) 1 (.token .caret 3 (.token .minus 4
      (.token (.cell (.relative 0 1)) 5 (.token .percent 7 (.finish 8))))) := by cbv

theorem parse_signedExponent : parse "=A1^-B1%" = .ok signedExponent :=
  parse_of_scan (by cbv) scan_signedExponent rfl

theorem parse_grammar_signedExponent : ∃ ts, formulaTokens? "=A1^-B1%" = some ts ∧
    Derives (.chain .comparison) ts signedExponent ∧
      (∀ e, Derives (.chain .comparison) ts e → e = signedExponent) ∧
        (parse "=A1^-B1%" = .ok signedExponent ∨
          maxNesting < ts.length ∧ Exceeds (parse "=A1^-B1%")) := by
  obtain ⟨hsound, hcomplete, hunique⟩ := parse_grammar "=A1^-B1%"
  obtain ⟨ts, hts, hderives⟩ := hsound _ parse_signedExponent
  exact ⟨ts, hts, hderives, fun e he => hunique ts e _ he hderives, hcomplete ts _ hts hderives⟩

end Spreadsheet.Formula
