import Spreadsheet.Proofs.Formula.Reading

/-! What canonical text reads back as. A sign in front of a base is read as one in front of the
power, and every pair of parentheses takes a nesting level, so the tree that is read and the levels
that it takes are functions of the tree that was printed. -/

namespace Spreadsheet.Formula

namespace Expr

/-- The number of plus and minus signs in front of an operand. -/
def signs : Expr → Nat
  | unary .negate x => x.signs + 1
  | unary .plus x => x.signs + 1
  | _ => 0

/-- A power whose first `n` signs stand in front of it instead of its base. -/
def raise : (n : Nat) → (base exponent : Expr) → Expr
  | n + 1, unary op x, r => unary op (raise n x r)
  | _, l, r => binary .power l r

mutual

/-- The tree that canonical text reads back as. -/
def regroup : Expr → Expr
  | binary op l r =>
    if op = .power then raise l.signs l.regroup r.regroup else binary op l.regroup r.regroup
  | unary op x => unary op x.regroup
  | call f args => call f (regroupList args)
  | e => e

def regroupList : List Expr → List Expr
  | [] => []
  | e :: es => e.regroup :: regroupList es

end

mutual

/-- The nesting levels that reading canonical text takes. -/
def nesting : Expr → Nat
  | binary op l r =>
    max l.nesting (if op = .power then l.signs + 1 + r.nesting else r.nesting) + 1
  | unary op x => if op = .percent ∧ x.isUnary = false then x.nesting else x.nesting + 1
  | call _ args => nestingList args + 1
  | array _ => 1
  | _ => 0

def nestingList : List Expr → Nat
  | [] => 0
  | e :: es => max e.nesting (nestingList es)

end

/-- What reading canonical text yields when `levels` nesting levels may be opened. -/
def reread (e : Expr) (levels : Nat) : Option Expr :=
  if e.nesting ≤ levels then some e.regroup else none

/-- What reading a power without the parentheses around it yields. -/
def rereadPower (l r : Expr) (levels : Nat) : Option Expr :=
  if max l.nesting (l.signs + 1 + r.nesting) ≤ levels then
    some (raise l.signs l.regroup r.regroup)
  else none

/-- Without a sign in front, the first token of a text is no sign. -/
theorem exists_head : ∀ {e : Expr}, e.WellFormed →
    ∃ t, e.tokens.head? = some t ∧ Opens t ∧ (e.signs = 0 → signOp? t = none)
  | literal c, he => by
    rw [WellFormed] at he
    rw [tokens]
    cases c with
    | blank => exact he.elim
    | _ => exact ⟨_, rfl, by simp [Opens], fun _ => rfl⟩
  | reference a, _ => ⟨_, by rw [tokens]; rfl, by simp [Opens], fun _ => rfl⟩
  | range r, _ => ⟨_, by rw [tokens]; rfl, by simp [Opens], fun _ => rfl⟩
  | name s, _ => ⟨_, by rw [tokens]; rfl, by simp [Opens], fun _ => rfl⟩
  | binary op l r, _ => ⟨.leftParen, by simp [tokens], by simp [Opens], fun _ => rfl⟩
  | unary .negate x, _ => ⟨.minus, by simp [tokens], by simp [Opens], by simp [signs]⟩
  | unary .plus x, _ => ⟨.plus, by simp [tokens], by simp [Opens], by simp [signs]⟩
  | unary .percent x, he => by
    rw [WellFormed] at he
    obtain ⟨t, ht, hopens, hsign⟩ := exists_head he
    rw [tokens]
    cases hx : x.isUnary with
    | true => exact ⟨.leftParen, by simp, by simp [Opens], fun _ => rfl⟩
    | false =>
      refine ⟨t, by simp [List.head?_append, ht], hopens, fun _ => hsign ?_⟩
      cases x <;> simp [isUnary, signs] at hx ⊢
  | call f args, _ => ⟨.identifier f, by simp [tokens], by simp [Opens], fun _ => rfl⟩
  | array rows, _ => ⟨.leftBrace, by simp [tokens], by simp [Opens], fun _ => rfl⟩

variable {l r x : Expr} {op : BinaryOp}

theorem deeper_binary (h : op ≠ .power) :
    (deeper fun levels => (l.reread levels).bind fun a =>
      (r.reread levels).map fun b => .binary op a b) = (binary op l r).reread := by
  funext levels
  cases levels with
  | zero => simp [deeper, reread, nesting]
  | succ levels =>
    simp only [deeper, reread, nesting, regroup, h, if_false]
    by_cases hl : l.nesting ≤ levels <;> by_cases hr : r.nesting ≤ levels <;>
      simp [hl, hr]

theorem deeper_power : deeper (l.rereadPower r) = (binary .power l r).reread := by
  funext levels
  cases levels with
  | zero => simp [deeper, reread, nesting]
  | succ levels => simp [deeper, reread, rereadPower, nesting, regroup]

theorem raise_zero : raise 0 l r = binary .power l r := by
  rw [raise]
  simp

/-- Without a sign in front of the base nothing moves. -/
theorem bind_exponent (h : l.signs = 0) :
    (fun levels => (l.reread levels).bind fun a =>
      (deeper r.reread levels).map fun b => .binary .power a b) = l.rereadPower r := by
  funext levels
  cases levels with
  | zero => simp [deeper, rereadPower, h]
  | succ levels =>
    simp only [deeper, reread, rereadPower, h, raise_zero]
    by_cases hl : l.nesting ≤ levels + 1 <;> by_cases hr : r.nesting ≤ levels <;>
      simp [hl, hr, Nat.add_comm 1]

theorem deeper_rereadPower {op : UnaryOp} (h : op ≠ .percent) :
    (fun levels => (deeper (x.rereadPower r) levels).map (.unary op)) =
      (unary op x).rereadPower r := by
  have hsigns : (unary op x).signs = x.signs + 1 := by
    cases op <;> simp [signs] at h ⊢
  funext levels
  cases levels with
  | zero => simp [deeper, rereadPower, hsigns]
  | succ levels =>
    simp only [deeper, rereadPower, nesting, regroup, hsigns, raise, h]
    by_cases hx : x.nesting ≤ levels <;> by_cases hr : x.signs + 1 + r.nesting ≤ levels <;>
      simp_all [Nat.add_right_comm _ 1 r.nesting]

theorem deeper_sign {op : UnaryOp} (h : op ≠ .percent) :
    (fun levels => (deeper x.reread levels).map (.unary op)) = (unary op x).reread := by
  funext levels
  cases levels with
  | zero => simp [deeper, reread, nesting, h]
  | succ levels =>
    simp only [deeper, reread, nesting, regroup, h]
    by_cases hx : x.nesting ≤ levels <;> simp [hx]

theorem reread_percent (h : x.isUnary = false) :
    (fun levels => (x.reread levels).map (.unary .percent)) = (unary .percent x).reread := by
  funext levels
  simp only [reread, nesting, regroup, h]
  by_cases hx : x.nesting ≤ levels <;> simp [hx]

theorem deeper_percent (h : x.isUnary = true) :
    (fun levels => (deeper x.reread levels).map (.unary .percent)) =
      (unary .percent x).reread := by
  funext levels
  cases levels with
  | zero => simp [deeper, reread, nesting, h]
  | succ levels =>
    simp only [deeper, reread, nesting, regroup, h]
    by_cases hx : x.nesting ≤ levels <;> simp [hx]

/-- What the argument list of a call reads back as. -/
theorem mapM_reread (es : List Expr) (levels : Nat) : es.mapM (reread · levels) =
    if nestingList es ≤ levels then some (regroupList es) else none := by
  induction es with
  | nil => rfl
  | cons e es ih =>
    rw [List.mapM_cons, ih, reread, nestingList, regroupList]
    by_cases he : e.nesting ≤ levels <;> by_cases hes : nestingList es ≤ levels <;>
      simp [he, hes]

theorem deeper_call (f : String) (args : List Expr) :
    (deeper fun levels => (args.mapM (reread · levels)).map (.call f)) =
      (call f args).reread := by
  funext levels
  cases levels with
  | zero => simp [deeper, reread, nesting]
  | succ levels =>
    rw [deeper, mapM_reread, reread, nesting, regroup]
    by_cases h : nestingList args ≤ levels <;> simp [h]

theorem deeper_array (rows : List (List Expr)) :
    (deeper fun _ => some (.array rows)) = (array rows).reread := by
  funext levels
  cases levels <;> simp [deeper, reread, nesting, regroup]

/-- What is read of the tokens of a tree, alone and in front of a caret. -/
structure Rereads (e : Expr) : Prop where
  signed : ReadsAt signedStep EndsSigned e.tokens e.reread
  power : ∀ r : Expr, ReadsAt signedStep EndsSigned r.tokens r.reread →
    ReadsAt signedStep EndsSigned (e.tokens ++ [.caret] ++ r.tokens) (e.rereadPower r)
  range : e.isUnary = false → ReadsAt rangeOperand EndsRange e.tokens e.reread

theorem Rereads.expression {e : Expr} (h : e.Rereads) (levels room : Nat)
    (hroom : 2 * levels + 1 ≤ room) :
    Reads (Formula.expression (signedStep (inside levels)) room) EndsExpression e.tokens
      (e.reread levels) := by
  rw [← signedOperand_eq]
  exact Reads.expression (signedOperand_eq levels ▸ h.signed levels room hroom)

theorem Rereads.of_postfixOperand {e : Expr} (he : e.WellFormed) (hsigns : e.signs = 0)
    (h : ReadsAt postfixOperand EndsPostfix e.tokens e.reread)
    (hrange : e.isUnary = false → ReadsAt rangeOperand EndsRange e.tokens e.reread) :
    e.Rereads := by
  obtain ⟨t, ht, _, hsign⟩ := exists_head he
  refine ⟨h.signed ht (hsign hsigns), fun r hr => ?_, hrange⟩
  rw [← bind_exponent hsigns]
  exact h.power ht (hsign hsigns) hr

theorem Rereads.of_range {e : Expr} (he : e.WellFormed) (hunary : e.isUnary = false)
    (h : ReadsAt rangeOperand EndsRange e.tokens e.reread) : e.Rereads := by
  refine .of_postfixOperand he ?_ h.percents fun _ => h
  cases e <;> simp [isUnary, signs] at hunary ⊢

theorem Rereads.of_primary {e : Expr} (he : e.WellFormed) (hunary : e.isUnary = false)
    (h : ReadsAt primary EndsRange e.tokens e.reread) : e.Rereads :=
  .of_range he hunary h.range

theorem reread_of_nesting {e : Expr} (hnesting : e.nesting = 0) (hregroup : e.regroup = e) :
    e.reread = fun _ => some e := by
  funext levels
  simp [reread, hnesting, hregroup]

theorem Rereads.binary {op : BinaryOp} {l r : Expr} (he : (Expr.binary op l r).WellFormed)
    (hl : l.Rereads) (hr : r.Rereads) : (Expr.binary op l r).Rereads := by
  refine .of_primary he rfl ?_
  rw [WellFormed] at he
  obtain ⟨t, ht, hopens, _⟩ := exists_head he.1
  have hhead : (l.tokens ++ [op.token] ++ r.tokens).head? = some t := by
    simp [List.head?_append, ht]
  have htokens : (Expr.binary op l r).tokens =
      [.leftParen] ++ (l.tokens ++ [op.token] ++ r.tokens) ++ [.rightParen] := by
    simp [tokens]
  rw [htokens]
  -- A power is one operand, with the signs of its base in front; other operations are chains.
  by_cases hop : op = .power
  · subst hop
    rw [← deeper_power]
    refine (ReadsAt.paren (fun levels room hroom => ?_) hhead hopens).mono fun _ _ => trivial
    have hread := hl.power r hr.signed levels room (by omega)
    rw [← signedOperand_eq] at hread ⊢
    exact hread.expression
  · rw [← deeper_binary hop]
    refine (ReadsAt.paren (fun levels room hroom => ?_) hhead hopens).mono fun _ _ => trivial
    obtain ⟨n, rfl⟩ : ∃ n, room = n + 1 := ⟨room - 1, by omega⟩
    have hleft := hl.signed levels (n + 1) (by omega)
    have hright := hr.signed levels n (by omega)
    rw [← signedOperand_eq] at hleft hright ⊢
    exact Reads.expression_binary hop hleft hright

theorem Rereads.sign {op : UnaryOp} {t : Token} {x : Expr} (ht : signOp? t = some op)
    (htokens : (Expr.unary op x).tokens = [t] ++ x.tokens) (hop : op ≠ .percent)
    (hx : x.Rereads) : (Expr.unary op x).Rereads where
  signed := by
    rw [htokens, ← deeper_sign hop]
    exact hx.signed.sign ht
  power r hr := by
    rw [htokens, ← deeper_rereadPower hop, List.append_assoc, List.append_assoc,
      ← List.append_assoc x.tokens]
    exact (hx.power r hr).sign ht
  range h := by simp [isUnary] at h

theorem Rereads.percent {x : Expr} (he : (Expr.unary .percent x).WellFormed) (hx : x.Rereads) :
    (Expr.unary .percent x).Rereads := by
  refine .of_postfixOperand he rfl ?_ (by simp [isUnary])
  rw [WellFormed] at he
  obtain ⟨t, ht, hopens, _⟩ := exists_head he
  rw [tokens]
  cases hunary : x.isUnary with
  | true =>
    rw [← deeper_percent hunary, if_pos rfl]
    have hparen : ReadsAt primary (fun _ => True) ([.leftParen] ++ x.tokens ++ [.rightParen])
        (deeper x.reread) :=
      .paren (fun levels room hroom => hx.expression levels room (by omega)) ht hopens
    exact (hparen.mono fun _ _ => trivial).range.percent
  | false =>
    rw [← reread_percent hunary, if_neg (by simp)]
    exact (hx.range hunary).percent

theorem Rereads.call {f : String} {args : List Expr} (he : (Expr.call f args).WellFormed)
    (hargs : ∀ e ∈ args, e.Rereads) : (Expr.call f args).Rereads := by
  refine .of_primary he rfl ?_
  rw [WellFormed, wellFormedList_iff] at he
  rw [tokens, tokensOfList_eq, ← deeper_call]
  refine readsAt_call he.1.upper (fun e hmem levels room hroom => ?_) fun e hmem => ?_
  · exact (hargs e hmem).expression levels room (by omega)
  · obtain ⟨t, ht, hopens, _⟩ := exists_head (he.2 e hmem)
    exact ⟨t, ht, hopens⟩

theorem Rereads.of_operand {e : Expr} {t : Token} (he : e.WellFormed) (htokens : e.tokens = [t])
    (ht : t.operand? = some e) (hunary : e.isUnary = false) (hnesting : e.nesting = 0)
    (hregroup : e.regroup = e) : e.Rereads := by
  refine .of_primary he hunary ?_
  rw [htokens, reread_of_nesting hnesting hregroup]
  exact readsAt_operand ht

theorem Rereads.literal {c : Cell} (he : (Expr.literal c).WellFormed) :
    (Expr.literal c).Rereads := by
  have hc := he
  rw [WellFormed] at hc
  cases c with
  | blank => exact hc.elim
  | error x =>
    cases x
    obtain rfl : _ = none := hc
    exact .of_operand he (by rw [tokens]; rfl) rfl rfl rfl rfl
  | _ => exact .of_operand he (by rw [tokens]; rfl) rfl rfl rfl rfl

mutual

/-- The tokens of a well-formed tree read back as `reread` says. -/
theorem rereads : ∀ {e : Expr}, e.WellFormed → e.Rereads
  | literal c, he => .literal he
  | reference a, he => .of_operand he (by rw [tokens]) rfl rfl rfl rfl
  | range r, he => by
    refine .of_range he rfl ?_
    rw [WellFormed] at he
    -- The corners are put in order when they are read, and those of a range already are.
    have hread := readsAt_corners r.first r.last
    rw [Range.ofCorners_eq he] at hread
    rw [tokens, reread_of_nesting rfl rfl]
    exact hread
  | name s, he => by
    refine .of_primary he rfl ?_
    rw [tokens, reread_of_nesting rfl rfl]
    exact readsAt_name
  | binary op l r, he => by
    have hwell := he
    rw [WellFormed] at hwell
    exact .binary he (rereads hwell.1) (rereads hwell.2)
  | unary .negate x, he => by
    rw [WellFormed] at he
    exact .sign rfl (by rw [tokens]) (by decide) (rereads he)
  | unary .plus x, he => by
    rw [WellFormed] at he
    exact .sign rfl (by rw [tokens]) (by decide) (rereads he)
  | unary .percent x, he => by
    have hwell := he
    rw [WellFormed] at hwell
    exact .percent he (rereads hwell)
  | call f args, he => by
    have hwell := he
    rw [WellFormed] at hwell
    exact .call he (rereadsList hwell.2)
  | array rows, he => by
    refine .of_primary he rfl ?_
    rw [← deeper_array]
    exact (readsAt_array he).mono fun _ _ => trivial

theorem rereadsList : ∀ {es : List Expr}, WellFormedList es → ∀ e ∈ es, e.Rereads
  | x :: xs, he, e, hmem => by
    rw [WellFormedList] at he
    rcases List.mem_cons.mp hmem with heq | hmem
    · exact heq ▸ rereads he.1
    · exact rereadsList he.2 e hmem

end

end Expr

end Spreadsheet.Formula
