import Spreadsheet.Evaluation
import Spreadsheet.Proofs.Formula.Rereading
import Spreadsheet.Proofs.Formula.Soundness

/-! Canonical text as input. It is accepted unless an error literal touches a slash or its
parentheses are nested too deep, and it reads back as the tree that was printed unless a power has
a base with a sign, which is then read as the sign of the power. -/

namespace Spreadsheet.Formula

open Text

namespace Expr

mutual

/-- Whether no power has a base that begins with a sign. -/
def plainBases : Expr → Bool
  | binary op l r => !(op == .power && l.signs != 0) && l.plainBases && r.plainBases
  | unary _ x => x.plainBases
  | call _ args => plainBasesList args
  | _ => true

def plainBasesList : List Expr → Bool
  | [] => true
  | e :: es => e.plainBases && plainBasesList es

end

theorem same_literal {c : Cell} (h : IsElement (literal c)) : (literal c).same (literal c) = true := by
  rw [same]
  cases c with
  | blank => rfl
  | number x => exact Number.beq_self h
  | boolean b => exact beq_self_eq_true b
  | text s => exact beq_self_eq_true s
  | error x => exact beq_self_eq_true x.kind

theorem same_element {e : Expr} (h : IsElement e) : e.same e = true := by
  cases e with
  | literal c => exact same_literal h
  | _ => exact h.elim

theorem sameList_elements {es : List Expr} (h : ∀ e ∈ es, IsElement e) :
    sameList es es = true := by
  induction es with
  | nil => rw [sameList]
  | cons e es ih =>
    rw [List.forall_mem_cons] at h
    rw [sameList, same_element h.1, ih h.2]
    rfl

theorem sameRows_elements {rows : List (List Expr)} (h : ∀ row ∈ rows, ∀ e ∈ row, IsElement e) :
    sameRows rows rows = true := by
  induction rows with
  | nil => rw [sameRows]
  | cons row rows ih =>
    rw [List.forall_mem_cons] at h
    rw [sameRows, sameList_elements h.1, ih h.2]
    rfl

mutual

theorem same_self : ∀ {e : Expr}, e.WellFormed → e.same e = true
  | literal c, he => by
    rw [WellFormed] at he
    exact same_literal he.isElement
  | reference a, _ => by rw [same, beq_self_eq_true]
  | range r, _ => by rw [same, beq_self_eq_true]
  | name s, _ => by rw [same, beq_self_eq_true]
  | binary op l r, he => by
    rw [WellFormed] at he
    simp [same, same_self he.1, same_self he.2]
  | unary op x, he => by
    rw [WellFormed] at he
    simp [same, same_self he]
  | call f args, he => by
    rw [WellFormed] at he
    simp [same, sameList_self he.2]
  | array rows, he => by
    rw [WellFormed] at he
    rw [same]
    exact sameRows_elements fun row hrow => (he.2.2 row hrow).2

theorem sameList_self : ∀ {es : List Expr}, WellFormedList es → sameList es es = true
  | [], _ => by rw [sameList]
  | e :: es, he => by
    rw [WellFormedList] at he
    rw [sameList, same_self he.1, sameList_self he.2]
    rfl

end

/-- With a sign in front of its base a power is read as no power. -/
theorem same_raise {l r l' r' : Expr} (h : l.signs ≠ 0) :
    (raise l.signs l.regroup r).same (binary .power l' r') = false := by
  cases l with
  | unary op x => cases op <;> simp [signs, regroup, raise, same] at h ⊢
  | _ => simp [signs] at h

mutual

theorem regroup_eq : ∀ {e : Expr}, e.plainBases = true → e.regroup = e
  | binary op l r, h => by
    rw [plainBases, Bool.and_eq_true, Bool.and_eq_true] at h
    rw [regroup, regroup_eq h.1.2, regroup_eq h.2]
    split
    · rename_i hop
      have hsigns : l.signs = 0 := by simpa [hop] using h.1.1
      rw [hop, hsigns, raise_zero]
    · rfl
  | unary op x, h => by
    rw [plainBases] at h
    rw [regroup, regroup_eq h]
  | call f args, h => by
    rw [plainBases] at h
    rw [regroup, regroupList_eq h]
  | literal _, _ => by simp [regroup]
  | reference _, _ => by simp [regroup]
  | range _, _ => by simp [regroup]
  | name _, _ => by simp [regroup]
  | array _, _ => by simp [regroup]

theorem regroupList_eq : ∀ {es : List Expr}, plainBasesList es = true → regroupList es = es
  | [], _ => by rw [regroupList]
  | e :: es, h => by
    rw [plainBasesList, Bool.and_eq_true] at h
    rw [regroupList, regroup_eq h.1, regroupList_eq h.2]

end

mutual

/-- Signed bases of powers are all that canonical text does not keep. -/
theorem plainBases_of_same : ∀ {e : Expr}, e.regroup.same e = true → e.plainBases = true
  | binary op l r, h => by
    rw [regroup] at h
    by_cases hop : op = .power
    · subst hop
      rw [if_pos rfl] at h
      by_cases hsigns : l.signs = 0
      · rw [hsigns, raise_zero, same, Bool.and_eq_true, Bool.and_eq_true] at h
        simp [plainBases, hsigns, plainBases_of_same h.1.2, plainBases_of_same h.2]
      · rw [same_raise hsigns] at h
        cases h
    · rw [if_neg hop, same, Bool.and_eq_true, Bool.and_eq_true] at h
      simp [plainBases, hop, plainBases_of_same h.1.2, plainBases_of_same h.2]
  | unary op x, h => by
    rw [regroup, same, Bool.and_eq_true] at h
    rw [plainBases, plainBases_of_same h.2]
  | call f args, h => by
    rw [regroup, same, Bool.and_eq_true] at h
    rw [plainBases, plainBasesList_of_same h.2]
  | literal _, _ => by rw [plainBases] <;> simp
  | reference _, _ => by rw [plainBases] <;> simp
  | range _, _ => by rw [plainBases] <;> simp
  | name _, _ => by rw [plainBases] <;> simp
  | array _, _ => by rw [plainBases] <;> simp

theorem plainBasesList_of_same : ∀ {es : List Expr}, sameList (regroupList es) es = true →
    plainBasesList es = true
  | [], _ => by rw [plainBasesList]
  | e :: es, h => by
    rw [regroupList, sameList, Bool.and_eq_true] at h
    rw [plainBasesList, plainBases_of_same h.1, plainBasesList_of_same h.2]
    rfl

end

end Expr

theorem trimChars_toFormula {e : Expr} (he : e.WellFormed) :
    trimChars e.toFormula.toList = '=' :: e.toText.toList := by
  have htext : e.toFormula.toList = '=' :: e.toText.toList := by simp [Expr.toFormula]
  rw [htext]
  refine trimChars_eq_self (stopsAt_cons rfl) ?_
  rw [List.reverse_cons]
  exact (Expr.stopsAt_reverse_toText he).append (stopsAt_cons rfl)

theorem parse_toFormula_of_glued {e e' : Expr} (he : e.WellFormed) (h : e.glued = true) :
    parse e.toFormula ≠ .ok e' := by
  intro hparse
  obtain ⟨-, cs, hcs, hclean⟩ := parse_sound hparse
  rw [trimChars_toFormula he] at hcs
  obtain ⟨-, rfl⟩ := List.cons.inj hcs
  have hfaults : Faults e.toText.toList [] := Expr.faults_glued he h stopsAt_nil
  have hfault := hfaults 1
  rw [List.append_nil] at hfault
  exact hfault hclean

/-- Canonical text that can be scanned reads back as far as the nesting limit allows. -/
theorem toOption_parse_toFormula {e : Expr} (he : e.WellFormed) (h : e.glued = false) :
    (parse e.toFormula).toOption = e.reread maxNesting := by
  have hspells : Spells e.tokens e.toText.toList [] :=
    Expr.spells_tokens he h stopsAt_nil (by simp)
  obtain ⟨q, hq⟩ := hspells 1
  obtain ⟨t, ht, -⟩ := Expr.exists_head he
  rw [List.append_nil] at hq
  -- The tokens are all there is, so the expression is read up to the end.
  have hclean : (scanFrom 0 1 e.toText.toList).Clean := hq.clean_iff.mpr trivial
  rw [parse, trimChars_toFormula he]
  simp only
  have hread : (expression (signedOperand maxNesting) maxHeight
      (scanFrom 0 1 e.toText.toList)).toOption = (e.reread maxNesting).map (·, .finish q) := by
    rw [signedOperand_eq]
    exact (Expr.rereads he).expression maxNesting maxHeight (by decide) _ _ hq trivial (.inl rfl)
  rw [wholeExpression, check_of_clean hclean]
  simp only [bind, Except.bind, hq.head?_eq ht]
  change ((expression (signedOperand maxNesting) maxHeight
    (scanFrom 0 1 e.toText.toList)) >>= _).toOption = _
  rw [toOption_bind, hread]
  cases e.reread maxNesting <;> rfl

theorem exists_ok_iff {α β : Type} {r : Except β α} : (∃ a, r = .ok a) ↔ r.toOption.isSome := by
  cases r <;> simp [Except.toOption]

/-- Canonical text of a formula that has been read is accepted if and only if its parentheses are
not nested too deep and no error literal in it stands in front of a slash. -/
theorem parse_toFormula_ok_iff {s : String} {e : Expr} (h : parse s = .ok e) :
    (∃ e', parse e.toFormula = .ok e') ↔ e.nesting ≤ maxNesting ∧ e.glued = false := by
  obtain ⟨he, -⟩ := parse_sound h
  cases hglued : e.glued with
  | true =>
    have hno (e' : Expr) : parse e.toFormula ≠ .ok e' := parse_toFormula_of_glued he hglued
    simp [hno]
  | false =>
    rw [exists_ok_iff, toOption_parse_toFormula he hglued, Expr.reread]
    by_cases hnesting : e.nesting ≤ maxNesting <;> simp [hnesting]

section

/-- The cells `A1` and `B1`. -/
def firstCell : Expr := .reference (.relative 0 0)

def secondCell : Expr := .reference (.relative 0 1)

theorem parse_quotient : parse "=A1/B1" = .ok (.binary .divide firstCell secondCell) := by
  have hscan : scanFrom 0 1 ['A', '1', '/', 'B', '1'] = .token (.cell (.relative 0 0)) 1
      (.token .slash 3 (.token (.cell (.relative 0 1)) 4 (.finish 6))) := by cbv
  exact parse_of_scan (by cbv) hscan rfl

theorem parse_toFormula_ok_iff_quotient : ∃ e, parse "=A1/B1" = .ok e ∧
    ∃ e', parse e.toFormula = .ok e' := by
  have hnesting : (Expr.binary .divide firstCell secondCell).nesting = 1 := by
    simp [Expr.nesting, firstCell, secondCell]
  have hok := parse_toFormula_ok_iff parse_quotient
  exact ⟨_, parse_quotient, hok.mpr ⟨by rw [hnesting]; decide, by rfl⟩⟩

def gluedQuotient : Expr := .binary .divide (.literal (.error (.plain .notAvailable))) firstCell

theorem parse_gluedQuotient : parse "=#N/A /A1" = .ok gluedQuotient := by
  have hscan : scanFrom 0 1 ['#', 'N', '/', 'A', ' ', '/', 'A', '1'] =
      .token (.error .notAvailable) 1
        (.token .slash 6 (.token (.cell (.relative 0 0)) 7 (.finish 9))) := by cbv
  exact parse_of_scan (by cbv) hscan rfl

/-- `=#N/A /A1` is a formula, but `=(#N/A/A1)` is none. -/
theorem not_parse_toFormula_gluedQuotient : ∃ e, parse "=#N/A /A1" = .ok e ∧
    ∀ e', parse e.toFormula ≠ .ok e' := by
  obtain ⟨he, -⟩ := parse_sound parse_gluedQuotient
  exact ⟨_, parse_gluedQuotient, fun e' => parse_toFormula_of_glued he rfl⟩

end

theorem eq_regroup {e e' : Expr} (he : e.WellFormed) (h : parse e.toFormula = .ok e') :
    e' = e.regroup := by
  have hglued : e.glued = false :=
    Bool.eq_false_iff.mpr fun hglued => parse_toFormula_of_glued he hglued h
  have hread := toOption_parse_toFormula he hglued
  rw [h, Expr.reread] at hread
  split at hread <;> simp_all [Except.toOption]

/-- Canonical text that is accepted keeps the tree, and so what it evaluates to, if and only if no
power in it has a base that begins with a sign. -/
theorem same_of_parse_toFormula {s : String} {e e' : Expr} (h : parse s = .ok e)
    (h' : parse e.toFormula = .ok e') :
    (e'.same e = true ↔ e.plainBases = true) ∧
      (e.plainBases = true → ∀ (sheet : Sheet) (o : EvaluationOptions),
        sheet.evaluate o e' = sheet.evaluate o e) := by
  obtain ⟨he, -⟩ := parse_sound h
  rw [eq_regroup he h']
  refine ⟨⟨Expr.plainBases_of_same, fun hplain => ?_⟩, fun hplain sheet o => ?_⟩
  · rw [Expr.regroup_eq hplain]
    exact Expr.same_self he
  · rw [Expr.regroup_eq hplain]

theorem parse_toFormula_eq {s : String} {e : Expr} (h : parse s = .ok e) (hglued : e.glued = false)
    (hnesting : e.nesting ≤ maxNesting) : parse e.toFormula = .ok e.regroup := by
  obtain ⟨he, -⟩ := parse_sound h
  have hread := toOption_parse_toFormula he hglued
  rw [Expr.reread, if_pos hnesting] at hread
  cases hparse : parse e.toFormula <;> simp_all [Except.toOption]

section

def negatedPower : Expr := .unary .negate (.binary .power firstCell secondCell)

theorem parse_negatedPower : parse "=-A1^B1" = .ok negatedPower := by
  have hscan : scanFrom 0 1 ['-', 'A', '1', '^', 'B', '1'] = .token .minus 1
      (.token (.cell (.relative 0 0)) 2
        (.token .caret 4 (.token (.cell (.relative 0 1)) 5 (.finish 7)))) := by cbv
  exact parse_of_scan (by cbv) hscan rfl

/-- `=-A1^B1` reads back from `=-(A1^B1)`. -/
theorem same_of_parse_toFormula_negatedPower : ∃ e e', parse "=-A1^B1" = .ok e ∧
    parse e.toFormula = .ok e' ∧ e'.same e = true ∧
      ∀ (sheet : Sheet) (o : EvaluationOptions), sheet.evaluate o e' = sheet.evaluate o e := by
  have hnesting : negatedPower.nesting ≤ maxNesting := by
    simp [Expr.nesting, Expr.signs, negatedPower, firstCell, secondCell, maxNesting]
  have hplain : negatedPower.plainBases = true := by
    simp [Expr.plainBases, Expr.signs, negatedPower, firstCell, secondCell]
  have hparse := parse_toFormula_eq parse_negatedPower rfl hnesting
  obtain ⟨hsame, hevaluate⟩ := same_of_parse_toFormula parse_negatedPower hparse
  exact ⟨_, _, parse_negatedPower, hparse, hsame.mpr hplain, hevaluate hplain⟩

def powerOfNegated : Expr := .binary .power (.unary .negate firstCell) secondCell

theorem parse_powerOfNegated : parse "=(-A1)^B1" = .ok powerOfNegated := by
  have hscan : scanFrom 0 1 ['(', '-', 'A', '1', ')', '^', 'B', '1'] = .token .leftParen 1
      (.token .minus 2 (.token (.cell (.relative 0 0)) 3 (.token .rightParen 5
        (.token .caret 6 (.token (.cell (.relative 0 1)) 7 (.finish 9)))))) := by cbv
  exact parse_of_scan (by cbv) hscan rfl

/-- A sheet with one and a half, the one as a truth value. -/
def oneHalf : Sheet := ⟨[], #[#[.boolean true, .number 0.5]]⟩

def negativeBase : Value := .error (.num "negative base with a fractional exponent")

theorem evaluate_powerOfNegated :
    oneHalf.evaluate .standard powerOfNegated = .ok negativeBase := by
  have hfirst : oneHalf.valueAt (.relative 0 0) = .boolean true := rfl
  have hsecond : oneHalf.valueAt (.relative 0 1) = .number 0.5 := rfl
  have hzero : ((-1 : Float) == 0) = false := by decide +kernel
  have hneg : (-1 : Float) < 0 := by decide +kernel
  have hwhole : Number.isWhole 0.5 = false := by decide +kernel
  simp [Sheet.evaluate, powerOfNegated, firstCell, secondCell, Expr.eval, Depth.checkNode,
    EvaluationOptions.standard, Depth.top, Depth.enterNode, hfirst, hsecond, Value.ofAnswer,
    UnaryOp.apply, BinaryOp.apply, Value.arithmetic, Value.power, Value.toNumber, hzero, hneg,
    hwhole, bind, Except.bind, pure, Except.pure, negativeBase]

theorem evaluate_negatedPower_ne :
    oneHalf.evaluate .standard negatedPower ≠ .ok negativeBase := by
  have hfirst : oneHalf.valueAt (.relative 0 0) = .boolean true := rfl
  have hsecond : oneHalf.valueAt (.relative 0 1) = .number 0.5 := rfl
  have hzero : ((1 : Float) == 0) = false := by decide +kernel
  have hneg : ¬ (1 : Float) < 0 := by decide +kernel
  cases hfinite : Number.isFinite ((1 : Float).pow 0.5) <;>
  simp [Sheet.evaluate, negatedPower, firstCell, secondCell, Expr.eval, Depth.checkNode,
    EvaluationOptions.standard, Depth.top, Depth.enterNode, hfirst, hsecond, Value.ofAnswer,
    UnaryOp.apply, BinaryOp.apply, Value.arithmetic, Value.power, Value.toNumber, hzero, hneg,
    Value.ofResult, Value.notFinite, hfinite, CellError.num, CellError.detailed,
    bind, Except.bind, pure, Except.pure, negativeBase]

/-- `=(-A1)^B1` prints as `=(-A1^B1)`, which is another formula: of a negative number there is no
square root, but there is one of its negation. -/
theorem not_same_powerOfNegated : ∃ e e', parse "=(-A1)^B1" = .ok e ∧
    parse e.toFormula = .ok e' ∧ e'.same e = false ∧
      ∃ sheet : Sheet, sheet.evaluate .standard e' ≠ sheet.evaluate .standard e := by
  have hnesting : powerOfNegated.nesting ≤ maxNesting := by
    simp [Expr.nesting, Expr.signs, powerOfNegated, firstCell, secondCell, maxNesting]
  have hparse := parse_toFormula_eq parse_powerOfNegated rfl hnesting
  have hregroup : powerOfNegated.regroup = negatedPower := by
    simp [Expr.regroup, Expr.raise, Expr.signs, powerOfNegated, negatedPower, firstCell, secondCell]
  have hsame : negatedPower.same powerOfNegated = false := by
    simp [Expr.same, powerOfNegated, negatedPower]
  rw [hregroup] at hparse
  refine ⟨_, _, parse_powerOfNegated, hparse, hsame, oneHalf, ?_⟩
  rw [evaluate_powerOfNegated]
  exact evaluate_negatedPower_ne

end

end Spreadsheet.Formula
