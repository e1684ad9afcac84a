import Mathlib.Order.Bounds.Basic
import Spreadsheet.Proofs.Evaluation.Depth
import Spreadsheet.Proofs.Formula.Tower

/-! Accepted formulas under the standard limits. The parser's bound on operations is no bound on the
height of trees: towers of chains are accepted whose evaluation fails on every sheet. -/

namespace Spreadsheet.Formula

/-- Whether a token makes an operation or opens a group. -/
def Token.operates : Token → Bool
  | number _ | text _ | boolean _ | error _ | identifier _ | cell _ => false
  | colon | comma | semicolon | rightParen | rightBrace => false
  | _ => true

theorem operates_of_operator {l : Level} {t : Token} {op : BinaryOp}
    (h : l.operator? t = some op) : t.operates = true := by
  cases l <;> cases t <;> first | rfl | cases h

theorem operates_of_sign {t : Token} {op : UnaryOp} (h : signOp? t = some op) :
    t.operates = true := by
  cases t <;> first | rfl | cases h

/-- Each operation on a path takes a token of its own. -/
theorem Derives.height_le {k : Phrase} {ts : List Token} {e : Expr} (h : Derives k ts e) :
    e.height ≤ ts.countP Token.operates := by
  induction h with
  | operand _ ih | unsigned _ ih | base _ ih | whole _ ih | single _ ih => exact ih
  | operation _ hop _ ihl ihr =>
    simp only [Expr.height_binary, List.countP_append, List.countP_singleton,
      operates_of_operator hop, if_true]
    omega
  | sign ht _ ih =>
    simp only [Expr.height_unary, List.countP_append, List.countP_singleton, operates_of_sign ht,
      if_true]
    omega
  | power _ _ ihl ihr =>
    simp only [Expr.height_binary, List.countP_append, List.countP_singleton, Token.operates,
      if_true]
    omega
  | percent _ ih =>
    simp only [Expr.height_unary, List.countP_append, List.countP_singleton, Token.operates,
      if_true]
    omega
  | corners b _ _ => exact Nat.zero_le _
  | literal _ | reference _ | name _ => exact Nat.zero_le _
  | call f args _ ih =>
    have hargs : (Expr.call f.toUpper (args.map Prod.snd)).height ≤
        (rowText args).countP Token.operates + 1 := by
      rw [Expr.height_call_le, List.forall_mem_map]
      exact fun arg harg => (ih arg harg).trans ((sublist_rowText harg).countP_le)
    simp only [List.countP_append, List.countP_cons, List.countP_nil, Token.operates, if_true]
    omega
  | paren _ ih =>
    simp only [List.countP_append]
    omega
  | array rows _ hrows _ =>
    have hleaves : (Expr.array (rows.map (·.map Prod.snd))).height ≤ 0 + 1 := by
      simp only [Expr.height_array_le, List.forall_mem_map]
      exact fun row hrow x hx => ((hrows row hrow).2 x hx).height_eq.le
    simp only [List.countP_append, List.countP_singleton, Token.operates, if_true]
    omega

theorem tallest_maxNesting : tallest maxNesting maxHeight = 479950 := by decide +kernel

/-- The limit of the parser on operations allows trees of any height up to the greatest one of its
towers. A formula whose text makes at most 1000 operations keeps to the limit, and a tree that keeps
to it evaluates to a value on every sheet. -/
theorem parse_height {s : String} {e : Expr} (h : parse s = .ok e) :
    e.height ≤ 479950 ∧
    (∀ ts, formulaTokens? s = some ts → ts.countP Token.operates ≤ maxHeight →
      e.height ≤ maxHeight) ∧
    (e.height ≤ maxHeight → ∀ sheet : Sheet, ∃ v, sheet.evaluate .standard e = .ok v) := by
  obtain ⟨us, hus, hfits⟩ := parse_fits h
  refine ⟨?_, fun ts hts hcount => ?_, fun hheight sheet => ?_⟩
  · have hbound := hfits.height
    rw [tallest_maxNesting] at hbound
    omega
  · obtain rfl : us = ts := Option.some.inj (hus.symm.trans hts)
    exact hfits.derives.height_le.trans hcount
  · have hnodes : maxHeight < EvaluationOptions.standard.maxExpressionDepth := by decide
    have hcalls : maxNesting ≤ EvaluationOptions.standard.maxCallDepth := by decide
    exact sheet.finishes_evaluate (hheight.trans_lt hnodes) (hfits.calls.trans hcalls)

/-- The formula `=A1^-B1%` makes three operations. -/
theorem parse_height_signedExponent : parse "=A1^-B1%" = .ok signedExponent ∧
    (∃ ts, formulaTokens? "=A1^-B1%" = some ts ∧ ts.countP Token.operates = 3) ∧
      signedExponent.height ≤ maxHeight ∧
        ∀ sheet : Sheet, ∃ v, sheet.evaluate .standard signedExponent = .ok v := by
  have htrim : Text.trimChars "=A1^-B1%".toList = '=' :: ['A', '1', '^', '-', 'B', '1', '%'] := by
    cbv
  obtain ⟨-, hheight, hevaluate⟩ := parse_height parse_signedExponent
  obtain ⟨ts, hts, hcount⟩ : ∃ ts, formulaTokens? "=A1^-B1%" = some ts ∧
      ts.countP Token.operates = 3 := by
    simp only [formulaTokens?, htrim, scan_signedExponent]
    exact ⟨_, rfl, rfl⟩
  have hlow : signedExponent.height ≤ maxHeight := hheight ts hts (hcount ▸ by decide)
  exact ⟨parse_signedExponent, ⟨ts, hts, hcount⟩, hlow, hevaluate hlow⟩

/-- The bound is reached: the highest tower is accepted. -/
theorem isGreatest_height : IsGreatest {n | ∃ s e, parse s = .ok e ∧ e.height = n} 479950 := by
  constructor
  · refine ⟨_, _, parse_towerFormula le_rfl le_rfl (by decide), ?_⟩
    rw [height_tower, tallest_maxNesting]
  · rintro n ⟨s, e, h, rfl⟩
    obtain ⟨ts, -, hfits⟩ := parse_fits h
    have hbound := hfits.height
    rw [tallest_maxNesting] at hbound
    omega

theorem Expr.spine_grown {op : BinaryOp} {n : Nat} {e : Expr} :
    (e.grown op n).spine = e.spine + n := by
  induction n with
  | zero => rfl
  | succ n ih => rw [grown_succ, spine, ih, Nat.add_assoc]

theorem Expr.spine_percented {n : Nat} {e : Expr} : (e.percented n).spine = e.spine + n := by
  induction n with
  | zero => rfl
  | succ n ih => rw [percented_succ, spine, ih, Nat.add_assoc]

theorem le_spine_tower (levels room : Nat) : 5 * room ≤ (tower levels room).spine := by
  cases levels <;> simp only [tower, Expr.piled, Expr.spine_grown, Expr.spine,
    Expr.spine_percented] <;> omega

/-- Five chains of 205 operations on top of one another are accepted and never evaluate. -/
theorem not_parse_height_tower : ∃ e, parse (towerFormula 0 205) = .ok e ∧ maxHeight < e.height ∧
    ∀ sheet : Sheet, sheet.evaluate .standard e = .error ⟨.expression, 1024⟩ := by
  have hspine : 1024 ≤ (tower 0 205).spine := (by decide : 1024 ≤ 5 * 205).trans (le_spine_tower 0 205)
  refine ⟨tower 0 205, parse_towerFormula (by decide) (by decide) (by decide), ?_, fun sheet =>
    sheet.evaluate_of_spine hspine⟩
  rw [height_tower]
  decide

end Spreadsheet.Formula
