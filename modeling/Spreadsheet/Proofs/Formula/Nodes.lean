import Spreadsheet.Proofs.Formula.Soundness
import Spreadsheet.Proofs.Formula.Subterms

/-! The nodes of accepted trees: what the parser lets stand at any place of a tree. -/

namespace Spreadsheet.Formula

namespace Expr

mutual

/-- An expression and the expressions in it that stand in no array constant. -/
def outerTerms : Expr → List Expr
  | binary op l r => binary op l r :: (l.outerTerms ++ r.outerTerms)
  | unary op x => unary op x :: x.outerTerms
  | call f args => call f args :: outerTermsOfList args
  | literal c => [literal c]
  | reference a => [reference a]
  | range r => [range r]
  | name s => [name s]
  | array rows => [array rows]

def outerTermsOfList : List Expr → List Expr
  | [] => []
  | e :: es => e.outerTerms ++ outerTermsOfList es

end

/-- Rows of one and the same width, none of them empty. -/
structure IsTable (rows : List (List Expr)) : Prop where
  rows_ne : rows ≠ []
  row_ne : ∀ row ∈ rows, row ≠ []
  rectangular : ∃ width, ∀ row ∈ rows, row.length = width

/-- What a node of an accepted tree keeps to, wherever it stands. -/
def IsSound : Expr → Prop
  | literal c => c.isBlank = false ∧ ∀ x, c = .number x → Number.isFinite x = true
  | reference a => a.isValid = true
  | range r => r.WellFormed
  | name s => ¬ Address.HasShape s.toList ∧ s.toUpper ≠ "TRUE" ∧ s.toUpper ≠ "FALSE"
  | call f _ => ∀ c ∈ f.toList, c.isLower = false ∧ c ≠ '$'
  | array rows => IsTable rows ∧
      ∀ row ∈ rows, ∀ e ∈ row, ∃ c : Cell, e = literal c ∧ c.isBlank = false
  | binary _ _ _ | unary _ _ => True

end Expr

open Formula.Expr

/-- A letter in lower case is not its own upper case. -/
theorem toUpper_ne {c : Char} (h : c.isLower = true) : c.toUpper ≠ c := by
  have hlt : c.toNat < 128 := by
    have halpha : c.isAlpha = true := by simp [Char.isAlpha, h]
    rw [Text.isAlpha_iff] at halpha
    omega
  revert h
  refine Text.char_of_forall c hlt ?_
  decide

theorem IsFunctionName.noLower {f : String} (h : IsFunctionName f) :
    ∀ c ∈ f.toList, c.isLower = false ∧ c ≠ '$' := by
  intro c hc
  have hupper : f.toList.map Char.toUpper = f.toList.map id := by
    rw [List.map_id, ← String.toList_map]
    exact congrArg String.toList h.upper
  have hlower : c.isLower ≠ true := fun hlower =>
    toUpper_ne hlower (List.map_inj_left.mp hupper c hc)
  exact ⟨by simpa using hlower, (h.chars c hc).2⟩

theorem IsPlainName.isSound {s : String} (h : IsPlainName s) : (name s).IsSound := by
  refine ⟨fun hshape => ?_, fun htrue => ?_, fun hfalse => ?_⟩
  · exact absurd (Address.hasForm_iff.mpr hshape) (by simp [h.notAddress])
  · have hsame : Text.sameAscii s "TRUE" = true := by
      rw [Text.sameAscii_iff_toUpper, htrue]
      cbv
    exact absurd hsame (by simp [h.notTrue])
  · have hsame : Text.sameAscii s "FALSE" = true := by
      rw [Text.sameAscii_iff_toUpper, hfalse]
      cbv
    exact absurd hsame (by simp [h.notFalse])

theorem IsElement.isSound {e : Expr} (h : IsElement e) : e.IsSound := by
  cases e with
  | literal c =>
    cases c with
    | blank => exact h.elim
    | number x => exact ⟨rfl, fun y hy => by cases hy; exact h⟩
    | _ => exact ⟨rfl, fun y hy => by cases hy⟩
  | _ => exact h.elim

theorem IsElement.exists_literal {e : Expr} (h : IsElement e) :
    ∃ c : Cell, e = literal c ∧ c.isBlank = false := by
  cases e with
  | literal c => exact ⟨c, rfl, h.isSound.1⟩
  | _ => exact h.elim

theorem isTable_of_isRectangular {rows : List (List Expr)} (hrect : isRectangular rows = true)
    (hne : rows ≠ []) (hrows : ∀ row ∈ rows, row ≠ []) : IsTable rows := by
  refine ⟨hne, hrows, (rows.headD []).length, fun row hrow => ?_⟩
  exact beq_iff_eq.mp (List.all_eq_true.mp hrect row hrow)

theorem Expr.WellFormed.isSound {e : Expr} (h : e.WellFormed) : e.IsSound := by
  cases e with
  | literal c =>
    rw [WellFormed] at h
    exact h.isElement.isSound
  | reference a => rwa [WellFormed] at h
  | range r => rwa [WellFormed] at h
  | name s =>
    rw [WellFormed] at h
    exact h.isSound
  | call f args =>
    rw [WellFormed] at h
    exact h.1.noLower
  | array rows =>
    rw [WellFormed] at h
    obtain ⟨hrect, hne, hrows⟩ := h
    exact ⟨isTable_of_isRectangular hrect hne fun row hrow => (hrows row hrow).1,
      fun row hrow x hx => ((hrows row hrow).2 x hx).exists_literal⟩
  | binary op l r => trivial
  | unary op x => trivial

mutual

/-- Under a well-formed tree there are well-formed trees and elements of array constants. -/
theorem wellFormed_or_isElement {x : Expr} : ∀ {e : Expr}, e.WellFormed → x ∈ e.subterms →
    x.WellFormed ∨ IsElement x
  | literal _, h, hx | reference _, h, hx | range _, h, hx | name _, h, hx => by
    rw [subterms, List.mem_singleton] at hx
    exact .inl (hx ▸ h)
  | binary op l r, h, hx => by
    rw [subterms, List.mem_cons, List.mem_append] at hx
    rcases hx with rfl | hx | hx
    · exact .inl h
    · rw [WellFormed] at h
      exact wellFormed_or_isElement h.1 hx
    · rw [WellFormed] at h
      exact wellFormed_or_isElement h.2 hx
  | unary op y, h, hx => by
    rw [subterms, List.mem_cons] at hx
    rcases hx with rfl | hx
    · exact .inl h
    · rw [WellFormed] at h
      exact wellFormed_or_isElement h hx
  | call f args, h, hx => by
    rw [subterms, List.mem_cons] at hx
    rcases hx with rfl | hx
    · exact .inl h
    · rw [WellFormed] at h
      exact wellFormed_or_isElementOfList h.2 hx
  | array rows, h, hx => by
    rw [subterms, List.mem_cons] at hx
    rcases hx with rfl | hx
    · exact .inl h
    · rw [WellFormed] at h
      obtain ⟨row, hrow, y, hy, hx⟩ := mem_subtermsOfRows.mp hx
      have helement := (h.2.2 row hrow).2 y hy
      obtain ⟨c, rfl, -⟩ := helement.exists_literal
      rw [subterms, List.mem_singleton] at hx
      exact .inr (hx ▸ helement)

theorem wellFormed_or_isElementOfList {x : Expr} : ∀ {es : List Expr}, WellFormedList es →
    x ∈ subtermsOfList es → x.WellFormed ∨ IsElement x
  | [], _, hx => by cases hx
  | e :: es, h, hx => by
    rw [WellFormedList] at h
    rw [subtermsOfList, List.mem_append] at hx
    rcases hx with hx | hx
    · exact wellFormed_or_isElement h.1 hx
    · exact wellFormed_or_isElementOfList h.2 hx

end

mutual

theorem wellFormed_of_mem_outerTerms {x : Expr} : ∀ {e : Expr}, e.WellFormed →
    x ∈ e.outerTerms → x.WellFormed
  | literal _, h, hx | reference _, h, hx | range _, h, hx | name _, h, hx | array _, h, hx => by
    rw [outerTerms, List.mem_singleton] at hx
    exact hx ▸ h
  | binary op l r, h, hx => by
    rw [outerTerms, List.mem_cons, List.mem_append] at hx
    rcases hx with rfl | hx | hx
    · exact h
    · rw [WellFormed] at h
      exact wellFormed_of_mem_outerTerms h.1 hx
    · rw [WellFormed] at h
      exact wellFormed_of_mem_outerTerms h.2 hx
  | unary op y, h, hx => by
    rw [outerTerms, List.mem_cons] at hx
    rcases hx with rfl | hx
    · exact h
    · rw [WellFormed] at h
      exact wellFormed_of_mem_outerTerms h hx
  | call f args, h, hx => by
    rw [outerTerms, List.mem_cons] at hx
    rcases hx with rfl | hx
    · exact h
    · rw [WellFormed] at h
      exact wellFormed_of_mem_outerTermsOfList h.2 hx

theorem wellFormed_of_mem_outerTermsOfList {x : Expr} : ∀ {es : List Expr}, WellFormedList es →
    x ∈ outerTermsOfList es → x.WellFormed
  | [], _, hx => by cases hx
  | e :: es, h, hx => by
    rw [WellFormedList] at h
    rw [outerTermsOfList, List.mem_append] at hx
    rcases hx with hx | hx
    · exact wellFormed_of_mem_outerTerms h.1 hx
    · exact wellFormed_of_mem_outerTermsOfList h.2 hx

end

/-- In an accepted tree every node is sound, and a number that stands in no array constant has no
sign. -/
theorem parse_nodes {s : String} {e : Expr} (h : parse s = .ok e) :
    (∀ x ∈ e.subterms, x.IsSound) ∧
      ∀ v, number v ∈ e.outerTerms → Number.isNegative v = false ∧ ¬ v < 0 := by
  have hwell : e.WellFormed := (parse_sound h).1
  refine ⟨fun x hx => ?_, fun v hv => ?_⟩
  · rcases wellFormed_or_isElement hwell hx with hx | hx
    · exact hx.isSound
    · exact hx.isSound
  · have hnumber := wellFormed_of_mem_outerTerms hwell hv
    rw [number, WellFormed] at hnumber
    exact ⟨hnumber.2, Number.not_lt_zero hnumber.2⟩

theorem scanFrom_zero (cs : List Char) : scanFrom 0 1 ('0' :: '*' :: cs) =
    .token (.number 0) 1 (scanFrom 0 2 ('*' :: cs)) := by
  have hread : Number.readDecimal? ['0'] = some 0 := rfl
  have hfinite : Number.isFinite 0 = true := by
    rw [Number.isFinite, Number.biasedExponent, Number.unsignedWord, Number.word_zero]
    decide
  have hmantissa : mantissaPart ('0' :: '*' :: cs) = ['0'] := rfl
  have hlexeme : lexeme '0' ('*' :: cs) = .ok (.number 0, 0) := by
    have hnumber : lexeme '0' ('*' :: cs) = numberLexeme ('0' :: '*' :: cs) := rfl
    rw [hnumber, numberLexeme, hmantissa]
    simp [exponentPart?, hread, Option.filter, hfinite]
  have hblank : Text.isBlank '0' = false := rfl
  rw [scanFrom, hblank, hlexeme]
  rfl

/-- A number, a call, a name, a range with its corners turned round and an array constant. -/
def scaledMaximum : Expr := .binary .multiply (.number 0) (.call "MAX" [.name "rate",
  .range ⟨⟨0, 0, true, true⟩, ⟨1, 1, false, false⟩⟩,
  .array [[.literal (.boolean true), .literal (.text "a")]]])

theorem scan_maximum : scanFrom 0 2 "*Max(rate,b2:$A$1,\x7bTRUE,\"a\"\x7d)".toList =
    .token .star 2 (.token (.identifier "Max") 3 (.token .leftParen 6
      (.token (.identifier "rate") 7 (.token .comma 11
        (.token (.cell (.relative 1 1)) 12 (.token .colon 14 (.token (.cell (.absolute 0 0)) 15
          (.token .comma 19 (.token .leftBrace 20 (.token (.boolean true) 21 (.token .comma 25
            (.token (.text "a") 26 (.token .rightBrace 29
              (.token .rightParen 30 (.finish 31))))))))))))))) := by cbv

theorem parse_scaledMaximum :
    parse "=0*Max(rate,b2:$A$1,\x7bTRUE,\"a\"\x7d)" = .ok scaledMaximum := by
  have htrim : Text.trimChars "=0*Max(rate,b2:$A$1,\x7bTRUE,\"a\"\x7d)".toList =
      '=' :: '0' :: '*' :: "Max(rate,b2:$A$1,\x7bTRUE,\"a\"\x7d)".toList := by cbv
  have hscan := (scanFrom_zero _).trans (congrArg (Scan.token (.number 0) 1) scan_maximum)
  exact parse_of_scan htrim hscan (by cbv)

theorem parse_nodes_scaledMaximum :
    parse "=0*Max(rate,b2:$A$1,\x7bTRUE,\"a\"\x7d)" = .ok scaledMaximum ∧
      (∀ x ∈ scaledMaximum.subterms, x.IsSound) ∧
        ∀ v, number v ∈ scaledMaximum.outerTerms → Number.isNegative v = false ∧ ¬ v < 0 :=
  ⟨parse_scaledMaximum, parse_nodes parse_scaledMaximum⟩

end Spreadsheet.Formula
