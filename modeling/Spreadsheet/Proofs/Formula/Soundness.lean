import Spreadsheet.Proofs.Formula.Acceptance

/-! Accepted trees are well formed. The tokens that a text scans as are well formed at their places,
and what well-formed tokens derive is a well-formed tree. -/

namespace Spreadsheet.Formula

open Text

/-- The characters of names are ASCII characters. -/
theorem toNat_lt_of_isNameChar {c : Char} (h : isNameChar c = true) : c.toNat < 128 := by
  simp only [isNameChar, Char.isAlphanum, Bool.or_eq_true, beq_iff_eq, isAlpha_iff,
    isDigit_iff] at h
  rcases h with ((h | rfl) | rfl) | rfl
  · omega
  all_goals decide

theorem upper_of_isNameChar {c : Char} (h : isNameChar c = true) :
    isNameChar c.toUpper = true ∧ (c ≠ '$' → c.toUpper ≠ '$') ∧
      c.toUpper.toUpper = c.toUpper ∧ (c.isAlpha = true → c.toUpper.isAlpha = true) := by
  have hlt := toNat_lt_of_isNameChar h
  revert h
  refine char_of_forall c hlt ?_
  decide

theorem isFunctionName_toUpper {s : String} (h : IsName s) : IsFunctionName s.toUpper := by
  have hupper : s.toUpper.toList = s.toList.map Char.toUpper := by
    rw [String.toUpper, String.toList_map]
  refine ⟨⟨?_, ?_⟩, ?_⟩
  · obtain ⟨c, cs, hs, hc⟩ := h.first
    refine ⟨c.toUpper, cs.map Char.toUpper, by rw [hupper, hs, List.map_cons], ?_⟩
    rcases hc with hc | rfl
    · exact .inl ((upper_of_isNameChar (h.chars c (by simp [hs])).1).2.2.2 hc)
    · exact .inr rfl
  · intro d hd
    rw [hupper] at hd
    obtain ⟨c, hc, rfl⟩ := List.mem_map.mp hd
    obtain ⟨hname, hdollar⟩ := h.chars c hc
    obtain ⟨hupper, hkeep, _⟩ := upper_of_isNameChar hname
    exact ⟨hupper, hkeep hdollar⟩
  · rw [← String.toList_inj, String.toUpper, String.toList_map, hupper, List.map_map]
    exact List.map_congr_left fun c hc => (upper_of_isNameChar (h.chars c hc).1).2.2.1

theorem Begins.wellFormed {ts : List Token} {s rest : Scan} (h : Begins ts s rest)
    (hs : s.WellFormed) : rest.WellFormed := by
  induction h with
  | nil => exact hs
  | cons _ ih => exact ih hs.2

/-- A part of the tokens is read from a well-formed scan as well. -/
theorem Begins.exists_middle {pre ts post : List Token} {s rest : Scan}
    (h : Begins (pre ++ ts ++ post) s rest) (hs : s.WellFormed) :
    ∃ first last, Begins ts first last ∧ first.WellFormed ∧ Begins post last rest := by
  obtain ⟨last, h, hpost⟩ := h.split
  obtain ⟨first, hpre, hts⟩ := h.split
  exact ⟨first, last, hts, hpre.wellFormed hs, hpost⟩

theorem isLiteral_of_literal? {t : Token} {c : Cell} {next : Option Token}
    (ht : t.literal? = some c) (h : t.WellFormed next) : IsLiteral c := by
  cases t <;> cases ht
  case number => exact h
  case error => rfl
  all_goals exact trivial

theorem IsLiteral.isElement {c : Cell} (h : IsLiteral c) : IsElement (.literal c) := by
  cases c with
  | number x => exact h.1
  | _ => exact h

section

variable {k : Phrase} {ts : List Token} {e : Expr} {s rest : Scan}

theorem DerivesElement.isElement (h : DerivesElement ts e) (hts : Begins ts s rest)
    (hs : s.WellFormed) : IsElement e := by
  cases h with
  | literal ht =>
    obtain ⟨p, rfl⟩ := hts.exists_singleton
    exact (isLiteral_of_literal? ht hs.1).isElement
  | plus ht =>
    obtain ⟨p, middle, rfl, hvalue⟩ := hts.exists_token
    obtain ⟨q, rfl⟩ := hvalue.exists_singleton
    exact (isLiteral_of_literal? ht hs.2.1).isElement
  | minus x =>
    obtain ⟨p, middle, rfl, hvalue⟩ := hts.exists_token
    obtain ⟨q, rfl⟩ := hvalue.exists_singleton
    exact Number.isFinite_neg hs.2.1.1

/-- A name is plain because no opening parenthesis follows a phrase. -/
theorem Derives.wellFormed (h : Derives k ts e) (hts : Begins ts s rest) (hs : s.WellFormed)
    (hrest : rest.head? ≠ some .leftParen) : e.WellFormed := by
  induction h generalizing s rest with
  | operand _ ih | unsigned _ ih | base _ ih | whole _ ih | single _ ih => exact ih hts hs hrest
  | @operation l _ _ t _ _ _ _ hop _ ihl ihr =>
    obtain ⟨last, hleft, hright⟩ := hts.split
    obtain ⟨middle, hleft, ht⟩ := hleft.split
    obtain ⟨p, rfl⟩ := ht.exists_singleton
    have hoperator : t ≠ .leftParen := by
      rintro rfl
      cases l <;> cases hop
    exact (ihl hleft hs (by simpa [Scan.head?] using hoperator)).binary
      (ihr hright (hleft.wellFormed hs).2 hrest)
  | sign _ _ ih =>
    obtain ⟨p, middle, rfl, hoperand⟩ := hts.exists_token
    exact (ih hoperand hs.2 hrest).unary
  | power _ _ ihl ihr =>
    obtain ⟨last, hleft, hright⟩ := hts.split
    obtain ⟨middle, hleft, ht⟩ := hleft.split
    obtain ⟨p, rfl⟩ := ht.exists_singleton
    exact (ihl hleft hs (by simp [Scan.head?])).binary (ihr hright (hleft.wellFormed hs).2 hrest)
  | percent _ ih =>
    obtain ⟨middle, hts, hpercent⟩ := hts.split
    obtain ⟨p, rfl⟩ := hpercent.exists_singleton
    exact (ih hts hs (by simp [Scan.head?])).unary
  | corners b _ ih =>
    obtain ⟨middle, hts, hcolon⟩ := hts.split
    obtain ⟨p, corner, rfl, hcorner⟩ := hcolon.exists_token
    obtain ⟨q, rfl⟩ := hcorner.exists_singleton
    have hfirst := ih hts hs (by simp [Scan.head?])
    have hlast := (hts.wellFormed hs).2.1
    rw [Expr.WellFormed] at hfirst
    rw [Expr.WellFormed]
    exact Range.wellFormed_ofCorners hfirst hlast
  | literal ht =>
    obtain ⟨p, rfl⟩ := hts.exists_singleton
    rw [Expr.WellFormed]
    exact isLiteral_of_literal? ht hs.1
  | reference a =>
    obtain ⟨p, rfl⟩ := hts.exists_singleton
    rw [Expr.WellFormed]
    exact hs.1
  | name n =>
    obtain ⟨p, rfl⟩ := hts.exists_singleton
    rw [Expr.WellFormed]
    exact hs.1.2.resolve_left hrest
  | call f args _ ih =>
    have hname : IsName f := by
      obtain ⟨p, paren, rfl, -⟩ := hts.exists_token
      exact hs.1.1
    obtain ⟨first, last, hargs, hfirst, hclose⟩ := hts.exists_middle hs
    obtain ⟨q, rfl⟩ := hclose.exists_singleton
    rw [Expr.WellFormed, Expr.wellFormedList_iff, List.forall_mem_map]
    refine ⟨isFunctionName_toUpper hname, fun arg harg => ?_⟩
    obtain ⟨pre, post, heq, hpost⟩ := exists_intercalate Token.comma (List.mem_map_of_mem harg)
    rw [rowText, heq] at hargs
    obtain ⟨before, after, harg', hbefore, hafter⟩ := hargs.exists_middle hfirst
    refine ih arg harg harg' hbefore ?_
    rcases hpost with rfl | hpost
    · cases hafter with
      | nil => simp [Scan.head?]
    · simp [hafter.head?_eq hpost]
  | paren _ ih =>
    obtain ⟨middle, last, hinner, hmiddle, hclose⟩ := hts.exists_middle hs
    obtain ⟨p, rfl⟩ := hclose.exists_singleton
    exact ih hinner hmiddle (by simp [Scan.head?])
  | array rows hne hrows hrect =>
    obtain ⟨first, last, htext, hfirst, -⟩ := hts.exists_middle hs
    rw [Expr.WellFormed]
    refine ⟨hrect, by simpa using hne, ?_⟩
    simp only [List.forall_mem_map, ne_eq, List.map_eq_nil_iff]
    refine fun row hrow => ⟨(hrows row hrow).1, fun x hx => ?_⟩
    obtain ⟨pre, post, heq, -⟩ := exists_intercalate Token.semicolon (List.mem_map_of_mem hrow)
    rw [rowsText, heq] at htext
    obtain ⟨before, after, hrowText, hbefore, -⟩ := htext.exists_middle hfirst
    obtain ⟨pre', post', heq', -⟩ := exists_intercalate Token.comma (List.mem_map_of_mem hx)
    rw [rowText, heq'] at hrowText
    obtain ⟨before', after', helement, hbefore', -⟩ := hrowText.exists_middle hbefore
    exact ((hrows row hrow).2 x hx).isElement helement hbefore'

end

/-- A formula that is accepted has a well-formed tree, and its text scans to the end. -/
theorem parse_sound {s : String} {e : Expr} (h : parse s = .ok e) : e.WellFormed ∧
    ∃ cs, trimChars s.toList = '=' :: cs ∧ (scanFrom 0 1 cs).Clean := by
  obtain ⟨ts, hts, hfits⟩ := parse_fits h
  rw [formulaTokens?] at hts
  split at hts
  · rename_i cs hcs
    obtain ⟨p, hscan⟩ := Scan.tokens?_eq_some.mp hts
    refine ⟨?_, cs, hcs, hscan.clean_iff.mpr trivial⟩
    exact hfits.derives.wellFormed hscan (wellFormed_scanFrom 0 1 cs) (by simp [Scan.head?])
  · cases hts

end Spreadsheet.Formula
