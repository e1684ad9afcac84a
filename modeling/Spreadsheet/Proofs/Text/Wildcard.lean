import Spreadsheet.Proofs.Text.Case
import Spreadsheet.Proofs.Text.Search

/-! Patterns against texts as they are written. A `?` stands for one character of the text in lower case.
That is one character of the text itself unless this is `İ`, whose lower case form has two. -/

namespace Spreadsheet.Text

/-- A part of a pattern as it is written. -/
inductive PatternElement where
  | any
  | one
  | literal (c : Char)

namespace PatternElement

def tokens : PatternElement → Pattern
  | any => [.any]
  | one => [.one]
  | literal c => literals c

/-- Whether an element stands for a piece of a text as it is written: `*` for any, `?` for a character,
and a character for one that is the same in lower case. -/
def Takes : PatternElement → List Char → Prop
  | any, _ => True
  | one, piece => piece.length = 1
  | literal c, piece => ∃ d, piece = [d] ∧ lowerChar d = lowerChar c

end PatternElement

open PatternElement

def elementsOf : List Char → List PatternElement
  | [] => []
  | '*' :: cs => .any :: elementsOf cs
  | '?' :: cs => .one :: elementsOf cs
  | ['~'] => [.literal '~']
  | '~' :: c :: cs => .literal c :: elementsOf cs
  | c :: cs => .literal c :: elementsOf cs

/-- Whether a text as it is written splits into pieces, one for each element of a pattern. -/
def Fits (pattern text : String) : Prop :=
  SplitsInto PatternElement.Takes (elementsOf pattern.toList) text.toList

theorem patternOf_eq (cs : List Char) : patternOf cs = (elementsOf cs).flatMap tokens := by
  fun_induction patternOf cs with
  | case1 => rfl
  | case2 cs ih => rw [elementsOf, List.flatMap_cons, ← ih]; rfl
  | case3 cs ih => rw [elementsOf, List.flatMap_cons, ← ih]; rfl
  | case4 => decide +kernel
  | case5 c cs ih => rw [elementsOf, List.flatMap_cons, ← ih]; rfl
  | case6 c cs hany hone hlast hescape ih =>
    rw [elementsOf.eq_6 _ _ hany hone hlast hescape, List.flatMap_cons, ← ih]
    rfl

theorem mem_of_literal_mem {c : Char} {cs : List Char} (h : .literal c ∈ elementsOf cs) : c ∈ cs := by
  fun_induction elementsOf cs with
  | case1 => cases h
  | case2 cs ih | case3 cs ih => exact List.mem_cons_of_mem _ (ih (List.mem_of_ne_of_mem (by simp) h))
  | case4 => simpa using h
  | case5 d cs ih | case6 d cs _ _ _ _ ih =>
    rcases List.mem_cons.mp h with heq | hmem
    · cases heq
      simp
    · simp [ih hmem]

theorem wildcardMatch_iff_splits {pattern text : String} :
    wildcardMatch pattern text = true ↔
      Pattern.Splits ((elementsOf pattern.toList).flatMap tokens) (text.toList.flatMap lowerChar) := by
  rw [wildcardMatch, Pattern.isMatch_iff_splits, patternOf_eq, lowerEach]

/-- Whether a text has in lower case the two characters of the form of `İ`: it has this character, or
else an `i` with a combining dot behind it. -/
def IsDotted (cs : List Char) : Prop := lowerChar 'İ' <:+: cs.flatMap lowerChar

theorem isDotted_of_mem {cs : List Char} (h : 'İ' ∈ cs) : IsDotted cs := by
  obtain ⟨front, rest, rfl⟩ := List.append_of_mem h
  refine ⟨front.flatMap lowerChar, rest.flatMap lowerChar, ?_⟩
  rw [List.flatMap_append, List.flatMap_cons, List.append_assoc]

theorem IsDotted.append_right {cs : List Char} (h : IsDotted cs) (rest : List Char) :
    IsDotted (cs ++ rest) := by
  rw [IsDotted, List.flatMap_append]
  exact h.trans (List.prefix_append _ _).isInfix

theorem IsDotted.append_left {cs : List Char} (h : IsDotted cs) (front : List Char) :
    IsDotted (front ++ cs) := by
  rw [IsDotted, List.flatMap_append]
  exact h.trans (List.suffix_append _ _).isInfix

section

variable {cs : List Char} (hcs : 'İ' ∉ cs)
include hcs

theorem splits_tokens_iff {e : PatternElement} (he : e ≠ .literal 'İ' ∨ ¬IsDotted cs) :
    Pattern.Splits e.tokens (cs.flatMap lowerChar) ↔ e.Takes cs := by
  cases e with
  | any => exact iff_of_true (Pattern.splits_star _) trivial
  | one =>
    rw [flatMap_lowerChar hcs]
    cases cs with
    | nil => exact iff_of_false (fun h => absurd (Pattern.splits_empty.mp h) (by decide)) (by nofun)
    | cons c cs =>
      rw [List.map_cons]
      refine Pattern.splits_one.trans (splitsInto_nil.trans ?_)
      simp [PatternElement.Takes]
  | literal c =>
    rw [tokens, literals, Pattern.splits_map_char]
    constructor
    · intro h
      by_cases hc : c = 'İ'
      · subst hc
        exact absurd (h ▸ List.infix_rfl : lowerChar 'İ' <:+: cs.flatMap lowerChar)
          (he.resolve_left fun hne => hne rfl)
      · rw [flatMap_lowerChar hcs, lowerChar_eq_singleton hc] at h
        obtain ⟨d, rfl, hd⟩ := List.map_eq_singleton_iff.mp h
        refine ⟨d, rfl, ?_⟩
        rw [lowerChar_eq_singleton hc, lowerChar_eq_singleton (fun h => hcs (h ▸ List.mem_singleton_self _)), hd]
    · rintro ⟨d, rfl, hd⟩
      rw [List.flatMap_singleton, hd]

/-- On a text without `İ`, tokens and lower case forms split as elements and characters do, unless the
pattern asks for the form of `İ` and the text has it. -/
theorem splits_iff {es : List PatternElement} (h : .literal 'İ' ∉ es ∨ ¬IsDotted cs) :
    Pattern.Splits (es.flatMap tokens) (cs.flatMap lowerChar) ↔
      SplitsInto PatternElement.Takes es cs := by
  induction es generalizing cs with
  | nil =>
    rw [List.flatMap_nil, flatMap_lowerChar hcs]
    exact splitsInto_nil.trans (List.map_eq_nil_iff.trans splitsInto_nil.symm)
  | cons e es ih =>
    have parts {piece rest : List Char} (hrest : piece ++ rest = cs) :
        (Pattern.Splits e.tokens (piece.flatMap lowerChar) ↔ e.Takes piece) ∧
          (Pattern.Splits (es.flatMap tokens) (rest.flatMap lowerChar) ↔
            SplitsInto PatternElement.Takes es rest) := by
      subst hrest
      rw [List.mem_append, not_or] at hcs
      rw [List.mem_cons, not_or] at h
      exact ⟨splits_tokens_iff hcs.1 (h.imp (fun h => Ne.symm h.1) (mt fun h => h.append_right rest)),
        ih hcs.2 (h.imp And.right (mt fun h => h.append_left piece))⟩
    rw [List.flatMap_cons, splitsInto_cons]
    -- As the forms are of one character each, they are cut where the text is.
    refine splitsInto_append.trans ⟨?_, ?_⟩
    · rintro ⟨front, rest, hfront, hrest, hcs'⟩
      rw [flatMap_lowerChar hcs] at hcs'
      obtain ⟨piece, others, heq, rfl, rfl⟩ := List.map_eq_append_iff.mp hcs'.symm
      rw [heq, List.mem_append, not_or] at hcs
      rw [← flatMap_lowerChar hcs.1] at hfront
      rw [← flatMap_lowerChar hcs.2] at hrest
      exact ⟨piece, others, (parts heq.symm).1.mp hfront, (parts heq.symm).2.mp hrest, heq.symm⟩
    · rintro ⟨piece, rest, hpiece, hrest, heq⟩
      refine ⟨piece.flatMap lowerChar, rest.flatMap lowerChar, (parts heq).1.mpr hpiece,
        (parts heq).2.mpr hrest, ?_⟩
      rw [← List.flatMap_append, heq]

end

theorem elementsOf_ones (n : Nat) : elementsOf (List.replicate n '?') = List.replicate n .one := by
  induction n with
  | zero => rfl
  | succ n ih => rw [List.replicate_succ, elementsOf, ih, List.replicate_succ]

theorem splitsInto_ones (cs : List Char) :
    SplitsInto PatternElement.Takes (List.replicate cs.length .one) cs := by
  induction cs with
  | nil => exact splitsInto_nil.mpr rfl
  | cons c cs ih => exact splitsInto_cons.mpr ⟨[c], cs, rfl, ih, rfl⟩

/-- As many `?` as a text has characters fit it, but do not match when one of them is `İ`. -/
theorem not_agree_ones {text : String} (h : 'İ' ∈ text.toList) :
    ∃ pattern, ¬(wildcardMatch pattern text = true ↔ Fits pattern text) := by
  refine ⟨String.ofList (List.replicate text.toList.length '?'), fun hagree => ?_⟩
  rw [wildcardMatch_iff_splits, Fits, String.toList_ofList, elementsOf_ones] at hagree
  have hsplits := hagree.mpr (splitsInto_ones _)
  rw [List.flatMap_replicate, tokens, List.flatten_replicate_singleton] at hsplits
  have hlength := hsplits.length_eq fun hany => nomatch List.eq_of_mem_replicate hany
  have hlt := length_lt_lower h
  rw [List.length_replicate] at hlength
  omega

/-- `İ` between two `*` fits no text without it, but matches where its lower case form is. -/
theorem not_agree_dotted {text : String} (h : IsDotted text.toList) (hmem : 'İ' ∉ text.toList) :
    ∃ pattern, ¬(wildcardMatch pattern text = true ↔ Fits pattern text) := by
  refine ⟨"*İ*", fun hagree => ?_⟩
  rw [wildcardMatch_iff_splits] at hagree
  obtain ⟨front, rest, hlower⟩ := h
  have hmatch : Pattern.Splits (.any :: (literals 'İ' ++ [.any])) (text.toList.flatMap lowerChar) := by
    refine Pattern.splits_any.mpr ⟨front, lowerChar 'İ' ++ rest, ?_, ?_⟩
    · rw [← List.append_assoc, hlower]
    · exact splitsInto_append.mpr
        ⟨lowerChar 'İ', rest, Pattern.splits_map_char.mpr rfl, Pattern.splits_star rest, rfl⟩
  have hfits : SplitsInto PatternElement.Takes [.any, .literal 'İ', .any] text.toList :=
    hagree.mp hmatch
  obtain ⟨piece, others, -, hothers, htext⟩ := splitsInto_cons.mp hfits
  obtain ⟨_, last, ⟨d, rfl, hd⟩, -, rfl⟩ := splitsInto_cons.mp hothers
  have hd' : d ≠ 'İ' := by
    rintro rfl
    exact hmem (htext ▸ List.mem_append_right _ List.mem_cons_self)
  rw [lowerChar_eq_singleton hd', lowerChar_dotted] at hd
  exact absurd hd (by simp)

/-- A pattern matches a text just when it fits the text as it is written: every pattern does so if the
text is not dotted, and only then; those without `İ` do so if the text is without it. -/
theorem wildcardMatch_iff_fits (text : String) :
    ((∀ pattern, wildcardMatch pattern text = true ↔ Fits pattern text) ↔ ¬IsDotted text.toList) ∧
      ∀ pattern, 'İ' ∉ pattern.toList → 'İ' ∉ text.toList →
        (wildcardMatch pattern text = true ↔ Fits pattern text) := by
  refine ⟨⟨fun hagree hdotted => ?_, fun h pattern => ?_⟩, fun pattern hpattern htext => ?_⟩
  · obtain ⟨pattern, hnot⟩ : ∃ pattern, ¬(wildcardMatch pattern text = true ↔ Fits pattern text) := by
      by_cases hmem : 'İ' ∈ text.toList
      · exact not_agree_ones hmem
      · exact not_agree_dotted hdotted hmem
    exact hnot (hagree pattern)
  · rw [wildcardMatch_iff_splits]
    exact splits_iff (mt isDotted_of_mem h) (.inr h)
  · rw [wildcardMatch_iff_splits]
    exact splits_iff htext (.inl (mt mem_of_literal_mem hpattern))

/-- Letters in either case, and an `i` with a dot behind it as two characters. -/
theorem wildcardMatch_iff_fits_letters :
    ¬IsDotted "Aß".toList ∧ wildcardMatch "a?" "Aß" = true ∧
      'İ' ∉ "I?".toList ∧ 'İ' ∉ "i\u0307".toList ∧ wildcardMatch "I?" "i\u0307" = true := by
  have hplain : ¬IsDotted "Aß".toList := by
    rw [IsDotted]
    decide +kernel
  have hpattern : 'İ' ∉ "I?".toList := by decide
  have htext : 'İ' ∉ "i\u0307".toList := by decide
  have hfits : Fits "a?" "Aß" :=
    splitsInto_cons.mpr ⟨['A'], ['ß'], ⟨'A', rfl, by decide⟩,
      splitsInto_cons.mpr ⟨['ß'], [], rfl, splitsInto_nil.mpr rfl, rfl⟩, rfl⟩
  have hfits' : Fits "I?" "i\u0307" :=
    splitsInto_cons.mpr ⟨['i'], ['\u0307'], ⟨'i', rfl, by decide⟩,
      splitsInto_cons.mpr ⟨['\u0307'], [], rfl, splitsInto_nil.mpr rfl, rfl⟩, rfl⟩
  exact ⟨hplain, ((wildcardMatch_iff_fits "Aß").1.mpr hplain "a?").mpr hfits, hpattern, htext,
    ((wildcardMatch_iff_fits "i\u0307").2 "I?" hpattern htext).mpr hfits'⟩

/-- `?` does not stand for `İ`. -/
theorem not_wildcardMatch_dotted : wildcardMatch "?" "İ" = false ∧ Fits "?" "İ" := by
  constructor
  · refine Bool.eq_false_of_not_eq_true fun h => ?_
    have hlength := (wildcardMatch_iff_splits.mp h).length_eq (by decide)
    exact absurd hlength (by decide +kernel)
  · exact splitsInto_cons.mpr ⟨['İ'], [], rfl, splitsInto_nil.mpr rfl, rfl⟩

end Spreadsheet.Text
