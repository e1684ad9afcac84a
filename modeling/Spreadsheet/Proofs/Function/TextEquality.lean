import Spreadsheet.Function.Criteria
import Spreadsheet.Function.Logical
import Spreadsheet.Function.Lookup
import Spreadsheet.Proofs.Text.Search
import Spreadsheet.Proofs.Text.Sigma

/-! Equal texts. Criteria compare the lower case forms of characters, comparisons those of whole texts,
and the two agree on a text unless one of its sigmas ends a word. -/

namespace Spreadsheet.Function

open Text

theorem patternOf_literal {cs : List Char}
    (h : cs.any (fun c => c == '*' || c == '?' || c == '~') = false) :
    patternOf cs = (cs.flatMap lowerChar).map .char := by
  fun_induction patternOf cs with
  | case1 => rfl
  | case2 | case3 | case4 | case5 => simp at h
  | case6 c cs _ _ _ _ ih =>
    rw [List.any_cons, Bool.or_eq_false_iff] at h
    rw [ih h.2, List.flatMap_cons, List.map_append, literals]

/-- A text without wildcards matches the texts with the same lower case forms of their characters. -/
theorem wildcardMatch_iff_lowerEach {x : String} (h : hasWildcards x = false) (y : String) :
    wildcardMatch x y = true ↔ lowerEach y = lowerEach x := by
  rw [wildcardMatch, Pattern.isMatch_iff_splits, patternOf_literal h, Pattern.splits_map_char, lowerEach,
    lowerEach]

theorem compare_texts_iff (x y : String) :
    Value.compare (.text x) (.text y) = .eq ↔ Text.lower x = Text.lower y :=
  Std.compare_eq_iff_eq

theorem isExactMatch_texts {x : String} (h : hasWildcards x = false) (y : String) :
    isExactMatch (.text x) (.text y) = (Value.compare (.text x) (.text y) == .eq) := by
  rw [isExactMatch, h, if_neg Bool.false_ne_true, Bool.eq_iff_iff, beq_iff_eq, beq_iff_eq,
    compare_texts_iff]

theorem matchesCase_texts (x y : String) :
    matchesCase (.text x) (.text y) = (Value.compare (.text x) (.text y) == .eq) := by
  rw [matchesCase]
  rfl

theorem isMet_ofWord (x y : String) :
    (Criterion.ofWord .equal x.toList).isMet (.text y) = wildcardMatch x y := by
  show (wildcardMatch x y != false) = wildcardMatch x y
  rw [Bool.bne_false]

/-- For a text without wildcards, criteria ask whether it matches, exact lookups and `SWITCH` whether it
compares as equal. These are the same for all texts just when no sigma ends a word in it; they are also
the same for two texts in which no capital sigma does. -/
theorem wildcardMatch_iff_compare {x : String} (h : hasWildcards x = false) :
    ((∀ y, wildcardMatch x y = true ↔ Value.compare (.text x) (.text y) = .eq) ↔
        ¬EndsWordIn sigmas x.toList) ∧
      (∀ y, ¬EndsWordIn ['Σ'] x.toList → ¬EndsWordIn ['Σ'] y.toList →
        (wildcardMatch x y = true ↔ Value.compare (.text x) (.text y) = .eq)) ∧
      ∀ y, (Criterion.ofWord .equal x.toList).isMet (.text y) = wildcardMatch x y ∧
        isExactMatch (.text x) (.text y) = (Value.compare (.text x) (.text y) == .eq) ∧
        matchesCase (.text x) (.text y) = (Value.compare (.text x) (.text y) == .eq) := by
  simp only [wildcardMatch_iff_lowerEach h, compare_texts_iff]
  refine ⟨⟨fun hagree hends => ?_, fun hends => ?_⟩, fun y hx hy => ?_, fun y => ?_⟩
  · obtain ⟨y, hne⟩ := exists_lowerEach_ne_lower hends
    exact hne (hagree y)
  · exact lowerEach_eq_iff_lower_eq hends
  · rw [lower_eq_lowerEach hx, lower_eq_lowerEach hy, String.ofList_inj, eq_comm]
  · exact ⟨isMet_ofWord x y, isExactMatch_texts h y, matchesCase_texts x y⟩

/-- A capital sigma inside a word, and a small one at its end in place of the final one. -/
theorem wildcardMatch_iff_compare_greek :
    hasWildcards "ΣΟΦΙΑ" = false ∧ ¬EndsWordIn sigmas "ΣΟΦΙΑ".toList ∧
      wildcardMatch "ΣΟΦΙΑ" "σοφια" = true ∧ Value.compare (.text "ΣΟΦΙΑ") (.text "σοφια") = .eq ∧
      hasWildcards "οδοσ" = false ∧ ¬EndsWordIn ['Σ'] "οδοσ".toList ∧ ¬EndsWordIn ['Σ'] "Οδοσ".toList ∧
      wildcardMatch "οδοσ" "Οδοσ" = true ∧ Value.compare (.text "οδοσ") (.text "Οδοσ") = .eq := by
  have hinside : hasWildcards "ΣΟΦΙΑ" = false := by decide
  have hends : ¬EndsWordIn sigmas "ΣΟΦΙΑ".toList := by decide +kernel
  have hmatch : wildcardMatch "ΣΟΦΙΑ" "σοφια" = true := by decide +kernel
  have hsmall : hasWildcards "οδοσ" = false := by decide
  have hx : ¬EndsWordIn ['Σ'] "οδοσ".toList := by decide +kernel
  have hy : ¬EndsWordIn ['Σ'] "Οδοσ".toList := by decide +kernel
  have hmatch' : wildcardMatch "οδοσ" "Οδοσ" = true := by decide +kernel
  exact ⟨hinside, hends, hmatch, ((wildcardMatch_iff_compare hinside).1.mpr hends "σοφια").mp hmatch,
    hsmall, hx, hy, hmatch', ((wildcardMatch_iff_compare hsmall).2.1 "Οδοσ" hx hy).mp hmatch'⟩

/-- A capital sigma at the end of a word becomes a final one in comparisons alone. -/
theorem not_wildcardMatch_iff_compare :
    hasWildcards "ΟΔΟΣ" = false ∧ wildcardMatch "ΟΔΟΣ" "οδος" = false ∧
      Value.compare (.text "ΟΔΟΣ") (.text "οδος") = .eq := by
  refine ⟨by decide, by decide +kernel, (compare_texts_iff _ _).mpr ?_⟩
  decide +kernel

end Spreadsheet.Function
