import Mathlib.Order.Bounds.Basic
import Spreadsheet.Proofs.Text.Splitting

/-! The search for a match of a pattern. A match that is lost when an earlier `*` is forgotten is found
again from the later one, since that one may take what the earlier one would have taken more; so the
search says whether the text splits as the pattern asks for. -/

namespace Spreadsheet.Text

namespace Pattern.Search

variable {s : Search}

/-- Whether there is a match for which the last `*` takes more than it has taken. -/
def Resumes (s : Search) : Prop :=
  ∃ ts cs front rest, s.star = some (ts, cs) ∧ front ≠ [] ∧ front ++ rest = cs ∧ Splits ts rest

/-- Whether there is a match that a search can still find. -/
def Accepts (s : Search) : Prop := s.tokens.Splits s.chars ∨ s.Resumes

/-- What has been passed behind the last `*` is as long in the pattern as in the text, and there is no
other `*` in it. -/
def Aligned (s : Search) : Prop :=
  ∀ ts cs, s.star = some (ts, cs) → ∃ (passed : Pattern) (taken : List Char),
    ts = passed ++ s.tokens ∧ cs = taken ++ s.chars ∧ passed.length = taken.length ∧ .any ∉ passed

theorem aligned_start (p : Pattern) (cs : List Char) : Aligned ⟨p, cs, none⟩ := by
  intro ts cs h
  cases h

theorem aligned_star (ts : Pattern) (cs : List Char) : Aligned ⟨ts, cs, some (ts, cs)⟩ := by
  intro ts' cs' h
  cases h
  exact ⟨[], [], rfl, rfl, rfl, List.not_mem_nil⟩

/-- Going on behind a token that stands for one character keeps the alignment. -/
theorem Aligned.advance {t : PatternToken} {ts : Pattern} {c : Char} {cs : List Char}
    {star : Option (Pattern × List Char)} (h : Aligned ⟨t :: ts, c :: cs, star⟩) (ht : t ≠ .any) :
    Aligned ⟨ts, cs, star⟩ := by
  intro ts' cs' hstar
  obtain ⟨passed, taken, hts, hcs, hlength, hany⟩ := h ts' cs' hstar
  refine ⟨passed ++ [t], taken ++ [c], ?_, ?_, ?_, ?_⟩
  · rw [hts, List.append_assoc, List.singleton_append]
  · rw [hcs, List.append_assoc, List.singleton_append]
  · rw [List.length_append, List.length_append, hlength, List.length_singleton, List.length_singleton]
  · rw [List.mem_append, List.mem_singleton]
    exact not_or.mpr ⟨hany, ht.symm⟩

/-- If the last `*` can take more, what is left of the pattern matches further on in the text. -/
theorem Resumes.exists_later (h : s.Resumes) (hs : s.Aligned) :
    ∃ front rest, front ≠ [] ∧ front ++ rest = s.chars ∧ s.tokens.Splits rest := by
  obtain ⟨ts, cs, front, rest, hstar, hne, rfl, hsplits⟩ := h
  obtain ⟨passed, taken, rfl, hcs, hlength, hany⟩ := hs _ _ hstar
  obtain ⟨piece, last, hpiece, hlast, rfl⟩ := splitsInto_append.mp hsplits
  have hpassed : piece.length = passed.length := Splits.length_eq hpiece hany
  have hfront : 0 < front.length := List.length_pos_iff.mpr hne
  rw [← List.append_assoc] at hcs
  obtain ⟨more, htaken, -⟩ | ⟨skipped, hskipped, hchars⟩ := List.append_eq_append_iff.mp hcs
  · have htaken := congrArg List.length htaken
    simp only [List.length_append] at htaken
    omega
  · refine ⟨skipped, last, ?_, hchars.symm, hlast⟩
    rintro rfl
    have hskipped := congrArg List.length hskipped
    simp only [List.length_append, List.length_nil] at hskipped
    omega

theorem accepts_star {ts : Pattern} {cs : List Char} :
    Accepts ⟨ts, cs, some (ts, cs)⟩ ↔ Splits (.any :: ts) cs := by
  rw [splits_any]
  constructor
  · rintro (h | ⟨_, _, front, rest, hstar, -, rfl, hrest⟩)
    · exact ⟨[], cs, rfl, h⟩
    · cases hstar
      exact ⟨front, rest, rfl, hrest⟩
  · rintro ⟨front, rest, rfl, hrest⟩
    by_cases hne : front = []
    · subst hne
      exact .inl hrest
    · exact .inr ⟨ts, _, front, rest, rfl, hne, rfl, hrest⟩

/-- Whether what a search does next is right, if there is a match just when `P` holds. -/
def Leads (P : Prop) : Bool ⊕ Search → Prop
  | .inl answer => answer = true ↔ P
  | .inr t => t.Aligned ∧ (t.Accepts ↔ P)

theorem leads_retry (hs : s.Aligned) (hchars : s.chars ≠ []) : Leads s.Resumes s.retry := by
  rw [retry]
  split
  · rename_i hstar
    refine ⟨fun h => absurd h Bool.false_ne_true, ?_⟩
    rintro ⟨ts, cs, front, rest, hsome, -⟩
    cases hstar.symm.trans hsome
  · rename_i ts cs hstar
    obtain ⟨passed, taken, -, hcs, -⟩ := hs ts cs hstar
    obtain ⟨c, cs, rfl⟩ : ∃ d ds, cs = d :: ds := by
      refine List.exists_cons_of_ne_nil ?_
      rw [hcs]
      exact List.append_ne_nil_of_right_ne_nil _ hchars
    refine ⟨aligned_star ts cs, ?_⟩
    rw [List.tail_cons, accepts_star, splits_any]
    constructor
    · rintro ⟨front, rest, rfl, hrest⟩
      exact ⟨ts, _, c :: front, rest, hstar, List.cons_ne_nil _ _, rfl, hrest⟩
    · rintro ⟨_, _, front, rest, hsome, hne, hfront, hrest⟩
      cases hstar.symm.trans hsome
      obtain ⟨d, front, rfl⟩ := List.exists_cons_of_ne_nil hne
      exact ⟨front, rest, (List.cons.inj hfront).2, hrest⟩

/-- A step answers rightly, or what can be found from where it leads is what could be found before. -/
theorem leads_step (hs : s.Aligned) : Leads s.Accepts s.step := by
  obtain ⟨ts, cs, star⟩ := s
  have disagree (h : ¬Splits ts cs) : Resumes ⟨ts, cs, star⟩ ↔ Accepts ⟨ts, cs, star⟩ :=
    (or_iff_right h).symm
  rw [step]
  split <;> simp only at * <;> subst_vars
  · -- At the end of the text no `*` can take more.
    refine splits_empty.symm.trans (or_iff_left fun h => ?_).symm
    obtain ⟨front, rest, hne, hnil, -⟩ := h.exists_later hs
    exact hne (List.append_eq_nil_iff.mp hnil).1
  · rename_i c cs
    rw [← disagree fun h => List.cons_ne_nil _ _ (splitsInto_nil.mp h)]
    exact leads_retry hs (List.cons_ne_nil _ _)
  · rename_i ts c cs
    refine ⟨hs.advance PatternToken.noConfusion, ?_⟩
    exact or_congr splits_one.symm Iff.rfl
  · rename_i d ts c cs
    split
    · rename_i heq
      refine ⟨hs.advance PatternToken.noConfusion, or_congr ?_ Iff.rfl⟩
      rw [splits_char, and_iff_right heq]
    · rename_i hne
      rw [← disagree fun h => hne (splits_char.mp h).1]
      exact leads_retry hs (List.cons_ne_nil _ _)
  · rename_i c cs
    exact iff_of_true rfl (.inl (splits_star (c :: cs)))
  · rename_i ts c cs _
    refine ⟨aligned_star ts (c :: cs), accepts_star.trans (or_iff_left_of_imp fun h => ?_).symm⟩
    obtain ⟨front, rest, -, hcs, hrest⟩ := h.exists_later hs
    change front ++ rest = c :: cs at hcs
    exact hcs ▸ hrest.append_any front

theorem run_iff (hs : s.Aligned) : s.run = true ↔ s.Accepts := by
  induction s using run.induct with
  | case1 s answer hstep =>
    have hleads := leads_step hs
    rw [hstep] at hleads
    rw [run, hstep]
    exact hleads
  | case2 s t hstep ih =>
    have hleads := leads_step hs
    rw [hstep] at hleads
    rw [run, hstep]
    exact (ih hleads.1).trans hleads.2

/-- What a search has come to after a number of steps, if it has not answered before. -/
def after : Nat → Search → Bool ⊕ Search
  | 0, s => .inr s
  | n + 1, s =>
    match s.step with
    | .inl answer => .inl answer
    | .inr t => t.after n

theorem after_eq_run {n : Nat} (h : s.size < n) : s.after n = .inl s.run := by
  induction n generalizing s with
  | zero => exact absurd h (Nat.not_lt_zero _)
  | succ n ih =>
    cases hstep : s.step with
    | inl answer => rw [after, run, hstep]
    | inr t =>
      rw [after, run, hstep]
      exact ih (Nat.lt_of_lt_of_le (size_step hstep) (Nat.le_of_lt_succ h))

end Pattern.Search

theorem Pattern.after_start (p : Pattern) (cs : List Char) :
    Search.after (p.length * (cs.length + 1) * (cs.length + 1) + cs.length + 1) ⟨p, cs, none⟩ =
      .inl (p.isMatch cs) := by
  refine Search.after_eq_run (Nat.lt_succ_of_le (Nat.le_of_eq ?_))
  simp [Search.size, Search.rank]

theorem Pattern.isMatch_iff_splits (p : Pattern) (cs : List Char) :
    p.isMatch cs = true ↔ p.Splits cs := by
  rw [isMatch, Search.run_iff (Search.aligned_start p cs)]
  refine or_iff_left ?_
  rintro ⟨ts, cs, front, rest, hstar, -⟩
  cases hstar

theorem Pattern.isMatch_append_any {p : Pattern} {cs : List Char} :
    isMatch (p ++ [.any]) cs = true ↔ ∃ front, front <+: cs ∧ p.Splits front := by
  rw [isMatch_iff_splits]
  refine splitsInto_append.trans ⟨?_, ?_⟩
  · rintro ⟨front, rest, hfront, -, rfl⟩
    exact ⟨front, List.prefix_append _ _, hfront⟩
  · rintro ⟨front, ⟨rest, rfl⟩, hfront⟩
    exact ⟨front, rest, hfront, splits_star rest, rfl⟩

theorem length_offsets (offset : Nat) (cs : List Char) :
    (offsets offset cs).length = cs.length + 1 := by
  induction cs generalizing offset with
  | nil => rfl
  | cons c cs ih => exact congrArg (· + 1) (ih _)

theorem getElem?_offsets {cs : List Char} {i : Nat} (hi : i ≤ cs.length) (offset : Nat) :
    (offsets offset cs)[i]? = some (offset + ((cs.take i).flatMap lowerChar).length) := by
  induction cs generalizing offset i with
  | nil =>
    obtain rfl := Nat.le_zero.mp hi
    rfl
  | cons c cs ih =>
    cases i with
    | zero => rfl
    | succ i =>
      rw [offsets, List.getElem?_cons_succ, ih (Nat.le_of_succ_le_succ hi), List.take_succ_cons,
        List.flatMap_cons, List.length_append, Nat.add_assoc]

/-- Behind the offset of a character is the lower case form of the text from this character on. -/
theorem drop_offset {text : String} {i : Nat} (hi : i ≤ text.toList.length) :
    (lowerEach text).drop ((offsets 0 text.toList)[i]?.getD 0) =
      (text.toList.drop i).flatMap lowerChar := by
  have hsplit : lowerEach text =
      (text.toList.take i).flatMap lowerChar ++ (text.toList.drop i).flatMap lowerChar := by
    rw [lowerEach, ← List.flatMap_append, List.take_append_drop]
  rw [getElem?_offsets hi, Option.getD_some, Nat.zero_add, hsplit, List.drop_left]

/-- Whether a pattern matches the beginning of what a text has from a character on, in lower case. -/
def MatchesAt (pattern text : String) (i : Nat) : Prop :=
  i ≤ text.toList.length ∧ ∃ front, front <+: (text.toList.drop i).flatMap lowerChar ∧
    (patternOf pattern.toList).Splits front

theorem matchesAt_iff {pattern text : String} {i : Nat} (hi : i ≤ text.toList.length) :
    MatchesAt pattern text i ↔ Pattern.isMatch (patternOf pattern.toList ++ [.any])
      ((lowerEach text).drop ((offsets 0 text.toList)[i]?.getD 0)) = true := by
  rw [drop_offset hi, Pattern.isMatch_append_any]
  exact and_iff_right hi

theorem wildcardFind_eq_some_iff {pattern text : String} {start i : Nat} :
    wildcardFind pattern text start = some i ↔
      IsLeast {i | start ≤ i ∧ MatchesAt pattern text i} i := by
  simp only [wildcardFind, length_offsets, List.find?_range'_eq_some, List.mem_range'_1]
  constructor
  · rintro ⟨hmatch, ⟨hstart, hlt⟩, hbefore⟩
    have hi : i ≤ text.toList.length := by omega
    refine ⟨⟨hstart, (matchesAt_iff hi).mpr hmatch⟩, fun j ⟨hj, hmatches⟩ => ?_⟩
    by_contra hlt
    have hnot := hbefore j hj (by omega)
    rw [(matchesAt_iff hmatches.1).mp hmatches] at hnot
    exact Bool.false_ne_true hnot
  · rintro ⟨⟨hstart, hmatches⟩, hleast⟩
    have hi := hmatches.1
    refine ⟨(matchesAt_iff hi).mp hmatches, by omega, fun j hj hlt => ?_⟩
    rw [Bool.not_eq_true']
    refine Bool.eq_false_of_not_eq_true fun hmatch => ?_
    have hle := hleast ⟨hj, (matchesAt_iff (by omega)).mpr hmatch⟩
    omega

theorem wildcardFind_eq_none_iff {pattern text : String} {start : Nat} :
    wildcardFind pattern text start = none ↔ ∀ i, start ≤ i → ¬MatchesAt pattern text i := by
  simp only [wildcardFind, length_offsets, List.find?_range'_eq_none, Bool.not_eq_true']
  constructor
  · intro h i hi hmatches
    have hnot := h i hi (by have := hmatches.1; omega)
    rw [(matchesAt_iff hmatches.1).mp hmatches] at hnot
    exact Bool.false_ne_true hnot.symm
  · intro h i hi hlt
    exact Bool.eq_false_of_not_eq_true fun hmatch => h i hi ((matchesAt_iff (by omega)).mpr hmatch)

/-- A search answers after so many steps, and says whether the text splits as the pattern asks for; a
position is found just when it is the first one from which on the pattern matches. -/
theorem wildcardFind_isLeast :
    (∀ (p : Pattern) (cs : List Char),
      Pattern.Search.after (p.length * (cs.length + 1) * (cs.length + 1) + cs.length + 1) ⟨p, cs, none⟩ =
          .inl (p.isMatch cs) ∧
        (p.isMatch cs = true ↔ p.Splits cs)) ∧
      ∀ (pattern text : String) (start : Nat),
        (∀ i, wildcardFind pattern text start = some i ↔
          IsLeast {i | start ≤ i ∧ MatchesAt pattern text i} i) ∧
        (wildcardFind pattern text start = none ↔ ∀ i, start ≤ i → ¬MatchesAt pattern text i) :=
  ⟨fun p cs => ⟨p.after_start cs, p.isMatch_iff_splits cs⟩, fun _ _ _ =>
    ⟨fun _ => wildcardFind_eq_some_iff, wildcardFind_eq_none_iff⟩⟩

end Spreadsheet.Text
