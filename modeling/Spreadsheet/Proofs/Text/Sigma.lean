import Spreadsheet.Proofs.Text.Case

/-! Sigmas at the end of a word. Lower case of a whole text and that of its characters differ in the
capital sigmas that end a word. A text is equal to the same texts under both just when no sigma of it,
of whichever of the three forms, ends a word. -/

namespace Spreadsheet.Text

/-- What a scan over characters in turn knows after `c` of whether the last one not ignored for case is
cased, if it knew `seen` before. -/
def look (c : Char) (seen : Bool) : Bool := if isCaseIgnorable c then seen else isCased c

/-- Whether a list of characters, read from its front, leads to a cased one, if `after` says so of what
is behind. -/
def leadsToCased (after : Bool) (cs : List Char) : Bool := cs.foldr look after

/-- Whether a list of characters, read from its end, leads to a cased one, if `before` says so of what
is in front. -/
def followsCased (before : Bool) (cs : List Char) : Bool := cs.foldl (fun seen c => look c seen) before

section

variable (seen : Bool) (c : Char) (cs ds : List Char)

theorem leadsToCased_cons : leadsToCased seen (c :: cs) = look c (leadsToCased seen cs) := rfl

theorem leadsToCased_append :
    leadsToCased seen (cs ++ ds) = leadsToCased (leadsToCased seen ds) cs :=
  List.foldr_append

theorem followsCased_cons : followsCased seen (c :: cs) = followsCased (look c seen) cs := rfl

theorem followsCased_singleton : followsCased seen [c] = look c seen := rfl

theorem followsCased_append :
    followsCased seen (cs ++ ds) = followsCased (followsCased seen cs) ds :=
  List.foldl_append

end

theorem meetsCased_cons (c : Char) (cs : List Char) : meetsCased (c :: cs) = look c (meetsCased cs) := by
  rw [meetsCased, meetsCased, look, List.dropWhile_cons]
  by_cases hc : isCaseIgnorable c = true
  · rw [if_pos hc, if_pos hc]
  · rw [if_neg hc, if_neg hc]

theorem meetsCased_eq (cs : List Char) : meetsCased cs = leadsToCased false cs := by
  induction cs with
  | nil => rfl
  | cons c cs ih => rw [meetsCased_cons, ih, leadsToCased_cons]

theorem leadsToCased_reverse (seen : Bool) (cs : List Char) :
    leadsToCased seen cs.reverse = followsCased seen cs := by
  rw [leadsToCased, List.foldr_reverse, followsCased]

/-- A lower case form leads to a cased character where the character itself does, in both directions. -/
theorem look_lowerChar (c : Char) (seen : Bool) :
    leadsToCased seen (lowerChar c) = look c seen ∧ followsCased seen (lowerChar c) = look c seen := by
  by_cases hc : c = 'İ'
  · -- The dot of this form is ignored for case, so that its `i` decides.
    subst hc
    rw [lowerChar_dotted]
    cases seen <;> decide +kernel
  · obtain ⟨d, hd, ⟨hignorable, hcased⟩, -⟩ := exists_lowerChar hc
    rw [hd]
    simp only [leadsToCased, followsCased, List.foldr_cons, List.foldr_nil, List.foldl_cons,
      List.foldl_nil, look, hignorable, hcased, and_self]

theorem leadsToCased_lower (after : Bool) (cs : List Char) :
    leadsToCased after (cs.flatMap lowerChar) = leadsToCased after cs := by
  induction cs with
  | nil => rfl
  | cons c cs ih =>
    rw [List.flatMap_cons, leadsToCased_append, ih, (look_lowerChar c _).1, leadsToCased_cons]

theorem followsCased_lower (before : Bool) (cs : List Char) :
    followsCased before (cs.flatMap lowerChar) = followsCased before cs := by
  induction cs generalizing before with
  | nil => rfl
  | cons c cs ih =>
    rw [List.flatMap_cons, followsCased_append, (look_lowerChar c before).2, ih, followsCased_cons]

/-- The capital, the small and the final sigma. -/
def sigmas : List Char := ['Σ', 'σ', 'ς']

theorem look_sigma {c : Char} (hc : c ∈ sigmas) (seen : Bool) : look c seen = true := by
  have hranges : inRanges [(931, 931), (962, 963)] c.toNat = true := by
    fin_cases hc <;> decide +kernel
  have hignorable : isCaseIgnorable c = false := inRanges_eq_false (by decide +kernel) hranges
  have hcased : isCased c = true := inRanges_eq_true (by decide +kernel) hranges
  rw [look, hignorable, hcased]
  rfl

/-- Whether one of the given characters stands at the end of a word: with a cased character in front and
none behind. -/
def EndsWordIn (sources text : List Char) : Prop :=
  ∃ front c rest, text = front ++ c :: rest ∧ c ∈ sources ∧
    meetsCased front.reverse = true ∧ meetsCased rest = false

theorem endsWordIn_iff_getElem {sources cs : List Char} :
    EndsWordIn sources cs ↔ ∃ i, ∃ h : i < cs.length, cs[i] ∈ sources ∧
      meetsCased (cs.take i).reverse = true ∧ meetsCased (cs.drop (i + 1)) = false := by
  constructor
  · rintro ⟨front, c, rest, rfl, hc, hfront, hrest⟩
    refine ⟨front.length, by simp, ?_, ?_, ?_⟩
    · rwa [List.getElem_of_append rfl rfl]
    · rwa [List.take_left]
    · rwa [← List.drop_drop, List.drop_left, List.drop_one, List.tail_cons]
  · rintro ⟨i, h, hc, hfront, hrest⟩
    refine ⟨cs.take i, cs[i], cs.drop (i + 1), ?_, hc, hfront, hrest⟩
    rw [List.cons_getElem_drop_succ, List.take_append_drop]

instance {sources cs : List Char} : Decidable (EndsWordIn sources cs) :=
  decidable_of_iff _ endsWordIn_iff_getElem.symm

/-- A sigma as it is at the end of a word. -/
def atEnd (c : Char) : Char := if c = 'Σ' then 'ς' else c

/-- A text with final sigmas for the capital ones that end a word; `before` says whether there is a cased
character in front of it, and `after` whether there is one behind. -/
def withFinals (before after : Bool) : List Char → List Char
  | [] => []
  | c :: cs =>
    (if before && !leadsToCased after cs then atEnd c else c) :: withFinals (look c before) after cs

theorem lowerAfter_eq (before cs : List Char) :
    lowerAfter before cs = (withFinals (meetsCased before) false cs).flatMap lowerChar := by
  have hcapital : lowerChar 'Σ' = ['σ'] ∧ lowerChar 'ς' = ['ς'] := by decide +kernel
  induction cs generalizing before with
  | nil => rfl
  | cons c cs ih =>
    rw [lowerAfter, withFinals, List.flatMap_cons, ih, meetsCased_cons, ← meetsCased_eq]
    congr 1
    by_cases hc : c = 'Σ'
    · subst hc
      rw [if_pos rfl, atEnd, if_pos rfl]
      split
      · exact hcapital.2.symm
      · exact hcapital.1.symm
    · rw [if_neg hc, atEnd, if_neg hc, ite_self]

section

variable (before after : Bool)

theorem withFinals_append (front rest : List Char) :
    withFinals before after (front ++ rest) =
      withFinals before (leadsToCased after rest) front ++
        withFinals (followsCased before front) after rest := by
  induction front generalizing before with
  | nil => rfl
  | cons c front ih =>
    rw [List.cons_append, withFinals, withFinals, ih, leadsToCased_append, followsCased_cons,
      List.cons_append]

theorem look_atEnd (c : Char) (seen : Bool) : look (atEnd c) seen = look c seen := by
  rw [atEnd]
  split
  · subst_vars
    rw [look_sigma (by decide), look_sigma (by decide)]
  · rfl

theorem leadsToCased_withFinals (seen : Bool) (cs : List Char) :
    leadsToCased seen (withFinals before after cs) = leadsToCased seen cs := by
  induction cs generalizing before with
  | nil => rfl
  | cons c cs ih =>
    rw [withFinals, leadsToCased_cons, leadsToCased_cons, ih]
    split
    · rw [look_atEnd]
    · rfl

theorem followsCased_withFinals (seen : Bool) (cs : List Char) :
    followsCased seen (withFinals before after cs) = followsCased seen cs := by
  induction cs generalizing before seen with
  | nil => rfl
  | cons c cs ih =>
    rw [withFinals, followsCased_cons, followsCased_cons, ih]
    split
    · rw [look_atEnd]
    · rfl

end

variable {cs : List Char}

theorem endsWordIn_iff {sources text : List Char} : EndsWordIn sources text ↔
    ∃ front c rest, text = front ++ c :: rest ∧ c ∈ sources ∧
      followsCased false front = true ∧ leadsToCased false rest = false := by
  simp only [EndsWordIn, meetsCased_eq, leadsToCased_reverse]

theorem EndsWordIn.mono {sources others : List Char} (hsub : sources ⊆ others)
    (h : EndsWordIn sources cs) : EndsWordIn others cs := by
  obtain ⟨front, c, rest, hcs, hc, hwords⟩ := h
  exact ⟨front, c, rest, hcs, hsub hc, hwords⟩

theorem withFinals_cons_sigma {c : Char} (hc : c ∈ sigmas) (front rest : List Char)
    (hfront : followsCased false front = true) (hrest : leadsToCased false rest = false) :
    withFinals false false (front ++ c :: rest) =
      withFinals false true front ++ atEnd c :: withFinals true false rest := by
  rw [withFinals_append, leadsToCased_cons, look_sigma hc, hfront, withFinals, hrest, look_sigma hc]
  rfl

/-- Final sigmas take nothing away from what ends a word. -/
theorem EndsWordIn.withFinals (h : EndsWordIn sigmas cs) :
    EndsWordIn sigmas (withFinals false false cs) := by
  obtain ⟨front, c, rest, rfl, hc, hfront, hrest⟩ := endsWordIn_iff.mp h
  refine endsWordIn_iff.mpr ⟨_, _, _, withFinals_cons_sigma hc front rest hfront hrest, ?_, ?_, ?_⟩
  · rw [atEnd]
    split
    · decide
    · exact hc
  · rw [followsCased_withFinals, hfront]
  · rw [leadsToCased_withFinals, hrest]

theorem withFinals_eq_self (h : ¬EndsWordIn ['Σ'] cs) : withFinals false false cs = cs := by
  -- By induction on a rest of the text, as what is in front of it counts for its first character.
  suffices hall : ∀ front rest, cs = front ++ rest →
      Text.withFinals (followsCased false front) false rest = rest from hall [] cs rfl
  intro front rest hcs
  induction rest generalizing front with
  | nil => rfl
  | cons c rest ih =>
    have htail := ih (front ++ [c]) (by rw [hcs, List.append_assoc, List.singleton_append])
    rw [followsCased_append] at htail
    rw [Text.withFinals, ← followsCased_singleton, htail]
    congr 1
    split
    · rename_i hends
      rw [Bool.and_eq_true, Bool.not_eq_true'] at hends
      rw [atEnd, if_neg]
      rintro rfl
      exact h (endsWordIn_iff.mpr ⟨front, 'Σ', rest, hcs, List.mem_singleton_self _, hends.1, hends.2⟩)
    · rfl

theorem lower_eq (s : String) :
    lower s = String.ofList ((withFinals false false s.toList).flatMap lowerChar) := by
  rw [lower, lowerAfter_eq]
  rfl

/-- A character of a lower case form that the form of `İ` lacks is the form of one of the characters. -/
theorem exists_of_lower_eq {e : Char} (he : e ∉ lowerChar 'İ') {front rest : List Char}
    (h : cs.flatMap lowerChar = front ++ e :: rest) :
    ∃ front' c rest', cs = front' ++ c :: rest' ∧ front'.flatMap lowerChar = front ∧
      lowerChar c = [e] ∧ rest'.flatMap lowerChar = rest := by
  induction cs generalizing front with
  | nil => exact absurd h.symm (List.append_ne_nil_of_right_ne_nil _ (List.cons_ne_nil _ _))
  | cons d cs ih =>
    have behind (front' : List Char) (h : cs.flatMap lowerChar = front' ++ e :: rest) :
        ∃ front'' c rest', d :: cs = front'' ++ c :: rest' ∧
          front''.flatMap lowerChar = lowerChar d ++ front' ∧ lowerChar c = [e] ∧
          rest'.flatMap lowerChar = rest := by
      obtain ⟨front'', c, rest', rfl, rfl, hc, hrest⟩ := ih h
      exact ⟨d :: front'', c, rest', rfl, rfl, hc, hrest⟩
    rw [List.flatMap_cons] at h
    -- The character is behind the form of `d` or in it, and then all of it.
    obtain ⟨more, rfl, hmore⟩ | ⟨more, hform, hmore⟩ := List.append_eq_append_iff.mp h
    · exact behind _ hmore
    · cases more with
      | nil =>
        obtain ⟨front', hfront⟩ := behind [] hmore.symm
        rw [hform, List.append_nil, List.append_nil] at hfront
        exact ⟨front', hfront⟩
      | cons e' more =>
        obtain ⟨rfl, rfl⟩ := List.cons_eq_cons.mp hmore
        have hd : d ≠ 'İ' := by
          rintro rfl
          exact he (hform ▸ List.mem_append_right _ List.mem_cons_self)
        rw [lowerChar_eq_singleton hd] at hform
        obtain ⟨rfl, rfl, rfl⟩ : front = [] ∧ e = lowerOne d ∧ more = [] := by
          simpa using List.append_eq_cons_iff.mp hform.symm
        exact ⟨[], d, cs, rfl, rfl, lowerChar_eq_singleton hd, rfl⟩

theorem mem_sigmas_of_lower {c e : Char} (h : lowerChar c = [e]) (he : e ∈ ['σ', 'ς']) :
    c ∈ sigmas := by
  have hc : c ≠ 'İ' := by
    rintro rfl
    rw [lowerChar_dotted] at h
    cases h
  obtain ⟨d, hd, -, hfinal, hsmall⟩ := exists_lowerChar hc
  obtain rfl : d = e := by simpa using hd.symm.trans h
  fin_cases he
  · rcases hsmall rfl with rfl | rfl <;> decide
  · rw [hfinal rfl]
    decide

theorem lowerChar_sigma {c : Char} (hc : c ∈ sigmas) : ∃ e ∈ ['σ', 'ς'], lowerChar c = [e] := by
  fin_cases hc
  · exact ⟨'σ', by decide, by decide +kernel⟩
  · exact ⟨'σ', by decide, by decide +kernel⟩
  · exact ⟨'ς', by decide, by decide +kernel⟩

/-- A sigma ends a word of a text just when a small one does in the lower case forms of its
characters. -/
theorem endsWordIn_lower : EndsWordIn ['σ', 'ς'] (cs.flatMap lowerChar) ↔ EndsWordIn sigmas cs := by
  rw [endsWordIn_iff, endsWordIn_iff]
  constructor
  · rintro ⟨front, e, rest, hcs, he, hfront, hrest⟩
    have hdotted : e ∉ lowerChar 'İ' := by
      rw [lowerChar_dotted]
      fin_cases he <;> decide
    obtain ⟨front', c, rest', rfl, rfl, hc, rfl⟩ := exists_of_lower_eq hdotted hcs
    rw [followsCased_lower] at hfront
    rw [leadsToCased_lower] at hrest
    exact ⟨front', c, rest', rfl, mem_sigmas_of_lower hc he, hfront, hrest⟩
  · rintro ⟨front, c, rest, rfl, hc, hfront, hrest⟩
    obtain ⟨e, he, hform⟩ := lowerChar_sigma hc
    refine ⟨front.flatMap lowerChar, e, rest.flatMap lowerChar, ?_, he, ?_, ?_⟩
    · rw [List.flatMap_append, List.flatMap_cons, hform, List.singleton_append]
    · rw [followsCased_lower, hfront]
    · rw [leadsToCased_lower, hrest]

theorem lower_eq_lower_iff {s t : String} : lower s = lower t ↔
    (withFinals false false s.toList).flatMap lowerChar =
      (withFinals false false t.toList).flatMap lowerChar := by
  rw [lower_eq, lower_eq, String.ofList_inj]

/-- If no sigma ends a word of a text, it is the same text as others with the rule for final sigmas and
without it. -/
theorem lowerEach_eq_iff_lower_eq {s : String} (h : ¬EndsWordIn sigmas s.toList) (t : String) :
    lowerEach t = lowerEach s ↔ lower s = lower t := by
  have plain {cs : List Char} (hcs : ¬EndsWordIn sigmas cs) : withFinals false false cs = cs :=
    withFinals_eq_self (mt (EndsWordIn.mono (by decide)) hcs)
  rw [lower_eq_lower_iff, plain h, lowerEach, lowerEach]
  constructor
  · intro heq
    have ht : ¬EndsWordIn sigmas t.toList := by rwa [← endsWordIn_lower, heq, endsWordIn_lower]
    rw [plain ht, heq]
  · intro heq
    have ht : ¬EndsWordIn sigmas (withFinals false false t.toList) := by
      rwa [← endsWordIn_lower, ← heq, endsWordIn_lower]
    rw [heq, plain (mt EndsWordIn.withFinals ht)]

/-- Another sigma in place of one that ends a word is the same character under one of the two rules
only. -/
theorem exists_lowerEach_ne_lower {s : String} (h : EndsWordIn sigmas s.toList) :
    ∃ t, ¬(lowerEach t = lowerEach s ↔ lower s = lower t) := by
  obtain ⟨front, c, rest, hs, hc, hfront, hrest⟩ := endsWordIn_iff.mp h
  obtain ⟨d, hd, hne⟩ : ∃ d ∈ sigmas,
      ¬(lowerChar d = lowerChar c ↔ lowerChar (atEnd c) = lowerChar (atEnd d)) := by
    fin_cases hc
    · exact ⟨'σ', by decide, by decide +kernel⟩
    · exact ⟨'Σ', by decide, by decide +kernel⟩
    · exact ⟨'Σ', by decide, by decide +kernel⟩
  have heach : lowerEach (String.ofList (front ++ d :: rest)) = lowerEach s ↔
      lowerChar d = lowerChar c := by
    simp only [lowerEach, hs, String.toList_ofList, List.flatMap_append, List.flatMap_cons,
      List.append_right_inj, List.append_left_inj]
  have hwhole : lower s = lower (String.ofList (front ++ d :: rest)) ↔
      lowerChar (atEnd c) = lowerChar (atEnd d) := by
    simp only [lower_eq_lower_iff, hs, String.toList_ofList, withFinals_cons_sigma hc _ _ hfront hrest,
      withFinals_cons_sigma hd _ _ hfront hrest, List.flatMap_append, List.flatMap_cons,
      List.append_right_inj, List.append_left_inj]
  exact ⟨String.ofList (front ++ d :: rest), by rwa [heach, hwhole]⟩

/-- Without capital sigmas at the end of a word, the rule changes nothing. -/
theorem lower_eq_lowerEach {s : String} (h : ¬EndsWordIn ['Σ'] s.toList) :
    lower s = String.ofList (lowerEach s) := by
  rw [lower_eq, withFinals_eq_self h, lowerEach]

end Spreadsheet.Text
