import Mathlib
import Spreadsheet.Text.Case

/-! Lower case forms of characters. Only `İ` has a form of two characters, and a character is a letter
with case just when its form is one. What holds of the tables is checked run by run, with ranges of code
points as the bits of numbers. -/

namespace Spreadsheet.Text

/-- The number whose bits are set at the code points of the given ranges. -/
def bitsOf (ranges : List (Nat × Nat)) : Nat :=
  ranges.foldr (fun r bits => (1 <<< (r.2 + 1 - r.1) - 1) <<< r.1 ||| bits) 0

theorem testBit_bitsOf (ranges : List (Nat × Nat)) (n : Nat) :
    (bitsOf ranges).testBit n = inRanges ranges n := by
  induction ranges with
  | nil => exact Nat.zero_testBit n
  | cons r ranges ih =>
    have hrange : (decide (n ≥ r.1) && decide (n - r.1 < r.2 + 1 - r.1)) =
        (decide (r.1 ≤ n) && decide (n ≤ r.2)) := by
      rw [Bool.eq_iff_iff]
      simp only [Bool.and_eq_true, decide_eq_true_eq]
      omega
    rw [bitsOf, List.foldr_cons, Nat.testBit_or, Nat.testBit_shiftLeft, Nat.one_shiftLeft,
      Nat.testBit_two_pow_sub_one, hrange, ← bitsOf, ih]
    rfl

section

variable {ranges others : List (Nat × Nat)} {n : Nat}

theorem inRanges_eq_false (h : bitsOf ranges &&& bitsOf others = 0) (hn : inRanges ranges n = true) :
    inRanges others n = false := by
  have hbit := congrArg (·.testBit n) h
  simpa only [Nat.testBit_and, testBit_bitsOf, hn, Bool.true_and, Nat.zero_testBit] using hbit

theorem inRanges_eq_true (h : bitsOf ranges &&& bitsOf others = bitsOf ranges)
    (hn : inRanges ranges n = true) : inRanges others n = true := by
  have hbit := congrArg (·.testBit n) h
  simpa only [Nat.testBit_and, testBit_bitsOf, hn, Bool.true_and] using hbit

theorem inRanges_singleton {lo hi : Nat} : inRanges [(lo, hi)] n = true ↔ lo ≤ n ∧ n ≤ hi := by
  simp [inRanges]

end

namespace CaseRun

def codes (r : CaseRun) : List Nat :=
  List.range' r.first ((r.last - r.first) / r.step + 1) r.step

def image (r : CaseRun) (n : Nat) : Nat := (n + r.shift).toNat

/-- Whether the code points of a run and their images have case and are not ignored for it. Where others
lie between the code points, these are looked at one by one. -/
def isCased (r : CaseRun) : Bool :=
  let source := bitsOf [(r.first, r.last)]
  let target := bitsOf [(r.image r.first, r.image r.last)]
  source &&& bitsOf caseIgnorableRanges == 0 && target &&& bitsOf caseIgnorableRanges == 0 &&
    (source &&& bitsOf casedRanges == source || r.codes.all (inRanges casedRanges)) &&
    target &&& bitsOf casedRanges == target

/-- Whether no code point of a run has the final sigma as its image, and only the capital one the small
sigma. -/
def keepsSigma (r : CaseRun) : Bool :=
  !r.holds (962 - r.shift).toNat && (!r.holds (963 - r.shift).toNat || (963 - r.shift).toNat == 931)

variable {r : CaseRun} {n : Nat}

theorem holds_iff : r.holds n = true ↔
    (r.first ≤ n ∧ n ≤ r.last) ∧ (n - r.first) % r.step = 0 := by
  rw [holds, Bool.and_eq_true, Bool.and_eq_true, decide_eq_true_eq, decide_eq_true_eq, beq_iff_eq]

theorem mem_codes (h : r.holds n = true) : n ∈ r.codes := by
  obtain ⟨⟨hfirst, hlast⟩, hstep⟩ := holds_iff.mp h
  refine List.mem_range'.mpr ⟨(n - r.first) / r.step, ?_, ?_⟩
  · exact Nat.lt_succ_of_le (Nat.div_le_div_right (Nat.sub_le_sub_right hlast _))
  · have hdiv := Nat.div_add_mod (n - r.first) r.step
    omega

/-- A code point of a run has the casing of its image: both are letters with case. -/
theorem cased_of_holds (hr : r.isCased = true) (h : r.holds n = true) :
    (inRanges caseIgnorableRanges n = false ∧ inRanges casedRanges n = true) ∧
      inRanges caseIgnorableRanges (r.image n) = false ∧ inRanges casedRanges (r.image n) = true := by
  obtain ⟨⟨hfirst, hlast⟩, -⟩ := holds_iff.mp h
  have hsource : inRanges [(r.first, r.last)] n = true := inRanges_singleton.mpr ⟨hfirst, hlast⟩
  have htarget : inRanges [(r.image r.first, r.image r.last)] (r.image n) = true := by
    rw [inRanges_singleton, image, image, image]
    omega
  simp only [isCased, Bool.and_eq_true, Bool.or_eq_true, beq_iff_eq] at hr
  obtain ⟨⟨⟨hsourceIgnorable, htargetIgnorable⟩, hsourceCased⟩, htargetCased⟩ := hr
  refine ⟨⟨inRanges_eq_false hsourceIgnorable hsource, ?_⟩,
    inRanges_eq_false htargetIgnorable htarget, inRanges_eq_true htargetCased htarget⟩
  rcases hsourceCased with hbits | hcodes
  · exact inRanges_eq_true hbits hsource
  · exact List.all_eq_true.mp hcodes n (mem_codes h)

theorem image_ne_finalSigma (hr : r.keepsSigma = true) (h : r.holds n = true) : r.image n ≠ 962 := by
  intro himage
  have hn : (962 - r.shift).toNat = n := by
    rw [image] at himage
    omega
  rw [keepsSigma, hn, h] at hr
  exact absurd hr Bool.false_ne_true

theorem eq_of_image_eq_sigma (hr : r.keepsSigma = true) (h : r.holds n = true)
    (himage : r.image n = 963) : n = 931 := by
  have hn : (963 - r.shift).toNat = n := by
    rw [image] at himage
    omega
  rw [keepsSigma, hn, h, Bool.and_eq_true] at hr
  exact eq_of_beq hr.2

end CaseRun

theorem isCased_lowerRuns : lowerRuns.all CaseRun.isCased = true := by decide +kernel

theorem keepsSigma_lowerRuns : lowerRuns.all CaseRun.keepsSigma = true := by decide +kernel

theorem isValidChar_of_cased {n : Nat} (h : inRanges casedRanges n = true) : n.isValidChar := by
  have hranges : casedRanges.all (fun r => r.2 < 0xD800 || 0xDFFF < r.1 && r.2 < 0x110000) = true := by
    decide +kernel
  obtain ⟨⟨lo, hi⟩, hmem, hn⟩ := List.any_eq_true.mp h
  have hrange := List.all_eq_true.mp hranges _ hmem
  simp only [Bool.and_eq_true, Bool.or_eq_true, decide_eq_true_eq] at hn hrange
  rw [Nat.isValidChar]
  omega

theorem lookup_lowerSequences {n : Nat} (h : n ≠ 304) : lowerSequences.lookup n = none := by
  rw [lowerSequences, List.lookup_cons, beq_false_of_ne h]
  rfl

theorem lowerChar_eq (c : Char) : lowerChar c = mapCase lowerRuns lowerSequences c := by
  rw [lowerChar]
  split
  · rename_i hascii
    have hforms : ∀ n < 128, [(Char.ofNat n).toLower] = mapCase [⟨65, 90, 1, 32⟩] [] (Char.ofNat n) := by
      decide +kernel
    -- The runs behind the first one hold no character of ASCII.
    have hbehind : ∀ r ∈ lowerRuns.tail, 128 ≤ r.first := by decide +kernel
    have hnone : lowerRuns.tail.find? (·.holds c.toNat) = none := by
      refine List.find?_eq_none.mpr fun r hr hholds => ?_
      have hfirst := (CaseRun.holds_iff.mp hholds).1.1
      have hlow := hbehind r hr
      omega
    have hruns : lowerRuns = ⟨65, 90, 1, 32⟩ :: lowerRuns.tail := rfl
    have hform := hforms c.toNat hascii
    rw [Char.ofNat_toNat] at hform
    rw [hform, mapCase, mapCase, lookup_lowerSequences (by omega), hruns, List.find?_cons,
      List.find?_cons, hnone]
    rfl
  · rfl

theorem lowerChar_dotted : lowerChar 'İ' = ['i', '\u0307'] := by decide +kernel

/-- Any character but `İ` has a lower case form of one character, which has the casing of the other. -/
theorem exists_lowerChar {c : Char} (hc : c ≠ 'İ') :
    ∃ d, lowerChar c = [d] ∧ (isCaseIgnorable d = isCaseIgnorable c ∧ isCased d = isCased c) ∧
      (d = 'ς' → c = 'ς') ∧ (d = 'σ' → c = 'σ' ∨ c = 'Σ') := by
  have hcode : c.toNat ≠ 304 := fun h => hc (Char.toNat_inj.mp h)
  rw [lowerChar_eq, mapCase, lookup_lowerSequences hcode]
  simp only
  -- A character that is in no run is its own form.
  cases hrun : lowerRuns.find? (·.holds c.toNat) with
  | none => exact ⟨c, rfl, ⟨rfl, rfl⟩, id, .inl⟩
  | some r =>
    have hr := List.mem_of_find?_eq_some hrun
    have hholds : r.holds c.toNat = true := by simpa using List.find?_some hrun
    obtain ⟨⟨hignorable, hcased⟩, hignorable', hcased'⟩ :=
      CaseRun.cased_of_holds (List.all_eq_true.mp isCased_lowerRuns r hr) hholds
    have hsigma := List.all_eq_true.mp keepsSigma_lowerRuns r hr
    have himage : (Char.ofNat (r.image c.toNat)).toNat = r.image c.toNat := by
      rw [Char.toNat_ofNat, if_pos (isValidChar_of_cased hcased')]
    refine ⟨Char.ofNat (r.image c.toNat), rfl, ⟨?_, ?_⟩, fun h => ?_, fun h => ?_⟩
    · rw [isCaseIgnorable, isCaseIgnorable, himage, hignorable, hignorable']
    · rw [isCased, isCased, himage, hcased, hcased']
    · rw [h] at himage
      exact absurd himage.symm (CaseRun.image_ne_finalSigma hsigma hholds)
    · rw [h] at himage
      exact .inr (Char.toNat_inj.mp (CaseRun.eq_of_image_eq_sigma hsigma hholds himage.symm))

/-- The first character of a lower case form, which is the only one unless the character is `İ`. -/
def lowerOne (c : Char) : Char := (lowerChar c).headD c

theorem lowerChar_eq_singleton {c : Char} (hc : c ≠ 'İ') : lowerChar c = [lowerOne c] := by
  obtain ⟨d, hd, -⟩ := exists_lowerChar hc
  rw [lowerOne, hd]
  rfl

theorem flatMap_lowerChar {cs : List Char} (h : 'İ' ∉ cs) : cs.flatMap lowerChar = cs.map lowerOne := by
  rw [List.map_eq_flatMap]
  refine List.flatMap_congr fun c hc => lowerChar_eq_singleton ?_
  rintro rfl
  exact h hc

theorem length_le_lower (cs : List Char) : cs.length ≤ (cs.flatMap lowerChar).length := by
  induction cs with
  | nil => exact Nat.le_refl 0
  | cons c cs ih =>
    have hpos : 0 < (lowerChar c).length := by
      by_cases hc : c = 'İ'
      · rw [hc, lowerChar_dotted]
        exact Nat.zero_lt_succ _
      · rw [lowerChar_eq_singleton hc]
        exact Nat.zero_lt_one
    rw [List.flatMap_cons, List.length_append, List.length_cons]
    omega

theorem length_lt_lower {cs : List Char} (h : 'İ' ∈ cs) : cs.length < (cs.flatMap lowerChar).length := by
  obtain ⟨front, rest, rfl⟩ := List.append_of_mem h
  have hfront := length_le_lower front
  have hrest := length_le_lower rest
  rw [List.flatMap_append, List.flatMap_cons, lowerChar_dotted]
  simp only [List.length_append, List.length_cons, List.length_nil]
  omega

end Spreadsheet.Text
