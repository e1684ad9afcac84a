import Spreadsheet.Proofs.Number.Notation

/-! Whole numbers as doubles. Those of at most 53 binary digits are not rounded, so that the integer part
of such a double is the number it was made of. -/

namespace Spreadsheet.Number

theorem fst_eq_of_ratio_eq {f : Nat × Nat} {n : Nat} (hf : 0 < f.2) (h : ratio f = n) :
    f.1 = n * f.2 := by
  have hne : (f.2 : ℚ) ≠ 0 := Nat.cast_ne_zero.mpr hf.ne'
  have hratio : (f.1 : ℚ) = n * f.2 := (div_eq_iff hne).mp h
  exact_mod_cast hratio

section

variable {n : Nat} (hpos : 0 < n) (h : n < 2 ^ 53)
include hpos h

theorem exponentUnit_le_significand : exponentUnit ≤ n * 2 ^ (52 - n.log2) := by
  have hlog := log2_le_52 hpos h
  calc exponentUnit = 2 ^ n.log2 * 2 ^ (52 - n.log2) := by
        rw [← pow_add, Nat.add_sub_cancel' hlog, exponentUnit_eq]
    _ ≤ n * 2 ^ (52 - n.log2) := Nat.mul_le_mul_right _ (Nat.log2_self_le hpos.ne')

theorem parts_ofNat : parts (ofNat n) = ⟨false, n * 2 ^ (52 - n.log2), (n.log2 : ℤ) - 52⟩ := by
  have hlow := exponentUnit_le_significand hpos h
  have hhigh := mul_two_pow_lt hpos h
  have hlog := log2_le_52 hpos h
  have hword := word_ofNat hpos h
  generalize n * 2 ^ (52 - n.log2) = m at *
  have hsplit : word (ofNat n) = (m - exponentUnit) + exponentUnit * (n.log2 + 1023) := by
    have hsucc : (n.log2 + 1023) * exponentUnit = (n.log2 + 1022) * exponentUnit + exponentUnit :=
      Nat.succ_mul _ _
    rw [hword, Nat.mul_comm exponentUnit, hsucc]
    omega
  have hfraction : m - exponentUnit < exponentUnit := by omega
  have hsign : word (ofNat n) < signBit := by
    rw [hsplit, signBit_eq]
    rw [exponentUnit_eq] at hfraction ⊢
    omega
  have hbiased : biasedExponent (ofNat n) = n.log2 + 1022 + 1 := by
    rw [biasedExponent, unsignedWord, Nat.mod_eq_of_lt hsign, hsplit,
      Nat.add_mul_div_left _ _ (by decide), Nat.div_eq_of_lt hfraction, Nat.zero_add]
  have hmod : word (ofNat n) % exponentUnit = m - exponentUnit := by
    rw [hsplit, Nat.add_mul_mod_self_left, Nat.mod_eq_of_lt hfraction]
  have hexponent : ((n.log2 + 1022 : Nat) : ℤ) - 1074 = n.log2 - 52 := by omega
  rw [parts_of_biased_succ hbiased, hmod, hexponent, Nat.add_sub_cancel' hlow, ofNat,
    isNegative_nearest]

theorem ratio_magnitude_ofNat : ratio (magnitude (ofNat n)) = n := by
  have hlog := log2_le_52 hpos h
  have hscale : (2 : ℚ) ^ (52 - n.log2) * 2 ^ ((n.log2 : ℤ) - 52) = 1 := by
    rw [← zpow_natCast, ← zpow_add₀ (by norm_num), Nat.cast_sub hlog, Nat.cast_ofNat,
      sub_add_sub_cancel, sub_self, zpow_zero]
  rw [ratio_magnitude, parts_ofNat hpos h]
  push_cast
  rw [mul_assoc, hscale, mul_one]

end

section

variable {n : Nat} (h : n < 2 ^ 53)
include h

theorem fst_magnitude_ofNat : (magnitude (ofNat n)).1 = n * (magnitude (ofNat n)).2 := by
  rcases Nat.eq_zero_or_pos n with rfl | hpos
  · have hzero : (magnitude (ofNat 0)).1 = 0 := by decide +kernel
    rw [hzero, Nat.zero_mul]
  · exact fst_eq_of_ratio_eq (magnitude_pos _) (ratio_magnitude_ofNat hpos h)

theorem div_magnitude_ofNat : (magnitude (ofNat n)).1 / (magnitude (ofNat n)).2 = n := by
  rw [fst_magnitude_ofNat h, Nat.mul_div_cancel n (magnitude_pos _)]

/-- The integer part of a double that was made of a natural number. -/
theorem truncToInt_ofNat : truncToInt (ofNat n) = n := by
  have hsign : isNegative (ofNat n) = false := isNegative_nearest n 1
  rw [truncToInt]
  simp only [div_magnitude_ofNat h, hsign, applySign, Bool.false_eq_true, if_false]

theorem floorToInt_ofNat : floorToInt (ofNat n) = n := by
  have hsign : isNegative (ofNat n) = false := isNegative_nearest n 1
  rw [floorToInt]
  simp only [div_magnitude_ofNat h, hsign, applySign, Bool.false_eq_true, if_false]

theorem ceilToInt_ofNat : ceilToInt (ofNat n) = n := by
  have hsign : isNegative (ofNat n) = false := isNegative_nearest n 1
  have hdiv : (n * (magnitude (ofNat n)).2 + (magnitude (ofNat n)).2 - 1) /
      (magnitude (ofNat n)).2 = n := by
    have hpos := magnitude_pos (ofNat n)
    rw [Nat.add_sub_assoc hpos, Nat.mul_comm, Nat.mul_add_div hpos,
      Nat.div_eq_of_lt (Nat.sub_one_lt_of_lt hpos), Nat.add_zero]
  rw [ceilToInt]
  simp only [fst_magnitude_ofNat h, hdiv, hsign, applySign, Bool.false_eq_true, if_false]

end

theorem ofInt_natCast (n : Nat) : ofInt n = ofNat n := by
  have hsign : ¬(n : Int) < 0 := by omega
  simp only [ofInt, hsign, decide_false, withSign, Bool.false_eq_true, if_false, Int.natAbs_natCast]

section

variable {i : Int} (h : i.natAbs < 2 ^ 53)
include h

theorem isFinite_ofInt : isFinite (ofInt i) = true := by
  have hfinite := isFinite_ofNat h
  rw [ofInt, withSign]
  split
  · exact isFinite_neg hfinite
  · exact hfinite

theorem truncToInt_ofInt : truncToInt (ofInt i) = i := by
  rcases Int.lt_or_le i 0 with hneg | hpos
  · have hfinite := isFinite_ofNat h
    have hsign : isNegative (-ofNat i.natAbs) = true := by
      rw [isNegative_neg hfinite, ofNat, isNegative_nearest]
      rfl
    rw [ofInt, decide_eq_true hneg, withSign, if_pos rfl, truncToInt,
      magnitude_congr (unsignedWord_neg hfinite)]
    simp only [div_magnitude_ofNat h, hsign, applySign, if_true]
    omega
  · obtain ⟨n, rfl⟩ := Int.eq_ofNat_of_zero_le hpos
    rw [ofInt_natCast]
    exact truncToInt_ofNat h

end

/-! ### Integer parts of integer parts -/

section

variable {x : Float}

theorem truncToInt_trunc (h : (truncToInt x).natAbs < 2 ^ 53) :
    truncToInt (trunc x) = truncToInt x := by
  rw [trunc, integral]
  simp only
  split
  · split
    · have hzero : truncToInt x = 0 := beq_iff_eq.mp ‹_›
      rw [hzero]
      cases isNegative x <;> decide +kernel
    · exact truncToInt_ofInt h
  · rfl

theorem floorToInt_floor (hlow : 0 ≤ floorToInt x) (hhigh : floorToInt x < 2 ^ 53) :
    floorToInt (floor x) = floorToInt x := by
  obtain ⟨n, hn⟩ := Int.eq_ofNat_of_zero_le hlow
  rw [floor, integral]
  simp only
  split
  · split
    · have hzero : floorToInt x = 0 := beq_iff_eq.mp ‹_›
      rw [hzero]
      cases isNegative x <;> decide +kernel
    · rw [hn, ofInt_natCast]
      exact floorToInt_ofNat (by omega)
  · rfl

end

end Spreadsheet.Number
