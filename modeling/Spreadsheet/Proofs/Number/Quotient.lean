import Spreadsheet.Proofs.Number.Word

/-! Division by a divisor of at least two, which keeps doubles finite. The rounding of a quotient adds
at most one binary place, and there is still room for it. -/

namespace Spreadsheet.Number

open Float.Model Float.Model.UnpackedFloat

theorem targetExponent_eq (t : Int) : Format.binary64.targetExponent t = max (t - 53) (-1074) := rfl

theorem log2_le_of_lt {m n : Nat} (h : m < 2 ^ (n + 1)) : m.log2 ≤ n := by
  by_cases hm : m = 0
  · rw [hm]
    exact Nat.zero_le n
  · exact Nat.lt_succ_iff.mp ((Nat.log2_lt hm).mpr h)

theorem mantissa_shiftRight (em : ExtendedMantissa) (n : Nat) :
    (em >>> n).mantissa = em.mantissa / 2 ^ n := by
  induction n with
  | zero => exact (Nat.div_one _).symm
  | succ n ih =>
    change (em >>> n).mantissa / 2 = _
    rw [ih, Nat.div_div_eq_div_mul, Nat.pow_succ]

theorem roundedMantissa_le (em : ExtendedMantissa) : em.roundedMantissa ≤ em.mantissa + 1 := by
  obtain ⟨m, round, sticky⟩ := em
  have hmod := Nat.mod_lt m (by decide : 0 < 2)
  cases round <;> cases sticky <;>
    simp only [ExtendedMantissa.roundedMantissa, ExtendedMantissa.accuracy,
      Accuracy.roundToNearestEven] <;> omega

theorem mantissa_ofMantissaAndAccuracy (m : Nat) (acc : Accuracy) :
    (ExtendedMantissa.ofMantissaAndAccuracy m acc).mantissa = m := by
  cases acc with
  | exact => rfl
  | inexact order => cases order <;> rfl

/-- The first shift leaves a mantissa of the width of the format. -/
theorem mantissa_shiftToTargetExponent_lt (m : Nat) (e : Int) (acc : Accuracy) :
    (shiftToTargetExponent Format.binary64 m e acc).1.mantissa < 2 ^ 53 := by
  change (ExtendedMantissa.ofMantissaAndAccuracy m acc >>>
    (Format.binary64.targetExponent (totalExponent m e) - e).toNat).mantissa < _
  rw [mantissa_shiftRight, mantissa_ofMantissaAndAccuracy, targetExponent_eq, totalExponent]
  refine Nat.div_lt_of_lt_mul (Nat.lt_of_lt_of_le Nat.lt_log2_self ?_)
  rw [← Nat.pow_add]
  exact Nat.pow_le_pow_right (by decide) (by omega)

theorem exponent_shiftToTargetExponent (m : Nat) (e : Int) (acc : Accuracy) :
    (shiftToTargetExponent Format.binary64 m e acc).2 =
      max e (max (m.log2 + 1 + e - 53) (-1074)) := by
  change e + ((Format.binary64.targetExponent (totalExponent m e) - e).toNat : Int) = _
  rw [targetExponent_eq, totalExponent]
  omega

/-- A number that is zero or not above the greatest double. -/
def Bounded : UnpackedFloat → Prop
  | .zero _ => True
  | .finite _ _ e _ => e ≤ 971
  | _ => False

/-- Rounding keeps below the greatest double what has at least one place of room. -/
theorem bounded_roundWithAccuracy (s : Sign) {m : Nat} {e : Int} (acc : Accuracy) (he : e ≤ 970)
    (htotal : m.log2 + 1 + e ≤ 1023) :
    Bounded (roundWithAccuracy Format.binary64 s m e acc) := by
  have hmantissa := mantissa_shiftToTargetExponent_lt m e acc
  have hexponent := exponent_shiftToTargetExponent m e acc
  unfold roundWithAccuracy
  generalize shiftToTargetExponent Format.binary64 m e acc = first at hmantissa hexponent
  obtain ⟨em, e₁⟩ := first
  have hrounded : em.roundedMantissa.log2 ≤ 53 := by
    have hle := roundedMantissa_le em
    exact log2_le_of_lt (by simp only at hmantissa; omega)
  have hfinal := exponent_shiftToTargetExponent em.roundedMantissa e₁ .exact
  simp only at hexponent ⊢
  split
  · trivial
  · rw [Bounded, hfinal]
    omega

theorem isFinite_of_toBits {x : Float} {s : Sign} {e : BitVec 11} {m : BitVec 52}
    (h : x.toBits.toBitVec = assemble s e m) (he : e ≠ -1#11) : isFinite x = true := by
  have hword : word x = s.toBitVec.toNat * signBit + (e.toNat * exponentUnit + m.toNat) := by
    rw [← Nat.add_assoc, ← toNat_assemble, ← h]
    rfl
  have hm := m.isLt
  have hlt := e.isLt
  have hbiased : biasedExponent x = e.toNat := by
    rw [biasedExponent, unsignedWord, hword, Nat.mul_add_mod_self_right, signBit, exponentUnit]
    omega
  rw [isFinite, hbiased, bne_iff_ne]
  exact fun hmax => he (BitVec.eq_of_toNat_eq hmax)

theorem isFinite_of_bounded {x : Float} {u : UnpackedFloat} (hu : Bounded u)
    (h : x.toBits.toBitVec = UnpackedFloat.pack Format.binary64 u) : isFinite x = true := by
  cases u with
  | zero s => exact isFinite_of_toBits (s := s) (e := 0#11) (m := 0#52) h (by decide)
  | finite s m e hm =>
    have hroom : ¬ 2 ^ 11 ≤ (e + 1023 + 52).toNat + 1 := by
      simp only [Bounded] at hu
      omega
    rw [pack_finite, if_neg hroom] at h
    split at h
    · refine isFinite_of_toBits h fun hmax => hroom ?_
      have hnat := congrArg BitVec.toNat hmax
      simp at hnat
      omega
    · exact isFinite_of_toBits h (by decide)
  | infinity s => exact hu.elim
  | notANumber => exact hu.elim

/-- A quotient has at most the places of the dividend beyond those of the divisor. -/
theorem log2_divCore_le (m₁ shift : Nat) {m₂ : Nat} (hm : 0 < m₂) :
    (m₁ <<< shift / m₂).log2 + m₂.log2 ≤ m₁.log2 + shift ∨ m₁ <<< shift / m₂ = 0 := by
  refine Decidable.or_iff_not_imp_right.mpr fun hzero => ?_
  have hlow : 2 ^ (m₁ <<< shift / m₂).log2 ≤ m₁ <<< shift / m₂ := Nat.log2_self_le hzero
  have hdivisor : 2 ^ m₂.log2 ≤ m₂ := Nat.log2_self_le (Nat.pos_iff_ne_zero.mp hm)
  have hlt : 2 ^ ((m₁ <<< shift / m₂).log2 + m₂.log2) < 2 ^ (m₁.log2 + shift + 1) :=
    calc 2 ^ ((m₁ <<< shift / m₂).log2 + m₂.log2)
        ≤ (m₁ <<< shift / m₂) * m₂ := by rw [Nat.pow_add]; exact Nat.mul_le_mul hlow hdivisor
      _ ≤ m₁ <<< shift := Nat.div_mul_le_self _ _
      _ = m₁ * 2 ^ shift := Nat.shiftLeft_eq _ _
      _ < 2 ^ (m₁.log2 + 1) * 2 ^ shift :=
        Nat.mul_lt_mul_of_pos_right Nat.lt_log2_self (Nat.two_pow_pos shift)
      _ = 2 ^ (m₁.log2 + shift + 1) := by rw [← Nat.pow_add]; congr 1; omega
  exact Nat.lt_succ_iff.mp ((Nat.pow_lt_pow_iff_right (by decide)).mp hlt)

/-- A divisor of at least two leaves room for the rounding of the quotient. -/
theorem bounded_div (s₁ s₂ : Sign) {m₁ m₂ : Nat} {e₁ e₂ : Int} (h₁ : 0 < m₁) (h₂ : 0 < m₂)
    (hdividend : m₁.log2 + 1 + e₁ ≤ 1024) (hdivisor : 2 ≤ m₂.log2 + 1 + e₂) :
    Bounded (UnpackedFloat.div Format.binary64 (.finite s₁ m₁ e₁ h₁) (.finite s₂ m₂ e₂ h₂)) := by
  have htarget : Format.binary64.targetExponent (totalExponent m₁ e₁ - totalExponent m₂ e₂) =
      max (m₁.log2 + 1 + e₁ - (m₂.log2 + 1 + e₂) - 53) (-1074) := targetExponent_eq _
  rw [UnpackedFloat.div, divCore, htarget]
  refine bounded_roundWithAccuracy _ _ (by omega) ?_
  obtain hlog | hzero := log2_divCore_le m₁
      (e₁ - e₂ - min (e₁ - e₂) (max (m₁.log2 + 1 + e₁ - (m₂.log2 + 1 + e₂) - 53) (-1074))).toNat h₂
  · omega
  · rw [hzero, Nat.log2_zero]
    omega

theorem unpack_hundred : ∃ m e h, (100 : Float).toModel.unpack = .finite .positive m e h ∧
    2 ≤ m.log2 + 1 + e := by
  have hword : word 100 = 0x4059000000000000 := by decide +kernel
  rw [unpack_eq, hword]
  exact ⟨_, _, _, rfl, by decide +kernel⟩

/-- The hundredth of a finite double is finite. -/
theorem isFinite_div_hundred {x : Float} (h : isFinite x = true) : isFinite (x / 100) = true := by
  obtain ⟨m₂, e₂, h₂, hunpack, hdivisor⟩ := unpack_hundred
  have hbits : (x / 100).toBits.toBitVec = UnpackedFloat.pack Format.binary64
      (UnpackedFloat.div Format.binary64 x.toModel.unpack (100 : Float).toModel.unpack) := rfl
  refine isFinite_of_bounded ?_ hbits
  rw [unpack_eq x, hunpack, meaning, if_neg (biasedAt_ne h)]
  have hfraction := (fractionAt (word x)).isLt
  split
  · split
    · trivial
    · refine bounded_div _ _ _ _ ?_ hdivisor
      have hlog := log2_le_of_lt hfraction
      omega
  · refine bounded_div _ _ _ _ ?_ hdivisor
    have hlog : (2 ^ 52 + (fractionAt (word x)).toNat).log2 ≤ 52 := log2_le_of_lt (by omega)
    have hmax : (biasedAt (word x)).toNat ≤ 2046 := by
      have hne := biasedAt_ne h
      have hlt := (biasedAt (word x)).isLt
      have hne' : (biasedAt (word x)).toNat ≠ 2047 := fun hmax => hne (BitVec.eq_of_toNat_eq hmax)
      omega
    omega

end Spreadsheet.Number
