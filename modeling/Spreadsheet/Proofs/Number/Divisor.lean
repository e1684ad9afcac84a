import Spreadsheet.Proofs.Number.Order
import Spreadsheet.Proofs.Number.Quotient
import Spreadsheet.Proofs.Number.Whole

/-! Counts as divisors. No count other than 0 is the double 0, and a double that is not finite stays so
whatever it is divided by. -/

namespace Spreadsheet.Number

open Float.Model

variable {x : Float}

theorem biasedAt_eq (h : isFinite x = false) : biasedAt (word x) = -1#11 := by
  have hbiased : biasedExponent x = maxBiased := by simpa [isFinite] using h
  apply BitVec.eq_of_toNat_eq
  rw [toNat_biasedAt]
  exact hbiased

theorem unpack_of_not_isFinite (h : isFinite x = false) :
    (∃ s, x.toModel.unpack = .infinity s) ∨ x.toModel.unpack = .notANumber := by
  rw [unpack_eq, meaning, if_pos (biasedAt_eq h)]
  split
  · exact .inl ⟨_, rfl⟩
  · exact .inr rfl

theorem not_isFinite_of_unpacked {u : UnpackedFloat}
    (h : x.toBits.toBitVec = UnpackedFloat.pack Format.binary64 u)
    (hu : (∃ s, u = .infinity s) ∨ u = .notANumber) : isFinite x = false := by
  have hword : word x = (UnpackedFloat.pack Format.binary64 u).toNat := congrArg BitVec.toNat h
  rw [isFinite, biasedExponent, unsignedWord, hword]
  rcases hu with ⟨s, rfl⟩ | rfl
  · cases s <;> decide
  · decide

theorem not_isFinite_div (h : isFinite x = false) (y : Float) : isFinite (x / y) = false := by
  have hbits : (x / y).toBits.toBitVec = UnpackedFloat.pack Format.binary64
      (UnpackedFloat.div Format.binary64 x.toModel.unpack y.toModel.unpack) := rfl
  refine not_isFinite_of_unpacked hbits ?_
  rcases unpack_of_not_isFinite h with ⟨s, hx⟩ | hx
  · rw [hx]
    cases y.toModel.unpack with
    | zero => exact .inl ⟨_, rfl⟩
    | finite => exact .inl ⟨_, rfl⟩
    | _ => exact .inr rfl
  · rw [hx]
    exact .inr rfl

theorem unsignedWord_eq_zero (h : (x == 0) = true) : unsignedWord x = 0 := by
  have hzero : isFinite 0 = true := by decide +kernel
  cases hx : isFinite x with
  | true =>
    have hkeys := (beq_iff hx hzero).mp h
    have hkey : orderKey 0 = 0 := by decide +kernel
    rw [hkey, orderKey, applySign] at hkeys
    split at hkeys <;> omega
  | false =>
    change UnpackedFloat.beq x.toModel.unpack (0 : Float).toModel.unpack = true at h
    rw [unpack_zero] at h
    rcases unpack_of_not_isFinite hx with ⟨s, hx⟩ | hx <;> rw [hx] at h
    · cases s <;> cases h
    · cases h

theorem word_ofNat_pos {n : Nat} (h : 0 < n) : 0 < word (ofNat n) := by
  obtain ⟨hleast, hupper, -⟩ := isLastPlace_lastPlace h Nat.one_pos
  have hplace : -53 < lastPlace n 1 := by
    have hone : (1 : ℚ) ≤ ratio (n, 1) := by simpa [ratio] using Nat.succ_le_of_lt h
    have hpower : (2 : ℚ) ^ (0 : ℤ) < 2 ^ (lastPlace n 1 + 53) := hone.trans_lt hupper
    have hlt := (zpow_lt_zpow_iff_right₀ (by norm_num)).mp hpower
    omega
  have hbiased : 0 < (lastPlace n 1 + 1074).toNat := by omega
  rw [ofNat, word_nearest h]
  exact lt_min (Nat.add_pos_left (Nat.mul_pos hbiased (by decide)) _) (by decide)

/-- Only the count 0 is zero as a double. -/
theorem ofNat_beq_zero (n : Nat) : (ofNat n == 0) = (n == 0) := by
  rcases Nat.eq_zero_or_pos n with rfl | hpos
  · decide +kernel
  · have hsign : isNegative (ofNat n) = false := isNegative_nearest n 1
    have hword := word_eq (ofNat n)
    rw [hsign, if_neg (by decide), Nat.zero_add] at hword
    rw [beq_eq_false_iff_ne.mpr hpos.ne', ← Bool.not_eq_true]
    exact fun h => (word_ofNat_pos hpos).ne' (hword.trans (unsignedWord_eq_zero h))

end Spreadsheet.Number
