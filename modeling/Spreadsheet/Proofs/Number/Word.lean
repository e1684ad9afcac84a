import Mathlib
import Spreadsheet.Number.Binary

/-! The words of doubles. Every word that is no NaN is the word of a double, which it determines;
negation changes the bit of the sign alone. -/

namespace Spreadsheet.Number

open Float.Model Float.Model.UnpackedFloat

/-- The word with the given sign, biased exponent and fraction. -/
def assemble (s : Sign) (e : BitVec 11) (m : BitVec 52) : BitVec 64 :=
  packComponents Format.binary64 s e m

theorem toNat_assemble (s : Sign) (e : BitVec 11) (m : BitVec 52) :
    (assemble s e m).toNat = s.toBitVec.toNat * signBit + e.toNat * exponentUnit + m.toNat := by
  have he := e.isLt
  have hm := m.isLt
  have hupper : (s.toBitVec ++ e).toNat = s.toBitVec.toNat * 2 ^ 11 + e.toNat := by
    rw [BitVec.toNat_append, ← Nat.shiftLeft_add_eq_or_of_lt he, Nat.shiftLeft_eq]
  have hall : (assemble s e m).toNat = (s.toBitVec ++ e).toNat * 2 ^ 52 + m.toNat := by
    change (s.toBitVec ++ e ++ m).toNat = _
    rw [BitVec.toNat_append, ← Nat.shiftLeft_add_eq_or_of_lt hm, Nat.shiftLeft_eq]
  rw [hall, hupper, signBit, exponentUnit]
  omega

theorem signBit_eq : signBit = 2 ^ 63 := rfl

theorem exponentUnit_eq : exponentUnit = 2 ^ 52 := rfl

theorem div_mul_add_mod (w : Nat) :
    w % signBit / exponentUnit * exponentUnit + w % exponentUnit = w % signBit := by
  rw [← Nat.mod_mod_of_dvd w (by decide : exponentUnit ∣ signBit), Nat.div_add_mod']

theorem biased_lt (w : Nat) : w % signBit / exponentUnit < 2 ^ 11 :=
  Nat.div_lt_of_lt_mul (Nat.mod_lt w (by decide))

def signAt (w : Nat) : Sign := if signBit ≤ w then .negative else .positive

def biasedAt (w : Nat) : BitVec 11 := .ofNat 11 (w % signBit / exponentUnit)

def fractionAt (w : Nat) : BitVec 52 := .ofNat 52 (w % exponentUnit)

theorem toNat_biasedAt (w : Nat) : (biasedAt w).toNat = w % signBit / exponentUnit := by
  rw [biasedAt, BitVec.toNat_ofNat, Nat.mod_eq_of_lt (biased_lt w)]

theorem toNat_assemble_at (s : Sign) (w : Nat) : (assemble s (biasedAt w) (fractionAt w)).toNat =
    s.toBitVec.toNat * signBit + w % signBit := by
  rw [toNat_assemble, toNat_biasedAt, fractionAt, BitVec.toNat_ofNat, ← exponentUnit_eq,
    Nat.mod_mod, Nat.add_assoc, div_mul_add_mod]

/-- Every word has a sign, a biased exponent and a fraction. -/
theorem eq_assemble (b : BitVec 64) :
    b = assemble (signAt b.toNat) (biasedAt b.toNat) (fractionAt b.toNat) := by
  have hsign : (signAt b.toNat).toBitVec.toNat = b.toNat / signBit := by
    have hb : b.toNat / signBit < 2 := Nat.div_lt_of_lt_mul b.isLt
    rw [signAt]
    split
    · have hpos : 0 < b.toNat / signBit := Nat.div_pos ‹_› (by decide)
      simp only [Sign.toBitVec, BitVec.toNat_ofNat]
      omega
    · rw [Nat.div_eq_of_lt (Nat.lt_of_not_le ‹_›)]
      rfl
  apply BitVec.eq_of_toNat_eq
  rw [toNat_assemble_at, hsign, Nat.div_add_mod']

theorem unpackSign_assemble (s : Sign) (e : BitVec 11) (m : BitVec 52) :
    @unpackSign Format.binary64 (assemble s e m) = s.toBitVec := by
  have hlow : e.toNat * exponentUnit + m.toNat < signBit :=
    calc e.toNat * exponentUnit + m.toNat
        < (e.toNat + 1) * exponentUnit := by rw [Nat.succ_mul]; exact Nat.add_lt_add_left m.isLt _
      _ ≤ 2 ^ 11 * exponentUnit := Nat.mul_le_mul_right _ e.isLt
  apply BitVec.eq_of_toNat_eq
  change ((assemble s e m).extractLsb 63 63).toNat = _
  rw [BitVec.extractLsb_toNat, toNat_assemble, Nat.shiftRight_eq_div_pow, ← signBit_eq,
    Nat.add_assoc, Nat.mul_comm, Nat.mul_add_div (by decide : 0 < signBit), Nat.div_eq_of_lt hlow]
  exact Nat.mod_eq_of_lt s.toBitVec.isLt

@[simp]
theorem ofBitVec_toBitVec (s : Sign) : Sign.ofBitVec s.toBitVec = s := by cases s <;> rfl

theorem toNat_implicit (m : BitVec 52) : (1#1 ++ m).toNat = 2 ^ 52 + m.toNat := by
  rw [BitVec.toNat_append, ← Nat.shiftLeft_add_eq_or_of_lt m.isLt]
  rfl

/-- What the word with the given parts stands for. -/
def meaning (s : Sign) (e : BitVec 11) (m : BitVec 52) : UnpackedFloat :=
  if e = -1#11 then if m = 0#52 then .infinity s else .notANumber
  else if e = 0#11 then
    if h : m.toNat = 0 then .zero s
    else .finite s m.toNat (-1074) (Nat.pos_of_ne_zero h)
  else .finite s (2 ^ 52 + m.toNat) (e.toNat - 1075) (by omega)

theorem unpack_assemble (s : Sign) (e : BitVec 11) (m : BitVec 52) :
    UnpackedFloat.unpack Format.binary64 (assemble s e m) = meaning s e m := by
  have hm : @unpackMantissa Format.binary64 (assemble s e m) = m := unpackMantissa_packComponents
  have he : @unpackExponent Format.binary64 (assemble s e m) = e := unpackExponent_packComponents
  have hbias : Format.binary64.exponentBias = 1023 := rfl
  unfold UnpackedFloat.unpack meaning
  simp only [hm, he, unpackSign_assemble, ofBitVec_toBitVec, toNat_implicit, hbias]
  split
  · rfl
  · split
    · rename_i he0
      have hzero : m = 0#52 ↔ m.toNat = 0 := BitVec.toNat_eq
      simp only [hzero]
      split
      · rfl
      · congr 1
        simp [he0]
    · rfl

theorem pack_finite (s : Sign) (m : Nat) (e : Int) (h : 0 < m) :
    UnpackedFloat.pack Format.binary64 (.finite s m e h) =
      if 2 ^ 11 ≤ (e + 1023 + 52).toNat + 1 then packedInfinity Format.binary64 s
      else if m.log2 + 1 = 53 then
        assemble s (BitVec.ofNat 11 (e + 1023 + 52).toNat) (BitVec.ofNat 52 m)
      else assemble s 0#11 (BitVec.ofNat 52 m) := rfl

/-- A word that is no NaN is packed as it was unpacked. -/
theorem pack_meaning {s : Sign} {e : BitVec 11} {m : BitVec 52}
    (h : e ≠ -1#11 ∨ m = 0#52) :
    UnpackedFloat.pack Format.binary64 (meaning s e m) = assemble s e m := by
  unfold meaning
  split
  · obtain rfl := h.resolve_left (by simp_all)
    simp_all [UnpackedFloat.pack, packedInfinity, assemble]
  · rename_i hmax
    split
    · rename_i hzero
      split
      · have hm : m = 0#52 := BitVec.toNat_eq.mpr ‹_›
        simp_all [UnpackedFloat.pack, packedZero, assemble]
      · have hlog : m.toNat.log2 + 1 ≠ 53 := by
          have := (Nat.log2_lt ‹_›).mpr m.isLt
          omega
        rw [pack_finite, if_neg (by decide), if_neg hlog, BitVec.ofNat_toNat, BitVec.setWidth_eq,
          hzero]
    · -- The implicit bit makes the fraction one of 53 bits, so no shift takes place.
      have hlog : (2 ^ 52 + m.toNat).log2 = 52 := by
        have hm := m.isLt
        rw [Nat.log2_eq_iff (by omega)]
        omega
      have hexp : ((e.toNat : Int) - 1075 + 1023 + 52).toNat = e.toNat := by omega
      have hsmall : ¬ 2 ^ 11 ≤ e.toNat + 1 := fun hle => hmax <| by
        apply BitVec.eq_of_toNat_eq
        have := e.isLt
        simp
        omega
      have hfraction : BitVec.ofNat 52 (2 ^ 52 + m.toNat) = m := BitVec.eq_of_toNat_eq <| by
        rw [BitVec.toNat_ofNat]
        exact (Nat.add_mod_left (2 ^ 52) m.toNat).trans (Nat.mod_eq_of_lt m.isLt)
      rw [pack_finite, hexp, if_neg hsmall, if_pos (congrArg (· + 1) hlog), hfraction,
        BitVec.ofNat_toNat, BitVec.setWidth_eq]

/-- A word up to those of the infinities is packed as it was unpacked. -/
theorem pack_unpack {b : BitVec 64} (h : b.toNat % signBit ≤ maxBiased * exponentUnit) :
    UnpackedFloat.pack Format.binary64 (UnpackedFloat.unpack Format.binary64 b) = b := by
  have hvalid : biasedAt b.toNat ≠ -1#11 ∨ fractionAt b.toNat = 0#52 := by
    refine Decidable.or_iff_not_imp_left.mpr fun hmax => ?_
    have hbiased : b.toNat % signBit / exponentUnit = maxBiased := by
      rw [← toNat_biasedAt, Decidable.not_not.mp hmax]
      rfl
    have hsplit := div_mul_add_mod b.toNat
    rw [hbiased] at hsplit
    rw [fractionAt, show b.toNat % exponentUnit = 0 by omega]
  rw [eq_assemble b, unpack_assemble]
  exact pack_meaning hvalid

theorem word_ofBits {w : Nat} (h : w ≤ maxBiased * exponentUnit) :
    word (Float.ofBits w.toUInt64) = w := by
  have hw : w.toUInt64.toBitVec.toNat = w :=
    Nat.mod_eq_of_lt (Nat.lt_of_le_of_lt h (by decide))
  change (UnpackedFloat.pack Format.binary64
    (UnpackedFloat.unpack Format.binary64 w.toUInt64.toBitVec)).toNat = w
  rw [pack_unpack (by rw [hw]; exact Nat.le_trans (Nat.mod_le w signBit) h), hw]

theorem ext_word {x y : Float} (h : word x = word y) : x = y := by
  obtain ⟨⟨u, hu⟩⟩ := x
  obtain ⟨⟨v, hv⟩⟩ := y
  obtain rfl : u = v := UInt64.toNat_inj.mp h
  rfl

theorem unpack_eq (x : Float) : x.toModel.unpack =
    meaning (signAt (word x)) (biasedAt (word x)) (fractionAt (word x)) := by
  rw [← unpack_assemble, word, ← UInt64.toNat_toBitVec, ← eq_assemble]
  rfl

theorem biasedAt_ne {x : Float} (h : isFinite x = true) : biasedAt (word x) ≠ -1#11 := by
  intro hmax
  have hbiased : biasedExponent x = maxBiased := by
    rw [biasedExponent, unsignedWord, ← toNat_biasedAt, hmax]
    rfl
  simp [isFinite, hbiased] at h

theorem neg_meaning (s : Sign) (e : BitVec 11) (m : BitVec 52) :
    (meaning s e m).neg = meaning (-s) e m := by
  unfold meaning
  split
  · split <;> rfl
  · split
    · split <;> rfl
    · rfl

theorem toBits_neg {x : Float} (h : isFinite x = true) : (-x).toBits.toBitVec =
    assemble (-signAt (word x)) (biasedAt (word x)) (fractionAt (word x)) := by
  change UnpackedFloat.pack Format.binary64 x.toModel.unpack.neg = _
  rw [unpack_eq, neg_meaning, pack_meaning (.inl (biasedAt_ne h))]

theorem word_neg {x : Float} (h : isFinite x = true) :
    word (-x) = (if isNegative x then 0 else signBit) + unsignedWord x := by
  have hbits := congrArg BitVec.toNat (toBits_neg h)
  rw [toNat_assemble_at] at hbits
  refine hbits.trans (congrArg (· + _) ?_)
  by_cases hneg : signBit ≤ word x
  · rw [signAt, if_pos hneg, isNegative, decide_eq_true hneg]
    rfl
  · rw [signAt, if_neg hneg, isNegative, decide_eq_false hneg]
    rfl

theorem unsignedWord_lt (x : Float) : unsignedWord x < signBit := Nat.mod_lt _ (by decide)

@[simp]
theorem isNegative_neg {x : Float} (h : isFinite x = true) : isNegative (-x) = !isNegative x := by
  have hlt := unsignedWord_lt x
  rw [isNegative, word_neg h]
  cases isNegative x <;> simp [hlt]

theorem unsignedWord_neg {x : Float} (h : isFinite x = true) :
    unsignedWord (-x) = unsignedWord x := by
  have hlt := unsignedWord_lt x
  rw [unsignedWord, word_neg h]
  cases isNegative x <;> simp [Nat.mod_eq_of_lt hlt]

theorem isFinite_neg {x : Float} (h : isFinite x = true) : isFinite (-x) = true := by
  rwa [isFinite, biasedExponent, unsignedWord_neg h]

theorem word_eq (x : Float) :
    word x = (if isNegative x then signBit else 0) + unsignedWord x := by
  have hlt : word x < 2 * signBit := x.toBits.toBitVec.isLt
  rw [isNegative, unsignedWord]
  by_cases hneg : signBit ≤ word x
  · rw [Nat.mod_eq_sub_mod hneg, Nat.mod_eq_of_lt (by omega)]
    simp [hneg]
  · rw [Nat.mod_eq_of_lt (Nat.lt_of_not_le hneg)]
    simp [hneg]

theorem neg_neg_of_isFinite {x : Float} (h : isFinite x = true) : - -x = x := by
  apply ext_word
  rw [word_neg (isFinite_neg h), isNegative_neg h, unsignedWord_neg h, word_eq x]
  cases isNegative x <;> rfl

theorem word_zero : word 0 = 0 := by decide +kernel

theorem unpack_zero : (0 : Float).toModel.unpack = .zero .positive := by
  rw [unpack_eq, word_zero]
  rfl

theorem not_lt_zero {x : Float} (h : isNegative x = false) : ¬ x < 0 := by
  have hsign : signAt (word x) = .positive := by
    simp only [isNegative, decide_eq_false_iff_not] at h
    exact if_neg h
  change ¬ decide (UnpackedFloat.lt x.toModel.unpack (0 : Float).toModel.unpack = true) = true
  rw [unpack_eq x, unpack_zero, hsign, meaning]
  split
  · split <;> decide
  · split
    · split <;> simp [UnpackedFloat.lt, UnpackedFloat.compare]
    · simp [UnpackedFloat.lt, UnpackedFloat.compare]

theorem beq_self {x : Float} (h : isFinite x = true) : (x == x) = true := by
  change UnpackedFloat.beq x.toModel.unpack x.toModel.unpack = true
  rw [unpack_eq x, meaning, if_neg (biasedAt_ne h)]
  split
  · split
    · rfl
    · cases signAt (word x) <;> simp [UnpackedFloat.beq, UnpackedFloat.compare]
  · cases signAt (word x) <;> simp [UnpackedFloat.beq, UnpackedFloat.compare]

theorem isNaN_eq_false {x : Float} (h : isFinite x = true) : x.isNaN = false := by
  change UnpackedFloat.isNaN x.toModel.unpack = false
  rw [unpack_eq x, meaning, if_neg (biasedAt_ne h)]
  split
  · split <;> rfl
  · rfl

end Spreadsheet.Number
