import Spreadsheet.Proofs.Number.Nearest

/-! The order of doubles. Finite doubles compare by their keys, which are integers, as IEEE 754 compares
them: by their exponents first, since no significand reaches the next exponent. -/

namespace Spreadsheet.Number

open Float.Model

def Parts.sign (p : Parts) : UnpackedFloat.Sign := if p.negative then .negative else .positive

/-- What the parts of a finite double stand for. -/
def Parts.unpacked (p : Parts) : UnpackedFloat :=
  if h : p.significand = 0 then .zero p.sign
  else .finite p.sign p.significand p.exponent (Nat.pos_of_ne_zero h)

/-- The place of a double among those of its sign. -/
def Parts.rank (p : Parts) : Nat := (p.exponent + 1074).toNat * exponentUnit + p.significand

variable {x y : Float} {p q : Parts}

theorem unpack_eq_unpacked (h : isFinite x = true) : x.toModel.unpack = (parts x).unpacked := by
  have hsign : signAt (word x) = if isNegative x then .negative else .positive := by
    simp [signAt, isNegative]
  have hfraction : (fractionAt (word x)).toNat = word x % exponentUnit :=
    Nat.mod_eq_of_lt (Nat.mod_lt _ (by decide))
  have hzero : biasedAt (word x) = 0#11 ↔ biasedExponent x = 0 := by
    rw [← BitVec.toNat_inj, toNat_biasedAt]
    rfl
  rw [unpack_eq, meaning, if_neg (biasedAt_ne h)]
  cases hbiased : biasedExponent x with
  | zero =>
    rw [if_pos (hzero.mpr hbiased), parts_of_biased_zero hbiased]
    simp only [Parts.unpacked, Parts.sign, hfraction, hsign]
  | succ n =>
    have hbiased' : (biasedAt (word x)).toNat = n + 1 := (toNat_biasedAt _).trans hbiased
    have hexponent : ((n + 1 : Nat) : ℤ) - 1075 = n - 1074 := by omega
    have hpos : exponentUnit + word x % exponentUnit ≠ 0 := by simp [exponentUnit]
    rw [if_neg (by simp [hzero, hbiased]), parts_of_biased_succ hbiased]
    simp only [Parts.unpacked, Parts.sign, hfraction, hsign, hbiased', hexponent, ← exponentUnit_eq,
      dif_neg hpos]

namespace Parts.Standard

theorem rank_eq_zero (hp : p.Standard) : p.rank = 0 ↔ p.significand = 0 := by
  obtain ⟨hleast, -, -, hleading⟩ := hp
  unfold rank
  rw [exponentUnit_eq]
  omega

theorem unpacked_of_rank_eq_zero (hp : p.Standard) (h : p.rank = 0) : p.unpacked = .zero p.sign :=
  dif_pos (hp.rank_eq_zero.mp h)

theorem unpacked_of_rank_pos (hp : p.Standard) (h : 0 < p.rank) :
    ∃ hpos, p.unpacked = .finite p.sign p.significand p.exponent hpos :=
  ⟨_, dif_neg (hp.rank_eq_zero.not.mp h.ne')⟩

end Parts.Standard

theorem compare_neg (i j : ℤ) : Ord.compare (-i) (-j) = (Ord.compare i j).swap := by
  rw [← Std.OrientedOrd.eq_swap, ← cmp_eq_compare, ← cmp_eq_compare]
  exact StrictAnti.cmp_map_eq (fun _ _ => Int.neg_lt_neg) i j

/-- Only between equal exponents do the significands decide. -/
theorem compare_rank (hp : p.Standard) (hq : q.Standard) :
    (Ord.compare p.exponent q.exponent).then (Ord.compare p.significand q.significand) =
      Ord.compare (p.rank : ℤ) q.rank := by
  obtain ⟨hleast, -, hlt, hleading⟩ := hp
  obtain ⟨hleast', -, hlt', hleading'⟩ := hq
  unfold Parts.rank
  rw [exponentUnit_eq]
  rcases lt_trichotomy p.exponent q.exponent with hexp | hexp | hexp
  · rw [compare_lt_iff_lt.mpr hexp, Ordering.lt_then, eq_comm, compare_lt_iff_lt]
    omega
  · rw [hexp, compare_eq_iff_eq.mpr rfl, Ordering.eq_then, Nat.cast_add, Nat.cast_add,
      ← cmp_eq_compare (_ + _), cmp_add_left, ← cmp_eq_compare]
    exact (Nat.strictMono_cast.cmp_map_eq _ _).symm
  · rw [compare_gt_iff_gt.mpr hexp, Ordering.gt_then, eq_comm, compare_gt_iff_gt]
    omega

theorem compare_unpacked (hp : p.Standard) (hq : q.Standard) : p.unpacked.compare q.unpacked =
    some (Ord.compare (applySign p.negative p.rank) (applySign q.negative q.rank)) := by
  have hlt (o : Ordering) : .lt = o ↔ o = .lt := eq_comm
  have hgt (o : Ordering) : .gt = o ↔ o = .gt := eq_comm
  -- Each of the two is zero or not, and has one of two signs.
  rcases Nat.eq_zero_or_pos p.rank with h | h <;> rcases Nat.eq_zero_or_pos q.rank with h' | h'
  · rw [hp.unpacked_of_rank_eq_zero h, hq.unpacked_of_rank_eq_zero h', h, h']
    unfold Parts.sign applySign
    cases p.negative <;> cases q.negative <;> rfl
  · obtain ⟨_, hunpacked⟩ := hq.unpacked_of_rank_pos h'
    rw [hp.unpacked_of_rank_eq_zero h, hunpacked, h]
    unfold Parts.sign applySign
    cases p.negative <;> cases q.negative <;>
      simp [UnpackedFloat.compare, hlt, hgt, compare_lt_iff_lt, compare_gt_iff_gt, h']
  · obtain ⟨_, hunpacked⟩ := hp.unpacked_of_rank_pos h
    rw [hunpacked, hq.unpacked_of_rank_eq_zero h', h']
    unfold Parts.sign applySign
    cases p.negative <;> cases q.negative <;>
      simp [UnpackedFloat.compare, hlt, hgt, compare_lt_iff_lt, compare_gt_iff_gt, h]
  · obtain ⟨_, hunpacked⟩ := hp.unpacked_of_rank_pos h
    obtain ⟨_, hunpacked'⟩ := hq.unpacked_of_rank_pos h'
    have hdiff : -(p.rank : ℤ) < q.rank := by omega
    have hdiff' : -(q.rank : ℤ) < p.rank := by omega
    rw [hunpacked, hunpacked']
    unfold Parts.sign applySign
    cases p.negative <;> cases q.negative <;>
      simp [UnpackedFloat.compare, compare_rank hp hq, compare_neg, hlt, hgt, compare_lt_iff_lt,
        compare_gt_iff_gt, hdiff, hdiff']

/-- Finite doubles are ordered by their keys. -/
theorem compare_unpack (hx : isFinite x = true) (hy : isFinite y = true) :
    x.toModel.unpack.compare y.toModel.unpack = some (compare x y) := by
  have hkey (z : Float) : orderKey z = applySign (parts z).negative (parts z).rank := by
    have hsign : (parts z).negative = isNegative z := by
      cases h : biasedExponent z with
      | zero => rw [parts_of_biased_zero h]
      | succ n => rw [parts_of_biased_succ h]
    rw [orderKey, hsign, unsignedWord_eq, Parts.rank]
  rw [unpack_eq_unpacked hx, unpack_eq_unpacked hy,
    compare_unpacked (standard_parts hx) (standard_parts hy), compare, hkey, hkey]

theorem compare_eq_lt_iff (hx : isFinite x = true) (hy : isFinite y = true) :
    compare x y = .lt ↔ x < y := by
  change _ ↔ decide (UnpackedFloat.lt x.toModel.unpack y.toModel.unpack = true) = true
  rw [UnpackedFloat.lt, compare_unpack hx hy]
  simp

theorem compare_eq_eq_iff (hx : isFinite x = true) (hy : isFinite y = true) :
    compare x y = .eq ↔ (x == y) = true := by
  change _ ↔ UnpackedFloat.beq x.toModel.unpack y.toModel.unpack = true
  rw [UnpackedFloat.beq, compare_unpack hx hy]
  simp

/-- Finite doubles are equal just where their keys are. -/
theorem beq_iff (hx : isFinite x = true) (hy : isFinite y = true) :
    (x == y) = true ↔ orderKey x = orderKey y :=
  (compare_eq_eq_iff hx hy).symm.trans Std.LawfulEqOrd.compare_eq_iff_eq

theorem lt_iff (hx : isFinite x = true) (hy : isFinite y = true) :
    x < y ↔ orderKey x < orderKey y :=
  (compare_eq_lt_iff hx hy).symm.trans compare_lt_iff_lt

/-! ### The total order -/

theorem totalKey_lt_of_lt (hx : isFinite x = true) (hy : isFinite y = true) (h : x < y) :
    totalKey x < totalKey y := by
  rw [lt_iff hx hy, orderKey, orderKey, applySign, applySign] at h
  rw [totalKey, totalKey]
  split_ifs at h ⊢ <;> omega

/-- Only one double has a key. -/
theorem eq_of_totalKey_eq (h : totalKey x = totalKey y) : x = y := by
  have hparts : isNegative x = isNegative y ∧ unsignedWord x = unsignedWord y := by
    rw [totalKey, totalKey] at h
    cases hx : isNegative x <;> cases hy : isNegative y <;> simp [hx, hy] at h ⊢ <;> omega
  apply ext_word
  rw [word_eq x, word_eq y, hparts.1, hparts.2]

end Spreadsheet.Number
