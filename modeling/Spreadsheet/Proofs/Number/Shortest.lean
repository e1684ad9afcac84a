import Spreadsheet.Proofs.Number.Nearest

/-! The fewest digits of a double. Every decimal fraction that the search yields reads back as the
double, and the search ends at the seventeenth digit at the latest: on that grid the nearer
neighbour is close enough. -/

namespace Spreadsheet.Number

/-- The value of a decimal fraction. -/
def Decimal.value (d : Decimal) : ℚ := d.significand * 10 ^ d.exponent

theorem ten_zpow_pos (e : ℤ) : (0 : ℚ) < 10 ^ e := by positivity

theorem ten_pow_le_two_pow {k n : Nat} (h : 196 * k ≤ 59 * n) : 10 ^ k ≤ 2 ^ n := by
  have hbase : 10 ^ 59 ≤ 2 ^ 196 := by decide
  refine (Nat.pow_le_pow_iff_left (by decide : 59 ≠ 0)).mp ?_
  calc (10 ^ k) ^ 59 = (10 ^ 59) ^ k := by rw [← pow_mul, ← pow_mul, Nat.mul_comm]
    _ ≤ (2 ^ 196) ^ k := Nat.pow_le_pow_left hbase k
    _ = 2 ^ (196 * k) := (pow_mul ..).symm
    _ ≤ 2 ^ (59 * n) := Nat.pow_le_pow_right (by decide) h
    _ = (2 ^ n) ^ 59 := by rw [← pow_mul, Nat.mul_comm]

theorem two_pow_le_ten_pow {k n : Nat} (h : 28 * n ≤ 93 * k) : 2 ^ n ≤ 10 ^ k := by
  have hbase : 2 ^ 93 ≤ 10 ^ 28 := by decide
  refine (Nat.pow_le_pow_iff_left (by decide : 93 ≠ 0)).mp ?_
  calc (2 ^ n) ^ 93 = (2 ^ 93) ^ n := by rw [← pow_mul, ← pow_mul, Nat.mul_comm]
    _ ≤ (10 ^ 28) ^ n := Nat.pow_le_pow_left hbase n
    _ = 10 ^ (28 * n) := (pow_mul ..).symm
    _ ≤ 10 ^ (93 * k) := Nat.pow_le_pow_right (by decide) h
    _ = (10 ^ k) ^ 93 := by rw [← pow_mul, Nat.mul_comm]

/-- The guess at the leading place, which is too high by one at most. -/
theorem ten_zpow_guess_le {t g : ℤ} (hg : g = (t * 30103).fdiv 100000) (ht : |t| ≤ 2000) :
    (10 : ℚ) ^ (g - 1) ≤ 2 ^ (t - 1) := by
  have hbound : 100000 * g ≤ 30103 * t ∧ 30103 * t < 100000 * (g + 1) := by
    rw [hg, Int.fdiv_eq_ediv_of_nonneg _ (by decide)]
    omega
  obtain ⟨hlow, hhigh⟩ := abs_le.mp ht
  -- The slope 0.30103 lies between 28 / 93 and 59 / 196 up to errors that the bound on `t` absorbs.
  rcases le_or_gt t 0 with hneg | hpos
  · obtain ⟨n, hn⟩ : ∃ n : Nat, t - 1 = -n := ⟨(1 - t).toNat, by omega⟩
    obtain ⟨k, hk⟩ : ∃ k : Nat, g - 1 = -k := ⟨(1 - g).toNat, by omega⟩
    rw [hn, hk, zpow_neg, zpow_neg, zpow_natCast, zpow_natCast]
    refine inv_anti₀ (by positivity) ?_
    exact_mod_cast two_pow_le_ten_pow (by omega : 28 * n ≤ 93 * k)
  · obtain ⟨n, hn⟩ : ∃ n : Nat, t - 1 = n := ⟨(t - 1).toNat, by omega⟩
    rcases le_or_gt g 0 with hg | hg
    · rw [hn, zpow_natCast]
      exact (zpow_le_one_of_nonpos₀ (by norm_num) (by omega)).trans (one_le_pow₀ (by norm_num))
    · obtain ⟨k, hk⟩ : ∃ k : Nat, g - 1 = k := ⟨(g - 1).toNat, by omega⟩
      rw [hn, hk, zpow_natCast, zpow_natCast]
      exact_mod_cast ten_pow_le_two_pow (by omega : 196 * k ≤ 59 * n)

theorem le_iff_one_le_ratio {n d : Nat} (hd : 0 < d) : d ≤ n ↔ 1 ≤ ratio (n, d) := by
  have hd' : (0 : ℚ) < d := by exact_mod_cast hd
  rw [ratio, one_le_div hd', Nat.cast_le]

/-- The leading place of a fraction is not above it. -/
theorem ten_zpow_leadingPlace_le {a b : Nat} (ha : 0 < a) (hb : 0 < b)
    (hsize : |(a.log2 : ℤ) - b.log2| ≤ 2000) : 10 ^ leadingPlace a b ≤ ratio (a, b) := by
  have hreaches (k : ℤ) (h : (scaleTen a b (-k)).2 ≤ (scaleTen a b (-k)).1) :
      10 ^ k ≤ ratio (a, b) := by
    rw [le_iff_one_le_ratio (scaleTen_pos hb _), ratio_scaleTen, zpow_neg, ← div_eq_mul_inv,
      one_le_div (ten_zpow_pos k)] at h
    exact h
  simp only [leadingPlace, decide_eq_true_eq]
  split
  · exact hreaches _ ‹_›
  split
  · exact hreaches _ ‹_›
  · exact (ten_zpow_guess_le rfl hsize).trans (zpow_log2_lt_ratio ha hb).le

section

variable {d : Decimal} {x : Float}

theorem ratio_toFraction (d : Decimal) : ratio d.toFraction = d.value := by
  rw [Decimal.toFraction, ratio_scaleTen, Decimal.value]
  simp [ratio]

theorem toFraction_pos (d : Decimal) : 0 < d.toFraction.2 := scaleTen_pos (by decide) _

theorem lt_ten_pow_length (n : Nat) : n < 10 ^ (digits n).length :=
  (Nat.length_toDigits_le_iff (by decide) Nat.length_toDigits_pos).mp le_rfl

theorem ten_pow_length_le {n : Nat} (hn : 0 < n) : 10 ^ ((digits n).length - 1) ≤ n := by
  rcases Nat.eq_zero_or_pos ((digits n).length - 1) with hzero | hpos
  · rw [hzero]
    exact hn
  · have hlength : ¬ (digits n).length ≤ (digits n).length - 1 := by omega
    exact Nat.le_of_not_lt fun h =>
      hlength ((Nat.length_toDigits_le_iff (by decide) hpos).mpr h)

/-- The number of places in front of the point of a decimal fraction. -/
def Decimal.size (d : Decimal) : ℤ := (digits d.significand).length + d.exponent

theorem Decimal.value_lt (d : Decimal) : d.value < 10 ^ d.size := by
  have hlt : (d.significand : ℚ) < 10 ^ (digits d.significand).length := by
    exact_mod_cast lt_ten_pow_length d.significand
  have hpos := ten_zpow_pos d.exponent
  rw [Decimal.value, Decimal.size, zpow_add₀ (by norm_num), zpow_natCast]
  gcongr

theorem Decimal.le_value (hpos : 0 < d.significand) : 10 ^ (d.size - 1) ≤ d.value := by
  have hle : (10 : ℚ) ^ ((digits d.significand).length - 1) ≤ d.significand := by
    exact_mod_cast ten_pow_length_le hpos
  have hlength : 0 < (digits d.significand).length := Nat.length_toDigits_pos
  have hsize : d.size - 1 = ((digits d.significand).length - 1 : Nat) + d.exponent := by
    rw [Decimal.size]
    omega
  have hexponent := ten_zpow_pos d.exponent
  rw [hsize, zpow_add₀ (by norm_num), zpow_natCast, Decimal.value]
  gcongr

/-- Inside the range of doubles a decimal fraction is read as the nearest one. -/
theorem toFloat_eq (hlow : 10 ^ (-400 : ℤ) ≤ d.value) (hhigh : d.value ≤ 10 ^ (399 : ℤ)) :
    d.toFloat = nearest d.toFraction.1 d.toFraction.2 := by
  have hpos : 0 < d.significand := by
    rcases Nat.eq_zero_or_pos d.significand with hzero | hpos
    · rw [Decimal.value, hzero, Nat.cast_zero, zero_mul] at hlow
      exact absurd hlow (not_le.mpr (ten_zpow_pos _))
    · exact hpos
  have hlower : -400 < d.size :=
    (zpow_lt_zpow_iff_right₀ (by norm_num : (1 : ℚ) < 10)).mp (hlow.trans_lt d.value_lt)
  have hupper : d.size - 1 ≤ 399 :=
    (zpow_le_zpow_iff_right₀ (by norm_num : (1 : ℚ) < 10)).mp ((Decimal.le_value hpos).trans hhigh)
  rw [Decimal.size] at hlower hupper
  simp only [Decimal.toFloat]
  rw [if_neg, if_neg]
  · omega
  · simp only [Bool.or_eq_true, beq_iff_eq, decide_eq_true_eq]
    omega

theorem significand_pos (h : isFinite x = true) (hx : isZero x = false) :
    0 < (parts x).significand := by
  by_contra hzero
  have hsignificand : (parts x).significand = 0 := by omega
  have hexponent : (parts x).exponent = -1074 :=
    (standard_parts h).leading.resolve_right (by rw [hsignificand]; decide)
  have hword := unsignedWord_eq x
  rw [hsignificand, hexponent] at hword
  simp [isZero, hword] at hx

theorem le_magnitude (h : isFinite x = true) (hx : isZero x = false) :
    2 ^ (-1074 : ℤ) ≤ ratio (magnitude x) := by
  have hone : (1 : ℚ) ≤ (parts x).significand := by exact_mod_cast significand_pos h hx
  have hexponent : (2 : ℚ) ^ (-1074 : ℤ) ≤ 2 ^ (parts x).exponent :=
    zpow_le_zpow_right₀ (by norm_num) (standard_parts h).least
  rw [ratio_magnitude]
  exact hexponent.trans (le_mul_of_one_le_left (two_zpow_pos _).le hone)

theorem magnitude_lt (h : isFinite x = true) : ratio (magnitude x) < 2 ^ (1024 : ℤ) := by
  have hstandard := standard_parts h
  have hmax : ((parts x).significand : ℚ) < 2 ^ 53 := by exact_mod_cast hstandard.significand_lt
  have hexponent : (2 : ℚ) ^ (parts x).exponent ≤ 2 ^ (971 : ℤ) :=
    zpow_le_zpow_right₀ (by norm_num) hstandard.most
  have hpow : (2 : ℚ) ^ (1024 : ℤ) = 2 ^ 53 * 2 ^ (971 : ℤ) := two_zpow_add 971 53
  have hu := two_zpow_pos (parts x).exponent
  rw [ratio_magnitude, hpow]
  calc ((parts x).significand : ℚ) * 2 ^ (parts x).exponent
      < 2 ^ 53 * 2 ^ (parts x).exponent := by gcongr
    _ ≤ 2 ^ 53 * 2 ^ (971 : ℤ) := by gcongr

/-- A decimal fraction within a factor of two of a double is in range. -/
theorem value_in_range (h : isFinite x = true) (hx : isZero x = false)
    (hlow : ratio (magnitude x) ≤ 2 * d.value) (hhigh : d.value ≤ 2 * ratio (magnitude x)) :
    10 ^ (-400 : ℤ) ≤ d.value ∧ d.value ≤ 10 ^ (399 : ℤ) := by
  constructor
  · have hten : (10 : ℚ) ^ (-400 : ℤ) ≤ 2 ^ (-1075 : ℤ) := by
      rw [zpow_neg, zpow_neg]
      refine inv_anti₀ (by positivity) ?_
      exact_mod_cast two_pow_le_ten_pow (by decide : 28 * 1075 ≤ 93 * 400)
    have htwo : (2 : ℚ) ^ (-1074 : ℤ) = 2 * 2 ^ (-1075 : ℤ) := two_zpow_pred (-1074)
    have hdouble : 2 * (2 : ℚ) ^ (-1075 : ℤ) ≤ 2 * d.value :=
      calc 2 * (2 : ℚ) ^ (-1075 : ℤ) = 2 ^ (-1074 : ℤ) := htwo.symm
        _ ≤ ratio (magnitude x) := le_magnitude h hx
        _ ≤ 2 * d.value := hlow
    exact hten.trans (le_of_mul_le_mul_left hdouble (by norm_num))
  · have hten : (2 : ℚ) ^ (1025 : ℤ) ≤ 10 ^ (399 : ℤ) := by
      exact_mod_cast two_pow_le_ten_pow (by decide : 28 * 1025 ≤ 93 * 399)
    have htwo : (2 : ℚ) ^ (1025 : ℤ) = 2 * 2 ^ (1024 : ℤ) := two_zpow_pred 1025
    calc d.value ≤ 2 * ratio (magnitude x) := hhigh
      _ ≤ 2 * 2 ^ (1024 : ℤ) := mul_le_mul_of_nonneg_left (magnitude_lt h).le (by norm_num)
      _ = 2 ^ (1025 : ℤ) := htwo.symm
      _ ≤ 10 ^ (399 : ℤ) := hten

/-- A decimal fraction that agrees with a double in seventeen digits reads back as it. -/
theorem readsBack_of_near (h : isFinite x = true) (hx : isZero x = false)
    (hnear : |d.value - ratio (magnitude x)| ≤ ratio (magnitude x) / (2 * 10 ^ 16)) :
    d.readsBack x = true := by
  have hpos := significand_pos h hx
  have hvalue := ratio_magnitude x
  have hu := two_zpow_pos (parts x).exponent
  have hmax : ((parts x).significand : ℚ) < 2 ^ 53 := by
    exact_mod_cast (standard_parts h).significand_lt
  have hv : 0 < ratio (magnitude x) := (two_zpow_pos _).trans_le (le_magnitude h hx)
  obtain ⟨hbelow, habove⟩ := abs_le.mp hnear
  obtain ⟨hlow, hhigh⟩ := value_in_range h hx (d := d) (by linarith) (by linarith)
  rw [Decimal.readsBack, toFloat_eq hlow hhigh, beq_iff_eq]
  -- Significands have 53 bits: `2 ^ 53 < 10 ^ 16` in general, and twice `2 ^ 52` at the bottom.
  refine word_nearest_eq h hpos (toFraction_pos d) ?_ fun h52 => ?_
  · rw [ratio_toFraction]
    refine hnear.trans_lt ?_
    rw [hvalue]
    nlinarith
  · have hcast : ((parts x).significand : ℚ) = 2 ^ 52 := by rw [h52]; norm_num
    rw [ratio_toFraction]
    refine hnear.trans_lt ?_
    rw [hvalue, hcast]
    linarith

/-- Of the two neighbours on a grid one is at most half a step away. -/
theorem exists_neighbour {f : Nat × Nat} (hf : 0 < f.2) {r : ℚ} {e : ℤ}
    (hr : ratio f = r * 10 ^ (-e)) :
    |(⟨f.1 / f.2, e⟩ : Decimal).value - r| ≤ 10 ^ e / 2 ∨
      |(⟨f.1 / f.2 + 1, e⟩ : Decimal).value - r| ≤ 10 ^ e / 2 := by
  have hstep := ten_zpow_pos e
  have hvalue : r = ratio f * 10 ^ e := by
    rw [hr, mul_assoc, ← zpow_add₀ (by norm_num), neg_add_cancel, zpow_zero, mul_one]
  have hlow : ((f.1 / f.2 : Nat) : ℚ) ≤ ratio f :=
    not_lt.mp fun h => Nat.lt_irrefl _ ((div_lt_iff_ratio hf).mpr h)
  have hhigh : ratio f < (f.1 / f.2 : Nat) + 1 := by
    exact_mod_cast (div_lt_iff_ratio hf).mp (Nat.lt_succ_self (f.1 / f.2))
  simp only [Decimal.value, hvalue, ← sub_mul, abs_mul, abs_of_pos hstep]
  rcases le_total (ratio f) ((f.1 / f.2 : Nat) + 1 / 2) with hnear | hnear
  · left
    rw [abs_of_nonpos (by linarith)]
    nlinarith
  · right
    rw [Nat.cast_succ, abs_of_nonneg (by linarith)]
    nlinarith

theorem readsBack_of_neighbour? {tie : Tie} {e : ℤ} (h : neighbour? tie x e = some d) :
    d.readsBack x = true := by
  simp only [neighbour?] at h
  split at h
  · rename_i hbelow habove
    split at h <;> simp only [Option.some.injEq] at h <;> subst h
    · exact habove
    · exact hbelow
  · simp only [Option.some.injEq] at h
    subst h
    assumption
  · simp only [Option.some.injEq] at h
    subst h
    assumption
  · cases h

theorem neighbour?_ne_none {tie : Tie} {e : ℤ} (h : isFinite x = true) (hx : isZero x = false)
    (he : 10 ^ e ≤ ratio (magnitude x) / 10 ^ 16) : neighbour? tie x e ≠ none := by
  have hclose (d : Decimal) (hd : |d.value - ratio (magnitude x)| ≤ 10 ^ e / 2) :
      d.readsBack x = true := readsBack_of_near h hx <| hd.trans <| by
    rw [mul_comm, ← div_div]
    linarith
  have hneighbour := exists_neighbour (scaleTen_pos (magnitude_pos x) (-e))
    (ratio_scaleTen (magnitude x).1 (magnitude x).2 (-e))
  rcases hneighbour with hbelow | habove
  · simp only [neighbour?, hclose _ hbelow]
    split <;> simp_all
  · simp only [neighbour?, hclose _ habove]
    split <;> simp_all

/-- The search ends with a fraction that reads back if there is one on the last grid. -/
theorem readsBack_firstNeighbour {tie : Tie} {fuel : Nat} {e : ℤ}
    (h : neighbour? tie x (e - fuel) ≠ none) :
    (firstNeighbour tie x (fuel + 1) e).readsBack x = true := by
  induction fuel generalizing e with
  | zero =>
    obtain ⟨d, hd⟩ := Option.ne_none_iff_exists'.mp h
    rw [Nat.cast_zero, sub_zero] at hd
    rw [firstNeighbour, hd]
    exact readsBack_of_neighbour? hd
  | succ fuel ih =>
    rw [firstNeighbour]
    cases hd : neighbour? tie x e with
    | some d => exact readsBack_of_neighbour? hd
    | none =>
      rw [Nat.cast_succ, ← sub_sub, sub_right_comm] at h
      exact ih h

theorem length_digits_mul_ten {n : Nat} (hn : 0 < n) :
    (digits (10 * n)).length = (digits n).length + 1 := by
  rw [digits, Nat.toDigits_of_base_le (by decide) (by omega)]
  simp [digits]

/-- A zero at the end of the digits may move into the exponent. -/
theorem toFloat_mul_ten {n : Nat} (hn : 0 < n) (e : ℤ) :
    Decimal.toFloat ⟨10 * n, e⟩ = Decimal.toFloat ⟨n, e + 1⟩ := by
  have hfraction : nearest (scaleTen (10 * n) 1 e).1 (scaleTen (10 * n) 1 e).2 =
      nearest (scaleTen n 1 (e + 1)).1 (scaleTen n 1 (e + 1)).2 := by
    rcases le_or_gt 0 e with he | he
    · have hnext : 0 ≤ e + 1 := by omega
      have hpow : 10 * n * 10 ^ e.toNat = n * 10 ^ (e + 1).toNat := by
        rw [show (e + 1).toNat = e.toNat + 1 by omega]
        ring
      simp only [scaleTen, if_pos he, if_pos hnext, powerOfTen_eq, hpow]
    · obtain ⟨k, rfl⟩ : ∃ k : Nat, e = -(k + 1 : Nat) := ⟨(-e - 1).toNat, by omega⟩
      have hright : scaleTen n 1 (-(k + 1 : Nat) + 1) = (n, 10 ^ k) := by
        cases k with
        | zero => simp [scaleTen, powerOfTen_eq]
        | succ k =>
          have hneg : ¬ (0 : ℤ) ≤ -((k + 1 + 1 : Nat) : ℤ) + 1 := by omega
          have hto : (-(-((k + 1 + 1 : Nat) : ℤ) + 1)).toNat = k + 1 := by omega
          rw [scaleTen, if_neg hneg, hto, powerOfTen_eq, one_mul]
      have hleft : scaleTen (10 * n) 1 (-(k + 1 : Nat)) = (10 * n, 10 * 10 ^ k) := by
        have hneg : ¬ (0 : ℤ) ≤ -((k + 1 : Nat) : ℤ) := by omega
        rw [scaleTen, if_neg hneg, neg_neg, Int.toNat_natCast, powerOfTen_eq, one_mul, pow_succ']
      rw [hright, hleft]
      exact nearest_mul (by decide) (by positivity)
  have hsize : ((digits n).length + 1 : Nat) + e = (digits n).length + (e + 1) := by omega
  simp only [Decimal.toFloat, Decimal.toFraction, hfraction, length_digits_mul_ten hn, hsize]
  simp

theorem toFloat_stripZeros (fuel : Nat) (d : Decimal) : (d.stripZeros fuel).toFloat = d.toFloat := by
  induction fuel generalizing d with
  | zero => rfl
  | succ fuel ih =>
    rw [Decimal.stripZeros]
    split
    · rename_i hzero
      simp only [Bool.and_eq_true, bne_iff_ne, ne_eq, beq_iff_eq] at hzero
      obtain ⟨n, hn⟩ := Nat.dvd_of_mod_eq_zero hzero.2
      have hdiv : d.significand / 10 = n := by omega
      rw [ih, hdiv, ← toFloat_mul_ten (by omega), ← hn]
    · rfl

theorem numerator_pos (h : isFinite x = true) (hx : isZero x = false) : 0 < (magnitude x).1 := by
  rcases Nat.eq_zero_or_pos (magnitude x).1 with hzero | hpos
  · have hle := le_magnitude h hx
    rw [ratio, hzero, Nat.cast_zero, zero_div] at hle
    exact absurd hle (not_le.mpr (two_zpow_pos _))
  · exact hpos

theorem abs_log2_le (h : isFinite x = true) (hx : isZero x = false) :
    |((magnitude x).1.log2 : ℤ) - (magnitude x).2.log2| ≤ 2000 := by
  have hratio : ratio (magnitude x) <
      2 ^ (((magnitude x).1.log2 : ℤ) - (magnitude x).2.log2 + 1) :=
    ratio_lt_zpow_log2 (magnitude_pos x)
  have hlow := (le_magnitude h hx).trans_lt hratio
  have hhigh := (zpow_log2_lt_ratio (numerator_pos h hx) (magnitude_pos x)).trans (magnitude_lt h)
  rw [zpow_lt_zpow_iff_right₀ (by norm_num)] at hlow hhigh
  rw [abs_le]
  omega

/-- The fewest digits of a finite double read back as its magnitude. -/
theorem readsBack_shortest (tie : Tie) (h : isFinite x = true) :
    (shortest tie x).readsBack x = true := by
  rw [shortest]
  split
  · rename_i hx
    have hzero : Decimal.toFloat ⟨0, 0⟩ = 0 := rfl
    rw [isZero, beq_iff_eq] at hx
    rw [Decimal.readsBack, hzero, word_zero, hx]
    rfl
  · rename_i hx
    have hx : isZero x = false := by simpa using hx
    have hplace := ten_zpow_leadingPlace_le (numerator_pos h hx) (magnitude_pos x)
      (abs_log2_le h hx)
    rw [Decimal.readsBack, toFloat_stripZeros]
    refine readsBack_firstNeighbour (neighbour?_ne_none h hx ?_)
    rw [zpow_sub₀ (by norm_num), zpow_natCast]
    gcongr

section

variable {y : Float}

theorem magnitude_congr (h : unsignedWord x = unsignedWord y) : magnitude x = magnitude y := by
  have hfraction : word x % exponentUnit = word y % exponentUnit := by
    have hdvd : exponentUnit ∣ signBit := by decide
    rw [← Nat.mod_mod_of_dvd (word x) hdvd, ← Nat.mod_mod_of_dvd (word y) hdvd]
    exact congrArg (· % exponentUnit) h
  have hbiased : biasedExponent x = biasedExponent y := by rw [biasedExponent, h, biasedExponent]
  have hparts : (parts x).significand = (parts y).significand ∧
      (parts x).exponent = (parts y).exponent := by
    cases hx : biasedExponent x with
    | zero =>
      rw [parts_of_biased_zero hx, parts_of_biased_zero (hbiased ▸ hx)]
      exact ⟨hfraction, rfl⟩
    | succ n =>
      rw [parts_of_biased_succ hx, parts_of_biased_succ (hbiased ▸ hx)]
      exact ⟨congrArg (exponentUnit + ·) hfraction, rfl⟩
  rw [magnitude, magnitude, hparts.1, hparts.2]

/-- Digits do not depend on the sign. -/
theorem shortest_congr (tie : Tie) (h : unsignedWord x = unsignedWord y) :
    shortest tie x = shortest tie y := by
  have hmagnitude := magnitude_congr h
  have hback (d : Decimal) : d.readsBack x = d.readsBack y := by
    rw [Decimal.readsBack, h, Decimal.readsBack]
  have hneighbour (e : ℤ) : neighbour? tie x e = neighbour? tie y e := by
    simp only [neighbour?, hmagnitude, hback]
  have hfirst (fuel : Nat) (e : ℤ) : firstNeighbour tie x fuel e = firstNeighbour tie y fuel e := by
    induction fuel generalizing e with
    | zero => rw [firstNeighbour, hmagnitude, firstNeighbour]
    | succ fuel ih => rw [firstNeighbour, hneighbour, ih, firstNeighbour]
  have hzero : isZero x = isZero y := by rw [isZero, h, isZero]
  rw [shortest, shortest, hzero, hmagnitude, hfirst]

end

end

end Spreadsheet.Number
