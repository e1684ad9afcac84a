import Mathlib.Algebra.Order.Field.Power
import Mathlib.Tactic.FieldSimp
import Mathlib.Tactic.Linarith
import Mathlib.Tactic.Positivity
import Mathlib.Tactic.Ring
import Spreadsheet.Number.Decimal
import Spreadsheet.Proofs.Number.Word

/-! Rounding to the nearest double. It depends on the value of a fraction alone, and a fraction that
is nearer to a double than half the distance to its neighbours is rounded to it. -/

namespace Spreadsheet.Number

/-- The value of a fraction, given by its numerator and its denominator. -/
def ratio (f : Nat × Nat) : ℚ := f.1 / f.2

theorem two_zpow_pos (e : ℤ) : (0 : ℚ) < 2 ^ e := by positivity

theorem two_zpow_add (e : ℤ) (n : ℕ) : (2 : ℚ) ^ (e + n) = 2 ^ n * 2 ^ e := by
  rw [zpow_add₀ (by norm_num), zpow_natCast, mul_comm]

theorem two_zpow_pred (e : ℤ) : (2 : ℚ) ^ e = 2 * 2 ^ (e - 1) := by
  rw [← zpow_one_add₀ (by norm_num), add_sub_cancel]

theorem exists_toNat {e : ℤ} (h : 0 ≤ e) : ∃ n : ℕ, e = n ∧ e.toNat = n :=
  ⟨e.toNat, by omega, rfl⟩

theorem exists_neg_toNat {e : ℤ} (h : ¬ 0 ≤ e) : ∃ n : ℕ, e = -n ∧ (-e).toNat = n :=
  ⟨(-e).toNat, by omega, rfl⟩

theorem ratio_scaleTwo (a b : Nat) (e : ℤ) :
    ratio (scaleTwo a b e) = ratio (a, b) * 2 ^ e := by
  rw [scaleTwo]
  split
  · obtain ⟨n, he, hn⟩ := exists_toNat ‹_›
    rw [ratio, ratio, hn, he, Nat.shiftLeft_eq, zpow_natCast]
    push_cast
    ring
  · obtain ⟨n, he, hn⟩ := exists_neg_toNat ‹_›
    rw [ratio, ratio, hn, he, Nat.shiftLeft_eq, zpow_neg, zpow_natCast]
    push_cast
    rw [div_mul_eq_div_div, div_eq_mul_inv]

theorem powerOfTen_eq (n : Nat) : powerOfTen n = 10 ^ n := rfl

theorem ratio_scaleTen (a b : Nat) (e : ℤ) :
    ratio (scaleTen a b e) = ratio (a, b) * 10 ^ e := by
  rw [scaleTen]
  split
  · obtain ⟨n, he, hn⟩ := exists_toNat ‹_›
    rw [ratio, ratio, hn, he, powerOfTen_eq, zpow_natCast]
    push_cast
    ring
  · obtain ⟨n, he, hn⟩ := exists_neg_toNat ‹_›
    rw [ratio, ratio, hn, he, powerOfTen_eq, zpow_neg, zpow_natCast]
    push_cast
    rw [div_mul_eq_div_div, div_eq_mul_inv]

theorem scaleTwo_pos {a b : Nat} (hb : 0 < b) (e : ℤ) : 0 < (scaleTwo a b e).2 := by
  rw [scaleTwo]
  split
  · exact hb
  · simp [Nat.shiftLeft_eq, hb]

theorem scaleTen_pos {a b : Nat} (hb : 0 < b) (e : ℤ) : 0 < (scaleTen a b e).2 := by
  rw [scaleTen]
  split
  · exact hb
  · exact Nat.mul_pos hb (Nat.pow_pos (by decide))

theorem scaleTwo_mul (c a b : Nat) (e : ℤ) :
    scaleTwo (c * a) (c * b) e = (c * (scaleTwo a b e).1, c * (scaleTwo a b e).2) := by
  rw [scaleTwo, scaleTwo]
  split <;> simp [Nat.shiftLeft_eq, Nat.mul_assoc]

theorem ratio_mul {c : Nat} (hc : 0 < c) (a b : Nat) : ratio (c * a, c * b) = ratio (a, b) := by
  have hc' : (c : ℚ) ≠ 0 := by exact_mod_cast hc.ne'
  rw [ratio, ratio]
  push_cast
  exact mul_div_mul_left _ _ hc'

section

variable {a b : Nat}

theorem roundHalfEven_mul {c : Nat} (hc : 0 < c) :
    roundHalfEven (c * a) (c * b) = roundHalfEven a b := by
  have hup : c * b < 2 * (c * (a % b)) ↔ b < 2 * (a % b) := by
    rw [Nat.mul_left_comm, Nat.mul_lt_mul_left hc]
  have htie : 2 * (c * (a % b)) = c * b ↔ 2 * (a % b) = b := by
    rw [Nat.mul_left_comm, Nat.mul_right_inj hc.ne']
  simp only [roundHalfEven, Nat.mul_div_mul_left a b hc, Nat.mul_mod_mul_left, beq_iff_eq,
    Bool.or_eq_true, Bool.and_eq_true, decide_eq_true_eq, hup, htie]

/-- A fraction less than a half away from an integer is rounded to it. -/
theorem roundHalfEven_eq {m : Nat} (hb : 0 < b) (h : |ratio (a, b) - m| < 1 / 2) :
    roundHalfEven a b = m := by
  have hb' : (0 : ℚ) < b := by exact_mod_cast hb
  obtain ⟨hlow, hhigh⟩ := abs_lt.mp h
  rw [ratio] at hlow hhigh
  have habove : 2 * a < (2 * m + 1) * b := by
    have : (a : ℚ) / b < m + 1 / 2 := by linarith
    rw [div_lt_iff₀ hb'] at this
    have : (2 * a : ℚ) < (2 * m + 1) * b := by linarith
    exact_mod_cast this
  have hbelow : 2 * m * b < 2 * a + b := by
    have : (m : ℚ) - 1 / 2 < a / b := by linarith
    rw [lt_div_iff₀ hb'] at this
    have : (2 * m * b : ℚ) < 2 * a + b := by linarith
    exact_mod_cast this
  have hmod : a % b < b := Nat.mod_lt a hb
  have hdiv : a = b * (a / b) + a % b := (Nat.div_add_mod a b).symm
  have hle : a / b < m + 1 := Nat.div_lt_of_lt_mul (by linarith)
  have hge : m < a / b + 2 := Nat.lt_of_mul_lt_mul_right (a := b) (by linarith)
  -- Only the quotient and its successor are that near; the remainder tells which one it is.
  have hcases : m = a / b ∨ m = a / b + 1 := by omega
  rw [roundHalfEven]
  rcases hcases with hm | hm <;> rw [hm] at habove hbelow ⊢
  · have hlow : 2 * (a % b) < b := by linarith
    rw [if_neg]
    simp only [Bool.or_eq_true, Bool.and_eq_true, decide_eq_true_eq, beq_iff_eq]
    omega
  · have hhigh : b < 2 * (a % b) := by linarith
    rw [if_pos]
    simp [hhigh]

theorem roundHalfEven_scaleTwo {m : Nat} {e : ℤ} (hb : 0 < b)
    (h : |ratio (a, b) - m * 2 ^ e| < 2 ^ e / 2) :
    roundHalfEven (scaleTwo a b (-e)).1 (scaleTwo a b (-e)).2 = m := by
  have hu := two_zpow_pos e
  refine roundHalfEven_eq (scaleTwo_pos hb _) ?_
  have hscaled : ratio (a, b) * 2 ^ (-e) - m = (ratio (a, b) - m * 2 ^ e) / 2 ^ e := by
    rw [zpow_neg]
    field_simp
  rw [ratio_scaleTwo, hscaled, abs_div, abs_of_pos hu, div_lt_iff₀ hu]
  linarith

/-- What makes `e` the last binary place of the double nearest to `r`. -/
structure IsLastPlace (r : ℚ) (e : ℤ) : Prop where
  least : -1074 ≤ e
  upper : r < 2 ^ (e + 53)
  lower : e = -1074 ∨ 2 ^ (e + 52) ≤ r

theorem IsLastPlace.le {r : ℚ} {e e' : ℤ} (h : IsLastPlace r e) (h' : IsLastPlace r e') :
    e' ≤ e := by
  rcases h'.lower with heq | hlower
  · rw [heq]
    exact h.least
  · by_contra hlt
    have hpow : (2 : ℚ) ^ (e + 53) ≤ 2 ^ (e' + 52) := zpow_le_zpow_right₀ (by norm_num) (by omega)
    exact absurd (hpow.trans hlower) (not_le.mpr h.upper)

theorem IsLastPlace.unique {r : ℚ} {e e' : ℤ} (h : IsLastPlace r e) (h' : IsLastPlace r e') :
    e = e' := le_antisymm (h'.le h) (h.le h')

/-- A fraction is known up to a factor of two from the lengths of its parts. -/
theorem ratio_lt_zpow_log2 (hb : 0 < b) :
    ratio (a, b) < 2 ^ ((a.log2 : ℤ) - b.log2 + 1) := by
  have hupper : (a : ℚ) < 2 ^ (a.log2 + 1) := by exact_mod_cast Nat.lt_log2_self
  have hlower : (2 : ℚ) ^ b.log2 ≤ b := by exact_mod_cast Nat.log2_self_le hb.ne'
  have hb' : (0 : ℚ) < b := by exact_mod_cast hb
  rw [ratio, div_lt_iff₀ hb', sub_add_eq_add_sub, zpow_sub₀ (by norm_num), zpow_natCast,
    ← Nat.cast_succ, zpow_natCast]
  refine hupper.trans_le ?_
  rw [div_mul_eq_mul_div, le_div_iff₀ (by positivity)]
  gcongr

theorem zpow_log2_lt_ratio (ha : 0 < a) (hb : 0 < b) :
    2 ^ ((a.log2 : ℤ) - b.log2 - 1) < ratio (a, b) := by
  have hlower : (2 : ℚ) ^ a.log2 ≤ a := by exact_mod_cast Nat.log2_self_le ha.ne'
  have hupper : (b : ℚ) < 2 ^ (b.log2 + 1) := by exact_mod_cast Nat.lt_log2_self
  have hb' : (0 : ℚ) < b := by exact_mod_cast hb
  rw [ratio, lt_div_iff₀ hb', sub_sub, ← Nat.cast_succ, zpow_sub₀ (by norm_num), zpow_natCast,
    zpow_natCast, div_mul_eq_mul_div, div_lt_iff₀ (by positivity)]
  calc (2 : ℚ) ^ a.log2 * b < 2 ^ a.log2 * 2 ^ (b.log2 + 1) := by gcongr
    _ ≤ a * 2 ^ (b.log2 + 1) := by gcongr

theorem div_lt_iff_ratio {k : Nat} (hb : 0 < b) : a / b < k ↔ ratio (a, b) < k := by
  have hb' : (0 : ℚ) < b := by exact_mod_cast hb
  rw [Nat.div_lt_iff_lt_mul hb, ratio, div_lt_iff₀ hb']
  exact_mod_cast Iff.rfl

/-- The last place is the first guess or the one below, or that of the smallest doubles. -/
theorem isLastPlace_lastPlace (ha : 0 < a) (hb : 0 < b) :
    IsLastPlace (ratio (a, b)) (lastPlace a b) := by
  have hlow := zpow_log2_lt_ratio ha hb
  have hhigh := ratio_lt_zpow_log2 hb (a := a)
  rw [lastPlace]
  generalize hguess : (a.log2 : ℤ) - b.log2 - 52 = guess
  rw [show (a.log2 : ℤ) - b.log2 - 1 = guess - 1 + 52 by omega] at hlow
  rw [show (a.log2 : ℤ) - b.log2 + 1 = guess + 53 by omega] at hhigh
  have hscaled : (scaleTwo a b (-guess)).1 / (scaleTwo a b (-guess)).2 < exponentUnit ↔
      ratio (a, b) < 2 ^ (guess + 52) := by
    have hpow : (2 : ℚ) ^ (guess + 52) = 2 ^ 52 * 2 ^ guess := two_zpow_add guess 52
    rw [div_lt_iff_ratio (scaleTwo_pos hb _), ratio_scaleTwo, zpow_neg, ← div_eq_mul_inv,
      div_lt_iff₀ (two_zpow_pos guess), hpow, exponentUnit_eq, Nat.cast_pow, Nat.cast_ofNat]
  -- One comparison decides between the guess and the place below it.
  simp only [hscaled]
  generalize hplace : (if ratio (a, b) < 2 ^ (guess + 52) then guess - 1 else guess) = e
  have hupper : ratio (a, b) < 2 ^ (e + 53) := by
    rw [← hplace]
    split
    · rwa [show guess - 1 + 53 = guess + 52 by omega]
    · exact hhigh
  have hlower : 2 ^ (e + 52) ≤ ratio (a, b) := by
    rw [← hplace]
    split
    · exact hlow.le
    · exact not_lt.mp ‹_›
  rcases le_total e (-1074) with he | he
  · rw [max_eq_right he]
    exact ⟨le_rfl, hupper.trans_le (zpow_le_zpow_right₀ (by norm_num) (by omega)), .inl rfl⟩
  · rw [max_eq_left he]
    exact ⟨he, hupper, .inr hlower⟩

/-- Only the value of a fraction decides what it is rounded to. -/
theorem nearest_mul {c : Nat} (hc : 0 < c) (hb : 0 < b) : nearest (c * a) (c * b) = nearest a b := by
  rcases Nat.eq_zero_or_pos a with rfl | ha
  · simp only [nearest, Nat.mul_zero, beq_self_eq_true, if_true]
  have hplace : lastPlace (c * a) (c * b) = lastPlace a b := by
    have hlast := isLastPlace_lastPlace (Nat.mul_pos hc ha) (Nat.mul_pos hc hb)
    rw [ratio_mul hc] at hlast
    exact hlast.unique (isLastPlace_lastPlace ha hb)
  have hne : ¬ (c * a == 0) = true := by simp [hc.ne', ha.ne']
  have hne' : ¬ (a == 0) = true := by simp [ha.ne']
  simp only [nearest, if_neg hne, if_neg hne', hplace, scaleTwo_mul, roundHalfEven_mul hc]

theorem word_nearest (ha : 0 < a) : word (nearest a b) =
    min ((lastPlace a b + 1074).toNat * exponentUnit +
      roundHalfEven (scaleTwo a b (-lastPlace a b)).1 (scaleTwo a b (-lastPlace a b)).2)
        (maxBiased * exponentUnit) := by
  rw [nearest, if_neg (by simp [ha.ne'])]
  exact word_ofBits (min_le_right _ _)

end

section

variable {a b : Nat} {e : ℤ}

theorem word_nearest_of_place (ha : 0 < a) (hb : 0 < b) (hplace : IsLastPlace (ratio (a, b)) e)
    {m : Nat} (hm : |ratio (a, b) - m * 2 ^ e| < 2 ^ e / 2) :
    word (nearest a b) = min ((e + 1074).toNat * exponentUnit + m) (maxBiased * exponentUnit) := by
  have he : lastPlace a b = e := (isLastPlace_lastPlace ha hb).unique hplace
  rw [word_nearest ha, he, roundHalfEven_scaleTwo hb hm]

/-- A fraction right below a power of two is rounded in steps that are half as long. -/
theorem word_nearest_below (ha : 0 < a) (hb : 0 < b) (he : -1074 < e)
    (hbelow : ratio (a, b) < 2 ^ 52 * 2 ^ e)
    (hnear : |ratio (a, b) - 2 ^ 52 * 2 ^ e| < 2 ^ e / 4) :
    word (nearest a b) =
      min ((e + 1074).toNat * exponentUnit + 2 ^ 52) (maxBiased * exponentUnit) := by
  have hu := two_zpow_pos (e - 1)
  have hpred := two_zpow_pred e
  have h52 : (2 : ℚ) ^ (e - 1 + 52) = 2 ^ 52 * 2 ^ (e - 1) := two_zpow_add (e - 1) 52
  have h53 : (2 : ℚ) ^ (e - 1 + 53) = 2 ^ 53 * 2 ^ (e - 1) := two_zpow_add (e - 1) 53
  rw [hpred] at hbelow hnear
  have hplace : IsLastPlace (ratio (a, b)) (e - 1) := by
    refine ⟨by omega, ?_, .inr ?_⟩
    · rw [h53]
      linarith
    · rw [h52]
      linarith [(abs_lt.mp hnear).1]
  have hvalue : ((2 ^ 53 : Nat) : ℚ) * 2 ^ (e - 1) = 2 ^ 52 * (2 * 2 ^ (e - 1)) := by
    push_cast
    ring
  have hhalf : |ratio (a, b) - (2 ^ 53 : Nat) * 2 ^ (e - 1)| < 2 ^ (e - 1) / 2 := by
    rw [hvalue]
    linarith
  have hbits : (e - 1 + 1074).toNat * exponentUnit + 2 ^ 53 =
      (e + 1074).toNat * exponentUnit + 2 ^ 52 := by
    have hsucc : (e + 1074).toNat = (e - 1 + 1074).toNat + 1 := by omega
    rw [hsucc, exponentUnit_eq]
    ring
  rw [word_nearest_of_place ha hb hplace hhalf, hbits]

end

/-- What holds of the parts of a finite double. -/
structure Parts.Standard (p : Parts) : Prop where
  least : -1074 ≤ p.exponent
  most : p.exponent ≤ 971
  significand_lt : p.significand < 2 ^ 53
  leading : p.exponent = -1074 ∨ 2 ^ 52 ≤ p.significand

section

variable {x : Float}

theorem parts_of_biased_zero (h : biasedExponent x = 0) :
    parts x = ⟨isNegative x, word x % exponentUnit, -1074⟩ := by
  simp only [parts, h]

theorem parts_of_biased_succ {n : Nat} (h : biasedExponent x = n + 1) :
    parts x = ⟨isNegative x, exponentUnit + word x % exponentUnit, (n : ℤ) - 1074⟩ := by
  have hexponent : ((n + 1 : Nat) : ℤ) - 1075 = n - 1074 := by omega
  simp only [parts, h, hexponent]

theorem unsignedWord_eq (x : Float) : unsignedWord x =
    ((parts x).exponent + 1074).toNat * exponentUnit + (parts x).significand := by
  have hsplit : biasedExponent x * exponentUnit + word x % exponentUnit = unsignedWord x :=
    div_mul_add_mod (word x)
  rw [← hsplit]
  cases h : biasedExponent x with
  | zero => simp [parts_of_biased_zero h]
  | succ n =>
    rw [parts_of_biased_succ h]
    simp only [sub_add_cancel, Int.toNat_natCast, Nat.succ_mul, Nat.add_assoc]

theorem biasedExponent_le (h : isFinite x = true) : biasedExponent x ≤ 2046 := by
  have hlt : biasedExponent x < 2 ^ 11 := biased_lt (word x)
  have hne : biasedExponent x ≠ maxBiased := by simpa [isFinite] using h
  rw [maxBiased] at hne
  omega

theorem standard_parts (h : isFinite x = true) : (parts x).Standard := by
  have hle := biasedExponent_le h
  have hfraction : word x % exponentUnit < exponentUnit := Nat.mod_lt _ (by decide)
  rw [exponentUnit_eq] at hfraction
  cases hbiased : biasedExponent x with
  | zero =>
    rw [parts_of_biased_zero hbiased]
    exact ⟨le_rfl, by simp, by simp only [exponentUnit_eq]; omega, .inl rfl⟩
  | succ n =>
    rw [parts_of_biased_succ hbiased]
    constructor <;> simp only [exponentUnit_eq] <;> omega

theorem ratio_magnitude (x : Float) :
    ratio (magnitude x) = (parts x).significand * 2 ^ (parts x).exponent := by
  rw [magnitude, ratio_scaleTwo]
  simp [ratio]

theorem magnitude_pos (x : Float) : 0 < (magnitude x).2 := scaleTwo_pos (by decide) _

/-- The word of a finite double is below those of the infinities. -/
theorem unsignedWord_le (h : isFinite x = true) : unsignedWord x ≤ maxBiased * exponentUnit := by
  have hle := biasedExponent_le h
  have hlt : unsignedWord x < (biasedExponent x + 1) * exponentUnit := by
    rw [Nat.mul_comm]
    exact Nat.lt_mul_div_succ _ (by decide)
  exact hlt.le.trans (Nat.mul_le_mul_right _ (Nat.succ_le_succ hle))

/-- A fraction is rounded to a positive double that is less than half a unit away from it, or less
than a quarter where the doubles below stand twice as close. -/
theorem word_nearest_eq (h : isFinite x = true) (hpos : 0 < (parts x).significand) {a b : Nat}
    (hb : 0 < b)
    (hhalf : |ratio (a, b) - ratio (magnitude x)| < 2 ^ (parts x).exponent / 2)
    (hquarter : (parts x).significand = 2 ^ 52 →
      |ratio (a, b) - ratio (magnitude x)| < 2 ^ (parts x).exponent / 4) :
    word (nearest a b) = unsignedWord x := by
  obtain ⟨hleast, -, hlt, hleading⟩ := standard_parts h
  have hle := unsignedWord_le h
  rw [unsignedWord_eq] at hle ⊢
  rw [ratio_magnitude] at hhalf hquarter
  generalize (parts x).exponent = e at *
  generalize (parts x).significand = m at *
  have hu : (0 : ℚ) < 2 ^ e := two_zpow_pos e
  have hone : (1 : ℚ) ≤ m := by exact_mod_cast hpos
  have hm : (m : ℚ) + 1 ≤ 2 ^ 53 := by exact_mod_cast hlt
  obtain ⟨hlow, hhigh⟩ := abs_lt.mp hhalf
  have ha : 0 < a := by
    rcases Nat.eq_zero_or_pos a with rfl | ha
    · simp only [ratio, Nat.cast_zero, zero_div] at hlow
      nlinarith
    · exact ha
  have h52 : (2 : ℚ) ^ (e + 52) = 2 ^ 52 * 2 ^ e := two_zpow_add e 52
  have h53 : (2 : ℚ) ^ (e + 53) = 2 ^ 53 * 2 ^ e := two_zpow_add e 53
  have hupper : ratio (a, b) < 2 ^ (e + 53) := by
    rw [h53]
    nlinarith
  by_cases hlower : e = -1074 ∨ 2 ^ (e + 52) ≤ ratio (a, b)
  · rw [word_nearest_of_place ha hb ⟨hleast, hupper, hlower⟩ hhalf, min_eq_left hle]
  · -- The fraction is below the least significand, so its last place is the one below.
    obtain ⟨hsubnormal, hbelow⟩ := not_or.mp hlower
    rw [h52, not_le] at hbelow
    have hm52 : m = 2 ^ 52 := by
      have hge : 2 ^ 52 ≤ m := hleading.resolve_left hsubnormal
      have hlt : (m : ℚ) < 2 ^ 52 + 1 := by nlinarith
      have hlt' : m < 2 ^ 52 + 1 := by exact_mod_cast hlt
      omega
    have hnear := hquarter hm52
    rw [hm52, Nat.cast_pow, Nat.cast_ofNat] at hnear
    rw [hm52] at hle ⊢
    rw [word_nearest_below ha hb (by omega) hbelow hnear, min_eq_left hle]

end

section

variable {n : Nat} (hpos : 0 < n) (h : n < 2 ^ 53)
include hpos h

theorem log2_le_52 : n.log2 ≤ 52 := Nat.lt_succ_iff.mp ((Nat.log2_lt hpos.ne').mpr h)

theorem mul_two_pow_lt : n * 2 ^ (52 - n.log2) < 2 * exponentUnit := by
  have hlog := log2_le_52 hpos h
  calc n * 2 ^ (52 - n.log2) < 2 ^ (n.log2 + 1) * 2 ^ (52 - n.log2) :=
        Nat.mul_lt_mul_of_pos_right Nat.lt_log2_self (Nat.two_pow_pos _)
    _ = 2 * exponentUnit := by
        rw [← pow_add, show n.log2 + 1 + (52 - n.log2) = 53 by omega]
        rfl

/-- An integer of at most 53 binary digits is a double, and is not rounded. -/
theorem word_ofNat :
    word (ofNat n) = (n.log2 + 1022) * exponentUnit + n * 2 ^ (52 - n.log2) := by
  have hlog := log2_le_52 hpos h
  have hsignificand := mul_two_pow_lt hpos h
  have hlow : 2 ^ n.log2 ≤ n := Nat.log2_self_le hpos.ne'
  have hhigh : n < 2 ^ (n.log2 + 1) := Nat.lt_log2_self
  generalize n.log2 = k at *
  have hratio : ratio (n, 1) = n := by simp [ratio]
  have hplace : IsLastPlace (ratio (n, 1)) (k - 52) := by
    refine ⟨by omega, ?_, .inr ?_⟩
    · rw [hratio, sub_add, show (52 : ℤ) - 53 = -1 by norm_num, sub_neg_eq_add]
      exact_mod_cast hhigh
    · rw [hratio, sub_add_cancel]
      exact_mod_cast hlow
  have hscale : (2 : ℚ) ^ (52 - k) * 2 ^ ((k : ℤ) - 52) = 1 := by
    rw [← zpow_natCast, ← zpow_add₀ (by norm_num), Nat.cast_sub hlog, Nat.cast_ofNat,
      sub_add_sub_cancel, sub_self, zpow_zero]
  have hexact : ratio (n, 1) - (n * 2 ^ (52 - k) : ℕ) * 2 ^ ((k : ℤ) - 52) = 0 := by
    push_cast
    rw [hratio, mul_assoc, hscale, mul_one, sub_self]
  have hword := word_nearest_of_place hpos Nat.one_pos hplace
    (by rw [hexact, abs_zero]; exact half_pos (two_zpow_pos _))
  have hbiased : ((k : ℤ) - 52 + 1074).toNat = k + 1022 := by omega
  rw [ofNat, hword, hbiased]
  refine min_eq_left ?_
  rw [maxBiased]
  nlinarith

end

theorem isFinite_ofNat {n : Nat} (h : n < 2 ^ 53) : isFinite (ofNat n) = true := by
  rcases Nat.eq_zero_or_pos n with rfl | hpos
  · decide +kernel
  · have hlog := log2_le_52 hpos h
    have hsignificand := mul_two_pow_lt hpos h
    have hlt : word (ofNat n) < maxBiased * exponentUnit := by
      rw [word_ofNat hpos h, maxBiased]
      nlinarith
    have hsign : word (ofNat n) < signBit := hlt.trans (by decide)
    rw [isFinite, biasedExponent, unsignedWord, Nat.mod_eq_of_lt hsign, bne_iff_ne]
    exact ((Nat.div_lt_iff_lt_mul (by decide)).mpr hlt).ne

end Spreadsheet.Number
