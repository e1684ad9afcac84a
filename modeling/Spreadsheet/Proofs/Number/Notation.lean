import Spreadsheet.Number.Reading
import Spreadsheet.Proofs.Number.Shortest
import Spreadsheet.Proofs.Text.Prefix

/-! Decimal notation of numbers. The digits of a natural number and the text of a finite double read
back as what they were written for. -/

namespace Spreadsheet.Number

open Text

theorem ofDigits_eq (cs : List Char) : ofDigits cs = Nat.ofDigitChars 10 cs 0 := by
  rw [Nat.ofDigitChars_eq_foldl]
  rfl

@[simp]
theorem ofDigits_digits (n : Nat) : ofDigits (digits n) = n := by
  rw [ofDigits_eq, digits, Nat.ofDigitChars_ten_toDigits]

theorem digits_ne_nil (n : Nat) : digits n ≠ [] := Nat.toDigits_ne_nil

theorem isDigit_of_mem_digits {n : Nat} {c : Char} (h : c ∈ digits n) : c.isDigit = true :=
  Nat.isDigit_of_mem_toDigits (by decide) (by decide) h

/-- Digits, and perhaps a point with further digits behind it. -/
def IsPositional (cs : List Char) : Prop :=
  ∃ whole fraction : List Char, (∀ c ∈ whole, c.isDigit = true) ∧ whole ≠ [] ∧
    (∀ c ∈ fraction, c.isDigit = true) ∧ (cs = whole ∨ cs = whole ++ '.' :: fraction)

theorem IsPositional.exists_cons {cs : List Char} (h : IsPositional cs) :
    ∃ c ds, cs = c :: ds ∧ c.isDigit = true := by
  obtain ⟨whole, fraction, hwhole, hne, _, hcs⟩ := h
  obtain ⟨c, ds, rfl⟩ := List.exists_cons_of_ne_nil hne
  have hc := hwhole c List.mem_cons_self
  rcases hcs with rfl | rfl
  · exact ⟨c, ds, rfl, hc⟩
  · exact ⟨c, ds ++ '.' :: fraction, rfl, hc⟩

theorem IsPositional.isDigit_or_eq {cs : List Char} (h : IsPositional cs) {c : Char}
    (hc : c ∈ cs) : c.isDigit = true ∨ c = '.' := by
  obtain ⟨whole, fraction, hwhole, _, hfraction, rfl | rfl⟩ := h
  · exact .inl (hwhole c hc)
  · rcases List.mem_append.mp hc with hc | hc
    · exact .inl (hwhole c hc)
    · rcases List.mem_cons.mp hc with rfl | hc
      · exact .inr rfl
      · exact .inl (hfraction c hc)

theorem isDigit_of_mem_replicate {n : Nat} {c : Char} (h : c ∈ List.replicate n '0') :
    c.isDigit = true := by
  obtain ⟨-, rfl⟩ := List.mem_replicate.mp h
  rfl

section

variable {whole fraction : List Char}

theorem splitSign_of_isDigit {c : Char} (cs : List Char) (hc : c.isDigit = true) :
    splitSign (c :: cs) = (false, c :: cs) := by
  unfold splitSign
  split
  · simp_all
  · simp_all
  · rfl

theorem readDecimal?_digits (h : ∀ c ∈ whole, c.isDigit = true) (hne : whole ≠ []) :
    readDecimal? whole = some (Decimal.toFloat ⟨ofDigits whole, 0⟩) := by
  have htake : whole.takeWhile Char.isDigit = whole := by
    simpa using takeWhile_append_of_stopsAt h stopsAt_nil
  have hdrop : whole.dropWhile Char.isDigit = [] := by
    simpa using dropWhile_append_of_stopsAt h stopsAt_nil
  obtain ⟨c, cs, rfl⟩ := List.exists_cons_of_ne_nil hne
  simp only [readDecimal?, splitSign_of_isDigit cs (h c List.mem_cons_self), htake, hdrop]
  simp [readExponent?, withSign]

theorem readDecimal?_point (h : ∀ c ∈ whole, c.isDigit = true) (hne : whole ≠ [])
    (hfraction : ∀ c ∈ fraction, c.isDigit = true) :
    readDecimal? (whole ++ '.' :: fraction) =
      some (Decimal.toFloat ⟨ofDigits (whole ++ fraction), -fraction.length⟩) := by
  have hpoint : StopsAt Char.isDigit ('.' :: fraction) := stopsAt_cons rfl
  have htake := takeWhile_append_of_stopsAt h hpoint
  have hdrop := dropWhile_append_of_stopsAt h hpoint
  have htake' : fraction.takeWhile Char.isDigit = fraction := by
    simpa using takeWhile_append_of_stopsAt hfraction stopsAt_nil
  have hdrop' : fraction.dropWhile Char.isDigit = [] := by
    simpa using dropWhile_append_of_stopsAt hfraction stopsAt_nil
  obtain ⟨c, cs, rfl⟩ := List.exists_cons_of_ne_nil hne
  rw [List.cons_append] at htake hdrop ⊢
  simp only [readDecimal?, splitSign_of_isDigit _ (h c List.mem_cons_self), htake, hdrop]
  simp [readExponent?, withSign, htake', hdrop']

end

theorem ofDigits_append_zeros (cs : List Char) (n : Nat) :
    ofDigits (cs ++ List.replicate n '0') = 10 ^ n * ofDigits cs := by
  rw [ofDigits_eq, ofDigits_eq, Nat.ofDigitChars_append, Nat.ofDigitChars_replicate_zero]

theorem ofDigits_zeros_append (n : Nat) (cs : List Char) :
    ofDigits (List.replicate n '0' ++ cs) = ofDigits cs := by
  rw [ofDigits_eq, ofDigits_eq, Nat.ofDigitChars_append, Nat.ofDigitChars_replicate_zero, mul_zero]

theorem toFloat_mul_ten_pow {n : Nat} (hn : 0 < n) (k : Nat) (e : ℤ) :
    Decimal.toFloat ⟨10 ^ k * n, e⟩ = Decimal.toFloat ⟨n, e + k⟩ := by
  induction k generalizing e with
  | zero => simp
  | succ k ih =>
    rw [pow_succ', mul_assoc, toFloat_mul_ten (by positivity), ih]
    congr 2
    push_cast
    ring

namespace Decimal

variable {d : Decimal}

theorem positional_of_zero (h : d.significand = 0) : d.positional = ['0'] := by
  simp [positional, h]

theorem positional_whole (h : d.significand ≠ 0) (he : 0 ≤ d.exponent) :
    d.positional = digits d.significand ++ List.replicate d.exponent.toNat '0' := by
  simp [positional, h, he]

theorem positional_point (h : d.significand ≠ 0) (he : ¬ 0 ≤ d.exponent) (hsize : 0 < d.size) :
    d.positional = (digits d.significand).take d.size.toNat ++
      '.' :: (digits d.significand).drop d.size.toNat := by
  rw [size] at hsize
  simp [positional, size, h, he, hsize]

theorem positional_small (h : d.significand ≠ 0) (he : ¬ 0 ≤ d.exponent) (hsize : ¬ 0 < d.size) :
    d.positional =
      ['0'] ++ '.' :: (List.replicate (-d.size).toNat '0' ++ digits d.significand) := by
  rw [size] at hsize
  simp [positional, size, h, he, hsize]

theorem isPositional_positional (d : Decimal) : IsPositional d.positional := by
  have hdigits (c : Char) (hc : c ∈ digits d.significand) : c.isDigit = true :=
    isDigit_of_mem_digits hc
  by_cases h : d.significand = 0
  · rw [positional_of_zero h]
    exact ⟨['0'], [], by simp, by simp, by simp, .inl rfl⟩
  by_cases he : 0 ≤ d.exponent
  · rw [positional_whole h he]
    refine ⟨_, [], fun c hc => ?_, by simp [digits_ne_nil], by simp, .inl rfl⟩
    exact (List.mem_append.mp hc).elim (hdigits c) isDigit_of_mem_replicate
  by_cases hsize : 0 < d.size
  · -- The point falls among the digits, so both parts are digits of the significand.
    rw [positional_point h he hsize]
    refine ⟨_, _, fun c hc => hdigits c (List.mem_of_mem_take hc), ?_,
      fun c hc => hdigits c (List.mem_of_mem_drop hc), .inr rfl⟩
    simp [List.take_eq_nil_iff, digits_ne_nil, hsize]
  · rw [positional_small h he hsize]
    refine ⟨_, _, by simp, by simp, fun c hc => ?_, .inr rfl⟩
    exact (List.mem_append.mp hc).elim isDigit_of_mem_replicate (hdigits c)

/-- Positional notation is read as the double that the decimal fraction is read as. -/
theorem readDecimal?_positional (d : Decimal) : readDecimal? d.positional = some d.toFloat := by
  have hdigits (c : Char) (hc : c ∈ digits d.significand) : c.isDigit = true :=
    isDigit_of_mem_digits hc
  by_cases h : d.significand = 0
  · have hzero : ofDigits ['0'] = 0 := rfl
    rw [positional_of_zero h, readDecimal?_digits (by simp) (by simp), hzero]
    simp [toFloat, h]
  by_cases he : 0 ≤ d.exponent
  · have hall (c : Char) (hc : c ∈ digits d.significand ++ List.replicate d.exponent.toNat '0') :
        c.isDigit = true := (List.mem_append.mp hc).elim (hdigits c) isDigit_of_mem_replicate
    rw [positional_whole h he, readDecimal?_digits hall (by simp [digits_ne_nil]),
      ofDigits_append_zeros, ofDigits_digits, toFloat_mul_ten_pow (Nat.pos_of_ne_zero h), zero_add,
      Int.toNat_of_nonneg he]
  have hlength : 0 < (digits d.significand).length := List.length_pos_iff.mpr (digits_ne_nil _)
  by_cases hsize : 0 < d.size
  · -- The reader takes the exponent from the number of digits after the point.
    have hexponent : -(((digits d.significand).length - d.size.toNat : Nat) : ℤ) = d.exponent := by
      rw [size] at hsize ⊢
      omega
    rw [positional_point h he hsize, readDecimal?_point
      (fun c hc => hdigits c (List.mem_of_mem_take hc))
      (by simp [List.take_eq_nil_iff, digits_ne_nil, hsize])
      (fun c hc => hdigits c (List.mem_of_mem_drop hc)), List.take_append_drop, ofDigits_digits,
      List.length_drop, hexponent]
  · have hexponent : -(((-d.size).toNat + (digits d.significand).length : Nat) : ℤ) =
        d.exponent := by
      rw [size] at hsize ⊢
      omega
    have hall (c : Char) (hc : c ∈ List.replicate (-d.size).toNat '0' ++ digits d.significand) :
        c.isDigit = true := (List.mem_append.mp hc).elim isDigit_of_mem_replicate (hdigits c)
    have hleading : ofDigits (['0'] ++ (List.replicate (-d.size).toNat '0' ++
        digits d.significand)) = d.significand := by
      rw [← ofDigits_digits d.significand, ofDigits_digits]
      exact (ofDigits_zeros_append 1 _).trans
        ((ofDigits_zeros_append _ _).trans (ofDigits_digits _))
    rw [positional_small h he hsize, readDecimal?_point (by simp) (by simp) hall, hleading,
      List.length_append, List.length_replicate, hexponent]

end Decimal

theorem isNegative_of_word_le {x : Float} (h : word x ≤ maxBiased * exponentUnit) :
    isNegative x = false := by
  have hlt : maxBiased * exponentUnit < signBit := by decide
  rw [isNegative, decide_eq_false_iff_not]
  omega

theorem isNegative_zero : isNegative 0 = false := by
  rw [isNegative, word_zero]
  rfl

theorem isNegative_nearest (a b : Nat) : isNegative (nearest a b) = false := by
  rcases Nat.eq_zero_or_pos a with rfl | ha
  · exact isNegative_zero
  · refine isNegative_of_word_le ?_
    rw [word_nearest ha]
    exact min_le_right _ _

theorem isNegative_toFloat (d : Decimal) : isNegative d.toFloat = false := by
  rw [Decimal.toFloat]
  split
  · exact isNegative_zero
  split
  · exact isNegative_of_word_le (word_ofBits le_rfl).le
  · exact isNegative_nearest _ _

section

variable {x : Float}

theorem toList_display (h : isFinite x = true) : (display x).toList =
    (if isNegative x then ['-'] else []) ++ (shortest .larger x).positional := by
  rw [display, isNaN_eq_false h]
  cases isNegative x <;> simp [h]

theorem display_positional (h : isFinite x = true) (hpos : isNegative x = false) :
    IsPositional (display x).toList := by
  rw [toList_display h, hpos]
  exact (shortest .larger x).isPositional_positional

theorem readDecimal?_display (h : isFinite x = true) (hpos : isNegative x = false) :
    readDecimal? (display x).toList = some x := by
  have hback := readsBack_shortest .larger h
  rw [Decimal.readsBack, beq_iff_eq] at hback
  have hword : word x = unsignedWord x := by simp [word_eq x, hpos]
  have hx : (shortest .larger x).toFloat = x := ext_word (hback.trans hword.symm)
  rw [toList_display h, hpos, if_neg (by simp), List.nil_append, Decimal.readDecimal?_positional, hx]

theorem display_of_isNegative (h : isFinite x = true) (hneg : isNegative x = true) :
    (display x).toList = '-' :: (display (-x)).toList := by
  have hpos : isNegative (-x) = false := by simp [isNegative_neg h, hneg]
  rw [toList_display h, toList_display (isFinite_neg h), hneg, hpos,
    shortest_congr .larger (unsignedWord_neg h)]
  rfl

end

/-- A number read from digits and a point has no sign. -/
theorem isNegative_of_readDecimal? {cs : List Char} {x : Float}
    (h : readDecimal? cs = some x) (hcs : ∀ c ∈ cs.head?, c ≠ '-') : isNegative x = false := by
  have hsign : (splitSign cs).1 = false := by
    unfold splitSign
    split
    · exact absurd rfl (hcs '-' rfl)
    · rfl
    · rfl
  simp only [readDecimal?, hsign, withSign, if_false, Bool.false_eq_true] at h
  -- The part behind a point is looked for twice, so both branches of it occur.
  split at h <;> split at h
  · cases h
  · obtain ⟨e, -, rfl⟩ := Option.map_eq_some_iff.mp h
    exact isNegative_toFloat _
  · cases h
  · obtain ⟨e, -, rfl⟩ := Option.map_eq_some_iff.mp h
    exact isNegative_toFloat _

end Spreadsheet.Number
