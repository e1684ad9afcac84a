import Spreadsheet.Proofs.Function.Occurrences

/-! The first occurrence of a text in another one, and slices of a text. Positions in a text are counted
from 1. -/

namespace Spreadsheet

namespace Text

/-- The characters of a text from a position on, at most as many as `count`. -/
def charsAt (cs : List Char) (position count : Nat) : List Char :=
  (cs.drop (position - 1)).take count

/-- The positions from `start` on at which a text stands in another one. -/
def occurrencesFrom (what cs : List Char) (start : Nat) : Set Nat :=
  {p | start ≤ p ∧ charsAt cs p what.length = what}

variable {what cs : List Char}

theorem charsAt_eq_iff (i : Nat) : charsAt cs (i + 1) what.length = what ↔ what <+: cs.drop i := by
  rw [charsAt, Nat.add_sub_cancel, List.prefix_iff_eq_take, eq_comm]

/-- A text without characters stands at every position. -/
theorem isLeast_occurrencesFrom_nil (cs : List Char) (start : Nat) :
    IsLeast (occurrencesFrom [] cs start) start :=
  ⟨⟨le_rfl, List.take_zero⟩, fun _ hp => hp.1⟩

/-- An occurrence lies within the text. -/
theorem le_of_isLeast_occurrencesFrom {start p : Nat} (hstart : start ≤ cs.length + 1)
    (h : IsLeast (occurrencesFrom what cs start) p) : p ≤ cs.length + 1 := by
  rcases eq_or_ne what [] with rfl | hne
  · rwa [h.unique (isLeast_occurrencesFrom_nil cs start)]
  · by_contra hbeyond
    have hrest : cs.drop (p - 1) = [] := List.drop_eq_nil_of_le (by omega)
    have hempty := h.1.2
    rw [charsAt, hrest, List.take_nil] at hempty
    exact hne hempty.symm

end Text

namespace Function

open Text

variable {what cs : List Char}

theorem findText_of_some {position i : Nat} (h : findText what position cs = some i) :
    ∃ k, i = position + k ∧ what <+: cs.drop k ∧ ∀ j < k, ¬what <+: cs.drop j := by
  fun_induction findText what position cs with
  | case1 position hempty =>
    obtain rfl := Option.some.inj h
    rw [List.isEmpty_iff.mp hempty]
    exact ⟨0, rfl, List.nil_prefix, nofun⟩
  | case2 => cases h
  | case3 position c cs hhere =>
    obtain rfl := Option.some.inj h
    exact ⟨0, rfl, List.isPrefixOf_iff_prefix.mp hhere, nofun⟩
  | case4 position c cs hnot ih =>
    obtain ⟨k, rfl, hbegins, hbefore⟩ := ih h
    refine ⟨k + 1, by omega, hbegins, fun j hj => ?_⟩
    cases j with
    | zero => exact List.isPrefixOf_iff_prefix.not.mp hnot
    | succ j => exact hbefore j (Nat.lt_of_succ_lt_succ hj)

theorem findText_of_none {position : Nat} (h : findText what position cs = none) (k : Nat) :
    ¬what <+: cs.drop k := by
  fun_induction findText what position cs generalizing k with
  | case1 => cases h
  | case2 position hne =>
    rw [List.drop_nil, List.prefix_nil]
    exact fun hnil => hne (List.isEmpty_iff.mpr hnil)
  | case3 => cases h
  | case4 position c cs hnot ih =>
    cases k with
    | zero => exact List.isPrefixOf_iff_prefix.not.mp hnot
    | succ k => exact ih h k

/-- A search from an offset on finds the first position behind it at which the text stands. -/
theorem isLeast_findText {start i : Nat} (h : findText what start (cs.drop start) = some i) :
    IsLeast (occurrencesFrom what cs (start + 1)) (i + 1) := by
  obtain ⟨k, rfl, hbegins, hbefore⟩ := findText_of_some h
  rw [List.drop_drop] at hbegins
  refine ⟨⟨by omega, (charsAt_eq_iff _).mpr hbegins⟩, fun p ⟨hp, hstands⟩ => ?_⟩
  by_contra hlt
  obtain ⟨j, rfl⟩ : ∃ j, p = start + j + 1 := ⟨p - (start + 1), by omega⟩
  refine hbefore j (by omega) ?_
  rw [List.drop_drop]
  exact (charsAt_eq_iff _).mp hstands

theorem occurrencesFrom_eq_empty {start : Nat} (h : findText what start (cs.drop start) = none) :
    occurrencesFrom what cs (start + 1) = ∅ := by
  refine Set.eq_empty_of_forall_notMem fun p ⟨hp, hstands⟩ => ?_
  obtain ⟨j, rfl⟩ : ∃ j, p = start + j + 1 := ⟨p - (start + 1), by omega⟩
  refine findText_of_none h j ?_
  rw [List.drop_drop]
  exact (charsAt_eq_iff _).mp hstands

/-! ### Arguments -/

theorem optInt_eq {args : List Value} {index : Nat} {v : Value} {n : Int} (h : args[index]? = some v)
    (hn : v.toInteger = .ok n) {default : Float}
    (hblank : v = .blank → Number.truncToInt default = n) : optInt args index default = .ok n := by
  rw [optInt, optNumber, optional, h]
  cases v with
  | blank => exact congrArg Except.ok (hblank rfl)
  | _ => exact hn

/-- A position is never a blank, which would count as 0. -/
theorem startArg_eq {args : List Value} {index : Nat} {v : Value} {p : Nat}
    (h : args[index]? = some v) (hv : v.toInteger = .ok p) (hp : 1 ≤ p) :
    startArg args index = .ok (p - 1) := by
  have hlow : ¬(p : Int) < 1 := by omega
  rw [startArg, optInt_eq h hv fun hblank => absurd hblank (Value.ne_blank_of_toInteger hv (by omega))]
  exact if_neg hlow

theorem lengthArg_eq {args : List Value} {index : Nat} {v : Value} {n : Nat}
    (h : args[index]? = some v) (hv : v.toInteger = .ok n) {default : Float}
    (hblank : v = .blank → Number.truncToInt default = n) : lengthArg args index default = .ok n := by
  have hlow : ¬(n : Int) < 0 := by omega
  rw [lengthArg, optInt_eq h hv hblank]
  simp only [bind, Except.bind, if_neg hlow]
  rfl

/-- A blank is as good as the number 0 where that is the default. -/
theorem lengthArg_zero_eq {args : List Value} {index : Nat} {v : Value} {n : Nat}
    (h : args[index]? = some v) (hv : v.toInteger = .ok n) : lengthArg args index 0 = .ok n := by
  refine lengthArg_eq h hv fun hblank => ?_
  rw [hblank] at hv
  exact Except.ok.inj hv

/-! ### The functions -/

section

variable {a b c : Value} {what text : String} {p n : Nat}

theorem length_eq (ha : a.toText = .ok text) : length [a] = .ok (count text.length) := by
  rw [length, charsArg_eq rfl ha]
  rfl

theorem left_eq (ha : a.toText = .ok text) (hb : b.toInteger = .ok n) (hblank : b ≠ .blank) :
    left [a, b] = .ok (textOf (text.toList.take n)) := by
  rw [left, charsArg_eq rfl ha, lengthArg_eq rfl hb (absurd · hblank)]
  rfl

theorem mid_eq (ha : a.toText = .ok text) (hb : b.toInteger = .ok p) (hp : 1 ≤ p)
    (hc : c.toInteger = .ok n) : mid [a, b, c] = .ok (textOf (charsAt text.toList p n)) := by
  rw [mid, charsArg_eq rfl ha, startArg_eq rfl hb hp, lengthArg_zero_eq rfl hc]
  rfl

theorem replace_eq {e : Value} {new : String} (ha : a.toText = .ok text) (hb : b.toInteger = .ok p)
    (hp : 1 ≤ p) (hc : c.toInteger = .ok n) (he : e.toText = .ok new) : replace [a, b, c, e] =
      .ok (textOf (text.toList.take (p - 1) ++ new.toList ++ text.toList.drop (p - 1 + n))) := by
  rw [replace, charsArg_eq rfl ha, startArg_eq rfl hb hp, lengthArg_zero_eq rfl hc, charsArg_eq rfl he]
  rfl

section

variable (ha : a.toText = .ok what) (hb : b.toText = .ok text) (hc : c.toInteger = .ok p) (hp : 1 ≤ p)
include ha hb hc hp

theorem findArgs_eq : findArgs [a, b, c] =
    if text.length + 1 < p then .error (.value "start_num is beyond the text")
    else .ok (what, text, p - 1) := by
  have hbeyond : text.length < p - 1 ↔ text.length + 1 < p := by omega
  rw [findArgs, textArg_of_toText rfl ha, textArg_of_toText rfl hb, startArg_eq rfl hc hp]
  simp only [bind, Except.bind, hbeyond]
  rfl

theorem find_beyond (h : text.length + 1 < p) :
    find [a, b, c] = .error (.value "start_num is beyond the text") := by
  rw [find, findArgs_eq ha hb hc hp, if_pos h]
  rfl

/-- Either there is no occurrence from the position on, or the first one is found. -/
theorem find_within (h : p ≤ text.length + 1) :
    (occurrencesFrom what.toList text.toList p = ∅ ∧
      find [a, b, c] = .error (.value s!"'{what}' not found")) ∨
    ∃ i, IsLeast (occurrencesFrom what.toList text.toList p) i ∧ find [a, b, c] = .ok (count i) := by
  obtain ⟨start, rfl⟩ : ∃ start, p = start + 1 := ⟨p - 1, by omega⟩
  have hfind : find [a, b, c] =
      positionOf what (findText what.toList start (text.toList.drop start)) := by
    rw [find, findArgs_eq ha hb hc hp, if_neg (by omega)]
    rfl
  rw [hfind]
  cases hfound : findText what.toList start (text.toList.drop start) with
  | none => exact .inl ⟨occurrencesFrom_eq_empty hfound, rfl⟩
  | some i => exact .inr ⟨i + 1, isLeast_findText hfound, rfl⟩

end

end

end Function

end Spreadsheet
