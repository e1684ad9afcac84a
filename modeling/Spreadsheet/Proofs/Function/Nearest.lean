import Mathlib.Order.Bounds.Basic
import Spreadsheet.Function.Lookup
import Spreadsheet.Proofs.Value.Order

/-! The nearest key. In ascending keys the search that stops at the first key above a value, or equal to
it, ends at the first key equal to the value, and where there is none at the last one below it. -/

namespace Spreadsheet.Function

/-- The positions of the keys that have the type of a value and are not above it. -/
def notAbove (v : Value) (keys : List Value) : Set Nat :=
  {i | ∃ key, keys[i]? = some key ∧ key.typeName = v.typeName ∧ (key.compare v).isLE}

/-- The positions of the keys that have the type of a value and are equal to it. -/
def equalTo (v : Value) (keys : List Value) : Set Nat :=
  {i | ∃ key, keys[i]? = some key ∧ key.typeName = v.typeName ∧ key.compare v = .eq}

/-- Whether the keys that have the type of a value are in ascending order. -/
def Ascending (v : Value) (keys : List Value) : Prop :=
  (keys.filter fun key => key.typeName == v.typeName).Pairwise fun a b => (a.compare b).isLE

/-- The first key equal to a value, or else the last one below it, if there is one. -/
def IsNearest (v : Value) (keys : List Value) : Option Nat → Prop
  | some i => IsLeast (equalTo v keys) i ∨ equalTo v keys = ∅ ∧ IsGreatest (notAbove v keys) i
  | none => notAbove v keys = ∅

variable {v key : Value} {keys : List Value} {i : Nat}

theorem equalTo_subset : equalTo v keys ⊆ notAbove v keys := by
  rintro i ⟨key, hkey, htype, horder⟩
  refine ⟨key, hkey, htype, ?_⟩
  rw [horder]
  rfl

theorem succ_mem_notAbove : i + 1 ∈ notAbove v (key :: keys) ↔ i ∈ notAbove v keys := Iff.rfl

theorem zero_mem_notAbove :
    0 ∈ notAbove v (key :: keys) ↔ key.typeName = v.typeName ∧ (key.compare v).isLE := by
  simp [notAbove]

theorem zero_mem_equalTo :
    0 ∈ equalTo v (key :: keys) ↔ key.typeName = v.typeName ∧ key.compare v = .eq := by
  simp [equalTo]

/-- Keys of the value's type behind one that is above the value are above it too. -/
theorem notAbove_eq_empty (hsorted : Ascending v (key :: keys)) (htype : key.typeName = v.typeName)
    (habove : ¬(key.compare v).isLE) : notAbove v (key :: keys) = ∅ := by
  rw [Ascending, List.filter_cons_of_pos (by simp [htype]), List.pairwise_cons] at hsorted
  refine Set.eq_empty_of_forall_notMem fun i hi => ?_
  cases i with
  | zero => exact habove (zero_mem_notAbove.mp hi).2
  | succ i =>
    obtain ⟨later, hlater, htype', horder⟩ := succ_mem_notAbove.mp hi
    have hle : (key.compare later).isLE :=
      hsorted.1 later (List.mem_filter.mpr ⟨List.mem_of_getElem? hlater, by simp [htype']⟩)
    exact habove (Value.isLE_compare_trans (Value.isBlank_eq (htype.trans htype'.symm))
      (Value.isBlank_eq htype') hle horder)

theorem Ascending.tail (h : Ascending v (key :: keys)) : Ascending v keys :=
  List.Pairwise.sublist ((List.sublist_cons_self key keys).filter _) h

theorem IsNearest.cons_some (h : IsNearest v keys (some i)) (hnot : 0 ∉ equalTo v (key :: keys)) :
    IsNearest v (key :: keys) (some (i + 1)) := by
  rcases h with ⟨hmem, hleast⟩ | ⟨hempty, hmem, hgreatest⟩
  · refine .inl ⟨hmem, fun j hj => ?_⟩
    cases j with
    | zero => exact absurd hj hnot
    | succ j => exact Nat.succ_le_succ (hleast hj)
  · refine .inr ⟨Set.eq_empty_of_forall_notMem fun j hj => ?_, hmem, fun j hj => ?_⟩
    · cases j with
      | zero => exact hnot hj
      | succ j => exact Set.eq_empty_iff_forall_notMem.mp hempty j hj
    · cases j with
      | zero => exact Nat.zero_le _
      | succ j => exact Nat.succ_le_succ (hgreatest hj)

theorem IsNearest.cons_none (h : IsNearest v keys none) (hnot : 0 ∉ notAbove v (key :: keys)) :
    IsNearest v (key :: keys) none := by
  refine Set.eq_empty_of_forall_notMem fun j hj => ?_
  cases j with
  | zero => exact hnot hj
  | succ j => exact Set.eq_empty_iff_forall_notMem.mp h j hj

/-- The only key not above the value, if it is not equal to it. -/
theorem isNearest_zero (h : IsNearest v keys none) (hmem : 0 ∈ notAbove v (key :: keys))
    (hnot : 0 ∉ equalTo v (key :: keys)) : IsNearest v (key :: keys) (some 0) := by
  have hbehind (j : Nat) : j + 1 ∉ notAbove v (key :: keys) :=
    Set.eq_empty_iff_forall_notMem.mp h j
  refine .inr ⟨Set.eq_empty_of_forall_notMem fun j hj => ?_, hmem, fun j hj => ?_⟩
  · cases j with
    | zero => exact hnot hj
    | succ j => exact hbehind j (equalTo_subset hj)
  · cases j with
    | zero => exact Nat.le_refl 0
    | succ j => exact absurd hj (hbehind j)

/-- The search keeps the nearest key of those it has gone through, unless there is one among the keys
that are left. -/
theorem findNearest_eq (hsorted : Ascending v keys) (best : Option Nat) (position : Nat) :
    ∃ found, IsNearest v keys found ∧ findNearest (· != .gt) v best position keys =
      (found.map (position + ·)).or best := by
  -- What is found among the keys behind the first one, if anything, takes the place of the best so far.
  induction keys generalizing best position with
  | nil => exact ⟨none, by simp [IsNearest, notAbove], rfl⟩
  | cons key keys ih =>
    have hshift (i : Nat) : position + 1 + i = position + (i + 1) := by omega
    rw [findNearest]
    by_cases htype : key.typeName = v.typeName
    · rw [if_neg (by simp [htype])]
      cases horder : key.compare v with
      | gt => exact ⟨none, notAbove_eq_empty hsorted htype (by simp [horder]), rfl⟩
      | eq =>
        have hmem : 0 ∈ equalTo v (key :: keys) := zero_mem_equalTo.mpr ⟨htype, horder⟩
        exact ⟨some 0, .inl ⟨hmem, fun _ _ => Nat.zero_le _⟩, rfl⟩
      | lt =>
        have hmem : 0 ∈ notAbove v (key :: keys) :=
          zero_mem_notAbove.mpr ⟨htype, by simp [horder]⟩
        have hnot : 0 ∉ equalTo v (key :: keys) := by simp [zero_mem_equalTo, horder]
        obtain ⟨found, hfound, heq⟩ := ih hsorted.tail (some position) (position + 1)
        cases found with
        | none => exact ⟨some 0, isNearest_zero hfound hmem hnot, heq⟩
        | some i =>
          rw [Option.map_some, hshift] at heq
          exact ⟨some (i + 1), hfound.cons_some hnot, heq⟩
    · rw [if_pos (by simpa using htype)]
      have hnot : 0 ∉ notAbove v (key :: keys) := fun h => htype (zero_mem_notAbove.mp h).1
      obtain ⟨found, hfound, heq⟩ := ih hsorted.tail best (position + 1)
      cases found with
      | none => exact ⟨none, hfound.cons_none hnot, heq⟩
      | some i =>
        rw [Option.map_some, hshift] at heq
        exact ⟨some (i + 1), hfound.cons_some fun h => hnot (equalTo_subset h), heq⟩

theorem isNearest_findPosition (hsorted : Ascending v keys) :
    IsNearest v keys (findPosition .nextSmaller v keys) := by
  obtain ⟨found, hfound, heq⟩ := findNearest_eq hsorted none 0
  rw [findPosition, heq]
  simpa using hfound

theorem Ascending.isLE (hsorted : Ascending v keys) {j : Nat} (hij : i < j) {a b : Value}
    (ha : keys[i]? = some a) (hb : keys[j]? = some b) (hatype : a.typeName = v.typeName)
    (hbtype : b.typeName = v.typeName) : (a.compare b).isLE := by
  obtain ⟨hi, rfl⟩ := List.getElem?_eq_some_iff.mp ha
  obtain ⟨hj, rfl⟩ := List.getElem?_eq_some_iff.mp hb
  rw [Ascending, List.pairwise_filter, List.pairwise_iff_getElem] at hsorted
  exact hsorted i j hi hj hij (by simp [hatype]) (by simp [hbtype])

/-- Where no two keys are equal to the value, the nearest key is the last one that is not above it. -/
theorem IsNearest.isGreatest (hsorted : Ascending v keys) (hunique : (equalTo v keys).Subsingleton)
    (h : IsNearest v keys (some i)) : IsGreatest (notAbove v keys) i := by
  obtain ⟨hmem, -⟩ | ⟨-, hgreatest⟩ := h
  · refine ⟨equalTo_subset hmem, fun j hj => ?_⟩
    by_contra hlt
    obtain ⟨a, ha, hatype, haorder⟩ := hmem
    obtain ⟨b, hb, hbtype, hborder⟩ := hj
    have hva : (v.compare a).isLE := by
      rw [← Value.swap_compare a, haorder]
      rfl
    have hab : (a.compare b).isLE := hsorted.isLE (Nat.lt_of_not_le hlt) ha hb hatype hbtype
    have hvb : (v.compare b).isLE :=
      Value.isLE_compare_trans (Value.isBlank_eq hatype.symm)
        (Value.isBlank_eq (hatype.trans hbtype.symm)) hva hab
    have hequal : b.compare v = .eq := by
      rw [← Value.swap_compare b] at hvb
      revert hborder hvb
      cases b.compare v <;> decide
    have hsame : j = i := hunique ⟨b, hb, hbtype, hequal⟩ ⟨a, ha, hatype, haorder⟩
    omega
  · exact hgreatest

theorem IsNearest.isGreatest_iff (hsorted : Ascending v keys) (h : IsNearest v keys (some i)) :
    IsGreatest (notAbove v keys) i ↔ (equalTo v keys).Subsingleton := by
  refine ⟨fun hgreatest => ?_, fun hunique => h.isGreatest hsorted hunique⟩
  obtain ⟨-, hleast⟩ | ⟨hempty, -⟩ := h
  · have hsame (j : Nat) (hj : j ∈ equalTo v keys) : j = i :=
      Nat.le_antisymm (hgreatest.2 (equalTo_subset hj)) (hleast hj)
    exact fun j hj k hk => (hsame j hj).trans (hsame k hk).symm
  · rw [hempty]
    exact Set.subsingleton_empty

end Spreadsheet.Function
