import Spreadsheet.Proofs.Function.Collected

/-! Order statistics. The number at a place of some numbers in order is one of them, with fewer numbers
below it than the place says and as many that are not above it. It does not depend on the order in which
the numbers were given. -/

namespace Spreadsheet.Function

open Number (isFinite totalKey)

/-- Numbers in ascending order, in which negative zero is below zero. -/
def InOrder (xs : List Float) : Prop := xs.Pairwise fun x y => totalKey x ≤ totalKey y

section

variable {xs ys : List Float}

theorem sorted_perm (xs : List Float) : (sorted xs).Perm xs := List.mergeSort_perm xs _

theorem length_sorted (xs : List Float) : (sorted xs).length = xs.length := (sorted_perm xs).length_eq

theorem inOrder_sorted (xs : List Float) : InOrder (sorted xs) := by
  have hle : (sorted xs).Pairwise fun x y => decide (totalKey x ≤ totalKey y) = true := by
    refine List.pairwise_mergeSort (fun x y z hxy hyz => ?_) (fun x y => ?_) xs
    · rw [decide_eq_true_eq] at hxy hyz ⊢
      exact hxy.trans hyz
    · rw [Bool.or_eq_true, decide_eq_true_eq, decide_eq_true_eq]
      exact Int.le_total _ _
  exact hle.imp of_decide_eq_true

theorem InOrder.totalKey_le (h : InOrder xs) {i j : Nat} (hi : i < xs.length) (hj : j < xs.length)
    (hij : i ≤ j) : totalKey xs[i] ≤ totalKey xs[j] := by
  rcases hij.eq_or_lt with rfl | hlt
  · exact Int.le_refl _
  · exact List.pairwise_iff_getElem.mp h i j hi hj hlt

/-- Numbers in order are determined by which numbers they are. -/
theorem sorted_eq_of_perm (h : xs.Perm ys) : sorted xs = sorted ys := by
  refine List.Perm.eq_of_pairwise (fun x y _ _ hxy hyx => Number.eq_of_totalKey_eq ?_)
    (inOrder_sorted xs) (inOrder_sorted ys) ?_
  · exact Int.le_antisymm hxy hyx
  · exact (sorted_perm xs).trans (h.trans (sorted_perm ys).symm)

end

/-! ### Places in order -/

/-- Whether a number stands at a place of some numbers in order, the places counted from 1. -/
structure IsOrderStatistic (xs : List Float) (k : Nat) (v : Float) : Prop where
  mem : v ∈ xs
  below : xs.countP (fun y => totalKey y < totalKey v) < k
  notAbove : k ≤ xs.countP (fun y => totalKey y ≤ totalKey v)

namespace IsOrderStatistic

variable {xs ys : List Float} {k : Nat} {v : Float}

theorem perm (h : IsOrderStatistic xs k v) (hperm : xs.Perm ys) : IsOrderStatistic ys k v :=
  ⟨hperm.mem_iff.mp h.mem, hperm.countP_eq _ ▸ h.below, hperm.countP_eq _ ▸ h.notAbove⟩

theorem getElem (h : InOrder xs) {i : Nat} (hi : i < xs.length) :
    IsOrderStatistic xs (i + 1) xs[i] := by
  refine ⟨List.getElem_mem hi, ?_, ?_⟩
  · -- No number from the place on is below the number there.
    have hdrop : (xs.drop i).countP (fun y => totalKey y < totalKey xs[i]) = 0 := by
      refine List.countP_eq_zero.mpr fun y hy => ?_
      obtain ⟨j, hj, rfl⟩ := List.mem_drop_iff_getElem.mp hy
      rw [decide_eq_true_eq]
      exact Int.not_lt.mpr (h.totalKey_le hi _ (by omega))
    have htake : (xs.take i).countP (fun y => totalKey y < totalKey xs[i]) ≤ i :=
      List.countP_le_length.trans (List.length_take_le i xs)
    calc xs.countP (fun y => totalKey y < totalKey xs[i])
      _ = (xs.take i ++ xs.drop i).countP (fun y => totalKey y < totalKey xs[i]) := by
        rw [List.take_append_drop]
      _ < i + 1 := by
        rw [List.countP_append, hdrop]
        omega
  · -- No number up to the place is above the number there.
    have htake : (xs.take (i + 1)).countP (fun y => totalKey y ≤ totalKey xs[i]) = i + 1 := by
      have hlength : (xs.take (i + 1)).length = i + 1 := List.length_take_of_le hi
      refine (List.countP_eq_length.mpr fun y hy => ?_).trans hlength
      obtain ⟨j, hj, rfl⟩ := List.mem_take_iff_getElem.mp hy
      exact decide_eq_true (h.totalKey_le _ hi (by omega))
    exact htake.symm.le.trans (List.take_sublist _ _).countP_le

theorem getElem_sorted (xs : List Float) {i : Nat} (hi : i < (sorted xs).length) :
    IsOrderStatistic xs (i + 1) (sorted xs)[i] :=
  (getElem (inOrder_sorted xs) hi).perm (sorted_perm xs)

variable (h : IsOrderStatistic xs k v) (hfinite : ∀ x ∈ xs, isFinite x = true)
include h hfinite

theorem countP_lt : xs.countP (· < v) < k := by
  refine Nat.lt_of_le_of_lt (List.countP_mono_left fun y hy hlt => ?_) h.below
  rw [decide_eq_true_eq] at hlt ⊢
  exact Number.totalKey_lt_of_lt (hfinite y hy) (hfinite v h.mem) hlt

theorem le_countP : k ≤ xs.countP fun y => !decide (v < y) := by
  refine h.notAbove.trans (List.countP_mono_left fun y hy hle => ?_)
  rw [decide_eq_true_eq] at hle
  rw [Bool.not_eq_true', decide_eq_false_iff_not]
  exact fun hlt =>
    Int.not_lt.mpr hle (Number.totalKey_lt_of_lt (hfinite v h.mem) (hfinite y hy) hlt)

end IsOrderStatistic

/-! ### The functions -/

theorem numbersIn_perm {vs ws others : List Value} (h : ws.Perm (vs ++ others))
    (hothers : ∀ v ∈ others, v.number? = none) : (numbersIn ws).Perm (numbersIn vs) := by
  have hnone : numbersIn others = [] := List.filterMap_eq_nil_iff.mpr hothers
  have hsplit : numbersIn (vs ++ others) = numbersIn vs ++ numbersIn others := List.filterMap_append
  rw [hnone, List.append_nil] at hsplit
  exact hsplit ▸ h.filterMap _

section

variable {rows : List (List Value)} (hvalid : ∀ v ∈ rows.flatten, v.isError = false)
include hvalid

theorem collectNumbers_singleton_array :
    collectNumbers .numbers [.array rows] = .ok (numbersIn rows.flatten) := by
  have hcollect := collectArgument_array_eq_ok_iff.mpr ⟨hvalid, rfl⟩
  rw [collectNumbers, List.mapM_cons, hcollect]
  exact congrArg Except.ok (List.append_nil _)

theorem kth_eq {arrange : List Float → List Float} {w : Value} {x y : Float} {k : Nat}
    (hw : w.toNumber = .ok x) (hk : Number.ceilToInt x = k) (hpos : 1 ≤ k)
    (hy : (arrange (sorted (numbersIn rows.flatten)))[k - 1]? = some y) :
    kth arrange [.array rows, w] = .ok (.number y) := by
  have harg : numberArg [.array rows, w] 1 = .ok x := hw
  have hone : (1 : Int) ≤ k := by omega
  rw [kth, List.take_succ_cons, List.take_zero, collectNumbers_singleton_array hvalid, harg]
  change (if 1 ≤ Number.ceilToInt x then _ else _) = _
  rw [hk, if_pos hone, Int.toNat_natCast, hy]
  rfl

theorem small_eq {w : Value} {x : Float} {k : Nat} (hw : w.toNumber = .ok x)
    (hk : Number.ceilToInt x = k) (hpos : 1 ≤ k)
    (hlength : k - 1 < (sorted (numbersIn rows.flatten)).length) :
    small [.array rows, w] = .ok (.number (sorted (numbersIn rows.flatten))[k - 1]) :=
  kth_eq hvalid hw hk hpos (List.getElem?_eq_getElem hlength)

/-- A place counted from the greatest number on. -/
theorem large_eq_small {w w' : Value} {x x' : Float} {k k' : Nat} (hw : w.toNumber = .ok x)
    (hk : Number.ceilToInt x = k) (hw' : w'.toNumber = .ok x') (hk' : Number.ceilToInt x' = k')
    (hpos : 1 ≤ k) (hpos' : 1 ≤ k') (hsum : k + k' = (numbersIn rows.flatten).length + 1) :
    large [.array rows, w] = small [.array rows, w'] := by
  have hlength := length_sorted (numbersIn rows.flatten)
  rw [small_eq hvalid hw' hk' hpos' (by omega)]
  refine kth_eq hvalid hw hk hpos ?_
  rw [List.getElem?_reverse (by omega), List.getElem?_eq_some_iff]
  refine ⟨by omega, ?_⟩
  congr 1
  omega

/-- The order in which the numbers stand in an array does not matter, nor does what else stands there. -/
theorem kth_eq_of_perm {rows' : List (List Value)} {others : List Value}
    (arrange : List Float → List Float) (hperm : rows'.flatten.Perm (rows.flatten ++ others))
    (hothers : ∀ v ∈ others, v.number? = none ∧ v.isError = false) (w : Value) :
    kth arrange [.array rows', w] = kth arrange [.array rows, w] := by
  have hvalid' : ∀ v ∈ rows'.flatten, v.isError = false := by
    intro v hv
    rcases List.mem_append.mp (hperm.mem_iff.mp hv) with hv | hv
    · exact hvalid v hv
    · exact (hothers v hv).2
  have hnumbers := numbersIn_perm hperm fun v hv => (hothers v hv).1
  rw [kth, kth, List.take_succ_cons, List.take_succ_cons, List.take_zero,
    collectNumbers_singleton_array hvalid, collectNumbers_singleton_array hvalid']
  change (numberArg [_, w] 1 >>= _) = (numberArg [_, w] 1 >>= _)
  rw [sorted_eq_of_perm hnumbers]
  rfl

end

end Spreadsheet.Function
