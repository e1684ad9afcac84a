import Spreadsheet.Function.Aggregate
import Spreadsheet.Proofs.Number.Order

/-! The most frequent number. The search keeps the first of the numbers that occur most often among those
it has seen, so that at the end it has the first of all. -/

namespace Spreadsheet.Function

open Number (isFinite)

/-- Whether a number occurs more than once and is the first of those that occur most often. -/
structure IsMode (xs : List Float) (x : Float) : Prop where
  repeated : 2 ≤ xs.count x
  most : ∀ y ∈ xs, xs.count y ≤ xs.count x
  first : ∃ front back, xs = front ++ x :: back ∧ ∀ y ∈ front, xs.count y < xs.count x

theorem IsMode.mem {xs : List Float} {x : Float} (h : IsMode xs x) : x ∈ xs := by
  obtain ⟨front, back, hsplit, -⟩ := h.first
  simp [hsplit]

/-! ### Counts -/

section

variable {all : List Float} (hfinite : ∀ x ∈ all, isFinite x = true) {x y : Float}
include hfinite

theorem count_eq_of_beq (hx : x ∈ all) (hy : y ∈ all) (h : (x == y) = true) :
    all.count x = all.count y := by
  have hkeys := (Number.beq_iff (hfinite x hx) (hfinite y hy)).mp h
  refine List.countP_congr fun z hz => ?_
  rw [Number.beq_iff (hfinite z hz) (hfinite x hx), Number.beq_iff (hfinite z hz) (hfinite y hy), hkeys]

/-- A number that was not seen before is counted from where it stands. -/
theorem count_of_not_contains {seen xs : List Float} (hall : all = seen.reverse ++ x :: xs)
    (h : seen.contains x = false) : all.count x = (x :: xs).count x := by
  have hnone : seen.reverse.count x = 0 := by
    refine List.countP_eq_zero.mpr fun y hy => ?_
    rw [List.mem_reverse] at hy
    have hyall : y ∈ all := by simp [hall, hy]
    have hxall : x ∈ all := by simp [hall]
    rw [Number.beq_iff (hfinite y hyall) (hfinite x hxall), eq_comm,
      ← Number.beq_iff (hfinite x hxall) (hfinite y hyall)]
    intro hxy
    rw [List.contains_eq_any_beq, List.any_eq_false] at h
    exact h y hy hxy
  rw [hall, List.count_append, hnone, Nat.zero_add]

end

/-! ### The search -/

/-- The count that a number must exceed to become the best one. -/
def bar : Option (Float × Nat) → Nat
  | none => 1
  | some (_, n) => n

/-- What the search knows of the numbers that it has seen. -/
structure Leads (all seen : List Float) (best : Option (Float × Nat)) : Prop where
  bound : ∀ y ∈ seen, all.count y ≤ bar best
  first : ∀ x n, best = some (x, n) → n = all.count x ∧ 2 ≤ n ∧
    ∃ front back, all = front ++ x :: back ∧ ∀ y ∈ front, all.count y < n

namespace Leads

variable {all seen xs : List Float} {best : Option (Float × Nat)} {x : Float}

theorem nil : Leads all [] none := ⟨nofun, nofun⟩

variable (h : Leads all seen best)
include h

theorem one_le_bar : 1 ≤ bar best := by
  cases hbest : best with
  | none => exact Nat.le_refl 1
  | some p =>
    obtain ⟨-, htwo, -⟩ := h.first p.1 p.2 hbest
    exact Nat.le_of_succ_le htwo

theorem better_iff (n : Nat) : (1 < n && best.all (·.2 < n)) = true ↔ bar best < n := by
  have hone := h.one_le_bar
  cases best with
  | none => simp [bar]
  | some p =>
    simp only [bar, Option.all_some, Bool.and_eq_true, decide_eq_true_eq] at hone ⊢
    omega

/-- A number that does not occur more often than the best one changes nothing. -/
theorem skip (hx : all.count x ≤ bar best) : Leads all (x :: seen) best :=
  ⟨List.forall_mem_cons.mpr ⟨hx, h.bound⟩, h.first⟩

/-- A number that occurs more often than all before it is the first to do so. -/
theorem take (hall : all = seen.reverse ++ x :: xs) (hx : bar best < all.count x) :
    Leads all (x :: seen) (some (x, all.count x)) := by
  have hseen (y : Float) (hy : y ∈ seen) : all.count y < all.count x :=
    Nat.lt_of_le_of_lt (h.bound y hy) hx
  have htwo : 2 ≤ all.count x := Nat.lt_of_le_of_lt h.one_le_bar hx
  refine ⟨List.forall_mem_cons.mpr ⟨Nat.le_refl _, fun y hy => (hseen y hy).le⟩, ?_⟩
  rintro _ _ ⟨⟩
  exact ⟨rfl, htwo, seen.reverse, xs, hall, fun y hy => hseen y (List.mem_reverse.mp hy)⟩

theorem skip_of_contains (hfinite : ∀ x ∈ all, isFinite x = true)
    (hall : all = seen.reverse ++ x :: xs) (hx : seen.contains x = true) :
    Leads all (x :: seen) best := by
  rw [List.contains_eq_any_beq, List.any_eq_true] at hx
  obtain ⟨y, hy, hxy⟩ := hx
  have hsame : all.count x = all.count y :=
    count_eq_of_beq hfinite (by simp [hall]) (by simp [hall, hy]) hxy
  exact h.skip (hsame.trans_le (h.bound y hy))

end Leads

theorem leads_mostFrequent {all : List Float} (hfinite : ∀ x ∈ all, isFinite x = true)
    {seen xs : List Float} {best : Option (Float × Nat)} (hall : all = seen.reverse ++ xs)
    (h : Leads all seen best) : Leads all all.reverse (mostFrequent seen best xs) := by
  induction xs generalizing seen best with
  | nil =>
    rw [List.append_nil] at hall
    rwa [hall, List.reverse_reverse, ← hall]
  | cons x xs ih =>
    have hnext : all = (x :: seen).reverse ++ xs := by
      rw [hall, List.reverse_cons, List.append_assoc, List.singleton_append]
    rw [mostFrequent]
    cases hcontains : seen.contains x with
    | true => exact ih hnext (h.skip_of_contains hfinite hall hcontains)
    | false =>
      refine ih hnext ?_
      rw [← count_of_not_contains hfinite hall hcontains]
      by_cases hbetter : bar best < all.count x
      · rw [if_pos ((h.better_iff _).mpr hbetter)]
        exact h.take hall hbetter
      · rw [if_neg ((h.better_iff _).not.mpr hbetter)]
        exact h.skip (Nat.le_of_not_lt hbetter)

/-- There is a mode unless no number occurs twice. -/
theorem mode_eq {xs : List Float} (hfinite : ∀ x ∈ xs, isFinite x = true) :
    (mode xs = .error (.notAvailable "no value repeats") ∧ ∀ x ∈ xs, xs.count x ≤ 1) ∨
      ∃ x, mode xs = .ok x ∧ IsMode xs x := by
  have hleads : Leads xs xs.reverse (mostFrequent [] none xs) :=
    leads_mostFrequent hfinite rfl .nil
  have hbound (x : Float) (hx : x ∈ xs) : xs.count x ≤ bar (mostFrequent [] none xs) :=
    hleads.bound x (List.mem_reverse.mpr hx)
  rw [mode]
  cases hbest : mostFrequent [] none xs with
  | none =>
    rw [hbest] at hbound
    exact .inl ⟨rfl, hbound⟩
  | some p =>
    obtain ⟨x, n⟩ := p
    obtain ⟨rfl, htwo, hfirst⟩ := hleads.first x n hbest
    rw [hbest] at hbound
    exact .inr ⟨x, rfl, htwo, hbound, hfirst⟩

end Spreadsheet.Function
