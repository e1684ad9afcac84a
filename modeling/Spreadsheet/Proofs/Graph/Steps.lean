import Mathlib
import Spreadsheet.Proofs.Graph.Dependency

/-! How many steps a walk along dependencies can take. Each step looks at a dependency or leaves a
cell, and a cell is entered once. -/

namespace Spreadsheet.Graph

/-- An invariant of the steps holds when they end, and they do when each of them lowers a measure that
the fuel is enough for. -/
theorem runUntil_spec {σ : Type} {isFinal : σ → Bool} {step : σ → σ} {P : σ → Prop}
    (measure : σ → Nat) (hkeep : ∀ s, P s → P (step s))
    (hlower : ∀ s, isFinal s = false → measure (step s) < measure s) {fuel : Nat} {s : σ} (hs : P s)
    (hfuel : measure s ≤ fuel) :
    P (runUntil isFinal step fuel s) ∧ isFinal (runUntil isFinal step fuel s) = true := by
  induction fuel generalizing s with
  | zero =>
    refine ⟨hs, ?_⟩
    rw [runUntil]
    by_contra hfinal
    have hlt := hlower s (Bool.eq_false_of_not_eq_true hfinal)
    omega
  | succ fuel ih =>
    rw [runUntil]
    split
    · exact ⟨hs, ‹_›⟩
    · have hlt := hlower s (Bool.eq_false_of_not_eq_true ‹_›)
      exact ih (hkeep s hs) (by omega)

variable {g : Graph} {p q : Position} {entered entered' : Position → Bool} {qs : List Position}
  {path : List (List Position)}

/-- The steps that are left to be taken: two for each dependency of a cell still to be entered, by
which it is looked at and the cell that it leads to is left, and so on along the path, of whose cells
the pending precedents are given. -/
def stepsLeft (g : Graph) (entered : Position → Bool) (path : List (List Position)) : Nat :=
  ((g.readers.filter (!entered ·)).map fun p => 2 * (g.precedents p).length).sum +
    (path.map fun pending => 2 * pending.length + 1).sum

theorem stepsLeft_cons : g.stepsLeft entered (qs :: path) =
    g.stepsLeft entered path + 2 * qs.length + 1 := by
  rw [stepsLeft, stepsLeft, List.map_cons, List.sum_cons]
  omega

theorem sum_filter_add_le {ps : List Position} {P Q : Position → Bool} (w : Position → Nat)
    (hQP : ∀ p, Q p → P p) (hp : p ∈ ps) (hP : P p) (hQ : ¬Q p) :
    w p + ((ps.filter Q).map w).sum ≤ ((ps.filter P).map w).sum := by
  have hmem : p ∈ ps.filter P := List.mem_filter.mpr ⟨hp, hP⟩
  have hnot : p ∉ ps.filter Q := fun h => hQ (List.mem_filter.mp h).2
  have hsub : (ps.filter Q).Sublist ((ps.filter P).erase p) := by
    rw [← List.erase_of_not_mem hnot]
    exact (List.monotone_filter_right ps hQP).erase p
  have hperm := ((List.perm_cons_erase hmem).map w).sum_eq
  rw [hperm, List.map_cons, List.sum_cons]
  exact Nat.add_le_add_left ((hsub.map w).sum_le_sum fun _ _ => Nat.zero_le _) _

/-- Entering a cell adds no more steps than were set aside for it. -/
theorem stepsLeft_enter (hentered : ∀ q, entered q → entered' q) (hp : entered p = false)
    (hp' : entered' p) :
    g.stepsLeft entered' (g.precedents p :: path) ≤ g.stepsLeft entered path + 1 := by
  have hkeep (q : Position) (hq : !entered' q) : !entered q := by
    rw [Bool.not_eq_true'] at hq ⊢
    exact Bool.eq_false_of_not_eq_true fun h => Bool.false_ne_true (hq ▸ hentered q h)
  rw [stepsLeft_cons, stepsLeft, stepsLeft]
  by_cases hmem : p ∈ g.readers
  · have hsum := sum_filter_add_le (fun p => 2 * (g.precedents p).length) hkeep hmem (by simp [hp])
      (by simp [hp'])
    omega
  · have hnil : (g.precedents p).length = 0 := by
      rw [List.length_eq_zero_iff]
      exact by_contra fun hne => hmem (mem_readers hne)
    have hsum := ((List.monotone_filter_right g.readers hkeep).map
      fun p => 2 * (g.precedents p).length).sum_le_sum fun _ _ => Nat.zero_le _
    omega

theorem walkSteps_eq :
    g.walkSteps = 1 + (g.readers.map fun p => 2 * (g.precedents p).length).sum := by
  have key (cells : List Position) : ∀ n, cells.foldl (fun n p => n + 2 * (g.precedents p).length) n =
      n + (cells.map fun p => 2 * (g.precedents p).length).sum := by
    induction cells with
    | nil => exact fun n => rfl
    | cons p cells ih =>
      intro n
      rw [List.foldl_cons, ih, List.map_cons, List.sum_cons, Nat.add_assoc]
  exact key g.readers 1

theorem stepsLeft_le_walkSteps (hentered : ∀ q, entered q → entered' q) (hp : entered p = false)
    (hp' : entered' p) : g.stepsLeft entered' [g.precedents p] ≤ g.walkSteps := by
  have hsub := ((List.filter_sublist (p := fun p => !entered p) (l := g.readers)).map
    fun p => 2 * (g.precedents p).length).sum_le_sum fun _ _ => Nat.zero_le _
  have hstart : g.stepsLeft entered [] =
      ((g.readers.filter (!entered ·)).map fun p => 2 * (g.precedents p).length).sum := rfl
  have henter : g.stepsLeft entered' [g.precedents p] ≤ g.stepsLeft entered [] + 1 :=
    stepsLeft_enter hentered hp hp'
  rw [walkSteps_eq]
  omega

end Spreadsheet.Graph
