import Mathlib.Data.List.Basic
import Spreadsheet.Position

/-! Positions in reading order, row by row and each row from left to right. -/

namespace Spreadsheet.Position

variable {p q r : Position} {ps : List Position}

theorem isBefore_iff : p.isBefore q = true ↔ p.row < q.row ∨ p.row = q.row ∧ p.col < q.col := by
  simp [isBefore]

theorem isBefore_trans (h : p.isBefore q = true) (h' : q.isBefore r = true) :
    p.isBefore r = true := by
  rw [isBefore_iff] at h h' ⊢
  omega

theorem isBefore_of_ne (h : p ≠ q) (h' : ¬p.isBefore q = true) : q.isBefore p = true := by
  rw [isBefore_iff] at h' ⊢
  have hne : ¬(p.row = q.row ∧ p.col = q.col) := fun heq => h (by
    cases p
    cases q
    simpa using heq)
  omega

theorem nodup_of_pairwise (h : ps.Pairwise (isBefore · · = true)) : ps.Nodup := by
  refine h.imp fun hbefore heq => ?_
  subst heq
  rw [isBefore_iff] at hbefore
  omega

/-- Rows from top to bottom, each of them from left to right, are in reading order. -/
theorem pairwise_flatMap_rows {α : Type} {as : List α} {index : α → Nat} {cells : α → List Position}
    (hrows : as.Pairwise (index · < index ·)) (hrow : ∀ a ∈ as, ∀ p ∈ cells a, p.row = index a)
    (hcols : ∀ a ∈ as, (cells a).Pairwise (·.col < ·.col)) :
    (as.flatMap cells).Pairwise (isBefore · · = true) := by
  rw [List.pairwise_flatMap]
  constructor
  · intro a ha
    refine (hcols a ha).imp_of_mem fun hp hq hlt => isBefore_iff.mpr (.inr ⟨?_, hlt⟩)
    rw [hrow a ha _ hp, hrow a ha _ hq]
  · refine hrows.imp_of_mem fun {a b} ha hb hlt p hp q hq => isBefore_iff.mpr (.inl ?_)
    rwa [hrow a ha p hp, hrow b hb q hq]

end Spreadsheet.Position
