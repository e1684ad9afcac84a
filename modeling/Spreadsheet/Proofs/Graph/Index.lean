import Spreadsheet.Graph.Index
import Mathlib.Tactic.SplitIfs
import Mathlib.Tactic.Tauto

/-! Index and rectangle. What the index gives for a range are the cells in it that the range covers,
because the search between two bounds misses nothing where columns and rows ascend. -/

namespace Spreadsheet.CellIndex

variable {columns : CellIndex} {p q : Position}

/-- The index has a cell. -/
def Holds (columns : CellIndex) (p : Position) : Prop :=
  ∃ rows, (p.col, rows) ∈ columns ∧ p.row ∈ rows

/-- Columns ascend, and so do the rows of each. -/
structure Ascending (columns : CellIndex) : Prop where
  cols : columns.Pairwise (·.1 < ·.1)
  rows : ∀ c ∈ columns, c.2.Pairwise (· < ·)

theorem mem_insertRow {row r : Nat} {rows : List Nat} :
    r ∈ insertRow row rows ↔ r = row ∨ r ∈ rows := by
  induction rows with
  | nil => simp [insertRow]
  | cons s rows ih =>
    rw [insertRow]
    split_ifs with hlt heq
    · exact List.mem_cons
    · rw [heq, List.mem_cons, or_self_left]
    · rw [List.mem_cons, ih, List.mem_cons]
      exact or_left_comm

theorem pairwise_insertRow {row : Nat} {rows : List Nat} (h : rows.Pairwise (· < ·)) :
    (insertRow row rows).Pairwise (· < ·) := by
  induction rows with
  | nil => exact List.pairwise_singleton _ row
  | cons s rows ih =>
    obtain ⟨hfirst, hrest⟩ := List.pairwise_cons.mp h
    rw [insertRow]
    split_ifs with hlt heq
    · exact List.pairwise_cons.mpr ⟨List.forall_mem_cons.mpr
        ⟨hlt, fun r hr => Nat.lt_trans hlt (hfirst r hr)⟩, h⟩
    · exact h
    · refine List.pairwise_cons.mpr ⟨fun r hr => ?_, ih hrest⟩
      rcases mem_insertRow.mp hr with rfl | hr
      · omega
      · exact hfirst r hr

theorem holds_cons {col : Nat} {rows : List Nat} :
    Holds ((col, rows) :: columns) p ↔ (p.col = col ∧ p.row ∈ rows) ∨ columns.Holds p := by
  constructor
  · rintro ⟨rows', hmem, hrow⟩
    rcases List.mem_cons.mp hmem with heq | hmem
    · obtain ⟨hcol, rfl⟩ := Prod.mk.inj heq
      exact .inl ⟨hcol, hrow⟩
    · exact .inr ⟨rows', hmem, hrow⟩
  · rintro (⟨rfl, hrow⟩ | ⟨rows', hmem, hrow⟩)
    · exact ⟨rows, List.mem_cons_self, hrow⟩
    · exact ⟨rows', List.mem_cons_of_mem _ hmem, hrow⟩

theorem eq_iff_col_row : q = p ↔ q.col = p.col ∧ q.row = p.row := by
  cases p
  cases q
  simp [and_comm]

theorem holds_insert : (columns.insert p).Holds q ↔ q = p ∨ columns.Holds q := by
  induction columns with
  | nil => simp [insert, holds_cons, eq_iff_col_row]
  | cons c columns ih =>
    obtain ⟨col, rows⟩ := c
    rw [insert]
    split_ifs with hlt heq
    · rw [holds_cons, List.mem_singleton, ← eq_iff_col_row]
    · rw [holds_cons, holds_cons, mem_insertRow, eq_iff_col_row, heq]
      tauto
    · rw [holds_cons, ih, holds_cons]
      exact or_left_comm

/-- The columns of an index with one more cell. -/
theorem fst_mem_insert {c : Nat × List Nat} (h : c ∈ columns.insert p) :
    c.1 = p.col ∨ ∃ d ∈ columns, d.1 = c.1 := by
  induction columns with
  | nil => exact .inl (congrArg Prod.fst (List.mem_singleton.mp h))
  | cons d columns ih =>
    rw [insert] at h
    split_ifs at h with hlt heq
    · rcases List.mem_cons.mp h with rfl | h
      · exact .inl rfl
      · exact .inr ⟨c, h, rfl⟩
    · rcases List.mem_cons.mp h with rfl | h
      · exact .inl heq.symm
      · exact .inr ⟨c, List.mem_cons_of_mem _ h, rfl⟩
    · rcases List.mem_cons.mp h with rfl | h
      · exact .inr ⟨_, List.mem_cons_self, rfl⟩
      · refine (ih h).imp_right fun ⟨e, he, hcol⟩ => ?_
        exact ⟨e, List.mem_cons_of_mem _ he, hcol⟩

theorem Ascending.insert (h : columns.Ascending) : (columns.insert p).Ascending := by
  obtain ⟨hcolumns, hrows⟩ := h
  induction columns with
  | nil =>
    exact ⟨List.pairwise_singleton _ _,
      List.forall_mem_singleton.mpr (List.pairwise_singleton _ p.row)⟩
  | cons c columns ih =>
    obtain ⟨col, rows⟩ := c
    obtain ⟨hfirst, hrest⟩ := List.pairwise_cons.mp hcolumns
    obtain ⟨hrow, hothers⟩ := List.forall_mem_cons.mp hrows
    rw [CellIndex.insert]
    split_ifs with hlt heq
    · refine ⟨List.pairwise_cons.mpr ⟨List.forall_mem_cons.mpr
        ⟨hlt, fun d hd => Nat.lt_trans hlt (hfirst d hd)⟩, hcolumns⟩, ?_⟩
      exact List.forall_mem_cons.mpr ⟨List.pairwise_singleton _ p.row, hrows⟩
    · exact ⟨List.pairwise_cons.mpr ⟨hfirst, hrest⟩,
        List.forall_mem_cons.mpr ⟨pairwise_insertRow hrow, hothers⟩⟩
    · -- The columns behind this one may now begin with the new one, which is to its right as well.
      obtain ⟨hcolumns', hrows'⟩ := ih hrest hothers
      refine ⟨List.pairwise_cons.mpr ⟨fun d hd => ?_, hcolumns'⟩,
        List.forall_mem_cons.mpr ⟨hrow, hrows'⟩⟩
      rcases fst_mem_insert hd with hcol | ⟨e, he, hcol⟩
      · omega
      · exact hcol ▸ hfirst e he

theorem ascending_ofPositions (ps : List Position) : (ofPositions ps).Ascending := by
  induction ps with
  | nil => exact ⟨List.Pairwise.nil, nofun⟩
  | cons p ps ih => exact ih.insert

theorem holds_ofPositions {ps : List Position} : (ofPositions ps).Holds q ↔ q ∈ ps := by
  induction ps with
  | nil => simp [ofPositions, Holds]
  | cons p ps ih => rw [ofPositions, List.foldr_cons, holds_insert, ← ofPositions, ih, List.mem_cons]

section

variable {α : Type} {key : α → Nat} {items : List α} {x : α} (h : items.Pairwise (key · < key ·))
include h

theorem mem_dropWhile_of_ascending (low : Nat) :
    x ∈ items.dropWhile (key · < low) ↔ x ∈ items ∧ low ≤ key x := by
  induction items with
  | nil => simp
  | cons y items ih =>
    obtain ⟨hfirst, hrest⟩ := List.pairwise_cons.mp h
    by_cases hlow : key y < low
    · rw [List.dropWhile_cons_of_pos (by simpa using hlow), ih hrest, List.mem_cons]
      refine and_congr_left fun hx => (or_iff_right ?_).symm
      rintro rfl
      omega
    · rw [List.dropWhile_cons_of_neg (by simpa using hlow)]
      refine (and_iff_left_of_imp fun hx => ?_).symm
      rcases List.mem_cons.mp hx with rfl | hx
      · exact Nat.le_of_not_lt hlow
      · have hlt := hfirst x hx
        omega

theorem mem_takeWhile_of_ascending (high : Nat) :
    x ∈ items.takeWhile (key · ≤ high) ↔ x ∈ items ∧ key x ≤ high := by
  induction items with
  | nil => simp
  | cons y items ih =>
    obtain ⟨hfirst, hrest⟩ := List.pairwise_cons.mp h
    by_cases hhigh : key y ≤ high
    · rw [List.takeWhile_cons_of_pos (by simpa using hhigh), List.mem_cons, ih hrest, List.mem_cons,
        or_and_right]
      refine or_congr_left (and_iff_left_of_imp ?_).symm
      rintro rfl
      exact hhigh
    · rw [List.takeWhile_cons_of_neg (by simpa using hhigh)]
      refine iff_of_false List.not_mem_nil ?_
      rintro ⟨hx, hle⟩
      rcases List.mem_cons.mp hx with rfl | hx
      · exact hhigh hle
      · have hlt := hfirst x hx
        omega

/-- Where keys ascend, all that is left out at either end is out of bounds. -/
theorem mem_between (low high : Nat) :
    x ∈ between key low high items ↔ x ∈ items ∧ low ≤ key x ∧ key x ≤ high := by
  have hrest : (items.dropWhile (key · < low)).Pairwise (key · < key ·) :=
    h.sublist (List.dropWhile_sublist _)
  rw [between, mem_takeWhile_of_ascending hrest, mem_dropWhile_of_ascending h, and_assoc]

end

/-- The index gives those of its cells that the range covers. -/
theorem mem_within (h : columns.Ascending) {r : Range} :
    p ∈ columns.within r ↔ columns.Holds p ∧ r.covers p = true := by
  have hrows {c : Nat × List Nat} (hc : c ∈ columns) : c.2.Pairwise (id · < id ·) := h.rows c hc
  simp only [within, List.mem_flatMap, List.mem_map, Prod.exists, mem_between h.cols, Holds,
    Range.covers, Bool.and_eq_true, decide_eq_true_eq]
  constructor
  · rintro ⟨col, rows, ⟨hmem, hleft, hright⟩, row, hrow, rfl⟩
    obtain ⟨hrow, htop, hbottom⟩ := (mem_between (hrows hmem) _ _).mp hrow
    exact ⟨⟨rows, hmem, hrow⟩, ⟨⟨htop, hbottom⟩, hleft⟩, hright⟩
  · rintro ⟨⟨rows, hmem, hrow⟩, ⟨⟨htop, hbottom⟩, hleft⟩, hright⟩
    exact ⟨p.col, rows, ⟨hmem, hleft, hright⟩, p.row,
      (mem_between (hrows hmem) _ _).mpr ⟨hrow, htop, hbottom⟩, rfl⟩

end Spreadsheet.CellIndex
