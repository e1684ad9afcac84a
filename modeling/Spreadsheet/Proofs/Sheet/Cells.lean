import Spreadsheet.Sheet
import Spreadsheet.Proofs.Position
import Mathlib.Tactic.ByContra
import Mathlib.Tactic.SplitIfs

/-! Sheets as maps from positions to cells. A write changes one position; written where a cell is
stored, it leaves the lengths of all rows as they are, and these with the cells make up the sheet.
All cells but blanks lie in the used range, and the stored ones are listed in reading order. -/

namespace Spreadsheet.Sheet

variable {s t : Sheet} {row col i j : Nat} {c : Cell}

/-- The cells of a row, of which there are none behind the last row. -/
def rowAt (s : Sheet) (row : Nat) : Array Cell := s.rows[row]?.getD #[]

def rowSizes (s : Sheet) : Array Nat := s.rows.map Array.size

/-- Whether a sheet stores a cell at a position. -/
def Stores (s : Sheet) (p : Position) : Prop := p.col < (s.rowAt p.row).size

instance (s : Sheet) (p : Position) : Decidable (s.Stores p) := inferInstanceAs (Decidable (_ < _))

theorem cellAt_eq_rowAt (s : Sheet) (row col : Nat) :
    s.cellAt row col = (s.rowAt row)[col]?.getD .blank := by
  rw [cellAt, rowAt]
  cases s.rows[row]? <;> simp

theorem cellAt_of_not_stores {p : Position} (h : ¬s.Stores p) :
    s.cellAt p.row p.col = .blank := by
  rw [cellAt_eq_rowAt, Array.getElem?_eq_none (Nat.le_of_not_lt h), Option.getD_none]

theorem Stores.row_lt {p : Position} (h : s.Stores p) : p.row < s.rows.size := by
  by_contra hge
  rw [Stores, rowAt, Array.getElem?_eq_none (Nat.le_of_not_lt hge)] at h
  simp at h

theorem rowCount_eq (s : Sheet) : s.rowCount = s.rowSizes.size := by
  simp [rowCount, rowSizes]

theorem colCount_eq (s : Sheet) : s.colCount = s.rowSizes.foldl max 0 := by
  rw [colCount, rowSizes, Array.foldl_map]

theorem foldl_max_le_iff {n k : Nat} {ns : List Nat} :
    ns.foldl max n ≤ k ↔ n ≤ k ∧ ∀ m ∈ ns, m ≤ k := by
  induction ns generalizing n with
  | nil => simp
  | cons m ns ih => rw [List.foldl_cons, ih, Nat.max_le, List.forall_mem_cons, and_assoc]

theorem colCount_le_iff {n : Nat} : s.colCount ≤ n ↔ ∀ row, (s.rowAt row).size ≤ n := by
  rw [colCount_eq, ← Array.foldl_toList, foldl_max_le_iff, rowSizes, Array.toList_map]
  constructor
  · rintro ⟨-, h⟩ row
    rw [rowAt]
    cases hrow : s.rows[row]? with
    | none => exact Nat.zero_le n
    | some cells =>
      exact h _ (List.mem_map_of_mem (Array.mem_toList_iff.mpr (Array.mem_of_getElem? hrow)))
  · refine fun h => ⟨Nat.zero_le n, fun m hm => ?_⟩
    obtain ⟨cells, hcells, rfl⟩ := List.mem_map.mp hm
    obtain ⟨row, hrow⟩ := Array.mem_iff_getElem?.mp (Array.mem_toList_iff.mp hcells)
    have hat : s.rowAt row = cells := by rw [rowAt, hrow, Option.getD_some]
    exact hat ▸ h row

theorem size_rowAt_le (s : Sheet) (row : Nat) : (s.rowAt row).size ≤ s.colCount :=
  colCount_le_iff.mp (Nat.le_refl _) row

/-- A column is in use if and only if some row has a cell stored in it. -/
theorem lt_colCount_iff : j < s.colCount ↔ ∃ i, s.Stores ⟨i, j⟩ := by
  rw [← Nat.not_le, colCount_le_iff, not_forall]
  simp only [Nat.not_le, Stores]

/-- Behind the rows and columns in use every cell is blank. -/
theorem cellAt_of_outside (h : s.rowCount ≤ row ∨ s.colCount ≤ col) : s.cellAt row col = .blank := by
  refine cellAt_of_not_stores (p := ⟨row, col⟩) fun hstores => ?_
  have hrow : row < s.rowCount := hstores.row_lt
  have hcol : col < s.colCount := Nat.lt_of_lt_of_le hstores (s.size_rowAt_le row)
  omega

theorem any_usedRange? (s : Sheet) (a : Address) : s.usedRange?.any (·.contains a) =
    (decide (a.row < s.rowCount) && decide (a.col < s.colCount)) := by
  rw [usedRange?]
  split
  · have houtside : ¬(a.row < s.rowCount ∧ a.col < s.colCount) := by omega
    rw [Option.any_none, ← Bool.decide_and, decide_eq_false houtside]
  · have hinside : a.row ≤ s.rowCount - 1 ∧ a.col ≤ s.colCount - 1 ↔
        a.row < s.rowCount ∧ a.col < s.colCount := by omega
    simp [Range.contains, Range.ofCorners, Range.ordered, Address.relative, ← Bool.decide_and, hinside]

theorem any_usedRange?_of_ne_blank {a : Address} (h : s.get a ≠ .blank) :
    s.usedRange?.any (·.contains a) = true := by
  by_contra hout
  rw [any_usedRange?, ← Bool.decide_and, decide_eq_true_eq] at hout
  exact h (cellAt_of_outside (by omega))

theorem padTo_getElem?_getD {α : Type} (n : Nat) (x : α) (xs : Array α) (k : Nat) :
    (padTo n x xs)[k]?.getD x = xs[k]?.getD x := by
  rw [padTo, Array.getElem?_append]
  split_ifs with h
  · rfl
  · rw [Array.getElem?_replicate, Array.getElem?_eq_none (Nat.le_of_not_lt h)]
    split_ifs <;> rfl

theorem padTo_of_le {α : Type} {n : Nat} {x : α} {xs : Array α} (h : n ≤ xs.size) :
    padTo n x xs = xs := by
  simp [padTo, Nat.sub_eq_zero_of_le h]

theorem size_padTo {α : Type} (n : Nat) (x : α) (xs : Array α) :
    (padTo n x xs).size = max n xs.size := by
  rw [padTo, Array.size_append, Array.size_replicate]
  omega

theorem lt_size_padTo {α : Type} (n : Nat) (x : α) (xs : Array α) : n < (padTo (n + 1) x xs).size := by
  rw [size_padTo]
  omega

theorem rowAt_set (s : Sheet) (row col : Nat) (c : Cell) (i : Nat) :
    (s.set row col c).rowAt i =
      if i = row then (padTo (col + 1) .blank (s.rowAt row)).setIfInBounds col c
      else s.rowAt i := by
  simp only [rowAt, set, Array.getElem?_modify]
  split_ifs with h₁ h₂ h₂
  · subst h₁
    have hlt := lt_size_padTo row #[] s.rows
    have hpad := padTo_getElem?_getD (row + 1) #[] s.rows row
    rw [Array.getElem?_eq_getElem hlt, Option.getD_some] at hpad
    rw [Array.getElem?_eq_getElem hlt, Option.map_some, Option.getD_some, hpad]
  · exact absurd h₁.symm h₂
  · exact absurd h₂.symm h₁
  · exact padTo_getElem?_getD (row + 1) #[] s.rows i

/-- A sheet with a cell written to it, as a map. -/
theorem cellAt_set (s : Sheet) (row col : Nat) (c : Cell) (i j : Nat) :
    (s.set row col c).cellAt i j = if i = row ∧ j = col then c else s.cellAt i j := by
  rw [cellAt_eq_rowAt, rowAt_set, cellAt_eq_rowAt]
  by_cases hi : i = row
  · subst hi
    have hlt := lt_size_padTo col .blank (s.rowAt i)
    rw [if_pos rfl]
    by_cases hj : j = col
    · subst hj
      rw [if_pos ⟨rfl, rfl⟩, Array.getElem?_setIfInBounds_self_of_lt hlt, Option.getD_some]
    · rw [if_neg fun h => hj h.2, Array.getElem?_setIfInBounds_ne (Ne.symm hj), padTo_getElem?_getD]
  · rw [if_neg hi, if_neg fun h => hi h.1]

theorem rowSizes_set {p : Position} (h : s.Stores p) (c : Cell) :
    (s.set p.row p.col c).rowSizes = s.rowSizes := by
  refine Array.ext_getElem? fun i => ?_
  simp only [rowSizes, set, padTo_of_le h.row_lt, Array.getElem?_map, Array.getElem?_modify]
  split_ifs with hi
  · subst hi
    have hrow : s.rows[p.row]? = some (s.rowAt p.row) := by
      rw [rowAt, Array.getElem?_eq_getElem h.row_lt, Option.getD_some]
    simp [hrow, padTo_of_le h]
  · rfl

theorem stores_congr (h : s.rowSizes = t.rowSizes) (p : Position) : s.Stores p ↔ t.Stores p := by
  have hsize : (s.rowAt p.row).size = (t.rowAt p.row).size := by
    have hget := congrArg (·[p.row]?) h
    simp only [rowSizes, Array.getElem?_map] at hget
    rw [rowAt, rowAt]
    cases hs : s.rows[p.row]? <;> cases ht : t.rows[p.row]? <;> simp_all
  rw [Stores, Stores, hsize]

/-- Headers, lengths of rows and cells make up a sheet. -/
theorem ext_cellAt (hheaders : s.headers = t.headers) (hsizes : s.rowSizes = t.rowSizes)
    (hcells : ∀ p : Position, s.cellAt p.row p.col = t.cellAt p.row p.col) : s = t := by
  obtain ⟨headers, rows⟩ := s
  obtain ⟨headers', rows'⟩ := t
  obtain rfl : headers = headers' := hheaders
  have hcount : rows.size = rows'.size := by simpa [rowSizes] using congrArg Array.size hsizes
  have hwidth (i : Nat) (h : i < rows.size) (h' : i < rows'.size) : rows[i].size = rows'[i].size := by
    have hget := congrArg (·[i]?) hsizes
    simpa [rowSizes, h, h'] using hget
  refine congrArg (Sheet.mk headers) (Array.ext hcount fun i h h' => ?_)
  refine Array.ext (hwidth i h h') fun j hj hj' => ?_
  simpa [cellAt, h, h', hj, hj'] using hcells ⟨i, j⟩

theorem mem_toList {a : Address} {c : Cell} :
    (a, c) ∈ s.toList ↔
      ∃ p : Position, s.Stores p ∧ a = p.address ∧ c = s.cellAt p.row p.col := by
  simp only [toList, List.mem_flatMap, List.mem_map, Prod.exists, Prod.mk.injEq,
    List.mk_mem_zipIdx_iff_getElem?, Array.getElem?_toList]
  constructor
  · rintro ⟨cells, i, hrow, d, j, hcell, rfl, rfl⟩
    have hat : s.rowAt i = cells := by rw [rowAt, hrow, Option.getD_some]
    refine ⟨⟨i, j⟩, ?_, rfl, ?_⟩
    · rw [Stores, hat]
      exact (Array.getElem?_eq_some_iff.mp hcell).1
    · rw [cellAt_eq_rowAt, hat, hcell, Option.getD_some]
  · rintro ⟨p, hp, rfl, rfl⟩
    refine ⟨s.rowAt p.row, p.row, ?_, s.cellAt p.row p.col, p.col, ?_, rfl, rfl⟩
    · rw [rowAt, Array.getElem?_eq_getElem hp.row_lt, Option.getD_some]
    · rw [cellAt_eq_rowAt, Array.getElem?_eq_getElem hp, Option.getD_some]

/-- The stored positions in the order in which their cells are listed. -/
def positions (s : Sheet) : List Position := s.toList.map fun x => x.1.position

theorem mem_positions {p : Position} : p ∈ s.positions ↔ s.Stores p := by
  rw [positions, List.mem_map]
  constructor
  · rintro ⟨⟨a, c⟩, h, rfl⟩
    obtain ⟨p, hp, rfl, -⟩ := mem_toList.mp h
    exact hp
  · intro h
    exact ⟨(p.address, s.cellAt p.row p.col), mem_toList.mpr ⟨p, h, rfl, rfl⟩, rfl⟩

theorem toList_eq_map_positions (s : Sheet) :
    s.toList = s.positions.map fun p => (p.address, s.cellAt p.row p.col) := by
  rw [positions, List.map_map]
  refine (List.map_id _).symm.trans (List.map_congr_left fun ⟨a, c⟩ h => ?_)
  obtain ⟨p, -, rfl, rfl⟩ := mem_toList.mp h
  rfl

theorem pairwise_positions (s : Sheet) : s.positions.Pairwise (Position.isBefore · · = true) := by
  have hindex {α : Type} (xs : List α) : xs.zipIdx.Pairwise (·.2 < ·.2) := by
    rw [← List.pairwise_map, List.zipIdx_map_snd, ← List.range_eq_range']
    exact List.pairwise_lt_range
  rw [positions, toList, List.map_flatMap]
  refine Position.pairwise_flatMap_rows (hindex s.rows.toList) ?_ ?_
  · intro row _ p hp
    simp only [List.map_map, List.mem_map] at hp
    obtain ⟨cell, -, rfl⟩ := hp
    rfl
  · intro row _
    rw [List.map_map, List.pairwise_map]
    exact hindex row.1.toList

theorem nodup_positions (s : Sheet) : s.positions.Nodup :=
  Position.nodup_of_pairwise s.pairwise_positions

end Spreadsheet.Sheet
