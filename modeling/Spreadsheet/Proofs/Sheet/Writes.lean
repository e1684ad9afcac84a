import Mathlib.Order.Bounds.Defs
import Spreadsheet.Recalculation
import Spreadsheet.Proofs.Sheet.Cells
import Spreadsheet.Proofs.Word

/-! Cells written to a sheet one after the other. The sheet keeps the last cell written to each
position and grows just as far as the writes reach: down to their rows, and in each row to their
columns. -/

namespace Spreadsheet.Sheet

variable {s : Sheet} {p q : Position} {c : Cell} {writes : List (Position × Cell)}

/-- The sheet `t` is `s` after the writes. A position has the cell written there last, or the one that
it has in `s`. Rows and columns are counted up to the last ones of `s` and of the writes, a write
fills its row up to its column, and a row without a write is as it was. -/
structure Written (s : Sheet) (writes : List (Position × Cell)) (t : Sheet) : Prop where
  headers : t.headers = s.headers
  last : ∀ before p c after, writes = before ++ (p, c) :: after → (∀ d, (p, d) ∉ after) →
    t.cellAt p.row p.col = c
  kept : ∀ p, (∀ c, (p, c) ∉ writes) → t.cellAt p.row p.col = s.cellAt p.row p.col
  blank : ∀ p, ¬s.Stores p → (∀ c, (p, c) ∉ writes) → t.cellAt p.row p.col = .blank
  rowCount : IsGreatest (insert s.rowCount {n | ∃ w ∈ writes, n = w.1.row + 1}) t.rowCount
  colCount : IsGreatest (insert s.colCount {n | ∃ w ∈ writes, n = w.1.col + 1}) t.colCount
  stores : ∀ p, t.Stores p ↔ s.Stores p ∨ ∃ w ∈ writes, p.row = w.1.row ∧ p.col ≤ w.1.col
  row : ∀ i, (∀ w ∈ writes, w.1.row ≠ i) → t.rowAt i = s.rowAt i

/-! ### One write -/

theorem cellAt_setAt (s : Sheet) (p : Position) (c : Cell) (q : Position) :
    (s.setAt p c).cellAt q.row q.col = if q = p then c else s.cellAt q.row q.col := by
  obtain ⟨row, col⟩ := p
  obtain ⟨i, j⟩ := q
  simp only [setAt, cellAt_set, Position.mk.injEq]

theorem lt_rowCount_setAt {i : Nat} :
    i < (s.setAt p c).rowCount ↔ i < s.rowCount ∨ i < p.row + 1 := by
  rw [rowCount, setAt, set, Array.size_modify, size_padTo, ← rowCount]
  omega

theorem stores_setAt : (s.setAt p c).Stores q ↔ s.Stores q ∨ (q.row = p.row ∧ q.col ≤ p.col) := by
  rw [Stores, Stores, setAt, rowAt_set]
  split_ifs with hrow
  · rw [Array.size_setIfInBounds, size_padTo, hrow]
    omega
  · simp [hrow]

/-! ### All writes -/

theorem setAll_cons (s : Sheet) (w : Position × Cell) (writes : List (Position × Cell)) :
    s.setAll (w :: writes) = (s.setAt w.1 w.2).setAll writes := rfl

theorem setAll_append (s : Sheet) (before after : List (Position × Cell)) :
    s.setAll (before ++ after) = (s.setAll before).setAll after := List.foldl_append

theorem headers_setAll (s : Sheet) (writes : List (Position × Cell)) :
    (s.setAll writes).headers = s.headers := by
  induction writes generalizing s with
  | nil => rfl
  | cons w writes ih => exact ih (s.setAt w.1 w.2)

theorem cellAt_setAll_of_not_mem (h : ∀ x, (p, x) ∉ writes) :
    (s.setAll writes).cellAt p.row p.col = s.cellAt p.row p.col := by
  induction writes generalizing s with
  | nil => rfl
  | cons w writes ih =>
    obtain ⟨q, y⟩ := w
    have hne : p ≠ q := by
      rintro rfl
      exact h y List.mem_cons_self
    rw [setAll_cons, ih fun x hx => h x (List.mem_cons_of_mem _ hx), cellAt_setAt, if_neg hne]

theorem cellAt_setAll_last (s : Sheet) (before : List (Position × Cell)) (c : Cell)
    {after : List (Position × Cell)} (h : ∀ d, (p, d) ∉ after) :
    (s.setAll (before ++ (p, c) :: after)).cellAt p.row p.col = c := by
  rw [setAll_append, setAll_cons, cellAt_setAll_of_not_mem h, cellAt_setAt, if_pos rfl]

theorem cellAt_setAll_of_mem (h : (p, c) ∈ writes) (hunique : ∀ d, (p, d) ∈ writes → d = c) :
    (s.setAll writes).cellAt p.row p.col = c := by
  induction writes generalizing s with
  | nil => exact absurd h List.not_mem_nil
  | cons w writes ih =>
    -- A later write to the position has the same cell; without one this write is the last.
    by_cases hrest : ∃ d, (p, d) ∈ writes
    · obtain ⟨d, hd⟩ := hrest
      obtain rfl := hunique d (List.mem_cons_of_mem _ hd)
      exact ih hd fun e he => hunique e (List.mem_cons_of_mem _ he)
    · obtain rfl | hmem := List.mem_cons.mp h
      · exact cellAt_setAll_last s [] c (not_exists.mp hrest)
      · exact absurd ⟨c, hmem⟩ hrest

theorem rowAt_setAll {i : Nat} (h : ∀ w ∈ writes, w.1.row ≠ i) :
    (s.setAll writes).rowAt i = s.rowAt i := by
  induction writes generalizing s with
  | nil => rfl
  | cons w writes ih =>
    obtain ⟨hw, hrest⟩ := List.forall_mem_cons.mp h
    rw [setAll_cons, ih hrest, setAt, rowAt_set, if_neg hw.symm]

theorem rowSizes_setAll (h : ∀ w ∈ writes, s.Stores w.1) :
    (s.setAll writes).rowSizes = s.rowSizes := by
  induction writes generalizing s with
  | nil => rfl
  | cons w writes ih =>
    obtain ⟨hw, hrest⟩ := List.forall_mem_cons.mp h
    have hsizes : (s.setAt w.1 w.2).rowSizes = s.rowSizes := rowSizes_set hw w.2
    exact (ih fun v hv => (stores_congr hsizes v.1).mpr (hrest v hv)).trans hsizes

/-- What a write makes true at some positions, and no write makes false, is true after all writes if
and only if it was before them or one of them makes it true. -/
theorem setAll_iff {P : Sheet → Prop} {Q : Position → Prop}
    (h : ∀ s p c, P (s.setAt p c) ↔ P s ∨ Q p) (s : Sheet) (writes : List (Position × Cell)) :
    P (s.setAll writes) ↔ P s ∨ ∃ w ∈ writes, Q w.1 := by
  induction writes generalizing s with
  | nil => simp [setAll]
  | cons w writes ih => rw [setAll_cons, ih, h, or_assoc, List.exists_mem_cons_iff]

theorem lt_rowCount_setAll {i : Nat} :
    i < (s.setAll writes).rowCount ↔ i < s.rowCount ∨ ∃ w ∈ writes, i < w.1.row + 1 :=
  setAll_iff (P := (i < ·.rowCount)) (fun _ _ _ => lt_rowCount_setAt) s writes

theorem stores_setAll :
    (s.setAll writes).Stores q ↔ s.Stores q ∨ ∃ w ∈ writes, q.row = w.1.row ∧ q.col ≤ w.1.col :=
  setAll_iff (P := (·.Stores q)) (fun _ _ _ => stores_setAt) s writes

theorem lt_colCount_setAll {j : Nat} :
    j < (s.setAll writes).colCount ↔ j < s.colCount ∨ ∃ w ∈ writes, j < w.1.col + 1 := by
  -- A column is in use where a row reaches it, and rows reach as far as cells are stored.
  simp only [lt_colCount_iff, stores_setAll, exists_or, Nat.lt_succ_iff]
  refine or_congr_right ⟨?_, ?_⟩
  · rintro ⟨_, w, hw, -, hcol⟩
    exact ⟨w, hw, hcol⟩
  · rintro ⟨w, hw, hcol⟩
    exact ⟨w.1.row, w, hw, rfl, hcol⟩

/-- A number that exceeds just what one of others exceeds is the greatest of them. -/
theorem isGreatest_of_lt_iff {α : Type} {k m : Nat} {xs : List α} {f : α → Nat}
    (h : ∀ n, n < m ↔ n < k ∨ ∃ x ∈ xs, n < f x) :
    IsGreatest (insert k {n | ∃ x ∈ xs, n = f x}) m := by
  have hle {n : Nat} (hn : n ∈ insert k {n | ∃ x ∈ xs, n = f x}) : n ≤ m := by
    refine Nat.le_of_not_lt fun hlt => Nat.lt_irrefl m ((h m).mpr ?_)
    rcases hn with rfl | ⟨x, hx, rfl⟩
    · exact .inl hlt
    · exact .inr ⟨x, hx, hlt⟩
  refine ⟨?_, fun n hn => hle hn⟩
  cases m with
  | zero => exact .inl (Nat.le_zero.mp (hle (.inl rfl))).symm
  | succ m =>
    rcases (h m).mp m.lt_succ_self with hk | ⟨x, hx, hlt⟩
    · exact .inl (Nat.le_antisymm hk (hle (.inl rfl)))
    · exact .inr ⟨x, hx, Nat.le_antisymm hlt (hle (.inr ⟨x, hx, rfl⟩))⟩

/-! ### Words -/

/-- The used range, with counts that are words of 32 bits. -/
def wordUsedRange? (s : Sheet) : Option Range :=
  let height := Word.saturate 32 s.rowCount
  let width := Word.saturate 32 s.colCount
  if height = 0 ∨ width = 0 then none
  else some (.ofCorners (.relative 0 0) (.relative (height - 1) (width - 1)))

/-- The stored cells, with indices that are words of 32 bits. -/
def wordToList (s : Sheet) : List (Address × Cell) :=
  s.rows.toList.zipIdx.flatMap fun (row, i) =>
    row.toList.zipIdx.map fun (c, j) => (.relative (Word.truncate 32 i) (Word.truncate 32 j), c)

/-- Nothing that is counted or listed of a sheet leaves words of 32 bits. -/
structure FitsWords (s : Sheet) : Prop where
  rowCount : Word.saturate 32 s.rowCount = s.rowCount
  colCount : Word.saturate 32 s.colCount = s.colCount
  usedRange : s.wordUsedRange? = s.usedRange?
  cells : s.wordToList = s.toList

theorem wordToList_eq_map (s : Sheet) : s.wordToList = s.toList.map fun x =>
    (.relative (Word.truncate 32 x.1.row) (Word.truncate 32 x.1.col), x.2) := by
  simp only [wordToList, toList, List.map_flatMap, List.map_map]
  rfl

theorem fitsWords (hrows : s.rowCount < 2 ^ 32) (hcols : s.colCount < 2 ^ 32) : s.FitsWords := by
  have hheight := Word.saturate_of_lt hrows
  have hwidth := Word.saturate_of_lt hcols
  refine ⟨hheight, hwidth, by rw [wordUsedRange?, hheight, hwidth]; rfl, ?_⟩
  rw [wordToList_eq_map]
  refine (List.map_congr_left fun ⟨a, c⟩ hx => ?_).trans (List.map_id _)
  obtain ⟨p, hp, rfl, -⟩ := mem_toList.mp hx
  have hrow : p.row < 2 ^ 32 := Nat.lt_trans hp.row_lt hrows
  have hcol : p.col < 2 ^ 32 := Nat.lt_trans (Nat.lt_of_lt_of_le hp (s.size_rowAt_le p.row)) hcols
  simp only [Position.address, Address.relative, Word.truncate_of_lt hrow, Word.truncate_of_lt hcol,
    id]

/-! ### The sheet as a map -/

theorem written_setAll (s : Sheet) (writes : List (Position × Cell)) :
    s.Written writes (s.setAll writes) where
  headers := headers_setAll s writes
  last := by
    rintro before p c after rfl h
    exact cellAt_setAll_last s before c h
  kept _ := cellAt_setAll_of_not_mem
  blank _ hp h := (cellAt_setAll_of_not_mem h).trans (cellAt_of_not_stores hp)
  rowCount := isGreatest_of_lt_iff fun _ => lt_rowCount_setAll
  colCount := isGreatest_of_lt_iff fun _ => lt_colCount_setAll
  stores _ := stores_setAll
  row _ := rowAt_setAll

/-- After any writes a sheet is the map that they make of it. All its cells but blanks lie in the used
range, and its list of cells has every stored position once, in reading order, with the cell there. -/
theorem setAll_isMap (s : Sheet) (writes : List (Position × Cell)) :
    let t := s.setAll writes
    s.Written writes t ∧
      (∀ a, t.get a ≠ .blank → t.usedRange?.any (·.contains a) = true) ∧
      (t.positions.Pairwise (Position.isBefore · · = true) ∧ (∀ p, p ∈ t.positions ↔ t.Stores p) ∧
        t.toList = t.positions.map fun p => (p.address, t.cellAt p.row p.col)) ∧
      (t.rowCount < 2 ^ 32 → t.colCount < 2 ^ 32 → t.FitsWords) :=
  ⟨written_setAll s writes, fun _ => any_usedRange?_of_ne_blank,
    ⟨pairwise_positions _, fun _ => mem_positions, toList_eq_map_positions _⟩, fitsWords⟩

/-- `C3` is written twice, below one row of two cells, and `A1` is made blank: a row without cells and
two blanks come to stand in between. -/
theorem setAll_isMap_gap :
    let s : Sheet := ⟨[], #[#[.text "a", .boolean true]]⟩
    let writes := [(⟨2, 2⟩, .text "b"), (⟨0, 0⟩, .blank), (⟨2, 2⟩, .boolean false)]
    let t := s.setAll writes
    s.Written writes t ∧ t.cellAt 2 2 = .boolean false ∧ t.cellAt 2 1 = .blank ∧
      t.cellAt 0 1 = .boolean true ∧ t.rowAt 1 = #[] ∧ t.rowCount = 3 ∧ t.colCount = 3 ∧
      t.usedRange?.any (·.contains (.relative 2 2)) = true ∧
      t.positions = [⟨0, 0⟩, ⟨0, 1⟩, ⟨2, 0⟩, ⟨2, 1⟩, ⟨2, 2⟩] ∧ t.FitsWords := by
  intro s writes t
  obtain ⟨hwritten, hused, -, hwords⟩ := setAll_isMap s writes
  have hlast : t.cellAt 2 2 = .boolean false := hwritten.last [_, _] ⟨2, 2⟩ _ [] rfl (by simp)
  have hblank : t.cellAt 2 1 = .blank := hwritten.blank ⟨2, 1⟩ (by decide) (by simp [writes])
  have hkept : t.cellAt 0 1 = .boolean true := hwritten.kept ⟨0, 1⟩ (by simp [writes])
  have hrow : t.rowAt 1 = #[] := hwritten.row 1 (by decide)
  have hinside : t.usedRange?.any (·.contains (.relative 2 2)) = true :=
    hused (.relative 2 2) fun h => nomatch hlast.symm.trans h
  have hrows : t.rowCount = 3 := by decide
  have hcols : t.colCount = 3 := by decide
  have hpos : t.positions = [⟨0, 0⟩, ⟨0, 1⟩, ⟨2, 0⟩, ⟨2, 1⟩, ⟨2, 2⟩] := by decide
  have hfits : t.FitsWords :=
    hwords (Nat.lt_of_le_of_lt (Nat.le_of_eq hrows) (by decide : 3 < 2 ^ 32))
      (Nat.lt_of_le_of_lt (Nat.le_of_eq hcols) (by decide : 3 < 2 ^ 32))
  exact ⟨hwritten, hlast, hblank, hkept, hrow, hrows, hcols, hinside, hpos, hfits⟩

end Spreadsheet.Sheet
