import Mathlib.Data.List.Sort
import Mathlib.Data.Prod.Lex
import Spreadsheet.Proofs.Function.Rectangular

/-! Positions in arrays. A rectangular array is its shape and the element at each position; positions
come row by row, so those of one shape that lie in another one come in the same order there. -/

namespace Spreadsheet

namespace Function

/-- The positions of a shape, row by row. -/
def positions (shape : Nat × Nat) : List (Nat × Nat) :=
  (List.range shape.1).flatMap fun i => (List.range shape.2).map fun j => (i, j)

variable {shape shape' p : Nat × Nat}

theorem mem_positions : p ∈ positions shape ↔ p.1 < shape.1 ∧ p.2 < shape.2 := by
  obtain ⟨i, j⟩ := p
  simp [positions]

theorem length_positions (shape : Nat × Nat) : (positions shape).length = shape.1 * shape.2 := by
  simp [positions]

theorem pairwise_positions (shape : Nat × Nat) :
    (positions shape).Pairwise (Prod.Lex (· < ·) (· < ·)) := by
  rw [positions, List.pairwise_flatMap]
  refine ⟨fun i _ => ?_, List.pairwise_lt_range.imp fun h => ?_⟩
  · rw [List.pairwise_map]
    exact List.pairwise_lt_range.imp fun h => .right _ h
  · intro p hp q hq
    obtain ⟨_, -, rfl⟩ := List.mem_map.mp hp
    obtain ⟨_, -, rfl⟩ := List.mem_map.mp hq
    exact .left _ _ h

/-- The same positions of two shapes come in the same order. -/
theorem filter_positions_eq {q q' : Nat × Nat → Bool}
    (h : ∀ p, p ∈ positions shape ∧ q p = true ↔ p ∈ positions shape' ∧ q' p = true) :
    (positions shape).filter q = (positions shape').filter q' := by
  refine List.Pairwise.eq_of_mem_iff ((pairwise_positions shape).filter _)
    ((pairwise_positions shape').filter _) fun p => ?_
  rw [List.mem_filter, List.mem_filter, h]

theorem fit_eq {α : Type} (n : Nat) (xs : List α) :
    fit n xs = (List.range n).map fun i => xs[i]? := by
  induction n generalizing xs with
  | zero => simp [fit]
  | succ n ih =>
    rw [List.range_succ_eq_map, List.map_cons, List.map_map]
    cases xs with
    | nil => simp [fit, Function.comp_def, List.replicate_succ]
    | cons x xs =>
      rw [fit, List.length_cons, Nat.add_sub_add_right]
      exact congrArg (some x :: ·) (ih xs)

theorem elementsWithin_eq (shape : Nat × Nat) (v : Value) :
    elementsWithin shape v = (positions shape).map fun p => elementAt? v p.1 p.2 := by
  rw [elementsWithin, positions, fit_eq, List.flatMap_map, List.map_flatMap]
  refine List.flatMap_congr fun i _ => ?_
  rw [fit_eq, List.map_map]
  refine List.map_congr_left fun j _ => ?_
  rw [Function.comp_apply, elementAt?]
  cases v.toRows[i]? <;> rfl

end Function

namespace Value

/-- The element at a position of an array, or a blank where it has none. -/
def entry (v : Value) (p : Nat × Nat) : Value := (Function.elementAt? v p.1 p.2).getD .blank

theorem toRows_of_isArray {v : Value} (h : v.isArray = false) : v.toRows = [[v]] := by
  cases v with
  | array rows => cases h
  | _ => rfl

theorem toRows_finite (v : Value) : v.finite.toRows = v.toRows.map (List.map finite) := by
  cases v with
  | array rows =>
    rw [finite_array]
    rfl
  | _ =>
    rw [toRows_of_isArray ((isArray_finite _).trans rfl)]
    rfl

theorem entry_finite (v : Value) (p : Nat × Nat) : v.finite.entry p = (v.entry p).finite := by
  have hblank : Value.blank.finite = .blank := finite_eq_self (by simp) (by simp)
  rw [entry, entry, Function.elementAt?, Function.elementAt?, toRows_finite, List.getElem?_map]
  cases v.toRows[p.1]? with
  | none => exact hblank.symm
  | some row =>
    rw [Option.map_some, Option.bind_some, Option.bind_some, List.getElem?_map]
    cases row[p.2]? with
    | none => exact hblank.symm
    | some w => rfl

namespace Rectangular

variable {v : Value} (h : v.Rectangular) {p : Nat × Nat}
include h

theorem elementAt?_of_mem (hp : p ∈ Function.positions (Function.dimensions v)) :
    Function.elementAt? v p.1 p.2 = some (v.entry p) := by
  obtain ⟨hrow, hcol⟩ := Function.mem_positions.mp hp
  have hlt : p.2 < v.toRows[p.1].length := h.length_row (List.getElem_mem hrow) ▸ hcol
  rw [entry, Function.elementAt?, List.getElem?_eq_getElem hrow, Option.bind_some,
    List.getElem?_eq_getElem hlt, Option.getD_some]

theorem entry_of_not_mem (hp : p ∉ Function.positions (Function.dimensions v)) :
    v.entry p = .blank := by
  rw [entry, Function.elementAt?]
  cases hrow : v.toRows[p.1]? with
  | none => rfl
  | some row =>
    obtain ⟨hlt, hget⟩ := List.getElem?_eq_some_iff.mp hrow
    have hwidth := h.length_row (List.mem_of_getElem? hrow)
    have hcol : row.length ≤ p.2 :=
      Nat.le_of_not_lt fun hcol => hp (Function.mem_positions.mpr ⟨hlt, hwidth ▸ hcol⟩)
    rw [Option.bind_some, List.getElem?_eq_none hcol, Option.getD_none]

/-- An array is made up of its rows, and these of their entries. -/
theorem toRows_eq : v.toRows = (List.range (Function.dimensions v).1).map fun i =>
    (List.range (Function.dimensions v).2).map fun j => v.entry (i, j) := by
  refine List.ext_getElem (by simp [Function.dimensions]) fun i hi _ => ?_
  have hwidth := h.length_row (List.getElem_mem hi)
  rw [List.getElem_map, List.getElem_range]
  refine List.ext_getElem (by simp [hwidth]) fun j hj _ => ?_
  rw [List.getElem_map, List.getElem_range]
  have helement := h.elementAt?_of_mem (p := (i, j)) (Function.mem_positions.mpr ⟨hi, hwidth ▸ hj⟩)
  rw [Function.elementAt?, List.getElem?_eq_getElem hi, Option.bind_some,
    List.getElem?_eq_getElem hj] at helement
  exact Option.some.inj helement

theorem elements_eq :
    Function.elements v = (Function.positions (Function.dimensions v)).map v.entry := by
  rw [Function.elements, h.toRows_eq, Function.positions, List.map_flatMap, ← List.flatMap_def]
  simp only [List.map_map, Function.comp_def]

end Rectangular

end Value

end Spreadsheet
