import Spreadsheet.Proofs.Evaluation.Invariant
import Spreadsheet.Proofs.Function.Bounds

/-! The shape of arrays. Where array constants are rectangular, so is every array that an evaluation
comes across: ranges, arguments, results of functions and what they are made of. So no function
indexes out of bounds. -/

namespace Spreadsheet

open Formula

namespace Formula

end Formula

theorem Value.isArray_ofCell (c : Cell) : (ofCell c).isArray = false := by cases c <;> rfl

namespace Sheet

theorem rectangular_block (s : Sheet) (top left height width : Nat) :
    (s.block top left height width).Rectangular := by
  refine ⟨width, fun row hrow => ?_⟩
  obtain ⟨i, -, rfl⟩ := List.mem_map.mp hrow
  refine ⟨(List.length_map _).trans List.length_range, fun v hv => ?_⟩
  obtain ⟨j, -, rfl⟩ := List.mem_map.mp hv
  exact Value.isArray_ofCell _

theorem rectangular_rangeValues (s : Sheet) (limit : Nat) (r : Range) :
    (s.rangeValues limit r).Rectangular := by
  rw [rangeValues, clippedValues]
  split
  · trivial
  · split
    · split
      · exact ⟨0, nofun⟩
      · split
        · trivial
        · exact s.rectangular_block _ _ _ _
    · exact s.rectangular_block _ _ _ _

end Sheet

end Spreadsheet
