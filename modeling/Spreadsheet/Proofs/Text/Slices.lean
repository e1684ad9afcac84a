import Mathlib

/-! Slices of texts at byte offsets, which a slice may not take inside a character. -/

namespace Spreadsheet.Text

open String

/-- The characters between two byte offsets of a text, or none if an offset is past the end of the
text or inside a character, or if the offsets are in the wrong order. -/
def slice? (s : String) (start stop : Nat) : Option (List Char) :=
  if start ≤ stop ∧ Pos.Raw.isValid s ⟨start⟩ = true ∧ Pos.Raw.isValid s ⟨stop⟩ = true then
    some (Pos.Raw.extract s ⟨start⟩ ⟨stop⟩).toList
  else none

/-- The characters from a byte offset of a text on. -/
def sliceFrom? (s : String) (start : Nat) : Option (List Char) := slice? s start s.utf8ByteSize

variable {s : String} {front middle back : List Char}

theorem isValid_utf8Len (h : s.toList = front ++ back) :
    Pos.Raw.isValid s ⟨utf8Len front⟩ = true := by
  rw [Pos.Raw.isValid_eq_true_iff, Pos.Raw.isValid_iff_exists_append]
  refine ⟨ofList front, ofList back, ?_, by simp⟩
  rw [← ofList_append, ← h, ofList_toList]

theorem slice?_of_parts (h : s.toList = front ++ middle ++ back) :
    slice? s (utf8Len front) (utf8Len (front ++ middle)) = some middle := by
  have hstart : Pos.Raw.isValid s ⟨utf8Len front⟩ = true :=
    isValid_utf8Len (by rw [h, List.append_assoc])
  have hextract : Pos.Raw.extract s ⟨utf8Len front⟩ ⟨utf8Len (front ++ middle)⟩ = ofList middle := by
    rw [← ofList_toList (s := s), h, utf8Len_append]
    exact extract_of_valid front middle back
  have hle : utf8Len front ≤ utf8Len (front ++ middle) := by simp
  rw [slice?, if_pos ⟨hle, hstart, isValid_utf8Len h⟩, hextract, toList_ofList]

/-- An offset inside a character. -/
example : slice? "é" 1 2 = none := by decide

theorem sliceFrom?_of_parts (h : s.toList = front ++ back) :
    sliceFrom? s (utf8Len front) = some back := by
  rw [sliceFrom?, ← utf8Len_toList, h]
  exact slice?_of_parts (by rw [h, List.append_nil])

end Spreadsheet.Text
