import Mathlib.Data.List.Nodup
import Spreadsheet.Function.Library

/-! The library of functions. Sorting neither adds nor drops one, and no two have one name, so that a
name finds its function. -/

namespace Spreadsheet.Function

theorem mem_insertByName {f g : Function} {fs : List Function} :
    f ∈ insertByName g fs ↔ f = g ∨ f ∈ fs := by
  induction fs with
  | nil => simp [insertByName]
  | cons h fs ih =>
    rw [insertByName]
    split
    · simp
    · rw [List.mem_cons, ih, List.mem_cons]
      exact or_left_comm

theorem mem_sortByName {f : Function} {fs : List Function} : f ∈ sortByName fs ↔ f ∈ fs := by
  induction fs with
  | nil => simp [sortByName]
  | cons g fs ih =>
    rw [sortByName, List.foldr_cons, mem_insertByName]
    exact (or_congr_right ih).trans List.mem_cons.symm

def unsorted : List Function :=
  aggregationFunctions ++ lookupFunctions ++ logicalFunctions ++ informationFunctions ++
    dateFunctions ++ financialFunctions ++ textFunctions ++ mathFunctions ++ statisticalFunctions

theorem mem_all {f : Function} : f ∈ all ↔ f ∈ unsorted := mem_sortByName

theorem mem_all_of_logical {f : Function} (hf : f ∈ logicalFunctions) : f ∈ all := by
  rw [mem_all]
  simp [unsorted, hf]

theorem mem_all_of_aggregation {f : Function} (hf : f ∈ aggregationFunctions) : f ∈ all := by
  rw [mem_all]
  simp [unsorted, hf]

theorem mem_all_of_lookup {f : Function} (hf : f ∈ lookupFunctions) : f ∈ all := by
  rw [mem_all]
  simp [unsorted, hf]

theorem mem_all_of_date {f : Function} (hf : f ∈ dateFunctions) : f ∈ all := by
  rw [mem_all]
  simp [unsorted, hf]

theorem mem_all_of_text {f : Function} (hf : f ∈ textFunctions) : f ∈ all := by
  rw [mem_all]
  simp [unsorted, hf]

theorem mem_of_find? {name : String} {f : Function} (h : find? name = some f) : f ∈ all := by
  unfold find? at h
  exact List.mem_of_find?_eq_some h

/-- A number in place of a text. -/
def nameKey (name : String) : Nat :=
  name.toByteArray.data.toList.foldl (fun n c => n * 256 + c.toNat) 0

def distinct : List Nat → Bool
  | [] => true
  | n :: ns => ns.all (fun m => !m.beq n) && distinct ns

theorem nodup_of_distinct {ns : List Nat} (h : distinct ns = true) : ns.Nodup := by
  induction ns with
  | nil => exact .nil
  | cons n ns ih =>
    rw [distinct, Bool.and_eq_true, List.all_eq_true] at h
    refine List.nodup_cons.mpr ⟨fun hn => ?_, ih h.2⟩
    simpa using h.1 n hn

theorem eq_of_name {f g : Function} (hf : f ∈ all) (hg : g ∈ all) (h : f.name = g.name) : f = g := by
  -- Numbers compare faster than texts.
  have hkeys : distinct (unsorted.map fun f => nameKey f.name) = true := by decide +kernel
  exact List.inj_on_of_nodup_map (nodup_of_distinct hkeys) (mem_all.mp hf) (mem_all.mp hg)
    (congrArg nameKey h)

theorem name_of_find? {name : String} {f : Function} (h : find? name = some f) :
    f.name = name.toUpper := by
  unfold find? at h
  have hfound := List.find?_some h
  exact beq_iff_eq.mp hfound

theorem find?_of_mem {name : String} {f : Function} (hf : f ∈ all) (h : f.name = name.toUpper) :
    find? name = some f := by
  have hmatches : (f.name == name.toUpper) = true := beq_iff_eq.mpr h
  cases hfind : find? name with
  | none =>
    unfold find? at hfind
    exact absurd hmatches (List.find?_eq_none.mp hfind f hf)
  | some g => rw [eq_of_name (mem_of_find? hfind) hf ((name_of_find? hfind).trans h.symm)]

/-- The names of functions are in capital letters. -/
theorem toUpper_name {f : Function} (hf : f ∈ all) : f.name.toUpper = f.name := by
  have hupper : ∀ f ∈ unsorted, f.name.toUpper = f.name := by
    simp only [unsorted, List.forall_mem_append]
    and_intros
    -- One computation for each family stays small.
    all_goals decide +kernel
  exact hupper f (mem_all.mp hf)

theorem find?_name {f : Function} (hf : f ∈ all) : find? f.name = some f :=
  find?_of_mem hf (toUpper_name hf).symm

theorem find?_getElem {fs : List Function} (hfs : ∀ f ∈ fs, f ∈ all) {name : String} {i : Nat}
    (hi : i < fs.length) (h : fs[i].name = name.toUpper) : find? name = some fs[i] :=
  find?_of_mem (hfs _ (List.getElem_mem hi)) h

theorem find?_aggregation {i : Nat} (h : i < aggregationFunctions.length) :
    find? aggregationFunctions[i].name = some aggregationFunctions[i] :=
  find?_name (mem_all_of_aggregation (List.getElem_mem h))

theorem find?_date {i : Nat} (h : i < dateFunctions.length) :
    find? dateFunctions[i].name = some dateFunctions[i] :=
  find?_name (mem_all_of_date (List.getElem_mem h))

theorem find?_text {i : Nat} (h : i < textFunctions.length) :
    find? textFunctions[i].name = some textFunctions[i] :=
  find?_name (mem_all_of_text (List.getElem_mem h))

end Spreadsheet.Function
