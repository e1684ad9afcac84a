import Spreadsheet.Function.Aggregate
import Spreadsheet.Proofs.Failure
import Spreadsheet.Proofs.Number.Divisor
import Spreadsheet.Value.Arithmetic

/-! The numbers that aggregations collect from their arguments. They are as many as the numbers that
`COUNT` counts, so that a mean is a sum divided by a count. -/

namespace Spreadsheet

def Value.number? : Value → Option Float
  | number x => some x
  | _ => none

namespace Function

/-- The numbers among some values. -/
def numbersIn (vs : List Value) : List Float := vs.filterMap Value.number?

/-- Only an error fails to be collected. -/
theorem collectElement_eq_ok_iff {v : Value} {x : Option Float} :
    collectElement .numbers v = .ok x ↔ v.isError = false ∧ v.number? = x := by
  cases v <;> simp [collectElement, Value.isError, Value.asError?, Value.number?]

theorem mapM_collectElement_eq_ok_iff {vs : List Value} {xs : List (Option Float)} :
    vs.mapM (collectElement .numbers) = .ok xs ↔
      (∀ v ∈ vs, v.isError = false) ∧ vs.map Value.number? = xs := by
  simp only [mapM_eq_ok_iff, collectElement_eq_ok_iff, List.forall₂_and_left]
  rw [← List.forall₂_eq_eq_eq, List.forall₂_map_left_iff]

theorem collectArgument_array_eq_ok_iff {rows : List (List Value)} {xs : List Float} :
    collectArgument .numbers (.array rows) = .ok xs ↔
      (∀ v ∈ rows.flatten, v.isError = false) ∧ xs = numbersIn rows.flatten := by
  have hnumbers : (rows.flatten.map Value.number?).filterMap id = numbersIn rows.flatten := by
    rw [List.filterMap_map]
    rfl
  constructor
  · intro h
    obtain ⟨ys, hys, hxs⟩ := exists_ok_of_bind h
    obtain ⟨hvalid, rfl⟩ := mapM_collectElement_eq_ok_iff.mp hys
    exact ⟨hvalid, (Except.ok.inj hxs).symm.trans hnumbers⟩
  · rintro ⟨hvalid, rfl⟩
    rw [collectArgument, mapM_collectElement_eq_ok_iff.mpr ⟨hvalid, rfl⟩, ← hnumbers]
    rfl

theorem countArgument_array (rows : List (List Value)) :
    countArgument (.array rows) = (numbersIn rows.flatten).length := by
  rw [numbersIn, List.length_filterMap_eq_countP]
  refine List.countP_congr fun v _ => ?_
  cases v <;> simp [Value.number?]

/-- An argument is counted as often as numbers are collected from it. -/
theorem countArgument_eq_length {v : Value} {xs : List Float}
    (h : collectArgument .numbers v = .ok xs) : countArgument v = xs.length := by
  cases v with
  | array rows =>
    obtain ⟨-, rfl⟩ := collectArgument_array_eq_ok_iff.mp h
    exact countArgument_array rows
  | text s =>
    obtain ⟨x, hx, hxs⟩ := exists_ok_of_bind h
    obtain rfl := Except.ok.inj hxs
    rw [Value.toNumber] at hx
    cases hs : Number.ofText? s with
    | none =>
      rw [hs] at hx
      cases hx
    | some y => simp [countArgument, countsAsNumber, hs]
  | error e => cases h
  | _ =>
    cases h
    rfl

theorem foldl_countArgument {args : List Value} {xss : List (List Float)}
    (h : args.mapM (collectArgument .numbers) = .ok xss) (n : Nat) :
    args.foldl (fun n v => n + countArgument v) n = n + xss.flatten.length := by
  rw [mapM_eq_ok_iff] at h
  induction h generalizing n with
  | nil => rfl
  | cons hxs _ ih =>
    rw [List.foldl_cons, ih, countArgument_eq_length hxs, List.flatten_cons, List.length_append,
      Nat.add_assoc]

/-- The numbers that are collected from the arguments are those that are counted. -/
theorem countNumbers_eq {args : List Value} {xs : List Float}
    (h : collectNumbers .numbers args = .ok xs) : countNumbers args = .ok (count xs.length) := by
  obtain ⟨xss, hxss, hflat⟩ := exists_ok_of_bind h
  obtain rfl := Except.ok.inj hflat
  rw [countNumbers, foldl_countArgument hxss, Nat.zero_add]

theorem aggregate_eq {args : List Value} {xs : List Float}
    (h : collectNumbers .numbers args = .ok xs) (f : List Float → Except CellError Float) :
    aggregate .numbers f args = (f xs).map .number := by
  rw [aggregate, h]
  cases hf : f xs <;> simp [bind, Except.bind, hf, Except.map, pure, Except.pure]

theorem aggregate_eq_error {args : List Value} {e : CellError}
    (h : collectNumbers .numbers args = .error e) (f : List Float → Except CellError Float) :
    aggregate .numbers f args = .error e := by
  rw [aggregate, h]
  rfl

/-- A mean is the quotient of a sum and a count, and there is none without numbers. -/
theorem mean_eq_divide (xs : List Float) :
    mean xs = Value.divide (sum xs) (Number.ofNat xs.length) := by
  rw [mean, Value.divide, Number.ofNat_beq_zero]
  cases xs <;> rfl

end Function

end Spreadsheet
