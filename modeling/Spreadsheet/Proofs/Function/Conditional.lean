import Spreadsheet.Proofs.Function.Shapes

/-! Conditional aggregations with one criterion and with several. The functions for several criteria
select with one what those for one select, and it does not matter in which order criteria come. -/

namespace Spreadsheet.Function

/-- The members of pairs one after the other. -/
def alternate {α : Type} (pairs : List (α × α)) : List α := pairs.flatMap fun p => [p.1, p.2]

variable {pairs pairs' : List (Value × Value)} {shape : Nat × Nat}

/-! ### Several criteria -/

abbrev criteria (pairs : List (Value × Value)) : List (Value × Criterion) :=
  pairs.map fun p => (p.1, .ofValue p.2)

theorem criteriaPairs?_alternate (pairs : List (Value × Value)) :
    criteriaPairs? (alternate pairs) = some (criteria pairs) := by
  induction pairs with
  | nil => rfl
  | cons p pairs ih =>
    change (criteriaPairs? (alternate pairs)).map _ = _
    rw [ih]
    rfl

theorem allMet_of_shape (hne : pairs ≠ []) (h : ∀ p ∈ pairs, dimensions p.1 = shape) :
    allMet shape (alternate pairs) = .ok ((positions shape).map (marks (criteria pairs))) := by
  have hone : OneShape shape (alternate pairs) := by
    intro ps hps
    rw [criteriaPairs?_alternate] at hps
    obtain rfl := Option.some.inj hps
    exact List.forall_mem_map.mpr h
  obtain ⟨p, rest, rfl⟩ := List.exists_cons_of_ne_nil hne
  exact allMet_eq (criteriaPairs?_alternate _) hone

theorem allMet_of_other_shape {p : Value × Value} (hp : p ∈ pairs) (h : dimensions p.1 ≠ shape) :
    allMet shape (alternate pairs) = .error (.value "all ranges must have the same size") := by
  have hany : (criteria pairs).any (fun q => dimensions q.1 != shape) = true :=
    List.any_eq_true.mpr ⟨_, List.mem_map_of_mem hp, by simpa using h⟩
  obtain ⟨q, rest, rfl⟩ := List.exists_cons_of_ne_nil (List.ne_nil_of_mem hp)
  rw [allMet, criteriaPairs?_alternate]
  exact if_pos hany

theorem allMet_perm (h : pairs.Perm pairs') :
    allMet shape (alternate pairs) = allMet shape (alternate pairs') := by
  rcases eq_or_ne pairs [] with rfl | hne
  · rw [h.nil_eq]
  -- Whether all ranges fit does not depend on their order, and what all criteria select does not either.
  by_cases hshape : ∀ p ∈ pairs, dimensions p.1 = shape
  · have hne' : pairs' ≠ [] := fun h' => hne (h' ▸ h).eq_nil
    have hmarks : marks (criteria pairs) = marks (criteria pairs') :=
      funext fun p => (h.map _).all_eq
    rw [allMet_of_shape hne hshape,
      allMet_of_shape hne' fun p hp => hshape p (h.mem_iff.mpr hp), hmarks]
  · push Not at hshape
    obtain ⟨p, hp, hother⟩ := hshape
    rw [allMet_of_other_shape hp hother, allMet_of_other_shape (h.mem_iff.mp hp) hother]

/-- Of two ranges of different shapes, either one does not fit when the other one comes first. -/
theorem countIfs_perm (h : pairs.Perm pairs') :
    countIfs (alternate pairs) = countIfs (alternate pairs') := by
  have hcount (p : Value × Value) (rest : List (Value × Value)) : countIfs (alternate (p :: rest)) =
      allMet (dimensions p.1) (alternate (p :: rest)) >>= fun m => .ok (count (m.count true)) := rfl
  cases pairs with
  | nil => rw [h.nil_eq]
  | cons p rest =>
    obtain ⟨q, rest', rfl⟩ :=
      List.exists_cons_of_ne_nil (List.ne_nil_of_mem (h.mem_iff.mp List.mem_cons_self))
    rw [hcount, hcount]
    by_cases hshape : dimensions p.1 = dimensions q.1
    · rw [hshape, allMet_perm h]
    · rw [allMet_of_other_shape (h.mem_iff.mpr List.mem_cons_self) (Ne.symm hshape),
        allMet_of_other_shape (h.mem_iff.mp List.mem_cons_self) hshape]

section

variable (h : pairs.Perm pairs') (target : Value)
include h

theorem selectedByAll_perm :
    selectedByAll (target :: alternate pairs) = selectedByAll (target :: alternate pairs') := by
  have hselected (pairs : List (Value × Value)) : selectedByAll (target :: alternate pairs) =
    allMet (dimensions target) (alternate pairs) >>=
      fun m => .ok (selected (dimensions target) target m) := rfl
  rw [hselected, hselected, allMet_perm h]

theorem sumIfs_perm : sumIfs (target :: alternate pairs) = sumIfs (target :: alternate pairs') := by
  unfold sumIfs
  rw [selectedByAll_perm h]

theorem averageIfs_perm :
    averageIfs (target :: alternate pairs) = averageIfs (target :: alternate pairs') := by
  unfold averageIfs
  rw [selectedByAll_perm h]

end

/-! ### One criterion -/

section

variable (range criterion : Value)

theorem allMet_singleton : allMet (dimensions range) [range, criterion] =
    .ok (met (dimensions range) range (.ofValue criterion)) := by
  have hmarks : marks (criteria [(range, criterion)]) = mark range (.ofValue criterion) := by
    funext p
    simp [marks]
  rw [met_eq, ← hmarks]
  exact allMet_of_shape (List.cons_ne_nil (range, criterion) []) (List.forall_mem_singleton.mpr rfl)

theorem countIf_eq_countIfs : countIf [range, criterion] = countIfs [range, criterion] := by
  have hcount : countIfs [range, criterion] = allMet (dimensions range) [range, criterion] >>=
    fun m => .ok (count (m.count true)) := rfl
  rw [hcount, allMet_singleton]
  rfl

variable {range} {target : Value} (h : dimensions range = dimensions target)
include h

theorem selectedBy_eq_selectedByAll :
    selectedBy [range, criterion, target] = selectedByAll [target, range, criterion] := by
  have hselected : selectedByAll [target, range, criterion] =
    allMet (dimensions target) [range, criterion] >>=
      fun m => .ok (selected (dimensions target) target m) := rfl
  rw [hselected, ← h, allMet_singleton]
  rfl

theorem sumIf_eq_sumIfs : sumIf [range, criterion, target] = sumIfs [target, range, criterion] := by
  unfold sumIf sumIfs
  rw [selectedBy_eq_selectedByAll criterion h]

theorem averageIf_eq_averageIfs :
    averageIf [range, criterion, target] = averageIfs [target, range, criterion] := by
  unfold averageIf averageIfs
  rw [selectedBy_eq_selectedByAll criterion h]

end

end Spreadsheet.Function
