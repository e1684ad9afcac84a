import Mathlib.Data.List.Forall2

/-! Computations that can fail: what is true of their results, if they have any. -/

namespace Spreadsheet

variable {ε α β : Type} {p : α → Prop} {q : β → Prop} {r : Except ε α}

theorem exists_ok_of_bind {f : α → Except ε β} {b : β} (h : r >>= f = .ok b) :
    ∃ a, r = .ok a ∧ f a = .ok b := by
  cases r with
  | error e => cases h
  | ok a => exact ⟨a, rfl, h⟩

/-- What follows a computation counts only for the results that it has. -/
theorem bind_congr_of_ok {f g : α → Except ε β} (h : ∀ a, r = .ok a → f a = g a) :
    r >>= f = r >>= g := by
  cases r with
  | error e => rfl
  | ok a => exact h a rfl

/-- A computation on each element of a list gives the list of its results, if it fails for none. -/
theorem mapM_eq_ok_iff {f : α → Except ε β} {as : List α} {bs : List β} :
    as.mapM f = .ok bs ↔ List.Forall₂ (fun a b => f a = .ok b) as bs := by
  induction as generalizing bs with
  | nil =>
    rw [List.forall₂_nil_left_iff]
    exact ⟨fun h => (Except.ok.inj h).symm, fun h => h ▸ rfl⟩
  | cons a as ih =>
    rw [List.mapM_cons]
    constructor
    · intro h
      obtain ⟨b, hb, h⟩ := exists_ok_of_bind h
      obtain ⟨cs, hcs, h⟩ := exists_ok_of_bind h
      cases h
      exact .cons hb (ih.mp hcs)
    · rintro (_ | ⟨hb, hcs⟩)
      rw [hb, ih.mpr hcs]
      rfl

/-- Whether a property is true of the result, if there is one. -/
def Gives (p : α → Prop) (r : Except ε α) : Prop := ∀ a, r = .ok a → p a

@[simp]
theorem gives_ok {a : α} : Gives p (.ok a : Except ε α) ↔ p a :=
  ⟨fun h => h a rfl, fun h _ ha => Except.ok.inj ha ▸ h⟩

@[simp]
theorem gives_error {e : ε} : Gives p (.error e : Except ε α) := nofun

theorem Gives.bind_of_gives {f : α → Except ε β} (h : Gives p r) (hf : ∀ a, p a → Gives q (f a)) :
    Gives q (r >>= f) := by
  intro b hb
  obtain ⟨a, ha, hb⟩ := exists_ok_of_bind hb
  exact hf a (h a ha) b hb

theorem gives_bind {f : α → Except ε β} (hf : ∀ a, Gives q (f a)) : Gives q (r >>= f) :=
  fun b hb => by
    obtain ⟨a, -, hb⟩ := exists_ok_of_bind hb
    exact hf a b hb

theorem gives_ite {c : Prop} [Decidable c] {r' : Except ε α} (h : Gives p r) (h' : Gives p r') :
    Gives p (if c then r else r') := by
  split
  · exact h
  · exact h'

end Spreadsheet
