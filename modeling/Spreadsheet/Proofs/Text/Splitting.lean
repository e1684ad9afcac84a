import Mathlib.Data.List.Forall2
import Spreadsheet.Text.Wildcard

/-! Texts that split into consecutive pieces, one for each part of a pattern. -/

namespace Spreadsheet.Text

/-- Whether a text splits into consecutive pieces, one for each of the given parts, which takes it. -/
def SplitsInto {α : Type} (Takes : α → List Char → Prop) (parts : List α) (cs : List Char) : Prop :=
  ∃ pieces, List.Forall₂ Takes parts pieces ∧ pieces.flatten = cs

section

variable {α : Type} {Takes : α → List Char → Prop} {a : α} {parts others : List α} {cs : List Char}

theorem splitsInto_nil : SplitsInto Takes [] cs ↔ cs = [] := by
  constructor
  · rintro ⟨pieces, hpieces, rfl⟩
    cases hpieces
    rfl
  · rintro rfl
    exact ⟨[], .nil, rfl⟩

theorem splitsInto_cons : SplitsInto Takes (a :: parts) cs ↔
    ∃ piece rest, Takes a piece ∧ SplitsInto Takes parts rest ∧ piece ++ rest = cs := by
  constructor
  · rintro ⟨pieces, hpieces, rfl⟩
    cases hpieces with
    | cons ha hparts => exact ⟨_, _, ha, ⟨_, hparts, rfl⟩, List.flatten_cons.symm⟩
  · rintro ⟨piece, rest, ha, ⟨pieces, hparts, rfl⟩, rfl⟩
    exact ⟨piece :: pieces, .cons ha hparts, List.flatten_cons⟩

theorem splitsInto_append : SplitsInto Takes (parts ++ others) cs ↔
    ∃ front rest, SplitsInto Takes parts front ∧ SplitsInto Takes others rest ∧ front ++ rest = cs := by
  induction parts generalizing cs with
  | nil => simp [splitsInto_nil]
  | cons a parts ih =>
    rw [List.cons_append, splitsInto_cons]
    constructor
    · rintro ⟨piece, rest, ha, hrest, rfl⟩
      obtain ⟨front, last, hfront, hlast, rfl⟩ := ih.mp hrest
      exact ⟨piece ++ front, last, splitsInto_cons.mpr ⟨piece, front, ha, hfront, rfl⟩, hlast,
        List.append_assoc ..⟩
    · rintro ⟨front, last, hfront, hlast, rfl⟩
      obtain ⟨piece, rest, ha, hrest, rfl⟩ := splitsInto_cons.mp hfront
      exact ⟨piece, rest ++ last, ha, ih.mpr ⟨rest, last, hrest, hlast, rfl⟩,
        (List.append_assoc ..).symm⟩

end

/-- Whether a token stands for a piece of a text. -/
def PatternToken.Takes : PatternToken → List Char → Prop
  | any, _ => True
  | one, piece => piece.length = 1
  | char c, piece => piece = [c]

namespace Pattern

/-- Whether a text splits into pieces for which the tokens of a pattern stand. -/
def Splits (p : Pattern) (cs : List Char) : Prop := SplitsInto PatternToken.Takes p cs

variable {p q : Pattern} {c d : Char} {cs front rest : List Char}

theorem splits_any : Splits (.any :: p) cs ↔ ∃ front rest, front ++ rest = cs ∧ p.Splits rest := by
  rw [Splits, splitsInto_cons]
  constructor
  · rintro ⟨front, rest, -, hrest, hcs⟩
    exact ⟨front, rest, hcs, hrest⟩
  · rintro ⟨front, rest, hcs, hrest⟩
    exact ⟨front, rest, trivial, hrest, hcs⟩

theorem splits_star (cs : List Char) : Splits [.any] cs :=
  splits_any.mpr ⟨cs, [], List.append_nil _, splitsInto_nil.mpr rfl⟩

theorem splits_one : Splits (.one :: p) (c :: cs) ↔ p.Splits cs := by
  rw [Splits, splitsInto_cons]
  constructor
  · rintro ⟨piece, rest, hpiece, hrest, hcs⟩
    obtain ⟨d, rfl⟩ := List.length_eq_one_iff.mp hpiece
    obtain ⟨-, rfl⟩ := List.cons.inj hcs
    exact hrest
  · exact fun h => ⟨[c], cs, rfl, h, rfl⟩

theorem splits_char : Splits (.char d :: p) (c :: cs) ↔ d = c ∧ p.Splits cs := by
  rw [Splits, splitsInto_cons]
  constructor
  · rintro ⟨piece, rest, rfl, hrest, hcs⟩
    obtain ⟨rfl, rfl⟩ := List.cons.inj hcs
    exact ⟨rfl, hrest⟩
  · rintro ⟨rfl, h⟩
    exact ⟨[d], cs, rfl, h, rfl⟩

theorem splits_empty : p.Splits [] ↔ p.all (· == .any) = true := by
  induction p with
  | nil => simp [Splits, splitsInto_nil]
  | cons t p ih =>
    rw [List.all_cons, Bool.and_eq_true, ← ih, Splits, splitsInto_cons]
    constructor
    · rintro ⟨piece, rest, hpiece, hrest, hempty⟩
      obtain ⟨rfl, rfl⟩ := List.append_eq_nil_iff.mp hempty
      cases t with
      | any => exact ⟨rfl, hrest⟩
      | one => cases hpiece
      | char c => cases hpiece
    · rintro ⟨ht, hrest⟩
      obtain rfl := eq_of_beq ht
      exact ⟨[], [], trivial, hrest, rfl⟩

theorem Splits.append_any (h : Splits (.any :: p) rest) (front : List Char) :
    Splits (.any :: p) (front ++ rest) := by
  obtain ⟨taken, rest, rfl, hrest⟩ := splits_any.mp h
  exact splits_any.mpr ⟨front ++ taken, rest, List.append_assoc .., hrest⟩

/-- Without a `*`, a pattern stands for texts of its own length. -/
theorem Splits.length_eq (h : p.Splits cs) (hany : .any ∉ p) : cs.length = p.length := by
  induction p generalizing cs with
  | nil => exact congrArg List.length (splitsInto_nil.mp h)
  | cons t p ih =>
    obtain ⟨piece, rest, hpiece, hrest, rfl⟩ := splitsInto_cons.mp h
    have hlength : piece.length = 1 := by
      cases t with
      | any => exact absurd List.mem_cons_self hany
      | one => exact hpiece
      | char c => rw [hpiece]; rfl
    rw [List.length_append, hlength, ih hrest (fun hmem => hany (List.mem_cons_of_mem _ hmem)),
      List.length_cons, Nat.add_comm]

theorem splits_map_char {ds : List Char} : Splits (ds.map .char) cs ↔ cs = ds := by
  induction ds generalizing cs with
  | nil => exact splitsInto_nil
  | cons d ds ih =>
    cases cs with
    | nil => simp [splits_empty]
    | cons c cs => rw [List.map_cons, splits_char, ih, List.cons.injEq, eq_comm]

end Pattern

end Spreadsheet.Text
