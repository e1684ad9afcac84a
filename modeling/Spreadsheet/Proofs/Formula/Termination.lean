import Spreadsheet.Proofs.Failure
import Spreadsheet.Proofs.Formula.Acceptance
import Spreadsheet.Proofs.Formula.Offsets
import Spreadsheet.Proofs.Formula.Positions

/-! Reading a formula comes to an end, with a tree or with a fault inside the text. -/

namespace Spreadsheet.Formula

open Text

variable {α β : Type}

/-- A loop with a bound on its rounds that comes to its end by itself: beyond one round for each
token that is left, the bound does not matter. -/
def Settles (loop : Nat → Scan → Except ParseError α) : Prop :=
  ∀ s fuel, s.Live → s.length < fuel → loop fuel s = loop (s.length + 1) s

theorem next_congr {s : Scan} {t : Token} (ht : s.head? = some t)
    {f g : Scan → Except ParseError β}
    (h : ∀ rest, rest.Live → rest.length < s.length → f rest = g rest) :
    s.advance >>= f = s.advance >>= g := by
  obtain ⟨p, rest, rfl⟩ := Scan.head?_eq_some ht
  refine bind_congr_of_ok fun last hlast => ?_
  cases rest with
  | fault e => cases hlast
  | _ =>
    cases hlast
    exact h _ (by simp [Scan.Live]) (Nat.lt_succ_self _)

/-- Every round of the loop over the arguments of a call uses up a comma. -/
theorem arguments_congr {P : List Token → Expr → Prop} {function : String}
    {argument : Scan → Except ParseError (Parsed Expr)}
    (hargument : ∀ s, s.Live → Accepts P s (argument s)) {fuel fuel' : Nat} {args : List Expr}
    {s : Scan} (hs : s.Live) (h : s.length < fuel) (h' : s.length < fuel') :
    arguments function argument fuel args s = arguments function argument fuel' args s := by
  induction fuel generalizing fuel' args s with
  | zero => exact absurd h (Nat.not_lt_zero _)
  | succ fuel ih =>
    obtain ⟨fuel', rfl⟩ := Nat.exists_eq_succ_of_ne_zero (Nat.ne_zero_of_lt h')
    rw [arguments, arguments]
    split
    · rfl
    · rfl
    · refine bind_congr_of_ok fun parsed hok => ?_
      obtain ⟨arg, rest⟩ := parsed
      obtain ⟨ts, -, hbegins, hrest⟩ := hargument s hs arg rest hok
      have hlength := hbegins.length_eq
      simp only
      split
      · exact next_congr ‹_› fun last hlast hlt => ih hlast (by omega) (by omega)
      · rfl
      · rfl
      · rfl

theorem elements_congr {fuel fuel' : Nat} {row : List Expr} {rows : List (List Expr)} {s : Scan}
    (h : s.length < fuel) (h' : s.length < fuel') :
    elements fuel row rows s = elements fuel' row rows s := by
  induction fuel generalizing fuel' row rows s with
  | zero => exact absurd h (Nat.not_lt_zero _)
  | succ fuel ih =>
    obtain ⟨fuel', rfl⟩ := Nat.exists_eq_succ_of_ne_zero (Nat.ne_zero_of_lt h')
    rw [elements, elements]
    split
    · refine next_congr ‹_› fun next _ hlt => bind_congr_of_ok fun parsed hok => ?_
      obtain ⟨e, rest⟩ := parsed
      obtain ⟨ts, -, hbegins, -⟩ := accepts_element next e rest hok
      have hlength := hbegins.length_eq
      exact ih (by omega) (by omega)
    · refine next_congr ‹_› fun next _ hlt => bind_congr_of_ok fun parsed hok => ?_
      obtain ⟨e, rest⟩ := parsed
      obtain ⟨ts, -, hbegins, -⟩ := accepts_element next e rest hok
      have hlength := hbegins.length_eq
      exact ih (by omega) (by omega)
    · rfl
    · rfl
    · rfl

theorem settles_arguments (levels room : Nat) (function : String) (args : List Expr) :
    Settles fun fuel =>
      arguments function (expression (signedOperand levels) room) fuel args := by
  intro s fuel hs hfuel
  have hmeets := meets_expression (meets_signed levels) room
  rw [← signedOperand_eq] at hmeets
  exact arguments_congr hmeets hs hfuel (Nat.lt_succ_self _)

theorem settles_elements (row : List Expr) (rows : List (List Expr)) :
    Settles fun fuel => elements fuel row rows :=
  fun _ _ _ hfuel => elements_congr hfuel (Nat.lt_succ_self _)

/-- A fault of a formula body stands behind the equals sign and not behind the end of the text. -/
theorem position_of_wholeExpression {cs : List Char} {e : ParseError}
    (h : wholeExpression (scanFrom 0 1 cs) = .error e) :
    1 ≤ e.position ∧ e.position ≤ cs.length + 1 := by
  have hscan : (scanFrom 0 1 cs).Alike (fun q _ => 1 ≤ q ∧ q ≤ cs.length + 1)
      (scanFrom 0 1 cs) := alike_scanFrom fun q hfirst hlast => ⟨hfirst, by omega⟩
  have halike := alike_wholeExpression hscan
  rw [h] at halike
  cases halike with
  | error hposition => exact hposition

/-- Reading a formula ends with a tree or with a fault whose position is none behind the end of the
trimmed text, and is zero exactly if that text does not begin with an equals sign. No slice at byte
offsets is taken inside a character, and no loop is ended by the bound on its rounds. -/
theorem parse_ends (s : String) :
    (∀ e, parse s = .error e → e.position ≤ (trimChars s.toList).length ∧
      (e.position = 0 ↔ (trimChars s.toList).head? ≠ some '=')) ∧
    ((trimChars s.toList).head? ≠ some '=' → parse s = .error ⟨0, .missingEquals⟩) ∧
    Offsets.parse? s = some (parse s) ∧
    (∀ levels room function args, Settles fun fuel =>
      arguments function (expression (signedOperand levels) room) fuel args) ∧
    ∀ row rows, Settles fun fuel => elements fuel row rows := by
  refine ⟨fun e he => ?_, parse_of_head?_ne, Offsets.parse?_eq s, settles_arguments,
    settles_elements⟩
  by_cases hhead : (trimChars s.toList).head? = some '='
  · obtain ⟨cs, hcs⟩ := List.head?_eq_some_iff.mp hhead
    rw [parse, hcs] at he
    obtain ⟨hfirst, hlast⟩ := position_of_wholeExpression he
    rw [hcs, List.length_cons]
    exact ⟨hlast, by omega, fun hne => absurd rfl hne⟩
  · rw [parse_of_head?_ne hhead] at he
    cases he
    exact ⟨Nat.zero_le _, fun _ => hhead, fun _ => rfl⟩

theorem parse_unfinished : parse "=\"é\"+" = .error ⟨5, .unexpectedEnd⟩ := by
  have htrim : trimChars "=\"é\"+".toList = ['=', '"', 'é', '"', '+'] := by cbv
  have hscan : scanFrom 0 1 ['"', 'é', '"', '+'] =
      .token (.text "é") 1 (.token .plus 4 (.finish 5)) := by cbv
  rw [parse, htrim]
  simp only [hscan]
  rfl

theorem parse_ends_unfinished : parse "=\"é\"+" = .error ⟨5, .unexpectedEnd⟩ ∧
    (5 ≤ (trimChars "=\"é\"+".toList).length ∧
      (5 = 0 ↔ (trimChars "=\"é\"+".toList).head? ≠ some '=')) ∧
        Offsets.parse? "=\"é\"+" = some (.error ⟨5, .unexpectedEnd⟩) := by
  obtain ⟨hposition, -, hoffsets, -⟩ := parse_ends "=\"é\"+"
  exact ⟨parse_unfinished, hposition _ parse_unfinished, by rw [hoffsets, parse_unfinished]⟩

end Spreadsheet.Formula
