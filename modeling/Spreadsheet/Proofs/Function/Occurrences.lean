import Spreadsheet.Proofs.Function.Tables

/-! Occurrences of a text in another one, found from left to right and without overlap. They split the text
into parts, and replacing all or one of them puts another text between the parts. -/

namespace Spreadsheet

theorem Value.single_of_toText {v : Value} {t : String} (h : v.toText = .ok t) :
    v.isArray = false ∧ v.isError = false := by
  cases v with
  | error e => cases h
  | array rows => cases h
  | _ => exact ⟨rfl, rfl⟩

namespace Function

/-- The parts of a text between the occurrences of `old`, each of which is the first one to begin behind
the occurrence before it. -/
inductive SplitsAt (old : List Char) : List (List Char) → List Char → Prop
  | last {part : List Char} (h : ¬old <:+: part) : SplitsAt old [part] part
  | next {part rest : List Char} {parts : List (List Char)}
      (hfirst : ∀ i < part.length, ¬old <+: (part ++ old).drop i) (hrest : SplitsAt old parts rest) :
      SplitsAt old (part :: parts) (part ++ old ++ rest)

section

variable {old : List Char}

theorem SplitsAt.ne_nil {parts : List (List Char)} {cs : List Char} (h : SplitsAt old parts cs) :
    parts ≠ [] := by
  cases h <;> exact List.cons_ne_nil _ _

theorem SplitsAt.intercalate_eq {parts : List (List Char)} {cs : List Char}
    (h : SplitsAt old parts cs) : old.intercalate parts = cs := by
  induction h with
  | last => exact List.intercalate_singleton
  | next _ hrest ih => rw [List.intercalate_cons_of_ne_nil hrest.ne_nil, ih]

/-! ### The first occurrence -/

theorem exists_first_of_infix {cs : List Char} (h : old <:+: cs) :
    ∃ part rest, cs = part ++ old ++ rest ∧ ∀ i < part.length, ¬old <+: (part ++ old).drop i := by
  induction cs with
  | nil =>
    obtain rfl := List.infix_nil.mp h
    exact ⟨[], [], rfl, nofun⟩
  | cons c cs ih =>
    by_cases hhere : old <+: c :: cs
    · obtain ⟨rest, hrest⟩ := hhere
      exact ⟨[], rest, hrest.symm, nofun⟩
    · obtain ⟨part, rest, rfl, hfirst⟩ := ih ((List.infix_cons_iff.mp h).resolve_left hhere)
      refine ⟨c :: part, rest, rfl, fun i hi hbegins => ?_⟩
      cases i with
      | zero => exact hhere (List.IsPrefix.trans hbegins (List.prefix_append _ rest))
      | succ i => exact hfirst i (Nat.lt_of_succ_lt_succ hi) hbegins

variable (hold : old ≠ [])
include hold

theorem exists_splitsAt (cs : List Char) : ∃ parts, SplitsAt old parts cs := by
  induction hlength : cs.length using Nat.strong_induction_on generalizing cs with
  | h n ih =>
    by_cases hinfix : old <:+: cs
    · obtain ⟨part, rest, rfl, hfirst⟩ := exists_first_of_infix hinfix
      -- A separator that is not empty leaves a shorter text to split.
      have hpos := List.length_pos_iff.mpr hold
      have hshorter : rest.length < n := by
        simp only [List.length_append] at hlength
        omega
      obtain ⟨parts, hparts⟩ := ih _ hshorter rest rfl
      exact ⟨part :: parts, .next hfirst hparts⟩
    · exact ⟨[cs], .last hinfix⟩

/-! ### The search for the parts -/

omit hold in
theorem splitAtText_skip (part front rest : List Char) :
    splitAtText old front.length part (front ++ rest) = splitAtText old 0 part rest := by
  induction front with
  | nil => rfl
  | cons c front ih => exact ih

omit hold in
theorem splitAtText_last {part cs : List Char} (h : ¬old <:+: cs) :
    splitAtText old 0 part cs = [part.reverse ++ cs] := by
  induction cs generalizing part with
  | nil => rw [splitAtText, List.append_nil]
  | cons c cs ih =>
    rw [List.infix_cons_iff, not_or, ← List.isPrefixOf_iff_prefix] at h
    rw [splitAtText, if_neg h.1, ih h.2, List.reverse_cons, List.append_assoc]
    rfl

theorem splitAtText_next {taken part : List Char} (rest : List Char)
    (hfirst : ∀ i < part.length, ¬old <+: (part ++ old).drop i) :
    splitAtText old 0 taken (part ++ old ++ rest) =
      (taken.reverse ++ part) :: splitAtText old 0 [] rest := by
  induction part generalizing taken with
  | nil =>
    obtain ⟨c, old, rfl⟩ := List.exists_cons_of_ne_nil hold
    have hhere : (c :: old).isPrefixOf (c :: (old ++ rest)) = true :=
      List.isPrefixOf_iff_prefix.mpr (List.prefix_append (c :: old) rest)
    change splitAtText (c :: old) 0 taken (c :: (old ++ rest)) = _
    rw [splitAtText, if_pos hhere, List.append_nil]
    exact congrArg _ (splitAtText_skip [] old rest)
  | cons c part ih =>
    -- An occurrence here would end before `rest`, since one that is as long begins later.
    have hnot : ¬old <+: c :: (part ++ old ++ rest) := by
      intro hbegins
      have hlength : old.length ≤ (c :: (part ++ old)).length := by
        simp only [List.length_cons, List.length_append]
        omega
      exact hfirst 0 (Nat.succ_pos _)
        (List.prefix_of_prefix_length_le hbegins (List.prefix_append (c :: (part ++ old)) rest) hlength)
    change splitAtText old 0 taken (c :: (part ++ old ++ rest)) = _
    rw [splitAtText, if_neg (List.isPrefixOf_iff_prefix.not.mpr hnot),
      ih fun i hi => hfirst (i + 1) (Nat.succ_lt_succ hi), List.reverse_cons, List.append_assoc]
    rfl

theorem SplitsAt.splitAtText_eq {parts : List (List Char)} {cs : List Char}
    (h : SplitsAt old parts cs) : splitAtText old 0 [] cs = parts := by
  induction h with
  | last h => rw [splitAtText_last h, List.reverse_nil, List.nil_append]
  | next hfirst _ ih => rw [splitAtText_next hold _ hfirst, ih, List.reverse_nil, List.nil_append]

omit hold

/-! ### Joining the parts -/

/-- The separator behind as many parts as `position` and one more is replaced, if there is one. -/
theorem joinReplacing_eq (new : List Char) (position : Nat) (parts : List (List Char)) :
    joinReplacing old new position parts = if position + 1 < parts.length then
      old.intercalate (parts.take (position + 1)) ++ new ++ old.intercalate (parts.drop (position + 1))
    else old.intercalate parts := by
  fun_induction joinReplacing old new position parts with
  | case1 => rfl
  | case2 position part => rw [if_neg (by simp), List.intercalate_singleton]
  | case3 part parts hparts =>
    obtain ⟨part', parts, rfl⟩ := List.exists_cons_of_ne_nil fun h => hparts h
    rw [if_pos (by simp), List.take_succ_cons, List.take_zero, List.drop_succ_cons, List.drop_zero,
      List.intercalate_singleton]
  | case4 position part parts hparts ih =>
    obtain ⟨part', parts, rfl⟩ := List.exists_cons_of_ne_nil fun h => hparts h
    have hcount : position.succ + 1 < (part :: part' :: parts).length ↔
        position + 1 < (part' :: parts).length := Nat.add_lt_add_iff_right
    rw [ih]
    simp only [hcount]
    split
    · have htaken : (part' :: parts).take (position + 1) ≠ [] := List.cons_ne_nil _ _
      rw [List.take_succ_cons (i := position.succ), List.drop_succ_cons (i := position.succ),
        List.intercalate_cons_of_ne_nil htaken]
      simp only [List.append_assoc]
    · rw [List.intercalate_cons_cons]

end

/-! ### The function -/

theorem textArg_of_toText {args : List Value} {index : Nat} {v : Value} {t : String}
    (h : args[index]? = some v) (ht : v.toText = .ok t) : textArg args index = .ok t := by
  rw [textArg, argument, h]
  exact ht

theorem charsArg_eq {args : List Value} {index : Nat} {v : Value} {t : String}
    (h : args[index]? = some v) (ht : v.toText = .ok t) : charsArg args index = .ok t.toList := by
  rw [charsArg, textArg_of_toText h ht]
  rfl

theorem occurrenceArg_of_toInteger {a b c v : Value} {i : Int} (h : v.toInteger = .ok i)
    (hpos : 1 ≤ i) : occurrenceArg [a, b, c, v] = .ok (some i.toNat) := by
  obtain ⟨x, hx, rfl⟩ := Value.exists_of_toInteger h
  cases v with
  | blank => exact absurd rfl (Value.ne_blank_of_toInteger h (by omega))
  | _ =>
    change (Value.toNumber _ >>= fun x => if Number.truncToInt x < 1 then _ else _) = _
    rw [hx]
    exact if_neg (Int.not_lt.mpr hpos)

section

variable {a b c : Value} {text old new : String} (ha : a.toText = .ok text) (hb : b.toText = .ok old)
  (hc : c.toText = .ok new) (hold : old.toList ≠ []) {parts : List (List Char)}
  (hparts : SplitsAt old.toList parts text.toList)
include ha hb hc hold hparts

theorem substitute_eq {rest : List Value} {occurrence : Option Nat}
    (hoccurrence : occurrenceArg (a :: b :: c :: rest) = .ok occurrence) :
    substitute (a :: b :: c :: rest) = .ok (textOf (occurrence.elim (new.toList.intercalate parts)
      fun n => joinReplacing old.toList new.toList (n - 1) parts)) := by
  rw [substitute, charsArg_eq rfl ha, charsArg_eq rfl hb, charsArg_eq rfl hc, hoccurrence]
  simp only [bind, Except.bind, List.isEmpty_iff, hold, if_false, hparts.splitAtText_eq hold]
  cases occurrence <;> rfl

end

end Function

end Spreadsheet
