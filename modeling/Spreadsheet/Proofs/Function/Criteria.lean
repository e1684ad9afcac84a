import Mathlib
import Spreadsheet.Proofs.Function.Shapes
import Spreadsheet.Proofs.Text.Prefix

/-! An equality and an inequality with one operand as criteria. Each value meets exactly one of them,
except where the two read the operand in different ways: an empty one, a number that texts spell, and
the code of an error. -/

namespace Spreadsheet

namespace Text

theorem prefix_dropEndWhile (p : Char → Bool) (cs : List Char) : dropEndWhile p cs <+: cs := by
  rw [dropEndWhile, ← List.reverse_suffix, List.reverse_reverse]
  exact List.dropWhile_suffix p

theorem eq_of_toLower_eq_hash {c : Char} (h : c.toLower = '#') : c = '#' := by
  unfold Char.toLower at h
  split at h
  · rename_i hupper
    have hval := congrArg (fun d : Char => d.val.toNat) h
    simp only [UInt32.le_iff_toNat_le, ge_iff_le] at hupper
    simp at hval hupper
    omega
  · exact h

end Text

open Text

/-- What reads as the code of an error begins with a hash sign. -/
theorem ErrorKind.exists_cons_of_ofCode? {s : String} {kind : ErrorKind} (h : ofCode? s = some kind) :
    ∃ cs, s.toList = '#' :: cs := by
  rw [ofCode?] at h
  have hfound := List.find?_some h
  have hsame := sameAscii_iff.mp hfound
  have hcode : ∃ cs, kind.code.toList.map Char.toLower = '#' :: cs := by
    cases kind <;> exact ⟨_, rfl⟩
  obtain ⟨cs, hcs⟩ := hcode
  rw [hcs] at hsame
  obtain ⟨c, ds, hlist, hfirst, -⟩ := List.map_eq_cons_iff.mp hsame.symm
  exact ⟨ds, eq_of_toLower_eq_hash hfirst ▸ hlist⟩

namespace Number

theorem readDecimal?_eq_none {cs rest : List Char} (h : cs <+: '#' :: rest) :
    readDecimal? cs = none := by
  rcases List.prefix_cons_iff.mp h with rfl | ⟨ds, rfl, -⟩
  · rfl
  · rfl

/-- The code of an error spells no number. -/
theorem ofText?_eq_none {s : String} {kind : ErrorKind} (h : ErrorKind.ofCode? (trim s) = some kind) :
    ofText? s = none := by
  obtain ⟨cs, hcs⟩ := ErrorKind.exists_cons_of_ofCode? h
  rw [trim, String.toList_ofList] at hcs
  have hbody (b : Bool) : (if b then trimEndChars (trimChars s.toList).dropLast
      else trimChars s.toList) <+: '#' :: cs := by
    rw [hcs]
    split
    · exact (prefix_dropEndWhile _ _).trans (List.dropLast_prefix _)
    · exact List.prefix_refl _
  simp only [ofText?, readDecimal?_eq_none (hbody _), Option.map_none, Option.filter_none]

end Number

namespace Function

namespace Criterion

/-- Whether a value meets both the equality and the inequality with an operand. -/
def bothMet (operand : String) : Value → Bool
  | .text s =>
    (operand.isEmpty && s.isEmpty) ||
      (Number.ofText? operand).any fun x => (Number.ofText? s).any (Number.compare · x == .eq)
  | .error e => (ErrorKind.ofCode? (trim operand)).any (e.kind == ·)
  | _ => false

/-- Whether a value meets neither the equality nor the inequality with an operand. -/
def neitherMet (operand : String) (v : Value) : Bool :=
  (ErrorKind.ofCode? (trim operand)).isSome && patternMatches (patternOf operand.toList) v

/-- The criteria that an equality and an inequality with an operand are, by what the operand is. -/
inductive Opposed (operand : String) : Criterion → Criterion → Prop
  | blank (h : operand = "") : Opposed operand .blank .notBlank
  | number {x : Float} (hne : operand ≠ "") (h : Number.ofText? operand = some x)
    (hcode : ErrorKind.ofCode? (trim operand) = none) :
    Opposed operand (.number .equal x) (.number .notEqual x)
  | boolean (b : Bool) (hne : operand ≠ "") (hnumber : Number.ofText? operand = none)
    (hcode : ErrorKind.ofCode? (trim operand) = none) :
    Opposed operand (.boolean .equal b) (.boolean .notEqual b)
  | error {kind : ErrorKind} (hne : operand ≠ "") (hnumber : Number.ofText? operand = none)
    (h : ErrorKind.ofCode? (trim operand) = some kind) :
    Opposed operand (.error kind) (.pattern (patternOf operand.toList) true)
  | pattern (hne : operand ≠ "") (hnumber : Number.ofText? operand = none)
    (hcode : ErrorKind.ofCode? (trim operand) = none) :
    Opposed operand (.pattern (patternOf operand.toList) false)
      (.pattern (patternOf operand.toList) true)

/-- The name of a truth value is not the code of an error. -/
theorem ofCode?_eq_none_of_sameAscii {operand name : String} (h : sameAscii operand name = true)
    (hname : '#' ∉ name.toList.map Char.toLower) : ErrorKind.ofCode? (trim operand) = none := by
  rw [Option.eq_none_iff_forall_ne_some]
  intro kind hkind
  obtain ⟨cs, hcs⟩ := ErrorKind.exists_cons_of_ofCode? hkind
  rw [trim, String.toList_ofList] at hcs
  have htrimmed : '#' ∈ trimChars operand.toList := hcs ▸ List.mem_cons_self
  have hstart := (prefix_dropEndWhile _ _).subset htrimmed
  have hmem : '#' ∈ operand.toList := (List.dropWhile_suffix _).subset hstart
  rw [← sameAscii_iff.mp h] at hname
  exact hname (List.mem_map_of_mem (f := Char.toLower) hmem)

theorem opposed_ofText (operand : String) :
    Opposed operand (ofText ("=" ++ operand)) (ofText ("<>" ++ operand)) := by
  have hequal : splitComparison ("=" ++ operand).toList = (some .equal, operand.toList) := by
    rw [String.toList_append]
    rfl
  have hnotEqual : splitComparison ("<>" ++ operand).toList = (some .notEqual, operand.toList) := by
    rw [String.toList_append]
    rfl
  rw [ofText, ofText, hequal, hnotEqual]
  simp only [Option.getD_some, String.ofList_toList]
  -- The cases are in the order in which the operand is read.
  cases hempty : operand.toList.isEmpty with
  | true =>
    have hnil : operand = "" := by simpa using hempty
    exact .blank hnil
  | false =>
    have hne : operand ≠ "" := by simpa using hempty
    cases hnumber : Number.ofText? operand with
    | some x =>
      refine .number hne hnumber (Option.eq_none_iff_forall_ne_some.mpr fun kind hkind => ?_)
      cases hnumber.symm.trans (Number.ofText?_eq_none hkind)
    | none =>
      cases htrue : sameAscii operand "TRUE" with
      | true => exact .boolean true hne hnumber (ofCode?_eq_none_of_sameAscii htrue (by decide))
      | false =>
        cases hfalse : sameAscii operand "FALSE" with
        | true => exact .boolean false hne hnumber (ofCode?_eq_none_of_sameAscii hfalse (by decide))
        | false =>
          cases hcode : ErrorKind.ofCode? (trim operand) with
          | some kind => exact .error hne hnumber hcode
          | none => exact .pattern hne hnumber hcode

section

variable {operand : String} {equality inequality : Criterion}
  (h : Opposed operand equality inequality) (v : Value)
include h

theorem Opposed.both_eq : (equality.isMet v && inequality.isMet v) = bothMet operand v := by
  cases h with
  | blank h =>
    have hnumber : Number.ofText? "" = none := by decide +kernel
    have hcode : ErrorKind.ofCode? (trim "") = none := by decide +kernel
    subst h
    cases v <;> simp [isMet, bothMet, hcode, hnumber, Value.isBlank]
  | number hne h hcode => cases v <;> simp [isMet, bothMet, hcode, Comparison.holds, hne, h]
  | boolean b hne hnumber hcode =>
    cases v <;> simp [isMet, bothMet, hcode, Comparison.holds, hne, hnumber]
  | error hne hnumber h =>
    cases v <;> simp [isMet, bothMet, h, hne, hnumber, patternMatches]
  | pattern hne hnumber hcode => cases v <;> simp [isMet, bothMet, hcode, hne, hnumber]

theorem Opposed.neither_eq : (!equality.isMet v && !inequality.isMet v) = neitherMet operand v := by
  cases h with
  | blank h =>
    have hcode : ErrorKind.ofCode? (trim "") = none := by decide +kernel
    subst h
    cases v <;> simp [isMet, neitherMet, hcode, Value.isBlank]
  | number hne h hcode => cases v <;> simp [isMet, neitherMet, hcode, Comparison.holds]
  | boolean b hne hnumber hcode => cases v <;> simp [isMet, neitherMet, hcode, Comparison.holds]
  | error hne hnumber h => cases v <;> simp [isMet, neitherMet, h, patternMatches]
  | pattern hne hnumber hcode => cases v <;> simp [isMet, neitherMet, hcode]

omit v in
/-- Each value is met once, but for those that are met twice or not at all. -/
theorem Opposed.countP_add (vs : List Value) :
    vs.countP equality.isMet + vs.countP inequality.isMet + vs.countP (neitherMet operand) =
      vs.length + vs.countP (bothMet operand) := by
  induction vs with
  | nil => rfl
  | cons v vs ih =>
    simp only [List.countP_cons, List.length_cons, ← h.both_eq v, ← h.neither_eq v]
    cases equality.isMet v <;> cases inequality.isMet v <;> simp <;> omega

end

end Criterion

theorem count_met_eq_countP {v : Value} (h : v.Rectangular) (c : Criterion) :
    (met (dimensions v) v c).count true = (elements v).countP c.isMet := by
  rw [met_eq, h.elements_eq, List.count, List.countP_map, List.countP_map]
  refine List.countP_congr fun p hp => ?_
  rw [Function.comp_apply, Function.comp_apply, mark, h.elementAt?_of_mem hp, Option.any_some,
    beq_true]

theorem countIf_eq_count {v : Value} (h : v.Rectangular) (s : String) :
    countIf [v, .text s] = .ok (count ((elements v).countP (Criterion.ofText s).isMet)) :=
  congrArg (Except.ok <| count ·) (count_met_eq_countP h (.ofText s))

end Function

end Spreadsheet
