import Spreadsheet.Proofs.Evaluation.Arguments
import Spreadsheet.Proofs.Function.Occurrences

/-! Texts in formulas: the expressions that are read as a text, and `SUBSTITUTE` on them, which replaces all or
one of the occurrences that split a text. -/

namespace Spreadsheet.Formula.Expr

open Spreadsheet.Function

variable {s : Scope} {d : Depth}

/-- Whether an expression is read as a text. -/
def ReadsText (s : Scope) (d : Depth) (e : Expr) (t : String) : Prop :=
  ∃ v, e.eval s d = .ok v ∧ v.toText = .ok t

theorem readsText_literal (hnodes : d.nodes < s.options.maxExpressionDepth) (t : String) :
    (literal (.text t)).ReadsText s d t := ⟨.text t, eval_literal hnodes _, rfl⟩

theorem HaveArguments.text {kinds : List ArgKind} {e : Expr} {es : List Expr} {v : Value}
    {vs : List Value} {t : String} (hv : e.eval s d = .ok v) (ht : v.toText = .ok t)
    (hrest : HaveArguments s d kinds es vs) :
    HaveArguments s d (.scalar :: kinds) (e :: es) (v :: vs) :=
  have ⟨hsingle, herror⟩ := Value.single_of_toText ht
  .cons (.scalar hv hsingle) herror hrest

/-! ### Occurrences -/

section

variable {x y z : Expr} {text old new : String} (hx : x.ReadsText s d.inside text)
  (hy : y.ReadsText s d.inside old) (hz : z.ReadsText s d.inside new) (hold : old.toList ≠ [])
  (hcalls : d.calls < s.options.maxCallDepth) {parts : List (List Char)}
  (hparts : SplitsAt old.toList parts text.toList)
include hx hy hz hold hcalls hparts

theorem eval_substitute_occurrence {rest : List Expr} {vs : List Value} {occurrence : Option Nat}
    (hrest : HaveArguments s d.inside [.scalar] rest vs)
    (hoccurrence : ∀ a b c : Value, occurrenceArg (a :: b :: c :: vs) = .ok occurrence) :
    (call "SUBSTITUTE" (x :: y :: z :: rest)).eval s d =
      .ok (textOf (occurrence.elim (new.toList.intercalate parts)
        fun n => joinReplacing old.toList new.toList (n - 1) parts)) := by
  have hfind : find? "SUBSTITUTE" = some textFunctions[8] := find?_text (i := 8) (by decide)
  have harity : textFunctions[8].arityError? (x :: y :: z :: rest).length = none := by
    cases hrest with
    | nil => rfl
    | cons _ _ hnone =>
      cases hnone
      rfl
  obtain ⟨a, ha, htext⟩ := hx
  obtain ⟨b, hb, hseparator⟩ := hy
  obtain ⟨c, hc, hnew⟩ := hz
  have hnodes : d.nodes < s.options.maxExpressionDepth := Nat.lt_of_succ_lt (lt_of_eval ha)
  have heval := HaveArguments.eval_call hfind rfl hnodes hcalls
    (.text ha htext (.text hb hseparator (.text hc hnew hrest))) harity
  rw [heval, substitute_eq htext hseparator hnew hold hparts (hoccurrence a b c)]
  exact congrArg Except.ok (Value.finite_text _)

theorem eval_substitute_all : (call "SUBSTITUTE" [x, y, z]).eval s d =
    .ok (textOf (new.toList.intercalate parts)) :=
  eval_substitute_occurrence hx hy hz hold hcalls hparts .nil fun _ _ _ => rfl

theorem eval_substitute_one {m : Expr} {i : Int} (hm : m.ReadsInteger s d.inside i) (hpos : 1 ≤ i) :
    (call "SUBSTITUTE" [x, y, z, m]).eval s d = .ok (if i < parts.length then
        textOf (old.toList.intercalate (parts.take i.toNat) ++ new.toList ++
          old.toList.intercalate (parts.drop i.toNat))
      else .text text) := by
  obtain ⟨v, hv, hi⟩ := hm
  have heval := eval_substitute_occurrence hx hy hz hold hcalls hparts (.integer hv hi .nil)
    fun _ _ _ => occurrenceArg_of_toInteger hi hpos
  obtain ⟨n, rfl⟩ : ∃ n : Nat, i = n + 1 := ⟨(i - 1).toNat, by omega⟩
  have hposition : ((n : Int) + 1).toNat = n + 1 := by omega
  have hcount : (n : Int) + 1 < parts.length ↔ n + 1 < parts.length := by omega
  rw [heval]
  refine congrArg Except.ok ?_
  simp only [Option.elim_some, hposition, Nat.add_sub_cancel, joinReplacing_eq, hcount,
    hparts.intercalate_eq]
  split
  · rfl
  · exact congrArg Value.text (String.ofList_toList)

end

/-- There is one way to split a text at the occurrences of another one from left to right. With or without
the number of an occurrence, `SUBSTITUTE` replaces what stands between the parts. -/
theorem eval_substitute {x y z : Expr} {text old new : String} (hx : x.ReadsText s d.inside text)
    (hy : y.ReadsText s d.inside old) (hz : z.ReadsText s d.inside new) (hold : old ≠ "")
    (hcalls : d.calls < s.options.maxCallDepth) :
    ∃ parts, SplitsAt old.toList parts text.toList ∧
      (∀ others, SplitsAt old.toList others text.toList → others = parts) ∧
      old.toList.intercalate parts = text.toList ∧
      (call "SUBSTITUTE" [x, y, z]).eval s d = .ok (textOf (new.toList.intercalate parts)) ∧
      ∀ (m : Expr) (i : Int), m.ReadsInteger s d.inside i → 1 ≤ i →
        (call "SUBSTITUTE" [x, y, z, m]).eval s d = .ok (if i < parts.length then
            textOf (old.toList.intercalate (parts.take i.toNat) ++ new.toList ++
              old.toList.intercalate (parts.drop i.toNat))
          else .text text) := by
  have hchars : old.toList ≠ [] := fun h => hold (String.toList_eq_nil_iff.mp h)
  obtain ⟨parts, hparts⟩ := exists_splitsAt hchars text.toList
  have hunique (others : List (List Char)) (hothers : SplitsAt old.toList others text.toList) :
      others = parts := by
    rw [← hothers.splitAtText_eq hchars, hparts.splitAtText_eq hchars]
  exact ⟨parts, hparts, hunique, hparts.intercalate_eq,
    eval_substitute_all hx hy hz hchars hcalls hparts,
    fun m i hm hpos => eval_substitute_one hx hy hz hchars hcalls hparts hm hpos⟩

/-- Of two places where `ïï` stands in a text, the first one overlaps the second and is the only occurrence. -/
theorem eval_substitute_overlap :
    let s : Scope := ⟨.empty, .standard⟩
    let text (t : String) : Expr := .literal (.text t)
    let number (n : Int) : Expr := .literal (.number (Number.ofInt n))
    let args : List Expr := [text "naïïïve", text "ïï", text "i"]
    (text "naïïïve").ReadsText s Depth.top.inside "naïïïve" ∧
      (text "ïï").ReadsText s Depth.top.inside "ïï" ∧ (text "i").ReadsText s Depth.top.inside "i" ∧
      "ïï" ≠ "" ∧ SplitsAt "ïï".toList ["na".toList, "ïve".toList] "naïïïve".toList ∧
      (call "SUBSTITUTE" args).eval s .top = .ok (.text "naiïve") ∧
      (call "SUBSTITUTE" (args ++ [number 1])).eval s .top = .ok (.text "naiïve") ∧
      (call "SUBSTITUTE" (args ++ [number 2])).eval s .top = .ok (.text "naïïïve") := by
  intro s text number args
  have hread (t : String) : (text t).ReadsText s Depth.top.inside t :=
    readsText_literal (by decide) t
  have hnumber {n : Int} (h : n.natAbs < 2 ^ 53) : (number n).ReadsInteger s Depth.top.inside n :=
    ⟨_, eval_literal (by decide) _, congrArg Except.ok (Number.truncToInt_ofInt h)⟩
  have hfirst : ∀ i < ['n', 'a'].length, ¬"ïï".toList <+: (['n', 'a'] ++ "ïï".toList).drop i := by
    decide
  have hsplit : SplitsAt "ïï".toList ["na".toList, "ïve".toList] "naïïïve".toList :=
    .next hfirst (.last (by decide))
  obtain ⟨parts, -, hunique, -, hall, hone⟩ := eval_substitute (hread "naïïïve") (hread "ïï")
    (hread "i") (by decide) (by decide : Depth.top.calls < s.options.maxCallDepth)
  obtain rfl := hunique _ hsplit
  exact ⟨hread _, hread _, hread _, by decide, hsplit, hall,
    hone (number 1) 1 (hnumber (by decide)) le_rfl, hone (number 2) 2 (hnumber (by decide)) (by decide)⟩

end Spreadsheet.Formula.Expr
