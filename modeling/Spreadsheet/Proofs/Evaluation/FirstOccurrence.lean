import Spreadsheet.Proofs.Evaluation.Texts
import Spreadsheet.Proofs.Function.FirstOccurrence

/-! Searches in formulas: `FIND` gives the first position at which `MID` takes the text that is searched
for, and `REPLACE` puts another text between what `LEFT` and `MID` take. -/

namespace Spreadsheet.Formula.Expr

open Spreadsheet.Function
open Text (charsAt occurrencesFrom)

variable {s : Scope} {d : Depth}

theorem ReadsText.lt {e : Expr} {t : String} (h : e.ReadsText s d.inside t) :
    d.nodes < s.options.maxExpressionDepth := by
  obtain ⟨v, hv, -⟩ := h
  exact Nat.lt_of_succ_lt (lt_of_eval hv)

/-- A count is read back where there is a double for it. -/
theorem readsInteger_count {e : Expr} {n : Nat} (he : e.eval s d = .ok (count n).finite)
    (h : n < 2 ^ 53) : e.ReadsInteger s d n := by
  refine ⟨_, he, ?_⟩
  rw [count, Value.finite_number, if_pos (Number.isFinite_ofNat h)]
  exact Value.toInteger_ofNat h

section

variable {y : Expr} {text : String} (hy : y.ReadsText s d.inside text)
  (hcalls : d.calls < s.options.maxCallDepth)
include hy hcalls

theorem eval_len : (call "LEN" [y]).eval s d = .ok (count text.length).finite := by
  have hfind : find? "LEN" = some textFunctions[3] := find?_text (i := 3) (by decide)
  have hnodes := hy.lt
  obtain ⟨v, hv, htext⟩ := hy
  have heval := HaveArguments.eval_call hfind rfl hnodes hcalls (.text hv htext .nil) rfl
  rw [heval, length_eq htext]
  rfl

theorem readsInteger_len (h : text.length < 2 ^ 53) :
    (call "LEN" [y]).ReadsInteger s d text.length :=
  readsInteger_count (eval_len hy hcalls) h

theorem eval_left {a : Expr} {x : Float} {n : Nat} (ha : a.eval s d.inside = .ok (.number x))
    (hn : Number.truncToInt x = n) :
    (call "LEFT" [y, a]).eval s d = .ok (textOf (text.toList.take n)) := by
  have hfind : find? "LEFT" = some textFunctions[0] := find?_text (i := 0) (by decide)
  have hnodes := hy.lt
  obtain ⟨v, hv, htext⟩ := hy
  have hcount : (Value.number x).toInteger = .ok n := congrArg Except.ok hn
  have heval := HaveArguments.eval_call hfind rfl hnodes hcalls
    (.text hv htext (.integer ha hcount .nil)) rfl
  rw [heval, left_eq htext hcount nofun]
  exact congrArg Except.ok (Value.finite_text _)

section

variable {m k : Expr} {p n : Nat} (hm : m.ReadsInteger s d.inside p) (hp : 1 ≤ p)
  (hk : k.ReadsInteger s d.inside n)
include hm hp hk

theorem eval_mid :
    (call "MID" [y, m, k]).eval s d = .ok (textOf (charsAt text.toList p n)) := by
  have hfind : find? "MID" = some textFunctions[2] := find?_text (i := 2) (by decide)
  have hnodes := hy.lt
  obtain ⟨v, hv, htext⟩ := hy
  obtain ⟨b, hb, hposition⟩ := hm
  obtain ⟨c, hc, hcount⟩ := hk
  have heval := HaveArguments.eval_call hfind rfl hnodes hcalls
    (.text hv htext (.integer hb hposition (.integer hc hcount .nil))) rfl
  rw [heval, mid_eq htext hposition hp hcount]
  exact congrArg Except.ok (Value.finite_text _)

theorem eval_replace {w : Expr} {new : String} (hw : w.ReadsText s d.inside new) :
    (call "REPLACE" [y, m, k, w]).eval s d =
      .ok (textOf (text.toList.take (p - 1) ++ new.toList ++ text.toList.drop (p - 1 + n))) := by
  have hfind : find? "REPLACE" = some textFunctions[9] := find?_text (i := 9) (by decide)
  have hnodes := hy.lt
  obtain ⟨v, hv, htext⟩ := hy
  obtain ⟨b, hb, hposition⟩ := hm
  obtain ⟨c, hc, hcount⟩ := hk
  obtain ⟨e, he, hnew⟩ := hw
  have heval := HaveArguments.eval_call hfind rfl hnodes hcalls
    (.text hv htext (.integer hb hposition (.integer hc hcount (.text he hnew .nil)))) rfl
  rw [heval, replace_eq htext hposition hp hcount hnew]
  exact congrArg Except.ok (Value.finite_text _)

/-- What is left of a text stands in front of the characters that are replaced and behind them. -/
theorem eval_replace_parts {w a b c : Expr} {new : String} {u : Float}
    (hw : w.ReadsText s d.inside new) (ha : a.eval s d.inside = .ok (.number u))
    (hu : Number.truncToInt u = (p : Int) - 1) (hb : b.ReadsInteger s d.inside (p + n : Nat))
    (hc : c.ReadsInteger s d.inside text.length) :
    ∃ front back, (call "LEFT" [y, a]).eval s d = .ok (.text front) ∧
      (call "MID" [y, b, c]).eval s d = .ok (.text back) ∧
      (call "REPLACE" [y, m, k, w]).eval s d = .ok (.text (front ++ new ++ back)) := by
  have hfront : Number.truncToInt u = (p - 1 : Nat) := by omega
  have hback : charsAt text.toList (p + n) text.length = text.toList.drop (p - 1 + n) := by
    have hlength : (text.toList.drop (p - 1 + n)).length ≤ text.length := by
      rw [List.length_drop, String.length_toList]
      exact Nat.sub_le _ _
    rw [charsAt, Nat.sub_add_comm hp, List.take_of_length_le hlength]
  refine ⟨_, _, eval_left hy hcalls ha hfront, eval_mid hy hcalls hb (by omega) hc, ?_⟩
  rw [eval_replace hy hcalls hm hp hk hw, hback, textOf, String.ofList_append, String.ofList_append,
    String.ofList_toList]

end

end

section

variable {x y z : Expr} {what text : String} {start : Nat} (hx : x.ReadsText s d.inside what)
  (hy : y.ReadsText s d.inside text) (hz : z.ReadsInteger s d.inside start) (hstart : 1 ≤ start)
  (hcalls : d.calls < s.options.maxCallDepth)
include hx hy hz hstart hcalls

omit hstart in
theorem exists_eval_find : ∃ a b c : Value, a.toText = .ok what ∧ b.toText = .ok text ∧
    c.toInteger = .ok start ∧
    (call "FIND" [x, y, z]).eval s d = .ok (Value.ofAnswer (find [a, b, c])).finite := by
  have hfind : find? "FIND" = some textFunctions[10] := find?_text (i := 10) (by decide)
  have hnodes := hy.lt
  obtain ⟨a, ha, hwhat⟩ := hx
  obtain ⟨b, hb, htext⟩ := hy
  obtain ⟨c, hc, hposition⟩ := hz
  exact ⟨a, b, c, hwhat, htext, hposition, HaveArguments.eval_call hfind rfl hnodes hcalls
    (.text ha hwhat (.text hb htext (.integer hc hposition .nil))) rfl⟩

theorem eval_find_beyond (h : text.length + 1 < start) :
    ∃ detail, (call "FIND" [x, y, z]).eval s d = .ok (.error (.value detail)) := by
  obtain ⟨a, b, c, ha, hb, hc, heval⟩ := exists_eval_find hx hy hz hcalls
  rw [heval, find_beyond ha hb hc hstart h]
  exact ⟨_, congrArg Except.ok (Value.finite_error _)⟩

theorem eval_find_within (h : start ≤ text.length + 1) :
    (occurrencesFrom what.toList text.toList start = ∅ ∧
      ∃ detail, (call "FIND" [x, y, z]).eval s d = .ok (.error (.value detail))) ∨
    ∃ p, IsLeast (occurrencesFrom what.toList text.toList start) p ∧
      (call "FIND" [x, y, z]).eval s d = .ok (count p).finite := by
  obtain ⟨a, b, c, ha, hb, hc, heval⟩ := exists_eval_find hx hy hz hcalls
  rcases find_within ha hb hc hstart h with ⟨hempty, hnone⟩ | ⟨p, hleast, hsome⟩
  · rw [heval, hnone]
    exact .inl ⟨hempty, _, congrArg Except.ok (Value.finite_error _)⟩
  · rw [heval, hsome]
    exact .inr ⟨p, hleast, rfl⟩

end

/-- A count is no `#VALUE!` error, even where it is too large for a double. -/
theorem finite_count_ne (n : Nat) (detail : String) :
    (count n).finite ≠ .error (.value detail) := by
  rw [count, Value.finite_number]
  split <;> simp [Value.notFinite, CellError.num, CellError.value, CellError.detailed]

/-- From a position on that is not beyond the text, `FIND` gives the first position at which `MID` takes
the text that is searched for, and `#VALUE!` where there is none. With such a position, or any other one,
`REPLACE` leaves what `LEFT` takes in front of it and what `MID` takes behind the characters replaced. -/
theorem eval_find_isLeast {x y z : Expr} {what text : String} {start : Nat}
    (hx : x.ReadsText s d.inside what) (hy : y.ReadsText s d.inside text)
    (hz : z.ReadsInteger s d.inside start) (hstart : 1 ≤ start)
    (hcalls : d.calls < s.options.maxCallDepth) :
    let found := (call "FIND" [x, y, z]).eval s d
    let occurrences := occurrencesFrom what.toList text.toList start
    ((call "LEN" [x]).eval s d = .ok (count what.length).finite ∧
      (call "LEN" [y]).eval s d = .ok (count text.length).finite) ∧
    (∀ (m k : Expr) (p : Nat), start ≤ p → m.ReadsInteger s d.inside p →
      k.ReadsInteger s d.inside what.length →
        (p ∈ occurrences ↔ (call "MID" [y, m, k]).eval s d = .ok (.text what))) ∧
    (text.length + 1 < start → ∃ detail, found = .ok (.error (.value detail))) ∧
    (start ≤ text.length + 1 →
      ((∃ detail, found = .ok (.error (.value detail))) ↔ occurrences = ∅) ∧
      (what = "" → IsLeast occurrences start) ∧
      ∀ p, IsLeast occurrences p → found = .ok (count p).finite ∧
        (text.length + 1 < 2 ^ 53 → (call "FIND" [x, y, z]).ReadsInteger s d p)) ∧
    ∀ (m k w : Expr) (p n : Nat) (new : String), m.ReadsInteger s d.inside p → 1 ≤ p →
      k.ReadsInteger s d.inside n → w.ReadsText s d.inside new →
      ∀ (a b c : Expr) (u : Float), a.eval s d.inside = .ok (.number u) →
        Number.truncToInt u = (p : Int) - 1 → b.ReadsInteger s d.inside (p + n : Nat) →
        c.ReadsInteger s d.inside text.length →
        ∃ front back, (call "LEFT" [y, a]).eval s d = .ok (.text front) ∧
          (call "MID" [y, b, c]).eval s d = .ok (.text back) ∧
          (call "REPLACE" [y, m, k, w]).eval s d = .ok (.text (front ++ new ++ back)) := by
  intro found occurrences
  refine ⟨⟨eval_len hx hcalls, eval_len hy hcalls⟩, fun m k p hp hm hk => ?_,
    eval_find_beyond hx hy hz hstart hcalls, fun h => ⟨?_, ?_, fun p hleast => ?_⟩,
    fun m k w p n new hm hp hk hw a b c u ha hu hb hc =>
      eval_replace_parts hy hcalls hm hp hk hw ha hu hb hc⟩
  · rw [eval_mid hy hcalls hm (hstart.trans hp) hk, Except.ok.injEq, textOf, Value.text.injEq,
      String.ofList_eq, ← String.length_toList]
    exact and_iff_right hp
  · rcases eval_find_within hx hy hz hstart hcalls h with ⟨hempty, hnone⟩ | ⟨p, hleast, hsome⟩
    · exact iff_of_true hnone hempty
    · refine iff_of_false ?_ (Set.nonempty_of_mem hleast.1).ne_empty
      rintro ⟨detail, hnone⟩
      exact finite_count_ne p detail (Except.ok.inj (hsome.symm.trans hnone))
  · rintro rfl
    exact Text.isLeast_occurrencesFrom_nil _ _
  · rcases eval_find_within hx hy hz hstart hcalls h with ⟨hempty, -⟩ | ⟨q, hfirst, hsome⟩
    · exact absurd hempty (Set.nonempty_of_mem hleast.1).ne_empty
    · obtain rfl := hleast.unique hfirst
      have hbound := Text.le_of_isLeast_occurrencesFrom (by rwa [String.length_toList]) hleast
      rw [String.length_toList] at hbound
      exact ⟨hsome, fun hlength => readsInteger_count hsome (by omega)⟩

/-- The first of two overlapping occurrences of `ïï` behind the first character of a text, and the text
with another one in its place. -/
theorem eval_find_isLeast_overlap :
    let s : Scope := ⟨.empty, .standard⟩
    let text (t : String) : Expr := .literal (.text t)
    let number (n : Nat) : Expr := .literal (.number (Number.ofNat n))
    let x : Expr := text "ïï"
    let y : Expr := text "naïïïve"
    let find : Expr := call "FIND" [x, y, number 2]
    let len : Expr := call "LEN" [x]
    x.ReadsText s Depth.top.inside "ïï" ∧ y.ReadsText s Depth.top.inside "naïïïve" ∧
      (number 2).ReadsInteger s Depth.top.inside 2 ∧
      IsLeast (occurrencesFrom "ïï".toList "naïïïve".toList 2) 3 ∧
      find.eval s .top = .ok (.number (Number.ofNat 3)) ∧
      (call "MID" [y, find, len]).eval s .top = .ok (.text "ïï") ∧
      (call "REPLACE" [y, find, len, text "i"]).eval s .top = .ok (.text "naiïve") := by
  intro s text number x y find len
  have hread (t : String) (d : Depth) (h : d.nodes < 1024) : (text t).ReadsText s d t :=
    readsText_literal h t
  have hnumber (n : Nat) (hn : n < 2 ^ 53) (d : Depth) (h : d.nodes < 1024) :
      (number n).ReadsInteger s d n :=
    ⟨_, eval_literal h _, Value.toInteger_ofNat hn⟩
  have hleast : IsLeast (occurrencesFrom "ïï".toList "naïïïve".toList 2) 3 := by
    refine ⟨⟨by decide, by decide⟩, fun p ⟨hp, hstands⟩ => ?_⟩
    by_contra hlt
    obtain rfl : p = 2 := by omega
    exact absurd hstands (by decide)
  -- The search is made at the top and, as an argument, one call further down.
  have hsearch (d : Depth) (hd : d.inside.nodes < 1024) (hcalls : d.calls < s.options.maxCallDepth) :=
    eval_find_isLeast (hread "ïï" d.inside hd) (hread "naïïïve" d.inside hd)
      (hnumber 2 (by decide) d.inside hd) (by decide) hcalls
  obtain ⟨-, hmid, -, hfound, hreplace⟩ := hsearch .top (by decide) (by decide)
  obtain ⟨-, -, -, hinner, -⟩ := hsearch Depth.top.inside (by decide) (by decide)
  have hfind : find.ReadsInteger s Depth.top.inside (3 : Nat) :=
    ((hinner (by decide)).2.2 3 hleast).2 (by decide)
  have hlen : len.ReadsInteger s Depth.top.inside (2 : Nat) :=
    readsInteger_len (hread "ïï" _ (by decide)) (by decide) (by decide)
  refine ⟨hread _ _ (by decide), hread _ _ (by decide), hnumber 2 (by decide) _ (by decide), hleast,
    ?_, ?_, ?_⟩
  · rw [((hfound (by decide)).2.2 3 hleast).1, count, Value.finite_number,
      if_pos (Number.isFinite_ofNat (by decide))]
  · exact (hmid find len 3 (by decide) hfind hlen).mp hleast.1
  · have htwo : Number.truncToInt (Number.ofNat 2) = (3 : Nat) - 1 :=
      Number.truncToInt_ofNat (by decide)
    have hleft : (call "LEFT" [y, number 2]).eval s .top = .ok (.text "na") :=
      eval_left (hread _ _ (by decide)) (by decide) rfl htwo
    have hright : (call "MID" [y, number 5, number 7]).eval s .top = .ok (.text "ïve") :=
      eval_mid (hread _ _ (by decide)) (by decide) (hnumber 5 (by decide) _ (by decide)) (by decide)
        (hnumber 7 (by decide) _ (by decide))
    obtain ⟨front, back, hfront, hback, h⟩ := hreplace find len (text "i") 3 2 "i" hfind (by decide)
      hlen (hread _ _ (by decide)) (number 2) (number 5) (number 7) _ rfl htwo
      (hnumber 5 (by decide) _ (by decide)) (hnumber 7 (by decide) _ (by decide))
    cases hfront.symm.trans hleft
    cases hback.symm.trans hright
    exact h

end Spreadsheet.Formula.Expr
