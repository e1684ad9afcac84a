import Spreadsheet.Proofs.Evaluation.Index
import Spreadsheet.Proofs.Function.Nearest
import Spreadsheet.Proofs.Number.Nearest

/-! Lookups in formulas: what they find in ascending keys, and how `VLOOKUP`, `HLOOKUP` and `INDEX` with
`MATCH` agree on one table. -/

namespace Spreadsheet.Formula.Expr

open Spreadsheet.Function

variable {s : Scope} {d : Depth}

/-! ### Lookups on arguments with known values -/

section

variable {x t c : Expr} {v table w : Value} {n : Nat}

theorem haveArguments_lookup (hx : x.eval s d = .ok v) (hsingle : v.isArray = false)
    (hvalid : v.isError = false) (ht : t.evalArray s d = .ok table) (htable : table.isError = false)
    (hc : c.eval s d = .ok w) (hn : w.toInteger = .ok n) (b : Bool) :
    HaveArguments s d [.scalar, .array, .scalar, .scalar] [x, t, c, .literal (.boolean b)]
      [v, table, w, .boolean b] := by
  have hmode : (literal (.boolean b)).eval s d = .ok (.boolean b) := eval_literal (lt_of_eval hx) _
  apply HaveArguments.cons (.scalar hx hsingle) hvalid
  apply HaveArguments.cons (.array ht) htable
  apply HaveArguments.integer hc hn
  exact .cons (.scalar hmode rfl) rfl .nil

variable (hx : x.eval s d.inside = .ok v) (hsingle : v.isArray = false)
  (hvalid : v.isError = false) (ht : t.evalArray s d.inside = .ok table)
  (htable : table.isError = false) (hrect : table.Rectangular)
  (hc : c.ReadsInteger s d.inside n) (hpos : 1 ≤ n) (hcalls : d.calls < s.options.maxCallDepth)
  (b : Bool)
include hx hsingle hvalid ht htable hrect hc hpos hcalls

theorem eval_vlookup (hn : n ≤ (dimensions table).2) :
    (call "VLOOKUP" [x, t, c, .literal (.boolean b)]).eval s d =
      .ok ((findPosition (if b then .nextSmaller else .exact) v (table.column 0)).elim
        (.error (notFound v)) fun i => table.entry (i, n - 1)).finite := by
  obtain ⟨w, hc, hw⟩ := hc
  have hfind : find? "VLOOKUP" = some lookupFunctions[0] :=
    find?_getElem (fun _ => mem_all_of_lookup) (by decide) (by decide +kernel)
  have hnodes : d.nodes < s.options.maxExpressionDepth := Nat.lt_of_succ_lt (lt_of_eval hx)
  have hargs := haveArguments_lookup hx hsingle hvalid ht htable hc hw b
  rw [← ofAnswer_verticalLookup hw hpos hrect b hn]
  exact HaveArguments.eval_call hfind rfl hnodes hcalls hargs rfl

theorem eval_hlookup (hn : n ≤ (dimensions table).1) :
    (call "HLOOKUP" [x, t, c, .literal (.boolean b)]).eval s d =
      .ok ((findPosition (if b then .nextSmaller else .exact) v (table.row 0)).elim
        (.error (notFound v)) fun j => table.entry (n - 1, j)).finite := by
  obtain ⟨w, hc, hw⟩ := hc
  have hfind : find? "HLOOKUP" = some lookupFunctions[1] :=
    find?_getElem (fun _ => mem_all_of_lookup) (by decide) (by decide +kernel)
  have hnodes : d.nodes < s.options.maxExpressionDepth := Nat.lt_of_succ_lt (lt_of_eval hx)
  have hargs := haveArguments_lookup hx hsingle hvalid ht htable hc hw b
  rw [← ofAnswer_horizontalLookup hw hpos hrect b hn]
  exact HaveArguments.eval_call hfind rfl hnodes hcalls hargs rfl

end

/-! ### Ascending keys -/

/-- What a lookup gives in ascending keys: the entry of the nearest key. This is the last key that is
not above the value just where no two keys are equal to it. -/
structure GivesNearest (v : Value) (keys : List Value) (entry : Nat → Value)
    (r : Except DepthExceeded Value) : Prop where
  nearest : ∃ found, IsNearest v keys found ∧
    r = .ok (found.elim (.error (notFound v)) entry).finite ∧
    ∀ i, found = some i →
      (IsGreatest (notAbove v keys) i ↔ (equalTo v keys).Subsingleton)
  last (hunique : (equalTo v keys).Subsingleton) :
    (notAbove v keys = ∅ → r = .ok (.error (notFound v))) ∧
      ∀ i, IsGreatest (notAbove v keys) i → r = .ok (entry i).finite

theorem givesNearest {v : Value} {keys : List Value} (hsorted : Ascending v keys)
    (entry : Nat → Value) : GivesNearest v keys entry
      (.ok ((findPosition .nextSmaller v keys).elim (.error (notFound v)) entry).finite) := by
  have hnearest := isNearest_findPosition hsorted
  generalize findPosition .nextSmaller v keys = found at hnearest ⊢
  refine ⟨⟨found, hnearest, rfl, ?_⟩, fun hunique => ?_⟩
  · rintro i rfl
    exact hnearest.isGreatest_iff hsorted
  · cases found with
    | none =>
      refine ⟨fun _ => congrArg Except.ok (Value.finite_error _), fun i hi => ?_⟩
      exact absurd hi.1 (Set.eq_empty_iff_forall_notMem.mp hnearest i)
    | some j =>
      have hlast := hnearest.isGreatest hsorted hunique
      refine ⟨fun hempty => ?_, fun i hi => ?_⟩
      · exact absurd hlast.1 (Set.eq_empty_iff_forall_notMem.mp hempty j)
      · rw [hlast.unique hi]
        rfl

/-- Approximate lookups in tables whose first column or row is in ascending order. -/
theorem eval_lookup_ascending {x t c : Expr} {v table : Value} {n : Nat}
    (hx : x.eval s d.inside = .ok v) (hsingle : v.isArray = false) (hvalid : v.isError = false)
    (ht : t.evalArray s d.inside = .ok table) (htable : table.isError = false)
    (hrect : table.Rectangular) (hc : c.ReadsInteger s d.inside n) (hpos : 1 ≤ n)
    (hcalls : d.calls < s.options.maxCallDepth) :
    (n ≤ (dimensions table).2 → Ascending v (table.column 0) →
      GivesNearest v (table.column 0) (fun i => table.entry (i, n - 1))
        ((call "VLOOKUP" [x, t, c, .literal (.boolean true)]).eval s d)) ∧
    (n ≤ (dimensions table).1 → Ascending v (table.row 0) →
      GivesNearest v (table.row 0) (fun j => table.entry (n - 1, j))
        ((call "HLOOKUP" [x, t, c, .literal (.boolean true)]).eval s d)) := by
  refine ⟨fun hn hsorted => ?_, fun hn hsorted => ?_⟩
  · rw [eval_vlookup hx hsingle hvalid ht htable hrect hc hpos hcalls true hn]
    exact givesNearest hsorted _
  · rw [eval_hlookup hx hsingle hvalid ht htable hrect hc hpos hcalls true hn]
    exact givesNearest hsorted _

/-- A key of another type stands between two numbers below the value. -/
theorem eval_lookup_ascending_mixed :
    let s : Scope := ⟨.empty, .standard⟩
    let v : Value := .number 25
    let t : Expr := .array [[.literal (.number 10), .literal (.text "a")],
      [.literal (.text "x"), .literal .blank], [.literal (.number 20), .literal (.text "b")]]
    let table : Value := .array [[.number 10, .text "a"], [.text "x", .blank],
      [.number 20, .text "b"]]
    t.evalArray s Depth.top.inside = .ok table ∧ table.Rectangular ∧
      Ascending v (table.column 0) ∧ (equalTo v (table.column 0)).Subsingleton ∧
      (call "VLOOKUP" [.literal (.number 25), t, .literal (.number 2), .literal (.boolean true)]).eval
        s .top = .ok (.text "b") := by
  intro s v t table
  have ht : t.evalArray s Depth.top.inside = .ok table := rfl
  have hrect : table.Rectangular := ⟨2, by simp [Value.isArray]⟩
  have hc : (literal (.number 2)).ReadsInteger s Depth.top.inside (2 : Nat) :=
    ⟨.number 2, rfl, congrArg Except.ok (by decide +kernel)⟩
  have hsorted : Ascending v (table.column 0) := by
    unfold Ascending
    decide +kernel
  have hunique : (equalTo v (table.column 0)).Subsingleton := by
    rintro i ⟨key, hkey, htype, horder⟩
    rcases i with _ | _ | _ | i <;> cases hkey
    · exact absurd horder (by decide +kernel)
    · exact absurd htype (by decide)
    · exact absurd horder (by decide +kernel)
  have hlast : IsGreatest (notAbove v (table.column 0)) 2 := by
    refine ⟨⟨.number 20, rfl, rfl, by decide +kernel⟩, ?_⟩
    rintro i ⟨key, hkey, -⟩
    exact Nat.le_of_lt_succ (List.getElem?_eq_some_iff.mp hkey).1
  have hgives := (eval_lookup_ascending (x := .literal (.number 25)) (v := v) rfl rfl rfl ht rfl hrect
    hc (by decide) (by decide)).1 (by decide) hsorted
  refine ⟨ht, hrect, hsorted, hunique, ((hgives.last hunique).2 2 hlast).trans ?_⟩
  exact congrArg Except.ok (Value.finite_text _)

/-- Of two equal keys the first one is found, though the last one is the last that is not above the
value. -/
theorem eval_vlookup_first_of_equal :
    let s : Scope := ⟨.empty, .standard⟩
    let v : Value := .number 2
    let t : Expr := .array [[.literal (.number 1), .literal (.text "a")],
      [.literal (.number 2), .literal (.text "b")], [.literal (.number 2), .literal (.text "c")],
      [.literal (.number 3), .literal (.text "d")]]
    let table : Value := .array [[.number 1, .text "a"], [.number 2, .text "b"],
      [.number 2, .text "c"], [.number 3, .text "d"]]
    t.evalArray s Depth.top.inside = .ok table ∧ table.Rectangular ∧
      Ascending v (table.column 0) ∧ IsGreatest (notAbove v (table.column 0)) 2 ∧
      table.entry (2, 1) = .text "c" ∧
      (call "VLOOKUP" [.literal (.number 2), t, .literal (.number 2), .literal (.boolean true)]).eval
        s .top = .ok (.text "b") := by
  intro s v t table
  have ht : t.evalArray s Depth.top.inside = .ok table := rfl
  have hrect : table.Rectangular := ⟨2, by simp [Value.isArray]⟩
  have hc : (literal (.number 2)).ReadsInteger s Depth.top.inside (2 : Nat) :=
    ⟨.number 2, rfl, congrArg Except.ok (by decide +kernel)⟩
  have hsorted : Ascending v (table.column 0) := by
    unfold Ascending
    decide +kernel
  have hlast : IsGreatest (notAbove v (table.column 0)) 2 := by
    refine ⟨⟨.number 2, rfl, rfl, by decide +kernel⟩, ?_⟩
    rintro i ⟨key, hkey, -, horder⟩
    rcases i with _ | _ | _ | _ | i <;> cases hkey
    · decide
    · decide
    · decide
    · exact absurd horder (by decide +kernel)
  have hfound : findPosition .nextSmaller v (table.column 0) = some 1 := by decide +kernel
  have heval := eval_vlookup (x := .literal (.number 2)) (v := v) rfl rfl rfl ht rfl hrect hc
    (by decide) (by decide) true (by decide)
  rw [if_pos rfl, hfound] at heval
  refine ⟨ht, hrect, hsorted, hlast, rfl, heval.trans ?_⟩
  exact congrArg Except.ok (Value.finite_text _)

/-! ### Agreement -/

theorem matchModeOf_truncToInt (b : Bool) :
    matchModeOf (Number.truncToInt (if b then 1 else 0)) = if b then .nextSmaller else .exact := by
  cases b <;> decide +kernel

section

variable {x k : Expr} {v : Value} {keys : List Value} (hx : x.eval s d.inside = .ok v)
  (hsingle : v.isArray = false) (hvalid : v.isError = false)
  (hk : k.evalArray s d.inside = .ok (.ofColumn keys)) (hcalls : d.calls < s.options.maxCallDepth)
  (b : Bool)
include hx hsingle hvalid hk hcalls

theorem eval_match : (call "MATCH" [x, k, .literal (.number (if b then 1 else 0))]).eval s d =
    .ok ((findPosition (if b then .nextSmaller else .exact) v keys).elim (Value.error (notFound v))
      fun i => Value.number (Number.ofNat (i + 1))).finite := by
  have hfind : find? "MATCH" = some lookupFunctions[3] :=
    find?_getElem (fun _ => mem_all_of_lookup) (by decide) (by decide +kernel)
  have hdeep : d.inside.nodes < s.options.maxExpressionDepth := lt_of_eval hx
  have hargs : HaveArguments s d.inside [.scalar, .array, .scalar]
      [x, k, .literal (.number (if b then 1 else 0))]
      [v, .ofColumn keys, .number (if b then 1 else 0)] := by
    apply HaveArguments.cons (.scalar hx hsingle) hvalid
    apply HaveArguments.cons (.array hk) rfl
    exact .cons (.scalar (eval_literal hdeep _) rfl) rfl .nil
  have hanswer := ofAnswer_matchPosition v (Value.dimensions_ofColumn_le keys) (if b then 1 else 0)
  rw [matchModeOf_truncToInt, Value.elements_ofColumn] at hanswer
  rw [← hanswer]
  exact HaveArguments.eval_call hfind rfl (Nat.lt_of_succ_lt hdeep) hcalls hargs rfl

theorem eval_match_none (h : findPosition (if b then .nextSmaller else .exact) v keys = none) :
    (call "MATCH" [x, k, .literal (.number (if b then 1 else 0))]).eval s d =
      .ok (.error (notFound v)) := by
  rw [eval_match hx hsingle hvalid hk hcalls b, h]
  exact congrArg Except.ok (Value.finite_error _)

/-- A position among so many keys is a number. -/
theorem eval_match_some {i : Nat} (hlength : keys.length < 2 ^ 53)
    (h : findPosition (if b then .nextSmaller else .exact) v keys = some i) :
    (call "MATCH" [x, k, .literal (.number (if b then 1 else 0))]).eval s d =
      .ok (.number (Number.ofNat (i + 1))) := by
  have hlt : i + 1 < 2 ^ 53 := Nat.lt_of_le_of_lt (lt_of_findPosition h) hlength
  rw [eval_match hx hsingle hvalid hk hcalls b, h, Option.elim_some, Value.finite_number,
    if_pos (Number.isFinite_ofNat hlt)]

end

/-- A selection by the position that `MATCH` finds is a vertical lookup. -/
theorem eval_index_match {x t k c : Expr} {v table : Value} {n : Nat}
    (hx : x.eval s d.inside.inside = .ok v) (hsingle : v.isArray = false)
    (hvalid : v.isError = false) (ht : t.evalArray s d.inside = .ok table)
    (htable : table.isError = false) (hlength : (dimensions table).1 < 2 ^ 53)
    (hk : k.evalArray s d.inside.inside = .ok (.ofColumn (table.column 0)))
    (hc : c.ReadsInteger s d.inside n) (hpos : 1 ≤ n) (hn : n ≤ (dimensions table).2)
    (hcalls : d.inside.calls < s.options.maxCallDepth) (b : Bool) :
    (call "INDEX" [t, .call "MATCH" [x, k, .literal (.number (if b then 1 else 0))], c]).eval s d =
      .ok ((findPosition (if b then .nextSmaller else .exact) v (table.column 0)).elim
        (.error (notFound v)) fun i => table.entry (i, n - 1)).finite := by
  have hroom : d.calls < s.options.maxCallDepth := Nat.lt_of_succ_lt hcalls
  have hkeys : (table.column 0).length = (dimensions table).1 := by simp [Value.column]
  cases hfound : findPosition (if b then .nextSmaller else .exact) v (table.column 0) with
  | none =>
    -- The error of `MATCH` is the first one among the arguments of `INDEX`.
    have hmatch := eval_match_none hx hsingle hvalid hk hcalls b hfound
    have hfind : find? "INDEX" = some lookupFunctions[2] :=
      find?_getElem (fun _ => mem_all_of_lookup) (by decide) (by decide +kernel)
    have hdeep : d.inside.nodes < s.options.maxExpressionDepth := lt_of_eval hmatch
    have hfirst : HaveArguments s d.inside [.array, .scalar, .scalar] [t] [table] :=
      .cons (.array ht) htable .nil
    rw [Option.elim_none, Value.finite_error]
    exact HaveArguments.eval_call_error hfind rfl (Nat.lt_of_succ_lt hdeep) hroom hfirst rfl rfl
      (.scalar hmatch rfl)
  | some i =>
    have hi : i < (dimensions table).1 := hkeys ▸ lt_of_findPosition hfound
    have hmatch := eval_match_some hx hsingle hvalid hk hcalls b (hkeys ▸ hlength) hfound
    have hposition := Value.toInteger_ofNat (Nat.lt_of_le_of_lt hi hlength)
    have hcolumn : n - 1 + 1 = n := Nat.sub_add_cancel hpos
    exact eval_index_entry ht htable hroom hi (by omega) ⟨_, hmatch, hposition⟩
      (by rwa [hcolumn])

/-- Lookups in a table, in its transpose, and by the position of the value in the first column give one
result. Positions are numbers, so that the table must not have more rows than a number can count. -/
theorem eval_lookup_agree {x t k u c : Expr} {v table : Value} {n : Nat}
    (hx : x.eval s d.inside = .ok v) (hx' : x.eval s d.inside.inside = .ok v)
    (hsingle : v.isArray = false) (hvalid : v.isError = false)
    (ht : t.evalArray s d.inside = .ok table) (htable : table.isError = false)
    (hrect : table.Rectangular) (hlength : (dimensions table).1 < 2 ^ 53)
    (hk : k.evalArray s d.inside.inside = .ok (.ofColumn (table.column 0)))
    (hu : u.evalArray s d.inside = .ok table.transpose) (hc : c.ReadsInteger s d.inside n)
    (hpos : 1 ≤ n) (hn : n ≤ (dimensions table).2) (hcalls : d.inside.calls < s.options.maxCallDepth)
    (b : Bool) :
    let position : Expr := .call "MATCH" [x, k, .literal (.number (if b then 1 else 0))]
    ∃ w, (call "VLOOKUP" [x, t, c, .literal (.boolean b)]).eval s d = .ok w ∧
      (call "INDEX" [t, position, c]).eval s d = .ok w ∧
      (call "HLOOKUP" [x, u, c, .literal (.boolean b)]).eval s d = .ok w ∧
      ((∃ i, position.eval s d.inside = .ok (.number (Number.ofNat (i + 1))) ∧
          w = (table.entry (i, n - 1)).finite) ∨
        ∃ e, position.eval s d.inside = .ok (.error e) ∧ e.kind = .notAvailable ∧ w = .error e) := by
  intro position
  have hroom : d.calls < s.options.maxCallDepth := Nat.lt_of_succ_lt hcalls
  have hcolumn : table.transpose.row 0 = table.column 0 := by
    rw [← hrect.transpose.headD_toRows, Value.headD_toRows_transpose (by omega)]
  refine ⟨_, eval_vlookup hx hsingle hvalid ht htable hrect hc hpos hroom b hn,
    eval_index_match hx' hsingle hvalid ht htable hlength hk hc hpos hn hcalls b, ?_, ?_⟩
  · have hsame (i : Nat) : table.transpose.entry (n - 1, i) = table.entry (i, n - 1) :=
      Value.entry_transpose (by omega) i
    rw [eval_hlookup hx hsingle hvalid hu rfl hrect.transpose hc hpos hroom b
      (Value.dimensions_transpose ▸ hn), hcolumn]
    simp only [hsame]
  · have hkeys : (table.column 0).length = (dimensions table).1 := by simp [Value.column]
    cases hfound : findPosition (if b then .nextSmaller else .exact) v (table.column 0) with
    | none => exact .inr ⟨_, eval_match_none hx' hsingle hvalid hk hcalls b hfound, rfl,
        Value.finite_error _⟩
    | some i => exact .inl ⟨i, eval_match_some hx' hsingle hvalid hk hcalls b (hkeys ▸ hlength) hfound,
        rfl⟩

/-- A table with an error among its elements and a text key that is found in another case of letters. -/
theorem eval_lookup_agree_letters :
    let s : Scope := ⟨.empty, .standard⟩
    let x : Expr := .literal (.text "B")
    let missing : CellError := .plain .notAvailable
    let t : Expr := .array [[.literal (.text "a"), .literal (.number 1)],
      [.literal (.text "b"), .literal (.error missing)]]
    let k : Expr := .array [[.literal (.text "a")], [.literal (.text "b")]]
    let u : Expr := .array [[.literal (.text "a"), .literal (.text "b")],
      [.literal (.number 1), .literal (.error missing)]]
    let two : Expr := .literal (.number 2)
    let table : Value := .array [[.text "a", .number 1], [.text "b", .error missing]]
    t.evalArray s Depth.top.inside = .ok table ∧ table.Rectangular ∧
      k.evalArray s Depth.top.inside.inside = .ok (.ofColumn (table.column 0)) ∧
      u.evalArray s Depth.top.inside = .ok table.transpose ∧
      ∃ w, (call "VLOOKUP" [x, t, two, .literal (.boolean false)]).eval s .top = .ok w ∧
        (call "INDEX" [t, .call "MATCH" [x, k, .literal (.number 0)], two]).eval s .top = .ok w ∧
        (call "HLOOKUP" [x, u, two, .literal (.boolean false)]).eval s .top = .ok w := by
  intro s x missing t k u two table
  have ht : t.evalArray s Depth.top.inside = .ok table := rfl
  have hrect : table.Rectangular := ⟨2, by simp [Value.isArray]⟩
  have hk : k.evalArray s Depth.top.inside.inside = .ok (.ofColumn (table.column 0)) := rfl
  have hu : u.evalArray s Depth.top.inside = .ok table.transpose := rfl
  have hc : two.ReadsInteger s Depth.top.inside (2 : Nat) :=
    ⟨.number 2, rfl, congrArg Except.ok (by decide +kernel)⟩
  obtain ⟨w, hvertical, hindex, hhorizontal, -⟩ := eval_lookup_agree (x := x) (v := .text "B") rfl rfl
    rfl rfl ht rfl hrect (by decide) hk hu hc (by decide) (by decide) (by decide) false
  exact ⟨ht, hrect, hk, hu, w, hvertical, hindex, hhorizontal⟩

end Spreadsheet.Formula.Expr
