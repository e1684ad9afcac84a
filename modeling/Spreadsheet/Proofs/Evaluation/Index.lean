import Spreadsheet.Proofs.Evaluation.Arguments
import Spreadsheet.Proofs.Evaluation.Finite

/-! Selections from arrays by `INDEX`: an element is the same whether it is selected at once or from a
row or a column of its array. -/

namespace Spreadsheet

open Spreadsheet.Function

namespace Value

theorem AllFinite.finite_eq {v : Value} (h : v.AllFinite) : v.finite = v := by
  fun_induction finite v with
  | case1 x hx => rfl
  | case2 x hx => exact absurd (h x .self) hx
  | case3 rows ih =>
    have hrow (row : List Value) (hrow : row ∈ rows) : row.map finite = row := by
      refine (List.map_congr_left fun v hv => ?_).trans (List.map_id row)
      exact ih row hrow v hv fun x hx => h x (.element hrow hv hx)
    exact congrArg array ((List.map_congr_left hrow).trans (List.map_id rows))
  | case4 v hnumber harray => rfl

theorem finite_finite (v : Value) : v.finite.finite = v.finite := v.allFinite_finite.finite_eq

theorem isError_finite_of_isArray {v : Value} (h : v.isArray = true) : v.finite.isError = false := by
  cases v with
  | array rows =>
    rw [finite_array]
    rfl
  | _ => cases h

theorem finite_entry_finite (v : Value) (p : Nat × Nat) :
    (v.finite.entry p).finite = (v.entry p).finite := by
  rw [entry_finite, finite_finite]

end Value

namespace Formula.Expr

variable {s : Scope} {d : Depth}

section

variable {args : List Expr} {vs : List Value} (hnodes : d.nodes < s.options.maxExpressionDepth)
  (hcalls : d.calls < s.options.maxCallDepth)
  (h : HaveArguments s d.inside [.array, .scalar, .scalar] args vs)
include hnodes hcalls h

theorem eval_index (harity : lookupFunctions[2].arityError? args.length = none) :
    (call "INDEX" args).eval s d = .ok (Value.ofAnswer (index vs)).finite := by
  have hfind : find? "INDEX" = some lookupFunctions[2] :=
    find?_getElem (fun _ => mem_all_of_lookup) (by decide) (by decide +kernel)
  exact HaveArguments.eval_call hfind rfl hnodes hcalls h harity

end

section

variable {a r c : Expr} {v : Value} (ha : a.evalArray s d.inside = .ok v) (hvalid : v.isError = false)
  (hcalls : d.calls < s.options.maxCallDepth)
include ha hvalid hcalls

theorem eval_index_cell {i j : Int} (hr : r.ReadsInteger s d.inside i)
    (hc : c.ReadsInteger s d.inside j) (hheight : 1 ≤ (dimensions v).1)
    (hwidth : 1 ≤ (dimensions v).2) : (call "INDEX" [a, r, c]).eval s d =
      .ok (Value.ofAnswer (if i < 0 ∨ j < 0 then .error (.value "index must not be negative")
        else if ((dimensions v).1 : Int) < i ∨ ((dimensions v).2 : Int) < j then
          .error (.detailed .invalidReference "index is beyond the array")
        else .ok (selectIndex v.toRows i.toNat j.toNat))).finite := by
  obtain ⟨x, hx, hi⟩ := hr
  obtain ⟨y, hy, hj⟩ := hc
  have hnodes : d.nodes < s.options.maxExpressionDepth := Nat.lt_of_succ_lt (lt_of_eval hx)
  rw [← index_eq_ite hi hheight hwidth hj]
  exact eval_index hnodes hcalls
    (.cons (.array ha) hvalid (.integer hx hi (.integer hy hj .nil))) rfl

/-- A lone index selects from an array of a single row or column. -/
theorem eval_index_lone {n : Nat} (hr : r.ReadsInteger s d.inside (n + 1 : Nat)) :
    ((dimensions v).1 = 1 → n < (dimensions v).2 →
      (call "INDEX" [a, r]).eval s d = .ok (v.entry (0, n)).finite) ∧
    ((dimensions v).2 = 1 → n < (dimensions v).1 →
      (call "INDEX" [a, r]).eval s d = .ok (v.entry (n, 0)).finite) := by
  obtain ⟨x, hx, hn⟩ := hr
  have hnodes : d.nodes < s.options.maxExpressionDepth := Nat.lt_of_succ_lt (lt_of_eval hx)
  have heval := eval_index hnodes hcalls (.cons (.array ha) hvalid (.integer hx hn .nil)) rfl
  refine ⟨fun hrow hlt => ?_, fun hcolumn hlt => ?_⟩
  · rw [heval, index_lone_row hn hrow hlt]
    rfl
  · rw [heval, index_lone_column hn hcolumn hlt]
    rfl

end

theorem readsInteger_zero (h : d.nodes < s.options.maxExpressionDepth) :
    (literal (.number 0)).ReadsInteger s d 0 :=
  ⟨.number 0, eval_literal h _, congrArg Except.ok (by decide +kernel)⟩

/-! ### Slices -/

section

variable {a r c : Expr} {v : Value} (ha : a.evalArray s d.inside = .ok v) (hvalid : v.isError = false)
  (hcalls : d.calls < s.options.maxCallDepth) {i j : Nat} (hi : i < (dimensions v).1)
  (hj : j < (dimensions v).2)
include ha hvalid hcalls hi hj

theorem eval_index_entry (hr : r.ReadsInteger s d.inside (i + 1 : Nat))
    (hc : c.ReadsInteger s d.inside (j + 1 : Nat)) :
    (call "INDEX" [a, r, c]).eval s d = .ok (v.entry (i, j)).finite := by
  rw [eval_index_cell ha hvalid hcalls hr hc (by omega) (by omega), if_neg (by omega),
    if_neg (by omega)]
  rfl

theorem eval_index_row (hrect : v.Rectangular) (hr : r.ReadsInteger s d.inside (i + 1 : Nat)) :
    (call "INDEX" [a, r, .literal (.number 0)]).eval s d = .ok (Value.array [v.row i]).finite := by
  obtain ⟨x, hx, -⟩ := id hr
  rw [eval_index_cell ha hvalid hcalls hr (readsInteger_zero (lt_of_eval hx)) (by omega) (by omega),
    if_neg (by omega), if_neg (by omega), ← hrect.selectIndex_row hi]
  rfl

theorem eval_index_column (hc : c.ReadsInteger s d.inside (j + 1 : Nat)) :
    (call "INDEX" [a, .literal (.number 0), c]).eval s d =
      .ok (Value.ofColumn (v.column j)).finite := by
  obtain ⟨x, hx, -⟩ := id hc
  rw [eval_index_cell ha hvalid hcalls (readsInteger_zero (lt_of_eval hx)) hc (by omega) (by omega),
    if_neg (by omega), if_neg (by omega), ← Value.selectIndex_column]
  rfl

end

section

variable {a r c : Expr} {v : Value} (ha : a.evalArray s d.inside.inside = .ok v)
  (hvalid : v.isError = false) (hcalls : d.inside.calls < s.options.maxCallDepth) {i j : Nat}
  (hi : i < (dimensions v).1) (hj : j < (dimensions v).2)
include ha hvalid hcalls hi hj

theorem eval_index_of_row (hrect : v.Rectangular) (hr : r.ReadsInteger s d.inside.inside (i + 1 : Nat))
    (hc : c.ReadsInteger s d.inside (j + 1 : Nat)) :
    (call "INDEX" [.call "INDEX" [a, r, .literal (.number 0)], c]).eval s d =
      .ok (v.entry (i, j)).finite := by
  have hslice : (call "INDEX" [a, r, .literal (.number 0)]).evalArray s d.inside =
      .ok (Value.array [v.row i]).finite := eval_index_row ha hvalid hcalls hi hj hrect hr
  have hsize := (Value.dimensions_finite _).trans (Value.dimensions_array_row v i)
  have hselect := (eval_index_lone hslice (Value.isError_finite_of_isArray rfl)
    (Nat.lt_of_succ_lt hcalls) hc).1 (by rw [hsize]) (by rwa [hsize])
  rw [hselect, Value.finite_entry_finite, Value.entry_array_row hj]

theorem eval_index_of_column (hr : r.ReadsInteger s d.inside (i + 1 : Nat))
    (hc : c.ReadsInteger s d.inside.inside (j + 1 : Nat)) :
    (call "INDEX" [.call "INDEX" [a, .literal (.number 0), c], r]).eval s d =
      .ok (v.entry (i, j)).finite := by
  have hslice : (call "INDEX" [a, .literal (.number 0), c]).evalArray s d.inside =
      .ok (Value.ofColumn (v.column j)).finite := eval_index_column ha hvalid hcalls hi hj hc
  have hsize := (Value.dimensions_finite _).trans
    (Value.dimensions_ofColumn_column (Nat.zero_lt_of_lt hi) j)
  have hselect := (eval_index_lone hslice (Value.isError_finite_of_isArray rfl)
    (Nat.lt_of_succ_lt hcalls) hr).2 (by rw [hsize]) (by rwa [hsize])
  rw [hselect, Value.finite_entry_finite, Value.entry_ofColumn_column]

end

/-- Rows and columns selected from an array give the elements that the array gives; indexes of 0 select
all of it, and those that are not within it are errors. -/
theorem eval_index_slices {a r c : Expr} {rows : List (List Value)} {i j : Int}
    (ha : a.evalArray s d.inside = .ok (.array rows))
    (ha' : a.evalArray s d.inside.inside = .ok (.array rows)) (hrect : (Value.array rows).Rectangular)
    (hheight : 1 ≤ (dimensions (.array rows)).1) (hwidth : 1 ≤ (dimensions (.array rows)).2)
    (hr : r.ReadsInteger s d.inside i) (hr' : r.ReadsInteger s d.inside.inside i)
    (hc : c.ReadsInteger s d.inside j) (hc' : c.ReadsInteger s d.inside.inside j)
    (hcalls : d.inside.calls < s.options.maxCallDepth) :
    let zero : Expr := .literal (.number 0)
    (1 ≤ i → i ≤ (dimensions (.array rows)).1 → 1 ≤ j → j ≤ (dimensions (.array rows)).2 →
      ∃ v, v = ((Value.array rows).entry (i.toNat - 1, j.toNat - 1)).finite ∧
        (call "INDEX" [a, r, c]).eval s d = .ok v ∧
        (call "INDEX" [.call "INDEX" [a, r, zero], c]).eval s d = .ok v ∧
        (call "INDEX" [.call "INDEX" [a, zero, c], r]).eval s d = .ok v) ∧
    ((call "INDEX" [a, zero, zero]).eval s d = .ok (Value.array rows).finite ∧
      ((Value.array rows).AllFinite →
        (call "INDEX" [a, zero, zero]).eval s d = .ok (.array rows))) ∧
    (i < 0 ∨ j < 0 → (call "INDEX" [a, r, c]).eval s d =
      .ok (.error (.value "index must not be negative"))) ∧
    (0 ≤ i → 0 ≤ j → ((dimensions (.array rows)).1 : Int) < i ∨ ((dimensions (.array rows)).2 : Int) < j →
      (call "INDEX" [a, r, c]).eval s d =
        .ok (.error (.detailed .invalidReference "index is beyond the array"))) := by
  intro zero
  have hroom : d.calls < s.options.maxCallDepth := Nat.lt_of_succ_lt hcalls
  have hcell := eval_index_cell ha rfl hroom hr hc hheight hwidth
  obtain ⟨x, hx, -⟩ := id hr
  have hzero : zero.ReadsInteger s d.inside 0 := readsInteger_zero (lt_of_eval hx)
  have hall : (call "INDEX" [a, zero, zero]).eval s d = .ok (Value.array rows).finite := by
    rw [eval_index_cell ha rfl hroom hzero hzero hheight hwidth, if_neg (by omega), if_neg (by omega)]
    rfl
  refine ⟨fun hi hi' hj hj' => ?_, ⟨hall, fun hfinite => ?_⟩, fun hnegative => ?_,
    fun hi hj hbeyond => ?_⟩
  · obtain ⟨m, rfl⟩ : ∃ m : Nat, i = (m + 1 : Nat) := ⟨i.toNat - 1, by omega⟩
    obtain ⟨n, rfl⟩ : ∃ n : Nat, j = (n + 1 : Nat) := ⟨j.toNat - 1, by omega⟩
    have hm : m < (dimensions (.array rows)).1 := by omega
    have hn : n < (dimensions (.array rows)).2 := by omega
    exact ⟨_, rfl, eval_index_entry ha rfl hroom hm hn hr hc,
      eval_index_of_row ha' rfl hcalls hm hn hrect hr' hc,
      eval_index_of_column ha' rfl hcalls hm hn hr hc'⟩
  · rw [hall, hfinite.finite_eq]
  · rw [hcell, if_pos hnegative]
    exact congrArg Except.ok (Value.finite_error _)
  · rw [hcell, if_neg (by omega), if_pos hbeyond]
    exact congrArg Except.ok (Value.finite_error _)

/-- An array of two rows and columns, one of whose elements is an error. -/
theorem eval_index_slices_square :
    let s : Scope := ⟨.empty, .standard⟩
    let rows : List (List Value) := [[.number 1, .number 2], [.text "a", .error (.plain .divideByZero)]]
    let a : Expr := .array [[.literal (.number 1), .literal (.number 2)],
      [.literal (.text "a"), .literal (.error (.plain .divideByZero))]]
    let zero : Expr := .literal (.number 0)
    let one : Expr := .literal (.number 1)
    let two : Expr := .literal (.number 2)
    a.evalArray s Depth.top.inside = .ok (.array rows) ∧ (Value.array rows).Rectangular ∧
      (call "INDEX" [a, two, one]).eval s .top = .ok (.text "a") ∧
      (call "INDEX" [.call "INDEX" [a, two, zero], one]).eval s .top = .ok (.text "a") ∧
      (call "INDEX" [.call "INDEX" [a, zero, one], two]).eval s .top = .ok (.text "a") := by
  intro s rows a zero one two
  have ha : a.evalArray s Depth.top.inside = .ok (.array rows) := rfl
  have ha' : a.evalArray s Depth.top.inside.inside = .ok (.array rows) := rfl
  have hrect : (Value.array rows).Rectangular := ⟨2, by simp [rows, Value.isArray]⟩
  have htwo (d : Depth) (h : d.nodes < 1024) : two.ReadsInteger s d 2 :=
    ⟨.number 2, eval_literal h _, congrArg Except.ok (by decide +kernel)⟩
  have hone (d : Depth) (h : d.nodes < 1024) : one.ReadsInteger s d 1 :=
    ⟨.number 1, eval_literal h _, congrArg Except.ok (by decide +kernel)⟩
  obtain ⟨hcells, -⟩ := eval_index_slices ha ha' hrect (by decide) (by decide) (htwo _ (by decide))
    (htwo _ (by decide)) (hone _ (by decide)) (hone _ (by decide)) (by decide)
  obtain ⟨v, hv, hcell, hrow, hcolumn⟩ := hcells (by decide) (by decide) (by decide) (by decide)
  obtain rfl : v = .text "a" := hv.trans (Value.finite_text _)
  exact ⟨ha, hrect, hcell, hrow, hcolumn⟩

end Formula.Expr

end Spreadsheet
