import Spreadsheet.Proofs.Function.Call
import Spreadsheet.Proofs.Function.Unreached

/-! References to one cell where a function takes arrays. A reference is as good as the range of its
cell alone, unless the cell holds a `#REF!` error: the reference then counts as an error itself, as
if its cell were outside the sheet. -/

namespace Spreadsheet

namespace Range

theorem cellCount_single (a : Address) : (single a).cellCount = 1 := by
  simp [cellCount, rowCount, colCount, single]

end Range

namespace Sheet

theorem valueAt_of_isValid (s : Sheet) {a : Address} (ha : a.isValid = true) :
    s.valueAt a = .ofCell (s.get a) :=
  if_pos ha

theorem rangeValues_single (s : Sheet) {a : Address} (ha : a.isValid = true) {limit : Nat}
    (hlimit : 1 ≤ limit) : s.rangeValues limit (.single a) = .array [[.ofCell (s.get a)]] := by
  have hinside : (!(Range.single a).first.isValid || !(Range.single a).last.isValid) = false := by
    simp [Range.single, ha]
  have hwhole : ¬limit < (Range.single a).cellCount := by
    rw [Range.cellCount_single]
    exact Nat.not_lt.mpr hlimit
  rw [rangeValues, hinside, if_neg Bool.false_ne_true, if_neg hwhole]
  simp [block, Range.single, Range.rowCount, Range.colCount, get]

end Sheet

namespace Formula.Expr

variable {s : Scope} {d : Depth} {a : Address}

theorem array_delay_reference (ha : a.isValid = true) (hlimit : 1 ≤ s.options.maxRangeCells)
    (hcell : ∀ e, s.sheet.get a = .error e → e.kind ≠ .invalidReference) :
    (delay s d (reference a)).array () = (delay s d (range (.single a))).array () := by
  simp only [delay, arrayArgument]
  refine bind_congr_of_ok fun _ _ => ?_
  rw [s.sheet.rangeValues_single ha hlimit, s.sheet.valueAt_of_isValid ha]
  cases hget : s.sheet.get a with
  | error e => simp only [Value.ofCell, if_neg (hcell e hget)]
  | _ => rfl

theorem array_delay_reference_error (ha : a.isValid = true) {e : CellError}
    (hcell : s.sheet.get a = .error e) (he : e.kind = .invalidReference) :
    (delay s d (reference a)).array () = (delay s d (literal (.error e))).array () := by
  simp only [delay, arrayArgument, eval]
  rw [s.sheet.valueAt_of_isValid ha, hcell]
  simp only [Value.ofCell, if_pos he]

/-- Where a function takes an array, expressions that are the same array stand for one another. -/
theorem eval_call_set_congr {f : Function} {name : String} (hfind : Function.find? name = some f)
    (heager : f.isDelayed = false) {i : Nat} (hkind : f.argKind i = .array) (args : List Expr)
    {x y : Expr} (h : (delay s d.enterNode.enterCall x).array () =
      (delay s d.enterNode.enterCall y).array ()) :
    (call name (args.set i x)).eval s d = (call name (args.set i y)).eval s d := by
  have hlength : (delayList s d.enterNode.enterCall (args.set i x)).length =
      (delayList s d.enterNode.enterCall (args.set i y)).length := by
    simp only [length_delayList, List.length_set]
  have hrun : f.run (delayList s d.enterNode.enterCall (args.set i x)) =
      f.run (delayList s d.enterNode.enterCall (args.set i y)) := by
    refine Function.run_congr_of_evalArguments heager
      (f.evalArguments_congr 0 hlength fun j b c hb hc _ => ?_)
    rw [getElem?_delayList] at hb hc
    rw [Nat.zero_add]
    by_cases hj : j = i
    · subst hj
      have hsize : j < args.length := by
        obtain ⟨_, hx, -⟩ := Option.map_eq_some_iff.mp hb
        simpa using (List.getElem?_eq_some_iff.mp hx).1
      rw [List.getElem?_set_self hsize, Option.map_some] at hb hc
      obtain rfl := Option.some.inj hb
      obtain rfl := Option.some.inj hc
      unfold Function.evalArgument
      rw [hkind]
      exact h
    · rw [List.getElem?_set_ne (Ne.symm hj)] at hb hc
      rw [Option.some.inj (hb.symm.trans hc)]
  have hcall : Function.call s.options d.enterNode name
        (delayList s d.enterNode.enterCall (args.set i x)) =
      Function.call s.options d.enterNode name
        (delayList s d.enterNode.enterCall (args.set i y)) := by
    rw [Function.call_eq, Function.call_eq, hfind, hlength]
    simp only [hrun]
  rw [eval, eval, hcall]

/-- In place of an array a reference to a cell inside the sheet is the range of that cell, or the
error that the cell holds if that is `#REF!`. -/
theorem eval_call_reference {f : Function} {name : String} (hfind : Function.find? name = some f)
    (heager : f.isDelayed = false) {i : Nat} (hkind : f.argKind i = .array) (ha : a.isValid = true)
    (hlimit : 1 ≤ s.options.maxRangeCells) (args : List Expr) :
    ((∀ e, s.sheet.get a = .error e → e.kind ≠ .invalidReference) →
      (call name (args.set i (reference a))).eval s d =
        (call name (args.set i (range (.single a)))).eval s d) ∧
    ∀ e, s.sheet.get a = .error e → e.kind = .invalidReference →
      (call name (args.set i (reference a))).eval s d =
        (call name (args.set i (literal (.error e)))).eval s d := by
  constructor
  · intro hcell
    exact eval_call_set_congr hfind heager hkind args (array_delay_reference ha hlimit hcell)
  · intro e hcell he
    exact eval_call_set_congr hfind heager hkind args (array_delay_reference_error ha hcell he)

/-- `COUNT` takes a reference to a cell with `#N/A` like the range of that cell. -/
theorem eval_call_reference_missing :
    let s : Scope := ⟨⟨[], #[#[.error (.plain .notAvailable)]]⟩, .standard⟩
    let a : Address := .relative 0 0
    let f := Function.aggregationFunctions[3]
    Function.find? "COUNT" = some f ∧ f.isDelayed = false ∧ f.argKind 0 = .array ∧
      a.isValid = true ∧ 1 ≤ s.options.maxRangeCells ∧
      (∀ e, s.sheet.get a = .error e → e.kind ≠ .invalidReference) ∧
      (call "COUNT" [reference a]).eval s .top = (call "COUNT" [range (.single a)]).eval s .top := by
  intro s a f
  have hfind : Function.find? "COUNT" = some f :=
    Function.find?_of_mem (Function.mem_all_of_aggregation (List.getElem_mem _)) (by decide +kernel)
  have hcell (e : CellError) (he : s.sheet.get a = .error e) : e.kind ≠ .invalidReference := by
    have hstored : CellError.plain .notAvailable = e := Cell.error.inj he
    subst hstored
    decide
  have hsame := (eval_call_reference (s := s) (d := .top) (a := a) (i := 0) hfind rfl rfl
    (by decide) (by decide) [reference a]).1 hcell
  exact ⟨hfind, rfl, rfl, by decide, by decide, hcell, hsame⟩

/-- The range of a cell with `#REF!` has no number in it, and a reference to the cell is an error. -/
theorem eval_call_reference_ne_range :
    let s : Scope := ⟨⟨[], #[#[.error (.plain .invalidReference)]]⟩, .standard⟩
    let a : Address := .relative 0 0
    let f := Function.aggregationFunctions[3]
    Function.find? "COUNT" = some f ∧ f.isDelayed = false ∧ f.argKind 0 = .array ∧
      a.isValid = true ∧ 1 ≤ s.options.maxRangeCells ∧
      (call "COUNT" [reference a]).eval s .top = .ok (.error (.plain .invalidReference)) ∧
      (call "COUNT" [range (.single a)]).eval s .top = .ok (.number (Number.ofNat 0)) := by
  intro s a f
  have hfind : Function.find? "COUNT" = some f :=
    Function.find?_of_mem (Function.mem_all_of_aggregation (List.getElem_mem _)) (by decide +kernel)
  refine ⟨hfind, rfl, rfl, by decide, by decide, ?_, ?_⟩
  · rw [eval_call (v := .error (.plain .invalidReference)) hfind rfl rfl rfl rfl,
      Value.finite_eq_self (by simp) (by simp)]
  · have hfinite : Number.isFinite (Number.ofNat 0) = true := by decide +kernel
    rw [eval_call (v := .number (Number.ofNat 0)) hfind rfl rfl rfl rfl, Value.finite_number,
      if_pos hfinite]

end Formula.Expr

end Spreadsheet
