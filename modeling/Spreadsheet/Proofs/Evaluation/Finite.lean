import Spreadsheet.Proofs.Evaluation.Invariant
import Spreadsheet.Proofs.Number.Quotient

/-! Finite numbers. Where the cells and the literals are finite, an evaluation gives only finite
numbers: operators check their results or keep numbers finite, and a call replaces what is not finite
in the result of its function, whatever the function does. -/

namespace Spreadsheet

open Number

namespace Value

/-- A number in a value, which is the value itself or stands in an array. -/
inductive HasNumber (x : Float) : Value → Prop
  | self : HasNumber x (number x)
  | element {rows : List (List Value)} {row : List Value} {v : Value} : row ∈ rows → v ∈ row →
      HasNumber x v → HasNumber x (array rows)

/-- Whether all numbers in a value are finite. -/
def AllFinite (v : Value) : Prop := ∀ x, HasNumber x v → isFinite x = true

theorem allFinite_of_isArray {v : Value} (hv : v.isArray = false)
    (h : ∀ x, v = number x → isFinite x = true) : v.AllFinite := by
  intro x hx
  cases hx with
  | self => exact h x rfl
  | element => cases hv

theorem allFinite_error (e : CellError) : (error e).AllFinite :=
  allFinite_of_isArray rfl (by simp)

theorem allFinite_number {x : Float} (hx : isFinite x = true) : (number x).AllFinite := by
  intro y hy
  cases hy with
  | self => exact hx

theorem allFinite_array {rows : List (List Value)}
    (h : ∀ row ∈ rows, ∀ v ∈ row, v.AllFinite) : (array rows).AllFinite := by
  intro x hx
  cases hx with
  | element hrow hv hx => exact h _ hrow _ hv x hx

/-- What a call makes of the result of a function has only finite numbers. -/
theorem allFinite_finite (v : Value) : v.finite.AllFinite := by
  fun_induction finite v with
  | case1 x hx => exact allFinite_number hx
  | case2 x hx => exact allFinite_error _
  | case3 rows ih =>
    refine allFinite_array fun row hrow v hv => ?_
    obtain ⟨cells, hcells, rfl⟩ := List.mem_map.mp hrow
    obtain ⟨w, hw, rfl⟩ := List.mem_map.mp hv
    exact ih cells hcells w hw
  | case4 v hnumber harray =>
    intro x hx
    cases hx with
    | self => exact absurd rfl (hnumber x)
    | element => exact absurd rfl (harray _)

theorem allFinite_ofAnswer {r : Except CellError Value} (h : Gives AllFinite r) :
    (ofAnswer r).AllFinite := by
  cases r with
  | error e => exact allFinite_error e
  | ok v => exact h v rfl

theorem isFinite_zero : isFinite 0 = true := by decide +kernel

theorem isFinite_one : isFinite 1 = true := by decide +kernel

theorem isFinite_ofText? {s : String} {x : Float} (h : ofText? s = some x) : isFinite x = true :=
  (Option.filter_eq_some_iff.mp h).2

theorem gives_toNumber {v : Value} (hv : v.AllFinite) : Gives (isFinite · = true) v.toNumber := by
  cases v with
  | blank => simpa [toNumber] using isFinite_zero
  | number x => simpa [toNumber] using hv x .self
  | boolean b => cases b <;> simp [toNumber, isFinite_zero, isFinite_one]
  | text s =>
    simp only [toNumber]
    split
    · exact gives_ok.mpr (isFinite_ofText? ‹_›)
    · exact gives_error
  | error e => exact gives_error
  | array rows => exact gives_error

theorem gives_ofResult (x : Float) : Gives AllFinite (ofResult x) := by
  rw [ofResult]
  split
  · exact gives_ok.mpr (allFinite_number ‹_›)
  · exact gives_error

end Value

namespace Formula

open Value

/-- A binary operation gives finite numbers even for operands that are not finite. -/
theorem BinaryOp.gives_apply (op : BinaryOp) (v w : Value) : Gives AllFinite (op.apply v w) := by
  have harithmetic (f : Float → Float → Except CellError Float) :
      Gives AllFinite (arithmetic f v w) :=
    gives_bind fun _ => gives_bind fun _ => gives_bind gives_ofResult
  have hconcat : Gives AllFinite (Value.concat v w) :=
    gives_bind fun _ => gives_bind fun _ => gives_ok.mpr (allFinite_of_isArray rfl nofun)
  have hcompare (c : Comparison) : Gives AllFinite (compareWith c v w) :=
    gives_ite gives_error (gives_ok.mpr (allFinite_of_isArray rfl nofun))
  cases op with
  | concat => exact hconcat
  | add | subtract | multiply | divide | power => exact harithmetic _
  | _ => exact hcompare _

theorem UnaryOp.gives_apply (op : UnaryOp) {v : Value} (hv : v.AllFinite) :
    Gives AllFinite (op.apply v) := by
  cases op with
  | negate =>
    exact (gives_toNumber hv).bind_of_gives fun x hx =>
      gives_ok.mpr (allFinite_number (isFinite_neg hx))
  | percent =>
    exact (gives_toNumber hv).bind_of_gives fun x hx =>
      gives_ok.mpr (allFinite_number (isFinite_div_hundred hx))
  | plus =>
    cases v with
    | array rows => exact gives_error
    | _ => exact gives_ok.mpr hv

end Formula

open Formula

/-- Whether all numbers in the cells of a sheet are finite. -/
def Sheet.AllFinite (s : Sheet) : Prop :=
  ∀ row col x, s.cellAt row col = .number x → isFinite x = true

namespace Sheet

variable {s : Sheet} (h : s.AllFinite)
include h

theorem AllFinite.ofCell_cellAt (row col : Nat) : (Value.ofCell (s.cellAt row col)).AllFinite := by
  cases hcell : s.cellAt row col with
  | number x => exact Value.allFinite_number (h row col x hcell)
  | _ => exact Value.allFinite_of_isArray rfl nofun

theorem AllFinite.valueAt (a : Address) : (s.valueAt a).AllFinite := by
  rw [Sheet.valueAt]
  split
  · exact h.ofCell_cellAt a.row a.col
  · exact Value.allFinite_error _

theorem AllFinite.block (top left height width : Nat) :
    (s.block top left height width).AllFinite := by
  refine Value.allFinite_array fun row hrow v hv => ?_
  obtain ⟨i, -, rfl⟩ := List.mem_map.mp hrow
  obtain ⟨j, -, rfl⟩ := List.mem_map.mp hv
  exact h.ofCell_cellAt _ _

theorem AllFinite.rangeValues (limit : Nat) (r : Range) : (s.rangeValues limit r).AllFinite := by
  rw [Sheet.rangeValues, clippedValues]
  split
  · exact Value.allFinite_error _
  · split
    · split
      · exact Value.allFinite_array (List.forall_mem_nil _)
      · split
        · exact Value.allFinite_error _
        · exact h.block _ _ _ _
    · exact h.block _ _ _ _

end Sheet

theorem invariant_allFinite {s : Sheet} (hs : s.AllFinite) (o : EvaluationOptions) :
    Invariant Value.AllFinite ⟨s, o⟩
      fun e => ∀ x, e = .literal (.number x) → isFinite x = true where
  single hv h := Value.allFinite_of_isArray hv h
  cell _ hv := Value.allFinite_array fun row hrow w hw => by
    obtain rfl := List.mem_singleton.mp hrow
    obtain rfl := List.mem_singleton.mp hw
    exact hv
  finite _ := Value.allFinite_finite _
  binary _ _ := Value.allFinite_ofAnswer (BinaryOp.gives_apply _ _ _)
  unary hv := Value.allFinite_ofAnswer (UnaryOp.gives_apply _ hv)
  literal {c} h := by
    cases c with
    | number x => exact Value.allFinite_number (h x rfl)
    | _ => exact Value.allFinite_of_isArray rfl nofun
  reference _ := hs.valueAt _
  range _ := hs.rangeValues _ _
  constant _ _ hvss := Value.allFinite_array fun vs hvs v hv => (hvss vs hvs v hv).2
  eager _ _ _ _ := Value.allFinite_finite _

theorem Function.gives_call (o : EvaluationOptions) (d : Depth) (name : String)
    (args : List Delayed) : Gives Value.AllFinite (call o d name args) := by
  rw [call_eq]
  split
  · exact gives_ok.mpr (Value.allFinite_error _)
  · split
    · exact gives_ok.mpr (Value.allFinite_error _)
    · exact gives_bind fun _ => gives_bind fun v => gives_ok.mpr v.allFinite_finite

/-- Where the cells and the number literals are finite, every number in the value of an expression is
finite. It does not matter what functions do: a call gives finite numbers for any arguments, as any
result of a function is made finite. -/
theorem Sheet.evaluate_allFinite {s : Sheet} (hs : s.AllFinite) (o : EvaluationOptions)
    {e : Expr} (he : ∀ x, .literal (.number x) ∈ e.subterms → isFinite x = true) :
    (∀ v, s.evaluate o e = .ok v → v.AllFinite) ∧
      (∀ d name args v, Function.call o d name args = .ok v → v.AllFinite) ∧
      ∀ v : Value, v.finite.AllFinite := by
  refine ⟨fun v hv => (invariant_allFinite hs o).eval (d := .top) ?_ hv,
    fun d name args => Function.gives_call o d name args, Value.allFinite_finite⟩
  rintro _ hx x rfl
  exact he x hx

/-- An array with a quotient and a percentage, on a sheet with a number and a text that spells one. -/
theorem Sheet.evaluate_allFinite_percentage :
    let s : Sheet := ⟨[], #[#[.number 1, .text "2"]]⟩
    let e : Expr := .array [[.binary .divide (.reference (.relative 0 0)) (.literal (.number 1)),
      .unary .percent (.reference (.relative 0 1))]]
    s.AllFinite ∧ ∃ v, s.evaluate .standard e = .ok v ∧ v.isArray = true ∧ v.AllFinite := by
  intro s e
  have hs : s.AllFinite := by
    rintro (_ | row) (_ | _ | col) x hx
    · cases hx
      exact Value.isFinite_one
    all_goals simp [s, cellAt] at hx
  have he : ∀ x, .literal (.number x) ∈ e.subterms → isFinite x = true := by
    intro x hx
    simp [e, Expr.subterms, Expr.subtermsOfRows, Expr.subtermsOfList] at hx
    exact hx ▸ Value.isFinite_one
  obtain ⟨v, hv⟩ : ∃ v, s.evaluate .standard e = .ok (.array v) := ⟨_, rfl⟩
  exact ⟨hs, _, hv, rfl, (evaluate_allFinite hs .standard he).1 _ hv⟩

end Spreadsheet
