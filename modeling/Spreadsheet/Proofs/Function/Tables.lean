import Spreadsheet.Proofs.Function.Bounds
import Spreadsheet.Proofs.Function.Shapes
import Spreadsheet.Proofs.Number.Whole

/-! Tables and their rows and columns. Lookups, `MATCH` and `INDEX` on tables, for arguments that are read
as positions within them. -/

namespace Spreadsheet

namespace Value

/-- The integer that a value is read as where a position is meant. -/
def toInteger (v : Value) : Except CellError Int := v.toNumber.map Number.truncToInt

def row (v : Value) (i : Nat) : List Value :=
  (List.range (Function.dimensions v).2).map fun j => v.entry (i, j)

def column (v : Value) (j : Nat) : List Value :=
  (List.range (Function.dimensions v).1).map fun i => v.entry (i, j)

/-- The array with a single column. -/
def ofColumn (vs : List Value) : Value := array (vs.map fun v => [v])

def transpose (v : Value) : Value := array ((List.range (Function.dimensions v).2).map v.column)

variable {v : Value}

theorem single_of_toNumber {x : Float} (h : v.toNumber = .ok x) :
    v.isArray = false ∧ v.isError = false := by
  cases v with
  | error e => cases h
  | array rows => cases h
  | _ => exact ⟨rfl, rfl⟩

theorem exists_of_toInteger {n : Int} (h : v.toInteger = .ok n) :
    ∃ x, v.toNumber = .ok x ∧ Number.truncToInt x = n := by
  rw [toInteger] at h
  cases hx : v.toNumber with
  | error e =>
    rw [hx] at h
    cases h
  | ok x =>
    rw [hx] at h
    exact ⟨x, rfl, Except.ok.inj h⟩

theorem single_of_toInteger {n : Int} (h : v.toInteger = .ok n) :
    v.isArray = false ∧ v.isError = false := by
  obtain ⟨x, hx, -⟩ := exists_of_toInteger h
  exact single_of_toNumber hx

/-- A blank is read as 0. -/
theorem ne_blank_of_toInteger {n : Int} (h : v.toInteger = .ok n) (hn : n ≠ 0) : v ≠ .blank := by
  rintro rfl
  have hzero : blank.toInteger = .ok 0 := congrArg Except.ok (by decide +kernel)
  exact hn (Except.ok.inj (h.symm.trans hzero))

theorem toInteger_ofNat {n : Nat} (h : n < 2 ^ 53) :
    (number (Number.ofNat n)).toInteger = .ok n :=
  congrArg Except.ok (Number.truncToInt_ofNat h)

theorem getElem?_column (v : Value) (i j : Nat) :
    (v.column j)[i]?.getD .blank = v.entry (i, j) := by
  rw [column, List.getElem?_map]
  by_cases hi : i < (Function.dimensions v).1
  · rw [List.getElem?_range hi]
    rfl
  · have hrow : v.toRows[i]? = none := List.getElem?_eq_none (Nat.le_of_not_lt hi)
    rw [List.getElem?_eq_none (by simpa using hi), entry, Function.elementAt?, hrow]
    rfl

theorem entry_transpose {j : Nat} (hj : j < (Function.dimensions v).2) (i : Nat) :
    v.transpose.entry (j, i) = v.entry (i, j) := by
  have hrow : v.transpose.toRows[j]? = some (v.column j) := by
    rw [transpose, toRows, List.getElem?_map, List.getElem?_range hj]
    rfl
  rw [← v.getElem?_column i j, entry.eq_def, Function.elementAt?, hrow, Option.bind_some]

theorem headD_toRows_transpose (hwidth : 0 < (Function.dimensions v).2) :
    v.transpose.toRows.headD [] = v.column 0 := by
  rw [transpose, toRows]
  cases hsize : (Function.dimensions v).2 with
  | zero => omega
  | succ n => simp [List.range_succ_eq_map]

theorem dimensions_transpose : (Function.dimensions v.transpose).1 = (Function.dimensions v).2 := by
  simp [transpose, Function.dimensions, toRows]

theorem elements_ofColumn (vs : List Value) : Function.elements (ofColumn vs) = vs := by
  rw [ofColumn, Function.elements, toRows, ← List.flatMap_def, List.flatMap_singleton']

theorem dimensions_ofColumn_le (vs : List Value) : (Function.dimensions (ofColumn vs)).2 ≤ 1 := by
  cases vs with
  | nil => exact Nat.zero_le 1
  | cons v vs => exact Nat.le_refl 1

theorem entry_ofColumn (vs : List Value) (i : Nat) : (ofColumn vs).entry (i, 0) = vs[i]?.getD .blank := by
  rw [entry, Function.elementAt?, ofColumn, toRows, List.getElem?_map]
  cases vs[i]? <;> rfl

theorem selectIndex_column (v : Value) (j : Nat) :
    Function.selectIndex v.toRows 0 (j + 1) = ofColumn (v.column j) := by
  refine congrArg array (List.ext_getElem (by simp [column, Function.dimensions]) fun i hi _ => ?_)
  have hrow : i < v.toRows.length := by simpa using hi
  simp [column, entry, Function.elementAt?, hrow]

theorem dimensions_array_row (v : Value) (i : Nat) :
    Function.dimensions (array [v.row i]) = (1, (Function.dimensions v).2) := by
  simp [Function.dimensions, toRows, row]

theorem entry_array_row {j : Nat} (hj : j < (Function.dimensions v).2) (i : Nat) :
    (array [v.row i]).entry (0, j) = v.entry (i, j) := by
  change (v.row i)[j]?.getD .blank = _
  rw [row, List.getElem?_map, List.getElem?_range hj]
  rfl

theorem dimensions_ofColumn_column (hheight : 0 < (Function.dimensions v).1) (j : Nat) :
    Function.dimensions (ofColumn (v.column j)) = ((Function.dimensions v).1, 1) := by
  obtain ⟨n, hn⟩ := Nat.exists_eq_succ_of_ne_zero hheight.ne'
  rw [Function.dimensions, ofColumn, toRows, column, hn]
  simp [List.range_succ_eq_map]

theorem entry_ofColumn_column (v : Value) (i j : Nat) :
    (ofColumn (v.column j)).entry (i, 0) = v.entry (i, j) :=
  (entry_ofColumn _ i).trans (v.getElem?_column i j)

theorem dimensions_finite (v : Value) : Function.dimensions v.finite = Function.dimensions v := by
  rw [Function.dimensions, Function.dimensions, toRows_finite]
  cases v.toRows <;> simp

namespace Rectangular

variable (h : v.Rectangular)
include h

theorem transpose : v.transpose.Rectangular := by
  refine ⟨(Function.dimensions v).1, fun row hrow => ?_⟩
  obtain ⟨j, -, rfl⟩ := List.mem_map.mp hrow
  refine ⟨by simp [column], fun w hw => ?_⟩
  obtain ⟨i, -, rfl⟩ := List.mem_map.mp hw
  exact h.isArray_elementAt? i j

theorem getElem?_toRows {i : Nat} (hi : i < (Function.dimensions v).1) :
    v.toRows[i]? = some (v.row i) := by
  rw [h.toRows_eq, List.getElem?_map, List.getElem?_range hi]
  rfl

theorem headD_toRows : v.toRows.headD [] = v.row 0 := by
  cases hrows : v.toRows with
  | nil => simp [row, Function.dimensions, hrows]
  | cons r rs =>
    have hfirst : v.toRows[0]? = some (v.row 0) :=
      h.getElem?_toRows (by simp [Function.dimensions, hrows])
    rw [hrows] at hfirst
    exact Option.some.inj hfirst

theorem filterMap_head? (hwidth : 0 < (Function.dimensions v).2) :
    v.toRows.filterMap List.head? = v.column 0 := by
  have hhead (i : Nat) : (v.row i).head? = some (v.entry (i, 0)) := by
    rw [row, List.head?_map, List.head?_range, if_neg hwidth.ne']
    rfl
  have hrows : v.toRows = (List.range (Function.dimensions v).1).map v.row := h.toRows_eq
  rw [hrows, List.filterMap_map]
  simp only [Function.comp_def, hhead, List.filterMap_eq_map']
  rfl

theorem selectIndex_row {i : Nat} (hi : i < (Function.dimensions v).1) :
    Function.selectIndex v.toRows (i + 1) 0 = array [v.row i] := by
  rw [Function.selectIndex, h.getElem?_toRows hi, Option.getD_some]

end Rectangular

end Value

namespace Function

variable {args : List Value} {v : Value}

theorem intArg_eq {index : Nat} (h : args[index]? = some v) : intArg args index = v.toInteger := by
  rw [intArg, numberArg, argument, h]
  rfl

/-- A blank is read as 0, which is what is left out. -/
theorem optInt_zero_eq {index : Nat} (h : args[index]? = some v) :
    optInt args index 0 = v.toInteger := by
  rw [optInt, optNumber, optional, h]
  cases v <;> rfl

theorem tableOffset_eq {index length n : Nat} (h : args[index]? = some v) (hv : v.toInteger = .ok n)
    (hpos : 1 ≤ n) (hle : n ≤ length) : tableOffset args index length = .ok (n - 1) := by
  rw [tableOffset, intArg_eq h, hv]
  change (if (n : Int) < 1 then _ else if (length : Int) < n then _ else _) = _
  rw [if_neg (by omega), if_neg (by omega)]
  rfl

theorem lookupMode_boolean (x t c : Value) (b : Bool) :
    lookupMode [x, t, c, .boolean b] = .ok (if b then .nextSmaller else .exact) := rfl

theorem ofAnswer_position (mode : MatchMode) (x : Value) (keys : List Value) (f : Nat → Value) :
    Value.ofAnswer (position mode x keys >>= fun i => .ok (f i)) =
      (findPosition mode x keys).elim (.error (notFound x)) f := by
  rw [position]
  cases findPosition mode x keys <;> rfl

section

variable {x t c : Value} {n : Nat} (hc : c.toInteger = .ok n) (hpos : 1 ≤ n) (ht : t.Rectangular)
  (b : Bool)
include hc hpos ht

theorem ofAnswer_verticalLookup (hn : n ≤ (dimensions t).2) :
    Value.ofAnswer (verticalLookup [x, t, c, .boolean b]) =
      (findPosition (if b then .nextSmaller else .exact) x (t.column 0)).elim (.error (notFound x))
        fun i => t.entry (i, n - 1) := by
  have hoffset : tableOffset [x, t, c, .boolean b] 2 (dimensions t).2 = .ok (n - 1) :=
    tableOffset_eq rfl hc hpos hn
  rw [← ofAnswer_position, ← ht.filterMap_head? (by omega)]
  -- Column and mode are read before the search, which is all that can still fail.
  change Value.ofAnswer (tableOffset [x, t, c, .boolean b] 2 (dimensions t).2 >>= fun col =>
    lookupMode [x, t, c, .boolean b] >>= fun mode =>
      position mode x (t.toRows.filterMap List.head?) >>= fun row => .ok (t.entry (row, col))) = _
  rw [hoffset, lookupMode_boolean]
  rfl

theorem ofAnswer_horizontalLookup (hn : n ≤ (dimensions t).1) :
    Value.ofAnswer (horizontalLookup [x, t, c, .boolean b]) =
      (findPosition (if b then .nextSmaller else .exact) x (t.row 0)).elim (.error (notFound x))
        fun j => t.entry (n - 1, j) := by
  have hoffset : tableOffset [x, t, c, .boolean b] 2 (dimensions t).1 = .ok (n - 1) :=
    tableOffset_eq rfl hc hpos hn
  rw [← ofAnswer_position, ← ht.headD_toRows]
  change Value.ofAnswer (tableOffset [x, t, c, .boolean b] 2 (dimensions t).1 >>= fun row =>
    lookupMode [x, t, c, .boolean b] >>= fun mode =>
      position mode x (t.toRows.headD []) >>= fun col => .ok (t.entry (row, col))) = _
  rw [hoffset, lookupMode_boolean]
  rfl

end

theorem ofAnswer_matchPosition (x : Value) {k : Value} (hk : (dimensions k).2 ≤ 1) (m : Float) :
    Value.ofAnswer (matchPosition [x, k, .number m]) =
      (findPosition (matchModeOf (Number.truncToInt m)) x (elements k)).elim (.error (notFound x))
        fun i => .number (Number.ofNat (i + 1)) := by
  have hline : ¬(1 < (dimensions k).1 ∧ 1 < (dimensions k).2) := by omega
  rw [← ofAnswer_position]
  change Value.ofAnswer (if 1 < (dimensions k).1 ∧ 1 < (dimensions k).2 then _ else
    position _ x (elements k) >>= _) = _
  rw [if_neg hline]
  rfl

theorem lt_of_findPosition {mode : MatchMode} {x : Value} {keys : List Value} {i : Nat}
    (h : findPosition mode x keys = some i) : i < keys.length :=
  Checked.lt_of_position (by rw [position, h])

/-! ### Selections by `INDEX` -/

section

variable {r c : Value} {i j : Int} (hr : r.toInteger = .ok i)
  (hheight : 1 ≤ (dimensions v).1) (hwidth : 1 ≤ (dimensions v).2)
include hr hheight hwidth

theorem index_eq_ite (hc : c.toInteger = .ok j) : index [v, r, c] =
    if i < 0 ∨ j < 0 then .error (.value "index must not be negative")
    else if ((dimensions v).1 : Int) < i ∨ ((dimensions v).2 : Int) < j then
      .error (.detailed .invalidReference "index is beyond the array")
    else .ok (selectIndex v.toRows i.toNat j.toNat) := by
  have hposition : indexPosition [v, r, c] (dimensions v).1 (dimensions v).2 = .ok (i, j) := by
    rw [indexPosition, intArg_eq rfl, hr, optInt_zero_eq rfl, hc]
    rfl
  have hsize : ¬((dimensions v).1 = 0 ∨ (dimensions v).2 = 0) := by omega
  change (if (dimensions v).1 = 0 ∨ (dimensions v).2 = 0 then _ else
    indexPosition [v, r, c] (dimensions v).1 (dimensions v).2 >>= fun p => _) = _
  rw [if_neg hsize, hposition]
  rfl

end

variable {r c : Value} {i j : Nat}

theorem indexPosition_lone {n : Int} (hr : r.toInteger = .ok n) (height width : Nat) :
    indexPosition [v, r] height width =
      .ok (if height = 1 ∧ 1 < width then (1, n) else (n, if 1 < width then 0 else 1)) := by
  rw [indexPosition, intArg_eq rfl, hr]
  change (if height = 1 ∧ 1 < width then _ else _) = _
  split <;> rfl

/-- A lone index into a single row is that of a column. -/
theorem index_lone_row (hj : r.toInteger = .ok (j + 1 : Nat)) (hheight : (dimensions v).1 = 1)
    (hlt : j < (dimensions v).2) : index [v, r] = .ok (v.entry (0, j)) := by
  refine index_eq_entry rfl ⟨?_, mem_positions.mpr ⟨hheight ▸ Nat.one_pos, hlt⟩⟩
  rw [indexPosition_lone hj]
  -- In an array of one element the index is that of the row, which is the same.
  by_cases hwide : 1 < (dimensions v).2
  · rw [if_pos ⟨hheight, hwide⟩]
    rfl
  · obtain rfl : j = 0 := by omega
    rw [if_neg fun h => hwide h.2, if_neg hwide]
    rfl

theorem index_lone_column (hi : r.toInteger = .ok (i + 1 : Nat)) (hwidth : (dimensions v).2 = 1)
    (hlt : i < (dimensions v).1) : index [v, r] = .ok (v.entry (i, 0)) := by
  refine index_eq_entry rfl ⟨?_, mem_positions.mpr ⟨hlt, hwidth ▸ Nat.one_pos⟩⟩
  rw [indexPosition_lone hi, if_neg (by omega), if_neg (by omega)]
  rfl

end Function

end Spreadsheet
