import Spreadsheet.Proofs.Function.Rectangular

/-! Indexes. The functions that index lists directly are written once more with indexes that may be
out of bounds; on rectangular arguments of an accepted number none of them is, and the functions
agree. -/

namespace Spreadsheet

/-- A computation that has no outcome when it indexes out of bounds. -/
abbrev Checked (α : Type) := ExceptT CellError Option α

namespace Checked

variable {α β : Type}

/-- A computation without such an index. -/
def answer (r : Except CellError α) : Checked α := ExceptT.mk (some r)

def get (xs : List α) (i : Nat) : Checked α := ExceptT.mk (xs[i]?.map .ok)

/-- The first `n` elements, which must be there. -/
def firsts (xs : List α) (n : Nat) : Checked (List α) :=
  ExceptT.mk (if n ≤ xs.length then some (.ok (xs.take n)) else none)

theorem get_eq {xs : List α} {i : Nat} {x : α} (h : xs[i]? = some x) :
    get xs i = answer (.ok x) := by
  rw [get, h]
  rfl

theorem answer_bind_eq {r : Except CellError α} {f : α → Checked β} {g : α → Except CellError β}
    (h : ∀ a, r = .ok a → f a = answer (g a)) : answer r >>= f = answer (r >>= g) := by
  cases r with
  | error e => rfl
  | ok a => exact h a rfl

theorem mapM_eq {xs : List α} {f : α → Checked β} {g : α → β}
    (h : ∀ x ∈ xs, f x = answer (.ok (g x))) : xs.mapM f = answer (.ok (xs.map g)) := by
  induction xs with
  | nil => rfl
  | cons x xs ih =>
    obtain ⟨hx, hxs⟩ := List.forall_mem_cons.mp h
    rw [List.mapM_cons, hx, ih hxs]
    rfl

def verticalLookup (args : List Value) : Checked Value := do
  let v ← get args 0
  let table ← get args 1
  let col ← answer (Function.tableOffset args 2 (Function.dimensions table).2)
  let mode ← answer (Function.lookupMode args)
  let row ← answer (Function.position mode v (table.toRows.filterMap List.head?))
  let cells ← get table.toRows row
  return (cells[col]?).getD .blank

def horizontalLookup (args : List Value) : Checked Value := do
  let v ← get args 0
  let table ← get args 1
  let row ← answer (Function.tableOffset args 2 (Function.dimensions table).1)
  let mode ← answer (Function.lookupMode args)
  let col ← answer (Function.position mode v (table.toRows.headD []))
  let cells ← get table.toRows row
  return (cells[col]?).getD .blank

def selectIndex (rows : List (List Value)) (row col : Nat) : Checked Value :=
  match row, col with
  | 0, 0 => return .array rows
  | 0, c + 1 => do return .array (← rows.mapM fun r => do return [← get r c])
  | r + 1, 0 => do return .array [← get rows r]
  | r + 1, c + 1 => do get (← get rows r) c

def index (args : List Value) : Checked Value := do
  let v ← get args 0
  let (height, width) := Function.dimensions v
  if height = 0 ∨ width = 0 then answer (.error (.plain .invalidReference))
  else
    let (row, col) ← answer (Function.indexPosition args height width)
    if row < 0 ∨ col < 0 then answer (.error (.value "index must not be negative"))
    else if (height : Int) < row ∨ (width : Int) < col then
      answer (.error (.detailed .invalidReference "index is beyond the array"))
    else selectIndex v.toRows row.toNat col.toNat

def matchPosition (args : List Value) : Checked Value := do
  let v ← get args 0
  let table ← get args 1
  let (height, width) := Function.dimensions table
  if 1 < height ∧ 1 < width then
    answer (.error (.notAvailable "lookup_array must be a single row or column"))
  else
    let mode := Function.matchModeOf (← answer (Function.optInt args 2 1))
    let position ← answer (Function.position mode v (Function.elements table))
    return .number (Number.ofNat (position + 1))

def kth (arrange : List Float → List Float) (args : List Value) : Checked Value := do
  let first ← firsts args 1
  let xs := arrange (Function.sorted (← answer (Function.collectNumbers .numbers first)))
  let k := Number.ceilToInt (← answer (Function.numberArg args 1))
  if k < 1 ∨ xs.length < k then answer (.error (.num s!"k must be between 1 and {xs.length}"))
  else return .number (← get xs (k.toNat - 1))

def median (xs : List Float) : Checked Float :=
  let ys := Function.sorted xs
  let n := ys.length
  if n = 0 then answer (.error (.num "MEDIAN of no numbers"))
  else if n % 2 = 0 then do
    let lower ← get ys (n / 2 - 1)
    let upper ← get ys (n / 2)
    return (lower + upper) / 2
  else get ys (n / 2)

def medianOf (args : List Value) : Checked Value := do
  let xs ← answer (Function.collectNumbers .numbers args)
  return .number (← median xs)

/-- The functions whose indexes are checked, by name. -/
def find? : String → Option (List Value → Checked Value)
  | "VLOOKUP" => some verticalLookup
  | "HLOOKUP" => some horizontalLookup
  | "INDEX" => some index
  | "MATCH" => some matchPosition
  | "LARGE" => some (kth List.reverse)
  | "SMALL" => some (kth id)
  | "MEDIAN" => some medianOf
  | _ => none

section

variable {args : List Value}

theorem get_argument {i : Nat} (h : i < args.length) :
    get args i = answer (Function.argument args i) := by
  rw [Function.argument, List.getElem?_eq_getElem h]
  exact get_eq (List.getElem?_eq_getElem h)

theorem lt_of_tableOffset {i length n : Nat} (h : Function.tableOffset args i length = .ok n) :
    n < length := by
  obtain ⟨m, -, h⟩ := exists_ok_of_bind h
  split at h
  · cases h
  · split at h
    · cases h
    · cases h
      omega

theorem lt_of_findNearest {within : Ordering → Bool} {v : Value} {best : Option Nat}
    {position i : Nat} {keys : List Value} (hbest : ∀ b, best = some b → b < position + keys.length)
    (h : Function.findNearest within v best position keys = some i) :
    i < position + keys.length := by
  induction keys generalizing best position with
  | nil => exact hbest i h
  | cons key keys ih =>
    have hlength : position + 1 + keys.length = position + (key :: keys).length := by
      rw [List.length_cons]
      omega
    rw [Function.findNearest] at h
    rw [← hlength] at hbest ⊢
    split at h
    · exact ih hbest h
    · simp only at h
      split at h
      · exact hbest i h
      · split at h
        · cases h
          omega
        · refine ih (fun b hb => ?_) h
          cases hb
          omega

/-- A position lies among the keys. -/
theorem lt_of_position {mode : Function.MatchMode} {v : Value} {keys : List Value} {i : Nat}
    (h : Function.position mode v keys = .ok i) : i < keys.length := by
  rw [Function.position] at h
  split at h
  · rename_i j hfound
    cases h
    have hnearest (within : Ordering → Bool)
        (hfound : Function.findNearest within v none 0 keys = some i) : i < keys.length := by
      rw [← Nat.zero_add keys.length]
      exact lt_of_findNearest (fun b hb => by cases hb) hfound
    cases mode with
    | exact => exact (List.findIdx?_eq_some_iff_findIdx_eq.mp hfound).1
    | nextSmaller => exact hnearest _ hfound
    | nextLarger => exact hnearest _ hfound
  · cases h

theorem verticalLookup_eq (hlength : 2 ≤ args.length) :
    verticalLookup args = answer (Function.verticalLookup args) := by
  rw [verticalLookup, get_argument (by omega), get_argument (by omega), Function.verticalLookup]
  refine answer_bind_eq fun v _ => answer_bind_eq fun table _ => answer_bind_eq fun col _ =>
    answer_bind_eq fun mode _ => answer_bind_eq fun row hrow => ?_
  have hlt : row < table.toRows.length :=
    Nat.lt_of_lt_of_le (lt_of_position hrow) (List.length_filterMap_le _ _)
  have hcells := List.getElem?_eq_getElem hlt
  rw [get_eq hcells, Function.elementAt?, hcells]
  rfl

theorem horizontalLookup_eq (hlength : 2 ≤ args.length) :
    horizontalLookup args = answer (Function.horizontalLookup args) := by
  rw [horizontalLookup, get_argument (by omega), get_argument (by omega),
    Function.horizontalLookup]
  refine answer_bind_eq fun v _ => answer_bind_eq fun table _ => answer_bind_eq fun row hrow =>
    answer_bind_eq fun mode _ => answer_bind_eq fun col _ => ?_
  have hcells := List.getElem?_eq_getElem (lt_of_tableOffset hrow)
  rw [get_eq hcells, Function.elementAt?, hcells]
  rfl

theorem selectIndex_eq {v : Value} (hv : v.Rectangular) {row col : Nat}
    (hrow : row ≤ (Function.dimensions v).1) (hcol : col ≤ (Function.dimensions v).2) :
    selectIndex v.toRows row col = answer (.ok (Function.selectIndex v.toRows row col)) := by
  have hcells {c : Nat} (hc : c + 1 ≤ (Function.dimensions v).2) {r : List Value}
      (hr : r ∈ v.toRows) : get r c = answer (.ok ((r[c]?).getD .blank)) := by
    have hlt : c < r.length := hv.length_row hr ▸ hc
    rw [get_eq (List.getElem?_eq_getElem hlt), List.getElem?_eq_getElem hlt]
    rfl
  have hrows {r : Nat} (hr : r + 1 ≤ (Function.dimensions v).1) :
      ∃ cells, v.toRows[r]? = some cells ∧ get v.toRows r = answer (.ok cells) :=
    ⟨_, List.getElem?_eq_getElem hr, get_eq (List.getElem?_eq_getElem hr)⟩
  cases row with
  | zero =>
    cases col with
    | zero => rfl
    | succ c =>
      have hcolumn : v.toRows.mapM (fun r => do return [← get r c]) =
          answer (.ok (v.toRows.map fun r => [(r[c]?).getD .blank])) :=
        mapM_eq fun r hr => by rw [hcells hcol hr]; rfl
      rw [selectIndex, hcolumn]
      rfl
  | succ r =>
    obtain ⟨cells, hcells', hget⟩ := hrows hrow
    cases col with
    | zero =>
      rw [selectIndex, hget, Function.selectIndex, hcells']
      rfl
    | succ c =>
      rw [selectIndex, hget, Function.selectIndex, hcells']
      exact hcells hcol (List.mem_of_getElem? hcells')

theorem index_eq (hlength : 1 ≤ args.length) (hargs : ∀ v ∈ args, v.Rectangular) :
    index args = answer (Function.index args) := by
  rw [index, get_argument hlength, Function.index]
  refine answer_bind_eq fun v hv => ?_
  have hrect : v.Rectangular := Function.gives_argument hargs 0 v hv
  simp only
  split
  · rfl
  · refine answer_bind_eq fun position _ => ?_
    split
    · rfl
    · split
      · rfl
      · exact selectIndex_eq hrect (by omega) (by omega)

theorem matchPosition_eq (hlength : 2 ≤ args.length) :
    matchPosition args = answer (Function.matchPosition args) := by
  rw [matchPosition, get_argument (by omega), get_argument (by omega), Function.matchPosition]
  refine answer_bind_eq fun v _ => answer_bind_eq fun table _ => ?_
  simp only
  split
  · rfl
  · exact answer_bind_eq fun _ _ => answer_bind_eq fun _ _ => rfl

theorem kth_eq (arrange : List Float → List Float) (hlength : 1 ≤ args.length) :
    kth arrange args = answer (Function.kth arrange args) := by
  have hfirst : firsts args 1 = answer (.ok (args.take 1)) := by
    rw [firsts, if_pos hlength]
    rfl
  rw [kth, hfirst, Function.kth]
  refine (answer_bind_eq fun numbers _ => answer_bind_eq fun k _ => ?_ :
    (answer (Function.collectNumbers .numbers (args.take 1)) >>= _) = _)
  simp only
  generalize arrange (Function.sorted numbers) = xs
  generalize Number.ceilToInt k = n
  by_cases hlow : 1 ≤ n
  · by_cases hhigh : n ≤ xs.length
    · have hlt : n.toNat - 1 < xs.length := by omega
      have hget := List.getElem?_eq_getElem hlt
      rw [if_neg (by omega), if_pos hlow, get_eq hget, hget]
      rfl
    · rw [if_pos (by omega), if_pos hlow, List.getElem?_eq_none (by omega)]
  · rw [if_pos (by omega), if_neg hlow]

end

end Checked

namespace Function

/-- How many arguments a function reads by position without asking whether they were given. -/
def positional : String → Nat
  | "FORECAST" | "FORECAST.LINEAR" => 3
  | "VLOOKUP" | "HLOOKUP" | "MATCH" | "SUMIF" | "COUNTIF" | "AVERAGEIF" | "CORREL" | "PEARSON"
  | "SLOPE" | "INTERCEPT" | "RSQ" | "TEXTJOIN" | "IF" | "IFERROR" | "IFNA" => 2
  | "INDEX" | "ROWS" | "COLUMNS" | "LARGE" | "SMALL" | "SUMIFS" | "COUNTIFS" | "AVERAGEIFS"
  | "DATEVALUE" | "PERCENTILE" | "PERCENTILE.INC" | "PERCENTILE.EXC" | "QUARTILE"
  | "QUARTILE.INC" | "QUARTILE.EXC" | "LINEST" | "NPV" | "IRR" | "SUMPRODUCT" | "VALUE"
  | "SWITCH" | "CHOOSE" | "ISBLANK" | "ISERROR" | "ISERR" | "ISNA" | "ISNUMBER" | "ISTEXT"
  | "ISLOGICAL" | "ERROR.TYPE" => 1
  | _ => 0

theorem minArgs_le {f : Function} {count : Nat} (h : f.arityError? count = none) :
    f.minArgs ≤ count := by
  by_contra hlow
  rw [arityError?, if_pos (by omega)] at h
  cases h

end Function

end Spreadsheet
