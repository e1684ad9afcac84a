import Spreadsheet.Function.Arguments
import Spreadsheet.Text.Wildcard
import Spreadsheet.Value.Order

/-! Lookup functions: finding a value among keys and taking elements of arrays by position. -/

namespace Spreadsheet.Function

/-- How a key is matched: exactly, or as the nearest one in ascending or descending keys. -/
inductive MatchMode where
  | exact
  | nextSmaller
  | nextLarger
  deriving DecidableEq

/-- Whether a key equals the value looked for. Texts are equal in any case of letters, wildcards in
the value count, and blanks equal nothing. -/
def isExactMatch : Value → Value → Bool
  | .number x, .number y => Number.compare x y == .eq
  | .boolean a, .boolean b => a == b
  | .text s, .text t =>
    if Text.hasWildcards s then Text.wildcardMatch s t else Text.lower s == Text.lower t
  | _, _ => false

/-- The last key of the value's type, from `position` on, before the first one for which `within`
fails; an equal key ends the search. `best` is the position found so far. -/
def findNearest (within : Ordering → Bool) (v : Value) (best : Option Nat) (position : Nat) :
    List Value → Option Nat
  | [] => best
  | key :: keys =>
    if key.typeName != v.typeName then findNearest within v best (position + 1) keys
    else
      let order := key.compare v
      if !within order then best
      else if order == .eq then some position
      else findNearest within v (some position) (position + 1) keys

def findPosition (mode : MatchMode) (v : Value) (keys : List Value) : Option Nat :=
  match mode with
  | .exact => keys.findIdx? (isExactMatch v)
  | .nextSmaller => findNearest (· != .gt) v none 0 keys
  | .nextLarger => findNearest (· != .lt) v none 0 keys

def notFound (v : Value) : CellError := .notAvailable s!"{v.display} not found"

/-- The position of a value among keys, or the error that it is not there. -/
def position (mode : MatchMode) (v : Value) (keys : List Value) : Except CellError Nat :=
  match findPosition mode v keys with
  | some i => .ok i
  | none => .error (notFound v)

/-- A number counted from 1 up to `length`, as an offset from 0. -/
def tableOffset (args : List Value) (index length : Nat) : Except CellError Nat := do
  let n ← intArg args index
  if n < 1 then .error (.value "index must be at least 1")
  else if (length : Int) < n then
    .error (.detailed .invalidReference
      s!"index {Number.display (Number.ofInt n)} is beyond the table")
  else return n.toNat - 1

def lookupMode (args : List Value) : Except CellError MatchMode := do
  return if ← optBool args 3 true then .nextSmaller else .exact

def verticalLookup (args : List Value) : Answer := do
  let v ← argument args 0
  let table ← argument args 1
  let col ← tableOffset args 2 (dimensions table).2
  let mode ← lookupMode args
  let row ← position mode v (table.toRows.filterMap List.head?)
  return (elementAt? table row col).getD .blank

def horizontalLookup (args : List Value) : Answer := do
  let v ← argument args 0
  let table ← argument args 1
  let row ← tableOffset args 2 (dimensions table).1
  let mode ← lookupMode args
  let col ← position mode v (table.toRows.headD [])
  return (elementAt? table row col).getD .blank

/-- Row and column of an element, each counted from 1, 0 standing for all. A lone index selects from
a single row, else a whole row or the element of a single column. -/
def indexPosition (args : List Value) (height width : Nat) : Except CellError (Int × Int) := do
  let row ← intArg args 1
  let col ← optInt args 2 0
  if 3 ≤ args.length then return (row, col)
  else if height = 1 ∧ 1 < width then return (1, row)
  else return (row, if 1 < width then 0 else 1)

/-- The part of an array at a row and a column, each counted from 1, 0 standing for all. -/
def selectIndex (rows : List (List Value)) (row col : Nat) : Value :=
  match row, col with
  | 0, 0 => .array rows
  | 0, c + 1 => .array (rows.map fun r => [r[c]?.getD .blank])
  | r + 1, 0 => .array [rows[r]?.getD []]
  | r + 1, c + 1 => (rows[r]?.bind (·[c]?)).getD .blank

def index (args : List Value) : Answer := do
  let v ← argument args 0
  let (height, width) := dimensions v
  if height = 0 ∨ width = 0 then .error (.plain .invalidReference)
  else
    let (row, col) ← indexPosition args height width
    if row < 0 ∨ col < 0 then .error (.value "index must not be negative")
    else if (height : Int) < row ∨ (width : Int) < col then
      .error (.detailed .invalidReference "index is beyond the array")
    else return selectIndex v.toRows row.toNat col.toNat

def matchModeOf (matchType : Int) : MatchMode :=
  if 0 < matchType then .nextSmaller else if matchType < 0 then .nextLarger else .exact

def matchPosition (args : List Value) : Answer := do
  let v ← argument args 0
  let table ← argument args 1
  let (height, width) := dimensions table
  if 1 < height ∧ 1 < width then
    .error (.notAvailable "lookup_array must be a single row or column")
  else
    let mode := matchModeOf (← optInt args 2 1)
    return .number (Number.ofNat ((← position mode v (elements table)) + 1))

/-- The argument number `n`, counted from 1. -/
def chosen? (choices : List Delayed) (n : Int) : Option Delayed :=
  if 1 ≤ n then choices[n.toNat - 1]? else none

/-- The argument at the position that the first one gives; no other one is evaluated. -/
def choose : List Delayed → Except DepthExceeded Value
  | a :: choices => do
    match (← a.value ()).toNumber with
    | .error e => return .error e
    | .ok x =>
      match chosen? choices (Number.truncToInt x) with
      | some choice => choice.result
      | none => return .error (.value s!"index_num must be between 1 and {choices.length}")
  | [] => .ok .blank

def rowsOf (args : List Value) : Answer := do
  return .number (Number.ofNat (dimensions (← argument args 0)).1)

def columnsOf (args : List Value) : Answer := do
  return .number (Number.ofNat (dimensions (← argument args 0)).2)

end Spreadsheet.Function
