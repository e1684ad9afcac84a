import Spreadsheet.Cell
import Spreadsheet.Json

/-! Reading records and lists from JSON. An object names the fields of a record, in any order and
beside other members; a list has them in their order and may end early. -/

namespace Spreadsheet.Json

/-- The values under some keys, none of which may occur twice. -/
def fieldsByName {α : Type} (names : List String) (members : List (String × α)) :
    Option (List (Option α)) :=
  names.mapM fun name =>
    match members.filter (·.1 == name) with
    | [] => some none
    | [(_, e)] => some (some e)
    | _ => none

def fieldsInOrder {α : Type} (names : List String) (elements : List α) :
    Option (List (Option α)) :=
  if names.length < elements.length then none
  else some ((List.range names.length).map (elements[·]?))

/-- The fields of a record, each of which may be missing. -/
def fields? (names : List String) : Json → Option (List (Option Json))
  | object members => fieldsByName names members
  | array elements => fieldsInOrder names elements
  | _ => none

/-- The fields of an object, in which no field of the record may occur twice. -/
def Tree.members? (names : List String) (members : List (Option String × Tree)) :
    Option (List (Option Tree)) := do
  fieldsByName names (← members.mapM fun (key, e) => key.map (·, e))

/-- The fields of a record, each of which may be missing. -/
def Tree.fields? (names : List String) : Tree → Option (List (Option Tree))
  | object members => Tree.members? names members
  | array elements => fieldsInOrder names elements
  | _ => none

def boolean? : Json → Option Bool
  | boolean b => some b
  | _ => none

def text? : Json → Option String
  | text s => some s
  | _ => none

/-- A natural number without fraction or exponent. -/
def count? : Json → Option Nat
  | number (.integer (.ofNat n)) => some n
  | _ => none

def cell? : Json → Option Cell
  | null => some .blank
  | boolean b => some (.boolean b)
  | number n => some (.number n.toFloat)
  | text s => some (.text s)
  | _ => none

def list? {α : Type} (read : Json → Option α) : Json → Option (List α)
  | array elements => elements.mapM read
  | _ => none

def texts? : Json → Option (List String) := list? text?

def rows? : Json → Option (List (List Cell)) := list? (list? cell?)

/-- The value of a field, which is `standard` when the field is missing. -/
def fieldOr {α : Type} (read : Json → Option α) (standard : α) : Option Json → Option α
  | none => some standard
  | some e => read e

/-- The value of a field of a tree, which is `standard` when the field is missing. -/
def Tree.fieldOr {α : Type} (read : Tree → Option α) (standard : α) : Option Tree → Option α
  | none => some standard
  | some t => read t

/-- Reads a tree as a value. -/
def Tree.read? {α : Type} (read : Json → Option α) (t : Tree) : Option α :=
  (t.toJson? maxDepth).bind read

end Spreadsheet.Json
