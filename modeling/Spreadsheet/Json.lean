import Spreadsheet.Json.Tree

/-! JSON values. The members of an object are sorted by key and no key occurs twice. -/

namespace Spreadsheet

open Spreadsheet.Json (JsonNumber)

inductive Json where
  | null
  | boolean (b : Bool)
  | number (n : JsonNumber)
  | text (s : String)
  | array (elements : List Json)
  | object (members : List (String × Json))
  deriving Inhabited

namespace Json

def ofNat (n : Nat) : Json := .number (.integer n)

def ofFloat (x : Float) : Json := .number (.float x)

/-- Inserts a member into sorted members; a member with the same key gives way. -/
def insertMember (key : String) (e : Json) : List (String × Json) → List (String × Json)
  | [] => [(key, e)]
  | (k, x) :: members =>
    if key < k then (key, e) :: (k, x) :: members
    else if key = k then (key, e) :: members
    else (k, x) :: insertMember key e members

/-- An object of members in any order, of which the last one with a key counts. -/
def ofMembers (members : List (String × Json)) : Json :=
  .object (members.foldl (fun ms (key, e) => insertMember key e ms) [])

def get? (key : String) : Json → Option Json
  | object members => members.lookup key
  | _ => none

/-- Arrays and objects may be nested one level less deep than this. -/
def maxDepth : Nat := 128

namespace Tree

mutual

/-- The value of a tree in which fewer than `levels` arrays and objects are nested. -/
def toJson? (levels : Nat) : Tree → Option Json
  | null => some .null
  | boolean b => some (.boolean b)
  | number l => (JsonNumber.ofLiteral? l).map .number
  | text s => s.map .text
  | array elements =>
    if levels ≤ 1 then none else (elementsToJson? (levels - 1) elements).map .array
  | object members =>
    if levels ≤ 1 then none else (membersToJson? (levels - 1) members).map ofMembers

def elementsToJson? (levels : Nat) : List Tree → Option (List Json)
  | [] => some []
  | e :: es => do return (← e.toJson? levels) :: (← elementsToJson? levels es)

def membersToJson? (levels : Nat) :
    List (Option String × Tree) → Option (List (String × Json))
  | [] => some []
  | (key, e) :: ms => do
    return (← key, ← e.toJson? levels) :: (← membersToJson? levels ms)

end

end Tree

/-- Reads a JSON text. -/
def parse? (s : String) : Option Json := (Tree.parse? s).bind (Tree.toJson? maxDepth)

end Json

end Spreadsheet
