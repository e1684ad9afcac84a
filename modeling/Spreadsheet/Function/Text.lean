import Spreadsheet.Function.Arguments
import Spreadsheet.Date.Text
import Spreadsheet.Text.Wildcard

/-! Text functions. Lengths and positions count characters, positions from 1. -/

namespace Spreadsheet.Function

def textOf (cs : List Char) : Value := .text (String.ofList cs)

def charsArg (args : List Value) (index : Nat) : Except CellError (List Char) := do
  return (← textArg args index).toList

/-- A number of characters, which must not be negative. -/
def lengthArg (args : List Value) (index : Nat) (default : Float) : Except CellError Nat := do
  let n ← optInt args index default
  if n < 0 then .error (.value "character count must not be negative") else return n.toNat

/-- A position as an offset from 0; by default the first one. -/
def startArg (args : List Value) (index : Nat) : Except CellError Nat := do
  let n ← optInt args index 1
  if n < 1 then .error (.value "start position must be at least 1") else return n.toNat - 1

def left (args : List Value) : Answer := do
  let cs ← charsArg args 0
  return textOf (cs.take (← lengthArg args 1 1))

def right (args : List Value) : Answer := do
  let cs ← charsArg args 0
  return textOf (cs.drop (cs.length - (← lengthArg args 1 1)))

def mid (args : List Value) : Answer := do
  let cs ← charsArg args 0
  let start ← startArg args 1
  let n ← lengthArg args 2 0
  return textOf ((cs.drop start).take n)

def length (args : List Value) : Answer := do
  return .number (Number.ofNat (← charsArg args 0).length)

/-- The parts of a text between the spaces, or other separators, in it. -/
def splitAtChar (separator : Char) : List Char → List (List Char)
  | [] => [[]]
  | c :: cs =>
    match splitAtChar separator cs with
    | part :: parts => if c == separator then [] :: part :: parts else (c :: part) :: parts
    | [] => []

def trimSpaces (args : List Value) : Answer := do
  let words := (splitAtChar ' ' (← charsArg args 0)).filter fun w => !w.isEmpty
  return textOf ([' '].intercalate words)

def concatenate (args : List Value) : Answer := do
  return .text (String.join (← args.mapM Value.toText))

def concat (args : List Value) : Answer := do
  return .text (String.join (← (args.flatMap elements).mapM Value.toText))

def textJoin (args : List Value) : Answer := do
  let delimiter ← textArg args 0
  let ignoreEmpty ← boolArg args 1
  let parts ← ((args.drop 2).flatMap elements).mapM Value.toText
  return .text (delimiter.intercalate (parts.filter fun s => !(ignoreEmpty && s.isEmpty)))

/-- The parts of a text between the occurrences of `old` in it, which are found from left to right
and do not overlap; `skip` characters belong to the last one, and `part` holds the characters of the
current part in reverse order. -/
def splitAtText (old : List Char) (skip : Nat) (part : List Char) : List Char → List (List Char)
  | [] => [part.reverse]
  | c :: cs =>
    match skip with
    | skip + 1 => splitAtText old skip part cs
    | 0 =>
      if old.isPrefixOf (c :: cs) then part.reverse :: splitAtText old (old.length - 1) [] cs
      else splitAtText old 0 (c :: part) cs

/-- Joins parts with `old`, but with `new` behind part number `instance`, counted from 0. -/
def joinReplacing (old new : List Char) : (position : Nat) → List (List Char) → List Char
  | _, [] => []
  | _, [part] => part
  | 0, part :: parts => part ++ new ++ old.intercalate parts
  | position + 1, part :: parts => part ++ old ++ joinReplacing old new position parts

/-- Which occurrence is to be replaced, counted from 1; none for all of them. -/
def occurrenceArg (args : List Value) : Except CellError (Option Nat) :=
  optional (fun v => do
    let n := Number.truncToInt (← v.toNumber)
    if n < 1 then .error (.value "instance_num must be at least 1") else return some n.toNat)
    args 3 none

def substitute (args : List Value) : Answer := do
  let cs ← charsArg args 0
  let old ← charsArg args 1
  let new ← charsArg args 2
  let occurrence ← occurrenceArg args
  if old.isEmpty then return textOf cs
  else
    let parts := splitAtText old 0 [] cs
    match occurrence with
    | none => return textOf (new.intercalate parts)
    | some n => return textOf (joinReplacing old new (n - 1) parts)

def replace (args : List Value) : Answer := do
  let cs ← charsArg args 0
  let start ← startArg args 1
  let n ← lengthArg args 2 0
  let new ← charsArg args 3
  return textOf (cs.take start ++ new ++ cs.drop (start + n))

/-- What to find, where to find it and from which offset on. -/
def findArgs (args : List Value) : Except CellError (String × String × Nat) := do
  let what ← textArg args 0
  let text ← textArg args 1
  let start ← startArg args 2
  if text.length < start then .error (.value "start_num is beyond the text")
  else return (what, text, start)

def positionOf (what : String) : Option Nat → Answer
  | some i => .ok (.number (Number.ofNat (i + 1)))
  | none => .error (.value s!"'{what}' not found")

/-- The first position, counted on from `position`, at which a text begins with another one. -/
def findText (what : List Char) (position : Nat) : List Char → Option Nat
  | [] => if what.isEmpty then some position else none
  | c :: cs =>
    if what.isPrefixOf (c :: cs) then some position else findText what (position + 1) cs

def find (args : List Value) : Answer := do
  let (what, text, start) ← findArgs args
  positionOf what (findText what.toList start (text.toList.drop start))

def search (args : List Value) : Answer := do
  let (what, text, start) ← findArgs args
  positionOf what (Text.wildcardFind what text start)

def upper (args : List Value) : Answer := do return .text (Text.upper (← textArg args 0))

def lower (args : List Value) : Answer := do return .text (Text.lower (← textArg args 0))

/-- Upper case for a letter at the start of a word, lower case for the others. -/
def properCase (inWord : Bool) : List Char → List Char
  | [] => []
  | c :: cs =>
    if Text.isLetter c then
      (if inWord then Text.lowerChar c else Text.upperChar c) ++ properCase true cs
    else c :: properCase false cs

def proper (args : List Value) : Answer := do return textOf (properCase false (← charsArg args 0))

/-- The length that a repeated text may have. -/
def maxRepeated : Nat := 32767

def repeatText (args : List Value) : Answer := do
  let cs ← charsArg args 0
  let times ← intArg args 1
  if times < 0 then .error (.value "number_times must not be negative")
  else if maxRepeated < cs.length * times.toNat then
    .error (.value s!"result would exceed {maxRepeated} characters")
  else if cs.isEmpty then return .text ""
  else return textOf (List.replicate times.toNat cs).flatten

def exact (args : List Value) : Answer := do
  let s ← textArg args 0
  let t ← textArg args 1
  return .boolean (s == t)

def valueOfText (args : List Value) : Answer := do
  match ← argument args 0 with
  | .text s =>
    match Number.ofText? s, Date.ofText? s with
    | some x, _ => return .number x
    | none, some d => return .number (Number.ofInt d.toSerial)
    | none, none => .error (.value s!"'{s}' is not a number")
  | v => return .number (← v.toNumber)

def char (args : List Value) : Answer := do
  let code ← intArg args 0
  if 1 ≤ code ∧ code ≤ 255 then return textOf [Char.ofNat code.toNat]
  else .error (.value "code must be between 1 and 255")

def code (args : List Value) : Answer := do
  match ← charsArg args 0 with
  | c :: _ => return .number (Number.ofNat c.toNat)
  | [] => .error (.value "text is empty")

end Spreadsheet.Function
