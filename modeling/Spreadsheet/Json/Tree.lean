import Spreadsheet.Json.Number

/-! JSON text as a tree. Members of objects keep their order and may repeat a key; numbers stay
literals, and a text that pairs its surrogates wrongly has no value, so that parts which nobody
looks at need not be meaningful. -/

namespace Spreadsheet.Json

inductive Tree where
  | null
  | boolean (b : Bool)
  | number (l : JsonNumber.Literal)
  | text (s : Option String)
  | array (elements : List Tree)
  | object (members : List (Option String × Tree))
  deriving Inhabited

namespace Tree

def isSpace (c : Char) : Bool := c == ' ' || c == '\n' || c == '\t' || c == '\r'

def skipSpace (cs : List Char) : List Char := cs.dropWhile isSpace

def hexValue? (c : Char) : Option Nat :=
  if c.isDigit then some (c.toNat - '0'.toNat)
  else if 'a' ≤ c ∧ c ≤ 'f' then some (c.toNat - 'a'.toNat + 10)
  else if 'A' ≤ c ∧ c ≤ 'F' then some (c.toNat - 'A'.toNat + 10)
  else none

/-- The code of an escape sequence behind its backslash, and how many characters it takes. -/
def escape? : List Char → Option (Nat × Nat)
  | '"' :: _ => some ('"'.toNat, 1)
  | '\\' :: _ => some ('\\'.toNat, 1)
  | '/' :: _ => some ('/'.toNat, 1)
  | 'b' :: _ => some (8, 1)
  | 'f' :: _ => some (12, 1)
  | 'n' :: _ => some (10, 1)
  | 'r' :: _ => some (13, 1)
  | 't' :: _ => some (9, 1)
  | 'u' :: a :: b :: c :: d :: _ => do
    return ((← hexValue? a) * 4096 + (← hexValue? b) * 256 + (← hexValue? c) * 16 +
      (← hexValue? d), 5)
  | _ => none

/-- The codes of a text up to its closing quote, in reverse order after `codes`; the first `skip`
characters belong to the last code. -/
def readCodes (skip : Nat) (codes : List Nat) : List Char → Option (List Nat × List Char)
  | [] => none
  | c :: cs =>
    match skip with
    | skip + 1 => readCodes skip codes cs
    | 0 =>
      if c == '"' then some (codes, cs)
      else if c == '\\' then
        match escape? cs with
        | some (code, length) => readCodes length (code :: codes) cs
        | none => none
      else if c.toNat < 32 then none
      else readCodes 0 (c.toNat :: codes) cs

def isSurrogate (n : Nat) : Bool := 0xD800 ≤ n && n ≤ 0xDFFF

/-- Joins pairs of surrogates; none when one stands alone. -/
def joinSurrogates : List Nat → Option (List Char)
  | [] => some []
  | n :: rest =>
    if 0xDC00 ≤ n ∧ n ≤ 0xDFFF then none
    else if 0xD800 ≤ n ∧ n ≤ 0xDBFF then
      match rest with
      | m :: rest =>
        if 0xDC00 ≤ m ∧ m ≤ 0xDFFF then
          (joinSurrogates rest).map
            (Char.ofNat (0x10000 + (n - 0xD800) * 0x400 + (m - 0xDC00)) :: ·)
        else none
      | [] => none
    else (joinSurrogates rest).map (Char.ofNat n :: ·)

/-- The characters of a text whose codes are given. -/
def decodeText (codes : List Nat) : Option (List Char) :=
  if codes.any isSurrogate then joinSurrogates codes else some (codes.map Char.ofNat)

/-- Reads a text behind its opening quote. -/
def readText (cs : List Char) : Option (Option String × List Char) :=
  (readCodes 0 [] cs).map fun (codes, rest) =>
    ((decodeText codes.reverse).map String.ofList, rest)

/-- The digits at the front of a list, of which there must be one. -/
def digits? (cs : List Char) : Option (List Char × List Char) :=
  let ds := cs.takeWhile Char.isDigit
  if ds.isEmpty then none else some (ds, cs.dropWhile Char.isDigit)

def exponent? : List Char → Option (Option (Bool × List Char) × List Char)
  | c :: cs =>
    if c == 'e' || c == 'E' then
      let (negative, rest) := Number.splitSign cs
      (digits? rest).map fun (ds, rest) => (some (negative, ds), rest)
    else some (none, c :: cs)
  | [] => some (none, [])

def fraction? : List Char → Option (Option (List Char) × List Char)
  | '.' :: cs => (digits? cs).map fun (ds, rest) => (some ds, rest)
  | cs => some (none, cs)

def readNumber (cs : List Char) : Option (Tree × List Char) := do
  let negative := cs.head? == some '-'
  let (whole, rest) ← digits? (if negative then cs.tail else cs)
  if 1 < whole.length ∧ whole.head? = some '0' then none
  let (fraction, rest) ← fraction? rest
  let (exponent, rest) ← exponent? rest
  return (.number ⟨negative, whole, fraction, exponent⟩, rest)

mutual

/-- Reads one value, blanks in front of it skipped. -/
def readValue : (fuel : Nat) → List Char → Option (Tree × List Char)
  | 0, _ => none
  | fuel + 1, cs =>
    match skipSpace cs with
    | '"' :: cs => (readText cs).map fun (s, rest) => (.text s, rest)
    | '[' :: cs =>
      match skipSpace cs with
      | ']' :: rest => some (.array [], rest)
      | cs => (readElements fuel [] cs).map fun (es, rest) => (.array es, rest)
    | '\x7b' :: cs =>
      match skipSpace cs with
      | '\x7d' :: rest => some (.object [], rest)
      | cs => (readMembers fuel [] cs).map fun (ms, rest) => (.object ms, rest)
    | 'n' :: 'u' :: 'l' :: 'l' :: rest => some (.null, rest)
    | 't' :: 'r' :: 'u' :: 'e' :: rest => some (.boolean true, rest)
    | 'f' :: 'a' :: 'l' :: 's' :: 'e' :: rest => some (.boolean false, rest)
    | cs => readNumber cs

/-- Reads the elements of an array; `before` holds those in front, last one first. -/
def readElements : (fuel : Nat) → (before : List Tree) → List Char →
    Option (List Tree × List Char)
  | 0, _, _ => none
  | fuel + 1, before, cs =>
    match readValue fuel cs with
    | none => none
    | some (e, rest) =>
      match skipSpace rest with
      | ',' :: rest => readElements fuel (e :: before) rest
      | ']' :: rest => some ((e :: before).reverse, rest)
      | _ => none

/-- Reads the members of an object; `before` holds those in front, last one first. -/
def readMembers : (fuel : Nat) → (before : List (Option String × Tree)) → List Char →
    Option (List (Option String × Tree) × List Char)
  | 0, _, _ => none
  | fuel + 1, before, cs =>
    match skipSpace cs with
    | '"' :: cs =>
      match readText cs with
      | none => none
      | some (key, rest) =>
        match skipSpace rest with
        | ':' :: rest =>
          match readValue fuel rest with
          | none => none
          | some (e, rest) =>
            match skipSpace rest with
            | ',' :: rest => readMembers fuel ((key, e) :: before) rest
            | '\x7d' :: rest => some (((key, e) :: before).reverse, rest)
            | _ => none
        | _ => none
    | _ => none

end

/-- Reads a text that holds one value. -/
def parse? (s : String) : Option Tree :=
  let cs := s.toList
  match readValue (2 * cs.length + 2) cs with
  | some (t, rest) => if (skipSpace rest).isEmpty then some t else none
  | none => none

end Tree

end Spreadsheet.Json
