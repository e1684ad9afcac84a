import Spreadsheet.Formula.Token

/-! Scanning of formulas. `scan` turns characters into tokens with their positions; where the text
holds no token, the scan ends with the fault, which counts only once the tokens before it have
been used. -/

namespace Spreadsheet.Formula

/-- The tokens of a text in order, then the end of the text or a fault. -/
inductive Scan where
  | finish (position : Nat)
  | fault (e : ParseError)
  | token (t : Token) (position : Nat) (rest : Scan)
  deriving Inhabited

/-- A scanned token, with the number of characters that it takes after its first one. -/
abbrev Lexeme := Except Fault (Token × Nat)

/-- The tokens that are one character and begin no longer token. -/
def symbol? : Char → Option Token
  | '+' => some .plus
  | '-' => some .minus
  | '*' => some .star
  | '/' => some .slash
  | '^' => some .caret
  | '%' => some .percent
  | '&' => some .ampersand
  | '=' => some .equal
  | ':' => some .colon
  | ',' => some .comma
  | ';' => some .semicolon
  | '(' => some .leftParen
  | ')' => some .rightParen
  | '\x7b' => some .leftBrace
  | '\x7d' => some .rightBrace
  | _ => none

/-- The token of a less-than sign and what follows it. -/
def lessLexeme (cs : List Char) : Token × Nat :=
  match cs.head? with
  | some '=' => (.lessEqual, 1)
  | some '>' => (.notEqual, 1)
  | _ => (.lessThan, 0)

def greaterLexeme (cs : List Char) : Token × Nat :=
  match cs.head? with
  | some '=' => (.greaterEqual, 1)
  | _ => (.greaterThan, 0)

/-- The characters of a text literal up to its closing quote, and how many were read with it. -/
def textBody? : List Char → Option (List Char × Nat)
  | [] => none
  | '"' :: '"' :: cs => (textBody? cs).map fun (s, n) => ('"' :: s, n + 2)
  | '"' :: _ => some ([], 1)
  | c :: cs => (textBody? cs).map fun (s, n) => (c :: s, n + 1)

def textLexeme (cs : List Char) : Lexeme :=
  match textBody? cs with
  | some (s, n) => .ok (.text (String.ofList s), n)
  | none => .error .unterminatedText

/-- The exponent part at the front of a list, or none when its digits are missing. -/
def exponentPart? (cs : List Char) : Option (List Char) :=
  match cs with
  | c :: rest =>
    if c == 'e' || c == 'E' then
      let sign := if rest.head? == some '+' || rest.head? == some '-' then rest.take 1 else []
      let digits := (rest.drop sign.length).takeWhile Char.isDigit
      if digits.isEmpty then none else some (c :: sign ++ digits)
    else some []
  | [] => some []

/-- The digits at the front of a list, with a point and the digits behind it. -/
def mantissaPart (cs : List Char) : List Char :=
  let whole := cs.takeWhile Char.isDigit
  let rest := cs.drop whole.length
  if rest.head? == some '.' then whole ++ '.' :: rest.tail.takeWhile Char.isDigit else whole

def numberLexeme (cs : List Char) : Lexeme :=
  let mantissa := mantissaPart cs
  match exponentPart? (cs.drop mantissa.length) with
  | none => .error .missingExponent
  | some exponent =>
    let text := mantissa ++ exponent
    match (Number.readDecimal? text).filter Number.isFinite with
    | some x => .ok (.number x, text.length - 1)
    | none => .error (.numberOutOfRange (String.ofList text))

def isErrorChar (c : Char) : Bool := c.isAlphanum || c == '!' || c == '/' || c == '?'

def errorLexeme (cs : List Char) : Lexeme :=
  let rest := cs.takeWhile isErrorChar
  let text := String.ofList ('#' :: rest)
  match ErrorKind.ofCode? text with
  | some kind => .ok (.error kind, rest.length)
  | none => .error (.unknownError text)

def isNameChar (c : Char) : Bool := c.isAlphanum || c == '_' || c == '$' || c == '.'

/-- A name, logical constant or reference; before an opening parenthesis it is always a name. -/
def wordLexeme (cs : List Char) : Lexeme :=
  let word := cs.takeWhile isNameChar
  let rest := cs.drop word.length
  let text := String.ofList word
  let isCall := (rest.dropWhile Text.isBlank).head? == some '('
  let length := word.length - 1
  if rest.head? == some '!' then .error .otherSheet
  else if !isCall && Text.sameAscii text "TRUE" then .ok (.boolean true, length)
  else if !isCall && Text.sameAscii text "FALSE" then .ok (.boolean false, length)
  else if !isCall && Address.hasForm text then
    match Address.parse text with
    | .ok a => .ok (.cell a, length)
    | .error e => .error (.impossibleReference text e)
  else if word.contains '$' then .error (.badReference text)
  else .ok (.identifier text, length)

/-- The token that begins with the character `c`, which is not blank, and goes on in `cs`. -/
def lexeme (c : Char) (cs : List Char) : Lexeme :=
  match symbol? c with
  | some t => .ok (t, 0)
  | none =>
    if c == '<' then .ok (lessLexeme cs)
    else if c == '>' then .ok (greaterLexeme cs)
    else if c == '"' then textLexeme cs
    else if c.isDigit || (c == '.' && cs.head?.any Char.isDigit) then numberLexeme (c :: cs)
    else if c == '#' then errorLexeme cs
    else if c.isAlpha || c == '_' || c == '$' then wordLexeme (c :: cs)
    else .error (.unexpectedCharacter c)

/-- Scans characters from a position on, the first `skip` of them belonging to the last token. -/
def scanFrom (skip position : Nat) : List Char → Scan
  | [] => .finish position
  | c :: cs =>
    match skip with
    | skip + 1 => scanFrom skip (position + 1) cs
    | 0 =>
      if Text.isBlank c then scanFrom 0 (position + 1) cs
      else
        match lexeme c cs with
        | .ok (t, length) => .token t position (scanFrom length (position + 1) cs)
        | .error e => .fault ⟨position, e⟩

end Spreadsheet.Formula
