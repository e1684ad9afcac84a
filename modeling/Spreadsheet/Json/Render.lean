import Spreadsheet.Json

/-! JSON text of values, on one line or indented by two blanks a level. -/

namespace Spreadsheet.Json

def hexDigit (n : Nat) : Char := (Nat.toDigits 16 n).headD '0'

def escapeChar (c : Char) : List Char :=
  if c == '"' then ['\\', '"']
  else if c == '\\' then ['\\', '\\']
  else if c.toNat == 8 then ['\\', 'b']
  else if c.toNat == 9 then ['\\', 't']
  else if c.toNat == 10 then ['\\', 'n']
  else if c.toNat == 12 then ['\\', 'f']
  else if c.toNat == 13 then ['\\', 'r']
  else if c.toNat < 32 then
    ['\\', 'u', '0', '0', hexDigit (c.toNat / 16), hexDigit (c.toNat % 16)]
  else [c]

def renderText (s : String) : String :=
  String.ofList ('"' :: s.toList.flatMap escapeChar ++ ['"'])

/-- A double in JSON, with the fewest digits: whole numbers keep one decimal, numbers outside
`10 ^ -5` to `10 ^ 16` have an exponent. -/
def renderFloat (x : Float) : String :=
  let d := Number.shortest .even x
  let body :=
    if Number.isZero x then "0.0".toList
    else
      let (mantissa, e) := d.scientific
      if e < -5 || 16 ≤ e then mantissa ++ 'e' :: (Number.intText e).toList
      else if 0 ≤ d.exponent then d.positional ++ ".0".toList
      else d.positional
  if Number.isFinite x then String.ofList (if Number.isNegative x then '-' :: body else body)
  else "null"

def renderNumber : JsonNumber → String
  | .integer i => Number.intText i
  | .float x => renderFloat x

mutual

/-- The text of a value on one line. -/
def render : Json → String
  | null => "null"
  | boolean b => if b then "true" else "false"
  | number n => renderNumber n
  | text s => renderText s
  | array es => "[" ++ ",".intercalate (renderElements es) ++ "]"
  | object ms => "\x7b" ++ ",".intercalate (renderMembers ms) ++ "\x7d"

def renderElements : List Json → List String
  | [] => []
  | e :: es => e.render :: renderElements es

def renderMembers : List (String × Json) → List String
  | [] => []
  | (key, e) :: ms => (renderText key ++ ":" ++ e.render) :: renderMembers ms

end

/-- Lines between an opening and a closing bracket, the lines inside indented by `indent`. -/
def bracketed (opening closing indent : String) (lines : List String) : String :=
  if lines.isEmpty then opening ++ closing
  else opening ++ "\n" ++ ",\n".intercalate (lines.map (indent ++ "  " ++ ·)) ++ "\n" ++ indent ++
    closing

mutual

/-- The text of a value with one element a line, inside an indentation. -/
def pretty (indent : String) : Json → String
  | null => "null"
  | boolean b => if b then "true" else "false"
  | number n => renderNumber n
  | text s => renderText s
  | array es => bracketed "[" "]" indent (prettyElements (indent ++ "  ") es)
  | object ms => bracketed "\x7b" "\x7d" indent (prettyMembers (indent ++ "  ") ms)

def prettyElements (indent : String) : List Json → List String
  | [] => []
  | e :: es => e.pretty indent :: prettyElements indent es

def prettyMembers (indent : String) : List (String × Json) → List String
  | [] => []
  | (key, e) :: ms => (renderText key ++ ": " ++ e.pretty indent) :: prettyMembers indent ms

end

end Spreadsheet.Json
