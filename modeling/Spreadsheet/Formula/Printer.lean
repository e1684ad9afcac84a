import Spreadsheet.Formula.Expr

/-! Canonical formula text. Every binary operation stands in parentheses, so that the text reads
back to the same tree whatever the precedence of operators. -/

namespace Spreadsheet.Formula

/-- A text in quotes, with every quote inside written twice. -/
def quoted (s : String) : String :=
  String.ofList ('"' :: s.toList.flatMap (fun c => if c == '"' then ['"', '"'] else [c]) ++ ['"'])

/-- A literal as an operand: a negative number stands in parentheses, a blank has no text. -/
def literalText : Cell → String
  | .blank => ""
  | .number x => if x < 0 then "(" ++ Number.display x ++ ")" else Number.display x
  | .boolean b => booleanText b
  | .text s => quoted s
  | .error e => e.kind.code

namespace Expr

def isUnary : Expr → Bool
  | unary .. => true
  | _ => false

mutual

/-- The text of an expression without the equals sign. -/
def toText : Expr → String
  | literal c => literalText c
  | reference a => a.toText
  | range r => r.cornersText
  | name s => s
  | binary op l r => "(" ++ l.toText ++ op.symbol ++ r.toText ++ ")"
  | unary .negate x => "-" ++ x.toText
  | unary .plus x => "+" ++ x.toText
  | unary .percent x => (if x.isUnary then "(" ++ x.toText ++ ")" else x.toText) ++ "%"
  | call f args => f ++ "(" ++ ",".intercalate (textsOfList args) ++ ")"
  | array rows => "\x7b" ++ ";".intercalate (textsOfRows rows) ++ "\x7d"

def textsOfList : List Expr → List String
  | [] => []
  | e :: es => e.toText :: textsOfList es

/-- An element of an array constant: a signed number needs no parentheses there. -/
def elementText : Expr → String
  | literal (.number x) => Number.display x
  | e => e.toText

def textsOfElements : List Expr → List String
  | [] => []
  | e :: es => e.elementText :: textsOfElements es

def textsOfRows : List (List Expr) → List String
  | [] => []
  | row :: rows => ",".intercalate (textsOfElements row) :: textsOfRows rows

end

end Expr

/-- The canonical text of a formula. -/
def Expr.toFormula (e : Expr) : String := "=" ++ e.toText

end Spreadsheet.Formula
