import Spreadsheet.Cell
import Spreadsheet.Address

/-! Tokens of formulas and the errors of reading a formula. -/

namespace Spreadsheet.Formula

inductive Token where
  | number (x : Float)
  | text (s : String)
  | boolean (b : Bool)
  | error (kind : ErrorKind)
  | identifier (s : String)
  | cell (a : Address)
  | plus
  | minus
  | star
  | slash
  | caret
  | percent
  | ampersand
  | equal
  | notEqual
  | lessThan
  | lessEqual
  | greaterThan
  | greaterEqual
  | colon
  | comma
  | semicolon
  | leftParen
  | rightParen
  | leftBrace
  | rightBrace

/-- A token as messages name it. -/
def Token.describe : Token → String
  | number x => "number " ++ Number.display x
  | text _ => "string literal"
  | boolean b => booleanText b
  | error kind => kind.code
  | identifier s => s!"name '{s}'"
  | cell a => "reference " ++ a.toText
  | plus => "'+'"
  | minus => "'-'"
  | star => "'*'"
  | slash => "'/'"
  | caret => "'^'"
  | percent => "'%'"
  | ampersand => "'&'"
  | equal => "'='"
  | notEqual => "'<>'"
  | lessThan => "'<'"
  | lessEqual => "'<='"
  | greaterThan => "'>'"
  | greaterEqual => "'>='"
  | colon => "':'"
  | comma => "','"
  | semicolon => "';'"
  | leftParen => "'('"
  | rightParen => "')'"
  | leftBrace => "'\x7b'"
  | rightBrace => "'\x7d'"

/-- Nesting of parentheses, calls, array constants, signs and powers that a formula may have. -/
def maxNesting : Nat := 100

/-- Height that a syntax tree may have, chains of operators included. -/
def maxHeight : Nat := 1000

/-- What makes a text no formula. -/
inductive Fault where
  | missingEquals
  | emptyFormula
  | unmatchedParen
  | trailing (found : Token)
  | unexpected (found : Token)
  | unexpectedEnd
  | nestedTooDeep
  | tooManyOperations
  | unexpectedCharacter (c : Char)
  | unterminatedText
  | missingExponent
  | numberOutOfRange (text : String)
  | unknownError (text : String)
  | otherSheet
  | badReference (text : String)
  | impossibleReference (text : String) (reason : AddressError)
  | badRange
  | emptyParentheses
  | missingParen
  | emptyArgument (function : String)
  | missingCallParen (function : String)
  | badSeparator (function : String) (found : Token)
  | emptyElement
  | notLiteral
  | missingBrace
  | badElementSeparator
  | unevenRows

def Fault.message : Fault → String
  | missingEquals => "formula must start with '='"
  | emptyFormula => "empty formula"
  | unmatchedParen => "unmatched ')'"
  | trailing found => s!"unexpected {found.describe} after expression"
  | unexpected found => s!"unexpected {found.describe}"
  | unexpectedEnd => "unexpected end of formula"
  | nestedTooDeep => s!"formula is nested more than {maxNesting} levels deep"
  | tooManyOperations => s!"formula is more than {maxHeight} operations deep"
  | unexpectedCharacter c => s!"unexpected character '{c}'"
  | unterminatedText => "unterminated string literal"
  | missingExponent => "invalid number: missing exponent digits"
  | numberOutOfRange text => s!"number '{text}' is out of range"
  | unknownError text => s!"unknown error literal '{text}'"
  | otherSheet => "references to other sheets are not supported"
  | badReference text => s!"invalid cell reference '{text}'"
  | impossibleReference text reason => s!"invalid cell reference '{text}': {reason.message}"
  | badRange => "':' must join two cell references"
  | emptyParentheses => "empty parentheses"
  | missingParen => "missing closing ')'"
  | emptyArgument function => s!"empty argument in call to {function}"
  | missingCallParen function => s!"missing closing ')' for {function}"
  | badSeparator function found =>
    s!"expected ',' or ')' in call to {function}, found {found.describe}"
  | emptyElement => "empty element in array constant"
  | notLiteral => "array constants may only contain literal values"
  | missingBrace => "missing closing '\x7d'"
  | badElementSeparator => "expected ',' ';' or '\x7d' in array constant"
  | unevenRows => "array constant rows must have the same length"

/-- A fault at a character position of the trimmed text, the equals sign being at position 0. -/
structure ParseError where
  position : Nat
  fault : Fault

def ParseError.message (e : ParseError) : String :=
  s!"Parse error at position {e.position}: {e.fault.message}"

end Spreadsheet.Formula
