import Spreadsheet.Formula.Expr
import Spreadsheet.Formula.Scan

/-! The formula parser. From the loosest to the tightest, operators are comparisons, sums, `&`,
products, signs, powers, percent signs and ranges; binary operators associate to the left, powers
to the right. Recursion goes down the nesting levels that a formula may still open and the
operations that its tree may still pile up, so that both limits are those of the formula. -/

namespace Spreadsheet.Formula

/-- What has been read, with the tokens left. -/
abbrev Parsed (α : Type) := α × Scan

/-- A parser that is given how many more operations the tree may pile up. -/
abbrev OperandParser := (room : Nat) → Scan → Except ParseError (Parsed Expr)

namespace Scan

def position : Scan → Nat
  | finish p => p
  | fault e => e.position
  | token _ p _ => p

def head? : Scan → Option Token
  | token t _ _ => some t
  | _ => none

def fail {α : Type} (s : Scan) (e : Fault) : Except ParseError α := .error ⟨s.position, e⟩

/-- The fault of a token that cannot stand where it does. -/
def unexpected {α : Type} (s : Scan) : Except ParseError α :=
  match s.head? with
  | some t => s.fail (.unexpected t)
  | none => s.fail .unexpectedEnd

/-- Goes on unless the text ahead is no token. -/
def check : Scan → Except ParseError Scan
  | fault e => .error e
  | s => .ok s

/-- The tokens after the first one. -/
def advance : Scan → Except ParseError Scan
  | token _ _ rest => rest.check
  | s => .ok s

/-- The number of tokens. -/
def length : Scan → Nat
  | token _ _ rest => rest.length + 1
  | _ => 0

end Scan

/-- One more nesting level: the parser for what is inside, and the room there. -/
def enter (inner : Option OperandParser) (room : Nat) (s : Scan) :
    Except ParseError (OperandParser × Nat) :=
  match inner, room with
  | none, _ => s.fail .nestedTooDeep
  | some _, 0 => s.fail .tooManyOperations
  | some p, room + 1 => .ok (p, room)

/-- A left associative chain of operators, `left` being what has been read of it. -/
def chainRest (op? : Token → Option BinaryOp) (operand : OperandParser) :
    (room : Nat) → Expr → Scan → Except ParseError (Parsed Expr)
  | 0, left, s =>
    match s.head?.bind op? with
    | none => .ok (left, s)
    | some _ => do (← s.advance).fail .tooManyOperations
  | room + 1, left, s =>
    match s.head?.bind op? with
    | none => .ok (left, s)
    | some op => do
      let (right, s) ← operand room (← s.advance)
      chainRest op? operand room (.binary op left right) s

def chain (op? : Token → Option BinaryOp) (operand : OperandParser) : OperandParser :=
  fun room s => do
    let (left, s) ← operand room s
    chainRest op? operand room left s

def productOp? : Token → Option BinaryOp
  | .star => some .multiply
  | .slash => some .divide
  | _ => none

def concatOp? : Token → Option BinaryOp
  | .ampersand => some .concat
  | _ => none

def sumOp? : Token → Option BinaryOp
  | .plus => some .add
  | .minus => some .subtract
  | _ => none

def comparisonOp? : Token → Option BinaryOp
  | .equal => some .equal
  | .notEqual => some .notEqual
  | .lessThan => some .lessThan
  | .lessEqual => some .lessEqual
  | .greaterThan => some .greaterThan
  | .greaterEqual => some .greaterEqual
  | _ => none

/-- A whole expression, given the parser for signed operands. -/
def expression (signed : OperandParser) : OperandParser :=
  chain comparisonOp? (chain sumOp? (chain concatOp? (chain productOp? signed)))

/-- The arguments of a call from the next one on, `args` being those before in reverse order. -/
def arguments (function : String) (argument : Scan → Except ParseError (Parsed Expr)) :
    (fuel : Nat) → List Expr → Scan → Except ParseError (Parsed (List Expr))
  | 0, _, s => s.unexpected
  | fuel + 1, args, s =>
    match s.head? with
    | some .comma | some .rightParen => s.fail (.emptyArgument function)
    | _ => do
      let (arg, s) ← argument s
      match s.head? with
      | some .comma => do arguments function argument fuel (arg :: args) (← s.advance)
      | some .rightParen => return ((arg :: args).reverse, ← s.advance)
      | some t => s.fail (.badSeparator function t)
      | none => s.fail (.missingCallParen function)

/-- What follows a function name, from its opening parenthesis on. -/
def callTail (inner : Option OperandParser) (function : String) (room : Nat) (s : Scan) :
    Except ParseError (Parsed Expr) := do
  let s ← s.advance
  let (signed, room) ← enter inner room s
  match s.head? with
  | some .rightParen => return (.call function [], ← s.advance)
  | _ =>
    let (args, s) ← arguments function (expression signed room) (s.length + 1) [] s
    return (.call function args, s)

/-- An element of an array constant behind its sign: a literal, only a number behind a minus sign. -/
def elementValue (negative : Bool) (s : Scan) : Except ParseError (Parsed Expr) :=
  match s.head?, negative with
  | some (.number x), _ => do return (.number (Number.withSign negative x), ← s.advance)
  | some (.text t), false => do return (.literal (.text t), ← s.advance)
  | some (.boolean b), false => do return (.literal (.boolean b), ← s.advance)
  | some (.error kind), false => do return (.literal (.error (.plain kind)), ← s.advance)
  | some .rightBrace, _ | some .comma, _ | some .semicolon, _ => s.fail .emptyElement
  | _, _ => s.fail .notLiteral

def element (s : Scan) : Except ParseError (Parsed Expr) :=
  match s.head? with
  | some .minus => do elementValue true (← s.advance)
  | some .plus => do elementValue false (← s.advance)
  | _ => elementValue false s

/-- The elements that follow the first ones up to the closing brace, which is left in front.
`row` and `rows` hold what has been read, each in reverse order. -/
def elements : (fuel : Nat) → List Expr → List (List Expr) → Scan →
    Except ParseError (Parsed (List (List Expr)))
  | 0, _, _, s => s.unexpected
  | fuel + 1, row, rows, s =>
    match s.head? with
    | some .comma => do
      let (e, s) ← element (← s.advance)
      elements fuel (e :: row) rows s
    | some .semicolon => do
      let (e, s) ← element (← s.advance)
      elements fuel [e] (row.reverse :: rows) s
    | some .rightBrace => .ok ((row.reverse :: rows).reverse, s)
    | some _ => s.fail .badElementSeparator
    | none => s.fail .missingBrace

/-- Whether all rows have the length of the first one. -/
def isRectangular {α : Type} (rows : List (List α)) : Bool :=
  rows.all fun row => row.length == (rows.headD []).length

def arrayConstant (inner : Option OperandParser) (room : Nat) (s : Scan) :
    Except ParseError (Parsed Expr) := do
  let s ← s.advance
  let _ ← enter inner room s
  let (first, s) ← element s
  let (rows, s) ← elements (s.length + 1) [first] [] s
  if isRectangular rows then return (.array rows, ← s.advance) else s.fail .unevenRows

/-- A literal, a reference, a name, a call, an array constant or an expression in parentheses. -/
def primary (inner : Option OperandParser) : OperandParser := fun room s =>
  match s.head? with
  | some (.number x) => return (.number x, ← s.advance)
  | some (.text t) => return (.literal (.text t), ← s.advance)
  | some (.boolean b) => return (.literal (.boolean b), ← s.advance)
  | some (.error kind) => return (.literal (.error (.plain kind)), ← s.advance)
  | some (.cell a) => return (.reference a, ← s.advance)
  | some (.identifier n) => do
    let s ← s.advance
    match s.head? with
    | some .leftParen => callTail inner n.toUpper room s
    | _ => return (.name n, s)
  | some .leftBrace => arrayConstant inner room s
  | some .leftParen => do
    let s ← s.advance
    match s.head? with
    | some .rightParen => s.fail .emptyParentheses
    | _ =>
      let (signed, room) ← enter inner room s
      let (e, s) ← expression signed room s
      match s.head? with
      | some .rightParen => return (e, ← s.advance)
      | _ => s.fail .missingParen
  | _ => s.unexpected

/-- A primary, or two references joined by a colon. -/
def rangeOperand (inner : Option OperandParser) : OperandParser := fun room s => do
  let (left, s) ← primary inner room s
  match s.head? with
  | some .colon =>
    match left with
    | .reference a =>
      let s ← s.advance
      match s.head? with
      | some (.cell b) => return (.range (.ofCorners a b), ← s.advance)
      | _ => s.fail .badRange
    | _ => s.fail .badRange
  | _ => return (left, s)

/-- The percent signs that follow an operand. -/
def percents : (room : Nat) → Expr → Scan → Except ParseError (Parsed Expr)
  | 0, e, s =>
    match s.head? with
    | some .percent => do (← s.advance).fail .tooManyOperations
    | _ => .ok (e, s)
  | room + 1, e, s =>
    match s.head? with
    | some .percent => do percents room (.unary .percent e) (← s.advance)
    | _ => .ok (e, s)

def postfixOperand (inner : Option OperandParser) : OperandParser := fun room s => do
  let (e, s) ← rangeOperand inner room s
  percents room e s

/-- An operand with its power, whose exponent may have a sign of its own. -/
def powerOperand (inner : Option OperandParser) : OperandParser := fun room s => do
  let (base, s) ← postfixOperand inner room s
  match s.head? with
  | some .caret =>
    let s ← s.advance
    let (signed, room) ← enter inner room s
    let (exponent, s) ← signed room s
    return (.binary .power base exponent, s)
  | _ => return (base, s)

def signOp? : Token → Option UnaryOp
  | .minus => some .negate
  | .plus => some .plus
  | _ => none

/-- One level of signed operands; `inner` is the parser of the next level, if there is one. -/
def signedStep (inner : Option OperandParser) : OperandParser := fun room s =>
  match s.head?.bind signOp? with
  | some op => do
    let s ← s.advance
    let (signed, room) ← enter inner room s
    let (e, s) ← signed room s
    return (.unary op e, s)
  | none => powerOperand inner room s

/-- Signed operands inside which `levels` more nesting levels may be opened. -/
def signedOperand : (levels : Nat) → OperandParser
  | 0 => signedStep none
  | levels + 1 => signedStep (some (signedOperand levels))

/-- A whole formula body: one expression and nothing after it. -/
def wholeExpression (s : Scan) : Except ParseError Expr := do
  let s ← s.check
  if s.head?.isNone then s.fail .emptyFormula
  let (e, s) ← expression (signedOperand maxNesting) maxHeight s
  match s.head? with
  | none => return e
  | some .rightParen => s.fail .unmatchedParen
  | some t => s.fail (.trailing t)

/-- Reads a formula, blanks around it not counted. -/
def parse (s : String) : Except ParseError Expr :=
  match Text.trimChars s.toList with
  | '=' :: cs => wholeExpression (scanFrom 0 1 cs)
  | _ => .error ⟨0, .missingEquals⟩

end Spreadsheet.Formula
