import Spreadsheet.Cell
import Spreadsheet.Range

/-! Formula expressions: the syntax tree of a formula, the references it makes and structural
equality of trees. -/

namespace Spreadsheet.Formula

inductive BinaryOp where
  | add
  | subtract
  | multiply
  | divide
  | power
  | concat
  | equal
  | notEqual
  | lessThan
  | lessEqual
  | greaterThan
  | greaterEqual
  deriving DecidableEq, Repr

namespace BinaryOp

def all : List BinaryOp :=
  [add, subtract, multiply, divide, power, concat, equal, notEqual, lessThan, lessEqual,
    greaterThan, greaterEqual]

def symbol : BinaryOp → String
  | add => "+"
  | subtract => "-"
  | multiply => "*"
  | divide => "/"
  | power => "^"
  | concat => "&"
  | equal => "="
  | notEqual => "<>"
  | lessThan => "<"
  | lessEqual => "<="
  | greaterThan => ">"
  | greaterEqual => ">="

end BinaryOp

inductive UnaryOp where
  | negate
  | plus
  | percent
  deriving DecidableEq, Repr

/-- A formula expression. Function names are in upper case. -/
inductive Expr where
  | literal (c : Cell)
  | reference (a : Address)
  | range (r : Range)
  | name (s : String)
  | binary (op : BinaryOp) (left right : Expr)
  | unary (op : UnaryOp) (operand : Expr)
  | call (function : String) (args : List Expr)
  | array (rows : List (List Expr))
  deriving Inhabited

namespace Expr

def number (x : Float) : Expr := .literal (.number x)

mutual

/-- The references of an expression as ranges, from left to right. -/
def references : Expr → List Range
  | literal _ => []
  | reference a => [.single a]
  | range r => [r]
  | name _ => []
  | binary _ l r => l.references ++ r.references
  | unary _ x => x.references
  | call _ args => referencesOfList args
  | array rows => referencesOfRows rows

def referencesOfList : List Expr → List Range
  | [] => []
  | e :: es => e.references ++ referencesOfList es

def referencesOfRows : List (List Expr) → List Range
  | [] => []
  | row :: rows => referencesOfList row ++ referencesOfRows rows

end

mutual

/-- Structural equality; numbers are equal by value, error literals by kind. -/
def same : Expr → Expr → Bool
  | literal c, literal d => c.same d
  | reference a, reference b => a == b
  | range r, range s => r == s
  | name s, name t => s == t
  | binary op l r, binary op' l' r' => op == op' && l.same l' && r.same r'
  | unary op x, unary op' x' => op == op' && x.same x'
  | call f args, call f' args' => f == f' && sameList args args'
  | array rows, array rows' => sameRows rows rows'
  | _, _ => false

def sameList : List Expr → List Expr → Bool
  | [], [] => true
  | e :: es, e' :: es' => e.same e' && sameList es es'
  | _, _ => false

def sameRows : List (List Expr) → List (List Expr) → Bool
  | [], [] => true
  | row :: rows, row' :: rows' => sameList row row' && sameRows rows rows'
  | _, _ => false

end

end Expr

end Spreadsheet.Formula
