import Spreadsheet.Formula.Parser

/-! The grammar of formulas: the trees that lists of tokens derive. Every production is written as
in the precedence table of the language, with nothing of how a parser goes about it. -/

namespace Spreadsheet.Formula

/-- The levels of binary operators that associate to the left. -/
inductive Level where
  | comparison
  | sum
  | concat
  | product

inductive Phrase where
  | chain (l : Level)
  | signed
  | power
  | percentage
  | range
  | primary

namespace Level

def operator? : Level → Token → Option BinaryOp
  | comparison => comparisonOp?
  | sum => sumOp?
  | concat => concatOp?
  | product => productOp?

/-- What the operators of a level join. -/
def operand : Level → Phrase
  | comparison => .chain sum
  | sum => .chain concat
  | concat => .chain product
  | product => .signed

end Level

def Token.literal? : Token → Option Cell
  | number x => some (.number x)
  | text s => some (.text s)
  | boolean b => some (.boolean b)
  | error kind => some (.error (.plain kind))
  | _ => none

/-- The elements of array constants. A minus sign stands before numbers only. -/
inductive DerivesElement : List Token → Expr → Prop
  | literal {t : Token} {c : Cell} (h : t.literal? = some c) : DerivesElement [t] (.literal c)
  | plus {t : Token} {c : Cell} (h : t.literal? = some c) :
    DerivesElement [.plus, t] (.literal c)
  | minus (x : Float) : DerivesElement [.minus, .number x] (.number (-x))

/-- Elements with commas between them, each given by its tokens and its tree. -/
def rowText (row : List (List Token × Expr)) : List Token :=
  [.comma].intercalate (row.map Prod.fst)

def rowsText (rows : List (List (List Token × Expr))) : List Token :=
  [.semicolon].intercalate (rows.map rowText)

/-- `Derives k ts e`: the tokens `ts` are a phrase of the category `k` with the tree `e`. -/
inductive Derives : Phrase → List Token → Expr → Prop
  | operand {l : Level} {ts : List Token} {e : Expr} (h : Derives l.operand ts e) :
    Derives (.chain l) ts e
  | operation {l : Level} {ts us : List Token} {t : Token} {op : BinaryOp} {e f : Expr}
    (left : Derives (.chain l) ts e) (hop : l.operator? t = some op)
    (right : Derives l.operand us f) : Derives (.chain l) (ts ++ [t] ++ us) (.binary op e f)
  | sign {ts : List Token} {t : Token} {op : UnaryOp} {e : Expr} (ht : signOp? t = some op)
    (h : Derives .signed ts e) : Derives .signed ([t] ++ ts) (.unary op e)
  | unsigned {ts : List Token} {e : Expr} (h : Derives .power ts e) : Derives .signed ts e
  | base {ts : List Token} {e : Expr} (h : Derives .percentage ts e) : Derives .power ts e
  | power {ts us : List Token} {e f : Expr} (left : Derives .percentage ts e)
    (right : Derives .signed us f) : Derives .power (ts ++ [.caret] ++ us) (.binary .power e f)
  | whole {ts : List Token} {e : Expr} (h : Derives .range ts e) : Derives .percentage ts e
  | percent {ts : List Token} {e : Expr} (h : Derives .percentage ts e) :
    Derives .percentage (ts ++ [.percent]) (.unary .percent e)
  | single {ts : List Token} {e : Expr} (h : Derives .primary ts e) : Derives .range ts e
  | corners {ts : List Token} {a : Address} (b : Address) (h : Derives .primary ts (.reference a)) :
    Derives .range (ts ++ [.colon, .cell b]) (.range (.ofCorners a b))
  | literal {t : Token} {c : Cell} (h : t.literal? = some c) : Derives .primary [t] (.literal c)
  | reference (a : Address) : Derives .primary [.cell a] (.reference a)
  | name (s : String) : Derives .primary [.identifier s] (.name s)
  | call (f : String) (args : List (List Token × Expr))
    (h : ∀ arg ∈ args, Derives (.chain .comparison) arg.1 arg.2) :
    Derives .primary ([.identifier f, .leftParen] ++ rowText args ++ [.rightParen])
      (.call f.toUpper (args.map Prod.snd))
  | paren {ts : List Token} {e : Expr} (h : Derives (.chain .comparison) ts e) :
    Derives .primary ([.leftParen] ++ ts ++ [.rightParen]) e
  | array (rows : List (List (List Token × Expr))) (hne : rows ≠ [])
    (hrows : ∀ row ∈ rows, row ≠ [] ∧ ∀ x ∈ row, DerivesElement x.1 x.2)
    (hrect : isRectangular (rows.map (·.map Prod.snd)) = true) :
    Derives .primary ([.leftBrace] ++ rowsText rows ++ [.rightBrace])
      (.array (rows.map (·.map Prod.snd)))

/-- The tokens of a scan that reaches the end of its text. -/
def Scan.tokens? : Scan → Option (List Token)
  | finish _ => some []
  | fault _ => none
  | token t _ rest => rest.tokens?.map (t :: ·)

/-- The tokens of a formula behind its equals sign. -/
def formulaTokens? (s : String) : Option (List Token) :=
  match Text.trimChars s.toList with
  | '=' :: cs => (scanFrom 0 1 cs).tokens?
  | _ => none

end Spreadsheet.Formula
