import Spreadsheet.Proofs.Formula.Grammar
import Spreadsheet.Proofs.Formula.Height

/-! How high trees can grow. The room that is left bounds each chain of operators on its own, so the
height of a tree adds up over the kinds of chains and over the levels: `tallest`. -/

namespace Spreadsheet.Formula

/-- The height that trees of expressions can have. Five kinds of chains, percent signs among them,
may use up all the room at each level; a call and a power take one operation more. -/
def tallest : (levels room : Nat) → Nat
  | 0, room => 5 * room
  | levels + 1, room => tallest levels (room - 1) + 5 * room + 2

theorem tallest_le (levels : Nat) {room top : Nat} (h : room ≤ top) :
    tallest levels room + 5 * (top - room) ≤ tallest levels top := by
  induction levels generalizing room top with
  | zero =>
    simp only [tallest]
    omega
  | succ levels ih =>
    have hinner := ih (Nat.sub_le_sub_right h 1)
    simp only [tallest]
    omega

/-- What looser operators may add to the height of a phrase. -/
def Phrase.above (levels room : Nat) : Phrase → Nat
  | .chain .comparison => 0
  | .chain .sum => room
  | .chain .concat => 2 * room
  | .chain .product => 3 * room
  | .signed | .power => 4 * room
  | .percentage => 4 * room + min 1 levels
  | .range | .primary => 5 * room + min 1 levels

theorem Level.above_operand (l : Level) (levels room : Nat) :
    l.operand.above levels room = (Phrase.chain l).above levels room + room := by
  cases l <;> simp only [Level.operand, Phrase.above] <;> omega

theorem Phrase.above_le (k : Phrase) (levels room : Nat) :
    k.above levels room ≤ tallest levels room := by
  have htallest : 5 * room + min 1 levels ≤ tallest levels room := by
    cases levels <;> simp only [tallest] <;> omega
  rcases k with (_ | _ | _ | _) | _ | _ | _ | _ | _ <;> simp only [above] <;> omega

theorem DerivesElement.height_eq {ts : List Token} {e : Expr} (h : DerivesElement ts e) :
    e.height = 0 := by
  cases h <;> rfl

theorem DerivesElement.calls_eq {ts : List Token} {e : Expr} (h : DerivesElement ts e) :
    e.calls = 0 := by
  cases h <;> rfl

/-- A phrase that is read at a place with the given levels and room, and that may still grow by
`spare` operations of its own kind. -/
structure Fits (k : Phrase) (levels room spare : Nat) (ts : List Token) (e : Expr) : Prop where
  derives : Derives k ts e
  height : e.height + spare + k.above levels room ≤ tallest levels room
  calls : e.calls ≤ levels

namespace Fits

variable {l : Level} {levels room spare : Nat} {ts us : List Token} {e f : Expr}

theorem finish {k : Phrase} (h : Fits k levels room spare ts e) :
    Fits k levels room 0 ts e where
  derives := h.derives
  height := by
    have := h.height
    omega
  calls := h.calls

theorem operand (h : Fits l.operand levels room 0 ts e) :
    Fits (.chain l) levels room room ts e where
  derives := .operand h.derives
  height := by
    have := h.height
    rw [l.above_operand] at this
    omega
  calls := h.calls

/-- The right operand is read with less room than the chain began with. -/
theorem operation {t : Token} {op : BinaryOp} (hroom : spare < room)
    (left : Fits (.chain l) levels room (spare + 1) ts e) (hop : l.operator? t = some op)
    (right : Fits l.operand levels spare 0 us f) :
    Fits (.chain l) levels room spare (ts ++ [t] ++ us) (.binary op e f) where
  derives := .operation left.derives hop right.derives
  height := by
    have hleft := left.height
    have hright := right.height
    have hmono := tallest_le levels (Nat.le_of_lt hroom)
    rw [Expr.height_binary]
    cases l <;> simp only [Level.operand, Phrase.above] at hleft hright ⊢ <;> omega
  calls := by
    rw [Expr.calls_binary]
    exact Nat.max_le.mpr ⟨left.calls, right.calls⟩

theorem sign {t : Token} {op : UnaryOp} (ht : signOp? t = some op)
    (h : Fits .signed levels room 0 ts e) :
    Fits .signed (levels + 1) (room + 1) 0 ([t] ++ ts) (.unary op e) where
  derives := .sign ht h.derives
  height := by
    have := h.height
    simp only [Phrase.above, tallest, Nat.add_sub_cancel, Expr.height_unary] at this ⊢
    omega
  calls := by
    rw [Expr.calls_unary]
    exact Nat.le_succ_of_le h.calls

theorem unsigned (h : Fits .power levels room 0 ts e) : Fits .signed levels room 0 ts e :=
  ⟨.unsigned h.derives, h.height, h.calls⟩

theorem base (h : Fits .percentage levels room 0 ts e) : Fits .power levels room 0 ts e where
  derives := .base h.derives
  height := by
    have := h.height
    simp only [Phrase.above] at this ⊢
    omega
  calls := h.calls

theorem power (left : Fits .percentage (levels + 1) (room + 1) 0 ts e)
    (right : Fits .signed levels room 0 us f) :
    Fits .power (levels + 1) (room + 1) 0 (ts ++ [.caret] ++ us) (.binary .power e f) where
  derives := .power left.derives right.derives
  height := by
    have hleft := left.height
    have hright := right.height
    simp only [Phrase.above, tallest, Nat.add_sub_cancel, Expr.height_binary] at hleft hright ⊢
    omega
  calls := by
    rw [Expr.calls_binary]
    exact Nat.max_le.mpr ⟨left.calls, Nat.le_succ_of_le right.calls⟩

theorem whole (h : Fits .range levels room 0 ts e) :
    Fits .percentage levels room room ts e where
  derives := .whole h.derives
  height := by
    have := h.height
    simp only [Phrase.above] at this ⊢
    omega
  calls := h.calls

theorem percent (h : Fits .percentage levels room (spare + 1) ts e) :
    Fits .percentage levels room spare (ts ++ [.percent]) (.unary .percent e) where
  derives := .percent h.derives
  height := by
    have := h.height
    rw [Expr.height_unary]
    omega
  calls := by
    rw [Expr.calls_unary]
    exact h.calls

theorem single (h : Fits .primary levels room 0 ts e) : Fits .range levels room 0 ts e :=
  ⟨.single h.derives, h.height, h.calls⟩

theorem leaf {k : Phrase} (h : Derives k ts e) (hheight : e.height = 0) (hcalls : e.calls = 0) :
    Fits k levels room 0 ts e where
  derives := h
  height := by
    have := k.above_le levels room
    omega
  calls := by
    rw [hcalls]
    exact Nat.zero_le levels

theorem paren (h : Fits (.chain .comparison) levels room 0 ts e) :
    Fits .primary (levels + 1) (room + 1) 0 ([.leftParen] ++ ts ++ [.rightParen]) e where
  derives := .paren h.derives
  height := by
    have := h.height
    simp only [Phrase.above, tallest, Nat.add_sub_cancel] at this ⊢
    omega
  calls := Nat.le_succ_of_le h.calls

theorem call (f : String) (args : List (List Token × Expr))
    (h : ∀ arg ∈ args, Fits (.chain .comparison) levels room 0 arg.1 arg.2) :
    Fits .primary (levels + 1) (room + 1) 0 ([.identifier f, .leftParen] ++ rowText args ++
      [.rightParen]) (.call f.toUpper (args.map Prod.snd)) where
  derives := .call f args fun arg harg => (h arg harg).derives
  height := by
    have : (Expr.call f.toUpper (args.map Prod.snd)).height ≤ tallest levels room + 1 := by
      rw [Expr.height_call_le, List.forall_mem_map]
      exact fun arg harg => (h arg harg).height
    simp only [Phrase.above, tallest, Nat.add_sub_cancel] at this ⊢
    omega
  calls := by
    rw [Expr.calls_call_le, List.forall_mem_map]
    exact fun arg harg => (h arg harg).calls

theorem array {rows : List (List (List Token × Expr))} (hne : rows ≠ [])
    (hrows : ∀ row ∈ rows, row ≠ [] ∧ ∀ x ∈ row, DerivesElement x.1 x.2)
    (hrect : isRectangular (rows.map (·.map Prod.snd)) = true) :
    Fits .primary (levels + 1) (room + 1) 0 ([.leftBrace] ++ rowsText rows ++ [.rightBrace])
      (.array (rows.map (·.map Prod.snd))) where
  derives := .array rows hne hrows hrect
  height := by
    have h : (Expr.array (rows.map (·.map Prod.snd))).height ≤ 0 + 1 := by
      simp only [Expr.height_array_le, List.forall_mem_map]
      exact fun row hrow x hx => Nat.le_of_eq ((hrows row hrow).2 x hx).height_eq
    simp only [Phrase.above, tallest] at h ⊢
    omega
  calls := by
    simp only [Expr.calls_array_le, List.forall_mem_map]
    exact fun row hrow x hx => ((hrows row hrow).2 x hx).calls_eq ▸ Nat.zero_le _

end Fits

end Spreadsheet.Formula
