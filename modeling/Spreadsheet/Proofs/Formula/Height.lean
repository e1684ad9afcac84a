import Spreadsheet.Formula.Expr

/-! The height of syntax trees, and how deep calls are nested in them. -/

namespace Spreadsheet.Formula.Expr

mutual

/-- The greatest weight of a path from the root to a leaf, when each operator and array constant
weighs `o` and each call `c`. -/
def weight (o c : Nat) : Expr → Nat
  | literal _ | reference _ | range _ | name _ => 0
  | binary _ l r => max (l.weight o c) (r.weight o c) + o
  | unary _ x => x.weight o c + o
  | call _ args => weightOfList o c args + c
  | array rows => weightOfRows o c rows + o

def weightOfList (o c : Nat) : List Expr → Nat
  | [] => 0
  | e :: es => max (e.weight o c) (weightOfList o c es)

def weightOfRows (o c : Nat) : List (List Expr) → Nat
  | [] => 0
  | row :: rows => max (weightOfList o c row) (weightOfRows o c rows)

end

mutual

/-- The most expressions on a path from the root to a leaf, the leaf among them. -/
def nodes : Expr → Nat
  | literal _ | reference _ | range _ | name _ => 1
  | binary _ l r => max l.nodes r.nodes + 1
  | unary _ x => x.nodes + 1
  | call _ args => nodesOfList args + 1
  | array rows => nodesOfRows rows + 1

def nodesOfList : List Expr → Nat
  | [] => 0
  | e :: es => max e.nodes (nodesOfList es)

def nodesOfRows : List (List Expr) → Nat
  | [] => 0
  | row :: rows => max (nodesOfList row) (nodesOfRows rows)

end

/-- The most operators, calls and array constants on a path from the root to a leaf. -/
def height (e : Expr) : Nat := e.weight 1 1

/-- The most calls on a path from the root to a leaf. -/
def calls (e : Expr) : Nat := e.weight 0 1

section

variable {o c n : Nat} {es : List Expr} {rows : List (List Expr)}

theorem weightOfList_le_iff : weightOfList o c es ≤ n ↔ ∀ e ∈ es, e.weight o c ≤ n := by
  induction es with
  | nil => simp [weightOfList]
  | cons e es ih => rw [weightOfList, Nat.max_le, ih, List.forall_mem_cons]

theorem weightOfRows_le_iff :
    weightOfRows o c rows ≤ n ↔ ∀ row ∈ rows, ∀ e ∈ row, e.weight o c ≤ n := by
  induction rows with
  | nil => simp [weightOfRows]
  | cons row rows ih =>
    rw [weightOfRows, Nat.max_le, ih, weightOfList_le_iff, List.forall_mem_cons]

theorem nodesOfList_le_iff : nodesOfList es ≤ n ↔ ∀ e ∈ es, e.nodes ≤ n := by
  induction es with
  | nil => simp [nodesOfList]
  | cons e es ih => rw [nodesOfList, Nat.max_le, ih, List.forall_mem_cons]

theorem nodesOfRows_le_iff : nodesOfRows rows ≤ n ↔ ∀ row ∈ rows, ∀ e ∈ row, e.nodes ≤ n := by
  induction rows with
  | nil => simp [nodesOfRows]
  | cons row rows ih =>
    rw [nodesOfRows, Nat.max_le, ih, nodesOfList_le_iff, List.forall_mem_cons]

end

theorem nodes_pos (e : Expr) : 0 < e.nodes := by cases e <;> simp [nodes]

mutual

/-- A leaf is the one expression on a path that the height does not count. -/
theorem nodes_le_height (e : Expr) : e.nodes ≤ e.weight 1 1 + 1 := by
  cases e with
  | binary op l r =>
    have hl := nodes_le_height l
    have hr := nodes_le_height r
    simp only [nodes, weight]
    omega
  | unary op x =>
    have hx := nodes_le_height x
    simp only [nodes, weight]
    omega
  | call f args =>
    have hargs := nodesOfList_le_height args
    simp only [nodes, weight]
    omega
  | array rows =>
    have hrows := nodesOfRows_le_height rows
    simp only [nodes, weight]
    omega
  | _ => exact Nat.le_refl 1

theorem nodesOfList_le_height (es : List Expr) : nodesOfList es ≤ weightOfList 1 1 es + 1 := by
  cases es with
  | nil => exact Nat.zero_le _
  | cons e es =>
    have he := nodes_le_height e
    have hes := nodesOfList_le_height es
    simp only [nodesOfList, weightOfList]
    omega

theorem nodesOfRows_le_height (rows : List (List Expr)) :
    nodesOfRows rows ≤ weightOfRows 1 1 rows + 1 := by
  cases rows with
  | nil => exact Nat.zero_le _
  | cons row rows =>
    have hrow := nodesOfList_le_height row
    have hrows := nodesOfRows_le_height rows
    simp only [nodesOfRows, weightOfRows]
    omega

end

section

variable {l r x : Expr} {f : String} {args : List Expr} {rows : List (List Expr)} {n : Nat}

@[simp]
theorem height_binary {op : BinaryOp} : (binary op l r).height = max l.height r.height + 1 := by
  simp [height, weight]

@[simp]
theorem calls_binary {op : BinaryOp} : (binary op l r).calls = max l.calls r.calls := by
  simp [calls, weight]

@[simp]
theorem height_unary {op : UnaryOp} : (unary op x).height = x.height + 1 := by
  simp [height, weight]

@[simp]
theorem calls_unary {op : UnaryOp} : (unary op x).calls = x.calls := by simp [calls, weight]

theorem height_call_singleton : (call f [x]).height = x.height + 1 := by
  simp [height, weight, weightOfList]

theorem height_call_le : (call f args).height ≤ n + 1 ↔ ∀ e ∈ args, e.height ≤ n := by
  simp only [height, weight, Nat.add_le_add_iff_right, weightOfList_le_iff]

theorem calls_call_le : (call f args).calls ≤ n + 1 ↔ ∀ e ∈ args, e.calls ≤ n := by
  simp only [calls, weight, Nat.add_le_add_iff_right, weightOfList_le_iff]

theorem height_array_le :
    (array rows).height ≤ n + 1 ↔ ∀ row ∈ rows, ∀ e ∈ row, e.height ≤ n := by
  simp only [height, weight, Nat.add_le_add_iff_right, weightOfRows_le_iff]

theorem calls_array_le : (array rows).calls ≤ n ↔ ∀ row ∈ rows, ∀ e ∈ row, e.calls ≤ n := by
  simp only [calls, weight, Nat.add_zero, weightOfRows_le_iff]

end

end Spreadsheet.Formula.Expr
