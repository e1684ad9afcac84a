import Spreadsheet.Formula.Expr

/-! The subterms of an expression, and what holds at every one of them. -/

namespace Spreadsheet.Formula.Expr

mutual

/-- An expression and all expressions in it. -/
def subterms : Expr → List Expr
  | literal c => [literal c]
  | reference a => [reference a]
  | range r => [range r]
  | name s => [name s]
  | binary op l r => binary op l r :: (l.subterms ++ r.subterms)
  | unary op x => unary op x :: x.subterms
  | call f args => call f args :: subtermsOfList args
  | array rows => array rows :: subtermsOfRows rows

def subtermsOfList : List Expr → List Expr
  | [] => []
  | e :: es => e.subterms ++ subtermsOfList es

def subtermsOfRows : List (List Expr) → List Expr
  | [] => []
  | row :: rows => subtermsOfList row ++ subtermsOfRows rows

end

/-- Whether a property holds at every subterm. -/
def Everywhere (Q : Expr → Prop) (e : Expr) : Prop := ∀ x ∈ e.subterms, Q x

theorem mem_subterms_self (e : Expr) : e ∈ e.subterms := by
  cases e <;> rw [subterms] <;> exact List.mem_cons_self

theorem mem_subtermsOfList {x : Expr} {es : List Expr} :
    x ∈ subtermsOfList es ↔ ∃ e ∈ es, x ∈ e.subterms := by
  induction es with
  | nil => simp [subtermsOfList]
  | cons e es ih => simp [subtermsOfList, ih]

theorem mem_subtermsOfRows {x : Expr} {rows : List (List Expr)} :
    x ∈ subtermsOfRows rows ↔ ∃ row ∈ rows, ∃ e ∈ row, x ∈ e.subterms := by
  induction rows with
  | nil => simp [subtermsOfRows]
  | cons row rows ih => simp [subtermsOfRows, ih, mem_subtermsOfList]

mutual

theorem mem_subterms_trans {x y : Expr} (hy : y ∈ x.subterms) (e : Expr) (hx : x ∈ e.subterms) :
    y ∈ e.subterms := by
  cases e with
  | binary op l r =>
    rw [subterms, List.mem_cons, List.mem_append] at hx
    rcases hx with rfl | hx | hx
    · exact hy
    · exact List.mem_cons_of_mem _ (List.mem_append_left _ (mem_subterms_trans hy l hx))
    · exact List.mem_cons_of_mem _ (List.mem_append_right _ (mem_subterms_trans hy r hx))
  | unary op z =>
    rw [subterms, List.mem_cons] at hx
    rcases hx with rfl | hx
    · exact hy
    · exact List.mem_cons_of_mem _ (mem_subterms_trans hy z hx)
  | call f args =>
    rw [subterms, List.mem_cons] at hx
    rcases hx with rfl | hx
    · exact hy
    · exact List.mem_cons_of_mem _ (mem_subtermsOfList_trans hy args hx)
  | array rows =>
    rw [subterms, List.mem_cons] at hx
    rcases hx with rfl | hx
    · exact hy
    · exact List.mem_cons_of_mem _ (mem_subtermsOfRows_trans hy rows hx)
  | _ =>
    rw [subterms, List.mem_singleton] at hx
    exact hx ▸ hy

theorem mem_subtermsOfList_trans {x y : Expr} (hy : y ∈ x.subterms) (es : List Expr)
    (hx : x ∈ subtermsOfList es) : y ∈ subtermsOfList es := by
  cases es with
  | nil => cases hx
  | cons e es =>
    rw [subtermsOfList, List.mem_append] at hx ⊢
    exact hx.imp (mem_subterms_trans hy e) (mem_subtermsOfList_trans hy es)

theorem mem_subtermsOfRows_trans {x y : Expr} (hy : y ∈ x.subterms) (rows : List (List Expr))
    (hx : x ∈ subtermsOfRows rows) : y ∈ subtermsOfRows rows := by
  cases rows with
  | nil => cases hx
  | cons row rows =>
    rw [subtermsOfRows, List.mem_append] at hx ⊢
    exact hx.imp (mem_subtermsOfList_trans hy row) (mem_subtermsOfRows_trans hy rows)

end

variable {Q : Expr → Prop} {e l r x : Expr} {f : String} {args : List Expr}
  {rows : List (List Expr)}

theorem Everywhere.self (h : e.Everywhere Q) : Q e := h e e.mem_subterms_self

theorem Everywhere.operands {op : BinaryOp} (h : (binary op l r).Everywhere Q) :
    l.Everywhere Q ∧ r.Everywhere Q := by
  rw [Everywhere, subterms] at h
  exact ⟨fun y hy => h y (by simp [hy]), fun y hy => h y (by simp [hy])⟩

theorem Everywhere.operand {op : UnaryOp} (h : (unary op x).Everywhere Q) : x.Everywhere Q := by
  rw [Everywhere, subterms] at h
  exact fun y hy => h y (List.mem_cons_of_mem _ hy)

theorem Everywhere.arguments (h : (call f args).Everywhere Q) : ∀ x ∈ args, x.Everywhere Q := by
  rw [Everywhere, subterms] at h
  exact fun x hx y hy => h y (List.mem_cons_of_mem _ (mem_subtermsOfList.mpr ⟨x, hx, hy⟩))

theorem Everywhere.elements (h : (array rows).Everywhere Q) :
    ∀ row ∈ rows, ∀ x ∈ row, x.Everywhere Q := by
  rw [Everywhere, subterms] at h
  exact fun row hrow x hx y hy =>
    h y (List.mem_cons_of_mem _ (mem_subtermsOfRows.mpr ⟨row, hrow, x, hx, hy⟩))

end Spreadsheet.Formula.Expr
