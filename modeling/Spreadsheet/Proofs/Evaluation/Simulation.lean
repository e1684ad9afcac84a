import Spreadsheet.Proofs.Evaluation.Follows
import Spreadsheet.Proofs.Function.Call

/-! The simulation theorem. Two scopes that give related values to the leaves of an expression, and
whose eager functions keep the relation, give related values to the whole expression. -/

namespace Spreadsheet

open Formula Formula.Expr

/-- A relation between the values that expressions have in two scopes. The expressions meant are
those that satisfy `P` at the depth where they stand. -/
structure Simulation (c : Cutoff) (V : Value → Value → Prop) (s t : Scope)
    (P : Depth → Expr → Prop) : Prop extends Similarity V where
  checkNode {d : Depth} {e : Expr} : P d e →
    Follows c Eq (d.checkNode s.options) (d.checkNode t.options)
  checkCall {d : Depth} {f : String} {args : List Expr} : P d (.call f args) →
    Follows c Eq (d.enterNode.checkCall s.options) (d.enterNode.checkCall t.options)
  literal {d : Depth} {cell : Cell} : P d (.literal cell) → V (.ofCell cell) (.ofCell cell)
  reference {d : Depth} {a : Address} : P d (.reference a) →
    V (s.sheet.valueAt a) (t.sheet.valueAt a)
  range {d : Depth} {r : Range} : P d (.range r) →
    V (s.sheet.rangeValues s.options.maxRangeCells r)
      (t.sheet.rangeValues t.options.maxRangeCells r)
  operands {d : Depth} {op : BinaryOp} {l r : Expr} : P d (.binary op l r) →
    P d.enterNode l ∧ P d.enterNode r
  operand {d : Depth} {op : UnaryOp} {x : Expr} : P d (.unary op x) → P d.enterNode x
  arguments {d : Depth} {f : String} {args : List Expr} : P d (.call f args) →
    ∀ x ∈ args, P d.enterNode.enterCall x
  elements {d : Depth} {rows : List (List Expr)} : P d (.array rows) →
    ∀ row ∈ rows, ∀ x ∈ row, P d.enterNode x
  constant {d : Depth} {rows : List (List Expr)} {vss : List (List Value)} : P d (.array rows) →
    vss.map List.length = rows.map List.length →
    (∀ vs ∈ vss, ∀ v ∈ vs, v.isArray = false ∧ V v v) → V (.array vss) (.array vss)
  keeps {d : Depth} {name : String} {args : List Expr} {f : Function} : P d (.call name args) →
    Function.find? name = some f → f.arityError? args.length = none →
    f.Keeps V (delayList s d.enterNode.enterCall args) (delayList t d.enterNode.enterCall args)

theorem Sheet.isArray_valueAt (s : Sheet) (a : Address) : (s.valueAt a).isArray = false := by
  rw [valueAt]
  split
  · cases s.get a <;> rfl
  · rfl

namespace Simulation

variable {c : Cutoff} {V : Value → Value → Prop} {s t : Scope} {P : Depth → Expr → Prop}

section

variable (h : Simulation c V s t P)
include h

theorem follows_arrayArgument {d : Depth} {e : Expr} (he : P d e)
    {value value' : Unit → Except DepthExceeded Value} (hvalue : Follows c V (value ()) (value' ())) :
    Follows c V (e.arrayArgument s d value) (e.arrayArgument t d value') := by
  cases e with
  | range r => exact (h.checkNode he).bind fun _ _ _ => .ok (h.range he)
  | reference a =>
    rw [arrayArgument, arrayArgument]
    refine (h.checkNode he).bind fun _ _ _ => ?_
    have hsingle := s.sheet.isArray_valueAt a
    have hvalue := h.reference he
    have heq := h.eq_of_single hvalue hsingle
    rw [← heq] at hvalue ⊢
    split
    · rename_i e he
      rw [he] at hvalue
      split
      · exact .ok hvalue
      · exact .ok (h.cell rfl hvalue)
    · exact .ok (h.cell hsingle hvalue)
  | _ => exact hvalue

/-- An array in an array constant becomes an error, so elements are single values. -/
theorem element_related {v w : Value} (hvw : V v w) :
    element v = element w ∧ (element v).isArray = false ∧ V (element v) (element v) := by
  obtain rfl | ⟨rows, rows', rfl, rfl⟩ := h.eq_or_arrays hvw
  · cases v with
    | array rows => exact ⟨rfl, rfl, h.error _⟩
    | _ => exact ⟨rfl, rfl, hvw⟩
  · exact ⟨rfl, rfl, h.error _⟩

end

mutual

theorem follows_eval (h : Simulation c V s t P) (e : Expr) (d : Depth) (he : P d e) :
    Follows c V (e.eval s d) (e.eval t d) := by
  have hnode := h.checkNode he
  cases e with
  | literal cell =>
    rw [eval, eval]
    exact hnode.bind fun _ _ _ => .ok (h.literal he)
  | reference a =>
    rw [eval, eval]
    exact hnode.bind fun _ _ _ => .ok (h.reference he)
  | range r =>
    rw [eval, eval]
    exact hnode.bind fun _ _ _ => .ok (h.error _)
  | name n =>
    rw [eval, eval]
    exact hnode.bind fun _ _ _ => .ok (h.error _)
  | binary op l r =>
    obtain ⟨hl, hr⟩ := h.operands he
    rw [eval, eval]
    exact hnode.bind fun _ _ _ => (h.follows_eval l d.enterNode hl).bind fun v v' hv =>
      h.follows_operand hv <| (h.follows_eval r d.enterNode hr).bind fun w w' hw =>
        h.follows_operand hw (.ok (h.binary hv hw))
  | unary op x =>
    rw [eval, eval]
    exact hnode.bind fun _ _ _ => (h.follows_eval x d.enterNode (h.operand he)).bind fun v v' hv =>
      h.follows_operand hv (.ok (h.unary hv))
  | call f args =>
    rw [eval, eval]
    have hargs := h.follows_delayList args d.enterNode.enterCall (h.arguments he)
    refine hnode.bind fun _ _ _ =>
      Function.follows_call h.toSimilarity f (h.checkCall he) hargs fun f hf harity => ?_
    rw [length_delayList] at harity
    exact h.keeps he hf harity
  | array rows =>
    rw [eval, eval]
    refine hnode.bind fun _ _ _ =>
      (h.follows_evalRows rows d.enterNode (h.elements he)).bind fun vss wss hvss => ?_
    obtain ⟨rfl, hlengths, hsingle⟩ := hvss
    exact .ok (h.constant he hlengths hsingle)

theorem follows_delayList (h : Simulation c V s t P) (es : List Expr) (d : Depth)
    (hes : ∀ x ∈ es, P d x) :
    List.Forall₂ (Delayed.Follows c V) (delayList s d es) (delayList t d es) := by
  cases es with
  | nil => exact .nil
  | cons e es =>
    obtain ⟨he, hes⟩ := List.forall_mem_cons.mp hes
    have hvalue := h.follows_eval e d he
    have harray : Follows c V (e.arrayArgument s d fun _ => e.eval s d)
        (e.arrayArgument t d fun _ => e.eval t d) := h.follows_arrayArgument he hvalue
    rw [delayList, delayList]
    exact .cons ⟨hvalue, harray, rfl⟩ (h.follows_delayList es d hes)

theorem follows_evalRow (h : Simulation c V s t P) (es : List Expr) (d : Depth)
    (hes : ∀ x ∈ es, P d x) :
    Follows c (fun vs ws => vs = ws ∧ vs.length = es.length ∧ ∀ v ∈ vs, v.isArray = false ∧ V v v)
      (evalRow s d es) (evalRow t d es) := by
  cases es with
  | nil => exact .ok ⟨rfl, rfl, nofun⟩
  | cons e es =>
    obtain ⟨he, hes⟩ := List.forall_mem_cons.mp hes
    rw [evalRow, evalRow]
    refine (h.follows_eval e d he).bind fun v w hvw =>
      (h.follows_evalRow es d hes).bind fun vs ws hvs => ?_
    obtain ⟨rfl, hlength, hsingle⟩ := hvs
    obtain ⟨heq, helement⟩ := h.element_related hvw
    rw [← heq]
    exact .ok ⟨rfl, congrArg (· + 1) hlength, List.forall_mem_cons.mpr ⟨helement, hsingle⟩⟩

theorem follows_evalRows (h : Simulation c V s t P) (rows : List (List Expr)) (d : Depth)
    (hrows : ∀ row ∈ rows, ∀ x ∈ row, P d x) :
    Follows c (fun vss wss => vss = wss ∧ vss.map List.length = rows.map List.length ∧
        ∀ vs ∈ vss, ∀ v ∈ vs, v.isArray = false ∧ V v v)
      (evalRows s d rows) (evalRows t d rows) := by
  cases rows with
  | nil => exact .ok ⟨rfl, rfl, nofun⟩
  | cons row rows =>
    obtain ⟨hrow, hrows⟩ := List.forall_mem_cons.mp hrows
    rw [evalRows, evalRows]
    refine (h.follows_evalRow row d hrow).bind fun vs ws hvs =>
      (h.follows_evalRows rows d hrows).bind fun vss wss hvss => ?_
    obtain ⟨rfl, hlength, hsingle⟩ := hvs
    obtain ⟨rfl, hlengths, hsingles⟩ := hvss
    refine .ok ⟨rfl, ?_, List.forall_mem_cons.mpr ⟨hsingle, hsingles⟩⟩
    rw [List.map_cons, List.map_cons, hlength, hlengths]

end

theorem follows_arrayValue (h : Simulation c V s t P) {e : Expr} {d : Depth} (he : P d e) :
    Follows c V (e.arrayArgument s d fun _ => e.eval s d)
      (e.arrayArgument t d fun _ => e.eval t d) :=
  h.follows_arrayArgument he (h.follows_eval e d he)

end Simulation

end Spreadsheet
