import Spreadsheet.Proofs.Function.Call
import Spreadsheet.Proofs.Function.Unreached

/-! Expressions that differ only in parts that their evaluation does not reach. Such parts may be
anything, unknown functions and trees deeper than the limits among them, and the evaluation ends
alike. -/

namespace Spreadsheet

namespace Formula.Expr

/-- Two expressions at a place of some depth that are equal but for parts which the evaluation of the
first one does not come to: right operands behind an error, and arguments that their call leaves
unevaluated. -/
inductive SameReached (s : Scope) : Depth → Expr → Expr → Prop
  | refl (d : Depth) (e : Expr) : SameReached s d e e
  | binary {d : Depth} {op : BinaryOp} {l l' r r' : Expr} (hl : SameReached s d.enterNode l l')
      (hr : (∀ x, l.eval s d.enterNode ≠ .ok (.error x)) → SameReached s d.enterNode r r') :
      SameReached s d (.binary op l r) (.binary op l' r')
  | unary {d : Depth} {op : UnaryOp} {x x' : Expr} (hx : SameReached s d.enterNode x x') :
      SameReached s d (.unary op x) (.unary op x')
  | call {d : Depth} {name : String} {args args' : List Expr} (hlength : args.length = args'.length)
      (hargs : ∀ i x x', args[i]? = some x → args'[i]? = some x' →
        (∀ f, Function.find? name = some f →
          ¬f.Unreached (delayList s d.enterNode.enterCall args) i) →
        SameReached s d.enterNode.enterCall x x') :
      SameReached s d (.call name args) (.call name args')
  | array {d : Depth} {rows rows' : List (List Expr)}
      (hlengths : rows.map List.length = rows'.map List.length)
      (hrows : ∀ (i j : Nat) (row row' : List Expr) (x x' : Expr), rows[i]? = some row →
        rows'[i]? = some row' → row[j]? = some x → row'[j]? = some x' →
        SameReached s d.enterNode x x') :
      SameReached s d (.array rows) (.array rows')

variable {s : Scope} {d : Depth} {e e' : Expr}

theorem evalRow_congr_of_eval {row row' : List Expr} (hlength : row.length = row'.length)
    (h : ∀ (j : Nat) (x x' : Expr), row[j]? = some x → row'[j]? = some x' →
      x.eval s d = x'.eval s d) : evalRow s d row = evalRow s d row' := by
  induction row generalizing row' with
  | nil =>
    obtain rfl := List.length_eq_zero_iff.mp hlength.symm
    rfl
  | cons x row ih =>
    obtain ⟨x', row', rfl, htail⟩ := Function.exists_cons_of_length_eq hlength
    rw [evalRow, evalRow, h 0 x x' rfl rfl, ih htail fun j => h (j + 1)]

theorem evalRows_congr_of_eval {rows rows' : List (List Expr)}
    (hlengths : rows.map List.length = rows'.map List.length)
    (h : ∀ (i j : Nat) (row row' : List Expr) (x x' : Expr), rows[i]? = some row →
      rows'[i]? = some row' → row[j]? = some x → row'[j]? = some x' → x.eval s d = x'.eval s d) :
    evalRows s d rows = evalRows s d rows' := by
  induction rows generalizing rows' with
  | nil =>
    obtain rfl := List.map_eq_nil_iff.mp hlengths.symm
    rfl
  | cons row rows ih =>
    obtain ⟨row', rows', rfl, hlength, hrest⟩ := List.map_eq_cons_iff.mp hlengths.symm
    rw [evalRows, evalRows,
      evalRow_congr_of_eval hlength.symm fun j x x' => h 0 j row row' x x' rfl rfl,
      ih hrest.symm fun i => h (i + 1)]

/-- References and ranges are kept as they are, so an expression of the same value is the same
argument in every respect. -/
theorem SameReached.delay_eq (h : e.SameReached s d e') (heval : e.eval s d = e'.eval s d) :
    delay s d e = delay s d e' := by
  cases h with
  | refl => rfl
  | _ => simp only [delay, arrayArgument, isRange, heval]

theorem SameReached.eval_eq (h : e.SameReached s d e') : e.eval s d = e'.eval s d := by
  induction h with
  | refl d e => rfl
  | @binary d op l l' r r' _ _ ihl ihr =>
    rw [eval, eval, ← ihl]
    refine bind_congr_of_ok fun _ _ => bind_congr_of_ok fun v hv => ?_
    cases v with
    | error x => rfl
    | _ => simp only [ihr fun x hx => by cases hv.symm.trans hx]
  | unary _ ih => rw [eval, eval, ih]
  | @call d name args args' hlength hargs ih =>
    have hcall : Function.call s.options d.enterNode name (delayList s d.enterNode.enterCall args) =
        Function.call s.options d.enterNode name (delayList s d.enterNode.enterCall args') := by
      refine Function.call_congr (by rw [length_delayList, length_delayList, hlength]) ?_
      intro i hreached
      rw [getElem?_delayList, getElem?_delayList]
      cases hx : args[i]? with
      | none => rw [List.getElem?_eq_none (hlength ▸ List.getElem?_eq_none_iff.mp hx)]
      | some x =>
        have hx' := List.getElem?_eq_getElem (hlength ▸ (List.getElem?_eq_some_iff.mp hx).1)
        have hsame := hargs i x _ hx hx' hreached
        rw [hx', Option.map_some, Option.map_some, hsame.delay_eq (ih i x _ hx hx' hreached)]
    rw [eval, eval, hcall]
  | array hlengths _ ih => rw [eval, eval, evalRows_congr_of_eval hlengths ih]

end Formula.Expr

/-- What an evaluation does not reach is irrelevant to how it ends. -/
theorem Sheet.evaluate_eq_of_sameReached {s : Sheet} {o : EvaluationOptions} {e e' : Formula.Expr}
    (h : e.SameReached ⟨s, o⟩ .top e') : s.evaluate o e = s.evaluate o e' :=
  h.eval_eq

open Formula in
/-- In `IFERROR(SUM(#N/A, x) + x, IF(TRUE, "a", x))` none of the three places of `x` is reached, so an
unknown name there may give way to a tree that is too deep for the limits. -/
theorem Sheet.evaluate_eq_of_sameReached_deep :
    let e (x : Expr) : Expr := .call "IFERROR"
      [.binary .add (.call "SUM" [.literal (.error (.plain .notAvailable)), x]) x,
        .call "IF" [.literal (.boolean true), .literal (.text "a"), x]]
    let o : EvaluationOptions := ⟨2, 4, 1⟩
    let deep : Expr := .unary .plus (.unary .plus (.unary .plus (.unary .plus (.name "y"))))
    empty.evaluate o deep = .error ⟨.expression, 4⟩ ∧
      (e (.name "x")).SameReached ⟨empty, o⟩ .top (e deep) ∧
      empty.evaluate o (e deep) = empty.evaluate o (e (.name "x")) := by
  intro e o deep
  have hsum : Function.find? "SUM" = some Function.aggregationFunctions[0] :=
    Function.find?_of_mem (Function.mem_all_of_aggregation (List.getElem_mem _)) (by decide +kernel)
  have hif : Function.find? "IF" = some Function.logicalFunctions[0] :=
    Function.find?_of_mem (Function.mem_all_of_logical (List.getElem_mem _)) (by decide +kernel)
  have herror : (Expr.call "SUM" [.literal (.error (.plain .notAvailable)), .name "x"]).eval
      ⟨empty, o⟩ ⟨2, 1⟩ = .ok (.error (.plain .notAvailable)) := by
    rw [Expr.eval_call (v := .error (.plain .notAvailable)) hsum rfl rfl rfl rfl,
      Value.finite_eq_self (by simp) (by simp)]
  have hsame : (e (.name "x")).SameReached ⟨empty, o⟩ .top (e deep) := by
    refine .call rfl fun i x x' hx hx' _ => ?_
    rcases i with _ | _ | i
    · obtain ⟨⟩ := hx
      obtain ⟨⟩ := hx'
      refine .binary (.call rfl fun i x x' hx hx' hreached => ?_) fun h => absurd herror (h _)
      rcases i with _ | _ | i
      · obtain ⟨⟩ := hx
        obtain ⟨⟩ := hx'
        exact .refl _ _
      · exact absurd (.behindError rfl rfl rfl (Nat.zero_lt_succ 0)) (hreached _ hsum)
      · cases hx
    · obtain ⟨⟩ := hx
      obtain ⟨⟩ := hx'
      refine .call rfl fun i x x' hx hx' hreached => ?_
      rcases i with _ | _ | _ | i
      · obtain ⟨⟩ := hx
        obtain ⟨⟩ := hx'
        exact .refl _ _
      · obtain ⟨⟩ := hx
        obtain ⟨⟩ := hx'
        exact .refl _ _
      · exact absurd (.elseBranch rfl ⟨_, rfl, rfl⟩ nofun) (hreached _ hif)
      · cases hx
    · cases hx
  exact ⟨rfl, hsame, (evaluate_eq_of_sameReached hsame).symm⟩

end Spreadsheet
