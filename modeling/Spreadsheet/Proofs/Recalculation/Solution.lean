import Spreadsheet.Proofs.Failure
import Spreadsheet.Proofs.Graph.Walk
import Spreadsheet.Proofs.Recalculation.Equations

/-! Recalculation solves the equations of a sheet. It evaluates every formula once, on a sheet that
is only filled in as far as its schedule has come. The step lemma says that a formula evaluated in
its turn holds from then on, and that later formulas do not disturb it. -/

namespace Spreadsheet.Sheet

open Relation

variable {s t c : Sheet} {o : EvaluationOptions} {p q : Position} {e : Formula.Expr}

theorem mem_formulas {r : Except Formula.ParseError Formula.Expr} :
    (p, r) ∈ s.formulas ↔ s.formulaAt? p = some r := by
  simp only [formulas, List.mem_filterMap, Prod.exists, mem_toList, Option.map_eq_some_iff,
    formulaAt?, Prod.mk.injEq]
  constructor
  · rintro ⟨_, _, ⟨q, _, rfl, rfl⟩, text, htext, rfl, rfl⟩
    exact ⟨text, htext, rfl⟩
  · rintro ⟨text, htext, rfl⟩
    have hstores : s.Stores p := stores_of_formulaAt? (r := Formula.parse text) (by
      rw [formulaAt?, htext, Option.map_some])
    exact ⟨p.address, _, ⟨p, hstores, rfl, rfl⟩, text, htext, rfl, rfl⟩

theorem mem_parsed : (p, e) ∈ s.parsed ↔ s.formulaAt? p = some (.ok e) := by
  simp only [parsed, List.mem_filterMap, Prod.exists, mem_formulas, Option.map_eq_some_iff,
    Prod.mk.injEq]
  constructor
  · rintro ⟨q, r, hr, f, hf, rfl, rfl⟩
    cases r with
    | error fault => simp [Except.toOption] at hf
    | ok f' =>
      obtain rfl : f' = f := Option.some.inj hf
      exact hr
  · exact fun h => ⟨p, .ok e, h, e, rfl, rfl, rfl⟩

theorem mem_unparsed {x : Cell} :
    (p, x) ∈ s.unparsed ↔ ∃ fault, s.formulaAt? p = some (.error fault) ∧ x = malformed fault := by
  simp only [unparsed, List.mem_filterMap, Prod.exists, mem_formulas]
  constructor
  · rintro ⟨q, r, hr, hx⟩
    cases r with
    | error fault =>
      obtain ⟨rfl, rfl⟩ : q = p ∧ malformed fault = x := by simpa using hx
      exact ⟨fault, hr, rfl⟩
    | ok f => simp at hx
  · rintro ⟨fault, hfault, rfl⟩
    exact ⟨p, .error fault, hfault, rfl⟩

/-- The graph of the parsed formulas. -/
def graph (s : Sheet) : Graph := .ofFormulas s.parsed

theorem next_precedents : Graph.Next s.graph.precedents = s.Reads := by
  ext p q
  simp only [Graph.Next, graph, Graph.mem_precedents_ofFormulas, List.mem_map, Prod.exists,
    mem_parsed, Reads]
  constructor
  · rintro ⟨e, he, ⟨_, f, hf, rfl⟩, hcovers⟩
    exact ⟨e, f, he, hf, hcovers⟩
  · rintro ⟨e, f, he, hf, hcovers⟩
    exact ⟨e, he, ⟨q, f, hf, rfl⟩, hcovers⟩

theorem mem_cycleMembers : p ∈ s.graph.cycleMembers ↔ s.Circular p := by
  rw [Graph.mem_cycleMembers, Graph.Cyclic, next_precedents, Circular]

theorem Circular.parsed (h : s.Circular p) : ∃ e, s.formulaAt? p = some (.ok e) := by
  obtain ⟨_, ⟨e, _, he, _⟩, _⟩ := TransGen.head'_iff.mp h
  exact ⟨e, he⟩

/-! ### The sheet before any formula is evaluated -/

/-- The sheet with errors in place of malformed and circular formulas. -/
def prepare (s : Sheet) : Sheet :=
  (s.setAll s.unparsed).setAll (s.graph.cycleMembers.map (·, circular))

theorem prepares_prepare (s : Sheet) : s.Prepares s.prepare := by
  have hunparsed : ∀ qx ∈ s.unparsed, s.Stores qx.1 := fun qx hqx => by
    obtain ⟨_, hfault, _⟩ := mem_unparsed.mp hqx
    exact stores_of_formulaAt? hfault
  have hsizes := rowSizes_setAll hunparsed
  have hcircular : ∀ qx ∈ s.graph.cycleMembers.map (·, circular),
      (s.setAll s.unparsed).Stores qx.1 := fun qx hqx => by
    obtain ⟨q, hq, rfl⟩ := List.mem_map.mp hqx
    obtain ⟨_, hparsed⟩ := (mem_cycleMembers.mp hq).parsed
    exact (stores_congr hsizes q).mpr (stores_of_formulaAt? hparsed)
  have hsizes' := rowSizes_setAll hcircular
  have hmem {q : Position} {x : Cell} : (q, x) ∈ s.graph.cycleMembers.map (·, circular) ↔
      s.Circular q ∧ x = circular := by
    simp only [List.mem_map, Prod.mk.injEq, mem_cycleMembers]
    constructor
    · rintro ⟨_, hcirc, rfl, rfl⟩
      exact ⟨hcirc, rfl⟩
    · rintro ⟨hcirc, rfl⟩
      exact ⟨q, hcirc, rfl, rfl⟩
  have hnotCircular {q : Position} (h : ∀ f, s.formulaAt? q ≠ some (.ok f)) (x : Cell) :
      (q, x) ∉ s.graph.cycleMembers.map (·, circular) := fun hx => by
    obtain ⟨f, hf⟩ := (hmem.mp hx).1.parsed
    exact h f hf
  -- A cell is written by the second round or by the first one, or it is left as it was.
  refine ⟨(headers_setAll _ _).trans (headers_setAll s s.unparsed), hsizes'.trans hsizes,
    fun q hq => ?_, fun q fault hq => ?_, fun q f hq hcirc => ?_⟩
  · rw [prepare, cellAt_setAll_of_not_mem (hnotCircular (by simp [hq])), cellAt_setAll_of_not_mem]
    intro x hx
    simp [mem_unparsed, hq] at hx
  · rw [prepare, cellAt_setAll_of_not_mem (hnotCircular (by simp [hq]))]
    refine cellAt_setAll_of_mem (mem_unparsed.mpr ⟨fault, hq, rfl⟩) fun y hy => ?_
    obtain ⟨fault', hfault', rfl⟩ := mem_unparsed.mp hy
    obtain rfl : fault = fault' := by simpa [hq] using hfault'
    rfl
  · exact cellAt_setAll_of_mem (hmem.mpr ⟨hcirc, rfl⟩) fun y hy => (hmem.mp hy).2

/-! ### The schedule -/

/-- The formula of a cell that is due, which is one on no cycle. -/
def dueFormula? (s : Sheet) (p : Position) : Option Formula.Expr :=
  if s.graph.cycleMembers.contains p then none else s.parsed.lookup p

/-- The formulas in the order in which they are evaluated. -/
def due (s : Sheet) : List (Position × Formula.Expr) :=
  (s.graph.order (s.parsed.map Prod.fst)).filterMap fun p => (s.dueFormula? p).map (p, ·)

theorem lookup_parsed : s.parsed.lookup p = some e ↔ s.formulaAt? p = some (.ok e) := by
  rw [← mem_parsed]
  constructor
  · intro h
    obtain ⟨_, _, hsplit, _⟩ := List.lookup_eq_some_iff.mp h
    simp [hsplit]
  · intro h
    cases hlookup : s.parsed.lookup p with
    | none => simpa using List.lookup_eq_none_iff.mp hlookup (p, e) h
    | some f =>
      obtain ⟨_, _, hsplit, _⟩ := List.lookup_eq_some_iff.mp hlookup
      have hf : (p, f) ∈ s.parsed := by simp [hsplit]
      rw [mem_parsed] at h hf
      simpa [h, eq_comm] using hf

theorem dueFormula?_eq_some :
    s.dueFormula? p = some e ↔ s.formulaAt? p = some (.ok e) ∧ ¬s.Circular p := by
  have hmem : s.graph.cycleMembers.contains p = true ↔ s.Circular p := by
    rw [List.contains_iff_mem, mem_cycleMembers]
  rw [dueFormula?]
  split_ifs with h <;> rw [hmem] at h
  · simp [h]
  · simp [h, lookup_parsed]

theorem order_walkOrder (s : Sheet) :
    Graph.WalkOrder s.graph.precedents (s.parsed.map Prod.fst)
      (s.graph.order (s.parsed.map Prod.fst)) :=
  Graph.order_walkOrder _ _

theorem map_fst_due (s : Sheet) : s.due.map Prod.fst =
    (s.graph.order (s.parsed.map Prod.fst)).filter fun p => (s.dueFormula? p).isSome := by
  rw [due, List.map_filterMap, ← List.filterMap_eq_filter]
  congr 1
  funext p
  cases h : s.dueFormula? p <;> simp [Option.guard, h]

theorem mem_due : (p, e) ∈ s.due ↔ s.formulaAt? p = some (.ok e) ∧ ¬s.Circular p := by
  simp only [due, List.mem_filterMap, Option.map_eq_some_iff, Prod.mk.injEq, ← dueFormula?_eq_some]
  constructor
  · rintro ⟨_, _, _, hdue, rfl, rfl⟩
    exact hdue
  · intro hdue
    have hstart : p ∈ s.parsed.map Prod.fst :=
      List.mem_map_of_mem (mem_parsed.mpr (dueFormula?_eq_some.mp hdue).1)
    exact ⟨p, (s.order_walkOrder.mem_iff p).mpr ⟨p, hstart, .refl⟩, e, hdue, rfl, rfl⟩

/-- A formula stands behind those that it reads: one that came later would depend on it, and both
would be on a cycle. -/
theorem schedule_due (s : Sheet) : s.Schedule s.due := by
  refine ⟨fun p e => mem_due, ?_, fun earlier p e later hsplit q hread => ?_⟩
  · rw [map_fst_due]
    exact s.order_walkOrder.nodup.filter _
  · by_cases hcircular : s.Circular q
    · exact .inl hcircular
    refine .inr ?_
    have hp : ¬s.Circular p := (mem_due.mp (by simp [hsplit] : (p, e) ∈ s.due)).2
    obtain ⟨before, behind, horder, rfl, hbehind⟩ := List.filterMap_eq_append_iff.mp hsplit
    obtain ⟨skipped, p', rest, rfl, hskipped, hp', _⟩ := List.filterMap_eq_cons_iff.mp hbehind
    obtain ⟨_, _, rfl, rfl⟩ : ∃ f, s.dueFormula? p' = some f ∧ p' = p ∧ f = e := by
      simpa using hp'
    have hnext : q ∈ s.graph.precedents p' := by
      have := congrFun (congrFun (next_precedents (s := s)) p') q
      exact this.mpr hread
    rcases s.order_walkOrder.ordered (before ++ skipped) p' rest (by simpa using horder) q hnext with
      hbefore | hback
    · obtain ⟨_, f, _, hf, _⟩ := hread
      have hdue := dueFormula?_eq_some.mpr ⟨hf, hcircular⟩
      rcases List.mem_append.mp hbefore with hbefore | hskip
      · exact List.mem_map.mpr ⟨(q, f), List.mem_filterMap.mpr ⟨q, hbefore, by simp [hdue]⟩, rfl⟩
      · simpa [hdue] using hskipped q hskip
    · -- A cell that leads back closes a cycle, which the schedule has no formula of.
      rw [Graph.Leads, next_precedents] at hback
      exact absurd (TransGen.head' hread hback) hp

/-! ### The run -/

/-- The step of a calculation. -/
theorem calculate_cons {rest : List (Position × Formula.Expr)} {n : Nat}
    (h : t.calculate o ((p, e) :: rest) = .ok (c, n)) :
    ∃ v m, t.evaluate o e = .ok v ∧ (t.setAt p v.toCell).calculate o rest = .ok (c, m) ∧
      n = if v.toCell.isError then m + 1 else m := by
  rw [calculate] at h
  obtain ⟨v, hv, h⟩ := exists_ok_of_bind h
  obtain ⟨⟨result, m⟩, hrest, h⟩ := exists_ok_of_bind h
  obtain ⟨rfl, rfl⟩ := Prod.mk.inj (Except.ok.inj h)
  exact ⟨v, m, hv, hrest, rfl⟩

/-- What is left of a run keeps the formulas that hold and makes those hold that are due. -/
theorem calculate_holds {done rest : List (Position × Formula.Expr)}
    (hdue : s.Schedule (done ++ rest)) (ht : s.Prepares t) (hdone : ∀ pe ∈ done, t.Holds o pe.1 pe.2)
    {n : Nat} (h : t.calculate o rest = .ok (c, n)) :
    s.Prepares c ∧ ∀ pe ∈ done ++ rest, c.Holds o pe.1 pe.2 := by
  induction rest generalizing done t n with
  | nil =>
    obtain ⟨rfl, _⟩ : t = c ∧ 0 = n := by simpa [calculate] using h
    exact ⟨ht, by simpa using hdone⟩
  | cons pe rest ih =>
    obtain ⟨p, e⟩ := pe
    obtain ⟨v, m, hv, hrest, -⟩ := calculate_cons h
    obtain ⟨hp, hcircular⟩ := (hdue.mem_iff p e).mp (by simp)
    have hstores := ht.stores hp
    have hfresh : p ∉ done.map Prod.fst := by
      have hnodup := hdue.nodup
      rw [List.map_append, List.map_cons, List.nodup_append] at hnodup
      exact fun hmem => hnodup.2.2 p hmem p List.mem_cons_self rfl
    have hkeep : ∀ qf ∈ done ++ [(p, e)], (t.setAt p v.toCell).Holds o qf.1 qf.2 := by
      intro qf hqf
      rcases List.mem_append.mp hqf with hqf | hqf
      · -- A formula that holds already does not read `p`, or it would stand behind `p`.
        have hne : qf.1 ≠ p := fun heq => hfresh (heq ▸ List.mem_map_of_mem hqf)
        refine (hdone qf hqf).set hne hstores (fun r hr hcovers => ?_) v.toCell
        obtain ⟨before, behind, rfl⟩ := List.append_of_mem hqf
        have hread : s.Reads qf.1 p :=
          ⟨qf.2, e, ((hdue.mem_iff qf.1 qf.2).mp (by simp)).1, hp, r, hr, hcovers⟩
        rcases hdue.ordered before qf.1 qf.2 (behind ++ (p, e) :: rest) (by simp) p hread with
          hcirc | hmem
        · exact hcircular hcirc
        · exact hfresh (by simp [List.mem_map.mp hmem])
      · obtain rfl := List.mem_singleton.mp hqf
        exact holds_setAt hv hstores fun r hr hcovers =>
          hcircular (.single ⟨e, e, hp, hp, r, hr, hcovers⟩)
    have hsplit : done ++ (p, e) :: rest = (done ++ [(p, e)]) ++ rest := by simp
    rw [hsplit] at hdue ⊢
    exact ih hdue (ht.set hp hcircular v.toCell) hkeep hrest

/-- A calculation in the order of a schedule, from the sheet with the errors marked, solves the
equations. -/
theorem Schedule.solves {due : List (Position × Formula.Expr)} (hdue : s.Schedule due) {n : Nat}
    (h : s.prepare.calculate o due = .ok (c, n)) : s.Solves o c := by
  obtain ⟨hprepares, hholds⟩ :=
    calculate_holds (List.nil_append due |>.symm ▸ hdue) s.prepares_prepare (by simp) h
  exact ⟨hprepares, fun p e hp hcircular => hholds (p, e) ((hdue.mem_iff p e).mpr ⟨hp, hcircular⟩)⟩

theorem recalculate_eq (s : Sheet) {o : CalculationOptions} (ho : o.formulaCells = true) :
    s.recalculate o = (s.prepare.calculate o.evaluation s.due).map fun (c, errors) =>
      (c, ⟨s.parsed.length + s.unparsed.length, s.due.length, s.graph.cycleMembers.length,
        errors + s.unparsed.length + s.graph.cycleMembers.length⟩) := by
  have hdue : s.due = (s.graph.order (s.parsed.map Prod.fst)).filterMap fun p =>
      if s.graph.cycleMembers.contains p then none else (s.parsed.lookup p).map (p, ·) := by
    rw [due]
    congr 1
    funext p
    rw [dueFormula?, apply_ite (Option.map (p, ·)), Option.map_none]
  rw [recalculate, ho, Bool.not_true, if_neg Bool.false_ne_true, hdue]
  rfl

theorem calculate_of_recalculate {o : CalculationOptions} (ho : o.formulaCells = true)
    {stats : CalculationStats} (h : s.recalculate o = .ok (c, stats)) :
    ∃ n, s.prepare.calculate o.evaluation s.due = .ok (c, n) := by
  rw [s.recalculate_eq ho] at h
  cases hrun : s.prepare.calculate o.evaluation s.due with
  | error fault => simp [hrun, Except.map] at h
  | ok result =>
    simp only [hrun, Except.map, Except.ok.injEq, Prod.mk.injEq] at h
    exact ⟨result.2, by rw [← h.1]⟩

/-- Recalculation finds the one solution of the equations of a sheet, and so does a calculation in
any other order in which formulas stand behind those that they read. -/
theorem recalculate_solution {o : CalculationOptions} (ho : o.formulaCells = true)
    {stats : CalculationStats} (h : s.recalculate o = .ok (c, stats)) :
    s.Solves o.evaluation c ∧ (∀ d, s.Solves o.evaluation d → d = c) ∧
      ∀ due, s.Schedule due → ∀ d n, s.prepare.calculate o.evaluation due = .ok (d, n) → d = c := by
  obtain ⟨n, hrun⟩ := calculate_of_recalculate ho h
  have hsolves := s.schedule_due.solves hrun
  have hunique (d : Sheet) (hd : s.Solves o.evaluation d) : d = c :=
    hd.unique hsolves s.schedule_due
  exact ⟨hsolves, hunique, fun due hdue d m hd => hunique d (hdue.solves hd)⟩

/-- A chain of two formulas behind a number, a formula that reads itself, and one that does not
parse. -/
def mixed : Sheet where
  headers := []
  rows := #[#[.text "=B1", .text "=C1", .boolean true, .text "=D1", .text "=("]]

theorem recalculate_solution_mixed : ∃ c stats, mixed.recalculate .standard = .ok (c, stats) ∧
    mixed.Solves CalculationOptions.standard.evaluation c ∧
      ∀ d, mixed.Solves CalculationOptions.standard.evaluation d → d = c := by
  have hok : (mixed.recalculate .standard).isOk = true := by decide +kernel
  cases h : mixed.recalculate .standard with
  | error fault => simp [h, Except.isOk, Except.toBool] at hok
  | ok result =>
    obtain ⟨hsolves, hunique, _⟩ := recalculate_solution rfl h
    exact ⟨result.1, result.2, rfl, hsolves, hunique⟩

end Spreadsheet.Sheet
