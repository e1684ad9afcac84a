import Mathlib.Data.Set.Card
import Spreadsheet.Proofs.Recalculation.Solution

/-! What recalculation leaves alone, and what its statistics count. Every formula cell is malformed,
on a cycle or due, and is written in one of three rounds accordingly. No other cell is written, and
none of those that are counted twice. -/

namespace Spreadsheet.Sheet

variable {s t c : Sheet} {o : EvaluationOptions} {p : Position} {n : Nat}

/-- The statistics of the recalculation of a sheet `s` as numbers of its cells. Errors are counted on
the sheet `c` that results. -/
structure Counts (s c : Sheet) (stats : CalculationStats) : Prop where
  formulas : stats.formulaCount = {p : Position | (s.cellAt p.row p.col).isFormula}.encard
  calculated : stats.cellsCalculated =
    {p : Position | ∃ e, s.formulaAt? p = some (.ok e) ∧ ¬s.Circular p}.encard
  circular : stats.circularReferences = {p : Position | s.Circular p}.encard
  total : stats.formulaCount = stats.cellsCalculated + stats.circularReferences +
    {p : Position | ∃ fault, s.formulaAt? p = some (.error fault)}.encard
  errors : stats.errors =
    {p : Position | (s.cellAt p.row p.col).isFormula ∧ (c.cellAt p.row p.col).isError}.encard

theorem isSome_formulaAt? : (s.formulaAt? p).isSome = (s.cellAt p.row p.col).isFormula := by
  rw [formulaAt?, Option.isSome_map, Cell.isFormula]

/-! ### Every formula cell once -/

/-- A list without repetitions counts what it lists. -/
theorem encard_eq_length {α : Type} {xs : List α} (hnodup : xs.Nodup) {P : α → Prop}
    (h : ∀ x, x ∈ xs ↔ P x) : {x | P x}.encard = xs.length := by
  have hset : {x | P x} = ((⟨xs, hnodup⟩ : Finset α) : Set α) := Set.ext fun x => (h x).symm
  rw [hset, Set.encard_coe_eq_coe_finsetCard]
  rfl

theorem map_filterMap_sublist {α β κ : Type} {f : α → Option β} {key : α → κ} {key' : β → κ}
    (h : ∀ x y, f x = some y → key' y = key x) (xs : List α) :
    ((xs.filterMap f).map key').Sublist (xs.map key) := by
  induction xs with
  | nil => exact .slnil
  | cons x xs ih =>
    cases hx : f x with
    | none =>
      rw [List.filterMap_cons_none hx]
      exact ih.cons _
    | some y =>
      rw [List.filterMap_cons_some hx, List.map_cons, List.map_cons, h x y hx]
      exact ih.cons_cons _

theorem nodup_formulas (s : Sheet) : (s.formulas.map Prod.fst).Nodup := by
  refine s.nodup_positions.sublist (map_filterMap_sublist (fun x y hy => ?_) _)
  obtain ⟨text, -, rfl⟩ := Option.map_eq_some_iff.mp hy
  rfl

theorem nodup_parsed (s : Sheet) : (s.parsed.map Prod.fst).Nodup := by
  refine s.nodup_formulas.sublist (map_filterMap_sublist (fun x y hy => ?_) _)
  obtain ⟨e, -, rfl⟩ := Option.map_eq_some_iff.mp hy
  rfl

theorem nodup_unparsed (s : Sheet) : (s.unparsed.map Prod.fst).Nodup := by
  refine s.nodup_formulas.sublist (map_filterMap_sublist (fun x y hy => ?_) _)
  obtain ⟨p, fault | e⟩ := x
  · obtain rfl := Option.some.inj hy
    rfl
  · cases hy

theorem nodup_cycleMembers (s : Sheet) : s.graph.cycleMembers.Nodup :=
  Position.nodup_sort _

theorem mem_map_unparsed :
    p ∈ s.unparsed.map Prod.fst ↔ ∃ fault, s.formulaAt? p = some (.error fault) := by
  simp only [List.mem_map, Prod.exists, mem_unparsed]
  constructor
  · rintro ⟨_, _, ⟨fault, hfault, -⟩, rfl⟩
    exact ⟨fault, hfault⟩
  · rintro ⟨fault, hfault⟩
    exact ⟨p, _, ⟨fault, hfault, rfl⟩, rfl⟩

theorem mem_map_due :
    p ∈ s.due.map Prod.fst ↔ ∃ e, s.formulaAt? p = some (.ok e) ∧ ¬s.Circular p := by
  simp only [List.mem_map, Prod.exists, mem_due]
  constructor
  · rintro ⟨_, e, h, rfl⟩
    exact ⟨e, h⟩
  · rintro ⟨e, h⟩
    exact ⟨p, e, h, rfl⟩

theorem length_parsed (s : Sheet) :
    s.parsed.length = s.due.length + s.graph.cycleMembers.length := by
  have hnodup : (s.due.map Prod.fst ++ s.graph.cycleMembers).Nodup := by
    refine s.schedule_due.nodup.append s.nodup_cycleMembers fun p hp hp' => ?_
    obtain ⟨e, -, hcircular⟩ := mem_map_due.mp hp
    exact hcircular (mem_cycleMembers.mp hp')
  have hmem (p : Position) :
      p ∈ s.parsed.map Prod.fst ↔ p ∈ s.due.map Prod.fst ++ s.graph.cycleMembers := by
    rw [List.mem_append, mem_map_due, mem_cycleMembers, List.mem_map]
    constructor
    · rintro ⟨⟨q, e⟩, he, rfl⟩
      rw [mem_parsed] at he
      by_cases hcircular : s.Circular q
      · exact .inr hcircular
      · exact .inl ⟨e, he, hcircular⟩
    · rintro (⟨e, he, -⟩ | hcircular)
      · exact ⟨(p, e), mem_parsed.mpr he, rfl⟩
      · obtain ⟨e, he⟩ := hcircular.parsed
        exact ⟨(p, e), mem_parsed.mpr he, rfl⟩
  have hperm := (List.perm_ext_iff_of_nodup s.nodup_parsed hnodup).mpr hmem
  simpa using hperm.length_eq

/-- Formula cells with a property that malformed and circular ones have. -/
theorem encard_formulas {P : Position → Bool} (hcircular : ∀ p, s.Circular p → P p = true)
    (hmalformed : ∀ p fault, s.formulaAt? p = some (.error fault) → P p = true) :
    {p : Position | (s.cellAt p.row p.col).isFormula ∧ P p}.encard =
      (s.due.countP fun pe => P pe.1) + s.unparsed.length + s.graph.cycleMembers.length := by
  -- The formula cells as three lists, none of which meets another one.
  have hdue {p : Position} : p ∈ (s.due.filter fun pe => P pe.1).map Prod.fst ↔
      (∃ e, s.formulaAt? p = some (.ok e) ∧ ¬s.Circular p) ∧ P p = true := by
    rw [← mem_map_due]
    simp only [List.mem_map, List.mem_filter]
    constructor
    · rintro ⟨pe, ⟨hpe, hP⟩, rfl⟩
      exact ⟨⟨pe, hpe, rfl⟩, hP⟩
    · rintro ⟨⟨pe, hpe, rfl⟩, hP⟩
      exact ⟨pe, ⟨hpe, hP⟩, rfl⟩
  have hnodup : ((s.due.filter fun pe => P pe.1).map Prod.fst ++
      (s.unparsed.map Prod.fst ++ s.graph.cycleMembers)).Nodup := by
    refine List.Nodup.append ?_ (s.nodup_unparsed.append s.nodup_cycleMembers ?_) ?_
    · exact s.schedule_due.nodup.sublist (List.filter_sublist.map Prod.fst)
    · intro p hp hp'
      obtain ⟨fault, hfault⟩ := mem_map_unparsed.mp hp
      obtain ⟨e, he⟩ := (mem_cycleMembers.mp hp').parsed
      simp [hfault] at he
    · intro p hp hp'
      obtain ⟨⟨e, he, hnot⟩, -⟩ := hdue.mp hp
      rcases List.mem_append.mp hp' with hp' | hp'
      · obtain ⟨fault, hfault⟩ := mem_map_unparsed.mp hp'
        simp [hfault] at he
      · exact hnot (mem_cycleMembers.mp hp')
  have hmem (p : Position) : p ∈ (s.due.filter fun pe => P pe.1).map Prod.fst ++
      (s.unparsed.map Prod.fst ++ s.graph.cycleMembers) ↔
        (s.cellAt p.row p.col).isFormula ∧ P p := by
    rw [← isSome_formulaAt?, List.mem_append, List.mem_append, hdue, mem_map_unparsed,
      mem_cycleMembers]
    constructor
    · rintro (⟨⟨e, he, -⟩, hP⟩ | ⟨fault, hfault⟩ | hcirc)
      · exact ⟨by simp [he], hP⟩
      · exact ⟨by simp [hfault], hmalformed p fault hfault⟩
      · obtain ⟨e, he⟩ := hcirc.parsed
        exact ⟨by simp [he], hcircular p hcirc⟩
    · rintro ⟨hformula, hP⟩
      obtain ⟨fault | e, hr⟩ := Option.isSome_iff_exists.mp hformula
      · exact .inr (.inl ⟨fault, hr⟩)
      · by_cases hcirc : s.Circular p
        · exact .inr (.inr hcirc)
        · exact .inl ⟨⟨e, hr, hcirc⟩, hP⟩
  rw [encard_eq_length hnodup hmem]
  simp only [List.length_append, List.length_map, ← List.countP_eq_length_filter]
  push_cast
  rw [add_assoc]

/-! ### Every formula cell written once -/

theorem cellAt_calculate {rest : List (Position × Formula.Expr)}
    (h : t.calculate o rest = .ok (c, n)) (hp : p ∉ rest.map Prod.fst) :
    c.cellAt p.row p.col = t.cellAt p.row p.col := by
  induction rest generalizing t n with
  | nil =>
    obtain ⟨rfl, -⟩ : t = c ∧ 0 = n := by simpa [calculate] using h
    rfl
  | cons qf rest ih =>
    obtain ⟨v, m, -, hrest, -⟩ := calculate_cons h
    rw [List.map_cons, List.mem_cons, not_or] at hp
    rw [ih hrest hp.2, cellAt_setAt, if_neg hp.1]

/-- A cell keeps the result that is stored there, so errors may be counted in the end. -/
theorem calculate_errors {rest : List (Position × Formula.Expr)}
    (h : t.calculate o rest = .ok (c, n)) (hnodup : (rest.map Prod.fst).Nodup) :
    n = rest.countP fun pe => (c.cellAt pe.1.row pe.1.col).isError := by
  induction rest generalizing t n with
  | nil =>
    obtain ⟨-, rfl⟩ : t = c ∧ 0 = n := by simpa [calculate] using h
    rfl
  | cons pe rest ih =>
    obtain ⟨p, e⟩ := pe
    obtain ⟨v, m, -, hrest, rfl⟩ := calculate_cons h
    obtain ⟨hfresh, hnodup⟩ := List.nodup_cons.mp hnodup
    have hcell : c.cellAt p.row p.col = v.toCell := by
      rw [cellAt_calculate hrest hfresh, cellAt_setAt, if_pos rfl]
    rw [List.countP_cons, hcell, ih hrest hnodup]
    split_ifs <;> rfl

theorem counts_of_calculate {o : CalculationOptions} (ho : o.formulaCells = true)
    {stats : CalculationStats} (h : s.recalculate o = .ok (c, stats)) : s.Counts c stats := by
  obtain ⟨n, hrun⟩ := calculate_of_recalculate ho h
  rw [s.recalculate_eq ho, hrun] at h
  obtain ⟨-, rfl⟩ := Prod.mk.inj (Except.ok.inj h)
  have hprepares : s.Prepares c := (s.schedule_due.solves hrun).toPrepares
  have hn := calculate_errors hrun s.schedule_due.nodup
  have hformulas := encard_formulas (s := s) (P := fun _ => true) (fun _ _ => rfl) fun _ _ _ => rfl
  have herrors := encard_formulas (s := s) (P := fun p => (c.cellAt p.row p.col).isError)
    (fun p hp => by
      obtain ⟨e, he⟩ := hp.parsed
      rw [hprepares.circular p e he hp]
      rfl)
    (fun p fault hfault => by
      rw [hprepares.malformed p fault hfault]
      rfl)
  have hcircular : {p : Position | s.Circular p}.encard = s.graph.cycleMembers.length :=
    encard_eq_length s.nodup_cycleMembers fun _ => mem_cycleMembers
  have hdue : {p : Position | ∃ e, s.formulaAt? p = some (.ok e) ∧ ¬s.Circular p}.encard =
      s.due.length := by
    rw [encard_eq_length s.schedule_due.nodup fun _ => mem_map_due, List.length_map]
  have hmalformed : {p : Position | ∃ fault, s.formulaAt? p = some (.error fault)}.encard =
      s.unparsed.length := by
    rw [encard_eq_length s.nodup_unparsed fun _ => mem_map_unparsed, List.length_map]
  refine ⟨?_, hdue.symm, hcircular.symm, ?_, ?_⟩
  · simp only [and_true, List.countP_true] at hformulas
    rw [hformulas, s.length_parsed]
    push_cast
    ring
  · rw [hmalformed, s.length_parsed]
    push_cast
    rfl
  · rw [herrors, hn]
    push_cast
    rfl

/-- Recalculation changes formula cells only, and its statistics count them. -/
theorem recalculate_counts {o : CalculationOptions} {stats : CalculationStats}
    (h : s.recalculate o = .ok (c, stats)) :
    c.headers = s.headers ∧ c.rowSizes = s.rowSizes ∧
      (∀ p : Position, (s.cellAt p.row p.col).isFormula = false →
        c.cellAt p.row p.col = s.cellAt p.row p.col) ∧
      (o.formulaCells = false → c = s ∧ stats = ⟨0, 0, 0, 0⟩) ∧
      (o.formulaCells = true → s.Counts c stats) := by
  cases ho : o.formulaCells with
  | false =>
    rw [recalculate, ho] at h
    obtain ⟨rfl, rfl⟩ := Prod.mk.inj (Except.ok.inj h)
    exact ⟨rfl, rfl, fun _ _ => rfl, fun _ => ⟨rfl, rfl⟩, (absurd · Bool.false_ne_true)⟩
  | true =>
    obtain ⟨n, hrun⟩ := calculate_of_recalculate ho h
    have hprepares : s.Prepares c := (s.schedule_due.solves hrun).toPrepares
    refine ⟨hprepares.headers, hprepares.rowSizes, fun p hp => hprepares.constant p ?_,
      (absurd ·.symm Bool.false_ne_true), fun _ => counts_of_calculate ho h⟩
    rw [← Option.not_isSome_iff_eq_none, isSome_formulaAt?, hp]
    exact Bool.false_ne_true

/-- Of the four formulas two are calculated, and the two others become errors. -/
theorem recalculate_counts_mixed : ∃ c, mixed.recalculate .standard = .ok (c, ⟨4, 2, 1, 2⟩) ∧
    c.rowSizes = mixed.rowSizes ∧ c.cellAt 0 2 = .boolean true ∧ mixed.Counts c ⟨4, 2, 1, 2⟩ := by
  have hstats : (mixed.recalculate .standard).map Prod.snd = .ok ⟨4, 2, 1, 2⟩ := by decide +kernel
  cases h : mixed.recalculate .standard with
  | error fault => simp [h, Except.map] at hstats
  | ok result =>
    obtain ⟨c, stats⟩ := result
    obtain rfl : stats = ⟨4, 2, 1, 2⟩ := by simpa [h, Except.map] using hstats
    obtain ⟨-, hsizes, hconstant, -, hcounts⟩ := recalculate_counts h
    exact ⟨c, rfl, hsizes, hconstant ⟨0, 2⟩ rfl, hcounts rfl⟩

end Spreadsheet.Sheet
