import Spreadsheet.Proofs.Evaluation.Footprint
import Spreadsheet.Proofs.Graph.Cycle
import Spreadsheet.Proofs.Sheet.Writes

/-! The equations of a sheet with formula cells. A sheet solves them when every formula cell that is
on no cycle holds the value of its formula on that very sheet. There is at most one solution, since
a schedule of the formulas determines the cells one after the other. -/

namespace Spreadsheet.Sheet

open Relation

/-- What the formula at a position parses to; none where the sheet has no formula. -/
def formulaAt? (s : Sheet) (p : Position) : Option (Except Formula.ParseError Formula.Expr) :=
  (s.cellAt p.row p.col).formulaText?.map Formula.parse

/-- A reference of the parsed formula at one position covers the parsed formula at another one. -/
def Reads (s : Sheet) (p q : Position) : Prop :=
  ∃ e f, s.formulaAt? p = some (.ok e) ∧ s.formulaAt? q = some (.ok f) ∧
    ∃ r ∈ e.references, r.covers q = true

/-- A parsed formula that reads itself, directly or through other formula cells. -/
def Circular (s : Sheet) (p : Position) : Prop := TransGen s.Reads p p

/-- A sheet of the shape of `s` that holds the cells of `s` without a formula, and errors where a
formula of `s` is malformed or circular. -/
structure Prepares (s c : Sheet) : Prop where
  headers : c.headers = s.headers
  rowSizes : c.rowSizes = s.rowSizes
  constant : ∀ p, s.formulaAt? p = none → c.cellAt p.row p.col = s.cellAt p.row p.col
  malformed : ∀ p fault, s.formulaAt? p = some (.error fault) →
    c.cellAt p.row p.col = Sheet.malformed fault
  circular : ∀ p e, s.formulaAt? p = some (.ok e) → s.Circular p →
    c.cellAt p.row p.col = Sheet.circular

/-- A cell holds the value that a formula has on the same sheet. -/
def Holds (c : Sheet) (o : EvaluationOptions) (p : Position) (e : Formula.Expr) : Prop :=
  (c.evaluate o e).map Value.toCell = .ok (c.cellAt p.row p.col)

/-- The equations of a sheet `s`. -/
structure Solves (s : Sheet) (o : EvaluationOptions) (c : Sheet) : Prop extends s.Prepares c where
  computed : ∀ p e, s.formulaAt? p = some (.ok e) → ¬s.Circular p → c.Holds o p e

/-- The parsed formulas of a sheet that are on no cycle, each behind all those that it reads. -/
structure Schedule (s : Sheet) (due : List (Position × Formula.Expr)) : Prop where
  mem_iff : ∀ p e, (p, e) ∈ due ↔ s.formulaAt? p = some (.ok e) ∧ ¬s.Circular p
  nodup : (due.map Prod.fst).Nodup
  ordered : ∀ earlier p e later, due = earlier ++ (p, e) :: later →
    ∀ q, s.Reads p q → s.Circular q ∨ q ∈ earlier.map Prod.fst

variable {s c d : Sheet} {o : EvaluationOptions} {p q : Position} {e : Formula.Expr}

theorem stores_of_formulaAt? {r : Except Formula.ParseError Formula.Expr}
    (h : s.formulaAt? p = some r) : s.Stores p := by
  by_contra hstores
  simp [formulaAt?, cellAt_of_not_stores hstores, Cell.formulaText?] at h

theorem Prepares.stores (h : s.Prepares c) {r : Except Formula.ParseError Formula.Expr}
    (hp : s.formulaAt? p = some r) : c.Stores p :=
  (stores_congr h.rowSizes p).mpr (stores_of_formulaAt? hp)

theorem Prepares.set (h : s.Prepares c) (hp : s.formulaAt? p = some (.ok e))
    (hcircular : ¬s.Circular p) (x : Cell) : s.Prepares (c.setAt p x) := by
  have hother {q : Position} (hq : q ≠ p) :
      (c.setAt p x).cellAt q.row q.col = c.cellAt q.row q.col := by
    rw [cellAt_setAt, if_neg hq]
  refine ⟨h.headers, (rowSizes_set (h.stores hp) x).trans h.rowSizes, fun q hq => ?_,
    fun q fault hq => ?_, fun q f hq hcirc => ?_⟩
  · rw [hother (by rintro rfl; simp [hp] at hq), h.constant q hq]
  · rw [hother (by rintro rfl; simp [hp] at hq), h.malformed q fault hq]
  · rw [hother (by rintro rfl; exact hcircular hcirc), h.circular q f hq hcirc]

theorem agreeOn_setAt (hstores : c.Stores q) (x : Cell) {rs : List Range}
    (hq : ∀ r ∈ rs, r.covers q ≠ true) : c.AgreeOn rs (c.setAt q x) := by
  have hsizes : c.rowSizes = (c.setAt q x).rowSizes := (rowSizes_set hstores x).symm
  refine ⟨by rw [rowCount_eq, rowCount_eq, hsizes], by rw [colCount_eq, colCount_eq, hsizes],
    fun p ⟨r, hr, hcovers⟩ => ?_⟩
  rw [cellAt_setAt, if_neg]
  rintro rfl
  exact hq r hr hcovers

/-- A cell stored outside the references of a formula leaves the value of the formula. -/
theorem Holds.set (h : c.Holds o p e) (hpq : p ≠ q) (hstores : c.Stores q)
    (hq : ∀ r ∈ e.references, r.covers q ≠ true) (x : Cell) : (c.setAt q x).Holds o p e := by
  rw [Holds, evaluate, ← e.eval_congr .top (agreeOn_setAt hstores x hq), cellAt_setAt, if_neg hpq]
  exact h

/-- A cell that stores the value of a formula which does not read it holds that value. -/
theorem holds_setAt {v : Value} (h : c.evaluate o e = .ok v) (hstores : c.Stores p)
    (hp : ∀ r ∈ e.references, r.covers p ≠ true) : (c.setAt p v.toCell).Holds o p e := by
  rw [Holds, evaluate, ← e.eval_congr .top (agreeOn_setAt hstores v.toCell hp), cellAt_setAt,
    if_pos rfl]
  exact congrArg (Except.map Value.toCell) h

/-- Two prepared sheets give a scheduled formula one value once they agree on the formulas before
it. -/
theorem Prepares.evaluate_eq (hc : s.Prepares c) (hd : s.Prepares d)
    {earlier later : List (Position × Formula.Expr)} (hdue : s.Schedule (earlier ++ (p, e) :: later))
    (hearlier : ∀ qf ∈ earlier, c.cellAt qf.1.row qf.1.col = d.cellAt qf.1.row qf.1.col) :
    c.evaluate o e = d.evaluate o e := by
  have hp := ((hdue.mem_iff p e).mp (by simp)).1
  have hsizes : c.rowSizes = d.rowSizes := hc.rowSizes.trans hd.rowSizes.symm
  have hagree : c.AgreeOn e.references d := by
    refine ⟨by rw [rowCount_eq, rowCount_eq, hsizes], by rw [colCount_eq, colCount_eq, hsizes],
      fun q hq => ?_⟩
    rcases hformula : s.formulaAt? q with _ | fault | f
    · rw [hc.constant q hformula, hd.constant q hformula]
    · rw [hc.malformed q fault hformula, hd.malformed q fault hformula]
    · rcases hdue.ordered earlier p e later rfl q ⟨e, f, hp, hformula, hq⟩ with hcircular | hmem
      · rw [hc.circular q f hformula hcircular, hd.circular q f hformula hcircular]
      · obtain ⟨qf, hqf, rfl⟩ := List.mem_map.mp hmem
        exact hearlier qf hqf
  exact e.eval_congr .top hagree

theorem Solves.scheduled_eq (hc : s.Solves o c) (hd : s.Solves o d)
    {due : List (Position × Formula.Expr)} (hdue : s.Schedule due) :
    ∀ pe ∈ due, c.cellAt pe.1.row pe.1.col = d.cellAt pe.1.row pe.1.col := by
  suffices key : ∀ later earlier, earlier ++ later = due →
      (∀ pe ∈ earlier, c.cellAt pe.1.row pe.1.col = d.cellAt pe.1.row pe.1.col) →
      ∀ pe ∈ due, c.cellAt pe.1.row pe.1.col = d.cellAt pe.1.row pe.1.col from
    key due [] rfl (by simp)
  -- Along the schedule: a formula reads only cells that the solutions are known to agree on.
  intro later
  induction later with
  | nil =>
    rintro earlier rfl hearlier
    simpa using hearlier
  | cons pe later ih =>
    intro earlier hsplit hearlier
    obtain ⟨p, e⟩ := pe
    obtain ⟨hformula, hcircular⟩ := (hdue.mem_iff p e).mp (by simp [← hsplit])
    have heval : c.evaluate o e = d.evaluate o e :=
      hc.toPrepares.evaluate_eq hd.toPrepares (hsplit.symm ▸ hdue) hearlier
    have hcell := hc.computed p e hformula hcircular
    rw [Holds, heval, hd.computed p e hformula hcircular] at hcell
    refine ih (earlier ++ [(p, e)]) (by simpa using hsplit) fun qe hqe => ?_
    rcases List.mem_append.mp hqe with hqe | hqe
    · exact hearlier qe hqe
    · obtain rfl := List.mem_singleton.mp hqe
      exact (Except.ok.inj hcell).symm

/-- A sheet whose formulas have a schedule has at most one solution. -/
theorem Solves.unique (hc : s.Solves o c) (hd : s.Solves o d)
    {due : List (Position × Formula.Expr)} (hdue : s.Schedule due) : c = d := by
  refine ext_cellAt (hc.headers.trans hd.headers.symm) (hc.rowSizes.trans hd.rowSizes.symm)
    fun p => ?_
  rcases hformula : s.formulaAt? p with _ | fault | e
  · rw [hc.constant p hformula, hd.constant p hformula]
  · rw [hc.malformed p fault hformula, hd.malformed p fault hformula]
  · by_cases hcircular : s.Circular p
    · rw [hc.circular p e hformula hcircular, hd.circular p e hformula hcircular]
    · exact hc.scheduled_eq hd hdue (p, e) ((hdue.mem_iff p e).mpr ⟨hformula, hcircular⟩)

end Spreadsheet.Sheet
