import Mathlib.Logic.Relation
import Spreadsheet.Graph
import Spreadsheet.Proofs.Graph.Index
import Spreadsheet.Proofs.Position

/-! Dependencies as a relation between cells. -/

namespace Spreadsheet

namespace Position

theorem mem_insert {p q : Position} {ps : List Position} :
    q ∈ insert p ps ↔ q = p ∨ q ∈ ps := by
  induction ps with
  | nil => simp [insert]
  | cons r ps ih =>
    rw [insert]
    split_ifs with hbefore heq
    · simp
    · subst heq
      simp
    · simp only [List.mem_cons, ih]
      tauto

theorem mem_sort {q : Position} {ps : List Position} : q ∈ sort ps ↔ q ∈ ps := by
  induction ps with
  | nil => simp [sort]
  | cons p ps ih => rw [sort, List.foldr_cons, mem_insert, ← sort, ih, List.mem_cons]

theorem pairwise_insert {p : Position} {ps : List Position}
    (h : ps.Pairwise (isBefore · · = true)) : (insert p ps).Pairwise (isBefore · · = true) := by
  induction ps with
  | nil => exact List.pairwise_singleton _ p
  | cons q ps ih =>
    obtain ⟨hfirst, hrest⟩ := List.pairwise_cons.mp h
    rw [insert]
    split_ifs with hbefore heq
    · exact List.pairwise_cons.mpr ⟨List.forall_mem_cons.mpr
        ⟨hbefore, fun r hr => isBefore_trans hbefore (hfirst r hr)⟩, h⟩
    · exact h
    · refine List.pairwise_cons.mpr ⟨fun r hr => ?_, ih hrest⟩
      rcases mem_insert.mp hr with rfl | hr
      · exact isBefore_of_ne heq hbefore
      · exact hfirst r hr

theorem pairwise_sort (ps : List Position) : (sort ps).Pairwise (isBefore · · = true) := by
  induction ps with
  | nil => exact List.Pairwise.nil
  | cons p ps ih => exact pairwise_insert ih

theorem nodup_sort (ps : List Position) : (sort ps).Nodup :=
  nodup_of_pairwise (pairwise_sort ps)

end Position

namespace Graph

open Relation

def Next (next : Position → List Position) (p q : Position) : Prop := q ∈ next p

/-- One cell leads to another one, maybe without a step. -/
abbrev Leads (next : Position → List Position) : Position → Position → Prop :=
  ReflTransGen (Next next)

variable {g : Graph} {p q : Position}

/-- What a map from cells to sets has for a cell. -/
def Links (links : List (Position × List Position)) (p q : Position) : Prop :=
  ∃ qs, (p, qs) ∈ links ∧ q ∈ qs

variable {links : List (Position × List Position)}

theorem links_cons {r : Position} {rs : List Position} :
    Links ((r, rs) :: links) p q ↔ (p = r ∧ q ∈ rs) ∨ Links links p q := by
  constructor
  · rintro ⟨qs, hmem, hq⟩
    rcases List.mem_cons.mp hmem with heq | hmem
    · obtain ⟨rfl, rfl⟩ := Prod.mk.inj heq
      exact .inl ⟨rfl, hq⟩
    · exact .inr ⟨qs, hmem, hq⟩
  · rintro (⟨rfl, hq⟩ | ⟨qs, hmem, hq⟩)
    · exact ⟨rs, List.mem_cons_self, hq⟩
    · exact ⟨qs, List.mem_cons_of_mem _ hmem, hq⟩

theorem links_link {r s : Position} :
    Links (link p q links) r s ↔ (r = p ∧ s = q) ∨ Links links r s := by
  induction links with
  | nil => rw [link, links_cons, List.mem_singleton]
  | cons entry links ih =>
    obtain ⟨t, qs⟩ := entry
    rw [link]
    split_ifs with heq
    · subst heq
      rw [links_cons, Position.mem_insert, links_cons, and_or_left, or_assoc]
    · rw [links_cons, ih, links_cons]
      exact or_left_comm

theorem mem_linked : q ∈ Position.sort ((links.filter (·.1 = p)).flatMap Prod.snd) ↔
    Links links p q := by
  simp only [Position.mem_sort, List.mem_flatMap, List.mem_filter, decide_eq_true_eq, Prod.exists]
  constructor
  · rintro ⟨_, qs, ⟨hmem, rfl⟩, hq⟩
    exact ⟨qs, hmem, hq⟩
  · rintro ⟨qs, hmem, hq⟩
    exact ⟨p, qs, ⟨hmem, rfl⟩, hq⟩

theorem mem_precedents : q ∈ g.precedents p ↔ ∃ qs, (p, qs) ∈ g.reads ∧ q ∈ qs := mem_linked

theorem mem_dependents : q ∈ g.dependents p ↔ Links g.readBy p q := mem_linked

def Reads (g : Graph) (d p : Position) : Prop := ∃ ps, (d, ps) ∈ g.reads ∧ p ∈ ps

theorem next_precedents_eq (g : Graph) : Next g.precedents = g.Reads := by
  funext d p
  exact propext mem_precedents

theorem mem_readers (h : g.precedents p ≠ []) : p ∈ g.readers := by
  obtain ⟨q, hq⟩ := List.exists_mem_of_ne_nil _ h
  obtain ⟨qs, hmem, -⟩ := mem_precedents.mp hq
  exact Position.mem_sort.mpr (List.mem_map_of_mem hmem)

theorem reads_add {precedent dependent : Position} :
    (g.add precedent dependent).Reads p q ↔ p = dependent ∧ q = precedent ∨ g.Reads p q :=
  links_link

theorem reads_addAll {dependencies : List (Position × Position)} :
    (g.addAll dependencies).Reads p q ↔ (q, p) ∈ dependencies ∨ g.Reads p q := by
  induction dependencies generalizing g with
  | nil => simp [addAll]
  | cons e dependencies ih =>
    obtain ⟨precedent, dependent⟩ := e
    rw [addAll, List.foldl_cons, ← addAll, ih, reads_add, List.mem_cons, Prod.mk.injEq]
    tauto

/-- The precedents of a formula cell are the formula cells that its references cover. -/
theorem mem_precedents_ofFormulas {formulas : List (Position × Formula.Expr)} :
    q ∈ (ofFormulas formulas).precedents p ↔
      ∃ e, (p, e) ∈ formulas ∧ q ∈ formulas.map Prod.fst ∧
        ∃ r ∈ e.references, r.covers q = true := by
  have hwithin {r : Range} {c : Position} :
      c ∈ (CellIndex.ofPositions (formulas.map Prod.fst)).within r ↔
        c ∈ formulas.map Prod.fst ∧ r.covers c = true :=
    (CellIndex.mem_within (CellIndex.ascending_ofPositions _)).trans
      (and_congr_left' CellIndex.holds_ofPositions)
  have hempty : ¬empty.Reads p q := by
    rintro ⟨_, hmem, -⟩
    cases hmem
  have hreads : q ∈ (ofFormulas formulas).precedents p ↔ (ofFormulas formulas).Reads p q :=
    mem_precedents
  rw [hreads, ofFormulas, reads_addAll, or_iff_left hempty, List.mem_flatMap]
  simp only [List.mem_flatMap, List.mem_map, Prod.exists, Prod.mk.injEq, hwithin]
  constructor
  · rintro ⟨d, e, hmem, r, hr, c, ⟨hc, hcovers⟩, rfl, rfl⟩
    exact ⟨e, hmem, by simpa using hc, r, hr, hcovers⟩
  · rintro ⟨e, hmem, hq, r, hr, hcovers⟩
    exact ⟨p, e, hmem, r, hr, q, ⟨by simpa using hq, hcovers⟩, rfl, rfl⟩

/-- Each of the two maps of a graph is the converse of the other one. -/
def Converse (g : Graph) : Prop := ∀ d p, d ∈ g.dependents p ↔ p ∈ g.precedents d

theorem Converse.add (h : g.Converse) (precedent dependent : Position) :
    (g.add precedent dependent).Converse := by
  intro d p
  rw [mem_dependents, Graph.add, links_link]
  have hreads : p ∈ (g.add precedent dependent).precedents d ↔
      (g.add precedent dependent).Reads d p := mem_precedents
  rw [← Graph.add, hreads, reads_add, and_comm, ← mem_dependents, h d p]
  exact or_congr_right mem_precedents

theorem Converse.addAll (h : g.Converse) (dependencies : List (Position × Position)) :
    (g.addAll dependencies).Converse := by
  induction dependencies generalizing g with
  | nil => exact h
  | cons e dependencies ih => exact ih (h.add e.1 e.2)

theorem converse_empty : empty.Converse := fun _ _ => iff_of_false List.not_mem_nil List.not_mem_nil

/-- Of formulas, one cell depends on another one where both have formulas and a reference in one of
the first cell covers the second one. Dependents and precedents tell the same. -/
theorem dependencies_ofFormulas (formulas : List (Position × Formula.Expr)) (d p : Position) :
    (p ∈ (ofFormulas formulas).precedents d ↔
      p ∈ formulas.map Prod.fst ∧ d ∈ formulas.map Prod.fst ∧
        ∃ e, (d, e) ∈ formulas ∧ ∃ r ∈ e.references, r.covers p = true) ∧
    (d ∈ (ofFormulas formulas).dependents p ↔ p ∈ (ofFormulas formulas).precedents d) := by
  refine ⟨mem_precedents_ofFormulas.trans ⟨?_, ?_⟩, converse_empty.addAll _ d p⟩
  · rintro ⟨e, hmem, hp, hcovers⟩
    exact ⟨hp, List.mem_map_of_mem hmem, e, hmem, hcovers⟩
  · rintro ⟨hp, -, e, hmem, hcovers⟩
    exact ⟨e, hmem, hp, hcovers⟩

end Graph

end Spreadsheet
