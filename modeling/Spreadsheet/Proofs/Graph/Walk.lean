import Spreadsheet.Proofs.Graph.Steps

/-! The order of calculation. The cells that a walk has entered and not left form a path to the cell
where it stands. Hence a cell is left after all that it reads, but for what leads back to it. -/

namespace Spreadsheet.Graph

open Relation

/-- A list of cells that is closed under `next`, without repetitions, in which a cell stands behind
all cells next to it but for those that lead back to it. -/
structure WalkOrder (next : Position → List Position) (starts cells : List Position) : Prop where
  mem_iff : ∀ q, q ∈ cells ↔ ∃ p ∈ starts, Leads next p q
  nodup : cells.Nodup
  ordered : ∀ earlier d later, cells = earlier ++ d :: later →
    ∀ q ∈ next d, q ∈ earlier ∨ Leads next q d

variable {g : Graph} {starts : List Position} {p q : Position}

namespace Walk

/-- What holds of a walk from some cells at any time. -/
structure Good (g : Graph) (starts : List Position) (w : Walk) : Prop where
  nodup : w.entered.Nodup
  perm : w.entered.Perm (w.path.map Prod.fst ++ w.left)
  reached : ∀ p ∈ w.entered, ∃ start ∈ starts, Leads g.precedents start p
  closed : ∀ d ∈ w.left, ∀ q ∈ g.precedents d, q ∈ w.entered
  ordered : ∀ later d earlier, w.left = later ++ d :: earlier →
    ∀ q ∈ g.precedents d, q ∈ earlier ∨ Leads g.precedents q d
  pending : ∀ f ∈ w.path, f.2 ⊆ g.precedents f.1
  looked : ∀ f ∈ w.path, ∀ q ∈ g.precedents f.1, q ∈ f.2 ∨ q ∈ w.entered
  leads : (w.path.map Prod.fst).Pairwise fun a b => Leads g.precedents b a

variable {w : Walk}

theorem good_start : Good g starts start :=
  ⟨.nil, .nil, by simp [start], by simp [start], by simp [start], by simp [start], by simp [start],
    .nil⟩

theorem Good.enter (h : Good g starts w) (hp : p ∉ w.entered)
    (hreach : ∃ start ∈ starts, Leads g.precedents start p)
    (hpath : ∀ a ∈ w.path.map Prod.fst, Leads g.precedents a p) : Good g starts (w.enter g p) where
  nodup := List.nodup_cons.mpr ⟨hp, h.nodup⟩
  perm := h.perm.cons p
  reached := List.forall_mem_cons.mpr ⟨hreach, h.reached⟩
  closed d hd q hq := List.mem_cons_of_mem p (h.closed d hd q hq)
  ordered := h.ordered
  pending := List.forall_mem_cons.mpr ⟨List.Subset.refl _, h.pending⟩
  looked := List.forall_mem_cons.mpr ⟨fun _ hq => .inl hq, fun f hf q hq =>
    (h.looked f hf q hq).imp_right (List.mem_cons_of_mem p)⟩
  leads := List.pairwise_cons.mpr ⟨hpath, h.leads⟩

/-- A precedent that has been entered is no longer pending. -/
theorem Good.look {pending : List Position} {above below : List (Position × List Position)}
    (h : Good g starts w) (hpath : w.path = above ++ (p, q :: pending) :: below)
    (hq : q ∈ w.entered) : Good g starts { w with path := above ++ (p, pending) :: below } := by
  have hcells : w.path.map Prod.fst = (above ++ (p, pending) :: below).map Prod.fst := by
    simp [hpath]
  have hpending := h.pending
  have hlooked := h.looked
  rw [hpath, List.forall_mem_append, List.forall_mem_cons] at hpending hlooked
  obtain ⟨habove, hp, hbelow⟩ := hpending
  obtain ⟨habove', hp', hbelow'⟩ := hlooked
  refine ⟨h.nodup, hcells ▸ h.perm, h.reached, h.closed, h.ordered, ?_, ?_, hcells ▸ h.leads⟩
  · rw [List.forall_mem_append, List.forall_mem_cons]
    exact ⟨habove, (List.cons_subset.mp hp).2, hbelow⟩
  · rw [List.forall_mem_append, List.forall_mem_cons]
    refine ⟨habove', fun r hr => ?_, hbelow'⟩
    rcases hp' r hr with hr | hr
    · rcases List.mem_cons.mp hr with rfl | hr
      · exact .inr hq
      · exact .inl hr
    · exact .inr hr

/-- Leaving a cell, all precedents of which have been entered: they have been left before, or are on
the path that leads to the cell. -/
theorem Good.leave {path : List (Position × List Position)} (h : Good g starts w)
    (hpath : w.path = (p, []) :: path) :
    Good g starts { w with left := p :: w.left, path } := by
  have hperm := h.perm
  have hleads := h.leads
  have hpending := h.pending
  have hlooked := h.looked
  rw [hpath, List.map_cons] at hperm hleads
  rw [hpath, List.forall_mem_cons] at hpending hlooked
  have hentered : ∀ q ∈ g.precedents p, q ∈ w.entered := fun q hq =>
    (hlooked.1 q hq).resolve_left List.not_mem_nil
  refine ⟨h.nodup, hperm.trans List.perm_middle.symm, h.reached,
    List.forall_mem_cons.mpr ⟨hentered, h.closed⟩, ?_, hpending.2, hlooked.2, hleads.of_cons⟩
  -- The cells left grow at the head, so only `p` itself has new obligations.
  intro later d earlier hsplit q hq
  rcases later with _ | ⟨a, later⟩
  · obtain ⟨rfl, rfl⟩ : p = d ∧ w.left = earlier := by simpa using hsplit
    have hmem := hperm.mem_iff.mp (hentered q hq)
    rw [List.cons_append, List.mem_cons, List.mem_append] at hmem
    rcases hmem with rfl | hmem | hmem
    · exact .inr .refl
    · exact .inr (List.rel_of_pairwise_cons hleads hmem)
    · exact .inl hmem
  · have htail : w.left = later ++ d :: earlier := (List.cons.inj hsplit).2
    exact h.ordered later d earlier htail q hq

theorem Good.step (h : Good g starts w) : Good g starts (w.step g) := by
  rcases hpath : w.path with _ | ⟨⟨p, _ | ⟨q, pending⟩⟩, path⟩
  · have hsame : w.step g = w := by simp only [Walk.step, hpath]
    rwa [hsame]
  · have hstep : w.step g = { w with left := p :: w.left, path } := by
      simp only [Walk.step, hpath]
    rw [hstep]
    exact h.leave hpath
  · by_cases hq : q ∈ w.entered
    · have hstep : w.step g = { w with path := (p, pending) :: path } := by
        simp [Walk.step, hpath, hq]
      have hpath' : w.path = [] ++ (p, q :: pending) :: path := hpath
      rw [hstep]
      exact h.look hpath' hq
    · have hstep : w.step g = { w.enter g q with
          path := (q, g.precedents q) :: (p, pending) :: path } := by
        simp [Walk.step, hpath, hq, Walk.enter]
      have hpq : q ∈ g.precedents p :=
        h.pending _ (hpath ▸ List.mem_cons_self) List.mem_cons_self
      have hpcells : p ∈ w.path.map Prod.fst := by simp [hpath]
      have hpentered : p ∈ w.entered := h.perm.mem_iff.mpr (List.mem_append_left _ hpcells)
      have hback : ∀ a ∈ w.path.map Prod.fst, Leads g.precedents a q := by
        have hleads := h.leads
        rw [hpath, List.map_cons] at hleads ⊢
        refine List.forall_mem_cons.mpr ⟨.single hpq, fun a ha => ?_⟩
        exact (List.rel_of_pairwise_cons hleads ha).tail hpq
      obtain ⟨start, hstart, hreach⟩ := h.reached p hpentered
      have henter : Good g starts (w.enter g q) :=
        h.enter hq ⟨start, hstart, hreach.tail hpq⟩ hback
      have hpath' : (w.enter g q).path =
          [(q, g.precedents q)] ++ (p, q :: pending) :: path := by rw [Walk.enter, hpath]; rfl
      rw [hstep]
      exact henter.look hpath' List.mem_cons_self

def stepsLeft (g : Graph) (w : Walk) : Nat :=
  Graph.stepsLeft g (w.entered.contains ·) (w.path.map Prod.snd)

theorem stepsLeft_step (hpath : w.path.isEmpty = false) :
    (w.step g).stepsLeft g < w.stepsLeft g := by
  rcases hs : w.path with _ | ⟨⟨p, _ | ⟨q, pending⟩⟩, path⟩
  · rw [hs] at hpath
    cases hpath
  · simp only [step, stepsLeft, hs, List.map_cons, stepsLeft_cons]
    omega
  · have hlook : w.stepsLeft g =
        Graph.stepsLeft g (w.entered.contains ·) (pending :: path.map Prod.snd) + 2 := by
      simp only [stepsLeft, hs, List.map_cons, stepsLeft_cons, List.length_cons]
      omega
    by_cases hq : q ∈ w.entered
    · have hstep : (w.step g).stepsLeft g =
          Graph.stepsLeft g (w.entered.contains ·) (pending :: path.map Prod.snd) := by
        simp [step, stepsLeft, hs, hq]
      omega
    · have hstep : (w.step g).stepsLeft g = Graph.stepsLeft g ((q :: w.entered).contains ·)
          (g.precedents q :: pending :: path.map Prod.snd) := by
        simp [step, stepsLeft, hs, hq, enter]
      have henter : (w.step g).stepsLeft g ≤
          Graph.stepsLeft g (w.entered.contains ·) (pending :: path.map Prod.snd) + 1 := by
        rw [hstep]
        exact stepsLeft_enter (fun r hr => by simp_all) (by simpa using hq) (by simp)
      omega

theorem mem_entered_step (hp : p ∈ w.entered) : p ∈ (w.step g).entered := by
  rcases hs : w.path with _ | ⟨⟨a, _ | ⟨q, pending⟩⟩, path⟩
  · simpa only [step, hs] using hp
  · simpa only [step, hs] using hp
  · simp only [step, hs]
    split
    · exact hp
    · exact List.mem_cons_of_mem q hp

/-- A walk that has come to an end, with some cells entered. -/
structure Ended (g : Graph) (starts ps : List Position) (w : Walk) : Prop where
  good : Good g starts w
  path : w.path.isEmpty = true
  entered : ∀ p ∈ ps, p ∈ w.entered

variable {ps : List Position}

/-- A walk that has ended goes on from another cell until it ends again. -/
theorem Ended.visit (h : Ended g starts ps w) (hp : p ∈ starts) :
    Ended g starts (p :: ps) (w.visit g g.walkSteps p) := by
  rw [Walk.visit]
  split
  · exact ⟨h.good, h.path, List.forall_mem_cons.mpr ⟨by simp_all, h.entered⟩⟩
  · rename_i hnew
    have hnil : w.path = [] := List.isEmpty_iff.mp h.path
    have henter : Good g starts (w.enter g p) :=
      h.good.enter (by simpa using hnew) ⟨p, hp, .refl⟩ (by simp [hnil])
    have hentered : ∀ q ∈ p :: ps, q ∈ (w.enter g p).entered :=
      List.forall_mem_cons.mpr ⟨List.mem_cons_self, fun q hq =>
        List.mem_cons_of_mem p (h.entered q hq)⟩
    have hfuel : (w.enter g p).stepsLeft g ≤ g.walkSteps := by
      have hsteps : (w.enter g p).stepsLeft g =
          Graph.stepsLeft g ((p :: w.entered).contains ·) [g.precedents p] := by
        simp [stepsLeft, enter, hnil]
      rw [hsteps]
      have hkeep (r : Position) (hr : w.entered.contains r) : (p :: w.entered).contains r := by
        simp_all
      exact stepsLeft_le_walkSteps hkeep (by simpa using hnew) (by simp)
    have hkeep (t : Walk) (ht : Good g starts t ∧ ∀ q ∈ p :: ps, q ∈ t.entered) :
        Good g starts (t.step g) ∧ ∀ q ∈ p :: ps, q ∈ (t.step g).entered :=
      ⟨ht.1.step, fun q hq => mem_entered_step (ht.2 q hq)⟩
    obtain ⟨⟨hgood, hps⟩, hpath⟩ :=
      runUntil_spec (stepsLeft g) hkeep (fun t => stepsLeft_step) ⟨henter, hentered⟩ hfuel
    exact ⟨hgood, hpath, hps⟩

theorem Ended.visits {qs : List Position} (h : Ended g starts ps w) (hqs : ∀ q ∈ qs, q ∈ starts) :
    Ended g starts (qs.reverse ++ ps) (qs.foldl (Walk.visit g g.walkSteps) w) := by
  induction qs generalizing ps w with
  | nil => exact h
  | cons q qs ih =>
    obtain ⟨hq, hqs⟩ := List.forall_mem_cons.mp hqs
    simpa using ih (h.visit hq) hqs

/-- A walk that has ended has left whatever the cells that it was to enter lead to. -/
theorem Ended.mem_left (h : Ended g starts ps w) {start : Position} (hstart : start ∈ ps)
    (hlead : Leads g.precedents start p) : p ∈ w.left := by
  have hleft {q : Position} (hq : q ∈ w.entered) : q ∈ w.left := by
    have hmem := h.good.perm.mem_iff.mp hq
    rwa [List.isEmpty_iff.mp h.path] at hmem
  induction hlead with
  | refl => exact hleft (h.entered start hstart)
  | tail _ hstep ih => exact hleft (h.good.closed _ ih _ hstep)

end Walk

theorem ended_walk (g : Graph) (starts : List Position) :
    Walk.Ended g starts starts.reverse (g.walk starts) := by
  have hstart : Walk.Ended g starts [] .start := ⟨Walk.good_start, rfl, by simp⟩
  have h := hstart.visits fun _ hq => hq
  rwa [List.append_nil] at h

theorem order_walkOrder (g : Graph) (starts : List Position) :
    WalkOrder g.precedents starts (g.order starts) := by
  have h := g.ended_walk starts
  have horder : g.order starts = (g.walk starts).left.reverse := rfl
  generalize g.walk starts = w at h horder
  have hperm : w.entered.Perm w.left.reverse := by
    have hperm := h.good.perm
    rw [List.isEmpty_iff.mp h.path] at hperm
    exact hperm.trans (List.reverse_perm w.left).symm
  rw [horder]
  refine ⟨fun q => ?_, hperm.nodup_iff.mp h.good.nodup, fun earlier d later hsplit q hq => ?_⟩
  · constructor
    · exact fun hq => h.good.reached q (hperm.mem_iff.mpr hq)
    · rintro ⟨p, hp, hpq⟩
      exact List.mem_reverse.mpr (h.mem_left (List.mem_reverse.mpr hp) hpq)
  · have hleft : w.left = later.reverse ++ d :: earlier.reverse := by
      simpa using congrArg List.reverse hsplit
    simpa using h.good.ordered later.reverse d earlier.reverse hleft q hq

/-- The walk comes to an end. The order of calculation lists what the starting cells depend on, each
cell once, and a cell behind those that it reads unless they are on a cycle with it. -/
theorem order_topological (g : Graph) (starts : List Position) :
    (g.walk starts).path = [] ∧ (g.order starts).Nodup ∧
      (∀ p, p ∈ g.order starts ↔ ∃ start ∈ starts, ReflTransGen g.Reads start p) ∧
        ∀ d p, d ∈ g.order starts → g.Reads d p →
          (g.order starts).idxOf p < (g.order starts).idxOf d ∨ TransGen g.Reads p d := by
  obtain ⟨hmem, hnodup, hordered⟩ := g.order_walkOrder starts
  rw [Leads, next_precedents_eq] at hmem
  have hend : (g.walk starts).path = [] := List.isEmpty_iff.mp (g.ended_walk starts).path
  refine ⟨hend, hnodup, hmem, fun d p hd hdp => ?_⟩
  obtain ⟨earlier, later, hsplit⟩ := List.append_of_mem hd
  rcases hordered earlier d later hsplit p (mem_precedents.mpr hdp) with hp | hlead
  · left
    have hnot : d ∉ earlier := by
      intro hmem
      rw [hsplit, List.nodup_append] at hnodup
      exact hnodup.2.2 d hmem d List.mem_cons_self rfl
    rw [hsplit, List.idxOf_append_of_mem hp, List.idxOf_append_of_notMem hnot, List.idxOf_cons_self]
    have := List.idxOf_lt_length_of_mem hp
    omega
  · right
    rw [Leads, next_precedents_eq] at hlead
    rcases reflTransGen_iff_eq_or_transGen.mp hlead with rfl | hlead
    · exact .single hdp
    · exact hlead

end Spreadsheet.Graph
