import Spreadsheet.Proofs.Graph.Component

/-! The search finds the cells on cycles, and no others: when it has come to an end, it has closed all
that it has entered. -/

namespace Spreadsheet.Graph

open Relation

variable {g : Graph} {p q : Position}

namespace Search

variable {s t : Search}

def stepsLeft (g : Graph) (s : Search) : Nat :=
  Graph.stepsLeft g (fun p => (s.number? p).isSome) (s.path.map Frame.pending)

theorem map_pending_lower (n : Nat) (path : List Frame) :
    (lower n path).map Frame.pending = path.map Frame.pending := by
  cases path <;> rfl

theorem isSome_number?_enter (hq : (s.number? q).isSome) : ((s.enter g p).number? q).isSome := by
  rw [number?_enter]
  split
  · rfl
  · exact hq

theorem isSome_number?_enter_self : ((s.enter g p).number? p).isSome := by
  rw [number?_enter, if_pos rfl]
  rfl

theorem stepsLeft_step (hpath : s.path.isEmpty = false) :
    (s.step g).stepsLeft g < s.stepsLeft g := by
  rcases hs : s.path with _ | ⟨⟨p, _ | ⟨q, pending⟩, low⟩, path⟩
  · rw [hs] at hpath
    cases hpath
  · have hstep : (s.step g).stepsLeft g = Graph.stepsLeft g (fun p => (s.number? p).isSome)
        ((lower low path).map Frame.pending) := by
      simp only [step, hs]
      split <;> rfl
    rw [hstep, map_pending_lower, stepsLeft, hs, List.map_cons, stepsLeft_cons]
    omega
  · have hlook : s.stepsLeft g =
        Graph.stepsLeft g (fun p => (s.number? p).isSome) (pending :: path.map Frame.pending) + 2 := by
      simp only [stepsLeft, hs, List.map_cons, stepsLeft_cons, List.length_cons]
      omega
    cases hq : s.number? q with
    | none =>
      have hstep : s.step g = (s.moveTo (⟨p, pending, low⟩ :: path)).enter g q := by
        simp only [step, hs, hq]
      have henter : (s.step g).stepsLeft g ≤ Graph.stepsLeft g (fun p => (s.number? p).isSome)
          (pending :: path.map Frame.pending) + 1 := by
        rw [hstep]
        exact stepsLeft_enter (fun r hr => isSome_number?_enter hr) (by simp [hq])
          isSome_number?_enter_self
      omega
    | some n =>
      have hstep : (s.step g).stepsLeft g = Graph.stepsLeft g (fun p => (s.number? p).isSome)
          (pending :: path.map Frame.pending) := by
        simp only [step, hs, hq]
        rfl
      omega

/-- A search that has come to an end, with some cells entered. -/
structure Ended (g : Graph) (ps : List Position) (s : Search) : Prop where
  good : Good g s
  path : s.path.isEmpty = true
  numbered : ∀ p ∈ ps, (s.number? p).isSome

theorem Ended.stack_eq {ps : List Position} (h : Ended g ps s) : s.stack = [] := by
  have hlayers := h.good.layers
  rw [List.isEmpty_iff.mp h.path] at hlayers
  exact hlayers

theorem good_start : Good g start := by
  refine ⟨⟨?_, ?_, List.Pairwise.nil, ?_, ?_⟩, rfl⟩
  · intro p n hn
    simp [start, number?] at hn
  · exact fun p hp => absurd hp List.not_mem_nil
  · intro p hp
    simp [Closed, start, number?] at hp
  · intro p
    simp [Closed, start, number?]

variable {ps : List Position}

/-- A search that has ended goes on from another cell until it ends again. -/
theorem Ended.visit (h : Ended g ps s) (p : Position) :
    Ended g (p :: ps) (s.visit g g.walkSteps p) := by
  rw [Search.visit]
  split
  · exact ⟨h.good, h.path, List.forall_mem_cons.mpr ⟨‹_›, h.numbered⟩⟩
  · rename_i hnew
    have hp : s.number? p = none := by simpa using hnew
    have hnil : s.path = [] := List.isEmpty_iff.mp h.path
    have henter : Good g (s.enter g p) := by
      refine ⟨h.good.toSound.enter hp, [], s.stack, rfl, ?_, ?_, ?_⟩
      · exact layer_enter hp (by simp [h.stack_eq])
      · rw [hnil]
        simp
      · rw [hnil]
        exact h.stack_eq
    have hnumbered : ∀ q ∈ p :: ps, ((s.enter g p).number? q).isSome :=
      List.forall_mem_cons.mpr ⟨isSome_number?_enter_self, fun q hq =>
        isSome_number?_enter (h.numbered q hq)⟩
    have hfuel : (s.enter g p).stepsLeft g ≤ g.walkSteps := by
      have hsteps : (s.enter g p).stepsLeft g =
          Graph.stepsLeft g (fun q => ((s.enter g p).number? q).isSome) [g.precedents p] := by
        simp [stepsLeft, enter, hnil]
      rw [hsteps]
      exact stepsLeft_le_walkSteps (fun q hq => isSome_number?_enter hq) (by simp [hp])
        isSome_number?_enter_self
    have hkeep (t : Search) (ht : Good g t ∧ ∀ q ∈ p :: ps, (t.number? q).isSome) :
        Good g (t.step g) ∧ ∀ q ∈ p :: ps, ((t.step g).number? q).isSome := by
      obtain ⟨hstep, hext⟩ := ht.1.step
      refine ⟨hstep, fun q hq => ?_⟩
      obtain ⟨n, hn⟩ := Option.isSome_iff_exists.mp (ht.2 q hq)
      exact Option.isSome_of_eq_some (hext.number q n hn)
    obtain ⟨⟨hgood, hps⟩, hpath⟩ :=
      runUntil_spec (stepsLeft g) hkeep (fun t => stepsLeft_step) ⟨henter, hnumbered⟩ hfuel
    exact ⟨hgood, hpath, hps⟩

theorem Ended.visits (h : Ended g ps s) (qs : List Position) :
    Ended g (qs.reverse ++ ps) (qs.foldl (Search.visit g g.walkSteps) s) := by
  induction qs generalizing ps s with
  | nil => exact h
  | cons q qs ih => simpa using ih (h.visit q)

end Search

theorem ended_search (g : Graph) : Search.Ended g g.readers.reverse g.search := by
  have hstart : Search.Ended g [] .start := ⟨Search.good_start, rfl, by simp⟩
  have h := hstart.visits g.readers
  rwa [List.append_nil] at h

theorem mem_cycleMembers : p ∈ g.cycleMembers ↔ g.Cyclic p := by
  have h := g.ended_search
  rw [cycleMembers, Position.mem_sort, h.good.cyclic]
  refine ⟨fun hp => hp.2, fun hp => ⟨⟨h.numbered p ?_, ?_⟩, hp⟩⟩
  · obtain ⟨q, hq, -⟩ := TransGen.head'_iff.mp hp
    exact List.mem_reverse.mpr (mem_readers (List.ne_nil_of_mem hq))
  · -- What has been entered is closed, since nothing is left on the stack.
    rw [h.stack_eq]
    exact List.not_mem_nil

/-- The search comes to an end. A cell is found to be on a cycle if and only if a path of one
dependency or more leads from it back to it. -/
theorem cycleMembers_addAll (dependencies : List (Position × Position)) :
    (search (empty.addAll dependencies)).path = [] ∧
      ∀ p, p ∈ (empty.addAll dependencies).cycleMembers ↔
        TransGen (fun dependent precedent => (precedent, dependent) ∈ dependencies) p p := by
  have hreads : (empty.addAll dependencies).Reads =
      fun dependent precedent => (precedent, dependent) ∈ dependencies := by
    funext dependent precedent
    refine propext (reads_addAll.trans (or_iff_left ?_))
    rintro ⟨_, hmem, -⟩
    exact absurd hmem List.not_mem_nil
  refine ⟨List.isEmpty_iff.mp (ended_search _).path, fun p => ?_⟩
  rw [mem_cycleMembers, Cyclic, next_precedents_eq, hreads]

/-- `A1` and `B1` read each other and `D1` itself; `C1` reads a cycle and `E1` is read by one. -/
example : (empty.addAll [(⟨0, 0⟩, ⟨0, 1⟩), (⟨0, 1⟩, ⟨0, 0⟩), (⟨0, 0⟩, ⟨0, 2⟩), (⟨0, 3⟩, ⟨0, 3⟩),
    (⟨0, 4⟩, ⟨0, 1⟩)]).cycleMembers = [⟨0, 0⟩, ⟨0, 1⟩, ⟨0, 3⟩] := by decide

end Spreadsheet.Graph
