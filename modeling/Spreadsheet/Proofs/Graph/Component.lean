import Spreadsheet.Graph.Cycle
import Spreadsheet.Proofs.Graph.Steps

/-! The search for cycles. The stack is cut into layers by the cells of the path: what lies in a
layer leads to the cell at its bottom and back, so that a layer from which nothing below it has been
found is a whole component. -/

namespace Spreadsheet.Graph

open Relation

variable {g : Graph} {p q : Position}

/-- A cell depends on itself, directly or through other cells. -/
def Cyclic (g : Graph) (p : Position) : Prop := TransGen (Next g.precedents) p p

theorem cyclic_of_leads (hne : p ≠ q) (hpq : Leads g.precedents p q)
    (hqp : Leads g.precedents q p) : g.Cyclic p := by
  rcases reflTransGen_iff_eq_or_transGen.mp hpq with heq | hpq
  · exact absurd heq.symm hne
  · exact hpq.trans_left hqp

namespace Search

variable {s t : Search}

/-- The cells that have been on the stack and are no longer. -/
def Closed (s : Search) (p : Position) : Prop := (s.number? p).isSome ∧ p ∉ s.stack

/-- A cell is closed, or entered no earlier than the cell of some number. -/
def Bounded (s : Search) (low : Nat) (p : Position) : Prop :=
  s.Closed p ∨ ∃ n, s.number? p = some n ∧ low ≤ n

/-- What a later state of a search keeps. -/
structure Extends (s t : Search) : Prop where
  number : ∀ p n, s.number? p = some n → t.number? p = some n
  closed : ∀ p, s.Closed p → t.Closed p

/-- What holds of a cell on the path with the cells `above` it in its layer of the stack. -/
structure Layer (g : Graph) (s : Search) (f : Frame) (above below : List Position) : Prop where
  back : ∀ q ∈ above ++ f.cell :: below, Leads g.precedents q f.cell
  forth : ∀ q ∈ above, Leads g.precedents f.cell q
  number : ∃ n, s.number? f.cell = some n ∧ f.low ≤ n
  low : ∃ q ∈ above ++ f.cell :: below, s.number? q = some f.low ∧ Leads g.precedents f.cell q
  pending : f.pending ⊆ g.precedents f.cell
  seen : ∀ q ∈ g.precedents f.cell, q ∈ f.pending ∨ s.Bounded f.low q
  left : ∀ p ∈ above, ∀ q ∈ g.precedents p, s.Bounded f.low q

/-- The layers of the stack along the path, each cell of which reads the next one. -/
def Layers (g : Graph) (s : Search) : List Frame → List Position → Prop
  | [], stack => stack = []
  | f :: path, stack => ∃ above below, stack = above ++ f.cell :: below ∧
      Layer g s f above below ∧ (∀ e ∈ path.head?, f.cell ∈ g.precedents e.cell) ∧
      Layers g s path below

/-- What holds of the cells entered so far, wherever the search stands. -/
structure Sound (g : Graph) (s : Search) : Prop where
  fresh : ∀ p n, s.number? p = some n → n < s.numbers.length
  numbered : ∀ p ∈ s.stack, (s.number? p).isSome
  descending : s.stack.Pairwise fun p q =>
    ∀ m n, s.number? p = some m → s.number? q = some n → n < m
  closed : ∀ p, s.Closed p → ∀ q ∈ g.precedents p, s.Closed q
  cyclic : ∀ p, p ∈ s.cyclic ↔ s.Closed p ∧ g.Cyclic p

structure Good (g : Graph) (s : Search) : Prop extends Sound g s where
  layers : Layers g s s.path s.stack

theorem Extends.refl (s : Search) : Extends s s := ⟨fun _ _ h => h, fun _ h => h⟩

theorem Extends.trans {u : Search} (h : Extends s t) (h' : Extends t u) : Extends s u :=
  ⟨fun p n hp => h'.number p n (h.number p n hp), fun p hp => h'.closed p (h.closed p hp)⟩

theorem Bounded.mono {low low' : Nat} (hp : s.Bounded low p) (h : Extends s t)
    (hlow : low' ≤ low) : t.Bounded low' p := by
  rcases hp with hp | ⟨n, hn, hle⟩
  · exact .inl (h.closed p hp)
  · exact .inr ⟨n, h.number p n hn, hlow.trans hle⟩

section

variable {f : Frame} {path : List Frame} {above below stack : List Position}

theorem Layer.mono (hl : Layer g s f above below) (h : Extends s t) : Layer g t f above below := by
  obtain ⟨n, hn, hle⟩ := hl.number
  obtain ⟨q, hq, hlow, hlead⟩ := hl.low
  exact {
    back := hl.back
    forth := hl.forth
    number := ⟨n, h.number _ _ hn, hle⟩
    low := ⟨q, hq, h.number _ _ hlow, hlead⟩
    pending := hl.pending
    seen := fun q hq => (hl.seen q hq).imp_right fun hb => hb.mono h le_rfl
    left := fun p hp q hq => (hl.left p hp q hq).mono h le_rfl }

theorem Layers.mono (hl : Layers g s path stack) (h : Extends s t) : Layers g t path stack := by
  induction path generalizing stack with
  | nil => exact hl
  | cons f path ih =>
    obtain ⟨above, below, hstack, hlayer, hparent, hbelow⟩ := hl
    exact ⟨above, below, hstack, hlayer.mono h, hparent, ih hbelow⟩

/-- A precedent that has been looked at is no longer pending. -/
theorem Layer.look {pending : List Position} {low : Nat}
    (hl : Layer g s ⟨p, q :: pending, low⟩ above below) (hq : s.Bounded low q) :
    Layer g s ⟨p, pending, low⟩ above below := by
  refine { hl with
    pending := fun r hr => hl.pending (List.mem_cons_of_mem q hr)
    seen := fun r hr => ?_ }
  rcases hl.seen r hr with hr | hr
  · rcases List.mem_cons.mp hr with rfl | hr
    · exact .inr hq
    · exact .inl hr
  · exact .inr hr

/-- Lowering a layer to the number of a cell on the stack that has been found from it. -/
theorem Layer.lower {n : Nat} (hl : Layer g s f above below)
    (hq : q ∈ above ++ f.cell :: below) (hn : s.number? q = some n)
    (hlead : Leads g.precedents f.cell q) :
    Layer g s { f with low := min f.low n } above below := by
  have hle : min f.low n ≤ f.low := min_le_left _ _
  obtain ⟨m, hm, hlow⟩ := hl.number
  refine { hl with
    number := ⟨m, hm, hle.trans hlow⟩
    low := ?_
    seen := fun r hr => (hl.seen r hr).imp_right fun hb => hb.mono (.refl s) hle
    left := fun r hr c hc => (hl.left r hr c hc).mono (.refl s) hle }
  rcases min_choice f.low n with h | h
  · obtain ⟨r, hr, hlow, hlead⟩ := hl.low
    exact ⟨r, hr, hlow.trans (congrArg some h.symm), hlead⟩
  · exact ⟨q, hq, hn.trans (congrArg some h.symm), hlead⟩

/-- What is read from a finished cell or from one that lies above it. -/
theorem Layer.bounded {low : Nat} (hl : Layer g s ⟨p, [], low⟩ above below) {r : Position}
    (hr : r ∈ above ++ [p]) : ∀ q ∈ g.precedents r, s.Bounded low q := by
  intro q hq
  rcases List.mem_append.mp hr with hr | hr
  · exact hl.left r hr q hq
  · obtain rfl := List.mem_singleton.mp hr
    exact (hl.seen q hq).resolve_left List.not_mem_nil

/-- A finished cell from which an earlier one has been found joins the layer below. -/
theorem Layer.merge {below' : List Position} {low : Nat}
    (hl : Layer g s ⟨p, [], low⟩ above (stack ++ f.cell :: below'))
    (hf : Layer g s f stack below') (hp : p ∈ g.precedents f.cell)
    (hq : q ∈ stack ++ f.cell :: below') (hn : s.number? q = some low)
    (hlead : Leads g.precedents p q) :
    Layer g s { f with low := min f.low low } (above ++ p :: stack) below' := by
  have hparent : Leads g.precedents f.cell p := .single hp
  have hq' : q ∈ above ++ p :: (stack ++ f.cell :: below') :=
    List.mem_append_right above (List.mem_cons_of_mem p hq)
  -- The cell found earlier leads on to the parent, and so does all that leads to it.
  have hback : Leads g.precedents p f.cell := hlead.trans (hf.back q hq)
  have hle : min f.low low ≤ f.low := min_le_left _ _
  obtain ⟨m, hm, hlow⟩ := hf.number
  refine ⟨fun r hr => ?_, fun r hr => ?_, ⟨m, hm, hle.trans hlow⟩, ?_, hf.pending,
    fun r hr => (hf.seen r hr).imp_right fun hb => hb.mono (.refl s) hle, fun r hr c hc => ?_⟩
  · rw [List.append_assoc, List.cons_append, List.mem_append, List.mem_cons] at hr
    rcases hr with hr | rfl | hr
    · exact (hl.back r (List.mem_append_left _ hr)).trans hback
    · exact hback
    · exact hf.back r hr
  · rcases List.mem_append.mp hr with hr | hr
    · exact hparent.trans (hl.forth r hr)
    · rcases List.mem_cons.mp hr with rfl | hr
      · exact hparent
      · exact hf.forth r hr
  · rw [List.append_assoc, List.cons_append]
    rcases min_choice f.low low with h | h
    · obtain ⟨r, hr, hlow, hlead⟩ := hf.low
      exact ⟨r, List.mem_append_right above (List.mem_cons_of_mem p hr),
        hlow.trans (congrArg some h.symm), hlead⟩
    · exact ⟨q, hq', hn.trans (congrArg some h.symm), hparent.trans hlead⟩
  · have hsplit : r ∈ above ++ [p] ∨ r ∈ stack := by simpa [or_assoc] using hr
    rcases hsplit with hr | hr
    · exact (hl.bounded hr c hc).mono (.refl s) (min_le_right _ _)
    · exact (hf.left r hr c hc).mono (.refl s) hle

end

theorem number?_enter : (s.enter g p).number? q =
    if q = p then some s.numbers.length else s.number? q := by
  rw [number?, enter, List.lookup_cons]
  by_cases h : q = p
  · simp [h]
  · have hne : (q == p) = false := beq_false_of_ne h
    rw [hne, if_neg h]
    rfl

section

variable (hp : s.number? p = none)

include hp

theorem closed_enter : (s.enter g p).Closed q ↔ s.Closed q := by
  rw [Closed, Closed, number?_enter]
  change _ ∧ q ∉ p :: s.stack ↔ _
  by_cases hq : q = p
  · simp [hq, hp]
  · simp [hq]

theorem extends_enter : s.Extends (s.enter g p) := by
  refine ⟨fun q n hq => ?_, fun q hq => (closed_enter hp).mpr hq⟩
  have hne : q ≠ p := by
    rintro rfl
    simp [hp] at hq
  rw [number?_enter, if_neg hne, hq]

theorem Sound.enter (h : Sound g s) : Sound g (s.enter g p) := by
  have hstack (q : Position) (hq : q ∈ s.stack) : q ≠ p := by
    rintro rfl
    simpa [hp] using h.numbered q hq
  constructor
  · intro q n hn
    rw [number?_enter] at hn
    split_ifs at hn with hq
    · obtain rfl := Option.some.inj hn
      exact Nat.lt_succ_self _
    · exact (h.fresh q n hn).trans (Nat.lt_succ_self _)
  · intro q hq
    rw [number?_enter]
    split_ifs with heq
    · rfl
    · exact h.numbered q ((List.mem_cons.mp hq).resolve_left heq)
  · refine List.pairwise_cons.mpr ⟨fun q hq m n hm hn => ?_, ?_⟩
    · rw [number?_enter, if_pos rfl] at hm
      rw [number?_enter, if_neg (hstack q hq)] at hn
      obtain rfl := Option.some.inj hm
      exact h.fresh q n hn
    · refine h.descending.imp_of_mem fun hq hr hlt => ?_
      rw [number?_enter, if_neg (hstack _ hq), number?_enter, if_neg (hstack _ hr)]
      exact hlt
  · intro q hq r hr
    rw [closed_enter hp] at hq ⊢
    exact h.closed q hq r hr
  · intro q
    rw [closed_enter hp]
    exact h.cyclic q

end

theorem Sound.nodup (h : Sound g s) : s.stack.Nodup := by
  refine h.descending.imp_of_mem fun hp hq hlt heq => ?_
  obtain ⟨n, hn⟩ := Option.isSome_iff_exists.mp (h.numbered _ hp)
  exact Nat.lt_irrefl n (hlt n n hn (heq ▸ hn))

section

variable {above below : List Position} {low : Nat} (h : Sound g s)
  (hl : Layer g s ⟨p, [], low⟩ above below) (hstack : s.stack = above ++ [p] ++ below)
  (hn : s.number? p = some low)

include h hl hstack hn

/-- Nothing below is found from a layer whose low number is that of the cell at its bottom. -/
theorem closed_or_mem_of_mem {r : Position} (hr : r ∈ above ++ [p]) (hq : q ∈ g.precedents r) :
    s.Closed q ∨ q ∈ above ++ [p] := by
  rcases hl.bounded hr q hq with hclosed | ⟨n, hqn, hle⟩
  · exact .inl hclosed
  · by_cases hmem : q ∈ s.stack
    · rw [hstack, List.mem_append] at hmem
      refine .inr (hmem.resolve_right fun hbelow => ?_)
      have hdescending := h.descending
      rw [hstack, List.pairwise_append] at hdescending
      have hlt : n < low := hdescending.2.2 p (by simp) q hbelow low n hn hqn
      omega
    · exact .inl ⟨by rw [hqn]; rfl, hmem⟩

/-- The cells of a layer that is a whole component are on a cycle together, or there is but one that
does not read itself. -/
theorem cyclic_iff_of_mem {r : Position} (hr : r ∈ above ++ [p]) :
    g.Cyclic r ↔ above ≠ [] ∨ p ∈ g.precedents p := by
  have hpstack : p ∈ s.stack := by simp [hstack]
  have hne {r : Position} (hr : r ∈ above) : r ≠ p := by
    have hnodup := h.nodup
    rw [hstack, List.append_assoc, List.nodup_append] at hnodup
    exact hnodup.2.2 r hr p (by simp)
  have habove {r : Position} (hr : r ∈ above) : Leads g.precedents r p :=
    hl.back r (List.mem_append_left _ hr)
  constructor
  · intro hcyclic
    by_contra hnot
    rw [not_or, not_not] at hnot
    obtain ⟨rfl, hself⟩ := hnot
    obtain rfl : r = p := by simpa using hr
    obtain ⟨q, hrq, hqr⟩ := TransGen.head'_iff.mp hcyclic
    -- Closed cells lead to closed cells only, and the cell itself is on the stack.
    have hclosed : s.Closed q := by
      refine (closed_or_mem_of_mem h hl hstack hn hr hrq).resolve_right fun hq => hself ?_
      obtain rfl : q = r := by simpa using hq
      exact hrq
    have hkeep : ∀ c, Leads g.precedents q c → s.Closed c := by
      intro c hc
      induction hc with
      | refl => exact hclosed
      | tail _ hstep ih => exact h.closed _ ih _ hstep
    exact (hkeep r hqr).2 hpstack
  · intro hcycle
    rcases List.mem_append.mp hr with hr | hr
    · exact cyclic_of_leads (hne hr) (habove hr) (hl.forth r hr)
    · obtain rfl := List.mem_singleton.mp hr
      rcases hcycle with habove' | hself
      · obtain ⟨a, ha⟩ := List.exists_mem_of_ne_nil above habove'
        exact cyclic_of_leads (hne ha).symm (hl.forth a ha) (habove ha)
      · exact .single hself

theorem close_eq : s.close g p = { s with
    stack := below
    cyclic := if above ≠ [] ∨ p ∈ g.precedents p then above ++ [p] ++ s.cyclic else s.cyclic } := by
  have hpabove : p ∉ above := by
    have hnodup := h.nodup
    rw [hstack, List.append_assoc, List.nodup_append] at hnodup
    exact fun hmem => hnodup.2.2 p hmem p (by simp) rfl
  have hall : ∀ a ∈ above, (a != p) = true := by
    intro a ha
    rw [bne_iff_ne]
    rintro rfl
    exact hpabove ha
  have htake : s.stack.takeWhile (· != p) = above := by
    rw [hstack, List.append_assoc, List.takeWhile_append_of_pos hall]
    simp
  have hdrop : s.stack.drop (above ++ [p]).length = below := by
    rw [hstack, List.drop_left]
  have hlength : 1 < (above ++ [p]).length ↔ above ≠ [] := by
    rw [List.length_append, ← List.length_pos_iff]
    simp
  simp only [close, htake, hdrop, List.contains_iff_mem, Bool.or_eq_true, decide_eq_true_eq, hlength]

theorem closed_close : (s.close g p).Closed q ↔ s.Closed q ∨ q ∈ above ++ [p] := by
  have hnumbered : q ∈ above ++ [p] → (s.number? q).isSome := by
    intro hq
    refine h.numbered q ?_
    rw [hstack]
    exact List.mem_append_left below hq
  have hbelow : q ∈ above ++ [p] → q ∉ below := by
    intro hq hbelow
    have hnodup := h.nodup
    rw [hstack, List.nodup_append] at hnodup
    exact hnodup.2.2 q hq q hbelow rfl
  have hmem : q ∈ s.stack ↔ q ∈ above ++ [p] ∨ q ∈ below := by rw [hstack, List.mem_append]
  rw [close_eq h hl hstack hn]
  change (s.number? q).isSome ∧ q ∉ below ↔ ((s.number? q).isSome ∧ q ∉ s.stack) ∨ _
  tauto

theorem Sound.close : Sound g (s.close g p) := by
  have hclosed (q : Position) := closed_close (q := q) h hl hstack hn
  have heq := close_eq h hl hstack hn
  have hsub : below.Sublist s.stack := hstack ▸ List.sublist_append_right _ _
  refine ⟨?_, ?_, ?_, fun r hr q hq => ?_, fun r => ?_⟩
  · rw [heq]
    exact h.fresh
  · rw [heq]
    exact fun q hq => h.numbered q (hsub.subset hq)
  · rw [heq]
    exact h.descending.sublist hsub
  · rw [hclosed] at hr ⊢
    rcases hr with hr | hr
    · exact .inl (h.closed r hr q hq)
    · exact closed_or_mem_of_mem h hl hstack hn hr hq
  · rw [hclosed, or_and_right, ← h.cyclic]
    have hiff (hr : r ∈ above ++ [p]) := cyclic_iff_of_mem h hl hstack hn hr
    rw [heq]
    simp only
    split_ifs with hcycle
    · rw [List.mem_append]
      tauto
    · tauto

end

theorem layer_enter (hp : s.number? p = none) (hback : ∀ q ∈ s.stack, Leads g.precedents q p) :
    Layer g (s.enter g p) ⟨p, g.precedents p, s.numbers.length⟩ [] s.stack := by
  have hnumber : (s.enter g p).number? p = some s.numbers.length := by
    rw [number?_enter, if_pos rfl]
  refine ⟨fun q hq => ?_, by simp, ⟨_, hnumber, le_rfl⟩, ⟨p, by simp, hnumber, .refl⟩, fun _ hq => hq,
    fun q hq => .inl hq, by simp⟩
  rcases List.mem_cons.mp hq with rfl | hq
  · exact .refl
  · exact hback q hq

section

variable {pending : List Position} {low : Nat} {path : List Frame}

theorem extends_moveTo : s.Extends (s.moveTo path) := ⟨fun _ _ h => h, fun _ h => h⟩

theorem Sound.moveTo (h : Sound g s) : Sound g (s.moveTo path) :=
  ⟨h.fresh, h.numbered, h.descending, h.closed, h.cyclic⟩

/-- A step over a precedent that has not been entered yet. -/
theorem Good.descend (h : Good g s) (hpath : s.path = ⟨p, q :: pending, low⟩ :: path)
    (hq : s.number? q = none) : Good g ((s.moveTo (⟨p, pending, low⟩ :: path)).enter g q) := by
  obtain ⟨above, below, hstack, hl, hparent, hbelow⟩ :
      Layers g s (⟨p, q :: pending, low⟩ :: path) s.stack := hpath ▸ h.layers
  generalize ht : s.moveTo (⟨p, pending, low⟩ :: path) = t
  have hpq : q ∈ g.precedents p := hl.pending List.mem_cons_self
  have htq : t.number? q = none := by rw [← ht]; exact hq
  have hext : s.Extends (t.enter g q) := (ht ▸ extends_moveTo).trans (extends_enter htq)
  have hsound : Sound g t := ht ▸ h.toSound.moveTo
  -- The new cell has the greatest number, so it does not lower the layer below.
  have hbounded : (t.enter g q).Bounded low q := by
    obtain ⟨n, hn, hle⟩ := hl.number
    have hlt : n < t.numbers.length := by rw [← ht]; exact h.fresh p n hn
    exact .inr ⟨t.numbers.length, by rw [number?_enter, if_pos rfl], hle.trans hlt.le⟩
  have hback : ∀ r ∈ t.stack, Leads g.precedents r q := by
    intro r hr
    rw [← ht] at hr
    exact (hl.back r (hstack ▸ hr)).tail hpq
  have hpatht : t.path = ⟨p, pending, low⟩ :: path := by rw [← ht]; rfl
  have hstackt : t.stack = above ++ p :: below := by rw [← ht]; exact hstack
  refine ⟨hsound.enter htq, [], t.stack, rfl, layer_enter htq hback, ?_, ?_⟩
  · rw [hpatht]
    simpa using hpq
  · rw [hpatht]
    exact ⟨above, below, hstackt, (hl.mono hext).look hbounded, hparent, hbelow.mono hext⟩

/-- A step over a precedent that has been entered before. -/
theorem Good.pass (h : Good g s) (hpath : s.path = ⟨p, q :: pending, low⟩ :: path) {n : Nat}
    (hq : s.number? q = some n) : Good g (s.moveTo
      (⟨p, pending, if s.stack.contains q then min low n else low⟩ :: path)) := by
  obtain ⟨above, below, hstack, hl, hparent, hbelow⟩ :
      Layers g s (⟨p, q :: pending, low⟩ :: path) s.stack := hpath ▸ h.layers
  have hpq : q ∈ g.precedents p := hl.pending List.mem_cons_self
  have hlayer : Layer g s ⟨p, pending, if s.stack.contains q then min low n else low⟩
      above below := by
    by_cases hmem : q ∈ s.stack
    · rw [if_pos (List.contains_iff_mem.mpr hmem)]
      exact (hl.lower (hstack ▸ hmem) hq (.single hpq)).look (.inr ⟨n, hq, min_le_right _ _⟩)
    · rw [if_neg (mt List.contains_iff_mem.mp hmem)]
      exact hl.look (.inl ⟨by rw [hq]; rfl, hmem⟩)
  exact ⟨h.toSound.moveTo, above, below, hstack, hlayer.mono extends_moveTo, hparent,
    hbelow.mono extends_moveTo⟩

/-- A step that leaves a cell from which nothing earlier has been found. -/
theorem Good.leave_close (h : Good g s) (hpath : s.path = ⟨p, [], low⟩ :: path)
    (hn : s.number? p = some low) : Good g ((s.moveTo (lower low path)).close g p) ∧
      s.Extends ((s.moveTo (lower low path)).close g p) := by
  obtain ⟨above, below, hstack, hl, hparent, hbelow⟩ :
      Layers g s (⟨p, [], low⟩ :: path) s.stack := hpath ▸ h.layers
  have hsplit : s.stack = above ++ [p] ++ below := by simpa using hstack
  -- The number of the parent is less than that of the cell, so its layer stays as it is.
  have hlower : lower low path = path := by
    cases path with
    | nil => rfl
    | cons f path =>
      obtain ⟨above', below', rfl, hf, -⟩ := hbelow
      obtain ⟨n, hfn, hle⟩ := hf.number
      have hdescending := h.descending
      rw [hsplit, List.pairwise_append] at hdescending
      have hlt : n < low := hdescending.2.2 p (by simp) f.cell (by simp) low n hn hfn
      rw [lower, min_eq_left (by omega)]
  rw [hlower]
  have hsound : Sound g (s.moveTo path) := h.toSound.moveTo
  have hlt : Layer g (s.moveTo path) ⟨p, [], low⟩ above below := hl.mono extends_moveTo
  have hext : s.Extends ((s.moveTo path).close g p) := by
    refine ⟨fun q m hq => ?_, fun q hq => (closed_close hsound hlt hsplit hn).mpr (.inl hq)⟩
    rw [close_eq hsound hlt hsplit hn]
    exact hq
  refine ⟨⟨hsound.close hlt hsplit hn, ?_⟩, hext⟩
  have hbelow := hbelow.mono hext
  rw [close_eq hsound hlt hsplit hn] at hbelow ⊢
  exact hbelow

/-- A step that leaves a cell from which an earlier one has been found. -/
theorem Good.leave_merge (h : Good g s) (hpath : s.path = ⟨p, [], low⟩ :: path)
    (hn : s.number? p ≠ some low) : Good g (s.moveTo (lower low path)) := by
  obtain ⟨above, below, hstack, hl, hparent, hbelow⟩ :
      Layers g s (⟨p, [], low⟩ :: path) s.stack := hpath ▸ h.layers
  obtain ⟨n, hpn, hle⟩ := hl.number
  have hlt : low < n := lt_of_le_of_ne hle fun heq => hn (heq ▸ hpn)
  obtain ⟨q, hq, hqn, hlead⟩ := hl.low
  -- The cell found has a lesser number, hence it lies below the layer of the one that is left.
  have hqbelow : q ∈ below := by
    have hdescending := h.descending
    rw [hstack, List.pairwise_append] at hdescending
    rcases List.mem_append.mp hq with hq | hq
    · have hgt : n < low := hdescending.2.2 q hq p (by simp) low n hqn hpn
      omega
    · rcases List.mem_cons.mp hq with rfl | hq
      · exact absurd hqn hn
      · exact hq
  cases path with
  | nil =>
    obtain rfl : below = [] := hbelow
    exact absurd hqbelow List.not_mem_nil
  | cons f path =>
    obtain ⟨above', below', rfl, hf, hgrand, hrest⟩ := hbelow
    have hmerge := hl.merge hf (hparent f rfl) hqbelow hqn hlead
    refine ⟨h.toSound.moveTo, above ++ p :: above', below', ?_, hmerge.mono extends_moveTo, hgrand,
      hrest.mono extends_moveTo⟩
    exact hstack.trans (by simp)

theorem Good.step (h : Good g s) : Good g (s.step g) ∧ s.Extends (s.step g) := by
  rcases hpath : s.path with _ | ⟨⟨p, _ | ⟨q, pending⟩, low⟩, path⟩
  · have hsame : s.step g = s := by simp only [Search.step, hpath]
    rw [hsame]
    exact ⟨h, .refl s⟩
  · have hstep : s.step g = if s.number? p = some low then (s.moveTo (lower low path)).close g p
        else s.moveTo (lower low path) := by simp only [Search.step, hpath]
    rw [hstep]
    split_ifs with hn
    · exact h.leave_close hpath hn
    · exact ⟨h.leave_merge hpath hn, extends_moveTo⟩
  · cases hq : s.number? q with
    | none =>
      have hstep : s.step g = (s.moveTo (⟨p, pending, low⟩ :: path)).enter g q := by
        simp only [Search.step, hpath, hq]
      rw [hstep]
      exact ⟨h.descend hpath hq, extends_moveTo.trans (extends_enter hq)⟩
    | some n =>
      have hstep : s.step g = s.moveTo
          (⟨p, pending, if s.stack.contains q then min low n else low⟩ :: path) := by
        simp only [Search.step, hpath, hq]
      rw [hstep]
      exact ⟨h.pass hpath hq, extends_moveTo⟩

end

end Search

end Spreadsheet.Graph
