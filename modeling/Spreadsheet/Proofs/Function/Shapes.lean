import Spreadsheet.Proofs.Function.Blanks

/-! Functions that look at positions in arrays: selections by criteria, pairs of arrays and lookups.
They overlook blanks behind the other entries as long as the shapes of their arguments agree with one
another, or the positions that matter lie before these blanks. -/

namespace Spreadsheet

namespace Function

section

variable {α β γ : Type} {f : β → Except CellError (Option α)}

theorem gather_congr {g : β → Except CellError (Option α)} {bs : List β}
    (h : ∀ b ∈ bs, f b = g b) : gather f bs = gather g bs := by
  induction bs with
  | nil => rfl
  | cons b bs ih =>
    obtain ⟨hb, hbs⟩ := List.forall_mem_cons.mp h
    rw [gather_cons, gather_cons, hb, ih hbs]

theorem gather_map (g : γ → β) (cs : List γ) : gather f (cs.map g) = gather (f ∘ g) cs := by
  induction cs with
  | nil => rfl
  | cons c cs ih => rw [List.map_cons, gather_cons, gather_cons, ih, Function.comp_apply]

theorem gather_filterMap (g : γ → Option β) (cs : List γ) :
    gather f (cs.filterMap g) = gather (fun c => ((g c).map f).getD (.ok none)) cs := by
  induction cs with
  | nil => rfl
  | cons c cs ih =>
    rw [gather_cons, List.filterMap_cons, ← ih]
    cases g c with
    | none => exact (bind_pure (gather f _)).symm
    | some b => exact gather_cons b _

variable {shape shape' : Nat × Nat} {F F' : Nat × Nat → Except CellError (Option α)}

/-- What is gathered over two shapes is the same where they overlap, and nothing elsewhere. -/
theorem gather_positions_eq
    (hboth : ∀ p, p ∈ positions shape → p ∈ positions shape' → F p = F' p)
    (hF : ∀ p, p ∈ positions shape → p ∉ positions shape' → F p = .ok none)
    (hF' : ∀ p, p ∈ positions shape' → p ∉ positions shape → F' p = .ok none) :
    gather F (positions shape) = gather F' (positions shape') := by
  calc gather F (positions shape)
      = gather F ((positions shape).filter (· ∈ positions shape')) :=
        gather_filter fun p hp hnot => hF p hp (of_decide_eq_false hnot)
    _ = gather F ((positions shape').filter (· ∈ positions shape)) := by
        rw [filter_positions_eq fun p => ?_]
        rw [decide_eq_true_iff, decide_eq_true_iff, and_comm]
    _ = gather F' ((positions shape').filter (· ∈ positions shape)) := by
        refine gather_congr fun p hp => ?_
        obtain ⟨hp', hp⟩ := List.mem_filter.mp hp
        exact hboth p (of_decide_eq_true hp) hp'
    _ = gather F' (positions shape') :=
        (gather_filter fun p hp hnot => hF' p hp (of_decide_eq_false hnot)).symm

end

/-- Whether an array has an element at a position that meets a criterion. -/
def mark (v : Value) (c : Criterion) (p : Nat × Nat) : Bool := (elementAt? v p.1 p.2).any c.isMet

theorem met_eq (shape : Nat × Nat) (v : Value) (c : Criterion) :
    met shape v c = (positions shape).map (mark v c) := by
  rw [met, elementsWithin_eq, List.map_map]
  rfl

/-- The number at a position, if it is marked. -/
def numberWhere (v : Value) (m : Nat × Nat → Bool) (p : Nat × Nat) :
    Except CellError (Option Float) :=
  if m p then collectElement .numbers (v.entry p) else .ok none

theorem selectedNumbers_eq (shape : Nat × Nat) (v : Value) (m : Nat × Nat → Bool) :
    selectedNumbers (selected shape v ((positions shape).map m)) =
      gather (numberWhere v m) (positions shape) := by
  rw [selected, elementsWithin_eq, List.zip_map', List.filterMap_map]
  refine (gather_filterMap _ _).trans (gather_congr fun p _ => ?_)
  rw [Function.comp_apply, numberWhere, Value.entry]
  cases m p with
  | false => rfl
  | true => cases elementAt? v p.1 p.2 <;> rfl

section

variable {v w : Value} (h : v.SameUpToBlanks w) {c : Criterion} {p : Nat × Nat}
include h

theorem mark_eq (hp : p ∈ positions (dimensions v)) (hp' : p ∈ positions (dimensions w)) :
    mark v c p = mark w c p := by
  cases h with
  | refl => rfl
  | arrays h hrows hrows' =>
    rw [mark, mark, hrows.elementAt?_of_mem hp, hrows'.elementAt?_of_mem hp', h]

/-- What one range has beyond the other one meets no criterion that no blank meets. -/
theorem mark_eq_false (hc : c.isMet .blank = false) (hp : p ∈ positions (dimensions v))
    (hp' : p ∉ positions (dimensions w)) : mark v c p = false := by
  have hblank := h.entry_eq_blank hp hp'
  rw [Value.entry] at hblank
  rw [mark]
  cases helement : elementAt? v p.1 p.2 with
  | none => rfl
  | some x =>
    rw [helement, Option.getD_some] at hblank
    rw [hblank]
    exact hc

end

theorem ofValue_eq {v w : Value} (h : v.SameUpToBlanks w) :
    Criterion.ofValue v = Criterion.ofValue w := by cases h <;> rfl

/-- A blank adds no number, so it does not matter where one is selected. -/
theorem selectedNumbers_if_eq {range range' target target' : Value} {c : Criterion}
    (hrange : range.SameUpToBlanks range') (htarget : target.entry = target'.entry)
    (h : target = range ∧ target' = range' ∨ c.isMet .blank = false) :
    selectedNumbers (selected (dimensions range) target (met (dimensions range) range c)) =
      selectedNumbers (selected (dimensions range') target' (met (dimensions range') range' c)) := by
  have hnone {range range' target : Value} (hrange : range.SameUpToBlanks range')
      (h : target = range ∨ c.isMet .blank = false) {p : Nat × Nat}
      (hp : p ∈ positions (dimensions range)) (hp' : p ∉ positions (dimensions range')) :
      numberWhere target (mark range c) p = .ok none := by
    rw [numberWhere]
    rcases h with rfl | hc
    · rw [hrange.entry_eq_blank hp hp']
      exact ite_self _
    · rw [mark_eq_false hrange hc hp hp']
      rfl
  rw [met_eq, met_eq, selectedNumbers_eq, selectedNumbers_eq]
  refine gather_positions_eq (fun p hp hp' => ?_) (fun p => hnone hrange (h.imp_left And.left))
    (fun p => hnone hrange.symm (h.imp_left And.right))
  rw [numberWhere, numberWhere, mark_eq hrange hp hp', htarget]

theorem count_marks_eq {shape shape' : Nat × Nat} {m m' : Nat × Nat → Bool}
    (h : ∀ p, p ∈ positions shape ∧ m p = true ↔ p ∈ positions shape' ∧ m' p = true) :
    ((positions shape).map m).count true = ((positions shape').map m').count true := by
  have hcount (shape : Nat × Nat) (m : Nat × Nat → Bool) :
      ((positions shape).map m).count true = ((positions shape).filter m).length := by
    rw [List.count, List.countP_map, List.countP_eq_length_filter]
    exact congrArg List.length (List.filter_congr fun p _ => by simp)
  rw [hcount, hcount, filter_positions_eq h]

theorem count_met_eq {v w : Value} (h : v.SameUpToBlanks w) {c : Criterion}
    (hc : c.isMet .blank = false) :
    (met (dimensions v) v c).count true = (met (dimensions w) w c).count true := by
  have hmem {v w : Value} (h : v.SameUpToBlanks w) {p : Nat × Nat}
      (hp : p ∈ positions (dimensions v)) (hmark : mark v c p = true) :
      p ∈ positions (dimensions w) ∧ mark w c p = true := by
    have hp' : p ∈ positions (dimensions w) := by
      by_contra hnot
      rw [mark_eq_false h hc hp hnot] at hmark
      cases hmark
    exact ⟨hp', mark_eq h hp hp' ▸ hmark⟩
  rw [met_eq, met_eq]
  exact count_marks_eq fun p => ⟨fun hp => hmem h hp.1 hp.2, fun hp => hmem h.symm hp.1 hp.2⟩

/-- Whether no blank meets the criterion in the second argument. -/
def SkipsBlanks (vs : List Value) : Prop :=
  ∀ c, vs[1]? = some c → (Criterion.ofValue c).isMet .blank = false

section

variable {vs ws : List Value} (h : List.Forall₂ Value.SameUpToBlanks vs ws)
include h

theorem selectedBy_bind_eq {α : Type} (hblank : vs.length = 2 ∨ SkipsBlanks vs)
    (f : List Float → Except CellError α) :
    (selectedBy vs >>= fun selection => selectedNumbers selection >>= f) =
      selectedBy ws >>= fun selection => selectedNumbers selection >>= f := by
  obtain _ | ⟨hrange, _ | ⟨hcriterion, _ | ⟨htarget, _⟩⟩⟩ := h
  · rfl
  · rfl
  · refine congrArg (· >>= f) ?_
    rw [ofValue_eq hcriterion]
    exact selectedNumbers_if_eq hrange hrange.entry_eq (.inl ⟨rfl, rfl⟩)
  · have hskip := (hblank.resolve_left (by simp)) _ rfl
    refine congrArg (· >>= f) ?_
    rw [← ofValue_eq hcriterion]
    exact selectedNumbers_if_eq hrange htarget.entry_eq (.inr hskip)

theorem sumIf_eq (hblank : vs.length = 2 ∨ SkipsBlanks vs) : sumIf vs = sumIf ws :=
  selectedBy_bind_eq h hblank fun xs => pure (Value.number (sum xs))

theorem averageIf_eq (hblank : vs.length = 2 ∨ SkipsBlanks vs) : averageIf vs = averageIf ws :=
  selectedBy_bind_eq h hblank fun xs => do return Value.number (← mean xs)

theorem countIf_eq (hblank : SkipsBlanks vs) : countIf vs = countIf ws := by
  obtain _ | ⟨hrange, _ | ⟨hvalue, hrest⟩⟩ := h
  · rfl
  · rfl
  · have hcount := count_met_eq hrange (hblank _ rfl)
    change Except.ok (count (List.count true (met _ _ (.ofValue _)))) =
      Except.ok (count (List.count true (met _ _ (.ofValue _))))
    rw [← ofValue_eq hvalue, hcount]

end

/-- Ranges that are equal up to blanks with equal criteria. -/
abbrev SamePairs (ps qs : List (Value × Criterion)) : Prop :=
  List.Forall₂ (fun p q => p.1.SameUpToBlanks q.1 ∧ p.2 = q.2) ps qs

theorem rel_criteriaPairs? {vs ws : List Value} (h : List.Forall₂ Value.SameUpToBlanks vs ws) :
    Option.Rel SamePairs (criteriaPairs? vs) (criteriaPairs? ws) := by
  fun_induction criteriaPairs? vs generalizing ws with
  | case1 =>
    cases h
    exact .some .nil
  | case2 =>
    obtain _ | ⟨_, _ | _⟩ := h
    exact .none
  | case3 range c rest ih =>
    obtain _ | ⟨hrange, _ | @⟨_, _, _, rest', hc, hrest⟩⟩ := h
    have hrel := ih hrest
    rw [criteriaPairs?]
    revert hrel
    generalize criteriaPairs? rest = ps, criteriaPairs? rest' = qs
    rintro (hpairs | _)
    · exact .some (.cons ⟨hrange, ofValue_eq hc⟩ hpairs)
    · exact .none

/-- Whether all criteria are met at a position. -/
def marks (ps : List (Value × Criterion)) (p : Nat × Nat) : Bool := ps.all fun q => mark q.1 q.2 p

theorem foldl_zipWith_map {α β : Type} (f : β → α → Bool) (g : α → Bool) (bs : List β)
    (as : List α) : (bs.map fun b => as.map (f b)).foldl (List.zipWith (· && ·)) (as.map g) =
      as.map fun a => g a && bs.all (f · a) := by
  induction bs generalizing g with
  | nil => simp
  | cons b bs ih =>
    rw [List.map_cons, List.foldl_cons, List.zipWith_map, List.zipWith_self, ih]
    simp only [List.all_cons, Bool.and_assoc]

/-- Whether all ranges that criteria stand behind have one shape. -/
def OneShape (shape : Nat × Nat) (vs : List Value) : Prop :=
  ∀ ps, criteriaPairs? vs = some ps → ∀ p ∈ ps, dimensions p.1 = shape

/-- Whether these ranges have the shape of the first argument. -/
def RangesFit (vs pairs : List Value) : Prop :=
  ∀ v, vs[0]? = some v → OneShape (dimensions v) pairs

theorem allMet_eq {shape : Nat × Nat} {vs : List Value} {p : Value × Criterion}
    {ps : List (Value × Criterion)} (hps : criteriaPairs? vs = some (p :: ps))
    (h : OneShape shape vs) : allMet shape vs = .ok ((positions shape).map (marks (p :: ps))) := by
  have hshape : ((p :: ps).any fun q => dimensions q.1 != shape) = false := by
    rw [List.any_eq_false]
    intro q hq
    simp [h _ hps q hq]
  have hreplicate : List.replicate (shape.1 * shape.2) true =
      (positions shape).map fun _ => true := by
    rw [List.map_const', length_positions]
  rw [allMet, hps]
  simp only [hshape, met_eq, hreplicate, foldl_zipWith_map, Bool.true_and]
  rfl

theorem marks_eq {ps qs : List (Value × Criterion)} (h : SamePairs ps qs)
    {shape shape' p : Nat × Nat} (hshape : ∀ p ∈ ps, dimensions p.1 = shape)
    (hshape' : ∀ q ∈ qs, dimensions q.1 = shape') (hp : p ∈ positions shape)
    (hp' : p ∈ positions shape') : marks ps p = marks qs p := by
  induction h with
  | nil => rfl
  | @cons q q' ps qs hq _ ih =>
    obtain ⟨hhead, htail⟩ := List.forall_mem_cons.mp hshape
    obtain ⟨hhead', htail'⟩ := List.forall_mem_cons.mp hshape'
    have hmark : mark q.1 q.2 p = mark q'.1 q'.2 p := by
      rw [← hq.2]
      exact mark_eq hq.1 (hhead ▸ hp) (hhead' ▸ hp')
    have hrest : marks ps p = marks qs p := ih htail htail'
    rw [marks, marks, List.all_cons, List.all_cons, hmark]
    exact congrArg _ hrest

/-- What ranges have beyond others of another shape does not meet all criteria if one of these is met
by no blank. -/
theorem marks_eq_false {ps qs : List (Value × Criterion)} (h : SamePairs ps qs)
    {shape shape' p : Nat × Nat} (hshape : ∀ p ∈ ps, dimensions p.1 = shape)
    (hshape' : ∀ q ∈ qs, dimensions q.1 = shape')
    (hblank : ∃ c ∈ ps.map Prod.snd, c.isMet .blank = false) (hp : p ∈ positions shape)
    (hp' : p ∉ positions shape') : marks ps p = false := by
  induction h with
  | nil =>
    obtain ⟨c, hc, -⟩ := hblank
    cases hc
  | @cons q q' ps qs hq _ ih =>
    obtain ⟨hhead, htail⟩ := List.forall_mem_cons.mp hshape
    obtain ⟨hhead', htail'⟩ := List.forall_mem_cons.mp hshape'
    rw [marks, List.all_cons]
    obtain ⟨c, hc, hmet⟩ := hblank
    rcases List.mem_cons.mp hc with rfl | hc
    · rw [mark_eq_false hq.1 hmet (hhead ▸ hp) (hhead' ▸ hp'), Bool.false_and]
    · have hrest : marks ps p = false := ih htail htail' ⟨c, hc, hmet⟩
      change (mark q.1 q.2 p && marks ps p) = false
      rw [hrest, Bool.and_false]

theorem mem_positions_of_marks {ps qs : List (Value × Criterion)} (h : SamePairs ps qs)
    {shape shape' p : Nat × Nat} (hshape : ∀ p ∈ ps, dimensions p.1 = shape)
    (hshape' : ∀ q ∈ qs, dimensions q.1 = shape')
    (hblank : ∃ c ∈ ps.map Prod.snd, c.isMet .blank = false) (hp : p ∈ positions shape)
    (hmarks : marks ps p = true) : p ∈ positions shape' ∧ marks qs p = true := by
  have hp' : p ∈ positions shape' := by
    by_contra hnot
    rw [marks_eq_false h hshape hshape' hblank hp hnot] at hmarks
    cases hmarks
  exact ⟨hp', marks_eq h hshape hshape' hp hp' ▸ hmarks⟩

section

variable {vs ws : List Value} (h : List.Forall₂ Value.SameUpToBlanks vs ws)
include h

/-- Criteria on ranges of one shape mark the same positions as far as both shapes reach. -/
theorem allMet_cases {shape shape' : Nat × Nat} (hshape : OneShape shape vs)
    (hshape' : OneShape shape' ws) :
    (∃ e, allMet shape vs = .error e ∧ allMet shape' ws = .error e) ∨
      ∃ ps qs, criteriaPairs? vs = some ps ∧ criteriaPairs? ws = some qs ∧ SamePairs ps qs ∧
        allMet shape vs = .ok ((positions shape).map (marks ps)) ∧
        allMet shape' ws = .ok ((positions shape').map (marks qs)) := by
  have hrel := rel_criteriaPairs? h
  cases hps : criteriaPairs? vs with
  | none =>
    rw [hps] at hrel
    cases hqs : criteriaPairs? ws with
    | none => exact .inl ⟨_, by rw [allMet, hps], by rw [allMet, hqs]⟩
    | some qs =>
      rw [hqs] at hrel
      cases hrel
  | some ps =>
    rw [hps] at hrel
    cases hqs : criteriaPairs? ws with
    | none =>
      rw [hqs] at hrel
      cases hrel
    | some qs =>
      rw [hqs] at hrel
      obtain ⟨hpairs⟩ := hrel
      cases hpairs with
      | nil => exact .inl ⟨_, by rw [allMet, hps], by rw [allMet, hqs]⟩
      | cons hq hrest =>
        exact .inr ⟨_, _, rfl, rfl, .cons hq hrest, allMet_eq hps hshape, allMet_eq hqs hshape'⟩

/-- A blank that criteria select adds no number. -/
theorem selectedByAll_bind_eq {α : Type}
    (hshape : RangesFit vs vs.tail) (hshape' : RangesFit ws ws.tail)
    (f : List Float → Except CellError α) :
    (selectedByAll vs >>= fun selection => selectedNumbers selection >>= f) =
      selectedByAll ws >>= fun selection => selectedNumbers selection >>= f := by
  obtain _ | @⟨target, target', rest, rest', htarget, hrest⟩ := h
  · rfl
  have hselected (v : Value) (vs : List Value) : selectedByAll (v :: vs) =
      allMet (dimensions v) vs >>= fun m => .ok (selected (dimensions v) v m) := rfl
  have hone := hshape _ rfl
  have hone' := hshape' _ rfl
  rw [hselected, hselected]
  rcases allMet_cases hrest hone hone' with ⟨e, he, he'⟩ | ⟨ps, qs, hps, hqs, hpairs, hm, hm'⟩
  · rw [he, he']
    rfl
  · rw [hm, hm']
    refine congrArg (· >>= f) ?_
    have hnone {v w : Value} (h : v.SameUpToBlanks w) (m : Nat × Nat → Bool) {p : Nat × Nat}
        (hp : p ∈ positions (dimensions v)) (hp' : p ∉ positions (dimensions w)) :
        numberWhere v m p = .ok none := by
      rw [numberWhere, h.entry_eq_blank hp hp']
      exact ite_self _
    rw [selectedNumbers_eq, selectedNumbers_eq]
    refine gather_positions_eq (fun p hp hp' => ?_) (fun p => hnone htarget _)
      (fun p => hnone htarget.symm _)
    rw [numberWhere, numberWhere, marks_eq hpairs (hone ps hps) (hone' qs hqs) hp hp',
      htarget.entry_eq]

theorem sumIfs_eq (hshape : RangesFit vs vs.tail) (hshape' : RangesFit ws ws.tail) :
    sumIfs vs = sumIfs ws :=
  selectedByAll_bind_eq h hshape hshape' fun xs => pure (Value.number (sum xs))

theorem averageIfs_eq (hshape : RangesFit vs vs.tail) (hshape' : RangesFit ws ws.tail) :
    averageIfs vs = averageIfs ws :=
  selectedByAll_bind_eq h hshape hshape' fun xs => do return Value.number (← mean xs)

/-- One criterion that no blank meets leaves no blanks to count. -/
theorem countIfs_eq (hshape : RangesFit vs vs) (hshape' : RangesFit ws ws)
    (hblank : ∀ ps, criteriaPairs? vs = some ps → ∃ q ∈ ps, q.2.isMet .blank = false) :
    countIfs vs = countIfs ws := by
  have hcons := h
  obtain _ | @⟨range, range', rest, rest', hrange, hrest⟩ := h
  · rfl
  have hcount (v : Value) (vs : List Value) : countIfs (v :: vs) =
      allMet (dimensions v) (v :: vs) >>= fun m => .ok (count (m.count true)) := rfl
  have hone := hshape _ rfl
  have hone' := hshape' _ rfl
  rw [hcount, hcount]
  rcases allMet_cases hcons hone hone' with ⟨e, he, he'⟩ | ⟨ps, qs, hps, hqs, hpairs, hm, hm'⟩
  · rw [he, he']
  · rw [hm, hm']
    have hcriteria : ps.map Prod.snd = qs.map Prod.snd := by
      rw [← List.forall₂_eq_eq_eq, List.forall₂_map_left_iff, List.forall₂_map_right_iff]
      exact hpairs.imp fun _ _ hpq => hpq.2
    have hblanks : ∃ c ∈ ps.map Prod.snd, c.isMet .blank = false := by
      obtain ⟨q, hq, hc⟩ := hblank ps hps
      exact ⟨q.2, List.mem_map_of_mem hq, hc⟩
    have hflip : SamePairs qs ps := hpairs.flip.imp fun _ _ hpq => ⟨hpq.1.symm, hpq.2.symm⟩
    have hmarks := count_marks_eq fun p => ⟨
      fun hp => mem_positions_of_marks hpairs (hone ps hps) (hone' qs hqs) hblanks hp.1 hp.2,
      fun hp => mem_positions_of_marks hflip (hone' qs hqs) (hone ps hps) (hcriteria ▸ hblanks)
        hp.1 hp.2⟩
    exact congrArg (fun n => Except.ok (count n)) hmarks

end

theorem numberPairs_eq {x y x' y' : Value} (hx : x.SameUpToBlanks x') (hy : y.SameUpToBlanks y')
    (hshape : dimensions x = dimensions y) (hshape' : dimensions x' = dimensions y') :
    numberPairs x y = numberPairs x' y' := by
  by_cases heq : dimensions x = dimensions x'
  · rw [hx.eq_of_dimensions heq, hy.eq_of_dimensions (by rw [← hshape, heq, hshape'])]
  · have hne : dimensions y ≠ dimensions y' := by rwa [← hshape, ← hshape']
    have hpairs {x y : Value} (hx : x.Rectangular) (hy : y.Rectangular)
        (h : dimensions x = dimensions y) : numberPairs x y =
          gather (fun p => numberPair (x.entry p, y.entry p)) (positions (dimensions x)) := by
      rw [numberPairs, hx.elements_eq, hy.elements_eq, ← h, List.zip_map']
      simp only [List.length_map, if_true]
      exact gather_map _ _
    obtain ⟨hrect, hrect'⟩ := hx.rectangular heq
    obtain ⟨hrecty, hrecty'⟩ := hy.rectangular hne
    rw [hpairs hrect hrecty hshape, hpairs hrect' hrecty' hshape']
    refine gather_positions_eq (fun p _ _ => by rw [hx.entry_eq, hy.entry_eq])
      (fun p hp hp' => ?_) (fun p hp hp' => ?_)
    · rw [hx.entry_eq_blank hp hp', hy.entry_eq_blank (hshape ▸ hp) (hshape' ▸ hp')]
      rfl
    · rw [hx.symm.entry_eq_blank hp hp', hy.symm.entry_eq_blank (hshape' ▸ hp) (hshape ▸ hp')]
      rfl

/-- Whether two arguments have one shape. -/
def SameShape (i j : Nat) (vs : List Value) : Prop :=
  ∀ v w, vs[i]? = some v → vs[j]? = some w → dimensions v = dimensions w

section

variable {vs ws : List Value} (h : List.Forall₂ Value.SameUpToBlanks vs ws)
include h

theorem moments_eq {i j : Nat} (hshape : SameShape i j vs) (hshape' : SameShape i j ws) :
    moments vs i j = moments ws i j := by
  rw [moments, moments]
  rcases argument_cases h i with ⟨e, he, he'⟩ | ⟨x, x', hx, hx', hvs, hws, hsame⟩
  · rw [he, he']
    rfl
  rcases argument_cases h j with ⟨e, he, he'⟩ | ⟨y, y', hy, hy', hvs', hws', hsame'⟩
  · rw [he, he', hx, hx']
    rfl
  · rw [hx, hx', hy, hy']
    have hpairs := numberPairs_eq hsame hsame' (hshape x y hvs hvs') (hshape' x' y' hws hws')
    exact congrArg (· >>= Moments.ofPairs) hpairs

theorem correlation_eq (hshape : SameShape 0 1 vs) (hshape' : SameShape 0 1 ws) :
    correlation vs = correlation ws := by
  rw [correlation, correlation, moments_eq h hshape hshape']

theorem slope_eq (hshape : SameShape 1 0 vs) (hshape' : SameShape 1 0 ws) : slope vs = slope ws := by
  rw [slope, slope, moments_eq h hshape hshape']

theorem intercept_eq (hshape : SameShape 1 0 vs) (hshape' : SameShape 1 0 ws) :
    intercept vs = intercept ws := by
  rw [intercept, intercept, moments_eq h hshape hshape']

theorem determination_eq (hshape : SameShape 1 0 vs) (hshape' : SameShape 1 0 ws) :
    determination vs = determination ws := by
  rw [determination, determination, moments_eq h hshape hshape']

theorem forecast_eq (hshape : SameShape 2 1 vs) (hshape' : SameShape 2 1 ws) :
    forecast vs = forecast ws := by
  rw [forecast, forecast, numberArg_eq h, moments_eq h hshape hshape']

end

/-- Blanks behind other values in a list. -/
theorem eq_append_blanks {xs ys : List Value}
    (h : ∀ i : Nat, xs[i]?.getD Value.blank = ys[i]?.getD Value.blank) (hlength : xs.length ≤ ys.length) :
    ys = xs ++ List.replicate (ys.length - xs.length) .blank := by
  refine List.ext_getElem (by simp; omega) fun i hi _ => ?_
  have hget := h i
  rw [List.getElem?_eq_getElem hi, Option.getD_some] at hget
  rw [List.getElem_append]
  split
  · rename_i hlt
    rw [← hget, List.getElem?_eq_getElem hlt, Option.getD_some]
  · rename_i hge
    rw [← hget, List.getElem?_eq_none (Nat.le_of_not_lt hge), List.getElem_replicate,
      Option.getD_none]

theorem findNearest_append_blanks {within : Ordering → Bool} {v : Value} (hv : v.isBlank = false)
    (best : Option Nat) (position : Nat) (keys : List Value) (n : Nat) :
    findNearest within v best position (keys ++ List.replicate n .blank) =
      findNearest within v best position keys := by
  induction keys generalizing best position with
  | nil =>
    rw [List.nil_append]
    have htype : (Value.typeName .blank != v.typeName) = true := by
      cases v with
      | blank => cases hv
      | _ => rfl
    induction n generalizing position with
    | zero => rfl
    | succ n ih =>
      rw [List.replicate_succ]
      simp only [findNearest, htype, if_true, ih]
  | cons key keys ih =>
    rw [List.cons_append, findNearest, findNearest]
    simp only [ih]

/-- A value that is not blank is found where it is whatever blanks stand behind. -/
theorem position_eq {v : Value} (hv : v.isBlank = false) (mode : MatchMode) {keys keys' : List Value}
    (h : ∀ i : Nat, keys[i]?.getD Value.blank = keys'[i]?.getD Value.blank) :
    position mode v keys = position mode v keys' := by
  have happend (keys : List Value) (n : Nat) :
      position mode v (keys ++ List.replicate n .blank) = position mode v keys := by
    rw [position, position]
    cases mode with
    | exact =>
      have hnot : isExactMatch v .blank = false := by cases v <;> rfl
      simp [findPosition, hnot]
    | _ => rw [findPosition, findPosition, findNearest_append_blanks hv]
  rcases Nat.le_total keys.length keys'.length with hlength | hlength
  · rw [eq_append_blanks h hlength, happend]
  · rw [eq_append_blanks (fun i => (h i).symm) hlength, happend]

theorem getElem?_headD_toRows (v : Value) (j : Nat) :
    (v.toRows.headD [])[j]?.getD .blank = v.entry (0, j) := by
  rw [Value.entry, elementAt?]
  cases v.toRows <;> rfl

theorem getElem?_filterMap_head? {α : Type} {rows : List (List α)} {width : Nat}
    (h : ∀ row ∈ rows, row.length = width) (i : Nat) :
    (rows.filterMap List.head?)[i]? = rows[i]?.bind List.head? := by
  induction rows generalizing i with
  | nil => rfl
  | cons row rows ih =>
    obtain ⟨hrow, hrows⟩ := List.forall_mem_cons.mp h
    rw [List.filterMap_cons]
    cases row with
    | nil =>
      have hempty (row : List α) (hmem : row ∈ rows) : row.head? = none := by
        rw [List.head?_eq_none_iff, ← List.length_eq_zero_iff, hrows row hmem, ← hrow]
        rfl
      rw [List.head?_nil, List.filterMap_eq_nil_iff.mpr hempty]
      cases i with
      | zero => rfl
      | succ i =>
        rw [List.getElem?_cons_succ, List.getElem?_nil]
        cases hget : rows[i]? with
        | none => rfl
        | some row => exact (hempty row (List.mem_of_getElem? hget)).symm
    | cons a row =>
      cases i with
      | zero => rfl
      | succ i => exact ih hrows i

theorem flatten_eq_filterMap_head? {α : Type} {rows : List (List α)}
    (h : ∀ row ∈ rows, row.length ≤ 1) : rows.flatten = rows.filterMap List.head? := by
  induction rows with
  | nil => rfl
  | cons row rows ih =>
    obtain ⟨hrow, hrows⟩ := List.forall_mem_cons.mp h
    rw [List.flatten_cons, List.filterMap_cons, ih hrows]
    match row, hrow with
    | [], _ => rfl
    | [a], _ => rfl

section

variable {v w : Value} (h : v.SameUpToBlanks w)
include h

theorem firstRow_eq (j : Nat) :
    (v.toRows.headD [])[j]?.getD Value.blank = (w.toRows.headD [])[j]?.getD Value.blank := by
  rw [getElem?_headD_toRows, getElem?_headD_toRows, h.entry_eq]

theorem firstColumn_eq (i : Nat) : (v.toRows.filterMap List.head?)[i]?.getD Value.blank =
    (w.toRows.filterMap List.head?)[i]?.getD Value.blank := by
  cases h with
  | refl => rfl
  | arrays h hrows hrows' =>
    have hcolumn {v : Value} (hrect : v.Rectangular) :
        (v.toRows.filterMap List.head?)[i]?.getD Value.blank = v.entry (i, 0) := by
      rw [getElem?_filterMap_head? fun _ => hrect.length_row, Value.entry, elementAt?]
      simp only [List.head?_eq_getElem?]
    rw [hcolumn hrows, hcolumn hrows', h]

/-- Whether two arrays are single columns or single rows. -/
def Lines (v w : Value) : Prop :=
  ((dimensions v).2 ≤ 1 ∧ (dimensions w).2 ≤ 1) ∨ ((dimensions v).1 ≤ 1 ∧ (dimensions w).1 ≤ 1)

theorem elements_line_eq (hlines : Lines v w) (i : Nat) :
    (elements v)[i]?.getD Value.blank = (elements w)[i]?.getD Value.blank := by
  rcases hlines with ⟨hcol, hcol'⟩ | ⟨hrow, hrow'⟩
  · by_cases heq : dimensions v = dimensions w
    · rw [h.eq_of_dimensions heq]
    · obtain ⟨hrect, hrect'⟩ := h.rectangular heq
      have hshort {v : Value} (hrect : v.Rectangular) (hcol : (dimensions v).2 ≤ 1) :
          elements v = v.toRows.filterMap List.head? :=
        flatten_eq_filterMap_head? fun row hrow => hrect.length_row hrow ▸ hcol
      rw [hshort hrect hcol, hshort hrect' hcol', firstColumn_eq h]
  · have hshort {v : Value} (hrow : (dimensions v).1 ≤ 1) : elements v = v.toRows.headD [] := by
      cases hrows : v.toRows with
      | nil =>
        rw [elements, hrows]
        rfl
      | cons row rows =>
        have hrest : rows = [] := by simpa [dimensions, hrows] using hrow
        rw [elements, hrows, hrest]
        exact List.append_nil row
    rw [hshort hrow, hshort hrow', firstRow_eq h]

end

/-- Whether the value that is looked for is single and not blank. -/
def Sought (vs : List Value) : Prop :=
  ∀ v, vs[0]? = some v → v.isArray = false ∧ v.isBlank = false

/-- Whether `INDEX` selects one element of an array. -/
def Selects (vs : List Value) (v : Value) (p : Nat × Nat) : Prop :=
  indexPosition vs (dimensions v).1 (dimensions v).2 = .ok ((p.1 : Int) + 1, (p.2 : Int) + 1) ∧
    p ∈ positions (dimensions v)

theorem index_eq_entry {vs : List Value} {v : Value} {p : Nat × Nat}
    (hv : argument vs 0 = .ok v) (h : Selects vs v p) : index vs = .ok (v.entry p) := by
  obtain ⟨row, col⟩ := p
  obtain ⟨hposition, hmem⟩ := h
  obtain ⟨hrow, hcol⟩ := mem_positions.mp hmem
  simp only [dimensions] at hposition hrow hcol
  have hsize : ¬(v.toRows.length = 0 ∨ (v.toRows.headD []).length = 0) := by omega
  have hnegative : ¬((row : Int) + 1 < 0 ∨ (col : Int) + 1 < 0) := by omega
  have hbeyond : ¬((v.toRows.length : Int) < row + 1 ∨
      ((v.toRows.headD []).length : Int) < col + 1) := by omega
  simp only [index, hv, hposition, dimensions, bind, Except.bind, if_neg hsize, if_neg hnegative]
  exact if_neg hbeyond

section

variable {vs ws : List Value} (h : List.Forall₂ Value.SameUpToBlanks vs ws)
include h

theorem lookupMode_eq : lookupMode vs = lookupMode ws := by
  rw [lookupMode, lookupMode, optBool, optBool,
    optional_eq h (fun _ _ hvw => hvw.toBool_eq)]

/-- A lookup sees what it looks for as it is, and its table up to blanks. -/
theorem sought_bind_eq {f g : Value → Value → Answer} (hsought : Sought vs)
    (hfg : ∀ v t t', v.isBlank = false → vs[1]? = some t → ws[1]? = some t' →
      t.SameUpToBlanks t' → f v t = g v t') :
    (argument vs 0 >>= fun v => argument vs 1 >>= fun t => f v t) =
      argument ws 0 >>= fun v => argument ws 1 >>= fun t => g v t := by
  rcases argument_cases h 0 with ⟨e, he, he'⟩ | ⟨v, v', hv, hv', hvs, -, hsame⟩
  · rw [he, he']
    rfl
  obtain ⟨hsingle, hblank⟩ := hsought v hvs
  obtain rfl := hsame.eq_of_single hsingle
  rw [hv, hv']
  rcases argument_cases h 1 with ⟨e, he, he'⟩ | ⟨t, t', ht, ht', hts, hts', htable⟩
  · rw [he, he']
    rfl
  · rw [ht, ht']
    exact hfg v t t' hblank hts hts' htable

theorem verticalLookup_eq (hsought : Sought vs)
    (hoffset : ∀ v w, vs[1]? = some v → ws[1]? = some w →
      tableOffset vs 2 (dimensions v).2 = tableOffset ws 2 (dimensions w).2) :
    verticalLookup vs = verticalLookup ws := by
  refine sought_bind_eq h hsought fun v t t' hblank ht ht' htable => ?_
  rw [hoffset t t' ht ht', lookupMode_eq h]
  refine bind_congr fun col => bind_congr fun mode => ?_
  rw [position_eq hblank mode (firstColumn_eq htable)]
  exact bind_congr fun row => congrArg Except.ok (congrFun htable.entry_eq (row, col))

theorem horizontalLookup_eq (hsought : Sought vs)
    (hoffset : ∀ v w, vs[1]? = some v → ws[1]? = some w →
      tableOffset vs 2 (dimensions v).1 = tableOffset ws 2 (dimensions w).1) :
    horizontalLookup vs = horizontalLookup ws := by
  refine sought_bind_eq h hsought fun v t t' hblank ht ht' htable => ?_
  rw [hoffset t t' ht ht', lookupMode_eq h]
  refine bind_congr fun row => bind_congr fun mode => ?_
  rw [position_eq hblank mode (firstRow_eq htable)]
  exact bind_congr fun col => congrArg Except.ok (congrFun htable.entry_eq (row, col))

theorem matchPosition_eq (hsought : Sought vs)
    (hlines : ∀ v w, vs[1]? = some v → ws[1]? = some w → Lines v w) :
    matchPosition vs = matchPosition ws := by
  refine sought_bind_eq h hsought fun v t t' hblank ht ht' htable => ?_
  have hline := hlines t t' ht ht'
  have hnot : ¬(1 < (dimensions t).1 ∧ 1 < (dimensions t).2) := by
    have := hline.imp And.left And.left
    omega
  have hnot' : ¬(1 < (dimensions t').1 ∧ 1 < (dimensions t').2) := by
    have := hline.imp And.right And.right
    omega
  simp only [if_neg hnot, if_neg hnot']
  rw [optInt, optInt, optNumber_eq h]
  refine bind_congr fun type => ?_
  rw [position_eq hblank _ (elements_line_eq htable hline)]

theorem index_eq (hselects : ∀ v w, vs[0]? = some v → ws[0]? = some w →
    ∃ p, Selects vs v p ∧ Selects ws w p) : index vs = index ws := by
  rcases argument_cases h 0 with ⟨e, he, he'⟩ | ⟨v, w, hv, hw, hvs, hws, hsame⟩
  · rw [index, index, he, he']
    rfl
  obtain ⟨p, hp, hp'⟩ := hselects v w hvs hws
  rw [index_eq_entry hv hp, index_eq_entry hw hp', hsame.entry_eq]

end

/-- A part of a joined text, unless it is empty. -/
def textPart (v : Value) : Except CellError (Option String) := do
  let t ← v.toText
  return if t.isEmpty then none else some t

theorem gather_textPart (vs : List Value) :
    gather textPart vs = do return (← vs.mapM Value.toText).filter fun t => !t.isEmpty := by
  induction vs with
  | nil => rfl
  | cons v vs ih =>
    rw [gather_cons, ih, textPart, List.mapM_cons]
    simp only [bind_assoc, pure_bind]
    refine bind_congr fun t => bind_congr fun ts => ?_
    rw [List.filter_cons]
    cases t.isEmpty <;> rfl

section

variable {vs ws : List Value} (h : List.Forall₂ Value.SameUpToBlanks vs ws)
include h

theorem boolArg_eq (i : Nat) : boolArg vs i = boolArg ws i :=
  argument_bind_eq h (fun _ _ hvw => hvw.toBool_eq) i

theorem textArg_eq (i : Nat) : textArg vs i = textArg ws i :=
  argument_bind_eq h (fun _ _ hvw => hvw.toText_eq) i

/-- The text of a blank is empty. -/
theorem textJoin_eq (hignore : boolArg vs 1 = .ok true) : textJoin vs = textJoin ws := by
  have hjoin {vs : List Value} (hignore : boolArg vs 1 = .ok true) : textJoin vs =
      textArg vs 0 >>= fun delimiter => gather textPart ((vs.drop 2).flatMap elements) >>=
        fun parts => .ok (.text (delimiter.intercalate parts)) := by
    rw [textJoin, hignore, gather_textPart]
    simp only [bind_assoc, pure_bind]
    rfl
  rw [hjoin hignore, hjoin (boolArg_eq h 1 ▸ hignore), textArg_eq h, gather_present rfl,
    gather_present rfl (List.flatMap _ (ws.drop 2)), present_flatMap_eq (List.forall₂_drop 2 h)]

end

/-- When a function gives one answer to arguments that are equal up to blanks. The size of an array and
the number of its blanks show in any case in some functions, and in others unless a criterion excludes
blanks, shapes agree with one another, or a position lies in both arrays. -/
def OverlooksBlanks (name : String) (vs ws : List Value) : Prop :=
  match name with
  | "ROWS" | "COLUMNS" | "COUNTBLANK" | "SUMPRODUCT" | "LINEST" => False
  | "TEXTJOIN" => boolArg vs 1 = .ok true
  | "SUMIF" | "AVERAGEIF" => vs.length = 2 ∨ SkipsBlanks vs
  | "COUNTIF" => SkipsBlanks vs
  | "SUMIFS" | "AVERAGEIFS" => RangesFit vs vs.tail ∧ RangesFit ws ws.tail
  | "COUNTIFS" => RangesFit vs vs ∧ RangesFit ws ws ∧
      ∀ ps, criteriaPairs? vs = some ps → ∃ p ∈ ps, p.2.isMet .blank = false
  | "CORREL" | "PEARSON" => SameShape 0 1 vs ∧ SameShape 0 1 ws
  | "SLOPE" | "INTERCEPT" | "RSQ" => SameShape 1 0 vs ∧ SameShape 1 0 ws
  | "FORECAST" | "FORECAST.LINEAR" => SameShape 2 1 vs ∧ SameShape 2 1 ws
  | "VLOOKUP" => Sought vs ∧ ∀ v w, vs[1]? = some v → ws[1]? = some w →
      tableOffset vs 2 (dimensions v).2 = tableOffset ws 2 (dimensions w).2
  | "HLOOKUP" => Sought vs ∧ ∀ v w, vs[1]? = some v → ws[1]? = some w →
      tableOffset vs 2 (dimensions v).1 = tableOffset ws 2 (dimensions w).1
  | "MATCH" => Sought vs ∧ ∀ v w, vs[1]? = some v → ws[1]? = some w → Lines v w
  | "INDEX" => ∀ v w, vs[0]? = some v → ws[0]? = some w → ∃ p, Selects vs v p ∧ Selects ws w p
  | _ => True

set_option maxRecDepth 1000 in
/-- Arguments that are equal up to blanks give one answer. -/
theorem answer_eq_of_mem : ∀ f ∈ unsorted, ∀ g, f.implementation = .eager g →
    (∀ p ∈ f.parameters, p.kind ≠ .array) ∨
      ∀ vs ws, List.Forall₂ Value.SameUpToBlanks vs ws → OverlooksBlanks f.name vs ws →
        g vs = g ws := by
  simp only [unsorted, aggregationFunctions, lookupFunctions, logicalFunctions,
    informationFunctions, dateFunctions, financialFunctions, textFunctions, mathFunctions,
    statisticalFunctions, List.cons_append, List.nil_append, List.forall_mem_cons]
  and_intros
  all_goals try rintro g ⟨⟩
  all_goals first
    | exact .inl (by decide)
    | refine .inr fun vs ws h hover => ?_
  all_goals first
    | exact hover.elim
    | exact disregards_aggregate _ _ h
    | exact disregards_countNumbers h
    | exact disregards_countPresent h
    | exact disregards_kth _ h
    | exact disregards_netWorkdays h
    | exact disregards_workday h
    | exact disregards_netPresentValue h
    | exact disregards_internalRate h
    | exact disregards_percentile _ h
    | exact disregards_quartile _ _ _ h
    | exact disregards_concat h
    | exact disregards_logical _ h
    | exact textJoin_eq h hover
    | exact sumIf_eq h hover
    | exact averageIf_eq h hover
    | exact countIf_eq h hover
    | exact sumIfs_eq h hover.1 hover.2
    | exact averageIfs_eq h hover.1 hover.2
    | exact countIfs_eq h hover.1 hover.2.1 hover.2.2
    | exact verticalLookup_eq h hover.1 hover.2
    | exact horizontalLookup_eq h hover.1 hover.2
    | exact matchPosition_eq h hover.1 hover.2
    | exact index_eq h hover
    | exact correlation_eq h hover.1 hover.2
    | exact slope_eq h hover.1 hover.2
    | exact intercept_eq h hover.1 hover.2
    | exact determination_eq h hover.1 hover.2
    | exact forecast_eq h hover.1 hover.2

end Function

end Spreadsheet
