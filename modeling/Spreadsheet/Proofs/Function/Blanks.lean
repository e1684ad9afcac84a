import Mathlib.Tactic.ByContra
import Spreadsheet.Proofs.Evaluation.Follows
import Spreadsheet.Proofs.Function.Positions

/-! Blanks in arrays. Functions that only go through the elements of arrays pay no heed to blanks among
them; those that look at positions or sizes do. -/

namespace Spreadsheet

namespace Value

/-- The elements of a value that are not blank. -/
def present (v : Value) : List Value := (Function.elements v).filter fun w => !w.isBlank

/-- Equal values, or rectangular arrays with the same entries, which differ only in how many blanks
they hold behind their other entries. -/
inductive SameUpToBlanks : Value → Value → Prop
  | refl (v : Value) : SameUpToBlanks v v
  | arrays {rows rows' : List (List Value)} (h : (array rows).entry = (array rows').entry)
      (hrows : (array rows).Rectangular) (hrows' : (array rows').Rectangular) :
      SameUpToBlanks (array rows) (array rows')

variable {v w : Value} {p : Nat × Nat}

section

variable (h : v.SameUpToBlanks w)
include h

theorem SameUpToBlanks.symm : w.SameUpToBlanks v := by
  cases h with
  | refl => exact .refl _
  | arrays h hrows hrows' => exact .arrays h.symm hrows' hrows

theorem SameUpToBlanks.entry_eq : v.entry = w.entry := by
  cases h with
  | refl => rfl
  | arrays h => exact h

/-- What one array has beyond the other one is blank. -/
theorem SameUpToBlanks.entry_eq_blank (hp : p ∈ Function.positions (Function.dimensions v))
    (hp' : p ∉ Function.positions (Function.dimensions w)) : v.entry p = .blank := by
  cases h with
  | refl => exact absurd hp hp'
  | arrays h hrows hrows' => exact congrFun h p ▸ hrows'.entry_of_not_mem hp'

theorem SameUpToBlanks.rectangular (hne : Function.dimensions v ≠ Function.dimensions w) :
    v.Rectangular ∧ w.Rectangular := by
  cases h with
  | refl => exact absurd rfl hne
  | arrays h hrows hrows' => exact ⟨hrows, hrows'⟩

theorem SameUpToBlanks.eq_of_dimensions (heq : Function.dimensions v = Function.dimensions w) :
    v = w := by
  cases h with
  | refl => rfl
  | arrays h hrows hrows' =>
    have htoRows := hrows.toRows_eq
    rw [heq, h, ← hrows'.toRows_eq] at htoRows
    exact congrArg array htoRows

/-- Entries that are not blank belong to both arrays. -/
theorem SameUpToBlanks.mem_positions (hp : p ∈ Function.positions (Function.dimensions v))
    (hblank : (v.entry p).isBlank = false) : p ∈ Function.positions (Function.dimensions w) := by
  by_contra hnot
  rw [h.entry_eq_blank hp hnot] at hblank
  cases hblank

theorem SameUpToBlanks.present_eq : v.present = w.present := by
  have hmem (p : Nat × Nat) := h.mem_positions (p := p)
  have hmem' (p : Nat × Nat) := h.symm.mem_positions (p := p)
  cases h with
  | refl => rfl
  | arrays h hrows hrows' =>
    rw [present, present, hrows.elements_eq, hrows'.elements_eq, List.filter_map, List.filter_map, h]
    rw [h] at hmem
    refine congrArg (List.map _) (Function.filter_positions_eq fun p => ?_)
    rw [Function.comp_apply, Bool.not_eq_true']
    exact ⟨fun hp => ⟨hmem p hp.1 hp.2, hp.2⟩, fun hp => ⟨hmem' p hp.1 hp.2, hp.2⟩⟩

theorem SameUpToBlanks.toNumber_eq : v.toNumber = w.toNumber := by cases h <;> rfl

theorem SameUpToBlanks.toBool_eq : v.toBool = w.toBool := by cases h <;> rfl

theorem SameUpToBlanks.toText_eq : v.toText = w.toText := by cases h <;> rfl

theorem SameUpToBlanks.toCell_eq : v.toCell = w.toCell := by cases h <;> rfl

theorem SameUpToBlanks.eq_of_single (hv : v.isArray = false) : v = w := by
  cases h with
  | refl => rfl
  | arrays => cases hv

theorem SameUpToBlanks.finite : v.finite.SameUpToBlanks w.finite := by
  cases h with
  | refl => exact .refl _
  | @arrays rows rows' h hrows hrows' =>
    have hentry : (array rows).finite.entry = (array rows').finite.entry := by
      funext p
      rw [entry_finite, entry_finite, h]
    have hfinite := rectangular_finite hrows
    have hfinite' := rectangular_finite hrows'
    rw [finite_array, finite_array] at hentry
    rw [finite_array] at hfinite hfinite' ⊢
    rw [finite_array]
    exact .arrays hentry hfinite hfinite'

end

end Value

namespace Formula

variable {v w v' w' : Value}

theorem BinaryOp.apply_eq (op : BinaryOp) (h : v.SameUpToBlanks v') (h' : w.SameUpToBlanks w') :
    op.apply v w = op.apply v' w' := by
  have harithmetic (f : Float → Float → Except CellError Float) :
      Value.arithmetic f v w = Value.arithmetic f v' w' := by
    rw [Value.arithmetic, Value.arithmetic, h.toNumber_eq, h'.toNumber_eq]
  have hconcat : Value.concat v w = Value.concat v' w' := by
    rw [Value.concat, Value.concat, h.toText_eq, h'.toText_eq]
  have hcompare (c : Comparison) : Value.compareWith c v w = Value.compareWith c v' w' := by
    cases h with
    | arrays => rfl
    | refl =>
      cases h' with
      | refl => rfl
      | arrays => simp only [Value.compareWith, Value.isArray, Bool.or_true, if_true]
  cases op with
  | concat => exact hconcat
  | add | subtract | multiply | divide | power => exact harithmetic _
  | _ => exact hcompare _

theorem UnaryOp.apply_eq (op : UnaryOp) (h : v.SameUpToBlanks v') : op.apply v = op.apply v' := by
  cases h with
  | refl => rfl
  | arrays => cases op <;> rfl

end Formula

theorem similarity_sameUpToBlanks : Similarity Value.SameUpToBlanks where
  eq_or_arrays h := by
    cases h with
    | refl => exact .inl rfl
    | arrays => exact .inr ⟨_, _, rfl, rfl⟩
  single _ _ := .refl _
  cell _ _ := .refl _
  finite h := h.finite
  binary h h' := Formula.BinaryOp.apply_eq _ h h' ▸ .refl _
  unary h := Formula.UnaryOp.apply_eq _ h ▸ .refl _

namespace Function

/-- A function that gives one answer for arguments that are equal up to blanks. -/
def Disregards (g : List Value → Answer) : Prop :=
  ∀ ⦃vs ws : List Value⦄, List.Forall₂ Value.SameUpToBlanks vs ws → g vs = g ws

theorem mapM_eq_of_forall₂ {α β ε : Type} {f : α → Except ε β} {as bs : List α}
    (h : List.Forall₂ (fun a b => f a = f b) as bs) : as.mapM f = bs.mapM f := by
  induction h with
  | nil => rfl
  | cons hab _ ih => rw [List.mapM_cons, List.mapM_cons, hab, ih]

section

variable {α β : Type} {f : β → Except CellError (Option α)}

/-- What a function gives for some elements of a list. -/
def gather (f : β → Except CellError (Option α)) (bs : List β) : Except CellError (List α) := do
  return (← bs.mapM f).filterMap id

theorem gather_cons (b : β) (bs : List β) :
    gather f (b :: bs) = do
      let x ← f b
      return x.toList ++ (← gather f bs) := by
  rw [gather, gather, List.mapM_cons]
  simp only [bind_assoc, pure_bind]
  refine bind_congr fun x => bind_congr fun xs => ?_
  cases x <;> rfl

/-- Elements from which nothing is gathered can be left out. -/
theorem gather_filter {q : β → Bool} {bs : List β}
    (hf : ∀ b ∈ bs, q b = false → f b = .ok none) : gather f bs = gather f (bs.filter q) := by
  induction bs with
  | nil => rfl
  | cons b bs ih =>
    obtain ⟨hhead, htail⟩ := List.forall_mem_cons.mp hf
    rw [gather_cons, ih htail]
    cases hb : q b with
    | true => rw [List.filter_cons_of_pos hb, gather_cons]
    | false =>
      rw [List.filter_cons_of_neg (ne_true_of_eq_false hb), hhead hb]
      exact bind_pure (gather f _)

theorem gather_present {f : Value → Except CellError (Option α)} (hf : f .blank = .ok none)
    (vs : List Value) : gather f vs = gather f (vs.filter fun v => !v.isBlank) :=
  gather_filter fun v _ hv => by cases v <;> first | exact hf | cases hv

end

section

variable {v w : Value} (h : v.SameUpToBlanks w)
include h

theorem collectArgument_eq (mode : Collect) : collectArgument mode v = collectArgument mode w := by
  have hpresent := h.present_eq
  cases h with
  | refl => rfl
  | arrays =>
    change gather (collectElement mode) _ = gather (collectElement mode) _
    rw [gather_present rfl]
    exact (congrArg (gather _) hpresent).trans (gather_present rfl _).symm

theorem logicalArgument_eq : logicalArgument v = logicalArgument w := by
  have hpresent := h.present_eq
  cases h with
  | refl => rfl
  | arrays =>
    change gather logicalElement _ = gather logicalElement _
    rw [gather_present rfl]
    exact (congrArg (gather _) hpresent).trans (gather_present rfl _).symm

theorem countArgument_eq : countArgument v = countArgument w := by
  have hpresent := h.present_eq
  cases h with
  | refl => rfl
  | arrays =>
    have hcount (rows : List (List Value)) :
        countArgument (.array rows) = (Value.array rows).present.countP isNumber := by
      rw [Value.present, List.countP_filter]
      refine List.countP_congr fun v _ => ?_
      cases v <;> simp [isNumber, Value.isBlank]
    rw [hcount, hcount, hpresent]

theorem dayOf_eq : dayOf v = dayOf w := by cases h <;> rfl

end

section

variable {vs ws : List Value} (h : List.Forall₂ Value.SameUpToBlanks vs ws)
include h

theorem collectNumbers_eq (mode : Collect) : collectNumbers mode vs = collectNumbers mode ws := by
  rw [collectNumbers, collectNumbers,
    mapM_eq_of_forall₂ (h.imp fun _ _ hvw => collectArgument_eq hvw mode)]

theorem argument_cases (i : Nat) :
    (∃ e, argument vs i = .error e ∧ argument ws i = .error e) ∨
      ∃ v w, argument vs i = .ok v ∧ argument ws i = .ok w ∧ vs[i]? = some v ∧ ws[i]? = some w ∧
        v.SameUpToBlanks w := by
  have hrel := rel_getElem? h i
  rw [argument, argument]
  revert hrel
  generalize vs[i]? = v, ws[i]? = w
  rintro (hvw | _)
  · exact .inr ⟨_, _, rfl, rfl, rfl, rfl, hvw⟩
  · exact .inl ⟨_, rfl, rfl⟩

theorem argument_bind_eq {α : Type} {f : Value → Except CellError α}
    (hf : ∀ v w, v.SameUpToBlanks w → f v = f w) (i : Nat) :
    argument vs i >>= f = argument ws i >>= f := by
  rcases argument_cases h i with ⟨e, he, he'⟩ | ⟨v, w, hv, hw, -, -, hvw⟩
  · rw [he, he']
  · rw [hv, hw]
    exact hf v w hvw

theorem numberArg_eq (i : Nat) : numberArg vs i = numberArg ws i :=
  argument_bind_eq h (fun _ _ hvw => hvw.toNumber_eq) i

theorem optional_eq {α : Type} {read : Value → Except CellError α}
    (hread : ∀ v w, v.SameUpToBlanks w → read v = read w) (i : Nat) (default : α) :
    optional read vs i default = optional read ws i default := by
  have hrel := rel_getElem? h i
  rw [optional, optional]
  revert hrel
  generalize vs[i]? = v, ws[i]? = w
  rintro (hvw | _)
  · have hread := hread _ _ hvw
    cases hvw with
    | refl => rfl
    | arrays => exact hread
  · rfl

theorem optNumber_eq (i : Nat) (default : Float) :
    optNumber vs i default = optNumber ws i default :=
  optional_eq h (fun _ _ hvw => hvw.toNumber_eq) i default

theorem dayArg_eq (i : Nat) : dayArg vs i = dayArg ws i := by
  have hrel := rel_getElem? h i
  rw [dayArg, dayArg]
  revert hrel
  generalize vs[i]? = v, ws[i]? = w
  rintro (hvw | _)
  · exact dayOf_eq hvw
  · rfl

theorem holidays_eq (i : Nat) : holidays vs i = holidays ws i := by
  have hrel := rel_getElem? h i
  rw [holidays, holidays]
  revert hrel
  generalize vs[i]? = v, ws[i]? = w
  rintro (hvw | _)
  · exact congrArg (List.mapM dayOf) hvw.present_eq
  · rfl

theorem present_flatMap_eq : (vs.flatMap elements).filter (fun v => !v.isBlank) =
    (ws.flatMap elements).filter fun v => !v.isBlank := by
  rw [List.filter_flatMap, List.filter_flatMap]
  induction h with
  | nil => rfl
  | cons hvw _ ih => exact congrArg₂ (· ++ ·) hvw.present_eq ih

end

theorem disregards_aggregate (mode : Collect) (f : List Float → Except CellError Float) :
    Disregards (aggregate mode f) := by
  intro vs ws h
  rw [aggregate, aggregate, collectNumbers_eq h]

theorem disregards_countNumbers : Disregards countNumbers := by
  intro vs ws h
  have hcount (n : Nat) : vs.foldl (fun n v => n + countArgument v) n =
      ws.foldl (fun n v => n + countArgument v) n := by
    induction h generalizing n with
    | nil => rfl
    | cons hvw _ ih => rw [List.foldl_cons, List.foldl_cons, countArgument_eq hvw, ih]
  rw [countNumbers, countNumbers, hcount]

theorem disregards_countPresent : Disregards countPresent := by
  intro vs ws h
  rw [countPresent, countPresent, List.countP_eq_length_filter, List.countP_eq_length_filter,
    present_flatMap_eq h]

theorem disregards_kth (arrange : List Float → List Float) : Disregards (kth arrange) := by
  intro vs ws h
  rw [kth, kth, collectNumbers_eq (List.forall₂_take 1 h), numberArg_eq h]

theorem disregards_netWorkdays : Disregards netWorkdays := by
  intro vs ws h
  rw [netWorkdays, netWorkdays, dayArg_eq h, dayArg_eq h, holidays_eq h]

theorem disregards_workday : Disregards workday := by
  intro vs ws h
  rw [workday, workday, dayArg_eq h, intArg, intArg, numberArg_eq h, holidays_eq h]

theorem disregards_netPresentValue : Disregards netPresentValue := by
  intro vs ws h
  rw [netPresentValue, netPresentValue, numberArg_eq h,
    collectNumbers_eq (List.drop_one ▸ List.drop_one ▸ List.forall₂_drop 1 h)]

theorem arrayNumbers_eq {v w : Value} (h : v.SameUpToBlanks w) :
    arrayNumbers v = arrayNumbers w :=
  collectNumbers_eq (.cons h .nil) .numbers

theorem disregards_internalRate : Disregards internalRate := by
  intro vs ws h
  rw [internalRate, internalRate, optNumber_eq h]
  exact argument_bind_eq h (fun v w hvw => by rw [arrayNumbers_eq hvw]) 0

theorem sortedNumbers_eq {vs ws : List Value} (h : List.Forall₂ Value.SameUpToBlanks vs ws) :
    sortedNumbers vs = sortedNumbers ws :=
  argument_bind_eq h (fun v w hvw => by rw [arrayNumbers_eq hvw]) 0

theorem disregards_percentile (f : List Float → Float → Except CellError Float) :
    Disregards (percentile f) := by
  intro vs ws h
  rw [percentile, percentile, sortedNumbers_eq h, numberArg_eq h]

theorem disregards_quartile (f : List Float → Float → Except CellError Float)
    (least greatest : Float) : Disregards (quartile f least greatest) := by
  intro vs ws h
  rw [quartile, quartile, sortedNumbers_eq h, wholeArg, wholeArg, numberArg_eq h]

/-- The text of all values, one after the other. -/
def joined (vs : List Value) : Except CellError String := do
  return String.join (← vs.mapM Value.toText)

theorem joined_cons (v : Value) (vs : List Value) :
    joined (v :: vs) = do return (← v.toText) ++ (← joined vs) := by
  rw [joined, joined, List.mapM_cons]
  simp only [bind_assoc, pure_bind, String.join_cons]

/-- A blank has no text. -/
theorem joined_present (vs : List Value) :
    joined vs = joined (vs.filter fun v => !v.isBlank) := by
  induction vs with
  | nil => rfl
  | cons v vs ih =>
    rw [joined_cons, ih]
    cases v with
    | blank =>
      change (joined _ >>= fun t => pure ("" ++ t)) = joined _
      simp only [String.empty_append, bind_pure]
      rfl
    | _ => simp [joined_cons, Value.isBlank]

theorem disregards_concat : Disregards concat := by
  intro vs ws h
  have hconcat (vs : List Value) : concat vs = .text <$> joined (vs.flatMap elements) := by
    rw [concat, joined, map_bind]
    rfl
  rw [hconcat, hconcat, joined_present, joined_present (ws.flatMap elements), present_flatMap_eq h]

theorem disregards_logical (f : List Bool → Bool) : Disregards (logical f) := by
  intro vs ws h
  rw [logical, logical, logicalValues, logicalValues,
    mapM_eq_of_forall₂ (h.imp fun _ _ hvw => logicalArgument_eq hvw)]

end Function

end Spreadsheet
