import Mathlib.Data.List.Forall2
import Spreadsheet.Proofs.Function.Call
import Spreadsheet.Proofs.Function.Library

/-! Two evaluations side by side. A relation between values that tells only arrays apart is kept by
every function that evaluates its own arguments: such a function sees nothing of an array. -/

namespace Spreadsheet

/-- What a limit on depth may do when two evaluations run side by side: end neither, end both
alike, or end the first one early. -/
inductive Cutoff where
  | never
  | alike
  | early

/-- The second evaluation gives a related result wherever the first one gives a result. -/
inductive Follows (c : Cutoff) {α β : Type} (V : α → β → Prop) :
    Except DepthExceeded α → Except DepthExceeded β → Prop
  | ok {a : α} {b : β} (h : V a b) : Follows c V (.ok a) (.ok b)
  | alike (h : c = .alike) (x : DepthExceeded) : Follows c V (.error x) (.error x)
  | early (h : c = .early) (x : DepthExceeded) (r : Except DepthExceeded β) :
    Follows c V (.error x) r

namespace Follows

variable {α β γ δ : Type} {c : Cutoff} {V : α → β → Prop} {W : γ → δ → Prop}
  {r : Except DepthExceeded α} {r' : Except DepthExceeded β}

theorem bind_of_eq {f : α → Except DepthExceeded γ} {g : β → Except DepthExceeded δ}
    (h : Follows c V r r')
    (hfg : ∀ a b, r = .ok a → r' = .ok b → V a b → Follows c W (f a) (g b)) :
    Follows c W (r >>= f) (r' >>= g) := by
  cases h with
  | ok hab => exact hfg _ _ rfl rfl hab
  | alike hc x => exact .alike hc x
  | early hc x => exact .early hc x _

theorem bind {f : α → Except DepthExceeded γ} {g : β → Except DepthExceeded δ}
    (h : Follows c V r r') (hfg : ∀ a b, V a b → Follows c W (f a) (g b)) :
    Follows c W (r >>= f) (r' >>= g) :=
  h.bind_of_eq fun a b _ _ => hfg a b

theorem of_ok {a : α} {b : β} (h : Follows c V r r') (ha : r = .ok a) (hb : r' = .ok b) :
    V a b := by
  subst ha hb
  cases h with
  | ok hab => exact hab

theorem alike_rfl {V : α → α → Prop} (hV : ∀ a, V a a) (r : Except DepthExceeded α) :
    Follows .alike V r r := by
  cases r with
  | ok a => exact .ok (hV a)
  | error x => exact .alike rfl x

theorem eq_of_alike {r r' : Except DepthExceeded α} (h : Follows .alike Eq r r') : r = r' := by
  cases h with
  | ok hab => exact congrArg Except.ok hab
  | alike => rfl
  | early hc => cases hc

/-- Where no limit ends an evaluation, it gives a value. -/
theorem exists_ok (h : Follows .never V r r') : ∃ a b, r = .ok a ∧ r' = .ok b ∧ V a b := by
  cases h with
  | ok hab => exact ⟨_, _, rfl, rfl, hab⟩
  | alike hc => cases hc
  | early hc => cases hc

end Follows

/-- Two answers with related values or one error. -/
inductive Answers {α β : Type} (V : α → β → Prop) :
    Except CellError α → Except CellError β → Prop
  | ok {a : α} {b : β} (h : V a b) : Answers V (.ok a) (.ok b)
  | error (e : CellError) : Answers V (.error e) (.error e)

theorem Answers.cons {α β : Type} {V : α → β → Prop} {a : α} {b : β}
    {r : Except CellError (List α)} {r' : Except CellError (List β)} (hab : V a b)
    (h : Answers (List.Forall₂ V) r r') :
    Answers (List.Forall₂ V) (r.map (a :: ·)) (r'.map (b :: ·)) := by
  cases h with
  | ok hrest => exact .ok (.cons hab hrest)
  | error e => exact .error e

/-- A relation between values that evaluation can keep: only arrays differ, and single values and
what operators make of related operands are related. -/
structure Similarity (V : Value → Value → Prop) : Prop where
  eq_or_arrays {v w : Value} : V v w → v = w ∨ ∃ rows rows', v = .array rows ∧ w = .array rows'
  single {v : Value} : v.isArray = false →
    (∀ x, v = .number x → Number.isFinite x = true) → V v v
  cell {v : Value} : v.isArray = false → V v v → V (.array [[v]]) (.array [[v]])
  finite {v w : Value} : V v w → V v.finite w.finite
  binary {op : Formula.BinaryOp} {v v' w w' : Value} : V v v' → V w w' →
    V (.ofAnswer (op.apply v w)) (.ofAnswer (op.apply v' w'))
  unary {op : Formula.UnaryOp} {v v' : Value} : V v v' →
    V (.ofAnswer (op.apply v)) (.ofAnswer (op.apply v'))

namespace Similarity

variable {V : Value → Value → Prop} (h : Similarity V)
include h

theorem error (e : CellError) : V (.error e) (.error e) := h.single rfl nofun

theorem blank : V .blank .blank := h.single rfl nofun

theorem boolean (b : Bool) : V (.boolean b) (.boolean b) := h.single rfl nofun

variable {v w v' w' : Value}

theorem toBool_eq (hvw : V v w) : v.toBool = w.toBool := by
  obtain rfl | ⟨rows, rows', rfl, rfl⟩ := h.eq_or_arrays hvw <;> rfl

theorem toNumber_eq (hvw : V v w) : v.toNumber = w.toNumber := by
  obtain rfl | ⟨rows, rows', rfl, rfl⟩ := h.eq_or_arrays hvw <;> rfl

theorem typeName_eq (hvw : V v w) : v.typeName = w.typeName := by
  obtain rfl | ⟨rows, rows', rfl, rfl⟩ := h.eq_or_arrays hvw <;> rfl

/-- An array compares by the rank of its type alone. -/
theorem compare_eq (hvw : V v w) (hvw' : V v' w') : v.compare v' = w.compare w' := by
  obtain rfl | ⟨rows, rows', rfl, rfl⟩ := h.eq_or_arrays hvw <;>
    obtain rfl | ⟨rows₁, rows₁', rfl, rfl⟩ := h.eq_or_arrays hvw'
  · rfl
  · cases v <;> rfl
  · cases v' <;> rfl
  · rfl

theorem eq_of_single (hvw : V v w) (hv : v.isArray = false) : v = w := by
  obtain rfl | ⟨rows, rows', rfl, rfl⟩ := h.eq_or_arrays hvw
  · rfl
  · cases hv

end Similarity

/-- An operand that is an error is the result; any other one goes on. -/
theorem Similarity.follows_operand {V : Value → Value → Prop} (h : Similarity V) {c : Cutoff}
    {v w : Value} {f g : Value → Except DepthExceeded Value} :
    V v w → Follows c V (f v) (g w) →
      Follows c V (match v with | .error e => .ok (.error e) | v => f v)
        (match w with | .error e => .ok (.error e) | w => g w) := by
  intro hvw hfg
  obtain rfl | ⟨rows, rows', rfl, rfl⟩ := h.eq_or_arrays hvw
  · split
    · exact .ok (h.error _)
    · exact hfg
  · exact hfg

theorem rel_getElem? {α β : Type} {R : α → β → Prop} {as : List α} {bs : List β}
    (h : List.Forall₂ R as bs) (i : Nat) : Option.Rel R as[i]? bs[i]? := by
  induction h generalizing i with
  | nil => exact .none
  | cons hab _ ih =>
    cases i with
    | zero => exact .some hab
    | succ i => exact ih i

/-- Arguments with related results. -/
structure Delayed.Follows (c : Cutoff) (V : Value → Value → Prop) (a b : Delayed) : Prop where
  value : Spreadsheet.Follows c V (a.value ()) (b.value ())
  array : Spreadsheet.Follows c V (a.array ()) (b.array ())
  isRange : a.isRange = b.isRange

theorem Delayed.Follows.result {c : Cutoff} {V : Value → Value → Prop} {a b : Delayed}
    (h : a.Follows c V b) : Spreadsheet.Follows c V a.result b.result := by
  rw [Delayed.result, Delayed.result, h.isRange]
  split
  · exact h.array
  · exact h.value

namespace Function

/-- A function that gives related results for arguments with related results. -/
def Uniform (g : List Delayed → Except DepthExceeded Value) : Prop :=
  ∀ ⦃c : Cutoff⦄ ⦃V : Value → Value → Prop⦄ ⦃as bs : List Delayed⦄, Similarity V →
    List.Forall₂ (Delayed.Follows c V) as bs → Follows c V (g as) (g bs)

theorem uniform_firstResult : Uniform firstResult := by
  intro c V as bs hV h
  cases h with
  | nil => exact .ok hV.blank
  | cons ha _ => exact ha.result

theorem uniform_ifThenElse : Uniform ifThenElse := by
  intro c V as bs hV h
  cases h with
  | nil => exact .ok hV.blank
  | cons htest hrest =>
    refine htest.value.bind fun v w hvw => ?_
    rw [condition, hV.toBool_eq hvw]
    split
    · exact .ok (hV.error _)
    · exact uniform_firstResult hV hrest
    · cases hrest with
      | nil => exact .ok (hV.boolean false)
      | cons _ hrest =>
        cases hrest with
        | nil => exact .ok (hV.boolean false)
        | cons hother _ => exact hother.result

theorem uniform_firstTrue : Uniform firstTrue := by
  intro c V as
  fun_induction firstTrue as with
  | case1 test result rest ih =>
    rintro bs hV (_ | ⟨htest, _ | ⟨hresult, hrest⟩⟩)
    refine htest.value.bind fun v w hvw => ?_
    rw [condition, hV.toBool_eq hvw]
    split
    · exact .ok (hV.error _)
    · exact hresult.result
    · exact ih hV hrest
  | case2 as hshort =>
    rintro bs hV (_ | ⟨_, _ | ⟨_, _⟩⟩)
    · exact .ok (hV.error _)
    · exact .ok (hV.error _)
    · exact absurd rfl (hshort _ _ _)

theorem uniform_ifs : Uniform ifs := by
  intro c V as bs hV h
  rw [ifs, ifs, h.length_eq]
  split
  · exact uniform_firstTrue hV h
  · exact .ok (hV.error _)

theorem follows_firstCase {c : Cutoff} {V : Value → Value → Prop} {v v' : Value}
    (hV : Similarity V) (hv : V v v') {as bs : List Delayed}
    (h : List.Forall₂ (Delayed.Follows c V) as bs) :
    Follows c V (firstCase v as) (firstCase v' bs) := by
  fun_induction firstCase v as generalizing bs with
  | case1 test result rest ih =>
    obtain _ | ⟨htest, _ | ⟨hresult, hrest⟩⟩ := h
    refine htest.value.bind fun w w' hw => hV.follows_operand hw ?_
    have hmatches : matchesCase v w = matchesCase v' w' := by
      rw [matchesCase, matchesCase, hV.typeName_eq hv, hV.typeName_eq hw, hV.compare_eq hv hw]
    rw [hmatches]
    split
    · exact hresult.result
    · exact ih hrest
  | case2 other =>
    obtain _ | ⟨hother, _ | _⟩ := h
    exact hother.result
  | case3 =>
    cases h
    exact .ok (hV.error _)

theorem uniform_switch : Uniform switch := by
  intro c V as bs hV h
  cases h with
  | nil => exact .ok (hV.error _)
  | cons ha hcases =>
    exact ha.value.bind fun v w hvw =>
      hV.follows_operand hvw (follows_firstCase hV hvw hcases)

theorem uniform_replaceError (handled : CellError → Bool) : Uniform (replaceError handled) := by
  intro c V as bs hV h
  cases h with
  | nil => exact .ok hV.blank
  | cons ha hrest =>
    refine ha.result.bind fun v w hvw => ?_
    obtain rfl | ⟨rows, rows', rfl, rfl⟩ := hV.eq_or_arrays hvw
    · split
      · split
        · exact uniform_firstResult hV hrest
        · exact .ok (hV.error _)
      · exact .ok hvw
    · exact .ok hvw

/-- A test that does not look into arrays. -/
theorem uniform_test {p : Value → Bool} (hp : ∀ rows rows', p (.array rows) = p (.array rows')) :
    Uniform (test p) := by
  intro c V as bs hV h
  cases h with
  | nil => exact .ok (hV.boolean _)
  | cons ha _ =>
    refine ha.value.bind fun v w hvw => ?_
    obtain rfl | ⟨rows, rows', rfl, rfl⟩ := hV.eq_or_arrays hvw
    · exact .ok (hV.boolean _)
    · rw [hp rows rows']
      exact .ok (hV.boolean _)

theorem isFinite_errorNumber {v : Value} {x : Float} (h : errorNumber v = .number x) :
    Number.isFinite x = true := by
  cases v with
  | error e =>
    obtain rfl : Number.ofNat e.kind.toNat = x := Value.number.inj h
    cases e.kind <;> decide +kernel
  | _ => cases h

theorem isArray_errorNumber (v : Value) : (errorNumber v).isArray = false := by cases v <;> rfl

theorem uniform_errorType : Uniform errorType := by
  intro c V as bs hV h
  cases h with
  | nil => exact .ok (hV.error _)
  | cons ha _ =>
    refine ha.value.bind fun v w hvw => ?_
    obtain rfl | ⟨rows, rows', rfl, rfl⟩ := hV.eq_or_arrays hvw
    · exact .ok (hV.single (isArray_errorNumber v) fun _ => isFinite_errorNumber)
    · exact .ok (hV.error _)

theorem rel_chosen? {R : Delayed → Delayed → Prop} {as bs : List Delayed}
    (h : List.Forall₂ R as bs) (n : Int) : Option.Rel R (chosen? as n) (chosen? bs n) := by
  rw [chosen?, chosen?]
  split
  · exact rel_getElem? h _
  · exact .none

theorem uniform_choose : Uniform choose := by
  intro c V as bs hV h
  cases h with
  | nil => exact .ok hV.blank
  | cons ha hchoices =>
    refine ha.value.bind fun v w hvw => ?_
    rw [hV.toNumber_eq hvw, hchoices.length_eq]
    split
    · exact .ok (hV.error _)
    · rename_i x _
      have hchosen := rel_chosen? hchoices (Number.truncToInt x)
      revert hchosen
      generalize chosen? _ _ = choice, chosen? _ _ = choice'
      rintro (hchoice | _)
      · exact hchoice.result
      · exact .ok (hV.error _)

/-- Only logical, lookup and information functions decide what is evaluated. -/
theorem mem_of_isDelayed {f : Function} (hf : f ∈ all) (h : f.isDelayed = true) :
    f ∈ lookupFunctions ++ logicalFunctions ++ informationFunctions := by
  have heager : (aggregationFunctions ++ dateFunctions ++ financialFunctions ++ textFunctions ++
      mathFunctions ++ statisticalFunctions).all (!·.isDelayed) = true := by rfl
  have hnot : f ∉ aggregationFunctions ++ dateFunctions ++ financialFunctions ++ textFunctions ++
      mathFunctions ++ statisticalFunctions := by
    intro hmem
    have := List.all_eq_true.mp heager f hmem
    simp [h] at this
  rw [mem_all, unsorted] at hf
  simp only [List.mem_append, not_or] at hf hnot ⊢
  obtain ⟨⟨⟨⟨⟨haggregation, hdate⟩, hfinancial⟩, htext⟩, hmath⟩, hstatistical⟩ := hnot
  simp_all

theorem uniform_of_mem {f : Function} (hf : f ∈ all)
    {g : List Delayed → Except DepthExceeded Value} (hg : f.implementation = .delayed g) :
    Uniform g := by
  have hmem := mem_of_isDelayed hf (by rw [isDelayed, hg])
  simp only [lookupFunctions, logicalFunctions, informationFunctions, List.mem_append,
    List.mem_cons, List.not_mem_nil, or_false, or_assoc] at hmem
  repeat' rcases hmem with rfl | hmem
  all_goals cases hg
  · exact uniform_choose
  · exact uniform_ifThenElse
  · exact uniform_ifs
  · exact uniform_switch
  · exact uniform_replaceError _
  · exact uniform_replaceError _
  · exact uniform_test fun _ _ => rfl
  · exact uniform_test fun _ _ => rfl
  · exact uniform_test fun _ _ => rfl
  · exact uniform_test fun _ _ => rfl
  · exact uniform_test fun _ _ => rfl
  · exact uniform_test fun _ _ => rfl
  · exact uniform_test fun _ _ => rfl
  · exact uniform_errorType

section

variable {c : Cutoff} {V : Value → Value → Prop} {as bs : List Delayed}

theorem follows_evalArgument (hV : Similarity V) (f : Function) (index : Nat) {a b : Delayed}
    (h : a.Follows c V b) : Follows c V (f.evalArgument index a) (f.evalArgument index b) := by
  rw [evalArgument, evalArgument]
  split
  · exact h.array
  · refine h.value.bind fun v w hvw => ?_
    obtain rfl | ⟨rows, rows', rfl, rfl⟩ := hV.eq_or_arrays hvw
    · split
      · exact .ok (hV.error _)
      · exact .ok hvw
    · exact .ok (hV.error _)

theorem follows_evalArguments (hV : Similarity V) (f : Function) (index : Nat)
    (h : List.Forall₂ (Delayed.Follows c V) as bs) :
    Follows c (Answers (List.Forall₂ V)) (f.evalArguments index as) (f.evalArguments index bs) := by
  induction h generalizing index with
  | nil => exact .ok (.ok .nil)
  | cons ha _ ih =>
    rw [evalArguments, evalArguments]
    refine (follows_evalArgument hV f index ha).bind fun v w hvw => ?_
    have hrest := (ih (index + 1)).bind (W := Answers (List.Forall₂ V))
      (f := fun r => .ok (r.map (v :: ·))) (g := fun r => .ok (r.map (w :: ·)))
      fun _ _ hr => .ok (hr.cons hvw)
    obtain rfl | ⟨rows, rows', rfl, rfl⟩ := hV.eq_or_arrays hvw
    · split
      · exact .ok (.error _)
      · exact hrest
    · exact hrest

/-- What an eager function must do for a relation: related arguments, none of them an error, give
related results once numbers that are not finite are replaced. -/
def Keeps (V : Value → Value → Prop) (f : Function) (as bs : List Delayed) : Prop :=
  ∀ g vs ws, f.implementation = .eager g → f.evalArguments 0 as = .ok (.ok vs) →
    f.evalArguments 0 bs = .ok (.ok ws) → List.Forall₂ V vs ws →
    V (Value.ofAnswer (g vs)).finite (Value.ofAnswer (g ws)).finite

theorem follows_run (hV : Similarity V) {f : Function} (hf : f ∈ all)
    (h : List.Forall₂ (Delayed.Follows c V) as bs) (hkeeps : f.Keeps V as bs) :
    Follows c V (do return (← f.run as).finite) (do return (← f.run bs).finite) := by
  rw [run, run]
  cases hf' : f.implementation with
  | delayed g => exact (uniform_of_mem hf hf' hV h).bind fun v w hvw => .ok (hV.finite hvw)
  | eager g =>
    have hanswers := follows_evalArguments hV f 0 h
    simp only [bind_assoc, pure_bind]
    refine hanswers.bind_of_eq fun r r' hr hr' hrr' => ?_
    cases hrr' with
    | ok hvs => exact .ok (hkeeps g _ _ hf' hr hr' hvs)
    | error e => exact .ok (hV.finite (hV.error e))

/-- A call keeps a relation that the eager functions keep. -/
theorem follows_call (hV : Similarity V) {o o' : EvaluationOptions} {d : Depth} (name : String)
    (hcheck : Follows c Eq (d.checkCall o) (d.checkCall o'))
    (h : List.Forall₂ (Delayed.Follows c V) as bs)
    (hkeeps : ∀ f, find? name = some f → f.arityError? as.length = none → f.Keeps V as bs) :
    Follows c V (call o d name as) (call o' d name bs) := by
  rw [call_eq, call_eq, ← h.length_eq]
  cases hfind : find? name with
  | none => exact .ok (hV.error _)
  | some f =>
    simp only
    split
    · exact .ok (hV.error _)
    · exact hcheck.bind fun _ _ _ => follows_run hV (mem_of_find? hfind) h (hkeeps f hfind ‹_›)

end

end Function

end Spreadsheet
