import Spreadsheet.Proofs.Evaluation.Follows
import Spreadsheet.Proofs.Failure

/-! Arguments that a call does not come to evaluate. A control function evaluates what its choice
needs, an eager function its arguments up to the first error, and all that is left may be anything. -/

namespace Spreadsheet.Function

/-- An argument evaluates to a single value. -/
def HasValue (as : List Delayed) (i : Nat) (v : Value) : Prop :=
  ∃ a, as[i]? = some a ∧ a.value () = .ok v

/-- An argument evaluates to a value as the result of a function. -/
def HasResult (as : List Delayed) (i : Nat) (v : Value) : Prop :=
  ∃ a, as[i]? = some a ∧ a.result = .ok v

/-- The indices of the arguments that a call of a function leaves unevaluated because of the values
of other ones. A test that is an error, or causes one, is neither true nor false. -/
inductive Unreached (f : Function) (as : List Delayed) : Nat → Prop
  | thenBranch {v : Value} (hf : f.name = "IF") (htest : HasValue as 0 v)
      (hv : condition v ≠ .ok true) : Unreached f as 1
  | elseBranch {v : Value} (hf : f.name = "IF") (htest : HasValue as 0 v)
      (hv : condition v ≠ .ok false) : Unreached f as 2
  | untrueTest {v : Value} {k : Nat} (hf : f.name = "IFS") (htest : HasValue as (2 * k) v)
      (hv : condition v ≠ .ok true) : Unreached f as (2 * k + 1)
  | behindTest {v : Value} {k i : Nat} (hf : f.name = "IFS") (htest : HasValue as (2 * k) v)
      (hv : condition v ≠ .ok false) (hi : 2 * k + 1 < i) : Unreached f as i
  | otherCase {v w : Value} {k : Nat} (hf : f.name = "SWITCH") (hv : HasValue as 0 v)
      (hcase : HasValue as (2 * k + 1) w) (hw : matchesCase v w = false) :
      Unreached f as (2 * k + 2)
  | behindCase {v w : Value} {k i : Nat} (hf : f.name = "SWITCH") (hv : HasValue as 0 v)
      (hcase : HasValue as (2 * k + 1) w) (hw : matchesCase v w = true ∨ w.isError = true)
      (hi : 2 * k + 2 < i) : Unreached f as i
  | otherChoice {v : Value} {i : Nat} (hf : f.name = "CHOOSE") (hindex : HasValue as 0 v)
      (hi : 0 < i) (hv : ∀ x, v.toNumber = .ok x → Number.truncToInt x ≠ i) : Unreached f as i
  | noError {v : Value} (hf : f.name = "IFERROR") (hfirst : HasResult as 0 v)
      (hv : v.isError = false) : Unreached f as 1
  | notMissing {v : Value} (hf : f.name = "IFNA") (hfirst : HasResult as 0 v)
      (hv : ∀ e, v = .error e → e.kind ≠ .notAvailable) : Unreached f as 1
  | behindError {a : Delayed} {e : CellError} {i j : Nat} (hf : f.isDelayed = false)
      (ha : as[j]? = some a) (he : f.evalArgument j a = .ok (.error e)) (hi : j < i) :
      Unreached f as i

theorem exists_cons_of_length_eq {α : Type} {a : α} {as bs : List α}
    (h : (a :: as).length = bs.length) : ∃ b bs', bs = b :: bs' ∧ as.length = bs'.length := by
  cases bs with
  | nil => cases h
  | cons b bs => exact ⟨b, bs, rfl, Nat.succ.inj h⟩

theorem nil_or_same_head {α : Type} {as bs : List α} (hlength : as.length = bs.length)
    (hhead : as[0]? = bs[0]?) : as = [] ∧ bs = [] ∨
      ∃ a as' bs', as = a :: as' ∧ bs = a :: bs' ∧ as'.length = bs'.length := by
  cases as with
  | nil => exact .inl ⟨rfl, List.length_eq_zero_iff.mp hlength.symm⟩
  | cons a as =>
    obtain ⟨b, bs, rfl, htail⟩ := exists_cons_of_length_eq hlength
    obtain rfl : a = b := by simpa using hhead
    exact .inr ⟨a, as, bs, rfl, rfl, htail⟩

theorem firstResult_eq (as : List Delayed) :
    firstResult as = (as[0]?.map Delayed.result).getD (.ok .blank) := by
  cases as <;> rfl

theorem HasValue.eq_of_head {a : Delayed} {as : List Delayed} {v w : Value}
    (h : HasValue (a :: as) 0 w) (hv : a.value () = .ok v) : w = v := by
  obtain ⟨_, ⟨⟩, hw⟩ := h
  exact Except.ok.inj (hw.symm.trans hv)

section

variable {as bs : List Delayed}

theorem ifThenElse_cons (a : Delayed) (as : List Delayed) :
    ifThenElse (a :: as) = (do
      match condition (← a.value ()) with
      | .error e => return .error e
      | .ok true => (as[0]?.map Delayed.result).getD (.ok .blank)
      | .ok false => (as[1]?.map Delayed.result).getD (.ok (.boolean false))) := by
  unfold ifThenElse
  rcases as with _ | ⟨_, _ | ⟨_, _⟩⟩ <;> rfl

theorem ifThenElse_congr (hlength : as.length = bs.length)
    (h : ∀ i, (∀ v, HasValue as 0 v → (i = 1 → condition v = .ok true) ∧
      (i = 2 → condition v = .ok false)) → as[i]? = bs[i]?) :
    ifThenElse as = ifThenElse bs := by
  have hhead := h 0 fun _ _ => ⟨nofun, nofun⟩
  obtain ⟨rfl, rfl⟩ | ⟨a, as, bs, rfl, rfl, -⟩ := nil_or_same_head hlength hhead
  · rfl
  · rw [ifThenElse_cons, ifThenElse_cons]
    refine bind_congr_of_ok fun v hv => ?_
    have hrest (i : Nat) (hthen : i = 0 → condition v = .ok true)
        (helse : i = 1 → condition v = .ok false) : as[i]? = bs[i]? := by
      refine h (i + 1) fun w hw => ?_
      rw [hw.eq_of_head hv]
      exact ⟨fun hi => hthen (Nat.succ.inj hi), fun hi => helse (Nat.succ.inj hi)⟩
    cases hcondition : condition v with
    | error e => rfl
    | ok b =>
      cases b with
      | true => simp only [hrest 0 (fun _ => hcondition) nofun]
      | false => simp only [hrest 1 nofun fun _ => hcondition]

/-- Goes through pairs of a test and its result, up to the first test that holds. -/
def firstPair (holds : Delayed → Except DepthExceeded (Except CellError Bool))
    (otherwise : List Delayed → Except DepthExceeded Value) :
    List Delayed → Except DepthExceeded Value
  | test :: result :: rest => do
    match ← holds test with
    | .error e => return .error e
    | .ok true => result.result
    | .ok false => firstPair holds otherwise rest
  | left => otherwise left

section

variable {holds : Delayed → Except DepthExceeded (Except CellError Bool)}

/-- Whether no test makes a search through pairs leave out an index. -/
def OnPath (holds : Delayed → Except DepthExceeded (Except CellError Bool)) (as : List Delayed)
    (i : Nat) : Prop :=
  ∀ k a r, as[2 * k]? = some a → holds a = .ok r →
    (i = 2 * k + 1 → r = .ok true) ∧ (2 * k + 1 < i → r = .ok false)

theorem OnPath.head (as : List Delayed) : OnPath holds as 0 :=
  fun _ _ _ _ _ => ⟨nofun, nofun⟩

theorem OnPath.result {test result : Delayed} {rest : List Delayed}
    (h : holds test = .ok (.ok true)) : OnPath holds (test :: result :: rest) 1 := by
  intro k a r ha hr
  obtain rfl | hk := Nat.eq_zero_or_pos k
  · obtain ⟨⟩ := ha
    cases h.symm.trans hr
    exact ⟨fun _ => rfl, fun hlt => absurd hlt (Nat.lt_irrefl 1)⟩
  · exact ⟨fun heq => by omega, fun hlt => by omega⟩

theorem OnPath.rest {test result : Delayed} {rest : List Delayed} {i : Nat}
    (h : holds test = .ok (.ok false)) (hi : OnPath holds rest i) :
    OnPath holds (test :: result :: rest) (i + 2) := by
  intro k a r ha hr
  cases k with
  | zero =>
    obtain ⟨⟩ := ha
    cases h.symm.trans hr
    exact ⟨fun heq => by omega, fun _ => rfl⟩
  | succ k =>
    have hrest := hi k a r (by simpa [Nat.mul_succ] using ha) hr
    exact ⟨fun heq => hrest.1 (by omega), fun hlt => hrest.2 (by omega)⟩

theorem firstPair_congr {otherwise : List Delayed → Except DepthExceeded Value}
    (hlength : as.length = bs.length) (h : ∀ i, OnPath holds as i → as[i]? = bs[i]?) :
    firstPair holds otherwise as = firstPair holds otherwise bs := by
  -- What is left of both lists agrees wherever the search may still come to.
  fun_induction firstPair holds otherwise as generalizing bs with
  | case1 test result rest ih =>
    obtain ⟨test', tail, rfl, htail⟩ := exists_cons_of_length_eq hlength
    obtain ⟨result', rest', rfl, hrest⟩ := exists_cons_of_length_eq htail
    obtain rfl : test = test' := by simpa using h 0 (.head _)
    rw [firstPair]
    refine bind_congr_of_ok fun r hr => ?_
    cases r with
    | error e => rfl
    | ok b =>
      cases b with
      | true =>
        obtain rfl : result = result' := by simpa using h 1 (.result hr)
        rfl
      | false => exact ih hrest fun i hi => by simpa using h (i + 2) (.rest hr hi)
  | case2 left hshort =>
    have heq : left = bs := by
      rcases left with _ | ⟨a, _ | ⟨b, left⟩⟩
      · exact (List.length_eq_zero_iff.mp hlength.symm).symm
      · obtain ⟨a', tail, rfl, htail⟩ := exists_cons_of_length_eq hlength
        obtain rfl := List.length_eq_zero_iff.mp htail.symm
        simpa using h 0 (.head _)
      · exact absurd rfl (hshort a b left)
    subst heq
    rw [firstPair]
    exact hshort

/-- Whether a test is true. -/
def testHolds (a : Delayed) : Except DepthExceeded (Except CellError Bool) :=
  condition <$> a.value ()

theorem firstTrue_eq (as : List Delayed) :
    firstTrue as = firstPair testHolds (fun _ => .ok noTestTrue) as := by
  fun_induction firstTrue as with
  | case1 test result rest ih =>
    rw [firstPair, ih, testHolds]
    cases test.value () <;> rfl
  | case2 as hshort =>
    rw [firstPair]
    exact hshort

/-- Whether a case matches a value. -/
def caseHolds (v : Value) (a : Delayed) : Except DepthExceeded (Except CellError Bool) := do
  match ← a.value () with
  | .error e => return .error e
  | w => return .ok (matchesCase v w)

theorem exists_caseHolds {v w : Value} {a : Delayed} (h : a.value () = .ok w) :
    ∃ r, caseHolds v a = .ok r ∧ ∀ b, r = .ok b → w.isError = false ∧ matchesCase v w = b := by
  unfold caseHolds
  rw [h]
  cases w with
  | error e => exact ⟨.error e, rfl, fun _ hb => by cases hb⟩
  | _ => exact ⟨.ok _, rfl, fun _ hb => ⟨rfl, Except.ok.inj hb⟩⟩

/-- The default of a list of cases. -/
def defaultCase : List Delayed → Except DepthExceeded Value
  | [other] => other.result
  | _ => .ok noCaseMatches

theorem firstCase_eq (v : Value) (as : List Delayed) :
    firstCase v as = firstPair (caseHolds v) defaultCase as := by
  fun_induction firstCase v as with
  | case1 test result rest ih =>
    rw [firstPair, ih, caseHolds, bind_assoc]
    refine bind_congr_of_ok fun w _ => ?_
    cases w with
    | error e => rfl
    | _ =>
      simp only [pure_bind]
      cases matchesCase v _ <;> rfl
  | case2 other => rfl
  | case3 => rfl

end

theorem ifs_congr (hlength : as.length = bs.length)
    (h : ∀ i, OnPath testHolds as i → as[i]? = bs[i]?) :
    ifs as = ifs bs := by
  rw [ifs, ifs, hlength, firstTrue_eq, firstTrue_eq, firstPair_congr hlength h]

theorem switch_congr (hlength : as.length = bs.length) (hhead : as[0]? = bs[0]?)
    (h : ∀ i, (∀ v, HasValue as 0 v → OnPath (caseHolds v) as.tail i) →
      as[i + 1]? = bs[i + 1]?) : switch as = switch bs := by
  obtain ⟨rfl, rfl⟩ | ⟨a, as, bs, rfl, rfl, htail⟩ := nil_or_same_head hlength hhead
  · rfl
  · unfold switch
    refine bind_congr_of_ok fun v hv => ?_
    have hcases : firstCase v as = firstCase v bs := by
      rw [firstCase_eq, firstCase_eq]
      refine firstPair_congr htail fun i hi => h i fun w hw => ?_
      rw [hw.eq_of_head hv]
      exact hi
    cases v with
    | error e => rfl
    | _ => exact hcases

theorem choose_congr (hlength : as.length = bs.length)
    (h : ∀ i : Nat, (∀ v, HasValue as 0 v → 0 < i →
      ∃ x, v.toNumber = .ok x ∧ Number.truncToInt x = i) → as[i]? = bs[i]?) :
    choose as = choose bs := by
  have hhead := h 0 fun _ _ hi => absurd hi (Nat.lt_irrefl 0)
  obtain ⟨rfl, rfl⟩ | ⟨a, as, bs, rfl, rfl, htail⟩ := nil_or_same_head hlength hhead
  · rfl
  · unfold choose
    refine bind_congr_of_ok fun v hv => ?_
    cases hnumber : v.toNumber with
    | error e => rfl
    | ok x =>
      have hchosen : chosen? as (Number.truncToInt x) = chosen? bs (Number.truncToInt x) := by
        unfold chosen?
        split_ifs with hpos
        · have hn : (Number.truncToInt x).toNat - 1 + 1 = (Number.truncToInt x).toNat := by omega
          have hat := h (Number.truncToInt x).toNat fun w hw _ => ⟨x, by
            rw [hw.eq_of_head hv]
            exact hnumber, by omega⟩
          rwa [← hn] at hat
        · rfl
      simp only [hchosen, htail]

theorem replaceError_congr {handled : CellError → Bool} (hlength : as.length = bs.length)
    (hhead : as[0]? = bs[0]?)
    (h : (∀ v, HasResult as 0 v → ∃ e, v = .error e ∧ handled e = true) → as[1]? = bs[1]?) :
    replaceError handled as = replaceError handled bs := by
  obtain ⟨rfl, rfl⟩ | ⟨a, as, bs, rfl, rfl, -⟩ := nil_or_same_head hlength hhead
  · rfl
  · unfold replaceError
    refine bind_congr_of_ok fun v hv => ?_
    cases v with
    | error e =>
      simp only
      split_ifs with hhandled
      · have hnext : as[0]? = bs[0]? := h fun w hw => by
          obtain ⟨_, ⟨⟩, hw⟩ := hw
          exact ⟨e, Except.ok.inj (hw.symm.trans hv), hhandled⟩
        rw [firstResult_eq, firstResult_eq, hnext]
      · rfl
    | _ => rfl

/-- The values of arguments depend on what each of them, and all before it, evaluate to. -/
theorem evalArguments_congr (f : Function) (index : Nat) (hlength : as.length = bs.length)
    (h : ∀ i a b, as[i]? = some a → bs[i]? = some b →
      (∀ j x e, j < i → as[j]? = some x → f.evalArgument (index + j) x ≠ .ok (.error e)) →
        f.evalArgument (index + i) a = f.evalArgument (index + i) b) :
    f.evalArguments index as = f.evalArguments index bs := by
  induction as generalizing bs index with
  | nil =>
    obtain rfl := List.length_eq_zero_iff.mp hlength.symm
    rfl
  | cons a as ih =>
    obtain ⟨b, bs, rfl, htail⟩ := exists_cons_of_length_eq hlength
    have hhead : f.evalArgument index a = f.evalArgument index b :=
      h 0 a b rfl rfl fun _ _ _ hj => absurd hj (Nat.not_lt_zero _)
    rw [evalArguments, evalArguments, ← hhead]
    refine bind_congr_of_ok fun v hv => ?_
    have hrest (hsingle : ∀ e, v ≠ .error e) :
        f.evalArguments (index + 1) as = f.evalArguments (index + 1) bs := by
      refine ih (index + 1) htail fun i a' b' ha' hb' hbefore => ?_
      have hshift (j : Nat) : index + 1 + j = index + (j + 1) := by omega
      rw [hshift]
      refine h (i + 1) a' b' ha' hb' fun j x e hj hx => ?_
      cases j with
      | zero =>
        obtain ⟨⟩ := hx
        intro he
        exact hsingle e (Except.ok.inj (hv.symm.trans he))
      | succ j =>
        rw [← hshift]
        exact hbefore j x e (Nat.lt_of_succ_lt_succ hj) hx
    cases v with
    | error e => rfl
    | _ => simp only [hrest fun _ => Value.noConfusion]

end

section

variable {f : Function} {as bs : List Delayed} {i : Nat}

/-- The functions that choose among their arguments. -/
def controlNames : List String := ["IF", "IFS", "SWITCH", "CHOOSE", "IFERROR", "IFNA"]

theorem isDelayed_of_control (hf : f ∈ all) (hname : f.name ∈ controlNames) :
    f.isDelayed = true := by
  have hcontrol : unsorted.all (fun f => f.isDelayed ||
      !controlNames.contains f.name) = true := by
    decide +kernel
  have hat := List.all_eq_true.mp hcontrol f (mem_all.mp hf)
  simpa [hname] using hat

/-! ### What is reached, function by function -/

theorem reached_if (hname : f.name = "IF") (hdelayed : f.isDelayed = true)
    (h : ∀ v, HasValue as 0 v → (i = 1 → condition v = .ok true) ∧
      (i = 2 → condition v = .ok false)) : ¬f.Unreached as i := by
  intro hunreached
  cases hunreached with
  | thenBranch _ htest hv => exact hv ((h _ htest).1 rfl)
  | elseBranch _ htest hv => exact hv ((h _ htest).2 rfl)
  | _ => simp_all

theorem reached_ifs (hname : f.name = "IFS") (hdelayed : f.isDelayed = true)
    (h : OnPath testHolds as i) : ¬f.Unreached as i := by
  have hpath {k : Nat} {v : Value} (htest : HasValue as (2 * k) v) :
      (i = 2 * k + 1 → condition v = .ok true) ∧ (2 * k + 1 < i → condition v = .ok false) := by
    obtain ⟨a, ha, hv⟩ := htest
    refine h k a (condition v) ha ?_
    rw [testHolds, hv]
    rfl
  intro hunreached
  cases hunreached with
  | untrueTest _ htest hv => exact hv ((hpath htest).1 rfl)
  | behindTest _ htest hv hi => exact hv ((hpath htest).2 hi)
  | _ => simp_all

theorem reached_switch (hname : f.name = "SWITCH") (hdelayed : f.isDelayed = true)
    (h : ∀ j, i = j + 1 → ∀ v, HasValue as 0 v → OnPath (caseHolds v) as.tail j) :
    ¬f.Unreached as i := by
  have hpath {v w : Value} {j k : Nat} (hi : i = j + 1) (hv : HasValue as 0 v)
      (hcase : HasValue as (2 * k + 1) w) :
      (j = 2 * k + 1 → w.isError = false ∧ matchesCase v w = true) ∧
        (2 * k + 1 < j → w.isError = false ∧ matchesCase v w = false) := by
    obtain ⟨a, ha, hw⟩ := hcase
    obtain ⟨r, hr, hmatches⟩ := exists_caseHolds (v := v) hw
    have hat := h j hi v hv k a r (by rwa [List.getElem?_tail]) hr
    exact ⟨fun hj => hmatches true (hat.1 hj), fun hj => hmatches false (hat.2 hj)⟩
  intro hunreached
  cases hunreached with
  | otherCase _ hv hcase hw =>
    have hmatch := ((hpath rfl hv hcase).1 rfl).2
    simp [hw] at hmatch
  | @behindCase v w k _ _ hv hcase hw hi =>
    obtain ⟨j, rfl⟩ : ∃ j, i = j + 1 := Nat.exists_eq_succ_of_ne_zero (by omega)
    have hmatch := (hpath rfl hv hcase).2 (by omega)
    rcases hw with hw | hw <;> simp [hw] at hmatch
  | _ => simp_all

theorem reached_choose (hname : f.name = "CHOOSE") (hdelayed : f.isDelayed = true)
    (h : ∀ v, HasValue as 0 v → 0 < i → ∃ x, v.toNumber = .ok x ∧ Number.truncToInt x = i) :
    ¬f.Unreached as i := by
  intro hunreached
  cases hunreached with
  | otherChoice _ hindex hi hv =>
    obtain ⟨x, hx, hat⟩ := h _ hindex hi
    exact hv x hx hat
  | _ => simp_all

theorem reached_ifError (hname : f.name = "IFERROR") (hdelayed : f.isDelayed = true)
    (h : i = 1 → ∀ v, HasResult as 0 v → ∃ e, v = .error e) : ¬f.Unreached as i := by
  intro hunreached
  cases hunreached with
  | noError _ hfirst hv =>
    obtain ⟨e, rfl⟩ := h rfl _ hfirst
    cases hv
  | _ => simp_all

theorem reached_ifMissing (hname : f.name = "IFNA") (hdelayed : f.isDelayed = true)
    (h : i = 1 → ∀ v, HasResult as 0 v → ∃ e, v = .error e ∧ e.kind = .notAvailable) :
    ¬f.Unreached as i := by
  intro hunreached
  cases hunreached with
  | notMissing _ hfirst hv =>
    obtain ⟨e, rfl, he⟩ := h rfl _ hfirst
    exact hv e rfl he
  | _ => simp_all

/-- All other functions evaluate their arguments up to the first error. -/
theorem Unreached.eager (h : f.Unreached as i) (hname : f.name ∉ controlNames) :
    f.isDelayed = false ∧
      ∃ j a e, j < i ∧ as[j]? = some a ∧ f.evalArgument j a = .ok (.error e) := by
  cases h with
  | behindError hf ha he hj => exact ⟨hf, _, _, _, hj, ha, he⟩
  | _ => simp_all [controlNames]

theorem reached_eager (hf : f ∈ all) (hdelayed : f.isDelayed = false)
    (h : ∀ j a e, j < i → as[j]? = some a → f.evalArgument j a ≠ .ok (.error e)) :
    ¬f.Unreached as i := by
  intro hunreached
  have hcontrol : f.name ∉ controlNames := fun hname => by
    rw [isDelayed_of_control hf hname] at hdelayed
    cases hdelayed
  obtain ⟨-, j, a, e, hj, ha, he⟩ := hunreached.eager hcontrol
  exact h j a e hj ha he

theorem reached_test (hname : f.name ∉ controlNames) (hdelayed : f.isDelayed = true) :
    ¬f.Unreached as i := by
  intro hunreached
  rw [(hunreached.eager hname).1] at hdelayed
  cases hdelayed

theorem run_congr_of_evalArguments (hdelayed : f.isDelayed = false)
    (hargs : f.evalArguments 0 as = f.evalArguments 0 bs) : f.run as = f.run bs := by
  unfold run
  cases himplementation : f.implementation with
  | delayed g => simp [isDelayed, himplementation] at hdelayed
  | eager g => simp only [hargs]

/-- A function gives one result for all arguments that differ only where it does not come to. -/
theorem run_congr (hf : f ∈ all) (hlength : as.length = bs.length)
    (h : ∀ i, ¬f.Unreached as i → as[i]? = bs[i]?) : f.run as = f.run bs := by
  cases hdelayed : f.isDelayed with
  | false =>
    refine run_congr_of_evalArguments hdelayed
      (f.evalArguments_congr 0 hlength fun i a b ha hb hbefore => ?_)
    have hat := h i (reached_eager hf hdelayed fun j x e hj hx => by
      simpa using hbefore j x e hj hx)
    rw [ha, hb] at hat
    rw [Option.some.inj hat]
  | true =>
    have htest (hname : f.name ∉ controlNames) : f.run as = f.run bs := by
      rw [List.ext_getElem? fun i => h i (reached_test hname hdelayed)]
    have hmem := mem_of_isDelayed hf hdelayed
    simp only [lookupFunctions, logicalFunctions, informationFunctions, List.mem_append,
      List.mem_cons, List.not_mem_nil, or_false, or_assoc] at hmem
    repeat' rcases hmem with rfl | hmem
    all_goals try cases hdelayed
    · exact choose_congr hlength fun i hi => h i (reached_choose rfl rfl hi)
    · exact ifThenElse_congr hlength fun i hi => h i (reached_if rfl rfl hi)
    · exact ifs_congr hlength fun i hi => h i (reached_ifs rfl rfl hi)
    · exact switch_congr hlength (h 0 (reached_switch rfl rfl fun j hj =>
        absurd hj.symm (Nat.succ_ne_zero j))) fun i hi =>
        h (i + 1) (reached_switch rfl rfl fun j hj v hv => by
          cases hj
          exact hi v hv)
    · refine replaceError_congr hlength (h 0 (reached_ifError rfl rfl (absurd · Nat.zero_ne_one))) fun hi =>
        h 1 (reached_ifError rfl rfl fun _ v hv => ?_)
      obtain ⟨e, he, -⟩ := hi v hv
      exact ⟨e, he⟩
    · refine replaceError_congr hlength (h 0 (reached_ifMissing rfl rfl (absurd · Nat.zero_ne_one))) fun hi =>
        h 1 (reached_ifMissing rfl rfl fun _ v hv => ?_)
      obtain ⟨e, he, hmissing⟩ := hi v hv
      exact ⟨e, he, beq_iff_eq.mp hmissing⟩
    all_goals exact htest (by decide)

theorem call_congr {o : EvaluationOptions} {d : Depth} {name : String}
    (hlength : as.length = bs.length)
    (h : ∀ i, (∀ f, find? name = some f → ¬f.Unreached as i) → as[i]? = bs[i]?) :
    call o d name as = call o d name bs := by
  rw [call_eq, call_eq, hlength]
  cases hfind : find? name with
  | none => rfl
  | some f =>
    have hrun : f.run as = f.run bs := run_congr (mem_of_find? hfind) hlength fun i hi =>
      h i fun g hg => by
        obtain rfl := Option.some.inj (hfind.symm.trans hg)
        exact hi
    simp only [hrun]

end

end Spreadsheet.Function
