import Mathlib.Data.List.DropRight
import Spreadsheet.Proofs.Failure
import Spreadsheet.Proofs.Function.Bounds
import Spreadsheet.Proofs.Tool.Catalog

/-! Parameters that must be given. An input that lacks one is rejected, but for a parameter that takes
one argument and stands in front of another one that is given: its argument is then blank. -/

namespace Spreadsheet

open Formula (Expr)

namespace Function

variable {f : Function} {members : List (String × Json)} {args : List Expr}

theorem fixedCount_le (f : Function) : f.fixedCount ≤ f.parameters.length := Nat.sub_le _ _

theorem getElem?_fixedParameters {i : Nat} (hi : i < f.fixedCount) :
    f.fixedParameters[i]? = f.parameters[i]? := List.getElem?_take_of_lt hi

theorem mem_repeatedParameters {i : Nat} {p : Parameter} (hi : f.fixedCount ≤ i)
    (hp : f.parameters[i]? = some p) : p ∈ f.repeatedParameters := by
  refine List.mem_of_getElem? (i := i - f.fixedCount) ?_
  rw [repeatedParameters, List.getElem?_drop, Nat.add_sub_cancel' hi, hp]

theorem mem_requiredNames {name : String} : name ∈ f.requiredNames ↔
    ∃ i p, f.parameters[i]? = some p ∧ p.name = name ∧ f.isRequired i = true := by
  simp only [requiredNames, List.mem_map, List.mem_filter, Prod.exists, List.mk_mem_zipIdx_iff_getElem?]
  constructor
  · rintro ⟨p, i, ⟨hp, hi⟩, hname⟩
    exact ⟨i, p, hp, hname, hi⟩
  · rintro ⟨i, p, hp, hname, hi⟩
    exact ⟨p, i, ⟨hp, hi⟩, hname⟩

theorem isSome_lookup_iff {name : String} :
    (members.lookup name).isSome = true ↔ name ∈ members.map Prod.fst := by
  simp [List.lookup_isSome_iff]

theorem callOf_cases {input : Json} {e : Expr} (h : f.callOf input = .ok e) :
    ∃ members args, input.membersOf = .ok members ∧ f.argumentsOf members = .ok args ∧
      f.arityError? args.length = none ∧ e = .call f.name args := by
  rw [callOf] at h
  obtain ⟨members, hmembers, h⟩ := exists_ok_of_bind h
  split at h
  · cases h
  · obtain ⟨args, hargs, h⟩ := exists_ok_of_bind h
    split at h
    · cases h
    · cases h
      exact ⟨members, args, hmembers, hargs, ‹_›, rfl⟩

/-- The arguments are those for the fixed parameters and in turn those for the repeating ones; without
the latter, they end with the last fixed parameter that is given. -/
theorem argumentsOf_cases (h : f.argumentsOf members = .ok args) :
    ∃ fixed lists, List.Forall₂ (fun p e => fixedArgument members p = .ok e) f.fixedParameters fixed ∧
      f.repeatedLists members = .ok lists ∧
      (inTurn lists = [] ∧ args = fixed.take (f.givenCount members) ∨
        inTurn lists ≠ [] ∧ ∃ further, args = fixed ++ further ∧
          List.Forall₂ (fun v e => v.argument = .ok e) (inTurn lists) further) := by
  rw [argumentsOf] at h
  obtain ⟨fixed, hfixed, h⟩ := exists_ok_of_bind h
  obtain ⟨lists, hlists, h⟩ := exists_ok_of_bind h
  refine ⟨fixed, lists, mapM_eq_ok_iff.mp hfixed, hlists, ?_⟩
  by_cases hempty : (inTurn lists).isEmpty = true
  · simp only [if_pos hempty] at h
    cases h
    exact .inl ⟨List.isEmpty_iff.mp hempty, rfl⟩
  · simp only [if_neg hempty] at h
    obtain ⟨further, hfurther, h⟩ := exists_ok_of_bind h
    cases h
    exact .inr ⟨fun hnil => hempty (List.isEmpty_iff.mpr hnil), further, rfl, mapM_eq_ok_iff.mp hfurther⟩

theorem repeatedLists_cases {lists : List (List Json)} (h : f.repeatedLists members = .ok lists) :
    lists = f.repeatedParameters.map (fun p => Json.repeated (members.lookup p.name)) ∧
      ∀ elements ∈ lists, elements.length = (lists.headD []).length := by
  simp only [repeatedLists] at h
  split at h
  · cases h
  · rename_i heven
    obtain rfl := Except.ok.inj h
    refine ⟨rfl, fun elements helements => ?_⟩
    by_contra hne
    exact heven (List.any_eq_true.mpr ⟨elements, helements, by simpa using hne⟩)

theorem given_of_repeated_ne_nil {name : String} (h : Json.repeated (members.lookup name) ≠ []) :
    name ∈ members.map Prod.fst := by
  rw [← isSome_lookup_iff]
  cases hlookup : members.lookup name with
  | none =>
    rw [hlookup] at h
    exact absurd rfl h
  | some e => rfl

/-- Where there are arguments for repeating parameters, there are such parameters, and each of them is
given. -/
theorem given_of_inTurn {lists : List (List Json)} (h : f.repeatedLists members = .ok lists)
    (hne : inTurn lists ≠ []) : f.repeatedParameters ≠ [] ∧
      ∀ p ∈ f.repeatedParameters, p.name ∈ members.map Prod.fst := by
  obtain ⟨heq, hlengths⟩ := repeatedLists_cases h
  have hrounds : 0 < (lists.headD []).length := by
    by_contra hzero
    rw [inTurn, Nat.eq_zero_of_not_pos hzero] at hne
    exact hne rfl
  constructor
  · intro hnil
    rw [heq, hnil] at hrounds
    exact Nat.lt_irrefl 0 hrounds
  · intro p hp
    have hlist : Json.repeated (members.lookup p.name) ∈ lists := heq ▸ List.mem_map_of_mem hp
    refine given_of_repeated_ne_nil (List.ne_nil_of_length_pos ?_)
    rw [hlengths _ hlist]
    exact hrounds

/-- The last of the fixed parameters that are counted is given. -/
theorem exists_given_of_lt {i : Nat} (hi : i < f.givenCount members) :
    ∃ j q, i ≤ j ∧ f.parameters[j]? = some q ∧ q.name ∈ members.map Prod.fst := by
  let given := f.fixedParameters.rdropWhile fun p => (members.lookup p.name).isNone
  have hlength : given.length = f.givenCount members := List.length_reverse
  have hne : given ≠ [] := List.ne_nil_of_length_pos (by omega)
  have hprefix : given <+: f.parameters :=
    (List.rdropWhile_prefix _ _).trans (List.take_prefix _ _)
  have hlast : f.parameters[given.length - 1]? = some (given.getLast hne) := by
    rw [List.getLast_eq_getElem]
    exact List.prefix_iff_getElem?.mp hprefix _ (by omega)
  refine ⟨given.length - 1, given.getLast hne, by omega, hlast, ?_⟩
  rw [← isSome_lookup_iff]
  simpa using List.rdropWhile_last_not _ _ hne

/-- Whether a parameter with a name takes one argument and stands in front of one that is given. -/
def IsPassedOver (f : Function) (members : List (String × Json)) (name : String) : Prop :=
  ∃ i p j q, i < f.fixedCount ∧ f.parameters[i]? = some p ∧ p.name = name ∧
    i < j ∧ f.parameters[j]? = some q ∧ q.name ∈ members.map Prod.fst

theorem length_fixedParameters (f : Function) : f.fixedParameters.length = f.fixedCount := by
  rw [fixedParameters, List.length_take, Nat.min_eq_left f.fixedCount_le]

theorem getElem?_fixed_of_missing {fixed : List Expr}
    (hfixed : List.Forall₂ (fun p e => fixedArgument members p = .ok e) f.fixedParameters fixed)
    {i : Nat} {p : Parameter} (hp : f.fixedParameters[i]? = some p)
    (hmissing : p.name ∉ members.map Prod.fst) : fixed[i]? = some (.literal .blank) := by
  obtain ⟨hi, rfl⟩ := List.getElem?_eq_some_iff.mp hp
  have hi' : i < fixed.length := hfixed.length_eq ▸ hi
  have hargument := (List.forall₂_iff_get.mp hfixed).2 i hi hi'
  rw [← isSome_lookup_iff, Bool.not_eq_true, Option.isSome_eq_false_iff,
    Option.isNone_iff_eq_none] at hmissing
  simp only [List.get_eq_getElem, fixedArgument, hmissing] at hargument
  rw [List.getElem?_eq_getElem hi', Except.ok.inj hargument]

theorem length_fixed {fixed : List Expr}
    (hfixed : List.Forall₂ (fun p e => fixedArgument members p = .ok e) f.fixedParameters fixed) :
    fixed.length = f.fixedCount := hfixed.length_eq ▸ f.length_fixedParameters

section

variable (h : f.argumentsOf members = .ok args)
include h

/-- An argument for a fixed parameter that is not given is blank. -/
theorem getElem?_of_missing {i : Nat} {p : Parameter} (hi : i < f.fixedCount)
    (hcount : i < args.length) (hp : f.parameters[i]? = some p)
    (hmissing : p.name ∉ members.map Prod.fst) : args[i]? = some (.literal .blank) := by
  obtain ⟨fixed, lists, hfixed, -, hends⟩ := argumentsOf_cases h
  have hblank := getElem?_fixed_of_missing hfixed ((getElem?_fixedParameters hi).trans hp) hmissing
  rcases hends with ⟨-, rfl⟩ | ⟨-, further, rfl, -⟩
  · rw [List.length_take] at hcount
    rw [List.getElem?_take_of_lt (by omega), hblank]
  · rw [List.getElem?_append_left (length_fixed hfixed ▸ hi), hblank]

/-- Where there is an argument for a fixed parameter, this parameter or one behind it is given. -/
theorem exists_given_of_lt_length {i : Nat} (hi : i < f.fixedCount) (hcount : i < args.length) :
    ∃ j q, i ≤ j ∧ f.parameters[j]? = some q ∧ q.name ∈ members.map Prod.fst := by
  obtain ⟨fixed, lists, -, hlists, hends⟩ := argumentsOf_cases h
  rcases hends with ⟨-, rfl⟩ | ⟨hne, -⟩
  · rw [List.length_take] at hcount
    exact exists_given_of_lt (by omega)
  · -- The first repeating parameter is behind all fixed ones.
    obtain ⟨hrepeated, hgiven⟩ := given_of_inTurn hlists hne
    have hsize : f.fixedCount < f.parameters.length := by
      by_contra hle
      exact hrepeated (List.drop_eq_nil_of_le (Nat.le_of_not_lt hle))
    have hq := List.getElem?_eq_getElem hsize
    exact ⟨f.fixedCount, _, Nat.le_of_lt hi, hq, hgiven _ (mem_repeatedParameters (Nat.le_refl _) hq)⟩

/-- More arguments than fixed parameters are there only if the repeating parameters are given. -/
theorem given_of_fixedCount_lt {i : Nat} {p : Parameter} (hcount : f.fixedCount < args.length)
    (hi : f.fixedCount ≤ i) (hp : f.parameters[i]? = some p) : p.name ∈ members.map Prod.fst := by
  obtain ⟨fixed, lists, hfixed, hlists, hends⟩ := argumentsOf_cases h
  rcases hends with ⟨-, rfl⟩ | ⟨hne, -⟩
  · have hlength := length_fixed hfixed
    rw [List.length_take] at hcount
    omega
  · exact (given_of_inTurn hlists hne).2 p (mem_repeatedParameters hi hp)

end

/-- A required parameter that an accepted call lacks is passed over, and its argument blank. -/
theorem isPassedOver_of_callOf {input : Json} {e : Expr} (hmembers : input.membersOf = .ok members)
    (h : f.callOf input = .ok e) {name : String} (hrequired : name ∈ f.requiredNames)
    (hmissing : name ∉ members.map Prod.fst) : f.IsPassedOver members name ∧
      ∃ (args : List Expr) (i : Nat) (p : Parameter), e = .call f.name args ∧
        f.parameters[i]? = some p ∧ p.name = name ∧ args[i]? = some (.literal .blank) := by
  obtain ⟨members', args, hmembers', hargs, harity, rfl⟩ := callOf_cases h
  obtain rfl := Except.ok.inj (hmembers.symm.trans hmembers')
  obtain ⟨i, p, hp, rfl, hi⟩ := mem_requiredNames.mp hrequired
  have hmin := minArgs_le harity
  simp only [isRequired, Bool.or_eq_true, Bool.and_eq_true, decide_eq_true_eq, Nat.lt_min] at hi
  rcases hi with ⟨hcount, hfixed⟩ | ⟨hrepeated, hcount⟩
  · have hlength : i < args.length := Nat.lt_of_lt_of_le hcount hmin
    obtain ⟨j, q, hj, hq, hgiven⟩ := exists_given_of_lt_length hargs hfixed hlength
    have hother : i ≠ j := by
      rintro rfl
      cases hp.symm.trans hq
      exact hmissing hgiven
    exact ⟨⟨i, p, j, q, hfixed, hp, rfl, by omega, hq, hgiven⟩, args, i, p, rfl, hp, rfl,
      getElem?_of_missing hargs hfixed hlength hp hmissing⟩
  · have hlength : f.fixedCount < args.length := Nat.lt_of_lt_of_le hcount hmin
    exact absurd (given_of_fixedCount_lt hargs hlength hrepeated hp) hmissing

end Function

namespace ServiceConfig

open Spreadsheet.Function

/-- A call of a function without one of its required parameters is invalid, unless the parameter is
passed over: it is then blank. -/
theorem callTool_of_missing (c : ServiceConfig) {tool : String} {f : Function}
    (hfind : find? tool = some f) {input : Json} {members : List (String × Json)}
    (hmembers : input.membersOf = .ok members) {name : String} (hrequired : name ∈ f.requiredNames)
    (hmissing : name ∉ members.map Prod.fst) :
    (∃ fault, f.callOf input = .error fault ∧
        c.callTool tool input = .error (.invalidInput f.name fault)) ∨
      f.IsPassedOver members name ∧ ∃ (args : List Expr) (i : Nat) (p : Parameter),
        f.callOf input = .ok (.call f.name args) ∧
          f.parameters[i]? = some p ∧ p.name = name ∧ args[i]? = some (.literal .blank) := by
  rw [c.callTool_of_find? hfind, callFunction]
  cases hcall : f.callOf input with
  | error fault => exact .inl ⟨fault, rfl, rfl⟩
  | ok e =>
    obtain ⟨hover, args, i, p, rfl, hblank⟩ :=
      isPassedOver_of_callOf hmembers hcall hrequired hmissing
    exact .inr ⟨hover, args, i, p, rfl, hblank⟩

/-- `SUMIFS` without criteria. -/
theorem callTool_of_missing_criteria :
    let f := aggregationFunctions[32]
    let members : List (String × Json) := [("sum_range", .text "1")]
    find? "SUMIFS" = some f ∧ (Json.object members).membersOf = .ok members ∧
      "criteria" ∈ f.requiredNames ∧ "criteria" ∉ members.map Prod.fst ∧
      ∃ fault, standard.callTool "SUMIFS" (.object members) = .error (.invalidInput "SUMIFS" fault) := by
  intro f members
  have hfind : find? "SUMIFS" = some f :=
    find?_of_mem (mem_all_of_aggregation (List.getElem_mem _)) (by decide +kernel)
  have hrequired : "criteria" ∈ f.requiredNames := by decide +kernel
  have hmissing : "criteria" ∉ members.map Prod.fst := by decide
  have hmembers : (Json.object members).membersOf = .ok members := rfl
  refine ⟨hfind, hmembers, hrequired, hmissing, ?_⟩
  rcases standard.callTool_of_missing hfind hmembers hrequired hmissing with
    ⟨fault, -, hcall⟩ | ⟨⟨i, p, j, q, hi, hp, hname, -⟩, -⟩
  · exact ⟨fault, hcall⟩
  · -- Only the first parameter of the function takes one argument.
    have hfirst : i = 0 := by
      have hcount : f.fixedCount = 1 := rfl
      omega
    rw [hfirst] at hp
    cases hp
    exact absurd hname (by decide)

/-- `POWER` takes an exponent without a base. -/
theorem callOf_passedOver :
    let f := mathFunctions[5]
    let members : List (String × Json) := [("power", .text "2")]
    find? "POWER" = some f ∧ "number" ∈ f.requiredNames ∧ "number" ∉ members.map Prod.fst ∧
      f.callOf (.object members) =
        .ok (.call "POWER" [.literal .blank, .literal (.text "2")]) := by
  intro f members
  have hmem : f ∈ all := by
    have hmath : f ∈ mathFunctions := List.getElem_mem _
    rw [mem_all]
    simp [unsorted, hmath]
  exact ⟨find?_of_mem hmem (by decide +kernel), by decide +kernel, by decide, rfl⟩

end ServiceConfig

end Spreadsheet
