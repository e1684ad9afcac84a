import Spreadsheet.Proofs.Evaluation.Follows
import Spreadsheet.Proofs.Tool.Required

/-! Which values the arguments of a call are made of. The argument at an index is made of a value given
for the parameter that the function has at this index, be it fixed or one of those that take turns. -/

namespace Spreadsheet

open Formula (Expr)

/-- Rows of one length, put one after the other, are read by quotient and remainder. -/
theorem getElem?_flatMap_of_length {α β : Type} {f : α → List β} {as : List α} {n : Nat} (hn : 0 < n)
    (h : ∀ a ∈ as, (f a).length = n) (i : Nat) :
    (as.flatMap f)[i]? = as[i / n]?.bind fun a => (f a)[i % n]? := by
  induction as generalizing i with
  | nil => rfl
  | cons a as ih =>
    have hlength := h a List.mem_cons_self
    rw [List.flatMap_cons]
    by_cases hi : i < n
    · rw [List.getElem?_append_left (by omega), Nat.div_eq_of_lt hi, Nat.mod_eq_of_lt hi]
      rfl
    · have hle : n ≤ i := Nat.le_of_not_lt hi
      rw [List.getElem?_append_right (by omega), hlength,
        ih (fun b hb => h b (List.mem_cons_of_mem _ hb)), Nat.div_eq_sub_div hn hle,
        Nat.mod_eq_sub_mod hle]
      rfl

theorem getElem?_filterMap_of_isSome {α β : Type} {g : α → Option β} {as : List α}
    (h : ∀ a ∈ as, (g a).isSome) (i : Nat) : (as.filterMap g)[i]? = as[i]?.bind g := by
  induction as generalizing i with
  | nil => rfl
  | cons a as ih =>
    obtain ⟨b, hb⟩ := Option.isSome_iff_exists.mp (h a List.mem_cons_self)
    rw [List.filterMap_cons_some hb]
    cases i with
    | zero => exact hb.symm
    | succ i => exact ih (fun b hb => h b (List.mem_cons_of_mem _ hb)) i

theorem exists_of_rel_getElem? {α β : Type} {R : α → β → Prop} {as : List α} {bs : List β}
    (h : List.Forall₂ R as bs) {i : Nat} {b : β} (hb : bs[i]? = some b) :
    ∃ a, as[i]? = some a ∧ R a b := by
  have hrel := rel_getElem? h i
  rw [hb] at hrel
  cases ha : as[i]? with
  | none =>
    rw [ha] at hrel
    cases hrel
  | some a =>
    rw [ha] at hrel
    cases hrel with
    | some hab => exact ⟨a, rfl, hab⟩

namespace Function

variable {f : Function} {members : List (String × Json)} {args : List Expr}
  {lists : List (List Json)}

section

variable (heven : ∀ elements ∈ lists, elements.length = (lists.headD []).length)
include heven

theorem isSome_getElem?_of_even {round : Nat} (hround : round < (lists.headD []).length) :
    ∀ elements ∈ lists, (elements[round]?).isSome := by
  intro elements helements
  rw [List.getElem?_eq_getElem (heven elements helements ▸ hround)]
  rfl

theorem length_round : ∀ round ∈ List.range (lists.headD []).length,
    (lists.filterMap (·[round]?)).length = lists.length := by
  intro round hround
  exact List.filterMap_length_eq_length.mpr
    (isSome_getElem?_of_even heven (List.mem_range.mp hround))

theorem length_inTurn : (inTurn lists).length = (lists.headD []).length * lists.length := by
  rw [inTurn, List.length_flatMap, List.map_congr_left (length_round heven), List.map_const',
    List.sum_replicate_nat, List.length_range]

/-- The elements in turn: that at an index is in the list whose turn it is, as many places on as there
have been full rounds. -/
theorem getElem?_inTurn (hne : lists ≠ []) (i : Nat) :
    (inTurn lists)[i]? = lists[i % lists.length]?.bind (·[i / lists.length]?) := by
  have hwidth : 0 < lists.length := List.length_pos_iff.mpr hne
  rw [inTurn, getElem?_flatMap_of_length hwidth (length_round heven)]
  by_cases hround : i / lists.length < (lists.headD []).length
  · rw [List.getElem?_range hround, Option.bind_some,
      getElem?_filterMap_of_isSome (isSome_getElem?_of_even heven hround)]
  · have hlist := List.getElem?_eq_getElem (Nat.mod_lt i hwidth)
    rw [List.getElem?_eq_none (by rw [List.length_range]; omega), hlist, Option.bind_some,
      Option.bind_none, List.getElem?_eq_none]
    rw [heven _ (List.getElem_mem _)]
    omega

end

theorem repeatingCount_le (f : Function) : f.repeatingCount ≤ f.parameters.length := by
  rw [repeatingCount]
  split
  · omega
  · split <;> omega

theorem fixedCount_add_repeatingCount (f : Function) :
    f.fixedCount + f.repeatingCount = f.parameters.length := Nat.sub_add_cancel f.repeatingCount_le

theorem length_repeatedParameters (f : Function) : f.repeatedParameters.length = f.repeatingCount := by
  have hsum := f.fixedCount_add_repeatingCount
  rw [repeatedParameters, List.length_drop]
  omega

theorem length_of_repeatedLists (h : f.repeatedLists members = .ok lists) :
    lists.length = f.repeatingCount := by
  rw [(repeatedLists_cases h).1, List.length_map, length_repeatedParameters]

theorem parameter?_of_lt_fixedCount {k : Nat} (hk : k < f.fixedCount) :
    f.parameter? k = f.fixedParameters[k]? := by
  rw [parameter?, if_pos (Nat.lt_of_lt_of_le hk f.fixedCount_le), getElem?_fixedParameters hk]

/-- Behind the fixed parameters, the parameters of a call take turns. -/
theorem parameter?_of_fixedCount_le {k : Nat} (hk : f.fixedCount ≤ k) (hpos : 0 < f.repeatingCount) :
    f.parameter? k = f.repeatedParameters[(k - f.fixedCount) % f.repeatingCount]? := by
  have hsum := f.fixedCount_add_repeatingCount
  rw [repeatedParameters, List.getElem?_drop, parameter?]
  split
  · rw [Nat.mod_eq_of_lt (by omega), Nat.add_sub_cancel' hk]
  · by_cases hrepeating : 0 < f.repeating ∧ f.repeating ≤ f.parameters.length
    · have hcount : f.repeatingCount = f.repeating := if_pos hrepeating
      have hfixed : f.parameters.length - f.repeating = f.fixedCount := by omega
      simp only [hcount, hfixed]
      exact if_neg (by omega)
    · -- Without a valid number of repeating parameters, the last one alone repeats.
      have hone : f.repeatingCount = 1 := by
        rw [repeatingCount, if_neg hrepeating] at hpos ⊢
        split at hpos
        · rw [if_pos ‹_›]
          omega
        · exact absurd hpos (Nat.lt_irrefl 0)
      rw [if_pos (by omega), hone, Nat.mod_one, Nat.add_zero, List.getLast?_eq_getElem?]
      congr 1
      omega

/-- What the argument for a parameter at an index is made of. For a fixed parameter this is the value
given, and without one the argument is blank. For one of the others it is the element of the list given
that has as many in front of it as there have been rounds; a value other than a list is the only element
of one. -/
inductive Lands (f : Function) (members : List (String × Json)) (k : Nat) (p : Parameter) :
    Expr → Prop
  | absent : k < f.fixedCount → members.lookup p.name = none → Lands f members k p (.literal .blank)
  | fixed {v : Json} {e : Expr} : k < f.fixedCount → members.lookup p.name = some v →
      v.argument = .ok e → Lands f members k p e
  | element {elements : List Json} {v : Json} {e : Expr} : f.fixedCount ≤ k →
      members.lookup p.name = some (.array elements) →
      elements[(k - f.fixedCount) / f.repeatingCount]? = some v → v.argument = .ok e →
      Lands f members k p e
  | single {v : Json} {e : Expr} : f.fixedCount ≤ k → members.lookup p.name = some v →
      (∀ elements, v ≠ .array elements) → (k - f.fixedCount) / f.repeatingCount = 0 →
      v.argument = .ok e → Lands f members k p e

theorem lands_fixed {k : Nat} {p : Parameter} {e : Expr} (hk : k < f.fixedCount)
    (h : fixedArgument members p = .ok e) : f.Lands members k p e := by
  rw [fixedArgument] at h
  split at h
  · exact .fixed hk ‹_› h
  · cases h
    exact .absent hk ‹_›

theorem repeated_of_ne_array {v : Json} (h : ∀ elements, v ≠ .array elements) :
    Json.repeated (some v) = [v] := by
  cases v with
  | array elements => exact absurd rfl (h elements)
  | _ => rfl

theorem lands_repeated {k : Nat} {p : Parameter} {v : Json} {e : Expr} (hk : f.fixedCount ≤ k)
    (hv : (Json.repeated (members.lookup p.name))[(k - f.fixedCount) / f.repeatingCount]? = some v)
    (he : v.argument = .ok e) : f.Lands members k p e := by
  cases hlookup : members.lookup p.name with
  | none =>
    rw [hlookup] at hv
    cases hv
  | some given =>
    rw [hlookup] at hv
    by_cases harray : ∃ elements, given = .array elements
    · obtain ⟨elements, rfl⟩ := harray
      exact .element hk hlookup hv he
    · have hother := not_exists.mp harray
      rw [repeated_of_ne_array hother] at hv
      obtain ⟨hround, rfl⟩ := List.getElem?_eq_some_iff.mp hv
      rw [List.length_singleton, Nat.lt_one_iff] at hround
      rw [List.getElem_singleton] at he
      exact .single hk hlookup hother hround he

theorem lt_givenCount {i : Nat} {p : Parameter} (hp : f.fixedParameters[i]? = some p)
    (hgiven : p.name ∈ members.map Prod.fst) : i < f.givenCount members := by
  let q (p : Parameter) : Bool := (members.lookup p.name).isNone
  have hsplit : f.fixedParameters = (f.fixedParameters.reverse.dropWhile q).reverse ++
      (f.fixedParameters.reverse.takeWhile q).reverse := by
    rw [← List.reverse_append, List.takeWhile_append_dropWhile, List.reverse_reverse]
  by_contra hle
  rw [hsplit, List.getElem?_append_right (by rw [List.length_reverse]; exact Nat.le_of_not_lt hle)] at hp
  have hmissing := List.mem_takeWhile_imp (List.mem_reverse.mp (List.mem_of_getElem? hp))
  rw [← isSome_lookup_iff, Option.isSome_iff_ne_none] at hgiven
  exact hgiven (Option.isNone_iff_eq_none.mp hmissing)

section

variable (h : f.argumentsOf members = .ok args)
include h

theorem argument_lands {k : Nat} {e : Expr} (he : args[k]? = some e) :
    ∃ p, f.parameter? k = some p ∧ f.Lands members k p e := by
  obtain ⟨fixed, lists, hfixed, hlists, hends⟩ := argumentsOf_cases h
  have hlength := length_fixed hfixed
  by_cases hk : k < f.fixedCount
  · have hfixedArg : fixed[k]? = some e := by
      rcases hends with ⟨-, rfl⟩ | ⟨-, further, rfl, -⟩
      · rw [List.getElem?_take] at he
        split at he
        · exact he
        · cases he
      · rwa [List.getElem?_append_left (by omega)] at he
    obtain ⟨p, hp, harg⟩ := exists_of_rel_getElem? hfixed hfixedArg
    exact ⟨p, (parameter?_of_lt_fixedCount hk).trans hp, lands_fixed hk harg⟩
  · have hle : f.fixedCount ≤ k := Nat.le_of_not_lt hk
    -- Arguments without elements in turn end with the last fixed one.
    rcases hends with ⟨-, rfl⟩ | ⟨hne, further, rfl, hfurther⟩
    · have hcount := (List.getElem?_eq_some_iff.mp he).1
      rw [List.length_take] at hcount
      omega
    · have hwidth := length_of_repeatedLists hlists
      obtain ⟨hlists, heven⟩ := repeatedLists_cases hlists
      rw [List.getElem?_append_right (by omega), hlength] at he
      obtain ⟨v, hv, harg⟩ := exists_of_rel_getElem? hfurther he
      have hlistsNe : lists ≠ [] := by
        rintro rfl
        exact hne rfl
      rw [getElem?_inTurn heven hlistsNe, hwidth, hlists, List.getElem?_map, Option.bind_map,
        Option.bind_eq_some_iff] at hv
      obtain ⟨p, hp, hv⟩ := hv
      have hpos : 0 < f.repeatingCount := hwidth ▸ List.length_pos_iff.mpr hlistsNe
      exact ⟨p, (parameter?_of_fixedCount_le hle hpos).trans hp, lands_repeated hle hv harg⟩

/-- A value given for a fixed parameter has its argument. -/
theorem lt_length_of_given {i : Nat} {p : Parameter} (hp : f.fixedParameters[i]? = some p)
    (hgiven : p.name ∈ members.map Prod.fst) : i < args.length := by
  obtain ⟨fixed, lists, hfixed, -, hends⟩ := argumentsOf_cases h
  have hlength := length_fixed hfixed
  have hi : i < f.fixedCount := f.length_fixedParameters ▸ (List.getElem?_eq_some_iff.mp hp).1
  rcases hends with ⟨-, rfl⟩ | ⟨-, further, rfl, -⟩
  · have hcount := lt_givenCount hp hgiven
    rw [List.length_take]
    omega
  · rw [List.length_append]
    omega

/-- Each element of the lists for repeating parameters has its argument. -/
theorem length_sub_fixedCount {p : Parameter} (hp : p ∈ f.repeatedParameters) :
    args.length - f.fixedCount =
      (Json.repeated (members.lookup p.name)).length * f.repeatingCount := by
  obtain ⟨fixed, lists, hfixed, hlists, hends⟩ := argumentsOf_cases h
  have hlength := length_fixed hfixed
  have hwidth := length_of_repeatedLists hlists
  obtain ⟨hlists, heven⟩ := repeatedLists_cases hlists
  have hlist : Json.repeated (members.lookup p.name) ∈ lists := hlists ▸ List.mem_map_of_mem hp
  have hturns := length_inTurn heven
  rw [heven _ hlist, ← hwidth, ← hturns]
  rcases hends with ⟨hnil, rfl⟩ | ⟨-, further, rfl, hfurther⟩
  · rw [hnil, List.length_take, List.length_nil]
    omega
  · rw [List.length_append, hlength, Nat.add_sub_cancel_left, hfurther.length_eq]

end

/-- The arguments of an accepted call. That at each index is made of a value for the parameter which
the function has there, their number is accepted, and no value given is left out. -/
theorem callOf_lands {input : Json} {e : Expr} (h : f.callOf input = .ok e) :
    ∃ members args, input.membersOf = .ok members ∧ e = .call f.name args ∧
      f.arityError? args.length = none ∧
      (∀ k a, args[k]? = some a → ∃ p, f.parameter? k = some p ∧ f.Lands members k p a) ∧
      (∀ i p, f.fixedParameters[i]? = some p → p.name ∈ members.map Prod.fst → i < args.length) ∧
      ∀ p ∈ f.repeatedParameters, args.length - f.fixedCount =
        (Json.repeated (members.lookup p.name)).length * f.repeatingCount := by
  obtain ⟨members, args, hmembers, hargs, harity, rfl⟩ := callOf_cases h
  exact ⟨members, args, hmembers, rfl, harity, fun k a ha => argument_lands hargs ha,
    fun i p hp hgiven => lt_length_of_given hargs hp hgiven,
    fun p hp => length_sub_fixedCount hargs hp⟩

/-- Two rounds of a range and a criterion behind the range that `SUMIFS` adds. -/
theorem callOf_lands_rounds :
    let f := aggregationFunctions[32]
    let members : List (String × Json) :=
      [("criteria", .array [.text "x", .text "y"]), ("criteria_range", .array [.text "a", .text "b"]),
        ("sum_range", .text "s")]
    let args := ["s", "a", "x", "b", "y"].map fun s => Expr.literal (.text s)
    f.callOf (.object members) = .ok (.call "SUMIFS" args) ∧
      f.parameter? 4 = some (scalar "criteria") ∧
      f.Lands members 4 (scalar "criteria") (.literal (.text "y")) := by
  intro f members args
  have hcall : f.callOf (.object members) = .ok (.call "SUMIFS" args) := rfl
  have hparameter : f.parameter? 4 = some (scalar "criteria") := by decide
  obtain ⟨members', args', hmembers, hargs, -, hlands, -⟩ := callOf_lands hcall
  cases hmembers
  obtain ⟨-, rfl⟩ := Expr.call.inj hargs
  obtain ⟨p, hp, hland⟩ := hlands 4 _ rfl
  cases hparameter.symm.trans hp
  exact ⟨hcall, hparameter, hland⟩

end Function

end Spreadsheet
