import Spreadsheet.Proofs.Function.Library
import Spreadsheet.Proofs.Text.Prefix
import Spreadsheet.Tool.Call

/-! Names of tools. The catalog finds each tool in any case of letters, and a call reaches the tool
that is found unless the name spells one of the two service tools in another case: those are only
called by their exact names. -/

namespace Spreadsheet

open Text

namespace Function

/-- No function has the name of a service tool in capital letters. -/
theorem name_ne_service {f : Function} (hf : f ∈ all) {service : ToolDescriptor}
    (hservice : service ∈ [ToolDescriptor.evaluation, .syntaxCheck]) :
    f.name ≠ service.name.toUpper := by
  have hnames : ToolDescriptor.evaluation.name.toUpper = "EVALUATE_FORMULA" ∧
      ToolDescriptor.syntaxCheck.name.toUpper = "CHECK_FORMULA_SYNTAX" := by decide +kernel
  have hkeys : unsorted.all (fun f => nameKey f.name != nameKey "EVALUATE_FORMULA" &&
      nameKey f.name != nameKey "CHECK_FORMULA_SYNTAX") = true := by decide +kernel
  have hkey := List.all_eq_true.mp hkeys f (mem_all.mp hf)
  rw [Bool.and_eq_true, bne_iff_ne, bne_iff_ne] at hkey
  rcases List.mem_pair.mp hservice with rfl | rfl
  · exact fun h => hkey.1 (congrArg nameKey (h.trans hnames.1))
  · exact fun h => hkey.2 (congrArg nameKey (h.trans hnames.2))

theorem find?_eq_some_iff {name : String} {f : Function} :
    find? name = some f ↔ f ∈ all ∧ sameAscii f.name name = true := by
  constructor
  · intro h
    have hf := mem_of_find? h
    refine ⟨hf, ?_⟩
    rw [sameAscii_iff_toUpper, toUpper_name hf]
    exact name_of_find? h
  · rintro ⟨hf, hname⟩
    rw [sameAscii_iff_toUpper, toUpper_name hf] at hname
    exact find?_of_mem hf hname

end Function

namespace ToolDescriptor

/-- Whether a name is that of a service tool in another case of letters. -/
def RespellsService (name : String) : Prop :=
  ∃ service ∈ [evaluation, syntaxCheck], sameAscii service.name name = true ∧ service.name ≠ name

theorem find?_function_eq_none {name : String} {service : ToolDescriptor}
    (hservice : service ∈ [evaluation, syntaxCheck]) (h : sameAscii service.name name = true) :
    Function.find? name = none := by
  rw [Option.eq_none_iff_forall_ne_some]
  intro f hf
  refine Function.name_ne_service (Function.mem_of_find? hf) hservice ?_
  rw [Function.name_of_find? hf, ← sameAscii_iff_toUpper.mp h]

theorem mem_all {t : ToolDescriptor} :
    t ∈ all ↔ t ∈ [evaluation, syntaxCheck] ∨ ∃ f ∈ Function.all, ofFunction f = t := by
  rw [all, List.mem_cons, List.mem_cons, List.mem_map, List.mem_cons, List.mem_singleton, or_assoc]

/-- No two tools have names that differ only in the case of letters. -/
theorem eq_of_sameAscii {t t' : ToolDescriptor} {name : String} (ht : t ∈ all) (ht' : t' ∈ all)
    (h : sameAscii t.name name = true) (h' : sameAscii t'.name name = true) : t = t' := by
  -- A service tool and a function share no name, so the mixed cases are void.
  rcases mem_all.mp ht with hservice | ⟨f, hf, rfl⟩
  · rcases mem_all.mp ht' with hservice' | ⟨f, hf, rfl⟩
    · have hsame := (sameAscii_iff_toUpper.mp h).trans (sameAscii_iff_toUpper.mp h').symm
      rcases List.mem_pair.mp hservice with rfl | rfl <;>
        rcases List.mem_pair.mp hservice' with rfl | rfl
      · rfl
      · exact absurd hsame (by decide +kernel)
      · exact absurd hsame (by decide +kernel)
      · rfl
    · cases (find?_function_eq_none hservice h).symm.trans (Function.find?_eq_some_iff.mpr ⟨hf, h'⟩)
  · rcases mem_all.mp ht' with hservice' | ⟨g, hg, rfl⟩
    · cases (find?_function_eq_none hservice' h').symm.trans (Function.find?_eq_some_iff.mpr ⟨hf, h⟩)
    · have hfound := Function.find?_eq_some_iff.mpr ⟨hf, h⟩
      rw [Function.find?_eq_some_iff.mpr ⟨hg, h'⟩] at hfound
      rw [Option.some.inj hfound]

theorem find?_eq_some_iff {name : String} {t : ToolDescriptor} :
    find? name = some t ↔ t ∈ all ∧ sameAscii t.name name = true := by
  have hfound {t : ToolDescriptor} (h : find? name = some t) :
      t ∈ all ∧ sameAscii t.name name = true := by
    rw [find?, Option.orElse_eq_some] at h
    rcases h with h | ⟨-, h⟩
    · have hfound := List.find?_some h
      have hname : t.name = name := beq_iff_eq.mp hfound
      exact ⟨List.mem_of_find?_eq_some h, sameAscii_iff_toUpper.mpr (hname ▸ rfl)⟩
    · have hfound := List.find?_some h
      exact ⟨List.mem_of_find?_eq_some h, hfound⟩
  refine ⟨hfound, fun ⟨ht, hname⟩ => ?_⟩
  cases h : find? name with
  | none =>
    rw [find?, Option.orElse_eq_none] at h
    exact absurd hname (List.find?_eq_none.mp h.2 t ht)
  | some t' =>
    obtain ⟨ht', hname'⟩ := hfound h
    rw [eq_of_sameAscii ht ht' hname hname']

theorem find?_eq_function {name : String} {f : Function} (h : Function.find? name = some f) :
    find? name = some (ofFunction f) := by
  obtain ⟨hf, hname⟩ := Function.find?_eq_some_iff.mp h
  exact find?_eq_some_iff.mpr ⟨mem_all.mpr (.inr ⟨f, hf, rfl⟩), hname⟩

/-- What the catalog finds under a name that is no function's is a service tool. -/
theorem find?_eq_none_or_service {name : String} (h : Function.find? name = none) :
    find? name = none ∨
      ∃ service ∈ [evaluation, syntaxCheck], sameAscii service.name name = true := by
  cases hfound : find? name with
  | none => exact .inl rfl
  | some t =>
    obtain ⟨ht, hname⟩ := find?_eq_some_iff.mp hfound
    rcases mem_all.mp ht with hservice | ⟨f, hf, rfl⟩
    · exact .inr ⟨t, hservice, hname⟩
    · cases h.symm.trans (Function.find?_eq_some_iff.mpr ⟨hf, hname⟩)

theorem not_respellsService {name : String} {service : ToolDescriptor}
    (hservice : service ∈ [evaluation, syntaxCheck]) (h : service.name = name) :
    ¬RespellsService name := by
  rintro ⟨other, hother, hname, hne⟩
  have hsame : other = service := eq_of_sameAscii (mem_all.mpr (.inl hother))
    (mem_all.mpr (.inl hservice)) hname (sameAscii_iff_toUpper.mpr (h ▸ rfl))
  exact hne (hsame ▸ h)

end ToolDescriptor

namespace ServiceConfig

open ToolDescriptor

theorem callFunction_ne_unknownTool (c : ServiceConfig) (f : Function) (input : Json) (n : String) :
    c.callFunction f input ≠ .error (.unknownTool n) := by
  intro h
  rw [callFunction] at h
  cases hcall : f.callOf input with
  | error fault =>
    rw [hcall] at h
    cases h
  | ok e =>
    simp only [hcall, Except.mapError, bind, Except.bind] at h
    split at h <;> cases h

/-- The three ways in which a call finds its tool. -/
theorem callTool_cases (c : ServiceConfig) (name : String) (input : Json) :
    (∃ service ∈ [evaluation, syntaxCheck], service.name = name ∧
        ∀ n, c.callTool name input ≠ .error (.unknownTool n)) ∨
      (∃ f, Function.find? name = some f ∧ c.callTool name input = c.callFunction f input) ∨
      (∀ service ∈ [evaluation, syntaxCheck], service.name ≠ name) ∧ Function.find? name = none ∧
        c.callTool name input = .error (.unknownTool name) := by
  have hfield (output : Option Json) (n : String) :
      output.elim (.error (.invalidInput name .malformed)) .ok ≠
        (.error (.unknownTool n) : Except ToolError Json) := by
    intro h
    cases output <;> cases h
  by_cases hevaluation : name = ToolDescriptor.evaluateFormula
  · refine .inl ⟨evaluation, List.mem_cons_self, hevaluation.symm, fun n => ?_⟩
    rw [callTool, if_pos hevaluation]
    exact hfield _ n
  by_cases hcheck : name = checkFormulaSyntax
  · refine .inl ⟨syntaxCheck, List.mem_cons_of_mem _ List.mem_cons_self, hcheck.symm, fun n => ?_⟩
    rw [callTool, if_neg hevaluation, if_pos hcheck]
    exact hfield _ n
  cases hfind : Function.find? name with
  | some f =>
    refine .inr (.inl ⟨f, rfl, ?_⟩)
    rw [callTool, if_neg hevaluation, if_neg hcheck, hfind]
  | none =>
    refine .inr (.inr ⟨fun service hservice => ?_, rfl, ?_⟩)
    · rcases List.mem_pair.mp hservice with rfl | rfl
      · exact Ne.symm hevaluation
      · exact Ne.symm hcheck
    · rw [callTool, if_neg hevaluation, if_neg hcheck, hfind]

theorem callTool_of_find? (c : ServiceConfig) {name : String} {f : Function}
    (h : Function.find? name = some f) (input : Json) :
    c.callTool name input = c.callFunction f input := by
  rcases c.callTool_cases name input with ⟨service, hservice, hname, -⟩ | ⟨g, hg, hcall⟩ | ⟨-, hnone, -⟩
  · have hsame : sameAscii service.name name = true := sameAscii_iff_toUpper.mpr (hname ▸ rfl)
    cases h.symm.trans (find?_function_eq_none hservice hsame)
  · rw [hcall, Option.some.inj (hg.symm.trans h)]
  · cases hnone.symm.trans h

/-- A tool is unknown to a call where the catalog finds none, and also where the name spells a service
tool in another case of letters. The functions that the catalog finds are those that are called. -/
theorem callTool_unknownTool_iff (c : ServiceConfig) (name : String) (input : Json) :
    (∀ n, c.callTool name input = .error (.unknownTool n) ↔
      n = name ∧ (find? name = none ∨ RespellsService name)) ∧
    ∀ f, Function.find? name = some f →
      find? name = some (ofFunction f) ∧ c.callTool name input = c.callFunction f input := by
  refine ⟨fun n => ?_, fun f hf => ⟨find?_eq_function hf, c.callTool_of_find? hf input⟩⟩
  -- The name is exactly that of a service tool, or in some case that of a function, or neither.
  rcases c.callTool_cases name input with ⟨service, hservice, hname, hcall⟩ |
    ⟨f, hf, hcall⟩ | ⟨hother, hnone, hcall⟩
  · refine ⟨fun h => absurd h (hcall n), ?_⟩
    rintro ⟨-, hnone | hrespells⟩
    · have hsame : sameAscii service.name name = true := sameAscii_iff_toUpper.mpr (hname ▸ rfl)
      cases hnone.symm.trans (find?_eq_some_iff.mpr ⟨mem_all.mpr (.inl hservice), hsame⟩)
    · exact absurd hrespells (not_respellsService hservice hname)
  · refine ⟨fun h => ?_, ?_⟩
    · exact absurd (hcall.symm.trans h) (c.callFunction_ne_unknownTool f input n)
    · rintro ⟨-, hnone | ⟨service, hservice, hsame, -⟩⟩
      · cases hnone.symm.trans (find?_eq_function hf)
      · cases hf.symm.trans (find?_function_eq_none hservice hsame)
  · refine ⟨fun h => ?_, ?_⟩
    · have hn : name = n := by simpa using hcall.symm.trans h
      refine ⟨hn.symm, (find?_eq_none_or_service hnone).imp_right ?_⟩
      rintro ⟨service, hservice, hsame⟩
      exact ⟨service, hservice, hsame, hother service hservice⟩
    · rintro ⟨rfl, -⟩
      exact hcall

/-- The catalog describes the tool for formulas under its name in capital letters, and a call under
that name does not reach it. -/
theorem callTool_capitals :
    find? "EVALUATE_FORMULA" = some evaluation ∧
      standard.callTool "EVALUATE_FORMULA" (.object [("formula", .text "=1")]) =
        .error (.unknownTool "EVALUATE_FORMULA") := by
  have hservice : evaluation ∈ [evaluation, syntaxCheck] := List.mem_cons_self
  have hname : evaluation.name.toUpper = "EVALUATE_FORMULA" := by decide +kernel
  have hcapitals : "EVALUATE_FORMULA".toUpper = "EVALUATE_FORMULA" := by decide +kernel
  have hsame : sameAscii evaluation.name "EVALUATE_FORMULA" = true :=
    sameAscii_iff_toUpper.mpr (hname.trans hcapitals.symm)
  refine ⟨find?_eq_some_iff.mpr ⟨mem_all.mpr (.inl hservice), hsame⟩, ?_⟩
  rw [callTool, if_neg (by decide), if_neg (by decide), find?_function_eq_none hservice hsame]

end ServiceConfig

end Spreadsheet
