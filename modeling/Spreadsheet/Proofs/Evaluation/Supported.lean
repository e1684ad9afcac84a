import Spreadsheet.Proofs.Evaluation.Inversion
import Spreadsheet.Proofs.Evaluation.Months
import Spreadsheet.Proofs.Function.Workdays

/-! Days that functions give. They lie in the supported calendar, and other functions read them, except
that a text may spell an earlier day which is given as it is. -/

namespace Spreadsheet.Formula.Expr

open Spreadsheet.Function
open Date (isSupported maxSerial ofSerial)

variable {s : Scope} {d : Depth}

/-! ### Parts of dates -/

theorem eval_datePart {e : Expr} {n : Int} {name : String} {f : Function} {part : Date → Int}
    (hfind : find? name = some f) (hpart : f.implementation = .eager (datePart part))
    (hkinds : f.parameters.map Parameter.kind = [.scalar]) (harity : f.arityError? 1 = none)
    (he : e.ReadsDay s d.inside n) (hcalls : d.calls < s.options.maxCallDepth)
    (hsmall : (part (ofSerial n)).natAbs < 2 ^ 53) :
    (call name [e]).eval s d = .ok (integer (part (ofSerial n))) := by
  have hnodes := he.lt
  obtain ⟨v, hv, hn⟩ := he
  have hday : dayArg [v] 0 = .ok n := hn
  have hargs : HaveArguments s d.inside (f.parameters.map Parameter.kind) [e] [v] := by
    rw [hkinds]
    exact .day hv hn .nil
  rw [HaveArguments.eval_call hfind hpart hnodes hcalls hargs harity, datePart, hday]
  exact congrArg Except.ok (finite_integer hsmall)

/-- The functions that give a part of a date. -/
def dateParts : List (String × (Date → Int)) :=
  [("YEAR", Date.year), ("MONTH", fun date => date.month), ("DAY", fun date => date.day)]

theorem eval_dateParts {e : Expr} {n : Int} (he : e.ReadsDay s d.inside n)
    (hcalls : d.calls < s.options.maxCallDepth) :
    ∀ p ∈ dateParts, (call p.1 [e]).eval s d = .ok (integer (p.2 (ofSerial n))) := by
  have hyear : find? "YEAR" = some dateFunctions[2] := find?_date (i := 2) (by decide)
  have hmonth : find? "MONTH" = some dateFunctions[3] := find?_date (i := 3) (by decide)
  have hday : find? "DAY" = some dateFunctions[4] := find?_date (i := 4) (by decide)
  obtain ⟨v, -, hn⟩ := id he
  obtain ⟨hlow, hhigh⟩ := dayOf_bounds hn
  obtain ⟨hyears, hmonths, hdays⟩ := datePart_bounds hlow hhigh
  simp only [dateParts, List.forall_mem_cons, List.not_mem_nil, false_implies, implies_true, and_true]
  exact ⟨eval_datePart hyear rfl rfl rfl he hcalls hyears,
    eval_datePart hmonth rfl rfl rfl he hcalls hmonths,
    eval_datePart hday rfl rfl rfl he hcalls hdays⟩

/-! ### Days given by functions -/

/-- Whether a call gives a day before the supported calendar, which a text among the arguments spells,
as it is. -/
inductive GivesEarlierDay (s : Scope) (d : Depth) (name : String) : List Expr → Prop
  | dateValue {e : Expr} {n : Int} (hname : name = "DATEVALUE") (hday : e.ReadsDay s d n)
      (hn : n < 0) : GivesEarlierDay s d name [e]
  | workday {e m : Expr} {rest : List Expr} {n : Int} (hname : name = "WORKDAY")
      (hday : e.ReadsDay s d n) (hn : n < 0) (hm : m.ReadsInteger s d 0) :
      GivesEarlierDay s d name (e :: m :: rest)

/-- A day that a call gives, which is supported unless the call gives an earlier one. -/
def GivesDay (s : Scope) (d : Depth) (name : String) (args : List Expr) (v : Value) : Prop :=
  ∃ n, v = integer n ∧ n ≤ maxSerial ∧ (n < 0 ↔ GivesEarlierDay s d name args)

section

variable {args : List Expr} {v : Value}

/-- The functions that check every day that they give. -/
theorem givesDay_of_isSupported {name : String} {f : Function} {g : List Value → Answer}
    (hfind : find? name = some f) (hg : f.implementation = .eager g)
    (heager : ArgKind.delayed ∉ f.parameters.map Parameter.kind)
    (hlimit : f.maxArgs = some f.parameters.length)
    (hgives : ∀ vs, Gives (fun v => ∃ n, isSupported n = true ∧ v = integer n) (g vs))
    (hname : name ≠ "DATEVALUE" ∧ name ≠ "WORKDAY") (h : (call name args).eval s d = .ok v)
    (hv : v.isError = false) : GivesDay s d.inside name args v := by
  obtain ⟨vs, w, -, -, hw, rfl⟩ := exists_of_eval_call hfind hg heager hlimit h hv
  obtain ⟨n, hn, rfl⟩ := hgives vs w hw
  obtain ⟨hlow, hhigh⟩ := isSupported_iff.mp hn
  refine ⟨n, finite_integer (natAbs_lt_of_isSupported hn), hhigh, by omega, fun hearlier => ?_⟩
  cases hearlier with
  | dateValue hname' => exact absurd hname' hname.1
  | workday hname' => exact absurd hname' hname.2

theorem givesDay_dateValue (h : (call "DATEVALUE" args).eval s d = .ok v)
    (hv : v.isError = false) : GivesDay s d.inside "DATEVALUE" args v := by
  have hfind : find? "DATEVALUE" = some dateFunctions[1] := find?_date (i := 1) (by decide)
  obtain ⟨vs, _, hvs, harity, hgives, rfl⟩ := exists_of_eval_call hfind rfl (by decide) rfl h hv
  have hcount : 1 ≤ args.length := minArgs_le harity
  change HaveArguments s d.inside [.scalar] args vs at hvs
  cases hvs with
  | nil => cases hcount
  | @cons _ _ e _ w _ hfirst _ hrest =>
    cases hrest
    obtain ⟨t, date, rfl, hdate, rfl⟩ := gives_dateValue w [] _ hgives
    obtain ⟨he, -⟩ := hfirst
    have hday := dayOf_text hdate
    obtain ⟨hlow, hhigh⟩ := dayOf_bounds hday
    refine ⟨_, finite_integer (natAbs_lt_of_le hlow hhigh), hhigh,
      fun hn => .dateValue rfl ⟨_, he, hday⟩ hn, fun hearlier => ?_⟩
    cases hearlier with
    | dateValue _ hday' hn =>
      obtain ⟨w, hw, hday'⟩ := hday'
      cases he.symm.trans hw
      cases hday.symm.trans hday'
      exact hn

theorem givesDay_workday (h : (call "WORKDAY" args).eval s d = .ok v)
    (hv : v.isError = false) : GivesDay s d.inside "WORKDAY" args v := by
  have hfind : find? "WORKDAY" = some dateFunctions[10] := find?_date (i := 10) (by decide)
  obtain ⟨vs, _, hvs, harity, hgives, rfl⟩ := exists_of_eval_call hfind rfl (by decide) rfl h hv
  have hcount : 2 ≤ args.length := minArgs_le harity
  change HaveArguments s d.inside [.scalar, .scalar, .array] args vs at hvs
  rcases hvs with _ | ⟨hx, -, _ | ⟨hm, -, hrest⟩⟩
  · cases hcount
  · exact absurd hcount (lt_irrefl 1)
  obtain ⟨a, k, n, ha, hk, hstart, hmore, rfl⟩ := gives_workday _ _ _ _ hgives
  obtain ⟨hx, -⟩ := hx
  obtain ⟨hm, -⟩ := hm
  rcases eq_or_ne k 0 with rfl | hk'
  · obtain rfl := hstart rfl
    obtain ⟨hlow, hhigh⟩ := dayOf_bounds ha
    refine ⟨n, finite_integer (natAbs_lt_of_le hlow hhigh), hhigh,
      fun hn => .workday rfl ⟨_, hx, ha⟩ hn ⟨_, hm, hk⟩, fun hearlier => ?_⟩
    obtain _ | ⟨-, ⟨w, hw, hday⟩, hn, -⟩ := hearlier
    cases hx.symm.trans hw
    cases ha.symm.trans hday
    exact hn
  · have hn := hmore hk'
    obtain ⟨hlow, hhigh⟩ := isSupported_iff.mp hn
    refine ⟨n, finite_integer (natAbs_lt_of_isSupported hn), hhigh, by omega, fun hearlier => ?_⟩
    obtain _ | ⟨-, -, -, ⟨w, hw, hzero⟩⟩ := hearlier
    cases hm.symm.trans hw
    cases hk.symm.trans hzero
    exact absurd rfl hk'

end

/-- A day that one of these functions gives lies in the supported calendar and is read again by every
function that takes one, unless it is an earlier day that only a text can spell. -/
theorem eval_call_givesDay {name : String} {args : List Expr} {v : Value}
    (hname : name ∈ ["DATE", "DATEVALUE", "EDATE", "EOMONTH", "WORKDAY"])
    (h : (call name args).eval s d = .ok v) (hv : v.isError = false) :
    ∃ n, v = integer n ∧ n ≤ maxSerial ∧ (n < 0 ↔ GivesEarlierDay s d.inside name args) ∧
      (0 ≤ n → serialOf (Number.ofInt n) = .ok n ∧
        ∀ (e : Expr) (d' : Depth), e.eval s d'.inside = .ok v → d'.calls < s.options.maxCallDepth →
          ∀ p ∈ dateParts, (call p.1 [e]).eval s d' = .ok (integer (p.2 (ofSerial n)))) := by
  have hday : GivesDay s d.inside name args v := by
    have hdate : find? "DATE" = some dateFunctions[0] := find?_date (i := 0) (by decide)
    have hedate : find? "EDATE" = some dateFunctions[7] := find?_date (i := 7) (by decide)
    have heomonth : find? "EOMONTH" = some dateFunctions[8] := find?_date (i := 8) (by decide)
    simp only [List.mem_cons, List.not_mem_nil, or_false] at hname
    rcases hname with rfl | rfl | rfl | rfl | rfl
    · exact givesDay_of_isSupported hdate rfl (by decide) rfl gives_date (by decide) h hv
    · exact givesDay_dateValue h hv
    · exact givesDay_of_isSupported hedate rfl (by decide) rfl gives_monthsLater (by decide) h hv
    · exact givesDay_of_isSupported heomonth rfl (by decide) rfl gives_endOfMonth (by decide) h hv
    · exact givesDay_workday h hv
  obtain ⟨n, rfl, hhigh, hearlier⟩ := hday
  refine ⟨n, rfl, hhigh, hearlier, fun hlow => ?_⟩
  have hread := dayOf_integer (isSupported_iff.mpr ⟨hlow, hhigh⟩)
  exact ⟨hread, fun e d' he hcalls => eval_dateParts ⟨_, he, hread⟩ hcalls⟩

/-- The day of the month that a month after 2024-01-31 leads to. -/
theorem eval_call_givesDay_leapDay :
    let s : Scope := ⟨.empty, .standard⟩
    let e : Expr := call "EDATE"
      [.literal (.number (Number.ofInt 45322)), .literal (.number (Number.ofInt 1))]
    "EDATE" ∈ ["DATE", "DATEVALUE", "EDATE", "EOMONTH", "WORKDAY"] ∧
      e.eval s Depth.top.inside = .ok (integer 45351) ∧ (integer 45351).isError = false ∧
      (call "DAY" [e]).eval s .top = .ok (integer 29) := by
  intro s e
  have hname : "EDATE" ∈ ["DATE", "DATEVALUE", "EDATE", "EOMONTH", "WORKDAY"] := by decide
  have hlater : addMonths 45322 1 = .ok 45351 := rfl
  have he : e.eval s Depth.top.inside = .ok (integer 45351) :=
    eval_edate (readsInteger_literal (by decide) (by decide)) (by decide)
      (readsDay_literal (by decide) (by decide)) hlater
  obtain ⟨n, hn, -, hearlier, hread⟩ := eval_call_givesDay hname he rfl
  have hlow : 0 ≤ n := by
    by_contra hneg
    obtain _ | ⟨hname', -⟩ := hearlier.mp (Int.not_le.mp hneg)
    exact absurd hname' (by decide)
  obtain ⟨hserial, hparts⟩ := hread hlow
  have hday : dayOf (integer n) = .ok 45351 := hn ▸ dayOf_integer (by decide)
  obtain rfl : n = 45351 := Except.ok.inj (hserial.symm.trans hday)
  have heval := hparts e .top he (by decide) ("DAY", fun date => date.day) (by simp [dateParts])
  exact ⟨hname, he, rfl, heval⟩

/-- A text that spells an earlier day. -/
theorem eval_call_givesDay_earlier :
    let s : Scope := ⟨.empty, .standard⟩
    let e : Expr := .literal (.text "1899-12-29")
    let m : Expr := .literal (.number (Number.ofInt 0))
    (call "DATEVALUE" [e]).eval s .top = .ok (integer (-1)) ∧
      (call "WORKDAY" [e, m]).eval s .top = .ok (integer (-1)) ∧ isSupported (-1) = false ∧
      dayOf (integer (-1)) = .error (.num "dates before 1899-12-30 are not supported") := by
  intro s e m
  have hfind : find? "DATEVALUE" = some dateFunctions[1] := find?_date (i := 1) (by decide)
  have hfind' : find? "WORKDAY" = some dateFunctions[10] := find?_date (i := 10) (by decide)
  have he : e.eval s Depth.top.inside = .ok (.text "1899-12-29") := eval_literal (by decide) _
  have hm : m.eval s Depth.top.inside = .ok (integer 0) := eval_literal (by decide) _
  have hdate : Date.ofText? "1899-12-29" = some ⟨1899, 12, 29⟩ := by decide +kernel
  have hday : dayOf (.text "1899-12-29") = .ok (-1) := dayOf_text hdate
  have hnodes : Depth.top.nodes < s.options.maxExpressionDepth := by decide
  have hcalls : Depth.top.calls < s.options.maxCallDepth := by decide
  have hvalue : dateValue [.text "1899-12-29"] = .ok (integer (-1)) := dateValue_text hdate
  have hworkday : workday [.text "1899-12-29", integer 0] = .ok (integer (-1)) := by
    have hstart : dayArg [.text "1899-12-29", integer 0] 0 = .ok (-1) := hday
    have hdays : intArg [.text "1899-12-29", integer 0] 1 = .ok 0 := toInteger_integer (by decide)
    rw [workday, hstart, hdays]
    rfl
  have hfinite : (integer (-1)).finite = integer (-1) := finite_integer (by decide)
  have hfloor : Number.floorToInt (Number.ofInt (-1)) = -1 := by decide +kernel
  refine ⟨?_, ?_, rfl, ?_⟩
  · rw [HaveArguments.eval_call hfind rfl hnodes hcalls (.cons (.scalar he rfl) rfl .nil) rfl, hvalue]
    exact congrArg Except.ok hfinite
  · rw [HaveArguments.eval_call hfind' rfl hnodes hcalls
      (.day he hday (.cons (.scalar hm rfl) rfl .nil)) rfl, hworkday]
    exact congrArg Except.ok hfinite
  · change serialOf (Number.ofInt (-1)) = _
    simp only [serialOf, hfloor]
    rfl

end Spreadsheet.Formula.Expr
