import Spreadsheet.Proofs.Evaluation.Days
import Spreadsheet.Proofs.Function.Midnight

/-! Date functions in formulas do not see the time of day: for an argument that is a day or an array of
holidays, any one with the same days at midnight gives the same result. -/

namespace Spreadsheet

open Spreadsheet.Function

/-! ### One argument in place of another -/

namespace Function

variable {f : Function}

section

variable {as bs : List Delayed} {a b : Delayed} {v w : Value} (hv : v.isError = false)
  (hw : w.isError = false)
include hv hw

theorem follows_evalArguments_append {index : Nat}
    (ha : f.evalArgument (index + as.length) a = .ok v)
    (hb : f.evalArgument (index + as.length) b = .ok w) :
    Follows .alike (Answers fun vs ws => ∃ front rest, front.length = as.length ∧
        vs = front ++ v :: rest ∧ ws = front ++ w :: rest)
      (f.evalArguments index (as ++ a :: bs)) (f.evalArguments index (as ++ b :: bs)) := by
  induction as generalizing index with
  | nil =>
    rw [List.length_nil, Nat.add_zero] at ha hb
    rw [List.nil_append, List.nil_append, evalArguments_cons_eq ha hv, evalArguments_cons_eq hb hw]
    rcases f.evalArguments (index + 1) bs with x | (x | rest)
    · exact .alike rfl x
    · exact .ok (.error x)
    · exact .ok (.ok ⟨[], rest, rfl, rfl, rfl⟩)
  | cons c as ih =>
    -- Both runs evaluate `c` to the same value, behind which the induction hypothesis goes on.
    have hshift : index + (as.length + 1) = index + 1 + as.length := by omega
    rw [List.length_cons, hshift] at ha hb
    have hrest := ih ha hb
    rw [List.cons_append, List.cons_append, evalArguments, evalArguments]
    refine (Follows.alike_rfl (V := Eq) (fun _ => rfl) (f.evalArgument index c)).bind ?_
    rintro u _ rfl
    have hlonger := hrest.bind (f := fun r => .ok (r.map (u :: ·))) (g := fun r => .ok (r.map (u :: ·)))
      (W := Answers fun vs ws => ∃ front rest, front.length = as.length + 1 ∧
        vs = front ++ v :: rest ∧ ws = front ++ w :: rest) fun r r' hr => ?_
    · split
      · exact .ok (.error _)
      · exact hlonger
    · cases hr with
      | error e => exact .ok (.error e)
      | ok h =>
        obtain ⟨front, rest, hlength, rfl, rfl⟩ := h
        exact .ok (.ok ⟨u :: front, rest, congrArg (· + 1) hlength, rfl, rfl⟩)

theorem run_append_congr {g : List Value → Answer} {roles : List DateRole}
    (hg : f.implementation = .eager g) (hreads : ReadsAs roles g)
    (hvw : AlikeAs (roleAt roles as.length) v w) (ha : f.evalArgument as.length a = .ok v)
    (hb : f.evalArgument as.length b = .ok w) : f.run (as ++ a :: bs) = f.run (as ++ b :: bs) := by
  rw [← Nat.zero_add as.length] at ha hb
  rw [run, run, hg]
  refine Follows.eq_of_alike ((follows_evalArguments_append hv hw ha hb).bind fun r r' hr => .ok ?_)
  cases hr with
  | error e => rfl
  | ok h =>
    obtain ⟨front, rest, hlength, rfl, rfl⟩ := h
    rw [← hlength] at hvw
    exact congrArg Value.ofAnswer (hreads (readAlike_append hvw))

end

theorem argKind_of_roles {roles : List DateRole} {index : Nat}
    (hkinds : f.parameters.map Parameter.kind = roles.map DateRole.kind) (hindex : index < roles.length) :
    f.argKind index = (roleAt roles index).kind := by
  refine argKind_eq ?_
  rw [hkinds, List.getElem?_map, roleAt, List.getElem?_eq_getElem hindex]
  rfl

end Function

namespace Formula.Expr

open Date (maxSerial)

variable {s : Scope} {d : Depth}

/-- An argument and one that is the same but for times of day. -/
def LosesTime (s : Scope) (d : Depth) (role : DateRole) (e e' : Expr) : Prop :=
  ∃ v w, HasArgument s d e v role.kind ∧ HasArgument s d e' w role.kind ∧ v.isError = false ∧
    w.isError = false ∧ AlikeAs role v w

theorem losesTime_day {e e' : Expr} {x : Float} (hx : IsTime x) (he : e.eval s d = .ok (.number x))
    (he' : e'.eval s d = .ok (.number (Number.floor x))) : LosesTime s d .day e e' :=
  ⟨_, _, .scalar he rfl, .scalar he' rfl, rfl, rfl, .time hx⟩

theorem eval_call_of_losesTime {p : String × List DateRole} (hp : p ∈ dateRoles)
    {front rest : List Expr} {e e' : Expr} (hindex : front.length < p.2.length)
    (h : LosesTime s d.inside (roleAt p.2 front.length) e e') :
    (call p.1 (front ++ e :: rest)).eval s d = (call p.1 (front ++ e' :: rest)).eval s d := by
  obtain ⟨f, g, hfind, hg, hkinds, hreads⟩ := readsAs_dateRoles p hp
  obtain ⟨v, w, hv, hw, herror, herror', halike⟩ := h
  have hkind := argKind_of_roles hkinds hindex
  have hrun : f.run (delayList s d.inside (front ++ e :: rest)) =
      f.run (delayList s d.inside (front ++ e' :: rest)) := by
    rw [delayList_append, delayList_append]
    refine run_append_congr herror herror' hg hreads ?_ ?_ ?_ <;> rw [length_delayList]
    · exact halike
    · exact hv.evalArgument hkind
    · exact hw.evalArgument hkind
  have hcall : Function.call s.options d.enterNode p.1 (delayList s d.inside (front ++ e :: rest)) =
      Function.call s.options d.enterNode p.1 (delayList s d.inside (front ++ e' :: rest)) := by
    rw [Function.call_eq, Function.call_eq, length_delayList, length_delayList, List.length_append,
      List.length_append, List.length_cons, List.length_cons, hfind]
    simp only [hrun]
  rw [eval, eval, hcall]

/-- No function sees at what time of its day a point in time lies, except that on the last supported day
only midnight is read as that day. -/
theorem eval_call_ignoresTime :
    (∀ x : Float, Number.isFinite x = true → 0 ≤ Number.floorToInt x →
      Number.floorToInt x ≤ maxSerial →
        serialOf (Number.floor x) = .ok (Number.floorToInt x) ∧
        serialOf x = if Number.floorToInt x = maxSerial ∧ Number.isWhole x = false then
            .error (.num "dates after 9999-12-31 are not supported")
          else serialOf (Number.floor x)) ∧
    ∀ p ∈ dateRoles, ∀ (front rest : List Expr) (e e' : Expr), front.length < p.2.length →
      LosesTime s d.inside (roleAt p.2 front.length) e e' →
        (call p.1 (front ++ e :: rest)).eval s d = (call p.1 (front ++ e' :: rest)).eval s d := by
  refine ⟨fun x hfinite hlow hhigh => ?_, fun p hp front rest e e' => eval_call_of_losesTime hp⟩
  have hmidnight := serialOf_floor hlow hhigh hfinite
  exact ⟨hmidnight, hmidnight ▸ serialOf_eq hlow hhigh⟩

/-- The evening of 2024-01-15 as the end of an interval, and the noon of a holiday. -/
theorem eval_call_ignoresTime_evening :
    let s : Scope := ⟨.empty, .standard⟩
    let number (x : Float) : Expr := .literal (.number x)
    let array (x : Float) : Expr := .array [[number x]]
    let unit : Expr := .literal (.text "D")
    serialOf 45306.75 = .ok 45306 ∧ serialOf (Number.floor 45306.75) = .ok 45306 ∧
      ("DATEDIF", [.day, .day, .other]) ∈ dateRoles ∧
      LosesTime s Depth.top.inside .day (number 45306.75) (number (Number.floor 45306.75)) ∧
      (call "DATEDIF" [number 45000, number 45306.75, unit]).eval s .top =
        (call "DATEDIF" [number 45000, number (Number.floor 45306.75), unit]).eval s .top ∧
      ("WORKDAY", [.day, .other, .holidays]) ∈ dateRoles ∧
      LosesTime s Depth.top.inside .holidays (array 45292.5) (array (Number.floor 45292.5)) ∧
      (call "WORKDAY" [number 45289, number 1, array 45292.5]).eval s .top =
        (call "WORKDAY" [number 45289, number 1, array (Number.floor 45292.5)]).eval s .top := by
  intro s number array unit
  have hevening : IsTime 45306.75 :=
    ⟨by decide +kernel, by decide +kernel, by decide +kernel, by decide +kernel⟩
  have hnoon : IsTime 45292.5 :=
    ⟨by decide +kernel, by decide +kernel, by decide +kernel, by decide +kernel⟩
  have hday : Number.floorToInt 45306.75 = 45306 := by decide +kernel
  have hdatedif : ("DATEDIF", [.day, .day, .other]) ∈ dateRoles := by simp [dateRoles]
  have hworkday : ("WORKDAY", [.day, .other, .holidays]) ∈ dateRoles := by simp [dateRoles]
  have hstop : LosesTime s Depth.top.inside .day (number 45306.75) (number (Number.floor 45306.75)) :=
    losesTime_day hevening rfl rfl
  have hholiday :
      LosesTime s Depth.top.inside .holidays (array 45292.5) (array (Number.floor 45292.5)) :=
    ⟨.array [[.number 45292.5]], .array [[.number (Number.floor 45292.5)]], .array rfl, .array rfl,
      rfl, rfl, .cons (.time hnoon) .nil⟩
  obtain ⟨hread, hcalls⟩ := eval_call_ignoresTime (s := s) (d := .top)
  obtain ⟨hmidnight, htime⟩ := hread _ hevening.finite hevening.low hevening.high
  rw [hday] at hmidnight htime
  rw [if_neg (by decide), hmidnight] at htime
  exact ⟨htime, hmidnight, hdatedif, hstop,
    hcalls _ hdatedif [number 45000] [unit] _ _ (by decide) hstop, hworkday, hholiday,
    hcalls _ hworkday [number 45289, number 1] [] _ _ (by decide) hholiday⟩

/-- The noon of the last supported day is not read as that day. -/
theorem eval_year_lastNoon :
    let s : Scope := ⟨.empty, .standard⟩
    let x : Float := 2958465.5
    Number.isFinite x = true ∧ Number.floorToInt x = maxSerial ∧
      serialOf (Number.floor x) = .ok maxSerial ∧
      serialOf x = .error (.num "dates after 9999-12-31 are not supported") ∧
      (call "YEAR" [.literal (.number (Number.floor x))]).eval s .top = .ok (integer 9999) ∧
      (call "YEAR" [.literal (.number x)]).eval s .top =
        .ok (.error (.num "dates after 9999-12-31 are not supported")) := by
  intro s x
  have hfind : find? "YEAR" = some dateFunctions[2] := find?_date (i := 2) (by decide)
  have hcalls : Depth.top.calls < s.options.maxCallDepth := by decide
  have hfinite : Number.isFinite x = true := by decide +kernel
  have hday : Number.floorToInt x = maxSerial := by decide +kernel
  have hlow : 0 ≤ Number.floorToInt x := hday ▸ by decide
  have hmidnight := serialOf_floor hlow hday.le hfinite
  have hnoon := serialOf_eq hlow hday.le
  rw [if_pos ⟨hday, by decide +kernel⟩] at hnoon
  rw [hday] at hmidnight
  have heval (y : Float) : (call "YEAR" [.literal (.number y)]).eval s .top =
      .ok (Value.ofAnswer (datePart Date.year [.number y])).finite :=
    HaveArguments.eval_call hfind rfl (by decide) hcalls (.cons (.scalar rfl rfl) rfl .nil) rfl
  refine ⟨hfinite, hday, hmidnight, hnoon, ?_, ?_⟩
  · have hyear : datePart Date.year [.number (Number.floor x)] = .ok (integer 9999) := by
      have hread : dayArg [.number (Number.floor x)] 0 = .ok maxSerial := hmidnight
      rw [datePart, hread]
      rfl
    rw [heval, hyear]
    exact congrArg Except.ok (finite_integer (by decide))
  · have hyear : datePart Date.year [.number x] =
        .error (.num "dates after 9999-12-31 are not supported") := by
      have hread : dayArg [.number x] 0 = .error (.num "dates after 9999-12-31 are not supported") :=
        hnoon
      rw [datePart, hread]
      rfl
    rw [heval, hyear]
    exact congrArg Except.ok (Value.finite_error _)

end Formula.Expr

end Spreadsheet
