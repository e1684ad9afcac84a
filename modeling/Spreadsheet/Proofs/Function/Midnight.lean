import Spreadsheet.Proofs.Function.Days

/-! Days without their time. A point in time is read as the day in which it lies, unless it lies behind the
midnight with which the last supported day starts, and no function sees more of it. -/

namespace Spreadsheet.Function

open Date (maxSerial)

/-! ### Points in time -/

section

variable {x : Float} (hlow : 0 ≤ Number.floorToInt x) (hhigh : Number.floorToInt x ≤ maxSerial)
include hlow hhigh

theorem serialOf_eq : serialOf x =
    if Number.floorToInt x = maxSerial ∧ Number.isWhole x = false then
      .error (.num "dates after 9999-12-31 are not supported")
    else .ok (Number.floorToInt x) := by
  rw [serialOf]
  simp only [if_neg (Int.not_lt.mpr hlow), Int.not_lt.mpr hhigh, false_or, Bool.not_eq_true']

theorem serialOf_floor (hfinite : Number.isFinite x = true) :
    serialOf (Number.floor x) = .ok (Number.floorToInt x) := by
  have hfloor : Number.floorToInt (Number.floor x) = Number.floorToInt x :=
    Number.floorToInt_floor hlow (hhigh.trans_lt (by decide))
  have hwhole : Number.floorToInt x = maxSerial → Number.isWhole (Number.floor x) = true := by
    intro hlast
    have hmidnight : Number.floor x = Number.ofInt maxSerial := by
      rw [Number.floor, Number.integral, if_pos hfinite, hlast]
      rfl
    rw [hmidnight]
    decide +kernel
  rw [serialOf_eq (hfloor.symm ▸ hlow) (hfloor.symm ▸ hhigh), hfloor, if_neg]
  rintro ⟨hlast, hfraction⟩
  rw [hwhole hlast] at hfraction
  cases hfraction

end

/-- A point in time that is read as the day in which it lies. -/
structure IsTime (x : Float) : Prop where
  finite : Number.isFinite x = true
  low : 0 ≤ Number.floorToInt x
  high : Number.floorToInt x ≤ maxSerial
  whole : Number.floorToInt x = maxSerial → Number.isWhole x = true

theorem IsTime.dayOf_floor {x : Float} (h : IsTime x) :
    dayOf (.number (Number.floor x)) = dayOf (.number x) := by
  change serialOf (Number.floor x) = serialOf x
  rw [serialOf_floor h.low h.high h.finite, serialOf_eq h.low h.high, if_neg]
  rintro ⟨hlast, hfraction⟩
  rw [h.whole hlast] at hfraction
  cases hfraction

/-- A value and the same one without the time of day that it may have. -/
inductive WithoutTime : Value → Value → Prop
  | same (v : Value) : WithoutTime v v
  | time {x : Float} (hx : IsTime x) : WithoutTime (.number x) (.number (Number.floor x))

namespace WithoutTime

variable {v w : Value} (h : WithoutTime v w)
include h

theorem dayOf_eq : dayOf v = dayOf w := by
  cases h with
  | same => rfl
  | time hx => exact hx.dayOf_floor.symm

theorem isBlank_eq : v.isBlank = w.isBlank := by cases h <;> rfl

end WithoutTime

/-! ### What functions see of their arguments -/

/-- What a date function reads an argument as. -/
inductive DateRole where
  | day
  | holidays
  | other
  deriving DecidableEq

def DateRole.kind : DateRole → ArgKind
  | .holidays => .array
  | _ => .scalar

def roleAt (roles : List DateRole) (index : Nat) : DateRole := roles[index]?.getD .other

/-- Arguments that are read alike in the roles that they have. -/
structure ReadAlike (roles : List DateRole) (vs ws : List Value) : Prop where
  day {i : Nat} (h : roleAt roles i = .day) : dayArg vs i = dayArg ws i
  holidays {i : Nat} (h : roleAt roles i = .holidays) : holidays vs i = holidays ws i
  other {i : Nat} (h : roleAt roles i = .other) : vs[i]? = ws[i]?

/-- Two values that are read alike in a role. -/
def AlikeAs : DateRole → Value → Value → Prop
  | .day, v, w => WithoutTime v w
  | .holidays, v, w => List.Forall₂ WithoutTime (elements v) (elements w)
  | .other, v, w => v = w

theorem mapM_dayOf_eq {vs ws : List Value} (h : List.Forall₂ WithoutTime vs ws) :
    (vs.filter fun v => !v.isBlank).mapM dayOf = (ws.filter fun w => !w.isBlank).mapM dayOf := by
  have hpresent : List.Forall₂ WithoutTime (vs.filter fun v => !v.isBlank)
      (ws.filter fun w => !w.isBlank) :=
    List.rel_filter (fun v w hvw => by simp only [hvw.isBlank_eq]) h
  exact mapM_eq_of_forall₂ (hpresent.imp fun _ _ hvw => hvw.dayOf_eq)

section

variable {vs ws : List Value} {i : Nat} (h : vs[i]? = ws[i]?)
include h

theorem dayArg_congr : dayArg vs i = dayArg ws i := by rw [dayArg, dayArg, h]

theorem holidays_congr : holidays vs i = holidays ws i := by rw [holidays, holidays, h]

theorem argument_congr : argument vs i = argument ws i := by rw [argument, argument, h]

theorem numberArg_congr : numberArg vs i = numberArg ws i := by
  rw [numberArg, numberArg, argument_congr h]

theorem intArg_congr : intArg vs i = intArg ws i := by rw [intArg, intArg, numberArg_congr h]

theorem textArg_congr : textArg vs i = textArg ws i := by rw [textArg, textArg, argument_congr h]

theorem optNumber_congr (default : Float) : optNumber vs i default = optNumber ws i default := by
  rw [optNumber, optNumber, optional, optional, h]

theorem optWhole_congr (default : Float) : optWhole vs i default = optWhole ws i default := by
  rw [optWhole, optWhole, optNumber_congr h]

end

theorem getElem?_append_cons_of_ne {front rest : List Value} {v w : Value} {i : Nat}
    (h : i ≠ front.length) : (front ++ v :: rest)[i]? = (front ++ w :: rest)[i]? := by
  rcases Nat.lt_or_gt_of_ne h with hlt | hgt
  · rw [List.getElem?_append_left hlt, List.getElem?_append_left hlt]
  · obtain ⟨k, rfl⟩ := Nat.exists_eq_add_of_lt hgt
    have hbehind : front.length + k + 1 - front.length = k + 1 := by omega
    rw [List.getElem?_append_right (by omega), List.getElem?_append_right (by omega), hbehind]
    rfl

theorem readAlike_append {roles : List DateRole} {front rest : List Value} {v w : Value}
    (h : AlikeAs (roleAt roles front.length) v w) :
    ReadAlike roles (front ++ v :: rest) (front ++ w :: rest) := by
  have hat (u : Value) : (front ++ u :: rest)[front.length]? = some u := by
    rw [List.getElem?_append_right le_rfl, Nat.sub_self]
    rfl
  constructor
  case day =>
    intro i hi
    obtain hindex | rfl := ne_or_eq i front.length
    · exact dayArg_congr (getElem?_append_cons_of_ne hindex)
    · rw [hi] at h
      rw [dayArg, dayArg, hat, hat]
      exact WithoutTime.dayOf_eq h
  case holidays =>
    intro i hi
    obtain hindex | rfl := ne_or_eq i front.length
    · exact holidays_congr (getElem?_append_cons_of_ne hindex)
    · rw [hi] at h
      rw [holidays, holidays, hat, hat]
      exact mapM_dayOf_eq h
  case other =>
    intro i hi
    obtain hindex | rfl := ne_or_eq i front.length
    · exact getElem?_append_cons_of_ne hindex
    · rw [hi] at h
      rw [hat, hat]
      exact congrArg some h

/-- A function that sees nothing of its arguments but what it reads them as. -/
def ReadsAs (roles : List DateRole) (g : List Value → Answer) : Prop :=
  ∀ ⦃vs ws : List Value⦄, ReadAlike roles vs ws → g vs = g ws

theorem readsAs_datePart (part : Date → Int) : ReadsAs [.day] (datePart part) := by
  intro vs ws h
  rw [datePart, datePart, h.day rfl]

theorem readsAs_weekday : ReadsAs [.day, .other] weekday := by
  intro vs ws h
  rw [weekday, weekday, h.day rfl, optWhole_congr (h.other rfl)]

theorem readsAs_weekNumber : ReadsAs [.day, .other] weekNumber := by
  intro vs ws h
  rw [weekNumber, weekNumber, h.day rfl, optWhole_congr (h.other rfl)]

theorem readsAs_monthsLater : ReadsAs [.day, .other] monthsLater := by
  intro vs ws h
  rw [monthsLater, monthsLater, h.day rfl, intArg_congr (h.other rfl)]

theorem readsAs_endOfMonth : ReadsAs [.day, .other] endOfMonth := by
  intro vs ws h
  rw [endOfMonth, endOfMonth, h.day rfl, intArg_congr (h.other rfl)]

theorem readsAs_netWorkdays : ReadsAs [.day, .day, .holidays] netWorkdays := by
  intro vs ws h
  rw [netWorkdays, netWorkdays, h.day (i := 0) rfl, h.day (i := 1) rfl, h.holidays rfl]

theorem readsAs_workday : ReadsAs [.day, .other, .holidays] workday := by
  intro vs ws h
  rw [workday, workday, h.day rfl, intArg_congr (h.other rfl), h.holidays rfl]

theorem readsAs_yearFraction : ReadsAs [.day, .day, .other] yearFraction := by
  intro vs ws h
  rw [yearFraction, yearFraction, h.day (i := 0) rfl, h.day (i := 1) rfl,
    optNumber_congr (h.other rfl)]

theorem readsAs_daysBetween : ReadsAs [.day, .day] daysBetween := by
  intro vs ws h
  rw [daysBetween, daysBetween, h.day (i := 0) rfl, h.day (i := 1) rfl]

theorem readsAs_dateDifference : ReadsAs [.day, .day, .other] dateDifference := by
  intro vs ws h
  rw [dateDifference, dateDifference, h.day (i := 0) rfl, h.day (i := 1) rfl,
    textArg_congr (h.other rfl)]

/-- The functions that take days, with what they read their arguments as. -/
def dateRoles : List (String × List DateRole) :=
  [("YEAR", [.day]), ("MONTH", [.day]), ("DAY", [.day]), ("WEEKDAY", [.day, .other]),
    ("WEEKNUM", [.day, .other]), ("EDATE", [.day, .other]), ("EOMONTH", [.day, .other]),
    ("NETWORKDAYS", [.day, .day, .holidays]), ("WORKDAY", [.day, .other, .holidays]),
    ("YEARFRAC", [.day, .day, .other]), ("DAYS", [.day, .day]), ("DATEDIF", [.day, .day, .other])]

theorem readsAs_dateRoles : ∀ p ∈ dateRoles, ∃ f g, find? p.1 = some f ∧
    f.implementation = .eager g ∧ f.parameters.map Parameter.kind = p.2.map DateRole.kind ∧
    ReadsAs p.2 g := by
  have hfind {i : Nat} (hi : i < dateFunctions.length) := find?_date hi
  simp only [dateRoles, List.forall_mem_cons, List.not_mem_nil, false_implies, implies_true, and_true]
  exact ⟨⟨_, _, hfind (i := 2) (by decide), rfl, rfl, readsAs_datePart _⟩,
    ⟨_, _, hfind (i := 3) (by decide), rfl, rfl, readsAs_datePart _⟩,
    ⟨_, _, hfind (i := 4) (by decide), rfl, rfl, readsAs_datePart _⟩,
    ⟨_, _, hfind (i := 5) (by decide), rfl, rfl, readsAs_weekday⟩,
    ⟨_, _, hfind (i := 6) (by decide), rfl, rfl, readsAs_weekNumber⟩,
    ⟨_, _, hfind (i := 7) (by decide), rfl, rfl, readsAs_monthsLater⟩,
    ⟨_, _, hfind (i := 8) (by decide), rfl, rfl, readsAs_endOfMonth⟩,
    ⟨_, _, hfind (i := 9) (by decide), rfl, rfl, readsAs_netWorkdays⟩,
    ⟨_, _, hfind (i := 10) (by decide), rfl, rfl, readsAs_workday⟩,
    ⟨_, _, hfind (i := 11) (by decide), rfl, rfl, readsAs_yearFraction⟩,
    ⟨_, _, hfind (i := 12) (by decide), rfl, rfl, readsAs_daysBetween⟩,
    ⟨_, _, hfind (i := 13) (by decide), rfl, rfl, readsAs_dateDifference⟩⟩

end Spreadsheet.Function
