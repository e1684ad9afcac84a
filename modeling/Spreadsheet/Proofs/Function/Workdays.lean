import Spreadsheet.Proofs.Function.Days

/-! Working days. They are counted between two days, and met one by one on the way from a day, so that
the search for the last of a number of them stops behind as many as the count has. -/

namespace Spreadsheet.Function

open Date (isSupported maxSerial)

/-- The working days from one day to another. -/
noncomputable def workdays (hs : List Int) (a b : Int) : Finset Int :=
  (Finset.Icc a b).filter fun n => Date.weekday n < 5 ∧ n ∉ hs

variable {hs : List Int}

theorem isWorkday_iff {n : Int} : isWorkday hs n = true ↔ Date.weekday n < 5 ∧ n ∉ hs := by
  simp [isWorkday]

theorem mapM_dayOf_integer (h : ∀ n ∈ hs, isSupported n = true) :
    ((hs.map integer).filter fun v => !v.isBlank).mapM dayOf = .ok hs := by
  induction hs with
  | nil => rfl
  | cons n hs ih =>
    obtain ⟨hn, hs'⟩ := List.forall_mem_cons.mp h
    change (integer n :: (hs.map integer).filter fun v => !v.isBlank).mapM dayOf = _
    rw [List.mapM_cons, dayOf_integer hn, ih hs']
    rfl

/-! ### Counts between days -/

theorem workdays_eq_empty {a b : Int} (h : b < a) : workdays hs a b = ∅ := by
  rw [workdays, Finset.Icc_eq_empty (Int.not_le.mpr h), Finset.filter_empty]

theorem workdays_subset {a a' b b' : Int} (ha : a' ≤ a) (hb : b ≤ b') :
    workdays hs a b ⊆ workdays hs a' b' :=
  Finset.filter_subset_filter _ (Finset.Icc_subset_Icc ha hb)

theorem card_workdays_le (a b : Int) : (workdays hs a b).card ≤ (b + 1 - a).toNat :=
  (Finset.card_filter_le _ _).trans_eq (Int.card_Icc a b)

section

variable {a b : Int} (h : a ≤ b)
include h

theorem card_workdays_first : (workdays hs a b).card =
    (workdays hs (a + 1) b).card + if isWorkday hs a then 1 else 0 := by
  have hnew : a ∉ workdays hs (a + 1) b := by simp [workdays]
  simp only [isWorkday_iff]
  rw [workdays, ← Finset.insert_Icc_add_one_left_eq_Icc h, Finset.filter_insert, ← workdays]
  split
  · exact Finset.card_insert_of_notMem hnew
  · rfl

theorem card_workdays_last : (workdays hs a b).card =
    (workdays hs a (b - 1)).card + if isWorkday hs b then 1 else 0 := by
  have hnew : b ∉ workdays hs a (b - 1) := by simp [workdays]
  simp only [isWorkday_iff]
  rw [workdays, ← Finset.insert_Icc_sub_one_right_eq_Icc h, Finset.filter_insert, ← workdays]
  split
  · exact Finset.card_insert_of_notMem hnew
  · rfl

end

theorem countWorkdays_eq (days : Nat) (serial : Int) (count : Nat) :
    countWorkdays hs days serial count =
      count + (workdays hs serial (serial + days - 1)).card := by
  induction days generalizing serial count with
  | zero =>
    rw [workdays_eq_empty (by omega)]
    rfl
  | succ days ih =>
    have hlast : serial + 1 + days - 1 = serial + (days + 1 : Nat) - 1 := by omega
    have hle : serial ≤ serial + (days + 1 : Nat) - 1 := by omega
    rw [countWorkdays, ih, hlast, card_workdays_first hle]
    split <;> omega

theorem netWorkdays_eq {v w : Value} {vs : List Value} {a b : Int} (hv : dayOf v = .ok a)
    (hw : dayOf w = .ok b) (hvs : holidays (v :: w :: vs) 2 = .ok hs) :
    netWorkdays (v :: w :: vs) = .ok (.number (Number.withSign (b < a)
      (Number.ofNat (workdays hs (min a b) (max a b)).card))) := by
  have hstart : dayArg (v :: w :: vs) 0 = .ok a := hv
  have hstop : dayArg (v :: w :: vs) 1 = .ok b := hw
  have hlast : min a b + ((a - b).natAbs.succ : Nat) - 1 = max a b := by omega
  rw [netWorkdays, hstart, hstop, hvs]
  change Except.ok (Value.number (Number.withSign _ (Number.ofNat (countWorkdays hs _ _ _)))) = _
  rw [countWorkdays_eq, hlast, Nat.zero_add]

/-! ### The way from a day -/

/-- How many working days are met within some days on the way from a day in a direction. -/
def passed (hs : List Int) (step n : Int) (days : Nat) : Nat :=
  Nat.count (fun i : Nat => isWorkday hs (n + step * (i + 1)) = true) days

theorem passed_succ (step n : Int) (days : Nat) : passed hs step n (days + 1) =
    passed hs step (n + step) days + if isWorkday hs (n + step) then 1 else 0 := by
  have hshift (i : Nat) : n + step * ((i + 1 : Nat) + 1) = n + step + step * (i + 1) := by
    push_cast
    ring
  rw [passed, Nat.count_succ', passed]
  simp only [hshift, Nat.cast_zero, zero_add, mul_one]

theorem passed_ahead (n : Int) (days : Nat) :
    passed hs 1 n days = (workdays hs (n + 1) (n + days)).card := by
  induction days generalizing n with
  | zero =>
    rw [workdays_eq_empty (by omega)]
    rfl
  | succ days ih =>
    have hle : n + 1 ≤ n + (days + 1 : Nat) := by omega
    have hlast : n + 1 + days = n + (days + 1 : Nat) := by omega
    rw [passed_succ, ih, hlast, card_workdays_first hle]

theorem passed_back (n : Int) (days : Nat) :
    passed hs (-1) n days = (workdays hs (n - days) (n - 1)).card := by
  induction days generalizing n with
  | zero =>
    rw [workdays_eq_empty (by omega)]
    rfl
  | succ days ih =>
    have hle : n - (days + 1 : Nat) ≤ n - 1 := by omega
    have hfirst : n + -1 - days = n - (days + 1 : Nat) := by omega
    rw [passed_succ, ih, hfirst, card_workdays_last hle]
    rfl

/-- The search in a direction in which so many days are supported ends on the working day that makes
up the number, or there are not as many. -/
theorem passWorkdays_passed {step n : Int} {fuel remaining room : Nat}
    (hroom : ∀ i : Nat, isSupported (n + step * (i + 1)) = true ↔ i < room) (hfuel : room ≤ fuel) :
    (∀ w, passWorkdays hs step fuel remaining n = some w → ∃ days ≤ room, w = n + step * days ∧
      passed hs step n days = remaining ∧ (days ≠ 0 → isWorkday hs w = true)) ∧
    (passWorkdays hs step fuel remaining n = none → passed hs step n room < remaining) := by
  fun_induction passWorkdays hs step fuel remaining n generalizing room
  case case1 fuel n =>
    refine ⟨fun w hw => ?_, fun h => by cases h⟩
    cases hw
    exact ⟨0, room.zero_le, by simp, rfl, fun h => absurd rfl h⟩
  case case2 n remaining =>
    obtain rfl : room = 0 := Nat.le_zero.mp hfuel
    exact ⟨fun w hw => (by cases hw), fun _ => Nat.succ_pos _⟩
  case case3 fuel remaining n next hnext ih =>
    have hfirst : 0 < room := (hroom 0).mp (by simpa using hnext)
    obtain ⟨room, rfl⟩ := Nat.exists_eq_add_one.mpr hfirst
    have hshift (i : Nat) : n + step * ((i + 1 : Nat) + 1) = next + step * (i + 1) := by
      push_cast
      ring
    obtain ⟨hsome, hnone⟩ := ih (fun i => by rw [← hshift, hroom, Nat.add_lt_add_iff_right])
      (Nat.le_of_succ_le_succ hfuel)
    refine ⟨fun w hw => ?_, fun h => ?_⟩
    · obtain ⟨days, hdays, rfl, hpassed, hlast⟩ := hsome w hw
      refine ⟨days + 1, Nat.succ_le_succ hdays, by push_cast; ring, ?_, fun _ => ?_⟩
      · rw [passed_succ, hpassed]
        split <;> rfl
      · -- If the search has ended here, then with this day, which therefore counts.
        rcases Nat.eq_zero_or_pos days with rfl | hpos
        · by_contra hwork
          rw [Nat.cast_zero, mul_zero, add_zero] at hwork
          rw [if_neg hwork] at hpassed
          cases hpassed
        · exact hlast hpos.ne'
    · have hless := hnone h
      rw [passed_succ]
      split at hless
      · rw [if_pos ‹_›]
        exact Nat.succ_lt_succ hless
      · rwa [if_neg ‹_›]
  case case4 fuel remaining n next hnext =>
    have hlast : ¬0 < room := fun h => hnext (by simpa using (hroom 0).mpr h)
    obtain rfl : room = 0 := Nat.eq_zero_of_not_pos hlast
    exact ⟨fun w hw => (by cases hw), fun _ => Nat.succ_pos _⟩

section

variable {a w : Int} {n : Nat} (ha : isSupported a = true) (hn : n ≠ 0)
include ha hn

theorem passWorkdays_ahead :
    (passWorkdays hs 1 2958466 n a = some w → isSupported w = true ∧ isWorkday hs w = true ∧
      a < w ∧ (workdays hs (a + 1) w).card = n) ∧
    (passWorkdays hs 1 2958466 n a = none → (workdays hs (a + 1) maxSerial).card < n) := by
  obtain ⟨hlow, hhigh⟩ := isSupported_iff.mp ha
  have hlimit : maxSerial = 2958465 := rfl
  have hroom (i : Nat) : isSupported (a + 1 * (i + 1)) = true ↔ i < (maxSerial - a).toNat := by
    rw [isSupported_iff]
    omega
  obtain ⟨hsome, hnone⟩ := passWorkdays_passed hroom (show _ ≤ 2958466 by omega)
  refine ⟨fun hw => ?_, fun h => ?_⟩
  · obtain ⟨days, hdays, rfl, hpassed, hlast⟩ := hsome w hw
    have hmoved : days ≠ 0 := fun h => hn (by rw [← hpassed, h]; rfl)
    rw [passed_ahead] at hpassed
    rw [one_mul] at hlast ⊢
    exact ⟨isSupported_iff.mpr (by omega), hlast hmoved, by omega, hpassed⟩
  · have hend : a + (maxSerial - a).toNat = maxSerial := by omega
    have hless := hnone h
    rwa [passed_ahead, hend] at hless

theorem passWorkdays_back :
    (passWorkdays hs (-1) 2958466 n a = some w → isSupported w = true ∧ isWorkday hs w = true ∧
      w < a ∧ (workdays hs w (a - 1)).card = n) ∧
    (passWorkdays hs (-1) 2958466 n a = none → (workdays hs 0 (a - 1)).card < n) := by
  obtain ⟨hlow, hhigh⟩ := isSupported_iff.mp ha
  have hlimit : maxSerial = 2958465 := rfl
  have hroom (i : Nat) : isSupported (a + -1 * (i + 1)) = true ↔ i < a.toNat := by
    rw [isSupported_iff]
    omega
  obtain ⟨hsome, hnone⟩ := passWorkdays_passed hroom (show _ ≤ 2958466 by omega)
  refine ⟨fun hw => ?_, fun h => ?_⟩
  · obtain ⟨days, hdays, rfl, hpassed, hlast⟩ := hsome w hw
    have hmoved : days ≠ 0 := fun h => hn (by rw [← hpassed, h]; rfl)
    rw [passed_back] at hpassed
    rw [neg_one_mul, ← sub_eq_add_neg] at hlast ⊢
    exact ⟨isSupported_iff.mpr (by omega), hlast hmoved, by omega, hpassed⟩
  · have hend : a - a.toNat = 0 := by omega
    have hless := hnone h
    rwa [passed_back, hend] at hless

end

/-- The working days of the supported calendar behind a day, or those before it if the number of
working days that are meant is negative. -/
noncomputable def workdaysLeft (hs : List Int) (a k : Int) : Finset Int :=
  if 0 < k then workdays hs (a + 1) maxSerial else workdays hs 0 (a - 1)

/-- Whether a day is the working day that a number of working days lead to. -/
structure IsWorkdayAfter (hs : List Int) (a k w : Int) : Prop where
  supported : isSupported w = true
  workday (h : k ≠ 0) : Date.weekday w < 5 ∧ w ∉ hs
  start (h : k = 0) : w = a
  ahead (h : 0 < k) : a < w ∧ (workdays hs (a + 1) w).card = k
  back (h : k < 0) : w < a ∧ (workdays hs w (a - 1)).card = -k

theorem IsWorkdayAfter.le_card {a k w : Int} (h : IsWorkdayAfter hs a k w) :
    k.natAbs ≤ (workdaysLeft hs a k).card := by
  obtain ⟨hlow, hhigh⟩ := isSupported_iff.mp h.supported
  rw [workdaysLeft]
  split
  · have hle : (workdays hs (a + 1) w).card ≤ (workdays hs (a + 1) maxSerial).card :=
      Finset.card_le_card (workdays_subset le_rfl hhigh)
    have hcard := (h.ahead ‹_›).2
    omega
  · rcases Int.lt_or_le k 0 with hneg | hpos
    · have hle : (workdays hs w (a - 1)).card ≤ (workdays hs 0 (a - 1)).card :=
        Finset.card_le_card (workdays_subset hlow le_rfl)
      have hcard := (h.back hneg).2
      omega
    · omega

theorem passWorkdays_natAbs {a : Int} (ha : isSupported a = true) (k : Int) :
    (∀ w, passWorkdays hs (if 0 < k then 1 else -1) 2958466 k.natAbs a = some w →
      IsWorkdayAfter hs a k w) ∧
    (passWorkdays hs (if 0 < k then 1 else -1) 2958466 k.natAbs a = none →
      (workdaysLeft hs a k).card < k.natAbs) := by
  rw [workdaysLeft]
  rcases Int.lt_trichotomy k 0 with hneg | rfl | hpos
  · rw [if_neg hneg.not_gt, if_neg hneg.not_gt]
    have hn : k.natAbs ≠ 0 := by omega
    refine ⟨fun w hw => ?_, (passWorkdays_back (w := a) ha hn).2⟩
    obtain ⟨hsupported, hwork, hlt, hcard⟩ := (passWorkdays_back ha hn).1 hw
    exact {
      supported := hsupported
      workday _ := isWorkday_iff.mp hwork
      start _ := by omega
      ahead _ := by omega
      back _ := by omega }
  · refine ⟨fun w hw => ?_, fun h => by cases h⟩
    cases hw
    exact {
      supported := ha
      workday h := absurd rfl h
      start _ := rfl
      ahead h := absurd h (lt_irrefl _)
      back h := absurd h (lt_irrefl _) }
  · rw [if_pos hpos, if_pos hpos]
    have hn : k.natAbs ≠ 0 := by omega
    refine ⟨fun w hw => ?_, (passWorkdays_ahead (w := a) ha hn).2⟩
    obtain ⟨hsupported, hwork, hlt, hcard⟩ := (passWorkdays_ahead ha hn).1 hw
    exact {
      supported := hsupported
      workday _ := isWorkday_iff.mp hwork
      start _ := by omega
      ahead _ := by omega
      back _ := by omega }

theorem workday_eq {v w : Value} {vs : List Value} {a k : Int} (hv : dayOf v = .ok a)
    (ha : isSupported a = true) (hw : w.toInteger = .ok k)
    (hvs : holidays (v :: w :: vs) 2 = .ok hs) :
    if maxSerial < k.natAbs ∨ (workdaysLeft hs a k).card < k.natAbs then
      ∃ detail, workday (v :: w :: vs) = .error (.num detail)
    else ∃ n, workday (v :: w :: vs) = .ok (integer n) ∧ IsWorkdayAfter hs a k n := by
  have hstart : dayArg (v :: w :: vs) 0 = .ok a := hv
  have hdays : intArg (v :: w :: vs) 1 = .ok k := hw
  rw [workday, hstart, hdays, hvs]
  simp only [bind, Except.bind]
  by_cases hmany : maxSerial < k.natAbs
  · rw [if_pos (.inl hmany), if_pos hmany]
    exact ⟨_, rfl⟩
  · rw [if_neg hmany]
    cases hpass : passWorkdays hs (if 0 < k then 1 else -1) 2958466 k.natAbs a with
    | none =>
      have hless := (passWorkdays_natAbs ha k).2 hpass
      rw [if_pos (.inr hless)]
      exact ⟨_, rfl⟩
    | some n =>
      have hafter := (passWorkdays_natAbs ha k).1 n hpass
      rw [if_neg (not_or.mpr ⟨hmany, hafter.le_card.not_gt⟩)]
      exact ⟨n, rfl, hafter⟩

/-- The way from a day that is not supported may lead to one that is, and ends at once if no working
days are to be passed. -/
theorem isSupported_of_passWorkdays {step n w : Int} {fuel remaining : Nat}
    (h : passWorkdays hs step fuel remaining n = some w) :
    (remaining = 0 → w = n) ∧ (remaining ≠ 0 → isSupported w = true) := by
  fun_induction passWorkdays hs step fuel remaining n
  case case1 fuel n =>
    cases h
    exact ⟨fun _ => rfl, fun h => absurd rfl h⟩
  case case2 n remaining => cases h
  case case3 fuel remaining n next hnext ih =>
    refine ⟨nofun, fun _ => ?_⟩
    obtain ⟨hlast, hmore⟩ := ih h
    by_cases hremaining : (if isWorkday hs next then remaining else remaining + 1) = 0
    · rwa [hlast hremaining]
    · exact hmore hremaining
  case case4 fuel remaining n next hnext => cases h

theorem gives_workday (v w : Value) (vs : List Value) : Gives (fun r => ∃ a k n, dayOf v = .ok a ∧
    w.toInteger = .ok k ∧ (k = 0 → n = a) ∧ (k ≠ 0 → isSupported n = true) ∧ r = integer n)
    (workday (v :: w :: vs)) := by
  intro r h
  obtain ⟨a, ha, h⟩ := exists_ok_of_bind h
  obtain ⟨k, hk, h⟩ := exists_ok_of_bind h
  obtain ⟨hs, -, h⟩ := exists_ok_of_bind h
  split at h
  · cases h
  split at h
  · rename_i n hn
    cases h
    obtain ⟨hlast, hmore⟩ := isSupported_of_passWorkdays hn
    exact ⟨a, k, n, ha, hk, fun h => hlast (Int.natAbs_eq_zero.mpr h),
      fun h => hmore (Int.natAbs_ne_zero.mpr h), rfl⟩
  · cases h

end Spreadsheet.Function
