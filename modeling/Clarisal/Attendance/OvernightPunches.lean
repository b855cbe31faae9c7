import Clarisal.Attendance.DayPay

/-!
# Punches of a night

A web punch counts for the date that the clocks show. A night has two of them: whoever checks
in at ten in the evening and out at six in the morning checks out on a date that knows of no
check-in, and is told to check in first (`checkOut_refused_after_midnight`).

The check-out is taken exactly when the date on the clocks has been overridden or has a punch
in its own bounds (`hasCheckIn_iff`). The date of the night then shows both times unless an
override, an earlier check-in or a later check-out takes their place
(`checkOut_shown_iff`).
-/

open Calendar

namespace Attendance

open Approvals (EmployeeId)

/-! ## The interval of the punches -/

section

variable {punches : List AttendancePunch} {i o : ℤ}

/-- The instants of the punches of a kind. -/
def timesOf (type : AttendancePunchActionType) (punches : List AttendancePunch) : List ℤ :=
  (punches.filter (fun p => p.actionType = type)).map AttendancePunch.punchAt

theorem mem_timesOf {type : AttendancePunchActionType} {t : ℤ} :
    t ∈ timesOf type punches ↔ ∃ p ∈ punches, p.actionType = type ∧ p.punchAt = t := by
  unfold timesOf
  simp only [List.mem_map, List.mem_filter, decide_eq_true_eq, and_assoc]

theorem pickIntervalFromPunches_fst_isSome :
    (pickIntervalFromPunches punches).1.isSome = true ↔ punches ≠ [] := by
  cases punches with
  | nil => simp [pickIntervalFromPunches]
  | cons p rest => simp [pickIntervalFromPunches]

/-- The first check-in begins the interval. -/
theorem pickIntervalFromPunches_fst (hi : i ∈ timesOf .checkIn punches) :
    (pickIntervalFromPunches punches).1 = (timesOf .checkIn punches).min? := by
  cases punches with
  | nil => cases hi
  | cons p rest =>
    show some ((timesOf .checkIn (p :: rest)).min?.getD p.punchAt) = _
    cases hmin : (timesOf .checkIn (p :: rest)).min? with
    | none => rw [List.min?_eq_none_iff.mp hmin] at hi; cases hi
    | some t => rfl

/-- **The interval begins with a check-in** exactly when there is none before. -/
theorem pickIntervalFromPunches_fst_iff (hi : i ∈ timesOf .checkIn punches) :
    (pickIntervalFromPunches punches).1 = some i ↔ ∀ t ∈ timesOf .checkIn punches, i ≤ t := by
  rw [pickIntervalFromPunches_fst hi, List.min?_eq_some_iff]
  exact and_iff_right hi

/-- The last check-out that is not before the first check-in ends the interval. -/
theorem pickIntervalFromPunches_snd {first last : ℤ}
    (hfirst : (pickIntervalFromPunches punches).1 = some first)
    (hlast : ((timesOf .checkOut punches).filter (fun t => first ≤ t)).max? = some last) :
    (pickIntervalFromPunches punches).2 = some last := by
  cases punches with
  | nil => cases hfirst
  | cons p rest =>
    obtain rfl : (timesOf .checkIn (p :: rest)).min?.getD p.punchAt = first :=
      Option.some.inj hfirst
    unfold timesOf at hlast
    unfold pickIntervalFromPunches
    dsimp only
    rw [hlast]

/-- **The interval ends with a check-out** after a check-in exactly when there is none later. -/
theorem pickIntervalFromPunches_snd_iff (hi : i ∈ timesOf .checkIn punches)
    (ho : o ∈ timesOf .checkOut punches) (hlt : i < o) :
    (pickIntervalFromPunches punches).2 = some o ↔ ∀ t ∈ timesOf .checkOut punches, t ≤ o := by
  obtain ⟨first, hfirst⟩ := Option.isSome_iff_exists.mp
    (pickIntervalFromPunches_fst_isSome.mpr (fun hnil : punches = [] => by cases hnil ▸ hi))
  have hle : first ≤ i :=
    (List.min?_eq_some_iff.mp ((pickIntervalFromPunches_fst hi).symm.trans hfirst)).2 i hi
  have hvalid : o ∈ (timesOf .checkOut punches).filter (fun t => first ≤ t) :=
    List.mem_filter.mpr ⟨ho, decide_eq_true (hle.trans hlt.le)⟩
  cases hmax : ((timesOf .checkOut punches).filter (fun t => first ≤ t)).max? with
  | none => rw [List.max?_eq_none_iff.mp hmax] at hvalid; cases hvalid
  | some last =>
    obtain ⟨hlast, hall⟩ := List.max?_eq_some_iff.mp hmax
    rw [pickIntervalFromPunches_snd hfirst hmax, Option.some_inj]
    constructor
    · rintro rfl t ht
      by_cases hft : first ≤ t
      · exact hall t (List.mem_filter.mpr ⟨ht, decide_eq_true hft⟩)
      · exact (not_le.mp hft).le.trans (hle.trans hlt.le)
    · intro h
      exact le_antisymm (h last (List.mem_of_mem_filter hlast)) (hall o hvalid)

end

/-! ## What a date knows -/

section

variable (setup : AttendanceSetup) (employee : EmployeeId) (date : Date)
  (punches : List StoredPunch)

theorem checkInAt_summarizeDay :
    (summarizeDay setup employee date punches).checkInAt
      = (setup.intervalOf employee date punches).1 := by
  unfold summarizeDay AttendanceSetup.intervalOf
  cases getAttendanceOverride setup employee date <;> rfl

theorem checkOutAt_summarizeDay :
    (summarizeDay setup employee date punches).checkOutAt
      = (setup.intervalOf employee date punches).2 := by
  unfold summarizeDay AttendanceSetup.intervalOf
  cases getAttendanceOverride setup employee date <;> rfl

/-- A punch in the bounds of a date. -/
def AttendanceSetup.OfDate (p : StoredPunch) : Prop :=
  p.employee = employee
    ∧ (setup.boundsOf employee date).Contains (setup.policyOf employee).timezone p.punchAt

instance (p : StoredPunch) : Decidable (setup.OfDate employee date p) :=
  inferInstanceAs (Decidable (_ ∧ _))

theorem mem_punchesOf {p : StoredPunch} :
    p ∈ setup.punchesOf employee date punches ↔ p ∈ punches ∧ setup.OfDate employee date p := by
  unfold AttendanceSetup.punchesOf AttendanceSetup.OfDate
  rw [List.mem_insertionSort, List.mem_filter, decide_eq_true_iff]

/-- **A date knows of a check-in**: it has been overridden, or has a punch. -/
def AttendanceSetup.HasCheckIn : Prop :=
  (getAttendanceOverride setup employee date).isSome = true
    ∨ ∃ p ∈ punches, setup.OfDate employee date p

instance : Decidable (setup.HasCheckIn employee date punches) :=
  inferInstanceAs (Decidable (_ ∨ ∃ p ∈ punches, _))

theorem hasCheckIn_iff :
    (summarizeDay setup employee date punches).checkInAt.isSome = true
      ↔ setup.HasCheckIn employee date punches := by
  rw [checkInAt_summarizeDay]
  unfold AttendanceSetup.intervalOf AttendanceSetup.HasCheckIn
  cases getAttendanceOverride setup employee date with
  | some record => exact iff_of_true rfl (Or.inl rfl)
  | none =>
    show (pickIntervalFromPunches _).1.isSome = true ↔ _
    rw [pickIntervalFromPunches_fst_isSome, ne_eq, List.map_eq_nil_iff,
      List.eq_nil_iff_forall_not_mem]
    simp only [mem_punchesOf, Option.isSome_none, Bool.false_eq_true, false_or, not_forall,
      not_not]

/-- **The times of a check-in and a check-out are those of the date**: an override has them,
or no check-in of the date is earlier and no check-out later. -/
def AttendanceSetup.ShowsTimes (checkInAt checkOutAt : ℤ) : Prop :=
  match getAttendanceOverride setup employee date with
  | some record => record.checkInAt = checkInAt ∧ record.checkOutAt = some checkOutAt
  | none => ∀ p ∈ punches, setup.OfDate employee date p →
    (p.actionType = .checkIn → checkInAt ≤ p.punchAt)
      ∧ (p.actionType = .checkOut → p.punchAt ≤ checkOutAt)

variable {setup employee date punches} {checkIn checkOut : StoredPunch}

theorem mem_timesOf_punchesOf {type : AttendancePunchActionType} {t : ℤ} :
    t ∈ timesOf type ((setup.punchesOf employee date punches).map StoredPunch.toAttendancePunch)
      ↔ ∃ p ∈ punches, setup.OfDate employee date p ∧ p.actionType = type ∧ p.punchAt = t := by
  rw [mem_timesOf]
  constructor
  · rintro ⟨_, hmem, htype⟩
    obtain ⟨p, hp, rfl⟩ := List.mem_map.mp hmem
    obtain ⟨hp, hdate⟩ := (mem_punchesOf setup employee date punches).mp hp
    exact ⟨p, hp, hdate, htype⟩
  · rintro ⟨p, hp, hdate, htype⟩
    exact ⟨p.toAttendancePunch,
      List.mem_map_of_mem ((mem_punchesOf setup employee date punches).mpr ⟨hp, hdate⟩), htype⟩

/-- **A date shows the times of two punches** exactly when nothing takes their place. -/
theorem showsTimes_iff (hin : checkIn ∈ punches) (hout : checkOut ∈ punches)
    (hinDate : setup.OfDate employee date checkIn)
    (houtDate : setup.OfDate employee date checkOut)
    (hinType : checkIn.actionType = .checkIn) (houtType : checkOut.actionType = .checkOut)
    (hlt : checkIn.punchAt < checkOut.punchAt) :
    ((summarizeDay setup employee date punches).checkInAt = some checkIn.punchAt
        ∧ (summarizeDay setup employee date punches).checkOutAt = some checkOut.punchAt)
      ↔ setup.ShowsTimes employee date punches checkIn.punchAt checkOut.punchAt := by
  rw [checkInAt_summarizeDay, checkOutAt_summarizeDay]
  unfold AttendanceSetup.intervalOf AttendanceSetup.ShowsTimes
  cases getAttendanceOverride setup employee date with
  | some record =>
    show some record.checkInAt = some _ ∧ _ ↔ _
    rw [Option.some_inj]
  | none =>
    have hi := mem_timesOf_punchesOf.mpr ⟨checkIn, hin, hinDate, hinType, rfl⟩
    have ho := mem_timesOf_punchesOf.mpr ⟨checkOut, hout, houtDate, houtType, rfl⟩
    dsimp only
    rw [pickIntervalFromPunches_fst_iff hi, pickIntervalFromPunches_snd_iff hi ho hlt]
    constructor
    · rintro ⟨hfirst, hlast⟩ p hp hdate
      exact ⟨fun htype => hfirst _ (mem_timesOf_punchesOf.mpr ⟨p, hp, hdate, htype, rfl⟩),
        fun htype => hlast _ (mem_timesOf_punchesOf.mpr ⟨p, hp, hdate, htype, rfl⟩)⟩
    · intro h
      constructor
      · intro t ht
        obtain ⟨p, hp, hdate, htype, rfl⟩ := mem_timesOf_punchesOf.mp ht
        exact (h p hp hdate).1 htype
      · intro t ht
        obtain ⟨p, hp, hdate, htype, rfl⟩ := mem_timesOf_punchesOf.mp ht
        exact (h p hp hdate).2 htype

end

/-! ## The night -/

section

variable (setup : AttendanceSetup)

/-- **A web punch is taken.** -/
def Accepted (r : PunchRequest) (st : AttendanceState) : Prop :=
  checkSource setup r = .ok ()
    ∧ checkAction r.actionType (summarizeDay setup r.employee (r.today setup) st.punches) = .ok ()

instance (r : PunchRequest) (st : AttendanceState) : Decidable (Accepted setup r st) :=
  inferInstanceAs (Decidable (_ ∧ _))

/-- **A check-in and the check-out after it**, both in the bounds of a date, which are the shift
and six hours around it; the employee has no other punch in between. -/
structure CheckInThenOut (date : Date) (checkIn checkOut : PunchRequest)
    (st st' : AttendanceState) : Prop where
  checkInType : checkIn.actionType = .checkIn
  checkOutType : checkOut.actionType = .checkOut
  employee : checkOut.employee = checkIn.employee
  accepted : Accepted setup checkIn st
  between : st'.punches.filter (fun p => p.employee = checkIn.employee)
    = (recordEmployeePunch setup checkIn st).punches.filter
      (fun p => p.employee = checkIn.employee)
  window : (setup.boundsOf checkIn.employee date).Contains
    (setup.policyOf checkIn.employee).timezone checkIn.punchAt
  later : checkIn.punchAt < checkOut.punchAt
  inWindow : (setup.boundsOf checkIn.employee date).Contains
    (setup.policyOf checkIn.employee).timezone checkOut.punchAt

variable {setup} {r checkIn checkOut : PunchRequest} {st st' : AttendanceState} {date : Date}

theorem punches_recordEmployeePunch :
    (recordEmployeePunch setup r st).punches
      = if Accepted setup r st then st.punches ++ [r.punch] else st.punches := by
  unfold recordEmployeePunch
  split
  · next hsource =>
    have hrefused : ¬ Accepted setup r st := fun h => by cases hsource.symm.trans h.1
    rw [if_neg hrefused]
  · next hsource =>
    dsimp only
    split
    · next haction =>
      have hrefused : ¬ Accepted setup r st := fun h => by cases haction.symm.trans h.2
      rw [if_neg hrefused]
      rfl
    · next haction =>
      have htaken : Accepted setup r st := ⟨hsource, haction⟩
      rw [if_pos htaken]
      rfl

/-- **A check-out is taken** exactly when its date knows of a check-in. -/
theorem accepted_checkOut_iff (hout : r.actionType = .checkOut) :
    Accepted setup r st
      ↔ checkSource setup r = .ok () ∧ setup.HasCheckIn r.employee (r.today setup) st.punches := by
  unfold Accepted checkAction
  rw [hout, ← hasCheckIn_iff]
  cases (summarizeDay setup r.employee (r.today setup) st.punches).checkInAt <;> simp

theorem CheckInThenOut.punch_mem (h : CheckInThenOut setup date checkIn checkOut st st') :
    checkIn.punch ∈ st'.punches := by
  have hstored : checkIn.punch ∈ (recordEmployeePunch setup checkIn st).punches.filter
      (fun p => p.employee = checkIn.employee) := by
    rw [punches_recordEmployeePunch, if_pos h.accepted]
    refine List.mem_filter.mpr ⟨List.mem_append_right _ (List.mem_singleton_self _), ?_⟩
    exact decide_eq_true rfl
  exact List.mem_of_mem_filter (h.between ▸ hstored)

/-- **A check-out is taken and its shift shows both times** exactly when the date on the clocks
knows of a check-in and nothing takes the place of the times. -/
theorem checkOut_shown_iff (h : CheckInThenOut setup date checkIn checkOut st st') :
    (Accepted setup checkOut st'
        ∧ (summarizeDay setup checkIn.employee date
          (recordEmployeePunch setup checkOut st').punches).checkInAt = some checkIn.punchAt
        ∧ (summarizeDay setup checkIn.employee date
          (recordEmployeePunch setup checkOut st').punches).checkOutAt = some checkOut.punchAt)
      ↔ checkSource setup checkOut = .ok ()
        ∧ setup.HasCheckIn checkIn.employee (checkOut.today setup) st'.punches
        ∧ setup.ShowsTimes checkIn.employee date st'.punches checkIn.punchAt
          checkOut.punchAt := by
  have haccepted : Accepted setup checkOut st' ↔ _ := accepted_checkOut_iff h.checkOutType
  rw [h.employee] at haccepted
  rw [← and_assoc (a := checkSource setup checkOut = .ok ()), ← haccepted]
  refine and_congr_right fun htaken => ?_
  rw [punches_recordEmployeePunch, if_pos htaken]
  have hin := h.punch_mem
  have hout : checkOut.punch ∈ st'.punches ++ [checkOut.punch] :=
    List.mem_append_right _ (List.mem_singleton_self _)
  refine (showsTimes_iff (List.mem_append_left _ hin) hout ⟨rfl, h.window⟩
    ⟨h.employee, h.inWindow⟩ h.checkInType h.checkOutType h.later).trans ?_
  show setup.ShowsTimes checkIn.employee date (st'.punches ++ [checkOut.punch]) checkIn.punchAt
    checkOut.punchAt ↔ _
  -- the check-out itself is in nobody's way
  unfold AttendanceSetup.ShowsTimes
  cases getAttendanceOverride setup checkIn.employee date with
  | some record => exact Iff.rfl
  | none =>
    dsimp only
    rw [List.forall_mem_append, List.forall_mem_singleton]
    refine and_iff_left fun _ => ⟨fun htype => ?_, fun _ => le_rfl⟩
    exact absurd (h.checkOutType.symm.trans htype) (by decide)

end

/-! ## A check-out after midnight -/

namespace Sample

/-- A web punch of employee 1 at an hour of the sixth, in an allowed place. -/
def webPunch (type : AttendancePunchActionType) (h : ℤ) : PunchRequest where
  employee := 1
  actionType := type
  source := .web
  location := .ok ()
  now := (punch h).punchAt
  punchAt := (punch h).punchAt

/-- The employee has checked in for the night. -/
def checkedIn : AttendanceState := recordEmployeePunch setup (webPunch .checkIn 22) noDays

theorem nightPunches : CheckInThenOut setup sixth (webPunch .checkIn 22) (webPunch .checkOut 30)
    noDays checkedIn where
  checkInType := rfl
  checkOutType := rfl
  employee := rfl
  accepted := by decide +kernel
  between := rfl
  window := by decide +kernel
  later := by decide +kernel
  inWindow := by decide +kernel

end Sample

open Sample

theorem checkOut_shown_iff_sample :
    (Accepted setup (webPunch .checkOut 30) checkedIn
        ∧ (summarizeDay setup (webPunch .checkIn 22).employee sixth
          (recordEmployeePunch setup (webPunch .checkOut 30) checkedIn).punches).checkInAt
          = some (webPunch .checkIn 22).punchAt
        ∧ (summarizeDay setup (webPunch .checkIn 22).employee sixth
          (recordEmployeePunch setup (webPunch .checkOut 30) checkedIn).punches).checkOutAt
          = some (webPunch .checkOut 30).punchAt)
      ↔ checkSource setup (webPunch .checkOut 30) = .ok ()
        ∧ setup.HasCheckIn (webPunch .checkIn 22).employee
          ((webPunch .checkOut 30).today setup) checkedIn.punches
        ∧ setup.ShowsTimes (webPunch .checkIn 22).employee sixth checkedIn.punches
          (webPunch .checkIn 22).punchAt (webPunch .checkOut 30).punchAt :=
  checkOut_shown_iff nightPunches

/-- **A check-out after midnight is refused**: at six o'clock, the end of the night, the date is
the seventh, which knows of no check-in. -/
theorem checkOut_refused_after_midnight :
    OvernightOn setup.shifts (setup.employee 1).toEmployee sixth Sample.night
      ∧ CheckInThenOut setup sixth (webPunch .checkIn 22) (webPunch .checkOut 30) noDays checkedIn
      ∧ checkSource setup (webPunch .checkOut 30) = .ok ()
      ∧ checkAction .checkOut (summarizeDay setup 1 ((webPunch .checkOut 30).today setup)
        checkedIn.punches) = .error "Check in before punching out."
      ∧ ¬ Accepted setup (webPunch .checkOut 30) checkedIn := by
  exact ⟨⟨_, rfl, rfl, rfl⟩, nightPunches, rfl, by decide +kernel, by decide +kernel⟩

end Attendance
