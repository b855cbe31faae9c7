import Clarisal.Attendance.PayrollSummary
import Clarisal.Attendance.StoredDays
import Mathlib.Data.Fintype.Defs

/-!
# What a date pays

Of a date only a few things count in the end: whether its punches make a day, half a day or
less, and what the approved leave, duty and work from home take of it, each nothing, half or
all. `pay` is the table of these, and the summary of a date pays what the table says
(`paidFraction_eq`).

The chain of branches behind it looks at leave, duty and work from home in turn, and takes one
of them. So an approval more may pay less: half a day of leave hides a day of work from home,
and a second half of duty the first (`more_never_pays_less_iff`). And half a day of leave with
half a day of duty pays a half.
-/

open Calendar

namespace Attendance

open Approvals (OrganisationId EmployeeId)

/-! ## Parts of a day -/

/-- **A part of a day**: nothing, a half or all of it. -/
inductive DayPart
  | none | half | whole
deriving DecidableEq, Repr

namespace DayPart

instance : Fintype DayPart where
  elems := ⟨[none, half, whole], by decide⟩
  complete p := by cases p <;> decide

def halves : DayPart → ℕ
  | none => 0
  | half => 1
  | whole => 2

instance : LE DayPart := ⟨fun p q => p.halves ≤ q.halves⟩

instance (p q : DayPart) : Decidable (p ≤ q) := inferInstanceAs (Decidable (_ ≤ _))

def toRat : DayPart → ℚ
  | none => 0
  | half => 1 / 2
  | whole => 1

/-- The part that a fraction is. -/
def ofRat (x : ℚ) : DayPart := if 1 ≤ x then whole else if 0 < x then half else none

theorem toRat_eq (p : DayPart) : p.toRat = (p.halves : ℚ) / 2 := by
  cases p <;> norm_num [toRat, halves]

theorem toRat_le_toRat_iff {p q : DayPart} : p.toRat ≤ q.toRat ↔ p ≤ q := by
  rw [toRat_eq, toRat_eq, div_le_div_iff_of_pos_right (by norm_num), Nat.cast_le]
  rfl

theorem toRat_ofRat {x : ℚ} (h : IsDayFraction x) : (ofRat x).toRat = x := by
  obtain rfl | rfl | rfl := h <;> norm_num [ofRat, toRat]

end DayPart

/-! ## The table -/

/-- **What the punches make of a date**: a full day, which a holiday and a week-off are too,
half a day, less than that, or nothing. -/
inductive Attended
  | full | half | short | nothing
deriving DecidableEq, Repr

instance : Fintype Attended where
  elems := ⟨[Attended.full, .half, .short, .nothing], by decide⟩
  complete day := by cases day <;> decide

/-- The interval of a date by the thresholds. -/
def attended (interval : Option ℤ × Option ℤ) (halfDayMinMinutes fullDayMinMinutes : ℕ)
    (dayOff : Bool) : Attended :=
  match interval with
  | (some checkInAt, some checkOutAt) =>
    if fullDayMinMinutes ≤ minutesBetween checkInAt checkOutAt then .full
    else if halfDayMinMinutes ≤ minutesBetween checkInAt checkOutAt then .half
    else .short
  | (some _, none) => .short
  | (none, _) => if dayOff then .full else .nothing

/-- **What a date pays**, by what was attended and the requests of the date. -/
def pay (day : Attended) (leave duty wfh : DayPart) : DayPart :=
  if leave = .whole then .whole
  else match day with
    | .full => .whole
    | .half => if leave = .half ∨ duty = .half ∨ wfh = .half then .whole else .half
    | .short =>
      if duty = .whole then .whole
      else if leave = .half ∨ duty = .half then .half
      else wfh
    | .nothing =>
      if duty = .whole ∨ wfh = .whole then .whole
      else if leave = .half ∨ duty = .half then .half
      else wfh

/-! ## The summary pays by the table -/

/-- The branches of a date with an interval or a day off pay by the table. -/
theorem withRequests_of_status (leave duty wfh : DayPart) (regularize : Bool) :
    (∀ status ∈ [AttendanceDayStatus.present, .holiday, .weekOff],
      (DayState.withRequests ⟨status, 1, regularize⟩ leave.toRat duty.toRat
        wfh.toRat).paidFraction = (pay .full leave duty wfh).toRat)
    ∧ (DayState.withRequests ⟨.halfDay, 1 / 2, regularize⟩ leave.toRat duty.toRat
        wfh.toRat).paidFraction = (pay .half leave duty wfh).toRat
    ∧ ∀ status ∈ [AttendanceDayStatus.absent, .incomplete],
      (DayState.withRequests ⟨status, 0, regularize⟩ leave.toRat duty.toRat
        wfh.toRat).paidFraction = (pay .short leave duty wfh).toRat := by
  revert leave duty wfh regularize
  decide +kernel

/-- A date without punches: a day of work from home is its status. -/
theorem withRequests_of_nothing (leave duty wfh : DayPart) :
    (DayState.withRequests (presence (none, none) 0 0 false false wfh.toRat) leave.toRat
        duty.toRat wfh.toRat).paidFraction = (pay .nothing leave duty wfh).toRat := by
  revert leave duty wfh
  decide +kernel

/-- **The branches pay by the table.** -/
theorem presence_withRequests (interval : Option ℤ × Option ℤ)
    (halfDayMinMinutes fullDayMinMinutes : ℕ) (holiday weekOff : Bool)
    (leave duty wfh : DayPart) :
    ((presence interval halfDayMinMinutes fullDayMinMinutes holiday weekOff
        wfh.toRat).withRequests leave.toRat duty.toRat wfh.toRat).paidFraction
      = (pay (attended interval halfDayMinMinutes fullDayMinMinutes (holiday || weekOff))
        leave duty wfh).toRat := by
  obtain ⟨hfull, hhalf, hshort⟩ := withRequests_of_status leave duty wfh false
  obtain ⟨_ | checkInAt, checkOutAt⟩ := interval
  · unfold attended
    cases holiday with
    | true => exact hfull .holiday (by simp)
    | false =>
      cases weekOff with
      | true => exact hfull .weekOff (by simp)
      | false => exact withRequests_of_nothing leave duty wfh
  · cases checkOutAt with
    | none => exact (withRequests_of_status leave duty wfh true).2.2 .incomplete (by simp)
    | some checkOutAt =>
      unfold attended presence
      dsimp only
      split
      · exact hfull .present (by simp)
      · split
        · exact hhalf
        · exact hshort .absent (by simp)

/-! ## More requests -/

/-- **The requests of a date**, by what they take of it. -/
structure DayRequests where
  leave : DayPart
  duty : DayPart
  wfh : DayPart
deriving DecidableEq, Repr

/-- **An approval hides another**: on a date whose punches make half a day, the second half of
duty hides the first, and a day of work from home half a one; on a date of less, half a day of
leave, duty or work from home hides a day of work from home; on a date without punches, a newer
half day of work from home hides a whole one. -/
def Hides (day : Attended) (q q' : DayRequests) : Prop :=
  match day with
  | .full => False
  | .half => q'.leave = .none ∧ (q.duty = .half ∧ q.wfh ≠ .half ∧ q'.duty = .whole
      ∨ q.duty ≠ .half ∧ q.wfh = .half ∧ q'.wfh = .whole)
  | .short => q.leave = .none ∧ q.duty = .none ∧ q.wfh = .whole
      ∧ (q'.leave = .half ∨ q'.duty = .half ∨ q'.wfh = .half)
  | .nothing => q.leave ≠ .whole ∧ q.duty ≠ .whole ∧ q.wfh = .whole ∧ q'.wfh = .half

/-- **Leave and duty are not paid in full**: a half of each on a date of less than half a day,
or a day of duty on a date of half a day. -/
def Uncovered (day : Attended) (q : DayRequests) : Prop :=
  match day with
  | .full => False
  | .half => q.leave = .none ∧ q.duty = .whole ∧ q.wfh ≠ .half
  | .short => q.leave = .half ∧ q.duty = .half
  | .nothing => q.leave = .half ∧ q.duty = .half ∧ q.wfh ≠ .whole

/-- What a date pays with its requests. -/
abbrev DayRequests.pay (q : DayRequests) (day : Attended) : DayPart :=
  Attendance.pay day q.leave q.duty q.wfh

/-- **One kind of request more**: leave and duty take as much or more, and the work from home
is that of the new request, or as before. -/
inductive DayRequests.Grows : DayRequests → DayRequests → Prop
  | leave {leave leave' duty wfh : DayPart} (h : leave ≤ leave') :
      Grows ⟨leave, duty, wfh⟩ ⟨leave', duty, wfh⟩
  | duty {leave duty duty' wfh : DayPart} (h : duty ≤ duty') :
      Grows ⟨leave, duty, wfh⟩ ⟨leave, duty', wfh⟩
  | wfh {leave duty wfh wfh' : DayPart} (h : wfh' = wfh ∨ wfh' ≠ .none) :
      Grows ⟨leave, duty, wfh⟩ ⟨leave, duty, wfh'⟩

/-- **A request more does not pay less** exactly when it hides no other. -/
theorem DayRequests.Grows.pay_le_iff {q q' : DayRequests} (h : q.Grows q') (day : Attended) :
    q.pay day ≤ q'.pay day ↔ ¬ Hides day q q' := by
  cases h with
  | @leave leave leave' duty wfh h =>
    revert leave leave' duty wfh
    cases day <;> unfold Hides DayRequests.pay <;> decide +kernel
  | @duty leave duty duty' wfh h =>
    revert leave duty duty' wfh
    cases day <;> unfold Hides DayRequests.pay <;> decide +kernel
  | @wfh leave duty wfh wfh' h =>
    revert leave duty wfh wfh'
    cases day <;> unfold Hides DayRequests.pay <;> decide +kernel

/-- **Leave and duty are paid** up to a day, but where they are not covered. -/
theorem DayRequests.leave_add_duty_le_iff (q : DayRequests) (day : Attended) :
    min 1 (q.leave.toRat + q.duty.toRat) ≤ (q.pay day).toRat ↔ ¬ Uncovered day q := by
  obtain ⟨leave, duty, wfh⟩ := q
  revert leave duty wfh
  cases day <;> unfold Uncovered DayRequests.pay <;> decide +kernel

/-! ## The requests of a date -/

theorem isDayFraction_requestDayFraction (startDate endDate date : Date)
    (startSession endSession : DaySession) :
    IsDayFraction (requestDayFraction startDate endDate date startSession endSession) := by
  have hhalf : IsDayFraction (1 / 2) := Or.inr (Or.inl rfl)
  have hwhole : IsDayFraction 1 := Or.inr (Or.inr rfl)
  unfold requestDayFraction
  split_ifs
  · exact Or.inl rfl
  · exact hhalf
  · exact hwhole
  · exact hhalf
  · exact hhalf
  · exact hwhole

theorem OnDutyRequest.isDayFraction_fraction (r : OnDutyRequest) (halfDayMinutes : ℕ)
    (date : Date) : IsDayFraction (r.fraction halfDayMinutes date) := by
  have hhalf : IsDayFraction (1 / 2) := Or.inr (Or.inl rfl)
  have hwhole : IsDayFraction 1 := Or.inr (Or.inr rfl)
  unfold OnDutyRequest.fraction
  cases r.durationType with
  | fullDay => exact hwhole
  | firstHalf => exact hhalf
  | secondHalf => exact hhalf
  | timeRange =>
    dsimp only
    split
    · split
      · split
        · exact hwhole
        · exact hhalf
      · exact Or.inl rfl
    · exact isDayFraction_requestDayFraction _ _ _ _ _

theorem IsDayFraction.nonneg {x : ℚ} (h : IsDayFraction x) : 0 ≤ x := by
  obtain rfl | rfl | rfl := h <;> norm_num

/-- **Parts of a day add up** to a part of a day. -/
theorem isDayFraction_min_sum {xs : List ℚ} (h : ∀ x ∈ xs, IsDayFraction x) :
    IsDayFraction (min 1 xs.sum) := by
  induction xs with
  | nil => exact Or.inl (by norm_num)
  | cons x xs ih =>
    have hx := h x List.mem_cons_self
    have hrest := ih (fun y hy => h y (List.mem_cons_of_mem _ hy))
    have hcap : min 1 (x + xs.sum) = min 1 (x + min 1 xs.sum) := by
      have hpos := hx.nonneg
      rcases le_total 1 xs.sum with hfull | hfull
      · rw [min_eq_left hfull, min_eq_left (by linarith), min_eq_left (by linarith)]
      · rw [min_eq_right hfull]
    rw [List.sum_cons, hcap]
    unfold IsDayFraction at *
    obtain hx | hx | hx := hx <;> obtain hrest | hrest | hrest := hrest <;> rw [hx, hrest] <;>
      norm_num

section

variable (setup : AttendanceSetup) (employee : EmployeeId) (date : Date)

theorem isDayFraction_getLeaveFraction : IsDayFraction (getLeaveFraction setup employee date) :=
  isDayFraction_min_sum (fun x hx => by
    obtain ⟨r, -, rfl⟩ := List.mem_map.mp hx
    exact isDayFraction_requestDayFraction _ _ _ _ _)

theorem isDayFraction_getOnDutyFraction (halfDayMinutes : ℕ) :
    IsDayFraction (getOnDutyFraction setup employee date halfDayMinutes) :=
  isDayFraction_min_sum (fun x hx => by
    obtain ⟨r, -, rfl⟩ := List.mem_map.mp hx
    exact r.isDayFraction_fraction _ _)

theorem isDayFraction_getWfhFraction : IsDayFraction (getWfhFraction setup employee date) := by
  unfold getWfhFraction
  split
  · exact Or.inl rfl
  · split
    · exact Or.inr (Or.inr rfl)
    · exact Or.inr (Or.inl rfl)

/-- A threshold of the shift of a date, or of the policy. -/
def AttendanceSetup.thresholdOf (policyValue : DayPolicy → ℕ)
    (shiftValue : ShiftThresholds → Option ℕ) : ℕ :=
  getThreshold (policyValue (setup.policyOf employee))
    (((getEffectiveShift setup.shifts (setup.employee employee).toEmployee date).map
      (fun assignment => setup.thresholds assignment.shift.id)).bind shiftValue)

/-- The interval of a date: that of its override, or of its punches. -/
def AttendanceSetup.intervalOf (punches : List StoredPunch) : Option ℤ × Option ℤ :=
  match getAttendanceOverride setup employee date with
  | some record => (some record.checkInAt, record.checkOutAt)
  | none => pickIntervalFromPunches ((setup.punchesOf employee date punches).map
      StoredPunch.toAttendancePunch)

/-- **What the punches make of a date.** -/
def AttendanceSetup.attendedOn (punches : List StoredPunch) : Attended :=
  attended (setup.intervalOf employee date punches)
    (setup.thresholdOf employee date DayPolicy.halfDayMinMinutes
      ShiftThresholds.halfDayMinMinutes)
    (setup.thresholdOf employee date DayPolicy.fullDayMinMinutes
      ShiftThresholds.fullDayMinMinutes)
    (isHoliday setup (setup.employee employee) date
      || weekdayWeekOff (setup.policyOf employee) date)

/-- **What the approved requests take of a date.** -/
def AttendanceSetup.requestsOn : DayRequests where
  leave := .ofRat (getLeaveFraction setup employee date)
  duty := .ofRat (getOnDutyFraction setup employee date
    (setup.thresholdOf employee date DayPolicy.halfDayMinMinutes
      ShiftThresholds.halfDayMinMinutes))
  wfh := .ofRat (getWfhFraction setup employee date)

theorem leaveFraction_eq (punches : List StoredPunch) :
    (summarizeDay setup employee date punches).leaveFraction
      = (setup.requestsOn employee date).leave.toRat :=
  (DayPart.toRat_ofRat (isDayFraction_getLeaveFraction setup employee date)).symm

theorem onDutyFraction_eq (punches : List StoredPunch) :
    (summarizeDay setup employee date punches).onDutyFraction
      = (setup.requestsOn employee date).duty.toRat := by
  unfold AttendanceSetup.requestsOn
  rw [DayPart.toRat_ofRat (isDayFraction_getOnDutyFraction setup employee date _)]
  unfold summarizeDay AttendanceSetup.thresholdOf
  cases getEffectiveShift setup.shifts (setup.employee employee).toEmployee date <;> rfl

/-- **The summary of a date pays by the table.** -/
theorem paidFraction_eq (punches : List StoredPunch) :
    (summarizeDay setup employee date punches).paidFraction
      = ((setup.requestsOn employee date).pay
        (setup.attendedOn employee date punches)).toRat := by
  have htable := presence_withRequests (setup.intervalOf employee date punches)
    (setup.thresholdOf employee date DayPolicy.halfDayMinMinutes
      ShiftThresholds.halfDayMinMinutes)
    (setup.thresholdOf employee date DayPolicy.fullDayMinMinutes
      ShiftThresholds.fullDayMinMinutes)
    (isHoliday setup (setup.employee employee) date)
    (weekdayWeekOff (setup.policyOf employee) date)
    (setup.requestsOn employee date).leave (setup.requestsOn employee date).duty
    (setup.requestsOn employee date).wfh
  unfold AttendanceSetup.requestsOn at htable
  rw [DayPart.toRat_ofRat (isDayFraction_getLeaveFraction setup employee date),
    DayPart.toRat_ofRat (isDayFraction_getOnDutyFraction setup employee date _),
    DayPart.toRat_ofRat (isDayFraction_getWfhFraction setup employee date)] at htable
  refine Eq.trans ?_ htable
  unfold summarizeDay AttendanceSetup.intervalOf AttendanceSetup.thresholdOf
  cases getAttendanceOverride setup employee date <;>
    cases getEffectiveShift setup.shifts (setup.employee employee).toEmployee date <;> rfl

end

/-! ## A request more -/

/-- **One request more is approved**, wherever it stands among those of its kind. -/
inductive AttendanceSetup.Adds (setup : AttendanceSetup) : AttendanceSetup → Prop
  | leave {before after : List LeaveRequest} {r : LeaveRequest} (hr : r.status = .approved)
      (h : setup.leaveRequests = before ++ after) :
      setup.Adds { setup with leaveRequests := before ++ r :: after }
  | duty {before after : List OnDutyRequest} {r : OnDutyRequest} (hr : r.status = .approved)
      (h : setup.onDutyRequests = before ++ after) :
      setup.Adds { setup with onDutyRequests := before ++ r :: after }
  | wfh {before after : List WFHRequest} {r : WFHRequest} (hr : r.status = .approved)
      (h : setup.wfhRequests = before ++ after) :
      setup.Adds { setup with wfhRequests := before ++ r :: after }

/-- A request more takes of a date as much or more. -/
theorem min_sum_le_insert {α : Type*} (p : α → Bool) {f : α → ℚ}
    (hf : ∀ a, IsDayFraction (f a)) (before after : List α) (a : α) :
    min 1 (((before ++ after).filter p).map f).sum
      ≤ min 1 (((before ++ a :: after).filter p).map f).sum := by
  refine min_le_min_left 1 (List.Sublist.sum_le_sum ?_ (fun x hx => ?_))
  · exact (((List.sublist_cons_self a after).append_left before).filter p).map f
  · obtain ⟨b, -, rfl⟩ := List.mem_map.mp hx
    exact (hf b).nonneg

theorem DayPart.ofRat_le_ofRat {x y : ℚ} (hx : IsDayFraction x) (hy : IsDayFraction y)
    (h : x ≤ y) : DayPart.ofRat x ≤ DayPart.ofRat y := by
  rw [← DayPart.toRat_le_toRat_iff, DayPart.toRat_ofRat hx, DayPart.toRat_ofRat hy]
  exact h

theorem DayPart.ofRat_ne_none {x : ℚ} (h : 0 < x) : DayPart.ofRat x ≠ .none := by
  unfold DayPart.ofRat
  rw [if_pos h]
  split <;> decide

section

variable {setup setup' : AttendanceSetup}

/-- A row more is the first that is asked for, or the first stays. -/
theorem find?_insert {α : Type*} (p : α → Bool) (before after : List α) (a : α) :
    (before ++ a :: after).find? p = (before ++ after).find? p
      ∨ (before ++ a :: after).find? p = some a := by
  rw [List.find?_append, List.find?_append]
  cases before.find? p with
  | some first => exact Or.inl rfl
  | none =>
    rw [Option.none_or, Option.none_or]
    cases h : p a with
    | true => exact Or.inr (List.find?_cons_of_pos h)
    | false => exact Or.inl (List.find?_cons_of_neg (by simpa using h))

/-- The work from home of a date stays, or it is the new one. -/
theorem getWfhFraction_insert (employee : EmployeeId) (date : Date)
    {before after : List WFHRequest} (h : setup.wfhRequests = before ++ after) (r : WFHRequest) :
    getWfhFraction { setup with wfhRequests := before ++ r :: after } employee date
        = getWfhFraction setup employee date
      ∨ 0 < getWfhFraction { setup with wfhRequests := before ++ r :: after } employee date := by
  unfold getWfhFraction
  rw [h]
  obtain hfirst | hfirst := find?_insert (fun r : WFHRequest => decide (r.employee = employee
    ∧ r.status = .approved ∧ r.startDate ≤ date ∧ date ≤ r.endDate)) before after r
  · exact Or.inl (by rw [hfirst])
  · right
    rw [hfirst]
    dsimp only
    split <;> norm_num

/-- **A request more**: one kind takes as much or more. -/
theorem AttendanceSetup.Adds.requestsOn (h : setup.Adds setup') (employee : EmployeeId)
    (date : Date) : (setup.requestsOn employee date).Grows (setup'.requestsOn employee date) := by
  cases h with
  | @leave before after r _ h =>
    refine .leave (DayPart.ofRat_le_ofRat (isDayFraction_getLeaveFraction _ _ _)
      (isDayFraction_getLeaveFraction _ _ _) ?_)
    unfold getLeaveFraction
    rw [h]
    exact min_sum_le_insert _ (fun r => isDayFraction_requestDayFraction _ _ _ _ _) _ _ _
  | @duty before after r _ h =>
    refine .duty (DayPart.ofRat_le_ofRat (isDayFraction_getOnDutyFraction _ _ _ _)
      (isDayFraction_getOnDutyFraction _ _ _ _) ?_)
    unfold getOnDutyFraction
    rw [h]
    exact min_sum_le_insert _ (fun r => r.isDayFraction_fraction _ _) _ _ _
  | @wfh before after r _ h =>
    refine .wfh ?_
    rcases getWfhFraction_insert employee date h r with heq | hpos
    · exact Or.inl (congrArg DayPart.ofRat heq)
    · exact Or.inr (DayPart.ofRat_ne_none hpos)

/-- The punches make of a date what they made. -/
theorem AttendanceSetup.Adds.attendedOn (h : setup.Adds setup') (employee : EmployeeId)
    (date : Date) (punches : List StoredPunch) :
    setup'.attendedOn employee date punches = setup.attendedOn employee date punches := by
  cases h with
  | leave => rfl
  | duty => rfl
  | wfh => rfl

end

/-- **More approvals do not pay less** on a date exactly when the one more hides no other, and
leave and duty are paid on it exactly when they are covered. -/
theorem more_never_pays_less_iff (setup : AttendanceSetup) (employee : EmployeeId) (date : Date)
    (punches : List StoredPunch) :
    (∀ setup', setup.Adds setup' →
        ((summarizeDay setup employee date punches).paidFraction
            ≤ (summarizeDay setup' employee date punches).paidFraction
          ↔ ¬ Hides (setup.attendedOn employee date punches) (setup.requestsOn employee date)
            (setup'.requestsOn employee date)))
      ∧ (min 1 ((summarizeDay setup employee date punches).leaveFraction
            + (summarizeDay setup employee date punches).onDutyFraction)
          ≤ (summarizeDay setup employee date punches).paidFraction
        ↔ ¬ Uncovered (setup.attendedOn employee date punches)
          (setup.requestsOn employee date)) := by
  refine ⟨fun setup' h => ?_, ?_⟩
  · rw [paidFraction_eq, paidFraction_eq, h.attendedOn, DayPart.toRat_le_toRat_iff]
    exact (h.requestsOn employee date).pay_le_iff _
  · rw [paidFraction_eq, leaveFraction_eq, onDutyFraction_eq]
    exact DayRequests.leave_add_duty_le_iff _ _

/-! ## A half that hides a day -/

namespace Sample

/-- Employee 1 works from home on the sixth. -/
def atHome : AttendanceSetup :=
  { setup with wfhRequests := [
      { employee := 1, startDate := sixth, endDate := sixth, session := .fullDay
        status := .approved }] }

def halfLeave : LeaveRequest where
  employee := 1
  startDate := sixth
  endDate := sixth
  startSession := .firstHalf
  endSession := .firstHalf
  status := .approved

/-- Half a day of leave and half a day of duty. -/
def halfAndHalf : AttendanceSetup :=
  { setup with
    leaveRequests := [halfLeave]
    onDutyRequests := [
      { employee := 1, startDate := sixth, endDate := sixth, durationType := .secondHalf
        startTime := none, endTime := none, status := .approved }] }

/-- The only punch of the sixth. -/
def onePunch : StoredPunch :=
  { punch 23 with employee := 1, source := .web, sourceConfig := none }

end Sample

open Sample

theorem atHome_adds_halfLeave : atHome.Adds { atHome with leaveRequests := [halfLeave] } :=
  @AttendanceSetup.Adds.leave _ [] [] halfLeave rfl rfl

theorem more_never_pays_less_iff_sample :
    (summarizeDay atHome 1 sixth [onePunch]).paidFraction
        ≤ (summarizeDay { atHome with leaveRequests := [halfLeave] } 1 sixth
            [onePunch]).paidFraction
      ↔ ¬ Hides (atHome.attendedOn 1 sixth [onePunch]) (atHome.requestsOn 1 sixth)
        (AttendanceSetup.requestsOn { atHome with leaveRequests := [halfLeave] } 1 sixth) :=
  (more_never_pays_less_iff atHome 1 sixth [onePunch]).1 _ atHome_adds_halfLeave

/-- **Half a day of leave hides the day of work from home**, whose one punch makes it
incomplete; and half a day of leave and half a day of duty pay a half. -/
theorem half_day_hides_work_from_home :
    (summarizeDay atHome 1 sixth [onePunch]).paidFraction = 1
      ∧ (summarizeDay { atHome with leaveRequests := [halfLeave] } 1 sixth
          [onePunch]).paidFraction = 1 / 2
      ∧ (summarizeDay halfAndHalf 1 sixth []).leaveFraction = 1 / 2
      ∧ (summarizeDay halfAndHalf 1 sixth []).onDutyFraction = 1 / 2
      ∧ (summarizeDay halfAndHalf 1 sixth []).paidFraction = 1 / 2
      ∧ (¬ ∀ setup setup' employee date punches, setup.Adds setup' →
        (summarizeDay setup employee date punches).paidFraction
          ≤ (summarizeDay setup' employee date punches).paidFraction)
      ∧ ¬ ∀ setup employee date punches,
        min 1 ((summarizeDay setup employee date punches).leaveFraction
            + (summarizeDay setup employee date punches).onDutyFraction)
          ≤ (summarizeDay setup employee date punches).paidFraction := by
  refine ⟨by decide +kernel, by decide +kernel, by decide +kernel, by decide +kernel,
    by decide +kernel, fun h => ?_, fun h => ?_⟩
  · exact absurd (h _ _ 1 sixth [onePunch] atHome_adds_halfLeave) (by decide +kernel)
  · exact absurd (h halfAndHalf 1 sixth []) (by decide +kernel)

end Attendance
