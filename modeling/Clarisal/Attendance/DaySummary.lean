import Clarisal.Attendance.Shifts
import Clarisal.Payroll.Models

/-!
# The summary of a day

What a day counts for is decided on the interval between its first and last
punches, or the one that overrides them; on holidays and week-offs; and on leave,
duty and work-from-home requests, each a day or half a day.

Everything but the punches is fixed here, in `AttendanceSetup`. A punch outside the
bounds of a date leaves its summary as it is
(`summarizeDay_append_of_not_contains`), and so does any punch, in minutes, pay and
status, of a date that is overridden (`sameDay_of_override`).
-/

open Calendar

namespace Attendance

open Approvals (OrganisationId EmployeeId OfficeLocationId)
open Payroll (EmployeeStatus)

inductive AttendanceDayStatus
  | present | halfDay | absent | incomplete | holiday | weekOff | onLeave | onDuty | wfh
deriving DecidableEq, Repr

inductive AttendancePunchSource
  | web | «import» | api | device | regularization | manual | mobile
deriving DecidableEq, Repr

inductive AttendanceRecordSource
  | excelImport | manualOverride | regularization
deriving DecidableEq, Repr

inductive DaySession
  | fullDay | firstHalf | secondHalf
deriving DecidableEq, Repr

/-- The statuses of leave, duty and work-from-home requests. -/
inductive RequestStatus
  | pending | approved | rejected | cancelled | withdrawn
deriving DecidableEq, Repr

inductive OnDutyDurationType
  | fullDay | firstHalf | secondHalf | timeRange
deriving DecidableEq, Repr

/-! ## What is fixed -/

/-- The thresholds that a shift sets itself. -/
structure ShiftThresholds where
  halfDayMinMinutes : Option ℕ
  fullDayMinMinutes : Option ℕ
  overtimeAfterMinutes : Option ℕ
  graceMinutes : Option ℕ
deriving DecidableEq, Repr

/-- The policy of an organisation. -/
structure DayPolicy extends AttendancePolicy where
  /-- The date on the clocks of its zone. -/
  localDate : ℤ → Date
  halfDayMinMinutes : ℕ
  fullDayMinMinutes : ℕ
  overtimeAfterMinutes : ℕ
  graceMinutes : ℕ
  weekOffDays : List ℕ
  allowWebPunch : Bool

structure StaffMember extends Employee where
  employeeCode : String
  status : EmployeeStatus
  officeLocation : Option OfficeLocationId

/-- A published calendar; one without locations is for all of them. -/
structure HolidayCalendar where
  organisation : OrganisationId
  year : ℕ
  locations : List OfficeLocationId
  holidays : List Date
deriving DecidableEq

structure LeaveRequest where
  employee : EmployeeId
  startDate : Date
  endDate : Date
  startSession : DaySession
  endSession : DaySession
  status : RequestStatus
deriving DecidableEq

structure OnDutyRequest where
  employee : EmployeeId
  startDate : Date
  endDate : Date
  durationType : OnDutyDurationType
  startTime : Option TimeOfDay
  endTime : Option TimeOfDay
  status : RequestStatus
deriving DecidableEq

/-- The requests stand in the order of `-created_at`. -/
structure WFHRequest where
  employee : EmployeeId
  startDate : Date
  endDate : Date
  session : DaySession
  status : RequestStatus
deriving DecidableEq

/-- What overrides the punches of a date. -/
structure AttendanceRecord where
  employee : EmployeeId
  attendanceDate : Date
  checkInAt : ℤ
  checkOutAt : Option ℤ
  source : AttendanceRecordSource
deriving DecidableEq

/-- **Everything but the punches.** `strip` and `upper` are those of texts, and the
default date is the one on the clocks of the default zone. -/
structure AttendanceSetup where
  policy : OrganisationId → DayPolicy
  shifts : List Shift
  thresholds : ShiftId → ShiftThresholds
  employees : List EmployeeId
  employee : EmployeeId → StaffMember
  holidayCalendars : List HolidayCalendar
  leaveRequests : List LeaveRequest
  onDutyRequests : List OnDutyRequest
  wfhRequests : List WFHRequest
  records : List AttendanceRecord
  defaultLocalDate : ℤ → Date
  strip : String → String
  upper : String → String

/-- A punch of an employee, as it is stored. -/
structure StoredPunch extends AttendancePunch where
  employee : EmployeeId
  source : AttendancePunchSource
  sourceConfig : Option ℕ
deriving DecidableEq

/-! ## Thresholds, holidays and requests -/

/-- `_get_threshold`. -/
def getThreshold (policyValue : ℕ) (shiftValue : Option ℕ) : ℕ := shiftValue.getD policyValue

/-- `date.weekday()`; a Monday is 0. -/
def weekday (date : Date) : ℕ := (date.toordinal + 6) % 7

/-- `_weekday_week_off`; Sundays are off when the policy names no days. -/
def weekdayWeekOff (policy : DayPolicy) (date : Date) : Bool :=
  weekday date ∈ (if policy.weekOffDays = [] then [6] else policy.weekOffDays)

/-- `_get_holiday_for_date`. -/
def isHoliday (setup : AttendanceSetup) (employee : StaffMember) (date : Date) : Bool :=
  setup.holidayCalendars.any (fun c => c.organisation = employee.organisation
    ∧ c.year = date.year
    ∧ (c.locations = [] ∨ employee.officeLocation.any (fun l => l ∈ c.locations))
    ∧ date ∈ c.holidays)

def requestDayFraction (startDate endDate date : Date) (startSession endSession : DaySession) : ℚ :=
  if date < startDate ∨ endDate < date then 0
  else if startDate = endDate then
    if startSession ≠ .fullDay ∨ endSession ≠ .fullDay then 1 / 2 else 1
  else if date = startDate ∧ startSession ≠ .fullDay then 1 / 2
  else if date = endDate ∧ endSession ≠ .fullDay then 1 / 2
  else 1

def getLeaveFraction (setup : AttendanceSetup) (employee : EmployeeId) (date : Date) : ℚ :=
  min 1 ((setup.leaveRequests.filter (fun r => r.employee = employee ∧ r.status = .approved
    ∧ r.startDate ≤ date ∧ date ≤ r.endDate)).map (fun r =>
      requestDayFraction r.startDate r.endDate date r.startSession r.endSession)).sum

/-- What an on-duty request counts for on one of its dates. -/
def OnDutyRequest.fraction (r : OnDutyRequest) (halfDayMinutes : ℕ) (date : Date) : ℚ :=
  match r.durationType with
  | .timeRange =>
    if r.startDate = r.endDate then
      match r.startTime, r.endTime with
      | some start, some finish =>
        if halfDayMinutes ≤ ((finish.micros - start.micros) / 60000000).toNat then 1 else 1 / 2
      | _, _ => 0
    else requestDayFraction r.startDate r.endDate date .fullDay .fullDay
  | .fullDay => 1
  | .firstHalf | .secondHalf => 1 / 2

def getOnDutyFraction (setup : AttendanceSetup) (employee : EmployeeId) (date : Date)
    (halfDayMinutes : ℕ) : ℚ :=
  min 1 ((setup.onDutyRequests.filter (fun r => r.employee = employee ∧ r.status = .approved
    ∧ r.startDate ≤ date ∧ date ≤ r.endDate)).map (fun r => r.fraction halfDayMinutes date)).sum

/-- `_get_wfh_fraction` of `_get_wfh_request`. -/
def getWfhFraction (setup : AttendanceSetup) (employee : EmployeeId) (date : Date) : ℚ :=
  match setup.wfhRequests.find? (fun r => r.employee = employee ∧ r.status = .approved
    ∧ r.startDate ≤ date ∧ date ≤ r.endDate) with
  | none => 0
  | some r => if r.session = .fullDay then 1 else 1 / 2

/-- `_get_attendance_override`. -/
def getAttendanceOverride (setup : AttendanceSetup) (employee : EmployeeId) (date : Date) :
    Option AttendanceRecord :=
  setup.records.find? (fun r => r.employee = employee ∧ r.attendanceDate = date)

/-! ## The summary -/

structure DaySummary where
  status : AttendanceDayStatus
  source : Option AttendancePunchSource
  checkInAt : Option ℤ
  checkOutAt : Option ℤ
  workedMinutes : ℕ
  overtimeMinutes : ℕ
  lateMinutes : ℕ
  isLate : Bool
  needsRegularization : Bool
  paidFraction : ℚ
  leaveFraction : ℚ
  onDutyFraction : ℚ
  isHoliday : Bool
  isWeekOff : Bool
  rawPunchCount : ℕ
  note : String
deriving DecidableEq

/-- What a date counts for so far. -/
structure DayState where
  status : AttendanceDayStatus
  paidFraction : ℚ
  needsRegularization : Bool
deriving DecidableEq

/-- The minutes between two instants. -/
def minutesBetween (checkInAt checkOutAt : ℤ) : ℕ := ((checkOutAt - checkInAt) / 60000000).toNat

/-- The date by its interval, its holidays and its week-offs. -/
def presence (interval : Option ℤ × Option ℤ) (halfDayMinMinutes fullDayMinMinutes : ℕ)
    (holiday weekOff : Bool) (wfhFraction : ℚ) : DayState :=
  match interval with
  | (some checkInAt, some checkOutAt) =>
    let worked := minutesBetween checkInAt checkOutAt
    if fullDayMinMinutes ≤ worked then
      { status := .present, paidFraction := 1, needsRegularization := false }
    else if halfDayMinMinutes ≤ worked then
      { status := .halfDay, paidFraction := 1 / 2, needsRegularization := false }
    else { status := .absent, paidFraction := 0, needsRegularization := false }
  | (some _, none) => { status := .incomplete, paidFraction := 0, needsRegularization := true }
  | (none, _) =>
    if holiday then { status := .holiday, paidFraction := 1, needsRegularization := false }
    else if weekOff then { status := .weekOff, paidFraction := 1, needsRegularization := false }
    else if 1 ≤ wfhFraction then
      { status := .wfh, paidFraction := 1, needsRegularization := false }
    else { status := .absent, paidFraction := 0, needsRegularization := false }

/-- Half a day more, which is a full day at most; `rest` is the status of half a one. -/
def DayState.addHalf (s : DayState) (rest : AttendanceDayStatus) : DayState :=
  let paidFraction := min 1 (s.paidFraction + 1 / 2)
  { status := if 1 ≤ paidFraction then .present else rest
    paidFraction := paidFraction
    needsRegularization := false }

/-- **The requests of the date**: leave goes before duty, and duty before work from
home. -/
def DayState.withRequests (s : DayState) (leaveFraction onDutyFraction wfhFraction : ℚ) :
    DayState :=
  if 1 ≤ leaveFraction then
    { status := .onLeave, paidFraction := 1, needsRegularization := false }
  else if 1 ≤ onDutyFraction ∧ s.status ∈ [AttendanceDayStatus.absent, .incomplete] then
    { status := .onDuty, paidFraction := 1, needsRegularization := false }
  else if leaveFraction = 1 / 2 then s.addHalf .halfDay
  else if onDutyFraction = 1 / 2
      ∧ s.status ∈ [AttendanceDayStatus.absent, .halfDay, .incomplete] then s.addHalf .halfDay
  else if 1 ≤ wfhFraction ∧ s.status ∈ [AttendanceDayStatus.absent, .incomplete] then
    { status := .wfh, paidFraction := 1, needsRegularization := false }
  else if wfhFraction = 1 / 2
      ∧ s.status ∈ [AttendanceDayStatus.absent, .halfDay, .incomplete] then s.addHalf .wfh
  else s

section

variable (setup : AttendanceSetup) (employee : EmployeeId) (date : Date)

/-- The policy that an employee is under. -/
def AttendanceSetup.policyOf : DayPolicy := setup.policy (setup.employee employee).organisation

/-- The bounds of a date of an employee. -/
def AttendanceSetup.boundsOf : DayBounds :=
  dayBoundsOf (setup.policyOf employee).toAttendancePolicy setup.shifts
    (setup.employee employee).toEmployee date

/-- The punches of a date, in order. -/
def AttendanceSetup.punchesOf (punches : List StoredPunch) : List StoredPunch :=
  (punches.filter (fun p => p.employee = employee
    ∧ (setup.boundsOf employee date).Contains (setup.policyOf employee).timezone
      p.punchAt)).insertionSort (fun p q => p.punchAt ≤ q.punchAt)

/-- The source of an override, among those of punches. -/
def AttendanceRecordSource.punchSource : AttendanceRecordSource → AttendancePunchSource
  | regularization => .regularization
  | manualOverride => .manual
  | excelImport => .import

/-- **The summary of a date**, by the punches of a list. -/
def summarizeDay (punches : List StoredPunch) : DaySummary :=
  let policy := setup.policyOf employee
  let shift := (getEffectiveShift setup.shifts (setup.employee employee).toEmployee date).map
    ResolvedShiftAssignment.shift
  let thresholds := shift.map (fun s => setup.thresholds s.id)
  let halfDayMinMinutes := getThreshold policy.halfDayMinMinutes
    (thresholds.bind ShiftThresholds.halfDayMinMinutes)
  let fullDayMinMinutes := getThreshold policy.fullDayMinMinutes
    (thresholds.bind ShiftThresholds.fullDayMinMinutes)
  let overtimeAfterMinutes := getThreshold policy.overtimeAfterMinutes
    (thresholds.bind ShiftThresholds.overtimeAfterMinutes)
  let graceMinutes := getThreshold policy.graceMinutes
    (thresholds.bind ShiftThresholds.graceMinutes)
  let holiday := Attendance.isHoliday setup (setup.employee employee) date
  let weekOff := weekdayWeekOff policy date
  let leaveFraction := getLeaveFraction setup employee date
  let onDutyFraction := getOnDutyFraction setup employee date halfDayMinMinutes
  let wfhFraction := getWfhFraction setup employee date
  let dayPunches := setup.punchesOf employee date punches
  let (interval, source) := match getAttendanceOverride setup employee date with
    | some record => ((some record.checkInAt, record.checkOutAt), some record.source.punchSource)
    | none => (pickIntervalFromPunches (dayPunches.map StoredPunch.toAttendancePunch),
        dayPunches.getLast?.map StoredPunch.source)
  let state := (presence interval halfDayMinMinutes fullDayMinMinutes holiday weekOff
    wfhFraction).withRequests leaveFraction onDutyFraction wfhFraction
  let workedMinutes := match interval with
    | (some checkInAt, some checkOutAt) => minutesBetween checkInAt checkOutAt
    | _ => 0
  -- a date with one punch only is late by nothing
  let lateThreshold := policy.timezone.utc
    ((setup.boundsOf employee date).shiftStart + graceMinutes * 60000000)
  let late := match interval with
    | (some checkInAt, some _) => decide (lateThreshold < checkInAt)
    | _ => false
  { status := state.status
    source := source
    checkInAt := interval.1
    checkOutAt := interval.2
    workedMinutes := workedMinutes
    overtimeMinutes := workedMinutes - overtimeAfterMinutes
    lateMinutes := if late then minutesBetween lateThreshold (interval.1.getD 0) else 0
    isLate := late
    needsRegularization := state.needsRegularization
    paidFraction := state.paidFraction
    leaveFraction := leaveFraction
    onDutyFraction := onDutyFraction
    isHoliday := holiday
    isWeekOff := weekOff
    rawPunchCount := dayPunches.length
    note := match interval with
      | (some _, none) => "Only one punch is available for this day."
      | _ => "" }

end

/-! ## What the summary depends on -/

/-- **The same minutes, pay and status.** -/
structure DaySummary.SameDay (s s' : DaySummary) : Prop where
  workedMinutes : s.workedMinutes = s'.workedMinutes
  paidFraction : s.paidFraction = s'.paidFraction
  status : s.status = s'.status

theorem DaySummary.SameDay.refl (s : DaySummary) : s.SameDay s := ⟨rfl, rfl, rfl⟩

theorem DaySummary.SameDay.trans (s s' s'' : DaySummary) (h : s.SameDay s') (h' : s'.SameDay s'') :
    s.SameDay s'' :=
  ⟨h.workedMinutes.trans h'.workedMinutes, h.paidFraction.trans h'.paidFraction,
    h.status.trans h'.status⟩

section

variable {setup : AttendanceSetup} {employee : EmployeeId} {date : Date}
  {punches : List StoredPunch} {p : StoredPunch}

/-- A punch of another employee, or outside the bounds of the date, is none of the
date. -/
theorem punchesOf_append (h : p.employee = employee →
    ¬ (setup.boundsOf employee date).Contains (setup.policyOf employee).timezone p.punchAt) :
    setup.punchesOf employee date (punches ++ [p]) = setup.punchesOf employee date punches := by
  unfold AttendanceSetup.punchesOf
  rw [List.filter_append, List.filter_cons_of_neg (by simpa using h), List.filter_nil,
    List.append_nil]

/-- **A punch outside the bounds of a date** leaves its summary as it is. -/
theorem summarizeDay_append_of_not_contains (h : p.employee = employee →
    ¬ (setup.boundsOf employee date).Contains (setup.policyOf employee).timezone p.punchAt) :
    summarizeDay setup employee date (punches ++ [p])
      = summarizeDay setup employee date punches := by
  unfold summarizeDay
  rw [punchesOf_append h]

/-- **A date that is overridden** has the minutes, pay and status of the override. -/
theorem sameDay_of_override (punches' : List StoredPunch)
    (h : (getAttendanceOverride setup employee date).isSome = true) :
    (summarizeDay setup employee date punches).SameDay
      (summarizeDay setup employee date punches') := by
  obtain ⟨record, hrecord⟩ := Option.isSome_iff_exists.mp h
  unfold summarizeDay
  rw [hrecord]
  exact ⟨rfl, rfl, rfl⟩

end

end Attendance
