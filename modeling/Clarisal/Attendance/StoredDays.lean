import Clarisal.Attendance.DaySummary
import Clarisal.Lib.Run
import Clarisal.Lib.View

/-!
# Stored days

The summary of a day is stored when a punch comes in, for one date: today for a
web punch, the date on the default clocks for an ingested one, and the date on the
policy's clocks for one of a device. The punch may be one of other dates. A device
that reports the end of a night has the next date computed, and the night stays at
its beginning (`night_is_stale`).

Stored days are a view of the punches. They are current in every run that stores no
punch in the bounds of another stored date, one that nobody has overridden
(`stored_current_of_guarded`).
-/

open Calendar

namespace Attendance

open Approvals (OrganisationId EmployeeId)

inductive AttendanceSourceConfigKind
  | api | excel | device
deriving DecidableEq, Repr

structure AttendanceSourceConfig where
  id : ℕ
  organisation : OrganisationId
  kind : AttendanceSourceConfigKind
  isActive : Bool
deriving DecidableEq, Repr

/-- The punches, and the stored days by employee and date. -/
structure AttendanceState where
  punches : List StoredPunch
  days : List ((EmployeeId × Date) × DaySummary)

/-- What a web punch brings; `location` is what the checks of address and geo-fence
say. -/
structure PunchRequest where
  employee : EmployeeId
  actionType : AttendancePunchActionType
  source : AttendancePunchSource
  location : Except String Unit
  now : ℤ
  punchAt : ℤ

/-- A row of an ingested batch; its time is as it parses. -/
structure PunchPayload where
  employeeCode : String
  punchAt : Except String ℤ
  actionType : String

/-- A punch of a device; a source that is none is not given. -/
structure DevicePunch where
  employeeCode : String
  punchTime : ℤ
  organisation : OrganisationId
  direction : String
  source : Option AttendancePunchSource
  sourceConfig : Option ℕ

section

variable (setup : AttendanceSetup)

/-- The summary under a key. -/
def dayOf (punches : List StoredPunch) (key : EmployeeId × Date) : DaySummary :=
  summarizeDay setup key.1 key.2 punches

def recalculateAttendanceDay (employee : EmployeeId) (date : Date) (st : AttendanceState) :
    AttendanceState :=
  { st with days := View.refresh (dayOf setup) st.punches (employee, date) st.days }

/-- Create a punch and compute a date again. -/
def storePunch (p : StoredPunch) (date : Date) (st : AttendanceState) : AttendanceState :=
  recalculateAttendanceDay setup p.employee date { st with punches := st.punches ++ [p] }

/-! ## Web punches -/

def checkSource (r : PunchRequest) : Except String Unit :=
  if r.source = .web ∧ (setup.policyOf r.employee).allowWebPunch = false then
    .error "Web punch is disabled for this attendance policy."
  else r.location

def checkAction (actionType : AttendancePunchActionType) (day : DaySummary) : Except String Unit :=
  if actionType = .checkIn ∧ day.checkInAt.isSome ∧ day.checkOutAt.isNone then
    .error "You are already checked in for today."
  else if actionType = .checkOut ∧ day.checkInAt.isNone then
    .error "Check in before punching out."
  else .ok ()

/-- The date that a web punch counts for. -/
def PunchRequest.today (r : PunchRequest) : Date := (setup.policyOf r.employee).localDate r.now

def PunchRequest.punch (r : PunchRequest) : StoredPunch where
  punchAt := r.punchAt
  actionType := r.actionType
  employee := r.employee
  source := r.source
  sourceConfig := none

/-- `record_employee_punch`. The date is computed before the action is checked. -/
def recordEmployeePunch (r : PunchRequest) (st : AttendanceState) : AttendanceState :=
  match checkSource setup r with
  | .error _ => st
  | .ok () =>
    let today := r.today setup
    let st := recalculateAttendanceDay setup r.employee today st
    match checkAction r.actionType (summarizeDay setup r.employee today st.punches) with
    | .error _ => st
    | .ok () => storePunch setup r.punch today st

/-! ## Ingested punches -/

/-- The active employee of a code. -/
def hasCode (organisation : OrganisationId) (code : String) (e : EmployeeId) : Bool :=
  (setup.employee e).organisation = organisation
    ∧ (setup.employee e).employeeCode = setup.upper (setup.strip code)
    ∧ (setup.employee e).status = .active

def resolveEmployee (organisation : OrganisationId) (employeeCode : String) :
    Except String EmployeeId :=
  if setup.upper (setup.strip employeeCode) = "" then .error "Employee code is required."
  else match setup.employees.find? (hasCode setup organisation employeeCode) with
    | none => .error "Employee code was not found in this organisation or is not active."
    | some e => .ok e

def parseActionType (text : String) : Except String AttendancePunchActionType :=
  if text = "" ∨ text = "RAW" then .ok .raw
  else if text = "CHECK_IN" then .ok .checkIn
  else if text = "CHECK_OUT" then .ok .checkOut
  else .error "Action type must be CHECK_IN, CHECK_OUT, or RAW."

/-- The punch of a row, unless it is there already. -/
def acceptPayload (config : AttendanceSourceConfig) (payload : PunchPayload)
    (st : AttendanceState) : Except String (Option StoredPunch) := do
  let employee ← resolveEmployee setup config.organisation
    (setup.upper (setup.strip payload.employeeCode))
  let punchAt ← payload.punchAt
  let actionType ← parseActionType payload.actionType
  if ∃ p ∈ st.punches, p.employee = employee ∧ p.sourceConfig = some config.id
      ∧ p.punchAt = punchAt ∧ p.actionType = actionType then .ok none
  else .ok (some {
    punchAt := punchAt
    actionType := actionType
    employee := employee
    source := if config.kind = .api then .api else .manual
    sourceConfig := some config.id })

def ingestPayload (config : AttendanceSourceConfig) (st : AttendanceState)
    (payload : PunchPayload) : AttendanceState :=
  match acceptPayload setup config payload st with
  | .ok (some p) => storePunch setup p (setup.defaultLocalDate p.punchAt) st
  | _ => st

/-- `ingest_source_punches`: a row that is refused or a duplicate is passed over. -/
def ingestSourcePunches (config : AttendanceSourceConfig) (payloads : List PunchPayload)
    (st : AttendanceState) : AttendanceState :=
  if config.isActive = false then st
  else Run.exec (ingestPayload setup config) st payloads

/-! ## Punches of devices -/

def DevicePunch.actionType (d : DevicePunch) : AttendancePunchActionType :=
  if setup.upper d.direction = "IN" then .checkIn
  else if setup.upper d.direction = "OUT" then .checkOut
  else .raw

/-- The punch of a device, of the one active employee with its code, unless there is one
within a minute. -/
def acceptDevicePunch (d : DevicePunch) (st : AttendanceState) : Option StoredPunch :=
  match setup.employees.filter (hasCode setup d.organisation d.employeeCode) with
  | [employee] =>
    if ∃ p ∈ st.punches, p.employee = employee ∧ p.actionType = d.actionType setup
        ∧ d.punchTime - 60000000 ≤ p.punchAt ∧ p.punchAt ≤ d.punchTime + 60000000 then none
    else some {
      punchAt := d.punchTime
      actionType := d.actionType setup
      employee := employee
      source := d.source.getD .device
      sourceConfig := d.sourceConfig }
  | _ => none

def createPunchFromSource (d : DevicePunch) (st : AttendanceState) : AttendanceState :=
  match acceptDevicePunch setup d st with
  | none => st
  | some p => storePunch setup p ((setup.policyOf p.employee).localDate p.punchAt) st

/-! ## Runs -/

/-- **The three ways in.** -/
inductive PunchOp
  | recordEmployeePunch (request : PunchRequest)
  | ingestSourcePunches (config : AttendanceSourceConfig) (payloads : List PunchPayload)
  | createPunchFromSource (punch : DevicePunch)

/-- **One call.** -/
def punchStep (st : AttendanceState) : PunchOp → AttendanceState
  | .recordEmployeePunch request => Attendance.recordEmployeePunch setup request st
  | .ingestSourcePunches config payloads => Attendance.ingestSourcePunches setup config payloads st
  | .createPunchFromSource punch => Attendance.createPunchFromSource setup punch st

/-- **Every stored day is current**: it has the minutes, pay and status that its date
has by the punches stored now. -/
def StoredCurrent (st : AttendanceState) : Prop :=
  View.Current (dayOf setup) DaySummary.SameDay st.punches st.days

/-- **The punch is one of the computed date only**, among the stored dates of the
employee that nobody has overridden. -/
def OnlyOn (p : StoredPunch) (date : Date) (st : AttendanceState) : Prop :=
  ∀ entry ∈ st.days, entry.1.1 = p.employee → entry.1.2 ≠ date →
    (getAttendanceOverride setup p.employee entry.1.2).isSome = false →
    ¬ (setup.boundsOf p.employee entry.1.2).Contains (setup.policyOf p.employee).timezone p.punchAt

instance (p : StoredPunch) (date : Date) (st : AttendanceState) :
    Decidable (OnlyOn setup p date st) :=
  inferInstanceAs (Decidable (∀ entry ∈ st.days, _))

/-- **The guard of a call**: a punch that it stores is one of the computed date only. -/
def Guarded (st : AttendanceState) : PunchOp → Prop
  | .recordEmployeePunch r => checkSource setup r = .ok () →
    checkAction r.actionType (summarizeDay setup r.employee (r.today setup) st.punches) = .ok () →
    OnlyOn setup r.punch (r.today setup) st
  | .ingestSourcePunches config payloads => config.isActive = true →
    Run.Along (ingestPayload setup config) (fun st payload =>
      ∀ p, acceptPayload setup config payload st = .ok (some p) →
        OnlyOn setup p (setup.defaultLocalDate p.punchAt) st) st payloads
  | .createPunchFromSource d => ∀ p ∈ acceptDevicePunch setup d st,
    OnlyOn setup p ((setup.policyOf p.employee).localDate p.punchAt) st

variable {setup} {st : AttendanceState} {p : StoredPunch} {date : Date}

/-- **A punch of the computed date only** leaves every stored day current. -/
theorem storePunch_current (h : StoredCurrent setup st) (honly : OnlyOn setup p date st) :
    StoredCurrent setup (storePunch setup p date st) := by
  refine View.Current.append DaySummary.SameDay.refl DaySummary.SameDay.trans h ?_
  rintro ⟨employee, date'⟩ hne ⟨day, hday⟩
  show (summarizeDay setup employee date' st.punches).SameDay
    (summarizeDay setup employee date' (st.punches ++ [p]))
  by_cases hemployee : employee = p.employee
  · subst hemployee
    have hdate : date' ≠ date := fun hdate => hne (hdate ▸ rfl)
    obtain ⟨entry, hfound, rfl⟩ := Option.map_eq_some_iff.mp hday
    have hentry : entry ∈ st.days := Table.find_mem hfound
    have hkey : entry.1 = (p.employee, date') := Table.find_key hfound
    obtain rfl : entry.1.2 = date' := congrArg Prod.snd hkey
    cases hoverride : (getAttendanceOverride setup p.employee entry.1.2).isSome with
    | true => exact sameDay_of_override _ hoverride
    | false =>
      have hout := honly entry hentry (congrArg Prod.fst hkey) hdate hoverride
      rw [summarizeDay_append_of_not_contains (fun _ => hout)]
      exact .refl _
  · rw [summarizeDay_append_of_not_contains (fun hsame => absurd hsame.symm hemployee)]
    exact .refl _

theorem recalculateAttendanceDay_current (h : StoredCurrent setup st) (employee : EmployeeId)
    (date : Date) : StoredCurrent setup (recalculateAttendanceDay setup employee date st) :=
  View.Current.refresh DaySummary.SameDay.refl h (employee, date)

/-- Computing a date before does not make the punch one of more dates. -/
theorem OnlyOn.recalculate (h : OnlyOn setup p date st) :
    OnlyOn setup p date (recalculateAttendanceDay setup p.employee date st) := by
  intro entry hentry hemployee hdate
  refine h entry ?_ hemployee hdate
  have hkey : entry.1 ≠ (p.employee, date) := fun hkey => hdate (congrArg Prod.snd hkey)
  exact Dict.mem_of_mem_alter hentry hkey

/-- **A guarded call** keeps every stored day current. -/
theorem punchStep_current (h : StoredCurrent setup st) (op : PunchOp)
    (hguarded : Guarded setup st op) : StoredCurrent setup (punchStep setup st op) := by
  cases op with
  | recordEmployeePunch r =>
    show StoredCurrent setup (Attendance.recordEmployeePunch setup r st)
    unfold Attendance.recordEmployeePunch
    cases hsource : checkSource setup r with
    | error message => exact h
    | ok u =>
      have hcomputed := recalculateAttendanceDay_current h r.employee (r.today setup)
      show StoredCurrent setup (match checkAction r.actionType
          (summarizeDay setup r.employee (r.today setup) st.punches) with
        | .error _ => recalculateAttendanceDay setup r.employee (r.today setup) st
        | .ok () => storePunch setup r.punch (r.today setup)
          (recalculateAttendanceDay setup r.employee (r.today setup) st))
      cases haction : checkAction r.actionType
          (summarizeDay setup r.employee (r.today setup) st.punches) with
      | error message => exact hcomputed
      | ok u => exact storePunch_current hcomputed (hguarded hsource haction).recalculate
  | ingestSourcePunches config payloads =>
    show StoredCurrent setup (Attendance.ingestSourcePunches setup config payloads st)
    unfold Attendance.ingestSourcePunches
    split
    · exact h
    · next hactive =>
      refine Run.invariant_of_along (I := fun s : AttendanceState => StoredCurrent setup s)
        (fun s payload hs hpayload => ?_) h (hguarded (Bool.not_eq_false _ ▸ hactive))
      unfold ingestPayload
      split
      · next p hp => exact storePunch_current hs (hpayload p hp)
      · exact hs
  | createPunchFromSource d =>
    show StoredCurrent setup (Attendance.createPunchFromSource setup d st)
    unfold Attendance.createPunchFromSource
    split
    · exact h
    · next p hp => exact storePunch_current h (hguarded p hp)

end

/-- **Stored days stay current** in every run of guarded calls. -/
theorem stored_current_of_guarded (setup : AttendanceSetup) (st : AttendanceState)
    (hst : StoredCurrent setup st) {ops : List PunchOp}
    (hops : Run.Along (punchStep setup) (Guarded setup) st ops) (n : ℕ) :
    StoredCurrent setup (Run.exec (punchStep setup) st (ops.take n)) := by
  rw [← List.take_append_drop n ops, Run.along_append] at hops
  exact Run.invariant_of_along (I := fun s : AttendanceState => StoredCurrent setup s)
    (fun _ op h hguarded => punchStep_current h op hguarded) hst hops.1

/-! ## A night that a device reports -/

namespace Sample

def sixth : Date := ⟨2026, 5, 6, isDate_2026_05_06⟩

def seventh : Date := ⟨2026, 5, 7, by decide⟩

/-- Employee 1 has the night of the sixth of May; the dates are those of the two days. -/
def setup : AttendanceSetup where
  policy _ := {
    policy with
    localDate := fun t =>
      if t < kolkata.utc (combine seventh (.ofHours 0 midnight)) then sixth else seventh
    halfDayMinMinutes := 240
    fullDayMinMinutes := 480
    overtimeAfterMinutes := 540
    graceMinutes := 15
    weekOffDays := []
    allowWebPunch := true }
  shifts := [night]
  thresholds _ := { halfDayMinMinutes := none, fullDayMinMinutes := none,
                    overtimeAfterMinutes := none, graceMinutes := none }
  employees := [1]
  employee _ :=
    { employee with employeeCode := "EMP001", status := .active, officeLocation := none }
  holidayCalendars := []
  leaveRequests := []
  onDutyRequests := []
  wfhRequests := []
  records := []
  defaultLocalDate t := if t < combine seventh (.ofHours 0 midnight) then sixth else seventh
  strip := id
  upper := id

/-- The device reports employee 1 at an hour of the sixth. -/
def reports (direction : String) (h : ℤ) : PunchOp :=
  .createPunchFromSource {
    employeeCode := "EMP001"
    punchTime := (punch h).punchAt
    organisation := 1
    direction := direction
    source := some .device
    sourceConfig := none }

def noDays : AttendanceState := { punches := [], days := [] }

end Sample

open Sample

theorem stored_current_of_guarded_sample :
    StoredCurrent setup (Run.exec (punchStep setup) noDays
      ([reports "IN" 22, reports "OUT" 23].take 2)) :=
  stored_current_of_guarded setup noDays View.current_nil (by
    have hguarded : ∀ st h direction,
        Guarded setup st (reports direction h) ↔ ∀ p ∈ acceptDevicePunch setup
          ⟨"EMP001", (punch h).punchAt, 1, direction, some .device, none⟩ st,
          OnlyOn setup p ((setup.policyOf p.employee).localDate p.punchAt) st :=
      fun _ _ _ => Iff.rfl
    exact ⟨(hguarded _ _ _).mpr (by decide +kernel), (hguarded _ _ _).mpr (by decide +kernel),
      trivial⟩) 2

/-- **The night stays at its beginning**: the device reports its end at six o'clock, on
the seventh, and only the seventh is computed. -/
theorem night_is_stale :
    ¬ StoredCurrent setup (Run.exec (punchStep setup) noDays
      [reports "IN" 22, reports "OUT" 30]) := by
  intro h
  have hstored : (Dict.get (1, sixth) (Run.exec (punchStep setup) noDays
      [reports "IN" 22, reports "OUT" 30]).days).map DaySummary.workedMinutes = some 0 := by
    decide +kernel
  obtain ⟨day, hday, hworked⟩ := Option.map_eq_some_iff.mp hstored
  have hnow : (dayOf setup (Run.exec (punchStep setup) noDays
      [reports "IN" 22, reports "OUT" 30]).punches (1, sixth)).workedMinutes = 480 := by
    decide +kernel
  have hsame := (h (1, sixth) day hday).workedMinutes
  rw [hworked, hnow] at hsame
  exact absurd hsame (by decide)

end Attendance
