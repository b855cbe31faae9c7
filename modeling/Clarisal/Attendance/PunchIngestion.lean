import Clarisal.Attendance.StoredDays
import Clarisal.Lib.Thinning

/-!
# Punches that come again

Devices send their events in any order, and more than once. An event of an active employee
is stored unless a punch of the same action is stored within a minute of it. So the stored
punches are thinned, and sending a list again changes nothing (`punch_ingestion_idempotent`).
-/

namespace Attendance

open Approvals (EmployeeId)

/-! ## Lists of events -/

/-- **The event is of a known employee**: the only active one with its code. -/
def DevicePunch.IsOf (setup : AttendanceSetup) (d : DevicePunch) (employee : EmployeeId) : Prop :=
  setup.employees.filter (hasCode setup d.organisation d.employeeCode) = [employee]

/-- **A list of events**, handed over one by one. -/
def createPunchesFromSource (setup : AttendanceSetup) (events : List DevicePunch)
    (st : AttendanceState) : AttendanceState :=
  Run.exec (fun st d => createPunchFromSource setup d st) st events

/-- **A sequence of calls**, each with the employees and policies as they are then. -/
def ingestCalls (st : AttendanceState) (calls : List (AttendanceSetup × List DevicePunch)) :
    AttendanceState :=
  Run.exec (fun st call => createPunchesFromSource call.1 call.2 st) st calls

/-! ## Thinned punches -/

/-- **Within one minute**: punches of one employee with the same action. -/
def WithinOneMinute (p q : StoredPunch) : Prop :=
  p.employee = q.employee ∧ p.actionType = q.actionType ∧ |p.punchAt - q.punchAt| ≤ 60000000

instance : DecidableRel WithinOneMinute := fun _ _ => inferInstanceAs (Decidable (_ ∧ _ ∧ _))

/-- The punch of an event, if its employee is known. -/
def DevicePunch.punch (setup : AttendanceSetup) (d : DevicePunch) : Option StoredPunch :=
  match setup.employees.filter (hasCode setup d.organisation d.employeeCode) with
  | [employee] => some {
      punchAt := d.punchTime
      actionType := d.actionType setup
      employee := employee
      source := d.source.getD .device
      sourceConfig := d.sourceConfig }
  | _ => none

variable {setup : AttendanceSetup} {d : DevicePunch} {st : AttendanceState}
  {events : List DevicePunch} {employee : EmployeeId} {p : StoredPunch}

theorem withinOneMinute_refl (p : StoredPunch) : WithinOneMinute p p :=
  ⟨rfl, rfl, by simp⟩

theorem DevicePunch.IsOf.punch (h : d.IsOf setup employee) :
    ∃ p, d.punch setup = some p ∧ p.employee = employee ∧ p.actionType = d.actionType setup
      ∧ p.punchAt = d.punchTime := by
  unfold DevicePunch.punch
  rw [h]
  exact ⟨_, rfl, rfl, rfl, rfl⟩

/-- **An event is accepted** unless a stored punch is within a minute of it. -/
theorem acceptDevicePunch_eq (setup : AttendanceSetup) (d : DevicePunch) (st : AttendanceState) :
    acceptDevicePunch setup d st = (d.punch setup).bind
      (fun p => if ∃ q ∈ st.punches, WithinOneMinute q p then none else some p) := by
  unfold acceptDevicePunch DevicePunch.punch
  rcases setup.employees.filter (hasCode setup d.organisation d.employeeCode) with
    _ | ⟨employee, _ | ⟨other, rest⟩⟩
  · rfl
  · refine if_congr (exists_congr fun q => and_congr_right fun _ => ?_) rfl rfl
    refine and_congr_right fun _ => and_congr_right fun _ => ?_
    rw [abs_le]
    constructor
    · rintro ⟨hafter, hbefore⟩
      constructor <;> dsimp only <;> omega
    · rintro ⟨hafter, hbefore⟩
      dsimp only at hafter hbefore
      constructor <;> omega
  · rfl

/-- An event whose punch is there changes nothing. -/
theorem createPunchFromSource_of_near
    (h : ∀ p ∈ d.punch setup, ∃ q ∈ st.punches, WithinOneMinute q p) :
    createPunchFromSource setup d st = st := by
  unfold createPunchFromSource
  rw [acceptDevicePunch_eq]
  cases hpunch : d.punch setup with
  | none => rfl
  | some p =>
    rw [Option.bind_some, if_pos (h p hpunch)]

/-- **The punches after an event** are thinned by its punch. -/
theorem punches_createPunchFromSource (setup : AttendanceSetup) (d : DevicePunch)
    (st : AttendanceState) :
    (createPunchFromSource setup d st).punches
      = Thinning.thin WithinOneMinute st.punches (d.punch setup).toList := by
  unfold createPunchFromSource
  rw [acceptDevicePunch_eq]
  cases d.punch setup with
  | none => rfl
  | some p =>
    show _ = Thinning.keep WithinOneMinute st.punches p
    rw [Option.bind_some]
    by_cases hnear : ∃ q ∈ st.punches, WithinOneMinute q p
    · rw [if_pos hnear, Thinning.keep_of_near hnear]
    · rw [if_neg hnear, Thinning.keep, if_neg hnear]
      rfl

/-- The punches of the known employees' events. -/
def punchesOf (setup : AttendanceSetup) (events : List DevicePunch) : List StoredPunch :=
  events.flatMap (fun d => (d.punch setup).toList)

theorem punches_createPunchesFromSource (setup : AttendanceSetup) (events : List DevicePunch)
    (st : AttendanceState) :
    (createPunchesFromSource setup events st).punches
      = Thinning.thin WithinOneMinute st.punches (punchesOf setup events) := by
  induction events generalizing st with
  | nil => rfl
  | cons d events ih =>
    show (createPunchesFromSource setup events (createPunchFromSource setup d st)).punches = _
    rw [ih, punches_createPunchFromSource, ← Thinning.thin_append]
    rfl

/-- **The punches of a sequence of calls** are those of all its events, thinned. -/
theorem punches_ingestCalls (st : AttendanceState)
    (calls : List (AttendanceSetup × List DevicePunch)) :
    (ingestCalls st calls).punches = Thinning.thin WithinOneMinute st.punches
      (calls.flatMap (fun call => punchesOf call.1 call.2)) := by
  induction calls generalizing st with
  | nil => rfl
  | cons call calls ih =>
    show (ingestCalls (createPunchesFromSource call.1 call.2 st) calls).punches = _
    rw [ih, punches_createPunchesFromSource, ← Thinning.thin_append]
    rfl

/-- **The same events again** change nothing. -/
theorem createPunchesFromSource_again (setup : AttendanceSetup) (events : List DevicePunch)
    (st : AttendanceState) :
    createPunchesFromSource setup events (createPunchesFromSource setup events st)
      = createPunchesFromSource setup events st := by
  refine Run.exec_eq_self fun d hd => createPunchFromSource_of_near fun p hp => ?_
  rw [punches_createPunchesFromSource]
  refine Thinning.exists_near_thin st.punches withinOneMinute_refl ?_
  exact List.mem_flatMap.mpr ⟨d, hd, Option.mem_toList.mpr hp⟩

/-- **The events are covered**: each of a known employee has a punch of its action within a
minute of its time. -/
def Covers (punches : List StoredPunch) (calls : List (AttendanceSetup × List DevicePunch)) :
    Prop :=
  ∀ call ∈ calls, ∀ d ∈ call.2, ∀ employee, d.IsOf call.1 employee →
    ∃ p ∈ punches, p.employee = employee ∧ p.actionType = d.actionType call.1
      ∧ |p.punchAt - d.punchTime| ≤ 60000000

theorem covers_ingestCalls (st : AttendanceState)
    (calls : List (AttendanceSetup × List DevicePunch)) :
    Covers (ingestCalls st calls).punches calls := by
  intro call hcall d hd employee hof
  obtain ⟨q, hq, rfl, hactionType, hpunchAt⟩ := hof.punch
  have hmem : q ∈ calls.flatMap (fun call => punchesOf call.1 call.2) :=
    List.mem_flatMap.mpr ⟨call, hcall, List.mem_flatMap.mpr ⟨d, hd, Option.mem_toList.mpr hq⟩⟩
  rw [punches_ingestCalls]
  obtain ⟨p, hp, hemployee, haction, htime⟩ :=
    Thinning.exists_near_thin st.punches withinOneMinute_refl hmem
  exact ⟨p, hp, hemployee, haction.trans hactionType, hpunchAt ▸ htime⟩

end Attendance
