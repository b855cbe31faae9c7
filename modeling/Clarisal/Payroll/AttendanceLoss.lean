import Clarisal.Attendance.PayrollSummary
import Clarisal.Payroll.LossOfPay
import Clarisal.Payroll.LossOfPayLeave
import Clarisal.TimeOff.CycleEnd

/-!
# Absence and leave without pay

Attendance counts a day of leave as paid, whatever its type, and time off knows nothing of
absences. Payroll takes the larger of the two counts of days: an employee absent on four
days and on leave without pay on a fifth one loses four (`absent_and_on_leave`).

So absence and leave are both lost exactly when there is no leave on the days that
attendance pays and attendance answers, or when the leave and the entries without pay of
the month come to as much (`countsBoth_iff`).
-/

open Calendar Date

namespace TimeOff

/-! ## The rows that attendance reads -/

def DaySession.forAttendance : DaySession → Attendance.DaySession
  | .fullDay => .fullDay
  | .firstHalf => .firstHalf
  | .secondHalf => .secondHalf

def LeaveRequestStatus.forAttendance : LeaveRequestStatus → Attendance.RequestStatus
  | .pending => .pending
  | .approved => .approved
  | .rejected => .rejected
  | .cancelled => .cancelled
  | .withdrawn => .withdrawn

/-- A leave request, as attendance reads it. -/
def LeaveRequest.forAttendance (r : LeaveRequest) : Attendance.LeaveRequest where
  employee := r.employee
  startDate := r.startDate
  endDate := r.endDate
  startSession := r.startSession.forAttendance
  endSession := r.endSession.forAttendance
  status := r.status.forAttendance

@[simp] theorem DaySession.forAttendance_eq_fullDay_iff {s : DaySession} :
    s.forAttendance = .fullDay ↔ s = .fullDay := by
  cases s <;> simp [forAttendance]

@[simp] theorem LeaveRequestStatus.forAttendance_eq_approved_iff {s : LeaveRequestStatus} :
    s.forAttendance = .approved ↔ s = .approved := by
  cases s <;> simp [forAttendance]

/-- Both modules take the same part of a date. -/
theorem requestDayFraction_forAttendance (r : LeaveRequest) (date : Date) :
    Attendance.requestDayFraction r.startDate r.endDate date r.startSession.forAttendance
      r.endSession.forAttendance = r.fractionOn date := by
  unfold Attendance.requestDayFraction LeaveRequest.fractionOn requestDayFraction
  simp only [ne_eq, DaySession.forAttendance_eq_fullDay_iff]
  by_cases hout : date < r.startDate ∨ r.endDate < date
  · rw [if_pos hout, if_pos hout]
  · rw [if_neg hout, if_neg hout]
    push Not at hout
    refine if_congr (Iff.intro (fun hone => ⟨hone, ?_⟩) And.left) rfl rfl
    exact le_antisymm (hone ▸ hout.1) hout.2

end TimeOff

namespace Payroll

open Approvals TimeOff

/-- **What payroll reads of absence and leave**: attendance reads the same requests. -/
structure AbsenceSources where
  masters : Masters
  leaveRequests : List LeaveRequest
  lwpEntries : List LeaveWithoutPayEntry
  attendance : Attendance.PayrollAttendance
  sameRequests : attendance.setup.leaveRequests = leaveRequests.map LeaveRequest.forAttendance
  twoPlaces : (∀ r ∈ leaveRequests, TwoPlaces r.totalUnits) ∧ ∀ e ∈ lwpEntries, TwoPlaces e.units

/-- `Sum` over rows: nothing over none. -/
def sumOf (xs : List ℚ) : Option ℚ := if xs = [] then none else some xs.sum

@[simp] theorem sumOf_getD (xs : List ℚ) : (sumOf xs).getD 0 = xs.sum := by
  unfold sumOf
  split
  · next h => rw [h]; rfl
  · rfl

namespace AbsenceSources

variable (sources : AbsenceSources)

/-- The units of the approved loss-of-pay requests that start in a month. -/
def leaveUnits (employee : EmployeeId) (p : PayPeriod) : List ℚ :=
  ((lossOfPayRequests sources.masters sources.leaveRequests employee).filter (fun r =>
    p.start ≤ r.startDate ∧ r.startDate ≤ p.finish)).map LeaveRequest.totalUnits

/-- The units of the approved entries without pay of a month. -/
def lwpUnits (employee : EmployeeId) (p : PayPeriod) : List ℚ :=
  (sources.lwpEntries.filter (fun e => e.employee = employee ∧ e.status = .approved
    ∧ p.start ≤ e.entryDate ∧ e.entryDate ≤ p.finish)).map LeaveWithoutPayEntry.units

/-- **An employee without pay on a date**, by loss-of-pay requests: a day at most. -/
def lossOfPayOn (employee : EmployeeId) (date : Date) : ℚ :=
  min 1 ((lossOfPayRequests sources.masters sources.leaveRequests employee).map
    (fun r => r.fractionOn date)).sum

/-- The date is one that attendance pays in full. -/
def IsPaid (employee : EmployeeId) (date : Date) : Prop :=
  (sources.attendance.dayOn employee date).paidFraction = 1

instance (employee : EmployeeId) (date : Date) : Decidable (sources.IsPaid employee date) :=
  inferInstanceAs (Decidable (_ = _))

end AbsenceSources

namespace ItemInputs

section

variable (inp : ItemInputs) (sources : AbsenceSources)

/-- **The inputs of Step 6**, read off their sources. -/
def readAbsence : ItemInputs :=
  { inp with
    attendanceSummary := (Attendance.getPayrollAttendanceSummary sources.attendance
      inp.employee.id inp.activePeriodStart inp.activePeriodEnd).toOption.map
        (fun summary => (summary.paidFraction, summary.overtimeMinutes))
    leaveOnlyLopDays := sumOf (sources.leaveUnits inp.employee.id inp.period)
    explicitLwpDays := sumOf (sources.lwpUnits inp.employee.id inp.period) }

/-- The dates of the paid period. -/
def paidDates : List Date := datesBetween inp.paidPeriodStart inp.paidPeriodEnd

/-- **The days of unpaid absence** in the paid period, by the summaries of its days. -/
def absentDays : ℚ := (inp.paidDates.map (sources.attendance.unpaidOn inp.employee.id)).sum

/-- **The days of leave without pay** in the paid period, on days without absence. -/
def leaveDays : ℚ :=
  ((inp.paidDates.filter (sources.IsPaid inp.employee.id)).map
    (sources.lossOfPayOn inp.employee.id)).sum

/-- **The days without pay of the month**, by the requests that start in it and the entries. -/
def policyDays : ℚ :=
  (sources.leaveUnits inp.employee.id inp.period).sum
    + (sources.lwpUnits inp.employee.id inp.period).sum

/-- **Attendance answers**: the employee is in employment in the month, and no day of the paid
period has a shift. -/
def AttendanceAnswers : Prop :=
  inp.activePeriodStart ≤ inp.activePeriodEnd
    ∧ ∀ d ∈ inp.paidDates, sources.attendance.shiftOn inp.employee.id d = none

/-- **Absence and leave do not meet in the count**: there is no leave without pay on the days
paid, and attendance answers or there is no absence; or the requests and entries of the month
come to as much. -/
def CountsApart : Prop :=
  ((∀ d ∈ inp.paidDates, sources.IsPaid inp.employee.id d →
        sources.lossOfPayOn inp.employee.id d = 0)
      ∧ (inp.AttendanceAnswers sources
        ∨ ∀ d ∈ inp.paidDates, sources.IsPaid inp.employee.id d))
    ∨ inp.absentDays sources + inp.leaveDays sources ≤ inp.policyDays sources

instance : Decidable (inp.AttendanceAnswers sources) := inferInstanceAs (Decidable (_ ∧ _))

instance : Decidable (inp.CountsApart sources) := inferInstanceAs (Decidable (_ ∨ _))

end

end ItemInputs

/-! ## What the two modules say of a date -/

section

variable {sources : AbsenceSources} {employee : EmployeeId} {date : Date}

theorem lossOfPayOn_nonneg (sources : AbsenceSources) (employee : EmployeeId) (date : Date) :
    0 ≤ sources.lossOfPayOn employee date := by
  refine le_min zero_le_one (List.sum_nonneg (fun x hx => ?_))
  obtain ⟨r, -, rfl⟩ := List.mem_map.mp hx
  exact requestDayFraction_nonneg r.span date

/-- The leave that attendance counts is at least the leave without pay. -/
theorem lossOfPayOn_le_getLeaveFraction (sources : AbsenceSources) (employee : EmployeeId)
    (date : Date) : sources.lossOfPayOn employee date
      ≤ Attendance.getLeaveFraction sources.attendance.setup employee date := by
  unfold AbsenceSources.lossOfPayOn Attendance.getLeaveFraction
  refine min_le_min le_rfl ?_
  rw [sources.sameRequests, List.filter_map, List.map_map, lossOfPayRequests, sum_map_filter,
    sum_map_filter]
  refine List.sum_le_sum (fun r _ => ?_)
  have hnonneg : 0 ≤ r.fractionOn date := requestDayFraction_nonneg r.span date
  show _ ≤ if _ then Attendance.requestDayFraction r.startDate r.endDate date
    r.startSession.forAttendance r.endSession.forAttendance else 0
  rw [requestDayFraction_forAttendance]
  by_cases hcovered : r.startDate ≤ date ∧ date ≤ r.endDate
  · by_cases hunpaid : r.employee = employee ∧ (sources.masters.leaveType r.leaveType).isLossOfPay
      ∧ r.status = .approved
    · simp [hunpaid, hcovered, LeaveRequest.forAttendance]
    · simp only [hunpaid, decide_false, Bool.false_eq_true, if_false]
      split
      · exact hnonneg
      · exact le_rfl
  · have hzero : r.fractionOn date = 0 := by
      refine if_pos ?_
      rw [← not_le, ← not_le, ← not_and_or]
      exact hcovered
    simp [hzero]

/-- **A day of leave without pay is one that attendance pays.** -/
theorem isPaid_of_lossOfPayOn (h : sources.lossOfPayOn employee date = 1) :
    sources.IsPaid employee date :=
  Attendance.paidFraction_of_leave
    (h.ge.trans (lossOfPayOn_le_getLeaveFraction sources employee date))

end

namespace ItemInputs

section

variable {inp : ItemInputs} {sources : AbsenceSources}

/-- **Whole days of leave without pay** are on no day of absence. -/
theorem leaveDays_eq (h : ∀ d ∈ inp.paidDates, sources.lossOfPayOn inp.employee.id d = 0
      ∨ sources.lossOfPayOn inp.employee.id d = 1) :
    inp.leaveDays sources = (inp.paidDates.map (sources.lossOfPayOn inp.employee.id)).sum := by
  unfold leaveDays
  rw [sum_map_filter]
  refine congrArg List.sum (List.map_congr_left (fun d hd => ?_))
  cases h d hd with
  | inl hzero => simp [hzero]
  | inr hone => simp [isPaid_of_lossOfPayOn hone]

theorem absentDays_nonneg (inp : ItemInputs) (sources : AbsenceSources) :
    0 ≤ inp.absentDays sources := by
  refine List.sum_nonneg (fun x hx => ?_)
  obtain ⟨d, -, rfl⟩ := List.mem_map.mp hx
  exact Attendance.unpaidOn_nonneg _ _ d

theorem leaveDays_nonneg (inp : ItemInputs) (sources : AbsenceSources) :
    0 ≤ inp.leaveDays sources := by
  refine List.sum_nonneg (fun x hx => ?_)
  obtain ⟨d, -, rfl⟩ := List.mem_map.mp hx
  exact lossOfPayOn_nonneg sources _ d

theorem absentDays_eq_zero_iff :
    inp.absentDays sources = 0 ↔ ∀ d ∈ inp.paidDates, sources.IsPaid inp.employee.id d := by
  unfold absentDays
  rw [Budget.sum_eq_zero_iff fun d _ => Attendance.unpaidOn_nonneg _ _ d]
  refine forall₂_congr (fun d _ => ?_)
  show 1 - _ = (0 : ℚ) ↔ _ = (1 : ℚ)
  rw [sub_eq_zero, eq_comm]

theorem leaveDays_eq_zero_iff :
    inp.leaveDays sources = 0 ↔ ∀ d ∈ inp.paidDates, sources.IsPaid inp.employee.id d →
      sources.lossOfPayOn inp.employee.id d = 0 := by
  unfold leaveDays
  rw [Budget.sum_eq_zero_iff fun d _ => lossOfPayOn_nonneg sources _ d]
  simp only [List.mem_filter, decide_eq_true_eq, and_imp]

/-! ## The days lost -/

theorem start_le_activePeriodStart (inp : ItemInputs) :
    inp.period.start ≤ inp.activePeriodStart := by
  unfold activePeriodStart
  split
  · split
    · next hjoining => exact le_of_lt hjoining
    · exact le_rfl
  · exact le_rfl

theorem activePeriodEnd_le_finish (inp : ItemInputs) :
    inp.activePeriodEnd ≤ inp.period.finish := by
  unfold activePeriodEnd
  split
  · split
    · next hexit => exact le_of_lt hexit
    · exact le_rfl
  · exact le_rfl

/-- An employee who joins by the end of the month is paid from then on. -/
theorem paidPeriodStart_eq_active (h : inp.activePeriodStart ≤ inp.period.finish) :
    inp.paidPeriodStart = inp.activePeriodStart := by
  unfold paidPeriodStart
  unfold activePeriodStart at h ⊢
  revert h
  cases inp.employee.dateOfJoining with
  | none => exact fun _ => rfl
  | some joining =>
    intro h
    dsimp only at h ⊢
    by_cases hjoining : inp.period.start < joining
    · rw [if_pos hjoining] at h ⊢
      exact if_pos ⟨hjoining.le, h⟩
    · rw [if_neg hjoining]
      split
      · next hin => exact le_antisymm (not_lt.mp hjoining) hin.1
      · rfl

/-- An employee who does not leave before the month is paid up to then. -/
theorem paidPeriodEnd_eq_active (h : inp.period.start ≤ inp.activePeriodEnd) :
    inp.paidPeriodEnd = inp.activePeriodEnd := by
  unfold paidPeriodEnd
  unfold activePeriodEnd at h ⊢
  revert h
  cases inp.employee.dateOfExit with
  | none => exact fun _ => rfl
  | some exitDate =>
    intro h
    dsimp only at h ⊢
    by_cases hexit : exitDate < inp.period.finish
    · rw [if_pos hexit] at h ⊢
      exact if_pos ⟨h, hexit⟩
    · rw [if_neg hexit]
      exact if_neg (fun hin => hexit hin.2)

/-- The summary of the active period, when attendance answers. -/
theorem attendanceSummary_eq (sources : AbsenceSources)
    (hactive : inp.activePeriodStart ≤ inp.activePeriodEnd) :
    (inp.AttendanceAnswers sources → ∃ overtimeMinutes : ℕ,
      (inp.readAbsence sources).attendanceSummary
        = some ((inp.paidDays : ℚ) - inp.absentDays sources, overtimeMinutes))
      ∧ (¬ inp.AttendanceAnswers sources → (inp.readAbsence sources).attendanceSummary = none) := by
  have hstart := paidPeriodStart_eq_active (hactive.trans inp.activePeriodEnd_le_finish)
  have hend := paidPeriodEnd_eq_active (inp.start_le_activePeriodStart.trans hactive)
  have hanswers : inp.AttendanceAnswers sources ↔ ∃ summary,
      Attendance.getPayrollAttendanceSummary sources.attendance inp.employee.id
        inp.activePeriodStart inp.activePeriodEnd = .ok summary := by
    unfold AttendanceAnswers paidDates
    rw [hstart, hend, Attendance.exists_summary_iff]
    exact and_iff_right hactive
  rw [hanswers]
  constructor
  · rintro ⟨summary, h⟩
    have horder := Date.le_iff.mp hactive
    have hlost := (Attendance.lopDays_eq (horder.trans (Nat.le_succ _)) h).1
    refine ⟨summary.overtimeMinutes, ?_⟩
    show (Except.toOption _).map _ = _
    rw [h]
    have hdays : (inp.paidDays : ℚ)
        = (inp.activePeriodEnd.toordinal : ℚ) - inp.activePeriodStart.toordinal + 1 := by
      have hcount : (inp.paidDays : ℤ)
          = (inp.activePeriodEnd.toordinal : ℤ) - inp.activePeriodStart.toordinal + 1 := by
        unfold paidDays
        rw [hstart, hend]
        omega
      exact_mod_cast hcount
    have habsent : inp.absentDays sources = ((datesBetween inp.activePeriodStart
        inp.activePeriodEnd).map (sources.attendance.unpaidOn inp.employee.id)).sum := by
      unfold absentDays paidDates
      rw [hstart, hend]
    rw [hdays, habsent, ← hlost, sub_sub_cancel]
    rfl
  · intro hnone
    show (Except.toOption _).map _ = _
    cases h : Attendance.getPayrollAttendanceSummary sources.attendance inp.employee.id
        inp.activePeriodStart inp.activePeriodEnd with
    | error message => rfl
    | ok summary => exact absurd ⟨summary, h⟩ hnone

theorem policyLwpDays_readAbsence (inp : ItemInputs) (sources : AbsenceSources) :
    (inp.readAbsence sources).policyLwpDays = inp.policyDays sources := by
  have hleave : OnPaise (sources.leaveUnits inp.employee.id inp.period).sum := by
    refine Decimal.onGrid_sum (fun x hx => ?_)
    obtain ⟨r, hr, rfl⟩ := List.mem_map.mp hx
    exact sources.twoPlaces.1 r (List.mem_of_mem_filter (List.mem_of_mem_filter hr))
  have hlwp : OnPaise (sources.lwpUnits inp.employee.id inp.period).sum := by
    refine Decimal.onGrid_sum (fun x hx => ?_)
    obtain ⟨e, he, rfl⟩ := List.mem_map.mp hx
    exact sources.twoPlaces.2 e (List.mem_of_mem_filter he)
  show normalizeDecimal (normalizeDecimal ((sumOf _).getD 0)
    + normalizeDecimal ((sumOf _).getD 0)) = _
  rw [sumOf_getD, sumOf_getD, normalizeDecimal_of_onPaise hleave, normalizeDecimal_of_onPaise hlwp,
    normalizeDecimal_of_onPaise (hleave.add hlwp)]
  rfl

@[simp] theorem paidDays_readAbsence (inp : ItemInputs) (sources : AbsenceSources) :
    (inp.readAbsence sources).paidDays = inp.paidDays := rfl

theorem attendancePaidDays_readAbsence (huse : inp.useAttendanceInputs = true) :
    (inp.readAbsence sources).attendancePaidDays
      = inp.paidDays - if inp.AttendanceAnswers sources then inp.absentDays sources else 0 := by
  have huse' : (inp.readAbsence sources).useAttendanceInputs = true := huse
  unfold attendancePaidDays
  rw [paidDays_readAbsence]
  by_cases hactive : inp.activePeriodStart ≤ inp.activePeriodEnd
  · rw [if_pos ⟨huse', hactive⟩]
    obtain ⟨hanswered, hsilent⟩ := attendanceSummary_eq sources hactive
    by_cases hanswers : inp.AttendanceAnswers sources
    · obtain ⟨overtimeMinutes, hsummary⟩ := hanswered hanswers
      rw [hsummary, if_pos hanswers]
      rfl
    · rw [hsilent hanswers, if_neg hanswers, sub_zero]
      rfl
  · rw [if_neg (fun h => hactive h.2), if_neg (fun h => hactive h.1), sub_zero]

/-- **The days lost**: the larger one of the two counts. -/
theorem lopDays_readAbsence (huse : inp.useAttendanceInputs = true) :
    (inp.readAbsence sources).lopDays = max (inp.policyDays sources)
      (if inp.AttendanceAnswers sources then inp.absentDays sources else 0) := by
  have huse' : (inp.readAbsence sources).useAttendanceInputs = true := huse
  have hnonneg : 0 ≤ if inp.AttendanceAnswers sources then inp.absentDays sources else 0 := by
    split
    · exact inp.absentDays_nonneg sources
    · exact le_rfl
  unfold lopDays
  rw [policyLwpDays_readAbsence, if_pos huse', paidDays_readAbsence,
    attendancePaidDays_readAbsence huse, sub_sub_cancel, max_eq_right hnonneg]

end

end ItemInputs

/-- **Absence and leave without pay are both lost** exactly when they are counted apart. -/
theorem countsBoth_iff (sources : AbsenceSources) (inp : ItemInputs) (amounts : ItemAmounts)
    (snapshot : ItemSnapshot) (huse : inp.useAttendanceInputs = true)
    (h : calculateItem (inp.readAbsence sources) = .ok (.ready amounts snapshot)) :
    inp.absentDays sources + inp.leaveDays sources ≤ snapshot.lopDays
      ↔ inp.CountsApart sources := by
  have habsent := inp.absentDays_nonneg sources
  have hleave := inp.leaveDays_nonneg sources
  rw [(ItemInputs.salaryOf_eq_prorate h).2.2.1, ItemInputs.lopDays_readAbsence huse, le_max_iff]
  unfold ItemInputs.CountsApart
  rw [← ItemInputs.leaveDays_eq_zero_iff, ← ItemInputs.absentDays_eq_zero_iff, or_comm]
  refine or_congr_left ?_
  split
  · next hanswers =>
    rw [add_le_iff_nonpos_right, le_antisymm_iff (a := inp.leaveDays sources)]
    exact ⟨fun hnone => ⟨⟨hnone, hleave⟩, Or.inl hanswers⟩, fun hnone => hnone.1.1⟩
  · next hsilent =>
    constructor
    · intro hnone
      have hzero := (add_eq_zero_iff_of_nonneg habsent hleave).mp
        (le_antisymm hnone (add_nonneg habsent hleave))
      exact ⟨hzero.2, Or.inr hzero.1⟩
    · rintro ⟨hnoLeave, hanswers | hnoAbsence⟩
      · exact absurd hanswers hsilent
      · rw [hnoLeave, hnoAbsence, add_zero]

/-! ## Mondays only

Employee 1 works on Mondays, and comes on none of April. -/

namespace Sample

/-- The second Monday of April, without pay. -/
def monday : LeaveRequest :=
  { unpaid ⟨2024, 4, 8, by decide⟩ ⟨2024, 4, 8, by decide⟩ 1 with endSession := .fullDay }

/-- No shifts, no punches and no requests but those. -/
def mondays (requests : List LeaveRequest) (h : ∀ r ∈ requests, TwoPlaces r.totalUnits) :
    AbsenceSources where
  masters := unpaidLeave
  leaveRequests := requests
  lwpEntries := []
  attendance := {
    setup := {
      policy := fun _ => {
        Attendance.Sample.policy with
        localDate := fun _ => april.start
        halfDayMinMinutes := 240
        fullDayMinMinutes := 480
        overtimeAfterMinutes := 540
        graceMinutes := 15
        weekOffDays := [1, 2, 3, 4, 5, 6]
        allowWebPunch := true }
      shifts := []
      thresholds := fun _ => {
        halfDayMinMinutes := none, fullDayMinMinutes := none, overtimeAfterMinutes := none,
        graceMinutes := none }
      employees := [1]
      employee := fun _ => {
        organisation := 1, shiftAssignments := [], shiftRotationAssignments := [],
        employeeCode := "EMP001", status := .active, officeLocation := none }
      holidayCalendars := []
      leaveRequests := requests.map LeaveRequest.forAttendance
      onDutyRequests := []
      wfhRequests := []
      records := []
      defaultLocalDate := fun _ => april.start
      strip := id
      upper := id }
    punches := []
    overtimeApprovalRequired := fun _ => false
    overtimeApprovals := [] }
  sameRequests := rfl
  twoPlaces := ⟨h, fun _ he => absurd he List.not_mem_nil⟩

def absentees : ItemInputs :=
  { inputs april employee (assignment 30000) with useAttendanceInputs := true }

theorem twoPlaces_monday : ∀ r ∈ [monday], TwoPlaces r.totalUnits := by
  simp only [List.mem_singleton, forall_eq]
  exact ⟨100, by norm_num [monday, unpaid]⟩

end Sample

open Sample in
/-- Five Mondays without leave. -/
theorem countsBoth_iff_sample :
    absentees.absentDays (mondays [] (by simp)) + absentees.leaveDays (mondays [] (by simp))
      ≤ (item (absentees.readAbsence (mondays [] (by simp)))).2.lopDays :=
  (countsBoth_iff (mondays [] (by simp)) absentees
    (item (absentees.readAbsence (mondays [] (by simp)))).1 _ rfl (by decide +kernel)).mpr
    (by decide +kernel)

open Sample in
/-- Four Mondays absent and one on leave without pay: four days are lost. -/
theorem absent_and_on_leave :
    ¬ ∀ (sources : AbsenceSources) (inp : ItemInputs) (amounts : ItemAmounts)
        (snapshot : ItemSnapshot), inp.useAttendanceInputs = true →
      calculateItem (inp.readAbsence sources) = .ok (.ready amounts snapshot) →
      inp.absentDays sources + inp.leaveDays sources ≤ snapshot.lopDays := by
  intro h
  have hready : calculateItem (absentees.readAbsence (mondays [monday] twoPlaces_monday))
      = .ok (.ready (item (absentees.readAbsence (mondays [monday] twoPlaces_monday))).1
        (item (absentees.readAbsence (mondays [monday] twoPlaces_monday))).2) := by
    decide +kernel
  have hlost := h _ _ _ _ rfl hready
  revert hlost
  decide +kernel

end Payroll
