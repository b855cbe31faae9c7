import Clarisal.Attendance.DaySummary
import Clarisal.Lib.DateRange
import Clarisal.Lib.Decimal
import Clarisal.Lib.Transaction

/-!
# The summary for payroll

Payroll asks for the days of a period that are paid: each date counts for nothing, half a
day or a day (`isDayFraction_summarizeDay`), and the rest of it is lost
(`lopDays_eq`). A full day of leave is paid, whatever its type
(`paidFraction_of_leave`).

The overtime of a date is read off its shift, which has no such field: the summary of a
period fails when one of its dates has a shift (`exists_summary_iff`).
-/

open Calendar Date

namespace Attendance

open Approvals (OrganisationId EmployeeId)

/-- `_decimal`: `quantize(Decimal('0.01'))`. -/
abbrev decimal (x : ℚ) : ℚ := Decimal.quantize (1 / 100) x

theorem decimal_of_onGrid {x : ℚ} (h : Decimal.OnGrid (1 / 100) x) : decimal x = x :=
  Decimal.quantize_of_onGrid (by norm_num) h

inductive AttendanceOvertimeApprovalStatus
  | pending | approved | rejected | cancelled
deriving DecidableEq, Repr

/-- The approval of the overtime of a day. -/
structure AttendanceOvertimeApproval where
  employee : EmployeeId
  attendanceDate : Date
  approvedMinutes : ℕ
  status : AttendanceOvertimeApprovalStatus
deriving DecidableEq, Repr

/-- **What the summary for payroll reads.** -/
structure PayrollAttendance where
  setup : AttendanceSetup
  punches : List StoredPunch
  /-- of the policy of an organisation -/
  overtimeApprovalRequired : OrganisationId → Bool
  overtimeApprovals : List AttendanceOvertimeApproval

structure PayrollAttendanceSummary where
  paidDays : ℚ
  paidFraction : ℚ
  lopDays : ℚ
  overtimeMinutes : ℕ
deriving DecidableEq, Repr

section

variable (attendance : PayrollAttendance) (employee : EmployeeId)

/-- The summary of a date, as it is computed again. -/
def PayrollAttendance.dayOn (date : Date) : DaySummary :=
  summarizeDay attendance.setup employee date attendance.punches

/-- The shift of a date. -/
def PayrollAttendance.shiftOn (date : Date) : Option ResolvedShiftAssignment :=
  getEffectiveShift attendance.setup.shifts (attendance.setup.employee employee).toEmployee date

/-- `_get_payable_overtime_minutes`. `_get_threshold` asks a shift for a field of the policy. -/
def getPayableOvertimeMinutes (date : Date) (day : DaySummary) : Except String ℕ :=
  match attendance.shiftOn employee date with
  | some _ => .error "'Shift' object has no attribute 'overtime_approval_required'"
  | none =>
    match (attendance.overtimeApprovals.find? (fun a => a.employee = employee
      ∧ a.attendanceDate = date)).filter (fun a => a.status = .approved) with
    | some approval => .ok approval.approvedMinutes
    | none =>
      if attendance.overtimeApprovalRequired (attendance.setup.employee employee).organisation
      then .ok 0
      else .ok day.overtimeMinutes

/-- What a date adds to the totals. -/
def payrollDay (date : Date) : Except String (ℚ × ℕ) := do
  let day := attendance.dayOn employee date
  let overtimeMinutes ← getPayableOvertimeMinutes attendance employee date day
  return (decimal day.paidFraction, overtimeMinutes)

/-- **The summary of a period.** -/
def getPayrollAttendanceSummary (periodStart periodEnd : Date) :
    Except String PayrollAttendanceSummary := do
  let days ← (datesBetween periodStart periodEnd).mapM (payrollDay attendance employee)
  let totalPaidFraction := (days.map Prod.fst).sum
  let totalDays : ℚ := periodEnd.toordinal - periodStart.toordinal + 1
  return {
    paidDays := totalPaidFraction
    paidFraction := decimal totalPaidFraction
    lopDays := decimal (max 0 (totalDays - totalPaidFraction))
    overtimeMinutes := (days.map Prod.snd).sum }

/-- The part of a date that is not paid. -/
def PayrollAttendance.unpaidOn (date : Date) : ℚ :=
  1 - (attendance.dayOn employee date).paidFraction

end

/-! ## The parts of a day -/

/-- Nothing, half a day or a day. -/
def IsDayFraction (x : ℚ) : Prop := x = 0 ∨ x = 1 / 2 ∨ x = 1

theorem presence_isDayFraction (interval : Option ℤ × Option ℤ)
    (halfDayMinMinutes fullDayMinMinutes : ℕ) (holiday weekOff : Bool) (wfhFraction : ℚ) :
    IsDayFraction (presence interval halfDayMinMinutes fullDayMinMinutes holiday weekOff
      wfhFraction).paidFraction := by
  have hnone : IsDayFraction 0 := Or.inl rfl
  have hhalf : IsDayFraction (1 / 2) := Or.inr (Or.inl rfl)
  have hfull : IsDayFraction 1 := Or.inr (Or.inr rfl)
  unfold presence
  split
  · dsimp only
    split_ifs
    · exact hfull
    · exact hhalf
    · exact hnone
  · exact hnone
  · split_ifs
    · exact hfull
    · exact hfull
    · exact hfull
    · exact hnone

section

variable {s : DayState}

theorem DayState.addHalf_isDayFraction (h : IsDayFraction s.paidFraction)
    (rest : AttendanceDayStatus) : IsDayFraction (s.addHalf rest).paidFraction := by
  show IsDayFraction (min 1 (s.paidFraction + 1 / 2))
  unfold IsDayFraction at *
  obtain h | h | h := h <;> rw [h] <;> norm_num

theorem DayState.withRequests_isDayFraction (h : IsDayFraction s.paidFraction)
    (leaveFraction onDutyFraction wfhFraction : ℚ) :
    IsDayFraction (s.withRequests leaveFraction onDutyFraction wfhFraction).paidFraction := by
  have hfull : IsDayFraction 1 := Or.inr (Or.inr rfl)
  unfold DayState.withRequests
  split_ifs
  · exact hfull
  · exact hfull
  · exact addHalf_isDayFraction h .halfDay
  · exact addHalf_isDayFraction h .halfDay
  · exact hfull
  · exact addHalf_isDayFraction h .wfh
  · exact h

theorem IsDayFraction.le_one {x : ℚ} (h : IsDayFraction x) : x ≤ 1 := by
  obtain rfl | rfl | rfl := h <;> norm_num

theorem IsDayFraction.onGrid {x : ℚ} (h : IsDayFraction x) : Decimal.OnGrid (1 / 100) x := by
  obtain rfl | rfl | rfl := h
  · exact Decimal.onGrid_zero
  · exact ⟨50, by norm_num⟩
  · exact ⟨100, by norm_num⟩

end

section

variable {attendance : PayrollAttendance} {employee : EmployeeId} {date : Date} {x y : Date}

/-- **A date counts for nothing, half a day or a day.** -/
theorem isDayFraction_dayOn (attendance : PayrollAttendance) (employee : EmployeeId)
    (date : Date) : IsDayFraction (attendance.dayOn employee date).paidFraction :=
  DayState.withRequests_isDayFraction (presence_isDayFraction _ _ _ _ _ _) _ _ _

/-- **A full day of leave is paid.** -/
theorem paidFraction_of_leave (h : 1 ≤ getLeaveFraction attendance.setup employee date) :
    (attendance.dayOn employee date).paidFraction = 1 := by
  show (DayState.withRequests _ _ _ _).paidFraction = 1
  unfold DayState.withRequests
  rw [if_pos h]

theorem unpaidOn_nonneg (attendance : PayrollAttendance) (employee : EmployeeId) (date : Date) :
    0 ≤ attendance.unpaidOn employee date :=
  sub_nonneg.mpr (isDayFraction_dayOn attendance employee date).le_one

/-- A date fails exactly under a shift. -/
theorem payrollDay_ok_iff :
    (∃ total, payrollDay attendance employee date = .ok total)
      ↔ attendance.shiftOn employee date = none := by
  unfold payrollDay getPayableOvertimeMinutes
  cases attendance.shiftOn employee date with
  | some shift =>
    constructor
    · rintro ⟨total, ⟨⟩⟩
    · rintro ⟨⟩
  | none =>
    refine ⟨fun _ => rfl, fun _ => ?_⟩
    dsimp only
    split
    · exact ⟨_, rfl⟩
    · split <;> exact ⟨_, rfl⟩

/-- What a date is paid for. -/
theorem fst_of_payrollDay {total : ℚ × ℕ} (h : payrollDay attendance employee date = .ok total) :
    total.1 = (attendance.dayOn employee date).paidFraction := by
  obtain ⟨minutes, -, h⟩ := Transaction.bind_eq_ok_iff.mp h
  obtain rfl := Transaction.pure_eq_ok_iff.mp h
  exact decimal_of_onGrid (isDayFraction_dayOn _ _ _).onGrid

/-- **A period has a summary** exactly when none of its dates has a shift. -/
theorem exists_summary_iff :
    (∃ summary, getPayrollAttendanceSummary attendance employee x y = .ok summary)
      ↔ ∀ d ∈ datesBetween x y, attendance.shiftOn employee d = none := by
  simp only [← payrollDay_ok_iff]
  rw [← Transaction.exists_mapM_eq_ok_iff]
  constructor
  · rintro ⟨summary, h⟩
    obtain ⟨days, hdays, -⟩ := Transaction.bind_eq_ok_iff.mp h
    exact ⟨days, hdays⟩
  · rintro ⟨days, hdays⟩
    exact ⟨_, Transaction.bind_eq_ok_iff.mpr ⟨days, hdays, rfl⟩⟩

/-- **The days lost are those that are not paid.** -/
theorem lopDays_eq {summary : PayrollAttendanceSummary} (hxy : x.toordinal ≤ y.toordinal + 1)
    (h : getPayrollAttendanceSummary attendance employee x y = .ok summary) :
    (y.toordinal : ℚ) - x.toordinal + 1 - summary.paidFraction
        = ((datesBetween x y).map (attendance.unpaidOn employee)).sum
      ∧ summary.lopDays = ((datesBetween x y).map (attendance.unpaidOn employee)).sum := by
  obtain ⟨days, hdays, h⟩ := Transaction.bind_eq_ok_iff.mp h
  obtain rfl := Transaction.pure_eq_ok_iff.mp h
  have hpaid : days.map Prod.fst
      = (datesBetween x y).map (fun d => (attendance.dayOn employee d).paidFraction) :=
    Transaction.map_eq_of_mapM (fun d total => fst_of_payrollDay) hdays
  have hgrid : Decimal.OnGrid (1 / 100) (days.map Prod.fst).sum := by
    rw [hpaid]
    refine Decimal.onGrid_sum (fun z hz => ?_)
    obtain ⟨d, -, rfl⟩ := List.mem_map.mp hz
    exact (isDayFraction_dayOn attendance employee d).onGrid
  -- the days of the period are those paid and those lost
  have hdays : (y.toordinal : ℚ) - x.toordinal + 1
      = ((datesBetween x y).map (attendance.unpaidOn employee)).sum + (days.map Prod.fst).sum := by
    have hone := sum_datesBetween (f := fun _ => (1 : ℚ)) (F := fun n => (n : ℚ))
      (fun d => by push_cast; ring) hxy
    rw [hpaid, ← List.sum_map_add]
    simp only [PayrollAttendance.unpaidOn, sub_add_cancel]
    rw [hone]
    push_cast
    ring
  have hlost : 0 ≤ ((datesBetween x y).map (attendance.unpaidOn employee)).sum := by
    refine List.sum_nonneg (fun z hz => ?_)
    obtain ⟨d, -, rfl⟩ := List.mem_map.mp hz
    exact unpaidOn_nonneg attendance employee d
  have hlostGrid : Decimal.OnGrid (1 / 100)
      ((datesBetween x y).map (attendance.unpaidOn employee)).sum := by
    refine Decimal.onGrid_sum (fun z hz => ?_)
    obtain ⟨d, -, rfl⟩ := List.mem_map.mp hz
    exact Decimal.OnGrid.sub ⟨100, by norm_num⟩ (isDayFraction_dayOn attendance employee d).onGrid
  constructor
  · show _ - decimal (days.map Prod.fst).sum = _
    rw [decimal_of_onGrid hgrid, hdays, add_sub_cancel_right]
  · show decimal (max 0 (_ - (days.map Prod.fst).sum)) = _
    rw [hdays, add_sub_cancel_right, max_eq_right hlost, decimal_of_onGrid hlostGrid]

end

end Attendance
