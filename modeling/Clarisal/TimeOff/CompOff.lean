import Clarisal.TimeOff.Models
import Mathlib.Data.List.Sort

/-!
# Compensatory leave

A request for compensatory leave is charged to accruals instead of a balance:
creating it reserves units of the employee's accruals, the ones that expire
first going first, and the reservations follow the status of the request.
Nothing here touches requests or balances.
-/

open Calendar

namespace TimeOff

open Approvals

/-- `_comp_off_reserved_statuses`. -/
def CompOffStatus.isReserved : CompOffStatus → Bool
  | .pending | .approved | .redeemed => true
  | .rejected | .expired | .cancelled => false

/-- Past its last day. -/
def CompOffAccrual.hasExpired (today : Date) (accrual : CompOffAccrual) : Bool :=
  accrual.expiresOn.any (fun expiry => expiry < today)

/-- The order accruals are used in: earliest expiry first, those that never
expire last, then by date. -/
def CompOffAccrual.usedBefore (a b : CompOffAccrual) : Bool :=
  match a.expiresOn, b.expiresOn with
  | some x, some y => x < y ∨ (x = y ∧ a.accrualDate ≤ b.accrualDate)
  | some _, none => true
  | none, some _ => false
  | none, none => a.accrualDate ≤ b.accrualDate

namespace LeaveTables

/-- The approved accruals of an employee, in order of creation. -/
def approvedAccruals (t : LeaveTables) (employee : EmployeeId) : List CompOffAccrual :=
  t.accruals.filter (fun a => a.employee = employee ∧ a.status = .approved)

def getAvailableCompOffUnits (t : LeaveTables) (employee : EmployeeId) : ℚ :=
  let accrued := (((t.approvedAccruals employee).filter
    (fun a => !a.hasExpired t.today)).map (fun a => decimal a.units)).sum
  let reserved := decimal ((t.redemptions.filter
    (fun r => r.employee = employee ∧ r.status.isReserved)).map CompOffRedemption.units).sum
  max 0 (decimal (accrued - reserved))

/-- The units of an accrual that are not reserved. -/
def availableUnits (t : LeaveTables) (accrual : CompOffAccrual) : ℚ :=
  let used := decimal ((t.redemptions.filter
    (fun r => r.accrual = accrual.id ∧ r.status.isReserved)).map CompOffRedemption.units).sum
  max 0 (decimal (accrual.units - used))

/-- The loop over the accruals: the units still missing at its end. -/
def reserveFrom (request : LeaveRequest) : List CompOffAccrual → ℚ → LeaveTables → ℚ × LeaveTables
  | [], remaining, t => (remaining, t)
  | accrual :: accruals, remaining, t =>
    if accrual.hasExpired t.today ∨ t.availableUnits accrual ≤ 0 then
      reserveFrom request accruals remaining t
    else
      -- an accrual may be used in part, by several requests
      let redeem := min remaining (t.availableUnits accrual)
      let t := { t with
        redemptions := t.redemptions ++ [
          { employee := request.employee, accrual := accrual.id,
            redemptionDate := request.startDate, units := redeem, status := .pending,
            reason := request.reason, leaveRequest := request.id }] }
      let remaining := decimal (remaining - redeem)
      if remaining ≤ 0 then (remaining, t) else reserveFrom request accruals remaining t

/-- **Reserve the units of a request**, and how many are missing. -/
def reserveCompOffRedemption (t : LeaveTables) (request : LeaveRequest) : ℚ × LeaveTables :=
  reserveFrom request
    ((t.approvedAccruals request.employee).insertionSort (fun a b => a.usedBefore b))
    (decimal request.totalUnits) t

/-- The reservations of a request follow its status. -/
def syncCompOffRedemptions (t : LeaveTables) (request : LeaveRequestId)
    (status : LeaveRequestStatus) : LeaveTables :=
  let target : CompOffStatus := match status with
    | .approved => .approved
    | .withdrawn | .cancelled => .cancelled
    | .rejected => .rejected
    | .pending => .pending
  { t with
    redemptions := Table.update (fun r => r.leaveRequest = request ∧ r.status ≠ target)
      (fun r => { r with status := target }) t.redemptions }

/-- Reserving touches the redemptions alone. -/
theorem reserveFrom_frame (request : LeaveRequest) (accruals : List CompOffAccrual)
    (remaining : ℚ) (t : LeaveTables) :
    ∃ redemptions, (reserveFrom request accruals remaining t).2
      = { t with redemptions := redemptions } := by
  induction accruals generalizing remaining t with
  | nil => exact ⟨t.redemptions, rfl⟩
  | cons accrual accruals ih =>
    unfold reserveFrom
    split
    · exact ih remaining t
    · dsimp only
      split
      · exact ⟨_, rfl⟩
      · obtain ⟨redemptions, h⟩ := ih
          (decimal (remaining - min remaining (t.availableUnits accrual)))
          { t with
            redemptions := t.redemptions ++ [
              { employee := request.employee, accrual := accrual.id,
                redemptionDate := request.startDate,
                units := min remaining (t.availableUnits accrual), status := .pending,
                reason := request.reason, leaveRequest := request.id }] }
        exact ⟨redemptions, h⟩

theorem reserveCompOffRedemption_frame (t : LeaveTables) (request : LeaveRequest) :
    ∃ redemptions, (t.reserveCompOffRedemption request).2
      = { t with redemptions := redemptions } := reserveFrom_frame _ _ _ _

end LeaveTables

end TimeOff
