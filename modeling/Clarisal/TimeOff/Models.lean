import Clarisal.Approvals.Models
import Clarisal.Lib.Decimal

/-!
# Time off: the rows

The tables of the leave module. A leave type carries the cycle of its plan;
leave types and employees do not change while requests are made, so they are
a parameter (`Masters`) and the tables hold what requests write: requests,
balances with their ledger, and the accruals and redemptions of compensatory
leave.

Stored amounts have two decimal places. A leave type and a balance carry the
proof of it, for the amounts that are compared.
-/

open Calendar

namespace TimeOff

open Approvals

abbrev LeaveTypeId := ℕ
abbrev LeaveRequestId := ℕ
abbrev CompOffAccrualId := ℕ

/-- An amount of two decimal places. -/
abbrev TwoPlaces (x : ℚ) : Prop := Decimal.OnGrid (1 / 100) x

theorem twoPlaces_zero : TwoPlaces 0 := Decimal.onGrid_zero

/-- A limit that is not set has two places. -/
theorem twoPlaces_of_none : ∀ x ∈ (none : Option ℚ), TwoPlaces x := by simp

/-- `_decimal`: `quantize(Decimal('0.01'))`. -/
abbrev decimal (x : ℚ) : ℚ := Decimal.quantize (1 / 100) x

inductive DaySession
  | fullDay | firstHalf | secondHalf
deriving DecidableEq, Repr

inductive LeaveCycleType
  | calendarYear | financialYear | customFixedStart | employeeJoiningDate
deriving DecidableEq, Repr

inductive LeaveCreditFrequency
  | manual | monthly | quarterly | halfYearly | yearly
deriving DecidableEq, Repr

inductive LeaveRequestStatus
  | pending | approved | rejected | cancelled | withdrawn
deriving DecidableEq, Repr

inductive CompOffStatus
  | pending | approved | rejected | redeemed | expired | cancelled
deriving DecidableEq, Repr

inductive LeaveBalanceEntryType
  | opening | credit | adjustment | debit | carryForward | expiry
deriving DecidableEq, Repr

structure LeaveCycle where
  cycleType : LeaveCycleType
  startMonth : ℕ
  startDay : ℕ
deriving DecidableEq, Repr

/-- A leave type, with the cycle of its plan; `isCompOff` is
`_is_comp_off_leave_type` of its code. -/
structure LeaveType where
  isCompOff : Bool
  isLossOfPay : Bool
  annualEntitlement : ℚ
  creditFrequency : LeaveCreditFrequency
  prorateOnJoin : Bool
  maxBalance : Option ℚ
  leaveCycle : LeaveCycle
  twoPlaces : ∀ m ∈ maxBalance, TwoPlaces m

structure Employee where
  id : EmployeeId
  organisation : OrganisationId
  dateOfJoining : Option Date
deriving DecidableEq, Repr

/-- **What requests do not change.** -/
structure Masters where
  employee : EmployeeId → Employee
  leaveType : LeaveTypeId → LeaveType

structure LeaveRequest where
  id : LeaveRequestId
  employee : EmployeeId
  leaveType : LeaveTypeId
  startDate : Date
  endDate : Date
  startSession : DaySession
  endSession : DaySession
  totalUnits : ℚ
  reason : String
  status : LeaveRequestStatus
  rejectionReason : String
deriving DecidableEq, Repr

/-- The key of a balance. -/
structure BalanceKey where
  employee : EmployeeId
  leaveType : LeaveTypeId
  cycleStart : Date
  cycleEnd : Date
deriving DecidableEq, Repr

/-- The balance of an employee and leave type in a cycle. -/
structure LeaveBalance where
  key : BalanceKey
  openingBalance : ℚ
  carriedForwardAmount : ℚ
  creditedAmount : ℚ
  usedAmount : ℚ
  pendingAmount : ℚ
  twoPlaces : TwoPlaces openingBalance ∧ TwoPlaces carriedForwardAmount ∧ TwoPlaces creditedAmount
    ∧ TwoPlaces usedAmount ∧ TwoPlaces pendingAmount
deriving DecidableEq

structure LeaveBalanceLedgerEntry where
  leaveBalance : BalanceKey
  entryType : LeaveBalanceEntryType
  amount : ℚ
  effectiveDate : Date
deriving DecidableEq, Repr

structure CompOffAccrual where
  id : CompOffAccrualId
  employee : EmployeeId
  accrualDate : Date
  units : ℚ
  expiresOn : Option Date
  status : CompOffStatus
deriving DecidableEq, Repr

structure CompOffRedemption where
  employee : EmployeeId
  accrual : CompOffAccrualId
  redemptionDate : Date
  units : ℚ
  status : CompOffStatus
  reason : String
  leaveRequest : LeaveRequestId
deriving DecidableEq, Repr

/-- **The leave tables**, and the local date. -/
structure LeaveTables where
  today : Date
  requests : List LeaveRequest
  balances : List LeaveBalance
  ledgerEntries : List LeaveBalanceLedgerEntry
  /-- in order of creation -/
  accruals : List CompOffAccrual
  redemptions : List CompOffRedemption
  nextRequest : LeaveRequestId
deriving DecidableEq

namespace LeaveTables

def getRequest (t : LeaveTables) (id : LeaveRequestId) : Option LeaveRequest :=
  Table.find LeaveRequest.id id t.requests

def getBalance (t : LeaveTables) (key : BalanceKey) : Option LeaveBalance :=
  Table.find LeaveBalance.key key t.balances

end LeaveTables

end TimeOff
