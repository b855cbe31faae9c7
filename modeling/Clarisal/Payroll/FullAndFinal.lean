import Clarisal.Payroll.PayRuns

/-!
# The full-and-final settlement

What a leaver is settled for: the salary of the last month up to the last working day,
the leave that can be encashed, a gratuity, and what the settlement itself records. A
settlement is drafted once for an employee; as long as it is a draft, drafting it again
computes it again.

The salary is pro-rated from the first of the month (`calculateFnfSalaryProration`),
whatever the pay run of the month says.
-/

open Calendar Approvals

namespace Payroll

inductive FNFStatus
  | draft | calculated | approved | paid | cancelled
deriving DecidableEq, Repr

structure FullAndFinalSettlement where
  employee : EmployeeId
  lastWorkingDay : Date
  status : FNFStatus := .draft
  proratedSalary : ℚ := 0
  leaveEncashment : ℚ := 0
  gratuity : ℚ := 0
  arrears : ℚ := 0
  otherCredits : ℚ := 0
  tdsDeduction : ℚ := 0
  pfDeduction : ℚ := 0
  loanRecovery : ℚ := 0
  otherDeductions : ℚ := 0
  grossPayable : ℚ := 0
  netPayable : ℚ := 0
deriving DecidableEq, Repr

/-- The balance of a leave type that can be encashed, on the last working day. -/
structure EncashableBalance where
  openingBalance : ℚ
  carriedForwardAmount : ℚ
  creditedAmount : ℚ
  usedAmount : ℚ
  pendingAmount : ℚ
  maxEncashmentDaysPerYear : Option ℚ
deriving DecidableEq, Repr

/-- **What a settlement reads besides the employee and its own row.** -/
structure SettlementInputs where
  /-- by employee, latest first -/
  assignments : List CompensationAssignment
  encashable : List EncashableBalance
  gratuityEligibilityYears : ℕ
  /-- the tax on gratuity, encashment and other income -/
  fnfTds : CompensationAssignment → ℚ → ℚ → ℚ → ℚ

/-- `_calculate_fnf_totals`. -/
structure FnfTotals where
  proratedSalary : ℚ
  leaveEncashment : ℚ
  gratuity : ℚ
  tdsDeduction : ℚ
  grossPayable : ℚ
  netPayable : ℚ
deriving DecidableEq, Repr

/-! ## The parts -/

/-- The days of the month up to the last working day. -/
def calculateFnfSalaryProration (grossMonthlySalary : ℚ) (lastWorkingDay : Date)
    (periodYear periodMonth : ℕ) : ℚ :=
  normalizeDecimal (Decimal.context 28 (normalizeDecimal grossMonthlySalary * lastWorkingDay.day
    / daysInMonth periodYear periodMonth))

def calculateLeaveEncashmentAmount (leaveDays monthlyBasicSalary : ℚ) : ℚ :=
  let perDayBasic := normalizeDecimal
    (Decimal.context 28 (normalizeDecimal monthlyBasicSalary / 26))
  normalizeDecimal (normalizeDecimal leaveDays * perDayBasic)

/-- Full years of service; more than half a year counts as one. -/
def calculateGratuityServiceYears (dateOfJoining : Option Date) (lastWorkingDay : Date) : ℕ :=
  match dateOfJoining with
  | none => 0
  | some joining =>
    if lastWorkingDay < joining then 0
    else
      let years := (lastWorkingDay.year : ℤ) - joining.year
      let months := (lastWorkingDay.month : ℤ) - joining.month
      let days := (lastWorkingDay.day : ℤ) - joining.day
      let (months, days) :=
        if days < 0 then
          let previousMonth := if lastWorkingDay.month = 1 then 12 else lastWorkingDay.month - 1
          let previousMonthYear :=
            if lastWorkingDay.month = 1 then lastWorkingDay.year - 1 else lastWorkingDay.year
          (months - 1, days + daysInMonth previousMonthYear previousMonth)
        else (months, days)
      let (years, months) := if months < 0 then (years - 1, months + 12) else (years, months)
      let years := if 6 < months ∨ (months = 6 ∧ 0 < days) then years + 1 else years
      years.toNat

def gratuityStatutoryCeiling : ℚ := 2000000

/-- Fifteen days of basic pay for each year, from five years on. -/
def calculateGratuityAmount (lastBasicSalary : ℚ) (yearsOfService : ℕ) : ℚ :=
  let basic := normalizeDecimal lastBasicSalary
  if yearsOfService < 5 ∨ basic ≤ 0 then 0
  else
    let gratuity := normalizeDecimal (Decimal.context 28
      (Decimal.context 28 (Decimal.context 28 (basic / 26) * 15) * yearsOfService))
    normalizeDecimal (min gratuity gratuityStatutoryCeiling)

/-- The earnings of an assignment, whatever their code. -/
def CompensationAssignment.grossMonthlySalary (a : CompensationAssignment) : ℚ :=
  ((a.lines.filter (fun line => line.componentType = .earning)).map
    (fun line => normalizeDecimal line.monthlyAmount)).sum

/-- The last line of basic pay. -/
def CompensationAssignment.monthlyBasicSalary (a : CompensationAssignment) : ℚ :=
  a.lines.foldl (fun basic line =>
    if line.componentCode = "BASIC" then normalizeDecimal line.monthlyAmount else basic) 0

def EncashableBalance.availableUnits (b : EncashableBalance) : ℚ :=
  let units := max 0 (normalizeDecimal (b.openingBalance + b.carriedForwardAmount
    + b.creditedAmount - b.usedAmount - b.pendingAmount))
  match b.maxEncashmentDaysPerYear with
  | none => units
  | some most => min units (normalizeDecimal most)

namespace SettlementInputs

variable (inputs : SettlementInputs)

/-- `get_effective_compensation_assignment`. -/
def effectiveAssignment (employee : EmployeeId) (asOfDate : Date) :
    Option CompensationAssignment :=
  (inputs.assignments.filter (fun a => a.isApproved ∧ a.effectiveFrom ≤ asOfDate)).find?
    (fun a => a.employee = employee)

def leaveEncashment (monthlyBasicSalary : ℚ) : ℚ :=
  if 0 < monthlyBasicSalary then
    calculateLeaveEncashmentAmount (inputs.encashable.map EncashableBalance.availableUnits).sum
      monthlyBasicSalary
  else 0

def gratuity (dateOfJoining : Option Date) (lastWorkingDay : Date) (monthlyBasicSalary : ℚ) : ℚ :=
  let years := calculateGratuityServiceYears dateOfJoining lastWorkingDay
  if inputs.gratuityEligibilityYears ≤ years then calculateGratuityAmount monthlyBasicSalary years
  else 0

/-! ## The settlement -/

/-- **The totals**, with what the settlement records besides. -/
def calculateFnfTotals (employee : Employee) (lastWorkingDay : Date)
    (settlement : FullAndFinalSettlement) : FnfTotals :=
  let net (gross tds : ℚ) : ℚ := normalizeDecimal (max 0
    (gross - tds - settlement.pfDeduction - settlement.loanRecovery - settlement.otherDeductions))
  match inputs.effectiveAssignment employee.id lastWorkingDay with
  | none =>
    let gross := normalizeDecimal (settlement.arrears + settlement.otherCredits)
    { proratedSalary := 0
      leaveEncashment := 0
      gratuity := 0
      tdsDeduction := settlement.tdsDeduction
      grossPayable := gross
      netPayable := net gross settlement.tdsDeduction }
  | some assignment =>
    let prorated := calculateFnfSalaryProration assignment.grossMonthlySalary lastWorkingDay
      lastWorkingDay.year lastWorkingDay.month
    let encashment := inputs.leaveEncashment assignment.monthlyBasicSalary
    let gratuity := inputs.gratuity employee.dateOfJoining lastWorkingDay
      assignment.monthlyBasicSalary
    let tds := inputs.fnfTds assignment gratuity encashment
      (normalizeDecimal (prorated + settlement.arrears + settlement.otherCredits))
    let gross := normalizeDecimal
      (prorated + encashment + gratuity + settlement.arrears + settlement.otherCredits)
    { proratedSalary := prorated
      leaveEncashment := encashment
      gratuity := gratuity
      tdsDeduction := tds
      grossPayable := gross
      netPayable := net gross tds }

end SettlementInputs

namespace FullAndFinalSettlement

def withTotals (fnf : FullAndFinalSettlement) (totals : FnfTotals) : FullAndFinalSettlement :=
  { fnf with
    proratedSalary := totals.proratedSalary
    leaveEncashment := totals.leaveEncashment
    gratuity := totals.gratuity
    tdsDeduction := totals.tdsDeduction
    grossPayable := totals.grossPayable
    netPayable := totals.netPayable }

/-- Every amount that is computed fits its column of twelve digits. -/
def fits (fnf : FullAndFinalSettlement) : Bool :=
  [fnf.proratedSalary, fnf.leaveEncashment, fnf.gratuity, fnf.tdsDeduction, fnf.grossPayable,
    fnf.netPayable].all (fun x => |x| < 10 ^ 10)

end FullAndFinalSettlement

/-- A settlement as it is drafted for the last working day. -/
def draftSettlement (inputs : SettlementInputs) (employee : Employee) (lastWorkingDay : Date)
    (fnf : FullAndFinalSettlement) : FullAndFinalSettlement :=
  let fnf := { fnf with lastWorkingDay := lastWorkingDay }
  if fnf.status = .draft then
    fnf.withTotals (inputs.calculateFnfTotals employee lastWorkingDay fnf)
  else fnf

/-- **`create_full_and_final_settlement`**: the employee's settlement is drafted, or a new
one is. -/
def createFullAndFinalSettlement (inputs : SettlementInputs) (employee : Employee)
    (lastWorkingDay : Date) (settlements : List FullAndFinalSettlement) :
    Except String (List FullAndFinalSettlement) :=
  match Table.find FullAndFinalSettlement.employee employee.id settlements with
  | some found =>
    let fnf := draftSettlement inputs employee lastWorkingDay found
    if fnf.fits then .ok (Table.save FullAndFinalSettlement.employee fnf settlements)
    else .error "numeric field overflow"
  | none =>
    let fnf := draftSettlement inputs employee lastWorkingDay
      { employee := employee.id, lastWorkingDay := lastWorkingDay }
    if fnf.fits then .ok (settlements ++ [fnf]) else .error "numeric field overflow"

end Payroll
