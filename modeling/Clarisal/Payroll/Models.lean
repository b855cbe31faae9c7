import Clarisal.Approvals.Models
import Mathlib.Data.Rat.Defs
import Mathlib.Algebra.Order.Ring.Rat

/-!
# Payroll: the rows

The rows the payroll services read and write. Amounts are decimals, modelled
by the rationals they denote; rounding is explicit in the services. A pay run
has one item for each employee it was calculated for, and a finalized run one
payslip for each of its ready items.
-/

open Calendar Approvals

namespace Payroll

abbrev PayrollRunId := ℕ
abbrev PayrollRunItemId := ℕ
abbrev ExpenseClaimId := ℕ

inductive PayrollComponentType
  | earning | employeeDeduction | employerContribution | reimbursement
deriving DecidableEq, Repr

inductive TaxRegime
  | new | old
deriving DecidableEq, Repr

/-- The statuses of a pay run. The field does not check its choices, so the
last one, which the approval engine knows for other subjects, can be stored
too. -/
inductive PayrollRunStatus
  | draft | calculated | approvalPending | approved | rejected | finalized | cancelled
  | withdrawn
deriving DecidableEq, Repr

inductive PayrollRunType
  | regular | rerun
deriving DecidableEq, Repr

inductive PayrollRunItemStatus
  | ready | exception
deriving DecidableEq, Repr

inductive ESIEligibilityMode
  | none | direct | continued
deriving DecidableEq, Repr

inductive StatutoryIncomeBasis
  | monthly | halfYearly | annual
deriving DecidableEq, Repr

inductive ProfessionalTaxGender
  | any | male | female
deriving DecidableEq, Repr

inductive GenderChoice
  | male | female | other | preferNotToSay
deriving DecidableEq, Repr

inductive InvestmentSection
  | section80C | section80D | section80TTA | section80G | hra | lta
deriving DecidableEq, Repr

inductive EmployeeStatus
  | invited | pending | active | resigned | retired | terminated
deriving DecidableEq, Repr

inductive ExpenseClaimStatus
  | draft | submitted | approved | rejected | cancelled
deriving DecidableEq, Repr

inductive ExpenseReimbursementStatus
  | notReady | pendingPayroll | includedInPayroll | paid
deriving DecidableEq, Repr

/-! ## Masters -/

structure PayrollTaxSlab where
  minIncome : ℚ
  maxIncome : Option ℚ
  ratePercent : ℚ
deriving DecidableEq, Repr

/-- A slab set, its slabs ordered by `min_income`. -/
structure PayrollTaxSlabSet where
  slabs : List PayrollTaxSlab
  ordered : slabs.Pairwise (fun s t => s.minIncome ≤ t.minIncome)

structure ProfessionalTaxSlab where
  gender : ProfessionalTaxGender
  minIncome : ℚ
  maxIncome : Option ℚ
  deductionAmount : ℚ
  applicableMonths : List ℕ
deriving DecidableEq, Repr

structure ProfessionalTaxRule where
  incomeBasis : StatutoryIncomeBasis
  slabs : List ProfessionalTaxSlab
deriving DecidableEq, Repr

structure LabourWelfareFundContribution where
  minWage : Option ℚ
  maxWage : Option ℚ
  employeeAmount : ℚ
  employerAmount : ℚ
  applicableMonths : List ℕ
deriving DecidableEq, Repr

structure LabourWelfareFundRule where
  wageBasis : StatutoryIncomeBasis
  contributions : List LabourWelfareFundContribution
deriving DecidableEq, Repr

structure Employee where
  id : EmployeeId
  organisation : OrganisationId
  status : EmployeeStatus
  dateOfJoining : Option Date
  dateOfExit : Option Date
  gender : Option GenderChoice
  officeStateCode : Option String
deriving DecidableEq, Repr

/-- A line of an assignment; `componentType` is the line's own copy. -/
structure CompensationAssignmentLine where
  componentCode : String
  componentType : PayrollComponentType
  monthlyAmount : ℚ
  isTaxable : Bool
deriving DecidableEq, Repr

structure CompensationAssignment where
  employee : EmployeeId
  effectiveFrom : Date
  isApproved : Bool
  taxRegime : TaxRegime
  isPfOptedOut : Bool
  vpfRatePercent : ℚ
  lines : List CompensationAssignmentLine
deriving DecidableEq, Repr

/-! ## Items and payslips -/

/-- A line of an item's snapshot. The line of a reimbursed claim names it. -/
structure SnapshotLine where
  componentCode : String
  componentType : PayrollComponentType
  monthlyAmount : ℚ
  isTaxable : Bool
  autoCalculated : Bool
  sourceId : Option ExpenseClaimId := none
deriving DecidableEq, Repr

/-- The tax working of an item. -/
structure TaxWorking where
  annualTaxableGross : ℚ := 0
  annualInvestmentDeductions : ℚ := 0
  annualTaxableAfterSd : ℚ := 0
  annualTaxBeforeRebate : ℚ := 0
  annualRebate87a : ℚ := 0
  annualSurcharge : ℚ := 0
  annualTaxBeforeCess : ℚ := 0
  annualCess : ℚ := 0
  annualTaxTotal : ℚ := 0
deriving DecidableEq, Repr

/-- What an item remembers of its calculation. -/
structure ItemSnapshot where
  lines : List SnapshotLine := []
  arrears : ℚ := 0
  expenseReimbursements : ℚ := 0
  paidDays : ℕ := 0
  totalDaysInPeriod : ℕ := 0
  proRateFactor : ℚ := 1
  autoPf : ℚ := 0
  pfEmployer : ℚ := 0
  epsEmployer : ℚ := 0
  epfEmployer : ℚ := 0
  pfEligibleBasic : ℚ := 0
  pfEmployeeRatePercent : ℚ := 0
  pfIsOptedOut : Bool := false
  esiEmployee : ℚ := 0
  esiEmployer : ℚ := 0
  esiEligibilityMode : ESIEligibilityMode := .none
  esiContributionPeriod : Option (Date × Date) := none
  ptMonthly : ℚ := 0
  ptTaxableBasis : ℚ := 0
  lwfEmployee : ℚ := 0
  lwfEmployer : ℚ := 0
  lwfWageBasis : ℚ := 0
  attendancePaidDays : ℚ := 0
  lopDays : ℚ := 0
  lopDeduction : ℚ := 0
  tax : TaxWorking := {}
deriving DecidableEq, Repr

/-- The amounts of an item. -/
structure ItemAmounts where
  grossPay : ℚ := 0
  employeeDeductions : ℚ := 0
  employerContributions : ℚ := 0
  epsEmployer : ℚ := 0
  epfEmployer : ℚ := 0
  incomeTax : ℚ := 0
  totalDeductions : ℚ := 0
  netPay : ℚ := 0
deriving DecidableEq, Repr

structure PayrollRunItem where
  id : PayrollRunItemId
  payRun : PayrollRunId
  employee : EmployeeId
  status : PayrollRunItemStatus
  amounts : ItemAmounts
  snapshot : ItemSnapshot
  message : String
deriving DecidableEq, Repr

/-- What a payslip keeps of its item. -/
structure PayslipSnapshot where
  grossPay : ℚ
  employeeDeductions : ℚ
  employerContributions : ℚ
  incomeTax : ℚ
  totalDeductions : ℚ
  netPay : ℚ
  arrears : ℚ
  lines : List SnapshotLine
  paidDays : ℕ
  totalDaysInPeriod : ℕ
  proRateFactor : ℚ
  lopDays : ℚ
  lopDeduction : ℚ
  annualTaxableGross : ℚ
  annualTaxableAfterSd : ℚ
  annualSurcharge : ℚ
  annualTaxBeforeCess : ℚ
  annualCess : ℚ
  annualTaxTotal : ℚ
deriving DecidableEq, Repr

structure Payslip where
  payRunItem : PayrollRunItemId
  payRun : PayrollRunId
  employee : EmployeeId
  periodYear : ℕ
  periodMonth : ℕ
  esiContributionPeriod : Option (Date × Date)
  esiEligibilityMode : ESIEligibilityMode
  snapshot : PayslipSnapshot
deriving DecidableEq, Repr

structure Arrears where
  employee : EmployeeId
  payRun : Option PayrollRunId
  amount : ℚ
  isIncludedInPayslip : Bool
deriving DecidableEq, Repr

structure ExpenseClaim where
  id : ExpenseClaimId
  organisation : OrganisationId
  employee : EmployeeId
  status : ExpenseClaimStatus
  reimbursementStatus : ExpenseReimbursementStatus
  reimbursementPayRun : Option PayrollRunId
  reimbursementPayRunItem : Option PayrollRunItemId
  lineAmounts : List ℚ
deriving DecidableEq, Repr

structure PayrollRun where
  id : PayrollRunId
  organisation : OrganisationId
  periodYear : ℕ
  periodMonth : ℕ
  runType : PayrollRunType
  useAttendanceInputs : Bool
  status : PayrollRunStatus
  approvalRun : Option RunId
deriving DecidableEq, Repr

/-- **The payroll tables.** New rows take the next unused identifier. -/
structure PayrollTables where
  payRuns : List PayrollRun
  items : List PayrollRunItem
  payslips : List Payslip
  arrears : List Arrears
  expenseClaims : List ExpenseClaim
  nextId : ℕ
deriving DecidableEq, Repr

namespace PayrollTables

def getPayRun (t : PayrollTables) (id : PayrollRunId) : Option PayrollRun :=
  Table.find PayrollRun.id id t.payRuns

/-- `pay_run.items`. -/
def runItems (t : PayrollTables) (id : PayrollRunId) : List PayrollRunItem :=
  t.items.filter (fun i => i.payRun = id)

/-- `pay_run.payslips`. -/
def runPayslips (t : PayrollTables) (id : PayrollRunId) : List Payslip :=
  t.payslips.filter (fun s => s.payRun = id)

end PayrollTables

end Payroll
