import Clarisal.Approvals.Outcome
import Clarisal.Payroll.Calculation

/-!
# Pay runs

Creating, calculating, submitting and finalizing pay runs, over the payroll
tables and the approval engine. `calculatePayRun` and its siblings read the
run's row, check its status and then write; the part after the check is a
function of its own, taking the row as it was read.

A calculation is two transactions: a pending approval is cancelled first, and
stays cancelled when the calculation itself fails.
-/

open Calendar Approvals

namespace Payroll

open Transaction

/-- The row of an outcome. -/
def ItemOutcome.item (id : PayrollRunItemId) (payRun : PayrollRunId) (employee : EmployeeId) :
    ItemOutcome → PayrollRunItem
  | .ready amounts snapshot =>
    { id := id, payRun := payRun, employee := employee, status := .ready, amounts := amounts,
      snapshot := snapshot, message := "" }
  | .exception message =>
    { id := id, payRun := payRun, employee := employee, status := .exception, amounts := {},
      snapshot := {}, message := message }

namespace PayrollTables

def updatePayRun (t : PayrollTables) (id : PayrollRunId) (f : PayrollRun → PayrollRun) :
    PayrollTables :=
  { t with payRuns := Table.update (fun p => p.id = id) f t.payRuns }

/-- Delete the items of a run. Their payslips go with them; an expense claim
that points to one stays, without the pointer. -/
def deleteItems (t : PayrollTables) (id : PayrollRunId) : PayrollTables :=
  let deleted := (t.runItems id).map PayrollRunItem.id
  { t with
    items := t.items.filter (fun i => i.payRun ≠ id)
    payslips := t.payslips.filter (fun s => s.payRunItem ∉ deleted)
    expenseClaims := Table.update (fun c => ∃ i ∈ c.reimbursementPayRunItem, i ∈ deleted)
      (fun c => { c with reimbursementPayRunItem := none }) t.expenseClaims }

/-- Release the claims a run had taken and not paid. -/
def resetExpenseClaimsForPayRun (t : PayrollTables) (id : PayrollRunId) : PayrollTables :=
  { t with
    expenseClaims := Table.update
      (fun c => c.reimbursementPayRun = some id ∧ c.reimbursementStatus = .includedInPayroll)
      (fun c => { c with
        reimbursementStatus := .pendingPayroll, reimbursementPayRun := none,
        reimbursementPayRunItem := none })
      t.expenseClaims }

/-- The claims a run takes: only a regular run takes any. -/
def pendingExpenseClaimsForPayRun (t : PayrollTables) (payRun : PayrollRun) :
    List ExpenseClaim :=
  match payRun.runType with
  -- claims are reimbursed by regular runs only
  | .rerun => []
  | .regular => t.expenseClaims.filter (fun c =>
      c.organisation = payRun.organisation ∧ c.status = .approved
        ∧ c.reimbursementStatus = .pendingPayroll)

def markExpenseClaimsIncludedInPayroll (t : PayrollTables) (payRun : PayrollRunId)
    (item : PayrollRunItemId) (claims : List ExpenseClaim) : PayrollTables :=
  { t with
    expenseClaims := Table.update (fun c => c.id ∈ claims.map ExpenseClaim.id)
      (fun c => { c with
        reimbursementStatus := .includedInPayroll, reimbursementPayRun := some payRun,
        reimbursementPayRunItem := some item })
      t.expenseClaims }

def markExpenseClaimsPaidForPayRunItem (t : PayrollTables) (item : PayrollRunItemId) :
    PayrollTables :=
  { t with
    expenseClaims := Table.update
      (fun c => c.reimbursementPayRunItem = some item
        ∧ c.reimbursementStatus = .includedInPayroll)
      (fun c => { c with reimbursementStatus := .paid }) t.expenseClaims }

/-- The employee's arrears of a run that are not on a payslip yet. -/
def openArrears (t : PayrollTables) (employee : EmployeeId) (payRun : PayrollRunId) :
    List Arrears :=
  t.arrears.filter (fun a =>
    a.employee = employee ∧ a.payRun = some payRun ∧ a.isIncludedInPayslip = false)

def includeArrears (t : PayrollTables) (employee : EmployeeId) (payRun : PayrollRunId) :
    PayrollTables :=
  { t with
    arrears := Table.update (fun a => a.employee = employee ∧ a.payRun = some payRun
        ∧ a.isIncludedInPayslip = false)
      (fun a => { a with isIncludedInPayslip := true }) t.arrears }

/-- Insert an item, unless the employee has one in the run. -/
def createItem (t : PayrollTables) (payRun : PayrollRunId) (employee : EmployeeId)
    (outcome : ItemOutcome) : Except String PayrollTables :=
  if t.items.any (fun i => i.payRun = payRun ∧ i.employee = employee) then
    .error "unique_payroll_run_item_per_employee"
  else
    .ok { t with
      items := t.items ++ [outcome.item t.nextId payRun employee]
      nextId := t.nextId + 1 }

/-- The ready items of a run. -/
def readyItems (t : PayrollTables) (id : PayrollRunId) : List PayrollRunItem :=
  (t.runItems id).filter (fun i => i.status = .ready)

/-- `_summarize_pay_run_exceptions` and the check for a ready item. -/
def checkItems (t : PayrollTables) (id : PayrollRunId) (purpose : String) :
    Except String Unit :=
  if (t.runItems id).any (fun i => i.status = .exception) then
    .error "Resolve payroll exceptions before proceeding"
  else if t.readyItems id = [] then
    .error s!"Calculate payroll successfully for at least one employee before {purpose}."
  else .ok ()

end PayrollTables

/-- The status a pay run takes from the approval engine, which writes its own
word for it. -/
def payrollRunStatus : SubjectStatus → PayrollRunStatus
  | .approved => .approved
  | .rejected => .rejected
  | .cancelled => .cancelled
  | .withdrawn => .withdrawn

/-- A pay run takes the status of its decision; it has no handler of its own. -/
def payrollHandler : SubjectHandler PayrollTables where
  applySubjectStatus subject status _ t :=
    match subject.contentType with
    | .payrollRun => .ok (t.updatePayRun subject.objectId
        (fun p => { p with status := payrollRunStatus status }))
    | _ => .ok t

/-- The subject of a pay run's approval. -/
def payRunSubject (id : PayrollRunId) : ContentObject :=
  { contentType := .payrollRun, objectId := id }

abbrev State := EngineState PayrollTables

/-! ## Calculating -/

/-- **What a calculation reads besides the payroll tables**, as its queries
answer for the period of the run. -/
structure CalculationInputs where
  now : Time
  /-- the state of the organisation's address, or why there is none -/
  orgStateCode : Except String String
  employees : List Employee
  /-- by employee, latest first -/
  assignments : List CompensationAssignment
  /-- the slab set in force; the fallback master may have to be created first -/
  activeTaxSlabSet : Employee → TaxRegime → Except String (Option PayrollTaxSlabSet)
  professionalTaxRule : String → Option ProfessionalTaxRule
  labourWelfareFundRule : String → Option LabourWelfareFundRule
  attendanceSummary : EmployeeId → Option (ℚ × ℕ)
  leaveOnlyLopDays : EmployeeId → Option ℚ
  explicitLwpDays : EmployeeId → Option ℚ
  declaredTotals : EmployeeId → InvestmentSection → ℚ

/-- The name of a regime in a message. -/
def TaxRegime.lower : TaxRegime → String
  | .new => "new"
  | .old => "old"

namespace CalculationInputs

variable (inputs : CalculationInputs)

/-- The latest approved assignment in force at the end of the period. -/
def assignmentFor (period : PayPeriod) (employee : EmployeeId) : Option CompensationAssignment :=
  (inputs.assignments.filter (fun a => a.isApproved ∧ a.effectiveFrom ≤ period.finish)).find?
    (fun a => a.employee = employee)

/-- What the calculation of one employee reads. -/
def itemInputs (payRun : PayrollRun) (period : PayPeriod) (stateCode : String)
    (employee : Employee) (assignment : CompensationAssignment)
    (taxSlabSet : PayrollTaxSlabSet) (claims : List ExpenseClaim) (t : PayrollTables) :
    ItemInputs :=
  let state := employee.officeStateCode.getD stateCode
  { period := period
    useAttendanceInputs := payRun.useAttendanceInputs
    employee := employee
    employeeState := state
    assignment := assignment
    taxSlabSet := taxSlabSet
    arrearsAmounts := (t.openArrears employee.id payRun.id).map Arrears.amount
    payslips := t.payslips.filter (fun s => s.employee = employee.id)
    professionalTaxRule := inputs.professionalTaxRule state
    labourWelfareFundRule := inputs.labourWelfareFundRule state
    attendanceSummary := inputs.attendanceSummary employee.id
    leaveOnlyLopDays := inputs.leaveOnlyLopDays employee.id
    explicitLwpDays := inputs.explicitLwpDays employee.id
    declaredTotals := inputs.declaredTotals employee.id
    expenseClaims := claims.filter (fun c => c.employee = employee.id) }

/-- **The item of one employee of the run**, or why it is an exception. -/
def employeeOutcome (payRun : PayrollRun) (period : PayPeriod) (claims : List ExpenseClaim)
    (employee : Employee) (t : PayrollTables) : Except String ItemOutcome :=
  match inputs.orgStateCode with
  | .error message => .ok (.exception message)
  | .ok stateCode =>
    match inputs.assignmentFor period employee.id with
    | none => .ok
        (.exception "No approved compensation assignment is effective for this period.")
    | some assignment =>
      match inputs.activeTaxSlabSet employee assignment.taxRegime with
      | .error message => .error message
      | .ok none => .ok (.exception
          s!"No active {assignment.taxRegime.lower} tax slab set is configured for this payroll period.")
      | .ok (some taxSlabSet) =>
        calculateItem (inputs.itemInputs payRun period stateCode employee assignment taxSlabSet
          claims t)

/-- One round of the employee loop. -/
def calculateEmployee (payRun : PayrollRun) (period : PayPeriod) (claims : List ExpenseClaim)
    (t : PayrollTables) (employee : Employee) : Except String PayrollTables := do
  let outcome ← inputs.employeeOutcome payRun period claims employee t
  let t' ← t.createItem payRun.id employee.id outcome
  match outcome with
  | .exception _ => return t'
  | .ready _ _ =>
    let included := claims.filter (fun c => c.employee = employee.id)
    return t'.markExpenseClaimsIncludedInPayroll payRun.id t.nextId included

/-- The run without its items and claims, as the loop starts. -/
def clearRun (payRun : PayrollRun) (t : PayrollTables) : PayrollTables :=
  (t.resetExpenseClaimsForPayRun payRun.id).deleteItems payRun.id

/-- **The writes of a calculation**, on the run as read: new items for the
active employees, and the run calculated. -/
def calculateWrites (payRun : PayrollRun) (t : PayrollTables) : Except String PayrollTables :=
  match PayPeriod.ofYearMonth payRun.periodYear payRun.periodMonth with
  | none => .error "month must be in 1..12"
  | some period => do
    let cleared := clearRun payRun t
    let claims := cleared.pendingExpenseClaimsForPayRun payRun
    let employees := inputs.employees.filter (fun e =>
      e.organisation = payRun.organisation ∧ e.status = .active)
    let t ← employees.foldlM (inputs.calculateEmployee payRun period claims) cleared
    -- the approval is the one of the row as read, cleared if it was pending
    return t.updatePayRun payRun.id
      (fun p => { p with status := .calculated, approvalRun := payRun.approvalRun })

end CalculationInputs

/-- A run under approval leaves it before it is calculated again. -/
def cancelPendingApproval (now : Time) (payRun : PayrollRun) (st : State) :
    Except String (PayrollRun × State) :=
  match payRun.approvalRun.bind st.db.getRun with
  | none => .ok (payRun, st)
  | some run =>
    if run.status = .pending then do
      -- the pay run is not told: its status is written with the items
      let st ← cancelApprovalRun payrollHandler now run.id none st
      return ({ payRun with approvalRun := none }, st)
    else .ok (payRun, st)

/-- **The transactions of a calculation**, on the run as read. -/
def calculateTransactions (inputs : CalculationInputs) (payRun : PayrollRun) (st : State) :
    State :=
  match cancelPendingApproval inputs.now payRun st with
  | .error _ => st
  | .ok (payRun, st) => settle st do
    let subjects ← inputs.calculateWrites payRun st.subjects
    return { st with subjects := subjects }

/-- The statuses a run can be calculated from. -/
def checkCalculable (payRun : PayrollRun) : Except String Unit :=
  match payRun.status with
  | .approved => .error ("Approved payroll runs cannot be recalculated. "
      ++ "Create a rerun or move the run back to draft first.")
  | .finalized => .error "Finalized payroll runs cannot be recalculated."
  | _ => .ok ()

/-! ## Submitting -/

def checkSubmittable (payRun : PayrollRun) : Except String Unit :=
  if payRun.status = .calculated then .ok ()
  else .error "Only calculated payroll runs can be submitted for approval."

/-- Who asks for an approval, and the workflow it is resolved to. -/
structure Submission where
  user : EmployeeId → UserId
  dir : Directory
  workflow : Option WorkflowId
  requester : Option Employee

/-- The organisation the approval belongs to: the requester's, when there is one. -/
def Submission.organisation (submission : Submission) (payRun : PayrollRun) : OrganisationId :=
  submission.requester.elim payRun.organisation Employee.organisation

/-- **The writes of a submission**, on the run as read. -/
def submitWrites (submission : Submission) (payRun : PayrollRun) (st : State) :
    Except String State := do
  st.subjects.checkItems payRun.id "submitting the run for approval"
  match submission.workflow with
  | none =>
    .error ("No active default approval workflow is configured for "
      ++ "payroll processing requests.")
  | some workflow =>
    let (id, db) ← createApprovalRun submission.user submission.dir workflow
      .payrollProcessing (submission.organisation payRun)
      (submission.requester.map Employee.id) (payRunSubject payRun.id) st.db
    let subjects := st.subjects.updatePayRun payRun.id
      (fun p => { p with approvalRun := some id, status := .approvalPending })
    return { db := db, subjects := subjects }

/-! ## Finalizing -/

def checkFinalizable (skipApproval : Bool) (payRun : PayrollRun) : Except String Unit :=
  match payRun.status with
  | .approved => .ok ()
  | .calculated =>
    if skipApproval then .ok () else .error "Approval is required before finalization."
  | _ => .error "Only approved or explicitly bypassed calculated payroll runs can be finalized."

/-- What the payslip of an item says. -/
def PayrollRunItem.payslipSnapshot (item : PayrollRunItem) : PayslipSnapshot :=
  { grossPay := item.amounts.grossPay
    employeeDeductions := item.amounts.employeeDeductions
    employerContributions := item.amounts.employerContributions
    incomeTax := item.amounts.incomeTax
    totalDeductions := item.amounts.totalDeductions
    netPay := item.amounts.netPay
    arrears := item.snapshot.arrears
    lines := item.snapshot.lines
    paidDays := item.snapshot.paidDays
    totalDaysInPeriod := item.snapshot.totalDaysInPeriod
    proRateFactor := item.snapshot.proRateFactor
    lopDays := item.snapshot.lopDays
    lopDeduction := item.snapshot.lopDeduction
    annualTaxableGross := item.snapshot.tax.annualTaxableGross
    annualTaxableAfterSd := item.snapshot.tax.annualTaxableAfterSd
    annualSurcharge := item.snapshot.tax.annualSurcharge
    annualTaxBeforeCess := item.snapshot.tax.annualTaxBeforeCess
    annualCess := item.snapshot.tax.annualCess
    annualTaxTotal := item.snapshot.tax.annualTaxTotal }

/-- The payslip of an item. -/
def PayrollRunItem.payslip (payRun : PayrollRun) (item : PayrollRunItem) : Payslip :=
  { payRunItem := item.id, payRun := payRun.id, employee := item.employee,
    periodYear := payRun.periodYear, periodMonth := payRun.periodMonth,
    esiContributionPeriod := item.snapshot.esiContributionPeriod,
    esiEligibilityMode := item.snapshot.esiEligibilityMode,
    snapshot := item.payslipSnapshot }

/-- `Payslip.objects.update_or_create(pay_run_item=item)`. -/
def PayrollTables.updateOrCreatePayslip (t : PayrollTables) (payRun : PayrollRun)
    (item : PayrollRunItem) : Except String PayrollTables :=
  -- a payslip issued before is rewritten, not issued twice
  if t.payslips.any (fun s => s.payRunItem = item.id) then
    .ok { t with
      payslips := Table.update (fun s => s.payRunItem = item.id)
        (fun _ => item.payslip payRun) t.payslips }
  else if t.payslips.any (fun s => s.employee = item.employee ∧ s.payRun = payRun.id) then
    .error "unique_payslip_per_employee_per_run"
  else .ok { t with payslips := t.payslips ++ [item.payslip payRun] }

/-- One round of the payslip loop. -/
def finalizeItem (payRun : PayrollRun) (t : PayrollTables) (item : PayrollRunItem) :
    Except String PayrollTables := do
  let t ← t.updateOrCreatePayslip payRun item
  return (t.includeArrears item.employee payRun.id).markExpenseClaimsPaidForPayRunItem item.id

/-- **The writes of a finalization**, on the run as read: a payslip for each
ready item, and the run finalized. -/
def finalizeWrites (payRun : PayrollRun) (t : PayrollTables) : Except String PayrollTables := do
  t.checkItems payRun.id "finalization"
  let t ← (t.readyItems payRun.id).foldlM (finalizeItem payRun) t
  return t.updatePayRun payRun.id (fun p => { p with status := .finalized })

/-! ## The pay runs as a system -/

/-- The row a request works on. -/
def readPayRun (t : PayrollTables) (id : PayrollRunId) : Except String PayrollRun :=
  match t.getPayRun id with
  | none => .error "PayrollRun matching query does not exist."
  | some payRun => .ok payRun

/-- A new run, in draft. -/
def createPayrollRun (organisation : OrganisationId) (periodYear periodMonth : ℕ)
    (runType : PayrollRunType) (useAttendanceInputs : Bool) (t : PayrollTables) :
    PayrollTables :=
  { t with
    payRuns := t.payRuns ++ [
      { id := t.nextId, organisation := organisation, periodYear := periodYear,
        periodMonth := periodMonth, runType := runType,
        useAttendanceInputs := useAttendanceInputs, status := .draft, approvalRun := none }],
    nextId := t.nextId + 1 }

/-- **Calculate**, on the row as it stands. -/
def calculatePayRun (inputs : CalculationInputs) (id : PayrollRunId) (st : State) : State :=
  match readPayRun st.subjects id with
  | .error _ => st
  | .ok payRun =>
    match checkCalculable payRun with
    | .error _ => st
    | .ok () => calculateTransactions inputs payRun st

/-- **Submit for approval**, on the row as it stands. -/
def submitPayRunForApproval (submission : Submission) (id : PayrollRunId) (st : State) :
    Except String State := do
  let payRun ← readPayRun st.subjects id
  checkSubmittable payRun
  submitWrites submission payRun st

/-- **Finalize**, on the row as it stands. -/
def finalizePayRun (skipApproval : Bool) (id : PayrollRunId) (st : State) :
    Except String State := do
  let payRun ← readPayRun st.subjects id
  checkFinalizable skipApproval payRun
  let subjects ← finalizeWrites payRun st.subjects
  return { st with subjects := subjects }

/-- **The requests about pay runs.** -/
inductive Op
  | createPayrollRun (organisation : OrganisationId) (periodYear periodMonth : ℕ)
      (runType : PayrollRunType) (useAttendanceInputs : Bool)
  | createArrears (row : Arrears)
  | calculatePayRun (inputs : CalculationInputs) (payRun : PayrollRunId)
  | submitPayRunForApproval (submission : Submission) (payRun : PayrollRunId)
  | approveAction (user : EmployeeId → UserId) (dir : Directory) (action : ActionId)
      (actor : UserId) (comment : String)
  | rejectAction (dir : Directory) (action : ActionId) (actor : UserId) (comment : String)
  | processPendingActionEscalations (user : EmployeeId → UserId) (dir : Directory)
  | finalizePayRun (payRun : PayrollRunId) (skipApproval : Bool)

/-- **One request**: a refused one changes nothing. -/
def step (st : State) : Op → State
  | .createPayrollRun organisation periodYear periodMonth runType useAttendanceInputs =>
    { st with
      subjects := createPayrollRun organisation periodYear periodMonth runType
        useAttendanceInputs st.subjects }
  | .createArrears row =>
    { st with subjects := { st.subjects with arrears := st.subjects.arrears ++ [row] } }
  | .calculatePayRun inputs payRun => calculatePayRun inputs payRun st
  | .submitPayRunForApproval submission payRun =>
    settle st (submitPayRunForApproval submission payRun st)
  | .approveAction user dir action actor comment =>
    settle st (approveAction payrollHandler user dir action actor comment st)
  | .rejectAction dir action actor comment =>
    settle st (rejectAction payrollHandler dir action actor comment st)
  | .processPendingActionEscalations user dir =>
    { st with db := processPendingActionEscalations user dir st.db }
  | .finalizePayRun payRun skipApproval => settle st (finalizePayRun skipApproval payRun st)

/-- The tables before the first pay run. -/
def PayrollTables.initial (expenseClaims : List ExpenseClaim) : PayrollTables :=
  { payRuns := [], items := [], payslips := [], arrears := [], expenseClaims := expenseClaims,
    nextId := 0 }

end Payroll
