import Clarisal.Payroll.PayRuns

/-!
# Expense claims

A claim is drafted, submitted and approved, and an approved claim waits for
payroll, which reimburses it. The claims stand among the payroll tables; the
requests here come between those about pay runs.

The limits of a category and the receipts of a line only refuse requests, and
are left out; so is the approval of a claim, of which only the decision is
seen.
-/

open Approvals Payroll

namespace Expenses

open Transaction

/-! ## Drafting -/

/-- The check of the lines of a request. -/
def checkLines (lines : List ℚ) : Except String Unit :=
  if lines = [] then .error "At least one expense line is required."
  else if ∃ amount ∈ lines, normalizeDecimal amount ≤ 0 then
    .error "Expense line amount must be greater than zero."
  else .ok ()

/-- A new claim, in draft. -/
def createExpenseClaim (employee : Employee) (lines : List ℚ) (t : PayrollTables) :
    Except String PayrollTables := do
  checkLines lines
  return { t with
    expenseClaims := t.expenseClaims ++ [
      { id := t.nextId, organisation := employee.organisation, employee := employee.id,
        status := .draft, reimbursementStatus := .notReady, reimbursementPayRun := none,
        reimbursementPayRunItem := none, lineAmounts := lines.map normalizeDecimal }]
    nextId := t.nextId + 1 }

/-- A claim its owner can still change. -/
def checkEditable (claim : ExpenseClaim) (requester : EmployeeId) (verb participle : String) :
    Except String Unit :=
  if claim.employee ≠ requester then
    .error s!"Only the claim owner can {verb} this expense claim."
  else if claim.status ≠ .draft ∧ claim.status ≠ .rejected then
    .error s!"Only draft or rejected expense claims can be {participle}."
  else .ok ()

/-- The claim with other lines. -/
def updateExpenseClaim (requester : EmployeeId) (lines : List ℚ) (claim : ExpenseClaim) :
    Except String ExpenseClaim := do
  checkEditable claim requester "edit" "edited"
  checkLines lines
  return { claim with lineAmounts := lines.map normalizeDecimal }

/-- The claim under approval. -/
def submitExpenseClaim (requester : EmployeeId) (claim : ExpenseClaim) :
    Except String ExpenseClaim := do
  checkEditable claim requester "submit" "submitted"
  if claim.lineAmounts = [] then .error "At least one expense line is required."
  else return { claim with status := .submitted, reimbursementStatus := .notReady }

/-- The claim given up by its owner. -/
def cancelExpenseClaim (requester : EmployeeId) (claim : ExpenseClaim) :
    Except String ExpenseClaim :=
  if claim.employee ≠ requester then .error "No ExpenseClaim matches the given query."
  else if claim.status ≠ .draft ∧ claim.status ≠ .rejected then
    .error "Only draft or rejected expense claims can be cancelled."
  else .ok { claim with status := .cancelled }

/-- **The decision of an approval**: an approved claim waits for payroll. No
claim is withdrawn. -/
def handleApprovalStatusChange (status : SubjectStatus) (claim : ExpenseClaim) : ExpenseClaim :=
  match status with
  | .approved => { claim with status := .approved, reimbursementStatus := .pendingPayroll }
  | .rejected => { claim with status := .rejected, reimbursementStatus := .notReady }
  | .cancelled => { claim with status := .cancelled, reimbursementStatus := .notReady }
  | .withdrawn => claim

/-- The decision finds the claim under approval. -/
def decideExpenseClaim (status : SubjectStatus) (claim : ExpenseClaim) :
    Except String ExpenseClaim :=
  if claim.status = .submitted then .ok (handleApprovalStatusChange status claim)
  else .error "This approval request is no longer pending."

/-! ## The system -/

/-- A request about one claim. -/
inductive ClaimRequest
  | updateExpenseClaim (requester : EmployeeId) (lines : List ℚ)
  | submitExpenseClaim (requester : EmployeeId)
  | cancelExpenseClaim (requester : EmployeeId)
  | decideExpenseClaim (status : SubjectStatus)

def ClaimRequest.perform : ClaimRequest → ExpenseClaim → Except String ExpenseClaim
  | .updateExpenseClaim requester lines => Expenses.updateExpenseClaim requester lines
  | .submitExpenseClaim requester => Expenses.submitExpenseClaim requester
  | .cancelExpenseClaim requester => Expenses.cancelExpenseClaim requester
  | .decideExpenseClaim status => Expenses.decideExpenseClaim status

/-- **The requests about claims and pay runs.** -/
inductive Op
  | payRun (op : Payroll.Op)
  | createExpenseClaim (employee : Employee) (lines : List ℚ)
  | onClaim (claim : ExpenseClaimId) (request : ClaimRequest)

/-- **One request**: a refused one changes nothing. -/
def step (st : State) : Op → State
  | .payRun op => Payroll.step st op
  | .createExpenseClaim employee lines =>
    { st with subjects := settle st.subjects (createExpenseClaim employee lines st.subjects) }
  | .onClaim id request =>
    match Table.find ExpenseClaim.id id st.subjects.expenseClaims with
    | none => st
    | some claim => settle st do
      let claim ← request.perform claim
      return { st with
        subjects := { st.subjects with
          expenseClaims := Table.save ExpenseClaim.id claim st.subjects.expenseClaims } }

/-- The state reached from no claims and no pay runs. -/
def reached (stages : StageTable) (ops : List Op) : State :=
  Run.exec step (EngineState.initial stages (.initial [])) ops

end Expenses
