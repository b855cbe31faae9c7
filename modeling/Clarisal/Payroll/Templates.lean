import Clarisal.Payroll.PayRuns

/-!
# Compensation templates

A template is a list of monthly amounts of pay components. Components belong
to the organisation and are shared by its templates: saving a line takes the
component of its code and writes the line's name, type and taxability to it.

Creating a template is one transaction; editing one is not, so an edit that
fails keeps what it did before.
-/

open Approvals

namespace Payroll

open Transaction

abbrev PayrollComponentId := ℕ
abbrev CompensationTemplateId := ℕ
abbrev CostCentreId := ℕ

/-- The statuses of a template. The field does not check its choices, so the
last two, which the approval engine knows for other subjects, can be stored
too. -/
inductive CompensationTemplateStatus
  | draft | pendingApproval | approved | rejected | cancelled | withdrawn
deriving DecidableEq, Repr

/-- A pay component. Its type is text: the choices are not checked when a line
is saved. -/
structure PayrollComponent where
  id : PayrollComponentId
  organisation : OrganisationId
  code : String
  name : String
  componentType : String
  isTaxable : Bool
  isSystemDefault : Bool
deriving DecidableEq, Repr

structure CompensationTemplate where
  id : CompensationTemplateId
  organisation : OrganisationId
  name : String
  description : String
  status : CompensationTemplateStatus
  approvalRun : Option RunId
deriving DecidableEq, Repr

structure CompensationTemplateLine where
  template : CompensationTemplateId
  component : PayrollComponentId
  monthlyAmount : ℚ
  sequence : ℕ
  costCentre : Option CostCentreId
deriving DecidableEq, Repr

/-- The tables of compensation templates. The lines of a template stand in the
order of their sequence. -/
structure TemplateTables where
  components : List PayrollComponent
  templates : List CompensationTemplate
  lines : List CompensationTemplateLine
  nextId : ℕ

/-- A line of a request. -/
structure LinePayload where
  componentCode : String
  name : String
  componentType : String
  monthlyAmount : ℚ
  isTaxable : Option Bool := none
  costCentre : Option CostCentreId := none
deriving DecidableEq, Repr

/-- What a line of a template says. -/
structure LineView where
  componentCode : String
  componentType : String
  isTaxable : Bool
  monthlyAmount : ℚ
deriving DecidableEq, Repr

def CompensationTemplateLine.view (line : CompensationTemplateLine) (c : PayrollComponent) :
    LineView :=
  { componentCode := c.code, componentType := c.componentType, isTaxable := c.isTaxable,
    monthlyAmount := line.monthlyAmount }

namespace TemplateTables

def getComponent (t : TemplateTables) (id : PayrollComponentId) : Option PayrollComponent :=
  Table.find PayrollComponent.id id t.components

def getTemplate (t : TemplateTables) (id : CompensationTemplateId) :
    Option CompensationTemplate :=
  Table.find CompensationTemplate.id id t.templates

def templateLines (t : TemplateTables) (id : CompensationTemplateId) :
    List CompensationTemplateLine :=
  t.lines.filter (fun l => l.template = id)

/-- **The lines of a template**, as its components describe them. -/
def lineViews (t : TemplateTables) (id : CompensationTemplateId) : List LineView :=
  (t.templateLines id).filterMap (fun l => (t.getComponent l.component).map l.view)

def saveTemplate (t : TemplateTables) (template : CompensationTemplate) : TemplateTables :=
  { t with templates := Table.save CompensationTemplate.id template t.templates }

end TemplateTables

/-! ## Components -/

/-- The component of a code. -/
def TemplateTables.componentOf (t : TemplateTables) (organisation : OrganisationId)
    (code : String) : Option PayrollComponent :=
  t.components.find? (fun c => c.organisation = organisation ∧ c.code = code)

/-- A component that is not there yet. -/
def TemplateTables.insertComponent (t : TemplateTables) (organisation : OrganisationId)
    (code name componentType : String) (isTaxable isSystemDefault : Bool) : TemplateTables :=
  { t with
    components := t.components ++ [
      { id := t.nextId, organisation := organisation, code := code, name := name,
        componentType := componentType, isTaxable := isTaxable,
        isSystemDefault := isSystemDefault }],
    nextId := t.nextId + 1 }

/-- `DEFAULT_COMPONENTS`: code, name, type and taxability. -/
def defaultComponents : List (String × String × String × Bool) :=
  [("BASIC", "Basic Pay", "EARNING", true),
    ("HRA", "House Rent Allowance", "EARNING", true),
    ("SPECIAL_ALLOWANCE", "Special Allowance", "EARNING", true),
    ("PF_EMPLOYEE", "Employee PF", "EMPLOYEE_DEDUCTION", false),
    ("PF_EMPLOYER", "Employer PF", "EMPLOYER_CONTRIBUTION", false),
    ("ESI_EMPLOYEE", "ESI (Employee)", "EMPLOYEE_DEDUCTION", false),
    ("ESI_EMPLOYER", "ESI (Employer)", "EMPLOYER_CONTRIBUTION", false),
    ("LWF_EMPLOYEE", "Labour Welfare Fund (Employee)", "EMPLOYEE_DEDUCTION", false),
    ("LWF_EMPLOYER", "Labour Welfare Fund (Employer)", "EMPLOYER_CONTRIBUTION", false),
    ("PROFESSIONAL_TAX", "Professional Tax", "EMPLOYEE_DEDUCTION", false)]

/-- The default components an organisation lacks are added. -/
def ensureOrgPayrollSetup (organisation : OrganisationId) (t : TemplateTables) :
    TemplateTables :=
  defaultComponents.foldl (fun t (code, name, componentType, isTaxable) =>
    match t.componentOf organisation code with
    | some _ => t
    | none => t.insertComponent organisation code name componentType isTaxable true) t

/-- **The component of a line**: the one of its code, with the line's name, type
and taxability written to it, or a new one. -/
def getOrCreateComponent (organisation : OrganisationId) (payload : LinePayload)
    (t : TemplateTables) : PayrollComponentId × TemplateTables :=
  match t.componentOf organisation payload.componentCode with
  | none =>
    (t.nextId, t.insertComponent organisation payload.componentCode payload.name
      payload.componentType (payload.isTaxable.getD true) false)
  | some component =>
    (component.id,
      { t with
        components := Table.save PayrollComponent.id
          { component with
            name := payload.name
            componentType := payload.componentType
            isTaxable := payload.isTaxable.getD component.isTaxable } t.components })

/-! ## Lines -/

/-- Save one line: the component first, then the check of the cost centre. The
error, if there is one, and the tables afterwards. -/
def addLine (organisation : OrganisationId) (activeCostCentres : List CostCentreId)
    (template : CompensationTemplateId) (sequence : ℕ) (payload : LinePayload)
    (t : TemplateTables) : Option String × TemplateTables :=
  let (component, t) := getOrCreateComponent organisation payload t
  if ∃ c ∈ payload.costCentre, c ∉ activeCostCentres then
    (some "Select an active cost centre from this organisation.", t)
  else
    (none, { t with
      lines := t.lines ++ [
        { template := template, component := component,
          monthlyAmount := normalizeDecimal payload.monthlyAmount, sequence := sequence,
          costCentre := payload.costCentre }] })

/-- Save the lines of a request, up to the first error. -/
def addLines (organisation : OrganisationId) (activeCostCentres : List CostCentreId)
    (template : CompensationTemplateId) :
    ℕ → List LinePayload → TemplateTables → Option String × TemplateTables
  | _, [], t => (none, t)
  | sequence, payload :: payloads, t =>
    match addLine organisation activeCostCentres template sequence payload t with
    | (some e, t) => (some e, t)
    | (none, t) =>
      addLines organisation activeCostCentres template (sequence + 1) payloads t

/-! ## Creating and editing -/

/-- No template of the organisation has the name, other than the given one. -/
def TemplateTables.nameFree (t : TemplateTables) (organisation : OrganisationId) (name : String)
    (id : CompensationTemplateId) : Bool :=
  !t.templates.any (fun p => p.organisation = organisation ∧ p.name = name ∧ p.id ≠ id)

/-- The transaction that creates a template. -/
def createTemplateWrites (organisation : OrganisationId) (activeCostCentres : List CostCentreId)
    (name description : String) (payloads : List LinePayload) (t : TemplateTables) :
    Except String TemplateTables :=
  if payloads = [] then .error "At least one compensation line is required."
  else if t.nameFree organisation name t.nextId = false then
    .error "unique_compensation_template_name_per_org"
  else
    let template : CompensationTemplate :=
      { id := t.nextId, organisation := organisation, name := name, description := description,
        status := .draft, approvalRun := none }
    match addLines organisation activeCostCentres template.id 1 payloads
      { t with templates := t.templates ++ [template], nextId := t.nextId + 1 } with
    | (some e, _) => .error e
    | (none, t) => .ok t

/-- **Create a template.** The default components stay when it fails. -/
def createCompensationTemplate (organisation : OrganisationId)
    (activeCostCentres : List CostCentreId) (name description : String)
    (payloads : List LinePayload) (t : TemplateTables) : TemplateTables :=
  let t := ensureOrgPayrollSetup organisation t
  settle t (createTemplateWrites organisation activeCostCentres name description payloads t)

/-- The row an edit saves: an approved template is a draft again. -/
def CompensationTemplate.edited (template : CompensationTemplate)
    (name description : Option String) : CompensationTemplate :=
  { template with
    name := name.getD template.name
    description := description.getD template.description
    status := if template.status = .approved then .draft else template.status }

/-- **Edit a template**, in no transaction: each write stays. -/
def updateCompensationTemplate (activeCostCentres : List CostCentreId)
    (template : CompensationTemplate) (name description : Option String)
    (payloads : Option (List LinePayload)) (t : TemplateTables) : TemplateTables :=
  let template := template.edited name description
  if t.nameFree template.organisation template.name template.id = false then t
  else
    let t := t.saveTemplate template
    match payloads with
    | none => t
    | some payloads =>
      (addLines template.organisation activeCostCentres template.id 1 payloads
        { t with lines := t.lines.filter (fun l => l.template ≠ template.id) }).2

/-! ## Approval -/

def templateSubject (id : CompensationTemplateId) : ContentObject :=
  { contentType := .compensationTemplate, objectId := id }

/-- The status text the engine writes. -/
def templateStatus : SubjectStatus → CompensationTemplateStatus
  | .approved => .approved
  | .rejected => .rejected
  | .cancelled => .cancelled
  | .withdrawn => .withdrawn

/-- A template takes the engine's status and has no hook of its own. -/
def templateHandler : SubjectHandler TemplateTables where
  applySubjectStatus subject status _ t :=
    .ok (match subject.contentType with
      | .compensationTemplate =>
        { t with
          templates := Table.update (fun p => p.id = subject.objectId)
            (fun p => { p with status := templateStatus status }) t.templates }
      | _ => t)

abbrev TemplateState := EngineState TemplateTables

def submitCompensationTemplateForApproval (submission : Submission)
    (template : CompensationTemplate) (st : TemplateState) : Except String TemplateState :=
  if template.status ≠ .draft ∧ template.status ≠ .rejected then
    .error "Only draft or rejected templates can be submitted for approval."
  else
    match submission.workflow with
    | none =>
      .error ("No active default approval workflow is configured for "
        ++ "compensation template change requests.")
    | some workflow => do
      let (id, db) ← createApprovalRun submission.user submission.dir workflow
        .compensationTemplateChange
        (submission.requester.elim template.organisation Employee.organisation)
        (submission.requester.map Employee.id) (templateSubject template.id) st.db
      let template := { template with approvalRun := some id, status := .pendingApproval }
      return { db := db, subjects := st.subjects.saveTemplate template }

/-! ## The system -/

/-- **The requests about templates.** -/
inductive TemplateOp
  | create (organisation : OrganisationId) (activeCostCentres : List CostCentreId)
      (name description : String) (payloads : List LinePayload)
  | update (activeCostCentres : List CostCentreId) (template : CompensationTemplateId)
      (name description : Option String) (payloads : Option (List LinePayload))
  | submit (submission : Submission) (template : CompensationTemplateId)
  | approveAction (user : EmployeeId → UserId) (dir : Directory) (action : ActionId)
      (actor : UserId) (comment : String)
  | rejectAction (dir : Directory) (action : ActionId) (actor : UserId) (comment : String)
  | processPendingActionEscalations (user : EmployeeId → UserId) (dir : Directory)

/-- **One request** on the row as it stands: a refused one changes nothing. -/
def templateStep (st : TemplateState) : TemplateOp → TemplateState
  | .create organisation activeCostCentres name description payloads =>
    { st with
      subjects := createCompensationTemplate organisation activeCostCentres name description
        payloads st.subjects }
  | .update activeCostCentres id name description payloads =>
    match st.subjects.getTemplate id with
    | none => st
    | some template =>
      { st with
        subjects := updateCompensationTemplate activeCostCentres template name description
          payloads st.subjects }
  | .submit submission id =>
    match st.subjects.getTemplate id with
    | none => st
    | some template => settle st (submitCompensationTemplateForApproval submission template st)
  | .approveAction user dir action actor comment =>
    settle st (approveAction templateHandler user dir action actor comment st)
  | .rejectAction dir action actor comment =>
    settle st (rejectAction templateHandler dir action actor comment st)
  | .processPendingActionEscalations user dir =>
    { st with db := processPendingActionEscalations user dir st.db }

def TemplateTables.initial : TemplateTables := ⟨[], [], [], 0⟩

end Payroll
