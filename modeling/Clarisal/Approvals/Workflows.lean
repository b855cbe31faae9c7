import Clarisal.Approvals.Quorum
import Clarisal.Approvals.Submission
import Clarisal.Lib.Query
import Mathlib.Algebra.Order.Ring.Rat
import Mathlib.Data.String.Basic

/-!
# Which workflow decides a request

A request is decided by the workflow that is assigned to the employee, else by that of the
first rule that matches, else by the default of its kind. Whichever it is, it is active
and of the employee's organisation, and there is none only when no rule matches and there
is no default (`resolve_exact`).

An administrator may ask beforehand how a request would go. The preview is what happens:
while organisation and stages stay as they are, the run is created if the preview has
somebody for the first stage, and every stage that opens asks the previewed approvers
and no others (`preview_exact`).
-/

open Transaction

namespace Approvals

abbrev LeaveTypeId := ℕ

structure ApprovalWorkflow where
  id : WorkflowId
  organisation : OrganisationId
  name : String
  isDefault : Bool
  defaultRequestKind : Option ApprovalRequestKind
  isActive : Bool
deriving DecidableEq, Repr

/-- A rule; an empty text and a missing value match everything. -/
structure ApprovalWorkflowRule where
  workflow : WorkflowId
  requestKind : ApprovalRequestKind
  priority : ℕ
  isActive : Bool
  createdAt : Time
  department : Option DepartmentId := none
  officeLocation : Option OfficeLocationId := none
  specificEmployee : Option EmployeeId := none
  employmentType : String := ""
  designation : String := ""
  leaveType : Option LeaveTypeId := none
  minAmount : Option ℚ := none
  maxAmount : Option ℚ := none
  grade : String := ""
  band : String := ""
  costCentre : String := ""
  legalEntity : String := ""
deriving DecidableEq, Repr

structure ApprovalWorkflowAssignment where
  organisation : OrganisationId
  employee : EmployeeId
  requestKind : ApprovalRequestKind
  workflow : WorkflowId
  isActive : Bool
  createdAt : Time
deriving DecidableEq, Repr

/-- The workflows, and the columns of `employees` that choose between them. -/
structure WorkflowTables where
  workflows : List ApprovalWorkflow
  rules : List ApprovalWorkflowRule
  assignments : List ApprovalWorkflowAssignment
  employmentType : EmployeeId → String
  designation : EmployeeId → String
  /-- The workflow of the employee's own column for a kind. -/
  legacyWorkflow : EmployeeId → ApprovalRequestKind → Option WorkflowId

/-- What is known of a request. -/
structure RequestDetails where
  leaveType : Option LeaveTypeId := none
  amount : Option ℚ := none
  grade : String := ""
  band : String := ""
  costCentre : String := ""
  legalEntity : String := ""
deriving DecidableEq, Repr

/-- The order of the queries, and `strip().lower()`. -/
structure WorkflowSettings where
  order : QueryOrder
  normalise : String → String

inductive WorkflowSource
  | assignment | rule | default
deriving DecidableEq, Repr

/-! ## Resolving -/

/-- The workflow, while it is active and of the organisation. -/
def WorkflowTables.usable (t : WorkflowTables) (organisation : OrganisationId)
    (workflow : WorkflowId) : Option ApprovalWorkflow :=
  t.workflows.find? fun w => w.id = workflow ∧ w.organisation = organisation ∧ w.isActive

/-- `supports_employee_assignment`. -/
def supportsEmployeeAssignment (requestKind : ApprovalRequestKind) : Bool :=
  requestKind ∉ [.payrollProcessing, .compensationTemplateChange]

/-- `legacy_fields`. -/
def legacyFields : List ApprovalRequestKind :=
  [.leave, .onDuty, .attendanceRegularization, .expenseClaim]

variable (cfg : WorkflowSettings) (t : WorkflowTables) (dir : Directory)

/-- A text that a rule asks for, or none. -/
def matchesText (configured actual : String) : Bool :=
  configured = "" ∨ cfg.normalise configured = cfg.normalise actual

/-- `_matches_rule`. -/
def matchesRule (rule : ApprovalWorkflowRule) (employee : EmployeeId)
    (requestKind : ApprovalRequestKind) (details : RequestDetails) : Bool :=
  rule.isActive ∧ rule.requestKind = requestKind
    ∧ (rule.department = none ∨ dir.department employee = rule.department)
    ∧ (rule.officeLocation = none ∨ dir.officeLocation employee = rule.officeLocation)
    ∧ (∀ e ∈ rule.specificEmployee, employee = e)
    ∧ (rule.employmentType = "" ∨ t.employmentType employee = rule.employmentType)
    ∧ matchesText cfg rule.designation (t.designation employee)
    ∧ (rule.leaveType = none ∨ details.leaveType = rule.leaveType)
    ∧ (∀ least ∈ rule.minAmount, details.amount.any fun amount => least ≤ amount)
    ∧ (∀ most ∈ rule.maxAmount, details.amount.any fun amount => amount ≤ most)
    ∧ matchesText cfg rule.grade details.grade ∧ matchesText cfg rule.band details.band
    ∧ matchesText cfg rule.costCentre details.costCentre
    ∧ matchesText cfg rule.legalEntity details.legalEntity

def getDefaultWorkflow (organisation : OrganisationId) (requestKind : ApprovalRequestKind) :
    Option ApprovalWorkflow :=
  (cfg.order.orderBy ApprovalWorkflow.name (t.workflows.filter fun w =>
    w.organisation = organisation ∧ w.isDefault ∧ w.defaultRequestKind = some requestKind
      ∧ w.isActive)).head?

/-- The assignments that are in force, with their workflows. -/
def activeAssignments (employee : EmployeeId) (requestKind : ApprovalRequestKind) :
    List ApprovalWorkflow :=
  (cfg.order.orderBy ApprovalWorkflowAssignment.createdAt (t.assignments.filter fun a =>
    a.organisation = dir.organisation employee ∧ a.employee = employee
      ∧ a.requestKind = requestKind ∧ a.isActive)).filterMap fun a =>
    t.usable (dir.organisation employee) a.workflow

def getEmployeeAssignedWorkflow (employee : EmployeeId) (requestKind : ApprovalRequestKind) :
    Option ApprovalWorkflow :=
  if supportsEmployeeAssignment requestKind then
    (activeAssignments cfg t dir employee requestKind).head?.or
      (if requestKind ∈ legacyFields then
        (t.legacyWorkflow employee requestKind).bind (t.usable (dir.organisation employee))
      else none)
  else none

/-- The order of the rules. -/
def ApprovalWorkflowRule.key (rule : ApprovalWorkflowRule) : ℕ ×ₗ Time :=
  toLex (rule.priority, rule.createdAt)

/-- The rules of a kind, of usable workflows. -/
def activeRules (organisation : OrganisationId) (requestKind : ApprovalRequestKind) :
    List ApprovalWorkflowRule :=
  cfg.order.orderBy ApprovalWorkflowRule.key (t.rules.filter fun r =>
    (t.usable organisation r.workflow).isSome ∧ r.isActive ∧ r.requestKind = requestKind)

/-- The kind in an error. -/
def ApprovalRequestKind.label : ApprovalRequestKind → String
  | leave => "leave"
  | onDuty => "on duty"
  | attendanceRegularization => "attendance regularization"
  | expenseClaim => "expense claim"
  | payrollProcessing => "payroll processing"
  | salaryRevision => "salary revision"
  | compensationTemplateChange => "compensation template change"
  | promotion => "promotion"
  | transfer => "transfer"

def resolveWorkflowWithSource (employee : EmployeeId) (requestKind : ApprovalRequestKind)
    (details : RequestDetails) : Except String (ApprovalWorkflow × WorkflowSource) :=
  let organisation := dir.organisation employee
  let label := requestKind.label
  match getEmployeeAssignedWorkflow cfg t dir employee requestKind with
  | some workflow => .ok (workflow, .assignment)
  | none =>
    match ((activeRules cfg t organisation requestKind).find? fun r =>
        matchesRule cfg t dir r employee requestKind details).bind fun r =>
          t.usable organisation r.workflow with
    | some workflow => .ok (workflow, .rule)
    | none =>
      match getDefaultWorkflow cfg t organisation requestKind with
      | some workflow => .ok (workflow, .default)
      | none =>
        .error s!"No active default approval workflow is configured for {label} requests."

/-- `get_workflow_readiness`, of one kind: all of them require a default. -/
def isReady (organisation : OrganisationId) (requestKind : ApprovalRequestKind) : Bool :=
  (getDefaultWorkflow cfg t organisation requestKind).isSome

/-! ## Previews -/

structure ApproverPreview where
  employeeId : Option EmployeeId
  userId : UserId
  name : String
  assignmentSource : ApprovalActionAssignmentSource
deriving DecidableEq, Repr

structure StagePreview where
  sequence : ℕ
  name : String
  mode : ApprovalStageMode
  approvers : List ApproverPreview
  warnings : List String
deriving DecidableEq, Repr

structure WorkflowPreview where
  workflowId : WorkflowId
  workflowName : String
  source : WorkflowSource
  stages : List StagePreview
deriving DecidableEq, Repr

/-- `workflow.stages.order_by('sequence')`. -/
def ApprovalDb.orderedStages (db : ApprovalDb) (workflow : WorkflowId) : List ApprovalStage :=
  (db.workflowStages workflow).insertionSort fun s u => s.sequence ≤ u.sequence

section

variable (user : EmployeeId → UserId) (displayName : UserId → String)

def ApproverAssignment.preview (a : ApproverAssignment) : ApproverPreview where
  employeeId := a.approverEmployee
  userId := a.approverUser
  name := displayName a.approverUser
  assignmentSource := a.assignmentSource

def previewStage (employee : EmployeeId) (requestKind : ApprovalRequestKind)
    (stage : ApprovalStage) : StagePreview :=
  let approvers := stageApprovers user dir stage (some employee) (dir.organisation employee)
    requestKind
  { sequence := stage.sequence
    name := stage.name
    mode := stage.mode
    approvers := approvers.map (ApproverAssignment.preview displayName)
    warnings := if approvers = [] then ["No approver resolved for this stage."] else [] }

def simulateWorkflow (db : ApprovalDb) (employee : EmployeeId)
    (requestKind : ApprovalRequestKind) (details : RequestDetails) :
    Except String WorkflowPreview := do
  let (workflow, source) ← resolveWorkflowWithSource cfg t dir employee requestKind details
  return {
    workflowId := workflow.id
    workflowName := workflow.name
    source := source
    stages := (db.orderedStages workflow.id).map
      (previewStage dir user displayName employee requestKind) }

/-- `create_approval_run`, with the workflow it resolves. -/
def createResolvedRun (db : ApprovalDb) (employee : EmployeeId)
    (requestKind : ApprovalRequestKind) (details : RequestDetails) (subject : ContentObject) :
    Except String (RunId × ApprovalDb) := do
  let (workflow, _) ← resolveWorkflowWithSource cfg t dir employee requestKind details
  createApprovalRun user dir workflow.id requestKind (dir.organisation employee) (some employee)
    subject db

end

/-! ## What is resolved -/

section

variable {cfg t dir} {organisation : OrganisationId} {workflow : ApprovalWorkflow}
  {employee : EmployeeId} {requestKind : ApprovalRequestKind} {details : RequestDetails}
  {source : WorkflowSource}

/-- **The workflow may decide requests of the organisation.** -/
def WorkflowTables.Usable (t : WorkflowTables) (organisation : OrganisationId)
    (workflow : ApprovalWorkflow) : Prop :=
  workflow ∈ t.workflows ∧ workflow.organisation = organisation ∧ workflow.isActive = true

theorem usable_of_eq_some {id : WorkflowId} (h : t.usable organisation id = some workflow) :
    t.Usable organisation workflow ∧ workflow.id = id := by
  have hfound := List.find?_some h
  simp only [decide_eq_true_eq] at hfound
  exact ⟨⟨List.mem_of_find?_eq_some h, hfound.2⟩, hfound.1⟩

theorem usable_of_default (h : getDefaultWorkflow cfg t organisation requestKind
    = some workflow) : t.Usable organisation workflow := by
  have hmem := List.mem_of_head? h
  rw [cfg.order.mem_orderBy, List.mem_filter, decide_eq_true_eq] at hmem
  exact ⟨hmem.1, hmem.2.1, hmem.2.2.2.2⟩

theorem usable_of_assigned
    (h : getEmployeeAssignedWorkflow cfg t dir employee requestKind = some workflow) :
    t.Usable (dir.organisation employee) workflow := by
  unfold getEmployeeAssignedWorkflow at h
  split at h
  · rcases Option.or_eq_some_iff.mp h with h | ⟨-, h⟩
    · obtain ⟨a, -, ha⟩ := List.mem_filterMap.mp (List.mem_of_head? h)
      exact (usable_of_eq_some ha).1
    · split at h
      · obtain ⟨id, -, hid⟩ := Option.bind_eq_some_iff.mp h
        exact (usable_of_eq_some hid).1
      · cases h
  · cases h

/-- The rule may decide the request: its workflow is usable, and it matches. -/
def Applies (cfg : WorkflowSettings) (t : WorkflowTables) (dir : Directory)
    (employee : EmployeeId) (requestKind : ApprovalRequestKind) (details : RequestDetails)
    (rule : ApprovalWorkflowRule) : Prop :=
  rule ∈ t.rules ∧ (t.usable (dir.organisation employee) rule.workflow).isSome = true
    ∧ matchesRule cfg t dir rule employee requestKind details = true

theorem applies_iff {rule : ApprovalWorkflowRule} :
    Applies cfg t dir employee requestKind details rule
      ↔ rule ∈ activeRules cfg t (dir.organisation employee) requestKind
        ∧ matchesRule cfg t dir rule employee requestKind details = true := by
  unfold Applies activeRules
  rw [cfg.order.mem_orderBy, List.mem_filter, decide_eq_true_eq]
  constructor
  · rintro ⟨hmem, husable, hmatch⟩
    have hrule := hmatch
    unfold matchesRule at hrule
    rw [decide_eq_true_eq] at hrule
    exact ⟨⟨hmem, husable, hrule.1, hrule.2.1⟩, hmatch⟩
  · rintro ⟨⟨hmem, husable, -⟩, hmatch⟩
    exact ⟨hmem, husable, hmatch⟩

/-- **The rule that is taken** is the first of those that apply. -/
theorem rule_of_find {rule : ApprovalWorkflowRule}
    (h : (activeRules cfg t (dir.organisation employee) requestKind).find?
      (fun r => matchesRule cfg t dir r employee requestKind details) = some rule) :
    Applies cfg t dir employee requestKind details rule
      ∧ ∀ other, Applies cfg t dir employee requestKind details other → rule.key ≤ other.key := by
  obtain ⟨hmatch, before, after, hrules, hbefore⟩ := List.find?_eq_some_iff_append.mp h
  refine ⟨applies_iff.mpr ⟨List.mem_of_find?_eq_some h, hmatch⟩, fun other hother => ?_⟩
  obtain ⟨hmem, hother⟩ := applies_iff.mp hother
  have hordered : (before ++ rule :: after).Pairwise fun r r' => r.key ≤ r'.key :=
    hrules ▸ cfg.order.ordered _ _
  rw [hrules, List.mem_append, List.mem_cons] at hmem
  rcases hmem with hmem | rfl | hmem
  · exact absurd hother (by simpa using hbefore other hmem)
  · exact le_rfl
  · exact List.rel_of_pairwise_cons (List.pairwise_append.mp hordered).2.1 hmem

/-- **Which workflow decides a request.** It is active and of the employee's organisation;
one that a rule chose is that of the first rule that applies; and the request is
refused exactly when nothing is assigned, no rule applies and there is no default. -/
theorem resolve_exact (cfg : WorkflowSettings) (t : WorkflowTables) (dir : Directory)
    (employee : EmployeeId) (requestKind : ApprovalRequestKind) (details : RequestDetails) :
    (∀ workflow source,
        resolveWorkflowWithSource cfg t dir employee requestKind details = .ok (workflow, source) →
        t.Usable (dir.organisation employee) workflow
          ∧ (source = .rule → ∃ rule, Applies cfg t dir employee requestKind details rule
            ∧ rule.workflow = workflow.id
            ∧ ∀ other, Applies cfg t dir employee requestKind details other →
              rule.key ≤ other.key))
      ∧ ((∃ message,
          resolveWorkflowWithSource cfg t dir employee requestKind details = .error message)
        ↔ getEmployeeAssignedWorkflow cfg t dir employee requestKind = none
          ∧ (∀ rule, ¬ Applies cfg t dir employee requestKind details rule)
          ∧ isReady cfg t (dir.organisation employee) requestKind = false) := by
  have hfind : ((activeRules cfg t (dir.organisation employee) requestKind).find? fun r =>
        matchesRule cfg t dir r employee requestKind details).bind (fun r =>
          t.usable (dir.organisation employee) r.workflow) = none
      ↔ ∀ rule, ¬ Applies cfg t dir employee requestKind details rule := by
    rw [Option.bind_eq_none_iff]
    constructor
    · intro h rule hrule
      have hsome : ((activeRules cfg t (dir.organisation employee) requestKind).find? fun r =>
          matchesRule cfg t dir r employee requestKind details).isSome = true :=
        List.find?_isSome.mpr ⟨rule, applies_iff.mp hrule⟩
      obtain ⟨first, hfirst⟩ := Option.isSome_iff_exists.mp hsome
      have husable := (rule_of_find hfirst).1.2.1
      rw [h first hfirst] at husable
      cases husable
    · intro h rule hrule
      exact absurd (rule_of_find hrule).1 (h rule)
  unfold resolveWorkflowWithSource
  dsimp only
  constructor
  · intro workflow source h
    split at h
    · next assigned hassigned =>
      obtain ⟨rfl, rfl⟩ := Prod.mk.inj (Except.ok.inj h)
      exact ⟨usable_of_assigned hassigned, fun hsource => by cases hsource⟩
    · split at h
      · next chosen hchosen =>
        obtain ⟨rfl, rfl⟩ := Prod.mk.inj (Except.ok.inj h)
        obtain ⟨rule, hrule, husable⟩ := Option.bind_eq_some_iff.mp hchosen
        obtain ⟨hw, hid⟩ := usable_of_eq_some husable
        obtain ⟨happlies, hfirst⟩ := rule_of_find hrule
        exact ⟨hw, fun _ => ⟨rule, happlies, hid.symm, hfirst⟩⟩
      · split at h
        · next default hdefault =>
          obtain ⟨rfl, rfl⟩ := Prod.mk.inj (Except.ok.inj h)
          exact ⟨usable_of_default hdefault, fun hsource => by cases hsource⟩
        · cases h
  · rw [← hfind, isReady]
    cases getEmployeeAssignedWorkflow cfg t dir employee requestKind with
    | some assigned => simp
    | none =>
      cases ((activeRules cfg t (dir.organisation employee) requestKind).find? fun r =>
          matchesRule cfg t dir r employee requestKind details).bind (fun r =>
            t.usable (dir.organisation employee) r.workflow) with
      | some chosen => simp
      | none =>
        cases getDefaultWorkflow cfg t (dir.organisation employee) requestKind <;> simp

end

/-! ## What is previewed -/

section

variable {cfg t dir} {user : EmployeeId → UserId} {displayName : UserId → String}
  {db db' : ApprovalDb} {w : WorkflowId} {employee : EmployeeId}
  {requestKind : ApprovalRequestKind} {details : RequestDetails} {expected : WorkflowPreview}

/-- **The first stage in order** of those that are looked for is the lowest. -/
theorem argmin_eq_find? (db : ApprovalDb) (w : WorkflowId) (p : ApprovalStage → Bool) :
    ((db.workflowStages w).filter p).argmin ApprovalStage.sequence
      = (db.orderedStages w).find? p := by
  have hperm : (db.orderedStages w).Perm (db.workflowStages w) := List.perm_insertionSort _ _
  have hordered : (db.orderedStages w).Pairwise fun s u => s.sequence ≤ u.sequence := by
    have : Std.Total (fun s u : ApprovalStage => s.sequence ≤ u.sequence) :=
      ⟨fun _ _ => le_total _ _⟩
    have : IsTrans ApprovalStage (fun s u => s.sequence ≤ u.sequence) := ⟨fun _ _ _ => le_trans⟩
    exact List.pairwise_insertionSort _ _
  cases hfind : (db.orderedStages w).find? p with
  | none =>
    rw [List.argmin_eq_none, List.filter_eq_nil_iff]
    exact fun s hs => List.find?_eq_none.mp hfind s (hperm.mem_iff.mpr hs)
  | some stage =>
    obtain ⟨hp, before, after, hstages, hbefore⟩ := List.find?_eq_some_iff_append.mp hfind
    have hmem : stage ∈ db.workflowStages w :=
      hperm.mem_iff.mp (List.mem_of_find?_eq_some hfind)
    have hfiltered : stage ∈ (db.workflowStages w).filter p := List.mem_filter.mpr ⟨hmem, hp⟩
    obtain ⟨least, hleast⟩ : ∃ least,
        ((db.workflowStages w).filter p).argmin ApprovalStage.sequence = some least := by
      refine Option.ne_none_iff_exists'.mp fun hnone => ?_
      rw [List.argmin_eq_none.mp hnone] at hfiltered
      exact List.not_mem_nil hfiltered
    obtain ⟨hleastMem, hleastP⟩ := List.mem_filter.mp (List.argmin_mem hleast)
    have hle : stage.sequence ≤ least.sequence := by
      have hsorted : least ∈ before ++ stage :: after := hstages ▸ hperm.mem_iff.mpr hleastMem
      rw [hstages] at hordered
      rw [List.mem_append, List.mem_cons] at hsorted
      rcases hsorted with hsorted | rfl | hsorted
      · exact absurd hleastP (by simpa using hbefore least hsorted)
      · exact le_rfl
      · exact List.rel_of_pairwise_cons (List.pairwise_append.mp hordered).2.1 hsorted
    rw [hleast]
    obtain ⟨hleastRow, hleastW⟩ := ApprovalDb.mem_workflowStages.mp hleastMem
    obtain ⟨hrow, hw⟩ := ApprovalDb.mem_workflowStages.mp hmem
    exact congrArg some (db.stages.eq_of_sequence hleastRow hrow (hleastW.trans hw.symm)
      (le_antisymm (List.le_of_mem_argmin hfiltered hleast) hle))

theorem firstStage_eq_head? : db.firstStage w = (db.orderedStages w).head? := by
  have h := argmin_eq_find? db w fun _ => true
  rw [List.filter_true] at h
  rw [ApprovalDb.firstStage, h]
  cases db.orderedStages w <;> rfl

/-- The approvers of an action. -/
def ApprovalAction.preview (displayName : UserId → String) (a : ApprovalAction) :
    ApproverPreview where
  employeeId := a.approverEmployee
  userId := a.approverUser
  name := displayName a.approverUser
  assignmentSource := a.assignmentSource

/-- **The stage opens as previewed**: the run gets a pending action for each approver of
the preview, in its order, and no other action is made. -/
def OpensAs (displayName : UserId → String) (db db' : ApprovalDb) (run : RunId)
    (stage : StagePreview) : Prop :=
  ∃ actions, db'.actions = db.actions ++ actions
    ∧ actions.map (ApprovalAction.preview displayName) = stage.approvers
    ∧ ∀ a ∈ actions, a.approvalRun = run ∧ a.status = .pending

theorem createActions_opens {run : RunId} {stage : StageId} {now : Time}
    {approvers : List ApproverAssignment}
    (h : approvers.foldlM (fun db a => db.createAction now run stage a none) db = .ok db') :
    ∃ actions, db'.actions = db.actions ++ actions
      ∧ actions.map (ApprovalAction.preview displayName)
        = approvers.map (ApproverAssignment.preview displayName)
      ∧ ∀ a ∈ actions, a.approvalRun = run ∧ a.status = .pending := by
  induction approvers generalizing db with
  | nil =>
    obtain rfl := pure_eq_ok_iff.mp h
    exact ⟨[], (List.append_nil _).symm, rfl, fun _ ha => absurd ha List.not_mem_nil⟩
  | cons assignment approvers ih =>
    rw [List.foldlM_cons, bind_eq_ok_iff] at h
    obtain ⟨db₁, hcreate, hrest⟩ := h
    obtain rfl := ApprovalDb.createAction_eq_ok hcreate
    obtain ⟨first, hfirst, hshown, hrun⟩ : ∃ first : ApprovalAction,
        (db.insertAction now run stage assignment none).actions = db.actions ++ [first]
          ∧ first.preview displayName = assignment.preview displayName
          ∧ first.approvalRun = run ∧ first.status = .pending := ⟨_, rfl, rfl, rfl, rfl⟩
    obtain ⟨actions, hactions, hpreview, hpending⟩ := ih hrest
    refine ⟨first :: actions, ?_, ?_, ?_⟩
    · rw [hactions, hfirst, List.append_assoc, List.singleton_append]
    · rw [List.map_cons, List.map_cons, hpreview, hshown]
    · intro a ha
      rcases List.mem_cons.mp ha with rfl | ha
      · exact hrun
      · exact hpending a ha

/-- **A stage that opens** asks somebody, as previewed. -/
theorem createStageActions_opens {run : ApprovalRun} {stage : ApprovalStage}
    (hemployee : run.requestedBy = some employee)
    (horganisation : run.organisation = dir.organisation employee)
    (hkind : run.requestKind = requestKind)
    (h : createStageActions user dir run stage db = .ok db') :
    (previewStage dir user displayName employee requestKind stage).warnings = []
      ∧ OpensAs displayName db db' run.id
        (previewStage dir user displayName employee requestKind stage) := by
  obtain ⟨approvers, happrovers, hfold⟩ := bind_eq_ok_iff.mp h
  rw [hemployee, horganisation, hkind] at happrovers
  obtain ⟨rfl, hne⟩ := resolveStageApprovers_eq_ok.mp happrovers
  exact ⟨if_neg hne, createActions_opens hfold⟩

theorem warnings_eq_nil_iff {stage : ApprovalStage} :
    (previewStage dir user displayName employee requestKind stage).warnings = []
      ↔ stageApprovers user dir stage (some employee) (dir.organisation employee) requestKind
        ≠ [] := by
  unfold previewStage
  dsimp only
  split <;> simp_all

theorem simulateWorkflow_eq_ok (h : simulateWorkflow cfg t dir user displayName db employee
      requestKind details = .ok expected) :
    ∃ workflow source,
      resolveWorkflowWithSource cfg t dir employee requestKind details = .ok (workflow, source)
        ∧ expected.workflowId = workflow.id
        ∧ expected.stages = (db.orderedStages workflow.id).map
          (previewStage dir user displayName employee requestKind) := by
  obtain ⟨⟨workflow, source⟩, hresolve, hexpected⟩ := bind_eq_ok_iff.mp h
  obtain rfl := pure_eq_ok_iff.mp hexpected
  exact ⟨workflow, source, hresolve, rfl, rfl⟩

/-- **The preview is what happens**, while the organisation and the stages stay as they
are. The run is created exactly when the preview has somebody for the first stage, which
then opens as previewed; and when a stage of a run ends, the next one of the preview
opens, or the run is approved. -/
theorem preview_exact {S : Type} (handler : SubjectHandler S) (user : EmployeeId → UserId)
    (displayName : UserId → String) (cfg : WorkflowSettings) (t : WorkflowTables)
    (dir : Directory) (db : ApprovalDb) (hkeys : db.Keys) (employee : EmployeeId)
    (requestKind : ApprovalRequestKind) (details : RequestDetails) (expected : WorkflowPreview)
    (hexpected : simulateWorkflow cfg t dir user displayName db employee requestKind details
      = .ok expected) :
    (∀ subject,
        ((∃ created, createResolvedRun cfg t dir user db employee requestKind details subject
            = .ok created) ↔ ∃ first ∈ expected.stages.head?, first.warnings = [])
        ∧ ∀ run db', createResolvedRun cfg t dir user db employee requestKind details subject
            = .ok (run, db') →
          ∃ first ∈ expected.stages.head?, OpensAs displayName db db' run first)
      ∧ ∀ (st st' : EngineState S) (run : ApprovalRun), st.db.stages = db.stages →
        run.workflow = expected.workflowId → run.requestedBy = some employee →
        run.organisation = dir.organisation employee → run.requestKind = requestKind →
        advanceOrCompleteRun handler user dir run st = .ok st' →
        (expected.stages.find? (fun s => run.currentStageSequence < s.sequence) = none
            ∧ st'.db = st.db.setRunStatus run.id .approved)
          ∨ ∃ next,
            expected.stages.find? (fun s => run.currentStageSequence < s.sequence) = some next
              ∧ next.warnings = [] ∧ OpensAs displayName st.db st'.db run.id next := by
  obtain ⟨workflow, source, hresolve, hid, hstages⟩ := simulateWorkflow_eq_ok hexpected
  have hhead : expected.stages.head? = (db.firstStage workflow.id).map
      (previewStage dir user displayName employee requestKind) := by
    rw [hstages, List.head?_map, firstStage_eq_head?]
  have hcreate : ∀ subject,
      createResolvedRun cfg t dir user db employee requestKind details subject
        = createApprovalRun user dir workflow.id requestKind (dir.organisation employee)
          (some employee) subject db := by
    intro subject
    rw [createResolvedRun, hresolve]
    rfl
  refine ⟨fun subject => ⟨?_, fun run db' h => ?_⟩, ?_⟩
  · rw [hcreate, createApprovalRun_isOk_iff hkeys subject, hhead, Approvable]
    constructor
    · rintro ⟨stage, hstage, hne⟩
      exact ⟨_, Option.mem_map_of_mem _ hstage, warnings_eq_nil_iff.mpr hne⟩
    · rintro ⟨first, hfirst, hwarnings⟩
      obtain ⟨stage, hstage, rfl⟩ := Option.mem_map.mp hfirst
      exact ⟨stage, hstage, warnings_eq_nil_iff.mp hwarnings⟩
  · rw [hcreate] at h
    obtain ⟨newRun, stage, hnew, rfl, -, horganisation, hworkflow, hkind, hrequester, hopen⟩ :=
      createApprovalRun_eq_ok h
    refine ⟨_, ?_, (createStageActions_opens hrequester horganisation hkind hopen).2⟩
    rw [hhead, ← hworkflow, hnew.first]
    rfl
  · intro st st' run hsame hworkflow hrequester horganisation hkind h
    have hnext : expected.stages.find? (fun s => run.currentStageSequence < s.sequence)
        = (st.db.nextStage run.workflow run.currentStageSequence).map
          (previewStage dir user displayName employee requestKind) := by
      have hrows : st.db.workflowStages run.workflow = db.workflowStages workflow.id := by
        rw [ApprovalDb.workflowStages, hsame, hworkflow, hid]
        rfl
      rw [ApprovalDb.nextStage, hrows, argmin_eq_find?, hstages, List.find?_map]
      rfl
    rcases advanceOrCompleteRun_eq_ok h with ⟨hnone, hdb, -⟩ | ⟨next, hstage, hopen, -⟩
    · exact Or.inl ⟨by rw [hnext, hnone, Option.map_none], hdb⟩
    · have hopens : ∀ (moved : ApprovalRun) (db' : ApprovalDb),
          moved.requestedBy = some employee → moved.organisation = dir.organisation employee →
          moved.requestKind = requestKind →
          createStageActions user dir moved next db' = .ok st'.db →
          (previewStage dir user displayName employee requestKind next).warnings = []
            ∧ OpensAs displayName db' st'.db moved.id
              (previewStage dir user displayName employee requestKind next) :=
        fun _ _ => createStageActions_opens
      obtain ⟨hwarnings, hopened⟩ := hopens { run with currentStageSequence := next.sequence } _
        hrequester horganisation hkind hopen
      exact Or.inr ⟨_, by rw [hnext, hstage, Option.map_some], hwarnings, hopened⟩

end

/-! ## A rule before the default -/

namespace Sample

def settings : WorkflowSettings := { order := .stable, normalise := id }

/-- The default workflow of leave has no stage; a rule chooses workflow 1 for engineers. -/
def workflowTables : WorkflowTables where
  workflows :=
    [{ id := 1, organisation := 1, name := "Engineering", isDefault := false,
       defaultRequestKind := none, isActive := true },
     { id := 2, organisation := 1, name := "Leave", isDefault := true,
       defaultRequestKind := some .leave, isActive := true }]
  rules :=
    [{ workflow := 1, requestKind := .leave, priority := 100, isActive := true, createdAt := 0,
       designation := "engineer" }]
  assignments := []
  employmentType := fun _ => "FULL_TIME"
  designation := fun _ => "engineer"
  legacyWorkflow := fun _ _ => none

def noRuns : ApprovalDb := { stages := stages, runs := [], actions := [], nextId := 1 }

theorem noRuns_keys : noRuns.Keys := ⟨by decide, by decide, by decide, by decide, by decide⟩

/-- What the rule leads to. -/
def engineersLeave : WorkflowPreview where
  workflowId := 1
  workflowName := "Engineering"
  source := .rule
  stages := (noRuns.orderedStages 1).map
    (previewStage (directory 0) user (fun _ => "Asha") 1 .leave)

end Sample

theorem preview_exact_sample :
    ∃ created, createResolvedRun Sample.settings Sample.workflowTables (Sample.directory 0)
      Sample.user Sample.noRuns 1 .leave {} ⟨.leaveRequest, 7⟩ = .ok created :=
  ((preview_exact Sample.handler Sample.user (fun _ => "Asha") Sample.settings
    Sample.workflowTables (Sample.directory 0) Sample.noRuns Sample.noRuns_keys 1 .leave {}
    Sample.engineersLeave rfl).1 ⟨.leaveRequest, 7⟩).1.mpr ⟨_, rfl, by decide⟩

end Approvals
