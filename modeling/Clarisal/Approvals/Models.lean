import Clarisal.Lib.Calendar
import Clarisal.Lib.Table

/-!
# Approval workflows: the rows

The tables of the approval engine. A workflow is its ordered stages; a run is
one request travelling through them; an action is one approver's share of one
stage of one run.

The stage table carries the two constraints the database enforces, one row
per id and one stage per sequence number of a workflow, so every table of
stages that can be built satisfies them. Approvers and the escalation policy
of a stage are rows of their own in the database; they belong to exactly one
stage and are kept inside it here.
-/

open Calendar

namespace Approvals

abbrev UserId := ℕ
abbrev EmployeeId := ℕ
abbrev OrganisationId := ℕ
abbrev DepartmentId := ℕ
abbrev OfficeLocationId := ℕ
abbrev WorkflowId := ℕ
abbrev StageId := ℕ
abbrev RunId := ℕ
abbrev ActionId := ℕ

/-- A point in time, in seconds. -/
abbrev Time := ℤ

inductive ApprovalRequestKind
  | leave | onDuty | attendanceRegularization | expenseClaim | payrollProcessing
  | salaryRevision | compensationTemplateChange | promotion | transfer
deriving DecidableEq, Repr

inductive ApprovalStageMode
  | all | any
deriving DecidableEq, Repr

inductive ApprovalApproverType
  | reportingManager | nthLevelManager | departmentHead | locationAdmin
  | hrBusinessPartner | payrollAdmin | financeApprover | role | specificEmployee
  | primaryOrgAdmin
deriving DecidableEq, Repr

/-- The stored value of an approver type, which the role lookup uses when a
role-based approver names no role. -/
def ApprovalApproverType.value : ApprovalApproverType → String
  | reportingManager => "REPORTING_MANAGER"
  | nthLevelManager => "NTH_LEVEL_MANAGER"
  | departmentHead => "DEPARTMENT_HEAD"
  | locationAdmin => "LOCATION_ADMIN"
  | hrBusinessPartner => "HR_BUSINESS_PARTNER"
  | payrollAdmin => "PAYROLL_ADMIN"
  | financeApprover => "FINANCE_APPROVER"
  | role => "ROLE"
  | specificEmployee => "SPECIFIC_EMPLOYEE"
  | primaryOrgAdmin => "PRIMARY_ORG_ADMIN"

inductive ApprovalFallbackType
  | none | reportingManager | departmentHead | role | specificEmployee
  | primaryOrgAdmin
deriving DecidableEq, Repr

inductive ApprovalRunStatus
  | pending | approved | rejected | cancelled
deriving DecidableEq, Repr

inductive ApprovalActionStatus
  | pending | approved | rejected | skipped | cancelled
deriving DecidableEq, Repr

inductive ApprovalActionAssignmentSource
  | direct | delegated | escalated
deriving DecidableEq, Repr

structure ApprovalStageEscalationPolicy where
  reminderAfterHours : Option ℕ
  escalateAfterHours : Option ℕ
  escalationTargetType : ApprovalFallbackType
  escalationEmployee : Option EmployeeId
  escalationRoleCode : String
  isActive : Bool
deriving DecidableEq, Repr

structure ApprovalStageApprover where
  id : ℕ
  approverType : ApprovalApproverType
  approverEmployee : Option EmployeeId
  managerLevel : ℕ
  roleCode : String
deriving DecidableEq, Repr

/-- A stage, with its approvers in creation order and its escalation policy. -/
structure ApprovalStage where
  id : StageId
  workflow : WorkflowId
  name : String
  sequence : ℕ
  mode : ApprovalStageMode
  fallbackType : ApprovalFallbackType
  fallbackEmployee : Option EmployeeId
  fallbackRoleCode : String
  approvers : List ApprovalStageApprover
  slaPolicy : Option ApprovalStageEscalationPolicy
deriving DecidableEq, Repr

/-- **The stage table**, with its primary key and its constraint
`unique_stage_sequence_per_workflow`. -/
structure StageTable where
  rows : List ApprovalStage
  uniqueId : Table.Unique ApprovalStage.id rows
  uniqueSequence : Table.Unique (fun s => (s.workflow, s.sequence)) rows

/-- The models an approval run can be about. -/
inductive ContentType
  | leaveRequest | leaveEncashmentRequest | onDutyRequest
  | attendanceRegularizationRequest | expenseClaim | payrollRun
  | compensationTemplate | compensationAssignment | employeePromotionEvent
  | employeeTransferEvent
deriving DecidableEq, Repr

/-- The subject of an approval run. -/
structure ContentObject where
  contentType : ContentType
  objectId : ℕ
deriving DecidableEq, Repr

structure ApprovalRun where
  id : RunId
  organisation : OrganisationId
  workflow : WorkflowId
  requestKind : ApprovalRequestKind
  requestedBy : Option EmployeeId
  status : ApprovalRunStatus
  currentStageSequence : ℕ
  contentObject : ContentObject
deriving DecidableEq, Repr

structure ApprovalAction where
  id : ActionId
  approvalRun : RunId
  stage : StageId
  approverUser : UserId
  approverEmployee : Option EmployeeId
  assignmentSource : ApprovalActionAssignmentSource
  originalApproverUser : Option UserId
  originalApproverEmployee : Option EmployeeId
  status : ApprovalActionStatus
  comment : String
  actedAt : Option Time
  createdAt : Time
  escalatedAt : Option Time
  escalatedFromAction : Option ActionId
deriving DecidableEq, Repr

structure ApprovalDelegation where
  organisation : OrganisationId
  delegatorEmployee : EmployeeId
  delegateEmployee : EmployeeId
  requestKinds : List ApprovalRequestKind
  startDate : Date
  endDate : Option Date
  isActive : Bool
  createdAt : Time
deriving DecidableEq, Repr

/-- **The approval tables.** New rows take the next unused identifier. -/
structure ApprovalDb where
  stages : StageTable
  runs : List ApprovalRun
  actions : List ApprovalAction
  nextId : ℕ

namespace ApprovalDb

/-- `approval_run.workflow.stages`. -/
def workflowStages (db : ApprovalDb) (w : WorkflowId) : List ApprovalStage :=
  db.stages.rows.filter (fun s => s.workflow = w)

def getStage (db : ApprovalDb) (s : StageId) : Option ApprovalStage :=
  Table.find ApprovalStage.id s db.stages.rows

def getRun (db : ApprovalDb) (r : RunId) : Option ApprovalRun :=
  Table.find ApprovalRun.id r db.runs

def getAction (db : ApprovalDb) (a : ActionId) : Option ApprovalAction :=
  Table.find ApprovalAction.id a db.actions

end ApprovalDb

namespace StageTable

/-- Two stages of a workflow with one sequence number are the same stage. -/
theorem eq_of_sequence (t : StageTable) {s u : ApprovalStage} (hs : s ∈ t.rows)
    (hu : u ∈ t.rows) (hw : s.workflow = u.workflow) (hseq : s.sequence = u.sequence) :
    s = u :=
  t.uniqueSequence.eq_of_key hs hu (by simp [hw, hseq])

theorem eq_of_id (t : StageTable) {s u : ApprovalStage} (hs : s ∈ t.rows)
    (hu : u ∈ t.rows) (h : s.id = u.id) : s = u :=
  t.uniqueId.eq_of_key hs hu h

end StageTable

end Approvals
