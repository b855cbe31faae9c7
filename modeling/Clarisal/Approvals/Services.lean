import Clarisal.Approvals.Resolution
import Clarisal.Lib.Run
import Clarisal.Lib.Transaction
import Mathlib.Data.List.MinMax

/-!
# The approval engine

Creating, approving, rejecting, escalating and cancelling approval runs. A
function returns the state after its transaction, or the error that rolled it
back. What the engine does to the subject of a run (a pay run, a leave
request) is the `SubjectHandler` of the subject's own tables.

`approveAction`, `rejectAction` and `cancelApprovalRun` check the rows they
were handed and then write. The writes are functions of their own
(`approveActionWrites` and so on) taking the row as it was read, because two
requests can interleave between the read and the write.
-/

namespace Approvals

/-- The status the engine writes to a subject. -/
inductive SubjectStatus
  | approved | rejected | cancelled | withdrawn
deriving DecidableEq, Repr

/-- **How a subject takes its status**: `_apply_subject_status` with the
model's own `handle_approval_status_change`, given the rejection reason. -/
structure SubjectHandler (S : Type) where
  applySubjectStatus : ContentObject → SubjectStatus → String → S → Except String S

/-- The approval tables and the subjects' own. -/
structure EngineState (S : Type) where
  db : ApprovalDb
  subjects : S

namespace ApprovalDb

def updateActions (db : ApprovalDb) (p : ApprovalAction → Bool)
    (f : ApprovalAction → ApprovalAction) : ApprovalDb :=
  { db with actions := Table.update p f db.actions }

def updateRun (db : ApprovalDb) (r : RunId) (f : ApprovalRun → ApprovalRun) :
    ApprovalDb :=
  { db with runs := Table.update (fun run => run.id = r) f db.runs }

/-- Save the status of a run. -/
def setRunStatus (db : ApprovalDb) (r : RunId) (status : ApprovalRunStatus) :
    ApprovalDb :=
  db.updateRun r (fun run => { run with status := status })

/-- Save the current stage of a run. -/
def setCurrentStage (db : ApprovalDb) (r : RunId) (sequence : ℕ) : ApprovalDb :=
  db.updateRun r (fun run => { run with currentStageSequence := sequence })

/-- The lowest stage of a workflow. -/
def firstStage (db : ApprovalDb) (w : WorkflowId) : Option ApprovalStage :=
  (db.workflowStages w).argmin ApprovalStage.sequence

/-- The lowest stage of a workflow above a sequence number. -/
def nextStage (db : ApprovalDb) (w : WorkflowId) (current : ℕ) : Option ApprovalStage :=
  ((db.workflowStages w).filter (fun s => current < s.sequence)).argmin
    ApprovalStage.sequence

/-- Append a pending action for an assignment. -/
def insertAction (db : ApprovalDb) (now : Time) (r : RunId) (s : StageId)
    (assignment : ApproverAssignment) (escalatedFrom : Option ActionId) : ApprovalDb :=
  { db with
    actions := db.actions ++ [
      { id := db.nextId, approvalRun := r, stage := s,
        approverUser := assignment.approverUser,
        approverEmployee := assignment.approverEmployee,
        assignmentSource := assignment.assignmentSource,
        originalApproverUser := assignment.originalApproverUser,
        originalApproverEmployee := assignment.originalApproverEmployee,
        status := .pending, comment := "", actedAt := none, createdAt := now,
        escalatedAt := none, escalatedFromAction := escalatedFrom }],
    nextId := db.nextId + 1 }

/-- Insert an action, unless the user has one in this stage of the run. -/
def createAction (db : ApprovalDb) (now : Time) (r : RunId) (s : StageId)
    (assignment : ApproverAssignment) (escalatedFrom : Option ActionId) :
    Except String ApprovalDb :=
  if db.actions.any (fun a =>
      a.approvalRun = r ∧ a.stage = s ∧ a.approverUser = assignment.approverUser) then
    -- the uniqueness constraint of the table, which ends the transaction
    .error "unique_approval_action_per_user_stage"
  else .ok (db.insertAction now r s assignment escalatedFrom)

/-- Append a run. -/
def insertRun (db : ApprovalDb) (run : ApprovalRun) : ApprovalDb :=
  { db with runs := db.runs ++ [run], nextId := db.nextId + 1 }

end ApprovalDb

/-- An action with its decision. -/
def ApprovalAction.decide (status : ApprovalActionStatus) (comment : String) (now : Time)
    (a : ApprovalAction) : ApprovalAction :=
  { a with status := status, comment := comment, actedAt := some now }

/-- An action closed by what happened to another one. -/
def ApprovalAction.close (status : ApprovalActionStatus) (now : Time)
    (a : ApprovalAction) : ApprovalAction :=
  { a with status := status, actedAt := some now }

/-- An action cancelled by its escalation. -/
def ApprovalAction.escalate (now : Time) (a : ApprovalAction) : ApprovalAction :=
  { a with status := .cancelled, actedAt := some now, escalatedAt := some now }

section Engine

variable {S : Type} (handler : SubjectHandler S) (user : EmployeeId → UserId)

/-- One action for each approver the stage resolves to. -/
def createStageActions (dir : Directory) (run : ApprovalRun) (stage : ApprovalStage)
    (db : ApprovalDb) : Except String ApprovalDb := do
  let approvers ← resolveStageApprovers user dir stage run.requestedBy run.organisation
    run.requestKind
  approvers.foldlM (fun db a => db.createAction dir.now run.id stage.id a none) db

/-- **Create a run** at the first stage of its workflow. -/
def createApprovalRun (dir : Directory) (workflow : WorkflowId)
    (requestKind : ApprovalRequestKind) (organisation : OrganisationId)
    (requester : Option EmployeeId) (subject : ContentObject) (db : ApprovalDb) :
    Except String (RunId × ApprovalDb) :=
  match db.firstStage workflow with
  | none => .error "The selected approval workflow does not contain any stages."
  | some firstStage => do
    let run : ApprovalRun :=
      { id := db.nextId, organisation := organisation, workflow := workflow,
        requestKind := requestKind, requestedBy := requester, status := .pending,
        currentStageSequence := firstStage.sequence, contentObject := subject }
    let db ← createStageActions user dir run firstStage (db.insertRun run)
    return (run.id, db)

/-- **The end of a stage**: the run moves to the next stage, or is approved
when there is none. -/
def advanceOrCompleteRun (dir : Directory) (run : ApprovalRun) (st : EngineState S) :
    Except String (EngineState S) :=
  match st.db.nextStage run.workflow run.currentStageSequence with
  | none => do
    let subjects ← handler.applySubjectStatus run.contentObject .approved "" st.subjects
    return { db := st.db.setRunStatus run.id .approved, subjects := subjects }
  | some next => do
    let db ← createStageActions user dir
      { run with currentStageSequence := next.sequence } next
      (st.db.setCurrentStage run.id next.sequence)
    return { st with db := db }

/-- The checks of approving and rejecting, on the action and run as read. -/
def checkActionable (dir : Directory) (action : ApprovalAction) (run : ApprovalRun)
    (actor : UserId) : Except String Unit :=
  if action.approverUser ≠ actor then
    .error "You are not allowed to act on this approval."
  else if action.status ≠ .pending then
    .error "This approval action is no longer pending."
  else
    match dir.approvalActionsBlocked run.organisation with
    | some reason => .error reason
    | none => .ok ()

/-- The pending actions of the action's stage in its run. -/
def isPendingSibling (action a : ApprovalAction) : Bool :=
  a.approvalRun = action.approvalRun ∧ a.stage = action.stage ∧ a.status = .pending

/-- The action as approved, with the siblings it makes superfluous. -/
def recordApproval (now : Time) (action : ApprovalAction) (stage : ApprovalStage)
    (comment : String) (db : ApprovalDb) : ApprovalDb :=
  let db := db.updateActions (fun a => a.id = action.id)
    (ApprovalAction.decide .approved comment now)
  match stage.mode with
  | .any => db.updateActions (fun a => isPendingSibling action a && a.id != action.id)
      (ApprovalAction.close .skipped now)
  | .all => db

/-- Under mode ALL a stage waits for its pending actions. -/
def stageComplete (action : ApprovalAction) (stage : ApprovalStage) (db : ApprovalDb) :
    Bool :=
  match stage.mode with
  | .any => true
  | .all => !db.actions.any (isPendingSibling action)

/-- **The writes of an approval**, on the action and run as read. -/
def approveActionWrites (dir : Directory) (action : ApprovalAction) (run : ApprovalRun)
    (comment : String) (st : EngineState S) : Except String (EngineState S) :=
  match st.db.getStage action.stage with
  | none => .error "ApprovalStage matching query does not exist."
  | some stage =>
    let db := recordApproval dir.now action stage comment st.db
    if stageComplete action stage db then
      advanceOrCompleteRun handler user dir run { st with db := db }
    else .ok { st with db := db }

/-- **The writes of a rejection**, on the action and run as read. -/
def rejectActionWrites (dir : Directory) (action : ApprovalAction) (run : ApprovalRun)
    (comment : String) (st : EngineState S) : Except String (EngineState S) := do
  let db := (st.db.updateActions (fun a => a.id = action.id)
    (ApprovalAction.decide .rejected comment dir.now)).setRunStatus run.id .rejected
  let db := db.updateActions
    (fun a => a.approvalRun = run.id && a.status = .pending && a.id != action.id)
    (ApprovalAction.close .cancelled dir.now)
  let subjects ← handler.applySubjectStatus run.contentObject .rejected comment st.subjects
  return { db := db, subjects := subjects }

/-- **The writes of a cancellation**, on the run as read. -/
def cancelApprovalRunWrites (now : Time) (run : ApprovalRun)
    (subjectStatus : Option SubjectStatus) (st : EngineState S) :
    Except String (EngineState S) := do
  let db := (st.db.setRunStatus run.id .cancelled).updateActions
    (fun a => a.approvalRun = run.id && a.status = .pending)
    (ApprovalAction.close .cancelled now)
  match subjectStatus with
  | none => return { st with db := db }
  | some status =>
    let subjects ← handler.applySubjectStatus run.contentObject status "" st.subjects
    return { db := db, subjects := subjects }

/-- The action and its run, as one request reads them. -/
def readAction (db : ApprovalDb) (id : ActionId) :
    Except String (ApprovalAction × ApprovalRun) :=
  match db.getAction id with
  | none => .error "ApprovalAction matching query does not exist."
  | some action =>
    match db.getRun action.approvalRun with
    | none => .error "ApprovalRun matching query does not exist."
    | some run => .ok (action, run)

def approveAction (dir : Directory) (id : ActionId) (actor : UserId) (comment : String)
    (st : EngineState S) : Except String (EngineState S) := do
  let (action, run) ← readAction st.db id
  checkActionable dir action run actor
  approveActionWrites handler user dir action run comment st

def rejectAction (dir : Directory) (id : ActionId) (actor : UserId) (comment : String)
    (st : EngineState S) : Except String (EngineState S) := do
  let (action, run) ← readAction st.db id
  checkActionable dir action run actor
  rejectActionWrites handler dir action run comment st

def cancelApprovalRun (now : Time) (id : RunId) (subjectStatus : Option SubjectStatus)
    (st : EngineState S) : Except String (EngineState S) :=
  match st.db.getRun id with
  | none => .error "ApprovalRun matching query does not exist."
  | some run =>
    -- cancelling a decided run is no error: it keeps its decision
    if run.status ≠ .pending then .ok st
    else cancelApprovalRunWrites handler now run subjectStatus st

/-! ## Escalation -/

/-- The stage's escalation policy, when it is active. -/
def stageSlaPolicy (stage : ApprovalStage) : Option ApprovalStageEscalationPolicy :=
  stage.slaPolicy.filter ApprovalStageEscalationPolicy.isActive

/-- Who takes over an action of a stage. -/
def resolveEscalationTarget (dir : Directory) (run : ApprovalRun) (stage : ApprovalStage) :
    Option (UserId × Option EmployeeId) := do
  let policy ← stageSlaPolicy stage
  match policy.escalationTargetType with
  | .none => none
  | .reportingManager => (dir.managerAtLevel run.requestedBy 1).map (asApprover user)
  | .departmentHead => (dir.departmentHeadOf run.requestedBy).map (asApprover user)
  | .role =>
    (dir.employeesForRole run.organisation policy.escalationRoleCode .organisation).head?.map
      (asApprover user)
  | .specificEmployee => policy.escalationEmployee.map (asApprover user)
  | .primaryOrgAdmin => (dir.primaryAdminUser run.organisation).map (fun u => (u, none))

/-- An action whose escalation is due. -/
def escalationDue (now : Time) (stage : ApprovalStage) (action : ApprovalAction) : Bool :=
  match stageSlaPolicy stage with
  | none => false
  | some policy =>
    match policy.escalateAfterHours with
    | none => false
    | some hours =>
      hours ≠ 0 ∧ action.escalatedAt = none ∧ action.createdAt + hours * 3600 ≤ now

/-- The stand-in's assignment for an escalated action. -/
def escalatedAssignment (action : ApprovalAction) (target : UserId × Option EmployeeId) :
    ApproverAssignment :=
  { approverUser := target.1, approverEmployee := target.2, assignmentSource := .escalated,
    originalApproverUser := action.originalApproverUser.or (some action.approverUser),
    originalApproverEmployee := action.originalApproverEmployee.or action.approverEmployee }

/-- Give the target of an escalation an action of the stage, unless one is
pending already. -/
def ensureTargetAction (now : Time) (locked : ApprovalAction)
    (target : UserId × Option EmployeeId) (db : ApprovalDb) : Except String ApprovalDb :=
  if db.actions.any (fun a => isPendingSibling locked a && a.approverUser = target.1) then
    .ok db
  else
    db.createAction now locked.approvalRun locked.stage (escalatedAssignment locked target)
      (some locked.id)

/-- **The locked part of an escalation**: the row is read again, the target
takes over, and the row is cancelled. -/
def escalateLocked (now : Time) (id : ActionId) (target : UserId × Option EmployeeId)
    (db : ApprovalDb) : Except String ApprovalDb :=
  match db.getAction id with
  | none => .error "ApprovalAction matching query does not exist."
  | some locked =>
    -- decided or escalated since the batch was read
    if locked.status ≠ .pending ∨ locked.escalatedAt ≠ none then .ok db
    else do
      let db ← ensureTargetAction now locked target db
      return db.updateActions (fun a => a.id = locked.id) (ApprovalAction.escalate now)

/-- The target of an action's escalation, when it is due and the target is
not the approver. -/
def escalationTarget (dir : Directory) (db : ApprovalDb) (action : ApprovalAction) :
    Option (UserId × Option EmployeeId) := do
  let stage ← db.getStage action.stage
  let run ← db.getRun action.approvalRun
  if escalationDue dir.now stage action then
    (resolveEscalationTarget user dir run stage).filter
      (fun target => target.1 ≠ action.approverUser)
  else none

/-- Escalate one action of the batch, if it is due. -/
def escalateAction (dir : Directory) (db : ApprovalDb) (action : ApprovalAction) :
    Except String ApprovalDb :=
  match escalationTarget user dir db action with
  | none => .ok db
  | some target => escalateLocked dir.now action.id target db

/-- The batch, in order: an error ends it and keeps what was done. -/
def escalateAll (dir : Directory) : ApprovalDb → List ApprovalAction → ApprovalDb
  | db, [] => db
  | db, action :: rest =>
    match escalateAction user dir db action with
    | .error _ => db
    | .ok db => escalateAll dir db rest

/-- **Escalate everything overdue**: the pending actions of pending runs, as
they stand when the batch starts. -/
def processPendingActionEscalations (dir : Directory) (db : ApprovalDb) : ApprovalDb :=
  escalateAll user dir db (db.actions.filter (fun a =>
    a.status = .pending ∧ db.runs.any (fun r => r.id = a.approvalRun ∧ r.status = .pending)))

/-! ## The engine as a system -/

/-- **The requests the engine serves**, each with the organisation it finds. -/
inductive Op
  | createApprovalRun (dir : Directory) (workflow : WorkflowId)
      (requestKind : ApprovalRequestKind) (organisation : OrganisationId)
      (requester : Option EmployeeId) (subject : ContentObject)
  | approveAction (dir : Directory) (action : ActionId) (actor : UserId) (comment : String)
  | rejectAction (dir : Directory) (action : ActionId) (actor : UserId) (comment : String)
  | processPendingActionEscalations (dir : Directory)
  | cancelApprovalRun (now : Time) (run : RunId) (subjectStatus : Option SubjectStatus)

/-- The outcome of a request. -/
def perform (st : EngineState S) : Op → Except String (EngineState S)
  | .createApprovalRun dir workflow kind organisation requester subject => do
    let (_, db) ← createApprovalRun user dir workflow kind organisation requester subject st.db
    return { st with db := db }
  | .approveAction dir action actor comment =>
    approveAction handler user dir action actor comment st
  | .rejectAction dir action actor comment => rejectAction handler dir action actor comment st
  | .processPendingActionEscalations dir =>
    .ok { st with db := processPendingActionEscalations user dir st.db }
  | .cancelApprovalRun now run subjectStatus =>
    cancelApprovalRun handler now run subjectStatus st

/-- **One request**: a refused one changes nothing. -/
def step (st : EngineState S) (op : Op) : EngineState S :=
  Transaction.settle st (perform handler user st op)

/-- **The engine before its first run.** -/
def EngineState.initial (stages : StageTable) (subjects : S) : EngineState S :=
  { db := { stages := stages, runs := [], actions := [], nextId := 0 }, subjects := subjects }

end Engine

end Approvals
