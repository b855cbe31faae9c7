import Clarisal.Approvals.Preservation

/-!
# Quorum and consistency of approval runs

Over every sequence of requests to an engine whose workflows are not edited: a
run is approved only through the quorum of each of its stages, and the actions
of a run always agree with its stage and status.

The last section is a small organisation in which the theorems of this module
and of the ones after it are exercised.
-/

namespace Approvals

section Engine

variable {S : Type} (handler : SubjectHandler S) (user : EmployeeId → UserId)

/-- The state a sequence of requests reaches from the empty tables. -/
def reached (stages : StageTable) (subjects : S) (ops : List Op) : EngineState S :=
  Run.exec (step handler user) (.initial stages subjects) ops

theorem inv_reached (stages : StageTable) (subjects : S) (ops : List Op) :
    (reached handler user stages subjects ops).db.Inv :=
  inv_exec (inv_initial stages subjects) ops

theorem reached_stages (stages : StageTable) (subjects : S) (ops : List Op) :
    (reached handler user stages subjects ops).db.stages = stages :=
  (evolves_exec (inv_initial stages subjects) ops).stages

/-- **An approved run passed every stage.** Each stage of its workflow holds
an approval, and a stage of mode ALL holds nothing but approvals and actions
replaced by escalation. -/
theorem quorum_of_approved (stages : StageTable) (subjects : S) (ops : List Op)
    (r : ApprovalRun) (hr : r ∈ (reached handler user stages subjects ops).db.runs)
    (happroved : r.status = .approved) (s : ApprovalStage) (hs : s ∈ stages.rows)
    (hw : s.workflow = r.workflow) :
    (reached handler user stages subjects ops).db.QuorumReached r.id s := by
  have hinv := inv_reached handler user stages subjects ops
  refine hinv.passed r hr s ?_ hw (Or.inr happroved)
  rwa [reached_stages]

/-- **Runs and their actions agree.** A decided run has no pending action, a
pending action belongs to the current stage of its run, and from one moment to
any later one the stage of a run does not go back and a decided status does
not change. -/
theorem approvalRuns_consistent (stages : StageTable) (subjects : S) (ops later : List Op) :
    (∀ r ∈ (reached handler user stages subjects ops).db.runs, r.status ≠ .pending →
        ∀ a ∈ (reached handler user stages subjects ops).db.actions,
          a.approvalRun = r.id → a.status ≠ .pending)
      ∧ (∀ a ∈ (reached handler user stages subjects ops).db.actions, a.status = .pending →
        ∃ r ∈ (reached handler user stages subjects ops).db.runs, r.id = a.approvalRun ∧
          ∃ s ∈ stages.rows, s.id = a.stage ∧ s.workflow = r.workflow
            ∧ s.sequence = r.currentStageSequence)
      ∧ ∀ r ∈ (reached handler user stages subjects ops).db.runs,
        ∃ r' ∈ (reached handler user stages subjects (ops ++ later)).db.runs,
          r'.id = r.id ∧ r.currentStageSequence ≤ r'.currentStageSequence
            ∧ (r.status ≠ .pending → r'.status = r.status) := by
  have hinv := inv_reached handler user stages subjects ops
  refine ⟨?_, ?_, ?_⟩
  · intro r hr hdecided a ha har hpending
    exact hdecided (hinv.live a ha hpending r hr har.symm).1
  · intro a ha hpending
    obtain ⟨r, hr, hrun, s, hs, hsid, hw, -⟩ := hinv.placed a ha
    have hseq := (hinv.live a ha hpending r hr hrun).2 s hs hsid
    rw [reached_stages] at hs
    exact ⟨r, hr, hrun, s, hs, hsid, hw, hseq⟩
  · intro r hr
    rw [reached, Run.exec_append]
    obtain ⟨r', hr', hadv⟩ := (evolves_exec hinv later).runs r hr
    exact ⟨r', hr', hadv.id_eq, hadv.sequence, hadv.final⟩

end Engine

/-! ## A small organisation

Employee `e` has the account `100 + e`. Employee 1 reports to employee 2, and
account 200 is the primary administrator. -/

namespace Sample

def user (e : EmployeeId) : UserId := 100 + e

/-- A subject that only accepts its status. -/
def handler : SubjectHandler Unit := ⟨fun _ _ _ s => .ok s⟩

def directory (now : Time) : Directory where
  organisation := fun _ => 1
  reportingTo := fun e => if e = 1 then some 2 else none
  department := fun _ => none
  departmentHead := fun _ => none
  officeLocation := fun _ => none
  primaryAdminUser := fun _ => some 200
  createdBy := fun _ => none
  employeesForRole := fun _ _ _ => []
  delegations := []
  approvalActionsBlocked := fun _ => none
  today := ⟨2026, 4, 1, Calendar.isDate_2026_04_01⟩
  now := now

/-- A configured approver who is one employee. -/
def employeeApprover (e : EmployeeId) : ApprovalStageApprover :=
  { id := e, approverType := .specificEmployee, approverEmployee := some e,
    managerLevel := 1, roleCode := "" }

/-- A stage of workflow 1 with the given approvers and no fallback. -/
def stage (id sequence : ℕ) (mode : ApprovalStageMode)
    (approvers : List ApprovalStageApprover) : ApprovalStage :=
  { id := id, workflow := 1, name := "Review", sequence := sequence, mode := mode,
    fallbackType := .none, fallbackEmployee := none, fallbackRoleCode := "",
    approvers := approvers, slaPolicy := none }

/-- Escalation to the primary administrator after a day. -/
def adminEscalation : ApprovalStageEscalationPolicy :=
  { reminderAfterHours := none, escalateAfterHours := some 24,
    escalationTargetType := .primaryOrgAdmin, escalationEmployee := none, escalationRoleCode := "",
    isActive := true }

/-- First employees 2 and 3 together, escalated after a day, then either of
employees 4 and 5. -/
def stages : StageTable where
  rows := [
    { stage 1 1 .all [employeeApprover 2, employeeApprover 3] with
      slaPolicy := some adminEscalation },
    stage 2 2 .any [employeeApprover 4, employeeApprover 5]]
  uniqueId := by decide
  uniqueSequence := by decide

/-- Employee 1 asks for leave. -/
def request : Op :=
  .createApprovalRun (directory 0) 1 .leave 1 (some 1) ⟨.leaveRequest, 7⟩

/-- The leave request, approved through both stages: account 103 lets its
action run into the escalation, and account 104 alone decides the second
stage. -/
def approvedRequest : List Op :=
  [request, .approveAction (directory 0) 1 102 "",
    .processPendingActionEscalations (directory 86400),
    .approveAction (directory 86400) 3 200 "", .approveAction (directory 86400) 4 104 ""]

end Sample

/-- The approved leave request has the quorum of both stages. -/
theorem quorum_of_approved_sample :
    ∃ r ∈ (reached Sample.handler Sample.user Sample.stages () Sample.approvedRequest).db.runs,
      r.status = .approved ∧ ∀ s ∈ Sample.stages.rows, s.workflow = r.workflow →
        (reached Sample.handler Sample.user Sample.stages ()
          Sample.approvedRequest).db.QuorumReached r.id s :=
  ⟨⟨0, 1, 1, .leave, some 1, .approved, 2, ⟨.leaveRequest, 7⟩⟩, by decide, rfl,
    fun s hs hw => quorum_of_approved Sample.handler Sample.user Sample.stages ()
      Sample.approvedRequest _ (by decide) rfl s hs hw⟩

end Approvals
