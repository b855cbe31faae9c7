import Clarisal.Approvals.Outcome
import Clarisal.Approvals.WorkflowEdit

/-!
# The default workflow of promotions and transfers

A promotion or transfer that finds no workflow gets one made for it: a single
stage, decided by the reporting manager. The rows are new, so no run and no
action has anything to do with them (`Inv.insertDefaultWorkflow`).

An approval of the last stage that is accepted hands its decision to the
subject (`approveAction_of_decidedSubject`).
-/

namespace Approvals

open Transaction

/-- How the workflow of a request is found, and the ids a new one would take. -/
structure WorkflowChoice where
  /-- what `resolve_workflow` finds; there may be no default -/
  resolved : Option WorkflowId
  hasDefault : Bool
  newWorkflow : WorkflowId
  newStage : StageId
  newApprover : ℕ
deriving DecidableEq, Repr

/-- The stage of the default workflow. -/
def defaultStage (choice : WorkflowChoice) (manager : Option EmployeeId) : ApprovalStage where
  id := choice.newStage
  workflow := choice.newWorkflow
  name := "Step 1"
  sequence := 1
  mode := .any
  fallbackType := .primaryOrgAdmin
  fallbackEmployee := none
  fallbackRoleCode := ""
  approvers := [
    { id := choice.newApprover, approverType := .reportingManager, approverEmployee := manager,
      managerLevel := 1, roleCode := "" }]
  slaPolicy := none

/-- A workflow that is new to the tables. -/
def ApprovalDb.insertDefaultWorkflow (db : ApprovalDb) (choice : WorkflowChoice)
    (manager : Option EmployeeId) : Except String ApprovalDb :=
  if db.stages.rows.any (fun s => s.workflow = choice.newWorkflow)
      ∨ db.runs.any (fun r => r.workflow = choice.newWorkflow) then
    .error "approval_workflows_pkey"
  else do
    let stages ← StageTable.ofRows (db.stages.rows ++ [defaultStage choice manager])
    return { db with stages := stages }

/-- `ensure_default_promotion_transfer_workflow`, and the workflow that is
resolved afterwards. -/
def ensureDefaultPromotionTransferWorkflow (choice : WorkflowChoice)
    (manager : Option EmployeeId) (db : ApprovalDb) :
    Except String (Option WorkflowId × ApprovalDb) :=
  if choice.hasDefault then .ok (choice.resolved, db)
  else do
    let db ← db.insertDefaultWorkflow choice manager
    -- an assigned workflow or a rule still comes before the default
    return (some (choice.resolved.getD choice.newWorkflow), db)

section

variable {db db' : ApprovalDb} {choice : WorkflowChoice} {manager : Option EmployeeId}

/-- **New stages concern no run.** -/
theorem ApprovalDb.Inv.insertDefaultWorkflow (h : db.Inv)
    (hok : db.insertDefaultWorkflow choice manager = .ok db') :
    db'.Inv ∧ db'.runs = db.runs ∧ db'.nextId = db.nextId := by
  unfold ApprovalDb.insertDefaultWorkflow at hok
  split at hok
  · cases hok
  · next hnew =>
    obtain ⟨stages, hstages, hok⟩ := bind_eq_ok_iff.mp hok
    obtain rfl := pure_eq_ok_iff.mp hok
    obtain ⟨-, hrun⟩ := not_or.mp hnew
    have hrows := ofRows_eq_ok hstages
    have hunique : Table.Unique ApprovalStage.id
        (db.stages.rows ++ [defaultStage choice manager]) := hrows ▸ stages.uniqueId
    -- a stage is an old one, or the new one, which no action is of
    have hold : ∀ a ∈ db.actions, ∀ s ∈ stages.rows, s.id = a.stage → s ∈ db.stages.rows := by
      intro a ha s hs hsa
      obtain ⟨_, _, _, s₀, hs₀, hid, _⟩ := h.placed a ha
      have hmem : s₀ ∈ db.stages.rows ++ [defaultStage choice manager] :=
        List.mem_append_left _ hs₀
      exact hunique.eq_of_key hmem (hrows ▸ hs) (hid.trans hsa.symm) ▸ hs₀
    have hworkflow : ∀ r ∈ db.runs, ∀ s ∈ stages.rows, s.workflow = r.workflow →
        s ∈ db.stages.rows := by
      intro r hr s hs hw
      rcases List.mem_append.mp (hrows ▸ hs) with hs | hs
      · exact hs
      · rw [List.mem_singleton.mp hs] at hw
        exact absurd (List.any_eq_true.mpr ⟨r, hr, decide_eq_true hw.symm⟩) hrun
    refine ⟨{ h with placed := ?_, live := ?_, passed := ?_, votes := ?_ }, rfl, rfl⟩
    · intro a ha
      obtain ⟨r, hr, hid, s, hs, hsa⟩ := h.placed a ha
      exact ⟨r, hr, hid, s, hrows ▸ List.mem_append_left _ hs, hsa⟩
    · intro a ha hpending r hr hid
      obtain ⟨hrp, hstage⟩ := h.live a ha hpending r hr hid
      exact ⟨hrp, fun s hs hsa => hstage s (hold a ha s hs hsa) hsa⟩
    · intro r hr s hs hw hp
      exact (h.passed r hr s (hworkflow r hr s hs hw) hw hp).congr rfl
    · intro r hr hpending s hs hmode a ha hra hsa
      exact h.votes r hr hpending s (hold a ha s hs hsa.symm) hmode a ha hra hsa

theorem ApprovalDb.Inv.ensureDefault (h : db.Inv) {workflow : Option WorkflowId}
    (hok : ensureDefaultPromotionTransferWorkflow choice manager db = .ok (workflow, db')) :
    db'.Inv ∧ db'.runs = db.runs ∧ db'.nextId = db.nextId := by
  unfold ensureDefaultPromotionTransferWorkflow at hok
  split at hok
  · obtain ⟨-, rfl⟩ := Prod.mk.inj (Except.ok.inj hok)
    exact ⟨h, rfl, rfl⟩
  · obtain ⟨db₁, hinsert, hok⟩ := bind_eq_ok_iff.mp hok
    obtain ⟨-, rfl⟩ := Prod.mk.inj (pure_eq_ok_iff.mp hok)
    exact h.insertDefaultWorkflow hinsert

end

section Engine

variable {S : Type} {handler : SubjectHandler S} {user : EmployeeId → UserId}
  {dir : Directory} {st : EngineState S} {id : ActionId} {actor : UserId} {comment : String}
  {subject : ContentObject} {subjects : S}

/-- **An approval that decides its subject** is accepted when the subject takes
the decision. -/
theorem approveAction_of_decidedSubject
    (hdecided : decidedSubject dir id actor comment st.db = some subject)
    (htakes : handler.applySubjectStatus subject .approved "" st.subjects = .ok subjects) :
    ∃ st', approveAction handler user dir id actor comment st = .ok st'
      ∧ st'.subjects = subjects := by
  unfold decidedSubject at hdecided
  split at hdecided
  · cases hdecided
  · next action run hread =>
    split at hdecided
    · next stage hcheck hstage =>
      dsimp only at hdecided
      split_ifs at hdecided with hlast
      obtain rfl := Option.some.inj hdecided
      obtain ⟨hcomplete, hnone⟩ := hlast
      let db := (recordApproval dir.now action stage comment st.db).setRunStatus run.id .approved
      refine ⟨{ db := db, subjects := subjects }, ?_, rfl⟩
      refine bind_eq_ok_iff.mpr ⟨(action, run), hread, ?_⟩
      refine bind_eq_ok_iff.mpr ⟨(), hcheck, ?_⟩
      unfold approveActionWrites
      rw [hstage]
      dsimp only
      rw [if_pos hcomplete]
      unfold advanceOrCompleteRun
      dsimp only
      rw [Option.isNone_iff_eq_none.mp hnone]
      exact bind_eq_ok_iff.mpr ⟨subjects, htakes, rfl⟩
    · cases hdecided

end Engine

end Approvals
