import Clarisal.Approvals.Quorum

/-!
# Editing a workflow under its runs

`upsertWorkflow` rewrites the stages of a workflow from a payload: stages it
names are updated, stages without an identifier are created, and the stages
of the workflow it does not name are deleted, their actions with them. Nothing
looks at the runs that stand at a deleted stage, so an edit can leave a pending
run without a pending action (`edit_strands_request`), which nobody can then
decide.

Every other request keeps pending runs actionable, and so does an edit that
leaves each pending run a pending action (`actionable_of_guarded`).
-/

namespace Approvals

open Transaction

/-! ## The edit -/

structure StageApproverPayload where
  id : Option ℕ
  approverType : ApprovalApproverType
  approverEmployee : Option EmployeeId
  managerLevel : ℕ
  roleCode : String
deriving DecidableEq, Repr

/-- A stage as the request describes it, employees looked up. -/
structure StagePayload where
  id : Option StageId
  name : String
  sequence : ℕ
  mode : ApprovalStageMode
  fallbackType : ApprovalFallbackType
  fallbackEmployee : Option EmployeeId
  fallbackRoleCode : String
  reminderAfterHours : Option ℕ
  escalateAfterHours : Option ℕ
  escalationTargetType : ApprovalFallbackType
  escalationEmployee : Option EmployeeId
  escalationRoleCode : String
  approvers : List StageApproverPayload
deriving DecidableEq, Repr

namespace StageTable

/-- The rows as a table, unless they break a constraint. -/
def ofRows (rows : List ApprovalStage) : Except String StageTable :=
  if h : Table.Unique ApprovalStage.id rows
      ∧ Table.Unique (fun s => (s.workflow, s.sequence)) rows then
    .ok ⟨rows, h.1, h.2⟩
  else .error "unique_stage_sequence_per_workflow"

/-- Save the approvers and the escalation policy of a stage. -/
def setDetails (t : StageTable) (id : StageId) (approvers : List ApprovalStageApprover)
    (slaPolicy : Option ApprovalStageEscalationPolicy) : StageTable :=
  ⟨Table.update (fun s => s.id = id)
      (fun s => { s with approvers := approvers, slaPolicy := slaPolicy }) t.rows,
    t.uniqueId.update (fun _ => rfl), t.uniqueSequence.update (fun _ => rfl)⟩

/-- The table without the rows a predicate selects. -/
def delete (t : StageTable) (p : ApprovalStage → Bool) : StageTable :=
  ⟨t.rows.filter (fun s => !p s), t.uniqueId.filter _, t.uniqueSequence.filter _⟩

end StageTable

def StageApproverPayload.apply (p : StageApproverPayload) (id : ℕ) : ApprovalStageApprover :=
  { id := id, approverType := p.approverType, approverEmployee := p.approverEmployee,
    managerLevel := p.managerLevel, roleCode := p.roleCode }

/-- The checks of an approver's payload. Role codes are trimmed before. -/
def StageApproverPayload.check (p : StageApproverPayload) : Except String Unit :=
  if p.approverType = .specificEmployee ∧ p.approverEmployee = none then
    .error "A specific employee approver must be selected."
  else if p.approverType = .role ∧ p.roleCode = "" then
    .error "A role code is required for role approvers."
  else .ok ()

/-- One approver of the payload: updated in place, or appended. -/
def upsertApprover : List ApprovalStageApprover × List ℕ × ℕ → StageApproverPayload →
    Except String (List ApprovalStageApprover × List ℕ × ℕ)
  | (approvers, keep, nextId), p => do
    p.check
    match p.id with
    | some id =>
      if approvers.any (fun a => a.id = id) then
        return (Table.update (fun a => a.id = id) (fun _ => p.apply id) approvers, id :: keep,
          nextId)
      else .error "ApprovalStageApprover matching query does not exist."
    | none => return (approvers ++ [p.apply nextId], nextId :: keep, nextId + 1)

/-- The approvers a payload leaves a stage with. -/
def upsertApprovers (approvers : List ApprovalStageApprover) (p : StagePayload) (nextId : ℕ) :
    Except String (List ApprovalStageApprover × ℕ) := do
  let (approvers, keep, nextId) ← p.approvers.foldlM upsertApprover (approvers, [], nextId)
  if keep = [] then .error s!"Stage \"{p.name}\" must contain at least one approver."
  else return (approvers.filter (fun a => a.id ∈ keep), nextId)

/-- The escalation policy a payload gives a stage. -/
def StagePayload.slaPolicy (p : StagePayload) :
    Except String (Option ApprovalStageEscalationPolicy) :=
  if p.reminderAfterHours.getD 0 ≠ 0 ∨ p.escalateAfterHours.getD 0 ≠ 0
      ∨ p.escalationTargetType ≠ .none then
    if p.escalationTargetType = .role ∧ p.escalationRoleCode = "" then
      .error "An escalation role is required for role escalation."
    else .ok (some
      { reminderAfterHours := p.reminderAfterHours,
        escalateAfterHours := p.escalateAfterHours,
        escalationTargetType := p.escalationTargetType,
        escalationEmployee := p.escalationEmployee,
        escalationRoleCode := p.escalationRoleCode, isActive := true })
  else .ok none

/-- The checks of a stage's fallback. -/
def StagePayload.checkFallback (p : StagePayload) : Except String Unit :=
  if p.fallbackType = .specificEmployee ∧ p.fallbackEmployee = none then
    .error "A fallback employee is required for specific-employee fallback."
  else if p.fallbackType = .role ∧ p.fallbackRoleCode = "" then
    .error "A fallback role is required for role fallback."
  else .ok ()

/-- The stage row of a payload. -/
def StagePayload.toStage (p : StagePayload) (id : StageId) (workflow : WorkflowId)
    (approvers : List ApprovalStageApprover)
    (slaPolicy : Option ApprovalStageEscalationPolicy) : ApprovalStage :=
  { id := id, workflow := workflow, name := p.name, sequence := p.sequence, mode := p.mode,
    fallbackType := p.fallbackType, fallbackEmployee := p.fallbackEmployee,
    fallbackRoleCode := p.fallbackRoleCode, approvers := approvers, slaPolicy := slaPolicy }

/-- Save the row of a stage: the one the payload names, or a new one. -/
def saveStage (workflow : WorkflowId) (p : StagePayload) (stages : StageTable) (nextId : ℕ) :
    Except String (ApprovalStage × StageTable × ℕ) :=
  match p.id with
  | some id =>
    match stages.rows.find? (fun s => s.id = id ∧ s.workflow = workflow) with
    | none => .error "ApprovalStage matching query does not exist."
    | some stage => do
      let saved := p.toStage id workflow stage.approvers stage.slaPolicy
      let stages ← StageTable.ofRows (Table.update (fun s => s.id = id) (fun _ => saved)
        stages.rows)
      return (saved, stages, nextId)
  | none => do
    let saved := p.toStage nextId workflow [] none
    let stages ← StageTable.ofRows (stages.rows ++ [saved])
    return (saved, stages, nextId + 1)

/-- One stage of the payload. The third component collects the stages to
keep. -/
def upsertStage (workflow : WorkflowId) : StageTable × ℕ × List StageId → StagePayload →
    Except String (StageTable × ℕ × List StageId)
  | (stages, nextId, keep), p => do
    p.checkFallback
    let (saved, stages, nextId) ← saveStage workflow p stages nextId
    let slaPolicy ← p.slaPolicy
    let (approvers, nextId) ← upsertApprovers saved.approvers p nextId
    return (stages.setDetails saved.id approvers slaPolicy, nextId, saved.id :: keep)

/-- A stage that an edit of the workflow deletes. -/
def isDropped (workflow : WorkflowId) (keep : List StageId) (s : ApprovalStage) : Bool :=
  s.workflow = workflow && s.id ∉ keep

/-- An action whose origin is forgotten when it is among the deleted ones. -/
def ApprovalAction.forgetOrigin (gone : List ActionId) (a : ApprovalAction) : ApprovalAction :=
  { a with escalatedFromAction := a.escalatedFromAction.filter (fun id => id ∉ gone) }

/-- The action belongs to a stage that the predicate selects. -/
def isOrphaned (p : ApprovalStage → Bool) (stages : StageTable) (a : ApprovalAction) : Bool :=
  stages.rows.any (fun s => p s && s.id = a.stage)

/-- **Deleting stages**, with the actions that belong to them. -/
def deleteStages (p : ApprovalStage → Bool) (db : ApprovalDb) : ApprovalDb :=
  { db with
    stages := db.stages.delete p
    actions := (db.actions.filter (fun a => !isOrphaned p db.stages a)).map
      (ApprovalAction.forgetOrigin
        ((db.actions.filter (isOrphaned p db.stages)).map ApprovalAction.id)) }

/-- **The edit of a workflow.** -/
def upsertWorkflow (workflow : WorkflowId) (payload : List StagePayload) (db : ApprovalDb) :
    Except String ApprovalDb :=
  if payload = [] then .error "At least one approval stage is required."
  else if ¬ Table.Unique StagePayload.sequence payload then
    .error "Each approval stage must have a unique sequence."
  else do
    let (stages, nextId, keep) ← payload.foldlM (upsertStage workflow)
      (db.stages, db.nextId, [])
    return deleteStages (isDropped workflow keep)
      { db with stages := stages, nextId := nextId }

/-- The requests of the engine, and edits of workflows between them. -/
inductive EditOp
  | request (op : Op)
  | upsertWorkflow (workflow : WorkflowId) (payload : List StagePayload)

section Engine

variable {S : Type} (handler : SubjectHandler S) (user : EmployeeId → UserId)

def editPerform (st : EngineState S) : EditOp → Except String (EngineState S)
  | .request op => perform handler user st op
  | .upsertWorkflow workflow payload => do
    let db ← upsertWorkflow workflow payload st.db
    return { st with db := db }

def editStep (st : EngineState S) (op : EditOp) : EngineState S :=
  settle st (editPerform handler user st op)

end Engine

/-! ## Pending runs stay actionable -/

namespace ApprovalDb

/-- **Every pending run has a pending action.** -/
def Actionable (db : ApprovalDb) : Prop :=
  ∀ r ∈ db.runs, r.status = .pending →
    ∃ a ∈ db.actions, a.approvalRun = r.id ∧ a.status = .pending

instance (db : ApprovalDb) : Decidable db.Actionable :=
  inferInstanceAs (Decidable (∀ r ∈ db.runs, _ → _))

/-- Every pending run but one has a pending action. -/
def ActionableExcept (db : ApprovalDb) (id : RunId) : Prop :=
  ∀ r ∈ db.runs, r.id ≠ id → r.status = .pending →
    ∃ a ∈ db.actions, a.approvalRun = r.id ∧ a.status = .pending

variable {db db' : ApprovalDb} {id : RunId}

theorem Actionable.except (h : db.Actionable) (id : RunId) : db.ActionableExcept id :=
  fun r hr _ hp => h r hr hp

/-- The actions of the other runs may only be added to. -/
theorem ActionableExcept.mono (h : db.ActionableExcept id) (hruns : db'.runs = db.runs)
    (hactions : ∀ a ∈ db.actions, a.approvalRun ≠ id → a ∈ db'.actions) :
    db'.ActionableExcept id := by
  intro r hr hne hp
  obtain ⟨a, ha, har, hap⟩ := h r (hruns ▸ hr) hne hp
  exact ⟨a, hactions a ha (har ▸ hne), har, hap⟩

/-- A decided run needs no action. -/
theorem ActionableExcept.setRunStatus (h : db.ActionableExcept id)
    {status : ApprovalRunStatus} (hs : status ≠ .pending) :
    (db.setRunStatus id status).Actionable := by
  intro r hr hp
  rcases Table.mem_update_iff.mp hr with ⟨r₀, -, -, rfl⟩ | ⟨hr, hne⟩
  · exact absurd hp hs
  · exact h r hr (by simpa using hne) hp

theorem ActionableExcept.setCurrentStage (h : db.ActionableExcept id) (n : ℕ) :
    (db.setCurrentStage id n).ActionableExcept id := by
  intro r hr hne hp
  rcases Table.mem_update_iff.mp hr with ⟨r₀, -, hid, rfl⟩ | ⟨hr, -⟩
  · exact absurd (by simpa using hid) hne
  · exact h r hr hne hp

/-- A new action makes its run actionable. -/
theorem ActionableExcept.insertAction (h : db.ActionableExcept id) (now : Time) (s : StageId)
    (a : ApproverAssignment) (e : Option ActionId) :
    (db.insertAction now id s a e).Actionable := by
  intro r hr hp
  by_cases hid : r.id = id
  · exact ⟨_, List.mem_append_right _ (List.mem_singleton_self _), hid.symm, rfl⟩
  · obtain ⟨b, hb, hbr, hbp⟩ := h r hr hid hp
    exact ⟨b, List.mem_append_left _ hb, hbr, hbp⟩

theorem Actionable.insertRun (h : db.Actionable) (run : ApprovalRun) :
    (db.insertRun run).ActionableExcept run.id := by
  intro r hr hne hp
  rcases List.mem_append.mp hr with hr | hr
  · exact h r hr hp
  · rw [List.mem_singleton.mp hr] at hne
    exact absurd rfl hne

/-- The tables are keyed and their pending runs actionable. -/
structure Viable (db : ApprovalDb) : Prop extends Keys db where
  actionable : db.Actionable

end ApprovalDb

open ApprovalDb

section Engine

variable {S : Type} {handler : SubjectHandler S} {user : EmployeeId → UserId}
  {dir : Directory} {st st' : EngineState S} {db db' : ApprovalDb}

/-- Opening a stage makes the run actionable. -/
theorem viable_createStageActions (run : ApprovalRun) {stage : ApprovalStage} (h : db.Keys)
    (hr : ∃ r ∈ db.runs, r.id = run.id) (hactionable : db.ActionableExcept run.id)
    (hok : createStageActions user dir run stage db = .ok db') : db'.Viable := by
  obtain ⟨r, hr, hrid⟩ := hr
  suffices db'.Viable ∧ r ∈ db'.runs from this.1
  refine createStageActions_induction (P := fun db₁ => db₁.Viable ∧ r ∈ db₁.runs) ?_ ?_ hok
  · intro a _
    exact ⟨⟨hrid ▸ h.insertAction hr _ _ _ _, hactionable.insertAction _ _ _ _⟩, hr⟩
  · rintro db₁ a _ ⟨h₁, hr₁⟩
    exact ⟨⟨hrid ▸ h₁.toKeys.insertAction hr₁ _ _ _ _,
      (h₁.actionable.except _).insertAction _ _ _ _⟩, hr₁⟩

theorem viable_createApprovalRun {workflow : WorkflowId} {requestKind : ApprovalRequestKind}
    {organisation : OrganisationId} {requester : Option EmployeeId}
    {subject : ContentObject} {id : RunId} (h : db.Viable)
    (hok : createApprovalRun user dir workflow requestKind organisation requester subject db
      = .ok (id, db')) : db'.Viable := by
  obtain ⟨run, stage, hnew, -, -, -, -, -, -, hcreate⟩ := createApprovalRun_eq_ok hok
  exact viable_createStageActions _ (h.toKeys.insertRun hnew.id)
    ⟨run, List.mem_append_right _ (List.mem_singleton_self _), rfl⟩ (h.actionable.insertRun run)
    hcreate

/-- Ending a stage decides the run or makes it actionable. -/
theorem viable_advanceOrCompleteRun {run : ApprovalRun} (h : st.db.Keys)
    (hr : run ∈ st.db.runs) (hactionable : st.db.ActionableExcept run.id)
    (hok : advanceOrCompleteRun handler user dir run st = .ok st') : st'.db.Viable := by
  rcases advanceOrCompleteRun_eq_ok hok with ⟨-, hdb, -⟩ | ⟨next, -, hcreate, -⟩
  · rw [hdb]
    exact ⟨h.setRunStatus _ _, hactionable.setRunStatus (by decide)⟩
  · exact viable_createStageActions { run with currentStageSequence := next.sequence }
      (h.setCurrentStage _ _)
      ⟨_, Table.mem_update.mpr ⟨run, hr, rfl⟩, by simp⟩
      (hactionable.setCurrentStage next.sequence) hcreate

theorem viable_approveActionWrites {action : ApprovalAction} {run : ApprovalRun}
    {comment : String} (h : st.db.Viable) (ha : action ∈ st.db.actions)
    (hr : run ∈ st.db.runs) (hrun : run.id = action.approvalRun)
    (hok : approveActionWrites handler user dir action run comment st = .ok st') :
    st'.db.Viable := by
  obtain ⟨stage, -, -, hcases⟩ := approveActionWrites_eq_ok hok
  set record := recordApproval dir.now action stage comment st.db with hrecord
  have hkeys : record.Keys := by
    have hfirst := h.toKeys.updateActions (fun a => a.id = action.id)
      (.decide .approved comment dir.now)
    rw [hrecord, recordApproval]
    cases stage.mode with
    | all => exact hfirst
    | any => exact hfirst.updateActions _ (.close _ _)
  -- the other runs' actions are left alone
  have hother : record.ActionableExcept run.id := by
    refine (h.actionable.except run.id).mono (by simp [hrecord]) (fun a hmem hne => ?_)
    have hid : a.id ≠ action.id := by
      intro hid
      rw [h.action_eq hmem ha hid] at hne
      exact hne hrun.symm
    have hfirst : a ∈ (st.db.updateActions (fun a => a.id = action.id)
        (ApprovalAction.decide .approved comment dir.now)).actions :=
      Table.mem_update.mpr ⟨a, hmem, by simp [hid]⟩
    rw [hrecord, recordApproval]
    cases stage.mode with
    | all => exact hfirst
    | any =>
      refine Table.mem_update.mpr ⟨a, hfirst, ?_⟩
      rw [hrun] at hne
      simp [isPendingSibling, hne]
  rcases hcases with ⟨hwaits, rfl⟩ | ⟨-, hadvance⟩
  · refine ⟨hkeys, fun r hr' hp => ?_⟩
    by_cases hid : r.id = run.id
    · -- the stage waits for a pending sibling
      unfold stageComplete at hwaits
      cases hmode : stage.mode with
      | any => rw [hmode] at hwaits; cases hwaits
      | all =>
        rw [hmode] at hwaits
        obtain ⟨b, hb, hsibling⟩ := List.any_eq_true.mp (by simpa using hwaits)
        simp only [isPendingSibling, decide_eq_true_eq] at hsibling
        exact ⟨b, hb, hsibling.1.trans (hrun.symm.trans hid.symm), hsibling.2.2⟩
    · exact hother r hr' hid hp
  · exact viable_advanceOrCompleteRun hkeys
      (by simpa [hrecord] using hr) hother hadvance

theorem viable_rejectActionWrites {action : ApprovalAction} {run : ApprovalRun}
    {comment : String} (h : st.db.Viable) (ha : action ∈ st.db.actions)
    (hrun : run.id = action.approvalRun)
    (hok : rejectActionWrites handler dir action run comment st = .ok st') :
    st'.db.Viable := by
  rw [(rejectActionWrites_eq_ok hok).1]
  refine ⟨(h.toKeys.setRunStatus _ _).mapActions (keepsPlace_rejectActions _ _ _ _), ?_⟩
  suffices hexcept : ApprovalDb.ActionableExcept { st.db with
      actions := st.db.actions.map (rejectActions dir.now action run comment) } run.id from
    hexcept.setRunStatus (by decide)
  refine (h.actionable.except run.id).mono rfl (fun a hmem hne => ?_)
  have hid : a.id ≠ action.id := by
    intro hid
    rw [h.action_eq hmem ha hid] at hne
    exact hne hrun.symm
  exact List.mem_map.mpr ⟨a, hmem, by simp [rejectActions, hid, hne]⟩

theorem viable_cancelApprovalRunWrites {now : Time} {run : ApprovalRun}
    {subjectStatus : Option SubjectStatus} (h : st.db.Viable)
    (hok : cancelApprovalRunWrites handler now run subjectStatus st = .ok st') :
    st'.db.Viable := by
  rw [(cancelApprovalRunWrites_eq_ok hok).1]
  refine ⟨(h.toKeys.setRunStatus _ _).mapActions ((KeepsPlace.close _ _).select _), ?_⟩
  suffices hexcept : ApprovalDb.ActionableExcept { st.db with
      actions := st.db.actions.map (cancelActions now run) } run.id from
    hexcept.setRunStatus (by decide)
  refine (h.actionable.except run.id).mono rfl (fun a hmem hne => ?_)
  exact List.mem_map.mpr ⟨a, hmem, by simp [cancelActions, hne]⟩

/-- **An escalation leaves its run actionable**: the target is another
account, so its action is not the one cancelled. -/
theorem viable_escalateLocked {now : Time} {action : ApprovalAction}
    {target : UserId × Option EmployeeId} (h : db.Viable)
    (hplace : ∀ a ∈ db.actions, a.id = action.id → a.approverUser = action.approverUser)
    (htarget : target.1 ≠ action.approverUser)
    (hok : escalateLocked now action.id target db = .ok db') : db'.Viable := by
  rcases escalateLocked_eq_ok hok with rfl | ⟨locked, hl, hlid, hpending, db₁, hdb₁, rfl⟩
  · exact h
  have huser := hplace locked hl hlid
  obtain ⟨r, hr, hrid⟩ := h.hasRun locked hl
  have hstandIn : db₁.Viable ∧ ∃ b ∈ db₁.actions, b.approvalRun = locked.approvalRun
      ∧ b.status = .pending ∧ b.id ≠ locked.id := by
    rcases hdb₁ with ⟨rfl, b, hb, hsibling, hbuser⟩ | rfl
    · simp only [isPendingSibling, decide_eq_true_eq] at hsibling
      refine ⟨h, b, hb, hsibling.1, hsibling.2.2, fun hid => htarget ?_⟩
      rw [← hbuser, h.action_eq hb hl hid, huser]
    · refine ⟨⟨hrid ▸ h.toKeys.insertAction hr _ _ _ _,
        (h.actionable.except _).insertAction _ _ _ _⟩, _,
        List.mem_append_right _ (List.mem_singleton_self _), rfl, rfl,
        (h.freshAction locked hl).ne'⟩
  obtain ⟨h₁, b, hb, hbrun, hbpending, hbid⟩ := hstandIn
  refine ⟨h₁.toKeys.updateActions _ (.escalate now), fun r hr hp => ?_⟩
  by_cases hrun : r.id = locked.approvalRun
  · exact ⟨b, Table.mem_update.mpr ⟨b, hb, by simp [hbid]⟩, hbrun.trans hrun.symm, hbpending⟩
  · obtain ⟨a, ha, har, hap⟩ := h₁.actionable r hr hp
    have hl₁ : locked ∈ db₁.actions := by
      rcases hdb₁ with ⟨rfl, -⟩ | rfl
      · exact hl
      · exact List.mem_append_left _ hl
    refine ⟨a, Table.mem_update.mpr ⟨a, ha, ?_⟩, har, hap⟩
    have : a.id ≠ locked.id := by
      intro hid
      rw [h₁.action_eq ha hl₁ hid] at har
      exact hrun har.symm
    simp [this]

/-- **A batch of escalations.** -/
theorem viable_processPendingActionEscalations (h : db.Viable) :
    (processPendingActionEscalations user dir db).Viable := by
  suffices (processPendingActionEscalations user dir db).Viable
      ∧ db.Evolves (processPendingActionEscalations user dir db) from this.1
  refine escalateAll_induction (P := fun db₁ => db₁.Viable ∧ db.Evolves db₁) ?_ ⟨h, .refl db⟩
  rintro db₁ ⟨h₁, hev⟩ action hbatch target htarget db₂ hok
  refine ⟨viable_escalateLocked h₁ (fun a ha hid => ?_) (escalationTarget_ne htarget) hok,
    hev.trans (evolves_escalateLocked hok)⟩
  obtain ⟨a', ha', hid', -, -, huser⟩ := hev.actions action (List.mem_filter.mp hbatch).1
  rw [h₁.action_eq ha ha' (hid.trans hid'.symm), huser]

/-- **Every request keeps pending runs actionable.** -/
theorem viable_perform {op : Op} (h : st.db.Viable)
    (hok : perform handler user st op = .ok st') : st'.db.Viable := by
  cases op with
  | createApprovalRun dir workflow kind organisation requester subject =>
    obtain ⟨⟨id, db⟩, hcreate, hret⟩ := bind_eq_ok_iff.mp hok
    obtain rfl := pure_eq_ok_iff.mp hret
    exact viable_createApprovalRun h hcreate
  | approveAction dir action actor comment =>
    obtain ⟨a, ha, r, hr, -, hrun, -, -, hwrites⟩ := approveAction_eq_ok hok
    exact viable_approveActionWrites h ha hr hrun hwrites
  | rejectAction dir action actor comment =>
    obtain ⟨a, ha, r, -, -, hrun, -, -, hwrites⟩ := rejectAction_eq_ok hok
    exact viable_rejectActionWrites h ha hrun hwrites
  | processPendingActionEscalations dir =>
    obtain rfl := Except.ok.inj hok
    exact viable_processPendingActionEscalations h
  | cancelApprovalRun now run subjectStatus =>
    rcases cancelApprovalRun_eq_ok hok with rfl | ⟨r, -, -, -, hwrites⟩
    · exact h
    · exact viable_cancelApprovalRunWrites h hwrites

end Engine

/-! ## What an edit leaves -/

theorem ofRows_eq_ok {rows : List ApprovalStage} {t : StageTable}
    (h : StageTable.ofRows rows = .ok t) : t.rows = rows := by
  unfold StageTable.ofRows at h
  split at h
  · cases h
    rfl
  · cases h

theorem upsertApprovers_nextId {approvers approvers' : List ApprovalStageApprover}
    {p : StagePayload} {n n' : ℕ} (h : upsertApprovers approvers p n = .ok (approvers', n')) :
    n ≤ n' := by
  obtain ⟨⟨rows, keep, m⟩, hfold, h⟩ := bind_eq_ok_iff.mp h
  have hle : n ≤ m := by
    refine foldlM_induction (P := fun acc => n ≤ acc.2.2) ?_ le_rfl hfold
    rintro ⟨rows, keep, m⟩ p ⟨rows', keep', m'⟩ hm hstep
    obtain ⟨_, -, hstep⟩ := bind_eq_ok_iff.mp hstep
    split at hstep
    · split at hstep
      · cases hstep
        exact hm
      · cases hstep
    · cases hstep
      exact hm.trans (Nat.le_succ _)
  dsimp only at h
  split at h
  · cases h
  · cases h
    exact hle

/-- A row of the edited table is the saved stage, or has an old row with its
identifier and workflow. -/
def FromRows (t t' : StageTable) (id : StageId) : Prop :=
  ∀ s' ∈ t'.rows, s'.id = id ∨ ∃ s ∈ t.rows, s.id = s'.id ∧ s.workflow = s'.workflow

theorem saveStage_eq_ok {workflow : WorkflowId} {p : StagePayload} {t t' : StageTable}
    {n n' : ℕ} {saved : ApprovalStage} (h : saveStage workflow p t n = .ok (saved, t', n')) :
    n ≤ n' ∧ (∀ id ∈ p.id, saved.id = id) ∧ FromRows t t' saved.id := by
  unfold saveStage at h
  split at h
  · next id hid =>
    split at h
    · cases h
    · obtain ⟨t₁, ht₁, h⟩ := bind_eq_ok_iff.mp h
      cases h
      refine ⟨le_rfl, fun i hi => (Option.some.inj (hid.symm.trans hi)), fun s' hs' => ?_⟩
      rw [ofRows_eq_ok ht₁] at hs'
      rcases Table.mem_update_iff.mp hs' with ⟨s, -, -, rfl⟩ | ⟨hs', -⟩
      · exact Or.inl rfl
      · exact Or.inr ⟨s', hs', rfl, rfl⟩
  · next hid =>
    obtain ⟨t₁, ht₁, h⟩ := bind_eq_ok_iff.mp h
    cases h
    refine ⟨Nat.le_succ _, fun i hi => ?_, fun s' hs' => ?_⟩
    · rw [hid] at hi
      cases hi
    rw [ofRows_eq_ok ht₁] at hs'
    rcases List.mem_append.mp hs' with hs' | hs'
    · exact Or.inr ⟨s', hs', rfl, rfl⟩
    · exact Or.inl (by rw [List.mem_singleton.mp hs'])

theorem upsertStage_eq_ok {workflow : WorkflowId} {p : StagePayload} {t t' : StageTable}
    {n n' : ℕ} {keep keep' : List StageId}
    (h : upsertStage workflow (t, n, keep) p = .ok (t', n', keep')) :
    n ≤ n' ∧ ∃ id, keep' = id :: keep ∧ (∀ i ∈ p.id, id = i) ∧ FromRows t t' id := by
  obtain ⟨_, -, h⟩ := bind_eq_ok_iff.mp h
  obtain ⟨⟨saved, t₁, n₁⟩, hsave, h⟩ := bind_eq_ok_iff.mp h
  obtain ⟨slaPolicy, -, h⟩ := bind_eq_ok_iff.mp h
  obtain ⟨⟨approvers, n₂⟩, happrovers, h⟩ := bind_eq_ok_iff.mp h
  obtain ⟨hn, hid, hrows⟩ := saveStage_eq_ok hsave
  cases h
  refine ⟨hn.trans (upsertApprovers_nextId happrovers), saved.id, rfl, hid, fun s' hs' => ?_⟩
  rcases Table.mem_update_iff.mp hs' with ⟨s, -, hsid, rfl⟩ | ⟨hs', -⟩
  · exact Or.inl (by simpa using hsid)
  · exact hrows s' hs'

/-- **The stages of an edit**: all those the payload names are kept, and any
other row was there before. -/
theorem upsertStages_eq_ok {workflow : WorkflowId} {payload : List StagePayload}
    {t t' : StageTable} {n n' : ℕ} {keep keep' : List StageId}
    (h : payload.foldlM (upsertStage workflow) (t, n, keep) = .ok (t', n', keep')) :
    n ≤ n' ∧ keep ⊆ keep' ∧ (∀ p ∈ payload, ∀ id ∈ p.id, id ∈ keep')
      ∧ ∀ s' ∈ t'.rows, s'.id ∈ keep' ∨ ∃ s ∈ t.rows, s.id = s'.id
        ∧ s.workflow = s'.workflow := by
  induction payload generalizing t n keep with
  | nil =>
    cases h
    exact ⟨le_rfl, List.Subset.refl _, fun p hp => absurd hp List.not_mem_nil,
      fun s' hs' => Or.inr ⟨s', hs', rfl, rfl⟩⟩
  | cons p payload ih =>
    rw [List.foldlM_cons, bind_eq_ok_iff] at h
    obtain ⟨⟨t₁, n₁, keep₁⟩, hp, h⟩ := h
    obtain ⟨hn, id, rfl, hid, hrows⟩ := upsertStage_eq_ok hp
    obtain ⟨hn', hsub, hnamed, hrows'⟩ := ih h
    have hidMem : id ∈ keep' := hsub List.mem_cons_self
    refine ⟨hn.trans hn', fun i hi => hsub (List.mem_cons_of_mem _ hi), ?_, fun s' hs' => ?_⟩
    · intro q hq i hi
      rcases List.mem_cons.mp hq with rfl | hq
      · rw [← hid i hi]
        exact hidMem
      · exact hnamed q hq i hi
    · rcases hrows' s' hs' with hk | ⟨s₁, hs₁, hsid, hsw⟩
      · exact Or.inl hk
      · rcases hrows s₁ hs₁ with heq | ⟨s, hs, hsid₁, hsw₁⟩
        · exact Or.inl (by rw [← hsid, heq]; exact hidMem)
        · exact Or.inr ⟨s, hs, hsid₁.trans hsid, hsw₁.trans hsw⟩

/-- Deleting stages deletes actions only. -/
theorem keys_deleteStages {db : ApprovalDb} (h : db.Keys) (p : ApprovalStage → Bool) :
    (deleteStages p db).Keys := by
  have hfilter : ApprovalDb.Keys
      { db with actions := db.actions.filter (fun a => !isOrphaned p db.stages a) } :=
    ⟨h.uniqueRun, h.uniqueAction.filter _, h.freshRun,
      fun a ha => h.freshAction a (List.mem_filter.mp ha).1,
      fun a ha => h.hasRun a (List.mem_filter.mp ha).1⟩
  have hmap := hfilter.mapActions (g := ApprovalAction.forgetOrigin
    ((db.actions.filter (isOrphaned p db.stages)).map ApprovalAction.id))
    ⟨fun _ => rfl, fun _ => rfl, fun _ => rfl, fun _ => rfl⟩
  exact ⟨hmap.uniqueRun, hmap.uniqueAction, hmap.freshRun, hmap.freshAction, hmap.hasRun⟩

/-- **An edit that spares the runs**: every pending run has a pending action
whose stage the payload names, or belongs to another workflow. -/
def SparesRuns (workflow : WorkflowId) (payload : List StagePayload) (db : ApprovalDb) : Prop :=
  ∀ r ∈ db.runs, r.status = .pending →
    ∃ a ∈ db.actions, a.approvalRun = r.id ∧ a.status = .pending ∧
      ∀ s ∈ db.stages.rows, s.id = a.stage →
        isDropped workflow (payload.filterMap StagePayload.id) s = false

instance (workflow : WorkflowId) (payload : List StagePayload) (db : ApprovalDb) :
    Decidable (SparesRuns workflow payload db) :=
  inferInstanceAs (Decidable (∀ r ∈ db.runs, _ → _))

/-- **Such an edit keeps pending runs actionable.** -/
theorem viable_upsertWorkflow {workflow : WorkflowId} {payload : List StagePayload}
    {db db' : ApprovalDb} (h : db.Viable) (hspares : SparesRuns workflow payload db)
    (hok : upsertWorkflow workflow payload db = .ok db') : db'.Viable := by
  unfold upsertWorkflow at hok
  split at hok
  · cases hok
  split at hok
  · cases hok
  obtain ⟨⟨stages, nextId, keep⟩, hfold, hret⟩ := bind_eq_ok_iff.mp hok
  obtain ⟨hnext, -, hnamed, hrows⟩ := upsertStages_eq_ok hfold
  obtain rfl := pure_eq_ok_iff.mp hret
  have hkeys : ApprovalDb.Keys { db with stages := stages, nextId := nextId } :=
    ⟨h.uniqueRun, h.uniqueAction, fun r hr => (h.freshRun r hr).trans_le hnext,
      fun a ha => (h.freshAction a ha).trans_le hnext, h.hasRun⟩
  refine ⟨keys_deleteStages hkeys _, fun r hr hp => ?_⟩
  obtain ⟨a, ha, har, hap, hkept⟩ := hspares r hr hp
  have hstays : isOrphaned (isDropped workflow keep) stages a = false := by
    refine Bool.eq_false_iff.mpr (fun hgone => ?_)
    obtain ⟨s', hs', hdrop⟩ := List.any_eq_true.mp hgone
    simp only [isDropped, Bool.and_eq_true, decide_eq_true_eq] at hdrop
    obtain ⟨⟨hw, hnot⟩, hstage⟩ := hdrop
    rcases hrows s' hs' with hk | ⟨s, hs, hsid, hsw⟩
    · exact hnot hk
    · have hmem := hkept s hs (hsid.trans hstage)
      simp only [isDropped, Bool.and_eq_false_iff, decide_eq_false_iff_not, not_not] at hmem
      rcases hmem with hne | hmem
      · exact hne (hsw.trans hw)
      · obtain ⟨p, hp, hpid⟩ := List.mem_filterMap.mp hmem
        exact hnot (hsid ▸ hnamed p hp s.id hpid)
  refine ⟨_, List.mem_map.mpr ⟨a, List.mem_filter.mpr ⟨ha, ?_⟩, rfl⟩, har, hap⟩
  simpa using hstays

section Engine

variable {S : Type} (handler : SubjectHandler S) (user : EmployeeId → UserId)

/-- Every edit among the requests spares the runs it finds. -/
def EditGuard (st : EngineState S) : EditOp → Prop
  | .request _ => True
  | .upsertWorkflow workflow payload => SparesRuns workflow payload st.db

instance (st : EngineState S) (op : EditOp) : Decidable (EditGuard st op) :=
  match op with
  | .request _ => inferInstanceAs (Decidable True)
  | .upsertWorkflow workflow payload =>
    inferInstanceAs (Decidable (SparesRuns workflow payload st.db))

/-- **No run is stranded by requests and sparing edits.** -/
theorem actionable_of_guarded (stages : StageTable) (subjects : S) (ops : List EditOp)
    (hops : Run.Along (editStep handler user) EditGuard (.initial stages subjects) ops) :
    (Run.exec (editStep handler user) (.initial stages subjects) ops).db.Actionable := by
  refine (Run.invariant_of_along (G := EditGuard)
    (I := fun st : EngineState S => st.db.Viable) ?_
    ⟨keys_initial stages subjects, fun r hr => absurd hr List.not_mem_nil⟩ hops).actionable
  intro st op h hguard
  refine settle_induction (P := fun st : EngineState S => st.db.Viable) h (fun st' hok => ?_)
  cases op with
  | request op => exact viable_perform h hok
  | upsertWorkflow workflow payload =>
    obtain ⟨db, hdb, hret⟩ := bind_eq_ok_iff.mp hok
    obtain rfl := pure_eq_ok_iff.mp hret
    exact viable_upsertWorkflow h hguard hdb

end Engine

namespace Sample

/-- A payload for one stage with employee 4 as its approver. -/
def stagePayload (id : Option StageId) (sequence : ℕ) : StagePayload :=
  { id := id, name := "Review", sequence := sequence, mode := .all, fallbackType := .none,
    fallbackEmployee := none, fallbackRoleCode := "", reminderAfterHours := none,
    escalateAfterHours := none, escalationTargetType := .none, escalationEmployee := none,
    escalationRoleCode := "",
    approvers := [⟨none, .specificEmployee, some 4, 1, ""⟩] }

end Sample

/-- An edit that keeps the first stage and replaces the second one leaves the
request at its first stage actionable. -/
theorem actionable_of_guarded_sample :
    (Run.exec (editStep Sample.handler Sample.user) (.initial Sample.stages ())
      [.request Sample.request,
        .upsertWorkflow 1 [Sample.stagePayload (some 1) 1, Sample.stagePayload none 3]]
      ).db.Actionable :=
  actionable_of_guarded Sample.handler Sample.user Sample.stages () _ (by decide)

/-- **An edit strands a request**: replacing the stages of the workflow while
the request waits at the first one deletes its actions. -/
theorem edit_strands_request :
    ¬ (Run.exec (editStep Sample.handler Sample.user) (.initial Sample.stages ())
      [.request Sample.request, .upsertWorkflow 1 [Sample.stagePayload none 3]]
      ).db.Actionable := by
  decide

end Approvals
