import Clarisal.Approvals.Invariant

/-!
# What each transaction of the engine does

One lemma for each function of the engine says what a committed call has done,
its guards included. Every later proof about the engine starts from these and
unfolds nothing.
-/

namespace Approvals

open Transaction

/-! ## Stages -/

namespace ApprovalDb

variable {db : ApprovalDb} {w : WorkflowId} {s : ApprovalStage}

theorem mem_workflowStages :
    s ∈ db.workflowStages w ↔ s ∈ db.stages.rows ∧ s.workflow = w := by
  simp [workflowStages]

theorem getStage_eq_some {id : StageId} :
    db.getStage id = some s ↔ s ∈ db.stages.rows ∧ s.id = id :=
  Table.find_eq_some_iff db.stages.uniqueId

/-- The first stage is the lowest of its workflow. -/
theorem firstStage_eq_some (h : db.firstStage w = some s) :
    s ∈ db.stages.rows ∧ s.workflow = w
      ∧ ∀ u ∈ db.stages.rows, u.workflow = w → s.sequence ≤ u.sequence := by
  obtain ⟨hs, hw⟩ := mem_workflowStages.mp (List.argmin_mem h)
  exact ⟨hs, hw, fun u hu huw =>
    List.le_of_mem_argmin (mem_workflowStages.mpr ⟨hu, huw⟩) h⟩

/-- The next stage is the lowest above the current one. -/
theorem nextStage_eq_some {n : ℕ} (h : db.nextStage w n = some s) :
    s ∈ db.stages.rows ∧ s.workflow = w ∧ n < s.sequence
      ∧ ∀ u ∈ db.stages.rows, u.workflow = w → u.sequence < s.sequence →
          u.sequence ≤ n := by
  have hmem := List.mem_filter.mp (List.argmin_mem h)
  obtain ⟨hs, hw⟩ := mem_workflowStages.mp hmem.1
  refine ⟨hs, hw, by simpa using hmem.2, fun u hu huw hlt => ?_⟩
  by_contra hgt
  have hu' : u ∈ (db.workflowStages w).filter (fun s => n < s.sequence) :=
    List.mem_filter.mpr ⟨mem_workflowStages.mpr ⟨hu, huw⟩, by simpa using hgt⟩
  exact absurd (List.le_of_mem_argmin hu' h) (not_le.mpr hlt)

theorem nextStage_eq_none {n : ℕ} (h : db.nextStage w n = none) :
    ∀ u ∈ db.stages.rows, u.workflow = w → u.sequence ≤ n := by
  intro u hu huw
  by_contra hgt
  have hu' : u ∈ (db.workflowStages w).filter (fun s => n < s.sequence) :=
    List.mem_filter.mpr ⟨mem_workflowStages.mpr ⟨hu, huw⟩, by simpa using hgt⟩
  rw [List.argmin_eq_none.mp h] at hu'
  exact absurd hu' List.not_mem_nil

theorem createAction_eq_ok {db db' : ApprovalDb} {now : Time} {r : RunId} {s : StageId}
    {assignment : ApproverAssignment} {escalatedFrom : Option ActionId}
    (h : db.createAction now r s assignment escalatedFrom = .ok db') :
    db' = db.insertAction now r s assignment escalatedFrom := by
  unfold createAction at h
  split at h
  · cases h
  · exact (Except.ok.inj h).symm

end ApprovalDb

section Engine

variable {S : Type} {handler : SubjectHandler S} {user : EmployeeId → UserId}
  {dir : Directory} {st st' : EngineState S} {db db' : ApprovalDb}

/-- **Opening a stage** inserts an action for each resolved approver, at least
one: what holds after the first and is kept by the others holds at the end. -/
theorem createStageActions_induction {run : ApprovalRun} {stage : ApprovalStage}
    {P : ApprovalDb → Prop}
    (hfirst : ∀ a ∈ stageApprovers user dir stage run.requestedBy run.organisation
      run.requestKind, P (db.insertAction dir.now run.id stage.id a none))
    (hstep : ∀ db, ∀ a ∈ stageApprovers user dir stage run.requestedBy run.organisation
      run.requestKind, P db → P (db.insertAction dir.now run.id stage.id a none))
    (h : createStageActions user dir run stage db = .ok db') : P db' := by
  obtain ⟨approvers, happrovers, hfold⟩ := bind_eq_ok_iff.mp h
  obtain ⟨rfl, hne⟩ := resolveStageApprovers_eq_ok.mp happrovers
  cases hcons : stageApprovers user dir stage run.requestedBy run.organisation
      run.requestKind with
  | nil => exact absurd hcons hne
  | cons a rest =>
    rw [hcons] at hfold hfirst hstep
    rw [List.foldlM_cons, bind_eq_ok_iff] at hfold
    obtain ⟨db₁, h₁, hrest⟩ := hfold
    have hP₁ : P db₁ := ApprovalDb.createAction_eq_ok h₁ ▸ hfirst a List.mem_cons_self
    have hround : ∀ (l : List ApproverAssignment), (∀ b ∈ l, b ∈ a :: rest) →
        ∀ db₁, P db₁ → l.foldlM
          (fun db a => db.createAction dir.now run.id stage.id a none) db₁ = .ok db' →
        P db' := by
      intro l
      induction l with
      | nil =>
        intro _ db₁ hP h
        cases h
        exact hP
      | cons b l ih =>
        intro hl db₁ hP h
        rw [List.foldlM_cons, bind_eq_ok_iff] at h
        obtain ⟨db₂, h₂, hl'⟩ := h
        refine ih (fun c hc => hl c (List.mem_cons_of_mem _ hc)) db₂ ?_ hl'
        rw [ApprovalDb.createAction_eq_ok h₂]
        exact hstep db₁ b (hl b List.mem_cons_self) hP
    exact hround rest (fun b hb => List.mem_cons_of_mem _ hb) db₁ hP₁ hrest

/-- A new run of a workflow. -/
structure IsNewRun (db : ApprovalDb) (stage : ApprovalStage) (run : ApprovalRun) : Prop where
  id : run.id = db.nextId
  status : run.status = .pending
  sequence : run.currentStageSequence = stage.sequence
  first : db.firstStage run.workflow = some stage

/-- A created run stands at its first stage, opened. -/
theorem createApprovalRun_eq_ok {workflow : WorkflowId} {requestKind : ApprovalRequestKind}
    {organisation : OrganisationId} {requester : Option EmployeeId}
    {subject : ContentObject} {id : RunId}
    (h : createApprovalRun user dir workflow requestKind organisation requester subject db
      = .ok (id, db')) :
    ∃ run stage, IsNewRun db stage run ∧ run.id = id ∧ run.contentObject = subject
      ∧ run.organisation = organisation ∧ run.workflow = workflow
      ∧ run.requestKind = requestKind ∧ run.requestedBy = requester
      ∧ createStageActions user dir run stage (db.insertRun run) = .ok db' := by
  unfold createApprovalRun at h
  split at h
  · cases h
  · next stage hstage =>
    obtain ⟨db₁, hcreate, hret⟩ := bind_eq_ok_iff.mp h
    obtain ⟨rfl, rfl⟩ := Prod.mk.inj (pure_eq_ok_iff.mp hret)
    exact ⟨_, stage, ⟨rfl, rfl, rfl, hstage⟩, rfl, rfl, rfl, rfl, rfl, rfl, hcreate⟩

/-- The rows a request works on are rows of the tables. -/
theorem readAction_eq_ok {id : ActionId} {action : ApprovalAction} {run : ApprovalRun}
    (h : readAction db id = .ok (action, run)) :
    action ∈ db.actions ∧ action.id = id ∧ run ∈ db.runs
      ∧ run.id = action.approvalRun := by
  unfold readAction at h
  split at h
  · cases h
  · next a ha =>
    split at h
    · cases h
    · next r hr =>
      cases h
      exact ⟨Table.find_mem ha, Table.find_key ha, Table.find_mem hr, Table.find_key hr⟩

/-- An action that can be decided is pending and belongs to the actor. -/
theorem checkActionable_eq_ok {action : ApprovalAction} {run : ApprovalRun} {actor : UserId}
    {u : Unit} (h : checkActionable dir action run actor = .ok u) :
    action.approverUser = actor ∧ action.status = .pending := by
  unfold checkActionable at h
  split at h
  · cases h
  · next hactor =>
    split at h
    · cases h
    · next hpending => exact ⟨by simpa using hactor, by simpa using hpending⟩

/-- **The end of a stage** approves the run or opens the next stage. -/
theorem advanceOrCompleteRun_eq_ok {run : ApprovalRun}
    (h : advanceOrCompleteRun handler user dir run st = .ok st') :
    (st.db.nextStage run.workflow run.currentStageSequence = none
        ∧ st'.db = st.db.setRunStatus run.id .approved
        ∧ handler.applySubjectStatus run.contentObject .approved "" st.subjects
            = .ok st'.subjects)
      ∨ ∃ next, st.db.nextStage run.workflow run.currentStageSequence = some next
        ∧ createStageActions user dir { run with currentStageSequence := next.sequence } next
            (st.db.setCurrentStage run.id next.sequence) = .ok st'.db
        ∧ st'.subjects = st.subjects := by
  unfold advanceOrCompleteRun at h
  split at h
  · next hnone =>
    obtain ⟨subjects, hsubjects, hret⟩ := bind_eq_ok_iff.mp h
    obtain rfl := pure_eq_ok_iff.mp hret
    exact Or.inl ⟨hnone, rfl, hsubjects⟩
  · next next hnext =>
    obtain ⟨db, hdb, hret⟩ := bind_eq_ok_iff.mp h
    obtain rfl := pure_eq_ok_iff.mp hret
    exact Or.inr ⟨next, hnext, hdb, rfl⟩

/-- **An approval** is recorded and, when its stage is complete, ends it. -/
theorem approveActionWrites_eq_ok {action : ApprovalAction} {run : ApprovalRun}
    {comment : String}
    (h : approveActionWrites handler user dir action run comment st = .ok st') :
    ∃ stage ∈ st.db.stages.rows, stage.id = action.stage ∧
      ((stageComplete action stage (recordApproval dir.now action stage comment st.db) = false
          ∧ st' = { st with db := recordApproval dir.now action stage comment st.db })
        ∨ (stageComplete action stage (recordApproval dir.now action stage comment st.db) = true
          ∧ advanceOrCompleteRun handler user dir run
              { st with db := recordApproval dir.now action stage comment st.db }
                = .ok st')) := by
  unfold approveActionWrites at h
  split at h
  · cases h
  · next stage hstage =>
    obtain ⟨hmem, hid⟩ := ApprovalDb.getStage_eq_some.mp hstage
    refine ⟨stage, hmem, hid, ?_⟩
    dsimp only at h
    split at h
    · next hcomplete => exact Or.inr ⟨hcomplete, h⟩
    · next hwaits => exact Or.inl ⟨by simpa using hwaits, (Except.ok.inj h).symm⟩

theorem approveAction_eq_ok {id : ActionId} {actor : UserId} {comment : String}
    (h : approveAction handler user dir id actor comment st = .ok st') :
    ∃ action ∈ st.db.actions, ∃ run ∈ st.db.runs, action.id = id
      ∧ run.id = action.approvalRun ∧ action.approverUser = actor
      ∧ action.status = .pending
      ∧ approveActionWrites handler user dir action run comment st = .ok st' := by
  obtain ⟨⟨action, run⟩, hread, h⟩ := bind_eq_ok_iff.mp h
  obtain ⟨_, hcheck, hwrites⟩ := bind_eq_ok_iff.mp h
  obtain ⟨ha, hid, hr, hrun⟩ := readAction_eq_ok hread
  obtain ⟨hactor, hpending⟩ := checkActionable_eq_ok hcheck
  exact ⟨action, ha, run, hr, hid, hrun, hactor, hpending, hwrites⟩

/-- The actions as a rejection leaves them. -/
def rejectActions (now : Time) (action : ApprovalAction) (run : ApprovalRun)
    (comment : String) (a : ApprovalAction) : ApprovalAction :=
  let a := if a.id = action.id then a.decide .rejected comment now else a
  if a.approvalRun = run.id && a.status = .pending && a.id != action.id then
    a.close .cancelled now
  else a

/-- **A rejection** closes the run and every pending action of it. -/
theorem rejectActionWrites_eq_ok {action : ApprovalAction} {run : ApprovalRun}
    {comment : String}
    (h : rejectActionWrites handler dir action run comment st = .ok st') :
    st'.db = { st.db.setRunStatus run.id .rejected with
        actions := st.db.actions.map (rejectActions dir.now action run comment) }
      ∧ handler.applySubjectStatus run.contentObject .rejected comment st.subjects
          = .ok st'.subjects := by
  obtain ⟨subjects, hsubjects, hret⟩ := bind_eq_ok_iff.mp h
  obtain rfl := pure_eq_ok_iff.mp hret
  refine ⟨?_, hsubjects⟩
  simp only [ApprovalDb.updateActions, ApprovalDb.setRunStatus, ApprovalDb.updateRun,
    Table.update, List.map_map]
  congr 1
  refine List.map_congr_left (fun a _ => ?_)
  simp [rejectActions]

theorem rejectAction_eq_ok {id : ActionId} {actor : UserId} {comment : String}
    (h : rejectAction handler dir id actor comment st = .ok st') :
    ∃ action ∈ st.db.actions, ∃ run ∈ st.db.runs, action.id = id
      ∧ run.id = action.approvalRun ∧ action.approverUser = actor
      ∧ action.status = .pending
      ∧ rejectActionWrites handler dir action run comment st = .ok st' := by
  obtain ⟨⟨action, run⟩, hread, h⟩ := bind_eq_ok_iff.mp h
  obtain ⟨_, hcheck, hwrites⟩ := bind_eq_ok_iff.mp h
  obtain ⟨ha, hid, hr, hrun⟩ := readAction_eq_ok hread
  obtain ⟨hactor, hpending⟩ := checkActionable_eq_ok hcheck
  exact ⟨action, ha, run, hr, hid, hrun, hactor, hpending, hwrites⟩

/-- The actions as a cancellation leaves them. -/
def cancelActions (now : Time) (run : ApprovalRun) (a : ApprovalAction) : ApprovalAction :=
  if a.approvalRun = run.id && a.status = .pending then a.close .cancelled now else a

/-- **A cancellation** closes the run and every pending action of it. -/
theorem cancelApprovalRunWrites_eq_ok {now : Time} {run : ApprovalRun}
    {subjectStatus : Option SubjectStatus}
    (h : cancelApprovalRunWrites handler now run subjectStatus st = .ok st') :
    st'.db = { st.db.setRunStatus run.id .cancelled with
        actions := st.db.actions.map (cancelActions now run) }
      ∧ match subjectStatus with
        | none => st'.subjects = st.subjects
        | some status =>
          handler.applySubjectStatus run.contentObject status "" st.subjects
            = .ok st'.subjects := by
  unfold cancelApprovalRunWrites at h
  cases subjectStatus with
  | none =>
    obtain rfl := pure_eq_ok_iff.mp h
    exact ⟨rfl, rfl⟩
  | some status =>
    obtain ⟨subjects, hsubjects, hret⟩ := bind_eq_ok_iff.mp h
    obtain rfl := pure_eq_ok_iff.mp hret
    exact ⟨rfl, hsubjects⟩

theorem cancelApprovalRun_eq_ok {now : Time} {id : RunId}
    {subjectStatus : Option SubjectStatus}
    (h : cancelApprovalRun handler now id subjectStatus st = .ok st') :
    st' = st ∨ ∃ run ∈ st.db.runs, run.id = id ∧ run.status = .pending
      ∧ cancelApprovalRunWrites handler now run subjectStatus st = .ok st' := by
  unfold cancelApprovalRun at h
  split at h
  · cases h
  · next run hrun =>
    split at h
    · exact Or.inl (Except.ok.inj h).symm
    · next hpending =>
      exact Or.inr ⟨run, Table.find_mem hrun, Table.find_key hrun, by simpa using hpending, h⟩

/-- A cancellation of a known run. -/
theorem cancelApprovalRun_of_mem {now : Time} {run : ApprovalRun}
    {subjectStatus : Option SubjectStatus} (h : Table.Unique ApprovalRun.id st.db.runs)
    (hr : run ∈ st.db.runs) :
    cancelApprovalRun handler now run.id subjectStatus st
      = if run.status = .pending then cancelApprovalRunWrites handler now run subjectStatus st
        else .ok st := by
  have hget : st.db.getRun run.id = some run := (Table.find_eq_some_iff h).mpr ⟨hr, rfl⟩
  rw [cancelApprovalRun, hget]
  by_cases hpending : run.status = .pending <;> simp [hpending]

/-! ## Escalation -/

/-- The target of an escalation is not the approver. -/
theorem escalationTarget_ne {action : ApprovalAction} {target : UserId × Option EmployeeId}
    (h : escalationTarget user dir db action = some target) :
    target.1 ≠ action.approverUser := by
  obtain ⟨stage, -, h⟩ := Option.bind_eq_some_iff.mp h
  obtain ⟨run, -, h⟩ := Option.bind_eq_some_iff.mp h
  split at h
  · simpa using (Option.filter_eq_some_iff.mp h).2
  · cases h

/-- **One escalation** changes nothing, or gives the target an action of the
stage and cancels the action that was due. -/
theorem escalateLocked_eq_ok {now : Time} {id : ActionId}
    {target : UserId × Option EmployeeId}
    (h : escalateLocked now id target db = .ok db') :
    db' = db ∨ ∃ locked ∈ db.actions, locked.id = id ∧ locked.status = .pending
      ∧ ∃ db₁, (db₁ = db ∧ (∃ a ∈ db.actions, isPendingSibling locked a = true
            ∧ a.approverUser = target.1)
          ∨ db₁ = db.insertAction now locked.approvalRun locked.stage
              (escalatedAssignment locked target) (some locked.id))
        ∧ db' = db₁.updateActions (fun a => a.id = locked.id)
            (ApprovalAction.escalate now) := by
  unfold escalateLocked at h
  split at h
  · cases h
  · next locked hlocked =>
    split at h
    · exact Or.inl (Except.ok.inj h).symm
    · next hopen =>
      push Not at hopen
      obtain ⟨db₁, hdb₁, hret⟩ := bind_eq_ok_iff.mp h
      refine Or.inr ⟨locked, Table.find_mem hlocked, Table.find_key hlocked, hopen.1, db₁, ?_,
        (pure_eq_ok_iff.mp hret).symm⟩
      unfold ensureTargetAction at hdb₁
      split at hdb₁
      · next hany =>
        obtain ⟨a, ha, hsibling⟩ := List.any_eq_true.mp hany
        rw [Bool.and_eq_true] at hsibling
        exact Or.inl ⟨(Except.ok.inj hdb₁).symm, a, ha, hsibling.1, by simpa using hsibling.2⟩
      · exact Or.inr (ApprovalDb.createAction_eq_ok hdb₁)

/-- **What one escalation keeps, the batch keeps.** The batch's actions are
rows of the tables it started from. -/
theorem escalateAll_induction {P : ApprovalDb → Prop} {actions : List ApprovalAction}
    (hstep : ∀ db, P db → ∀ action ∈ actions, ∀ target,
      escalationTarget user dir db action = some target → ∀ db',
      escalateLocked dir.now action.id target db = .ok db' → P db')
    (h : P db) : P (escalateAll user dir db actions) := by
  induction actions generalizing db with
  | nil => exact h
  | cons action rest ih =>
    rw [escalateAll]
    split
    · exact h
    · next db₁ hdb₁ =>
      refine ih (fun db hP a ha => hstep db hP a (List.mem_cons_of_mem _ ha)) ?_
      unfold escalateAction at hdb₁
      split at hdb₁
      · obtain rfl := Except.ok.inj hdb₁
        exact h
      · next target htarget =>
        exact hstep db h action List.mem_cons_self target htarget db₁ hdb₁

end Engine

end Approvals
