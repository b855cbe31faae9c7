import Clarisal.Approvals.Preservation

/-!
# What the subjects see of the engine

A subject takes part in the engine through little: which runs are about it,
and their statuses. The outline of the tables keeps just that, and an
`Outcome` says what a request of the engine did to it: nothing, a decision
handed to the subject in the same transaction, or a cancellation the subject
is not told of.
-/

namespace Approvals

open Transaction

/-- A run as its subject sees it. -/
structure RunOutline where
  id : RunId
  subject : ContentObject
  status : ApprovalRunStatus
deriving DecidableEq, Repr

def ApprovalRun.outline (r : ApprovalRun) : RunOutline :=
  { id := r.id, subject := r.contentObject, status := r.status }

def ApprovalDb.outline (db : ApprovalDb) : List RunOutline := db.runs.map ApprovalRun.outline

/-- The status of a run whose subject takes a decision. -/
def SubjectStatus.runStatus : SubjectStatus → ApprovalRunStatus
  | .approved => .approved
  | .rejected => .rejected
  | .cancelled => .cancelled
  | .withdrawn => .cancelled

/-- One run of the outline takes a status. -/
def setOutline (id : RunId) (status : ApprovalRunStatus) (outline : List RunOutline) :
    List RunOutline :=
  Table.update (fun r => r.id = id) (fun r => { r with status := status }) outline

theorem mem_setOutline {id : RunId} {status : ApprovalRunStatus} {outline : List RunOutline}
    {r : RunOutline} :
    r ∈ setOutline id status outline
      ↔ (∃ r₀ ∈ outline, r₀.id = id ∧ { r₀ with status := status } = r)
        ∨ (r ∈ outline ∧ r.id ≠ id) := by
  simp [setOutline, Table.mem_update_iff]

theorem SubjectStatus.runStatus_ne_pending (decision : SubjectStatus) :
    decision.runStatus ≠ .pending := by
  cases decision <;> simp [SubjectStatus.runStatus]

section SetOutline

variable {id : RunId} {status : ApprovalRunStatus} {outline : List RunOutline} {o : RunOutline}

/-- A run that is still pending was not the one decided. -/
theorem pending_of_mem_setOutline (hstatus : status ≠ .pending)
    (ho : o ∈ setOutline id status outline) (hop : o.status = .pending) :
    o ∈ outline ∧ o.id ≠ id := by
  rcases mem_setOutline.mp ho with ⟨o₀, -, -, rfl⟩ | ho
  · exact absurd hop hstatus
  · exact ho

/-- Runs keep their subjects, and none appears. -/
theorem exists_of_mem_setOutline (ho : o ∈ setOutline id status outline) :
    ∃ o₀ ∈ outline, o₀.id = o.id ∧ o₀.subject = o.subject := by
  rcases mem_setOutline.mp ho with ⟨o₀, ho₀, -, rfl⟩ | ⟨ho, -⟩
  · exact ⟨o₀, ho₀, rfl, rfl⟩
  · exact ⟨o, ho, rfl, rfl⟩

/-- No run disappears. -/
theorem exists_mem_setOutline (ho : o ∈ outline) :
    ∃ o' ∈ setOutline id status outline, o'.id = o.id := by
  by_cases hid : o.id = id
  · exact ⟨_, mem_setOutline.mpr (Or.inl ⟨o, ho, hid, rfl⟩), rfl⟩
  · exact ⟨o, mem_setOutline.mpr (Or.inr ⟨ho, hid⟩), rfl⟩

end SetOutline

/-- **At most one run is decided**, and it was pending. -/
inductive Closes (outline outline' : List RunOutline) : Prop
  | none (houtline : outline' = outline)
  | one (run : RunOutline) (status : ApprovalRunStatus) (hrun : run ∈ outline)
      (hpending : run.status = .pending) (hstatus : status ≠ .pending)
      (houtline : outline' = setOutline run.id status outline)

namespace Closes

variable {outline outline' : List RunOutline} {o : RunOutline}

/-- A run that is still pending was there. -/
theorem pending (h : Closes outline outline') (ho : o ∈ outline') (hop : o.status = .pending) :
    o ∈ outline := by
  cases h with
  | none houtline => exact houtline ▸ ho
  | one run status hrun hpending hstatus houtline =>
    exact (pending_of_mem_setOutline hstatus (houtline ▸ ho) hop).1

/-- Runs keep their subjects, and none appears. -/
theorem exists_of_mem (h : Closes outline outline') (ho : o ∈ outline') :
    ∃ o₀ ∈ outline, o₀.id = o.id ∧ o₀.subject = o.subject := by
  cases h with
  | none houtline => exact ⟨o, houtline ▸ ho, rfl, rfl⟩
  | one run status hrun hpending hstatus houtline =>
    exact exists_of_mem_setOutline (houtline ▸ ho)

/-- No run disappears. -/
theorem exists_mem (h : Closes outline outline') (ho : o ∈ outline) :
    ∃ o' ∈ outline', o'.id = o.id := by
  cases h with
  | none houtline => exact ⟨o, houtline ▸ ho, rfl⟩
  | one run status hrun hpending hstatus houtline =>
    exact houtline ▸ exists_mem_setOutline ho

/-- A run that was decided stays as it is. -/
theorem decided (h : Closes outline outline') (hunique : Table.Unique RunOutline.id outline)
    (ho : o ∈ outline) (hdecided : o.status ≠ .pending) : o ∈ outline' := by
  cases h with
  | none houtline => exact houtline ▸ ho
  | one run status hrun hpending hstatus houtline =>
    rw [houtline, mem_setOutline]
    refine Or.inr ⟨ho, fun hid => hdecided ?_⟩
    rw [hunique.eq_of_key ho hrun hid]
    exact hpending

end Closes

section Engine

variable {S : Type} {handler : SubjectHandler S} {user : EmployeeId → UserId}
  {dir : Directory} {st st' : EngineState S} {db db' : ApprovalDb}

/-- **What a request of the engine did**, as the subjects see it. -/
inductive Outcome (handler : SubjectHandler S) (st st' : EngineState S) : Prop
  | quiet (houtline : st'.db.outline = st.db.outline) (hsubjects : st'.subjects = st.subjects)
  | decided (run : RunOutline) (decision : SubjectStatus) (reason : String)
      (hrun : run ∈ st.db.outline) (hpending : run.status = .pending)
      (houtline : st'.db.outline = setOutline run.id decision.runStatus st.db.outline)
      (hsubjects : handler.applySubjectStatus run.subject decision reason st.subjects
        = .ok st'.subjects)
  | dropped (run : RunOutline) (hrun : run ∈ st.db.outline) (hpending : run.status = .pending)
      (houtline : st'.db.outline = setOutline run.id .cancelled st.db.outline)
      (hsubjects : st'.subjects = st.subjects)

/-- A request closes one run at most. -/
theorem Outcome.closes (h : Outcome handler st st') : Closes st.db.outline st'.db.outline := by
  cases h with
  | quiet houtline _ => exact .none houtline
  | decided run decision _ hrun hpending houtline _ =>
    exact .one run _ hrun hpending decision.runStatus_ne_pending houtline
  | dropped run hrun hpending houtline _ =>
    exact .one run .cancelled hrun hpending (by decide) houtline

theorem mem_outline {r : RunOutline} :
    r ∈ db.outline ↔ ∃ run ∈ db.runs, run.outline = r := List.mem_map

theorem outline_mem {run : ApprovalRun} (h : run ∈ db.runs) : run.outline ∈ db.outline :=
  List.mem_map_of_mem h

theorem uniqueOutline (h : db.Keys) : Table.Unique RunOutline.id db.outline := by
  unfold Table.Unique ApprovalDb.outline
  rw [List.map_map]
  exact h.uniqueRun

theorem freshOutline (h : db.Keys) {r : RunOutline} (hr : r ∈ db.outline) : r.id < db.nextId := by
  obtain ⟨run, hrun, rfl⟩ := mem_outline.mp hr
  exact h.freshRun run hrun

theorem outline_eq_of_runs (h : db'.runs = db.runs) : db'.outline = db.outline := by
  rw [ApprovalDb.outline, h, ApprovalDb.outline]

@[simp] theorem outline_setCurrentStage (r : RunId) (n : ℕ) :
    (db.setCurrentStage r n).outline = db.outline := by
  have hsame : ∀ run : ApprovalRun,
      ({ run with currentStageSequence := n } : ApprovalRun).outline = run.outline := fun _ => rfl
  exact Table.map_update hsame db.runs

theorem outline_setRunStatus (r : RunId) (status : ApprovalRunStatus) :
    (db.setRunStatus r status).outline = setOutline r status db.outline := by
  show (Table.update _ _ db.runs).map _ = Table.update _ _ (db.runs.map _)
  rw [Table.update, Table.update, List.map_map, List.map_map]
  refine List.map_congr_left (fun run _ => ?_)
  by_cases hid : run.id = r <;> simp [ApprovalRun.outline, hid]

theorem outline_createStageActions {run : ApprovalRun} {stage : ApprovalStage}
    (h : createStageActions user dir run stage db = .ok db') : db'.outline = db.outline :=
  createStageActions_induction (P := fun db₁ => db₁.outline = db.outline)
    (fun _ _ => rfl) (fun _ _ _ h => h) h

/-- A created run is pending, about its subject. -/
theorem outline_createApprovalRun {workflow : WorkflowId} {requestKind : ApprovalRequestKind}
    {organisation : OrganisationId} {requester : Option EmployeeId} {subject : ContentObject}
    {id : RunId}
    (h : createApprovalRun user dir workflow requestKind organisation requester subject db
      = .ok (id, db')) :
    id = db.nextId
      ∧ db'.outline = db.outline ++ [{ id := id, subject := subject, status := .pending }] := by
  obtain ⟨run, stage, hnew, rfl, rfl, -, -, -, -, hcreate⟩ := createApprovalRun_eq_ok h
  refine ⟨hnew.id, ?_⟩
  rw [outline_createStageActions hcreate, ← hnew.status]
  exact List.map_append

theorem outcome_approveActionWrites {action : ApprovalAction} {run : ApprovalRun}
    {comment : String} (hr : run ∈ st.db.runs) (hpending : run.status = .pending)
    (hok : approveActionWrites handler user dir action run comment st = .ok st') :
    Outcome handler st st' := by
  obtain ⟨stage, -, -, hcases⟩ := approveActionWrites_eq_ok hok
  have hrecord : (recordApproval dir.now action stage comment st.db).outline = st.db.outline :=
    outline_eq_of_runs recordApproval_runs
  rcases hcases with ⟨-, rfl⟩ | ⟨-, hadvance⟩
  · exact .quiet hrecord rfl
  · rcases advanceOrCompleteRun_eq_ok hadvance with
      ⟨-, hdb, hsubjects⟩ | ⟨next, -, hcreate, hsubjects⟩
    · refine .decided run.outline .approved "" (outline_mem hr) hpending ?_ hsubjects
      rw [hdb, outline_setRunStatus, hrecord]
      rfl
    · refine .quiet ?_ hsubjects
      rw [outline_createStageActions hcreate, outline_setCurrentStage, hrecord]

theorem outcome_approveAction {id : ActionId} {actor : UserId} {comment : String}
    (h : st.db.Inv) (hok : approveAction handler user dir id actor comment st = .ok st') :
    Outcome handler st st' := by
  obtain ⟨a, ha, r, hr, -, hrun, -, hap, hwrites⟩ := approveAction_eq_ok hok
  exact outcome_approveActionWrites hr (h.live a ha hap r hr hrun).1 hwrites

theorem outcome_rejectAction {id : ActionId} {actor : UserId} {comment : String}
    (h : st.db.Inv) (hok : rejectAction handler dir id actor comment st = .ok st') :
    Outcome handler st st' := by
  obtain ⟨a, ha, r, hr, -, hrun, -, hap, hwrites⟩ := rejectAction_eq_ok hok
  obtain ⟨hdb, hsubjects⟩ := rejectActionWrites_eq_ok hwrites
  refine .decided r.outline .rejected comment (outline_mem hr) (h.live a ha hap r hr hrun).1 ?_
    hsubjects
  rw [hdb]
  exact outline_setRunStatus r.id .rejected

theorem outcome_cancelApprovalRun {now : Time} {id : RunId}
    {subjectStatus : Option SubjectStatus}
    (hcancel : ∀ s ∈ subjectStatus, s.runStatus = .cancelled)
    (hok : cancelApprovalRun handler now id subjectStatus st = .ok st') :
    Outcome handler st st' := by
  rcases cancelApprovalRun_eq_ok hok with rfl | ⟨r, hr, -, hpending, hwrites⟩
  · exact .quiet rfl rfl
  · obtain ⟨hdb, hsubjects⟩ := cancelApprovalRunWrites_eq_ok hwrites
    have houtline : st'.db.outline = setOutline r.id .cancelled st.db.outline := by
      rw [hdb]
      exact outline_setRunStatus r.id .cancelled
    cases subjectStatus with
    | none => exact .dropped r.outline (outline_mem hr) hpending houtline hsubjects
    | some s =>
      refine .decided r.outline s "" (outline_mem hr) hpending ?_ hsubjects
      rw [hcancel s rfl, houtline]
      rfl

/-- Escalations are not seen by the subjects. -/
theorem outline_processPendingActionEscalations :
    (processPendingActionEscalations user dir db).outline = db.outline := by
  refine escalateAll_induction (P := fun db₁ => db₁.outline = db.outline) ?_ rfl
  intro db₁ h₁ action _ target _ db₂ hok
  rcases escalateLocked_eq_ok hok with rfl | ⟨locked, -, -, -, db₃, hdb₃, rfl⟩
  · exact h₁
  · rcases hdb₃ with ⟨rfl, -⟩ | rfl <;> exact h₁

/-! ## The subject of a decision -/

/-- **The subject an approval decides**: that of the run it completes. -/
def decidedSubject (dir : Directory) (id : ActionId) (actor : UserId) (comment : String)
    (db : ApprovalDb) : Option ContentObject :=
  match readAction db id with
  | .error _ => none
  | .ok (action, run) =>
    match checkActionable dir action run actor, db.getStage action.stage with
    | .ok (), some stage =>
      let db := recordApproval dir.now action stage comment db
      if stageComplete action stage db
          ∧ (db.nextStage run.workflow run.currentStageSequence).isNone then
        some run.contentObject
      else none
    | _, _ => none

/-- An approval is handed to the subject it decides, and to no other. -/
theorem approveAction_subjects {id : ActionId} {actor : UserId} {comment : String}
    (hok : approveAction handler user dir id actor comment st = .ok st') :
    st'.subjects = st.subjects
      ∨ ∃ subject, decidedSubject dir id actor comment st.db = some subject
        ∧ handler.applySubjectStatus subject .approved "" st.subjects = .ok st'.subjects := by
  obtain ⟨⟨action, run⟩, hread, hok⟩ := bind_eq_ok_iff.mp hok
  obtain ⟨⟨⟩, hcheck, hwrites⟩ := bind_eq_ok_iff.mp hok
  unfold approveActionWrites at hwrites
  split at hwrites
  · cases hwrites
  · next stage hstage =>
    dsimp only at hwrites
    split at hwrites
    · next hcomplete =>
      rcases advanceOrCompleteRun_eq_ok hwrites with ⟨hlast, -, hsubjects⟩ | ⟨next, -, -, hsame⟩
      · refine Or.inr ⟨run.contentObject, ?_, hsubjects⟩
        unfold decidedSubject
        rw [hread]
        dsimp only
        rw [hcheck, hstage]
        exact if_pos ⟨hcomplete, Option.isNone_iff_eq_none.mpr hlast⟩
      · exact Or.inl hsame
    · obtain rfl := Except.ok.inj hwrites
      exact Or.inl rfl

/-- A rejection is handed to the subject of its run. -/
theorem rejectAction_subjects {id : ActionId} {actor : UserId} {comment : String}
    (hok : rejectAction handler dir id actor comment st = .ok st') :
    ∃ subject, handler.applySubjectStatus subject .rejected comment st.subjects
      = .ok st'.subjects := by
  obtain ⟨_, _, run, _, _, _, _, _, hwrites⟩ := rejectAction_eq_ok hok
  exact ⟨run.contentObject, (rejectActionWrites_eq_ok hwrites).2⟩

end Engine

end Approvals
