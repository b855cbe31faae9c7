import Clarisal.Approvals.Transactions

/-!
# The engine keeps its invariant

Every transaction of the engine keeps `Inv` and only lets runs evolve
(`Evolves`): a run keeps what it was created with, its stage never goes back
and a decided status is final.
-/

namespace Approvals

open Transaction

/-! ## How a run evolves -/

/-- A later row of the same run. -/
structure ApprovalRun.Advances (r r' : ApprovalRun) : Prop where
  same : { r' with status := r.status, currentStageSequence := r.currentStageSequence } = r
  sequence : r.currentStageSequence ≤ r'.currentStageSequence
  final : r.status ≠ .pending → r'.status = r.status

namespace ApprovalRun.Advances

variable {r r' r'' : ApprovalRun}

theorem refl (r : ApprovalRun) : r.Advances r := ⟨rfl, le_rfl, fun _ => rfl⟩

theorem id_eq (h : r.Advances r') : r'.id = r.id :=
  (congrArg ApprovalRun.id h.same :)

theorem contentObject_eq (h : r.Advances r') : r'.contentObject = r.contentObject :=
  (congrArg ApprovalRun.contentObject h.same :)

theorem trans (h : r.Advances r') (h' : r'.Advances r'') : r.Advances r'' where
  same := by
    rw [← h.same, ← h'.same]
  sequence := h.sequence.trans h'.sequence
  final hr := by
    have hr' := h.final hr
    exact (h'.final (hr' ▸ hr)).trans hr'

end ApprovalRun.Advances

namespace ApprovalDb

/-- **How the tables evolve** while workflows are not edited: runs advance, and
an action stays what it is an action of. -/
structure Evolves (db db' : ApprovalDb) : Prop where
  stages : db'.stages = db.stages
  nextId : db.nextId ≤ db'.nextId
  runs : ∀ r ∈ db.runs, ∃ r' ∈ db'.runs, r.Advances r'
  actions : ∀ a ∈ db.actions, ∃ a' ∈ db'.actions, a'.id = a.id
    ∧ a'.approvalRun = a.approvalRun ∧ a'.stage = a.stage
    ∧ a'.approverUser = a.approverUser

namespace Evolves

variable {db db' db'' : ApprovalDb}

theorem refl (db : ApprovalDb) : db.Evolves db :=
  ⟨rfl, le_rfl, fun r hr => ⟨r, hr, .refl r⟩, fun a ha => ⟨a, ha, rfl, rfl, rfl, rfl⟩⟩

theorem trans (h : db.Evolves db') (h' : db'.Evolves db'') : db.Evolves db'' where
  stages := h'.stages.trans h.stages
  nextId := h.nextId.trans h'.nextId
  runs r hr := by
    obtain ⟨r', hr', hadv⟩ := h.runs r hr
    obtain ⟨r'', hr'', hadv'⟩ := h'.runs r' hr'
    exact ⟨r'', hr'', hadv.trans hadv'⟩
  actions a ha := by
    obtain ⟨a', ha', hid, hrun, hstage, huser⟩ := h.actions a ha
    obtain ⟨a'', ha'', hid', hrun', hstage', huser'⟩ := h'.actions a' ha'
    exact ⟨a'', ha'', hid'.trans hid, hrun'.trans hrun, hstage'.trans hstage,
      huser'.trans huser⟩

theorem mapActions {g : ApprovalAction → ApprovalAction} (hg : KeepsPlace g) :
    db.Evolves { db with actions := db.actions.map g } where
  stages := rfl
  nextId := le_rfl
  runs r hr := ⟨r, hr, .refl r⟩
  actions a ha := ⟨g a, List.mem_map.mpr ⟨a, ha, rfl⟩, hg.id a, hg.approvalRun a, hg.stage a,
    hg.approverUser a⟩

theorem updateActions (p : ApprovalAction → Bool) {f : ApprovalAction → ApprovalAction}
    (hf : KeepsPlace f) : db.Evolves (db.updateActions p f) :=
  mapActions (hf.select p)

theorem insertAction (now : Time) (r : RunId) (s : StageId) (a : ApproverAssignment)
    (e : Option ActionId) : db.Evolves (db.insertAction now r s a e) :=
  ⟨rfl, Nat.le_succ _, fun r hr => ⟨r, hr, .refl r⟩,
    fun a ha => ⟨a, List.mem_append_left _ ha, rfl, rfl, rfl, rfl⟩⟩

theorem insertRun (run : ApprovalRun) : db.Evolves (db.insertRun run) :=
  ⟨rfl, Nat.le_succ _, fun r hr => ⟨r, List.mem_append_left _ hr, .refl r⟩,
    fun a ha => ⟨a, ha, rfl, rfl, rfl, rfl⟩⟩

theorem updateRun {id : RunId} {f : ApprovalRun → ApprovalRun}
    (hf : ∀ r ∈ db.runs, r.id = id → r.Advances (f r)) :
    db.Evolves (db.updateRun id f) := by
  refine ⟨rfl, le_rfl, fun r hr => ⟨_, Table.mem_update.mpr ⟨r, hr, rfl⟩, ?_⟩,
    fun a ha => ⟨a, ha, rfl, rfl, rfl, rfl⟩⟩
  by_cases hid : r.id = id
  · simpa [hid] using hf r hr hid
  · simpa [hid] using ApprovalRun.Advances.refl r

/-- A pending run may take any status. -/
theorem setRunStatus (h : db.Inv) {r : ApprovalRun} (hr : r ∈ db.runs)
    (hpending : r.status = .pending) (status : ApprovalRunStatus) :
    db.Evolves (db.setRunStatus r.id status) := by
  refine updateRun (fun r' hr' hid => ⟨rfl, le_rfl, fun hne => ?_⟩)
  rw [h.run_eq hr' hr hid] at hne
  exact absurd hpending hne

theorem setCurrentStage (h : db.Inv) {r : ApprovalRun} (hr : r ∈ db.runs) {n : ℕ}
    (hn : r.currentStageSequence ≤ n) : db.Evolves (db.setCurrentStage r.id n) := by
  refine updateRun (fun r' hr' hid => ⟨rfl, ?_, fun _ => rfl⟩)
  rw [h.run_eq hr' hr hid]
  exact hn

end Evolves

end ApprovalDb

/-! ## Recording an approval -/

section Record

variable {db : ApprovalDb} {now : Time} {action : ApprovalAction} {run : ApprovalRun}
  {stage : ApprovalStage} {comment : String}

@[simp] theorem recordApproval_runs :
    (recordApproval now action stage comment db).runs = db.runs := by
  unfold recordApproval
  cases stage.mode <;> rfl

@[simp] theorem recordApproval_stages :
    (recordApproval now action stage comment db).stages = db.stages := by
  unfold recordApproval
  cases stage.mode <;> rfl

theorem evolves_recordApproval :
    db.Evolves (recordApproval now action stage comment db) := by
  have hfirst : db.Evolves (db.updateActions (fun a => a.id = action.id) _) :=
    .updateActions _ (.decide .approved comment now)
  unfold recordApproval
  cases stage.mode with
  | all => exact hfirst
  | any => exact hfirst.trans (.updateActions _ (.close _ _))

/-- The approved action is among the recorded ones. -/
theorem decide_mem_recordApproval (ha : action ∈ db.actions) :
    action.decide .approved comment now
      ∈ (recordApproval now action stage comment db).actions := by
  have hfirst : action.decide .approved comment now
      ∈ (db.updateActions (fun a => a.id = action.id)
          (ApprovalAction.decide .approved comment now)).actions :=
    Table.mem_update.mpr ⟨action, ha, by simp⟩
  unfold recordApproval
  cases stage.mode with
  | all => exact hfirst
  | any => exact Table.mem_update.mpr ⟨_, hfirst, by simp [ApprovalAction.decide]⟩

/-- A recorded action that is pending was pending and is another one; under
mode ANY it is not a sibling. -/
theorem pending_of_mem_recordApproval {b : ApprovalAction}
    (hb : b ∈ (recordApproval now action stage comment db).actions)
    (hpending : b.status = .pending) :
    b ∈ db.actions ∧ b.id ≠ action.id
      ∧ (stage.mode = .any → isPendingSibling action b = false) := by
  have hother : ∀ b ∈ (db.updateActions (fun a => a.id = action.id)
      (ApprovalAction.decide .approved comment now)).actions, b.status = .pending →
      b ∈ db.actions ∧ b.id ≠ action.id := by
    intro b hb hpending
    rcases Table.mem_update_iff.mp hb with ⟨a, -, -, rfl⟩ | ⟨hb, hne⟩
    · cases hpending
    · exact ⟨hb, by simpa using hne⟩
  unfold recordApproval at hb
  cases hmode : stage.mode with
  | all =>
    rw [hmode] at hb
    obtain ⟨hmem, hne⟩ := hother b hb hpending
    exact ⟨hmem, hne, fun h => nomatch h⟩
  | any =>
    rw [hmode] at hb
    rcases Table.mem_update_iff.mp hb with ⟨a, -, -, rfl⟩ | ⟨hb, hp⟩
    · cases hpending
    · obtain ⟨hmem, hne⟩ := hother b hb hpending
      refine ⟨hmem, hne, fun _ => ?_⟩
      simpa [hne] using hp

variable (h : db.Inv) (ha : action ∈ db.actions) (hap : action.status = .pending)
  (hr : run ∈ db.runs) (hrun : run.id = action.approvalRun)
  (hs : stage ∈ db.stages.rows) (hsid : stage.id = action.stage)

include h ha hap hs hsid in
/-- **A recorded approval keeps the invariant.** -/
theorem ApprovalDb.Inv.recordApproval (now : Time) (comment : String) :
    (recordApproval now action stage comment db).Inv := by
  have hfirst : (db.updateActions (fun a => a.id = action.id)
      (ApprovalAction.decide .approved comment now)).Inv := by
    refine h.updateActions (.decide _ _ _) (fun a hmem hid => ?_) (fun _ _ _ _ _ _ _ => Or.inl rfl)
    rw [h.action_eq hmem ha (by simpa using hid)]
    exact hap
  unfold Approvals.recordApproval
  cases hmode : stage.mode with
  | all => exact hfirst
  | any =>
    refine hfirst.updateActions (.close _ _) (fun a _ hp => ?_) (fun a _ hp u hu hua hall => ?_)
    · simp only [Bool.and_eq_true, isPendingSibling, decide_eq_true_eq] at hp
      exact hp.1.2.2
    · simp only [Bool.and_eq_true, isPendingSibling, decide_eq_true_eq] at hp
      have : u = stage := db.stages.eq_of_id hu hs (hua.trans (hp.1.2.1.trans hsid.symm))
      rw [this, hmode] at hall
      cases hall

include h ha hap hr hrun hs hsid in
/-- The stage of a pending action is the current one of its run. -/
theorem stage_current : stage.workflow = run.workflow
    ∧ stage.sequence = run.currentStageSequence := by
  obtain ⟨r, hmem, hid, s, hsmem, hs', hw, -⟩ := h.placed action ha
  obtain rfl := h.run_eq hmem hr (hid.trans hrun.symm)
  obtain rfl := db.stages.eq_of_id hsmem hs (hs'.trans hsid.symm)
  exact ⟨hw, (h.live action ha hap r hr hid).2 s hs hs'⟩

include h ha hap hr hrun hs hsid in
/-- **A complete stage** leaves the run no pending action. -/
theorem noPending_of_stageComplete
    (hc : stageComplete action stage (recordApproval now action stage comment db) = true) :
    ApprovalDb.Inv.NoPending (recordApproval now action stage comment db) run.id := by
  intro b hb hbr hpending
  have h' := h.recordApproval ha hap hs hsid now comment
  obtain ⟨hw, hseq⟩ := stage_current h ha hap hr hrun hs hsid
  obtain ⟨hmem, hne, hany⟩ := pending_of_mem_recordApproval hb hpending
  -- a pending action of the run is of its current stage, so it is a sibling
  obtain ⟨r, hr', hid, u, hu, huid, huw, -⟩ := h.placed b hmem
  obtain rfl := h.run_eq hr' hr (hid.trans hbr)
  have huseq := (h.live b hmem hpending r hr hid).2 u hu huid
  obtain rfl := db.stages.eq_of_sequence hu hs (huw.trans hw.symm) (huseq.trans hseq.symm)
  have hsibling : isPendingSibling action b = true := by
    simp [isPendingSibling, hbr, hrun, ← huid, hsid, hpending]
  cases hmode : u.mode with
  | any => rw [hany hmode] at hsibling; cases hsibling
  | all =>
    have : (recordApproval now action u comment db).actions.any (isPendingSibling action)
        = true := List.any_eq_true.mpr ⟨b, hb, hsibling⟩
    rw [stageComplete, hmode] at hc
    simp only [this] at hc
    cases hc

include h ha hap hr hrun hs hsid in
/-- **A complete stage has its quorum.** -/
theorem quorum_of_stageComplete
    (hc : stageComplete action stage (recordApproval now action stage comment db) = true) :
    (recordApproval now action stage comment db).QuorumReached run.id stage := by
  have h' := h.recordApproval ha hap hs hsid now comment
  have hnone := noPending_of_stageComplete h ha hap hr hrun hs hsid hc
  have hrp : run.status = .pending := (h.live action ha hap run hr hrun).1
  refine ⟨⟨_, decide_mem_recordApproval ha, hrun.symm, hsid.symm, rfl⟩, ?_⟩
  intro hmode a hmem har has
  exact (h'.votes run (by simpa using hr) hrp stage (by simpa using hs) hmode a hmem har
    has).resolve_left (hnone a hmem har)

end Record

/-! ## The transactions -/

section Engine

variable {S : Type} {handler : SubjectHandler S} {user : EmployeeId → UserId}
  {dir : Directory} {st st' : EngineState S} {db db' : ApprovalDb}

/-- What a transaction keeps: the invariant, with the tables evolving. -/
def Kept (db db' : ApprovalDb) : Prop := db'.Inv ∧ db.Evolves db'

/-- Opening the current stage of a pending run. -/
theorem kept_createStageActions (run : ApprovalRun) {stage : ApprovalStage} (h : db.Inv)
    (hr : run ∈ db.runs) (hpending : run.status = .pending) (hs : stage ∈ db.stages.rows)
    (hw : stage.workflow = run.workflow) (hseq : stage.sequence = run.currentStageSequence)
    (hok : createStageActions user dir run stage db = .ok db') : Kept db db' := by
  have hinsert : ∀ db₁ : ApprovalDb, db₁.Inv → db₁.stages = db.stages → run ∈ db₁.runs →
      ∀ a, (db₁.insertAction dir.now run.id stage.id a none).Inv := by
    intro db₁ h₁ hstages hr₁ a
    exact h₁.insertAction hr₁ hpending (hstages ▸ hs) hw hseq _ _ _
  suffices Kept db db' ∧ db'.stages = db.stages ∧ run ∈ db'.runs from this.1
  refine createStageActions_induction
    (P := fun db₁ => Kept db db₁ ∧ db₁.stages = db.stages ∧ run ∈ db₁.runs) ?_ ?_ hok
  · intro a _
    exact ⟨⟨hinsert db h rfl hr a, .insertAction _ _ _ _ _⟩, rfl, hr⟩
  · rintro db₁ a _ ⟨⟨h₁, hev⟩, hstages, hr₁⟩
    exact ⟨⟨hinsert db₁ h₁ hstages hr₁ a, hev.trans (.insertAction _ _ _ _ _)⟩, hstages, hr₁⟩

/-- **Creating a run.** -/
theorem kept_createApprovalRun {workflow : WorkflowId} {requestKind : ApprovalRequestKind}
    {organisation : OrganisationId} {requester : Option EmployeeId}
    {subject : ContentObject} {id : RunId} (h : db.Inv)
    (hok : createApprovalRun user dir workflow requestKind organisation requester subject db
      = .ok (id, db')) : Kept db db' := by
  obtain ⟨run, stage, hnew, -, -, -, -, -, -, hcreate⟩ := createApprovalRun_eq_ok hok
  obtain ⟨hs, hw, hfirst⟩ := ApprovalDb.firstStage_eq_some hnew.first
  have hrun : (db.insertRun run).Inv :=
    h.insertRun hnew.id hnew.status (fun s hs hw => hnew.sequence ▸ hfirst s hs hw)
  obtain ⟨hinv, hev⟩ := kept_createStageActions _ hrun
    (List.mem_append_right _ (List.mem_singleton_self _)) hnew.status hs hw
    hnew.sequence.symm hcreate
  exact ⟨hinv, (ApprovalDb.Evolves.insertRun run).trans hev⟩

/-- **Ending a stage** whose predecessors, and itself, reached their quorum. -/
theorem kept_advanceOrCompleteRun {run : ApprovalRun} (h : st.db.Inv)
    (hr : run ∈ st.db.runs) (hpending : run.status = .pending)
    (hnone : ApprovalDb.Inv.NoPending st.db run.id)
    (hpassed : ∀ s ∈ st.db.stages.rows, s.workflow = run.workflow →
      s.sequence ≤ run.currentStageSequence →
      s.sequence < run.currentStageSequence ∨ st.db.QuorumReached run.id s)
    (hok : advanceOrCompleteRun handler user dir run st = .ok st') :
    Kept st.db st'.db := by
  rcases advanceOrCompleteRun_eq_ok hok with ⟨hlast, hdb, -⟩ | ⟨next, hnext, hcreate, -⟩
  · rw [hdb]
    refine ⟨h.setApproved hr hnone (fun s hs hw => ?_), .setRunStatus h hr hpending _⟩
    exact hpassed s hs hw (ApprovalDb.nextStage_eq_none hlast s hs hw)
  · obtain ⟨hs, hw, hlt, hbelow⟩ := ApprovalDb.nextStage_eq_some hnext
    have hmoved : (st.db.setCurrentStage run.id next.sequence).Inv :=
      h.setCurrentStage hr hpending hnone hlt.le
        (fun s hs hw hslt => hpassed s hs hw (hbelow s hs hw hslt))
    obtain ⟨hinv, hev⟩ := kept_createStageActions
        { run with currentStageSequence := next.sequence } hmoved
      (Table.mem_update.mpr ⟨run, hr, by simp⟩) hpending hs hw rfl hcreate
    exact ⟨hinv, (ApprovalDb.Evolves.setCurrentStage h hr hlt.le).trans hev⟩

/-- **Approving** a pending action of a run, on the rows as they stand. -/
theorem kept_approveActionWrites {action : ApprovalAction} {run : ApprovalRun}
    {comment : String} (h : st.db.Inv) (ha : action ∈ st.db.actions)
    (hap : action.status = .pending) (hr : run ∈ st.db.runs)
    (hrun : run.id = action.approvalRun)
    (hok : approveActionWrites handler user dir action run comment st = .ok st') :
    Kept st.db st'.db := by
  obtain ⟨stage, hs, hsid, hcases⟩ := approveActionWrites_eq_ok hok
  have hinv := h.recordApproval ha hap hs hsid dir.now comment
  have hev : st.db.Evolves (recordApproval dir.now action stage comment st.db) :=
    evolves_recordApproval
  rcases hcases with ⟨-, rfl⟩ | ⟨hc, hadvance⟩
  · exact ⟨hinv, hev⟩
  · obtain ⟨hw, hseq⟩ := stage_current h ha hap hr hrun hs hsid
    have hkept := kept_advanceOrCompleteRun hinv
      (by simpa using hr) (h.live action ha hap run hr hrun).1
      (noPending_of_stageComplete h ha hap hr hrun hs hsid hc) (by
        intro s hs' hw' hle
        rcases hle.lt_or_eq with hlt | heq
        · exact Or.inl hlt
        · obtain rfl : s = stage := st.db.stages.eq_of_sequence (by simpa using hs') hs
            (hw'.trans hw.symm) (heq.trans hseq.symm)
          exact Or.inr (quorum_of_stageComplete h ha hap hr hrun hs hsid hc)) hadvance
    exact ⟨hkept.1, hev.trans hkept.2⟩

theorem keepsPlace_rejectActions (now : Time) (action : ApprovalAction) (run : ApprovalRun)
    (comment : String) : KeepsPlace (rejectActions now action run comment) :=
  .comp (f := fun a => if a.id = action.id then a.decide .rejected comment now else a)
    ((KeepsPlace.close .cancelled now).select
      (fun a => a.approvalRun = run.id && a.status = .pending && a.id != action.id))
    (by simpa using (KeepsPlace.decide .rejected comment now).select (fun a => a.id = action.id))

/-- **Rejecting** a pending action of a run, on the rows as they stand. -/
theorem kept_rejectActionWrites {action : ApprovalAction} {run : ApprovalRun}
    {comment : String} (h : st.db.Inv) (ha : action ∈ st.db.actions)
    (hap : action.status = .pending) (hr : run ∈ st.db.runs)
    (hrun : run.id = action.approvalRun)
    (hok : rejectActionWrites handler dir action run comment st = .ok st') :
    Kept st.db st'.db := by
  obtain ⟨hdb, -⟩ := rejectActionWrites_eq_ok hok
  have hrp := (h.live action ha hap run hr hrun).1
  rw [hdb]
  constructor
  · refine h.close hr (Or.inl rfl) (keepsPlace_rejectActions _ _ _ _) ?_ ?_
    · intro a hmem hor
      have hne : a.id ≠ action.id := by
        intro hid
        obtain rfl := h.action_eq hmem ha hid
        rcases hor with hnp | hnr
        · exact hnp hap
        · exact hnr hrun.symm
      rcases hor with hnp | hnr
      · simp [rejectActions, hne, hnp]
      · simp [rejectActions, hne, hnr]
    · intro a hmem har hpending
      unfold rejectActions at hpending
      by_cases hid : a.id = action.id
      · simp [hid, ApprovalAction.decide] at hpending
      · by_cases hp : a.status = .pending
        · simp [hid, har, hp, ApprovalAction.close] at hpending
        · simp [hid, har, hp] at hpending
  · exact (ApprovalDb.Evolves.setRunStatus h hr hrp .rejected).trans
      (.mapActions (keepsPlace_rejectActions _ _ _ _))

/-- **Cancelling** a pending run, on the row as it stands. -/
theorem kept_cancelApprovalRunWrites {now : Time} {run : ApprovalRun}
    {subjectStatus : Option SubjectStatus} (h : st.db.Inv) (hr : run ∈ st.db.runs)
    (hpending : run.status = .pending)
    (hok : cancelApprovalRunWrites handler now run subjectStatus st = .ok st') :
    Kept st.db st'.db := by
  obtain ⟨hdb, -⟩ := cancelApprovalRunWrites_eq_ok hok
  rw [hdb]
  constructor
  · refine h.close hr (Or.inr rfl) ((KeepsPlace.close _ _).select _) ?_ ?_
    · intro a _ hor
      rcases hor with hnp | hnr
      · simp [cancelActions, hnp]
      · simp [cancelActions, hnr]
    · intro a _ har hp
      unfold cancelActions at hp
      by_cases hap : a.status = .pending
      · simp [har, hap, ApprovalAction.close] at hp
      · simp [har, hap] at hp
  · exact (ApprovalDb.Evolves.setRunStatus h hr hpending .cancelled).trans
      (.mapActions ((KeepsPlace.close _ _).select _))

theorem evolves_escalateLocked {now : Time} {id : ActionId}
    {target : UserId × Option EmployeeId}
    (hok : escalateLocked now id target db = .ok db') : db.Evolves db' := by
  rcases escalateLocked_eq_ok hok with rfl | ⟨locked, -, -, -, db₁, hdb₁, rfl⟩
  · exact .refl db'
  · have hev : db.Evolves db₁ := by
      rcases hdb₁ with ⟨rfl, -⟩ | rfl
      · exact .refl _
      · exact .insertAction _ _ _ _ _
    exact hev.trans (.updateActions _ (.escalate now))

/-- **One escalation.** -/
theorem kept_escalateLocked {now : Time} {id : ActionId}
    {target : UserId × Option EmployeeId} (h : db.Inv)
    (hok : escalateLocked now id target db = .ok db') : Kept db db' := by
  refine ⟨?_, evolves_escalateLocked hok⟩
  rcases escalateLocked_eq_ok hok with
    rfl | ⟨locked, hl, -, hpending, db₁, hdb₁, rfl⟩
  · exact h
  · obtain ⟨r, hr, hrun, s, hs, hsid, hw, -⟩ := h.placed locked hl
    obtain ⟨hrp, hseq⟩ := h.live locked hl hpending r hr hrun
    have hkept : db₁.Inv ∧ locked ∈ db₁.actions := by
      rcases hdb₁ with ⟨rfl, -⟩ | rfl
      · exact ⟨h, hl⟩
      · refine ⟨?_, List.mem_append_left _ hl⟩
        rw [← hrun, ← hsid]
        exact h.insertAction hr hrp hs hw (hseq s hs hsid) _ _ _
    obtain ⟨hinv, hl₁⟩ := hkept
    refine hinv.updateActions (.escalate now) (fun a ha hid => ?_) (fun a _ _ s _ _ _ => ?_)
    · rw [hinv.action_eq ha hl₁ (by simpa using hid)]
      exact hpending
    · exact Or.inr ⟨rfl, by simp [ApprovalAction.escalate]⟩

/-- **A batch of escalations.** -/
theorem kept_processPendingActionEscalations (h : db.Inv) :
    Kept db (processPendingActionEscalations user dir db) := by
  refine escalateAll_induction (P := Kept db) ?_ ⟨h, .refl db⟩
  rintro db₁ ⟨h₁, hev⟩ action - target - db₂ hok
  obtain ⟨h₂, hev₂⟩ := kept_escalateLocked h₁ hok
  exact ⟨h₂, hev.trans hev₂⟩

theorem kept_approveAction {id : ActionId} {actor : UserId} {comment : String} (h : st.db.Inv)
    (hok : approveAction handler user dir id actor comment st = .ok st') : Kept st.db st'.db := by
  obtain ⟨a, ha, r, hr, -, hrun, -, hap, hwrites⟩ := approveAction_eq_ok hok
  exact kept_approveActionWrites h ha hap hr hrun hwrites

theorem kept_rejectAction {id : ActionId} {actor : UserId} {comment : String} (h : st.db.Inv)
    (hok : rejectAction handler dir id actor comment st = .ok st') : Kept st.db st'.db := by
  obtain ⟨a, ha, r, hr, -, hrun, -, hap, hwrites⟩ := rejectAction_eq_ok hok
  exact kept_rejectActionWrites h ha hap hr hrun hwrites

theorem kept_cancelApprovalRun {now : Time} {id : RunId} {subjectStatus : Option SubjectStatus}
    (h : st.db.Inv) (hok : cancelApprovalRun handler now id subjectStatus st = .ok st') :
    Kept st.db st'.db := by
  rcases cancelApprovalRun_eq_ok hok with rfl | ⟨r, hr, -, hpending, hwrites⟩
  · exact ⟨h, .refl _⟩
  · exact kept_cancelApprovalRunWrites h hr hpending hwrites

/-- **Every request keeps the invariant**, and the tables evolve. -/
theorem kept_perform {op : Op} (h : st.db.Inv)
    (hok : perform handler user st op = .ok st') : Kept st.db st'.db := by
  cases op with
  | createApprovalRun dir workflow kind organisation requester subject =>
    obtain ⟨⟨id, db⟩, hcreate, hret⟩ := bind_eq_ok_iff.mp hok
    obtain rfl := pure_eq_ok_iff.mp hret
    exact kept_createApprovalRun h hcreate
  | approveAction dir action actor comment => exact kept_approveAction h hok
  | rejectAction dir action actor comment => exact kept_rejectAction h hok
  | processPendingActionEscalations dir =>
    obtain rfl := Except.ok.inj hok
    exact kept_processPendingActionEscalations h
  | cancelApprovalRun now run subjectStatus => exact kept_cancelApprovalRun h hok

theorem kept_step (h : st.db.Inv) (op : Op) : Kept st.db (step handler user st op).db := by
  refine settle_induction (P := fun s : EngineState S => Kept st.db s.db) ⟨h, .refl _⟩
    (fun st' hok => ?_)
  exact kept_perform h hok

theorem keys_initial (stages : StageTable) (subjects : S) :
    (EngineState.initial stages subjects).db.Keys where
  uniqueRun := List.nodup_nil
  uniqueAction := List.nodup_nil
  freshRun _ hr := absurd hr List.not_mem_nil
  freshAction _ ha := absurd ha List.not_mem_nil
  hasRun _ ha := absurd ha List.not_mem_nil

/-- The empty tables satisfy the invariant. -/
theorem inv_initial (stages : StageTable) (subjects : S) :
    (EngineState.initial stages subjects).db.Inv where
  toKeys := keys_initial stages subjects
  placed _ ha := absurd ha List.not_mem_nil
  live _ ha := absurd ha List.not_mem_nil
  passed _ hr := absurd hr List.not_mem_nil
  votes _ hr := absurd hr List.not_mem_nil

/-- **Every reachable state satisfies the invariant.** -/
theorem inv_exec (h : st.db.Inv) (ops : List Op) :
    (Run.exec (step handler user) st ops).db.Inv :=
  Run.invariant (I := fun st : EngineState S => st.db.Inv) (fun _ op h => (kept_step h op).1)
    h ops

/-- **Every run evolves the tables.** -/
theorem evolves_exec (h : st.db.Inv) (ops : List Op) :
    st.db.Evolves (Run.exec (step handler user) st ops).db :=
  Run.related (I := fun st : EngineState S => st.db.Inv)
    (R := fun st st' => st.db.Evolves st'.db) (fun _ => .refl _)
    (fun _ _ _ h h' => h.trans h') (fun _ op h => kept_step h op) h ops

end Engine

end Approvals
