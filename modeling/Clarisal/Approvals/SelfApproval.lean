import Clarisal.Approvals.Quorum

/-!
# Self approval

The resolution filters the requester out of a stage's candidates, and three
paths go round the filter: the fallback that replaces a filtered candidate,
the fallback of a stage without candidates, and the target of an escalation.
None of them is compared with the requester, so an organisation in which the
requester *is* the fallback or the escalation target lets employees approve
their own requests (`ownerApproves_self`).

`SelfApprovalGuard` says of one request that it does not take one of these
paths to the requester; where every request meets it, no action is ever
assigned to the requester of its run (`noSelfApproval_of_guarded`).
-/

namespace Approvals

variable {S : Type} (handler : SubjectHandler S) (user : EmployeeId → UserId)

/-- The run forbids its requester to approve, and `u` is the requester. -/
def ApprovalRun.isSelf (r : ApprovalRun) (u : UserId) : Bool :=
  r.requestedBy.map user = some u && !selfApprovalAllowed r.requestKind

/-- **No action is assigned to the requester of its run.** -/
def ApprovalDb.NoSelfApproval (db : ApprovalDb) : Prop :=
  ∀ a ∈ db.actions, ∀ r ∈ db.runs, r.id = a.approvalRun → r.isSelf user a.approverUser = false

instance (db : ApprovalDb) : Decidable (db.NoSelfApproval user) :=
  inferInstanceAs (Decidable (∀ a ∈ db.actions, ∀ r ∈ db.runs, _ → _))

/-! ## The paths round the filter -/

/-- A stage about to be opened, with what its resolution reads. -/
structure StageOpening where
  dir : Directory
  stage : ApprovalStage
  requester : Option EmployeeId
  organisation : OrganisationId
  requestKind : ApprovalRequestKind

/-- The fallback is consulted and is the requester. -/
def StageOpening.Leaks (o : StageOpening) : Prop :=
  ConsultsFallback user o.dir o.stage o.requester o.organisation o.requestKind
    ∧ FallbackIsRequester user o.dir o.stage o.requester o.organisation o.requestKind

instance (o : StageOpening) : Decidable (o.Leaks user) :=
  inferInstanceAs (Decidable (_ ∧ _))

/-- The stage the approval of an action would open. -/
def nextOpening (dir : Directory) (action : ApprovalAction) (run : ApprovalRun)
    (comment : String) (db : ApprovalDb) : Option StageOpening := do
  let stage ← db.getStage action.stage
  if stageComplete action stage (recordApproval dir.now action stage comment db) then
    let next ← db.nextStage run.workflow run.currentStageSequence
    return ⟨dir, next, run.requestedBy, run.organisation, run.requestKind⟩
  else none

/-- The stage a request opens. -/
def openingOf (db : ApprovalDb) : Op → Option StageOpening
  | .createApprovalRun dir workflow requestKind organisation requester _ =>
    (db.firstStage workflow).map (fun stage =>
      ⟨dir, stage, requester, organisation, requestKind⟩)
  | .approveAction dir id actor comment =>
    match readAction db id with
    | .error _ => none
    | .ok (action, run) =>
      match checkActionable dir action run actor with
      | .error _ => none
      | .ok _ => nextOpening dir action run comment db
  | _ => none

/-- The runs a request escalates, with the target of each escalation. -/
def escalationsOf (db : ApprovalDb) : Op → List (ApprovalRun × UserId)
  | .processPendingActionEscalations dir =>
    (db.actions.filter (fun a => a.status = .pending
      ∧ db.runs.any (fun r => r.id = a.approvalRun ∧ r.status = .pending))).filterMap
        (fun a => do
          let run ← db.getRun a.approvalRun
          let target ← escalationTarget user dir db a
          return (run, target.1))
  | _ => []

/-- **A request that keeps off the paths round the filter**: the stage it
opens does not fall back on the requester, and no action it escalates goes to
the requester. -/
def SelfApprovalGuard (st : EngineState S) (op : Op) : Prop :=
  (∀ o ∈ openingOf st.db op, ¬ o.Leaks user)
    ∧ ∀ e ∈ escalationsOf user st.db op, e.1.isSelf user e.2 = false

instance (st : EngineState S) (op : Op) : Decidable (SelfApprovalGuard user st op) :=
  inferInstanceAs (Decidable (_ ∧ _))

/-! ## The writes keep the requester out -/

namespace ApprovalDb.NoSelfApproval

variable {user} {db : ApprovalDb}

theorem map (h : db.NoSelfApproval user) {g : ApprovalAction → ApprovalAction}
    (hg : KeepsPlace g) : NoSelfApproval user { db with actions := db.actions.map g } := by
  intro b hb r hr hrun
  obtain ⟨a, ha, rfl⟩ := List.mem_map.mp hb
  rw [hg.approverUser]
  rw [hg.approvalRun] at hrun
  exact h a ha r hr hrun

theorem updateActions (h : db.NoSelfApproval user) (p : ApprovalAction → Bool)
    {f : ApprovalAction → ApprovalAction} (hf : KeepsPlace f) :
    NoSelfApproval user (db.updateActions p f) :=
  h.map (hf.select p)

theorem updateRun (h : db.NoSelfApproval user) (id : RunId) {f : ApprovalRun → ApprovalRun}
    (hid : ∀ r, (f r).id = r.id) (hself : ∀ r u, (f r).isSelf user u = r.isSelf user u) :
    NoSelfApproval user (db.updateRun id f) := by
  intro a ha r hr hrun
  rcases Table.mem_update_iff.mp hr with ⟨r₀, hr₀, -, rfl⟩ | ⟨hr, -⟩
  · rw [hid] at hrun
    rw [hself]
    exact h a ha r₀ hr₀ hrun
  · exact h a ha r hr hrun

theorem setRunStatus (h : db.NoSelfApproval user) (id : RunId) (status : ApprovalRunStatus) :
    NoSelfApproval user (db.setRunStatus id status) :=
  h.updateRun id (fun _ => rfl) (fun _ _ => rfl)

theorem setCurrentStage (h : db.NoSelfApproval user) (id : RunId) (n : ℕ) :
    NoSelfApproval user (db.setCurrentStage id n) :=
  h.updateRun id (fun _ => rfl) (fun _ _ => rfl)

theorem insertAction (h : db.NoSelfApproval user) {r : RunId} {a : ApproverAssignment}
    (hnew : ∀ run ∈ db.runs, run.id = r → run.isSelf user a.approverUser = false)
    (now : Time) (s : StageId) (e : Option ActionId) :
    NoSelfApproval user (db.insertAction now r s a e) := by
  intro b hb run hrun hid
  rcases List.mem_append.mp hb with hb | hb
  · exact h b hb run hrun hid
  · rw [List.mem_singleton.mp hb] at hid ⊢
    exact hnew run hrun hid

theorem insertRun (h : db.NoSelfApproval user) (hinv : db.Inv) {run : ApprovalRun}
    (hid : run.id = db.nextId) : NoSelfApproval user (db.insertRun run) := by
  intro a ha r hr hrun
  rcases List.mem_append.mp hr with hr | hr
  · exact h a ha r hr hrun
  · rw [List.mem_singleton.mp hr] at hrun
    exact absurd hrun.symm (hinv.run_ne_new hid ha)

end ApprovalDb.NoSelfApproval

theorem recordApproval_noSelfApproval {user} {db : ApprovalDb} (h : db.NoSelfApproval user)
    (now : Time) (action : ApprovalAction) (stage : ApprovalStage) (comment : String) :
    (recordApproval now action stage comment db).NoSelfApproval user := by
  have hfirst := h.updateActions (fun a => a.id = action.id) (.decide .approved comment now)
  unfold recordApproval
  cases stage.mode with
  | all => exact hfirst
  | any => exact hfirst.updateActions _ (.close _ _)

/-! ## The transactions -/

section Engine

variable {handler user} {dir : Directory} {st st' : EngineState S} {db db' : ApprovalDb}

/-- Opening a stage that does not leak. -/
theorem noSelfApproval_createStageActions (run : ApprovalRun) {stage : ApprovalStage}
    (h : db.NoSelfApproval user)
    (hruns : ∀ r ∈ db.runs, r.id = run.id →
      r.requestedBy = run.requestedBy ∧ r.requestKind = run.requestKind)
    (hsafe : ¬ StageOpening.Leaks user
      ⟨dir, stage, run.requestedBy, run.organisation, run.requestKind⟩)
    (hok : createStageActions user dir run stage db = .ok db') :
    db'.NoSelfApproval user := by
  have hother : ∀ a ∈ stageApprovers user dir stage run.requestedBy run.organisation
      run.requestKind, ∀ r ∈ db.runs, r.id = run.id → r.isSelf user a.approverUser = false := by
    intro a ha r hr hid
    obtain ⟨hby, hkind⟩ := hruns r hr hid
    rw [StageOpening.Leaks, ← exists_requester_mem_iff] at hsafe
    have hnot : ¬ isSelfAssignment user run.requestedBy run.requestKind a = true :=
      fun hself => hsafe ⟨a, ha, hself⟩
    rw [ApprovalRun.isSelf, hby, hkind]
    exact Bool.eq_false_iff.mpr hnot
  suffices db'.NoSelfApproval user ∧ db'.runs = db.runs from this.1
  refine createStageActions_induction
    (P := fun db₁ => db₁.NoSelfApproval user ∧ db₁.runs = db.runs) ?_ ?_ hok
  · intro a ha
    exact ⟨h.insertAction (hother a ha) _ _ _, rfl⟩
  · rintro db₁ a ha ⟨h₁, hruns₁⟩
    exact ⟨h₁.insertAction (fun r hr => hother a ha r (hruns₁ ▸ hr)) _ _ _, hruns₁⟩

/-- Creating a run. -/
theorem noSelfApproval_createApprovalRun {workflow : WorkflowId}
    {requestKind : ApprovalRequestKind} {organisation : OrganisationId}
    {requester : Option EmployeeId} {subject : ContentObject} {id : RunId}
    (hinv : db.Inv) (h : db.NoSelfApproval user)
    (hsafe : ∀ stage ∈ db.firstStage workflow,
      ¬ StageOpening.Leaks user ⟨dir, stage, requester, organisation, requestKind⟩)
    (hok : createApprovalRun user dir workflow requestKind organisation requester subject db
      = .ok (id, db')) : db'.NoSelfApproval user := by
  obtain ⟨run, stage, hnew, -, -, rfl, rfl, rfl, rfl, hcreate⟩ := createApprovalRun_eq_ok hok
  refine noSelfApproval_createStageActions _ (h.insertRun hinv hnew.id) ?_
    (hsafe stage hnew.first) hcreate
  intro r hr hid
  rcases List.mem_append.mp hr with hr | hr
  · exact absurd (hid.trans hnew.id) (hinv.freshRun r hr).ne
  · rw [List.mem_singleton.mp hr]
    exact ⟨rfl, rfl⟩

/-- Approving an action. -/
theorem noSelfApproval_approveActionWrites {action : ApprovalAction} {run : ApprovalRun}
    {comment : String} (hinv : st.db.Inv) (h : st.db.NoSelfApproval user)
    (hr : run ∈ st.db.runs)
    (hsafe : ∀ o ∈ nextOpening dir action run comment st.db, ¬ o.Leaks user)
    (hok : approveActionWrites handler user dir action run comment st = .ok st') :
    st'.db.NoSelfApproval user := by
  obtain ⟨stage, hs, hsid, hcases⟩ := approveActionWrites_eq_ok hok
  have hrecord := recordApproval_noSelfApproval h dir.now action stage comment
  rcases hcases with ⟨-, rfl⟩ | ⟨hc, hadvance⟩
  · exact hrecord
  · rcases advanceOrCompleteRun_eq_ok hadvance with ⟨-, hdb, -⟩ | ⟨next, hnext, hcreate, -⟩
    · rw [hdb]
      exact hrecord.setRunStatus _ _
    · refine noSelfApproval_createStageActions
        { run with currentStageSequence := next.sequence } (hrecord.setCurrentStage _ _)
        ?_ (hsafe ⟨dir, next, run.requestedBy, run.organisation, run.requestKind⟩ ?_) hcreate
      · intro r hr' hid
        rcases Table.mem_update_iff.mp hr' with ⟨r₀, hr₀, heq, rfl⟩ | ⟨-, hne⟩
        · rw [recordApproval_runs] at hr₀
          obtain rfl := hinv.run_eq hr₀ hr (by simpa using heq)
          exact ⟨rfl, rfl⟩
        · exact absurd hid (by simpa using hne)
      · have hstage : st.db.getStage action.stage = some stage :=
          ApprovalDb.getStage_eq_some.mpr ⟨hs, hsid⟩
        have hnext' : st.db.nextStage run.workflow run.currentStageSequence = some next := by
          simpa [ApprovalDb.nextStage, ApprovalDb.workflowStages] using hnext
        simp [nextOpening, hstage, hc, hnext']

/-- The target of an escalation is resolved from the stages and runs, which a
batch leaves alone. -/
theorem escalationTarget_congr (hstages : db'.stages = db.stages) (hruns : db'.runs = db.runs)
    (action : ApprovalAction) :
    escalationTarget user dir db' action = escalationTarget user dir db action := by
  unfold escalationTarget ApprovalDb.getStage ApprovalDb.getRun
  rw [hstages, hruns]

/-- **A batch of escalations**, none of them to the requester. -/
theorem noSelfApproval_processPendingActionEscalations (h : db.NoSelfApproval user)
    (hinv : db.Inv)
    (hsafe : ∀ e ∈ escalationsOf user db (.processPendingActionEscalations dir),
      e.1.isSelf user e.2 = false) :
    (processPendingActionEscalations user dir db).NoSelfApproval user := by
  suffices Kept db (processPendingActionEscalations user dir db)
      ∧ (processPendingActionEscalations user dir db).NoSelfApproval user
      ∧ (processPendingActionEscalations user dir db).runs = db.runs from this.2.1
  refine escalateAll_induction (P := fun db₁ => Kept db db₁ ∧ db₁.NoSelfApproval user
    ∧ db₁.runs = db.runs) ?_ ⟨⟨hinv, .refl db⟩, h, rfl⟩
  rintro db₁ ⟨⟨hinv₁, hev⟩, h₁, hruns⟩ action hbatch target htarget db₂ hok
  obtain ⟨hinv₂, hev₂⟩ := kept_escalateLocked hinv₁ hok
  refine ⟨⟨hinv₂, hev.trans hev₂⟩, ?_⟩
  rw [escalationTarget_congr hev.stages hruns] at htarget
  rcases escalateLocked_eq_ok hok with rfl | ⟨locked, hl, hlid, -, db₃, hdb₃, rfl⟩
  · exact ⟨h₁, hruns⟩
  · rcases hdb₃ with ⟨rfl, -⟩ | rfl
    · exact ⟨h₁.updateActions _ (.escalate _), hruns⟩
    · refine ⟨(h₁.insertAction (fun r hr hid => ?_) _ _ _).updateActions _ (.escalate _), hruns⟩
      -- the locked row is the batch's action, so its run is the one checked
      have hmem := (List.mem_filter.mp hbatch).1
      obtain ⟨a', ha', hid', hrun', -⟩ := hev.actions action hmem
      obtain rfl := hinv₁.action_eq hl ha' (hlid.trans hid'.symm)
      have hgetRun : db.getRun action.approvalRun = some r :=
        (Table.find_eq_some_iff hinv.uniqueRun).mpr ⟨hruns ▸ hr, hid.trans hrun'⟩
      refine hsafe (r, target.1) (List.mem_filterMap.mpr ⟨action, hbatch, ?_⟩)
      simp [hgetRun, htarget]

theorem noSelfApproval_perform {op : Op} (hinv : st.db.Inv) (h : st.db.NoSelfApproval user)
    (hsafe : SelfApprovalGuard user st op) (hok : perform handler user st op = .ok st') :
    st'.db.NoSelfApproval user := by
  cases op with
  | createApprovalRun dir workflow kind organisation requester subject =>
    obtain ⟨⟨id, db⟩, hcreate, hret⟩ := Transaction.bind_eq_ok_iff.mp hok
    obtain rfl := Transaction.pure_eq_ok_iff.mp hret
    refine noSelfApproval_createApprovalRun hinv h (fun stage hstage => ?_) hcreate
    exact hsafe.1 _ (Option.mem_map.mpr ⟨stage, hstage, rfl⟩)
  | approveAction dir id actor comment =>
    obtain ⟨⟨action, run⟩, hread, hok⟩ := Transaction.bind_eq_ok_iff.mp hok
    obtain ⟨_, hcheck, hwrites⟩ := Transaction.bind_eq_ok_iff.mp hok
    refine noSelfApproval_approveActionWrites hinv h (readAction_eq_ok hread).2.2.1
      (fun o ho => hsafe.1 o ?_) hwrites
    simpa [openingOf, hread, hcheck] using ho
  | rejectAction dir action actor comment =>
    obtain ⟨a, -, r, -, -, -, -, -, hwrites⟩ := rejectAction_eq_ok hok
    rw [(rejectActionWrites_eq_ok hwrites).1]
    exact (h.setRunStatus _ _).map (keepsPlace_rejectActions _ _ _ _)
  | processPendingActionEscalations dir =>
    obtain rfl := Except.ok.inj hok
    exact noSelfApproval_processPendingActionEscalations h hinv hsafe.2
  | cancelApprovalRun now run subjectStatus =>
    rcases cancelApprovalRun_eq_ok hok with rfl | ⟨r, -, -, -, hwrites⟩
    · exact h
    · rw [(cancelApprovalRunWrites_eq_ok hwrites).1]
      exact (h.setRunStatus _ _).map ((KeepsPlace.close _ _).select _)

end Engine

/-- **No self-approval along guarded requests.** -/
theorem noSelfApproval_of_guarded (stages : StageTable) (subjects : S) (ops : List Op)
    (hops : Run.Along (step handler user) (SelfApprovalGuard user)
      (.initial stages subjects) ops) :
    (reached handler user stages subjects ops).db.NoSelfApproval user := by
  refine (Run.invariant_of_along (G := SelfApprovalGuard user)
    (I := fun st : EngineState S => st.db.Inv ∧ st.db.NoSelfApproval user) ?_
    ⟨inv_initial stages subjects, fun a ha => absurd ha List.not_mem_nil⟩ hops).2
  rintro st op ⟨hinv, h⟩ hsafe
  exact ⟨(kept_step hinv op).1, Transaction.settle_induction
    (P := fun st : EngineState S => st.db.NoSelfApproval user) h
    (fun st' hok => noSelfApproval_perform hinv h hsafe hok)⟩

/-- The leave request that is approved meets the guard at every request. -/
theorem noSelfApproval_of_guarded_sample :
    (reached Sample.handler Sample.user Sample.stages ()
      Sample.approvedRequest).db.NoSelfApproval Sample.user :=
  noSelfApproval_of_guarded Sample.handler Sample.user Sample.stages () Sample.approvedRequest
    (by decide)

/-! ## The owner of the organisation -/

namespace Sample

/-- The reporting manager approves, and the primary administrator when there
is none. -/
def ownerStages : StageTable where
  rows := [{ stage 1 1 .all [{ employeeApprover 0 with approverType := .reportingManager }] with
    fallbackType := .primaryOrgAdmin }]
  uniqueId := by decide
  uniqueSequence := by decide

/-- The owner, employee 100, whose account is the primary administrator and
who reports to nobody, asks for leave. -/
def ownerRequest : Op :=
  .createApprovalRun (directory 0) 1 .leave 1 (some 100) ⟨.leaveRequest, 7⟩

end Sample

/-- **The owner is asked to approve the owner's own leave.** -/
theorem ownerApproves_self :
    ¬ (reached Sample.handler Sample.user Sample.ownerStages ()
      [Sample.ownerRequest]).db.NoSelfApproval Sample.user := by
  decide

end Approvals
