import Clarisal.Approvals.Quorum
import Clarisal.Lib.TwoPhase

/-!
# Interleaved decisions

Approving, rejecting and cancelling read the action and the run, check them,
and write later, in a transaction that does not look at the rows again. The
escalation of the same module locks the row and reads it again; these three
do not, and two approvers of one stage can undo each other's outcome
(`rejection_overturns_approval`).

What the transactions lack is that check: where each write finds its action,
or the run it cancels, still pending, every interleaving is as safe as the
engine serving one request at a time (`interleaved_safe`). The reason is in
`Holds`: as long as the action is pending, the run a request read is still the
current row, sequence number included.
-/

namespace Approvals

/-- The requests that read before they write. -/
inductive Decision
  | approve (dir : Directory) (action : ActionId) (actor : UserId) (comment : String)
  | reject (dir : Directory) (action : ActionId) (actor : UserId) (comment : String)
  | cancel (run : RunId) (subjectStatus : Option SubjectStatus)

/-- A request that has read its rows and passed its checks. -/
inductive InFlight
  | approve (action : ApprovalAction) (run : ApprovalRun) (comment : String)
  | reject (action : ApprovalAction) (run : ApprovalRun) (comment : String)
  | cancel (run : ApprovalRun) (subjectStatus : Option SubjectStatus)
deriving DecidableEq

section Engine

variable {S : Type} (handler : SubjectHandler S) (user : EmployeeId → UserId)

/-- The action a decision is about, with its run, when the checks pass. -/
def readActionable (db : ApprovalDb) (dir : Directory) (id : ActionId) (actor : UserId) :
    Option (ApprovalAction × ApprovalRun) :=
  match readAction db id with
  | .error _ => none
  | .ok (action, run) =>
    match checkActionable dir action run actor with
    | .error _ => none
    | .ok _ => some (action, run)

/-- The first phase: read and check. -/
def readDecision (st : EngineState S) : Decision → Option InFlight
  | .approve dir id actor comment =>
    (readActionable st.db dir id actor).map (fun rows => .approve rows.1 rows.2 comment)
  | .reject dir id actor comment =>
    (readActionable st.db dir id actor).map (fun rows => .reject rows.1 rows.2 comment)
  | .cancel id subjectStatus =>
    ((st.db.getRun id).filter (fun run => run.status = .pending)).map
      (fun run => .cancel run subjectStatus)

/-- The second phase: the transaction, on the rows as read. -/
def writeDecision (st : EngineState S) (dir : Directory) :
    InFlight → Except String (EngineState S)
  | .approve action run comment =>
    approveActionWrites handler user dir action run comment st
  | .reject action run comment => rejectActionWrites handler dir action run comment st
  | .cancel run subjectStatus =>
    cancelApprovalRunWrites handler dir.now run subjectStatus st

/-- **Decisions in two phases**, among requests the engine serves at once. -/
def decisions : Protocol (EngineState S) Decision InFlight Directory Op where
  read := readDecision
  write st request dir := Transaction.settle st (writeDecision handler user st dir request)
  atomic := step handler user

/-- The missing check: the row the request is about is still pending. -/
def StillPending (st : EngineState S) (request : InFlight) (_ : Directory) : Prop :=
  match request with
  | .approve action _ _ | .reject action _ _ =>
    ∃ a ∈ st.db.actions, a.id = action.id ∧ a.status = .pending
  | .cancel run _ => ∃ r ∈ st.db.runs, r.id = run.id ∧ r.status = .pending

instance (st : EngineState S) (request : InFlight) (dir : Directory) :
    Decidable (StillPending st request dir) :=
  match request with
  | .approve action _ _ | .reject action _ _ =>
    inferInstanceAs (Decidable (∃ a ∈ st.db.actions, a.id = action.id ∧ a.status = .pending))
  | .cancel run _ =>
    inferInstanceAs (Decidable (∃ r ∈ st.db.runs, r.id = run.id ∧ r.status = .pending))

/-! ## What a request may rely on -/

/-- The action has its row, and the run is what its row was while it stood,
pending, at the stage of the action. -/
def HoldsAction (db : ApprovalDb) (action : ApprovalAction) (run : ApprovalRun) : Prop :=
  (∃ a ∈ db.actions, a.id = action.id ∧ a.approvalRun = action.approvalRun
      ∧ a.stage = action.stage)
    ∧ run.id = action.approvalRun ∧ run.status = .pending
    ∧ (∃ r ∈ db.runs, run.Advances r)
    ∧ ∀ s ∈ db.stages.rows, s.id = action.stage → s.sequence = run.currentStageSequence

/-- **What a request holds between its phases.** -/
def Holds (st : EngineState S) : InFlight → Prop
  | .approve action run _ | .reject action run _ => HoldsAction st.db action run
  | .cancel run _ => ∃ r ∈ st.db.runs, run.Advances r

end Engine

section Proofs

variable {S : Type} {handler : SubjectHandler S} {user : EmployeeId → UserId}
  {st st' : EngineState S}

theorem readActionable_eq_some {dir : Directory} {id : ActionId} {actor : UserId}
    {db : ApprovalDb} {rows : ApprovalAction × ApprovalRun}
    (h : readActionable db dir id actor = some rows) :
    rows.1 ∈ db.actions ∧ rows.2 ∈ db.runs ∧ rows.2.id = rows.1.approvalRun
      ∧ rows.1.status = .pending := by
  unfold readActionable at h
  split at h
  · cases h
  · next action run hread =>
    split at h
    · cases h
    · next hcheck =>
      cases h
      obtain ⟨ha, -, hr, hrun⟩ := readAction_eq_ok hread
      exact ⟨ha, hr, hrun, (checkActionable_eq_ok hcheck).2⟩

/-- Reading a pending action gives a hold on it. -/
theorem holdsAction_of_read {db : ApprovalDb} (h : db.Inv) {action : ApprovalAction}
    {run : ApprovalRun} (ha : action ∈ db.actions) (hr : run ∈ db.runs)
    (hrun : run.id = action.approvalRun) (hpending : action.status = .pending) :
    HoldsAction db action run := by
  obtain ⟨hrp, hseq⟩ := h.live action ha hpending run hr hrun
  exact ⟨⟨action, ha, rfl, rfl, rfl⟩, hrun, hrp, ⟨run, hr, .refl run⟩, hseq⟩

theorem holds_of_read (h : st.db.Inv) {decision : Decision} {request : InFlight}
    (hread : readDecision st decision = some request) : Holds st request := by
  cases decision with
  | approve dir id actor comment =>
    obtain ⟨rows, hrows, rfl⟩ := Option.map_eq_some_iff.mp hread
    obtain ⟨ha, hr, hrun, hpending⟩ := readActionable_eq_some hrows
    exact holdsAction_of_read h ha hr hrun hpending
  | reject dir id actor comment =>
    obtain ⟨rows, hrows, rfl⟩ := Option.map_eq_some_iff.mp hread
    obtain ⟨ha, hr, hrun, hpending⟩ := readActionable_eq_some hrows
    exact holdsAction_of_read h ha hr hrun hpending
  | cancel id subjectStatus =>
    obtain ⟨run, hrun, rfl⟩ := Option.map_eq_some_iff.mp hread
    exact ⟨run, Table.find_mem (Option.filter_eq_some_iff.mp hrun).1, .refl run⟩

/-- Other requests do not break a hold. -/
theorem HoldsAction.evolve {db db' : ApprovalDb} (hev : db.Evolves db')
    {action : ApprovalAction} {run : ApprovalRun} (h : HoldsAction db action run) :
    HoldsAction db' action run := by
  obtain ⟨⟨a, ha, hid, har, has⟩, hrun, hpending, ⟨r, hr, hadv⟩, hseq⟩ := h
  obtain ⟨a', ha', hid', har', has', -⟩ := hev.actions a ha
  obtain ⟨r', hr', hadv'⟩ := hev.runs r hr
  refine ⟨⟨a', ha', hid'.trans hid, har'.trans har, has'.trans has⟩, hrun, hpending,
    ⟨r', hr', hadv.trans hadv'⟩, ?_⟩
  rwa [hev.stages]

theorem Holds.evolve (hev : st.db.Evolves st'.db) {request : InFlight}
    (h : Holds st request) : Holds st' request := by
  cases request with
  | approve action run comment => exact HoldsAction.evolve hev h
  | reject action run comment => exact HoldsAction.evolve hev h
  | cancel run subjectStatus =>
    obtain ⟨r, hr, hadv⟩ := h
    obtain ⟨r', hr', hadv'⟩ := hev.runs r hr
    exact ⟨r', hr', hadv.trans hadv'⟩

/-- **While the action is pending, the run as read is the run's row**: the
action pins it to the same stage, pending. -/
theorem HoldsAction.fresh {db : ApprovalDb} (h : db.Inv) {action : ApprovalAction}
    {run : ApprovalRun} (hold : HoldsAction db action run)
    (hpending : ∃ a ∈ db.actions, a.id = action.id ∧ a.status = .pending) :
    run ∈ db.runs ∧ ∃ a ∈ db.actions, a.id = action.id
      ∧ a.approvalRun = action.approvalRun ∧ a.stage = action.stage
      ∧ a.status = .pending ∧ run.id = a.approvalRun := by
  obtain ⟨⟨a, ha, hid, har, has⟩, hrun, hrp, ⟨r, hr, hadv⟩, hseq⟩ := hold
  obtain ⟨b, hb, hbid, hbp⟩ := hpending
  obtain rfl := h.action_eq ha hb (hid.trans hbid.symm)
  have hrid : r.id = a.approvalRun := hadv.id_eq.trans (hrun.trans har.symm)
  obtain ⟨hrpending, hcurrent⟩ := h.live a ha hbp r hr hrid
  obtain ⟨_, _, _, s, hs, hsid, -⟩ := h.placed a ha
  have hsame : r = run := by
    have := hadv.same
    rw [hrp, ← hseq s hs (hsid.trans has)] at this
    rw [← this, hcurrent s hs hsid, ← hrpending]
  rw [← hsame]
  exact ⟨hr, a, ha, hid, har, has, hbp, hrid⟩

/-- The writes of an approval use the identifier, run and stage of the action
only. -/
theorem approveActionWrites_congr {dir : Directory} {a b : ApprovalAction} {run : ApprovalRun}
    {comment : String} (hid : a.id = b.id) (hrun : a.approvalRun = b.approvalRun)
    (hstage : a.stage = b.stage) :
    approveActionWrites handler user dir a run comment st
      = approveActionWrites handler user dir b run comment st := by
  have hsibling : isPendingSibling a = isPendingSibling b := by
    funext c
    simp only [isPendingSibling, hrun, hstage]
  unfold approveActionWrites recordApproval stageComplete
  simp only [hid, hstage, hsibling]

theorem rejectActionWrites_congr {dir : Directory} {a b : ApprovalAction} {run : ApprovalRun}
    {comment : String} (hid : a.id = b.id) :
    rejectActionWrites handler dir a run comment st
      = rejectActionWrites handler dir b run comment st := by
  unfold rejectActionWrites
  simp only [hid]

theorem cancelApprovalRunWrites_congr {now : Time} {r r' : ApprovalRun}
    {subjectStatus : Option SubjectStatus} (hid : r.id = r'.id)
    (hobject : r.contentObject = r'.contentObject) :
    cancelApprovalRunWrites handler now r subjectStatus st
      = cancelApprovalRunWrites handler now r' subjectStatus st := by
  unfold cancelApprovalRunWrites
  simp only [hid, hobject]

/-- **A write that finds its row pending** is one the engine could have done
at once. -/
theorem kept_writeDecision (h : st.db.Inv) {request : InFlight} {dir : Directory}
    (hold : Holds st request) (hpending : StillPending st request dir)
    (hok : writeDecision handler user st dir request = .ok st') : Kept st.db st'.db := by
  cases request with
  | approve action run comment =>
    obtain ⟨hr, a, ha, hid, har, has, hap, hrun⟩ := HoldsAction.fresh h hold hpending
    have hok : approveActionWrites handler user dir a run comment st = .ok st' := by
      rw [approveActionWrites_congr hid har has]
      exact hok
    exact kept_approveActionWrites h ha hap hr hrun hok
  | reject action run comment =>
    obtain ⟨hr, a, ha, hid, har, has, hap, hrun⟩ := HoldsAction.fresh h hold hpending
    have hok : rejectActionWrites handler dir a run comment st = .ok st' := by
      rw [rejectActionWrites_congr hid]
      exact hok
    exact kept_rejectActionWrites h ha hap hr hrun hok
  | cancel run subjectStatus =>
    obtain ⟨r, hr, hadv⟩ := hold
    obtain ⟨r', hr', hid, hrp⟩ := hpending
    obtain rfl := h.run_eq hr hr' (hadv.id_eq.trans hid.symm)
    have hok : cancelApprovalRunWrites handler dir.now r subjectStatus st = .ok st' := by
      rw [cancelApprovalRunWrites_congr hadv.id_eq hadv.contentObject_eq]
      exact hok
    exact kept_cancelApprovalRunWrites h hr hrp hok

end Proofs

/-! ## Safety of the decisions -/

namespace ApprovalDb

instance (a : ApprovalAction) : Decidable (Settled a) := inferInstanceAs (Decidable (_ ∨ _))

instance (db : ApprovalDb) (r : RunId) (s : ApprovalStage) : Decidable (db.QuorumReached r s) :=
  inferInstanceAs (Decidable ((∃ a ∈ db.actions, _) ∧ (_ → ∀ a ∈ db.actions, _)))

/-- **Safe decisions** between two moments: a run has the quorum of every
stage it left, an approved run that of all its stages, and a decided status
has not changed. -/
def SafeBetween (db db' : ApprovalDb) : Prop :=
  (∀ r ∈ db.runs, ∀ s ∈ db.stages.rows, s.workflow = r.workflow →
      s.sequence < r.currentStageSequence → db.QuorumReached r.id s)
    ∧ (∀ r ∈ db.runs, r.status = .approved → ∀ s ∈ db.stages.rows, s.workflow = r.workflow →
      db.QuorumReached r.id s)
    ∧ ∀ r ∈ db.runs, r.status ≠ .pending → ∃ r' ∈ db'.runs, r'.id = r.id ∧ r'.status = r.status

instance (db db' : ApprovalDb) : Decidable (db.SafeBetween db') :=
  inferInstanceAs (Decidable ((∀ r ∈ db.runs, ∀ s ∈ db.stages.rows, _ → _ → _)
    ∧ (∀ r ∈ db.runs, _ → ∀ s ∈ db.stages.rows, _ → _)
    ∧ ∀ r ∈ db.runs, _ → ∃ r' ∈ db'.runs, _))

end ApprovalDb

section Engine

variable {S : Type} (handler : SubjectHandler S) (user : EmployeeId → UserId)

/-- The state an interleaving reaches from the empty tables. -/
def interleaved (stages : StageTable) (subjects : S)
    (events : List (Protocol.Event Decision Directory Op)) :
    Protocol.State (EngineState S) InFlight :=
  Run.exec (decisions handler user).step ⟨.initial stages subjects, []⟩ events

/-- **Interleaved decisions are safe when each write finds its row pending.** -/
theorem interleaved_safe (stages : StageTable) (subjects : S)
    (events later : List (Protocol.Event Decision Directory Op))
    (h : Run.Along (decisions handler user).step (Protocol.WriteGuard StillPending)
      ⟨.initial stages subjects, []⟩ (events ++ later)) :
    (interleaved handler user stages subjects events).shared.db.SafeBetween
      (interleaved handler user stages subjects (events ++ later)).shared.db := by
  have hrule : ∀ (st : Protocol.State (EngineState S) InFlight) evs, st.shared.db.Inv →
      (∀ r ∈ st.inFlight, Holds st.shared r) →
      Run.Along (decisions handler user).step (Protocol.WriteGuard StillPending) st evs → _ :=
    fun st evs hI hJ hops => Protocol.safe_of_along (p := decisions handler user)
      (G := StillPending) (I := fun st : EngineState S => st.db.Inv) (J := Holds)
      (R := fun st st' : EngineState S => st.db.Evolves st'.db)
      (fun _ => .refl _) (fun _ _ _ h h' => h.trans h')
      (fun _ _ _ hI hread => holds_of_read hI hread) (fun _ _ _ hR hJ => hJ.evolve hR)
      (fun st r dir hI hJ hp => Transaction.settle_induction
        (P := fun st' : EngineState S => Kept st.db st'.db) ⟨hI, .refl _⟩
        (fun st' hok => kept_writeDecision hI hJ hp hok))
      (fun st op hI => kept_step hI op) hI hJ hops
  obtain ⟨hfirst, hsecond⟩ := (Run.along_append _ _ _).mp h
  obtain ⟨⟨hI, hJ⟩, hev⟩ := hrule _ events (inv_initial stages subjects)
    (fun r hr => absurd hr List.not_mem_nil) hfirst
  obtain ⟨-, hlater⟩ := hrule _ later hI hJ hsecond
  refine ⟨fun r hr s hs hw hlt => hI.passed r hr s hs hw (Or.inl hlt),
    fun r hr happroved s hs hw => hI.passed r hr s hs hw (Or.inr happroved),
    fun r hr hdecided => ?_⟩
  obtain ⟨r', hr', hadv⟩ := hlater.runs r hr
  rw [interleaved, Run.exec_append]
  exact ⟨r', hr', hadv.id_eq, hadv.final hdecided⟩

end Engine

namespace Sample

/-- One stage, which either of employees 4 and 5 completes. -/
def eitherStages : StageTable where
  rows := [stage 1 1 .any [employeeApprover 4, employeeApprover 5]]
  uniqueId := by decide
  uniqueSequence := by decide

/-- Employee 4 approves and employee 5 rejects, both having read their
actions pending. -/
def crossedDecisions : List (Protocol.Event Decision Directory Op) :=
  [.atomic request, .begin (.approve (directory 1) 1 104 ""),
    .begin (.reject (directory 1) 2 105 "No cover."), .commit 0 (directory 2)]

end Sample

/-- The crossed decisions up to the approval are safe, and no later event that
finds its row pending changes that. -/
theorem interleaved_safe_sample :
    (interleaved Sample.handler Sample.user Sample.eitherStages ()
      Sample.crossedDecisions).shared.db.SafeBetween
      (interleaved Sample.handler Sample.user Sample.eitherStages ()
        (Sample.crossedDecisions ++ [.atomic Sample.request])).shared.db :=
  interleaved_safe Sample.handler Sample.user Sample.eitherStages () Sample.crossedDecisions
    [.atomic Sample.request] (by decide)

/-- **A rejection overturns an approval**: once the run is approved, the
rejection that was in flight still writes. -/
theorem rejection_overturns_approval :
    ¬ (interleaved Sample.handler Sample.user Sample.eitherStages ()
      Sample.crossedDecisions).shared.db.SafeBetween
      (interleaved Sample.handler Sample.user Sample.eitherStages ()
        (Sample.crossedDecisions ++ [.commit 0 (Sample.directory 3)])).shared.db := by
  decide

end Approvals
