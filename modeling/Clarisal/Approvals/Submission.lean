import Clarisal.Approvals.Invariant
import Clarisal.Approvals.Transactions

/-!
# When a run can be created

Creating a run asks the approvers of the first stage of its workflow. It fails without a first
stage and without an approver, and for no other reason: the approvers of a stage are different
users, and a run that is new has no action yet that could be in the way
(`createApprovalRun_isOk_iff`).
-/

namespace Approvals

open Transaction

/-- **Somebody can be asked**: the workflow has a first stage, and that stage an approver. -/
def Approvable (user : EmployeeId → UserId) (dir : Directory) (workflow : WorkflowId)
    (requestKind : ApprovalRequestKind) (organisation : OrganisationId)
    (requester : Option EmployeeId) (db : ApprovalDb) : Prop :=
  ∃ stage, db.firstStage workflow = some stage
    ∧ stageApprovers user dir stage requester organisation requestKind ≠ []

variable {user : EmployeeId → UserId} {dir : Directory} {db db' : ApprovalDb}
  {organisation : OrganisationId} {requester : Option EmployeeId}
  {requestKind : ApprovalRequestKind}

/-! ## The approvers of a stage are different users -/

theorem dedupe_nodup (seen : List UserId) (l : List ApproverAssignment) :
    ((dedupe seen l).map ApproverAssignment.approverUser).Nodup
      ∧ ∀ a ∈ dedupe seen l, a.approverUser ∉ seen := by
  induction l generalizing seen with
  | nil => exact ⟨List.nodup_nil, fun a ha => absurd ha List.not_mem_nil⟩
  | cons b l ih =>
    rw [dedupe]
    split
    · exact ih seen
    · next hnew =>
      obtain ⟨hnodup, hunseen⟩ := ih (b.approverUser :: seen)
      refine ⟨?_, fun a ha => ?_⟩
      · rw [List.map_cons, List.nodup_cons]
        refine ⟨fun hmem => ?_, hnodup⟩
        obtain ⟨a, ha, huser⟩ := List.mem_map.mp hmem
        exact hunseen a ha (huser ▸ List.mem_cons_self)
      · rcases List.mem_cons.mp ha with rfl | ha
        · exact hnew
        · exact fun hseen => hunseen a ha (List.mem_cons_of_mem _ hseen)

theorem stageApprovers_nodup (stage : ApprovalStage) :
    ((stageApprovers user dir stage requester organisation requestKind).map
      ApproverAssignment.approverUser).Nodup := by
  unfold stageApprovers
  dsimp only
  split
  · cases fallbackAssignment user dir stage organisation requester requestKind with
    | none => exact List.nodup_nil
    | some assignment => exact List.nodup_singleton _
  · exact (dedupe_nodup [] _).1

/-! ## Their actions -/

/-- Different users who have no action in a stage of a run can all be given one. -/
theorem createActions_isOk (db : ApprovalDb) (run : RunId) (stage : StageId) (now : Time)
    {approvers : List ApproverAssignment}
    (hnodup : (approvers.map ApproverAssignment.approverUser).Nodup)
    (hfree : ∀ a ∈ approvers, ∀ b ∈ db.actions, b.approvalRun = run → b.stage = stage →
      b.approverUser ≠ a.approverUser) :
    ∃ db', approvers.foldlM (fun db a => db.createAction now run stage a none) db = .ok db' := by
  induction approvers generalizing db with
  | nil => exact ⟨db, rfl⟩
  | cons a approvers ih =>
    obtain ⟨hnew, hrest⟩ := List.nodup_cons.mp hnodup
    have hcreated : db.createAction now run stage a none
        = .ok (db.insertAction now run stage a none) := by
      refine if_neg (fun htaken => ?_)
      obtain ⟨b, hb, hslot⟩ := List.any_eq_true.mp htaken
      obtain ⟨hrun, hstage, huser⟩ := of_decide_eq_true hslot
      exact hfree a List.mem_cons_self b hb hrun hstage huser
    have hfree' : ∀ c ∈ approvers, ∀ b ∈ (db.insertAction now run stage a none).actions,
        b.approvalRun = run → b.stage = stage → b.approverUser ≠ c.approverUser := by
      intro c hc b hb hrun hstage huser
      rcases List.mem_append.mp hb with hb | hb
      · exact hfree c (List.mem_cons_of_mem _ hc) b hb hrun hstage huser
      · rw [List.mem_singleton.mp hb] at huser
        exact hnew (List.mem_map.mpr ⟨c, hc, huser.symm⟩)
    obtain ⟨db', hok⟩ := ih _ hrest hfree'
    exact ⟨db', by rw [List.foldlM_cons, hcreated]; exact hok⟩

/-- **A run can be created** exactly when somebody can be asked. -/
theorem createApprovalRun_isOk_iff (h : db.Keys) {workflow : WorkflowId}
    (subject : ContentObject) :
    (∃ out, createApprovalRun user dir workflow requestKind organisation requester subject db
        = .ok out)
      ↔ Approvable user dir workflow requestKind organisation requester db := by
  unfold createApprovalRun Approvable
  cases hfirst : db.firstStage workflow with
  | none =>
    constructor
    · rintro ⟨out, hok⟩
      cases hok
    · rintro ⟨stage, hstage, -⟩
      cases hstage
  | some stage =>
    dsimp only
    constructor
    · rintro ⟨out, hok⟩
      obtain ⟨db', hcreate, -⟩ := bind_eq_ok_iff.mp hok
      obtain ⟨approvers, happrovers, -⟩ := bind_eq_ok_iff.mp hcreate
      obtain ⟨rfl, hne⟩ := resolveStageApprovers_eq_ok.mp happrovers
      exact ⟨stage, rfl, hne⟩
    · rintro ⟨_, hstage, hne⟩
      obtain rfl := Option.some.inj hstage
      obtain ⟨db', hfold⟩ := createActions_isOk (db.insertRun _) db.nextId stage.id dir.now
        (stageApprovers_nodup stage)
        (fun a _ b hb hrun => absurd hrun (h.run_ne_new rfl hb))
      refine ⟨(db.nextId, db'), bind_eq_ok_iff.mpr ⟨db', ?_, rfl⟩⟩
      exact bind_eq_ok_iff.mpr ⟨_, resolveStageApprovers_eq_ok.mpr ⟨rfl, hne⟩, hfold⟩

/-! ## Handing a subject in -/

section

variable {S : Type} {st st' : EngineState S} {workflow : WorkflowId} {subject : ContentObject}

/-- **A subject is handed in** for approval: its run is created, and nothing else is written. -/
def submit (user : EmployeeId → UserId) (dir : Directory) (workflow : WorkflowId)
    (requestKind : ApprovalRequestKind) (organisation : OrganisationId)
    (requester : Option EmployeeId) (subject : ContentObject) (st : EngineState S) :
    Except String (EngineState S) := do
  let (_, db) ← createApprovalRun user dir workflow requestKind organisation requester subject st.db
  return { st with db := db }

theorem submit_isOk_iff (h : st.db.Keys) :
    (∃ st', submit user dir workflow requestKind organisation requester subject st = .ok st')
      ↔ Approvable user dir workflow requestKind organisation requester st.db := by
  rw [← createApprovalRun_isOk_iff h subject]
  constructor
  · rintro ⟨st', hok⟩
    obtain ⟨out, hcreate, -⟩ := bind_eq_ok_iff.mp hok
    exact ⟨out, hcreate⟩
  · rintro ⟨out, hcreate⟩
    exact ⟨_, bind_eq_ok_iff.mpr ⟨out, hcreate, rfl⟩⟩

theorem subjects_submit
    (hok : submit user dir workflow requestKind organisation requester subject st = .ok st') :
    st'.subjects = st.subjects := by
  obtain ⟨out, -, hret⟩ := bind_eq_ok_iff.mp hok
  rw [← pure_eq_ok_iff.mp hret]

end

end Approvals
