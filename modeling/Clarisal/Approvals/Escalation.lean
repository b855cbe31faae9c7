import Clarisal.Approvals.SelfApproval
import Clarisal.Lib.Batch

/-!
# The sweep of overdue actions

`processPendingActionEscalations` goes through the pending actions of all organisations. What
it does to the tables is in `Services`; here it is followed with what it raises and whom it
notifies, since an error ends the sweep for everyone behind it.

It raises in three places. The sum of the creation time and the hours of the policy may lie
after the last year a time can have. The target may hold an action of the stage that is not
pending any more: the sweep looks for a pending one, and the constraint of the table is about
actions of any status. And the title of the notification, which repeats the label of the run,
may not fit its column. `sweep_completes_iff` says that there is nothing else: where no
action meets one of the three, the sweep ends and every overdue action is escalated.
-/

namespace Approvals

/-- The first time after the last one there is: times are counted from the first day of the
year 1, and the year 9999 is the last. -/
def datetimeEnd : Time := 3652059 * 86400

/-- A notification of an escalation. -/
structure EscalationNotification where
  recipient : UserId
  title : String
  relatedObject : RunId
deriving DecidableEq, Repr

/-- **The sweep on its way**: the tables, the notifications and the count. -/
structure EscalationSweep where
  db : ApprovalDb
  notifications : List EscalationNotification
  escalationCount : ℕ

/-- `max_length` of a notification's title. -/
def notificationTitleMaxLength : ℕ := 200

section

variable (user : EmployeeId → UserId) (subjectLabel : RunId → String)

/-- Notify the target, and count. -/
def notifyEscalation (action : ApprovalAction) (target : UserId) (st : EscalationSweep) :
    EscalationSweep × Option String :=
  let title := s!"Escalated approval: {subjectLabel action.approvalRun}"
  if notificationTitleMaxLength < title.length then
    (st, some "value too long for type character varying(200)")
  else ({ st with
      notifications := st.notifications ++ [⟨target, title, action.approvalRun⟩]
      escalationCount := st.escalationCount + 1 }, none)

/-- The transaction of one escalation, and what follows it. -/
def escalateTo (now : Time) (action : ApprovalAction) (target : UserId × Option EmployeeId)
    (st : EscalationSweep) : EscalationSweep × Option String :=
  match escalateLocked now action.id target st.db with
  | .error e => (st, some e)
  | .ok db =>
    -- decided or escalated since the batch was read: nobody is notified
    if (st.db.getAction action.id).any (fun locked =>
        locked.status ≠ .pending ∨ locked.escalatedAt ≠ none) then (st, none)
    else notifyEscalation subjectLabel action target.1 { st with db := db }

/-- **One action of the sweep.** -/
def sweepAction (dir : Directory) (st : EscalationSweep) (action : ApprovalAction) :
    EscalationSweep × Option String :=
  match st.db.getStage action.stage, st.db.getRun action.approvalRun with
  | some stage, some run =>
    match (stageSlaPolicy stage).bind ApprovalStageEscalationPolicy.escalateAfterHours with
    | none => (st, none)
    | some hours =>
      if hours = 0 ∨ action.escalatedAt ≠ none then (st, none)
      else if datetimeEnd ≤ action.createdAt + hours * 3600 then
        (st, some "date value out of range")
      else if dir.now < action.createdAt + hours * 3600 then (st, none)
      else
        match resolveEscalationTarget user dir run stage with
        | none => (st, none)
        | some target =>
          if target.1 = action.approverUser then (st, none)
          else escalateTo subjectLabel dir.now action target st
  | _, _ => (st, none)

/-- The actions a sweep goes through. -/
def pendingActions (db : ApprovalDb) : List ApprovalAction :=
  db.actions.filter (fun a =>
    a.status = .pending ∧ db.runs.any (fun r => r.id = a.approvalRun ∧ r.status = .pending))

/-- **The sweep**: what it leaves, and the error that ended it. -/
def escalationSweep (dir : Directory) (db : ApprovalDb) : EscalationSweep × Option String :=
  Batch.run (sweepAction user subjectLabel dir) ⟨db, [], 0⟩ (pendingActions db)

end

/-! ## The table of actions -/

/-- The columns of the constraint `unique_approval_action_per_user_stage`. -/
def ApprovalAction.slot (a : ApprovalAction) : RunId × StageId × UserId :=
  (a.approvalRun, a.stage, a.approverUser)

theorem KeepsPlace.slot {f : ApprovalAction → ApprovalAction} (hf : KeepsPlace f)
    (a : ApprovalAction) : (f a).slot = a.slot := by
  unfold ApprovalAction.slot
  rw [hf.approvalRun, hf.stage, hf.approverUser]

namespace ApprovalDb

/-- **What the database keeps of the actions**: the primary key, and one action for a run, a
stage and a user. -/
structure UniqueActions (db : ApprovalDb) : Prop where
  uniqueAction : Table.Unique ApprovalAction.id db.actions
  freshAction : ∀ a ∈ db.actions, a.id < db.nextId
  uniqueSlot : Table.Unique ApprovalAction.slot db.actions

/-- The target holds a place in the stage: pending, or with a new action. -/
inductive GivenTo (now : Time) (action : ApprovalAction) (target : UserId × Option EmployeeId)
    (db : ApprovalDb) : ApprovalDb → Prop
  | pending (b : ApprovalAction) (hb : b ∈ db.actions)
      (hslot : b.slot = (action.approvalRun, action.stage, target.1))
      (hpending : b.status = .pending) : GivenTo now action target db db
  | created (hfree : ∀ b ∈ db.actions, b.slot ≠ (action.approvalRun, action.stage, target.1)) :
      GivenTo now action target db
        (db.insertAction now action.approvalRun action.stage (escalatedAssignment action target)
          (some action.id))

variable {db db₁ : ApprovalDb} {now : Time} {action : ApprovalAction}
  {target : UserId × Option EmployeeId}

namespace GivenTo

theorem uniqueActions (hgiven : GivenTo now action target db db₁) (h : db.UniqueActions) :
    db₁.UniqueActions := by
  cases hgiven with
  | pending => exact h
  | created hfree =>
    refine ⟨h.uniqueAction.append_one fun a ha => (h.freshAction a ha).ne, fun a ha => ?_,
      h.uniqueSlot.append_one hfree⟩
    rcases List.mem_append.mp ha with ha | ha
    · exact (h.freshAction a ha).trans (Nat.lt_succ_self _)
    · rw [List.mem_singleton.mp ha]
      exact Nat.lt_succ_self _

theorem subset (hgiven : GivenTo now action target db db₁) : db.actions ⊆ db₁.actions := by
  cases hgiven with
  | pending => exact fun a ha => ha
  | created => exact List.subset_append_left _ _

/-- The target has a pending action then. -/
theorem exists_pending (hgiven : GivenTo now action target db db₁) :
    ∃ b ∈ db₁.actions, b.slot = (action.approvalRun, action.stage, target.1)
      ∧ b.status = .pending := by
  cases hgiven with
  | pending b hb hslot hpending => exact ⟨b, hb, hslot, hpending⟩
  | created hfree => exact ⟨_, List.mem_append_right _ (List.mem_singleton_self _), rfl, rfl⟩

/-- Only a pending action is new. -/
theorem mem_cases (hgiven : GivenTo now action target db db₁) {b : ApprovalAction}
    (hb : b ∈ db₁.actions) : b ∈ db.actions ∨ b.status = .pending := by
  cases hgiven with
  | pending => exact Or.inl hb
  | created hfree =>
    rcases List.mem_append.mp hb with hb | hb
    · exact Or.inl hb
    · rw [List.mem_singleton.mp hb]
      exact Or.inr rfl

theorem stages_eq (hgiven : GivenTo now action target db db₁) :
    db₁.stages = db.stages ∧ db₁.runs = db.runs := by
  cases hgiven <;> exact ⟨rfl, rfl⟩

end GivenTo

namespace UniqueActions

theorem updateActions (h : db.UniqueActions) (p : ApprovalAction → Bool)
    {f : ApprovalAction → ApprovalAction} (hf : KeepsPlace f) :
    (db.updateActions p f).UniqueActions where
  uniqueAction := h.uniqueAction.update hf.id
  freshAction := by
    intro b hb
    rcases Table.mem_update_iff.mp hb with ⟨a, ha, -, rfl⟩ | ⟨hb, -⟩
    · rw [hf.id]
      exact h.freshAction a ha
    · exact h.freshAction b hb
  uniqueSlot := h.uniqueSlot.update hf.slot

theorem getAction (h : db.UniqueActions) (ha : action ∈ db.actions) :
    db.getAction action.id = some action :=
  (Table.find_eq_some_iff h.uniqueAction).mpr ⟨ha, rfl⟩

variable (now) in
/-- **The transaction of one escalation**: it gives the target a place and cancels the action,
unless the target has an action that is not pending. -/
theorem escalateLocked_cases (h : db.UniqueActions) (ha : action ∈ db.actions)
    (hpending : action.status = .pending) (hnew : action.escalatedAt = none)
    (target : UserId × Option EmployeeId) :
    (∃ b ∈ db.actions, b.slot = (action.approvalRun, action.stage, target.1)
        ∧ b.status ≠ .pending ∧ ∃ e, escalateLocked now action.id target db = .error e)
      ∨ ∃ db₁, GivenTo now action target db db₁ ∧ escalateLocked now action.id target db
          = .ok (db₁.updateActions (fun a => a.id = action.id) (ApprovalAction.escalate now)) := by
  unfold escalateLocked ensureTargetAction ApprovalDb.createAction
  rw [h.getAction ha]
  dsimp only
  rw [if_neg (by simp [hpending, hnew])]
  by_cases hsibling : db.actions.any
      (fun a => isPendingSibling action a && a.approverUser = target.1) = true
  · rw [if_pos hsibling]
    obtain ⟨b, hb, hsibling⟩ := List.any_eq_true.mp hsibling
    simp only [isPendingSibling, Bool.and_eq_true, decide_eq_true_eq] at hsibling
    obtain ⟨⟨hrun, hstage, hstatus⟩, huser⟩ := hsibling
    refine Or.inr ⟨db, .pending b hb ?_ hstatus, rfl⟩
    rw [ApprovalAction.slot, hrun, hstage, huser]
  · rw [if_neg hsibling]
    by_cases htaken : db.actions.any (fun a => a.approvalRun = action.approvalRun
        ∧ a.stage = action.stage
        ∧ a.approverUser = (escalatedAssignment action target).approverUser) = true
    · rw [if_pos htaken]
      obtain ⟨b, hb, hslot⟩ := List.any_eq_true.mp htaken
      obtain ⟨hrun, hstage, huser⟩ := of_decide_eq_true hslot
      have huser : b.approverUser = target.1 := huser
      refine Or.inl ⟨b, hb, ?_, fun hstatus => hsibling ?_, _, rfl⟩
      · rw [ApprovalAction.slot, hrun, hstage, huser]
      · refine List.any_eq_true.mpr ⟨b, hb, ?_⟩
        simp [isPendingSibling, hrun, hstage, huser, hstatus]
    · rw [if_neg htaken]
      refine Or.inr ⟨_, .created fun b hb hslot => htaken ?_, rfl⟩
      obtain ⟨hrun, hrest⟩ := Prod.mk.inj hslot
      obtain ⟨hstage, huser⟩ := Prod.mk.inj hrest
      exact List.any_eq_true.mpr ⟨b, hb, decide_eq_true ⟨hrun, hstage, huser⟩⟩

end UniqueActions

end ApprovalDb

/-! ## One action of the sweep -/

section

variable {user : EmployeeId → UserId} {subjectLabel : RunId → String} {dir : Directory}
  {st : EscalationSweep} {action : ApprovalAction} {xs : List ApprovalAction}

/-- The deadline of an action lies after the last year. -/
def deadlineOverflows (db : ApprovalDb) (action : ApprovalAction) : Bool :=
  match db.getStage action.stage, db.getRun action.approvalRun with
  | some stage, some _ =>
    match (stageSlaPolicy stage).bind ApprovalStageEscalationPolicy.escalateAfterHours with
    | none => false
    | some hours => hours ≠ 0 ∧ action.escalatedAt = none
        ∧ datetimeEnd ≤ action.createdAt + hours * 3600
  | _, _ => false

theorem escalationDue_eq (now : Time) (stage : ApprovalStage) (action : ApprovalAction) :
    escalationDue now stage action
      = match (stageSlaPolicy stage).bind ApprovalStageEscalationPolicy.escalateAfterHours with
        | none => false
        | some hours => decide (hours ≠ 0 ∧ action.escalatedAt = none
            ∧ action.createdAt + hours * 3600 ≤ now) := by
  unfold escalationDue
  cases stageSlaPolicy stage with
  | none => rfl
  | some policy => rfl

/-- **A step of the sweep** raises at a deadline out of range, skips what has no target, and
escalates the rest. -/
theorem sweepAction_eq (st : EscalationSweep) (action : ApprovalAction) :
    sweepAction user subjectLabel dir st action
      = if deadlineOverflows st.db action = true then (st, some "date value out of range")
        else match escalationTarget user dir st.db action with
          | none => (st, none)
          | some target => escalateTo subjectLabel dir.now action target st := by
  unfold sweepAction deadlineOverflows escalationTarget
  cases hstage : st.db.getStage action.stage with
  | none => rfl
  | some stage =>
    cases hrun : st.db.getRun action.approvalRun with
    | none => rfl
    | some run =>
      obtain ⟨policyHours, hhours⟩ : ∃ policyHours, (stageSlaPolicy stage).bind
        ApprovalStageEscalationPolicy.escalateAfterHours = policyHours := ⟨_, rfl⟩
      simp only [Option.bind_eq_bind, Option.bind_some, escalationDue_eq, hhours]
      cases policyHours with
      | none => rfl
      | some hours =>
        dsimp only
        by_cases hoff : hours = 0 ∨ action.escalatedAt ≠ none
        · have hon : ¬ (hours ≠ 0 ∧ action.escalatedAt = none) := by
            rwa [not_and_or, not_not]
          rw [if_pos hoff, if_neg fun h => hon ((of_decide_eq_true h).imp_right And.left),
            if_neg fun h => hon ((of_decide_eq_true h).imp_right And.left)]
        · have hon : hours ≠ 0 ∧ action.escalatedAt = none := by
            rwa [not_or, not_not] at hoff
          rw [if_neg hoff]
          simp only [hon.1, hon.2, ne_eq, not_false_eq_true, true_and, decide_eq_true_eq]
          split
          · rfl
          · by_cases hdue : dir.now < action.createdAt + hours * 3600
            · rw [if_pos hdue, if_neg (not_le.mpr hdue)]
            · rw [if_neg hdue, if_pos (not_lt.mp hdue)]
              cases resolveEscalationTarget user dir run stage with
              | none => rfl
              | some target =>
                by_cases hself : target.1 = action.approverUser
                · rw [Option.filter_some, if_neg (by simpa using hself)]
                  exact if_pos hself
                · rw [Option.filter_some, if_pos (by simpa using hself)]
                  exact if_neg hself

/-- An action with a target has not been escalated. -/
theorem escalatedAt_of_escalationTarget {db : ApprovalDb} {target : UserId × Option EmployeeId}
    (h : escalationTarget user dir db action = some target) : action.escalatedAt = none := by
  obtain ⟨stage, -, h⟩ := Option.bind_eq_some_iff.mp h
  obtain ⟨run, -, h⟩ := Option.bind_eq_some_iff.mp h
  split at h
  · next hdue =>
    rw [escalationDue_eq] at hdue
    split at hdue
    · cases hdue
    · exact (of_decide_eq_true hdue).2.1
  · cases h

variable (user subjectLabel dir) in
/-- **Nothing stands in the way** of an action: its deadline can be reckoned, its target has no
decided action of the stage, and the label of its run fits the title. -/
structure Clear (db : ApprovalDb) (action : ApprovalAction) : Prop where
  inRange : deadlineOverflows db action = false
  undecided : ∀ target, escalationTarget user dir db action = some target → ∀ b ∈ db.actions,
    b.slot = (action.approvalRun, action.stage, target.1) → b.status = .pending
  labelFits : ∀ target, escalationTarget user dir db action = some target →
    (subjectLabel action.approvalRun).length ≤ 180

/-- The title fits its column when the label leaves room for the prefix. -/
theorem notifyEscalation_eq_none_iff (target : UserId) :
    (notifyEscalation subjectLabel action target st).2 = none
      ↔ (subjectLabel action.approvalRun).length ≤ 180 := by
  have hlength : s!"Escalated approval: {subjectLabel action.approvalRun}".length
      = 20 + (subjectLabel action.approvalRun).length :=
    String.length_append _ _
  unfold notifyEscalation notificationTitleMaxLength
  dsimp only
  rw [hlength]
  split
  · next h => exact iff_of_false (Option.some_ne_none _) (by omega)
  · next h => exact iff_of_true rfl (by omega)

theorem notifyEscalation_db (target : UserId) :
    (notifyEscalation subjectLabel action target st).1.db = st.db := by
  unfold notifyEscalation
  dsimp only
  split <;> rfl

/-- A transaction that went through is followed by the notification. -/
theorem escalateTo_of_ok (h : st.db.UniqueActions) (ha : action ∈ st.db.actions)
    (hpending : action.status = .pending) (hnew : action.escalatedAt = none) {now : Time}
    {target : UserId × Option EmployeeId} {db : ApprovalDb}
    (hok : escalateLocked now action.id target st.db = .ok db) :
    escalateTo subjectLabel now action target st
      = notifyEscalation subjectLabel action target.1 { st with db := db } := by
  have hopen : (st.db.getAction action.id).any (fun locked =>
      locked.status ≠ .pending ∨ locked.escalatedAt ≠ none) = false := by
    rw [h.getAction ha]
    simp [hpending, hnew]
  unfold escalateTo
  rw [hok]
  dsimp only
  rw [hopen, if_neg Bool.false_ne_true]

variable (subjectLabel) in
/-- **The escalation of an action** of the table, and when it ends well. -/
theorem escalateTo_cases (now : Time) (target : UserId × Option EmployeeId)
    (h : st.db.UniqueActions) (ha : action ∈ st.db.actions)
    (hpending : action.status = .pending) (hnew : action.escalatedAt = none) :
    (¬ (∀ b ∈ st.db.actions, b.slot = (action.approvalRun, action.stage, target.1) →
          b.status = .pending)
        ∧ ∃ e, escalateTo subjectLabel now action target st = (st, some e))
      ∨ (∀ b ∈ st.db.actions, b.slot = (action.approvalRun, action.stage, target.1) →
          b.status = .pending)
        ∧ ((escalateTo subjectLabel now action target st).2 = none
            ↔ (subjectLabel action.approvalRun).length ≤ 180)
        ∧ ∃ db₁, ApprovalDb.GivenTo now action target st.db db₁
            ∧ (escalateTo subjectLabel now action target st).1.db
              = db₁.updateActions (fun a => a.id = action.id) (ApprovalAction.escalate now) := by
  rcases h.escalateLocked_cases now ha hpending hnew target with
    ⟨b, hb, hslot, hdecided, e, herror⟩ | ⟨db₁, hgiven, hok⟩
  · refine Or.inl ⟨fun hall => hdecided (hall b hb hslot), e, ?_⟩
    rw [escalateTo, herror]
  · rw [escalateTo_of_ok h ha hpending hnew hok]
    refine Or.inr ⟨?_, notifyEscalation_eq_none_iff _, db₁, hgiven, notifyEscalation_db _⟩
    intro b hb hslot
    cases hgiven with
    | pending c hc hcslot hcpending =>
      rwa [h.uniqueSlot.eq_of_key hb hc (hslot.trans hcslot.symm)]
    | created hfree => exact absurd hslot (hfree b hb)

/-- **A step of the sweep ends well** when nothing stands in its way. -/
theorem sweepAction_eq_none_iff (h : st.db.UniqueActions) (ha : action ∈ st.db.actions)
    (hpending : action.status = .pending) :
    (sweepAction user subjectLabel dir st action).2 = none
      ↔ Clear user subjectLabel dir st.db action := by
  rw [sweepAction_eq]
  cases hrange : deadlineOverflows st.db action with
  | true =>
    rw [if_pos rfl]
    refine iff_of_false (Option.some_ne_none _) fun hclear => ?_
    exact Bool.false_ne_true (hclear.inRange.symm.trans hrange)
  | false =>
    rw [if_neg Bool.false_ne_true]
    cases htarget : escalationTarget user dir st.db action with
    | none =>
      refine iff_of_true rfl ⟨hrange, fun target h => ?_, fun target h => ?_⟩
      · rw [htarget] at h
        cases h
      · rw [htarget] at h
        cases h
    | some target =>
      dsimp only
      have hnew := escalatedAt_of_escalationTarget htarget
      rcases escalateTo_cases subjectLabel dir.now target h ha hpending hnew with
        ⟨hdecided, e, herror⟩ | ⟨hundecided, hnotify, -⟩
      · rw [herror]
        refine iff_of_false (Option.some_ne_none _) fun hclear => hdecided ?_
        exact hclear.undecided target htarget
      · rw [hnotify]
        refine ⟨fun hfits => ⟨hrange, fun t ht => ?_, fun _ _ => hfits⟩,
          fun hclear => hclear.labelFits target htarget⟩
        rw [htarget] at ht
        rwa [← Option.some.inj ht]

variable (user subjectLabel dir) in
/-- **What a step does**: nothing, or the target is given a place and the action is
cancelled. -/
theorem sweepAction_db (h : st.db.UniqueActions) (ha : action ∈ st.db.actions)
    (hpending : action.status = .pending) :
    (sweepAction user subjectLabel dir st action).1.db = st.db
        ∧ ((sweepAction user subjectLabel dir st action).2 = none →
          escalationTarget user dir st.db action = none)
      ∨ ∃ target, escalationTarget user dir st.db action = some target
        ∧ ∃ db₁, ApprovalDb.GivenTo dir.now action target st.db db₁
          ∧ (sweepAction user subjectLabel dir st action).1.db
            = db₁.updateActions (fun a => a.id = action.id)
                (ApprovalAction.escalate dir.now) := by
  rw [sweepAction_eq]
  split
  · exact Or.inl ⟨rfl, fun h => absurd h (Option.some_ne_none _)⟩
  · cases htarget : escalationTarget user dir st.db action with
    | none => exact Or.inl ⟨rfl, fun _ => rfl⟩
    | some target =>
      dsimp only
      have hnew := escalatedAt_of_escalationTarget htarget
      rcases escalateTo_cases subjectLabel dir.now target h ha hpending hnew with
        ⟨-, e, herror⟩ | ⟨-, -, hgiven⟩
      · rw [herror]
        exact Or.inl ⟨rfl, fun h => absurd h (Option.some_ne_none _)⟩
      · exact Or.inr ⟨target, rfl, hgiven⟩

/-! ## The whole sweep -/

variable {db : ApprovalDb}

variable (db) in
/-- **What holds on the way**, of the state and the actions that are left: they are rows of the
table, untouched, each once. -/
structure SweepInv (st : EscalationSweep) (rest : List ApprovalAction) : Prop where
  unique : st.db.UniqueActions
  nodup : rest.Nodup
  untouched : ∀ a ∈ rest, a ∈ st.db.actions ∧ a.status = .pending
  stages : st.db.stages = db.stages
  runs : st.db.runs = db.runs

namespace SweepInv

theorem start (h : db.UniqueActions) : SweepInv db ⟨db, [], 0⟩ (pendingActions db) where
  unique := h
  nodup := (List.Nodup.of_map _ h.uniqueAction).filter _
  untouched := by
    intro a ha
    obtain ⟨ha, hstatus⟩ := List.mem_filter.mp ha
    exact ⟨ha, (of_decide_eq_true hstatus).1⟩
  stages := rfl
  runs := rfl

variable (user dir) in
theorem escalationTarget_eq (h : SweepInv db st xs) (a : ApprovalAction) :
    escalationTarget user dir st.db a = escalationTarget user dir db a :=
  escalationTarget_congr h.stages h.runs a

theorem deadlineOverflows_eq (h : SweepInv db st xs) (a : ApprovalAction) :
    deadlineOverflows st.db a = deadlineOverflows db a := by
  unfold deadlineOverflows ApprovalDb.getStage ApprovalDb.getRun
  rw [h.stages, h.runs]

/-- Other rows stay as they are. -/
theorem mem_step (h : SweepInv db st (action :: xs)) {b : ApprovalAction}
    (hb : b ∈ st.db.actions) (hne : b.id ≠ action.id) :
    b ∈ (sweepAction user subjectLabel dir st action).1.db.actions := by
  obtain ⟨ha, hpending⟩ := h.untouched action List.mem_cons_self
  rcases sweepAction_db user subjectLabel dir h.unique ha
    hpending with ⟨heq, -⟩ | ⟨target, -, db₁, hgiven, heq⟩
  · rwa [heq]
  · rw [heq]
    exact Table.mem_update_iff.mpr (Or.inr ⟨hgiven.subset hb, decide_eq_false hne⟩)

/-- The actions left have other keys. -/
theorem id_ne (h : SweepInv db st (action :: xs)) {b : ApprovalAction} (hb : b ∈ xs) :
    b.id ≠ action.id := by
  intro hid
  have heq := h.unique.uniqueAction.eq_of_key (h.untouched b (List.mem_cons_of_mem _ hb)).1
    (h.untouched action List.mem_cons_self).1 hid
  exact (List.nodup_cons.mp h.nodup).1 (heq ▸ hb)

variable (user subjectLabel dir) in
/-- **A step keeps the invariant.** -/
theorem step (h : SweepInv db st (action :: xs)) :
    SweepInv db (sweepAction user subjectLabel dir st action).1 xs := by
  obtain ⟨ha, hpending⟩ := h.untouched action List.mem_cons_self
  have hrest : ∀ a ∈ xs, a ∈ (sweepAction user subjectLabel dir st action).1.db.actions
      ∧ a.status = .pending := fun a hmem =>
    have ⟨hrow, hstatus⟩ := h.untouched a (List.mem_cons_of_mem _ hmem)
    ⟨h.mem_step hrow (h.id_ne hmem), hstatus⟩
  rcases sweepAction_db user subjectLabel dir h.unique ha
    hpending with ⟨heq, -⟩ | ⟨target, -, db₁, hgiven, heq⟩
  · exact ⟨heq ▸ h.unique, h.nodup.of_cons, hrest, heq ▸ h.stages, heq ▸ h.runs⟩
  · refine ⟨?_, h.nodup.of_cons, hrest, ?_, ?_⟩
    · rw [heq]
      exact (hgiven.uniqueActions h.unique).updateActions _ (.escalate _)
    · rw [heq]
      exact hgiven.stages_eq.1.trans h.stages
    · rw [heq]
      exact hgiven.stages_eq.2.trans h.runs

end SweepInv

/-- Two actions of one stage and run have the same target. -/
theorem escalationTarget_agree {a b : ApprovalAction} {s t : UserId × Option EmployeeId}
    (hrun : a.approvalRun = b.approvalRun) (hstage : a.stage = b.stage)
    (ha : escalationTarget user dir db a = some s) (hb : escalationTarget user dir db b = some t) :
    s = t := by
  have hresolved : ∀ {a : ApprovalAction} {t : UserId × Option EmployeeId},
      escalationTarget user dir db a = some t → ∃ stage run, db.getStage a.stage = some stage
        ∧ db.getRun a.approvalRun = some run
        ∧ resolveEscalationTarget user dir run stage = some t := by
    intro a t h
    obtain ⟨stage, hstage, h⟩ := Option.bind_eq_some_iff.mp h
    obtain ⟨run, hrun, h⟩ := Option.bind_eq_some_iff.mp h
    split at h
    · exact ⟨stage, run, hstage, hrun, (Option.filter_eq_some_iff.mp h).1⟩
    · cases h
  obtain ⟨stage, run, hgetStage, hgetRun, ha⟩ := hresolved ha
  obtain ⟨stage', run', hgetStage', hgetRun', hb⟩ := hresolved hb
  rw [hstage, hgetStage'] at hgetStage
  rw [hrun, hgetRun'] at hgetRun
  rw [Option.some.inj hgetStage, Option.some.inj hgetRun, ha] at hb
  exact Option.some.inj hb

/-- The action is cancelled by its escalation, and its target has a pending one. -/
def EscalatedTo (now : Time) (target : UserId × Option EmployeeId) (action : ApprovalAction)
    (db : ApprovalDb) : Prop :=
  (∃ a ∈ db.actions, a.id = action.id ∧ a.status = .cancelled ∧ a.escalatedAt = some now)
    ∧ ∃ b ∈ db.actions, b.slot = (action.approvalRun, action.stage, target.1)
      ∧ b.status = .pending

namespace SweepInv

/-- The escalated action is not one its target holds. -/
theorem slot_ne (h : SweepInv db st (action :: xs)) {y : ApprovalAction}
    {target t : UserId × Option EmployeeId}
    (htarget : escalationTarget user dir st.db action = some target)
    (ht : escalationTarget user dir db y = some t) :
    action.slot ≠ (y.approvalRun, y.stage, t.1) := by
  intro hslot
  obtain ⟨hrun, hrest⟩ := Prod.mk.inj hslot
  obtain ⟨hstage, happrover⟩ := Prod.mk.inj hrest
  have hne := escalationTarget_ne htarget
  rw [h.escalationTarget_eq] at htarget
  rw [escalationTarget_agree hrun hstage htarget ht] at hne
  exact hne happrover.symm

/-- **The decided actions of a target** are the same before and after a step. -/
theorem undecided_step (h : SweepInv db st (action :: xs)) {y : ApprovalAction}
    {t : UserId × Option EmployeeId} (ht : escalationTarget user dir db y = some t) :
    (∀ b ∈ (sweepAction user subjectLabel dir st action).1.db.actions,
        b.slot = (y.approvalRun, y.stage, t.1) → b.status = .pending)
      ↔ ∀ b ∈ st.db.actions, b.slot = (y.approvalRun, y.stage, t.1) → b.status = .pending := by
  obtain ⟨ha, hpending⟩ := h.untouched action List.mem_cons_self
  constructor
  · intro hall b hb hslot
    by_cases hid : b.id = action.id
    · rwa [h.unique.uniqueAction.eq_of_key hb ha hid]
    · exact hall b (h.mem_step hb hid) hslot
  · intro hall b hb hslot
    rcases sweepAction_db user subjectLabel dir h.unique ha
      hpending with ⟨heq, -⟩ | ⟨target, htarget, db₁, hgiven, heq⟩
    · rw [heq] at hb
      exact hall b hb hslot
    · rw [heq] at hb
      rcases Table.mem_update_iff.mp hb with ⟨c, hc, hid, rfl⟩ | ⟨hb, -⟩
      · have hunique := (hgiven.uniqueActions h.unique).uniqueAction
        rw [hunique.eq_of_key hc (hgiven.subset ha) (of_decide_eq_true hid)] at hslot
        exact absurd hslot (h.slot_ne htarget ht)
      · rcases hgiven.mem_cases hb with hb | hb
        · exact hall b hb hslot
        · exact hb

/-- **What stands in the way of an action** is the same before and after a step. -/
theorem clear_step (h : SweepInv db st (action :: xs)) (y : ApprovalAction) :
    Clear user subjectLabel dir (sweepAction user subjectLabel dir st action).1.db y
      ↔ Clear user subjectLabel dir st.db y := by
  have h' := h.step user subjectLabel dir
  constructor
  · rintro ⟨hrange, hundecided, hfits⟩
    rw [h'.deadlineOverflows_eq, ← h.deadlineOverflows_eq] at hrange
    simp only [h'.escalationTarget_eq] at hundecided hfits
    refine ⟨hrange, fun t ht => ?_, fun t ht => ?_⟩
    · rw [h.escalationTarget_eq] at ht
      exact (h.undecided_step ht).mp (hundecided t ht)
    · rw [h.escalationTarget_eq] at ht
      exact hfits t ht
  · rintro ⟨hrange, hundecided, hfits⟩
    rw [h.deadlineOverflows_eq, ← h'.deadlineOverflows_eq] at hrange
    simp only [h.escalationTarget_eq] at hundecided hfits
    refine ⟨hrange, fun t ht => ?_, fun t ht => ?_⟩
    · rw [h'.escalationTarget_eq] at ht
      exact (h.undecided_step ht).mpr (hundecided t ht)
    · rw [h'.escalationTarget_eq] at ht
      exact hfits t ht

/-- **A step that ends well escalates its action.** -/
theorem escalated_step (h : SweepInv db st (action :: xs))
    (hnone : (sweepAction user subjectLabel dir st action).2 = none)
    {t : UserId × Option EmployeeId} (ht : escalationTarget user dir db action = some t) :
    EscalatedTo dir.now t action (sweepAction user subjectLabel dir st action).1.db := by
  obtain ⟨ha, hpending⟩ := h.untouched action List.mem_cons_self
  have htarget := (h.escalationTarget_eq user dir action).trans ht
  rcases sweepAction_db user subjectLabel dir h.unique ha
    hpending with ⟨-, hno⟩ | ⟨target, hsome, db₁, hgiven, heq⟩
  · rw [hno hnone] at htarget
    cases htarget
  · rw [htarget] at hsome
    obtain rfl := Option.some.inj hsome
    rw [heq]
    refine ⟨⟨action.escalate dir.now, ?_, rfl, rfl, rfl⟩, ?_⟩
    · exact Table.mem_update_iff.mpr
        (Or.inl ⟨action, hgiven.subset ha, decide_eq_true rfl, rfl⟩)
    · obtain ⟨b, hb, hslot, hstatus⟩ := hgiven.exists_pending
      refine ⟨b, Table.mem_update_iff.mpr (Or.inr ⟨hb, decide_eq_false fun hid => ?_⟩), hslot,
        hstatus⟩
      have hunique := (hgiven.uniqueActions h.unique).uniqueAction
      rw [hunique.eq_of_key hb (hgiven.subset ha) hid] at hslot
      exact h.slot_ne htarget ht hslot

/-- **An escalation stays** when another action is escalated. -/
theorem escalated_kept (h : SweepInv db st (action :: xs)) {y : ApprovalAction}
    {t : UserId × Option EmployeeId} (ht : escalationTarget user dir db y = some t)
    (hy : EscalatedTo dir.now t y st.db) :
    EscalatedTo dir.now t y (sweepAction user subjectLabel dir st action).1.db := by
  obtain ⟨ha, hpending⟩ := h.untouched action List.mem_cons_self
  rcases sweepAction_db user subjectLabel dir h.unique ha
    hpending with ⟨heq, -⟩ | ⟨target, htarget, db₁, hgiven, heq⟩
  · rwa [heq]
  · obtain ⟨⟨a, hrow, hid, hcancelled, hwhen⟩, b, hb, hslot, hstatus⟩ := hy
    refine ⟨⟨a, h.mem_step hrow fun heq => ?_, hid, hcancelled, hwhen⟩, b,
      h.mem_step hb fun heq => ?_, hslot, hstatus⟩
    · rw [h.unique.uniqueAction.eq_of_key hrow ha heq, hpending] at hcancelled
      cases hcancelled
    · rw [h.unique.uniqueAction.eq_of_key hb ha heq] at hslot
      exact h.slot_ne htarget ht hslot

end SweepInv

/-- **The sweep completes** when nothing stands in the way of any action. Two actions of one
run, stage and user it never leaves. -/
theorem sweep_completes_iff (user : EmployeeId → UserId) (subjectLabel : RunId → String)
    (dir : Directory) (db : ApprovalDb) (h : db.UniqueActions) :
    (escalationSweep user subjectLabel dir db).1.db.UniqueActions
      ∧ (((escalationSweep user subjectLabel dir db).2 = none
          ∧ ∀ action ∈ pendingActions db, ∀ target,
            escalationTarget user dir db action = some target →
              EscalatedTo dir.now target action (escalationSweep user subjectLabel dir db).1.db)
        ↔ ∀ action ∈ pendingActions db, Clear user subjectLabel dir db action) := by
  have hstart := SweepInv.start h
  have hinv : ∀ st action xs, SweepInv db st (action :: xs) →
      (sweepAction user subjectLabel dir st action).2 = none →
      SweepInv db (sweepAction user subjectLabel dir st action).1 xs := fun _ _ _ h _ =>
    h.step user subjectLabel dir
  refine ⟨?_, ?_⟩
  · obtain ⟨rest, hrest⟩ := Batch.run_invariant (I := SweepInv db)
      (fun _ _ _ h => h.step user subjectLabel dir) hstart
    exact hrest.unique
  · have hnone := Batch.run_eq_none_iff hinv (P := fun st a => Clear user subjectLabel dir st.db a)
      (fun st a xs h => sweepAction_eq_none_iff h.unique (h.untouched a List.mem_cons_self).1
        (h.untouched a List.mem_cons_self).2)
      (fun st a xs h _ y _ => h.clear_step y) hstart
    refine ⟨fun hdone => hnone.mp hdone.1, fun hclear => ⟨hnone.mpr hclear, ?_⟩⟩
    exact Batch.run_done hinv (D := fun st a => ∀ t, escalationTarget user dir db a = some t →
        EscalatedTo dir.now t a st.db)
      (fun st a xs h => (List.nodup_cons.mp h.nodup).1)
      (fun st a xs h hok t ht => h.escalated_step hok ht)
      (fun st a xs h _ y _ hy t ht => h.escalated_kept ht (hy t ht)) hstart (hnone.mpr hclear)

variable (user dir) in
/-- An action whose deadline and label are in order is escalated as the engine does it. -/
theorem sweepAction_eq_escalateAction (h : SweepInv db st (action :: xs))
    (hrange : deadlineOverflows db action = false)
    (hfits : (subjectLabel action.approvalRun).length ≤ 180) :
    match escalateAction user dir st.db action with
    | .error e => sweepAction user subjectLabel dir st action = (st, some e)
    | .ok db' => (sweepAction user subjectLabel dir st action).2 = none
        ∧ (sweepAction user subjectLabel dir st action).1.db = db' := by
  obtain ⟨ha, hpending⟩ := h.untouched action List.mem_cons_self
  rw [← h.deadlineOverflows_eq] at hrange
  rw [sweepAction_eq, hrange, if_neg Bool.false_ne_true]
  unfold escalateAction
  cases htarget : escalationTarget user dir st.db action with
  | none => exact ⟨rfl, rfl⟩
  | some target =>
    have hnew := escalatedAt_of_escalationTarget htarget
    dsimp only
    cases hok : escalateLocked dir.now action.id target st.db with
    | error e =>
      dsimp only
      rw [escalateTo, hok]
    | ok db' =>
      dsimp only
      rw [escalateTo_of_ok h.unique ha hpending hnew hok]
      exact ⟨(notifyEscalation_eq_none_iff _).mpr hfits, notifyEscalation_db _⟩

/-- **The sweep is the batch of the engine**, where no deadline is out of range and every label
fits. -/
theorem sweep_db_eq (h : SweepInv db st xs)
    (hclear : ∀ a ∈ xs, deadlineOverflows db a = false
      ∧ (subjectLabel a.approvalRun).length ≤ 180) :
    (Batch.run (sweepAction user subjectLabel dir) st xs).1.db
      = escalateAll user dir st.db xs := by
  induction xs generalizing st with
  | nil => rfl
  | cons action xs ih =>
    obtain ⟨hrange, hfits⟩ := hclear action List.mem_cons_self
    have hstep := sweepAction_eq_escalateAction user dir h hrange hfits
    rw [escalateAll]
    split
    · next e herror =>
      rw [herror] at hstep
      dsimp only at hstep
      rw [Batch.run_cons_of_some (by rw [hstep]), hstep]
    · next db' hok =>
      rw [hok] at hstep
      obtain ⟨hnone, hdb⟩ := hstep
      rw [Batch.run_cons_of_none hnone, ← hdb]
      exact ih (h.step user subjectLabel dir) fun a ha => hclear a (List.mem_cons_of_mem _ ha)

theorem escalationSweep_db (h : db.UniqueActions)
    (hclear : ∀ a ∈ pendingActions db, deadlineOverflows db a = false
      ∧ (subjectLabel a.approvalRun).length ≤ 180) :
    (escalationSweep user subjectLabel dir db).1.db
      = processPendingActionEscalations user dir db :=
  sweep_db_eq (SweepInv.start h) hclear

end

/-! ## The tables the engine reaches -/

section

variable {S : Type} {handler : SubjectHandler S} {user : EmployeeId → UserId}
  {dir : Directory} {st st' : EngineState S} {db db' : ApprovalDb}

/-- One action for a run, a stage and a user. -/
abbrev ApprovalDb.UniqueSlots (db : ApprovalDb) : Prop :=
  Table.Unique ApprovalAction.slot db.actions

namespace ApprovalDb.UniqueSlots

theorem createAction {now : Time} {r : RunId} {s : StageId} {assignment : ApproverAssignment}
    {escalatedFrom : Option ActionId} (h : db.UniqueSlots)
    (hok : db.createAction now r s assignment escalatedFrom = .ok db') : db'.UniqueSlots := by
  unfold ApprovalDb.createAction at hok
  split at hok
  · cases hok
  · next hfree =>
    obtain rfl := Except.ok.inj hok
    refine h.append_one fun b hb hslot => hfree (List.any_eq_true.mpr ⟨b, hb, ?_⟩)
    obtain ⟨hrun, hrest⟩ := Prod.mk.inj hslot
    obtain ⟨hstage, huser⟩ := Prod.mk.inj hrest
    exact decide_eq_true ⟨hrun, hstage, huser⟩

theorem updateActions (h : db.UniqueSlots) (p : ApprovalAction → Bool)
    {f : ApprovalAction → ApprovalAction} (hf : KeepsPlace f) :
    (db.updateActions p f).UniqueSlots :=
  h.update hf.slot

theorem map (h : db.UniqueSlots) {g : ApprovalAction → ApprovalAction} (hg : KeepsPlace g) :
    Table.Unique ApprovalAction.slot (db.actions.map g) := by
  have hslots : (db.actions.map g).map ApprovalAction.slot
      = db.actions.map ApprovalAction.slot := by
    rw [List.map_map]
    exact List.map_congr_left fun a _ => hg.slot a
  unfold Table.Unique
  rw [hslots]
  exact h

theorem createActions {run : ApprovalRun} {stage : ApprovalStage} {now : Time}
    {approvers : List ApproverAssignment} (h : db.UniqueSlots)
    (hok : approvers.foldlM (fun db a => db.createAction now run.id stage.id a none) db
      = .ok db') : db'.UniqueSlots := by
  induction approvers generalizing db with
  | nil =>
    cases hok
    exact h
  | cons a rest ih =>
    rw [List.foldlM_cons, Transaction.bind_eq_ok_iff] at hok
    obtain ⟨db₁, h₁, hrest⟩ := hok
    exact ih (h.createAction h₁) hrest

theorem createStageActions {run : ApprovalRun} {stage : ApprovalStage} (h : db.UniqueSlots)
    (hok : createStageActions user dir run stage db = .ok db') : db'.UniqueSlots := by
  obtain ⟨approvers, -, hfold⟩ := Transaction.bind_eq_ok_iff.mp hok
  exact h.createActions hfold

theorem recordApproval (h : db.UniqueSlots) (now : Time) (action : ApprovalAction)
    (stage : ApprovalStage) (comment : String) :
    (recordApproval now action stage comment db).UniqueSlots := by
  unfold Approvals.recordApproval
  cases stage.mode with
  | all => exact h.updateActions _ (.decide _ _ _)
  | any => exact (h.updateActions _ (.decide _ _ _)).updateActions _ (.close _ _)

theorem escalateLocked {now : Time} {id : ActionId} {target : UserId × Option EmployeeId}
    (h : db.UniqueSlots) (hok : escalateLocked now id target db = .ok db') :
    db'.UniqueSlots := by
  unfold Approvals.escalateLocked at hok
  split at hok
  · cases hok
  · split at hok
    · exact Except.ok.inj hok ▸ h
    · obtain ⟨db₁, hensure, hret⟩ := Transaction.bind_eq_ok_iff.mp hok
      obtain rfl := Transaction.pure_eq_ok_iff.mp hret
      unfold ensureTargetAction at hensure
      split at hensure
      · exact (Except.ok.inj hensure ▸ h : db₁.UniqueSlots).updateActions _ (.escalate _)
      · exact (h.createAction hensure).updateActions _ (.escalate _)

end ApprovalDb.UniqueSlots

/-- **Every request keeps the constraint.** -/
theorem uniqueSlots_perform {op : Op} (h : st.db.UniqueSlots)
    (hok : perform handler user st op = .ok st') : st'.db.UniqueSlots := by
  cases op with
  | createApprovalRun dir workflow kind organisation requester subject =>
    obtain ⟨⟨id, db⟩, hcreate, hret⟩ := Transaction.bind_eq_ok_iff.mp hok
    obtain rfl := Transaction.pure_eq_ok_iff.mp hret
    obtain ⟨run, stage, -, -, -, -, -, -, -, hstage⟩ := createApprovalRun_eq_ok hcreate
    have hinserted : (st.db.insertRun run).UniqueSlots := h
    exact hinserted.createStageActions hstage
  | approveAction dir id actor comment =>
    obtain ⟨action, -, run, -, -, -, -, -, hwrites⟩ := approveAction_eq_ok hok
    obtain ⟨stage, -, -, ⟨-, rfl⟩ | ⟨-, hadvance⟩⟩ := approveActionWrites_eq_ok hwrites
    · exact h.recordApproval _ _ _ _
    · have hrecorded := h.recordApproval dir.now action stage comment
      rcases advanceOrCompleteRun_eq_ok hadvance with ⟨-, hdb, -⟩ | ⟨next, -, hcreate, -⟩
      · rw [hdb]
        exact hrecorded
      · have hmoved : ((recordApproval dir.now action stage comment st.db).setCurrentStage run.id
            next.sequence).UniqueSlots := hrecorded
        exact hmoved.createStageActions hcreate
  | rejectAction dir id actor comment =>
    obtain ⟨action, -, run, -, -, -, -, -, hwrites⟩ := rejectAction_eq_ok hok
    rw [(rejectActionWrites_eq_ok hwrites).1]
    exact h.map (keepsPlace_rejectActions _ _ _ _)
  | processPendingActionEscalations dir =>
    obtain rfl := Except.ok.inj hok
    exact escalateAll_induction (P := ApprovalDb.UniqueSlots)
      (fun db hdb _ _ _ _ db' hok => hdb.escalateLocked hok) h
  | cancelApprovalRun now run subjectStatus =>
    rcases cancelApprovalRun_eq_ok hok with rfl | ⟨r, -, -, -, hwrites⟩
    · exact h
    · rw [(cancelApprovalRunWrites_eq_ok hwrites).1]
      exact h.map ((KeepsPlace.close _ _).select _)

/-- **The tables the engine reaches** have their keys and their constraint. -/
theorem uniqueActions_reached (handler : SubjectHandler S) (user : EmployeeId → UserId)
    (stages : StageTable) (subjects : S) (ops : List Op) :
    (reached handler user stages subjects ops).db.UniqueActions where
  uniqueAction := (inv_reached handler user stages subjects ops).uniqueAction
  freshAction := (inv_reached handler user stages subjects ops).freshAction
  uniqueSlot := by
    have hstart : (EngineState.initial stages subjects).db.UniqueSlots := List.nodup_nil
    exact Run.invariant (I := fun st : EngineState S => st.db.UniqueSlots)
      (fun st op h => Transaction.settle_induction
        (P := fun st : EngineState S => st.db.UniqueSlots) h
        (fun st' hok => uniqueSlots_perform h hok)) hstart ops

end

namespace Sample

/-- Employee 2 and the primary administrator together, escalated to the administrator. -/
def adminStages : StageTable where
  rows := [{ stage 1 1 .all [employeeApprover 2,
      { id := 2, approverType := .primaryOrgAdmin, approverEmployee := none, managerLevel := 1,
        roleCode := "" }] with
    slaPolicy := some adminEscalation }]
  uniqueId := by decide
  uniqueSequence := by decide

/-- Two requests; the administrator has approved the first. -/
def halfApproved : List Op :=
  [request, .createApprovalRun (directory 0) 1 .leave 1 (some 1) ⟨.leaveRequest, 8⟩,
    .approveAction (directory 0) 2 200 ""]

/-- The tables a day later. -/
def overdueDb : ApprovalDb := (reached handler user adminStages () halfApproved).db

end Sample

/-- **The sweep stops** at the first request, whose administrator has approved already: the
action of the second, overdue as well, stays as it is. -/
theorem decided_target_stops_sweep :
    (escalationSweep Sample.user (fun _ => "Leave") (Sample.directory 86400) Sample.overdueDb).2
        = some "unique_approval_action_per_user_stage"
      ∧ ∃ action ∈ pendingActions Sample.overdueDb,
        escalationTarget Sample.user (Sample.directory 86400) Sample.overdueDb action
            = some (200, none)
          ∧ action.approvalRun = 3
          ∧ action ∈ (escalationSweep Sample.user (fun _ => "Leave") (Sample.directory 86400)
              Sample.overdueDb).1.db.actions := by
  decide

theorem sweep_completes_iff_sample :
    (escalationSweep Sample.user (fun _ => "Leave") (Sample.directory 86400)
        Sample.overdueDb).1.db.UniqueActions
      ∧ ¬ ∀ action ∈ pendingActions Sample.overdueDb,
        Clear Sample.user (fun _ => "Leave") (Sample.directory 86400) Sample.overdueDb action := by
  have hsweep := sweep_completes_iff Sample.user (fun _ => "Leave") (Sample.directory 86400)
    Sample.overdueDb ⟨by decide, by decide, by decide⟩
  refine ⟨hsweep.1, fun hclear => ?_⟩
  have hnone := (hsweep.2.mpr hclear).1
  revert hnone
  decide

end Approvals
