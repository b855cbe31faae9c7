import Clarisal.Approvals.Escalation
import Clarisal.Lib.Dict
import Clarisal.Lib.Sweeps

/-!
# Reminders

A sweep reads the pending actions with the policies of their stages, and then reminds, one by
one, the approvers of those that have been pending for too long. An action is reminded of by
setting the time of its reminder, in one statement that looks again whether the action is
pending and nobody has been reminded of it; then its approver is notified.

So whatever sweeps overlap, and whatever happens to the approvals meanwhile, an approver is
notified of an action once at most, and of those that were overdue when some sweep began
(`reminded_exact`). After a sweep nobody is left who should be reminded (`reminded_all`), unless
a sweep broke off: the title of the notification repeats the label of the run, which may not
fit. The action then counts as reminded of, though nobody was notified.
-/

namespace Approvals

/-- What a sweep has read of an action. -/
structure ReminderCandidate where
  action : ApprovalAction
  reminderAfterHours : Option ℕ
  reminderSentAt : Option Time
deriving DecidableEq, Repr

/-- A notification, and the action it is about, which is in none of its columns. -/
structure ReminderNotification where
  action : ActionId
  recipient : UserId
  title : String
  relatedObject : RunId
deriving DecidableEq, Repr

/-- The tables, with the times of the reminders that were sent, and the sweeps under way. -/
structure ReminderTables where
  db : ApprovalDb
  clock : Time
  reminderSentAt : List (ActionId × Time)
  notifications : List ReminderNotification
  sweeps : List (Sweep Time ReminderCandidate)

/-! ## A sweep -/

section

variable (subjectLabel : RunId → String)

/-- What a sweep reads. -/
def reminderCandidates (t : ReminderTables) : List ReminderCandidate :=
  (pendingActions t.db).map fun action =>
    { action := action
      reminderAfterHours := ((t.db.getStage action.stage).bind stageSlaPolicy).bind
        ApprovalStageEscalationPolicy.reminderAfterHours
      reminderSentAt := Dict.get action.id t.reminderSentAt }

namespace ReminderCandidate

variable (c : ReminderCandidate)

/-- When the reminder is due, if one is to be sent. -/
def dueAt : Option Time :=
  if c.reminderSentAt = none then
    (c.reminderAfterHours.filter (0 < ·)).map fun hours => c.action.createdAt + hours * 3600
  else none

def isDue (now : Time) : Bool := c.dueAt.any (· ≤ now)

/-- The time it is due cannot be written. -/
def overflows : Bool := c.dueAt.any (datetimeEnd ≤ ·)

def notification : ReminderNotification where
  action := c.action.id
  recipient := c.action.approverUser
  title := s!"Approval reminder: {subjectLabel c.action.approvalRun}"
  relatedObject := c.action.approvalRun

/-- The title does not fit its column. -/
def isTooLong : Bool := notificationTitleMaxLength < (c.notification subjectLabel).title.length

end ReminderCandidate

/-- The action is pending and nobody has been reminded of it. -/
def awaitsReminder (t : ReminderTables) (id : ActionId) : Bool :=
  (t.db.getAction id).any (fun a => a.status = .pending) ∧ Dict.get id t.reminderSentAt = none

/-- **A sweep comes to an action**: what it leaves, and whether it breaks off. -/
def remind (t : ReminderTables) (now : Time) (c : ReminderCandidate) : ReminderTables × Bool :=
  if c.overflows then (t, true)
  else if c.isDue now ∧ awaitsReminder t c.action.id then
    let t := { t with reminderSentAt := t.reminderSentAt ++ [(c.action.id, now)] }
    -- the time is set by now, whether or not the approver can be notified
    if c.isTooLong subjectLabel then (t, true)
    else ({ t with notifications := t.notifications ++ [c.notification subjectLabel] }, false)
  else (t, false)

def startReminders (t : ReminderTables) : ReminderTables :=
  { t with sweeps := t.sweeps ++ [{ job := t.clock, pending := reminderCandidates t }] }

def continueReminders (t : ReminderTables) (i : ℕ) : ReminderTables :=
  match Sweeps.next? i t.sweeps with
  | none => { t with sweeps := Sweeps.advance i t.sweeps }
  | some (now, c) =>
    let reminded := remind subjectLabel t now c
    { reminded.1 with
      sweeps := if reminded.2 then t.sweeps.eraseIdx i else Sweeps.advance i t.sweeps }

/-! ## Everything that happens -/

/-- An event: time goes on, the approvals change in any way, or a sweep starts or goes on. -/
inductive ReminderEvent
  | tick (seconds : ℕ)
  | change (db : ApprovalDb)
  | startReminders
  | continueReminders (i : ℕ)

def ReminderEvent.isSweep : ReminderEvent → Bool
  | startReminders | continueReminders _ => true
  | tick _ | change _ => false

def reminderStep (t : ReminderTables) : ReminderEvent → ReminderTables
  | .tick seconds => { t with clock := t.clock + seconds }
  | .change db => { t with db := db }
  | .startReminders => startReminders t
  | .continueReminders i => continueReminders subjectLabel t i

/-! ## Once at most -/

/-- **What is kept of the reminders**, when sweeps have read what is `Seen`. -/
structure Reminded (Seen : Time → ReminderCandidate → Prop) (t : ReminderTables) : Prop where
  waiting : ∀ now c, Sweeps.Waits t.sweeps now c → Seen now c
  once : (t.reminderSentAt.map Prod.fst).Nodup
  due : ∀ sent ∈ t.reminderSentAt, ∃ c, Seen sent.2 c ∧ c.isDue sent.2 = true
    ∧ c.action.id = sent.1
    ∧ (c.notification subjectLabel ∈ t.notifications ∨ c.isTooLong subjectLabel = true)
  notifiedOnce : (t.notifications.map ReminderNotification.action).Nodup
  notified : ∀ n ∈ t.notifications, ∃ now c, (n.action, now) ∈ t.reminderSentAt ∧ Seen now c
    ∧ c.isDue now = true ∧ n = c.notification subjectLabel

variable {subjectLabel} {Seen : Time → ReminderCandidate → Prop} {t : ReminderTables} {now : Time}
  {c c' : ReminderCandidate}

/-- **A sweep that comes to an action**: nothing happens, or its reminder is sent. -/
theorem remind_cases (subjectLabel : RunId → String) (t : ReminderTables) (now : Time)
    (c : ReminderCandidate) :
    (remind subjectLabel t now c).1 = t
        ∧ ¬ (c.overflows = false ∧ c.isDue now = true ∧ awaitsReminder t c.action.id = true)
      ∨ (c.isDue now = true ∧ awaitsReminder t c.action.id = true)
        ∧ (remind subjectLabel t now c).1 =
          { t with
            reminderSentAt := t.reminderSentAt ++ [(c.action.id, now)]
            notifications := t.notifications
              ++ if c.isTooLong subjectLabel then [] else [c.notification subjectLabel] } := by
  unfold remind
  split
  · next hoverflows => exact Or.inl ⟨rfl, fun h => by simp [hoverflows] at h⟩
  split
  · next h =>
    refine Or.inr ⟨h, ?_⟩
    dsimp only
    split <;> simp
  · next h => exact Or.inl ⟨rfl, fun hall => h hall.2⟩

theorem remind_db_clock (subjectLabel : RunId → String) (t : ReminderTables) (now : Time)
    (c : ReminderCandidate) : (remind subjectLabel t now c).1.db = t.db
      ∧ (remind subjectLabel t now c).1.clock = t.clock := by
  rcases remind_cases subjectLabel t now c with ⟨hsame, -⟩ | ⟨-, hnew⟩
  · rw [hsame]
    exact ⟨rfl, rfl⟩
  · rw [hnew]
    exact ⟨rfl, rfl⟩

theorem sent_ne_of_awaits {id : ActionId} (h : awaitsReminder t id = true) :
    ∀ sent ∈ t.reminderSentAt, sent.1 ≠ id := by
  have hnone := (of_decide_eq_true h).2
  exact Table.find_eq_none_iff.mp (Option.map_eq_none_iff.mp hnone)

theorem Reminded.sweeps (h : Reminded subjectLabel Seen t)
    {sweeps : List (Sweep Time ReminderCandidate)}
    (hsweeps : ∀ now c, Sweeps.Waits sweeps now c → Sweeps.Waits t.sweeps now c) :
    Reminded subjectLabel Seen { t with sweeps := sweeps } where
  waiting now c hwaits := h.waiting now c (hsweeps now c hwaits)
  once := h.once
  due := h.due
  notifiedOnce := h.notifiedOnce
  notified := h.notified

/-- **A reminder is sent**, of an action nobody has been reminded of. -/
theorem Reminded.remind (h : Reminded subjectLabel Seen t) (hseen : Seen now c) :
    Reminded subjectLabel Seen (remind subjectLabel t now c).1 := by
  rcases remind_cases subjectLabel t now c with ⟨hsame, -⟩ | ⟨⟨hdue, hawaits⟩, hnext⟩
  · rw [hsame]
    exact h
  rw [hnext]
  have hnew := sent_ne_of_awaits hawaits
  refine ⟨h.waiting, ?_, ?_, ?_, ?_⟩
  · rw [List.map_append, List.nodup_append]
    refine ⟨h.once, List.nodup_singleton _, fun id hid other hother => ?_⟩
    obtain ⟨sent, hsent, rfl⟩ := List.mem_map.mp hid
    rw [List.mem_singleton.mp hother]
    exact hnew sent hsent
  · intro sent hsent
    rcases List.mem_append.mp hsent with hsent | hsent
    · obtain ⟨c', hseen', hdue', hid, hnotified⟩ := h.due sent hsent
      exact ⟨c', hseen', hdue', hid, hnotified.imp_left (List.mem_append_left _)⟩
    · rw [List.mem_singleton.mp hsent]
      refine ⟨c, hseen, hdue, rfl, ?_⟩
      cases hlong : c.isTooLong subjectLabel with
      | true => exact Or.inr rfl
      | false => exact Or.inl (List.mem_append_right _ (List.mem_singleton_self _))
  · cases c.isTooLong subjectLabel with
    | true => simpa using h.notifiedOnce
    | false =>
      show ((t.notifications ++ [c.notification subjectLabel]).map _).Nodup
      rw [List.map_append, List.nodup_append]
      refine ⟨h.notifiedOnce, List.nodup_singleton _, fun id hid other hother => ?_⟩
      obtain ⟨n, hn, rfl⟩ := List.mem_map.mp hid
      obtain ⟨now', c', hsent, -⟩ := h.notified n hn
      rw [List.mem_singleton.mp hother]
      exact hnew _ hsent
  · intro n hn
    rcases List.mem_append.mp hn with hn | hn
    · obtain ⟨now', c', hsent, hrest⟩ := h.notified n hn
      exact ⟨now', c', List.mem_append_left _ hsent, hrest⟩
    · obtain rfl : n = c.notification subjectLabel := by
        split at hn
        · cases hn
        · exact List.mem_singleton.mp hn
      exact ⟨now, c, List.mem_append_right _ (List.mem_singleton_self _), hseen, hdue, rfl⟩

theorem Reminded.step (h : Reminded subjectLabel Seen t)
    (hseen : ∀ c ∈ reminderCandidates t, Seen t.clock c) (event : ReminderEvent) :
    Reminded subjectLabel Seen (reminderStep subjectLabel t event) := by
  cases event with
  | tick seconds => exact ⟨h.waiting, h.once, h.due, h.notifiedOnce, h.notified⟩
  | change db => exact ⟨h.waiting, h.once, h.due, h.notifiedOnce, h.notified⟩
  | startReminders =>
    refine ⟨?_, h.once, h.due, h.notifiedOnce, h.notified⟩
    rintro _ c ⟨s, hs, rfl, hc⟩
    rcases List.mem_append.mp hs with hs | hs
    · exact h.waiting _ c ⟨s, hs, rfl, hc⟩
    · rw [List.mem_singleton.mp hs] at hc ⊢
      exact hseen c hc
  | continueReminders i =>
    rw [reminderStep, continueReminders]
    split
    · exact h.sweeps fun _ _ => Sweeps.waits_of_advance
    · next now c hnext =>
      have hreminded := h.remind (h.waiting now c (Sweeps.waits_of_next? hnext))
      refine ⟨?_, hreminded.once, hreminded.due, hreminded.notifiedOnce, hreminded.notified⟩
      intro now' c' hwaits
      refine h.waiting now' c' ?_
      dsimp only at hwaits
      split at hwaits
      · exact Sweeps.waits_of_eraseIdx hwaits
      · exact Sweeps.waits_of_advance hwaits

/-- No reminder has been sent, and no sweep is under way. -/
structure NoReminders (t : ReminderTables) : Prop where
  sent : t.reminderSentAt = []
  notifications : t.notifications = []
  sweeps : t.sweeps = []

theorem NoReminders.reminded (h : NoReminders t) : Reminded subjectLabel Seen t where
  waiting := by simp [Sweeps.Waits, h.sweeps]
  once := by simp [h.sent]
  due := by simp [h.sent]
  notifiedOnce := by simp [h.notifications]
  notified := by simp [h.notifications]

/-- **A sweep could read it** at some moment of the run. -/
def SeenAlong (subjectLabel : RunId → String) (t : ReminderTables) (events : List ReminderEvent)
    (now : Time) (c : ReminderCandidate) : Prop :=
  ∃ k ≤ events.length,
    let then' := Run.exec (reminderStep subjectLabel) t (events.take k)
    then'.clock = now ∧ c ∈ reminderCandidates then'

theorem Reminded.along (h : NoReminders t) (events : List ReminderEvent) {k : ℕ}
    (hk : k ≤ events.length) : Reminded subjectLabel (SeenAlong subjectLabel t events)
      (Run.exec (reminderStep subjectLabel) t (events.take k)) := by
  induction k with
  | zero => exact h.reminded
  | succ k ih =>
    have hprev := ih (Nat.le_of_succ_le hk)
    rw [List.take_succ_eq_append_getElem hk, Run.exec_append]
    exact hprev.step (fun c hc => ⟨k, Nat.le_of_succ_le hk, rfl, hc⟩) _

/-- **Reminders, exactly**, in every run that starts without any. An approver is notified of an
action once at most; and of every action that counts as reminded of, it was overdue and not
yet reminded of when a sweep read it, and its approver has been notified unless the label of
its run is too long. -/
theorem reminded_exact (subjectLabel : RunId → String) (t : ReminderTables) (ht : NoReminders t)
    (events : List ReminderEvent) :
    let now := Run.exec (reminderStep subjectLabel) t events
    (now.notifications.map ReminderNotification.action).Nodup
      ∧ (∀ n ∈ now.notifications, ∃ at' c, (n.action, at') ∈ now.reminderSentAt
        ∧ SeenAlong subjectLabel t events at' c ∧ c.isDue at' = true
        ∧ n = c.notification subjectLabel)
      ∧ ∀ sent ∈ now.reminderSentAt, ∃ c, SeenAlong subjectLabel t events sent.2 c
        ∧ c.isDue sent.2 = true ∧ c.action.id = sent.1
        ∧ (c.notification subjectLabel ∈ now.notifications
          ∨ c.isTooLong subjectLabel = true) := by
  intro now
  have hreminded : Reminded subjectLabel _ (Run.exec _ t (events.take events.length)) :=
    Reminded.along ht events le_rfl
  rw [List.take_length] at hreminded
  exact ⟨hreminded.notifiedOnce, hreminded.notified, hreminded.due⟩

/-! ## After a sweep -/

/-- A sweep does not break off at it. -/
def ReminderCandidate.Fits (subjectLabel : RunId → String) (c : ReminderCandidate) : Prop :=
  c.overflows = false ∧ c.isTooLong subjectLabel = false

/-- Every action that is overdue is about to be met by a sweep that does not break off. -/
def RemindersCovered (subjectLabel : RunId → String) (t : ReminderTables) : Prop :=
  ∀ c ∈ reminderCandidates t, c.isDue t.clock = true →
    ∃ s ∈ t.sweeps, s.job = t.clock ∧ (∀ c' ∈ s.pending, c'.Fits subjectLabel) ∧ c ∈ s.pending

theorem not_fits_of_breaksOff (h : (remind subjectLabel t now c).2 = true) :
    ¬ c.Fits subjectLabel := by
  rintro ⟨hoverflows, hlong⟩
  unfold remind at h
  rw [hoverflows, if_neg Bool.false_ne_true] at h
  split at h
  · rw [hlong] at h
    cases h
  · cases h

theorem sentAt_eq_none_of_isDue (h : c.isDue now = true) : c.reminderSentAt = none := by
  by_contra hne
  rw [ReminderCandidate.isDue, ReminderCandidate.dueAt, if_neg hne] at h
  cases h

theorem get_eq_none_iff {id : ActionId} {sent : List (ActionId × Time)} :
    Dict.get id sent = none ↔ ∀ e ∈ sent, e.1 ≠ id := by
  rw [Dict.get, Option.map_eq_none_iff]
  exact Table.find_eq_none_iff

/-- What is overdue after a reminder was overdue before, and is not what it was about. -/
theorem mem_candidates_of_remind
    (h : c ∈ reminderCandidates (remind subjectLabel t now c').1) {later : Time}
    (hdue : c.isDue later = true) :
    c ∈ reminderCandidates t
      ∧ ¬ (c'.overflows = false ∧ c'.isDue now = true ∧ awaitsReminder t c'.action.id = true
        ∧ c'.action.id = c.action.id) := by
  rcases remind_cases subjectLabel t now c' with ⟨hsame, hnot⟩ | ⟨-, hnext⟩
  · rw [hsame] at h
    exact ⟨h, fun ⟨hoverflows, hdue', hawaits, _⟩ => hnot ⟨hoverflows, hdue', hawaits⟩⟩
  · rw [hnext] at h
    obtain ⟨a, ha, rfl⟩ := List.mem_map.mp h
    -- nobody has been reminded of it by now
    have hnone : ∀ e ∈ t.reminderSentAt ++ [(c'.action.id, now)], e.1 ≠ a.id :=
      get_eq_none_iff.mp (sentAt_eq_none_of_isDue hdue)
    have hbefore : Dict.get a.id t.reminderSentAt = none :=
      get_eq_none_iff.mpr fun e he => hnone e (List.mem_append_left _ he)
    refine ⟨List.mem_map.mpr ⟨a, ha, ?_⟩, fun ⟨_, _, _, hid⟩ =>
      hnone _ (List.mem_append_right _ (List.mem_singleton_self _)) hid⟩
    dsimp only
    rw [hbefore, get_eq_none_iff.mpr hnone]

/-- A pending action of the table awaits a reminder while none was sent. -/
theorem awaits_of_mem_candidates (hunique : Table.Unique ApprovalAction.id t.db.actions)
    (h : c ∈ reminderCandidates t) (hdue : c.isDue now = true) :
    awaitsReminder t c.action.id = true := by
  obtain ⟨a, ha, rfl⟩ := List.mem_map.mp h
  obtain ⟨hmem, hpending⟩ := List.mem_filter.mp ha
  have hget : t.db.getAction a.id = some a := (Table.find_eq_some_iff hunique).mpr ⟨hmem, rfl⟩
  have hnone : Dict.get a.id t.reminderSentAt = none := sentAt_eq_none_of_isDue hdue
  show decide _ = true
  rw [hget]
  exact decide_eq_true ⟨decide_eq_true (of_decide_eq_true hpending).1, hnone⟩

theorem RemindersCovered.sweep (h : RemindersCovered subjectLabel t)
    (hunique : Table.Unique ApprovalAction.id t.db.actions) {event : ReminderEvent}
    (hsweep : event.isSweep = true) :
    RemindersCovered subjectLabel (reminderStep subjectLabel t event) := by
  cases event with
  | tick seconds => cases hsweep
  | change db => cases hsweep
  | startReminders =>
    intro c hc hdue
    obtain ⟨s, hs, hrest⟩ := h c hc hdue
    exact ⟨s, List.mem_append_left _ hs, hrest⟩
  | continueReminders i =>
    rw [reminderStep, continueReminders]
    split
    · next hnone =>
      intro c hc hdue
      obtain ⟨s, hs, hjob, hpending, hmem⟩ := h c hc hdue
      obtain ⟨s', hs', hjob', hsub, hmem'⟩ := (Sweeps.met_or_mem_advance i hs hmem).resolve_left
        (by rw [hnone]; exact Option.some_ne_none _ ∘ Eq.symm)
      exact ⟨s', hs', hjob'.trans hjob, fun c' hc' => hpending c' (hsub hc'), hmem'⟩
    · next now c' hnext =>
      intro c hc hdue
      dsimp only at hdue ⊢
      have hreminded := remind_db_clock subjectLabel t now c'
      have hclock : c.isDue t.clock = true := hreminded.2 ▸ hdue
      obtain ⟨hmem, hnot⟩ := mem_candidates_of_remind hc hclock
      obtain ⟨s, hs, hjob, hpending, hwaits⟩ := h c hmem hclock
      cases hbreaks : (remind subjectLabel t now c').2 with
      | true =>
        rw [if_pos rfl]
        refine ⟨s, Sweeps.mem_eraseIdx_of_not_mem hnext hs fun hc' => ?_,
          hjob.trans hreminded.2.symm, hpending, hwaits⟩
        exact not_fits_of_breaksOff hbreaks (hpending c' hc')
      | false =>
        rw [if_neg Bool.false_ne_true]
        have hmet : Sweeps.next? i t.sweeps ≠ some (s.job, c) := by
          rw [hnext]
          intro hsame
          obtain ⟨rfl, rfl⟩ := Prod.mk.inj (Option.some.inj hsame)
          exact hnot ⟨(hpending _ hwaits).1, hjob ▸ hclock,
            awaits_of_mem_candidates hunique hmem hclock, rfl⟩
        obtain ⟨s', hs', hjob', hsub, hwaits'⟩ :=
          (Sweeps.met_or_mem_advance i hs hwaits).resolve_left hmet
        exact ⟨s', hs', (hjob'.trans hjob).trans hreminded.2.symm,
          fun c' hc' => hpending c' (hsub hc'), hwaits'⟩

/-- Sweeps leave the approvals as they are. -/
theorem db_of_sweep {event : ReminderEvent} (hsweep : event.isSweep = true) :
    (reminderStep subjectLabel t event).db = t.db := by
  cases event with
  | tick seconds => cases hsweep
  | change db => cases hsweep
  | startReminders => rfl
  | continueReminders i =>
    rw [reminderStep, continueReminders]
    split
    · rfl
    · next now c _ => exact (remind_db_clock subjectLabel t now c).1

/-- **After a sweep nobody is left to be reminded**, once the sweeps that were under way have
met everything, and if what the sweep has read fits. -/
theorem reminded_all (subjectLabel : RunId → String) (t : ReminderTables)
    (hunique : Table.Unique ApprovalAction.id t.db.actions)
    (hfits : ∀ c ∈ reminderCandidates t, c.Fits subjectLabel) (sweeps : List ReminderEvent)
    (hsweeps : ∀ event ∈ sweeps, event.isSweep = true)
    (hdone : ∀ s ∈ (Run.exec (reminderStep subjectLabel) t (.startReminders :: sweeps)).sweeps,
      s.pending = []) :
    let now := Run.exec (reminderStep subjectLabel) t (.startReminders :: sweeps)
    ∀ c ∈ reminderCandidates now, c.isDue now.clock = false := by
  intro now c hc
  have hstart : RemindersCovered subjectLabel (startReminders t) := fun c hc _ =>
    ⟨_, List.mem_append_right _ (List.mem_singleton_self _), rfl, hfits, hc⟩
  have hevents : Run.Along (reminderStep subjectLabel) (fun _ event => event.isSweep = true)
      (startReminders t) sweeps := Run.along_of_forall hsweeps
  have hcovered : RemindersCovered subjectLabel now
      ∧ Table.Unique ApprovalAction.id now.db.actions := by
    refine Run.invariant_of_along (I := fun t => RemindersCovered subjectLabel t
      ∧ Table.Unique ApprovalAction.id t.db.actions) (fun t event ht hsweep => ?_)
      ⟨hstart, hunique⟩ hevents
    refine ⟨ht.1.sweep ht.2 hsweep, ?_⟩
    rw [db_of_sweep hsweep]
    exact ht.2
  by_contra hdue
  obtain ⟨s, hs, -, -, hwaits⟩ := hcovered.1 c hc (Bool.eq_true_of_not_eq_false hdue)
  rw [hdone s hs] at hwaits
  cases hwaits

end

/-! ## Two sweeps at once -/

namespace Sample

/-- Reminders after a day. -/
def remindedStages : StageTable where
  rows := [{ stage 1 1 .all [employeeApprover 2] with
    slaPolicy := some
      { reminderAfterHours := some 24, escalateAfterHours := none, escalationTargetType := .none
        escalationEmployee := none, escalationRoleCode := "", isActive := true } }]
  uniqueId := by decide
  uniqueSequence := by decide

/-- A run with two actions. -/
def pendingDb : ApprovalDb where
  stages := remindedStages
  runs :=
    [{ id := 1, organisation := 1, workflow := 1, requestKind := .leave, requestedBy := some 1
       status := .pending, currentStageSequence := 1, contentObject := ⟨.leaveRequest, 7⟩ }]
  actions := [2, 3].map fun id =>
    { id := id, approvalRun := 1, stage := 1, approverUser := 100 + id, approverEmployee := none
      assignmentSource := .direct, originalApproverUser := none
      originalApproverEmployee := none, status := .pending, comment := "", actedAt := none
      createdAt := 0, escalatedAt := none, escalatedFromAction := none }
  nextId := 4

def reminderTables : ReminderTables where
  db := pendingDb
  clock := 0
  reminderSentAt := []
  notifications := []
  sweeps := []

/-- A day later two sweeps take turns. -/
def overlapping : List ReminderEvent :=
  [.tick 86400, .startReminders, .startReminders, .continueReminders 0, .continueReminders 1,
    .continueReminders 1, .continueReminders 0]

/-- The sweep goes through the actions. -/
def wholeSweep : List ReminderEvent := [.continueReminders 0, .continueReminders 0]

end Sample

theorem reminded_exact_sample :
    let now := Run.exec (reminderStep fun _ => "Leave") Sample.reminderTables Sample.overlapping
    now.notifications.map ReminderNotification.recipient = [102, 103]
      ∧ (now.notifications.map ReminderNotification.action).Nodup :=
  ⟨by decide, (reminded_exact (fun _ => "Leave") Sample.reminderTables ⟨rfl, rfl, rfl⟩
    Sample.overlapping).1⟩

theorem reminded_all_sample :
    let t := { Sample.reminderTables with clock := 86400 }
    let now := Run.exec (reminderStep fun _ => "Leave") t (.startReminders :: Sample.wholeSweep)
    ∀ c ∈ reminderCandidates now, c.isDue now.clock = false :=
  reminded_all (fun _ => "Leave") { Sample.reminderTables with clock := 86400 } (by decide)
    (by unfold ReminderCandidate.Fits; decide) Sample.wholeSweep (by decide) (by decide)

end Approvals
