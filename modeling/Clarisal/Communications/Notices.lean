import Clarisal.Approvals.Resolution
import Clarisal.Lib.Query
import Clarisal.Lib.Run
import Clarisal.Lib.Sweeps

/-!
# Notices

An administrator writes a notice for all employees or some of them, and publishes it or
gives it a time. Two sweeps carry out the times: one publishes what is scheduled, the other
lets expire what is over. A sweep selects the notices that are due, and then goes through
them one by one; it rewrites each whose status is still one it selects, whatever the
times are by then.

So employees are shown what the administrators wrote, at its time, as if there were no sweeps:
never a notice before its time nor after it, and each notice that is live as soon as no
publication is overdue (`shown_exact`), which is so after every sweep that publishes
(`shown_after_sweep`). This holds however sweeps overlap each other and the requests, as long
as no notice is edited while a sweep is about to come to it: one that is given a later
time then is published early.
-/

namespace Communications

open Approvals (EmployeeId OrganisationId DepartmentId OfficeLocationId UserId Time Directory)

abbrev NoticeId := ℕ

inductive NoticeStatus
  | draft | scheduled | published | expired | archived
deriving DecidableEq, Repr

inductive NoticeAudienceType
  | allEmployees | departments | officeLocations | specificEmployees
deriving DecidableEq, Repr

inductive NoticeCategory
  | general | hrPolicy | operations | celebration | compliance | urgent
deriving DecidableEq, Repr

structure Notice where
  id : NoticeId
  organisation : OrganisationId
  title : String
  body : String
  category : NoticeCategory
  audienceType : NoticeAudienceType
  status : NoticeStatus
  isSticky : Bool
  scheduledFor : Option Time
  publishedAt : Option Time
  expiresAt : Option Time
  departments : List DepartmentId
  officeLocations : List OfficeLocationId
  employees : List EmployeeId
  createdBy : Option UserId
  modifiedBy : Option UserId
  createdAt : Time
  modifiedAt : Time
deriving DecidableEq, Repr

/-- The columns that a request gives; of the times it may leave some out. -/
structure NoticeFields where
  title : String
  body : String
  category : NoticeCategory
  audienceType : NoticeAudienceType
  status : NoticeStatus
  isSticky : Bool
  scheduledFor : Option (Option Time)
  publishedAt : Option (Option Time)
  expiresAt : Option (Option Time)
deriving DecidableEq, Repr

/-- `NoticeWriteSerializer`, with its defaults filled in. -/
structure NoticeWrite where
  title : String
  body : String
  category : NoticeCategory := .general
  audienceType : NoticeAudienceType
  status : NoticeStatus := .draft
  isSticky : Bool := false
  scheduledFor : Option (Option Time) := none
  expiresAt : Option (Option Time) := none
  departmentIds : List DepartmentId := []
  officeLocationIds : List OfficeLocationId := []
  employeeIds : List EmployeeId := []
deriving DecidableEq, Repr

inductive SweepKind
  | publish | expire
deriving DecidableEq, Repr

/-- What a sweep does, and the time it goes by. -/
structure SweepJob where
  kind : SweepKind
  currentTime : Time
deriving DecidableEq, Repr

/-- The notices, the sweeps that are under way, the time, and the rows that an
audience may name. -/
structure NoticeTables where
  clock : Time
  notices : List Notice
  nextId : NoticeId
  sweeps : List (Sweep SweepJob NoticeId)
  departments : List DepartmentId
  officeLocations : List OfficeLocationId
  employees : List EmployeeId
deriving DecidableEq, Repr

/-! ## Writing a notice -/

namespace NoticeWrite

variable (w : NoticeWrite)

/-- `NoticeWriteSerializer.validate`: the field that is refused, and why. -/
def validate : Except (String × String) Unit :=
  if w.audienceType = .departments ∧ w.departmentIds = [] then
    .error ("department_ids", "Select at least one department for this audience.")
  else if w.audienceType = .officeLocations ∧ w.officeLocationIds = [] then
    .error ("office_location_ids", "Select at least one office location for this audience.")
  else if w.audienceType = .specificEmployees ∧ w.employeeIds = [] then
    .error ("employee_ids", "Select at least one employee for this audience.")
  else if w.status = .scheduled ∧ w.scheduledFor.join = none then
    .error ("scheduled_for", "A scheduled notice must include a publish time.")
  else if w.expiresAt.join.any (fun e => w.scheduledFor.join.any (fun s => e ≤ s)) then
    .error ("expires_at", "Expiry must be later than the scheduled publish time.")
  else .ok ()

def fields : NoticeFields where
  title := w.title
  body := w.body
  category := w.category
  audienceType := w.audienceType
  status := w.status
  isSticky := w.isSticky
  scheduledFor := w.scheduledFor
  publishedAt := none
  expiresAt := w.expiresAt

end NoticeWrite

/-- `_normalise_notice_state`. -/
def normaliseNoticeState (now : Time) (fields : NoticeFields) : NoticeFields :=
  let fields :=
    if fields.status = .published then
      { fields with publishedAt := some (fields.publishedAt.getD (some now)) }
    else { fields with publishedAt := some none }
  let fields :=
    if fields.status ≠ .scheduled then { fields with scheduledFor := some none } else fields
  -- the time of publication is there by now, and stays null
  if fields.expiresAt.join.isSome ∧ fields.status = .expired then
    { fields with publishedAt := some (fields.publishedAt.getD (some now)) }
  else fields

/-- The columns are set; what the request left out stays. -/
def Notice.setFields (fields : NoticeFields) (n : Notice) : Notice :=
  { n with
    title := fields.title, body := fields.body, category := fields.category
    audienceType := fields.audienceType, status := fields.status, isSticky := fields.isSticky
    scheduledFor := fields.scheduledFor.getD n.scheduledFor
    publishedAt := fields.publishedAt.getD n.publishedAt
    expiresAt := fields.expiresAt.getD n.expiresAt }

/-- The row of a new notice. -/
def newNotice (t : NoticeTables) (organisation : OrganisationId) (actor : Option UserId)
    (w : NoticeWrite) : Notice :=
  Notice.setFields (normaliseNoticeState t.clock w.fields)
    { id := t.nextId, organisation := organisation, title := "", body := "", category := .general
      audienceType := .allEmployees, status := .draft, isSticky := false, scheduledFor := none
      publishedAt := none, expiresAt := none, departments := w.departmentIds.dedup
      officeLocations := w.officeLocationIds.dedup, employees := w.employeeIds.dedup
      createdBy := actor, modifiedBy := actor, createdAt := t.clock, modifiedAt := t.clock }

/-- An edited row. -/
def Notice.edit (now : Time) (actor : Option UserId) (w : NoticeWrite) (n : Notice) : Notice :=
  { n.setFields (normaliseNoticeState now w.fields) with
    departments := w.departmentIds.dedup, officeLocations := w.officeLocationIds.dedup
    employees := w.employeeIds.dedup, modifiedBy := actor, modifiedAt := now }

/-- A row that is published by hand. -/
def Notice.publish (now : Time) (actor : Option UserId) (n : Notice) : Notice :=
  { n with
    status := .published, publishedAt := some now, modifiedBy := actor, modifiedAt := now }

/-- The request passes its checks, and the rows it names are there. -/
def NoticeTables.accepts (t : NoticeTables) (w : NoticeWrite) : Bool :=
  w.validate = .ok () ∧ w.departmentIds ⊆ t.departments ∧ w.officeLocationIds ⊆ t.officeLocations
    ∧ w.employeeIds ⊆ t.employees

/-! ## The two sweeps -/

namespace SweepKind

/-- The status that a sweep looks for. -/
def looksFor : SweepKind → NoticeStatus → Bool
  | publish, s => s = .scheduled
  | expire, s => s = .published ∨ s = .scheduled

/-- The time that has to be over. -/
def deadline : SweepKind → Notice → Option Time
  | publish, n => n.scheduledFor
  | expire, n => n.expiresAt

/-- The notice is due. -/
def selects (kind : SweepKind) (now : Time) (n : Notice) : Bool :=
  kind.looksFor n.status ∧ (kind.deadline n).any (· ≤ now)

def rewrite : SweepKind → Time → Notice → Notice
  | publish, now, n => { n with status := .published, publishedAt := some now, modifiedAt := now }
  | expire, now, n => { n with status := .expired, modifiedAt := now }

end SweepKind

/-- A sweep selects what is due. -/
def startSweep (t : NoticeTables) (kind : SweepKind) : NoticeTables :=
  { t with
    sweeps := t.sweeps ++ [
      { job := { kind := kind, currentTime := t.clock }
        pending := (t.notices.filter (kind.selects t.clock)).map Notice.id }] }

/-- A sweep comes to a notice. -/
def SweepJob.visit (job : SweepJob) (id : NoticeId) (notices : List Notice) : List Notice :=
  Table.update (fun n => n.id = id ∧ job.kind.looksFor n.status)
    (job.kind.rewrite job.currentTime) notices

/-- A sweep comes to its next notice, or ends. -/
def continueSweep (t : NoticeTables) (i : ℕ) : NoticeTables :=
  { t with
    notices := (Sweeps.next? i t.sweeps).elim t.notices fun (job, id) => job.visit id t.notices
    sweeps := Sweeps.advance i t.sweeps }

/-! ## Everything that happens -/

inductive NoticeEvent
  | tick (seconds : ℕ)
  | create (organisation : OrganisationId) (actor : Option UserId) (w : NoticeWrite)
  | update (organisation : OrganisationId) (id : NoticeId) (actor : Option UserId)
      (w : NoticeWrite)
  | publish (organisation : OrganisationId) (id : NoticeId) (actor : Option UserId)
  | startSweep (kind : SweepKind)
  | continueSweep (i : ℕ)
deriving DecidableEq, Repr

def NoticeEvent.isSweep : NoticeEvent → Bool
  | startSweep _ | continueSweep _ => true
  | tick _ | create .. | update .. | publish .. => false

def noticeStep (t : NoticeTables) : NoticeEvent → NoticeTables
  | .tick seconds => { t with clock := t.clock + seconds }
  | .create organisation actor w =>
    if t.accepts w then
      { t with notices := t.notices ++ [newNotice t organisation actor w], nextId := t.nextId + 1 }
    else t
  | .update organisation id actor w =>
    if t.accepts w then
      { t with
        notices := Table.update (fun n => n.id = id ∧ n.organisation = organisation)
          (Notice.edit t.clock actor w) t.notices }
    else t
  | .publish organisation id actor =>
    { t with
      notices := Table.update (fun n => n.id = id ∧ n.organisation = organisation)
        (Notice.publish t.clock actor) t.notices }
  | .startSweep kind => Communications.startSweep t kind
  | .continueSweep i => Communications.continueSweep t i

/-! ## What is shown -/

/-- `audience_filter`. -/
def Notice.isFor (dir : Directory) (employee : EmployeeId) (n : Notice) : Bool :=
  n.organisation = dir.organisation employee
    ∧ (n.audienceType = .allEmployees
      ∨ n.audienceType = .departments ∧ (dir.department employee).any (· ∈ n.departments)
      ∨ n.audienceType = .officeLocations
        ∧ (dir.officeLocation employee).any (· ∈ n.officeLocations)
      ∨ n.audienceType = .specificEmployees ∧ employee ∈ n.employees)

/-- `order_by('-is_sticky', '-published_at', '-created_at')`. -/
def Notice.orderKey (n : Notice) : Bool ×ₗ (WithTop Time)ᵒᵈ ×ₗ Timeᵒᵈ :=
  toLex (!n.isSticky, toLex (OrderDual.toDual n.publishedAt, OrderDual.toDual n.createdAt))

def getVisibleNotices (q : QueryOrder) (dir : Directory) (t : NoticeTables)
    (employee : EmployeeId) : List Notice :=
  q.orderBy Notice.orderKey (t.notices.filter fun n =>
    n.status = .published ∧ n.expiresAt.all (t.clock < ·) ∧ n.isFor dir employee)

inductive AutomationState
  | expired | publishOverdue | waitingToPublish | expiryOverdue | live | manual
deriving DecidableEq, Repr

/-- `NoticeSerializer.get_automation_state`. -/
def automationState (now : Time) (n : Notice) : AutomationState :=
  match n.status with
  | .expired => .expired
  | .scheduled => if n.scheduledFor.any (· ≤ now) then .publishOverdue else .waitingToPublish
  | .published => if n.expiresAt.any (· ≤ now) then .expiryOverdue else .live
  | .draft | .archived => .manual

/-! ## What sweeps make of a row -/

/-- **The notice is live**: it is published, or scheduled for a time that has come, and
it is not over. -/
def Notice.isLive (now : Time) (n : Notice) : Bool :=
  (n.status = .published ∨ n.status = .scheduled ∧ n.scheduledFor.any (· ≤ now))
    ∧ n.expiresAt.all (now < ·)

/-- The row but for what sweeps write. -/
def Notice.asWritten (n : Notice) : Notice :=
  { n with status := .draft, publishedAt := none, modifiedAt := 0 }

@[simp] theorem Notice.asWritten_id (n : Notice) : n.asWritten.id = n.id := rfl

@[simp] theorem Notice.asWritten_organisation (n : Notice) :
    n.asWritten.organisation = n.organisation := rfl

@[simp] theorem Notice.isFor_asWritten (n : Notice) (dir : Directory) (employee : EmployeeId) :
    n.asWritten.isFor dir employee = n.isFor dir employee := rfl

@[simp] theorem SweepKind.deadline_asWritten (kind : SweepKind) (n : Notice) :
    kind.deadline n.asWritten = kind.deadline n := by
  cases kind <;> rfl

/-- **What sweeps have made of a row** `m` until now. -/
structure Swept (now : Time) (n m : Notice) : Prop where
  written : n.asWritten = m.asWritten
  status : n.status = m.status
    ∨ SweepKind.publish.selects now m = true ∧ n.status = .published
    ∨ SweepKind.expire.selects now m = true ∧ n.status = .expired

/-- Notices and sweeps, each of which goes through notices that were due. -/
structure Timely (t : NoticeTables) : Prop where
  unique : Table.Unique Notice.id t.notices
  fresh : ∀ n ∈ t.notices, n.id < t.nextId
  known : ∀ job id, Sweeps.Waits t.sweeps job id → id < t.nextId ∧ job.currentTime ≤ t.clock
  due : ∀ n ∈ t.notices, ∀ job, Sweeps.Waits t.sweeps job n.id →
    (job.kind.deadline n).any (· ≤ job.currentTime) = true

/-- **No edit of a notice that a sweep is about to come to.** -/
def Undisturbed (t : NoticeTables) : NoticeEvent → Prop
  | .update _ id _ _ => ∀ s ∈ t.sweeps, id ∉ s.pending
  | .tick _ | .create .. | .publish .. | .startSweep _ | .continueSweep _ => True

instance (t : NoticeTables) (event : NoticeEvent) : Decidable (Undisturbed t event) :=
  match event with
  | .update _ id _ _ => inferInstanceAs (Decidable (∀ s ∈ t.sweeps, id ∉ s.pending))
  | .tick _ | .create .. | .publish .. | .startSweep _ | .continueSweep _ =>
    inferInstanceAs (Decidable True)

section

variable {t : NoticeTables} {n m : Notice} {now later : Time} {kind : SweepKind}
  {actor : Option UserId} {w : NoticeWrite} {organisation : OrganisationId} {id : NoticeId}

theorem any_le_of_le {time : Option Time} (hle : now ≤ later)
    (h : time.any (· ≤ now) = true) : time.any (· ≤ later) = true := by
  rw [Option.any_eq_true] at h ⊢
  obtain ⟨at', hat, h⟩ := h
  exact ⟨at', hat, decide_eq_true ((of_decide_eq_true h).trans hle)⟩

theorem SweepKind.selects_iff : kind.selects now n = true
    ↔ kind.looksFor n.status = true ∧ (kind.deadline n).any (· ≤ now) = true :=
  decide_eq_true_iff

theorem SweepKind.selects_of_le (hle : now ≤ later) (h : kind.selects now n = true) :
    kind.selects later n = true :=
  selects_iff.mpr ⟨(selects_iff.mp h).1, any_le_of_le hle (selects_iff.mp h).2⟩

theorem Swept.refl (now : Time) (n : Notice) : Swept now n n := ⟨rfl, Or.inl rfl⟩

theorem Swept.of_le (h : Swept now n m) (hle : now ≤ later) : Swept later n m :=
  ⟨h.written, h.status.imp_right fun h => h.imp
    (fun ⟨hdue, hstatus⟩ => ⟨SweepKind.selects_of_le hle hdue, hstatus⟩)
    (fun ⟨hdue, hstatus⟩ => ⟨SweepKind.selects_of_le hle hdue, hstatus⟩)⟩

theorem Swept.id_eq (h : Swept now n m) : n.id = m.id := by
  rw [← n.asWritten_id, h.written, m.asWritten_id]

theorem Swept.organisation_eq (h : Swept now n m) : n.organisation = m.organisation := by
  rw [← n.asWritten_organisation, h.written, m.asWritten_organisation]

theorem Swept.isFor_eq (h : Swept now n m) (dir : Directory) (employee : EmployeeId) :
    n.isFor dir employee = m.isFor dir employee := by
  rw [← n.isFor_asWritten, h.written, m.isFor_asWritten]

theorem Swept.deadline_eq (h : Swept now n m) (kind : SweepKind) :
    kind.deadline n = kind.deadline m := by
  rw [← kind.deadline_asWritten n, h.written, kind.deadline_asWritten]

/-- **A sweep rewrites a row** that was due. -/
theorem Swept.rewrite (h : Swept now n m) {time : Time} (hle : time ≤ now)
    (hlooks : kind.looksFor n.status = true) (hdue : (kind.deadline n).any (· ≤ time) = true) :
    Swept now (kind.rewrite time n) m := by
  have hdue' : (kind.deadline m).any (· ≤ now) = true :=
    h.deadline_eq kind ▸ any_le_of_le hle hdue
  cases kind with
  | publish =>
    have hscheduled : n.status = .scheduled := of_decide_eq_true hlooks
    refine ⟨h.written, Or.inr (Or.inl ⟨SweepKind.selects_iff.mpr ⟨?_, hdue'⟩, rfl⟩)⟩
    rcases h.status with hsame | ⟨-, hpublished⟩ | ⟨-, hexpired⟩
    · exact hsame ▸ hlooks
    · rw [hpublished] at hscheduled
      cases hscheduled
    · rw [hexpired] at hscheduled
      cases hscheduled
  | expire =>
    refine ⟨h.written, Or.inr (Or.inr ⟨SweepKind.selects_iff.mpr ⟨?_, hdue'⟩, rfl⟩)⟩
    rcases h.status with hsame | ⟨hselects, -⟩ | ⟨hselects, -⟩
    · exact hsame ▸ hlooks
    · exact decide_eq_true (Or.inr (of_decide_eq_true (SweepKind.selects_iff.mp hselects).1))
    · exact (SweepKind.selects_iff.mp hselects).1

/-- **Sweeps leave no trace in what is live.** -/
theorem Swept.isLive_eq (h : Swept now n m) : n.isLive now = m.isLive now := by
  have hscheduledFor : n.scheduledFor = m.scheduledFor := h.deadline_eq .publish
  have hexpiresAt : n.expiresAt = m.expiresAt := h.deadline_eq .expire
  unfold Notice.isLive
  rw [hscheduledFor, hexpiresAt]
  rcases h.status with hsame | ⟨hdue, hpublished⟩ | ⟨hdue, hexpired⟩
  · rw [hsame]
  · obtain ⟨hscheduled, hdue⟩ := SweepKind.selects_iff.mp hdue
    have hscheduled : m.status = .scheduled := of_decide_eq_true hscheduled
    rw [hpublished, hscheduled]
    simp only [SweepKind.deadline] at hdue
    simp [hdue]
  · obtain ⟨-, hdue⟩ := SweepKind.selects_iff.mp hdue
    obtain ⟨e, he, hle⟩ := Option.any_eq_true _ _ |>.mp hdue
    have hover : m.expiresAt.all (now < ·) = false := by
      rw [show m.expiresAt = some e from he]
      simpa using hle
    rw [hover]
    simp

/-! ## Edits -/

theorem publishedAt_normalise (now : Time) (fields : NoticeFields) :
    ∃ at', (normaliseNoticeState now fields).publishedAt = some at' := by
  unfold normaliseNoticeState
  dsimp only
  split <;> split <;> split <;> exact ⟨_, rfl⟩

/-- An edit leaves nothing of what sweeps write. -/
theorem edit_asWritten (n : Notice) : n.asWritten.edit now actor w = n.edit now actor w := by
  obtain ⟨at', hat⟩ := publishedAt_normalise now w.fields
  unfold Notice.edit Notice.setFields Notice.asWritten
  rw [hat]
  rfl

theorem Swept.edit (h : Swept now n m) : Swept now (n.edit now actor w) (m.edit now actor w) := by
  rw [← edit_asWritten n, ← edit_asWritten m, h.written]
  exact .refl now _

theorem publish_asWritten (n : Notice) : n.asWritten.publish now actor = n.publish now actor := rfl

theorem Swept.publish (h : Swept now n m) :
    Swept now (n.publish now actor) (m.publish now actor) := by
  rw [← publish_asWritten n, ← publish_asWritten m, h.written]
  exact .refl now _

/-! ## One step -/

@[simp] theorem Notice.edit_id (n : Notice) : (n.edit now actor w).id = n.id := rfl

@[simp] theorem Notice.publish_id (n : Notice) : (n.publish now actor).id = n.id := rfl

@[simp] theorem SweepKind.rewrite_id (kind : SweepKind) (n : Notice) :
    (kind.rewrite now n).id = n.id := by
  cases kind <;> rfl

@[simp] theorem SweepKind.deadline_rewrite (kind other : SweepKind) (n : Notice) :
    kind.deadline (other.rewrite now n) = kind.deadline n := by
  cases kind <;> cases other <;> rfl

@[simp] theorem SweepKind.deadline_publish (kind : SweepKind) (n : Notice) :
    kind.deadline (n.publish now actor) = kind.deadline n := by
  cases kind <;> rfl

/-- **Rows are rewritten**, those that a sweep is about to come to with the same times. -/
theorem Timely.update (h : Timely t) {p : Notice → Bool} {f : Notice → Notice}
    (hid : ∀ n, (f n).id = n.id)
    (hdue : ∀ n, p n = true → ∀ job, Sweeps.Waits t.sweeps job n.id →
      job.kind.deadline (f n) = job.kind.deadline n) :
    Timely { t with notices := Table.update p f t.notices } where
  unique := h.unique.update hid
  fresh n hn := by
    rcases Table.mem_update_iff.mp hn with ⟨m, hm, -, rfl⟩ | ⟨hn, -⟩
    · exact hid m ▸ h.fresh m hm
    · exact h.fresh n hn
  known := h.known
  due n hn job hwaits := by
    rcases Table.mem_update_iff.mp hn with ⟨m, hm, hp, rfl⟩ | ⟨hn, -⟩
    · rw [hid m] at hwaits
      rw [hdue m hp job hwaits]
      exact h.due m hm job hwaits
    · exact h.due n hn job hwaits

theorem Timely.visit (h : Timely t) (job : SweepJob) (id : NoticeId) :
    Timely { t with notices := job.visit id t.notices } :=
  h.update (fun n => job.kind.rewrite_id n) fun n _ other _ =>
    other.kind.deadline_rewrite job.kind n

theorem Timely.advance (h : Timely t) (i : ℕ) :
    Timely { t with sweeps := Sweeps.advance i t.sweeps } where
  unique := h.unique
  fresh := h.fresh
  known job id hwaits := h.known job id (Sweeps.waits_of_advance hwaits)
  due n hn job hwaits := h.due n hn job (Sweeps.waits_of_advance hwaits)

theorem Timely.start (h : Timely t) (kind : SweepKind) : Timely (startSweep t kind) where
  unique := h.unique
  fresh := h.fresh
  known := by
    rintro _ id ⟨s, hs, rfl, hid⟩
    rcases List.mem_append.mp hs with hs | hs
    · exact h.known s.job id ⟨s, hs, rfl, hid⟩
    · rw [List.mem_singleton.mp hs] at hid ⊢
      obtain ⟨n, hn, rfl⟩ := List.mem_map.mp hid
      exact ⟨h.fresh n (List.mem_of_mem_filter hn), le_rfl⟩
  due := by
    rintro n hn _ ⟨s, hs, rfl, hid⟩
    rcases List.mem_append.mp hs with hs | hs
    · exact h.due n hn s.job ⟨s, hs, rfl, hid⟩
    · rw [List.mem_singleton.mp hs] at hid ⊢
      obtain ⟨m, hm, hsame⟩ := List.mem_map.mp hid
      obtain ⟨hm, hselects⟩ := List.mem_filter.mp hm
      obtain rfl := h.unique.eq_of_key hm hn hsame
      exact (SweepKind.selects_iff.mp hselects).2

/-- **What every event keeps** but for an edit in the way of a sweep. -/
theorem Timely.step (h : Timely t) {event : NoticeEvent} (hguard : Undisturbed t event) :
    Timely (noticeStep t event) := by
  cases event with
  | tick seconds =>
    exact { h with
      known := fun job id hwaits => ⟨(h.known job id hwaits).1,
        (h.known job id hwaits).2.trans (Int.le_add_of_nonneg_right
          (Int.natCast_nonneg seconds))⟩ }
  | create organisation actor w =>
    rw [noticeStep]
    split
    · refine ⟨h.unique.append_one fun n hn => (h.fresh n hn).ne, ?_, ?_, ?_⟩
      · intro n hn
        rcases List.mem_append.mp hn with hn | hn
        · exact Nat.lt_succ_of_lt (h.fresh n hn)
        · rw [List.mem_singleton.mp hn]
          exact Nat.lt_succ_self _
      · exact fun job id hwaits =>
          ⟨Nat.lt_succ_of_lt (h.known job id hwaits).1, (h.known job id hwaits).2⟩
      · intro n hn job hwaits
        rcases List.mem_append.mp hn with hn | hn
        · exact h.due n hn job hwaits
        · rw [List.mem_singleton.mp hn] at hwaits
          exact absurd (h.known job _ hwaits).1 (lt_irrefl _)
    · exact h
  | update organisation id actor w =>
    rw [noticeStep]
    split
    · refine h.update (fun n => n.edit_id) fun n hn job hwaits => ?_
      have hid : n.id = id := (of_decide_eq_true hn).1
      obtain ⟨s, hs, -, hpending⟩ := hwaits
      exact absurd (hid ▸ hpending) (hguard s hs)
    · exact h
  | publish organisation id actor =>
    exact h.update (fun n => n.publish_id) fun n _ job _ => job.kind.deadline_publish n
  | startSweep kind => exact h.start kind
  | continueSweep i =>
    rw [noticeStep, continueSweep]
    cases Sweeps.next? i t.sweeps with
    | none => exact h.advance i
    | some next => exact (h.visit next.1 next.2).advance i

/-! ## Behind the administrators -/

/-- **The tables as they are**, and as they would be without sweeps. -/
structure Trails (t intended : NoticeTables) : Prop where
  timely : Timely t
  clock : intended.clock = t.clock
  nextId : intended.nextId = t.nextId
  departments : intended.departments = t.departments
  officeLocations : intended.officeLocations = t.officeLocations
  employees : intended.employees = t.employees
  rows : List.Forall₂ (Swept t.clock) t.notices intended.notices

variable {intended : NoticeTables}

theorem Trails.accepts_eq (h : Trails t intended) (w : NoticeWrite) :
    intended.accepts w = t.accepts w := by
  rw [NoticeTables.accepts, NoticeTables.accepts, h.departments, h.officeLocations, h.employees]

theorem Trails.newNotice_eq (h : Trails t intended) :
    newNotice intended organisation actor w = newNotice t organisation actor w := by
  rw [newNotice, newNotice, h.clock, h.nextId]

/-- Rows that a request rewrites in both tables. -/
theorem forall₂_update {rows rows' : List Notice} (hrows : List.Forall₂ (Swept now) rows rows')
    {f : Notice → Notice} (hf : ∀ n m, Swept now n m → Swept now (f n) (f m)) :
    List.Forall₂ (Swept now)
      (Table.update (fun n => n.id = id ∧ n.organisation = organisation) f rows)
      (Table.update (fun n => n.id = id ∧ n.organisation = organisation) f rows') := by
  rw [Table.update, Table.update, List.forall₂_map_left_iff, List.forall₂_map_right_iff]
  refine hrows.imp fun n m hswept => ?_
  rw [hswept.id_eq, hswept.organisation_eq]
  split
  · exact hf n m hswept
  · exact hswept

/-- **A request** does the same to both tables. -/
theorem Trails.request (h : Trails t intended) {event : NoticeEvent}
    (hrequest : event.isSweep = false) (hguard : Undisturbed t event) :
    Trails (noticeStep t event) (noticeStep intended event) := by
  have htimely := h.timely.step hguard
  cases event with
  | tick seconds =>
    refine ⟨htimely, ?_, h.nextId, h.departments, h.officeLocations, h.employees, ?_⟩
    · exact congrArg (· + (seconds : ℤ)) h.clock
    · exact h.rows.imp fun n m hswept =>
        hswept.of_le (Int.le_add_of_nonneg_right (Int.natCast_nonneg seconds))
  | create organisation actor w =>
    rw [noticeStep] at htimely ⊢
    rw [noticeStep, h.accepts_eq]
    split
    · next haccepts =>
      rw [if_pos haccepts] at htimely
      refine ⟨htimely, h.clock, congrArg (· + 1) h.nextId, h.departments, h.officeLocations,
        h.employees, List.rel_append h.rows ?_⟩
      rw [h.newNotice_eq]
      exact .cons (.refl _ _) .nil
    · exact h
  | update organisation id actor w =>
    rw [noticeStep] at htimely ⊢
    rw [noticeStep, h.accepts_eq, h.clock]
    split
    · next haccepts =>
      rw [if_pos haccepts] at htimely
      exact ⟨htimely, rfl, h.nextId, h.departments, h.officeLocations, h.employees,
        forall₂_update h.rows fun n m hswept => hswept.edit⟩
    · exact h
  | publish organisation id actor =>
    refine ⟨htimely, h.clock, h.nextId, h.departments, h.officeLocations, h.employees, ?_⟩
    show List.Forall₂ _ _ (Table.update _ (Notice.publish intended.clock actor) _)
    rw [h.clock]
    exact forall₂_update h.rows fun n m hswept => hswept.publish
  | startSweep kind => cases hrequest
  | continueSweep i => cases hrequest

/-- **A sweep** stays behind what was intended. -/
theorem Trails.sweep (h : Trails t intended) {event : NoticeEvent} (hsweep : event.isSweep = true)
    (hguard : Undisturbed t event) : Trails (noticeStep t event) intended := by
  have htimely := h.timely.step hguard
  cases event with
  | tick seconds => cases hsweep
  | create organisation actor w => cases hsweep
  | update organisation id actor w => cases hsweep
  | publish organisation id actor => cases hsweep
  | startSweep kind =>
    exact ⟨htimely, h.clock, h.nextId, h.departments, h.officeLocations, h.employees, h.rows⟩
  | continueSweep i =>
    rw [noticeStep, continueSweep] at htimely ⊢
    cases hnext : Sweeps.next? i t.sweeps with
    | none =>
      rw [hnext] at htimely
      exact ⟨htimely, h.clock, h.nextId, h.departments, h.officeLocations, h.employees, h.rows⟩
    | some next =>
      obtain ⟨job, id⟩ := next
      rw [hnext] at htimely
      refine ⟨htimely, h.clock, h.nextId, h.departments, h.officeLocations, h.employees, ?_⟩
      have hwaits := Sweeps.waits_of_next? hnext
      have hdue : ∀ n ∈ t.notices, n.id = id →
          (job.kind.deadline n).any (· ≤ job.currentTime) = true :=
        fun n hn hid => h.timely.due n hn job (hid ▸ hwaits)
      show List.Forall₂ _ (job.visit id t.notices) _
      rw [SweepJob.visit, Table.update, List.forall₂_map_left_iff]
      refine ((List.forall₂_and_left _ _).mpr ⟨hdue, h.rows⟩).imp fun n m hrow => ?_
      split
      · next hlooks =>
        have hlooks := of_decide_eq_true hlooks
        exact hrow.2.rewrite (h.timely.known job id hwaits).2 hlooks.2 (hrow.1 hlooks.1)
      · exact hrow.2

/-- **What the administrators intend**: their requests, as if there were no sweeps. -/
def intendedBy (t : NoticeTables) (events : List NoticeEvent) : NoticeTables :=
  Run.exec noticeStep t (events.filter fun event => !event.isSweep)

theorem Trails.run (h : Trails t intended) {events : List NoticeEvent}
    (hevents : Run.Along noticeStep Undisturbed t events) :
    Trails (Run.exec noticeStep t events) (intendedBy intended events) := by
  induction events generalizing t intended with
  | nil => exact h
  | cons event events ih =>
    rw [intendedBy, Run.exec_cons]
    cases hsweep : event.isSweep with
    | true =>
      rw [List.filter_cons_of_neg (by simp [hsweep])]
      exact ih (h.sweep hsweep hevents.1) hevents.2
    | false =>
      rw [List.filter_cons_of_pos (by simp [hsweep])]
      exact ih (h.request hsweep hevents.1) hevents.2

/-! ## What employees are shown -/

/-- **Nothing goes on yet.** -/
structure AtRest (t : NoticeTables) : Prop where
  unique : Table.Unique Notice.id t.notices
  fresh : ∀ n ∈ t.notices, n.id < t.nextId
  noSweeps : t.sweeps = []

theorem AtRest.trails (h : AtRest t) : Trails t t where
  timely := ⟨h.unique, h.fresh, by simp [Sweeps.Waits, h.noSweeps],
    by simp [Sweeps.Waits, h.noSweeps]⟩
  clock := rfl
  nextId := rfl
  departments := rfl
  officeLocations := rfl
  employees := rfl
  rows := List.forall₂_same.mpr fun n _ => .refl _ n

/-- What is published and shown to an employee now. -/
def Notice.isShown (dir : Directory) (employee : EmployeeId) (now : Time) (n : Notice) : Bool :=
  n.status = .published ∧ n.expiresAt.all (now < ·) ∧ n.isFor dir employee

theorem mem_getVisibleNotices {q : QueryOrder} {dir : Directory} {employee : EmployeeId} :
    n ∈ getVisibleNotices q dir t employee
      ↔ n ∈ t.notices ∧ n.isShown dir employee t.clock = true := by
  rw [getVisibleNotices, q.mem_orderBy, List.mem_filter]
  rfl

/-- A live notice is published, unless its publication is overdue. -/
theorem isLive_iff (hoverdue : automationState now n ≠ .publishOverdue) :
    n.isLive now = true ↔ n.status = .published ∧ n.expiresAt.all (now < ·) = true := by
  have hdue : n.status = .scheduled → n.scheduledFor.any (· ≤ now) = false := by
    intro hscheduled
    rw [automationState, hscheduled] at hoverdue
    by_contra hdue
    exact hoverdue (if_pos (Bool.eq_true_of_not_eq_false hdue))
  rw [Notice.isLive, decide_eq_true_eq]
  refine and_congr_left fun _ => or_iff_left ?_
  rintro ⟨hscheduled, hany⟩
  rw [hdue hscheduled] at hany
  cases hany

theorem isLive_of_published (hpublished : n.status = .published)
    (hall : n.expiresAt.all (now < ·) = true) : n.isLive now = true :=
  decide_eq_true ⟨Or.inl hpublished, hall⟩

section

variable {q : QueryOrder} {dir : Directory} {employee : EmployeeId}

/-- What is shown is live. -/
theorem Trails.live_of_visible (h : Trails t intended)
    (hn : n ∈ getVisibleNotices q dir t employee) :
    ∃ m ∈ intended.notices, n.asWritten = m.asWritten ∧ m.isLive t.clock = true
      ∧ m.isFor dir employee = true := by
  obtain ⟨hn, hshown⟩ := mem_getVisibleNotices.mp hn
  obtain ⟨hpublished, hall, hfor⟩ := of_decide_eq_true hshown
  obtain ⟨i, rfl⟩ := List.mem_iff_get.mp hn
  have hi : i.1 < intended.notices.length := h.rows.length_eq ▸ i.2
  have hswept := h.rows.get i.2 hi
  exact ⟨_, List.get_mem intended.notices ⟨i.1, hi⟩, hswept.written,
    hswept.isLive_eq ▸ isLive_of_published hpublished hall, hswept.isFor_eq dir employee ▸ hfor⟩

/-- What is live is shown, unless a publication is overdue. -/
theorem Trails.visible_perm (h : Trails t intended)
    (hoverdue : ∀ n ∈ t.notices, automationState t.clock n ≠ .publishOverdue) :
    ((getVisibleNotices q dir t employee).map Notice.id).Perm
      ((intended.notices.filter fun m => m.isLive t.clock && m.isFor dir employee).map
        Notice.id) := by
  have hselected : List.Forall₂ (Swept t.clock)
      (t.notices.filter (Notice.isShown dir employee t.clock))
      (intended.notices.filter fun m => m.isLive t.clock && m.isFor dir employee) := by
    refine (List.rel_filter ?_ ((List.forall₂_and_left _ _).mpr ⟨hoverdue, h.rows⟩)).imp
      fun _ _ h => h.2
    rintro n m ⟨hnot, hswept⟩
    show n.isShown dir employee t.clock = true
      ↔ (m.isLive t.clock && m.isFor dir employee) = true
    rw [← hswept.isLive_eq, ← hswept.isFor_eq dir employee, Bool.and_eq_true, isLive_iff hnot,
      and_assoc]
    exact decide_eq_true_iff
  refine ((q.perm _ _).map Notice.id).trans (List.Perm.of_eq ?_)
  rw [← List.forall₂_eq_eq_eq, List.forall₂_map_left_iff, List.forall₂_map_right_iff]
  exact hselected.imp fun _ _ hswept => hswept.id_eq

end

/-- Every notice that is due is about to be met by a sweep. -/
def Covered (kind : SweepKind) (t : NoticeTables) : Prop :=
  ∀ n ∈ t.notices, kind.selects t.clock n = true →
    ∃ job, job.kind = kind ∧ Sweeps.Waits t.sweeps job n.id

theorem Covered.start (kind : SweepKind) (t : NoticeTables) : Covered kind (startSweep t kind) :=
  fun _ hn hdue => ⟨_, rfl, _, List.mem_append_right _ (List.mem_singleton_self _), rfl,
    List.mem_map_of_mem (List.mem_filter.mpr ⟨hn, hdue⟩)⟩

/-- A row that a sweep has rewritten is due for another kind of sweep only, and was before. -/
theorem SweepKind.selects_rewrite {other : SweepKind} (hlooks : other.looksFor n.status = true)
    (h : kind.selects now (other.rewrite later n) = true) :
    kind ≠ other ∧ kind.selects now n = true := by
  rw [selects_iff, deadline_rewrite] at h
  cases kind <;> cases other
  · cases h.1
  · cases h.1
  · refine ⟨by decide, selects_iff.mpr ⟨?_, h.2⟩⟩
    exact decide_eq_true (Or.inr (of_decide_eq_true hlooks))
  · cases h.1

theorem Covered.sweep (h : Covered kind t) {event : NoticeEvent} (hsweep : event.isSweep = true) :
    Covered kind (noticeStep t event) := by
  cases event with
  | tick seconds => cases hsweep
  | create organisation actor w => cases hsweep
  | update organisation id actor w => cases hsweep
  | publish organisation id actor => cases hsweep
  | startSweep other =>
    intro n hn hdue
    obtain ⟨job, hkind, s, hs, hrest⟩ := h n hn hdue
    exact ⟨job, hkind, s, List.mem_append_left _ hs, hrest⟩
  | continueSweep i =>
    rw [noticeStep, continueSweep]
    -- a notice that is due and not met goes on waiting
    have hwaits : ∀ n ∈ t.notices, kind.selects t.clock n = true →
        (∀ job, job.kind = kind → Sweeps.next? i t.sweeps ≠ some (job, n.id)) →
        ∃ job, job.kind = kind ∧ Sweeps.Waits (Sweeps.advance i t.sweeps) job n.id := by
      intro n hn hdue hnot
      obtain ⟨job, hkind, hwaits⟩ := h n hn hdue
      exact ⟨job, hkind, Sweeps.waits_advance hwaits (hnot job hkind)⟩
    cases hnext : Sweeps.next? i t.sweeps with
    | none =>
      intro n hn hdue
      exact hwaits n hn hdue fun job _ hmet => by
        rw [hnext] at hmet
        cases hmet
    | some next =>
      obtain ⟨job, id⟩ := next
      rw [hnext] at hwaits
      intro n hn hdue
      rcases Table.mem_update_iff.mp hn with ⟨m, hm, hp, rfl⟩ | ⟨hn, hp⟩
      · obtain ⟨hid, hlooks⟩ := of_decide_eq_true hp
        obtain ⟨hne, hdue⟩ := SweepKind.selects_rewrite hlooks hdue
        rw [SweepKind.rewrite_id]
        refine hwaits m hm hdue fun other hkind hmet => hne ?_
        rw [← hkind, (Prod.mk.inj (Option.some.inj hmet)).1]
      · refine hwaits n hn hdue fun other hkind hmet => of_decide_eq_false hp ?_
        obtain ⟨rfl, rfl⟩ := Prod.mk.inj (Option.some.inj hmet)
        exact ⟨rfl, hkind ▸ (SweepKind.selects_iff.mp hdue).1⟩

/-- **A sweep and what sweeps after it** leave nothing due, when none of them is left. -/
theorem Covered.run (h : Covered kind t) {events : List NoticeEvent}
    (hsweeps : ∀ event ∈ events, event.isSweep = true) :
    Covered kind (Run.exec noticeStep t events) := by
  have hevents : Run.Along noticeStep (fun _ event => event.isSweep = true) t events :=
    Run.along_of_forall hsweeps
  exact Run.invariant_of_along (I := Covered kind) (fun _ _ ht hsweep => ht.sweep hsweep) h hevents

theorem automationState_eq_publishOverdue (h : automationState now n = .publishOverdue) :
    SweepKind.publish.selects now n = true := by
  unfold automationState at h
  split at h
  · cases h
  · next hscheduled =>
    split at h
    · next hdue => exact SweepKind.selects_iff.mpr ⟨decide_eq_true hscheduled, hdue⟩
    · cases h
  · split at h <;> cases h
  all_goals cases h

/-- **Once notices have been published, employees are shown what is live**: after any run that
ends with a sweep that publishes, and with sweeps that have met all their notices. -/
theorem shown_after_sweep (q : QueryOrder) (dir : Directory) (t : NoticeTables) (ht : AtRest t)
    (events sweeps : List NoticeEvent) (hsweeps : ∀ event ∈ sweeps, event.isSweep = true)
    (hevents : Run.Along noticeStep Undisturbed t (events ++ .startSweep .publish :: sweeps))
    (hdone : ∀ s ∈ (Run.exec noticeStep t (events ++ .startSweep .publish :: sweeps)).sweeps,
      s.pending = [])
    (employee : EmployeeId) :
    let now := Run.exec noticeStep t (events ++ .startSweep .publish :: sweeps)
    ((getVisibleNotices q dir now employee).map Notice.id).Perm
      (((intendedBy t events).notices.filter fun m =>
        m.isLive now.clock && m.isFor dir employee).map Notice.id) := by
  intro now
  have hcovered : Covered .publish now := by
    show Covered .publish (Run.exec noticeStep t (events ++ .startSweep .publish :: sweeps))
    rw [Run.exec_append, Run.exec_cons]
    exact (Covered.start .publish _).run hsweeps
  have hoverdue : ∀ n ∈ now.notices, automationState now.clock n ≠ .publishOverdue := by
    intro n hn hoverdue
    obtain ⟨-, -, s, hs, -, hid⟩ := hcovered n hn (automationState_eq_publishOverdue hoverdue)
    rw [hdone s hs] at hid
    cases hid
  have hrequests : intendedBy t (events ++ .startSweep .publish :: sweeps)
      = intendedBy t events := by
    have hnone : sweeps.filter (fun event => !event.isSweep) = [] :=
      List.filter_eq_nil_iff.mpr fun event hevent => by simp [hsweeps event hevent]
    rw [intendedBy, List.filter_append, List.filter_cons_of_neg (by decide), hnone, List.append_nil]
    rfl
  have htrails := ht.trails.run hevents
  rw [hrequests] at htrails
  exact htrails.visible_perm hoverdue

end

/-! ## Sweeps that overlap -/

namespace Sample

def directory : Directory where
  organisation := fun _ => 1
  reportingTo := fun _ => none
  department := fun _ => some 7
  departmentHead := fun _ => none
  officeLocation := fun _ => none
  primaryAdminUser := fun _ => none
  createdBy := fun _ => none
  employeesForRole := fun _ _ _ => []
  delegations := []
  approvalActionsBlocked := fun _ => none
  today := ⟨2026, 4, 1, Calendar.isDate_2026_04_01⟩
  now := 0

def tables : NoticeTables where
  clock := 0
  notices := []
  nextId := 1
  sweeps := []
  departments := [7]
  officeLocations := []
  employees := [30]

theorem tables_atRest : AtRest tables :=
  ⟨List.nodup_nil, fun _ hn => absurd hn List.not_mem_nil, rfl⟩

/-- A notice for a department, at a time. -/
def scheduled (at' : Time) : NoticeWrite where
  title := "Townhall"
  body := "At noon."
  audienceType := .departments
  status := .scheduled
  scheduledFor := some (some at')
  departmentIds := [7]

/-- Two notices are scheduled, of which one is over before it is met. -/
def requests : List NoticeEvent :=
  [.create 1 none (scheduled 10),
    .create 1 none { scheduled 10 with expiresAt := some (some 20) },
    .create 1 none (scheduled 90), .tick 30]

/-- The sweeps take turns. -/
def sweeps : List NoticeEvent :=
  [.startSweep .expire, .continueSweep 0, .continueSweep 1, .continueSweep 0, .continueSweep 0]

end Sample

theorem shown_after_sweep_sample :
    let now := Run.exec noticeStep Sample.tables
      (Sample.requests ++ .startSweep .publish :: Sample.sweeps)
    ((getVisibleNotices .stable Sample.directory now 30).map Notice.id).Perm
      (((intendedBy Sample.tables Sample.requests).notices.filter fun m =>
        m.isLive now.clock && m.isFor Sample.directory 30).map Notice.id) :=
  shown_after_sweep .stable Sample.directory Sample.tables Sample.tables_atRest Sample.requests
    Sample.sweeps (by decide) (by decide) (by decide) 30

/-- A notice that is put off while the sweep is about to come to it is published at once. -/
example :
    let now := Run.exec noticeStep Sample.tables
      [.create 1 none (Sample.scheduled 10), .tick 30, .startSweep .publish,
        .update 1 1 none (Sample.scheduled 90), .continueSweep 0]
    now.notices.map (fun n => (n.status, n.scheduledFor, n.isFor Sample.directory 30))
      = [(.published, some 90, true)] := by
  decide

end Communications
