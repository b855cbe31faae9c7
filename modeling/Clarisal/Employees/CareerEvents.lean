import Clarisal.Approvals.DefaultWorkflow
import Clarisal.Payroll.Prefetch

/-!
# Transfers and promotions

A transfer or promotion is an event that its approval decides, and that is
applied to the employee when its date has come. Two hands write its status:
the approval engine hands over its decision, and an administrator approves,
applies, rejects or cancels the event directly.

Neither looks at what the other did. An administrator can approve an event
whose run was rejected, or that was cancelled or applied already, and the run
of a cancelled event can still approve it (`approved_after_cancellation`). An
event is effective only with its run approved, is applied once, and stays out
once it is decided against, in exactly the runs of `Guarded` requests
(`gated_iff_guarded`).
-/

open Calendar Transaction

namespace Employees

open Approvals
open Payroll (AssignmentRow getEffectiveCompensationAssignment)

abbrev CareerEventId := ℕ

/-- The statuses of an event. The last one, which the approval engine knows for
other subjects, is no choice of the field, and the field does not check. -/
inductive CareerEventStatus
  | draft | pending | approved | rejected | effective | cancelled | withdrawn
deriving DecidableEq, Repr

structure Designation where
  id : ℕ
  name : String
deriving DecidableEq, Repr

/-- What an event changes. A revised assignment is known by its place in the
table. -/
inductive CareerChange
  | transfer (toDepartment : Option DepartmentId) (toLocation : Option OfficeLocationId)
      (toDesignation : Option Designation)
  | promotion (toDesignation : Option Designation) (revisedCompensation : Option ℕ)
deriving DecidableEq, Repr

/-- Where an employee stands. -/
structure Position where
  department : Option DepartmentId
  officeLocation : Option OfficeLocationId
  designationRef : Option Designation
deriving DecidableEq, Repr

/-- An employee, as events see one. -/
structure CareerEmployee where
  id : EmployeeId
  organisation : OrganisationId
  position : Position
  designation : String
  reportingTo : Option EmployeeId
deriving DecidableEq, Repr

/-- An `EmployeeTransferEvent` or `EmployeePromotionEvent`. -/
structure CareerEvent where
  id : CareerEventId
  employee : EmployeeId
  fromPosition : Position
  change : CareerChange
  effectiveDate : Date
  status : CareerEventStatus
  requestedBy : Option UserId
  approvedBy : Option UserId
  notes : String
deriving DecidableEq, Repr

/-- What is logged of an event: `employee.transfer.created` and so on. -/
inductive CareerAudit
  | created | approved | effective
deriving DecidableEq, Repr

structure CareerTables where
  employees : List CareerEmployee
  events : List CareerEvent
  assignments : List AssignmentRow
  auditLog : List (CareerAudit × CareerEventId)
  nextId : ℕ

abbrev CareerState := EngineState CareerTables

def CareerChange.contentType : CareerChange → ContentType
  | .transfer .. => .employeeTransferEvent
  | .promotion .. => .employeePromotionEvent

def CareerChange.requestKind : CareerChange → ApprovalRequestKind
  | .transfer .. => .transfer
  | .promotion .. => .promotion

def CareerEvent.subject (e : CareerEvent) : ContentObject :=
  { contentType := e.change.contentType, objectId := e.id }

namespace CareerTables

def getEmployee (t : CareerTables) (id : EmployeeId) : Option CareerEmployee :=
  Table.find CareerEmployee.id id t.employees

def getEvent (t : CareerTables) (id : CareerEventId) : Option CareerEvent :=
  Table.find CareerEvent.id id t.events

def saveEmployee (t : CareerTables) (e : CareerEmployee) : CareerTables :=
  { t with employees := Table.save CareerEmployee.id e t.employees }

def saveEvent (t : CareerTables) (e : CareerEvent) : CareerTables :=
  { t with events := Table.save CareerEvent.id e t.events }

/-- `log_audit_event`. -/
def log (t : CareerTables) (audit : CareerAudit) (event : CareerEventId) : CareerTables :=
  { t with auditLog := t.auditLog ++ [(audit, event)] }

end CareerTables

/-! ## The engine's decision -/

def careerStatus : SubjectStatus → CareerEventStatus
  | .approved => .approved
  | .rejected => .rejected
  | .cancelled => .cancelled
  | .withdrawn => .withdrawn

/-- `handle_approval_status_change`. -/
def CareerEvent.handleApprovalStatusChange (e : CareerEvent) (newStatus : SubjectStatus)
    (rejectionReason : String) : CareerEvent :=
  { e with
    status := careerStatus newStatus
    notes := if rejectionReason = "" then e.notes else rejectionReason }

/-- The events are the only subjects with tables here. -/
def careerHandler : SubjectHandler CareerTables where
  applySubjectStatus subject newStatus rejectionReason t := .ok { t with
    events := Table.update (fun e => e.subject = subject)
      (fun e => e.handleApprovalStatusChange newStatus rejectionReason) t.events }

/-! ## Creating -/

/-- The row of an event. -/
def newEvent (employee : CareerEmployee) (change : CareerChange) (effectiveDate : Date)
    (requestedBy : Option UserId) (t : CareerTables) : CareerEvent where
  id := t.nextId
  employee := employee.id
  fromPosition := employee.position
  change := change
  effectiveDate := effectiveDate
  status := .pending
  requestedBy := requestedBy
  approvedBy := none
  notes := ""

section

variable (user : EmployeeId → UserId)

/-- `create_approval_run` for an event, when a workflow is found. -/
def createEventRun (dir : Directory) (workflow : Option WorkflowId) (employee : CareerEmployee)
    (event : CareerEvent) (db : ApprovalDb) : Except String ApprovalDb :=
  match workflow with
  | none => .error "No active default approval workflow is configured for these requests."
  | some w => do
    let (_, db) ← createApprovalRun user dir w event.change.requestKind employee.organisation
      (some employee.id) event.subject db
    return db

/-- **Create an event**: its row stays even when no run can be created for it. A
second attempt has a default workflow made for it. -/
def createEvent (dir : Directory) (choice : WorkflowChoice) (employee : CareerEmployee)
    (change : CareerChange) (effectiveDate : Date) (requestedBy : Option UserId)
    (st : CareerState) : CareerState :=
  let event := newEvent employee change effectiveDate requestedBy st.subjects
  let subjects : CareerTables := { st.subjects with
    events := st.subjects.events ++ [event]
    auditLog := st.subjects.auditLog ++ [(.created, event.id)]
    nextId := st.subjects.nextId + 1 }
  match createEventRun user dir choice.resolved employee event st.db with
  | .ok db => { db := db, subjects := subjects }
  | .error _ =>
    let manager := employee.reportingTo.filter (fun m => m ≠ employee.id)
    match ensureDefaultPromotionTransferWorkflow choice manager st.db with
    | .error _ => { db := st.db, subjects := subjects }
    | .ok (workflow, db) =>
      { db := settle db (createEventRun user dir workflow employee event db)
        subjects := subjects }

def createTransferEvent (dir : Directory) (choice : WorkflowChoice) (employee : CareerEmployee)
    (toDepartment : Option DepartmentId) (toLocation : Option OfficeLocationId)
    (toDesignation : Option Designation) (effectiveDate : Date) (requestedBy : Option UserId)
    (st : CareerState) : CareerState :=
  createEvent user dir choice employee (.transfer toDepartment toLocation toDesignation)
    effectiveDate requestedBy st

def createPromotionEvent (dir : Directory) (choice : WorkflowChoice) (employee : CareerEmployee)
    (toDesignation : Designation) (revisedCompensation : Option ℕ) (effectiveDate : Date)
    (requestedBy : Option UserId) (st : CareerState) : CareerState :=
  createEvent user dir choice employee (.promotion (some toDesignation) revisedCompensation)
    effectiveDate requestedBy st

end

/-! ## The administrator's actions -/

/-- `approve_transfer_event` and `approve_promotion_event`; neither looks at the
status. -/
def approveEvent (event : CareerEvent) (approvedBy : UserId) (notes : String)
    (t : CareerTables) : CareerTables :=
  (t.saveEvent { event with
    status := .approved
    approvedBy := some approvedBy
    notes := if notes = "" then event.notes else notes }).log .approved event.id

/-- The checks of applying an event; `kind` starts the sentence and `label` stands
in it. -/
def checkApplicable (kind label : String) (event : CareerEvent) (today : Date) :
    Except String Unit :=
  if event.status ≠ .approved then
    .error ("Can only apply approved " ++ label ++ " events")
  else if today < event.effectiveDate then
    .error (kind ++ " effective date has not arrived yet")
  else .ok ()

/-- The position after a transfer. -/
def Position.transferred (p : Position) (toDepartment : Option DepartmentId)
    (toLocation : Option OfficeLocationId) (toDesignation : Option Designation) : Position where
  department := toDepartment.or p.department
  officeLocation := toLocation.or p.officeLocation
  designationRef := toDesignation.or p.designationRef

def applyTransferEvent (event : CareerEvent) (employee : CareerEmployee)
    (toDepartment : Option DepartmentId) (toLocation : Option OfficeLocationId)
    (toDesignation : Option Designation) (today : Date) (t : CareerTables) :
    Except String CareerTables := do
  checkApplicable "Transfer" "transfer" event today
  let t := t.saveEmployee { employee with
    position := employee.position.transferred toDepartment toLocation toDesignation }
  return (t.saveEvent { event with status := .effective }).log .effective event.id

/-- The draft assignment of a promotion that names none: a copy of the one in
force. -/
def reviseCompensation (q : QueryOrder) (event : CareerEvent) (now : Time) (t : CareerTables) :
    Option AssignmentRow :=
  (getEffectiveCompensationAssignment q t.assignments event.employee event.effectiveDate).map
    (fun current => { current with
      effectiveFrom := event.effectiveDate
      isApproved := false
      version := (t.assignments.filter (fun a => a.employee = event.employee)).length + 1
      createdAt := now })

def applyPromotionEvent (q : QueryOrder) (event : CareerEvent) (employee : CareerEmployee)
    (toDesignation : Option Designation) (revisedCompensation : Option ℕ) (today : Date)
    (now : Time) (t : CareerTables) : Except String CareerTables := do
  checkApplicable "Promotion" "promotion" event today
  let t := t.saveEmployee { employee with
    designation := (toDesignation.map Designation.name).getD employee.designation }
  let revised := if revisedCompensation = none then reviseCompensation q event now t else none
  let change := CareerChange.promotion toDesignation
    (revisedCompensation.or (revised.map (fun _ => t.assignments.length)))
  let t := { t with assignments := t.assignments ++ revised.toList }
  return (t.saveEvent { event with change := change, status := .effective }).log .effective event.id

/-- What an administrator asks of an event. -/
inductive EventRequest
  | approve (approvedBy : UserId) (notes : String)
  | apply (today : Date) (now : Time)
  | reject (notes : String)
  | cancel
deriving DecidableEq, Repr

/-- `TransferEventDetailView.patch` and `PromotionEventDetailView.patch`. -/
def patchEvent (q : QueryOrder) (event : CareerEvent) (t : CareerTables) :
    EventRequest → Except String CareerTables
  | .approve approvedBy notes => .ok (approveEvent event approvedBy notes t)
  | .apply today now =>
    match t.getEmployee event.employee with
    | none => .error "Employee matching query does not exist."
    | some employee =>
      match event.change with
      | .transfer toDepartment toLocation toDesignation =>
        applyTransferEvent event employee toDepartment toLocation toDesignation today t
      | .promotion toDesignation revisedCompensation =>
        applyPromotionEvent q event employee toDesignation revisedCompensation today now t
  | .reject notes => .ok (t.saveEvent { event with status := .rejected, notes := notes })
  | .cancel => .ok (t.saveEvent { event with status := .cancelled })

/-! ## Runs -/

/-- **The requests about events.** -/
inductive CareerOp
  | createTransferEvent (dir : Directory) (choice : WorkflowChoice) (employee : EmployeeId)
      (toDepartment : Option DepartmentId) (toLocation : Option OfficeLocationId)
      (toDesignation : Option Designation) (effectiveDate : Date) (requestedBy : Option UserId)
  | createPromotionEvent (dir : Directory) (choice : WorkflowChoice) (employee : EmployeeId)
      (toDesignation : Designation) (revisedCompensation : Option ℕ) (effectiveDate : Date)
      (requestedBy : Option UserId)
  | approveAction (dir : Directory) (action : ActionId) (actor : UserId) (comment : String)
  | rejectAction (dir : Directory) (action : ActionId) (actor : UserId) (comment : String)
  | patch (event : CareerEventId) (request : EventRequest)

section

variable (q : QueryOrder) (user : EmployeeId → UserId)

/-- **One request**: a refused one changes nothing. -/
def careerStep (st : CareerState) : CareerOp → CareerState
  | .createTransferEvent dir choice employee toDepartment toLocation toDesignation effectiveDate
      requestedBy =>
    (st.subjects.getEmployee employee).elim st (fun e =>
      Employees.createTransferEvent user dir choice e toDepartment toLocation toDesignation
        effectiveDate requestedBy st)
  | .createPromotionEvent dir choice employee toDesignation revisedCompensation effectiveDate
      requestedBy =>
    (st.subjects.getEmployee employee).elim st (fun e =>
      Employees.createPromotionEvent user dir choice e toDesignation revisedCompensation
        effectiveDate requestedBy st)
  | .approveAction dir action actor comment =>
    settle st (Approvals.approveAction careerHandler user dir action actor comment st)
  | .rejectAction dir action actor comment =>
    settle st (Approvals.rejectAction careerHandler dir action actor comment st)
  | .patch event request =>
    (st.subjects.getEvent event).elim st (fun e =>
      { st with subjects := settle st.subjects (patchEvent q e st.subjects request) })

end

/-- Tables before the first event. -/
def CareerTables.initial (employees : List CareerEmployee) (assignments : List AssignmentRow) :
    CareerTables where
  employees := employees
  events := []
  assignments := assignments
  auditLog := []
  nextId := 0

/-! ## The gate -/

/-- The event is decided against, or was applied. -/
def CareerEventStatus.Terminal (s : CareerEventStatus) : Prop :=
  s = .rejected ∨ s = .cancelled ∨ s = .effective

instance (s : CareerEventStatus) : Decidable s.Terminal :=
  inferInstanceAs (Decidable (_ ∨ _ ∨ _))

/-- **The approval run of an event is approved.** -/
def RunApproved (e : CareerEvent) (st : CareerState) : Prop :=
  (∃ r ∈ st.db.outline, r.subject = e.subject)
    ∧ ∀ r ∈ st.db.outline, r.subject = e.subject → r.status = .approved

instance (e : CareerEvent) (st : CareerState) : Decidable (RunApproved e st) :=
  inferInstanceAs (Decidable (_ ∧ _))

/-- How often an event was applied. -/
def CareerTables.applied (t : CareerTables) (id : CareerEventId) : ℕ :=
  (t.auditLog.filter (fun entry => entry = (.effective, id))).length

/-- **The gate**: an effective event has its run approved, and no event is applied
twice. -/
structure Gated (st : CareerState) : Prop where
  effective : ∀ e ∈ st.subjects.events, e.status = .effective → RunApproved e st
  once : ∀ e ∈ st.subjects.events, st.subjects.applied e.id ≤ 1

/-- **Never again**: an event that was decided against or applied is not approved
later, and is not made effective. -/
def NeverAgain (st st' : CareerState) : Prop :=
  ∀ e ∈ st.subjects.events, e.status.Terminal → ∀ e' ∈ st'.subjects.events, e'.id = e.id →
    e'.status ≠ .approved ∧ (e'.status = .effective → e.status = .effective)

/-- **A guarded request**: an approval, by the engine or an administrator, finds
the event neither decided against nor applied, and an event that is applied has
its run approved. -/
def Guarded (st : CareerState) : CareerOp → Prop
  | .approveAction dir action actor comment => ∀ e ∈ st.subjects.events,
    decidedSubject dir action actor comment st.db = some e.subject → ¬ e.status.Terminal
  | .patch id (.approve _ _) => ∀ e ∈ st.subjects.events, e.id = id → ¬ e.status.Terminal
  | .patch id (.apply today _) => ∀ e ∈ st.subjects.events, e.id = id →
    e.status = .approved → e.effectiveDate ≤ today → RunApproved e st
  | _ => True

/-- The rows that the tables refer to. -/
structure CareerInv (st : CareerState) : Prop where
  engine : st.db.Inv
  unique : Table.Unique CareerEvent.id st.subjects.events
  fresh : ∀ e ∈ st.subjects.events, e.id < st.subjects.nextId
  employed : ∀ e ∈ st.subjects.events, ∃ m ∈ st.subjects.employees, m.id = e.employee
  runs : ∀ r ∈ st.db.outline, r.subject.objectId < st.subjects.nextId
  logged : ∀ entry ∈ st.subjects.auditLog, entry.2 < st.subjects.nextId

/-- The gate, and that an event that was applied is not approved any more. -/
structure Orderly (st : CareerState) : Prop extends Gated st where
  ended : ∀ e ∈ st.subjects.events, 0 < st.subjects.applied e.id → e.status.Terminal

/-- **What a guarded request keeps**: terminal events stay terminal. -/
structure Keeps (st st' : CareerState) : Prop where
  stay : ∀ e ∈ st.subjects.events, ∃ e' ∈ st'.subjects.events, e'.id = e.id
  terminal : ∀ e ∈ st.subjects.events, e.status.Terminal → ∀ e' ∈ st'.subjects.events,
    e'.id = e.id → e'.status.Terminal ∧ (e'.status = .effective → e.status = .effective)

section

variable {st st' st'' : CareerState} {e e' : CareerEvent} {t t' : CareerTables}
  {p : CareerEvent → Bool} {f : CareerEvent → CareerEvent}

theorem CareerEventStatus.Terminal.ne_approved {s : CareerEventStatus} (h : s.Terminal) :
    s ≠ .approved := by
  rintro rfl
  exact absurd h (by decide)

theorem Keeps.trans (h : Keeps st st') (h' : Keeps st' st'') : Keeps st st'' where
  stay e he := by
    obtain ⟨e', he', hid⟩ := h.stay e he
    obtain ⟨e'', he'', hid'⟩ := h'.stay e' he'
    exact ⟨e'', he'', hid'.trans hid⟩
  terminal e he hterminal e'' he'' hid := by
    obtain ⟨e', he', hid'⟩ := h.stay e he
    obtain ⟨hterminal', heffective⟩ := h.terminal e he hterminal e' he' hid'
    obtain ⟨hterminal'', heffective'⟩ := h'.terminal e' he' hterminal' e'' he''
      (hid.trans hid'.symm)
    exact ⟨hterminal'', heffective ∘ heffective'⟩

theorem Keeps.neverAgain (h : Keeps st st') : NeverAgain st st' := by
  intro e he hterminal e' he' hid
  obtain ⟨hterminal', heffective⟩ := h.terminal e he hterminal e' he' hid
  exact ⟨hterminal'.ne_approved, heffective⟩

/-- Events that are unchanged. -/
theorem Keeps.of_events (hinv : CareerInv st) (h : st'.subjects.events = st.subjects.events) :
    Keeps st st' where
  stay e he := ⟨e, h ▸ he, rfl⟩
  terminal e he hterminal e' he' hid := by
    obtain rfl := hinv.unique.eq_of_key (h ▸ he') he hid
    exact ⟨hterminal, id⟩

/-- **Events that are rewritten** in place. -/
theorem Keeps.of_update (hinv : CareerInv st)
    (h : st'.subjects.events = Table.update p f st.subjects.events)
    (hid : ∀ e ∈ st.subjects.events, p e = true → (f e).id = e.id)
    (hterminal : ∀ e ∈ st.subjects.events, p e = true → e.status.Terminal →
      (f e).status.Terminal ∧ ((f e).status = .effective → e.status = .effective)) :
    Keeps st st' where
  stay e he := by
    rw [h]
    cases hp : p e with
    | true => exact ⟨f e, Table.mem_update_iff.mpr (Or.inl ⟨e, he, hp, rfl⟩), hid e he hp⟩
    | false => exact ⟨e, Table.mem_update_iff.mpr (Or.inr ⟨he, hp⟩), rfl⟩
  terminal e he hstatus e' he' hsame := by
    rcases Table.mem_update_iff.mp (h ▸ he') with ⟨e₀, he₀, hp, rfl⟩ | ⟨he', -⟩
    · obtain rfl := hinv.unique.eq_of_key he₀ he ((hid e₀ he₀ hp).symm.trans hsame)
      exact hterminal e₀ he₀ hp hstatus
    · obtain rfl := hinv.unique.eq_of_key he' he hsame
      exact ⟨hstatus, id⟩

/-- A decided run stays as it is. -/
theorem RunApproved.of_closes (h : RunApproved e st) (hinv : CareerInv st)
    (hcloses : Closes st.db.outline st'.db.outline) (hsubject : e'.subject = e.subject) :
    RunApproved e' st' := by
  have hunique := uniqueOutline hinv.engine.toKeys
  obtain ⟨⟨r, hr, hrs⟩, hall⟩ := h
  have hkept : ∀ r ∈ st.db.outline, r.subject = e.subject → r ∈ st'.db.outline := by
    intro r hr hrs
    exact hcloses.decided hunique hr (by rw [hall r hr hrs]; decide)
  refine ⟨⟨r, hkept r hr hrs, hrs.trans hsubject.symm⟩, fun r' hr' hrs' => ?_⟩
  obtain ⟨r₀, hr₀, hid, hsame⟩ := hcloses.exists_of_mem hr'
  have hrs₀ : r₀.subject = e.subject := hsame.trans (hrs'.trans hsubject)
  have hunique' : r' = r₀ := by
    cases hcloses with
    | none houtline => exact hunique.eq_of_key (houtline ▸ hr') hr₀ hid.symm
    | one run status hrun hpending hstatus houtline =>
      rcases mem_setOutline.mp (houtline ▸ hr') with ⟨r₁, hr₁, hid₁, rfl⟩ | ⟨hr', -⟩
      · -- the run of the event is decided, so it is not the one that closes
        have hsame₁ : r₁ = r₀ := hunique.eq_of_key hr₁ hr₀ hid.symm
        have hsame₂ : r₁ = run := hunique.eq_of_key hr₁ hrun hid₁
        rw [← hsame₂, hsame₁, hall r₀ hr₀ hrs₀] at hpending
        cases hpending
      · exact hunique.eq_of_key hr' hr₀ hid.symm
  rw [hunique']
  exact hall r₀ hr₀ hrs₀

/-! ## Events that are rewritten -/

/-- **A request that rewrites events**, in place, and closes one run at most. -/
structure Rewrites (p : CareerEvent → Bool) (f : CareerEvent → CareerEvent)
    (st st' : CareerState) : Prop where
  engine : st'.db.Inv
  closes : Closes st.db.outline st'.db.outline
  events : st'.subjects.events = Table.update p f st.subjects.events
  same : ∀ e ∈ st.subjects.events, p e = true →
    (f e).id = e.id ∧ (f e).subject = e.subject ∧ (f e).employee = e.employee
  employees : st'.subjects.employees.map CareerEmployee.id
    = st.subjects.employees.map CareerEmployee.id
  nextId : st'.subjects.nextId = st.subjects.nextId
  log : ∀ entry ∈ st'.subjects.auditLog, entry ∈ st.subjects.auditLog
    ∨ ∃ e ∈ st.subjects.events, entry.2 = e.id

/-- A rewritten event comes from one. -/
theorem Rewrites.origin (h : Rewrites p f st st') (he' : e' ∈ st'.subjects.events) :
    ∃ e ∈ st.subjects.events, e'.id = e.id ∧ e'.subject = e.subject
      ∧ e'.employee = e.employee ∧ ((p e = true ∧ e' = f e) ∨ (p e = false ∧ e' = e)) := by
  rcases Table.mem_update_iff.mp (h.events ▸ he') with ⟨e, he, hp, rfl⟩ | ⟨he, hp⟩
  · obtain ⟨hid, hsubject, hemployee⟩ := h.same e he hp
    exact ⟨e, he, hid, hsubject, hemployee, Or.inl ⟨hp, rfl⟩⟩
  · exact ⟨e', he, rfl, rfl, rfl, Or.inr ⟨hp, rfl⟩⟩

theorem CareerInv.rewrites (hinv : CareerInv st) (h : Rewrites p f st st') : CareerInv st' where
  engine := h.engine
  unique := by
    have hids : st'.subjects.events.map CareerEvent.id
        = st.subjects.events.map CareerEvent.id := by
      rw [h.events, Table.update, List.map_map]
      refine List.map_congr_left (fun e he => ?_)
      show CareerEvent.id (if p e then f e else e) = e.id
      split
      · next hp => exact (h.same e he hp).1
      · rfl
    unfold Table.Unique
    rw [hids]
    exact hinv.unique
  fresh e' he' := by
    obtain ⟨e, he, hid, -⟩ := h.origin he'
    rw [hid, h.nextId]
    exact hinv.fresh e he
  employed e' he' := by
    obtain ⟨e, he, -, -, hemployee, -⟩ := h.origin he'
    obtain ⟨m, hm, hid⟩ := hinv.employed e he
    have hmem : m.id ∈ st'.subjects.employees.map CareerEmployee.id :=
      h.employees ▸ List.mem_map_of_mem hm
    obtain ⟨m', hm', hid'⟩ := List.mem_map.mp hmem
    exact ⟨m', hm', hid'.trans (hid.trans hemployee.symm)⟩
  runs r' hr' := by
    obtain ⟨r, hr, -, hsubject⟩ := h.closes.exists_of_mem hr'
    rw [h.nextId, ← hsubject]
    exact hinv.runs r hr
  logged entry hentry := by
    rw [h.nextId]
    rcases h.log entry hentry with hold | ⟨e, he, hid⟩
    · exact hinv.logged entry hold
    · exact hid ▸ hinv.fresh e he

/-- **Rewriting keeps order** when terminal events stay terminal, an effective one
has its run approved, and only an event that was not terminal is applied. -/
theorem Orderly.rewrites (h : Orderly st) (hinv : CareerInv st) (hrewrites : Rewrites p f st st')
    (hterminal : ∀ e ∈ st.subjects.events, p e = true → e.status.Terminal →
      (f e).status.Terminal ∧ ((f e).status = .effective → e.status = .effective))
    (heffective : ∀ e ∈ st.subjects.events, p e = true → (f e).status = .effective →
      RunApproved (f e) st')
    (happlied : ∀ e ∈ st.subjects.events,
      st'.subjects.applied e.id = st.subjects.applied e.id
        ∨ (st'.subjects.applied e.id = st.subjects.applied e.id + 1 ∧ ¬ e.status.Terminal
          ∧ p e = true ∧ (f e).status.Terminal)) :
    Orderly st' ∧ Keeps st st' := by
  have hkeeps : Keeps st st' := Keeps.of_update hinv hrewrites.events
    (fun e he hp => (hrewrites.same e he hp).1) hterminal
  -- an event that is not terminal was never applied
  have hnever : ∀ e ∈ st.subjects.events, ¬ e.status.Terminal → st.subjects.applied e.id = 0 :=
    fun e he hnot => Nat.eq_zero_of_not_pos (fun hpos => hnot (h.ended e he hpos))
  refine ⟨⟨⟨fun e' he' hstatus => ?_, fun e' he' => ?_⟩, fun e' he' hpos => ?_⟩, hkeeps⟩
  · obtain ⟨e, he, -, hsubject, -, ⟨hp, rfl⟩ | ⟨-, rfl⟩⟩ := hrewrites.origin he'
    · exact heffective e he hp hstatus
    · exact (h.effective _ he hstatus).of_closes hinv hrewrites.closes rfl
  · obtain ⟨e, he, hid, -⟩ := hrewrites.origin he'
    rw [hid]
    rcases happlied e he with hsame | ⟨hmore, hnot, -⟩
    · exact hsame ▸ h.once e he
    · rw [hmore, hnever e he hnot]
  · obtain ⟨e, he, hid, -, -, hcases⟩ := hrewrites.origin he'
    rw [hid] at hpos
    rcases happlied e he with hsame | ⟨-, -, hp, hended⟩
    · have hwas : e.status.Terminal := h.ended e he (hsame ▸ hpos)
      exact (hkeeps.terminal e he hwas e' he' hid).1
    · rcases hcases with ⟨-, rfl⟩ | ⟨hnp, -⟩
      · exact hended
      · rw [hp] at hnp
        cases hnp

/-- The log after another entry. -/
theorem applied_log (audit : CareerAudit) (event id : CareerEventId) :
    (t.log audit event).applied id
      = t.applied id + if audit = .effective ∧ event = id then 1 else 0 := by
  unfold CareerTables.applied CareerTables.log
  rw [List.filter_append, List.length_append]
  by_cases h : audit = .effective ∧ event = id
  · obtain ⟨rfl, rfl⟩ := h
    simp
  · rw [if_neg h, List.filter_cons_of_neg (by simpa [Prod.ext_iff] using h)]
    rfl

theorem applied_log_of_ne {audit : CareerAudit} (h : audit ≠ .effective)
    (event id : CareerEventId) : (t.log audit event).applied id = t.applied id := by
  rw [applied_log, if_neg (fun h' => h h'.1), add_zero]

/-! ## The engine's requests -/

variable {user : EmployeeId → UserId} {dir : Directory} {action : ActionId} {actor : UserId}
  {comment : String}

/-- A decision rewrites the events it is about. -/
theorem rewrites_of_decided (hengine : st'.db.Inv)
    (hcloses : Closes st.db.outline st'.db.outline) {subject : ContentObject}
    {decision : SubjectStatus} {reason : String}
    (hsubjects : careerHandler.applySubjectStatus subject decision reason st.subjects
      = .ok st'.subjects) :
    Rewrites (fun e => e.subject = subject)
      (fun e => e.handleApprovalStatusChange decision reason) st st' := by
  have htables := Except.ok.inj hsubjects
  refine ⟨hengine, hcloses, ?_, fun _ _ _ => ⟨rfl, rfl, rfl⟩, ?_, ?_, fun entry h => Or.inl ?_⟩
  · rw [← htables]
  · rw [← htables]
  · rw [← htables]
  · rwa [← htables] at h

/-- A request that leaves the events alone. -/
theorem rewrites_of_quiet (hengine : st'.db.Inv)
    (hcloses : Closes st.db.outline st'.db.outline) (hsubjects : st'.subjects = st.subjects) :
    Rewrites (fun _ => false) id st st' where
  engine := hengine
  closes := hcloses
  events := by
    rw [hsubjects]
    exact (Table.update_eq_self (fun _ _ h => by cases h)).symm
  same _ _ h := by cases h
  employees := by rw [hsubjects]
  nextId := by rw [hsubjects]
  log entry h := Or.inl (hsubjects ▸ h)

/-- **An approval by the engine** keeps the rows, and keeps order when it finds the
event it decides not terminal. -/
theorem approveAction_keeps (hinv : CareerInv st)
    (hok : Approvals.approveAction careerHandler user dir action actor comment st = .ok st') :
    CareerInv st' ∧ (Orderly st →
      Guarded st (.approveAction dir action actor comment) → Orderly st' ∧ Keeps st st') := by
  have hengine := (kept_approveAction hinv.engine hok).1
  have hcloses := (outcome_approveAction hinv.engine hok).closes
  rcases approveAction_subjects hok with hsame | ⟨subject, hdecided, hsubjects⟩
  · have hrewrites := rewrites_of_quiet hengine hcloses hsame
    refine ⟨hinv.rewrites hrewrites, fun h _ => h.rewrites hinv hrewrites ?_ ?_ ?_⟩
    · exact fun _ _ hp => by cases hp
    · exact fun _ _ hp => by cases hp
    · exact fun e _ => Or.inl (by rw [hsame])
  · have hrewrites := rewrites_of_decided hengine hcloses hsubjects
    refine ⟨hinv.rewrites hrewrites, fun h hguard => h.rewrites hinv hrewrites ?_ ?_ ?_⟩
    · intro e he hp hterminal
      have hsubject : e.subject = subject := of_decide_eq_true hp
      exact absurd hterminal (hguard e he (hsubject ▸ hdecided))
    · intro e _ _ hstatus
      cases hstatus
    · exact fun e _ => Or.inl (by rw [← Except.ok.inj hsubjects]; rfl)

/-- **A rejection by the engine** keeps order. -/
theorem rejectAction_keeps (hinv : CareerInv st)
    (hok : Approvals.rejectAction careerHandler dir action actor comment st = .ok st') :
    CareerInv st' ∧ (Orderly st → Orderly st' ∧ Keeps st st') := by
  have hengine := (kept_rejectAction hinv.engine hok).1
  have hcloses := (outcome_rejectAction hinv.engine hok).closes
  obtain ⟨subject, hsubjects⟩ := rejectAction_subjects hok
  have hrewrites := rewrites_of_decided hengine hcloses hsubjects
  refine ⟨hinv.rewrites hrewrites, fun h => h.rewrites hinv hrewrites ?_ ?_ ?_⟩
  · intro e _ _ _
    exact ⟨Or.inl rfl, fun hstatus => by cases hstatus⟩
  · intro e _ _ hstatus
    cases hstatus
  · exact fun e _ => Or.inl (by rw [← Except.ok.inj hsubjects]; rfl)

/-! ## The administrator's requests -/

/-- **An event that is saved**, with what is logged of it. -/
theorem rewrites_of_saved (hinv : CareerInv st) (he : e ∈ st.subjects.events)
    (hevents : t'.events = Table.save CareerEvent.id e' st.subjects.events)
    (hsubject : e'.subject = e.subject) (hemployee : e'.employee = e.employee)
    (hemployees : t'.employees.map CareerEmployee.id
      = st.subjects.employees.map CareerEmployee.id)
    (hnext : t'.nextId = st.subjects.nextId)
    (hlog : ∀ entry ∈ t'.auditLog, entry ∈ st.subjects.auditLog ∨ entry.2 = e.id) :
    Rewrites (fun e₀ => e₀.id = e'.id) (fun _ => e') st { st with subjects := t' } where
  engine := hinv.engine
  closes := .none rfl
  events := hevents
  same e₀ he₀ hp := by
    have hid : e'.id = e.id := congrArg ContentObject.objectId hsubject
    obtain rfl : e₀ = e := hinv.unique.eq_of_key he₀ he ((of_decide_eq_true hp).trans hid)
    exact ⟨hid, hsubject, hemployee⟩
  employees := hemployees
  nextId := hnext
  log entry hentry := (hlog entry hentry).imp_right (fun h => ⟨e, he, h⟩)

/-- **Applying an event**: it was approved, its date has come, and it is effective
and logged afterwards. -/
theorem patchEvent_apply_eq_ok {q : QueryOrder} {today : Date} {now : Time}
    (h : patchEvent q e t (.apply today now) = .ok t') :
    e.status = .approved ∧ e.effectiveDate ≤ today
      ∧ ∃ e', e'.subject = e.subject ∧ e'.employee = e.employee ∧ e'.status = .effective
        ∧ t'.events = Table.save CareerEvent.id e' t.events
        ∧ t'.employees.map CareerEmployee.id = t.employees.map CareerEmployee.id
        ∧ t'.nextId = t.nextId ∧ t'.auditLog = t.auditLog ++ [(.effective, e.id)] := by
  have hcheck : ∀ {kind label : String}, checkApplicable kind label e today = .ok () →
      e.status = .approved ∧ e.effectiveDate ≤ today := by
    intro kind label hok
    unfold checkApplicable at hok
    split_ifs at hok with hstatus hdate
    exact ⟨not_not.mp hstatus, not_lt.mp hdate⟩
  simp only [patchEvent] at h
  split at h
  · cases h
  · next employee _ =>
    split at h
    · obtain ⟨⟨⟩, hok, h⟩ := bind_eq_ok_iff.mp h
      obtain rfl := pure_eq_ok_iff.mp h
      obtain ⟨hstatus, hdate⟩ := hcheck hok
      exact ⟨hstatus, hdate, { e with status := .effective }, rfl, rfl, rfl, rfl,
        Table.map_key_save _ _, rfl, rfl⟩
    · next toDesignation revisedCompensation hchange =>
      obtain ⟨⟨⟩, hok, h⟩ := bind_eq_ok_iff.mp h
      obtain rfl := pure_eq_ok_iff.mp h
      obtain ⟨hstatus, hdate⟩ := hcheck hok
      refine ⟨hstatus, hdate, _, ?_, ?_, ?_, rfl, Table.map_key_save _ _, rfl, rfl⟩
      · show ContentObject.mk _ e.id = ContentObject.mk e.change.contentType e.id
        rw [hchange]
        rfl
      · rfl
      · rfl

/-- **A request of an administrator** keeps the rows, and keeps order when it is
guarded. -/
theorem patchEvent_keeps {q : QueryOrder} {request : EventRequest} (hinv : CareerInv st)
    (he : e ∈ st.subjects.events) (hok : patchEvent q e st.subjects request = .ok t') :
    CareerInv { st with subjects := t' } ∧ (Orderly st → Guarded st (.patch e.id request) →
      Orderly { st with subjects := t' } ∧ Keeps st { st with subjects := t' }) := by
  -- the event is the one of its id
  have honly : ∀ e₀ ∈ st.subjects.events, decide (e₀.id = e.id) = true → e₀ = e :=
    fun e₀ he₀ hp => hinv.unique.eq_of_key he₀ he (of_decide_eq_true hp)
  cases request with
  | approve approvedBy notes =>
    obtain rfl := (Except.ok.inj hok).symm
    have hrewrites : Rewrites _ _ st { st with
        subjects := approveEvent e approvedBy notes st.subjects } :=
      rewrites_of_saved hinv he rfl rfl rfl rfl rfl
        (fun entry hentry => (List.mem_append.mp hentry).imp_right
          (fun h => congrArg Prod.snd (List.mem_singleton.mp h)))
    refine ⟨hinv.rewrites hrewrites, fun h hguard => h.rewrites hinv hrewrites ?_ ?_ ?_⟩
    · intro e₀ he₀ hp hterminal
      exact absurd hterminal (hguard e₀ he₀ (of_decide_eq_true hp))
    · intro _ _ _ hstatus
      cases hstatus
    · refine fun e₀ _ => Or.inl ?_
      show ((st.subjects.saveEvent _).log .approved e.id).applied e₀.id = _
      exact applied_log_of_ne (by decide) e.id e₀.id
  | apply today now =>
    obtain ⟨hstatus, hdate, e', hsubject, hemployee, heffective, hevents, hemployees, hnext,
      hlog⟩ := patchEvent_apply_eq_ok hok
    have hid : e'.id = e.id := congrArg ContentObject.objectId hsubject
    have hrewrites := rewrites_of_saved hinv he hevents hsubject hemployee hemployees hnext
      (fun entry hentry => (List.mem_append.mp (hlog ▸ hentry)).imp_right
        (fun h => congrArg Prod.snd (List.mem_singleton.mp h)))
    refine ⟨hinv.rewrites hrewrites, fun h hguard => h.rewrites hinv hrewrites ?_ ?_ ?_⟩
    · intro e₀ he₀ hp hterminal
      obtain rfl := honly e₀ he₀ (hid ▸ hp)
      exact absurd hstatus hterminal.ne_approved
    · intro e₀ _ _ _
      exact (hguard e he rfl hstatus hdate).of_closes hinv (.none rfl) hsubject
    · intro e₀ he₀
      have hcount : CareerTables.applied t' e₀.id
          = (st.subjects.log .effective e.id).applied e₀.id := by
        unfold CareerTables.applied CareerTables.log
        rw [hlog]
      show CareerTables.applied t' e₀.id = _ ∨ _
      by_cases hsame : e.id = e₀.id
      · obtain rfl := hinv.unique.eq_of_key he he₀ hsame
        refine Or.inr ⟨?_, fun h => h.ne_approved hstatus, decide_eq_true hid.symm, ?_⟩
        · show CareerTables.applied t' e.id = _
          rw [hcount, applied_log, if_pos ⟨rfl, rfl⟩]
        · exact Or.inr (Or.inr heffective)
      · refine Or.inl ?_
        rw [hcount, applied_log, if_neg (fun h => hsame h.2)]
        rfl
  | reject notes =>
    obtain rfl := (Except.ok.inj hok).symm
    have hrewrites : Rewrites _ _ st { st with
        subjects := st.subjects.saveEvent { e with status := .rejected, notes := notes } } :=
      rewrites_of_saved hinv he rfl rfl rfl rfl rfl (fun _ hentry => Or.inl hentry)
    refine ⟨hinv.rewrites hrewrites, fun h _ => h.rewrites hinv hrewrites ?_ ?_ ?_⟩
    · exact fun _ _ _ _ => ⟨Or.inl rfl, fun hstatus => by cases hstatus⟩
    · intro _ _ _ hstatus
      cases hstatus
    · exact fun _ _ => Or.inl rfl
  | cancel =>
    obtain rfl := (Except.ok.inj hok).symm
    have hrewrites : Rewrites _ _ st { st with
        subjects := st.subjects.saveEvent { e with status := .cancelled } } :=
      rewrites_of_saved hinv he rfl rfl rfl rfl rfl (fun _ hentry => Or.inl hentry)
    refine ⟨hinv.rewrites hrewrites, fun h _ => h.rewrites hinv hrewrites ?_ ?_ ?_⟩
    · exact fun _ _ _ _ => ⟨Or.inr (Or.inl rfl), fun hstatus => by cases hstatus⟩
    · intro _ _ _ hstatus
      cases hstatus
    · exact fun _ _ => Or.inl rfl

/-! ## New events -/

/-- A run of an event is created, or none. -/
theorem createEventRun_eq_ok {workflow : Option WorkflowId} {employee : CareerEmployee}
    {db db' : ApprovalDb} (h : db.Inv)
    (hok : createEventRun user dir workflow employee e db = .ok db') :
    db'.Inv ∧ ∃ r, r.subject = e.subject ∧ db'.outline = db.outline ++ [r] := by
  unfold createEventRun at hok
  split at hok
  · cases hok
  · obtain ⟨⟨id, db₁⟩, hcreate, hok⟩ := bind_eq_ok_iff.mp hok
    obtain rfl := pure_eq_ok_iff.mp hok
    exact ⟨(kept_createApprovalRun h hcreate).1, _, rfl, (outline_createApprovalRun hcreate).2⟩

/-- **A request that adds an event**, and a run about it at most. -/
structure AddsEvent (e : CareerEvent) (st st' : CareerState) : Prop where
  engine : st'.db.Inv
  outline : st'.db.outline = st.db.outline
    ∨ ∃ r, r.subject = e.subject ∧ st'.db.outline = st.db.outline ++ [r]
  id : e.id = st.subjects.nextId
  status : e.status = .pending
  employed : ∃ m ∈ st.subjects.employees, m.id = e.employee
  events : st'.subjects.events = st.subjects.events ++ [e]
  employees : st'.subjects.employees = st.subjects.employees
  nextId : st'.subjects.nextId = st.subjects.nextId + 1
  auditLog : st'.subjects.auditLog = st.subjects.auditLog ++ [(.created, e.id)]

theorem addsEvent_createEvent (hinv : CareerInv st) {employee : CareerEmployee}
    (hemployee : employee ∈ st.subjects.employees) (choice : WorkflowChoice)
    (change : CareerChange) (effectiveDate : Date) (requestedBy : Option UserId) :
    AddsEvent (newEvent employee change effectiveDate requestedBy st.subjects) st
      (createEvent user dir choice employee change effectiveDate requestedBy st) := by
  have hrest : ∀ db : ApprovalDb, db.Inv → (db.outline = st.db.outline
      ∨ ∃ r, r.subject = (newEvent employee change effectiveDate requestedBy st.subjects).subject
        ∧ db.outline = st.db.outline ++ [r]) →
      AddsEvent (newEvent employee change effectiveDate requestedBy st.subjects) st
        { db := db, subjects := { st.subjects with
          events := st.subjects.events
            ++ [newEvent employee change effectiveDate requestedBy st.subjects]
          auditLog := st.subjects.auditLog ++ [(.created, st.subjects.nextId)]
          nextId := st.subjects.nextId + 1 } } :=
    fun db hdb houtline => ⟨hdb, houtline, rfl, rfl, ⟨employee, hemployee, rfl⟩, rfl, rfl, rfl, rfl⟩
  unfold createEvent
  dsimp only
  split
  · next db hdb =>
    obtain ⟨hengine, houtline⟩ := createEventRun_eq_ok hinv.engine hdb
    exact hrest db hengine (Or.inr houtline)
  · split
    · exact hrest st.db hinv.engine (Or.inl rfl)
    · next workflow db hdefault =>
      obtain ⟨hengine, hruns, -⟩ := hinv.engine.ensureDefault hdefault
      have hsame : db.outline = st.db.outline := outline_eq_of_runs hruns
      cases hretry : createEventRun user dir workflow employee
          (newEvent employee change effectiveDate requestedBy st.subjects) db with
      | error message => exact hrest db hengine (Or.inl hsame)
      | ok db₁ =>
        obtain ⟨hengine₁, r, hr, houtline⟩ := createEventRun_eq_ok hengine hretry
        exact hrest db₁ hengine₁ (Or.inr ⟨r, hr, hsame ▸ houtline⟩)

/-- A new event is none of those there. -/
theorem AddsEvent.ne (h : AddsEvent e st st') (hinv : CareerInv st)
    (he' : e' ∈ st.subjects.events) : e'.id ≠ e.id := h.id ▸ (hinv.fresh e' he').ne

/-- The runs about the events that were there. -/
theorem AddsEvent.mem_outline (h : AddsEvent e st st') (hinv : CareerInv st)
    (he' : e' ∈ st.subjects.events) {r : RunOutline} (hr : r.subject = e'.subject) :
    r ∈ st'.db.outline ↔ r ∈ st.db.outline := by
  rcases h.outline with hsame | ⟨r', hr', hmore⟩
  · rw [hsame]
  · rw [hmore, List.mem_append, List.mem_singleton]
    refine or_iff_left (fun heq => h.ne hinv he' ?_)
    exact congrArg ContentObject.objectId (hr.symm.trans (heq ▸ hr'))

theorem CareerInv.adds (hinv : CareerInv st) (h : AddsEvent e st st') : CareerInv st' where
  engine := h.engine
  unique := by
    rw [h.events]
    exact hinv.unique.append_one (fun e' he' => h.ne hinv he')
  fresh e' he' := by
    rw [h.nextId]
    rcases List.mem_append.mp (h.events ▸ he') with he' | he'
    · exact Nat.lt_succ_of_lt (hinv.fresh e' he')
    · rw [List.mem_singleton.mp he', h.id]
      exact Nat.lt_succ_self _
  employed e' he' := by
    rw [h.employees]
    rcases List.mem_append.mp (h.events ▸ he') with he' | he'
    · exact hinv.employed e' he'
    · exact List.mem_singleton.mp he' ▸ h.employed
  runs r hr := by
    rw [h.nextId]
    rcases h.outline with hsame | ⟨r', hr', hmore⟩
    · exact Nat.lt_succ_of_lt (hinv.runs r (hsame ▸ hr))
    · rcases List.mem_append.mp (hmore ▸ hr) with hr | hr
      · exact Nat.lt_succ_of_lt (hinv.runs r hr)
      · rw [List.mem_singleton.mp hr, hr']
        show e.id < _
        exact h.id ▸ Nat.lt_succ_self _
  logged entry hentry := by
    rw [h.nextId]
    rcases List.mem_append.mp (h.auditLog ▸ hentry) with hentry | hentry
    · exact Nat.lt_succ_of_lt (hinv.logged entry hentry)
    · rw [List.mem_singleton.mp hentry]
      exact h.id ▸ Nat.lt_succ_self _

/-- **A new event** was not applied, and no other was. -/
theorem AddsEvent.applied (h : AddsEvent e st st') (id : CareerEventId) :
    st'.subjects.applied id = st.subjects.applied id := by
  have hlog : st'.subjects.applied id = (st.subjects.log .created e.id).applied id := by
    unfold CareerTables.applied CareerTables.log
    rw [h.auditLog]
  exact hlog.trans (applied_log_of_ne (by decide) e.id id)

theorem Orderly.adds (h : Orderly st) (hinv : CareerInv st) (hadds : AddsEvent e st st') :
    Orderly st' ∧ Keeps st st' := by
  have hnone : st.subjects.applied e.id = 0 := by
    refine List.length_eq_zero_iff.mpr (List.filter_eq_nil_iff.mpr (fun entry hentry heq => ?_))
    have hid : entry.2 = e.id := congrArg Prod.snd (of_decide_eq_true heq)
    exact absurd (hinv.logged entry hentry) (hid ▸ hadds.id ▸ lt_irrefl _)
  refine ⟨⟨⟨fun e' he' hstatus => ?_, fun e' he' => ?_⟩, fun e' he' hpos => ?_⟩,
    fun e' he' => ?_, fun e₀ he₀ hterminal e' he' hid => ?_⟩
  · rcases List.mem_append.mp (hadds.events ▸ he') with he' | he'
    · obtain ⟨⟨r, hr, hrs⟩, hall⟩ := h.effective e' he' hstatus
      refine ⟨⟨r, (hadds.mem_outline hinv he' hrs).mpr hr, hrs⟩, fun r' hr' hrs' => ?_⟩
      exact hall r' ((hadds.mem_outline hinv he' hrs').mp hr') hrs'
    · rw [List.mem_singleton.mp he', hadds.status] at hstatus
      cases hstatus
  · rw [hadds.applied]
    rcases List.mem_append.mp (hadds.events ▸ he') with he' | he'
    · exact h.once e' he'
    · rw [List.mem_singleton.mp he', hnone]
      exact Nat.zero_le 1
  · rw [hadds.applied] at hpos
    rcases List.mem_append.mp (hadds.events ▸ he') with he' | he'
    · exact h.ended e' he' hpos
    · rw [List.mem_singleton.mp he', hnone] at hpos
      exact absurd hpos (lt_irrefl 0)
  · exact ⟨e', hadds.events ▸ List.mem_append_left _ he', rfl⟩
  · rcases List.mem_append.mp (hadds.events ▸ he') with he' | he'
    · obtain rfl := hinv.unique.eq_of_key he' he₀ hid
      exact ⟨hterminal, id⟩
    · rw [List.mem_singleton.mp he'] at hid
      exact absurd hid.symm (hadds.ne hinv he₀)

/-! ## Every request -/

theorem careerStep_inv (q : QueryOrder) (user : EmployeeId → UserId) (hinv : CareerInv st)
    (op : CareerOp) : CareerInv (careerStep q user st op)
      ∧ (Orderly st → Guarded st op →
        Orderly (careerStep q user st op) ∧ Keeps st (careerStep q user st op)) := by
  have hquiet : CareerInv st ∧ (Orderly st → Guarded st op → Orderly st ∧ Keeps st st) :=
    ⟨hinv, fun h _ => ⟨h, Keeps.of_events hinv rfl⟩⟩
  cases op with
  | createTransferEvent dir choice employee toDepartment toLocation toDesignation effectiveDate
      requestedBy =>
    simp only [careerStep]
    cases hemployee : st.subjects.getEmployee employee with
    | none => exact hquiet
    | some m =>
      have hadds : AddsEvent _ st (Employees.createTransferEvent user dir choice m toDepartment
          toLocation toDesignation effectiveDate requestedBy st) :=
        addsEvent_createEvent hinv (Table.find_mem hemployee) choice _ effectiveDate requestedBy
      exact ⟨hinv.adds hadds, fun h _ => h.adds hinv hadds⟩
  | createPromotionEvent dir choice employee toDesignation revisedCompensation effectiveDate
      requestedBy =>
    simp only [careerStep]
    cases hemployee : st.subjects.getEmployee employee with
    | none => exact hquiet
    | some m =>
      have hadds : AddsEvent _ st (Employees.createPromotionEvent user dir choice m toDesignation
          revisedCompensation effectiveDate requestedBy st) :=
        addsEvent_createEvent hinv (Table.find_mem hemployee) choice _ effectiveDate requestedBy
      exact ⟨hinv.adds hadds, fun h _ => h.adds hinv hadds⟩
  | approveAction dir action actor comment =>
    simp only [careerStep]
    cases hok : Approvals.approveAction careerHandler user dir action actor comment st with
    | error message => exact hquiet
    | ok st' => exact approveAction_keeps hinv hok
  | rejectAction dir action actor comment =>
    simp only [careerStep]
    cases hok : Approvals.rejectAction careerHandler dir action actor comment st with
    | error message => exact hquiet
    | ok st' =>
      obtain ⟨hinv', hkeeps⟩ := rejectAction_keeps hinv hok
      exact ⟨hinv', fun h _ => hkeeps h⟩
  | patch event request =>
    simp only [careerStep]
    cases hevent : st.subjects.getEvent event with
    | none => exact hquiet
    | some e =>
      obtain rfl : e.id = event := Table.find_key hevent
      show CareerInv { st with subjects := settle st.subjects (patchEvent q e st.subjects request) }
        ∧ (_ → _ → Orderly { st with
          subjects := settle st.subjects (patchEvent q e st.subjects request) } ∧ Keeps st { st with
            subjects := settle st.subjects (patchEvent q e st.subjects request) })
      cases hok : patchEvent q e st.subjects request with
      | error message => exact hquiet
      | ok t' => exact patchEvent_keeps hinv (Table.find_mem hevent) hok

/-- **A request that keeps the gate is guarded.** -/
theorem guarded_of_kept (q : QueryOrder) (user : EmployeeId → UserId) (hinv : CareerInv st)
    (op : CareerOp) (hgated : Gated (careerStep q user st op))
    (hnever : NeverAgain st (careerStep q user st op)) : Guarded st op := by
  cases op with
  | createTransferEvent dir choice employee toDepartment toLocation toDesignation effectiveDate
      requestedBy => trivial
  | createPromotionEvent dir choice employee toDesignation revisedCompensation effectiveDate
      requestedBy => trivial
  | approveAction dir action actor comment =>
    intro e he hdecided hterminal
    have htakes : careerHandler.applySubjectStatus e.subject .approved "" st.subjects = .ok _ := rfl
    obtain ⟨st', hok, hsubjects⟩ : ∃ st', Approvals.approveAction careerHandler user dir action
        actor comment st = .ok st' ∧ _ := approveAction_of_decidedSubject hdecided htakes
    simp only [careerStep] at hnever
    rw [hok] at hnever
    have hmem : e.handleApprovalStatusChange .approved "" ∈ st'.subjects.events := by
      rw [hsubjects]
      exact Table.mem_update_iff.mpr (Or.inl ⟨e, he, decide_eq_true rfl, rfl⟩)
    exact (hnever e he hterminal _ hmem rfl).1 rfl
  | rejectAction dir action actor comment => trivial
  | patch event request =>
    have hfound : ∀ e ∈ st.subjects.events, e.id = event → st.subjects.getEvent event = some e :=
      fun e he hid => (Table.find_eq_some_iff hinv.unique).mpr ⟨he, hid⟩
    cases request with
    | approve approvedBy notes =>
      intro e he hid hterminal
      simp only [careerStep] at hnever
      rw [hfound e he hid] at hnever
      have hmem : ∃ e' ∈ (approveEvent e approvedBy notes st.subjects).events,
          e'.id = e.id ∧ e'.status = .approved :=
        ⟨_, Table.mem_save_self he rfl, rfl, rfl⟩
      obtain ⟨e', he', hid', hstatus⟩ := hmem
      exact (hnever e he hterminal e' he' hid').1 hstatus
    | apply today now =>
      intro e he hid hstatus hdate
      simp only [careerStep] at hgated
      rw [hfound e he hid] at hgated
      obtain ⟨t', hok⟩ : ∃ t', patchEvent q e st.subjects (.apply today now) = .ok t' := by
        have hcheck : ∀ kind label : String, checkApplicable kind label e today = .ok () := by
          intro kind label
          unfold checkApplicable
          rw [if_neg (not_not.mpr hstatus), if_neg (not_lt.mpr hdate)]
        obtain ⟨m, hm, hid⟩ := hinv.employed e he
        simp only [patchEvent]
        cases hemployee : st.subjects.getEmployee e.employee with
        | none => exact absurd hid (Table.find_eq_none_iff.mp hemployee m hm)
        | some employee =>
          cases e.change with
          | transfer toDepartment toLocation toDesignation =>
            exact ⟨_, bind_eq_ok_iff.mpr ⟨(), hcheck "Transfer" "transfer", rfl⟩⟩
          | promotion toDesignation revisedCompensation =>
            exact ⟨_, bind_eq_ok_iff.mpr ⟨(), hcheck "Promotion" "promotion", rfl⟩⟩
      obtain ⟨-, -, e', hsubject, -, heffective, hevents, -⟩ := patchEvent_apply_eq_ok hok
      have hgated' : Gated { st with subjects := t' } := by
        have hstep : settle st.subjects (patchEvent q e st.subjects (.apply today now)) = t' := by
          rw [hok]
          rfl
        exact hstep ▸ hgated
      have hmem : e' ∈ t'.events := by
        rw [hevents]
        exact Table.mem_save_self he (congrArg ContentObject.objectId hsubject).symm
      have happroved := hgated'.effective e' hmem heffective
      unfold RunApproved at happroved ⊢
      rwa [hsubject] at happroved
    | reject notes => trivial
    | cancel => trivial

end

theorem careerInv_initial (stages : StageTable) (employees : List CareerEmployee)
    (assignments : List AssignmentRow) :
    CareerInv (EngineState.initial stages (CareerTables.initial employees assignments)) where
  engine := inv_initial stages _
  unique := List.nodup_nil
  fresh _ he := absurd he List.not_mem_nil
  employed _ he := absurd he List.not_mem_nil
  runs _ hr := absurd hr List.not_mem_nil
  logged _ h := absurd h List.not_mem_nil

theorem orderly_initial (stages : StageTable) (employees : List CareerEmployee)
    (assignments : List AssignmentRow) :
    Orderly (EngineState.initial stages (CareerTables.initial employees assignments)) :=
  ⟨⟨fun _ he => absurd he List.not_mem_nil, fun _ he => absurd he List.not_mem_nil⟩,
    fun _ he => absurd he List.not_mem_nil⟩

/-- **The gate of transfers and promotions** holds in every state of a run, and
between any two of them, exactly when every request of the run is guarded. -/
theorem gated_iff_guarded (q : QueryOrder) (user : EmployeeId → UserId) (stages : StageTable)
    (employees : List CareerEmployee) (assignments : List AssignmentRow)
    (ops : List CareerOp) :
    (∀ i j, i ≤ j →
      Gated (Run.exec (careerStep q user)
        (.initial stages (.initial employees assignments)) (ops.take j))
      ∧ NeverAgain
        (Run.exec (careerStep q user)
          (.initial stages (.initial employees assignments)) (ops.take i))
        (Run.exec (careerStep q user)
          (.initial stages (.initial employees assignments)) (ops.take j)))
      ↔ Run.Along (careerStep q user) Guarded
        (.initial stages (.initial employees assignments)) ops := by
  have hinv := careerInv_initial stages employees assignments
  have horderly := orderly_initial stages employees assignments
  constructor
  · intro h
    have hsteps : Run.Along (careerStep q user)
        (fun st op => Gated (careerStep q user st op)
          ∧ NeverAgain st (careerStep q user st op))
        (.initial stages (.initial employees assignments)) ops :=
      Run.along_of_forall_take (R := fun s t : CareerState => Gated t ∧ NeverAgain s t) h
    exact hsteps.of_invariant (I := fun s : CareerState => CareerInv s)
      (fun _ op hI _ => (careerStep_inv q user hI op).1)
      (fun _ op hI hkept => guarded_of_kept q user hI op hkept.1 hkept.2) hinv
  · intro hops i j hij
    -- both invariants, and what guarded requests keep, from any state on
    have hrelated : ∀ {i j : ℕ}, i ≤ j →
        (CareerInv (Run.exec (careerStep q user) _ (ops.take i))
          ∧ Orderly (Run.exec (careerStep q user) _ (ops.take i))) →
        (CareerInv (Run.exec (careerStep q user) _ (ops.take j))
          ∧ Orderly (Run.exec (careerStep q user) _ (ops.take j)))
          ∧ Keeps (Run.exec (careerStep q user) _ (ops.take i))
            (Run.exec (careerStep q user) _ (ops.take j)) := fun hij =>
      Run.related_take (I := fun s : CareerState => CareerInv s ∧ Orderly s)
        (R := fun s t : CareerState =>
          CareerInv s ∧ Orderly s → (CareerInv t ∧ Orderly t) ∧ Keeps s t)
        (fun _ h => ⟨h, Keeps.of_events h.1 rfl⟩)
        (fun _ _ _ hst htu h => ⟨(htu (hst h).1).1, (hst h).2.trans (htu (hst h).1).2⟩)
        (fun _ op h hguard => by
          obtain ⟨hinv', hkeeps⟩ := careerStep_inv q user h.1 op
          obtain ⟨horderly', hkept⟩ := hkeeps h.2 hguard
          exact ⟨⟨hinv', horderly'⟩, fun _ => ⟨⟨hinv', horderly'⟩, hkept⟩⟩)
        ⟨hinv, horderly⟩ hops hij
    have hi := (hrelated (Nat.zero_le i) ⟨hinv, horderly⟩).1
    obtain ⟨hj, hkeeps⟩ := hrelated hij hi
    exact ⟨hj.2.toGated, hkeeps.neverAgain⟩

/-! ## A transfer that is cancelled while its approval waits -/

namespace CareerSample

def noStages : StageTable where
  rows := []
  uniqueId := by decide
  uniqueSequence := by decide

/-- Employee 1, who reports to employee 2. -/
def employee : CareerEmployee where
  id := 1
  organisation := 1
  position := { department := some 3, officeLocation := none, designationRef := none }
  designation := "Analyst"
  reportingTo := some 2

def noWorkflow : WorkflowChoice where
  resolved := none
  hasDefault := false
  newWorkflow := 1
  newStage := 1
  newApprover := 1

/-- The transfer is asked for and cancelled, and then the manager approves it. -/
def transfer : List CareerOp :=
  [.createTransferEvent (Approvals.Sample.directory 0) noWorkflow 1 (some 4) none none
      ⟨2026, 5, 1, isDate_2026_05_01⟩ (some 200),
    .patch 0 .cancel,
    .approveAction (Approvals.Sample.directory 9) 1 102 ""]

def reached (n : ℕ) : CareerState :=
  Run.exec (careerStep .stable Approvals.Sample.user)
    (.initial noStages (.initial [employee] [])) (transfer.take n)

def event (status : CareerEventStatus) : CareerEvent where
  id := 0
  employee := 1
  fromPosition := employee.position
  change := .transfer (some 4) none none
  effectiveDate := ⟨2026, 5, 1, isDate_2026_05_01⟩
  status := status
  requestedBy := some 200
  approvedBy := none
  notes := ""

end CareerSample

open CareerSample in
/-- **A cancelled transfer is approved**: its run was still waiting. -/
theorem approved_after_cancellation :
    ¬ ∀ i j, i ≤ j → Gated (reached j) ∧ NeverAgain (reached i) (reached j) := by
  intro h
  have hcancelled : event .cancelled ∈ (reached 2).subjects.events := by decide
  have happroved : event .approved ∈ (reached 3).subjects.events := by decide
  exact ((h 2 3 (by decide)).2 _ hcancelled (by decide) _ happroved rfl).1 rfl

end Employees
