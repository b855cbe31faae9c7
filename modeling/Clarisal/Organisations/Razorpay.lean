import Clarisal.Organisations.Webhooks

/-!
# A captured payment and its redeliveries

An event of the gateway is recorded before it is processed, and an event that
is on record is not processed again. The record is committed on its own: when
marking the batch paid raises, the batch is rolled back and the record stays,
so the next delivery returns without a word. A captured payment that is
delivered until it is accepted pays its batch exactly when the first delivery
gets as far as the commit of `mark_licence_batch_paid`
(`paid_iff_firstCommits`).
-/

open Calendar Approvals Transaction

namespace Organisations

inductive OrganisationBillingEventStatus
  | received | processed | ignored | failed
deriving DecidableEq, Repr

structure OrganisationBillingEvent where
  providerEventId : String
  organisation : OrganisationId
  licenceBatch : LicenceBatchId
  provider : OrganisationBillingProvider
  eventType : String
  providerPaymentId : String
  invoiceReference : String
  status : OrganisationBillingEventStatus
deriving DecidableEq, Repr

/-- What the webhook reads of a delivery's body. -/
structure RazorpayPayload where
  event : String
  /-- The `id` of the payload, or else its `created_at`. -/
  id : String
  /-- The day of `created_at`, when it is given. -/
  createdOn : Option Date
  paymentId : String
  invoiceId : String
  /-- The notes of the payment. -/
  organisationId : Option OrganisationId
  licenceBatchId : Option LicenceBatchId
  invoiceNote : String
deriving DecidableEq, Repr

def RazorpayPayload.invoiceReference (payload : RazorpayPayload) : String :=
  if payload.invoiceId = "" then payload.invoiceNote else payload.invoiceId

def RazorpayPayload.providerEventId (payload : RazorpayPayload) : String :=
  payload.event ++ ":" ++ if payload.paymentId = "" then payload.id else payload.paymentId

/-- The event is one of a payment that arrived. -/
def RazorpayPayload.isCapture (payload : RazorpayPayload) : Bool :=
  payload.event = "payment.captured" ∨ payload.event = "order.paid"

/-- The billing tables and the events on record. -/
structure RazorpayTables where
  billing : BillingTables
  events : List OrganisationBillingEvent
deriving DecidableEq, Repr

namespace RazorpayTables

def getEvent (s : RazorpayTables) (providerEventId : String) : Option OrganisationBillingEvent :=
  Table.find OrganisationBillingEvent.providerEventId providerEventId s.events

def saveEvent (s : RazorpayTables) (event : OrganisationBillingEvent) : RazorpayTables :=
  { s with events := Table.save OrganisationBillingEvent.providerEventId event s.events }

end RazorpayTables

/-! ## Marking a batch paid, step by step -/

/-- **Where `mark_licence_batch_paid` may raise**: at a write of its
transaction or a call in it, at the commit, and at the audit log after it. -/
inductive MarkPoint
  | saveBatch | transitionOrganisationState | inviteBootstrapAdmin | commit | logAuditEvent
deriving DecidableEq, Repr

/-- What is raised where, in one call. -/
abbrev Faults := MarkPoint → Option String

/-- A point is passed when nothing is raised there. -/
def Faults.pass (faults : Faults) (point : MarkPoint) : Except String Unit :=
  match faults point with
  | none => .ok ()
  | some e => .error e

/-- The transaction of `mark_licence_batch_paid`. -/
def markTransaction (faults : Faults) (details : PaymentDetails)
    (batch : OrganisationLicenceBatch) (t : BillingTables) : Except String BillingTables := do
  faults.pass .saveBatch
  let t := t.saveBatch (batch.paidWith details)
  match t.getOrganisation batch.organisation with
  | none => .error "Organisation matching query does not exist."
  | some org =>
    if org.status = .pending then
      faults.pass .transitionOrganisationState
      let org ← Organisations.transitionOrganisationState org .paid
      faults.pass .inviteBootstrapAdmin
      let org ← Organisations.inviteBootstrapAdmin none org
      faults.pass .commit
      return t.saveOrganisation org
    else
      faults.pass .commit
      return t

/-- **Mark a batch paid**: the tables it leaves, and what it raises. A
transaction that raises leaves the tables as they were, the audit log after it
does not. -/
def markLicenceBatchPaidWith (faults : Faults) (details : PaymentDetails)
    (batch : OrganisationLicenceBatch) (t : BillingTables) : BillingTables × Option String :=
  if batch.paymentStatus ≠ .draft then (t, some "Licence batch is already marked as paid.")
  else
    match markTransaction faults details batch t with
    | .error e => (t, some e)
    | .ok t' => (t', faults .logAuditEvent)

/-! ## A delivery -/

/-- The record of an event that was not processed yet. -/
def RazorpayPayload.received (payload : RazorpayPayload) (organisation : OrganisationId)
    (batch : LicenceBatchId) : OrganisationBillingEvent where
  providerEventId := payload.providerEventId
  organisation := organisation
  licenceBatch := batch
  provider := .razorpay
  eventType := payload.event
  providerPaymentId := payload.paymentId
  invoiceReference := payload.invoiceReference
  status := .received

/-- The payment a capture is marked with. -/
def RazorpayPayload.details (payload : RazorpayPayload) (today : Date) : PaymentDetails where
  paidAt := payload.createdOn.getD today
  paymentProvider := some .razorpay
  paymentReference := payload.paymentId
  invoiceReference := payload.invoiceReference

/-- **Process a delivery**: the tables it leaves, and what it raises. -/
def processRazorpayWebhook (signatureValid : Bool) (payload : RazorpayPayload) (today : Date)
    (faults : Faults) (s : RazorpayTables) : RazorpayTables × Option String :=
  if signatureValid = false then (s, some "Invalid Razorpay signature.")
  else
    match payload.organisationId, payload.licenceBatchId with
    | some organisationId, some batchId =>
      match s.billing.getOrganisation organisationId with
      | none => (s, some "Organisation matching query does not exist.")
      | some organisation =>
        match (s.billing.getBatch batchId).filter (fun b => b.organisation = organisation.id) with
        | none => (s, some "OrganisationLicenceBatch matching query does not exist.")
        | some batch =>
          match s.getEvent payload.providerEventId with
          | some _ => (s, none)
          | none =>
            -- the record is committed before the event is processed
            let event := payload.received organisation.id batch.id
            let s := { s with events := s.events ++ [event] }
            if payload.isCapture then
              if batch.paymentStatus = .draft then
                match markLicenceBatchPaidWith faults (payload.details today) batch s.billing with
                | (t, some e) => ({ s with billing := t }, some e)
                | (t, none) =>
                  ({ s with billing := t }.saveEvent { event with status := .processed }, none)
              else (s.saveEvent { event with status := .processed }, none)
            else (s.saveEvent { event with status := .ignored }, none)
    | _, _ =>
      (s, some "Razorpay payload must include organisation_id and licence_batch_id notes.")

/-- A delivery of an event: the day it arrives, and what marking the batch
raises where. -/
structure Redelivery where
  today : Date
  faults : Faults

/-- The state after a delivery. -/
def redeliver (payload : RazorpayPayload) (s : RazorpayTables) (d : Redelivery) :
    RazorpayTables :=
  (processRazorpayWebhook true payload d.today d.faults s).1

/-- **The event is delivered until a delivery returns**: every delivery but the
last one raises. -/
def UntilReturned (payload : RazorpayPayload) : RazorpayTables → List Redelivery → Prop
  | _, [] => False
  | s, d :: ds =>
    if (processRazorpayWebhook true payload d.today d.faults s).2 = none then ds = []
    else UntilReturned payload (redeliver payload s d) ds

instance decidableUntilReturned (payload : RazorpayPayload) :
    ∀ (s : RazorpayTables) (ds : List Redelivery), Decidable (UntilReturned payload s ds)
  | _, [] => instDecidableFalse
  | s, d :: ds =>
    have := decidableUntilReturned payload (redeliver payload s d) ds
    inferInstanceAs (Decidable
      (if (processRazorpayWebhook true payload d.today d.faults s).2 = none then ds = []
        else UntilReturned payload (redeliver payload s d) ds))

/-- **A captured payment of a draft batch**, not on record yet. -/
structure CapturedDraft (payload : RazorpayPayload) (s : RazorpayTables)
    (b : OrganisationLicenceBatch) (org : Organisation) : Prop where
  capture : payload.isCapture = true
  organisationId : payload.organisationId = some org.id
  organisation : s.billing.getOrganisation org.id = some org
  batchId : payload.licenceBatchId = some b.id
  batch : s.billing.getBatch b.id = some b
  own : b.organisation = org.id
  draft : b.paymentStatus = .draft
  unrecorded : s.getEvent payload.providerEventId = none

/-- **Nothing is raised before the transaction commits.** What marks a pending
organisation paid is reached for a pending one only. -/
def Faults.commits (faults : Faults) (org : Organisation) : Bool :=
  faults .saveBatch = none
    ∧ (org.status = .pending →
      faults .transitionOrganisationState = none ∧ faults .inviteBootstrapAdmin = none)
    ∧ faults .commit = none

/-- The first delivery gets as far as the commit. -/
def FirstCommits (org : Organisation) (ds : List Redelivery) : Prop :=
  ∀ d ∈ ds.head?, d.faults.commits org = true

section

variable {payload : RazorpayPayload} {s : RazorpayTables} {t : BillingTables}
  {b : OrganisationLicenceBatch} {org : Organisation} {d : Redelivery} {ds : List Redelivery}
  {faults : Faults} {details : PaymentDetails}

theorem pass_of_none {point : MarkPoint} (h : faults point = none) :
    faults.pass point = .ok () := by
  rw [Faults.pass, h]

theorem pass_eq_ok {point : MarkPoint} {u : Unit} (h : faults.pass point = .ok u) :
    faults point = none := by
  unfold Faults.pass at h
  split at h
  · next hnone => exact hnone
  · cases h

/-- Inviting the administrator is never refused. -/
theorem inviteBootstrapAdmin_none (org : Organisation) :
    ∃ org', inviteBootstrapAdmin none org = .ok org' := by
  unfold inviteBootstrapAdmin
  split <;> exact ⟨_, rfl⟩

theorem transitionOrganisationState_paid (hpending : org.status = .pending) :
    ∃ org', transitionOrganisationState org .paid = .ok org' := by
  rw [transitionOrganisationState, if_pos (by rw [hpending]; decide)]
  exact ⟨_, rfl⟩

/-! ## The transaction -/

/-- The tables a transaction commits are those of `mark_licence_batch_paid`. -/
theorem markTransaction_none (hkeys : Table.Unique Organisation.id t.organisations)
    (hdraft : b.paymentStatus = .draft) :
    markTransaction (fun _ => none) details b t = markLicenceBatchPaid none details b t := by
  have hpass : ∀ point, Faults.pass (fun _ => none) point = .ok () := fun _ => rfl
  rw [markLicenceBatchPaid, if_neg (not_not.mpr hdraft), markTransaction, hpass]
  show (match t.getOrganisation b.organisation with
    | none => _
    | some org => _) = _
  cases horg : t.getOrganisation b.organisation with
  | none => rfl
  | some org =>
    by_cases hpending : org.status = .pending
    · simp only [hpass, confirmPayment, if_pos hpending]
      cases transitionOrganisationState org .paid <;> rfl
    · have hsame : (t.saveBatch (b.paidWith details)).saveOrganisation org
          = t.saveBatch (b.paidWith details) := by
        rw [BillingTables.saveOrganisation]
        exact congrArg (fun organisations =>
          { t.saveBatch (b.paidWith details) with organisations := organisations })
          (Table.save_eq_self hkeys (Table.find_mem horg))
      simp only [hpass, confirmPayment, if_neg hpending]
      exact congrArg Except.ok hsame.symm

/-- **A transaction that commits** passed every point it reached, and its batch
is paid. -/
theorem markTransaction_eq_ok {t' : BillingTables} (hb : t.getBatch b.id = some b)
    (horg : t.getOrganisation b.organisation = some org)
    (h : markTransaction faults details b t = .ok t') :
    faults.commits org = true ∧ t'.batchStatus b.id = some .paid := by
  obtain ⟨_, hsave, h⟩ := bind_eq_ok_iff.mp h
  have hsaved : (t.saveBatch (b.paidWith details)).getOrganisation b.organisation = some org :=
    horg
  have hbatch : (t.saveBatch (b.paidWith details)).batchStatus b.id = some .paid :=
    congrArg (Option.map OrganisationLicenceBatch.paymentStatus)
      (getBatch_saveBatch (b.paidWith details) hb)
  simp only [hsaved] at h
  split at h
  · next hpending =>
    obtain ⟨_, htransition, h⟩ := bind_eq_ok_iff.mp h
    obtain ⟨org₁, -, h⟩ := bind_eq_ok_iff.mp h
    obtain ⟨_, hinvite, h⟩ := bind_eq_ok_iff.mp h
    obtain ⟨org₂, -, h⟩ := bind_eq_ok_iff.mp h
    obtain ⟨_, hcommit, h⟩ := bind_eq_ok_iff.mp h
    cases h
    exact ⟨decide_eq_true ⟨pass_eq_ok hsave,
      fun _ => ⟨pass_eq_ok htransition, pass_eq_ok hinvite⟩, pass_eq_ok hcommit⟩, hbatch⟩
  · next hpending =>
    obtain ⟨_, hcommit, h⟩ := bind_eq_ok_iff.mp h
    cases h
    exact ⟨decide_eq_true ⟨pass_eq_ok hsave, fun hp => absurd hp hpending,
      pass_eq_ok hcommit⟩, hbatch⟩

variable (details) in
/-- **Nothing raised, it commits.** -/
theorem markTransaction_of_commits (horg : t.getOrganisation b.organisation = some org)
    (h : faults.commits org = true) : ∃ t', markTransaction faults details b t = .ok t' := by
  obtain ⟨hsave, hpoints, hcommit⟩ := of_decide_eq_true h
  have hsaved : (t.saveBatch (b.paidWith details)).getOrganisation b.organisation = some org :=
    horg
  unfold markTransaction
  simp only [pass_of_none hsave, pass_of_none hcommit, hsaved]
  by_cases hpending : org.status = .pending
  · obtain ⟨htransition, hinvite⟩ := hpoints hpending
    obtain ⟨org₁, horg₁⟩ := transitionOrganisationState_paid hpending
    obtain ⟨org₂, horg₂⟩ := inviteBootstrapAdmin_none org₁
    simp only [if_pos hpending, pass_of_none htransition, pass_of_none hinvite, horg₁]
    exact ⟨_, bind_eq_ok_iff.mpr ⟨(), rfl, bind_eq_ok_iff.mpr ⟨(), rfl, bind_eq_ok_iff.mpr
      ⟨org₁, rfl, bind_eq_ok_iff.mpr ⟨(), rfl, bind_eq_ok_iff.mpr ⟨org₂, horg₂, rfl⟩⟩⟩⟩⟩⟩
  · rw [if_neg hpending]
    exact ⟨_, rfl⟩

/-! ## The deliveries -/

/-- An event on record is not processed again. -/
theorem redeliver_of_recorded {event : OrganisationBillingEvent}
    (h : s.getEvent payload.providerEventId = some event) (d : Redelivery) :
    redeliver payload s d = s := by
  unfold redeliver processRazorpayWebhook
  simp only [Bool.true_eq_false, if_false]
  split
  · split
    · rfl
    · split
      · rfl
      · rw [h]
  · rfl

theorem exec_of_recorded {event : OrganisationBillingEvent}
    (h : s.getEvent payload.providerEventId = some event) (ds : List Redelivery) :
    Run.exec (redeliver payload) s ds = s := by
  induction ds with
  | nil => rfl
  | cons d ds ih => rw [Run.exec_cons, redeliver_of_recorded h, ih]

theorem getEvent_saveEvent {old : OrganisationBillingEvent}
    (event : OrganisationBillingEvent) (h : s.getEvent event.providerEventId = some old) :
    (s.saveEvent event).getEvent event.providerEventId = some event :=
  Table.find_save_self h

/-- The record of a new event is found. -/
theorem getEvent_append (event : OrganisationBillingEvent)
    (h : s.getEvent event.providerEventId = none) (billing : BillingTables) :
    RazorpayTables.getEvent { billing := billing, events := s.events ++ [event] }
      event.providerEventId = some event := by
  have hnone : s.events.find? (fun e => decide (e.providerEventId = event.providerEventId))
      = none := h
  simp [RazorpayTables.getEvent, Table.find, List.find?_append, hnone]

/-- **The first delivery** puts the event on record, and pays the batch when it
gets as far as the commit. -/
theorem CapturedDraft.redeliver_first (h : CapturedDraft payload s b org) (d : Redelivery) :
    (∃ event, (redeliver payload s d).getEvent payload.providerEventId = some event)
      ∧ ((redeliver payload s d).billing.batchStatus b.id = some .paid
        ↔ d.faults.commits org = true) := by
  have horg : s.billing.getOrganisation b.organisation = some org := h.own ▸ h.organisation
  have hrecord := getEvent_append (payload.received org.id b.id) h.unrecorded
  have hbatch : (s.billing.getBatch b.id).filter (fun c => c.organisation = org.id) = some b := by
    simp [h.batch, h.own]
  have hdraft : ¬ s.billing.batchStatus b.id = some .paid := by
    simp [BillingTables.batchStatus, h.batch, h.draft]
  unfold redeliver processRazorpayWebhook
  simp only [Bool.true_eq_false, if_false, h.organisationId, h.batchId, h.organisation, hbatch,
    h.unrecorded, h.capture, h.draft, if_true]
  cases htransaction : markTransaction d.faults (payload.details d.today) b s.billing with
  | error e =>
    have hmark : markLicenceBatchPaidWith d.faults (payload.details d.today) b s.billing
        = (s.billing, some e) := by
      rw [markLicenceBatchPaidWith, if_neg (not_not.mpr h.draft), htransaction]
    rw [hmark]
    refine ⟨⟨_, hrecord _⟩, iff_of_false hdraft (fun hcommits => ?_)⟩
    obtain ⟨t', ht'⟩ := markTransaction_of_commits (payload.details d.today) horg hcommits
    rw [htransaction] at ht'
    cases ht'
  | ok t' =>
    have hmark : markLicenceBatchPaidWith d.faults (payload.details d.today) b s.billing
        = (t', d.faults .logAuditEvent) := by
      rw [markLicenceBatchPaidWith, if_neg (not_not.mpr h.draft), htransaction]
    obtain ⟨hcommits, hpaid⟩ := markTransaction_eq_ok h.batch horg htransaction
    rw [hmark]
    cases d.faults .logAuditEvent with
    | some e => exact ⟨⟨_, hrecord _⟩, iff_of_true hpaid hcommits⟩
    | none =>
      let processed := { payload.received org.id b.id with status := .processed }
      exact ⟨⟨processed, getEvent_saveEvent processed (hrecord t')⟩,
        iff_of_true hpaid hcommits⟩

/-- **The batch ends paid** exactly when the first delivery commits. -/
theorem CapturedDraft.exec_redeliver (h : CapturedDraft payload s b org) :
    (Run.exec (redeliver payload) s (d :: ds)).billing.batchStatus b.id = some .paid
      ↔ d.faults.commits org = true := by
  obtain ⟨⟨event, hevent⟩, hpaid⟩ := h.redeliver_first d
  rw [Run.exec_cons, exec_of_recorded hevent, hpaid]

end

/-- **A captured payment that is delivered until a delivery returns** pays its
batch exactly when nothing was raised in the first delivery before
`mark_licence_batch_paid` committed. -/
theorem paid_iff_firstCommits {payload : RazorpayPayload} {s : RazorpayTables}
    {b : OrganisationLicenceBatch} {org : Organisation} (h : CapturedDraft payload s b org)
    {ds : List Redelivery} (hds : UntilReturned payload s ds) :
    (Run.exec (redeliver payload) s ds).billing.batchStatus b.id = some .paid
      ↔ FirstCommits org ds := by
  cases ds with
  | nil => exact hds.elim
  | cons d ds =>
    rw [h.exec_redeliver, FirstCommits]
    simp

/-! ## A captured payment whose first delivery fails

The batch of an organisation is captured through the gateway. -/

namespace Sample

def payload : RazorpayPayload where
  event := "payment.captured"
  id := "evt_1"
  createdOn := none
  paymentId := "pay_1"
  invoiceId := ""
  organisationId := some 1
  licenceBatchId := some 0
  invoiceNote := ""

def unrecorded : RazorpayTables := { billing := ordered, events := [] }

/-- A delivery in which a point is not passed. -/
def failingAt (point : MarkPoint) : Redelivery where
  today := ⟨2026, 5, 2, isDate_2026_05_02⟩
  faults := fun reached => if reached = point then some "database is down" else none

def undisturbed : Redelivery where
  today := ⟨2026, 5, 3, by decide⟩
  faults := fun _ => none

theorem capturedDraft_unrecorded : CapturedDraft payload unrecorded orderedBatch organisation where
  capture := by decide
  organisationId := rfl
  organisation := openOrder_ordered.organisation
  batchId := rfl
  batch := openOrder_ordered.batch
  own := rfl
  draft := rfl
  unrecorded := rfl

end Sample

/-- A delivery that raises after the commit loses nothing. -/
theorem paid_iff_firstCommits_sample :
    (Run.exec (redeliver Sample.payload) Sample.unrecorded
        [Sample.failingAt .logAuditEvent, Sample.undisturbed]).billing.batchStatus 0 = some .paid
      ↔ FirstCommits Sample.organisation [Sample.failingAt .logAuditEvent, Sample.undisturbed] :=
  paid_iff_firstCommits Sample.capturedDraft_unrecorded (by decide +kernel)

/-- **A captured payment is lost** when its first delivery raises before the
commit. -/
theorem failedDelivery_loses_payment :
    CapturedDraft Sample.payload Sample.unrecorded Sample.orderedBatch Sample.organisation
      ∧ UntilReturned Sample.payload Sample.unrecorded
        [Sample.failingAt .saveBatch, Sample.undisturbed]
      ∧ (Run.exec (redeliver Sample.payload) Sample.unrecorded
          [Sample.failingAt .saveBatch, Sample.undisturbed]).billing.batchStatus 0
        ≠ some .paid :=
  ⟨Sample.capturedDraft_unrecorded, by decide +kernel, by decide +kernel⟩

end Organisations
