import Clarisal.Organisations.Payments

/-!
# The order of the events of a payment

A gateway delivers the events of an order in any order and any number of
times, one for each attempt to pay. The webhook settles a pending payment with
the first event it can process and ignores the others, so a payment that
failed once is never paid: the batch ends paid when the first event is a
success, and whatever comes later makes no difference
(`orderIndependent_iff_firstSucceeds`).

A success is taken back when inviting the administrator raises. It leaves the
payment pending, and the next event is the first.
-/

open Calendar Approvals Transaction

namespace Organisations

/-- An event of an order, as it is delivered. -/
structure Delivery where
  gatewayPaymentId : String
  status : PaymentStatus
  today : Date
  /-- What inviting the administrator raises, if anything. -/
  raises : Option String
deriving DecidableEq

def Delivery.op (order : String) (d : Delivery) : Op :=
  .processPaymentWebhook true
    { gatewayPaymentId := d.gatewayPaymentId, gatewayOrderId := order, status := d.status }
    d.today d.raises

/-- The state after a delivery. -/
def deliver (order : String) (t : BillingTables) (d : Delivery) : BillingTables :=
  step t (d.op order)

/-! ## What the order of events should not change -/

def BillingTables.batchStatus (t : BillingTables) (batch : LicenceBatchId) :
    Option LicenceBatchPaymentStatus :=
  (t.getBatch batch).map OrganisationLicenceBatch.paymentStatus

def BillingTables.orderStatus (t : BillingTables) (order : String) : Option PaymentStatus :=
  (t.getPayment order).map Payment.status

/-- How often a draft batch is marked paid. -/
def timesPaid (order : String) (batch : LicenceBatchId) : BillingTables → List Delivery → ℕ
  | _, [] => 0
  | t, d :: ds =>
    (if t.batchStatus batch = some .draft ∧ (deliver order t d).batchStatus batch = some .paid
      then 1 else 0) + timesPaid order batch (deliver order t d) ds

/-- **The order of the events makes no difference**: the batch ends paid when a
success was among them, it is marked paid once then, and a payment that
succeeded stays so. -/
structure OrderIndependent (order : String) (batch : LicenceBatchId) (t : BillingTables)
    (ds : List Delivery) : Prop where
  paid : (Run.exec (deliver order) t ds).batchStatus batch = some .paid
    ↔ ∃ d ∈ ds, d.status = .success
  once : timesPaid order batch t ds
    = if (Run.exec (deliver order) t ds).batchStatus batch = some .paid then 1 else 0
  kept : ∀ before after, ds = before ++ after →
    (Run.exec (deliver order) t before).orderStatus order = some .success →
    (Run.exec (deliver order) t ds).orderStatus order = some .success

/-- **An order that waits**: its payment is pending and its batch a draft. -/
structure OpenOrder (order : String) (t : BillingTables) (p : Payment)
    (b : OrganisationLicenceBatch) (org : Organisation) : Prop where
  payment : t.getPayment order = some p
  pending : p.status = .pending
  batch : t.getBatch p.licenceBatch = some b
  draft : b.paymentStatus = .draft
  organisation : t.getOrganisation b.organisation = some org

/-- Paying the first batch invites the administrator. -/
def Organisation.invitesAdmin (org : Organisation) : Bool :=
  org.status = .pending
    ∧ (org.bootstrapAdmin = some .draft ∨ org.bootstrapAdmin = some .invitePending)

/-- A success that cannot be processed. -/
def Delivery.isRefused (org : Organisation) (d : Delivery) : Bool :=
  d.status = .success ∧ d.raises.isSome ∧ org.invitesAdmin

/-- **The first event that can be processed is a success.** -/
def FirstSucceeds (org : Organisation) (ds : List Delivery) : Prop :=
  ∃ d ∈ (ds.dropWhile (fun d => d.isRefused org)).head?, d.status = .success

instance (org : Organisation) (ds : List Delivery) : Decidable (FirstSucceeds org ds) :=
  inferInstanceAs
    (Decidable (∃ d ∈ (ds.dropWhile (fun d => d.isRefused org)).head?, d.status = .success))

section

variable {order : String} {t : BillingTables} {p : Payment} {b : OrganisationLicenceBatch}
  {org : Organisation} {d : Delivery} {ds : List Delivery}

/-! ## Which event is the first -/

theorem not_firstSucceeds_nil : ¬ FirstSucceeds org [] := by
  rintro ⟨d, hd, -⟩
  cases hd

theorem firstSucceeds_cons_of_refused (hd : d.isRefused org = true) :
    FirstSucceeds org (d :: ds) ↔ FirstSucceeds org ds := by
  rw [FirstSucceeds, List.dropWhile_cons_of_pos (by simpa using hd)]
  rfl

theorem firstSucceeds_cons_of_not_refused (hd : d.isRefused org = false) :
    FirstSucceeds org (d :: ds) ↔ d.status = .success := by
  rw [FirstSucceeds, List.dropWhile_cons_of_neg (by simp [hd])]
  simp

theorem FirstSucceeds.exists_success (h : FirstSucceeds org ds) :
    ∃ d ∈ ds, d.status = .success := by
  obtain ⟨d, hd, hs⟩ := h
  exact ⟨d, (List.dropWhile_suffix _).subset (List.mem_of_mem_head? hd), hs⟩

/-! ## One delivery -/

@[simp] theorem bumpOnboardingStage_bootstrapAdmin (org : Organisation)
    (stage : OrganisationOnboardingStage) :
    (bumpOnboardingStage org stage).bootstrapAdmin = org.bootstrapAdmin := by
  unfold bumpOnboardingStage
  split <;> rfl

/-- The first paid batch of a pending organisation invites its administrator. -/
theorem confirmPayment_pending (raises : Option String) (hpending : org.status = .pending) :
    ∃ org', org'.bootstrapAdmin = org.bootstrapAdmin
      ∧ confirmPayment raises org = inviteBootstrapAdmin raises org' := by
  have htrans : ∃ org', org'.bootstrapAdmin = org.bootstrapAdmin
      ∧ transitionOrganisationState org .paid = .ok org' := by
    rw [transitionOrganisationState, if_pos (by rw [hpending]; decide)]
    refine ⟨_, ?_, rfl⟩
    exact bumpOnboardingStage_bootstrapAdmin
      { org with billingStatus := .paid, accessState := .provisioning } .paymentConfirmed
  obtain ⟨org', horg', htrans⟩ := htrans
  refine ⟨org', horg', ?_⟩
  rw [confirmPayment, if_pos hpending, htrans]
  rfl

theorem confirmPayment_of_refused (hd : d.isRefused org = true) :
    ∃ e, confirmPayment d.raises org = .error e := by
  obtain ⟨-, hraises, hinvites⟩ := of_decide_eq_true hd
  obtain ⟨hpending, hadmin⟩ := of_decide_eq_true hinvites
  obtain ⟨e, he⟩ := Option.isSome_iff_exists.mp hraises
  obtain ⟨org', horg', hconfirm⟩ := confirmPayment_pending d.raises hpending
  refine ⟨e, hconfirm.trans ?_⟩
  rcases hadmin with hadmin | hadmin <;> simp [inviteBootstrapAdmin, horg', hadmin, he]

theorem confirmPayment_of_not_refused (hs : d.status = .success) (hd : d.isRefused org = false) :
    ∃ org', confirmPayment d.raises org = .ok org' := by
  by_cases hpending : org.status = .pending
  · obtain ⟨org', horg', hconfirm⟩ := confirmPayment_pending d.raises hpending
    rw [hconfirm]
    have hnone : org.bootstrapAdmin = some .draft ∨ org.bootstrapAdmin = some .invitePending →
        d.raises = none := by
      intro hadmin
      have := of_decide_eq_false hd
      simpa [hs, Organisation.invitesAdmin, hpending, hadmin] using this
    unfold inviteBootstrapAdmin
    split
    · exact ⟨_, rfl⟩
    · exact ⟨_, rfl⟩
    · next h => simp [hnone (Or.inl (horg'.symm.trans h))]
    · next h => simp [hnone (Or.inr (horg'.symm.trans h))]
  · exact ⟨org, if_neg hpending⟩

/-- A settled payment is left alone. -/
theorem deliver_of_settled (hp : t.getPayment order = some p) (hs : p.status ≠ .pending)
    (d : Delivery) : deliver order t d = t := by
  simp [deliver, step, Delivery.op, processPaymentWebhook, hp, hs, Except.map]

theorem getBatch_saveBatch (b' : OrganisationLicenceBatch) (hb : t.getBatch b'.id = some b) :
    (t.saveBatch b').getBatch b'.id = some b' :=
  Table.find_save_self hb

/-- **A new order is open.** -/
theorem openOrder_of_createPaymentOrder {t' : BillingTables} {payment : Payment}
    {amount : Option ℚ} (horg : t.getOrganisation org.id = some org)
    (hb : t.getBatch b.id = some b) (hnone : t.pendingPayment org.id b.id = none)
    (hok : createPaymentOrder org b amount (.ok order) t = .ok (payment, t')) :
    OpenOrder order t' payment
      { b with
        paymentProvider := resolveBillingGatewayName org
        paymentReference := order } org := by
  unfold createPaymentOrder at hok
  split at hok
  · cases hok
  · next hown =>
    split at hok
    · cases hok
    · next hdraft =>
      split at hok
      · cases hok
      · simp only [hnone] at hok
        obtain ⟨_, horder, hok⟩ := bind_eq_ok_iff.mp hok
        obtain rfl := Except.ok.inj horder
        split at hok
        · cases hok
        · next hunused =>
          cases hok
          refine ⟨?_, rfl, ?_, not_not.mp hdraft, ?_⟩
          · -- no other payment has the order's id
            have hfirst : Table.find Payment.gatewayOrderId order t.payments = none :=
              Table.find_eq_none_iff.mpr (by simpa using hunused)
            simp only [BillingTables.getPayment, BillingTables.saveBatch, Table.find,
              List.find?_append] at hfirst ⊢
            simp [hfirst]
          · exact getBatch_saveBatch { b with
              paymentProvider := resolveBillingGatewayName org
              paymentReference := order } hb
          · exact (not_not.mp hown) ▸ horg

variable (h : OpenOrder order t p b org)

include h

theorem OpenOrder.batchId : b.id = p.licenceBatch := Table.find_key h.batch

theorem OpenOrder.batchStatus_eq : t.batchStatus b.id = some .draft := by
  rw [BillingTables.batchStatus, h.batchId, h.batch, Option.map_some, h.draft]

/-- The payment of an order, after it was settled. -/
theorem OpenOrder.getPayment_savePayment (status : PaymentStatus) (paymentId : Option String) :
    (t.savePayment (p.settled status paymentId)).getPayment order
      = some (p.settled status paymentId) := by
  have horder : p.gatewayOrderId = order := Table.find_key h.payment
  exact Table.find_save_other (a := p.settled status paymentId) h.payment rfl horder

/-- An event that cannot be processed leaves the order open. -/
theorem OpenOrder.deliver_of_refused (hd : d.isRefused org = true) : deliver order t d = t := by
  obtain ⟨e, he⟩ := confirmPayment_of_refused hd
  have hs : d.status = .success := (of_decide_eq_true hd).1
  have hbatch : (t.savePayment (p.settled .success (some d.gatewayPaymentId))).getBatch
      p.licenceBatch = some b := h.batch
  have horg : (t.savePayment (p.settled .success (some d.gatewayPaymentId))).getOrganisation
      b.organisation = some org := h.organisation
  simp [deliver, step, Delivery.op, processPaymentWebhook, h.payment, h.pending, hs, hbatch,
    h.draft, markLicenceBatchPaid, horg, he, Except.map, bind, Except.bind]

/-- **A success** pays the batch. -/
theorem OpenOrder.deliver_of_success (hs : d.status = .success) (hd : d.isRefused org = false) :
    (∃ p', (deliver order t d).getPayment order = some p' ∧ p'.status = .success)
      ∧ (deliver order t d).batchStatus b.id = some .paid := by
  obtain ⟨org', he⟩ := confirmPayment_of_not_refused hs hd
  let details : PaymentDetails :=
    { paidAt := d.today, paymentProvider := some p.gateway,
      paymentReference := d.gatewayPaymentId, invoiceReference := p.gatewayOrderId }
  have hbatch : (t.savePayment (p.settled .success (some d.gatewayPaymentId))).getBatch
      p.licenceBatch = some b := h.batch
  have horg : (t.savePayment (p.settled .success (some d.gatewayPaymentId))).getOrganisation
      b.organisation = some org := h.organisation
  have hdeliver : deliver order t d
      = ((t.savePayment (p.settled .success (some d.gatewayPaymentId))).saveBatch
        (b.paidWith details)).saveOrganisation org' := by
    simp [deliver, step, Delivery.op, processPaymentWebhook, h.payment, h.pending, hs, hbatch,
      h.draft, markLicenceBatchPaid, horg, he, Except.map, bind, Except.bind, details]
    rfl
  rw [hdeliver]
  refine ⟨⟨_, h.getPayment_savePayment _ _, rfl⟩, ?_⟩
  have hsaved : (t.saveBatch (b.paidWith details)).getBatch b.id = some (b.paidWith details) :=
    getBatch_saveBatch (b.paidWith details) (h.batchId ▸ h.batch)
  exact congrArg (Option.map OrganisationLicenceBatch.paymentStatus) hsaved

/-- **Any other event** settles the payment and leaves the batch a draft. -/
theorem OpenOrder.deliver_of_not_success (hs : d.status ≠ .success) :
    (∃ p', (deliver order t d).getPayment order = some p' ∧ p'.status ≠ .pending)
      ∧ (deliver order t d).batchStatus b.id = some .draft := by
  have hdeliver : ∃ status, status ≠ .pending
      ∧ deliver order t d = t.savePayment (p.settled status p.gatewayPaymentId) := by
    cases hd : d.status with
    | success => exact absurd hd hs
    | refunded =>
      refine ⟨.refunded, nofun, ?_⟩
      simp [deliver, step, Delivery.op, processPaymentWebhook, h.payment, h.pending, hd, Except.map]
    | pending | failed =>
      refine ⟨.failed, nofun, ?_⟩
      simp [deliver, step, Delivery.op, processPaymentWebhook, h.payment, h.pending, hd, Except.map]
  obtain ⟨status, hstatus, hdeliver⟩ := hdeliver
  rw [hdeliver]
  exact ⟨⟨_, h.getPayment_savePayment _ _, hstatus⟩, h.batchStatus_eq⟩

omit h

/-! ## Every sequence of events -/

/-- Nothing happens after a payment is settled. -/
theorem exec_of_settled (hp : t.getPayment order = some p) (hs : p.status ≠ .pending)
    (ds : List Delivery) : Run.exec (deliver order) t ds = t := by
  induction ds with
  | nil => rfl
  | cons d ds ih => rw [Run.exec_cons, deliver_of_settled hp hs, ih]

theorem timesPaid_of_settled (hp : t.getPayment order = some p) (hs : p.status ≠ .pending)
    (batch : LicenceBatchId) (ds : List Delivery) : timesPaid order batch t ds = 0 := by
  induction ds with
  | nil => rfl
  | cons d ds ih =>
    rw [timesPaid, deliver_of_settled hp hs, ih, if_neg]
    rintro ⟨hdraft, hpaid⟩
    rw [hdraft] at hpaid
    cases hpaid

/-- **The batch is paid when the first event is a success**, once then. -/
theorem OpenOrder.exec_deliver (h : OpenOrder order t p b org) (ds : List Delivery) :
    (Run.exec (deliver order) t ds).batchStatus b.id
        = some (if FirstSucceeds org ds then .paid else .draft)
      ∧ timesPaid order b.id t ds = if FirstSucceeds org ds then 1 else 0 := by
  induction ds with
  | nil =>
    rw [if_neg not_firstSucceeds_nil, if_neg not_firstSucceeds_nil]
    exact ⟨h.batchStatus_eq, rfl⟩
  | cons d ds ih =>
    rw [Run.exec_cons, timesPaid]
    cases hd : d.isRefused org with
    | true =>
      have hstays : ¬ (t.batchStatus b.id = some .draft ∧ t.batchStatus b.id = some .paid) := by
        rw [h.batchStatus_eq]
        simp
      rw [h.deliver_of_refused hd, if_neg hstays, zero_add]
      simpa only [firstSucceeds_cons_of_refused hd] using ih
    | false =>
      simp only [firstSucceeds_cons_of_not_refused hd]
      by_cases hs : d.status = .success
      · obtain ⟨⟨p', hp', hsuccess⟩, hpaid⟩ := h.deliver_of_success hs hd
        have hsettled : p'.status ≠ .pending := by rw [hsuccess]; decide
        rw [exec_of_settled hp' hsettled, timesPaid_of_settled hp' hsettled, hpaid,
          h.batchStatus_eq]
        simp [hs]
      · obtain ⟨⟨p', hp', hsettled⟩, hdraft⟩ := h.deliver_of_not_success hs
        rw [exec_of_settled hp' hsettled, timesPaid_of_settled hp' hsettled, hdraft]
        simp [hs]

/-- A payment that succeeded stays so. -/
theorem orderStatus_success_kept (hs : t.orderStatus order = some .success)
    (ds : List Delivery) : (Run.exec (deliver order) t ds).orderStatus order = some .success := by
  obtain ⟨p, hp, hsuccess⟩ := Option.map_eq_some_iff.mp hs
  rw [exec_of_settled hp (by rw [hsuccess]; decide), hs]

end

/-- **The order of the events makes no difference** exactly when none of them is
a success, or the first that can be processed is one. -/
theorem orderIndependent_iff_firstSucceeds {order : String} {t : BillingTables} {p : Payment}
    {b : OrganisationLicenceBatch} {org : Organisation} (h : OpenOrder order t p b org)
    (ds : List Delivery) :
    OrderIndependent order b.id t ds
      ↔ (∀ d ∈ ds, d.status ≠ .success) ∨ FirstSucceeds org ds := by
  obtain ⟨hstatus, htimes⟩ := h.exec_deliver ds
  constructor
  · intro hind
    by_cases hfirst : FirstSucceeds org ds
    · exact Or.inr hfirst
    · refine Or.inl (fun d hd hs => ?_)
      have hpaid := hind.paid.mpr ⟨d, hd, hs⟩
      rw [hstatus, if_neg hfirst] at hpaid
      cases hpaid
  · intro hds
    refine ⟨?_, ?_, ?_⟩
    · rw [hstatus]
      by_cases hfirst : FirstSucceeds org ds
      · simpa [hfirst] using hfirst.exists_success
      · have hnone := hds.resolve_right hfirst
        simpa [hfirst] using hnone
    · rw [hstatus, htimes]
      by_cases hfirst : FirstSucceeds org ds <;> simp [hfirst]
    · rintro before after rfl hs
      rw [Run.exec_append]
      exact orderStatus_success_kept hs after

/-! ## Two attempts to pay

The first batch of an organisation is ordered. A first attempt to pay fails,
a second one succeeds. -/

namespace Sample

/-- The state in which the gateway's events arrive. -/
def ordered : BillingTables := Run.exec step (.initial [organisation]) [createBatch, order]

def attempt (paymentId : String) (status : PaymentStatus) : Delivery where
  gatewayPaymentId := paymentId
  status := status
  today := ⟨2026, 5, 2, isDate_2026_05_02⟩
  raises := none

/-- The payment and the batch of the order. -/
def orderedPayment : Payment where
  id := 1
  organisation := 1
  licenceBatch := 0
  amount := 2000
  gateway := .razorpay
  gatewayOrderId := "order_1"
  gatewayPaymentId := none
  status := .pending

def orderedBatch : OrganisationLicenceBatch where
  id := 0
  organisation := 1
  quantity := 10
  pricePerLicencePerMonth := 100
  startDate := ⟨2026, 5, 1, isDate_2026_05_01⟩
  endDate := ⟨2026, 5, 31, isDate_2026_05_31⟩
  billingMonths := 2
  totalAmount := 2000
  paymentStatus := .draft
  paymentProvider := .razorpay
  paymentReference := "order_1"
  invoiceReference := ""
  paidAt := none

theorem openOrder_ordered :
    OpenOrder "order_1" ordered orderedPayment orderedBatch organisation where
  payment := by decide +kernel
  pending := rfl
  batch := by decide +kernel
  draft := rfl
  organisation := by decide +kernel

end Sample

theorem orderIndependent_iff_firstSucceeds_sample :
    OrderIndependent "order_1" 0 Sample.ordered
        [Sample.attempt "pay_2" .success, Sample.attempt "pay_1" .failed]
      ↔ (∀ d ∈ [Sample.attempt "pay_2" .success, Sample.attempt "pay_1" .failed],
          d.status ≠ .success)
        ∨ FirstSucceeds Sample.organisation
          [Sample.attempt "pay_2" .success, Sample.attempt "pay_1" .failed] :=
  orderIndependent_iff_firstSucceeds Sample.openOrder_ordered _

/-- **A failed attempt loses the payment of the next one.** -/
theorem failedAttempt_loses_payment :
    OpenOrder "order_1" Sample.ordered Sample.orderedPayment Sample.orderedBatch
        Sample.organisation
      ∧ ¬ OrderIndependent "order_1" 0 Sample.ordered
        [Sample.attempt "pay_1" .failed, Sample.attempt "pay_2" .success] := by
  refine ⟨Sample.openOrder_ordered, fun hind => ?_⟩
  have hpaid := hind.paid.mpr ⟨Sample.attempt "pay_2" .success, by simp, rfl⟩
  have hdraft : (Run.exec (deliver "order_1") Sample.ordered
      [Sample.attempt "pay_1" .failed, Sample.attempt "pay_2" .success]).batchStatus 0
        = some .draft := by decide +kernel
  rw [hdraft] at hpaid
  cases hpaid

end Organisations
