import Clarisal.Organisations.Licences

/-!
# A licence batch is paid in full

A payment takes its amount from the batch's total when its order is opened,
and a pending order is handed out again as it is. The batch stays editable
meanwhile. As long as no update changes the total of a batch with a pending
payment, every batch a webhook marks paid was paid its total
(`paidInFull_of_totalKept`); one update in between is enough to break it
(`update_underpays`).
-/

open Calendar Approvals Transaction

namespace Organisations

/-- The amount is the default one. -/
def Op.DefaultAmount : Op → Prop
  | .createPaymentOrder _ _ amount _ => amount = none
  | _ => True

instance : ∀ op : Op, Decidable op.DefaultAmount
  | .createPaymentOrder _ _ amount _ => inferInstanceAs (Decidable (amount = none))
  | .createLicenceBatch .. | .updateLicenceBatch _ _ | .processPaymentWebhook ..
  | .markLicenceBatchPaid .. => instDecidableTrue

/-- **Paid in full**: when an event on a payment turns the payment's batch from
draft to paid, the payment's amount is the batch's total. -/
def PaidInFull (t : BillingTables) (op : Op) : Prop :=
  match op with
  | .processPaymentWebhook _ event _ _ =>
    ∀ p ∈ t.getPayment event.gatewayOrderId, ∀ b ∈ t.getBatch p.licenceBatch,
      ∀ b' ∈ (step t op).getBatch p.licenceBatch,
        b.paymentStatus = .draft → b'.paymentStatus = .paid → p.amount = b'.totalAmount
  | _ => True

instance (t : BillingTables) : ∀ op : Op, Decidable (PaidInFull t op)
  | .processPaymentWebhook signatureValid event today raises => inferInstanceAs (Decidable
      (∀ p ∈ t.getPayment event.gatewayOrderId, ∀ b ∈ t.getBatch p.licenceBatch,
        ∀ b' ∈ (step t (.processPaymentWebhook signatureValid event today raises)).getBatch
          p.licenceBatch, _ → _ → _))
  | .createLicenceBatch .. | .updateLicenceBatch _ _ | .createPaymentOrder ..
  | .markLicenceBatchPaid .. => instDecidableTrue

/-- **No update changes the total of a batch with a pending payment.** -/
def TotalKept (t : BillingTables) : Op → Prop
  | .updateLicenceBatch batch fields =>
    ∀ b ∈ t.getBatch batch, (∃ p ∈ t.payments, p.licenceBatch = batch ∧ p.status = .pending) →
      ∀ b' ∈ (b.edited fields).toOption, b'.totalAmount = b.totalAmount
  | _ => True

instance (t : BillingTables) : ∀ op : Op, Decidable (TotalKept t op)
  | .updateLicenceBatch batch fields => inferInstanceAs (Decidable
      (∀ b ∈ t.getBatch batch, _ → ∀ b' ∈ (b.edited fields).toOption, _))
  | .createLicenceBatch .. | .createPaymentOrder .. | .processPaymentWebhook ..
  | .markLicenceBatchPaid .. => instDecidableTrue

/-- **The invariant**: keys are unique, totals are whole paise, and a pending
payment is for the total of its batch. -/
structure Priced (t : BillingTables) : Prop where
  batchKeys : Table.Unique OrganisationLicenceBatch.id t.batches
  batchesKnown : ∀ b ∈ t.batches, b.id < t.nextId
  paymentKeys : Table.Unique Payment.id t.payments
  paymentsKnown : ∀ p ∈ t.payments, p.id < t.nextId ∧ p.licenceBatch < t.nextId
  totals : ∀ b ∈ t.batches, Decimal.OnGrid (1 / 100) b.totalAmount
  pending : ∀ p ∈ t.payments, p.status = .pending →
    ∀ b ∈ t.batches, b.id = p.licenceBatch → b.paymentStatus = .draft →
      p.amount = b.totalAmount

theorem priced_initial (organisations : List Organisation) :
    Priced (.initial organisations) where
  batchKeys := List.nodup_nil
  batchesKnown := by simp [BillingTables.initial]
  paymentKeys := List.nodup_nil
  paymentsKnown := by simp [BillingTables.initial]
  totals := by simp [BillingTables.initial]
  pending := by simp [BillingTables.initial]

section

variable {t t' : BillingTables} {b b' batch : OrganisationLicenceBatch} {p payment : Payment}

theorem onGrid_twoPlaces (x : ℚ) : Decimal.OnGrid (1 / 100) (twoPlaces x) :=
  Decimal.onGrid_quantize _ x

theorem twoPlaces_of_onGrid {x : ℚ} (h : Decimal.OnGrid (1 / 100) x) : twoPlaces x = x :=
  Decimal.quantize_of_onGrid (by norm_num) h

theorem onGrid_calculateLicenceTotalAmount (quantity : ℕ) (price : ℚ) (months : ℕ) :
    Decimal.OnGrid (1 / 100) (calculateLicenceTotalAmount quantity price months) :=
  onGrid_twoPlaces _

/-! ## What is looked up -/

theorem Priced.getBatch_iff (h : Priced t) {id : LicenceBatchId} :
    t.getBatch id = some b ↔ b ∈ t.batches ∧ b.id = id :=
  Table.find_eq_some_iff h.batchKeys

theorem getPayment_mem {order : String} (h : t.getPayment order = some p) : p ∈ t.payments :=
  Table.find_mem h

/-! ## Writing a batch -/

/-- **A batch is rewritten**: its key stays, its total stays or no payment is
pending for it, and a paid batch does not become a draft. -/
structure Rewrites (t : BillingTables) (b b' : OrganisationLicenceBatch) : Prop where
  id : b'.id = b.id
  total : Decimal.OnGrid (1 / 100) b'.totalAmount
  kept : b'.totalAmount = b.totalAmount
    ∨ ∀ p ∈ t.payments, p.licenceBatch = b.id → p.status ≠ .pending
  status : b.paymentStatus = .paid → b'.paymentStatus = .paid

theorem Priced.saveBatch (h : Priced t) (hb : b ∈ t.batches) (hw : Rewrites t b b') :
    Priced (t.saveBatch b') where
  batchKeys := h.batchKeys.save b'
  paymentKeys := h.paymentKeys
  paymentsKnown := h.paymentsKnown
  batchesKnown := by
    intro c hc
    rcases Table.mem_save hc with rfl | ⟨hc, -⟩
    · exact hw.id ▸ h.batchesKnown b hb
    · exact h.batchesKnown c hc
  totals := by
    intro c hc
    rcases Table.mem_save hc with rfl | ⟨hc, -⟩
    · exact hw.total
    · exact h.totals c hc
  pending := by
    intro p hp hpend c hc hid hdraft
    rcases Table.mem_save hc with rfl | ⟨hc, -⟩
    · have hbp : b.id = p.licenceBatch := hw.id ▸ hid
      have hbdraft : b.paymentStatus = .draft := by
        cases hs : b.paymentStatus with
        | draft => rfl
        | paid =>
          rw [hw.status hs] at hdraft
          cases hdraft
      rcases hw.kept with hkept | hnone
      · rw [hkept]
        exact h.pending p hp hpend b hb hbp hbdraft
      · exact absurd hpend (hnone p hp hbp.symm)
    · exact h.pending p hp hpend c hc hid hdraft

/-- Settling a payment: it is no longer pending. -/
theorem Priced.savePayment (h : Priced t) (hp : p ∈ t.payments) {status : PaymentStatus}
    (hstatus : status ≠ .pending) (paymentId : Option String) :
    Priced (t.savePayment (p.settled status paymentId)) where
  batchKeys := h.batchKeys
  batchesKnown := h.batchesKnown
  paymentKeys := h.paymentKeys.save _
  totals := h.totals
  paymentsKnown := by
    intro q hq
    rcases Table.mem_save hq with rfl | ⟨hq, -⟩
    · exact h.paymentsKnown p hp
    · exact h.paymentsKnown q hq
  pending := by
    intro q hq hpend
    rcases Table.mem_save hq with rfl | ⟨hq, -⟩
    · exact absurd hpend hstatus
    · exact h.pending q hq hpend

/-- The organisations are no part of the invariant. -/
theorem Priced.saveOrganisation (h : Priced t) (org : Organisation) :
    Priced (t.saveOrganisation org) :=
  ⟨h.batchKeys, h.batchesKnown, h.paymentKeys, h.paymentsKnown, h.totals, h.pending⟩

/-! ## What each operation writes -/

theorem createLicenceBatch_eq_ok {organisation : OrganisationId} {quantity : ℕ} {price : ℚ}
    {startDate endDate : Date}
    (h : createLicenceBatch organisation quantity price startDate endDate t = .ok t') :
    ∃ batch : OrganisationLicenceBatch, batch.id = t.nextId
      ∧ Decimal.OnGrid (1 / 100) batch.totalAmount
      ∧ t' = { t with batches := t.batches ++ [batch], nextId := t.nextId + 1 } := by
  obtain ⟨months, -, h⟩ := bind_eq_ok_iff.mp h
  cases h
  exact ⟨_, rfl, onGrid_calculateLicenceTotalAmount _ _ _, rfl⟩

/-- An edited batch is a draft before and after. -/
theorem edited_eq_ok {fields : LicenceBatchFields} (h : b.edited fields = .ok b') :
    b.paymentStatus = .draft ∧ b'.id = b.id ∧ Decimal.OnGrid (1 / 100) b'.totalAmount := by
  unfold OrganisationLicenceBatch.edited at h
  split at h
  · cases h
  · next hdraft =>
    obtain ⟨months, -, h⟩ := bind_eq_ok_iff.mp h
    cases h
    exact ⟨not_not.mp hdraft, rfl, onGrid_calculateLicenceTotalAmount _ _ _⟩

theorem updateLicenceBatch_eq_ok {id : LicenceBatchId} {fields : LicenceBatchFields}
    (h : updateLicenceBatch id fields t = .ok t') :
    ∃ b b', t.getBatch id = some b ∧ b.edited fields = .ok b' ∧ t' = t.saveBatch b' := by
  unfold updateLicenceBatch at h
  split at h
  · cases h
  · next b hb =>
    obtain ⟨b', hb', h⟩ := bind_eq_ok_iff.mp h
    cases h
    exact ⟨b, b', hb, hb', rfl⟩

/-- **Marking a batch paid** writes the batch, which was a draft, and its
organisation. -/
theorem markLicenceBatchPaid_eq_ok {raises : Option String} {details : PaymentDetails}
    (h : markLicenceBatchPaid raises details batch t = .ok t') :
    batch.paymentStatus = .draft
      ∧ ∃ org, t' = (t.saveBatch (batch.paidWith details)).saveOrganisation org := by
  unfold markLicenceBatchPaid at h
  split at h
  · cases h
  · next hdraft =>
    split at h
    · cases h
    · next org _ =>
      obtain ⟨org', -, h⟩ := bind_eq_ok_iff.mp h
      cases h
      exact ⟨not_not.mp hdraft, org', rfl⟩

/-- **Opening an order** hands out the pending payment, or adds one for the
amount. -/
theorem createPaymentOrder_eq_ok {org : Organisation} {amount : Option ℚ}
    {order : Except String String}
    (h : createPaymentOrder org batch amount order t = .ok (payment, t')) :
    t' = t ∨ (payment.id = t.nextId ∧ payment.licenceBatch = batch.id
      ∧ payment.amount = orderAmount amount batch
      ∧ batch.paymentStatus = .draft
      ∧ ∃ gateway reference, t' = { t with
          payments := t.payments ++ [payment], nextId := t.nextId + 1 }.saveBatch
        { batch with paymentProvider := gateway, paymentReference := reference }) := by
  unfold createPaymentOrder at h
  split at h
  · cases h
  · split at h
    · cases h
    · next hdraft =>
      split at h
      · cases h
      · split at h
        · cases h
          exact Or.inl rfl
        · obtain ⟨gatewayOrderId, -, h⟩ := bind_eq_ok_iff.mp h
          split at h
          · cases h
          · cases h
            exact Or.inr ⟨rfl, rfl, rfl, not_not.mp hdraft, _, _, rfl⟩

/-- **What an event does**: nothing, it settles a pending payment, or it settles
one and marks its batch paid. -/
inductive Settles (event : PaymentEvent) (t : BillingTables) : BillingTables → Prop
  | unchanged : Settles event t t
  | payment (p : Payment) (status : PaymentStatus) (paymentId : Option String)
      (lookup : t.getPayment event.gatewayOrderId = some p) (settled : status ≠ .pending) :
      Settles event t (t.savePayment (p.settled status paymentId))
  | batch (p : Payment) (status : PaymentStatus) (paymentId : Option String)
      (b : OrganisationLicenceBatch) (details : PaymentDetails) (org : Organisation)
      (lookup : t.getPayment event.gatewayOrderId = some p) (pending : p.status = .pending)
      (settled : status ≠ .pending) (batchLookup : t.getBatch p.licenceBatch = some b) :
      Settles event t (((t.savePayment (p.settled status paymentId)).saveBatch
        (b.paidWith details)).saveOrganisation org)

theorem settles_of_processPaymentWebhook {signatureValid : Bool} {event : PaymentEvent}
    {today : Date} {raises : Option String} {outcome : WebhookOutcome}
    (h : processPaymentWebhook signatureValid event today raises t = .ok (outcome, t')) :
    Settles event t t' := by
  unfold processPaymentWebhook at h
  split at h
  · cases h
  · split at h
    · cases h
      exact .unchanged
    · next p hp =>
      split at h
      · cases h
        exact .unchanged
      · next hpend =>
        split at h
        · dsimp only at h
          split at h
          · cases h
          · next b hb =>
            split at h
            · obtain ⟨s, hs, h⟩ := bind_eq_ok_iff.mp h
              cases h
              obtain ⟨-, org, rfl⟩ := markLicenceBatchPaid_eq_ok hs
              exact .batch p .success _ b _ org hp (not_not.mp hpend) nofun hb
            · cases h
              exact .payment p .success _ hp nofun
        · cases h
          exact .payment p .refunded _ hp nofun
        · cases h
          exact .payment p .failed _ hp nofun
        · cases h
          exact .payment p .failed _ hp nofun

/-- The state after an event. -/
theorem step_processPaymentWebhook (signatureValid : Bool) (event : PaymentEvent) (today : Date)
    (raises : Option String) (t : BillingTables) :
    Settles event t (step t (.processPaymentWebhook signatureValid event today raises)) := by
  show Settles event t (settle t ((processPaymentWebhook _ _ _ _ t).map Prod.snd))
  cases hw : processPaymentWebhook signatureValid event today raises t with
  | error e => exact .unchanged
  | ok r => exact settles_of_processPaymentWebhook hw

/-! ## Every step keeps the invariant -/

theorem Priced.createLicenceBatch (h : Priced t) {organisation : OrganisationId} {quantity : ℕ}
    {price : ℚ} {startDate endDate : Date}
    (hok : createLicenceBatch organisation quantity price startDate endDate t = .ok t') :
    Priced t' := by
  obtain ⟨batch, hid, htotal, rfl⟩ := createLicenceBatch_eq_ok hok
  have hmem : ∀ c ∈ t.batches ++ [batch], c ∈ t.batches ∨ c = batch := by simp
  refine ⟨?_, ?_, h.paymentKeys, ?_, ?_, ?_⟩
  · refine h.batchKeys.append_one (fun c hc => ?_)
    rw [hid]
    exact (h.batchesKnown c hc).ne
  · intro c hc
    rcases hmem c hc with hc | rfl
    · exact Nat.lt_succ_of_lt (h.batchesKnown c hc)
    · exact hid ▸ Nat.lt_succ_self _
  · intro p hp
    exact (h.paymentsKnown p hp).imp Nat.lt_succ_of_lt Nat.lt_succ_of_lt
  · intro c hc
    rcases hmem c hc with hc | rfl
    · exact h.totals c hc
    · exact htotal
  · intro p hp hpend c hc hcid hdraft
    rcases hmem c hc with hc | rfl
    · exact h.pending p hp hpend c hc hcid hdraft
    · -- a new batch has no payment yet
      have hlt := (h.paymentsKnown p hp).2
      rw [← hcid, hid] at hlt
      exact absurd hlt (lt_irrefl _)

/-- Marking a draft paid is a rewriting. -/
theorem rewrites_paidWith (h : Priced t) (hb : b ∈ t.batches) (details : PaymentDetails) :
    Rewrites t b (b.paidWith details) :=
  ⟨rfl, h.totals b hb, Or.inl rfl, fun _ => rfl⟩

theorem Priced.markLicenceBatchPaid (h : Priced t) (hb : b ∈ t.batches)
    {raises : Option String} {details : PaymentDetails}
    (hok : markLicenceBatchPaid raises details b t = .ok t') : Priced t' := by
  obtain ⟨-, org, rfl⟩ := markLicenceBatchPaid_eq_ok hok
  exact (h.saveBatch hb (rewrites_paidWith h hb details)).saveOrganisation org

theorem Priced.createPaymentOrder (h : Priced t) {org : Organisation} {order : Except String String}
    (hb : b ∈ t.batches) (hok : createPaymentOrder org b none order t = .ok (payment, t')) :
    Priced t' := by
  rcases createPaymentOrder_eq_ok hok with rfl | ⟨hid, hbatch, hamount, -, gateway, reference, rfl⟩
  · exact h
  · have hmem : ∀ q ∈ t.payments ++ [payment], q ∈ t.payments ∨ q = payment := by simp
    have hadded : Priced { t with
        payments := t.payments ++ [payment], nextId := t.nextId + 1 } := by
      refine ⟨h.batchKeys, ?_, ?_, ?_, h.totals, ?_⟩
      · exact fun c hc => Nat.lt_succ_of_lt (h.batchesKnown c hc)
      · refine h.paymentKeys.append_one (fun q hq => ?_)
        rw [hid]
        exact (h.paymentsKnown q hq).1.ne
      · intro q hq
        rcases hmem q hq with hq | rfl
        · exact (h.paymentsKnown q hq).imp Nat.lt_succ_of_lt Nat.lt_succ_of_lt
        · refine ⟨hid ▸ Nat.lt_succ_self _, ?_⟩
          rw [hbatch]
          exact Nat.lt_succ_of_lt (h.batchesKnown b hb)
      · intro q hq hpend c hc hcid hdraft
        rcases hmem q hq with hq | rfl
        · exact h.pending q hq hpend c hc hcid hdraft
        · -- the amount of the order is the total of the batch it is for
          have hcb : c = b := h.batchKeys.eq_of_key hc hb (hcid.trans hbatch)
          rw [hamount, hcb]
          exact twoPlaces_of_onGrid (h.totals b hb)
    exact hadded.saveBatch hb ⟨rfl, h.totals b hb, Or.inl rfl, fun hs => hs⟩

theorem Priced.settles (h : Priced t) {event : PaymentEvent} (hw : Settles event t t') :
    Priced t' := by
  cases hw with
  | unchanged => exact h
  | payment p status paymentId hp hstatus => exact h.savePayment (getPayment_mem hp) hstatus _
  | batch p status paymentId b details org hp _ hstatus hb =>
    have hsaved := h.savePayment (getPayment_mem hp) hstatus paymentId
    have hb := (h.getBatch_iff.mp hb).1
    exact (hsaved.saveBatch hb (rewrites_paidWith hsaved hb details)).saveOrganisation org

/-- **Every step keeps the invariant**, when an update keeps the total of a
batch with a pending payment. -/
theorem priced_step (t : BillingTables) (op : Op) (h : Priced t)
    (hop : op.DefaultAmount ∧ TotalKept t op) : Priced (step t op) := by
  cases op with
  | createLicenceBatch organisation quantity price startDate endDate =>
    exact settle_induction h (fun t' hok => h.createLicenceBatch hok)
  | updateLicenceBatch id fields =>
    refine settle_induction h (fun t' hok => ?_)
    obtain ⟨b, b', hb, hb', rfl⟩ := updateLicenceBatch_eq_ok hok
    obtain ⟨hmem, hbid⟩ := h.getBatch_iff.mp hb
    obtain ⟨hdraft, hid, htotal⟩ := edited_eq_ok hb'
    refine h.saveBatch hmem ⟨hid, htotal, ?_, fun hpaid => ?_⟩
    · by_cases hpend : ∃ p ∈ t.payments, p.licenceBatch = id ∧ p.status = .pending
      · exact Or.inl (hop.2 b hb hpend b' (by rw [hb']; rfl))
      · exact Or.inr (fun p hp hpb hps => hpend ⟨p, hp, hpb.trans hbid, hps⟩)
    · rw [hdraft] at hpaid
      cases hpaid
  | createPaymentOrder organisation id amount order =>
    refine settle_induction h (fun t' hok => ?_)
    have hamount : amount = none := hop.1
    subst hamount
    unfold orderPayment at hok
    split at hok
    · next org b _ hb =>
      obtain ⟨⟨payment, s⟩, hs, hok⟩ := bind_eq_ok_iff.mp hok
      cases hok
      exact h.createPaymentOrder (h.getBatch_iff.mp hb).1 hs
    · cases hok
  | processPaymentWebhook signatureValid event today raises =>
    exact h.settles (step_processPaymentWebhook signatureValid event today raises t)
  | markLicenceBatchPaid id details raises =>
    refine settle_induction h (fun t' hok => ?_)
    unfold payByHand at hok
    split at hok
    · cases hok
    · next b hb => exact h.markLicenceBatchPaid (h.getBatch_iff.mp hb).1 hok

/-- The row of a batch that was saved as paid. -/
theorem Priced.getBatch_paidWith (h : Priced t) {id : LicenceBatchId}
    (hb : t.getBatch id = some b) (details : PaymentDetails) :
    (t.saveBatch (b.paidWith details)).getBatch id = some (b.paidWith details) := by
  have hid : b.id = id := (h.getBatch_iff.mp hb).2
  subst hid
  exact Table.find_save_self (a := b.paidWith details) hb

/-- **An event pays in full** what it pays, in a state of the invariant. -/
theorem paidInFull_of_priced (h : Priced t) (op : Op) : PaidInFull t op := by
  cases op with
  | processPaymentWebhook signatureValid event today raises =>
    intro p hp b hb b' hb' hdraft hpaid
    have hw := step_processPaymentWebhook signatureValid event today raises t
    revert hb'
    generalize step t (.processPaymentWebhook signatureValid event today raises) = t' at hw
    intro hb'
    -- a batch the event leaves alone is a draft still
    have hsame : b' ∈ t.getBatch p.licenceBatch → p.amount = b'.totalAmount := by
      intro hb'
      rw [Option.mem_unique hb' hb, hdraft] at hpaid
      cases hpaid
    cases hw with
    | unchanged => exact hsame hb'
    | payment => exact hsame hb'
    | batch q status paymentId c details org hq hpend _ hc =>
      cases Option.mem_unique hq hp
      cases Option.mem_unique hc hb
      have hpaidRow : b' = b.paidWith details :=
        Option.mem_unique hb' (h.getBatch_paidWith hb details)
      rw [hpaidRow]
      obtain ⟨hbmem, hbid⟩ := h.getBatch_iff.mp hb
      exact h.pending p (getPayment_mem hp) hpend b hbmem hbid hdraft
  | createLicenceBatch | updateLicenceBatch | createPaymentOrder | markLicenceBatchPaid =>
    trivial

end

/-- **Every batch a webhook marks paid was paid its total**, in every run whose
updates keep the total of a batch with a pending payment. -/
theorem paidInFull_of_totalKept (organisations : List Organisation) (ops : List Op)
    (hamounts : ∀ op ∈ ops, op.DefaultAmount)
    (hops : Run.Along step TotalKept (.initial organisations) ops) :
    Run.Along step PaidInFull (.initial organisations) ops := by
  refine Run.Along.of_invariant (I := Priced)
    (G := fun t op => op.DefaultAmount ∧ TotalKept t op) priced_step
    (fun t op ht _ => paidInFull_of_priced ht op) (priced_initial organisations) ?_
  exact (Run.along_of_forall hamounts).and hops

/-! ## An order, an update and a payment

One organisation buys ten licences for a month, orders the payment, and the
batch is edited to twenty licences before the payment succeeds. -/

namespace Sample

def organisation : Organisation where
  id := 1
  status := .active
  billingStatus := .paid
  accessState := .active
  onboardingStage := .employeesInvited
  countryCode := "IN"
  billingGateway := none
  bootstrapAdmin := none

def createBatch : Op :=
  .createLicenceBatch 1 10 100 ⟨2026, 5, 1, isDate_2026_05_01⟩ ⟨2026, 5, 31, isDate_2026_05_31⟩

def order : Op := .createPaymentOrder 1 0 none (.ok "order_1")

def editTo (quantity : ℕ) : Op := .updateLicenceBatch 0 { quantity := some quantity }

def captured : Op :=
  .processPaymentWebhook true
    { gatewayPaymentId := "pay_1", gatewayOrderId := "order_1", status := .success }
    ⟨2026, 5, 2, isDate_2026_05_02⟩ none

end Sample

theorem paidInFull_of_totalKept_sample :
    Run.Along step PaidInFull (.initial [Sample.organisation])
      [Sample.createBatch, Sample.editTo 20, Sample.order, Sample.editTo 20, Sample.captured] :=
  paidInFull_of_totalKept [Sample.organisation] _ (by decide) (by decide +kernel)

/-- **An update in between leaves a batch underpaid.** -/
theorem update_underpays :
    ¬ Run.Along step PaidInFull (.initial [Sample.organisation])
      [Sample.createBatch, Sample.order, Sample.editTo 20, Sample.captured] := by
  decide +kernel

end Organisations
