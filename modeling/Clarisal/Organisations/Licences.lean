import Clarisal.Lib.Run
import Clarisal.Lib.Transaction
import Clarisal.Organisations.Models

/-!
# Licence batches and their payments

A licence batch is priced when it is written and stays editable until it is
paid. It is paid by hand or through a gateway: an order is opened for an
amount, and the gateway's webhook settles the payment later.
-/

open Calendar Approvals

namespace Organisations

open Transaction

/-! ## The organisation's status -/

def validTransitions : OrganisationStatus → List OrganisationStatus
  | .pending => [.paid]
  | .paid => [.active]
  | .active => [.suspended]
  | .suspended => [.active]

/-- `STAGE_ORDER`. -/
def OrganisationOnboardingStage.order : OrganisationOnboardingStage → ℕ
  | .orgCreated => 1
  | .licencesAssigned => 2
  | .paymentConfirmed => 3
  | .adminInvited => 4
  | .adminActivated => 5
  | .masterDataConfigured => 6
  | .employeesInvited => 7

def bumpOnboardingStage (org : Organisation) (stage : OrganisationOnboardingStage) :
    Organisation :=
  if org.onboardingStage.order < stage.order then { org with onboardingStage := stage } else org

def syncLegacyStatus (org : Organisation) : Organisation :=
  { org with
    status := match org.accessState, org.billingStatus with
      | .suspended, _ => .suspended
      | .active, _ => .active
      | .provisioning, .paid => .paid
      | .provisioning, .pendingPayment => .pending }

/-- `'Cannot transition from …'`, with the statuses that are allowed. -/
def transitionError (status newStatus : OrganisationStatus) : String :=
  let old := status.value
  let new := newStatus.value
  let allowed := ", ".intercalate ((validTransitions status).map (fun s => "'" ++ s.value ++ "'"))
  s!"Cannot transition from '{old}' to '{new}'. Allowed: [{allowed}]"

def transitionOrganisationState (org : Organisation) (newStatus : OrganisationStatus) :
    Except String Organisation :=
  if newStatus ∈ validTransitions org.status then
    .ok (syncLegacyStatus (match newStatus with
      | .paid => bumpOnboardingStage
          { org with billingStatus := .paid, accessState := .provisioning } .paymentConfirmed
      | .active => bumpOnboardingStage { org with accessState := .active } .adminActivated
      | .suspended => { org with accessState := .suspended }
      | .pending => org))
  else .error (transitionError org.status newStatus)

/-- Invite the bootstrap administrator who has not accepted yet. `raises` is
what creating the invitation raises, if anything. -/
def inviteBootstrapAdmin (raises : Option String) (org : Organisation) :
    Except String Organisation :=
  match org.bootstrapAdmin with
  | none | some .inviteAccepted => .ok org
  | some .draft | some .invitePending =>
    match raises with
    | some e => .error e
    | none => .ok (bumpOnboardingStage { org with bootstrapAdmin := some .invitePending }
        .adminInvited)

/-! ## The price of a batch -/

/-- `quantize(Decimal('0.01'))`. -/
def twoPlaces (x : ℚ) : ℚ := Decimal.quantize (1 / 100) x

def calculateLicenceBillingMonths (startDate endDate : Date) : Except String ℕ :=
  if endDate < startDate then .error "End date cannot be earlier than start date."
  else
    let totalDays := endDate.toordinal - startDate.toordinal + 1
    -- `math.ceil(total_days / 30)`
    .ok (max 1 ((totalDays + 29) / 30))

def calculateLicenceTotalAmount (quantity : ℕ) (pricePerLicencePerMonth : ℚ)
    (billingMonths : ℕ) : ℚ :=
  let price := twoPlaces pricePerLicencePerMonth
  let total := quantity * price * billingMonths
  twoPlaces total

/-! ## Batches -/

/-- The fields of a licence batch a request may set. -/
structure LicenceBatchFields where
  quantity : Option ℕ := none
  pricePerLicencePerMonth : Option ℚ := none
  startDate : Option Date := none
  endDate : Option Date := none
deriving DecidableEq, Repr

def createLicenceBatch (organisation : OrganisationId) (quantity : ℕ)
    (pricePerLicencePerMonth : ℚ) (startDate endDate : Date) (t : BillingTables) :
    Except String BillingTables := do
  let billingMonths ← calculateLicenceBillingMonths startDate endDate
  return { t with
    batches := t.batches ++ [
      { id := t.nextId, organisation := organisation, quantity := quantity,
        pricePerLicencePerMonth := twoPlaces pricePerLicencePerMonth,
        startDate := startDate, endDate := endDate, billingMonths := billingMonths,
        totalAmount := calculateLicenceTotalAmount quantity pricePerLicencePerMonth billingMonths,
        paymentStatus := .draft, paymentProvider := .manual, paymentReference := "",
        invoiceReference := "", paidAt := none }],
    nextId := t.nextId + 1 }

/-- The row an update saves. -/
def OrganisationLicenceBatch.edited (batch : OrganisationLicenceBatch)
    (fields : LicenceBatchFields) : Except String OrganisationLicenceBatch :=
  if batch.paymentStatus ≠ .draft then .error "Paid licence batches cannot be edited."
  else do
    let quantity := fields.quantity.getD batch.quantity
    let price := twoPlaces (fields.pricePerLicencePerMonth.getD batch.pricePerLicencePerMonth)
    let startDate := fields.startDate.getD batch.startDate
    let endDate := fields.endDate.getD batch.endDate
    let billingMonths ← calculateLicenceBillingMonths startDate endDate
    return { batch with
      quantity := quantity, pricePerLicencePerMonth := price, startDate := startDate,
      endDate := endDate, billingMonths := billingMonths,
      totalAmount := calculateLicenceTotalAmount quantity price billingMonths }

def updateLicenceBatch (batch : LicenceBatchId) (fields : LicenceBatchFields)
    (t : BillingTables) : Except String BillingTables :=
  match t.getBatch batch with
  | none => .error "No OrganisationLicenceBatch matches the given query."
  | some batch => do
    let batch ← batch.edited fields
    return t.saveBatch batch

/-- Who and what a batch was paid with. -/
structure PaymentDetails where
  paidAt : Date
  paymentProvider : Option OrganisationBillingProvider := none
  paymentReference : String := ""
  invoiceReference : String := ""
deriving DecidableEq, Repr

/-- The row of a batch that is marked paid: what is not given is kept. -/
def OrganisationLicenceBatch.paidWith (batch : OrganisationLicenceBatch)
    (details : PaymentDetails) : OrganisationLicenceBatch :=
  { batch with
    paymentStatus := .paid
    paymentProvider := details.paymentProvider.getD batch.paymentProvider
    paymentReference := if details.paymentReference = "" then batch.paymentReference
      else details.paymentReference
    invoiceReference := if details.invoiceReference = "" then batch.invoiceReference
      else details.invoiceReference
    paidAt := some details.paidAt }

/-- What the first paid batch does to a pending organisation. -/
def confirmPayment (raises : Option String) (org : Organisation) : Except String Organisation :=
  if org.status = .pending then do
    let org ← transitionOrganisationState org .paid
    inviteBootstrapAdmin raises org
  else .ok org

/-- **Mark a batch paid**, all or nothing. -/
def markLicenceBatchPaid (raises : Option String) (details : PaymentDetails)
    (batch : OrganisationLicenceBatch) (t : BillingTables) : Except String BillingTables :=
  if batch.paymentStatus ≠ .draft then .error "Licence batch is already marked as paid."
  else
    match t.getOrganisation batch.organisation with
    | none => .error "Organisation matching query does not exist."
    | some org => do
      let org ← confirmPayment raises org
      return (t.saveBatch (batch.paidWith details)).saveOrganisation org

/-! ## Payments -/

/-- `resolve_billing_gateway_name`. -/
def resolveBillingGatewayName (org : Organisation) : OrganisationBillingProvider :=
  match org.billingGateway with
  | some .razorpay => .razorpay
  | some .stripe => .stripe
  | some .manual | none => if org.countryCode = "IN" then .razorpay else .stripe

/-- The amount of an order: what is asked for, or else the batch's total. An
amount of zero counts as none. -/
def orderAmount (amount : Option ℚ) (batch : OrganisationLicenceBatch) : ℚ :=
  twoPlaces ((amount.filter (· ≠ 0)).getD batch.totalAmount)

/-- Open an order for a batch. `order` is the gateway's answer: the order's
id, or what the gateway raises. An order that is still pending is handed out
again. -/
def createPaymentOrder (org : Organisation) (batch : OrganisationLicenceBatch)
    (amount : Option ℚ) (order : Except String String) (t : BillingTables) :
    Except String (Payment × BillingTables) :=
  if batch.organisation ≠ org.id then
    .error "Licence batch does not belong to this organisation."
  else if batch.paymentStatus ≠ .draft then
    .error "Only draft licence batches can be paid online."
  else if orderAmount amount batch ≤ 0 then
    .error "Payment amount must be greater than zero."
  else
    match t.pendingPayment org.id batch.id with
    | some existing => .ok (existing, t)
    | none => do
      let gatewayOrderId ← order
      if t.payments.any (fun p => p.gatewayOrderId = gatewayOrderId) then
        .error "duplicate key value violates unique constraint on gateway_order_id"
      else
        let gateway := resolveBillingGatewayName org
        let payment : Payment :=
          { id := t.nextId, organisation := org.id, licenceBatch := batch.id,
            amount := orderAmount amount batch, gateway := gateway,
            gatewayOrderId := gatewayOrderId, gatewayPaymentId := none, status := .pending }
        return (payment,
          { t with payments := t.payments ++ [payment], nextId := t.nextId + 1 }.saveBatch
            { batch with paymentProvider := gateway, paymentReference := gatewayOrderId })

/-- A gateway's event, as its adapter reads it. -/
structure PaymentEvent where
  gatewayPaymentId : String
  gatewayOrderId : String
  status : PaymentStatus
deriving DecidableEq, Repr

/-- The row of a payment that is settled. -/
def Payment.settled (payment : Payment) (status : PaymentStatus) (paymentId : Option String) :
    Payment :=
  { payment with status := status, gatewayPaymentId := paymentId }

inductive WebhookOutcome
  | ignored | alreadyProcessed | processed
deriving DecidableEq, Repr

/-- **Settle a payment.** The webhook runs in one transaction: what marking
the batch raises takes the payment's new status back. -/
def processPaymentWebhook (signatureValid : Bool) (event : PaymentEvent) (today : Date)
    (raises : Option String) (t : BillingTables) :
    Except String (WebhookOutcome × BillingTables) :=
  if signatureValid = false then .error "Invalid webhook signature."
  else
    match t.getPayment event.gatewayOrderId with
    | none => .ok (.ignored, t)
    | some payment =>
      if payment.status ≠ .pending then .ok (.alreadyProcessed, t)
      else
        match event.status with
        | .success =>
          let t := t.savePayment (payment.settled .success (some event.gatewayPaymentId))
          match t.getBatch payment.licenceBatch with
          | none => .error "OrganisationLicenceBatch matching query does not exist."
          | some batch =>
            if batch.paymentStatus = .draft then do
              let t ← markLicenceBatchPaid raises
                { paidAt := today, paymentProvider := some payment.gateway,
                  paymentReference := event.gatewayPaymentId,
                  invoiceReference := payment.gatewayOrderId } batch t
              return (.processed, t)
            else .ok (.processed, t)
        | .refunded =>
          .ok (.processed, t.savePayment (payment.settled .refunded payment.gatewayPaymentId))
        | .failed | .pending =>
          .ok (.processed, t.savePayment (payment.settled .failed payment.gatewayPaymentId))

/-! ## The system -/

/-- **The requests and events of licence billing.** -/
inductive Op
  | createLicenceBatch (organisation : OrganisationId) (quantity : ℕ)
      (pricePerLicencePerMonth : ℚ) (startDate endDate : Date)
  | updateLicenceBatch (batch : LicenceBatchId) (fields : LicenceBatchFields)
  | createPaymentOrder (organisation : OrganisationId) (batch : LicenceBatchId)
      (amount : Option ℚ) (order : Except String String)
  | processPaymentWebhook (signatureValid : Bool) (event : PaymentEvent) (today : Date)
      (raises : Option String)
  | markLicenceBatchPaid (batch : LicenceBatchId) (details : PaymentDetails)
      (raises : Option String)

/-- The state after an order was asked for. -/
def orderPayment (organisation : OrganisationId) (batch : LicenceBatchId) (amount : Option ℚ)
    (order : Except String String) (t : BillingTables) : Except String BillingTables :=
  match t.getOrganisation organisation, t.getBatch batch with
  | some org, some batch => do
    let (_, t) ← createPaymentOrder org batch amount order t
    return t
  | _, _ => .error "No OrganisationLicenceBatch matches the given query."

/-- The state after a batch was marked paid by hand. -/
def payByHand (batch : LicenceBatchId) (details : PaymentDetails) (raises : Option String)
    (t : BillingTables) : Except String BillingTables :=
  match t.getBatch batch with
  | none => .error "No OrganisationLicenceBatch matches the given query."
  | some batch => markLicenceBatchPaid raises details batch t

/-- **One request or event**: a refused one changes nothing. -/
def step (t : BillingTables) : Op → BillingTables
  | .createLicenceBatch organisation quantity price startDate endDate =>
    settle t (createLicenceBatch organisation quantity price startDate endDate t)
  | .updateLicenceBatch batch fields => settle t (updateLicenceBatch batch fields t)
  | .createPaymentOrder organisation batch amount order =>
    settle t (orderPayment organisation batch amount order t)
  | .processPaymentWebhook signatureValid event today raises =>
    settle t ((processPaymentWebhook signatureValid event today raises t).map Prod.snd)
  | .markLicenceBatchPaid batch details raises => settle t (payByHand batch details raises t)

/-- The tables before the first licence batch. -/
def BillingTables.initial (organisations : List Organisation) : BillingTables :=
  { organisations := organisations, batches := [], payments := [], nextId := 0 }

end Organisations
