import Clarisal.Approvals.Models
import Clarisal.Lib.Decimal

/-!
# Organisations: the rows

An organisation moves through payment and provisioning, buys licences in
batches and pays for them through a gateway. A status that the database keeps
twice, as `status` and as billing and access states, is kept twice here.
-/

open Calendar Approvals

namespace Organisations

abbrev LicenceBatchId := ℕ
abbrev PaymentId := ℕ

inductive OrganisationStatus
  | pending | paid | active | suspended
deriving DecidableEq, Repr

/-- The stored value of a status. -/
def OrganisationStatus.value : OrganisationStatus → String
  | pending => "PENDING"
  | paid => "PAID"
  | active => "ACTIVE"
  | suspended => "SUSPENDED"

inductive OrganisationBillingStatus
  | pendingPayment | paid
deriving DecidableEq, Repr

inductive OrganisationAccessState
  | provisioning | active | suspended
deriving DecidableEq, Repr

inductive OrganisationOnboardingStage
  | orgCreated | licencesAssigned | paymentConfirmed | adminInvited | adminActivated
  | masterDataConfigured | employeesInvited
deriving DecidableEq, Repr

inductive BootstrapAdminStatus
  | draft | invitePending | inviteAccepted
deriving DecidableEq, Repr

inductive LicenceBatchPaymentStatus
  | draft | paid
deriving DecidableEq, Repr

inductive OrganisationBillingProvider
  | manual | razorpay | stripe
deriving DecidableEq, Repr

inductive PaymentStatus
  | pending | success | failed | refunded
deriving DecidableEq, Repr

structure Organisation where
  id : OrganisationId
  status : OrganisationStatus
  billingStatus : OrganisationBillingStatus
  accessState : OrganisationAccessState
  onboardingStage : OrganisationOnboardingStage
  countryCode : String
  billingGateway : Option OrganisationBillingProvider
  /-- The status of the bootstrap administrator, when there is one. -/
  bootstrapAdmin : Option BootstrapAdminStatus
deriving DecidableEq, Repr

structure OrganisationLicenceBatch where
  id : LicenceBatchId
  organisation : OrganisationId
  quantity : ℕ
  pricePerLicencePerMonth : ℚ
  startDate : Date
  endDate : Date
  billingMonths : ℕ
  totalAmount : ℚ
  paymentStatus : LicenceBatchPaymentStatus
  paymentProvider : OrganisationBillingProvider
  paymentReference : String
  invoiceReference : String
  paidAt : Option Date
deriving DecidableEq, Repr

structure Payment where
  id : PaymentId
  organisation : OrganisationId
  licenceBatch : LicenceBatchId
  amount : ℚ
  gateway : OrganisationBillingProvider
  gatewayOrderId : String
  gatewayPaymentId : Option String
  status : PaymentStatus
deriving DecidableEq, Repr

/-- The tables of licence billing. -/
structure BillingTables where
  organisations : List Organisation
  batches : List OrganisationLicenceBatch
  payments : List Payment
  nextId : ℕ
deriving DecidableEq, Repr

namespace BillingTables

def getOrganisation (t : BillingTables) (id : OrganisationId) : Option Organisation :=
  Table.find Organisation.id id t.organisations

def getBatch (t : BillingTables) (id : LicenceBatchId) : Option OrganisationLicenceBatch :=
  Table.find OrganisationLicenceBatch.id id t.batches

/-- The payment of a gateway order. -/
def getPayment (t : BillingTables) (gatewayOrderId : String) : Option Payment :=
  Table.find Payment.gatewayOrderId gatewayOrderId t.payments

/-- The pending payment of a batch, as an order for it looks it up. -/
def pendingPayment (t : BillingTables) (organisation : OrganisationId)
    (batch : LicenceBatchId) : Option Payment :=
  t.payments.find? (fun p =>
    p.organisation = organisation ∧ p.licenceBatch = batch ∧ p.status = .pending)

def saveOrganisation (t : BillingTables) (org : Organisation) : BillingTables :=
  { t with organisations := Table.save Organisation.id org t.organisations }

def saveBatch (t : BillingTables) (batch : OrganisationLicenceBatch) : BillingTables :=
  { t with batches := Table.save OrganisationLicenceBatch.id batch t.batches }

def savePayment (t : BillingTables) (payment : Payment) : BillingTables :=
  { t with payments := Table.save Payment.id payment t.payments }

end BillingTables

end Organisations
