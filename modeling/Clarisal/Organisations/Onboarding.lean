import Clarisal.Organisations.Licences

/-!
# Onboarding stages

An organisation climbs the stages of onboarding. All but one of the operations that write
the stage raise it to theirs, or leave it when it stands higher already
(`bumpOnboardingStage`). Configuring the master data assigns its stage instead, also to an
organisation that has invited employees (`stage_goes_backwards`).

So the stage never goes backwards exactly when the master data is not found complete after
the employees are invited (`stage_mono_iff`).
-/

open Approvals Transaction

namespace Organisations

inductive OnboardingStepCode
  | admins | departments | locations | leave | payroll | policies | holidays | firstEmployee
deriving DecidableEq, Repr

/-- What an organisation has set up, at the time of a request. -/
structure OrganisationSetup where
  hasActiveAdmin : Bool
  hasDepartments : Bool
  hasLocations : Bool
  hasLeaveCycle : Bool
  hasLeavePlan : Bool
  hasPayrollSetup : Bool
  hasAttendancePolicy : Bool
  hasApprovalWorkflow : Bool
  hasPublishedHolidays : Bool
  hasFirstEmployee : Bool
deriving DecidableEq, Repr

/-- Whether a step is complete. -/
def buildOnboardingStepStates (setup : OrganisationSetup) : OnboardingStepCode → Bool
  | .admins => setup.hasActiveAdmin
  | .departments => setup.hasDepartments
  | .locations => setup.hasLocations
  | .leave => setup.hasLeaveCycle || setup.hasLeavePlan
  | .payroll => setup.hasPayrollSetup
  | .policies => setup.hasAttendancePolicy && setup.hasApprovalWorkflow
  | .holidays => setup.hasPublishedHolidays
  | .firstEmployee => setup.hasFirstEmployee

def masterDataComplete (setup : OrganisationSetup) : Bool :=
  [OnboardingStepCode.departments, .locations, .leave, .payroll, .policies, .holidays].all
    (buildOnboardingStepStates setup)

/-- An organisation, with its licences and its primary administrator. -/
structure OnboardedOrganisation extends Organisation where
  licenceCount : ℕ
  primaryAdminUser : Option UserId
deriving DecidableEq, Repr

/-! ## Operations -/

def markMasterDataConfigured (setup : OrganisationSetup) (org : OnboardedOrganisation) :
    OnboardedOrganisation :=
  if masterDataComplete setup then
    if org.onboardingStage ≠ .masterDataConfigured then
      { org with onboardingStage := .masterDataConfigured }
    else org
  else org

def markEmployeeInvited (org : OnboardedOrganisation) : OnboardedOrganisation :=
  { org with toOrganisation := bumpOnboardingStage org.toOrganisation .employeesInvited }

/-- Both marks, of what is set up. -/
def syncOnboardingStage (setup : OrganisationSetup) (org : OnboardedOrganisation) :
    OnboardedOrganisation :=
  let org := if masterDataComplete setup then markMasterDataConfigured setup org else org
  if buildOnboardingStepStates setup .firstEmployee then markEmployeeInvited org else org

def setPrimaryAdmin (user : UserId) (org : OnboardedOrganisation) : OnboardedOrganisation :=
  { org with
    primaryAdminUser := some user
    toOrganisation := bumpOnboardingStage org.toOrganisation .adminInvited }

/-- `allocated` is the number of employees that take a licence. -/
def updateLicenceCount (allocated newCount : ℕ) (org : OnboardedOrganisation) :
    Except String OnboardedOrganisation :=
  if newCount < allocated then .error "Licence count cannot be lower than allocated employees."
  else if newCount = org.licenceCount then .ok org
  else .ok { org with
    licenceCount := newCount
    toOrganisation := bumpOnboardingStage org.toOrganisation .licencesAssigned }

inductive OnboardingOp
  | transitionOrganisationState (newStatus : OrganisationStatus)
  | markMasterDataConfigured (setup : OrganisationSetup)
  | markEmployeeInvited
  | inviteBootstrapAdmin (raises : Option String)
  | setPrimaryAdmin (user : UserId)
  | updateLicenceCount (allocated newCount : ℕ)
deriving DecidableEq, Repr

/-- **One operation**, on the row as it stands. -/
def onboardingStep (org : OnboardedOrganisation) : OnboardingOp → OnboardedOrganisation
  | .transitionOrganisationState newStatus =>
    { org with
      toOrganisation :=
        settle org.toOrganisation (transitionOrganisationState org.toOrganisation newStatus) }
  | .markMasterDataConfigured setup => markMasterDataConfigured setup org
  | .markEmployeeInvited => markEmployeeInvited org
  | .inviteBootstrapAdmin raises =>
    { org with
      toOrganisation :=
        settle org.toOrganisation (inviteBootstrapAdmin raises org.toOrganisation) }
  | .setPrimaryAdmin user => setPrimaryAdmin user org
  | .updateLicenceCount allocated newCount =>
    settle org (updateLicenceCount allocated newCount org)

/-- The operations of a synchronisation, in order. -/
def syncOnboardingOps (setup : OrganisationSetup) : List OnboardingOp :=
  (if masterDataComplete setup then [.markMasterDataConfigured setup] else [])
    ++ (if buildOnboardingStepStates setup .firstEmployee then [.markEmployeeInvited] else [])

/-- **A synchronisation is a run** of the two marks. -/
theorem syncOnboardingStage_eq_exec (setup : OrganisationSetup) (org : OnboardedOrganisation) :
    syncOnboardingStage setup org = Run.exec onboardingStep org (syncOnboardingOps setup) := by
  unfold syncOnboardingStage syncOnboardingOps
  split <;> split <;> rfl

/-! ## Never backwards -/

/-- **The employees are not invited yet** when the master data is found complete. -/
def NotYetInvited (org : OnboardedOrganisation) : OnboardingOp → Prop
  | .markMasterDataConfigured setup =>
    masterDataComplete setup = true → org.onboardingStage ≠ .employeesInvited
  | _ => True

instance (org : OnboardedOrganisation) : ∀ op, Decidable (NotYetInvited org op)
  | .markMasterDataConfigured _ => inferInstanceAs (Decidable (_ → _))
  | .transitionOrganisationState _ | .markEmployeeInvited | .inviteBootstrapAdmin _
  | .setPrimaryAdmin _ | .updateLicenceCount .. => instDecidableTrue

/-- The stage of one organisation is not below that of another. -/
def Climbs (org org' : OnboardedOrganisation) : Prop :=
  org.onboardingStage.order ≤ org'.onboardingStage.order

section

variable {org org' : Organisation} {o : OnboardedOrganisation}

theorem order_le_bumpOnboardingStage {stage : OrganisationOnboardingStage}
    (hstage : org'.onboardingStage = org.onboardingStage) :
    org.onboardingStage.order ≤ (bumpOnboardingStage org' stage).onboardingStage.order := by
  rw [← hstage]
  unfold bumpOnboardingStage
  split
  · next hlt => exact hlt.le
  · exact le_rfl

/-- Every stage but the last is at most that of the master data. -/
theorem order_le_masterDataConfigured_iff (stage : OrganisationOnboardingStage) :
    stage.order ≤ OrganisationOnboardingStage.masterDataConfigured.order
      ↔ stage ≠ .employeesInvited := by
  cases stage <;> decide

@[simp] theorem syncLegacyStatus_onboardingStage (org : Organisation) :
    (syncLegacyStatus org).onboardingStage = org.onboardingStage := rfl

theorem order_le_transition (org : Organisation) (newStatus : OrganisationStatus) :
    org.onboardingStage.order
      ≤ (settle org (transitionOrganisationState org newStatus)).onboardingStage.order := by
  refine settle_induction (P := fun o : Organisation => org.onboardingStage.order
    ≤ o.onboardingStage.order) le_rfl fun org' h => ?_
  unfold transitionOrganisationState at h
  split at h
  · obtain rfl := Except.ok.inj h
    rw [syncLegacyStatus_onboardingStage]
    cases newStatus with
    | pending | suspended => exact le_rfl
    | paid | active => exact order_le_bumpOnboardingStage rfl
  · cases h

theorem order_le_inviteBootstrapAdmin (raises : Option String) :
    org.onboardingStage.order
      ≤ (settle org (inviteBootstrapAdmin raises org)).onboardingStage.order := by
  refine settle_induction (P := fun o : Organisation => org.onboardingStage.order
    ≤ o.onboardingStage.order) le_rfl fun org' h => ?_
  unfold inviteBootstrapAdmin at h
  split at h
  · obtain rfl := Except.ok.inj h
    exact le_rfl
  · obtain rfl := Except.ok.inj h
    exact le_rfl
  all_goals
    split at h
    · cases h
    · obtain rfl := Except.ok.inj h
      exact order_le_bumpOnboardingStage rfl

theorem climbs_updateLicenceCount (allocated newCount : ℕ) :
    Climbs o (settle o (updateLicenceCount allocated newCount o)) := by
  refine settle_induction (P := Climbs o) (le_refl o.onboardingStage.order) fun o' h => ?_
  unfold updateLicenceCount at h
  split_ifs at h
  · obtain rfl := Except.ok.inj h
    exact le_rfl
  · obtain rfl := Except.ok.inj h
    exact order_le_bumpOnboardingStage rfl

/-- Configuring the master data is the one operation that assigns its stage. -/
theorem climbs_markMasterDataConfigured_iff (setup : OrganisationSetup) :
    Climbs o (markMasterDataConfigured setup o)
      ↔ (masterDataComplete setup = true → o.onboardingStage ≠ .employeesInvited) := by
  unfold markMasterDataConfigured
  split
  · next hcomplete =>
    rw [← order_le_masterDataConfigured_iff]
    split
    · exact ⟨fun h _ => h, fun h => h hcomplete⟩
    · next hsame =>
      rw [not_not.mp hsame]
      exact ⟨fun _ _ => le_rfl, fun _ => le_of_eq rfl⟩
  · next hincomplete => exact ⟨fun _ h => absurd h hincomplete, fun _ => le_rfl⟩

/-- **One operation climbs** exactly when it does not come too late. -/
theorem climbs_onboardingStep_iff (o : OnboardedOrganisation) (op : OnboardingOp) :
    Climbs o (onboardingStep o op) ↔ NotYetInvited o op := by
  cases op with
  | transitionOrganisationState newStatus =>
    exact iff_of_true (order_le_transition o.toOrganisation newStatus) trivial
  | markMasterDataConfigured setup => exact climbs_markMasterDataConfigured_iff setup
  | markEmployeeInvited =>
    exact iff_of_true (order_le_bumpOnboardingStage rfl) trivial
  | inviteBootstrapAdmin raises =>
    exact iff_of_true (order_le_inviteBootstrapAdmin raises) trivial
  | setPrimaryAdmin user =>
    exact iff_of_true (order_le_bumpOnboardingStage rfl) trivial
  | updateLicenceCount allocated newCount =>
    exact iff_of_true (climbs_updateLicenceCount allocated newCount) trivial

end

/-- **The stage never goes backwards** in a run exactly when the master data is not found
complete after the employees are invited. -/
theorem stage_mono_iff (org : OnboardedOrganisation) (ops : List OnboardingOp) :
    (∀ i j, i ≤ j → (Run.exec onboardingStep org (ops.take i)).onboardingStage.order
        ≤ (Run.exec onboardingStep org (ops.take j)).onboardingStage.order)
      ↔ Run.Along onboardingStep NotYetInvited org ops := by
  constructor
  · intro h
    exact (Run.along_of_forall_take (R := Climbs) h).mono
      fun o op hclimbs => (climbs_onboardingStep_iff o op).mp hclimbs
  · intro h i j hij
    exact Run.related_take (I := fun _ => True) (R := Climbs) (fun _ => le_rfl)
      (fun _ _ _ hst htu => le_trans hst htu)
      (fun o op _ hguard => ⟨trivial, (climbs_onboardingStep_iff o op).mpr hguard⟩) trivial h hij

namespace Sample

/-- A new organisation. -/
def created : OnboardedOrganisation where
  id := 1
  status := .pending
  billingStatus := .pendingPayment
  accessState := .provisioning
  onboardingStage := .orgCreated
  countryCode := "IN"
  billingGateway := none
  bootstrapAdmin := none
  licenceCount := 0
  primaryAdminUser := none

def everything : OrganisationSetup := ⟨true, true, true, true, true, true, true, true, true, true⟩

end Sample

open Sample in
/-- **The stage goes backwards**: the employees are invited, and then a department is
saved. -/
theorem stage_goes_backwards :
    ¬ ∀ i j, i ≤ j → (Run.exec onboardingStep created (([.markEmployeeInvited,
          .markMasterDataConfigured everything] : List OnboardingOp).take i)).onboardingStage.order
        ≤ (Run.exec onboardingStep created (([.markEmployeeInvited,
          .markMasterDataConfigured everything] : List OnboardingOp).take j)).onboardingStage.order :=
  fun h => absurd (h 1 2 (by decide)) (by decide)

end Organisations
