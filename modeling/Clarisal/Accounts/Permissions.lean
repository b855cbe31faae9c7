import Clarisal.Accounts.ActAs
import Clarisal.Employees.Invitations

/-!
# Permissions

A view lists permission classes, which are asked in turn. Each looks at the
user, the workspace of the browser and the organisation's billing, modules and
licences, and refuses with a message of its own.

A view of an administrator reads for who acts as an organisation, and changes
nothing then: it serves a request that writes only in an organisation its user
administers, that is active and has paid, whose module is enabled and whose
licence has not expired (`admission_iff`).
-/

open Transaction

namespace Accounts

open Approvals (UserId OrganisationId)
open Employees (StaffTables getOrgLicenceSummary LicenceSummary)
open Invitations (User AccountType)

inductive OrganisationFeatureCode
  | attendance | approvals | biometrics | notices | payroll | performance | recruitment | reports
  | timeoff
deriving DecidableEq, Repr

/-- The code in lower case. -/
def OrganisationFeatureCode.lower : OrganisationFeatureCode → String
  | attendance => "attendance"
  | approvals => "approvals"
  | biometrics => "biometrics"
  | notices => "notices"
  | payroll => "payroll"
  | performance => "performance"
  | recruitment => "recruitment"
  | reports => "reports"
  | timeoff => "timeoff"

structure OrganisationFeatureFlag where
  organisation : OrganisationId
  featureCode : OrganisationFeatureCode
  isEnabled : Bool
deriving DecidableEq, Repr

inductive Method
  | get | head | options | post | put | patch | delete
deriving DecidableEq, Repr

/-- `SAFE_METHODS`. -/
def Method.isSafe (m : Method) : Bool := m ∈ [Method.get, .head, .options]

/-- What permission classes read of a view: where it is defined, and what it says of
impersonation. -/
structure View where
  modulePath : String
  featureFlagCode : Option OrganisationFeatureCode := none
  ctImpersonationPassthrough : Bool := false
  ctImpersonationActionCode : Option String := none
deriving DecidableEq, Repr

/-- A request, by nobody when it is not authenticated. -/
structure Request where
  user : Option User
  session : Session
  method : Method
deriving DecidableEq, Repr

/-- What permissions are decided on. The licences are those of one day. -/
structure PermissionTables extends WorkspaceTables where
  staff : StaffTables
  featureFlags : List OrganisationFeatureFlag

/-! ## Modules and licences -/

def moduleFeatureFlagMap : List (String × OrganisationFeatureCode) :=
  [("apps.approvals.", .approvals), ("apps.attendance.", .attendance),
    ("apps.biometrics.", .biometrics), ("apps.communications.", .notices),
    ("apps.payroll.", .payroll), ("apps.performance.", .performance),
    ("apps.recruitment.", .recruitment), ("apps.reports.", .reports), ("apps.timeoff.", .timeoff)]

def resolveFeatureFlagCode (view : View) : Option OrganisationFeatureCode :=
  view.featureFlagCode.or
    ((moduleFeatureFlagMap.find? fun e => e.1.toList.isPrefixOf view.modulePath.toList).map
      Prod.snd)

/-- `is_org_feature_enabled`: every module is on unless it is switched off. -/
def isOrgFeatureEnabled (t : PermissionTables) (organisation : OrganisationId)
    (code : OrganisationFeatureCode) : Bool :=
  ((t.featureFlags.find? fun f => f.organisation = organisation ∧ f.featureCode = code).map
    OrganisationFeatureFlag.isEnabled).getD true

structure OperationsGuard where
  licenceExpired : Bool
  adminMutationsBlocked : Bool
  approvalActionsBlocked : Bool
  seatAssignmentBlocked : Bool
  reason : String
  summary : LicenceSummary
deriving DecidableEq, Repr

def getOrgOperationsGuard (t : PermissionTables) (organisation : OrganisationId) :
    OperationsGuard :=
  let summary := getOrgLicenceSummary t.staff organisation
  let licenceExpired : Bool := summary.activePaidQuantity ≤ 0
  { licenceExpired := licenceExpired
    adminMutationsBlocked := licenceExpired
    approvalActionsBlocked := licenceExpired
    seatAssignmentBlocked := summary.available ≤ 0
    reason := if licenceExpired then
      "Organisation licences have expired. Renew licences in Control Tower to continue." else ""
    summary := summary }

/-! ## The classes -/

/-- The message of a class that has none. -/
def defaultMessage : String := "You do not have permission to perform this action."

/-- `CT_IMPERSONATION_ALLOWED_ACTIONS`. -/
def isCtActionAllowedDuringImpersonation (actionCode : String) : Bool :=
  actionCode ∈ ["unlock_account", "reset_onboarding_step", "extend_licence_expiry"]

variable (q : QueryOrder)

def isControlTowerUser (t : PermissionTables) (request : Request) (view : View) :
    Except String Unit :=
  match request.user with
  | none => .error defaultMessage
  | some user =>
    if user.accountType ≠ .controlTower then .error defaultMessage
    else if request.method.isSafe then .ok ()
    else if ¬ isControlTowerImpersonating t.toWorkspaceTables request.session user then .ok ()
    else if view.ctImpersonationPassthrough then .ok ()
    else if view.ctImpersonationActionCode.any isCtActionAllowedDuringImpersonation then .ok ()
    else .error "Control Tower impersonation only allows a limited set of write actions."

def isOrgAdmin (t : PermissionTables) (request : Request) : Except String Unit :=
  match request.user with
  | none => .error defaultMessage
  | some user =>
    let state := getWorkspaceState q t.toWorkspaceTables request.session user
    let allowed : Bool :=
      if user.accountType = .controlTower
          ∧ isControlTowerImpersonating t.toWorkspaceTables request.session user then
        request.method.isSafe
      else user.accountType = .workforce ∧ state.adminMemberships ≠ []
    if allowed then .ok () else .error defaultMessage

def isEmployee (t : PermissionTables) (request : Request) : Except String Unit :=
  match request.user with
  | none => .error defaultMessage
  | some user =>
    let state := getWorkspaceState q t.toWorkspaceTables request.session user
    if user.accountType = .workforce ∧ state.employeeRecords ≠ [] then .ok ()
    else .error defaultMessage

/-- The organisation a workforce user is asked about. -/
def memberOrganisation (t : PermissionTables) (session : Session) (user : User) :
    Option OrganisationId :=
  (getActiveAdminOrganisation q t.toWorkspaceTables session user).or
    ((getActiveEmployee q t.toWorkspaceTables session user).map fun e => e.organisation)

def belongsToActiveOrg (t : PermissionTables) (request : Request) (view : View) :
    Except String Unit :=
  match request.user with
  | none => .error defaultMessage
  | some user =>
    if user.accountType = .controlTower then .ok ()
    else
      match (memberOrganisation q t request.session user).filter
          (isOperating t.toWorkspaceTables) with
      | none => .error defaultMessage
      | some organisation =>
        match resolveFeatureFlagCode view with
        | none => .ok ()
        | some code =>
          if isOrgFeatureEnabled t organisation code then .ok ()
          else .error ("The " ++ code.lower ++ " module is disabled for this organisation.")

def orgAdminMutationAllowed (t : PermissionTables) (request : Request) : Except String Unit :=
  if request.method.isSafe then .ok ()
  else
    match request.user with
    | none => .error defaultMessage
    | some user =>
      if user.accountType = .controlTower
          ∧ isControlTowerImpersonating t.toWorkspaceTables request.session user then
        .error ("Control Tower impersonation is read-only. Stop impersonating before changing "
          ++ "organisation data.")
      else if user.accountType ≠ .workforce then .ok ()
      else
        match getActiveAdminOrganisation q t.toWorkspaceTables request.session user with
        | some organisation =>
          if (getOrgOperationsGuard t organisation).adminMutationsBlocked then
            .error ("Organisation admin actions are blocked because the organisation licence has "
              ++ "expired.")
          else .ok ()
        | none =>
          .error ("Organisation admin actions are blocked because the organisation licence has "
            ++ "expired.")

def approvalActionsAllowed (t : PermissionTables) (request : Request) : Except String Unit :=
  if request.method.isSafe then .ok ()
  else
    match request.user with
    | none => .error defaultMessage
    | some user =>
      if user.accountType = .controlTower then .ok ()
      else
        match memberOrganisation q t request.session user with
        | some organisation =>
          if (getOrgOperationsGuard t organisation).approvalActionsBlocked then
            .error "Approval actions are blocked because the organisation licence has expired."
          else .ok ()
        | none => .error "Approval actions are blocked because the organisation licence has expired."

/-! ## The views -/

/-- `permission_classes = [IsOrgAdmin, BelongsToActiveOrg, OrgAdminMutationAllowed]`. -/
def admission (t : PermissionTables) (request : Request) (view : View) : Except String Unit := do
  isOrgAdmin q t request
  belongsToActiveOrg q t request view
  orgAdminMutationAllowed q t request

/-- `permission_classes = [IsEmployee, BelongsToActiveOrg, ApprovalActionsAllowed]`. -/
def employeeAdmission (t : PermissionTables) (request : Request) (view : View) :
    Except String Unit := do
  isEmployee q t request
  belongsToActiveOrg q t request view
  approvalActionsAllowed q t request

variable {q} {t : PermissionTables} {request : Request} {view : View} {user : User}
  {session : Session} {organisation : OrganisationId}

/-! ## What each class lets through -/

theorem andThen_eq_ok_iff {x y : Except String Unit} :
    (do x; y) = .ok () ↔ x = .ok () ∧ y = .ok () := by
  rw [bind_eq_ok_iff]
  exact ⟨fun ⟨_, hx, hy⟩ => ⟨hx, hy⟩, fun ⟨hx, hy⟩ => ⟨(), hx, hy⟩⟩

theorem ite_eq_ok_iff {p : Prop} [Decidable p] {e : String} :
    (if p then .ok () else .error e : Except String Unit) = .ok () ↔ p := by
  split
  · next h => simp [h]
  · next h => simp [h]

theorem isControlTowerImpersonating_iff {t : WorkspaceTables} :
    isControlTowerImpersonating t session user = true
      ↔ ∃ organisation, ActsAs t session user organisation :=
  getActiveImpersonationSession_isSome_iff

/-- A user has an organisation to work on exactly when there are memberships. -/
theorem adminMemberships_ne_nil_iff {t : WorkspaceTables} :
    (getWorkspaceState q t session user).adminMemberships ≠ []
      ↔ ∃ organisation, Administers t user organisation := by
  have hsome : (getWorkspaceState q t session user).activeAdminMembership.isSome = true
      ↔ ∃ organisation, Administers t user organisation :=
    isSome_activeAdminMembership_iff
  rw [← hsome, ← Option.ne_none_iff_isSome]
  exact (not_congr pick_eq_none_iff).symm

theorem employeeRecords_ne_nil_iff {t : WorkspaceTables} :
    (getWorkspaceState q t session user).employeeRecords ≠ []
      ↔ ∃ organisation, WorksFor t user organisation := by
  have hsome : (getWorkspaceState q t session user).activeEmployee.isSome = true
      ↔ ∃ organisation, WorksFor t user organisation :=
    isSome_activeEmployee_iff
  rw [← hsome, ← Option.ne_none_iff_isSome]
  exact (not_congr pick_eq_none_iff).symm

/-- **An administrator's view** is open to who administers some organisation, and for
reading to who acts as one. -/
theorem isOrgAdmin_eq_ok_iff : isOrgAdmin q t request = .ok ()
    ↔ ∃ user, request.user = some user
      ∧ ((∃ o, Administers t.toWorkspaceTables user o)
        ∨ request.method.isSafe = true
          ∧ ∃ o, ActsAs t.toWorkspaceTables request.session user o) := by
  unfold isOrgAdmin
  cases request.user with
  | none => simp
  | some user =>
    dsimp only
    simp only [Option.some.injEq, exists_eq_left']
    by_cases hacts : ∃ o, ActsAs t.toWorkspaceTables request.session user o
    · have htype : user.accountType = .controlTower := hacts.elim fun _ h => h.1
      have hnot : ¬ ∃ o, Administers t.toWorkspaceTables user o := by
        rintro ⟨_, h, -⟩
        rw [htype] at h
        cases h
      rw [if_pos (c := _ ∧ _) ⟨htype, isControlTowerImpersonating_iff.mpr hacts⟩]
      cases request.method.isSafe <;> simp [hacts, hnot]
    · have hwork : (∃ o, Administers t.toWorkspaceTables user o) → user.accountType = .workforce :=
        fun ⟨_, h⟩ => h.1
      rw [if_neg (c := _ ∧ _) (fun h => hacts (isControlTowerImpersonating_iff.mp h.2)),
        ite_eq_ok_iff, decide_eq_true_eq, adminMemberships_ne_nil_iff, and_iff_right_of_imp hwork]
      simp [hacts]

theorem isEmployee_eq_ok_iff : isEmployee q t request = .ok ()
    ↔ ∃ user, request.user = some user ∧ ∃ o, WorksFor t.toWorkspaceTables user o := by
  unfold isEmployee
  cases request.user with
  | none => simp
  | some user =>
    have hwork : (∃ o, WorksFor t.toWorkspaceTables user o) → user.accountType = .workforce :=
      fun ⟨_, h⟩ => h.1
    dsimp only
    rw [ite_eq_ok_iff, employeeRecords_ne_nil_iff, and_iff_right_of_imp hwork]
    simp

/-- **The organisation is open to a view**: it is active, has paid and has the module
of the view. -/
def OpenTo (t : PermissionTables) (view : View) (organisation : OrganisationId) : Prop :=
  isOperating t.toWorkspaceTables organisation = true
    ∧ ∀ code ∈ resolveFeatureFlagCode view, isOrgFeatureEnabled t organisation code = true

theorem belongsToActiveOrg_eq_ok_iff : belongsToActiveOrg q t request view = .ok ()
    ↔ ∃ user, request.user = some user ∧ (user.accountType = .controlTower
      ∨ ∃ o, memberOrganisation q t request.session user = some o ∧ OpenTo t view o) := by
  unfold belongsToActiveOrg
  cases request.user with
  | none => simp
  | some user =>
    simp only [Option.some.injEq, exists_eq_left']
    split
    · next htype => simp [htype]
    · next htype =>
      simp only [htype, false_or]
      cases hmember : memberOrganisation q t request.session user with
      | none => simp
      | some o =>
        cases hopen : isOperating t.toWorkspaceTables o with
        | false => simp [Option.filter, hopen, OpenTo]
        | true =>
          cases hcode : resolveFeatureFlagCode view with
          | none => simp [Option.filter, hopen, OpenTo, hcode]
          | some code =>
            cases henabled : isOrgFeatureEnabled t o code <;>
              simp [Option.filter, hopen, OpenTo, hcode, henabled]

/-- **The licence of the organisation has not expired.** -/
def Licensed (t : PermissionTables) (organisation : OrganisationId) : Prop :=
  0 < (getOrgLicenceSummary t.staff organisation).activePaidQuantity

theorem adminMutationsBlocked_iff :
    (getOrgOperationsGuard t organisation).adminMutationsBlocked = true
      ↔ ¬ Licensed t organisation := by
  unfold getOrgOperationsGuard Licensed
  simp

/-- A write of an administrator. -/
theorem orgAdminMutationAllowed_eq_ok_iff (huser : request.user = some user)
    (htype : user.accountType = .workforce) : orgAdminMutationAllowed q t request = .ok ()
      ↔ request.method.isSafe = true ∨ ∃ o, getActiveAdminOrganisation q t.toWorkspaceTables
        request.session user = some o ∧ Licensed t o := by
  unfold orgAdminMutationAllowed
  split
  · next hsafe => simp [hsafe]
  · next hsafe =>
    simp only [huser, htype, hsafe, Bool.false_eq_true, false_or, reduceCtorEq, false_and,
      ↓reduceIte, ne_eq, not_true_eq_false]
    cases horg : getActiveAdminOrganisation q t.toWorkspaceTables request.session user with
    | none => simp
    | some o =>
      dsimp only
      by_cases hlicensed : Licensed t o
      · rw [if_neg (fun h => adminMutationsBlocked_iff.mp h hlicensed)]
        simp [hlicensed]
      · rw [if_pos (adminMutationsBlocked_iff.mpr hlicensed)]
        simp [hlicensed]

/-- Who acts as an organisation reads, and may not write. -/
theorem orgAdminMutationAllowed_of_actsAs (huser : request.user = some user)
    (hacts : ∃ o, ActsAs t.toWorkspaceTables request.session user o) :
    orgAdminMutationAllowed q t request = .ok () ↔ request.method.isSafe = true := by
  unfold orgAdminMutationAllowed
  split
  · next hsafe => simp [hsafe]
  · next hsafe =>
    simp only [huser]
    rw [if_pos ⟨hacts.elim fun _ h => h.1, isControlTowerImpersonating_iff.mpr hacts⟩]
    simp [hsafe]

theorem memberOrganisation_rights
    (h : memberOrganisation q t session user = some organisation) :
    HasRights t.toWorkspaceTables session user organisation := by
  rcases Option.or_eq_some_iff.mp h with h | ⟨-, h⟩
  · exact (getActiveAdminOrganisation_rights h).imp_right Or.inr
  · obtain ⟨e, he, rfl⟩ := Option.map_eq_some_iff.mp h
    exact Or.inr (Or.inl (activeEmployee_rights he))

/-- The organisation of an administrator, before any other. -/
theorem memberOrganisation_of_admin
    (h : getActiveAdminOrganisation q t.toWorkspaceTables session user = some organisation) :
    memberOrganisation q t session user = some organisation := by
  rw [memberOrganisation, h, Option.some_or]

/-- **What an administrator's view serves**: reading, to who acts as an organisation;
and what is asked by an administrator of the organisation worked on, while that is
open to the view, and for writing licensed too. -/
theorem admission_iff (q : QueryOrder) (t : PermissionTables) (request : Request) (view : View) :
    admission q t request view = .ok () ↔ ∃ user, request.user = some user
      ∧ ((request.method.isSafe = true ∧ ∃ o, ActsAs t.toWorkspaceTables request.session user o)
        ∨ ∃ o, getActiveAdminOrganisation q t.toWorkspaceTables request.session user = some o
          ∧ Administers t.toWorkspaceTables user o ∧ OpenTo t view o
          ∧ (request.method.isSafe = true ∨ Licensed t o)) := by
  unfold admission
  rw [andThen_eq_ok_iff, andThen_eq_ok_iff, isOrgAdmin_eq_ok_iff, belongsToActiveOrg_eq_ok_iff]
  cases huser : request.user with
  | none => simp
  | some user =>
    simp only [Option.some.injEq, exists_eq_left']
    by_cases hacts : ∃ o, ActsAs t.toWorkspaceTables request.session user o
    · have htype : user.accountType = .controlTower := hacts.elim fun _ h => h.1
      have hnot : ∀ o, ¬ Administers t.toWorkspaceTables user o := by
        rintro o ⟨h, -⟩
        rw [htype] at h
        cases h
      rw [orgAdminMutationAllowed_of_actsAs huser hacts]
      simp [htype, hacts, hnot]
    · simp only [hacts, and_false, or_false, false_or]
      constructor
      · rintro ⟨⟨o, hadmin⟩, hopen, hallowed⟩
        have htype := hadmin.1
        obtain ⟨org, horg⟩ := Option.isSome_iff_exists.mp
          (getActiveAdminOrganisation_isSome_iff.mpr ⟨o, Or.inl hadmin⟩)
        refine ⟨org, horg, ?_, ?_, ?_⟩
        · exact (getActiveAdminOrganisation_rights horg).resolve_right (fun h => hacts ⟨_, h⟩)
        · rcases hopen with hct | ⟨o', hmember, hopen⟩
          · rw [htype] at hct
            cases hct
          · rw [memberOrganisation_of_admin horg] at hmember
            exact Option.some.inj hmember ▸ hopen
        · rcases (orgAdminMutationAllowed_eq_ok_iff huser htype).mp hallowed with h | ⟨o', ho', h⟩
          · exact Or.inl h
          · exact Or.inr (Option.some.inj (horg.symm.trans ho') ▸ h)
      · rintro ⟨o, horg, hadmin, hopen, hwrite⟩
        refine ⟨⟨o, hadmin⟩, Or.inr ⟨o, memberOrganisation_of_admin horg, hopen⟩, ?_⟩
        exact (orgAdminMutationAllowed_eq_ok_iff huser hadmin.1).mpr
          (hwrite.imp_right fun h => ⟨o, horg, h⟩)

/-- **What a Control Tower view serves**: to who acts as an organisation, reading, what
concerns acting itself, and three actions. -/
theorem isControlTowerUser_eq_ok_iff : isControlTowerUser t request view = .ok ()
    ↔ ∃ user, request.user = some user ∧ user.accountType = .controlTower
      ∧ (request.method.isSafe = true
        ∨ (¬ ∃ o, ActsAs t.toWorkspaceTables request.session user o)
        ∨ view.ctImpersonationPassthrough = true
        ∨ ∃ code ∈ view.ctImpersonationActionCode,
          isCtActionAllowedDuringImpersonation code = true) := by
  unfold isControlTowerUser
  cases request.user with
  | none => simp
  | some user =>
    have hany : view.ctImpersonationActionCode.any isCtActionAllowedDuringImpersonation = true
        ↔ ∃ code ∈ view.ctImpersonationActionCode,
          isCtActionAllowedDuringImpersonation code = true := by
      cases view.ctImpersonationActionCode <;> simp
    simp only [Option.some.injEq, exists_eq_left', ← isControlTowerImpersonating_iff, ← hany]
    by_cases htype : user.accountType = .controlTower
    · cases request.method.isSafe <;>
        cases isControlTowerImpersonating t.toWorkspaceTables request.session user <;>
        cases view.ctImpersonationPassthrough <;> simp [htype]
    · simp [htype]

/-- A decision of an employee. -/
theorem approvalActionsAllowed_eq_ok_iff (huser : request.user = some user)
    (htype : user.accountType = .workforce) : approvalActionsAllowed q t request = .ok ()
      ↔ request.method.isSafe = true
        ∨ ∃ o, memberOrganisation q t request.session user = some o ∧ Licensed t o := by
  unfold approvalActionsAllowed
  split
  · next hsafe => simp [hsafe]
  · next hsafe =>
    simp only [huser, htype, hsafe, Bool.false_eq_true, false_or, reduceCtorEq, ↓reduceIte]
    cases horg : memberOrganisation q t request.session user with
    | none => simp
    | some o =>
      have hblocked : (getOrgOperationsGuard t o).approvalActionsBlocked = true
          ↔ ¬ Licensed t o := adminMutationsBlocked_iff
      dsimp only
      by_cases hlicensed : Licensed t o
      · rw [if_neg (fun h => hblocked.mp h hlicensed)]
        simp [hlicensed]
      · rw [if_pos (hblocked.mpr hlicensed)]
        simp [hlicensed]

/-- **What an employee's view serves.** The organisation that has to be open and
licensed is the one the user administers, if there is one, and not the one the
user works for. -/
theorem employeeAdmission_iff (q : QueryOrder) (t : PermissionTables) (request : Request)
    (view : View) :
    employeeAdmission q t request view = .ok () ↔ ∃ user, request.user = some user
      ∧ (∃ o, WorksFor t.toWorkspaceTables user o)
      ∧ ∃ o, memberOrganisation q t request.session user = some o ∧ OpenTo t view o
        ∧ (request.method.isSafe = true ∨ Licensed t o) := by
  unfold employeeAdmission
  rw [andThen_eq_ok_iff, andThen_eq_ok_iff, isEmployee_eq_ok_iff, belongsToActiveOrg_eq_ok_iff]
  cases huser : request.user with
  | none => simp
  | some user =>
    simp only [Option.some.injEq, exists_eq_left']
    refine and_congr_right fun ⟨_, hworks⟩ => ?_
    have htype := hworks.1
    rw [approvalActionsAllowed_eq_ok_iff huser htype]
    constructor
    · rintro ⟨hct | ⟨o, hmember, hopen⟩, hallowed⟩
      · rw [htype] at hct
        cases hct
      · refine ⟨o, hmember, hopen, hallowed.imp_right ?_⟩
        rintro ⟨o', hmember', hlicensed⟩
        exact Option.some.inj (hmember.symm.trans hmember') ▸ hlicensed
    · rintro ⟨o, hmember, hopen, hwrite⟩
      exact ⟨Or.inr ⟨o, hmember, hopen⟩, hwrite.imp_right fun h => ⟨o, hmember, h⟩⟩

end Accounts
