import Clarisal.Employees.Invitations
import Clarisal.Lib.Run
import Clarisal.Lib.Transaction

/-!
# Invitations of administrators

Inviting an administrator makes a membership and a token, and names the
organisation's primary administrator at once. Accepting the token makes the
membership active and its user the primary administrator, whatever has become
of the membership meanwhile.

Revoking an invitation revokes the tokens that are pending; deactivating a
membership does not. An administrator who was invited while the account was
active already has an active membership and a token that is not accepted yet,
and the token outlives the deactivation (`accepted_after_deactivation`). The
administrator stays out exactly when no such token is accepted, and nobody
names the user the primary administrator (`lockedOut_iff_notLetIn`).
-/

open Transaction

namespace Invitations

open Approvals (UserId OrganisationId Time)
open Employees (EmployeeOnboardingStatus)
open Organisations (Organisation BootstrapAdminStatus)
open Payroll (EmployeeStatus)

abbrev InvitationId := ℕ

inductive AccountType
  | controlTower | workforce
deriving DecidableEq, Repr

inductive UserRole
  | controlTower | orgAdmin | employee
deriving DecidableEq, Repr

inductive OrganisationMembershipStatus
  | invited | active | inactive | revoked
deriving DecidableEq, Repr

inductive InvitationRole
  | orgAdmin | employee
deriving DecidableEq, Repr

inductive InvitationStatus
  | pending | accepted | expired | revoked
deriving DecidableEq, Repr

def InvitationStatus.value : InvitationStatus → String
  | pending => "PENDING"
  | accepted => "ACCEPTED"
  | expired => "EXPIRED"
  | revoked => "REVOKED"

structure User where
  id : UserId
  email : String
  accountType : AccountType
  role : UserRole
  isActive : Bool
deriving DecidableEq, Repr

/-- An organisation, with who administers it. The e-mail address and the user
of the bootstrap administrator count when there is one. -/
structure AdministeredOrganisation extends Organisation where
  primaryAdminUser : Option UserId
  bootstrapEmail : String
  bootstrapInvitedUser : Option UserId
deriving DecidableEq, Repr

structure OrganisationMembership where
  user : UserId
  organisation : OrganisationId
  isOrgAdmin : Bool
  status : OrganisationMembershipStatus
  invitedBy : Option UserId
  acceptedAt : Option Time
deriving DecidableEq, Repr

/-- An invitation; its token is the one thing that names it. -/
structure Invitation where
  id : InvitationId
  email : String
  organisation : Option OrganisationId
  role : InvitationRole
  invitedBy : Option UserId
  user : Option UserId
  status : InvitationStatus
  expiresAt : Time
  acceptedAt : Option Time
  revokedAt : Option Time
deriving DecidableEq, Repr

/-- What accepting an invitation reads of an employee. -/
structure Employee where
  user : UserId
  organisation : OrganisationId
  status : EmployeeStatus
  onboardingStatus : EmployeeOnboardingStatus
deriving DecidableEq, Repr

structure AdminTables where
  organisations : List AdministeredOrganisation
  users : List User
  memberships : List OrganisationMembership
  invitations : List Invitation
  employees : List Employee
  nextId : ℕ
deriving DecidableEq, Repr

/-- The settings, and how Python lowers and strips a text. -/
structure Settings where
  inviteTokenExpiryHours : ℕ := 48
  lower : String → String
  strip : String → String

def Settings.normalizeEmailAddress (cfg : Settings) (value : String) : String :=
  cfg.lower (cfg.strip value)

def OrganisationMembership.key (m : OrganisationMembership) : OrganisationId × UserId :=
  (m.organisation, m.user)

def Invitation.isExpired (invite : Invitation) (now : Time) : Prop := invite.expiresAt < now

def Invitation.isValid (invite : Invitation) (now : Time) : Prop :=
  invite.status = .pending ∧ ¬ invite.isExpired now

instance (invite : Invitation) (now : Time) : Decidable (invite.isExpired now) :=
  inferInstanceAs (Decidable (_ < _))

instance (invite : Invitation) (now : Time) : Decidable (invite.isValid now) :=
  inferInstanceAs (Decidable (_ ∧ _))

namespace AdminTables

def getOrganisation (t : AdminTables) (id : OrganisationId) : Option AdministeredOrganisation :=
  Table.find (fun org => org.id) id t.organisations

def getUser (t : AdminTables) (id : UserId) : Option User := Table.find User.id id t.users

/-- The account of an e-mail address. -/
def getAccount (t : AdminTables) (email : String) (accountType : AccountType) : Option User :=
  Table.find (fun user => (user.email, user.accountType)) (email, accountType) t.users

def getMembership (t : AdminTables) (organisation : OrganisationId) (user : UserId) :
    Option OrganisationMembership :=
  Table.find OrganisationMembership.key (organisation, user) t.memberships

def getInvitation (t : AdminTables) (token : InvitationId) : Option Invitation :=
  Table.find Invitation.id token t.invitations

def saveOrganisation (t : AdminTables) (org : AdministeredOrganisation) : AdminTables :=
  { t with organisations := Table.save (fun o => o.id) org t.organisations }

def saveUser (t : AdminTables) (user : User) : AdminTables :=
  { t with users := Table.save User.id user t.users }

def saveMembership (t : AdminTables) (m : OrganisationMembership) : AdminTables :=
  { t with memberships := Table.save OrganisationMembership.key m t.memberships }

def saveInvitation (t : AdminTables) (invite : Invitation) : AdminTables :=
  { t with invitations := Table.save Invitation.id invite t.invitations }

/-- The invitations of administrators that are pending and selected. -/
def revokePending (t : AdminTables) (organisation : OrganisationId) (p : Invitation → Bool)
    (now : Time) : AdminTables :=
  { t with
    invitations := Table.update
      (fun i => p i ∧ i.organisation = some organisation ∧ i.role = .orgAdmin
        ∧ i.status = .pending)
      (fun i => { i with status := .revoked, revokedAt := some now }) t.invitations }

/-- `sync_user_role`; who is no administrator is an employee, employed or not. -/
def syncUserRole (t : AdminTables) (user : UserId) : AdminTables :=
  let admin := t.memberships.any (fun m =>
    m.user = user ∧ m.isOrgAdmin ∧ (m.status = .active ∨ m.status = .invited))
  { t with
    users := Table.update (fun u => u.id = user)
      (fun u => { u with
        role := if u.accountType = .controlTower then .controlTower
          else if admin then .orgAdmin else .employee }) t.users }

end AdminTables

/-! ## Memberships -/

/-- `set_primary_admin`. -/
def setPrimaryAdmin (org : AdministeredOrganisation) (user : UserId) : AdministeredOrganisation :=
  { org with
    toOrganisation := Organisations.bumpOnboardingStage org.toOrganisation .adminInvited
    primaryAdminUser := some user }

/-- The row of a membership that did not exist. -/
def newMembership (organisation : OrganisationId) (user : UserId) (invitedBy : Option UserId)
    (status : OrganisationMembershipStatus) (now : Time) : OrganisationMembership where
  user := user
  organisation := organisation
  isOrgAdmin := true
  status := status
  invitedBy := invitedBy
  acceptedAt := if status = .active then some now else none

/-- The row of a membership that did. -/
def OrganisationMembership.ensured (m : OrganisationMembership) (invitedBy : Option UserId)
    (status : OrganisationMembershipStatus) (now : Time) : OrganisationMembership :=
  { m with
    isOrgAdmin := true
    status := status
    invitedBy := m.invitedBy.or invitedBy
    acceptedAt := if status = .active then m.acceptedAt.or (some now) else m.acceptedAt }

def ensureOrgAdminMembership (organisation : OrganisationId) (user : UserId)
    (invitedBy : Option UserId) (status : OrganisationMembershipStatus) (now : Time)
    (t : AdminTables) : AdminTables :=
  match t.getMembership organisation user with
  | none =>
    { t with
      memberships := t.memberships ++ [newMembership organisation user invitedBy status now] }
  | some m => t.saveMembership (m.ensured invitedBy status now)

/-- The membership of an administrator. -/
def getAdminMembership (organisation : OrganisationId) (user : UserId) (t : AdminTables) :
    Except String OrganisationMembership :=
  match t.getMembership organisation user with
  | none => .error "Organisation admin membership not found."
  | some m =>
    if m.isOrgAdmin then .ok m else .error "Organisation admin membership not found."

/-- Another administrator of the organisation is active. -/
def OtherActiveAdmin (m : OrganisationMembership) (t : AdminTables) : Prop :=
  ∃ other ∈ t.memberships, other.organisation = m.organisation ∧ other.isOrgAdmin = true
    ∧ other.status = .active ∧ other.user ≠ m.user

instance (m : OrganisationMembership) (t : AdminTables) : Decidable (OtherActiveAdmin m t) :=
  inferInstanceAs (Decidable (∃ other ∈ t.memberships, _))

def deactivateOrgAdminMembership (org : AdministeredOrganisation) (user : User)
    (t : AdminTables) : Except String AdminTables := do
  let m ← getAdminMembership org.id user.id t
  if m.status ≠ .active then .error "Only active organisation admins can be deactivated."
  else if org.primaryAdminUser = some user.id then
    .error "Reassign the primary organisation admin before deactivating this admin."
  else if ¬ OtherActiveAdmin m t then
    .error "At least one active organisation admin must remain assigned."
  else .ok ((t.saveMembership { m with status := .inactive }).syncUserRole user.id)

def reactivateOrgAdminMembership (org : AdministeredOrganisation) (user : User) (now : Time)
    (t : AdminTables) : Except String AdminTables := do
  let m ← getAdminMembership org.id user.id t
  if m.status ≠ .inactive then .error "Only inactive organisation admins can be reactivated."
  else if ¬ user.isActive then
    .error "This admin account is inactive. Resend the invite instead."
  else
    .ok ((t.saveMembership { m with
      status := .active, acceptedAt := m.acceptedAt.or (some now) }).syncUserRole user.id)

/-- The bootstrap administrator whose invitation is revoked. -/
def revokeBootstrap (cfg : Settings) (org : AdministeredOrganisation) (user : User) :
    AdministeredOrganisation :=
  if org.bootstrapAdmin ≠ none
      ∧ cfg.normalizeEmailAddress org.bootstrapEmail = cfg.normalizeEmailAddress user.email then
    { org with
      bootstrapAdmin := some .draft
      bootstrapInvitedUser := none
      primaryAdminUser :=
        if org.primaryAdminUser = some user.id then none else org.primaryAdminUser }
  else org

def revokeOrgAdminMembershipInvitation (cfg : Settings) (org : AdministeredOrganisation)
    (user : User) (now : Time) (t : AdminTables) : Except String AdminTables := do
  let m ← getAdminMembership org.id user.id t
  if m.status ≠ .invited then .error "Only invited organisation admins can be revoked."
  else
    let t := (t.revokePending org.id (fun i => i.user = some user.id) now).saveMembership
      { m with status := .revoked }
    .ok ((t.saveOrganisation (revokeBootstrap cfg org user)).syncUserRole user.id)

/-! ## Inviting -/

/-- The account of a new administrator. -/
def newUser (email : String) (t : AdminTables) : User where
  id := t.nextId
  email := email
  accountType := .workforce
  role := .orgAdmin
  isActive := false

/-- `User.objects.get_or_create(…)`; saving a user normalizes the address.
`raises` is what resolving the contacts of the user raises, if anything. -/
def getOrCreateUser (cfg : Settings) (email : String) (raises : Option String)
    (t : AdminTables) : Except String (User × AdminTables) :=
  let normalized := cfg.normalizeEmailAddress email
  match t.getAccount email .workforce, raises with
  | _, some e => .error e
  | some user, none => .ok (user, t)
  | none, none =>
    if normalized = "" then .error "Email is required."
    else if (t.getAccount normalized .workforce).isSome then
      .error "duplicate key value violates unique constraint \"unique_email_per_account_type\""
    else
      let user := newUser normalized t
      .ok (user, { t with users := t.users ++ [user], nextId := t.nextId + 1 })

/-- The bootstrap administrator who is invited. -/
def inviteBootstrap (cfg : Settings) (email : String) (user : UserId)
    (org : AdministeredOrganisation) : AdministeredOrganisation :=
  if org.bootstrapAdmin ≠ none ∧ cfg.lower org.bootstrapEmail = cfg.lower email then
    { org with bootstrapAdmin := some .invitePending, bootstrapInvitedUser := some user }
  else org

/-- The row of an invitation. -/
def newInvitation (cfg : Settings) (organisation : OrganisationId) (email : String)
    (user : UserId) (invitedBy : Option UserId) (now : Time) (t : AdminTables) : Invitation where
  id := t.nextId
  email := email
  organisation := some organisation
  role := .orgAdmin
  invitedBy := invitedBy
  user := some user
  status := .pending
  expiresAt := now + 3600 * cfg.inviteTokenExpiryHours
  acceptedAt := none
  revokedAt := none

/-- What an invitation writes once its user is known. -/
def inviteUser (cfg : Settings) (org : AdministeredOrganisation) (email : String) (user : User)
    (invitedBy : Option UserId) (now : Time) (t : AdminTables) : AdminTables :=
  let t := ensureOrgAdminMembership org.id user.id invitedBy
    (if user.isActive then .active else .invited) now t
  let t := { t with
    invitations := t.invitations ++ [newInvitation cfg org.id email user.id invitedBy now t]
    nextId := t.nextId + 1 }
  let org := inviteBootstrap cfg email user.id (setPrimaryAdmin org user.id)
  (t.saveOrganisation org).syncUserRole user.id

def createOrgAdminInvitation (cfg : Settings) (org : AdministeredOrganisation) (email : String)
    (invitedBy : Option UserId) (raises : Option String) (now : Time) (t : AdminTables) :
    Except String AdminTables := do
  let (user, t) ← getOrCreateUser cfg email raises
    (t.revokePending org.id (fun i => i.email = email) now)
  return inviteUser cfg org email user invitedBy now t

/-! ## Accepting -/

def validateInviteToken (token : InvitationId) (now : Time) (t : AdminTables) :
    Except String Invitation :=
  match t.getInvitation token with
  | none => .error "Invitation not found."
  | some invite =>
    if ¬ invite.isValid now then
      if invite.isExpired now then .error "This invitation has expired."
      else .error ("This invitation is " ++ invite.status.value ++ ".")
    else .ok invite

/-- An account that is not active is activated. `raises` is what resolving its
contacts raises, if anything. -/
def activate (user : User) (password : String) (raises : Option String) (t : AdminTables) :
    Except String AdminTables :=
  if user.isActive then .ok t
  else if password = "" then .error "Password is required to activate this account."
  else
    match raises with
    | some e => .error e
    | none => .ok (t.saveUser { user with isActive := true })

def markBootstrapAdminAccepted (cfg : Settings) (org : AdministeredOrganisation) (user : User) :
    AdministeredOrganisation :=
  if org.bootstrapAdmin ≠ none
      ∧ cfg.normalizeEmailAddress org.bootstrapEmail = cfg.normalizeEmailAddress user.email then
    { org with bootstrapAdmin := some .inviteAccepted, bootstrapInvitedUser := some user.id }
  else org

/-- The first administrator who accepts activates an organisation that has paid. -/
def activatePaid (org : AdministeredOrganisation) : Except String AdministeredOrganisation :=
  if org.status = .paid then do
    let activated ← Organisations.transitionOrganisationState org.toOrganisation .active
    return { org with toOrganisation := activated }
  else .ok org

/-- An administrator accepts. -/
def acceptOrgAdmin (cfg : Settings) (organisation : OrganisationId) (user : User)
    (invitedBy : Option UserId) (now : Time) (t : AdminTables) : Except String AdminTables := do
  let t := ensureOrgAdminMembership organisation user.id invitedBy .active now t
  match t.getOrganisation organisation with
  | none => .error "Organisation matching query does not exist."
  | some org => do
    let org ← activatePaid (markBootstrapAdminAccepted cfg org user)
    return t.saveOrganisation (setPrimaryAdmin org user.id)

/-- An employee accepts. -/
def acceptEmployee (organisation : OrganisationId) (user : User) (t : AdminTables) :
    Except String AdminTables :=
  if t.employees.any (fun e => e.user = user.id ∧ e.organisation = organisation) then
    .ok { t with
      employees := Table.update
        (fun e => e.user = user.id ∧ e.organisation = organisation ∧ e.status = .invited)
        (fun e => { e with onboardingStatus := .basicDetailsPending }) t.employees }
  else .error "Employee matching query does not exist."

/-- What accepting writes for the role of the invitation. -/
def acceptRole (cfg : Settings) (invite : Invitation) (user : User) (now : Time)
    (t : AdminTables) : Except String AdminTables :=
  match invite.organisation with
  | none => .ok t
  | some organisation =>
    match invite.role with
    | .orgAdmin => acceptOrgAdmin cfg organisation user invite.invitedBy now t
    | .employee => acceptEmployee organisation user t

/-- The user of an invitation. -/
def getInvited (invite : Invitation) (t : AdminTables) : Except String User :=
  match invite.user.bind t.getUser with
  | none => .error "Invitation has no associated user."
  | some user => .ok user

def acceptInvitation (cfg : Settings) (token : InvitationId) (password : String)
    (raises : Option String) (now : Time) (t : AdminTables) : Except String AdminTables := do
  let invite ← validateInviteToken token now t
  let user ← getInvited invite t
  let t ← activate user password raises t
  let t ← acceptRole cfg invite user now
    (t.saveInvitation { invite with status := .accepted, acceptedAt := some now })
  return t.syncUserRole user.id

/-! ## Runs -/

inductive Op
  | createOrgAdminInvitation (organisation : OrganisationId) (email : String)
      (invitedBy : Option UserId) (raises : Option String) (now : Time)
  | acceptInvitation (token : InvitationId) (password : String) (raises : Option String)
      (now : Time)
  | setPrimaryAdmin (organisation : OrganisationId) (user : UserId)
  | deactivateOrgAdminMembership (organisation : OrganisationId) (user : UserId)
  | reactivateOrgAdminMembership (organisation : OrganisationId) (user : UserId) (now : Time)
  | revokeOrgAdminMembershipInvitation (organisation : OrganisationId) (user : UserId)
      (now : Time)
deriving DecidableEq, Repr

/-- The organisation and the user of a request. -/
def getAdmin (organisation : OrganisationId) (user : UserId) (t : AdminTables) :
    Except String (AdministeredOrganisation × User) :=
  match t.getOrganisation organisation, t.getUser user with
  | some org, some u => .ok (org, u)
  | _, _ => .error "No Organisation matches the given query."

def perform (cfg : Settings) (t : AdminTables) : Op → Except String AdminTables
  | .createOrgAdminInvitation organisation email invitedBy raises now =>
    match t.getOrganisation organisation with
    | none => .error "No Organisation matches the given query."
    | some org => createOrgAdminInvitation cfg org email invitedBy raises now t
  | .acceptInvitation token password raises now =>
    acceptInvitation cfg token password raises now t
  | .setPrimaryAdmin organisation user => do
    let (org, u) ← getAdmin organisation user t
    return t.saveOrganisation (Invitations.setPrimaryAdmin org u.id)
  | .deactivateOrgAdminMembership organisation user => do
    let (org, u) ← getAdmin organisation user t
    Invitations.deactivateOrgAdminMembership org u t
  | .reactivateOrgAdminMembership organisation user now => do
    let (org, u) ← getAdmin organisation user t
    Invitations.reactivateOrgAdminMembership org u now t
  | .revokeOrgAdminMembershipInvitation organisation user now => do
    let (org, u) ← getAdmin organisation user t
    Invitations.revokeOrgAdminMembershipInvitation cfg org u now t

/-- An operation that is refused leaves the tables as they are. -/
def step (cfg : Settings) (t : AdminTables) (op : Op) : AdminTables := settle t (perform cfg t op)

/-! ## Staying out -/

/-- **Locked out**: the user's membership is not active, and the user is not the
primary administrator. -/
structure LockedOut (organisation : OrganisationId) (user : UserId) (t : AdminTables) : Prop where
  membership : ∀ m ∈ t.memberships, m.organisation = organisation → m.user = user →
    m.status ≠ .active
  primary : ∀ org ∈ t.organisations, org.id = organisation → org.primaryAdminUser ≠ some user

/-- The operation readmits the user: a reactivation, or a new invitation. -/
def Readmits (organisation : OrganisationId) (user : UserId) (t : AdminTables) : Op → Prop
  | .createOrgAdminInvitation org email _ _ _ =>
    org = organisation ∧ (t.getAccount email .workforce).map User.id = some user
  | .reactivateOrgAdminMembership org admin _ => org = organisation ∧ admin = user
  | _ => False

/-- **The operation lets the user in**: it accepts an invitation of the user that
was never revoked, or names the user the primary administrator. -/
def LetsIn (organisation : OrganisationId) (user : UserId) (t : AdminTables) : Op → Prop
  | .acceptInvitation token password raises now => ∃ invite account,
    t.getInvitation token = some invite ∧ invite.isValid now ∧ invite.role = .orgAdmin
      ∧ invite.organisation = some organisation ∧ invite.user = some user
      ∧ t.getUser user = some account
      ∧ (account.isActive = true ∨ password ≠ "" ∧ raises = none)
  | .setPrimaryAdmin org admin => org = organisation ∧ admin = user
  | _ => False

instance (organisation : OrganisationId) (user : UserId) (t : AdminTables) :
    ∀ op, Decidable (Readmits organisation user t op)
  | .createOrgAdminInvitation .. => inferInstanceAs (Decidable (_ ∧ _))
  | .reactivateOrgAdminMembership .. => inferInstanceAs (Decidable (_ ∧ _))
  | .acceptInvitation .. | .setPrimaryAdmin .. | .deactivateOrgAdminMembership ..
  | .revokeOrgAdminMembershipInvitation .. => inferInstanceAs (Decidable False)

/-- Organisations are known by their ids, and new ids are fresh. -/
structure AdminTables.Known (t : AdminTables) : Prop where
  organisations : Table.Unique (fun org => org.id) t.organisations
  fresh : ∀ id ∈ t.users.map User.id, id < t.nextId

/-- The organisation and the user exist. -/
structure AdminTables.Has (organisation : OrganisationId) (user : UserId) (t : AdminTables) :
    Prop where
  organisation : organisation ∈ t.organisations.map (fun org => org.id)
  user : user ∈ t.users.map User.id

/-- No row of an organisation or a user goes. -/
structure Extends (t t' : AdminTables) : Prop where
  organisations : t'.organisations.map (fun org => org.id)
    = t.organisations.map (fun org => org.id)
  users : t.users.map User.id ⊆ t'.users.map User.id
  fresh : (∀ id ∈ t.users.map User.id, id < t.nextId) → ∀ id ∈ t'.users.map User.id,
    id < t'.nextId

section

variable {cfg : Settings} {t t' t'' : AdminTables} {organisation o : OrganisationId}
  {user u : UserId} {org org' : AdministeredOrganisation} {account : User}
  {m : OrganisationMembership} {invite : Invitation} {invitedBy : Option UserId}
  {status : OrganisationMembershipStatus} {now : Time} {email password : String}
  {raises : Option String} {token : InvitationId}

/-! ## What stays -/

theorem Extends.refl (t : AdminTables) : Extends t t :=
  ⟨rfl, List.Subset.refl _, id⟩

theorem Extends.trans (h : Extends t t') (h' : Extends t' t'') : Extends t t'' :=
  ⟨h'.organisations.trans h.organisations, List.Subset.trans h.users h'.users, h'.fresh ∘ h.fresh⟩

/-- Other tables change. -/
theorem Extends.of_eq (horganisations : t'.organisations = t.organisations)
    (husers : t'.users = t.users) (hnext : t.nextId ≤ t'.nextId) : Extends t t' where
  organisations := by rw [horganisations]
  users := by rw [husers]; exact List.Subset.refl _
  fresh h id hid := (h id (husers ▸ hid)).trans_le hnext

/-- Users change, and keep their ids. -/
theorem Extends.of_map_users (horganisations : t'.organisations = t.organisations)
    (husers : t'.users.map User.id = t.users.map User.id) (hnext : t'.nextId = t.nextId) :
    Extends t t' where
  organisations := by rw [horganisations]
  users := by rw [husers]; exact List.Subset.refl _
  fresh h id hid := hnext ▸ h id (husers ▸ hid)

theorem extends_saveOrganisation (t : AdminTables) (org : AdministeredOrganisation) :
    Extends t (t.saveOrganisation org) where
  organisations := Table.map_key_save org t.organisations
  users := List.Subset.refl _
  fresh := id

theorem extends_saveUser (t : AdminTables) (account : User) : Extends t (t.saveUser account) :=
  Extends.of_map_users rfl (Table.map_key_save account t.users) rfl

theorem extends_syncUserRole (t : AdminTables) (user : UserId) :
    Extends t (t.syncUserRole user) :=
  Extends.of_map_users rfl (Table.map_update (g := User.id) (by exact fun _ => rfl) t.users) rfl

theorem extends_ensureOrgAdminMembership (t : AdminTables) (organisation : OrganisationId)
    (user : UserId) (invitedBy : Option UserId) (status : OrganisationMembershipStatus)
    (now : Time) :
    Extends t (ensureOrgAdminMembership organisation user invitedBy status now t) := by
  unfold ensureOrgAdminMembership
  split
  · exact Extends.of_eq rfl rfl le_rfl
  · exact Extends.of_eq rfl rfl le_rfl

theorem extends_inviteUser (t : AdminTables) (cfg : Settings) (org : AdministeredOrganisation)
    (email : String) (account : User) (invitedBy : Option UserId) (now : Time) :
    Extends t (inviteUser cfg org email account invitedBy now t) := by
  unfold inviteUser
  have hensured := extends_ensureOrgAdminMembership t org.id account.id invitedBy
    (if account.isActive then .active else .invited) now
  refine Extends.trans ?_ (extends_syncUserRole _ _)
  refine Extends.trans ?_ (extends_saveOrganisation _ _)
  exact hensured.trans (Extends.of_eq rfl rfl (Nat.le_succ _))

/-- **The user of an invitation**: the account of the address, or one with a
fresh id. -/
theorem getOrCreateUser_eq_ok (h : getOrCreateUser cfg email raises t = .ok (account, t')) :
    Extends t t' ∧ t'.memberships = t.memberships ∧ t'.organisations = t.organisations
      ∧ (t.getAccount email .workforce = some account ∨ account.id = t.nextId) := by
  unfold getOrCreateUser at h
  dsimp only at h
  split at h
  · cases h
  · next found =>
    obtain ⟨rfl, rfl⟩ := Prod.mk.inj (Except.ok.inj h)
    exact ⟨Extends.refl _, rfl, rfl, Or.inl found⟩
  · split_ifs at h
    obtain ⟨rfl, rfl⟩ := Prod.mk.inj (Except.ok.inj h)
    refine ⟨⟨rfl, ?_, ?_⟩, rfl, rfl, Or.inr rfl⟩
    · rw [List.map_append]
      exact List.subset_append_left _ _
    · intro hfresh id hid
      rw [List.map_append] at hid
      rcases List.mem_append.mp hid with hid | hid
      · exact Nat.lt_succ_of_lt (hfresh id hid)
      · exact List.mem_singleton.mp hid ▸ Nat.lt_succ_self _

/-- **An account is activated**: it is active already, or has a password. -/
theorem activate_eq_ok_iff : activate account password raises t = .ok t'
    ↔ (account.isActive = true ∧ t = t')
      ∨ (account.isActive = false ∧ password ≠ "" ∧ raises = none
        ∧ t.saveUser { account with isActive := true } = t') := by
  unfold activate
  cases account.isActive with
  | true => simp
  | false =>
    by_cases hpassword : password = ""
    · simp [hpassword]
    · cases raises <;> simp [hpassword]

theorem activate_keeps (h : activate account password raises t = .ok t') :
    Extends t t' ∧ t'.memberships = t.memberships ∧ t'.organisations = t.organisations := by
  rcases activate_eq_ok_iff.mp h with ⟨_, rfl⟩ | ⟨_, _, _, rfl⟩
  · exact ⟨Extends.refl _, rfl, rfl⟩
  · exact ⟨extends_saveUser _ _, rfl, rfl⟩

theorem getOrganisation_id (h : t.getOrganisation o = some org) : org.id = o := by
  have hkey := Table.find_key h
  exact hkey

/-- An organisation that has paid may always be activated. -/
theorem exists_activatePaid (org : AdministeredOrganisation) :
    ∃ org', activatePaid org = .ok org' := by
  unfold activatePaid
  split
  · next hpaid =>
    unfold Organisations.transitionOrganisationState
    rw [if_pos (by rw [hpaid]; decide)]
    exact ⟨_, rfl⟩
  · exact ⟨_, rfl⟩

theorem transition_id {s s' : Organisation} {newStatus : Organisations.OrganisationStatus}
    (h : Organisations.transitionOrganisationState s newStatus = .ok s') : s'.id = s.id := by
  have hbump : ∀ (r : Organisation) stage,
      (Organisations.bumpOnboardingStage r stage).id = r.id := by
    intro r stage
    unfold Organisations.bumpOnboardingStage
    split <;> rfl
  unfold Organisations.transitionOrganisationState at h
  split at h
  · rw [← Except.ok.inj h]
    cases newStatus with
    | pending => rfl
    | paid => exact hbump _ _
    | active => exact hbump _ _
    | suspended => rfl
  · cases h

theorem activatePaid_id (h : activatePaid org = .ok org') : org'.id = org.id := by
  unfold activatePaid at h
  split at h
  · obtain ⟨_, htransition, h⟩ := bind_eq_ok_iff.mp h
    rw [← pure_eq_ok_iff.mp h]
    exact transition_id htransition
  · rw [Except.ok.inj h]

theorem markBootstrapAdminAccepted_id (cfg : Settings) (org : AdministeredOrganisation)
    (account : User) : (markBootstrapAdminAccepted cfg org account).id = org.id := by
  unfold markBootstrapAdminAccepted
  split <;> rfl

theorem setPrimaryAdmin_id (org : AdministeredOrganisation) (user : UserId) :
    (setPrimaryAdmin org user).id = org.id := by
  show (Organisations.bumpOnboardingStage org.toOrganisation .adminInvited).id = org.id
  unfold Organisations.bumpOnboardingStage
  split <;> rfl

theorem inviteBootstrap_id (cfg : Settings) (email : String) (user : UserId)
    (org : AdministeredOrganisation) : (inviteBootstrap cfg email user org).id = org.id := by
  unfold inviteBootstrap
  split <;> rfl

theorem inviteBootstrap_primaryAdminUser (cfg : Settings) (email : String) (user : UserId)
    (org : AdministeredOrganisation) :
    (inviteBootstrap cfg email user org).primaryAdminUser = org.primaryAdminUser := by
  unfold inviteBootstrap
  split <;> rfl

/-- **Accepting as an administrator**: the membership is active, and the user is
the primary administrator. -/
theorem acceptOrgAdmin_eq_ok
    (h : acceptOrgAdmin cfg organisation account invitedBy now t = .ok t') :
    ∃ org', org'.id = organisation ∧ org'.primaryAdminUser = some account.id
      ∧ t' = (ensureOrgAdminMembership organisation account.id invitedBy .active now
        t).saveOrganisation org' := by
  unfold acceptOrgAdmin at h
  dsimp only at h
  split at h
  · cases h
  · next found hfound =>
    obtain ⟨org', hactivated, h⟩ := bind_eq_ok_iff.mp h
    refine ⟨setPrimaryAdmin org' account.id, ?_, rfl, (pure_eq_ok_iff.mp h).symm⟩
    rw [setPrimaryAdmin_id, activatePaid_id hactivated, markBootstrapAdminAccepted_id]
    exact getOrganisation_id hfound

/-- An organisation that exists takes its administrator. -/
theorem exists_acceptOrgAdmin (horg : organisation ∈ t.organisations.map (fun o => o.id)) :
    ∃ t', acceptOrgAdmin cfg organisation account invitedBy now t = .ok t' := by
  unfold acceptOrgAdmin
  dsimp only
  have hsame : (ensureOrgAdminMembership organisation account.id invitedBy .active now
      t).getOrganisation organisation = t.getOrganisation organisation := by
    unfold ensureOrgAdminMembership
    split <;> rfl
  rw [hsame]
  cases hfound : t.getOrganisation organisation with
  | none =>
    obtain ⟨row, hrow, hid⟩ := List.mem_map.mp horg
    exact absurd hid (Table.find_eq_none_iff.mp hfound row hrow)
  | some row =>
    obtain ⟨org', hactivated⟩ := exists_activatePaid (markBootstrapAdminAccepted cfg row account)
    exact ⟨_, bind_eq_ok_iff.mpr ⟨org', hactivated, rfl⟩⟩

theorem extends_acceptRole (h : acceptRole cfg invite account now t = .ok t') : Extends t t' := by
  unfold acceptRole at h
  split at h
  · exact Except.ok.inj h ▸ Extends.refl t
  · split at h
    · obtain ⟨org', _, _, rfl⟩ := acceptOrgAdmin_eq_ok h
      exact (extends_ensureOrgAdminMembership t _ _ _ _ _).trans (extends_saveOrganisation _ _)
    · unfold acceptEmployee at h
      split at h
      · rw [← Except.ok.inj h]
        exact Extends.of_eq rfl rfl le_rfl
      · cases h

/-- **No row of an organisation or a user goes**, in any operation. -/
theorem extends_step (cfg : Settings) (t : AdminTables) (op : Op) : Extends t (step cfg t op) := by
  refine settle_induction (Extends.refl t) (fun t' h => ?_)
  cases op with
  | createOrgAdminInvitation organisation email invitedBy raises now =>
    simp only [perform] at h
    split at h
    · cases h
    · next org _ =>
      obtain ⟨⟨account, t₁⟩, hcreated, h⟩ := bind_eq_ok_iff.mp h
      obtain rfl := pure_eq_ok_iff.mp h
      have hrevoked : Extends t (t.revokePending org.id (fun i => i.email = email) now) :=
        Extends.of_eq rfl rfl le_rfl
      exact hrevoked.trans ((getOrCreateUser_eq_ok hcreated).1.trans
        (extends_inviteUser _ _ _ _ _ _ _))
  | acceptInvitation token password raises now =>
    obtain ⟨invite, _, h⟩ := bind_eq_ok_iff.mp h
    obtain ⟨account, _, h⟩ := bind_eq_ok_iff.mp h
    obtain ⟨t₁, hactivated, h⟩ := bind_eq_ok_iff.mp h
    obtain ⟨t₂, haccepted, h⟩ := bind_eq_ok_iff.mp h
    obtain rfl := pure_eq_ok_iff.mp h
    refine (activate_keeps hactivated).1.trans ?_
    refine Extends.trans ?_ (extends_syncUserRole t₂ account.id)
    refine Extends.trans ?_ (extends_acceptRole haccepted)
    exact Extends.of_eq rfl rfl le_rfl
  | setPrimaryAdmin organisation user =>
    obtain ⟨⟨org, account⟩, _, h⟩ := bind_eq_ok_iff.mp h
    obtain rfl := pure_eq_ok_iff.mp h
    exact extends_saveOrganisation t _
  | deactivateOrgAdminMembership organisation user =>
    obtain ⟨⟨org, account⟩, _, h⟩ := bind_eq_ok_iff.mp h
    obtain ⟨m, _, h⟩ := bind_eq_ok_iff.mp h
    split_ifs at h
    obtain rfl := (Except.ok.inj h).symm
    refine Extends.trans ?_ (extends_syncUserRole _ _)
    exact Extends.of_eq rfl rfl le_rfl
  | reactivateOrgAdminMembership organisation user now =>
    obtain ⟨⟨org, account⟩, _, h⟩ := bind_eq_ok_iff.mp h
    obtain ⟨m, _, h⟩ := bind_eq_ok_iff.mp h
    split_ifs at h
    obtain rfl := (Except.ok.inj h).symm
    refine Extends.trans ?_ (extends_syncUserRole _ _)
    exact Extends.of_eq rfl rfl le_rfl
  | revokeOrgAdminMembershipInvitation organisation user now =>
    obtain ⟨⟨org, account⟩, _, h⟩ := bind_eq_ok_iff.mp h
    obtain ⟨m, _, h⟩ := bind_eq_ok_iff.mp h
    split_ifs at h
    obtain rfl := (Except.ok.inj h).symm
    refine Extends.trans ?_ (extends_syncUserRole _ _)
    refine Extends.trans ?_ (extends_saveOrganisation _ _)
    exact Extends.of_eq rfl rfl le_rfl

theorem AdminTables.Known.step (h : t.Known) (cfg : Settings) (op : Op) :
    (Invitations.step cfg t op).Known where
  organisations := by
    unfold Table.Unique
    rw [(extends_step cfg t op).organisations]
    exact h.organisations
  fresh := (extends_step cfg t op).fresh h.fresh

theorem AdminTables.Has.step (h : t.Has o u) (cfg : Settings) (op : Op) :
    (Invitations.step cfg t op).Has o u where
  organisation := by
    rw [(extends_step cfg t op).organisations]
    exact h.organisation
  user := (extends_step cfg t op).users h.user

/-! ## What lets a user in -/

/-- Other tables change. -/
theorem LockedOut.of_eq (h : LockedOut o u t) (hmemberships : t'.memberships = t.memberships)
    (horganisations : t'.organisations = t.organisations) : LockedOut o u t' :=
  ⟨hmemberships ▸ h.membership, horganisations ▸ h.primary⟩

theorem LockedOut.syncUserRole (h : LockedOut o u t) (user : UserId) :
    LockedOut o u (t.syncUserRole user) := h.of_eq rfl rfl

/-- A membership that is saved, of another administrator or not active. -/
theorem LockedOut.saveMembership (h : LockedOut o u t)
    (hm : m.organisation = o → m.user = u → m.status ≠ .active) :
    LockedOut o u (t.saveMembership m) where
  membership n hn := by
    rcases Table.mem_save hn with rfl | ⟨hn, _⟩
    · exact hm
    · exact h.membership n hn
  primary := h.primary

/-- An organisation that is saved, another one or with another primary
administrator. -/
theorem LockedOut.saveOrganisation (h : LockedOut o u t)
    (horg : org.id = o → org.primaryAdminUser ≠ some u) :
    LockedOut o u (t.saveOrganisation org) where
  membership := h.membership
  primary row hrow := by
    rcases Table.mem_save hrow with rfl | ⟨hrow, _⟩
    · exact horg
    · exact h.primary row hrow

/-- The membership of another administrator is ensured. -/
theorem LockedOut.ensureOrgAdminMembership (h : LockedOut o u t)
    (hother : ¬ (organisation = o ∧ user = u)) (invitedBy : Option UserId)
    (status : OrganisationMembershipStatus) (now : Time) :
    LockedOut o u (ensureOrgAdminMembership organisation user invitedBy status now t) := by
  unfold Invitations.ensureOrgAdminMembership
  split
  · refine ⟨fun n hn => ?_, h.primary⟩
    rcases List.mem_append.mp hn with hn | hn
    · exact h.membership n hn
    · obtain rfl := List.mem_singleton.mp hn
      exact fun horg huser => absurd ⟨horg, huser⟩ hother
  · next m hm =>
    have hkey : m.key = (organisation, user) := Table.find_key hm
    obtain ⟨rfl, rfl⟩ := Prod.mk.inj hkey
    exact h.saveMembership (fun horg huser => absurd ⟨horg, huser⟩ hother)

/-- A membership that is ensured has the status. -/
theorem exists_ensureOrgAdminMembership (t : AdminTables) (organisation : OrganisationId)
    (user : UserId) (invitedBy : Option UserId) (status : OrganisationMembershipStatus)
    (now : Time) :
    ∃ m ∈ (ensureOrgAdminMembership organisation user invitedBy status now t).memberships,
      m.organisation = organisation ∧ m.user = user ∧ m.status = status := by
  unfold ensureOrgAdminMembership
  split
  · exact ⟨_, List.mem_append_right _ (List.mem_singleton_self _), rfl, rfl, rfl⟩
  · next m hm =>
    have hkey : m.key = (organisation, user) := Table.find_key hm
    obtain ⟨horg, huser⟩ := Prod.mk.inj hkey
    exact ⟨m.ensured invitedBy status now, Table.mem_save_self (Table.find_mem hm) rfl, horg,
      huser, rfl⟩

/-- **Another administrator is invited.** -/
theorem LockedOut.inviteUser (h : LockedOut o u t) (hother : ¬ (org.id = o ∧ account.id = u))
    (cfg : Settings) (email : String) (invitedBy : Option UserId) (now : Time) :
    LockedOut o u (inviteUser cfg org email account invitedBy now t) := by
  unfold Invitations.inviteUser
  refine LockedOut.syncUserRole ?_ _
  refine LockedOut.saveOrganisation ?_ ?_
  · exact (h.ensureOrgAdminMembership hother invitedBy _ now).of_eq rfl rfl
  · intro hid hprimary
    rw [inviteBootstrap_primaryAdminUser] at hprimary
    rw [inviteBootstrap_id, setPrimaryAdmin_id] at hid
    exact hother ⟨hid, Option.some.inj hprimary⟩

theorem getInvitation_eq_some (h : validateInviteToken token now t = .ok invite) :
    t.getInvitation token = some invite ∧ invite.isValid now := by
  unfold validateInviteToken at h
  split at h
  · cases h
  · next found hfound =>
    split_ifs at h with hvalid
    · obtain rfl := Except.ok.inj h
      exact ⟨hfound, hvalid⟩

theorem getInvited_eq_ok_iff :
    getInvited invite t = .ok account
      ↔ ∃ id, invite.user = some id ∧ t.getUser id = some account := by
  unfold getInvited
  rw [← Option.bind_eq_some_iff]
  cases invite.user.bind t.getUser <;> simp

theorem acceptRole_orgAdmin (horg : invite.organisation = some o)
    (hrole : invite.role = .orgAdmin) :
    acceptRole cfg invite account now t
      = acceptOrgAdmin cfg o account invite.invitedBy now t := by
  simp only [acceptRole, horg, hrole]

/-- **Accepting lets the user in** exactly when it accepts a pending invitation of
the user to the organisation. -/
theorem LockedOut.acceptInvitation_iff (h : LockedOut o u t) (hhas : t.Has o u) :
    LockedOut o u (settle t (acceptInvitation cfg token password raises now t))
      ↔ ¬ LetsIn o u t (.acceptInvitation token password raises now) := by
  constructor
  · rintro hout ⟨invite, account, hinvite, hvalid, hrole, horg, huser, haccount, hactive⟩
    have hvalidated : validateInviteToken token now t = .ok invite := by
      unfold validateInviteToken
      simp only [hinvite, if_neg (not_not.mpr hvalid)]
    have hinvited : getInvited invite t = .ok account :=
      getInvited_eq_ok_iff.mpr ⟨u, huser, haccount⟩
    have hid : account.id = u := Table.find_key haccount
    obtain ⟨t₁, hactivated⟩ : ∃ t₁, activate account password raises t = .ok t₁ := by
      cases hact : account.isActive with
      | true => exact ⟨t, activate_eq_ok_iff.mpr (Or.inl ⟨hact, rfl⟩)⟩
      | false =>
        obtain ⟨hpassword, hraises⟩ := hactive.resolve_left (by simp [hact])
        exact ⟨_, activate_eq_ok_iff.mpr (Or.inr ⟨hact, hpassword, hraises, rfl⟩)⟩
    obtain ⟨_, _, horganisations⟩ := activate_keeps hactivated
    obtain ⟨t₂, haccepted⟩ : ∃ t₂, acceptOrgAdmin cfg o account invite.invitedBy now
        (t₁.saveInvitation { invite with status := .accepted, acceptedAt := some now })
          = .ok t₂ := by
      refine exists_acceptOrgAdmin ?_
      show o ∈ t₁.organisations.map _
      exact horganisations ▸ hhas.organisation
    have hrun : acceptInvitation cfg token password raises now t
        = .ok (t₂.syncUserRole account.id) := by
      refine bind_eq_ok_iff.mpr ⟨invite, hvalidated, ?_⟩
      refine bind_eq_ok_iff.mpr ⟨account, hinvited, ?_⟩
      refine bind_eq_ok_iff.mpr ⟨t₁, hactivated, ?_⟩
      exact bind_eq_ok_iff.mpr ⟨t₂, (acceptRole_orgAdmin horg hrole).trans haccepted, rfl⟩
    rw [hrun] at hout
    obtain ⟨org', _, _, rfl⟩ := acceptOrgAdmin_eq_ok haccepted
    obtain ⟨m, hm, hmorg, hmuser, hmstatus⟩ := exists_ensureOrgAdminMembership
      (t₁.saveInvitation { invite with status := .accepted, acceptedAt := some now })
      o account.id invite.invitedBy .active now
    exact hout.membership m hm hmorg (hmuser.trans hid) hmstatus
  · intro hnot
    refine settle_induction h (fun t' haccept => ?_)
    obtain ⟨invite, hvalidated, haccept⟩ := bind_eq_ok_iff.mp haccept
    obtain ⟨account, hinvited, haccept⟩ := bind_eq_ok_iff.mp haccept
    obtain ⟨t₁, hactivated, haccept⟩ := bind_eq_ok_iff.mp haccept
    obtain ⟨t₂, haccepted, haccept⟩ := bind_eq_ok_iff.mp haccept
    obtain rfl := pure_eq_ok_iff.mp haccept
    obtain ⟨_, hmemberships, horganisations⟩ := activate_keeps hactivated
    have hbefore : LockedOut o u
        (t₁.saveInvitation { invite with status := .accepted, acceptedAt := some now }) :=
      h.of_eq hmemberships horganisations
    refine LockedOut.syncUserRole ?_ _
    unfold acceptRole at haccepted
    split at haccepted
    · exact Except.ok.inj haccepted ▸ hbefore
    · next organisation horg =>
      split at haccepted
      · next hrole =>
        -- the invitation of another user, or to another organisation
        have hother : ¬ (organisation = o ∧ account.id = u) := by
          rintro ⟨rfl, rfl⟩
          obtain ⟨hinvite, hvalid⟩ := getInvitation_eq_some hvalidated
          obtain ⟨id, hid, haccount⟩ := getInvited_eq_ok_iff.mp hinvited
          obtain rfl : account.id = id := Table.find_key haccount
          refine hnot ⟨invite, account, hinvite, hvalid, hrole, horg, hid, haccount, ?_⟩
          exact (activate_eq_ok_iff.mp hactivated).imp And.left (fun h => ⟨h.2.1, h.2.2.1⟩)
        obtain ⟨org', hid, hprimary, rfl⟩ := acceptOrgAdmin_eq_ok haccepted
        refine (hbefore.ensureOrgAdminMembership hother _ _ _).saveOrganisation ?_
        intro ho hu
        exact hother ⟨hid.symm.trans ho, Option.some.inj (hprimary.symm.trans hu)⟩
      · unfold acceptEmployee at haccepted
        split at haccepted
        · rw [← Except.ok.inj haccepted]
          exact hbefore.of_eq rfl rfl
        · cases haccepted

theorem getAdminMembership_eq_ok
    (h : getAdminMembership organisation user t = .ok m) :
    t.getMembership organisation user = some m := by
  unfold getAdminMembership at h
  split at h
  · cases h
  · next found hfound =>
    split_ifs at h
    exact Except.ok.inj h ▸ hfound

theorem getAdmin_eq_ok_iff : getAdmin organisation user t = .ok (org, account)
    ↔ t.getOrganisation organisation = some org ∧ t.getUser user = some account := by
  unfold getAdmin
  cases t.getOrganisation organisation <;> cases t.getUser user <;> simp

theorem getAdmin_id (h : getAdmin organisation user t = .ok (org, account)) :
    org.id = organisation ∧ account.id = user := by
  obtain ⟨horg, haccount⟩ := getAdmin_eq_ok_iff.mp h
  exact ⟨getOrganisation_id horg, Table.find_key haccount⟩

/-- **A deactivation that commits** locks the user out. -/
theorem lockedOut_of_deactivated (hknown : t.Known)
    (h : perform cfg t (.deactivateOrgAdminMembership o u) = .ok t') :
    LockedOut o u t' ∧ t'.Has o u := by
  have hextends : Extends t t' := by
    have hstep := extends_step cfg t (.deactivateOrgAdminMembership o u)
    rwa [step, h] at hstep
  obtain ⟨⟨org, account⟩, hadmin, hrun⟩ := bind_eq_ok_iff.mp h
  obtain ⟨m, hm, hcommitted⟩ := bind_eq_ok_iff.mp hrun
  obtain ⟨horg, haccount⟩ := getAdmin_eq_ok_iff.mp hadmin
  obtain ⟨rfl, rfl⟩ := getAdmin_id hadmin
  have hkey : m.key = (org.id, account.id) := Table.find_key (getAdminMembership_eq_ok hm)
  split_ifs at hcommitted with _ hprimary
  obtain rfl := (Except.ok.inj hcommitted).symm
  refine ⟨LockedOut.syncUserRole ⟨fun n hn horg huser => ?_, fun row hrow hid => ?_⟩ _, ?_, ?_⟩
  · rcases Table.mem_save hn with rfl | ⟨_, hne⟩
    · simp
    · exact absurd (Prod.ext horg huser) (hkey ▸ hne)
  · have hrow' : row ∈ t.organisations := hrow
    rwa [hknown.organisations.eq_of_key hrow' (Table.find_mem horg) hid]
  · rw [hextends.organisations]
    exact List.mem_map_of_mem (f := fun o : AdministeredOrganisation => o.id)
      (Table.find_mem horg)
  · exact hextends.users (List.mem_map_of_mem (Table.find_mem haccount))

/-- **Setting a primary administrator** keeps the user out exactly when it sets another one. -/
theorem LockedOut.setPrimaryAdmin_iff (h : LockedOut o u t) (hhas : t.Has o u)
    {organisation : OrganisationId} {user : UserId} :
    LockedOut o u (step cfg t (.setPrimaryAdmin organisation user))
      ↔ ¬ LetsIn o u t (.setPrimaryAdmin organisation user) := by
  constructor
  · rintro hout ⟨rfl, rfl⟩
    obtain ⟨row, hrow, hid⟩ := List.mem_map.mp hhas.organisation
    obtain ⟨account, haccount, huser⟩ := List.mem_map.mp hhas.user
    cases horg : t.getOrganisation organisation with
    | none => exact Table.find_eq_none_iff.mp horg row hrow hid
    | some org =>
      cases hu : t.getUser user with
      | none => exact Table.find_eq_none_iff.mp hu account haccount huser
      | some found =>
        have hadmin := getAdmin_eq_ok_iff.mpr ⟨horg, hu⟩
        obtain ⟨horgid, hfound⟩ := getAdmin_id hadmin
        have hrun : perform cfg t (.setPrimaryAdmin organisation user)
            = .ok (t.saveOrganisation (setPrimaryAdmin org found.id)) :=
          bind_eq_ok_iff.mpr ⟨(org, found), hadmin, rfl⟩
        rw [step, hrun] at hout
        refine hout.primary (setPrimaryAdmin org found.id) ?_ ?_ (congrArg some hfound)
        · exact Table.mem_save_self (Table.find_mem horg) (setPrimaryAdmin_id org found.id).symm
        · exact (setPrimaryAdmin_id org found.id).trans horgid
  · intro hnot
    refine settle_induction h (fun t' ht' => ?_)
    obtain ⟨⟨org, account⟩, hadmin, ht'⟩ := bind_eq_ok_iff.mp ht'
    obtain rfl := pure_eq_ok_iff.mp ht'
    obtain ⟨rfl, rfl⟩ := getAdmin_id hadmin
    refine h.saveOrganisation (fun hid hprimary => hnot ?_)
    exact ⟨(setPrimaryAdmin_id org account.id).symm.trans hid, Option.some.inj hprimary⟩

/-- **Staying locked out**: a step that does not readmit the user keeps the user
out exactly when it does not let the user in. -/
theorem LockedOut.step_iff (h : LockedOut o u t) (hknown : t.Known) (hhas : t.Has o u) {op : Op}
    (hnew : ¬ Readmits o u t op) : LockedOut o u (step cfg t op) ↔ ¬ LetsIn o u t op := by
  cases op with
  | createOrgAdminInvitation organisation email invitedBy raises now =>
    refine iff_of_true (settle_induction h (fun t' ht' => ?_)) not_false
    simp only [perform] at ht'
    split at ht'
    · cases ht'
    · next org horg =>
      obtain ⟨⟨account, t₁⟩, hcreated, ht'⟩ := bind_eq_ok_iff.mp ht'
      obtain rfl := pure_eq_ok_iff.mp ht'
      obtain ⟨_, hmemberships, horganisations, haccount⟩ := getOrCreateUser_eq_ok hcreated
      have hid : org.id = organisation :=
        getOrganisation_id horg
      refine LockedOut.inviteUser (h.of_eq hmemberships horganisations) ?_ _ _ _ _
      rintro ⟨rfl, rfl⟩
      rcases haccount with hfound | hfresh
      · refine hnew ⟨hid.symm, ?_⟩
        exact Option.map_eq_some_iff.mpr ⟨account, hfound, rfl⟩
      · exact absurd (hknown.fresh account.id hhas.user) (hfresh ▸ lt_irrefl _)
  | acceptInvitation token password raises now => exact h.acceptInvitation_iff hhas
  | setPrimaryAdmin organisation user => exact h.setPrimaryAdmin_iff hhas
  | deactivateOrgAdminMembership organisation user =>
    refine iff_of_true (settle_induction h (fun t' ht' => ?_)) not_false
    obtain ⟨⟨org, account⟩, _, ht'⟩ := bind_eq_ok_iff.mp ht'
    obtain ⟨m, _, ht'⟩ := bind_eq_ok_iff.mp ht'
    split_ifs at ht'
    obtain rfl := (Except.ok.inj ht').symm
    refine LockedOut.syncUserRole (h.saveMembership ?_) _
    simp
  | reactivateOrgAdminMembership organisation user now =>
    refine iff_of_true (settle_induction h (fun t' ht' => ?_)) not_false
    obtain ⟨⟨org, account⟩, hadmin, hrun⟩ := bind_eq_ok_iff.mp ht'
    obtain ⟨m, hm, hcommitted⟩ := bind_eq_ok_iff.mp hrun
    obtain ⟨rfl, rfl⟩ := getAdmin_id hadmin
    have hkey : m.key = (org.id, account.id) := Table.find_key (getAdminMembership_eq_ok hm)
    obtain ⟨hmorg, hmuser⟩ := Prod.mk.inj hkey
    split_ifs at hcommitted
    obtain rfl := (Except.ok.inj hcommitted).symm
    refine LockedOut.syncUserRole (h.saveMembership (fun horg huser => ?_)) _
    exact absurd ⟨hmorg.symm.trans horg, hmuser.symm.trans huser⟩ hnew
  | revokeOrgAdminMembershipInvitation organisation user now =>
    refine iff_of_true (settle_induction h (fun t' ht' => ?_)) not_false
    obtain ⟨⟨org, account⟩, hadmin, ht'⟩ := bind_eq_ok_iff.mp ht'
    obtain ⟨m, _, ht'⟩ := bind_eq_ok_iff.mp ht'
    split_ifs at ht'
    obtain rfl := (Except.ok.inj ht').symm
    refine LockedOut.syncUserRole (LockedOut.saveOrganisation ?_ ?_) _
    · refine LockedOut.saveMembership (h.of_eq rfl rfl) ?_
      simp
    · have horg : org.id = o → org.primaryAdminUser ≠ some u :=
        h.primary org (Table.find_mem (getAdmin_eq_ok_iff.mp hadmin).1)
      unfold revokeBootstrap
      split
      · intro hid
        dsimp only
        split
        · exact (Option.some_ne_none u).symm
        · exact horg hid
      · exact horg

end

/-- **A deactivated administrator stays out**, until readmitted, in exactly the
runs that let the user in nowhere. -/
theorem lockedOut_iff_notLetIn (cfg : Settings) (t : AdminTables) (hknown : t.Known)
    (before : List Op) (organisation : OrganisationId) (user : UserId) (t' : AdminTables)
    (hdeactivated : perform cfg (Run.exec (step cfg) t before)
      (.deactivateOrgAdminMembership organisation user) = .ok t')
    (ops : List Op)
    (hops : Run.Along (step cfg) (fun s op => ¬ Readmits organisation user s op) t' ops) :
    (∀ n, LockedOut organisation user (Run.exec (step cfg) t' (ops.take n)))
      ↔ Run.Along (step cfg) (fun s op => ¬ LetsIn organisation user s op) t' ops := by
  have hreached : (Run.exec (step cfg) t before).Known :=
    Run.invariant (I := fun s : AdminTables => s.Known) (fun _ op h => h.step cfg op) hknown before
  obtain ⟨hout, hhas⟩ := lockedOut_of_deactivated hreached hdeactivated
  have hknown' : t'.Known := by
    have hstep := hreached.step cfg (.deactivateOrgAdminMembership organisation user)
    rwa [step, hdeactivated] at hstep
  exact Run.forall_take_iff_along_of_along
    (I := fun s : AdminTables => s.Known ∧ s.Has organisation user)
    (fun _ op h => ⟨h.1.step cfg op, h.2.step cfg op⟩)
    (fun _ _ h hnew hs => hs.step_iff h.1 h.2 hnew) ⟨hknown', hhas⟩ hout hops

/-! ## An administrator who comes back -/

namespace Sample

def cfg : Settings where
  lower := id
  strip := id

def account (id : UserId) (email : String) : User where
  id := id
  email := email
  accountType := .workforce
  role := .employee
  isActive := true

/-- An organisation whose staff have accounts. -/
def provisioned : AdminTables where
  organisations := [
    { id := 1, status := .active, billingStatus := .paid, accessState := .active
      onboardingStage := .adminActivated, countryCode := "IN", billingGateway := none
      bootstrapAdmin := none, primaryAdminUser := none, bootstrapEmail := ""
      bootstrapInvitedUser := none }]
  users := [account 2 "asha", account 3 "ravi"]
  memberships := []
  invitations := []
  employees := []
  nextId := 4

theorem provisioned_known : provisioned.Known where
  organisations := by decide
  fresh := by decide

def invite (email : String) : Op := .createOrgAdminInvitation 1 email (some 9) none 0

/-- Both are invited, and Asha leaves. -/
def deactivated : AdminTables :=
  Run.exec (step cfg) provisioned
    [invite "asha", invite "ravi", .deactivateOrgAdminMembership 1 2]

theorem deactivated_eq : perform cfg
    (Run.exec (step cfg) provisioned [invite "asha", invite "ravi"])
      (.deactivateOrgAdminMembership 1 2) = .ok deactivated := rfl

/-- Asha's token, which was never used. -/
def accept : Op := .acceptInvitation 4 "" none 3600

end Sample

open Sample

theorem lockedOut_iff_notLetIn_sample :
    (∀ n, LockedOut 1 2 (Run.exec (step cfg) deactivated ([.setPrimaryAdmin 1 3].take n)))
      ↔ Run.Along (step cfg) (fun s op => ¬ LetsIn 1 2 s op) deactivated
        [.setPrimaryAdmin 1 3] :=
  lockedOut_iff_notLetIn cfg provisioned provisioned_known [invite "asha", invite "ravi"] 1 2
    deactivated deactivated_eq [.setPrimaryAdmin 1 3] (by decide)

/-- **An old token is accepted**: Asha is an active administrator again, and the
primary one. -/
theorem accepted_after_deactivation :
    perform cfg (Run.exec (step cfg) provisioned [invite "asha", invite "ravi"])
        (.deactivateOrgAdminMembership 1 2) = .ok deactivated
      ∧ Run.Along (step cfg) (fun s op => ¬ Readmits 1 2 s op) deactivated [accept]
      ∧ ¬ ∀ n, LockedOut 1 2 (Run.exec (step cfg) deactivated ([accept].take n)) := by
  refine ⟨deactivated_eq, by decide, fun h => ?_⟩
  have hactive := (h 1).membership
    { user := 2, organisation := 1, isOrgAdmin := true, status := .active, invitedBy := some 9,
      acceptedAt := some 0 } (by decide) rfl rfl
  exact hactive rfl

end Invitations
