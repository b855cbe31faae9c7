import Clarisal.Invitations.Admins
import Clarisal.Lib.Query
import Mathlib.Data.String.Basic
import Mathlib.Order.WithBot

/-!
# Workspaces

A browser session names the organisations its user works in, and the act-as
session of a Control Tower user, by their ids. The ids may be stale: rights are
withdrawn while the session lasts. So every request looks them up again among
the rows the user has now.

What a request then takes as its organisation is one where the user has rights
at that moment, whatever the session holds, and a user who has rights somewhere is
never left without one (`request_organisation_exact`).
-/

namespace Accounts

open Approvals (UserId OrganisationId Time)
open Invitations (User AccountType OrganisationMembership AdministeredOrganisation)
open Payroll (EmployeeStatus)

abbrev ActAsSessionId := ℕ

/-- An employee record, with the code it is listed by. -/
structure EmployeeRecord extends Invitations.Employee where
  employeeCode : Option String
deriving DecidableEq, Repr

/-- A Control Tower user acting as an organisation. -/
structure ActAsSession where
  id : ActAsSessionId
  actor : UserId
  organisation : OrganisationId
  targetOrgAdmin : Option UserId
  reason : String
  startedAt : Time
  refreshedAt : Time
  endedAt : Option Time
  endedBy : Option UserId
  revokedAt : Option Time
deriving DecidableEq, Repr

def ActAsSession.isActive (s : ActAsSession) : Bool := s.endedAt.isNone && s.revokedAt.isNone

/-- What workspaces are looked up in. -/
structure WorkspaceTables where
  organisationName : OrganisationId → String
  organisations : List AdministeredOrganisation
  users : List User
  memberships : List OrganisationMembership
  employees : List EmployeeRecord
  actAsSessions : List ActAsSession
  nextId : ℕ

inductive WorkspaceKind
  | admin | employee
deriving DecidableEq, Repr

/-- **What a browser session remembers.** -/
structure Session where
  ctActAsSessionId : Option ActAsSessionId := none
  activeWorkspaceKind : Option WorkspaceKind := none
  activeAdminOrgId : Option OrganisationId := none
  activeEmployeeOrgId : Option OrganisationId := none
deriving DecidableEq, Repr

/-! ## Looking up -/

/-- `ACTIVE_EMPLOYEE_STATUSES`. -/
def activeEmployeeStatuses : List EmployeeStatus := [.invited, .pending, .active]

/-- The act-as session that a browser session names, while it is active and the
user's own. -/
def getActiveImpersonationSession (t : WorkspaceTables) (session : Session) (user : User) :
    Option ActAsSession :=
  if user.accountType ≠ .controlTower then none
  else
    session.ctActAsSessionId.bind fun id =>
      t.actAsSessions.find? (fun s => s.id = id ∧ s.actor = user.id ∧ s.isActive)

/-- A name that is looked up in vain is forgotten. -/
def clearImpersonation (t : WorkspaceTables) (user : User) (session : Session) : Session :=
  if user.accountType = .controlTower ∧ getActiveImpersonationSession t session user = none then
    { session with ctActAsSessionId := none }
  else session

def isControlTowerImpersonating (t : WorkspaceTables) (session : Session) (user : User) : Bool :=
  (getActiveImpersonationSession t session user).isSome

/-- The membership makes its user an administrator now. -/
def isActiveAdmin (user : UserId) (m : OrganisationMembership) : Bool :=
  m.user = user ∧ m.isOrgAdmin ∧ m.status = .active

/-- The record makes its user an employee now. -/
def isActiveEmployee (user : UserId) (e : EmployeeRecord) : Bool :=
  e.user = user ∧ e.status ∈ activeEmployeeStatuses

/-- What employee records are listed by; one without a code comes last. -/
def EmployeeRecord.listKey (t : WorkspaceTables) (e : EmployeeRecord) :
    Lex (String × WithTop String) :=
  toLex (t.organisationName e.organisation, e.employeeCode.elim ⊤ WithTop.some)

variable (q : QueryOrder)

def listAdminMemberships (t : WorkspaceTables) (user : User) : List OrganisationMembership :=
  if user.accountType ≠ .workforce then []
  else
    q.orderBy (fun m => t.organisationName m.organisation)
      (t.memberships.filter (isActiveAdmin user.id))

def listEmployeeRecords (t : WorkspaceTables) (user : User) : List EmployeeRecord :=
  if user.accountType ≠ .workforce then []
  else
    q.orderBy (EmployeeRecord.listKey t) (t.employees.filter (isActiveEmployee user.id))

structure WorkspaceState where
  adminMemberships : List OrganisationMembership
  employeeRecords : List EmployeeRecord
  activeAdminMembership : Option OrganisationMembership
  activeEmployee : Option EmployeeRecord
  activeKind : Option WorkspaceKind
  impersonationSession : Option ActAsSession
  impersonatedOrganisation : Option OrganisationId
deriving DecidableEq, Repr

/-- The row of the organisation a session names, or else the first one. -/
def pick {ρ : Type} (organisation : ρ → OrganisationId) (named : Option OrganisationId)
    (rows : List ρ) : Option ρ :=
  (named.bind fun id => rows.find? (fun r => organisation r = id)).or rows.head?

def getWorkspaceState (t : WorkspaceTables) (session : Session) (user : User) : WorkspaceState :=
  let adminMemberships := listAdminMemberships q t user
  let employeeRecords := listEmployeeRecords q t user
  let impersonationSession := getActiveImpersonationSession t session user
  let kind := if impersonationSession.isSome then some .admin else session.activeWorkspaceKind
  { adminMemberships := adminMemberships
    employeeRecords := employeeRecords
    activeAdminMembership := pick (fun m => m.organisation) session.activeAdminOrgId
      adminMemberships
    activeEmployee := pick (fun e => e.organisation) session.activeEmployeeOrgId employeeRecords
    activeKind := kind.or (if adminMemberships ≠ [] then some .admin
      else if employeeRecords ≠ [] then some .employee else none)
    impersonationSession := impersonationSession
    impersonatedOrganisation := impersonationSession.map ActAsSession.organisation }

def getActiveAdminOrganisation (t : WorkspaceTables) (session : Session) (user : User) :
    Option OrganisationId :=
  let state := getWorkspaceState q t session user
  state.impersonatedOrganisation.or (state.activeAdminMembership.map fun m => m.organisation)

def getActiveEmployee (t : WorkspaceTables) (session : Session) (user : User) :
    Option EmployeeRecord :=
  (getWorkspaceState q t session user).activeEmployee

def getCurrentOrganisation (t : WorkspaceTables) (session : Session) (user : User) :
    Option OrganisationId :=
  let state := getWorkspaceState q t session user
  let admin := state.activeAdminMembership.map fun m => m.organisation
  let employee := state.activeEmployee.map fun e => e.organisation
  state.impersonatedOrganisation.or
    (match state.activeKind with
      | some .employee => employee.or admin
      | some .admin | none => admin.or employee)

/-! ## Selecting -/

/-- `membership.save(…)` writes only when the membership was last used. -/
def setActiveAdminOrganisation (t : WorkspaceTables) (user : User)
    (organisation : OrganisationId) (session : Session) : Except String Session :=
  if t.memberships.any (fun m => isActiveAdmin user.id m ∧ m.organisation = organisation) then
    .ok { session with
      activeWorkspaceKind := some .admin, activeAdminOrgId := some organisation }
  else .error "You do not have administrator access to that organisation."

def setActiveEmployeeWorkspace (t : WorkspaceTables) (user : User)
    (organisation : OrganisationId) (session : Session) : Except String Session :=
  if t.employees.any (fun e => isActiveEmployee user.id e ∧ e.organisation = organisation) then
    .ok { session with
      activeWorkspaceKind := some .employee, activeEmployeeOrgId := some organisation }
  else .error "You do not have employee access to that organisation."

def initializeWorkforceWorkspace (t : WorkspaceTables) (user : User) (session : Session) :
    Except String Session :=
  let state := getWorkspaceState q t session user
  match state.activeAdminMembership, state.activeEmployee with
  | some m, _ => setActiveAdminOrganisation t user m.organisation session
  | none, some e => setActiveEmployeeWorkspace t user e.organisation session
  | none, none =>
    .ok { session with
      activeWorkspaceKind := none, activeAdminOrgId := none, activeEmployeeOrgId := none }

/-! ## Rights -/

/-- **The user administers the organisation**, as the tables stand. -/
def Administers (t : WorkspaceTables) (user : User) (organisation : OrganisationId) : Prop :=
  user.accountType = .workforce
    ∧ ∃ m ∈ t.memberships, isActiveAdmin user.id m = true ∧ m.organisation = organisation

/-- **The user works for the organisation**, as the tables stand. -/
def WorksFor (t : WorkspaceTables) (user : User) (organisation : OrganisationId) : Prop :=
  user.accountType = .workforce
    ∧ ∃ e ∈ t.employees, isActiveEmployee user.id e = true ∧ e.organisation = organisation

/-- **The user acts as the organisation** in this browser: the session named is
the user's own, and neither ended nor revoked. -/
def ActsAs (t : WorkspaceTables) (session : Session) (user : User)
    (organisation : OrganisationId) : Prop :=
  user.accountType = .controlTower ∧ ∃ s ∈ t.actAsSessions, session.ctActAsSessionId = some s.id
    ∧ s.actor = user.id ∧ s.isActive = true ∧ s.organisation = organisation

variable {q} {t : WorkspaceTables} {session session' : Session} {user : User}
  {organisation : OrganisationId}

section

variable {ρ : Type} {org : ρ → OrganisationId} {named : Option OrganisationId} {rows : List ρ}
  {r : ρ}

theorem mem_of_pick (h : pick org named rows = some r) : r ∈ rows := by
  rcases Option.or_eq_some_iff.mp h with h | ⟨-, h⟩
  · obtain ⟨id, -, hfind⟩ := Option.bind_eq_some_iff.mp h
    exact List.mem_of_find?_eq_some hfind
  · exact List.mem_of_head? h

/-- A row is picked when there is any. -/
theorem pick_eq_none_iff : pick org named rows = none ↔ rows = [] := by
  unfold pick
  rw [Option.or_eq_none_iff, List.head?_eq_none_iff]
  refine and_iff_right_of_imp fun h => ?_
  subst h
  cases named <;> rfl

/-- **A row that the session names** is picked. -/
theorem pick_of_named {id : OrganisationId} (hr : r ∈ rows) (hid : org r = id) :
    ∃ r', pick org (some id) rows = some r' ∧ org r' = id := by
  cases hfind : rows.find? (fun r => org r = id) with
  | none => exact absurd hid (by simpa using List.find?_eq_none.mp hfind r hr)
  | some r' =>
    have hid' : org r' = id := by simpa using List.find?_some hfind
    exact ⟨r', by simp [pick, hfind], hid'⟩

end

theorem mem_listAdminMemberships {m : OrganisationMembership} :
    m ∈ listAdminMemberships q t user
      ↔ user.accountType = .workforce ∧ m ∈ t.memberships ∧ isActiveAdmin user.id m = true := by
  unfold listAdminMemberships
  split
  · next h => simp [h]
  · next h => rw [q.mem_orderBy, List.mem_filter, not_not.mp h, eq_self_iff_true, true_and]

theorem mem_listEmployeeRecords {e : EmployeeRecord} :
    e ∈ listEmployeeRecords q t user
      ↔ user.accountType = .workforce ∧ e ∈ t.employees
        ∧ isActiveEmployee user.id e = true := by
  unfold listEmployeeRecords
  split
  · next h => simp [h]
  · next h => rw [q.mem_orderBy, List.mem_filter, not_not.mp h, eq_self_iff_true, true_and]

/-- **The act-as session of a request.** -/
theorem getActiveImpersonationSession_eq_some {s : ActAsSession}
    (h : getActiveImpersonationSession t session user = some s) :
    user.accountType = .controlTower ∧ s ∈ t.actAsSessions
      ∧ session.ctActAsSessionId = some s.id ∧ s.actor = user.id ∧ s.isActive = true := by
  unfold getActiveImpersonationSession at h
  split at h
  · cases h
  · next htype =>
    obtain ⟨id, hid, hfind⟩ := Option.bind_eq_some_iff.mp h
    have hs := List.find?_some hfind
    simp only [decide_eq_true_eq] at hs
    exact ⟨not_not.mp htype, List.mem_of_find?_eq_some hfind, hs.1 ▸ hid, hs.2.1, hs.2.2⟩

/-- An act-as session is found exactly when the user acts as some organisation. -/
theorem getActiveImpersonationSession_isSome_iff :
    (getActiveImpersonationSession t session user).isSome = true
      ↔ ∃ organisation, ActsAs t session user organisation := by
  constructor
  · intro h
    obtain ⟨s, hs⟩ := Option.isSome_iff_exists.mp h
    obtain ⟨htype, hmem, hid, hactor, hactive⟩ := getActiveImpersonationSession_eq_some hs
    exact ⟨s.organisation, htype, s, hmem, hid, hactor, hactive, rfl⟩
  · rintro ⟨_, htype, s, hmem, hid, hactor, hactive, -⟩
    unfold getActiveImpersonationSession
    rw [if_neg (not_not.mpr htype), hid]
    exact List.find?_isSome.mpr ⟨s, hmem, by simp [hactor, hactive]⟩

/-- A user of the Control Tower has no workspaces of one's own. -/
theorem activeAdminMembership_rights {m : OrganisationMembership}
    (h : (getWorkspaceState q t session user).activeAdminMembership = some m) :
    Administers t user m.organisation := by
  obtain ⟨htype, hm, hactive⟩ := mem_listAdminMemberships.mp (mem_of_pick h)
  exact ⟨htype, m, hm, hactive, rfl⟩

theorem activeEmployee_rights {e : EmployeeRecord}
    (h : getActiveEmployee q t session user = some e) : WorksFor t user e.organisation := by
  obtain ⟨htype, he, hactive⟩ := mem_listEmployeeRecords.mp (mem_of_pick h)
  exact ⟨htype, e, he, hactive, rfl⟩

theorem impersonatedOrganisation_rights
    (h : (getWorkspaceState q t session user).impersonatedOrganisation = some organisation) :
    ActsAs t session user organisation := by
  obtain ⟨s, hs, rfl⟩ := Option.map_eq_some_iff.mp h
  obtain ⟨htype, hmem, hid, hactor, hactive⟩ := getActiveImpersonationSession_eq_some hs
  exact ⟨htype, s, hmem, hid, hactor, hactive, rfl⟩

theorem isSome_activeAdminMembership_iff :
    (getWorkspaceState q t session user).activeAdminMembership.isSome = true
      ↔ ∃ organisation, Administers t user organisation := by
  rw [← Option.ne_none_iff_isSome, Ne, getWorkspaceState, pick_eq_none_iff]
  constructor
  · intro h
    obtain ⟨m, hm⟩ := List.exists_mem_of_ne_nil _ h
    obtain ⟨htype, hm, hactive⟩ := mem_listAdminMemberships.mp hm
    exact ⟨m.organisation, htype, m, hm, hactive, rfl⟩
  · rintro ⟨_, htype, m, hm, hactive, -⟩
    exact List.ne_nil_of_mem (mem_listAdminMemberships.mpr ⟨htype, hm, hactive⟩)

theorem isSome_activeEmployee_iff :
    (getWorkspaceState q t session user).activeEmployee.isSome = true
      ↔ ∃ organisation, WorksFor t user organisation := by
  rw [← Option.ne_none_iff_isSome, Ne, getWorkspaceState, pick_eq_none_iff]
  constructor
  · intro h
    obtain ⟨e, he⟩ := List.exists_mem_of_ne_nil _ h
    obtain ⟨htype, he, hactive⟩ := mem_listEmployeeRecords.mp he
    exact ⟨e.organisation, htype, e, he, hactive, rfl⟩
  · rintro ⟨_, htype, e, he, hactive, -⟩
    exact List.ne_nil_of_mem (mem_listEmployeeRecords.mpr ⟨htype, he, hactive⟩)

/-- **The organisation an administrator's request works on** is administered by
its user, or acted as, whatever the session holds. -/
theorem getActiveAdminOrganisation_rights
    (h : getActiveAdminOrganisation q t session user = some organisation) :
    Administers t user organisation ∨ ActsAs t session user organisation := by
  rcases Option.or_eq_some_iff.mp h with h | ⟨-, h⟩
  · exact Or.inr (impersonatedOrganisation_rights h)
  · obtain ⟨m, hm, rfl⟩ := Option.map_eq_some_iff.mp h
    exact Or.inl (activeAdminMembership_rights hm)

theorem isSome_impersonatedOrganisation_iff :
    (getWorkspaceState q t session user).impersonatedOrganisation.isSome = true
      ↔ ∃ organisation, ActsAs t session user organisation := by
  rw [← getActiveImpersonationSession_isSome_iff]
  exact Bool.eq_iff_iff.mp Option.isSome_map

theorem getActiveAdminOrganisation_isSome_iff :
    (getActiveAdminOrganisation q t session user).isSome = true
      ↔ ∃ organisation, Administers t user organisation ∨ ActsAs t session user organisation := by
  unfold getActiveAdminOrganisation
  rw [Option.isSome_or, Bool.or_eq_true, isSome_impersonatedOrganisation_iff, Option.isSome_map,
    isSome_activeAdminMembership_iff, exists_or, or_comm]

/-- **The user has some right in the organisation**, in this browser. -/
def HasRights (t : WorkspaceTables) (session : Session) (user : User)
    (organisation : OrganisationId) : Prop :=
  Administers t user organisation ∨ WorksFor t user organisation
    ∨ ActsAs t session user organisation

/-- Of an administrator's and an employee's organisation, one is taken first and
the other in its place. -/
theorem getCurrentOrganisation_cases (q : QueryOrder) (t : WorkspaceTables) (session : Session)
    (user : User) :
    ∃ a b : Option OrganisationId, getCurrentOrganisation q t session user
        = (getWorkspaceState q t session user).impersonatedOrganisation.or (a.or b)
      ∧ ((a = (getWorkspaceState q t session user).activeAdminMembership.map (·.organisation)
          ∧ b = (getActiveEmployee q t session user).map (·.organisation))
        ∨ (a = (getActiveEmployee q t session user).map (·.organisation)
          ∧ b = (getWorkspaceState q t session user).activeAdminMembership.map
            (·.organisation))) := by
  unfold getCurrentOrganisation
  dsimp only
  split
  · exact ⟨_, _, rfl, Or.inr ⟨rfl, rfl⟩⟩
  · exact ⟨_, _, rfl, Or.inl ⟨rfl, rfl⟩⟩
  · exact ⟨_, _, rfl, Or.inl ⟨rfl, rfl⟩⟩

/-- **A request works where its user has rights** as the tables stand, whatever
the session remembers. -/
theorem getCurrentOrganisation_rights
    (h : getCurrentOrganisation q t session user = some organisation) :
    HasRights t session user organisation := by
  have hadmin : ∀ o, (getWorkspaceState q t session user).activeAdminMembership.map
      (·.organisation) = some o → HasRights t session user o := by
    intro o ho
    obtain ⟨m, hm, rfl⟩ := Option.map_eq_some_iff.mp ho
    exact Or.inl (activeAdminMembership_rights hm)
  have hemployee : ∀ o, (getActiveEmployee q t session user).map (·.organisation) = some o →
      HasRights t session user o := by
    intro o ho
    obtain ⟨e, he, rfl⟩ := Option.map_eq_some_iff.mp ho
    exact Or.inr (Or.inl (activeEmployee_rights he))
  obtain ⟨a, b, heq, hab⟩ := getCurrentOrganisation_cases q t session user
  rw [heq] at h
  rcases Option.or_eq_some_iff.mp h with h | ⟨-, h⟩
  · exact Or.inr (Or.inr (impersonatedOrganisation_rights h))
  rcases hab with ⟨rfl, rfl⟩ | ⟨rfl, rfl⟩
  · exact (Option.or_eq_some_iff.mp h).elim (hadmin _) (fun h => hemployee _ h.2)
  · exact (Option.or_eq_some_iff.mp h).elim (hemployee _) (fun h => hadmin _ h.2)

/-- **A user with rights somewhere** is never left without an organisation. -/
theorem getCurrentOrganisation_isSome_iff :
    (getCurrentOrganisation q t session user).isSome = true
      ↔ ∃ organisation, HasRights t session user organisation := by
  constructor
  · intro h
    obtain ⟨organisation, h⟩ := Option.isSome_iff_exists.mp h
    exact ⟨organisation, getCurrentOrganisation_rights h⟩
  · rintro ⟨organisation, h⟩
    have hsome : (getWorkspaceState q t session user).impersonatedOrganisation.isSome = true
        ∨ ((getWorkspaceState q t session user).activeAdminMembership.map
          (·.organisation)).isSome = true
        ∨ ((getActiveEmployee q t session user).map (·.organisation)).isSome = true := by
      rw [isSome_impersonatedOrganisation_iff, Option.isSome_map, Option.isSome_map,
        isSome_activeAdminMembership_iff]
      rcases h with h | h | h
      · exact Or.inr (Or.inl ⟨_, h⟩)
      · exact Or.inr (Or.inr (isSome_activeEmployee_iff.mpr ⟨_, h⟩))
      · exact Or.inl ⟨_, h⟩
    obtain ⟨a, b, heq, hab⟩ := getCurrentOrganisation_cases q t session user
    rw [heq, Option.isSome_or, Option.isSome_or, Bool.or_eq_true, Bool.or_eq_true]
    rcases hab with ⟨rfl, rfl⟩ | ⟨rfl, rfl⟩
    · exact hsome
    · exact hsome.imp_right Or.symm

/-- **The organisation chosen last** is the one an administrator works on, as long
as the user administers it, and the browser acts as no organisation. -/
theorem getActiveAdminOrganisation_of_named (hadmin : Administers t user organisation)
    (hnamed : session.activeAdminOrgId = some organisation) :
    getActiveAdminOrganisation q t session user = some organisation := by
  obtain ⟨htype, m, hm, hactive, hid⟩ := hadmin
  have hnone : getActiveImpersonationSession t session user = none := by
    unfold getActiveImpersonationSession
    rw [if_pos (by rw [htype]; decide)]
  obtain ⟨m', hpick, hid'⟩ := pick_of_named
    (mem_listAdminMemberships (q := q).mpr ⟨htype, hm, hactive⟩) hid
  unfold getActiveAdminOrganisation
  dsimp only [getWorkspaceState]
  rw [hnone, hnamed, hpick]
  exact congrArg some hid'

/-- **The organisation of a request**, for any tables and any session: it is one where
the user has rights now, and there is one exactly when the user has rights anywhere;
for administrators' requests likewise, which go on with the organisation chosen last
while the user administers it. -/
theorem request_organisation_exact (q : QueryOrder) (t : WorkspaceTables) (session : Session)
    (user : User) :
    (∀ o, getCurrentOrganisation q t session user = some o → HasRights t session user o)
      ∧ ((getCurrentOrganisation q t session user).isSome = true
        ↔ ∃ o, HasRights t session user o)
      ∧ (∀ o, getActiveAdminOrganisation q t session user = some o →
        Administers t user o ∨ ActsAs t session user o)
      ∧ ((getActiveAdminOrganisation q t session user).isSome = true
        ↔ ∃ o, Administers t user o ∨ ActsAs t session user o)
      ∧ ∀ o, Administers t user o → session.activeAdminOrgId = some o →
        getActiveAdminOrganisation q t session user = some o :=
  ⟨fun _ h => getCurrentOrganisation_rights h, getCurrentOrganisation_isSome_iff,
    fun _ h => getActiveAdminOrganisation_rights h, getActiveAdminOrganisation_isSome_iff,
    fun _ hadmin hnamed => getActiveAdminOrganisation_of_named hadmin hnamed⟩

end Accounts
