import Clarisal.Approvals.Models
import Clarisal.Lib.Worklist
import Clarisal.Payroll.Models

/-!
# Data scopes

A role assignment carries scope records, each of which says which employees its
user sees. The records are flattened into kinds and labels before employees are
matched to them: a department is matched by its name, and a kind that the
matching does not know is dropped.

A record that selects an employee is of such a kind (`selected_employee_hidden`),
and a record whose name is that of another department or location covers those
who bear it. The employees a user gets are exactly those that the user's records
cover when nobody depends on the one or is let in by the other
(`scope_exact_iff`).
-/

open Relation

namespace AccessControl

open Approvals (UserId EmployeeId OrganisationId DepartmentId OfficeLocationId)
open Payroll (EmployeeStatus)

inductive AccountType
  | controlTower | workforce
deriving DecidableEq, Repr

inductive AccessRoleScope
  | controlTower | organisation
deriving DecidableEq, Repr

inductive DataScopeKind
  | allOrganisations | selectedOrganisations | currentOrganisation | allEmployees | ownRecord
  | reportingTree | selectedDepartments | selectedOfficeLocations | selectedLegalEntities
  | selectedCostCentres | selectedEmploymentTypes | selectedGrades | selectedBands
  | selectedDesignations | selectedEmployees
deriving DecidableEq, Repr

/-- `get_scope_kind_display`. -/
def DataScopeKind.display : DataScopeKind → String
  | allOrganisations => "All organisations"
  | selectedOrganisations => "Selected organisations"
  | currentOrganisation => "Current organisation"
  | allEmployees => "All employees"
  | ownRecord => "Own record"
  | reportingTree => "Reporting tree"
  | selectedDepartments => "Selected departments"
  | selectedOfficeLocations => "Selected office locations"
  | selectedLegalEntities => "Selected legal entities"
  | selectedCostCentres => "Selected cost centres"
  | selectedEmploymentTypes => "Selected employment types"
  | selectedGrades => "Selected grades"
  | selectedBands => "Selected bands"
  | selectedDesignations => "Selected designations"
  | selectedEmployees => "Selected employees"

structure User where
  id : UserId
  accountType : AccountType
deriving DecidableEq, Repr

/-- An employee, as scopes see one. -/
structure Employee where
  id : EmployeeId
  user : UserId
  organisation : OrganisationId
  status : EmployeeStatus
  reportingTo : Option EmployeeId
  department : Option DepartmentId
  officeLocation : Option OfficeLocationId
deriving DecidableEq, Repr

/-- A record of the scope of an assignment. -/
structure AccessScope where
  scopeKind : DataScopeKind
  organisation : Option OrganisationId
  department : Option DepartmentId
  officeLocation : Option OfficeLocationId
  employee : Option EmployeeId
  valueText : String
deriving DecidableEq, Repr

structure AccessRole where
  code : String
  scope : AccessRoleScope
  isActive : Bool
  permissionCodes : List String
deriving DecidableEq, Repr

structure AccessRoleAssignment where
  user : UserId
  role : AccessRole
  organisation : Option OrganisationId
  isActive : Bool
  scopes : List AccessScope
deriving DecidableEq, Repr

inductive OrganisationMembershipStatus
  | invited | active | inactive | revoked
deriving DecidableEq, Repr

structure OrganisationMembership where
  user : UserId
  organisation : OrganisationId
  isOrgAdmin : Bool
  status : OrganisationMembershipStatus
deriving DecidableEq, Repr

/-- What access is decided on: tables, the names of their rows, and the permissions
that the catalogue gives a seeded role. -/
structure AccessTables where
  employees : List Employee
  assignments : List AccessRoleAssignment
  memberships : List OrganisationMembership
  departmentName : DepartmentId → String
  officeLocationName : OfficeLocationId → String
  organisationName : OrganisationId → String
  fullName : EmployeeId → String
  seedPermissions : String → List String

/-! ## Role bundles -/

structure ScopeSummary where
  kind : DataScopeKind
  label : String
deriving DecidableEq, Repr

structure EffectiveRoleBundle where
  code : String
  scope : AccessRoleScope
  permissionCodes : List String
  scopeSummary : List ScopeSummary
deriving DecidableEq, Repr

/-- The label of a record. -/
def AccessScope.label (t : AccessTables) (s : AccessScope) : String :=
  let other := if s.valueText = "" then s.scopeKind.display else s.valueText
  match s.scopeKind with
  | .selectedDepartments => (s.department.map t.departmentName).getD other
  | .selectedOfficeLocations => (s.officeLocation.map t.officeLocationName).getD other
  | .selectedEmployees => (s.employee.map t.fullName).getD other
  | .selectedOrganisations => (s.organisation.map t.organisationName).getD other
  | .ownRecord => "Own record"
  | .reportingTree => "Reporting tree"
  | _ => other

def summariesFromScopeRecords (t : AccessTables) (scopeRecords : List AccessScope)
    (roleScope : AccessRoleScope) : List ScopeSummary :=
  match scopeRecords with
  | [] =>
    match roleScope with
    | .controlTower => [{ kind := .allOrganisations, label := "All organisations" }]
    | .organisation => [{ kind := .allEmployees, label := "All employees" }]
  | records => records.map (fun s => { kind := s.scopeKind, label := s.label t })

def bundleFromAssignment (t : AccessTables) (a : AccessRoleAssignment) : EffectiveRoleBundle where
  code := a.role.code
  scope := a.role.scope
  permissionCodes := a.role.permissionCodes
  scopeSummary := summariesFromScopeRecords t a.scopes a.role.scope

/-- `_bundle_from_seed`, of the two roles it is asked for. -/
def bundleFromSeed (t : AccessTables) (roleCode : String) (scope : AccessRoleScope) :
    EffectiveRoleBundle where
  code := roleCode
  scope := scope
  permissionCodes := t.seedPermissions roleCode
  scopeSummary :=
    match scope with
    | .controlTower => [{ kind := .allOrganisations, label := "All organisations" }]
    | .organisation =>
      [{ kind := .currentOrganisation, label := "Current organisation" },
        { kind := .allEmployees, label := "All employees" }]

def getExplicitAssignments (t : AccessTables) (user : User)
    (organisation : Option OrganisationId) : List AccessRoleAssignment :=
  let roleScope := match organisation with
    | none => AccessRoleScope.controlTower
    | some _ => .organisation
  t.assignments.filter (fun a => a.user = user.id ∧ a.isActive ∧ a.role.isActive
    ∧ a.role.scope = roleScope ∧ a.organisation = organisation)

/-- `_get_employee_record_for_org`. The employee that the request is made as, when
there is one, comes first. -/
def getEmployeeRecordForOrg (t : AccessTables) (user : User) (organisation : OrganisationId)
    (activeEmployee : Option Employee) : Option Employee :=
  (activeEmployee.filter (fun e => e.organisation = organisation)).or
    (t.employees.find? (fun e => e.user = user.id ∧ e.organisation = organisation
      ∧ e.status ∈ [EmployeeStatus.invited, .pending, .active]))

def getSyntheticBundle (t : AccessTables) (user : User) (organisation : Option OrganisationId)
    (activeEmployee : Option Employee) : Option EffectiveRoleBundle :=
  match organisation with
  | none =>
    if user.accountType = .controlTower then some (bundleFromSeed t "CT_SUPER_ADMIN" .controlTower)
    else none
  | some organisation =>
    if ∃ m ∈ t.memberships, m.user = user.id ∧ m.organisation = organisation
        ∧ m.isOrgAdmin ∧ m.status = .active then
      some (bundleFromSeed t "ORG_OWNER" .organisation)
    else
      (getEmployeeRecordForOrg t user organisation activeEmployee).map (fun _ =>
        { code := "EMPLOYEE_SELF"
          scope := .organisation
          permissionCodes := []
          scopeSummary := [{ kind := .ownRecord, label := "Own record" }] })

def getEffectiveRoleBundles (t : AccessTables) (user : User)
    (organisation : Option OrganisationId) (activeEmployee : Option Employee) :
    List EffectiveRoleBundle :=
  let explicit := getExplicitAssignments t user organisation
  if explicit ≠ [] then explicit.map (bundleFromAssignment t)
  else (getSyntheticBundle t user organisation activeEmployee).toList

/-! ## Permissions -/

def getEffectivePermissionCodes (t : AccessTables) (user : User)
    (organisation : Option OrganisationId) (activeEmployee : Option Employee) : List String :=
  (getEffectiveRoleBundles t user organisation activeEmployee).flatMap
    EffectiveRoleBundle.permissionCodes

/-- `has_permission`, whose organisation is keyword-only. -/
def hasPermission (t : AccessTables) (user : User) (permissionCode : String)
    (organisation : Option OrganisationId) (activeEmployee : Option Employee) : Bool :=
  if user.accountType = .controlTower ∧ organisation ≠ none then true
  else permissionCode ∈ getEffectivePermissionCodes t user organisation activeEmployee

/-! ## Teams -/

/-- `children_map`. -/
def directReports (t : AccessTables) (organisation : OrganisationId) (manager : EmployeeId) :
    List Employee :=
  t.employees.filter (fun e => e.organisation = organisation ∧ e.status = .active
    ∧ e.reportingTo = some manager)

/-- **The indirect team of an employee**: `get_reporting_team`, with
`include_indirect`. -/
def getReportingTeam (t : AccessTables) (employee : Employee) : List Employee :=
  (Worklist.collect Employee.id (directReports t employee.organisation)
    (t.employees.length + 2) [employee.id] []).getD []

/-! ## The employees a user gets -/

/-- The condition a summary adds to the query, if it adds one. -/
def scopeCondition (t : AccessTables) (activeEmployee : Option Employee) (s : ScopeSummary) :
    Option (Employee → Bool) :=
  match s.kind with
  | .ownRecord => activeEmployee.map (fun own e => e.id = own.id)
  | .reportingTree =>
    activeEmployee.map (fun own e => e.id ∈ (getReportingTeam t own).map Employee.id)
  | .selectedDepartments => some (fun e => e.department.any (fun d => t.departmentName d = s.label))
  | .selectedOfficeLocations =>
    some (fun e => e.officeLocation.any (fun l => t.officeLocationName l = s.label))
  | _ => none

def scopeEmployeeQueryset (t : AccessTables) (queryset : List Employee) (user : User)
    (organisation : OrganisationId) (activeEmployee : Option Employee) : List Employee :=
  let ofOrganisation := queryset.filter (fun e => e.organisation = organisation)
  if user.accountType = .controlTower then ofOrganisation
  else
    let bundles := getEffectiveRoleBundles t user (some organisation) activeEmployee
    if bundles.any (fun b => b.scopeSummary.any (fun s => s.kind = .allEmployees)) then
      ofOrganisation
    else if bundles.any (fun b => b.scopeSummary.isEmpty) then ofOrganisation
    else
      let own := getEmployeeRecordForOrg t user organisation activeEmployee
      let filters := bundles.flatMap (fun b => b.scopeSummary.filterMap (scopeCondition t own))
      if filters.isEmpty then [] else ofOrganisation.filter (fun e => filters.any (fun q => q e))

/-! ## What a record is for -/

/-- The first is the manager of the second, who is active. -/
def Manages (t : AccessTables) (organisation : OrganisationId) (manager report : EmployeeId) :
    Prop :=
  ∃ e ∈ t.employees, e.organisation = organisation ∧ e.status = .active
    ∧ e.reportingTo = some manager ∧ e.id = report

/-- **The employees a record covers**, by what it refers to. -/
def AccessScope.Covers (t : AccessTables) (own : Option Employee) (s : AccessScope)
    (e : Employee) : Prop :=
  match s.scopeKind with
  | .allEmployees => True
  | .ownRecord => ∃ m, own = some m ∧ e.id = m.id
  | .reportingTree => ∃ m, own = some m ∧ TransGen (Manages t m.organisation) m.id e.id
  | .selectedDepartments => ∃ d, s.department = some d ∧ e.department = some d
  | .selectedOfficeLocations => ∃ l, s.officeLocation = some l ∧ e.officeLocation = some l
  | .selectedEmployees => s.employee = some e.id
  | _ => False

/-- **Covered by an assignment** of the user: one without records covers everybody. -/
def Covered (t : AccessTables) (user : User) (organisation : OrganisationId)
    (activeEmployee : Option Employee) (e : Employee) : Prop :=
  ∃ a ∈ getExplicitAssignments t user (some organisation), a.scopes = [] ∨
    ∃ s ∈ a.scopes, s.Covers t (getEmployeeRecordForOrg t user organisation activeEmployee) e

/-- The employee's department or location bears the label of a record that refers to
another one, or to none. -/
def AccessScope.SharesName (t : AccessTables) (s : AccessScope) (e : Employee) : Prop :=
  (s.scopeKind = .selectedDepartments ∧ ∃ d, e.department = some d ∧ s.department ≠ some d
      ∧ t.departmentName d = s.label t)
    ∨ s.scopeKind = .selectedOfficeLocations ∧ ∃ l, e.officeLocation = some l
      ∧ s.officeLocation ≠ some l ∧ t.officeLocationName l = s.label t

/-- A record, among those of the user's assignments. -/
def OfUser (t : AccessTables) (user : User) (organisation : OrganisationId) (s : AccessScope) :
    Prop :=
  ∃ a ∈ getExplicitAssignments t user (some organisation), s ∈ a.scopes

/-- **An employee is neither hidden nor let in**: whom a record selects, another one
covers too; and whom a shared name lets in, a record covers. -/
structure NamesAgree (t : AccessTables) (user : User) (organisation : OrganisationId)
    (activeEmployee : Option Employee) (e : Employee) : Prop where
  hidden : ∀ s, OfUser t user organisation s → s.scopeKind = .selectedEmployees →
    s.employee = some e.id →
    ∃ a ∈ getExplicitAssignments t user (some organisation), a.scopes = [] ∨ ∃ s' ∈ a.scopes,
      s'.SharesName t e ∨ s'.scopeKind ≠ .selectedEmployees
        ∧ s'.Covers t (getEmployeeRecordForOrg t user organisation activeEmployee) e
  letIn : ∀ s, OfUser t user organisation s → s.SharesName t e →
    Covered t user organisation activeEmployee e

section

variable {t : AccessTables} {user : User} {organisation : OrganisationId}
  {activeEmployee own : Option Employee} {queryset : List Employee} {e : Employee}

/-! ## The team is what reports to the employee -/

theorem getReportingTeam_spec (t : AccessTables) (m : Employee) (id : EmployeeId) :
    id ∈ (getReportingTeam t m).map Employee.id
      ↔ TransGen (Manages t m.organisation) m.id id := by
  have hends : (Worklist.collect Employee.id (directReports t m.organisation)
      (t.employees.length + 2) [m.id] []).isSome = true := by
    refine Worklist.collect_isSome (t.employees.map Employee.id).toFinset
      (fun v e he => ?_) (by simp) (by simp) ?_
    · exact List.mem_toFinset.mpr (List.mem_map_of_mem (List.mem_of_mem_filter he))
    · have hcard := List.toFinset_card_le (t.employees.map Employee.id)
      rw [List.length_map] at hcard
      simp only [List.length_singleton, List.length_nil]
      omega
  obtain ⟨team, hteam⟩ := Option.isSome_iff_exists.mp hends
  have hedge : Worklist.Edge
      (fun v => (directReports t m.organisation v).map Employee.id)
        = Manages t m.organisation := by
    funext a b
    simp [Worklist.Edge, directReports, Manages, and_assoc]
  unfold getReportingTeam
  rw [hteam, ← hedge]
  exact Worklist.mem_collect_iff hteam

/-! ## What the query selects -/

/-- **What the query makes of a record.** -/
def AccessScope.Selects (t : AccessTables) (own : Option Employee) (s : AccessScope)
    (e : Employee) : Prop :=
  s.scopeKind = .allEmployees
    ∨ ∃ q, scopeCondition t own { kind := s.scopeKind, label := s.label t } = some q ∧ q e = true

/-- **A record selects those it covers**, except by reference to an employee, and
those who share its name. -/
theorem selects_iff (s : AccessScope) :
    s.Selects t own e
      ↔ s.SharesName t e ∨ s.scopeKind ≠ .selectedEmployees ∧ s.Covers t own e := by
  obtain ⟨kind, organisation, department, location, employee, valueText⟩ := s
  cases kind with
  | allEmployees => simp [AccessScope.Selects, AccessScope.SharesName, AccessScope.Covers]
  | ownRecord =>
    cases own <;>
      simp [AccessScope.Selects, AccessScope.SharesName, AccessScope.Covers, scopeCondition]
  | reportingTree =>
    cases own with
    | none => simp [AccessScope.Selects, AccessScope.SharesName, AccessScope.Covers, scopeCondition]
    | some m =>
      simp only [AccessScope.Selects, AccessScope.SharesName, AccessScope.Covers, scopeCondition,
        ← getReportingTeam_spec]
      simp
  | selectedDepartments =>
    cases hd : e.department with
    | none => simp [AccessScope.Selects, AccessScope.SharesName, AccessScope.Covers,
        scopeCondition, hd]
    | some d =>
      by_cases hsame : department = some d
      · subst hsame
        simp [AccessScope.Selects, AccessScope.SharesName, AccessScope.Covers, scopeCondition, hd,
          AccessScope.label]
      · simp [AccessScope.Selects, AccessScope.SharesName, AccessScope.Covers, scopeCondition, hd,
          hsame]
  | selectedOfficeLocations =>
    cases hl : e.officeLocation with
    | none => simp [AccessScope.Selects, AccessScope.SharesName, AccessScope.Covers,
        scopeCondition, hl]
    | some l =>
      by_cases hsame : location = some l
      · subst hsame
        simp [AccessScope.Selects, AccessScope.SharesName, AccessScope.Covers, scopeCondition, hl,
          AccessScope.label]
      · simp [AccessScope.Selects, AccessScope.SharesName, AccessScope.Covers, scopeCondition, hl,
          hsame]
  | _ => simp [AccessScope.Selects, AccessScope.SharesName, AccessScope.Covers, scopeCondition]

/-- The summaries of an assignment in an organisation. -/
theorem mem_scopeSummary {a : AccessRoleAssignment} (ha : a.role.scope = .organisation)
    {x : ScopeSummary} :
    x ∈ (bundleFromAssignment t a).scopeSummary
      ↔ (a.scopes = [] ∧ x = { kind := .allEmployees, label := "All employees" })
        ∨ ∃ s ∈ a.scopes, { kind := s.scopeKind, label := s.label t } = x := by
  simp only [bundleFromAssignment, summariesFromScopeRecords, ha]
  cases a.scopes with
  | nil => simp
  | cons s scopes => simp [eq_comm]

theorem scopeSummary_ne_nil {a : AccessRoleAssignment} (ha : a.role.scope = .organisation) :
    (bundleFromAssignment t a).scopeSummary ≠ [] := by
  simp only [bundleFromAssignment, summariesFromScopeRecords, ha]
  cases a.scopes <;> simp

section

variable {assignments : List AccessRoleAssignment}

/-- An assignment is about everybody when it has no records, or one of them is. -/
theorem exists_allEmployees_iff (hscope : ∀ a ∈ assignments, a.role.scope = .organisation) :
    (∃ a ∈ assignments, ∃ x ∈ (bundleFromAssignment t a).scopeSummary, x.kind = .allEmployees)
      ↔ ∃ a ∈ assignments, a.scopes = [] ∨ ∃ s ∈ a.scopes, s.scopeKind = .allEmployees := by
  refine exists_congr (fun a => and_congr_right (fun ha => ?_))
  constructor
  · rintro ⟨x, hx, hkind⟩
    rcases (mem_scopeSummary (hscope a ha)).mp hx with ⟨hnone, -⟩ | ⟨s, hs, rfl⟩
    · exact Or.inl hnone
    · exact Or.inr ⟨s, hs, hkind⟩
  · rintro (hnone | ⟨s, hs, hkind⟩)
    · exact ⟨_, (mem_scopeSummary (hscope a ha)).mpr (Or.inl ⟨hnone, rfl⟩), rfl⟩
    · exact ⟨_, (mem_scopeSummary (hscope a ha)).mpr (Or.inr ⟨s, hs, rfl⟩), hkind⟩

/-- The conditions of assignments with records are those of the records. -/
theorem mem_scopeConditions (hscope : ∀ a ∈ assignments, a.role.scope = .organisation)
    (hrecords : ∀ a ∈ assignments, a.scopes ≠ []) (q : Employee → Bool) :
    q ∈ (assignments.map (bundleFromAssignment t)).flatMap
        (fun b => b.scopeSummary.filterMap (scopeCondition t own))
      ↔ ∃ a ∈ assignments, ∃ s ∈ a.scopes,
        scopeCondition t own { kind := s.scopeKind, label := s.label t } = some q := by
  simp only [List.mem_flatMap, List.mem_map, List.mem_filterMap, exists_exists_and_eq_and]
  refine exists_congr (fun a => and_congr_right (fun ha => ?_))
  constructor
  · rintro ⟨x, hx, hq⟩
    rcases (mem_scopeSummary (hscope a ha)).mp hx with ⟨hnone, -⟩ | ⟨s, hs, rfl⟩
    · exact absurd hnone (hrecords a ha)
    · exact ⟨s, hs, hq⟩
  · rintro ⟨s, hs, hq⟩
    exact ⟨_, (mem_scopeSummary (hscope a ha)).mpr (Or.inr ⟨s, hs, rfl⟩), hq⟩

end

/-- **The employees a user gets** are those that a record of an assignment selects, or
everybody when an assignment has none. -/
theorem mem_scopeEmployeeQueryset_iff (hworkforce : user.accountType = .workforce)
    (hexplicit : getExplicitAssignments t user (some organisation) ≠ []) :
    e ∈ scopeEmployeeQueryset t queryset user organisation activeEmployee
      ↔ e ∈ queryset ∧ e.organisation = organisation
        ∧ ∃ a ∈ getExplicitAssignments t user (some organisation), a.scopes = [] ∨
          ∃ s ∈ a.scopes,
            s.Selects t (getEmployeeRecordForOrg t user organisation activeEmployee) e := by
  obtain ⟨own, hown⟩ : ∃ own, getEmployeeRecordForOrg t user organisation activeEmployee = own :=
    ⟨_, rfl⟩
  obtain ⟨assignments, hassignments⟩ : ∃ assignments,
      getExplicitAssignments t user (some organisation) = assignments := ⟨_, rfl⟩
  have hscope : ∀ a ∈ assignments, a.role.scope = .organisation := by
    intro a ha
    have hfiltered := List.of_mem_filter (hassignments ▸ ha)
    exact (of_decide_eq_true hfiltered).2.2.2.1
  have hbundles : getEffectiveRoleBundles t user (some organisation) activeEmployee
      = assignments.map (bundleFromAssignment t) := by
    unfold getEffectiveRoleBundles
    rw [hassignments] at hexplicit ⊢
    exact if_pos hexplicit
  have hnotControl : user.accountType ≠ .controlTower := by rw [hworkforce]; decide
  unfold scopeEmployeeQueryset
  rw [if_neg hnotControl, hbundles, hown, hassignments]
  dsimp only
  by_cases hall : ∃ a ∈ assignments, ∃ x ∈ (bundleFromAssignment t a).scopeSummary,
      x.kind = .allEmployees
  · rw [if_pos (by simpa using hall)]
    obtain ⟨a, ha, hcovers⟩ := (exists_allEmployees_iff hscope).mp hall
    have hselects : a.scopes = [] ∨ ∃ s ∈ a.scopes, s.Selects t own e :=
      hcovers.imp_right (fun ⟨s, hs, hkind⟩ => ⟨s, hs, Or.inl hkind⟩)
    simp only [List.mem_filter, decide_eq_true_eq]
    exact and_congr_right (fun _ => (and_iff_left ⟨a, ha, hselects⟩).symm)
  · -- then every assignment has records, none of which is about everybody
    have hnobody := fun a ha h => hall ((exists_allEmployees_iff hscope).mpr ⟨a, ha, h⟩)
    have hrecords : ∀ a ∈ assignments, a.scopes ≠ [] := fun a ha hnone =>
      hnobody a ha (Or.inl hnone)
    have hsummaries : ∀ a ∈ assignments, (bundleFromAssignment t a).scopeSummary ≠ [] :=
      fun a ha => scopeSummary_ne_nil (hscope a ha)
    obtain ⟨filters, hfilters⟩ : ∃ filters, (assignments.map (bundleFromAssignment t)).flatMap
        (fun b => b.scopeSummary.filterMap (scopeCondition t own)) = filters := ⟨_, rfl⟩
    have hmem : ∀ q, q ∈ filters ↔ _ := fun q => hfilters ▸ mem_scopeConditions hscope hrecords q
    have hselects : (∃ q ∈ filters, q e = true) ↔ ∃ a ∈ assignments, a.scopes = [] ∨
        ∃ s ∈ a.scopes, s.Selects t own e := by
      constructor
      · rintro ⟨q, hq, hqe⟩
        obtain ⟨a, ha, s, hs, hcondition⟩ := (hmem q).mp hq
        exact ⟨a, ha, Or.inr ⟨s, hs, Or.inr ⟨q, hcondition, hqe⟩⟩⟩
      · rintro ⟨a, ha, hnone | ⟨s, hs, hkind | ⟨q, hcondition, hqe⟩⟩⟩
        · exact absurd hnone (hrecords a ha)
        · exact absurd (Or.inr ⟨s, hs, hkind⟩) (hnobody a ha)
        · exact ⟨q, (hmem q).mpr ⟨a, ha, s, hs, hcondition⟩, hqe⟩
    rw [if_neg (by simpa using hall), if_neg (by simpa using hsummaries), hfilters, ← hselects]
    cases filters with
    | nil => simp
    | cons q filters =>
      rw [if_neg (by simp)]
      simp only [List.mem_filter, decide_eq_true_eq, List.any_eq_true, and_assoc]

end

/-- **The employees a user gets are those that the user's records cover** exactly when
no employee is hidden or let in. A record of a kind that is not about employees covers
nobody. -/
theorem scope_exact_iff (t : AccessTables) (queryset : List Employee) (user : User)
    (organisation : OrganisationId) (activeEmployee : Option Employee)
    (hworkforce : user.accountType = .workforce)
    (hexplicit : getExplicitAssignments t user (some organisation) ≠ []) :
    (∀ e, e ∈ scopeEmployeeQueryset t queryset user organisation activeEmployee
        ↔ e ∈ queryset ∧ e.organisation = organisation
          ∧ Covered t user organisation activeEmployee e)
      ↔ ∀ e ∈ queryset, e.organisation = organisation →
        NamesAgree t user organisation activeEmployee e := by
  have hmem : ∀ e, e ∈ scopeEmployeeQueryset t queryset user organisation activeEmployee ↔ _ :=
    fun e => mem_scopeEmployeeQueryset_iff hworkforce hexplicit
  constructor
  · intro h e he horganisation
    have hexact := (hmem e).symm.trans (h e)
    refine ⟨fun s ⟨a, ha, hs⟩ hkind hemployee => ?_, fun s ⟨a, ha, hs⟩ hshares => ?_⟩
    · have hcovers : s.Covers t (getEmployeeRecordForOrg t user organisation activeEmployee) e := by
        unfold AccessScope.Covers
        rw [hkind]
        exact hemployee
      obtain ⟨-, -, a', ha', hselects⟩ :=
        hexact.mpr ⟨he, horganisation, a, ha, Or.inr ⟨s, hs, hcovers⟩⟩
      refine ⟨a', ha', hselects.imp_right (fun ⟨s', hs', hselects⟩ => ?_)⟩
      exact ⟨s', hs', (selects_iff s').mp hselects⟩
    · exact (hexact.mp ⟨he, horganisation, a, ha, Or.inr ⟨s, hs,
        (selects_iff s).mpr (Or.inl hshares)⟩⟩).2.2
  · intro h e
    rw [hmem e]
    refine and_congr_right (fun he => and_congr_right (fun horganisation => ?_))
    have hagree := h e he horganisation
    constructor
    · rintro ⟨a, ha, hnone | ⟨s, hs, hselects⟩⟩
      · exact ⟨a, ha, Or.inl hnone⟩
      · rcases (selects_iff s).mp hselects with hshares | ⟨-, hcovers⟩
        · exact hagree.letIn s ⟨a, ha, hs⟩ hshares
        · exact ⟨a, ha, Or.inr ⟨s, hs, hcovers⟩⟩
    · rintro ⟨a, ha, hnone | ⟨s, hs, hcovers⟩⟩
      · exact ⟨a, ha, Or.inl hnone⟩
      · by_cases hkind : s.scopeKind = .selectedEmployees
        · have hemployee : s.employee = some e.id := by
            unfold AccessScope.Covers at hcovers
            rwa [hkind] at hcovers
          obtain ⟨a', ha', hselects⟩ := hagree.hidden s ⟨a, ha, hs⟩ hkind hemployee
          refine ⟨a', ha', hselects.imp_right (fun ⟨s', hs', hselects⟩ => ?_)⟩
          exact ⟨s', hs', (selects_iff s').mpr hselects⟩
        · exact ⟨a, ha, Or.inr ⟨s, hs, (selects_iff s).mpr (Or.inr ⟨hkind, hcovers⟩)⟩⟩

/-! ## A user of one organisation -/

namespace Sample

def viewer : User := { id := 10, accountType := .workforce }

/-- Employees 1 and 2 of organisation 1, in departments 3 and 4; the first is the
viewer. -/
def employee (id : EmployeeId) (department : DepartmentId) : Employee where
  id := id
  user := id + 9
  organisation := 1
  status := .active
  reportingTo := none
  department := some department
  officeLocation := none

def scope (kind : DataScopeKind) (department : Option DepartmentId)
    (employee : Option EmployeeId) : AccessScope where
  scopeKind := kind
  organisation := none
  department := department
  officeLocation := none
  employee := employee
  valueText := ""

def tables (scopes : List AccessScope) : AccessTables where
  employees := [employee 1 3, employee 2 4]
  assignments :=
    [{ user := 10
       role := { code := "ORG_AUDITOR", scope := .organisation, isActive := true,
                 permissionCodes := ["org.employees.read"] }
       organisation := some 1
       isActive := true
       scopes := scopes }]
  memberships := []
  departmentName d := if d = 3 then "Sales" else "Support"
  officeLocationName _ := "Head office"
  organisationName _ := "Acme"
  fullName _ := "A. Person"
  seedPermissions _ := []

end Sample

open Sample in
theorem scope_exact_iff_sample :
    scopeEmployeeQueryset (tables [scope .ownRecord none none,
        scope .selectedDepartments (some 4) none]) [employee 1 3, employee 2 4] viewer 1 none
      = [employee 1 3, employee 2 4]
    ∧ ∀ e, e ∈ scopeEmployeeQueryset (tables [scope .ownRecord none none,
          scope .selectedDepartments (some 4) none]) [employee 1 3, employee 2 4] viewer 1 none
      ↔ e ∈ [employee 1 3, employee 2 4] ∧ e.organisation = 1
        ∧ Covered (tables [scope .ownRecord none none, scope .selectedDepartments (some 4) none])
          viewer 1 none e := by
  refine ⟨by decide, (scope_exact_iff _ _ viewer 1 none rfl (by decide)).mpr (fun e he _ => ?_)⟩
  -- no record is about an employee, and department 4 is the only one of its name
  have hrecord : ∀ s, OfUser (tables [scope .ownRecord none none,
      scope .selectedDepartments (some 4) none]) viewer 1 s →
      s = scope .ownRecord none none ∨ s = scope .selectedDepartments (some 4) none := by
    rintro s ⟨a, ha, hs⟩
    obtain rfl := List.mem_singleton.mp ha
    simpa [tables] using hs
  refine ⟨fun s hs hkind _ => ?_, fun s hs hshares => ?_⟩
  · rcases hrecord s hs with rfl | rfl <;> cases hkind
  · rcases hrecord s hs with rfl | rfl
    · rcases hshares with ⟨hkind, -⟩ | ⟨hkind, -⟩ <;> cases hkind
    · rcases hshares with ⟨-, d, hd, hne, hname⟩ | ⟨hkind, -⟩
      · rcases List.mem_pair.mp he with rfl | rfl
        · obtain rfl := Option.some.inj hd
          exact absurd hname (by decide)
        · exact absurd hd hne
      · cases hkind

open Sample in
/-- **A selected employee is hidden**: the only record of the assignment is about
employee 2, and the user gets nobody. -/
theorem selected_employee_hidden :
    ¬ ∀ e, e ∈ scopeEmployeeQueryset (tables [scope .selectedEmployees none (some 2)])
          [employee 1 3, employee 2 4] viewer 1 none
      ↔ e ∈ [employee 1 3, employee 2 4] ∧ e.organisation = 1
        ∧ Covered (tables [scope .selectedEmployees none (some 2)]) viewer 1 none e := by
  intro h
  have hcovered : Covered (tables [scope .selectedEmployees none (some 2)]) viewer 1 none
      (employee 2 4) :=
    ⟨_, List.mem_singleton_self _, Or.inr ⟨_, List.mem_singleton_self _, rfl⟩⟩
  have hnobody : scopeEmployeeQueryset (tables [scope .selectedEmployees none (some 2)])
      [employee 1 3, employee 2 4] viewer 1 none = [] := by decide
  have hmem := (h (employee 2 4)).mpr ⟨by decide, rfl, hcovered⟩
  rw [hnobody] at hmem
  cases hmem

end AccessControl
