import Clarisal.Lib.Forest
import Clarisal.Lib.Run
import Clarisal.Lib.Transaction
import Clarisal.Employees.Invitations
import Clarisal.Payroll.FiscalYear
import Clarisal.Payroll.Prefetch

/-!
# The chart of an organisation

The chart is a forest: whoever reports to nobody listed is a root, and the others stand below
their managers. Employees who report to each other in a circle are below no root, and the chart
leaves them out with everyone below them.

So it is complete exactly when nobody reports to themselves, by whatever way (`complete_iff`).
Neither of the two calls that set a manager looks at who reports to whom: a pending employee may
join as his own manager, or as that of his manager. The chart stays complete in a run exactly
when no call does that (`complete_forever_iff`).
-/

open Calendar Relation

namespace OrgChart

open Approvals (OrganisationId EmployeeId)
open Payroll (EmployeeStatus TextCase)
open Employees (EmployeeOnboardingStatus)

/-! ## Employees -/

structure Employee where
  id : EmployeeId
  organisation : OrganisationId
  firstName : String
  lastName : String
  email : String
  employeeCode : Option String
  designation : String
  dateOfJoining : Option Date
  reportingTo : Option EmployeeId
  status : EmployeeStatus
  onboardingStatus : EmployeeOnboardingStatus
  onboardingCompletedAt : Option ℤ
  isDeleted : Bool
deriving DecidableEq

/-- **The employees**, in the order they are listed in; no two have one id. -/
structure StaffTables where
  employees : List Employee
  unique : Table.Unique Employee.id employees

namespace StaffTables

/-- `Employee.objects`: the rows that are not deleted. -/
def objects (t : StaffTables) : List Employee := t.employees.filter (fun e => !e.isDeleted)

def save (t : StaffTables) (e : Employee) : StaffTables where
  employees := Table.save Employee.id e t.employees
  unique := t.unique.save e

/-- The rows of a chart. -/
def listed (t : StaffTables) (organisation : OrganisationId) (includeInactive : Bool) :
    List Employee :=
  t.objects.filter (fun e => e.organisation = organisation
    ∧ (includeInactive = true ∨ e.status ∈ [EmployeeStatus.active, .invited, .pending]))

end StaffTables

/-- The `full_name` of the user. -/
def Employee.fullName (e : Employee) : String :=
  let name := Payroll.strip (e.firstName ++ " " ++ e.lastName).toList
  if name = [] then e.email else String.ofList name

def sortByName (employees : List Employee) : List Employee :=
  employees.insertionSort (fun e e' => e.fullName ≤ e'.fullName)

/-- `get_org_chart_tree`. -/
def getOrgChartTree (t : StaffTables) (organisation : OrganisationId) (includeInactive : Bool) :
    Option (List (Forest.Tree Employee)) :=
  Forest.forest (t.listed organisation includeInactive) Employee.id Employee.reportingTo sortByName

/-! ## Setting a manager -/

/-- What an update sets; `checks` is what is said of the department, the location and the
workflows. -/
structure EmployeeUpdate where
  employee : EmployeeId
  checks : Except String Unit
  employeeCode : Option (Option String)
  designation : Option String
  dateOfJoining : Option (Option Date)
  reportingTo : Option (Option EmployeeId)
  status : Option EmployeeStatus

structure Joining where
  employee : EmployeeId
  employeeCode : String
  dateOfJoining : Option Date
  designation : String
  reportingToEmployeeId : Option EmployeeId
  now : ℤ

section

variable (text : TextCase) (t : StaffTables)

/-- The code of another employee of the organisation. -/
def StaffTables.codeTaken (e : Employee) (code : String) (rows : List Employee) : Bool :=
  rows.any (fun e' => e'.organisation = e.organisation ∧ e'.employeeCode = some code ∧ e'.id ≠ e.id)

def EmployeeUpdate.apply (r : EmployeeUpdate) (e : Employee) : Employee :=
  { e with
    employeeCode := match r.employeeCode with
      | none => e.employeeCode
      | some code =>
        let code := text.upper (text.strip (code.getD ""))
        if code = "" then none else some code
    designation := r.designation.getD e.designation
    dateOfJoining := r.dateOfJoining.getD e.dateOfJoining
    reportingTo := r.reportingTo.getD e.reportingTo
    status := r.status.getD e.status }

/-- What refuses an update; the last is the constraint of the table. -/
def checkUpdate (e : Employee) (r : EmployeeUpdate) : Except String Unit := do
  r.checks
  if ∃ code ∈ (r.apply text e).employeeCode,
      code ≠ "" ∧ StaffTables.codeTaken e code t.objects = true then
    .error "unique_employee_code_per_org_when_present"
  else .ok ()

/-- `update_employee`, of the employee that the view has found. -/
def updateEmployee (r : EmployeeUpdate) : Except String StaffTables := do
  match Table.find Employee.id r.employee t.objects with
  | none => .error "No Employee matches the given query."
  | some e =>
    checkUpdate text t e r
    .ok (t.save (r.apply text e))

/-- `_get_reporting_employee`. -/
def getReportingEmployee (organisation : OrganisationId) (id : EmployeeId) :
    Except String Employee :=
  match t.objects.find? (fun e => e.organisation = organisation ∧ e.id = id) with
  | none => .error "Employee matching query does not exist."
  | some e => .ok e

/-- The checks of `mark_employee_joined`, and the manager. -/
def checkJoining (e : Employee) (r : Joining) : Except String Employee :=
  if e.status ≠ .pending then .error "Only pending employees can be marked as joined."
  else if text.upper (text.strip r.employeeCode) = "" then
    .error "Employee code is required when marking an employee as joined."
  else if r.dateOfJoining = none then
    .error "Date of joining is required when marking an employee as joined."
  else if text.strip r.designation = "" then
    .error "Designation is required when marking an employee as joined."
  else match r.reportingToEmployeeId with
    | none => .error "Reporting manager is required when marking an employee as joined."
    | some id => do
      let manager ← getReportingEmployee t e.organisation id
      if StaffTables.codeTaken e (text.upper (text.strip r.employeeCode)) t.employees then
        .error "Employee code already exists in this organisation."
      else .ok manager

def Joining.apply (r : Joining) (manager : Employee) (e : Employee) : Employee :=
  { e with
    employeeCode := some (text.upper (text.strip r.employeeCode))
    dateOfJoining := r.dateOfJoining
    designation := text.strip r.designation
    reportingTo := some manager.id
    status := .active
    onboardingStatus := .complete
    onboardingCompletedAt := some (e.onboardingCompletedAt.getD r.now) }

/-- `mark_employee_joined`, of the employee that the view has found. -/
def markEmployeeJoined (r : Joining) : Except String StaffTables := do
  match Table.find Employee.id r.employee t.objects with
  | none => .error "No Employee matches the given query."
  | some e =>
    let manager ← checkJoining text t e r
    .ok (t.save (r.apply text manager e))

end

inductive StaffOp
  | updateEmployee (update : EmployeeUpdate)
  | markEmployeeJoined (joining : Joining)

/-- **One call.** A refused one changes nothing. -/
def staffStep (text : TextCase) (t : StaffTables) : StaffOp → StaffTables
  | .updateEmployee update => Transaction.settle t (OrgChart.updateEmployee text t update)
  | .markEmployeeJoined joining => Transaction.settle t (OrgChart.markEmployeeJoined text t joining)

/-! ## Who reports to whom -/

/-- An employee reports to one of the same organisation. -/
def StaffTables.ReportsTo (t : StaffTables) (a b : EmployeeId) : Prop :=
  ∃ e ∈ t.objects, ∃ m ∈ t.objects,
    e.id = a ∧ m.id = b ∧ e.organisation = m.organisation ∧ e.reportingTo = some b

/-- **The charts are complete**: each has everyone it lists, once. -/
def Complete (t : StaffTables) : Prop :=
  ∀ organisation includeInactive, ∃ tree,
    getOrgChartTree t organisation includeInactive = some tree
      ∧ (Forest.preorders tree).Perm (t.listed organisation includeInactive)

/-- **The manager that a call sets** is not the employee, and does not report to them, directly
or not. -/
def ManagerAbove (text : TextCase) (t : StaffTables) : StaffOp → Prop
  | .updateEmployee r => ∀ e, Table.find Employee.id r.employee t.objects = some e →
    checkUpdate text t e r = .ok () → ∀ m, r.reportingTo = some (some m) →
      ¬ ReflTransGen t.ReportsTo m e.id
  | .markEmployeeJoined r => ∀ e, Table.find Employee.id r.employee t.objects = some e →
    ∀ m, checkJoining text t e r = .ok m → ¬ ReflTransGen t.ReportsTo m.id e.id

section

variable {t : StaffTables} {e e' : Employee} {a b : EmployeeId}

theorem objects_unique (t : StaffTables) : Table.Unique Employee.id t.objects :=
  t.unique.filter _

theorem listed_unique (t : StaffTables) (organisation : OrganisationId) (includeInactive : Bool) :
    Table.Unique Employee.id (t.listed organisation includeInactive) :=
  (objects_unique t).filter _

theorem perm_sortByName (employees : List Employee) : (sortByName employees).Perm employees :=
  List.perm_insertionSort _ _

/-- Whoever reports to someone is of one organisation with them. -/
theorem organisation_eq_of_reach (h : ReflTransGen t.ReportsTo a b)
    (he : e ∈ t.objects) (ha : e.id = a) (he' : e' ∈ t.objects) (hb : e'.id = b) :
    e.organisation = e'.organisation := by
  induction h generalizing e' with
  | refl => rw [(objects_unique t).eq_of_key he he' (ha.trans hb.symm)]
  | tail _ hedge ih =>
    obtain ⟨c, hc, m, hm, hcid, hmid, horganisation, -⟩ := hedge
    rw [ih hc hcid, horganisation, (objects_unique t).eq_of_key hm he' (hmid.trans hb.symm)]

/-- The row above in a chart is who is reported to. -/
theorem reportsTo_of_up {organisation : OrganisationId} {includeInactive : Bool}
    (h : Forest.Up (t.listed organisation includeInactive) Employee.id Employee.reportingTo a b) :
    t.ReportsTo a b := by
  obtain ⟨e, he, rfl, hto, hb⟩ := h
  obtain ⟨m, hm, rfl⟩ := List.mem_map.mp hb
  obtain ⟨he, horganisation⟩ := List.mem_filter.mp he
  obtain ⟨hm, horganisation'⟩ := List.mem_filter.mp hm
  have hsame : e.organisation = m.organisation :=
    (of_decide_eq_true horganisation).1.trans (of_decide_eq_true horganisation').1.symm
  exact ⟨e, he, m, hm, rfl, rfl, hsame, hto⟩

/-- With the inactive ones, everyone of the organisation is in the chart. -/
theorem up_of_reportsTo (h : t.ReportsTo e.id b) (he : e ∈ t.objects) :
    Forest.Up (t.listed e.organisation true) Employee.id Employee.reportingTo e.id b := by
  have hlisted : ∀ x ∈ t.objects, e.organisation = x.organisation →
      x ∈ t.listed e.organisation true := fun x hx hsame =>
    List.mem_filter.mpr ⟨hx, decide_eq_true ⟨hsame.symm, Or.inl rfl⟩⟩
  obtain ⟨e', he', m, hm, hid, rfl, hsame, hto⟩ := h
  obtain rfl := (objects_unique t).eq_of_key he' he hid
  exact ⟨e', hlisted e' he' rfl, rfl, hto, List.mem_map_of_mem (hlisted m hm hsame)⟩

/-- **The charts are complete** exactly when nobody reports to themselves. -/
theorem complete_iff (t : StaffTables) : Complete t ↔ Worklist.Acyclic t.ReportsTo := by
  constructor
  · intro hcomplete v hv
    obtain ⟨-, ⟨e, he, -, -, rfl, -⟩, -⟩ := TransGen.head'_iff.mp hv
    obtain ⟨tree, htree, hperm⟩ := hcomplete e.organisation true
    refine (Forest.perm_forest_iff perm_sortByName (listed_unique t _ _) htree).mp hperm e.id ?_
    have hup : ∀ {c}, TransGen t.ReportsTo e.id c → TransGen
        (Forest.Up (t.listed e.organisation true) Employee.id Employee.reportingTo) e.id c := by
      intro c hc
      induction hc with
      | single hedge => exact .single (up_of_reportsTo hedge he)
      | tail hreach hedge ih =>
        obtain ⟨c, hc, -, -, rfl, -⟩ := id hedge
        have hsame := organisation_eq_of_reach hreach.to_reflTransGen he rfl hc rfl
        exact ih.tail (hsame ▸ up_of_reportsTo hedge hc)
    exact hup hv
  · intro hacyclic organisation includeInactive
    have hkeys := listed_unique t organisation includeInactive
    obtain ⟨tree, htree⟩ := Option.isSome_iff_exists.mp
      (show (getOrgChartTree t organisation includeInactive).isSome = true from
        Forest.forest_isSome perm_sortByName hkeys)
    refine ⟨tree, htree, (Forest.perm_forest_iff perm_sortByName hkeys htree).mpr ?_⟩
    exact hacyclic.mono fun _ _ => reportsTo_of_up

/-! ## Setting a manager -/

/-- A row that replaces one of the organisation. -/
structure Replaces (e' e : Employee) : Prop where
  id : e'.id = e.id
  organisation : e'.organisation = e.organisation
  isDeleted : e'.isDeleted = e.isDeleted

theorem mem_objects_save (he : e ∈ t.objects) (h : Replaces e' e) {x : Employee} :
    x ∈ (t.save e').objects ↔ x = e' ∨ (x ∈ t.objects ∧ x.id ≠ e.id) := by
  obtain ⟨he, hkept⟩ := List.mem_filter.mp he
  unfold StaffTables.objects StaffTables.save
  rw [List.mem_filter, List.mem_filter]
  constructor
  · rintro ⟨hx, hxkept⟩
    rcases Table.mem_save hx with rfl | ⟨hx, hne⟩
    · exact Or.inl rfl
    · exact Or.inr ⟨⟨hx, hxkept⟩, h.id ▸ hne⟩
  · rintro (rfl | ⟨⟨hx, hxkept⟩, hne⟩)
    · exact ⟨Table.mem_save_self he h.id.symm, by rw [h.isDeleted]; exact hkept⟩
    · exact ⟨Table.mem_save_of_ne hx (h.id.symm ▸ hne), hxkept⟩

/-- **What a saved row changes**: whom its employee reports to. -/
theorem reportsTo_save_iff (he : e ∈ t.objects) (h : Replaces e' e) :
    (t.save e').ReportsTo a b ↔ (a ≠ e.id ∧ t.ReportsTo a b)
      ∨ (a = e.id ∧ e'.reportingTo = some b
        ∧ ∃ m ∈ t.objects, m.id = b ∧ e.organisation = m.organisation) := by
  -- a row is there before and after, but for what it says of the manager
  have hrow : ∀ b o, (∃ m ∈ (t.save e').objects, m.id = b ∧ o = m.organisation)
      ↔ ∃ m ∈ t.objects, m.id = b ∧ o = m.organisation := by
    intro b o
    constructor
    · rintro ⟨m, hm, rfl, rfl⟩
      rcases (mem_objects_save he h).mp hm with rfl | ⟨hm, -⟩
      · exact ⟨e, he, h.id.symm, h.organisation⟩
      · exact ⟨m, hm, rfl, rfl⟩
    · rintro ⟨m, hm, rfl, rfl⟩
      by_cases hme : m.id = e.id
      · obtain rfl := (objects_unique t).eq_of_key hm he hme
        exact ⟨e', (mem_objects_save he h).mpr (Or.inl rfl), h.id, h.organisation.symm⟩
      · exact ⟨m, (mem_objects_save he h).mpr (Or.inr ⟨hm, hme⟩), rfl, rfl⟩
  constructor
  · rintro ⟨x, hx, m, hm, rfl, hb, hsame, hto⟩
    obtain ⟨m', hm', hb', hsame'⟩ := (hrow b x.organisation).mp ⟨m, hm, hb, hsame⟩
    rcases (mem_objects_save he h).mp hx with rfl | ⟨hx, hne⟩
    · exact Or.inr ⟨h.id, hto, m', hm', hb', h.organisation ▸ hsame'⟩
    · exact Or.inl ⟨hne, x, hx, m', hm', rfl, hb', hsame', hto⟩
  · rintro (⟨hne, x, hx, m, hm, rfl, hb, hsame, hto⟩ | ⟨rfl, hto, m, hm, hb, hsame⟩)
    · obtain ⟨m', hm', hb', hsame'⟩ := (hrow b x.organisation).mpr ⟨m, hm, hb, hsame⟩
      exact ⟨x, (mem_objects_save he h).mpr (Or.inr ⟨hx, hne⟩), m', hm', rfl, hb', hsame', hto⟩
    · obtain ⟨m', hm', hb', hsame'⟩ := (hrow b e.organisation).mpr ⟨m, hm, hb, hsame⟩
      exact ⟨e', (mem_objects_save he h).mpr (Or.inl rfl), m', hm', h.id, hb',
        h.organisation ▸ hsame', hto⟩

/-- **Nobody reports to themselves** after a save exactly when the saved manager does not report
to the employee, and is not the employee. -/
theorem acyclic_save_iff (hacyclic : Worklist.Acyclic t.ReportsTo) (he : e ∈ t.objects)
    (h : Replaces e' e) : Worklist.Acyclic (t.save e').ReportsTo
      ↔ ∀ m, e'.reportingTo = some m → ¬ ReflTransGen t.ReportsTo m e.id := by
  constructor
  · intro hafter m hto hreach
    have hafterReach : ∀ {c}, ReflTransGen t.ReportsTo c e.id →
        ReflTransGen (t.save e').ReportsTo c e.id := by
      intro c hc
      induction hc using ReflTransGen.head_induction_on with
      | refl => exact .refl
      | @head c d hedge _ ih =>
        by_cases hce : c = e.id
        · exact hce ▸ .refl
        · exact ih.head ((reportsTo_save_iff he h).mpr (Or.inl ⟨hce, hedge⟩))
    obtain ⟨x, hx, hxid, hsame⟩ : ∃ x ∈ t.objects, x.id = m ∧ e.organisation = x.organisation := by
      rcases hreach.cases_head with rfl | ⟨c, ⟨x, hx, -, -, rfl, -⟩, -⟩
      · exact ⟨e, he, rfl, rfl⟩
      · exact ⟨x, hx, rfl, (organisation_eq_of_reach hreach hx rfl he rfl).symm⟩
    exact hafter e.id (TransGen.head' ((reportsTo_save_iff he h).mpr
      (Or.inr ⟨rfl, hto, x, hx, hxid, hsame⟩)) (hafterReach hreach))
  · intro hguard
    cases hto : e'.reportingTo with
    | none =>
      refine hacyclic.mono fun a b hedge => ?_
      rcases (reportsTo_save_iff he h).mp hedge with ⟨-, hedge⟩ | ⟨-, hsome, -⟩
      · exact hedge
      · cases hto.symm.trans hsome
    | some m =>
      refine (hacyclic.insert (hguard m hto)).mono fun a b hedge => ?_
      rcases (reportsTo_save_iff he h).mp hedge with ⟨-, hedge⟩ | ⟨rfl, hsome, -⟩
      · exact Or.inl hedge
      · exact Or.inr ⟨rfl, (Option.some.inj (hto.symm.trans hsome)).symm⟩

/-- A manager who is set already is above the employee. -/
theorem not_reach_of_reportingTo (hacyclic : Worklist.Acyclic t.ReportsTo) (he : e ∈ t.objects)
    {m : EmployeeId} (hto : e.reportingTo = some m) : ¬ ReflTransGen t.ReportsTo m e.id := by
  have hsave : t.save e = t := by
    unfold StaffTables.save
    congr
    exact Table.save_eq_self t.unique (List.mem_of_mem_filter he)
  exact (acyclic_save_iff hacyclic he ⟨rfl, rfl, rfl⟩).mp (hsave.symm ▸ hacyclic) m hto

section

variable (text : TextCase)

theorem EmployeeUpdate.replaces (r : EmployeeUpdate) (e : Employee) :
    Replaces (r.apply text e) e :=
  ⟨rfl, rfl, rfl⟩

theorem Joining.replaces (r : Joining) (m e : Employee) : Replaces (r.apply text m e) e :=
  ⟨rfl, rfl, rfl⟩

/-- **What an update does**: it saves the row, unless it is refused. -/
theorem updateEmployee_cases (t : StaffTables) (r : EmployeeUpdate) :
    (∃ e, Table.find Employee.id r.employee t.objects = some e ∧ checkUpdate text t e r = .ok ()
        ∧ updateEmployee text t r = .ok (t.save (r.apply text e)))
      ∨ (∀ e, Table.find Employee.id r.employee t.objects = some e →
        checkUpdate text t e r ≠ .ok ())
        ∧ ∃ message, updateEmployee text t r = .error message := by
  unfold updateEmployee
  cases hfind : Table.find Employee.id r.employee t.objects with
  | none => exact Or.inr ⟨fun e he => by simp at he, _, rfl⟩
  | some e =>
    dsimp only
    cases hcheck : checkUpdate text t e r with
    | error message =>
      refine Or.inr ⟨fun e' he' hok => ?_, message, rfl⟩
      obtain rfl := Option.some.inj he'
      cases hcheck.symm.trans hok
    | ok _ => exact Or.inl ⟨e, rfl, hcheck, rfl⟩

/-- **What a joining does**: it saves the row with its manager, unless it is refused. -/
theorem markEmployeeJoined_cases (t : StaffTables) (r : Joining) :
    (∃ e m, Table.find Employee.id r.employee t.objects = some e ∧ checkJoining text t e r = .ok m
        ∧ markEmployeeJoined text t r = .ok (t.save (r.apply text m e)))
      ∨ (∀ e, Table.find Employee.id r.employee t.objects = some e →
          ∀ m, checkJoining text t e r ≠ .ok m)
        ∧ ∃ message, markEmployeeJoined text t r = .error message := by
  unfold markEmployeeJoined
  cases hfind : Table.find Employee.id r.employee t.objects with
  | none => exact Or.inr ⟨fun e he => by simp at he, _, rfl⟩
  | some e =>
    dsimp only
    cases hcheck : checkJoining text t e r with
    | error message =>
      refine Or.inr ⟨fun e' he' m hok => ?_, message, rfl⟩
      obtain rfl := Option.some.inj he'
      cases hcheck.symm.trans hok
    | ok m => exact Or.inl ⟨e, m, rfl, hcheck, rfl⟩

/-- **One call** keeps the charts complete exactly when the manager it sets is above. -/
theorem acyclic_staffStep_iff (hacyclic : Worklist.Acyclic t.ReportsTo) (op : StaffOp) :
    Worklist.Acyclic (staffStep text t op).ReportsTo ↔ ManagerAbove text t op := by
  cases op with
  | updateEmployee r =>
    unfold staffStep ManagerAbove
    dsimp only
    obtain ⟨e, hfind, hcheck, hstep⟩ | ⟨hrefused, message, hstep⟩ := updateEmployee_cases text t r
    · have he : e ∈ t.objects := Table.find_mem hfind
      rw [hstep, Transaction.settle_ok, acyclic_save_iff hacyclic he (r.replaces text e)]
      constructor
      · intro h e' he' _ m hm
        obtain rfl := Option.some.inj (hfind.symm.trans he')
        exact h m (by rw [EmployeeUpdate.apply, hm]; rfl)
      · intro h m hto
        cases hset : r.reportingTo with
        | none =>
          refine not_reach_of_reportingTo hacyclic he ?_
          rwa [EmployeeUpdate.apply, hset] at hto
        | some manager =>
          rw [EmployeeUpdate.apply, hset] at hto
          exact h e hfind hcheck m (hset.trans (congrArg some hto))
    · rw [hstep, Transaction.settle_error]
      exact iff_of_true hacyclic fun e he hcheck => absurd hcheck (hrefused e he)
  | markEmployeeJoined r =>
    unfold staffStep ManagerAbove
    dsimp only
    obtain ⟨e, m, hfind, hcheck, hstep⟩ | ⟨hrefused, message, hstep⟩ :=
      markEmployeeJoined_cases text t r
    · have he : e ∈ t.objects := Table.find_mem hfind
      rw [hstep, Transaction.settle_ok, acyclic_save_iff hacyclic he (r.replaces text m e)]
      constructor
      · intro h e' he' m' hm'
        obtain rfl := Option.some.inj (hfind.symm.trans he')
        obtain rfl := Except.ok.inj (hcheck.symm.trans hm')
        exact h m.id rfl
      · intro h k hto
        obtain rfl := Option.some.inj hto
        exact h e hfind m hcheck
    · rw [hstep, Transaction.settle_error]
      exact iff_of_true hacyclic fun e he m hcheck => absurd hcheck (hrefused e he m)

end

end

/-- **The charts are complete in a whole run** exactly when they are at its start and every
manager that a call sets is above the employee. -/
theorem complete_forever_iff (text : TextCase) (t : StaffTables) (ops : List StaffOp) :
    (∀ n, Complete (Run.exec (staffStep text) t (ops.take n)))
      ↔ Complete t ∧ Run.Along (staffStep text) (ManagerAbove text) t ops := by
  have hrun : Worklist.Acyclic t.ReportsTo →
      ((∀ n, Worklist.Acyclic (Run.exec (staffStep text) t (ops.take n)).ReportsTo)
        ↔ Run.Along (staffStep text) (ManagerAbove text) t ops) := fun hacyclic =>
    Run.forall_take_iff_along (I := fun _ => True)
      (P := fun s : StaffTables => Worklist.Acyclic s.ReportsTo)
      (fun _ _ _ => trivial) (fun _ op _ hs => acyclic_staffStep_iff text hs op) trivial hacyclic
      ops
  simp only [complete_iff]
  constructor
  · intro h
    have hacyclic : Worklist.Acyclic t.ReportsTo := h 0
    exact ⟨hacyclic, (hrun hacyclic).mp h⟩
  · rintro ⟨hacyclic, hops⟩
    exact (hrun hacyclic).mpr hops

/-! ## An employee who joins as his own manager -/

namespace Sample

def text : TextCase where
  strip := id
  upper := id
  strip_empty := Payroll.Sample.text.strip_empty
  upper_empty := Payroll.Sample.text.upper_empty

/-- An employee of organisation 1. -/
def employee (id : EmployeeId) (status : EmployeeStatus) : Employee where
  id := id
  organisation := 1
  firstName := "Asha"
  lastName := "Rao"
  email := "asha@example.com"
  employeeCode := none
  designation := ""
  dateOfJoining := none
  reportingTo := none
  status := status
  onboardingStatus := .notStarted
  onboardingCompletedAt := none
  isDeleted := false

def pending : StaffTables where
  employees := [employee 1 .active, employee 2 .pending]
  unique := by decide

/-- Employee 2 joins. -/
def joins (manager : EmployeeId) : StaffOp :=
  .markEmployeeJoined {
    employee := 2
    employeeCode := "EMP002"
    dateOfJoining := some ⟨2026, 5, 1, isDate_2026_05_01⟩
    designation := "Engineer"
    reportingToEmployeeId := some manager
    now := 0 }

end Sample

open Sample

/-- **An employee who joins as his own manager** is in no chart of the organisation. -/
theorem self_manager_not_listed :
    Complete pending
      ∧ ((Run.exec (staffStep text) pending [joins 2]).listed 1 false).map Employee.id = [1, 2]
      ∧ (getOrgChartTree (Run.exec (staffStep text) pending [joins 2]) 1 false).map
        (fun tree => (Forest.preorders tree).map Employee.id) = some [1]
      ∧ ¬ Complete (Run.exec (staffStep text) pending [joins 2]) := by
  have htree : (getOrgChartTree (Run.exec (staffStep text) pending [joins 2]) 1 false).map
      (fun tree => (Forest.preorders tree).map Employee.id) = some [1] := by decide +kernel
  refine ⟨?_, by decide +kernel, htree, fun hcomplete => ?_⟩
  · refine (complete_iff pending).mpr fun v hv => ?_
    obtain ⟨_, ⟨e, he, -, -, -, -, -, hto⟩, -⟩ := TransGen.head'_iff.mp hv
    have hnone : ∀ e ∈ pending.objects, e.reportingTo = none := by decide
    cases (hnone e he).symm.trans hto
  · obtain ⟨tree, hfound, hperm⟩ := hcomplete 1 false
    rw [hfound, Option.map_some, Option.some_inj] at htree
    have hlength := (hperm.map Employee.id).length_eq
    rw [htree] at hlength
    exact absurd hlength (by decide +kernel)

end OrgChart
