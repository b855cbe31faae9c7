import Clarisal.Employees.OrgChart

/-!
# The team of a manager

The indirect team is searched from the manager down, with the employees found so far. The manager
is not among these at the start: on a circle he is found like everybody else, and is in his own
team (`manager_in_own_team`). Without one the team is right (`getReportingTeam_iff`).
-/

open Relation

namespace OrgChart

open Approvals (OrganisationId EmployeeId)

/-! ## The team -/

/-- A code that is not set comes last. -/
def codeLe : Option String → Option String → Bool
  | _, none => true
  | none, some _ => false
  | some code, some code' => code ≤ code'

/-- By first name, last name and code. -/
def Employee.teamLe (e e' : Employee) : Bool :=
  e.firstName < e'.firstName || (e.firstName = e'.firstName
    && (e.lastName < e'.lastName || (e.lastName = e'.lastName
      && codeLe e.employeeCode e'.employeeCode)))

/-- The employees that may be in a team, in the order of the query. -/
def StaffTables.teamRows (t : StaffTables) (organisation : OrganisationId) (includeInactive : Bool) :
    List Employee :=
  (t.objects.filter (fun e => e.organisation = organisation
    ∧ (includeInactive = true ∨ e.status = .active))).insertionSort (fun e e' => e.teamLe e' = true)

/-- `get_reporting_team`. -/
def getReportingTeam (t : StaffTables) (employee : Employee)
    (includeInactive includeIndirect : Bool) : Option (List Employee) :=
  let rows := t.teamRows employee.organisation includeInactive
  let reportsOf := fun managerId : EmployeeId => rows.filter (fun e => e.reportingTo = some managerId)
  if includeIndirect = false then some (reportsOf employee.id)
  else Worklist.collect Employee.id reportsOf (t.employees.length + 2) [employee.id] []

/-- A row of a team reports to someone. -/
def ReportsWithin (rows : List Employee) (a b : EmployeeId) : Prop :=
  ∃ e ∈ rows, e.id = a ∧ e.reportingTo = some b

/-- **The team of a manager**: everyone else who reports to him, directly or through others. -/
def IsTeam (rows : List Employee) (manager : EmployeeId) (team : List Employee) : Prop :=
  ∀ e, e ∈ team ↔ e ∈ rows ∧ e.id ≠ manager ∧ TransGen (ReportsWithin rows) e.id manager

section

variable {t : StaffTables} {organisation : OrganisationId} {includeInactive : Bool}

theorem teamRows_unique (t : StaffTables) (organisation : OrganisationId) (includeInactive : Bool) :
    Table.Unique Employee.id (t.teamRows organisation includeInactive) :=
  ((List.perm_insertionSort _ _).map Employee.id).nodup_iff.mpr ((objects_unique t).filter _)

/-- **The search ends**, and finds who reports to the manager: each once, and himself too if he
reports to himself. -/
theorem getReportingTeam_spec (t : StaffTables) (m : Employee) (includeInactive : Bool) :
    ∃ team, getReportingTeam t m includeInactive true = some team
      ∧ (team.map Employee.id).Nodup
      ∧ ∀ e, e ∈ team ↔ e ∈ t.teamRows m.organisation includeInactive
        ∧ TransGen (ReportsWithin (t.teamRows m.organisation includeInactive)) e.id m.id := by
  set rows := t.teamRows m.organisation includeInactive with hrows
  set reportsOf := fun managerId : EmployeeId =>
    rows.filter (fun e => e.reportingTo = some managerId) with hreports
  have hlength : rows.length ≤ t.employees.length := by
    rw [hrows, StaffTables.teamRows, List.length_insertionSort]
    exact (List.length_filter_le _ _).trans (List.length_filter_le _ _)
  have hends : (Worklist.collect Employee.id reportsOf (t.employees.length + 2) [m.id] []).isSome
      = true := by
    refine Worklist.collect_isSome (rows.map Employee.id).toFinset (fun v e he => ?_) (by simp)
      (by simp) ?_
    · exact List.mem_toFinset.mpr (List.mem_map_of_mem (List.mem_of_mem_filter he))
    · have hcard := List.toFinset_card_le (rows.map Employee.id)
      rw [List.length_map] at hcard
      simp only [List.length_singleton, List.length_nil]
      omega
  obtain ⟨team, hteam⟩ := Option.isSome_iff_exists.mp hends
  obtain ⟨hnodup, hmem⟩ := Worklist.collect_spec (by simp) hteam
  have hedge : Worklist.Edge (fun v => (reportsOf v).map Employee.id)
      = Function.swap (ReportsWithin rows) := by
    funext a b
    simp [Worklist.Edge, hreports, ReportsWithin, Function.swap, and_assoc, and_comm]
  have hfound : ∀ v, v ∈ team.map Employee.id ↔ TransGen (ReportsWithin rows) v m.id := by
    intro v
    rw [Worklist.mem_collect_iff hteam, hedge, transGen_swap]
  refine ⟨team, hteam, hnodup, fun e => ?_⟩
  constructor
  · intro he
    obtain ⟨v, hv⟩ := (hmem e he).resolve_left List.not_mem_nil
    exact ⟨List.mem_of_mem_filter hv, (hfound e.id).mp (List.mem_map_of_mem he)⟩
  · rintro ⟨he, hreach⟩
    obtain ⟨e', he', hid⟩ := List.mem_map.mp ((hfound e.id).mpr hreach)
    obtain ⟨v, hv⟩ := (hmem e' he').resolve_left List.not_mem_nil
    obtain rfl := (teamRows_unique t _ _).eq_of_key (List.mem_of_mem_filter hv) he hid
    exact he'

end

/-- **The indirect team is right** exactly when the manager does not report to himself. It is
always found, and has everyone in it once. -/
theorem getReportingTeam_iff (t : StaffTables) (m : Employee) (includeInactive : Bool) :
    ∃ team, getReportingTeam t m includeInactive true = some team
      ∧ (team.map Employee.id).Nodup
      ∧ (IsTeam (t.teamRows m.organisation includeInactive) m.id team
        ↔ ¬ TransGen (ReportsWithin (t.teamRows m.organisation includeInactive)) m.id m.id) := by
  obtain ⟨team, hteam, hnodup, hmem⟩ := getReportingTeam_spec t m includeInactive
  refine ⟨team, hteam, hnodup, fun h hcycle => ?_, fun hnone e => ?_⟩
  · obtain ⟨-, ⟨e, he, hid, -⟩, -⟩ := TransGen.head'_iff.mp hcycle
    exact ((h e).mp ((hmem e).mpr ⟨he, hid ▸ hcycle⟩)).2.1 hid
  · rw [hmem e]
    refine and_congr_right fun _ => (and_iff_right_of_imp fun hreach hid => hnone ?_).symm
    exact hid ▸ hreach

/-! ## A manager in his own team -/

namespace Sample

/-- Two active employees, each the manager of the other. -/
def circle : StaffTables where
  employees := [{ employee 1 .active with reportingTo := some 2 },
    { employee 2 .active with reportingTo := some 1 }]
  unique := by decide

end Sample

open Sample

/-- **The manager is in his own team**, after the one who reports to him. -/
theorem manager_in_own_team :
    (getReportingTeam circle { employee 1 .active with reportingTo := some 2 } false true).map
        (fun team => team.map Employee.id) = some [2, 1]
      ∧ ∀ team, getReportingTeam circle { employee 1 .active with reportingTo := some 2 } false true
        = some team → ¬ IsTeam (circle.teamRows 1 false) 1 team := by
  have hteam : (getReportingTeam circle { employee 1 .active with reportingTo := some 2 } false
      true).map (fun team => team.map Employee.id) = some [2, 1] := by decide +kernel
  refine ⟨hteam, fun team hfound h => ?_⟩
  rw [hfound, Option.map_some, Option.some_inj] at hteam
  have hmem : (1 : EmployeeId) ∈ team.map Employee.id := by
    rw [hteam]
    decide
  obtain ⟨e, he, hid⟩ := List.mem_map.mp hmem
  exact ((h e).mp he).2.1 hid

end OrgChart
