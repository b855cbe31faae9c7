import Clarisal.Lib.Query
import Clarisal.Payroll.PayRuns
import Mathlib.Data.String.Basic

/-!
# Prefetched lookups

A calculation reads the statutory rules of all its states, and the assignments
of all its employees, in one query each, and keeps the first row it meets of
every state and of every employee. The services also look one state or one
employee up at a time.

The two agree (`prefetched_agree`): rows of one group come in the order of the
single query, and aliases of a state are made one before both the cache is
filled and it is read.
-/

open Approvals Calendar

namespace Payroll

/-! ## State codes -/

/-- How Python strips a text and puts it in capitals. -/
structure TextCase where
  strip : String → String
  upper : String → String
  strip_empty : strip "" = ""
  upper_empty : upper "" = ""

def payrollStateCodeAliases : List (String × String) :=
  [("OR", "OD"), ("OD", "OD"), ("CG", "CT"), ("CT", "CT"), ("TS", "TG"), ("TG", "TG")]

def canonicalizePayrollStateCode (text : TextCase) (stateCode : String) : String :=
  let normalized := text.upper (text.strip stateCode)
  if normalized = "" then "" else (Dict.get normalized payrollStateCodeAliases).getD normalized

/-! ## Statutory rules -/

/-- The row of a statutory rule of a state, which the row must name. -/
structure StateRule (ρ : Type) where
  countryCode : String
  stateCode : String
  isActive : Bool
  effectiveFrom : Date
  effectiveTo : Option Date
  createdAt : Time
  rule : ρ
  stateCode_ne : stateCode ≠ ""
deriving DecidableEq

section StateRule

variable {ρ : Type}

/-- The rule is in force. -/
def StateRule.inForce (asOfDate : Date) (row : StateRule ρ) : Bool :=
  row.countryCode = "IN" ∧ row.isActive = true ∧ row.effectiveFrom ≤ asOfDate
    ∧ ∀ effectiveTo ∈ row.effectiveTo, asOfDate ≤ effectiveTo

/-- `order_by('-effective_from', '-created_at')`. -/
def StateRule.latestFirst (row : StateRule ρ) : Dateᵒᵈ ×ₗ Timeᵒᵈ :=
  toLex (OrderDual.toDual row.effectiveFrom, OrderDual.toDual row.createdAt)

/-- `order_by('state_code', '-effective_from', '-created_at')`. -/
def StateRule.byState (row : StateRule ρ) : String ×ₗ (Dateᵒᵈ ×ₗ Timeᵒᵈ) :=
  toLex (row.stateCode, row.latestFirst)

/-- The rule of one state. -/
def getActiveRule (q : QueryOrder) (text : TextCase) (rules : List (StateRule ρ))
    (stateCode : String) (asOfDate : Date) : Option (StateRule ρ) :=
  let canonicalStateCode := canonicalizePayrollStateCode text stateCode
  (q.orderBy StateRule.latestFirst
    (rules.filter (fun r => r.stateCode = canonicalStateCode ∧ r.inForce asOfDate))).head?

/-- The rules of many states. -/
def prefetchRules (q : QueryOrder) (text : TextCase) (rules : List (StateRule ρ))
    (stateCodes : List String) (asOfDate : Date) : List (String × Option (StateRule ρ)) :=
  let canonicalStateCodes :=
    ((stateCodes.map (canonicalizePayrollStateCode text)).filter (fun c => c ≠ "")).dedup
  if canonicalStateCodes = [] then []
  else
    Dict.collect StateRule.stateCode (fun found row => found.join.or (some row))
      (q.orderBy StateRule.byState
        (rules.filter (fun r => r.stateCode ∈ canonicalStateCodes ∧ r.inForce asOfDate)))
      (canonicalStateCodes.map (fun c => (c, none)))

/-- `rule_cache.get(canonical_state_code)`. -/
def cachedRule (text : TextCase) (ruleCache : List (String × Option (StateRule ρ)))
    (stateCode : String) : Option (StateRule ρ) :=
  (Dict.get (canonicalizePayrollStateCode text stateCode) ruleCache).join

end StateRule

def getActiveProfessionalTaxRule (q : QueryOrder) (text : TextCase)
    (rules : List (StateRule ProfessionalTaxRule)) (stateCode : String) (asOfDate : Date) :
    Option (StateRule ProfessionalTaxRule) :=
  getActiveRule q text rules stateCode asOfDate

def prefetchProfessionalTaxRules (q : QueryOrder) (text : TextCase)
    (rules : List (StateRule ProfessionalTaxRule)) (stateCodes : List String) (asOfDate : Date) :
    List (String × Option (StateRule ProfessionalTaxRule)) :=
  prefetchRules q text rules stateCodes asOfDate

def getActiveLabourWelfareFundRule (q : QueryOrder) (text : TextCase)
    (rules : List (StateRule LabourWelfareFundRule)) (stateCode : String) (asOfDate : Date) :
    Option (StateRule LabourWelfareFundRule) :=
  getActiveRule q text rules stateCode asOfDate

def prefetchLabourWelfareFundRules (q : QueryOrder) (text : TextCase)
    (rules : List (StateRule LabourWelfareFundRule)) (stateCodes : List String)
    (asOfDate : Date) : List (String × Option (StateRule LabourWelfareFundRule)) :=
  prefetchRules q text rules stateCodes asOfDate

/-! ## Assignments -/

/-- The row of an assignment, with what orders it. -/
structure AssignmentRow extends CompensationAssignment where
  version : ℕ
  createdAt : Time
deriving DecidableEq, Repr

/-- `order_by('-effective_from', '-version', '-created_at')`. -/
def AssignmentRow.latestFirst (row : AssignmentRow) : Dateᵒᵈ ×ₗ (ℕᵒᵈ ×ₗ Timeᵒᵈ) :=
  toLex (OrderDual.toDual row.effectiveFrom,
    toLex (OrderDual.toDual row.version, OrderDual.toDual row.createdAt))

/-- `order_by('employee_id', '-effective_from', '-version', '-created_at')`. -/
def AssignmentRow.byEmployee (row : AssignmentRow) :
    EmployeeId ×ₗ (Dateᵒᵈ ×ₗ (ℕᵒᵈ ×ₗ Timeᵒᵈ)) :=
  toLex (row.employee, row.latestFirst)

def getEffectiveCompensationAssignment (q : QueryOrder) (assignments : List AssignmentRow)
    (employee : EmployeeId) (asOfDate : Date) : Option AssignmentRow :=
  (q.orderBy AssignmentRow.latestFirst (assignments.filter (fun a =>
    a.employee = employee ∧ a.effectiveFrom ≤ asOfDate ∧ a.isApproved = true))).head?

/-- **The loop that prefetches assignments.** -/
def assignmentsByEmployee (q : QueryOrder) (employees : List Employee)
    (assignments : List AssignmentRow) (organisation : OrganisationId) (periodEnd : Date) :
    List (EmployeeId × AssignmentRow) :=
  Dict.collect (fun a => a.employee) (fun found row => found.getD row)
    (q.orderBy AssignmentRow.byEmployee (assignments.filter (fun a =>
      employees.any (fun e => e.id = a.employee ∧ e.organisation = organisation)
        ∧ a.isApproved = true ∧ a.effectiveFrom ≤ periodEnd))) []

/-! ## The calculation -/

/-- The employees of a calculation. -/
def employeesOfRun (employees : List Employee) (organisation : OrganisationId) : List Employee :=
  employees.filter (fun e => e.organisation = organisation ∧ e.status = .active)

/-- The state of an employee: that of the office, when it has one. -/
def employeeState (orgStateCode : String) (employee : Employee) : String :=
  match employee.officeStateCode with
  | none => orgStateCode
  | some code => if code = "" then orgStateCode else code

/-- The states of a calculation; empty ones are no states. -/
def relevantStateCodes (orgStateCode : String) (employees : List Employee) : List String :=
  (orgStateCode :: employees.map (employeeState orgStateCode)).filter (fun c => c ≠ "")

section

variable {q : QueryOrder} {text : TextCase} {ρ : Type} {rules : List (StateRule ρ)}
  {stateCodes : List String} {stateCode : String} {asOfDate : Date}

/-- An empty state has no rule. -/
theorem getActiveRule_of_empty (h : canonicalizePayrollStateCode text stateCode = "") :
    getActiveRule q text rules stateCode asOfDate = none := by
  unfold getActiveRule
  have hnone : rules.filter (fun r => r.stateCode = canonicalizePayrollStateCode text stateCode
      ∧ r.inForce asOfDate) = [] := by
    refine List.filter_eq_nil_iff.mpr (fun r _ hr => ?_)
    exact r.stateCode_ne ((of_decide_eq_true hr).1.trans h)
  dsimp only
  rw [hnone, List.head?_eq_none_iff]
  exact List.Perm.eq_nil (q.perm _ [])

/-- The keys start without a row. -/
theorem join_get_map_none (codes : List String) (code : String) :
    (Dict.get code (codes.map (fun c => (c, (none : Option (StateRule ρ)))))).join = none := by
  induction codes with
  | nil => rfl
  | cons c codes ih =>
    rw [List.map_cons, Dict.get_cons]
    split
    · rfl
    · exact ih

/-- A rule that no key of the cache is about is not found. -/
theorem cachedRule_of_empty (h : canonicalizePayrollStateCode text stateCode = "") :
    cachedRule text (prefetchRules q text rules stateCodes asOfDate) stateCode = none := by
  unfold cachedRule prefetchRules
  dsimp only
  split
  · rfl
  · rw [Dict.get_firstRow, join_get_map_none, Option.none_or, List.head?_eq_none_iff]
    refine List.filter_eq_nil_iff.mpr (fun r _ hr => ?_)
    exact r.stateCode_ne ((of_decide_eq_true hr).trans h)

/-- **The cached rule of a state** is the one that is looked up. -/
theorem cachedRule_prefetchRules (hties : NoTies StateRule.byState rules)
    (hstate : stateCode ∈ stateCodes) :
    cachedRule text (prefetchRules q text rules stateCodes asOfDate) stateCode
      = getActiveRule q text rules stateCode asOfDate := by
  by_cases hempty : canonicalizePayrollStateCode text stateCode = ""
  · rw [getActiveRule_of_empty hempty, cachedRule_of_empty hempty]
  · have hmem : canonicalizePayrollStateCode text stateCode ∈ ((stateCodes.map
        (canonicalizePayrollStateCode text)).filter (fun c => c ≠ "")).dedup := by
      rw [List.mem_dedup, List.mem_filter]
      exact ⟨List.mem_map_of_mem hstate, by simpa using hempty⟩
    unfold cachedRule prefetchRules getActiveRule
    dsimp only
    rw [if_neg (List.ne_nil_of_mem hmem), Dict.get_firstRow, join_get_map_none, Option.none_or]
    refine congrArg List.head? (q.filter_orderBy ?_ ?_ ?_)
    · rw [List.filter_filter]
      refine List.filter_congr (fun r _ => ?_)
      by_cases hcode : r.stateCode = canonicalizePayrollStateCode text stateCode
      · simp only [hcode, hmem, true_and, decide_true, Bool.true_and]
      · simp [hcode]
    · intro a ha b hb hle
      have hsame : a.stateCode = b.stateCode :=
        (of_decide_eq_true (List.mem_filter.mp ha).2).1.trans
          (of_decide_eq_true (List.mem_filter.mp hb).2).1.symm
      exact (Prod.Lex.toLex_le_toLex.mp hle).resolve_left (fun hlt => hlt.ne hsame) |>.2
    · intro a ha b hb heq
      have hsame : a.stateCode = b.stateCode :=
        (of_decide_eq_true (List.mem_filter.mp ha).2).1.trans
          (of_decide_eq_true (List.mem_filter.mp hb).2).1.symm
      refine hties a (List.mem_of_mem_filter ha) b (List.mem_of_mem_filter hb) ?_
      exact congrArg toLex (Prod.ext hsame heq)

/-- **The assignment the loop keeps** is the one that is looked up. -/
theorem get_assignmentsByEmployee {employees : List Employee} {assignments : List AssignmentRow}
    {organisation : OrganisationId} {periodEnd : Date}
    (hties : NoTies AssignmentRow.byEmployee assignments) {employee : Employee}
    (hmem : employee ∈ employees) (horg : employee.organisation = organisation) :
    Dict.get employee.id (assignmentsByEmployee q employees assignments organisation periodEnd)
      = getEffectiveCompensationAssignment q assignments employee.id periodEnd := by
  have hknown : employees.any (fun e => e.id = employee.id ∧ e.organisation = organisation)
      = true := List.any_eq_true.mpr ⟨employee, hmem, decide_eq_true ⟨rfl, horg⟩⟩
  unfold assignmentsByEmployee getEffectiveCompensationAssignment
  rw [Dict.get_setdefault, Dict.get_nil, Option.none_or]
  refine congrArg List.head? (q.filter_orderBy ?_ ?_ ?_)
  · rw [List.filter_filter]
    refine List.filter_congr (fun a _ => ?_)
    by_cases hid : a.employee = employee.id
    · simp only [hid, hknown, true_and, decide_true, Bool.true_and, and_comm]
    · simp [hid]
  · intro a ha b hb hle
    have hsame : a.employee = b.employee :=
      (of_decide_eq_true (List.mem_filter.mp ha).2).1.trans
        (of_decide_eq_true (List.mem_filter.mp hb).2).1.symm
    exact ((Prod.Lex.toLex_le_toLex.mp hle).resolve_left (fun hlt => hlt.ne hsame)).2
  · intro a ha b hb heq
    have hsame : a.employee = b.employee :=
      (of_decide_eq_true (List.mem_filter.mp ha).2).1.trans
        (of_decide_eq_true (List.mem_filter.mp hb).2).1.symm
    refine hties a (List.mem_of_mem_filter ha) b (List.mem_of_mem_filter hb) ?_
    exact congrArg toLex (Prod.ext hsame heq)

/-- The state of an employee of the run is prefetched, unless it is empty. -/
theorem employeeState_mem {orgStateCode : String} {employees : List Employee}
    {employee : Employee} (hmem : employee ∈ employees)
    (hstate : employeeState orgStateCode employee ≠ "") :
    employeeState orgStateCode employee ∈ relevantStateCodes orgStateCode employees := by
  refine List.mem_filter.mpr ⟨List.mem_cons_of_mem _ (List.mem_map_of_mem hmem), ?_⟩
  exact decide_eq_true hstate

theorem canonicalizePayrollStateCode_empty (text : TextCase) :
    canonicalizePayrollStateCode text "" = "" := by
  unfold canonicalizePayrollStateCode
  rw [text.strip_empty, text.upper_empty]
  rfl

/-- **The rule of every employee of a run** is the one that is looked up. -/
theorem cachedRule_employeeState (hties : NoTies StateRule.byState rules) {orgStateCode : String}
    {employees : List Employee} {employee : Employee} (hmem : employee ∈ employees) :
    cachedRule text (prefetchRules q text rules (relevantStateCodes orgStateCode employees)
        asOfDate) (employeeState orgStateCode employee)
      = getActiveRule q text rules (employeeState orgStateCode employee) asOfDate := by
  by_cases hstate : employeeState orgStateCode employee = ""
  · have hempty : canonicalizePayrollStateCode text (employeeState orgStateCode employee) = "" := by
      rw [hstate, canonicalizePayrollStateCode_empty]
    rw [cachedRule_of_empty hempty, getActiveRule_of_empty hempty]
  · exact cachedRule_prefetchRules hties (employeeState_mem hmem hstate)

end

/-- **Prefetched lookups agree with single ones**: the statutory rules of every
state that is prefetched, the rules of the state of every employee of a run,
and the assignment of every employee of its organisation. -/
theorem prefetched_agree (q : QueryOrder) (text : TextCase)
    (professionalTaxRules : List (StateRule ProfessionalTaxRule))
    (labourWelfareFundRules : List (StateRule LabourWelfareFundRule))
    (assignments : List AssignmentRow)
    (hprofessional : NoTies StateRule.byState professionalTaxRules)
    (hlabour : NoTies StateRule.byState labourWelfareFundRules)
    (hassignments : NoTies AssignmentRow.byEmployee assignments)
    (employees : List Employee) (organisation : OrganisationId) (orgStateCode : String)
    (period : PayPeriod) :
    (∀ stateCodes, ∀ stateCode ∈ stateCodes,
      cachedRule text (prefetchProfessionalTaxRules q text professionalTaxRules stateCodes
          period.start) stateCode
        = getActiveProfessionalTaxRule q text professionalTaxRules stateCode period.start
      ∧ cachedRule text (prefetchLabourWelfareFundRules q text labourWelfareFundRules stateCodes
          period.start) stateCode
        = getActiveLabourWelfareFundRule q text labourWelfareFundRules stateCode period.start)
    ∧ ∀ employee ∈ employeesOfRun employees organisation,
      cachedRule text (prefetchProfessionalTaxRules q text professionalTaxRules
          (relevantStateCodes orgStateCode (employeesOfRun employees organisation)) period.start)
          (employeeState orgStateCode employee)
        = getActiveProfessionalTaxRule q text professionalTaxRules
          (employeeState orgStateCode employee) period.start
      ∧ cachedRule text (prefetchLabourWelfareFundRules q text labourWelfareFundRules
          (relevantStateCodes orgStateCode (employeesOfRun employees organisation)) period.start)
          (employeeState orgStateCode employee)
        = getActiveLabourWelfareFundRule q text labourWelfareFundRules
          (employeeState orgStateCode employee) period.start
      ∧ Dict.get employee.id
          (assignmentsByEmployee q employees assignments organisation period.finish)
        = getEffectiveCompensationAssignment q assignments employee.id period.finish := by
  refine ⟨fun stateCodes stateCode hstate => ⟨?_, ?_⟩, fun employee hmem => ⟨?_, ?_, ?_⟩⟩
  · exact cachedRule_prefetchRules hprofessional hstate
  · exact cachedRule_prefetchRules hlabour hstate
  · exact cachedRule_employeeState hprofessional hmem
  · exact cachedRule_employeeState hlabour hmem
  · obtain ⟨hemployee, hrow⟩ := List.mem_filter.mp hmem
    exact get_assignmentsByEmployee hassignments hemployee (of_decide_eq_true hrow).1

/-! ## A state whose rule is revised -/

namespace Sample

def text : TextCase where
  strip := id
  upper := id
  strip_empty := rfl
  upper_empty := rfl

/-- A rule of Maharashtra. -/
def revision (effectiveFrom : Date) (effectiveTo : Option Date) (createdAt : Time) :
    StateRule ProfessionalTaxRule where
  countryCode := "IN"
  stateCode := "MH"
  isActive := true
  effectiveFrom := effectiveFrom
  effectiveTo := effectiveTo
  createdAt := createdAt
  rule := { incomeBasis := .monthly, slabs := [] }
  stateCode_ne := by decide

def revisions : List (StateRule ProfessionalTaxRule) :=
  [revision ⟨2024, 4, 1, by decide⟩ (some ⟨2026, 3, 31, by decide⟩) 10,
    revision ⟨2025, 4, 1, by decide⟩ none 20]

def may : PayPeriod := ⟨2025, 5, by decide⟩

end Sample

open Sample

theorem prefetched_agree_sample :
    cachedRule text (prefetchProfessionalTaxRules .stable text revisions ["MH"] may.start) "MH"
      = getActiveProfessionalTaxRule .stable text revisions "MH" may.start :=
  ((prefetched_agree .stable text revisions [] [] (by decide) (by decide) (by decide) [] 1 "MH"
    may).1 ["MH"] "MH" (List.mem_singleton_self _)).1

/-- The later of two rules in force. -/
example : getActiveProfessionalTaxRule .stable text revisions "MH" may.start
    = some (revision ⟨2025, 4, 1, by decide⟩ none 20) := by decide

end Payroll
