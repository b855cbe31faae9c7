import Clarisal.Approvals.Models
import Mathlib.Data.List.Sort

/-!
# Who approves a stage

`resolveStageApprovers` turns the configured approvers of a stage into
assignments: every candidate is replaced by the delegate on duty, a candidate
who is the requester is replaced by the stage's fallback, repeated users are
dropped, and the fallback stands in when nobody is left.

The organisation the resolution reads (reporting lines, heads, roles,
delegations) is the `Directory`. Every operation is given the directory of its
own moment, so it may change freely between two operations. Only the account
of an employee is fixed: it is the section variable `user`.

The last section says exactly when the requester ends up among the assigned
approvers (`exists_requester_mem_iff`).
-/

open Calendar

namespace Approvals

/-- The restriction of a role lookup to one department or one office. -/
inductive RoleScope
  | organisation
  | department (d : DepartmentId)
  | officeLocation (l : OfficeLocationId)
deriving DecidableEq, Repr

/-- **The organisation at one moment.** `employeesForRole` is the role lookup
`_employees_for_role`, in the order of its query. -/
structure Directory where
  organisation : EmployeeId → OrganisationId
  reportingTo : EmployeeId → Option EmployeeId
  department : EmployeeId → Option DepartmentId
  departmentHead : DepartmentId → Option EmployeeId
  officeLocation : EmployeeId → Option OfficeLocationId
  primaryAdminUser : OrganisationId → Option UserId
  createdBy : OrganisationId → Option UserId
  employeesForRole : OrganisationId → String → RoleScope → List EmployeeId
  delegations : List ApprovalDelegation
  approvalActionsBlocked : OrganisationId → Option String
  today : Date
  now : Time

/-- One resolved approver of a stage. -/
structure ApproverAssignment where
  approverUser : UserId
  approverEmployee : Option EmployeeId
  assignmentSource : ApprovalActionAssignmentSource
  originalApproverUser : Option UserId
  originalApproverEmployee : Option EmployeeId
deriving DecidableEq, Repr

/-- The later start first, then the later creation. -/
def delegationBefore (a b : ApprovalDelegation) : Prop :=
  b.startDate < a.startDate ∨ (a.startDate = b.startDate ∧ b.createdAt ≤ a.createdAt)

instance : DecidableRel delegationBefore := fun _ _ =>
  inferInstanceAs (Decidable (_ ∨ _))

/-- The kinds whose requester may approve the request. -/
def selfApprovalAllowed (kind : ApprovalRequestKind) : Bool :=
  kind ∈ [.payrollProcessing, .salaryRevision, .compensationTemplateChange]

/-- Keep the first assignment of every user not yet seen. -/
def dedupe : List UserId → List ApproverAssignment → List ApproverAssignment
  | _, [] => []
  | seen, a :: rest =>
    if a.approverUser ∈ seen then dedupe seen rest
    else a :: dedupe (a.approverUser :: seen) rest

namespace Directory

/-- The delegation on duty for an approver today: the newest active one in
its dates that covers the request kind. -/
def activeApprovalDelegation (dir : Directory) (approverEmployee : EmployeeId)
    (requestKind : ApprovalRequestKind) : Option ApprovalDelegation :=
  let candidates := dir.delegations.filter (fun d =>
    d.organisation = dir.organisation approverEmployee
      ∧ d.delegatorEmployee = approverEmployee ∧ d.isActive
      ∧ d.startDate ≤ dir.today ∧ ∀ e ∈ d.endDate, dir.today ≤ e)
  (candidates.insertionSort delegationBefore).find? (fun d => requestKind ∈ d.requestKinds)

/-- The manager so many levels up, at least one. -/
def managerAtLevel (dir : Directory) (employee : Option EmployeeId) (level : ℕ) :
    Option EmployeeId :=
  (fun current => current.bind dir.reportingTo)^[max level 1] employee

def departmentHeadOf (dir : Directory) (employee : Option EmployeeId) :
    Option EmployeeId := do
  let e ← employee
  let d ← dir.department e
  match dir.departmentHead d with
  | some head =>
    if dir.organisation head = dir.organisation e then return head
    else (dir.employeesForRole (dir.organisation e) "DEPARTMENT_HEAD" (.department d)).head?
  | none =>
    (dir.employeesForRole (dir.organisation e) "DEPARTMENT_HEAD" (.department d)).head?

def locationAdmin (dir : Directory) (employee : Option EmployeeId) :
    Option EmployeeId := do
  let e ← employee
  let l ← dir.officeLocation e
  (dir.employeesForRole (dir.organisation e) "LOCATION_ADMIN" (.officeLocation l)).head?

end Directory

section Resolve

variable (user : EmployeeId → UserId)

/-- An employee as an approver: the account and the employee record. -/
def asApprover (employee : EmployeeId) : UserId × Option EmployeeId :=
  (user employee, some employee)

/-- The stage's fallback approver. -/
def resolveStageFallback (dir : Directory) (stage : ApprovalStage)
    (organisation : OrganisationId) (requester : Option EmployeeId) :
    Option (UserId × Option EmployeeId) :=
  match stage.fallbackType with
  | .none => none
  | .reportingManager => (dir.managerAtLevel requester 1).map (asApprover user)
  | .departmentHead => (dir.departmentHeadOf requester).map (asApprover user)
  | .role =>
    (dir.employeesForRole organisation stage.fallbackRoleCode .organisation).head?.map
      (asApprover user)
  | .specificEmployee => stage.fallbackEmployee.map (asApprover user)
  | .primaryOrgAdmin =>
    ((dir.primaryAdminUser organisation).orElse (fun _ => dir.createdBy organisation)).map
      (fun u => (u, none))

/-- An approver, or the delegate who stands in. An approver known only as a
user delegates to nobody. -/
def resolveAssignmentWithDelegation (dir : Directory)
    (approver : UserId × Option EmployeeId) (requestKind : ApprovalRequestKind) :
    ApproverAssignment :=
  let direct : ApproverAssignment :=
    { approverUser := approver.1, approverEmployee := approver.2,
      assignmentSource := .direct, originalApproverUser := none,
      originalApproverEmployee := none }
  match approver.2 with
  | none => direct
  | some e =>
    match dir.activeApprovalDelegation e requestKind with
    | none => direct
    | some d =>
      { approverUser := user d.delegateEmployee,
        approverEmployee := some d.delegateEmployee,
        assignmentSource := .delegated, originalApproverUser := some approver.1,
        originalApproverEmployee := approver.2 }

/-- An employee's own assignment. -/
def directAssignment (dir : Directory) (requestKind : ApprovalRequestKind)
    (employee : EmployeeId) : ApproverAssignment :=
  resolveAssignmentWithDelegation user dir (asApprover user employee) requestKind

/-- The fallback's assignment, when the stage has a fallback. -/
def fallbackAssignment (dir : Directory) (stage : ApprovalStage)
    (organisation : OrganisationId) (requester : Option EmployeeId)
    (requestKind : ApprovalRequestKind) : Option ApproverAssignment :=
  (resolveStageFallback user dir stage organisation requester).map
    (fun approver => resolveAssignmentWithDelegation user dir approver requestKind)

/-- The assignments one configured approver contributes. -/
def resolveStageApprover (dir : Directory) (stage : ApprovalStage)
    (requester : Option EmployeeId) (organisation : OrganisationId)
    (requestKind : ApprovalRequestKind) (approver : ApprovalStageApprover) :
    List ApproverAssignment :=
  let direct := directAssignment user dir requestKind
  let roleCode :=
    if approver.roleCode = "" then approver.approverType.value else approver.roleCode
  match approver.approverType with
  | .reportingManager =>
    match dir.managerAtLevel requester 1 with
    | some manager => [direct manager]
    | none =>
      (fallbackAssignment user dir stage organisation requester requestKind).toList
  | .nthLevelManager =>
    ((dir.managerAtLevel requester approver.managerLevel).map direct).toList
  | .departmentHead => ((dir.departmentHeadOf requester).map direct).toList
  | .locationAdmin => ((dir.locationAdmin requester).map direct).toList
  | .hrBusinessPartner | .payrollAdmin | .financeApprover | .role =>
    (dir.employeesForRole organisation roleCode .organisation).map direct
  | .specificEmployee => (approver.approverEmployee.map direct).toList
  | .primaryOrgAdmin =>
    ((dir.primaryAdminUser organisation).map
      (fun u => resolveAssignmentWithDelegation user dir (u, none) requestKind)).toList

/-- All candidates of a stage, before the requester is filtered out. -/
def stageCandidates (dir : Directory) (stage : ApprovalStage)
    (requester : Option EmployeeId) (organisation : OrganisationId)
    (requestKind : ApprovalRequestKind) : List ApproverAssignment :=
  stage.approvers.flatMap
    (resolveStageApprover user dir stage requester organisation requestKind)

/-- An assignment to the requester's own account, of a kind that forbids it. -/
def isSelfAssignment (requester : Option EmployeeId) (requestKind : ApprovalRequestKind)
    (assignment : ApproverAssignment) : Bool :=
  requester.map user = some assignment.approverUser && !selfApprovalAllowed requestKind

/-- **The requester filter**: a candidate who is the requester gives way to
the fallback, or to nobody. -/
def filterRequester (dir : Directory) (stage : ApprovalStage)
    (requester : Option EmployeeId) (organisation : OrganisationId)
    (requestKind : ApprovalRequestKind) (assignment : ApproverAssignment) :
    Option ApproverAssignment :=
  if isSelfAssignment user requester requestKind assignment then
    fallbackAssignment user dir stage organisation requester requestKind
  else some assignment

/-- The approvers of a stage, nobody included. -/
def stageApprovers (dir : Directory) (stage : ApprovalStage)
    (requester : Option EmployeeId) (organisation : OrganisationId)
    (requestKind : ApprovalRequestKind) : List ApproverAssignment :=
  let filtered := (stageCandidates user dir stage requester organisation requestKind).filterMap
    (filterRequester user dir stage requester organisation requestKind)
  let deduped := dedupe [] filtered
  -- this fallback is not filtered: it may be the requester
  if deduped = [] then
    (fallbackAssignment user dir stage organisation requester requestKind).toList
  else deduped

/-- **The approvers of a stage**, which must have one. -/
def resolveStageApprovers (dir : Directory) (stage : ApprovalStage)
    (requester : Option EmployeeId) (organisation : OrganisationId)
    (requestKind : ApprovalRequestKind) : Except String (List ApproverAssignment) :=
  if stageApprovers user dir stage requester organisation requestKind = [] then
    .error s!"No approvers could be resolved for stage \"{stage.name}\"."
  else .ok (stageApprovers user dir stage requester organisation requestKind)

end Resolve

/-! ## The resolution answers somebody, each user once -/

theorem mem_of_mem_dedupe {seen : List UserId} {l : List ApproverAssignment}
    {a : ApproverAssignment} (h : a ∈ dedupe seen l) : a ∈ l := by
  induction l generalizing seen with
  | nil => exact h
  | cons b l ih =>
    rw [dedupe] at h
    split at h
    · exact List.mem_cons_of_mem _ (ih h)
    · rcases List.mem_cons.mp h with rfl | h
      · exact List.mem_cons_self
      · exact List.mem_cons_of_mem _ (ih h)

/-- Deduplication loses no user. -/
theorem exists_user_mem_dedupe (seen : List UserId) {l : List ApproverAssignment}
    {a : ApproverAssignment} (ha : a ∈ l) (hseen : a.approverUser ∉ seen) :
    ∃ b ∈ dedupe seen l, b.approverUser = a.approverUser := by
  induction l generalizing seen with
  | nil => exact absurd ha List.not_mem_nil
  | cons b l ih =>
    rw [dedupe]
    rcases List.mem_cons.mp ha with rfl | hl
    · rw [if_neg hseen]
      exact ⟨a, List.mem_cons_self, rfl⟩
    · split
      · exact ih seen hl hseen
      · by_cases hb : b.approverUser = a.approverUser
        · exact ⟨b, List.mem_cons_self, hb⟩
        · obtain ⟨c, hc, hca⟩ := ih (b.approverUser :: seen) hl (by
            simp only [List.mem_cons, not_or]
            exact ⟨fun h => hb h.symm, hseen⟩)
          exact ⟨c, List.mem_cons_of_mem _ hc, hca⟩

variable {user : EmployeeId → UserId} {dir : Directory} {stage : ApprovalStage}
  {requester : Option EmployeeId} {organisation : OrganisationId}
  {requestKind : ApprovalRequestKind} {approvers : List ApproverAssignment}

theorem resolveStageApprovers_eq_ok :
    resolveStageApprovers user dir stage requester organisation requestKind = .ok approvers
      ↔ approvers = stageApprovers user dir stage requester organisation requestKind
        ∧ approvers ≠ [] := by
  unfold resolveStageApprovers
  constructor
  · intro h
    split at h
    · cases h
    · next hne =>
      obtain rfl := Except.ok.inj h
      exact ⟨rfl, hne⟩
  · rintro ⟨rfl, hne⟩
    exact if_neg hne

/-! ## When the requester is among the approvers -/

/-- The fallback is consulted: a candidate is the requester, or there is no
candidate. -/
def ConsultsFallback (user : EmployeeId → UserId) (dir : Directory)
    (stage : ApprovalStage) (requester : Option EmployeeId)
    (organisation : OrganisationId) (requestKind : ApprovalRequestKind) : Prop :=
  (∃ a ∈ stageCandidates user dir stage requester organisation requestKind,
      isSelfAssignment user requester requestKind a = true)
    ∨ stageCandidates user dir stage requester organisation requestKind = []

/-- The fallback, or the delegate standing in for it, is the requester. -/
def FallbackIsRequester (user : EmployeeId → UserId) (dir : Directory)
    (stage : ApprovalStage) (requester : Option EmployeeId)
    (organisation : OrganisationId) (requestKind : ApprovalRequestKind) : Prop :=
  ∃ a ∈ fallbackAssignment user dir stage organisation requester requestKind,
    isSelfAssignment user requester requestKind a = true

instance : Decidable
    (ConsultsFallback user dir stage requester organisation requestKind) :=
  inferInstanceAs (Decidable (_ ∨ _))

instance : Decidable
    (FallbackIsRequester user dir stage requester organisation requestKind) :=
  decidable_of_iff
    ((fallbackAssignment user dir stage organisation requester requestKind).any
      (isSelfAssignment user requester requestKind) = true)
    (by simp [FallbackIsRequester, Option.any_eq_true])

/-- Whether an assignment is a self assignment depends on its user only. -/
theorem isSelfAssignment_congr {a b : ApproverAssignment}
    (h : b.approverUser = a.approverUser) :
    isSelfAssignment user requester requestKind b
      = isSelfAssignment user requester requestKind a := by
  rw [isSelfAssignment, isSelfAssignment, h]

theorem dedupe_nil_eq_nil {l : List ApproverAssignment} (h : dedupe [] l = []) : l = [] := by
  cases l with
  | nil => rfl
  | cons a l => simp [dedupe] at h

/-- **The filter has one leak.** The requester is assigned to a stage exactly
when the fallback is consulted and is the requester. -/
theorem exists_requester_mem_iff :
    (∃ a ∈ stageApprovers user dir stage requester organisation requestKind,
        isSelfAssignment user requester requestKind a = true)
      ↔ ConsultsFallback user dir stage requester organisation requestKind
        ∧ FallbackIsRequester user dir stage requester organisation requestKind := by
  set self := isSelfAssignment user requester requestKind with hself
  set cands := stageCandidates user dir stage requester organisation requestKind with hcands
  set fallback := fallbackAssignment user dir stage organisation requester requestKind
    with hfallback
  set filter := filterRequester user dir stage requester organisation requestKind
    with hfilter
  have hfilterSelf : ∀ c, self c = true → filter c = fallback := fun c hc => if_pos hc
  have hfilterOther : ∀ c, self c = false → filter c = some c := fun c hc =>
    if_neg (by rw [← hself, hc]; exact Bool.false_ne_true)
  have happrovers : stageApprovers user dir stage requester organisation requestKind
      = if dedupe [] (cands.filterMap filter) = [] then fallback.toList
        else dedupe [] (cands.filterMap filter) := rfl
  rw [happrovers]
  constructor
  · rintro ⟨a, ha, haself⟩
    split at ha
    · next hnil =>
      refine ⟨?_, a, by simpa using ha, haself⟩
      have hfiltered := List.filterMap_eq_nil_iff.mp (dedupe_nil_eq_nil hnil)
      rcases hc : cands with _ | ⟨c, cs⟩
      · exact Or.inr hc
      · refine Or.inl ⟨c, by simp [← hcands, hc], ?_⟩
        by_contra hnot
        have hcself : self c = false := Bool.eq_false_iff.mpr hnot
        have := hfiltered c (by simp [hc])
        rw [hfilterOther c hcself] at this
        cases this
    · obtain ⟨c, hc, hca⟩ := List.mem_filterMap.mp (mem_of_mem_dedupe ha)
      cases hcself : self c with
      | true =>
        rw [hfilterSelf c hcself] at hca
        exact ⟨Or.inl ⟨c, hc, hcself⟩, a, hca, haself⟩
      | false =>
        rw [hfilterOther c hcself] at hca
        obtain rfl := Option.some.inj hca
        rw [hcself] at haself
        cases haself
  · rintro ⟨hconsults, f, hf, hfself⟩
    have hfsome : fallback = some f := hf
    rcases hconsults with ⟨c, hc, hcself⟩ | hnil
    · have hmem : f ∈ cands.filterMap filter :=
        List.mem_filterMap.mpr ⟨c, hc, (hfilterSelf c hcself).trans hfsome⟩
      obtain ⟨b, hb, hbf⟩ := exists_user_mem_dedupe [] hmem List.not_mem_nil
      rw [if_neg (List.ne_nil_of_mem hb)]
      exact ⟨b, hb, (isSelfAssignment_congr hbf).trans hfself⟩
    · rw [← hcands] at hnil
      rw [hnil, List.filterMap_nil, dedupe, if_pos rfl, hfsome]
      exact ⟨f, by simp, hfself⟩

end Approvals
