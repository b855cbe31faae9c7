import Clarisal.Employees.Offboarding
import Clarisal.Lib.Untransacted
import Clarisal.Payroll.Settlements
import Clarisal.TimeOff.Encashment
import Clarisal.TimeOff.FailedRequests

/-!
# Ending an employment

The end of an employment is written in three parts: the employee's row, the offboarding
process with its tasks, and the settlement. The settlement looks up the balances that can
be encashed, which recomputes and stores them, and the tax of the year. There is no
transaction, so when a lookup fails the employee has left already, and no later request
can end the employment (`endEmployment_refused_after_failure`).

So a request that fails leaves everything as it was exactly when it is refused at once, and
otherwise none fails that could not be settled (`endEmployment_atomic_iff`).
-/

open Calendar

namespace Offboarding

open Approvals (EmployeeId OrganisationId)
open Payroll (Employee EmployeeStatus EncashableBalance FnfCall InvestmentSection PayslipRow
  CompensationAssignment SettlementRow SettlementState checkEndEmployment)
open TimeOff (EncashmentPolicy LeaveBalance LeaveTables LeaveType LeaveTypeId cycleOf
  balanceKey getOrCreateLeaveBalance)

/-- What a request ends an employment with. -/
structure EndRequest where
  employee : EmployeeId
  endStatus : EmployeeStatus
  dateOfExit : Option Date
  exitReason : String
  exitNotes : String

/-- **What the settlement looks up** besides the leave, the settlements and the tax masters. -/
structure ExitMasters where
  leaveType : LeaveTypeId → LeaveType
  encashment : LeaveTypeId → EncashmentPolicy
  /-- the active leave types of an employee's leave plan, by name -/
  leavePlanTypes : EmployeeId → List LeaveTypeId
  /-- by employee, latest first -/
  assignments : List CompensationAssignment
  gratuityEligibilityYears : ℕ
  dateOfBirth : EmployeeId → Option Date
  isGovernmentBody : OrganisationId → Bool
  payslips : List PayslipRow
  /-- by employee and fiscal year -/
  declaredTotals : EmployeeId → String → InvestmentSection → ℚ

/-- The employees, processes and tasks; the settlements with the tax masters; the leave. -/
structure ExitState where
  offboarding : OffboardingState
  settlements : SettlementState
  leave : LeaveTables

/-! ## The settlement -/

namespace ExitMasters

variable (m : ExitMasters) (employee : Employee) (lastWorkingDay : Date)

/-- The employee as the leave sees it. -/
def leaveMasters : TimeOff.Masters where
  employee := fun _ =>
    { id := employee.id, organisation := employee.organisation
      dateOfJoining := employee.dateOfJoining }
  leaveType := m.leaveType

/-- The call for a settlement, with the balances that can be encashed. -/
def call (process : Option OffboardingProcessId) (encashable : List EncashableBalance) :
    FnfCall where
  employee := employee
  lastWorkingDay := lastWorkingDay
  offboardingProcess := process
  assignments := m.assignments
  encashable := encashable
  gratuityEligibilityYears := m.gratuityEligibilityYears
  dateOfBirth := m.dateOfBirth
  isGovernmentBody := m.isGovernmentBody employee.organisation
  payslips := m.payslips
  declaredTotals := m.declaredTotals employee.id
    (Payroll.fiscalYearForPeriod lastWorkingDay.year lastWorkingDay.month)

/-- The leave types that are encashed: none without basic pay. -/
def encashableLeaveTypes : List LeaveTypeId :=
  match (m.call employee lastWorkingDay none []).assignment with
  | none => []
  | some assignment =>
    if 0 < assignment.monthlyBasicSalary then
      (m.leavePlanTypes employee.id).filter (fun t => (m.encashment t).allowsEncashment)
    else []

/-- What a settlement reads of a balance. -/
def encashableOf (leaveType : LeaveTypeId) (balance : LeaveBalance) : EncashableBalance where
  openingBalance := balance.openingBalance
  carriedForwardAmount := balance.carriedForwardAmount
  creditedAmount := balance.creditedAmount
  usedAmount := balance.usedAmount
  pendingAmount := balance.pendingAmount
  maxEncashmentDaysPerYear := (m.encashment leaveType).maxEncashmentDaysPerYear

/-- The balance of a leave type on the last working day, recomputed and stored. -/
def lookupBalance (leaveType : LeaveTypeId) (t : LeaveTables) :
    Except String EncashableBalance × LeaveTables :=
  match getOrCreateLeaveBalance (m.leaveMasters employee) employee.id leaveType lastWorkingDay t with
  | .error message => (.error message, t)
  | .ok (balance, t) => (.ok (m.encashableOf leaveType balance), t)

end ExitMasters

/-- **The settlement of an employee**: the balances are looked up, and it is drafted. -/
def settleEmployment (m : ExitMasters) (employee : Employee) (lastWorkingDay : Date)
    (process : Option OffboardingProcessId) (st : ExitState) : Except String Unit × ExitState :=
  let (encashable, leave) := Untransacted.collect (m.lookupBalance employee lastWorkingDay)
    (m.encashableLeaveTypes employee lastWorkingDay) st.leave
  let st := { st with leave := leave }
  match encashable with
  | .error message => (.error message, st)
  | .ok encashable =>
    let call := m.call employee lastWorkingDay process encashable
    ((SettlementState.createFullAndFinalSettlement call st.settlements).map (fun _ => ()),
      { st with settlements := st.settlements.step call })

/-! ## The end of an employment -/

/-- The request as the process takes it. -/
def EndRequest.exit (r : EndRequest) (m : ExitMasters) : ExitRequest where
  employee := r.employee
  endStatus := r.endStatus
  dateOfExit := r.dateOfExit
  exitReason := r.exitReason
  exitNotes := r.exitNotes
  settlement := {
    assignments := m.assignments
    encashable := []
    gratuityEligibilityYears := m.gratuityEligibilityYears
    fnfTds := fun _ _ _ _ => 0 }

/-- The row of an employee who has left. -/
def EndRequest.leaver (r : EndRequest) (employee : Employee) (dateOfExit : Date) : Employee :=
  { employee with status := r.endStatus, dateOfExit := some dateOfExit }

namespace ExitState

def getEmployee (st : ExitState) (id : EmployeeId) : Option Employee :=
  Table.find Employee.id id st.offboarding.staff.employees

def saveEmployee (st : ExitState) (employee : Employee) : ExitState :=
  { st with offboarding := { st.offboarding with staff := { st.offboarding.staff with
      employees := Table.save Employee.id employee st.offboarding.staff.employees } } }

end ExitState

/-- **`end_employment`**, and what it leaves when it fails. -/
def endEmploymentInParts (m : ExitMasters) (r : EndRequest) (st : ExitState) :
    Except String Unit × ExitState :=
  match st.getEmployee r.employee with
  | none => (.error "No Employee matches the given query.", st)
  | some employee =>
    match checkEndEmployment (r.exit m).toEndEmployment employee with
    | .error message => (.error message, st)
    | .ok dateOfExit =>
      let employee := r.leaver employee dateOfExit
      let saved := st.saveEmployee employee
      let offboarding := createOrUpdateOffboardingProcess (r.exit m) dateOfExit saved.offboarding
      settleEmployment m employee dateOfExit
        ((offboarding.getProcess r.employee).map EmployeeOffboardingProcess.id)
        { saved with offboarding := offboarding }

/-- **Nothing of the request is left**: the employee is as before, and every process, task and
settlement was there. -/
structure LeftAsBefore (employee : EmployeeId) (st st' : ExitState) : Prop where
  row : st'.getEmployee employee = st.getEmployee employee
  processes : ∀ process ∈ st'.offboarding.processes,
    process.id ∈ st.offboarding.processes.map EmployeeOffboardingProcess.id
  tasks : ∀ task ∈ st'.offboarding.tasks,
    task.id ∈ st.offboarding.tasks.map EmployeeOffboardingTask.id
  settlements : ∀ row ∈ st'.settlements.settlements,
    row.employee ∈ st.settlements.settlements.map SettlementRow.employee

/-- **Ending an employment is atomic** for a request. -/
def EndsAtomically (m : ExitMasters) (r : EndRequest) (st : ExitState) : Prop :=
  ∀ message, (endEmploymentInParts m r st).1 = .error message →
    LeftAsBefore r.employee st (endEmploymentInParts m r st).2

/-! ## What the request needs -/

/-- **The request is refused** before anything is written. -/
def EndRefused (m : ExitMasters) (r : EndRequest) (st : ExitState) : Prop :=
  ∀ employee ∈ st.getEmployee r.employee,
    (checkEndEmployment (r.exit m).toEndEmployment employee).isOk = false

/-- The balances of the encashed leave types, as they would be recomputed. -/
def ExitMasters.encashable (m : ExitMasters) (employee : Employee) (lastWorkingDay : Date)
    (t : LeaveTables) : Except String (List EncashableBalance) :=
  (m.encashableLeaveTypes employee lastWorkingDay).mapM (fun leaveType =>
    (cycleOf (m.leaveMasters employee) employee.id leaveType lastWorkingDay).map (fun window =>
      m.encashableOf leaveType
        (t.recomputed (m.leaveMasters employee) (balanceKey employee.id leaveType window))))

/-- **The employment can be settled**: every encashed leave type has a cycle on the last
working day, the tax of the year can be looked up, the amounts fit their columns, and no
other settlement has the process. -/
structure Settles (m : ExitMasters) (employee : Employee) (lastWorkingDay : Date)
    (process : Option OffboardingProcessId) (st : ExitState) : Prop where
  cycles : ∀ leaveType ∈ m.encashableLeaveTypes employee lastWorkingDay, ∃ window,
    cycleOf (m.leaveMasters employee) employee.id leaveType lastWorkingDay = .ok window
  tax : ((m.call employee lastWorkingDay process []).taxContext st.settlements.masters).isOk = true
  fits : ∀ encashable, m.encashable employee lastWorkingDay st.leave = .ok encashable →
    ∀ context, (m.call employee lastWorkingDay process []).taxContext st.settlements.masters
        = .ok context →
      let call := m.call employee lastWorkingDay process encashable
      (call.draft context (call.rowIn st.settlements.settlements)).isOk = true
  free : (m.call employee lastWorkingDay process []).takesProcess
    ((m.call employee lastWorkingDay process []).rowIn st.settlements.settlements)
    st.settlements.settlements = false

/-- The process of an employee: the one there is, or the next. -/
def ExitState.processOf (st : ExitState) (employee : EmployeeId) : OffboardingProcessId :=
  (st.offboarding.getProcess employee).elim st.offboarding.processes.length
    EmployeeOffboardingProcess.id

/-- **The request goes through**: the settlement is the only part that can fail. -/
def GoesThrough (m : ExitMasters) (r : EndRequest) (st : ExitState) : Prop :=
  ∀ employee ∈ st.getEmployee r.employee, ∀ dateOfExit ∈ r.dateOfExit,
    Settles m (r.leaver employee dateOfExit) dateOfExit (some (st.processOf r.employee)) st

section

variable {m : ExitMasters} {r : EndRequest} {st : ExitState} {employee : Employee}
  {lastWorkingDay dateOfExit : Date} {process : Option OffboardingProcessId}

/-! ### Looking up the balances -/

/-- A balance that is looked up is as it would be recomputed, and leaves the others so. -/
theorem lookupBalance_spec (m : ExitMasters) (employee : Employee) (lastWorkingDay : Date)
    (leaveType : LeaveTypeId) (t : LeaveTables) :
    (m.lookupBalance employee lastWorkingDay leaveType t).1
        = (cycleOf (m.leaveMasters employee) employee.id leaveType lastWorkingDay).map
          (fun window => m.encashableOf leaveType
            (t.recomputed (m.leaveMasters employee) (balanceKey employee.id leaveType window)))
      ∧ ∀ key, (m.lookupBalance employee lastWorkingDay leaveType t).2.recomputed
        (m.leaveMasters employee) key = t.recomputed (m.leaveMasters employee) key := by
  unfold ExitMasters.lookupBalance
  cases hwindow : cycleOf (m.leaveMasters employee) employee.id leaveType lastWorkingDay with
  | error message =>
    rw [TimeOff.getOrCreateLeaveBalance_error hwindow]
    exact ⟨rfl, fun _ => rfl⟩
  | ok window =>
    obtain ⟨balances, entries, hok, -⟩ :=
      TimeOff.getOrCreateLeaveBalance_spec (t := t) hwindow
    rw [hok]
    exact ⟨rfl, TimeOff.recomputed_getOrCreateLeaveBalance hok⟩

/-- **The balances that are looked up** are those of the state before. -/
theorem collect_lookupBalance (m : ExitMasters) (employee : Employee) (lastWorkingDay : Date)
    (t : LeaveTables) :
    (Untransacted.collect (m.lookupBalance employee lastWorkingDay)
        (m.encashableLeaveTypes employee lastWorkingDay) t).1
      = m.encashable employee lastWorkingDay t := by
  refine Untransacted.collect_eq_mapM (fun leaveType t =>
    (lookupBalance_spec m employee lastWorkingDay leaveType t).1) ?_ _ _
  intro leaveType leaveType' t
  refine congrArg (Except.map · _) (funext fun window => ?_)
  rw [(lookupBalance_spec m employee lastWorkingDay leaveType t).2]

theorem exists_encashable_iff {t : LeaveTables} :
    (∃ encashable, m.encashable employee lastWorkingDay t = .ok encashable)
      ↔ ∀ leaveType ∈ m.encashableLeaveTypes employee lastWorkingDay, ∃ window,
        cycleOf (m.leaveMasters employee) employee.id leaveType lastWorkingDay = .ok window := by
  unfold ExitMasters.encashable
  rw [Untransacted.exists_mapM_eq_ok_iff]
  refine forall₂_congr fun leaveType _ => ?_
  cases cycleOf (m.leaveMasters employee) employee.id leaveType lastWorkingDay with
  | error message => exact iff_of_false (fun ⟨_, h⟩ => by cases h) (fun ⟨_, h⟩ => by cases h)
  | ok window => exact iff_of_true ⟨_, rfl⟩ ⟨window, rfl⟩

/-! ### The settlement -/

/-- **A settlement is drafted** when the tax is found, the draft fits and the process is free. -/
theorem isOk_createFullAndFinalSettlement_iff (call : FnfCall) (st : SettlementState) :
    (∃ rows, SettlementState.createFullAndFinalSettlement call st = .ok rows)
      ↔ (call.taxContext st.masters).isOk = true
        ∧ (∀ context, call.taxContext st.masters = .ok context →
          (call.draft context (call.rowIn st.settlements)).isOk = true)
        ∧ call.takesProcess (call.rowIn st.settlements) st.settlements = false := by
  constructor
  · rintro ⟨rows, h⟩
    obtain ⟨context, saved, hcontext, hsaved, htakes, -⟩ :=
      SettlementState.createFullAndFinalSettlement_eq_ok h
    refine ⟨by rw [hcontext]; rfl, fun context' hcontext' => ?_, htakes⟩
    rw [hcontext] at hcontext'
    obtain rfl := Except.ok.inj hcontext'
    rw [hsaved]
    rfl
  · rintro ⟨htax, hfits, htakes⟩
    cases hcontext : call.taxContext st.masters with
    | error message =>
      rw [hcontext] at htax
      cases htax
    | ok context =>
      cases hsaved : call.draft context (call.rowIn st.settlements) with
      | error message =>
        have := hfits context hcontext
        rw [hsaved] at this
        cases this
      | ok saved =>
        exact ⟨_, SettlementState.createFullAndFinalSettlement_of_ok hcontext hsaved htakes⟩

theorem map_unit_eq_ok_iff {ε α : Type*} {outcome : Except ε α} :
    outcome.map (fun _ => ()) = .ok () ↔ ∃ a, outcome = .ok a := by
  cases outcome with
  | error e => exact iff_of_false (fun h => by cases h) (fun ⟨_, h⟩ => by cases h)
  | ok a => exact iff_of_true rfl ⟨a, rfl⟩

/-- **An employment is settled** exactly when it can be. -/
theorem settleEmployment_eq_ok_iff :
    (settleEmployment m employee lastWorkingDay process st).1 = .ok ()
      ↔ Settles m employee lastWorkingDay process st := by
  have hcollect := collect_lookupBalance m employee lastWorkingDay st.leave
  unfold settleEmployment
  generalize Untransacted.collect (m.lookupBalance employee lastWorkingDay)
    (m.encashableLeaveTypes employee lastWorkingDay) st.leave = found at hcollect ⊢
  obtain ⟨outcome, leave⟩ := found
  obtain rfl : outcome = m.encashable employee lastWorkingDay st.leave := hcollect
  dsimp only
  cases hencashable : m.encashable employee lastWorkingDay st.leave with
  | error message =>
    refine iff_of_false (fun h => by cases h) (fun h => ?_)
    obtain ⟨encashable, hok⟩ := exists_encashable_iff.mpr h.cycles
    rw [hencashable] at hok
    cases hok
  | ok encashable =>
    have hdrafted := isOk_createFullAndFinalSettlement_iff
      (m.call employee lastWorkingDay process encashable) st.settlements
    refine map_unit_eq_ok_iff.trans (hdrafted.trans ⟨?_, ?_⟩)
    · rintro ⟨htax, hfits, hfree⟩
      refine ⟨exists_encashable_iff.mp ⟨_, hencashable⟩, htax, fun encashable' h => ?_, hfree⟩
      rw [hencashable] at h
      obtain rfl := Except.ok.inj h
      exact hfits
    · exact fun h => ⟨h.tax, h.fits encashable hencashable, h.free⟩

/-- Settling writes no employee, process or task. -/
theorem offboarding_settleEmployment :
    (settleEmployment m employee lastWorkingDay process st).2.offboarding = st.offboarding := by
  unfold settleEmployment
  generalize Untransacted.collect (m.lookupBalance employee lastWorkingDay)
    (m.encashableLeaveTypes employee lastWorkingDay) st.leave = found
  obtain ⟨_ | encashable, leave⟩ := found <;> rfl

/-! ### The process -/

/-- The process that is opened writes no employee. -/
theorem staff_createOrUpdate (request : ExitRequest) (dateOfExit : Date) (st : OffboardingState) :
    (createOrUpdateOffboardingProcess request dateOfExit st).staff = st.staff := by
  rcases createOrUpdate_cases request dateOfExit st with ⟨new, heq, -, -⟩ | heq | ⟨updated, -, heq⟩
    <;> rw [heq]

/-- **The process of the employee** is the one there was, or the next. -/
theorem getProcess_createOrUpdate (request : ExitRequest) (dateOfExit : Date)
    (st : OffboardingState) :
    ((createOrUpdateOffboardingProcess request dateOfExit st).getProcess request.employee).map
        EmployeeOffboardingProcess.id
      = some ((st.getProcess request.employee).elim st.processes.length
        EmployeeOffboardingProcess.id) := by
  unfold createOrUpdateOffboardingProcess
  cases hfind : st.getProcess request.employee with
  | none =>
    obtain ⟨new, hseeded, -, -⟩ := exists_seeded (newProcess request dateOfExit st)
      { st with processes := st.processes ++ [newProcess request dateOfExit st] }
    have hfound : Table.find EmployeeOffboardingProcess.employee request.employee
        (st.processes ++ [newProcess request dateOfExit st])
        = some (newProcess request dateOfExit st) :=
      Table.find_append_self (a := newProcess request dateOfExit st) hfind
    dsimp only
    rw [hseeded]
    exact congrArg (Option.map EmployeeOffboardingProcess.id) hfound
  | some process =>
    dsimp only
    split
    · rw [hfind]
      rfl
    · next hchanged =>
      have hkey : process.employee = request.employee := Table.find_key hfind
      have hfound : Table.find EmployeeOffboardingProcess.employee request.employee
          (Table.save EmployeeOffboardingProcess.id { process with
            status := .inProgress, exitStatus := request.endStatus, dateOfExit := dateOfExit,
            exitReason := request.exitReason, exitNotes := request.exitNotes } st.processes)
          = some { process with
            status := .inProgress, exitStatus := request.endStatus, dateOfExit := dateOfExit,
            exitReason := request.exitReason, exitNotes := request.exitNotes } :=
        Table.find_save_other hfind rfl hkey
      exact congrArg (Option.map EmployeeOffboardingProcess.id) hfound

/-! ### The request -/

/-- **A request that is not refused** saves the row, opens the process and settles. -/
theorem endEmploymentInParts_of_check (hfound : st.getEmployee r.employee = some employee)
    (hcheck : checkEndEmployment (r.exit m).toEndEmployment employee = .ok dateOfExit) :
    ∃ offboarding : OffboardingState,
      offboarding.staff = (st.saveEmployee (r.leaver employee dateOfExit)).offboarding.staff
      ∧ endEmploymentInParts m r st
        = settleEmployment m (r.leaver employee dateOfExit) dateOfExit
          (some (st.processOf r.employee)) { st with offboarding := offboarding } := by
  refine ⟨createOrUpdateOffboardingProcess (r.exit m) dateOfExit
    (st.saveEmployee (r.leaver employee dateOfExit)).offboarding,
    staff_createOrUpdate _ _ _, ?_⟩
  have hprocess := getProcess_createOrUpdate (r.exit m) dateOfExit
    (st.saveEmployee (r.leaver employee dateOfExit)).offboarding
  unfold endEmploymentInParts
  rw [hfound]
  dsimp only
  rw [hcheck]
  dsimp only
  rw [show r.employee = (r.exit m).employee from rfl, hprocess]
  rfl

/-- Only what the state has of the leave and the settlements decides. -/
theorem settles_withOffboarding_iff {offboarding : OffboardingState} :
    Settles m employee lastWorkingDay process { st with offboarding := offboarding }
      ↔ Settles m employee lastWorkingDay process st :=
  ⟨fun h => ⟨h.cycles, h.tax, h.fits, h.free⟩, fun h => ⟨h.cycles, h.tax, h.fits, h.free⟩⟩

/-- A request that is refused writes nothing. -/
theorem endEmploymentInParts_of_refused (h : EndRefused m r st) :
    (endEmploymentInParts m r st).2 = st := by
  unfold endEmploymentInParts
  cases hfound : st.getEmployee r.employee with
  | none => rfl
  | some employee =>
    dsimp only
    cases hcheck : checkEndEmployment (r.exit m).toEndEmployment employee with
    | error message => rfl
    | ok dateOfExit =>
      have := h employee hfound
      rw [hcheck] at this
      cases this

/-- **The employee has left**, whether or not the request fails. -/
theorem getEmployee_endEmploymentInParts (hfound : st.getEmployee r.employee = some employee)
    (hcheck : checkEndEmployment (r.exit m).toEndEmployment employee = .ok dateOfExit) :
    (endEmploymentInParts m r st).2.getEmployee r.employee
      = some (r.leaver employee dateOfExit) := by
  obtain ⟨offboarding, hstaff, heq⟩ := endEmploymentInParts_of_check hfound hcheck
  rw [heq, ExitState.getEmployee, offboarding_settleEmployment]
  have hkey : employee.id = r.employee := Table.find_key hfound
  dsimp only
  rw [hstaff, ← hkey]
  rw [← hkey] at hfound
  exact Table.find_save_self (a := r.leaver employee dateOfExit) hfound

/-- The processes and tasks do not depend on the employees. -/
theorem createOrUpdate_withStaff (request : ExitRequest) (dateOfExit : Date)
    (st : OffboardingState) (staff : Payroll.StaffState) :
    (createOrUpdateOffboardingProcess request dateOfExit { st with staff := staff }).processes
        = (createOrUpdateOffboardingProcess request dateOfExit st).processes
      ∧ (createOrUpdateOffboardingProcess request dateOfExit { st with staff := staff }).tasks
        = (createOrUpdateOffboardingProcess request dateOfExit st).tasks := by
  unfold createOrUpdateOffboardingProcess
  rw [show OffboardingState.getProcess { st with staff := staff } request.employee
    = st.getProcess request.employee from rfl]
  cases st.getProcess request.employee with
  | none =>
    unfold seedOffboardingTasks newProcess
    dsimp only
    split <;> exact ⟨rfl, rfl⟩
  | some process =>
    dsimp only
    split <;> exact ⟨rfl, rfl⟩

/-- **Within the model of offboarding**: the employees, the processes and the tasks are those
of `endEmployment`. -/
theorem offboarding_endEmploymentInParts (m : ExitMasters) (r : EndRequest) (st : ExitState) :
    (endEmploymentInParts m r st).2.offboarding.staff.employees
        = (endEmployment (r.exit m) st.offboarding).staff.employees
      ∧ (endEmploymentInParts m r st).2.offboarding.processes
        = (endEmployment (r.exit m) st.offboarding).processes
      ∧ (endEmploymentInParts m r st).2.offboarding.tasks
        = (endEmployment (r.exit m) st.offboarding).tasks := by
  unfold endEmploymentInParts endEmployment
  rw [ExitState.getEmployee]
  cases hfind : Table.find Employee.id r.employee st.offboarding.staff.employees with
  | none =>
    rw [show (r.exit m).employee = r.employee from rfl, hfind]
    exact ⟨rfl, rfl, rfl⟩
  | some employee =>
    rw [show (r.exit m).employee = r.employee from rfl, hfind]
    dsimp only
    cases hcheck : checkEndEmployment (r.exit m).toEndEmployment employee with
    | error message => exact ⟨rfl, rfl, rfl⟩
    | ok dateOfExit =>
      dsimp only
      rw [offboarding_settleEmployment]
      have hleft := createOrUpdate_withStaff (r.exit m) dateOfExit st.offboarding
        (st.saveEmployee (r.leaver employee dateOfExit)).offboarding.staff
      have hright := createOrUpdate_withStaff (r.exit m) dateOfExit st.offboarding
        (Payroll.endEmployment (r.exit m).toEndEmployment st.offboarding.staff)
      refine ⟨?_, hleft.1.trans hright.1.symm, hleft.2.trans hright.2.symm⟩
      rw [staff_createOrUpdate, staff_createOrUpdate]
      unfold Payroll.endEmployment
      rw [show (r.exit m).employee = r.employee from rfl, hfind]
      dsimp only
      rw [hcheck]
      dsimp only
      split <;> rfl

/-- What is not refused is the end of an active employment. -/
theorem exists_of_not_refused (h : ¬ EndRefused m r st) :
    ∃ employee dateOfExit, st.getEmployee r.employee = some employee
      ∧ checkEndEmployment (r.exit m).toEndEmployment employee = .ok dateOfExit := by
  unfold EndRefused at h
  push Not at h
  obtain ⟨employee, hfound, hok⟩ := h
  cases hcheck : checkEndEmployment (r.exit m).toEndEmployment employee with
  | error message =>
    rw [hcheck] at hok
    exact absurd rfl hok
  | ok dateOfExit => exact ⟨employee, dateOfExit, hfound, hcheck⟩

/-- The employment of an employee who has left cannot be ended. -/
theorem endEmploymentInParts_of_left (hfound : st.getEmployee r.employee = some employee)
    (hleft : employee.status ≠ .active) :
    endEmploymentInParts m r st
      = (.error "Only active employees can end employment.", st) := by
  unfold endEmploymentInParts
  rw [hfound]
  dsimp only
  unfold checkEndEmployment
  rw [if_pos hleft]

/-- A request that is not refused ends an active employment with another status. -/
theorem endStatus_ne_active
    (hcheck : checkEndEmployment (r.exit m).toEndEmployment employee = .ok dateOfExit) :
    r.endStatus ≠ .active := by
  intro hactive
  have hterminal := (Payroll.checkEndEmployment_eq_ok hcheck).2.1
  rw [show (r.exit m).toEndEmployment.endStatus = .active from hactive] at hterminal
  exact absurd hterminal (by decide)

/-- **After a failure** no request ends the employment: the employee has left already. -/
theorem endEmployment_refused_after_failure (hfound : st.getEmployee r.employee = some employee)
    (hcheck : checkEndEmployment (r.exit m).toEndEmployment employee = .ok dateOfExit)
    (m' : ExitMasters) {later : EndRequest} (hsame : later.employee = r.employee) :
    endEmploymentInParts m' later (endEmploymentInParts m r st).2
      = (.error "Only active employees can end employment.", (endEmploymentInParts m r st).2) := by
  have hleft := getEmployee_endEmploymentInParts hfound hcheck
  rw [← hsame] at hleft
  exact endEmploymentInParts_of_left hleft (endStatus_ne_active hcheck)

end

/-- **Ending an employment is atomic** exactly for the requests that are refused and for
those whose employment can be settled. -/
theorem endEmployment_atomic_iff (m : ExitMasters) (r : EndRequest) (st : ExitState) :
    EndsAtomically m r st ↔ EndRefused m r st ∨ GoesThrough m r st := by
  by_cases hrefused : EndRefused m r st
  · refine iff_of_true (fun message _ => ?_) (Or.inl hrefused)
    rw [endEmploymentInParts_of_refused hrefused]
    exact ⟨rfl, fun _ h => List.mem_map_of_mem h, fun _ h => List.mem_map_of_mem h,
      fun _ h => List.mem_map_of_mem h⟩
  · rw [or_iff_right hrefused]
    obtain ⟨employee, dateOfExit, hfound, hcheck⟩ := exists_of_not_refused hrefused
    obtain ⟨hactive, -, hexit⟩ := Payroll.checkEndEmployment_eq_ok hcheck
    have hsettles : (endEmploymentInParts m r st).1 = .ok ()
        ↔ Settles m (r.leaver employee dateOfExit) dateOfExit (some (st.processOf r.employee))
          st := by
      obtain ⟨offboarding, -, heq⟩ := endEmploymentInParts_of_check hfound hcheck
      rw [heq, settleEmployment_eq_ok_iff, settles_withOffboarding_iff]
    constructor
    · intro hatomic employee' hfound' dateOfExit' hexit'
      obtain rfl := Option.some.inj (hfound.symm.trans hfound')
      obtain rfl := Option.some.inj (hexit.symm.trans hexit')
      refine hsettles.mp ?_
      cases houtcome : (endEmploymentInParts m r st).1 with
      | ok _ => rfl
      | error message =>
        -- the employee has left, so the row is not as before
        have hrow := (hatomic message houtcome).row
        rw [getEmployee_endEmploymentInParts hfound hcheck, hfound] at hrow
        have hstatus : r.endStatus = .active :=
          (congrArg Employee.status (Option.some.inj hrow)).trans hactive
        exact absurd hstatus (endStatus_ne_active hcheck)
    · intro hthrough message herror
      rw [hsettles.mpr (hthrough employee hfound dateOfExit hexit)] at herror
      cases herror

/-! ## An employee who joined on a leap day -/

namespace Sample

/-- Employee 1 joined on 29 February 2024. -/
def leapDay : Employee :=
  { Payroll.Sample.employee with dateOfJoining := some ⟨2024, 2, 29, by decide⟩ }

/-- Leave of a type that can be encashed, in cycles from the day of joining. -/
def exitMasters : ExitMasters where
  leaveType := fun _ =>
    { isCompOff := false, isLossOfPay := false, annualEntitlement := 12, creditFrequency := .yearly
      prorateOnJoin := false, maxBalance := none
      leaveCycle := { cycleType := .employeeJoiningDate, startMonth := 1, startDay := 1 }
      twoPlaces := TimeOff.twoPlaces_of_none }
  encashment := fun _ =>
    { name := "Earned leave", allowsEncashment := true, maxEncashmentDaysPerYear := none
      twoPlaces := TimeOff.twoPlaces_of_none }
  leavePlanTypes := fun _ => [1]
  assignments := [Payroll.Sample.assignment 26000]
  gratuityEligibilityYears := 5
  dateOfBirth := fun _ => none
  isGovernmentBody := fun _ => false
  payslips := []
  declaredTotals := fun _ _ _ => 0

/-- The employee is active, and nothing is stored. -/
def employed : ExitState where
  offboarding := { active with staff := .initial Payroll.Sample.stages [] [leapDay] }
  settlements := ⟨[], ⟨[], [], 1⟩⟩
  leave :=
    { today := ⟨2025, 5, 1, by decide⟩, requests := [], balances := [], ledgerEntries := []
      accruals := [], redemptions := [], nextRequest := 1 }

/-- The employee resigns as of the end of May 2025. -/
def resignsInMay : EndRequest where
  employee := 1
  endStatus := .resigned
  dateOfExit := some ⟨2025, 5, 31, by decide⟩
  exitReason := "Relocation"
  exitNotes := ""

end Sample

open Sample

/-- **The year of the exit has no 29 February**: the request fails, and the employee has
resigned, with a process of six tasks. -/
theorem resigned_without_settlement :
    ¬ ∀ (m : ExitMasters) (r : EndRequest) (st : ExitState), EndsAtomically m r st := by
  intro h
  have hrow := (h exitMasters resignsInMay employed "day is out of range for month"
    (by decide +kernel)).row
  revert hrow
  decide +kernel

end Offboarding
