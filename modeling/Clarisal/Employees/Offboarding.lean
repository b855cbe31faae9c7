import Clarisal.Assets.Custody
import Clarisal.Payroll.Leavers

/-!
# Offboarding

Ending an employment opens the offboarding process of the employee, with its tasks. The
process is closed when its required tasks are done or waived and the employee holds no
asset. That is checked when it is closed, and not again: a task can be taken up again, and
an asset assigned to the employee, as before (`assigned_after_offboarding`).

So a closed process stays complete exactly when no required task of it is taken up again
and no asset is assigned to its employee (`offboardingComplete_iff_keepsClosed`). The
employee's own row and the final settlement are those of the payroll; the assets are those
of the custody.
-/

open Calendar Transaction

namespace Offboarding

open Approvals (EmployeeId)
open Assets (AssetId AssetTables AssetAssignment)
open Payroll (Employee EmployeeStatus EndEmployment StaffState checkEndEmployment)

abbrev OffboardingProcessId := ℕ
abbrev OffboardingTaskId := ℕ

inductive OffboardingProcessStatus
  | inProgress | completed | cancelled
deriving DecidableEq, Repr

inductive OffboardingTaskStatus
  | pending | inProgress | completed | waived
deriving DecidableEq, Repr

/-- The status that a value is the text of. -/
def OffboardingTaskStatus.ofValue : String → Option OffboardingTaskStatus
  | "PENDING" => some pending
  | "IN_PROGRESS" => some inProgress
  | "COMPLETED" => some completed
  | "WAIVED" => some waived
  | _ => none

inductive OffboardingTaskOwner
  | orgAdmin | manager | employee | payroll | it
deriving DecidableEq, Repr

structure EmployeeOffboardingProcess where
  id : OffboardingProcessId
  employee : EmployeeId
  status : OffboardingProcessStatus
  exitStatus : EmployeeStatus
  dateOfExit : Date
  exitReason : String
  exitNotes : String
deriving DecidableEq, Repr

structure EmployeeOffboardingTask where
  id : OffboardingTaskId
  process : OffboardingProcessId
  code : String
  owner : OffboardingTaskOwner
  status : OffboardingTaskStatus
  note : String
  dueDate : Option Date
  isRequired : Bool
deriving DecidableEq, Repr

/-- The employees with their settlements, the processes with their tasks, and the assets. -/
structure OffboardingState where
  staff : StaffState
  processes : List EmployeeOffboardingProcess
  tasks : List EmployeeOffboardingTask
  assets : AssetTables

namespace OffboardingState

def getProcess (st : OffboardingState) (employee : EmployeeId) :
    Option EmployeeOffboardingProcess :=
  Table.find EmployeeOffboardingProcess.employee employee st.processes

def getTask (st : OffboardingState) (id : OffboardingTaskId) : Option EmployeeOffboardingTask :=
  Table.find EmployeeOffboardingTask.id id st.tasks

end OffboardingState

/-! ## Operations -/

def offboardingDoneStatuses : List OffboardingTaskStatus := [.completed, .waived]

/-- The codes and the owners of the tasks that a process starts with. -/
def defaultOffboardingTasks : List (String × OffboardingTaskOwner) :=
  [("EXIT_COMMUNICATION", .orgAdmin), ("ASSET_RETURN", .orgAdmin), ("ACCESS_REMOVAL", .it),
    ("ATTENDANCE_REVIEW", .manager), ("PAYROLL_CLEARANCE", .payroll),
    ("EXIT_INTERVIEW", .employee)]

/-- The row of a task. -/
def newTask (process : EmployeeOffboardingProcess) (id : OffboardingTaskId)
    (payload : String × OffboardingTaskOwner) : EmployeeOffboardingTask where
  id := id
  process := process.id
  code := payload.1
  owner := payload.2
  status := .pending
  note := ""
  dueDate := some process.dateOfExit
  isRequired := true

def seedOffboardingTasks (process : EmployeeOffboardingProcess) (st : OffboardingState) :
    OffboardingState :=
  if st.tasks.any (fun task => task.process = process.id) then st
  else { st with
    tasks := st.tasks ++ defaultOffboardingTasks.mapIdx
      (fun i payload => newTask process (st.tasks.length + i) payload) }

/-- What a request ends an employment with. The texts are those without the blanks around
them. -/
structure ExitRequest extends EndEmployment where
  exitReason : String
  exitNotes : String

/-- The row of a process. -/
def newProcess (r : ExitRequest) (dateOfExit : Date) (st : OffboardingState) :
    EmployeeOffboardingProcess where
  id := st.processes.length
  employee := r.employee
  status := .inProgress
  exitStatus := r.endStatus
  dateOfExit := dateOfExit
  exitReason := r.exitReason
  exitNotes := r.exitNotes

def createOrUpdateOffboardingProcess (r : ExitRequest) (dateOfExit : Date)
    (st : OffboardingState) : OffboardingState :=
  match st.getProcess r.employee with
  | none =>
    let process := newProcess r dateOfExit st
    seedOffboardingTasks process { st with processes := st.processes ++ [process] }
  | some process =>
    let updated := { process with
      status := .inProgress, exitStatus := r.endStatus, dateOfExit := dateOfExit,
      exitReason := r.exitReason, exitNotes := r.exitNotes }
    if updated = process then st
    else { st with
      processes := Table.save EmployeeOffboardingProcess.id updated st.processes }

/-- **`end_employment`**: the process stands also when the settlement fails. -/
def endEmployment (r : ExitRequest) (st : OffboardingState) : OffboardingState :=
  match Table.find Employee.id r.employee st.staff.employees with
  | none => st
  | some employee =>
    match checkEndEmployment r.toEndEmployment employee with
    | .error _ => st
    | .ok dateOfExit => createOrUpdateOffboardingProcess r dateOfExit
      { st with staff := Payroll.endEmployment r.toEndEmployment st.staff }

def updateOffboardingTask (task : EmployeeOffboardingTask) (statusValue note : String)
    (st : OffboardingState) : Except String OffboardingState :=
  match OffboardingTaskStatus.ofValue statusValue with
  | none => .error "Unsupported offboarding task status."
  | some status => .ok { st with
    tasks := Table.update (fun row => row.id = task.id)
      (fun row => { row with status := status, note := note }) st.tasks }

def getUnresolvedAssetAssignments (t : AssetTables) (employee : EmployeeId) :
    List AssetAssignment :=
  t.assignments.filter (fun a => a.employee = employee ∧ a.status = .active)

/-- `assetName` is what an asset is called. -/
def completeOffboardingProcess (assetName : AssetId → String)
    (process : EmployeeOffboardingProcess) (st : OffboardingState) :
    Except String OffboardingState :=
  if st.tasks.any (fun task => task.process = process.id ∧ task.isRequired
      ∧ task.status ∉ offboardingDoneStatuses) then
    .error "Complete or waive all required offboarding tasks before closing the process."
  else
    let unresolved := getUnresolvedAssetAssignments st.assets process.employee
    if unresolved ≠ [] then
      .error ("Cannot close offboarding: employee has unresolved asset returns: "
        ++ String.intercalate ", " (unresolved.map (fun a => assetName a.asset)))
    else .ok { st with
      processes := Table.update (fun row => row.id = process.id)
        (fun row => { row with status := .completed }) st.processes }

/-- **The operations**, those about assets included. -/
inductive OffboardingOp
  | endEmployment (request : ExitRequest)
  | updateOffboardingTask (task : OffboardingTaskId) (statusValue note : String)
  | completeOffboardingProcess (employee : EmployeeId)
  | assets (op : Assets.Op)

/-- **One operation**, on the rows as they stand. One that is refused leaves them. -/
def offboardingStep (assetName : AssetId → String) (st : OffboardingState) :
    OffboardingOp → OffboardingState
  | .endEmployment request => endEmployment request st
  | .updateOffboardingTask id statusValue note =>
    (st.getTask id).elim st
      (fun task => settle st (updateOffboardingTask task statusValue note st))
  | .completeOffboardingProcess employee =>
    (st.getProcess employee).elim st
      (fun process => settle st (completeOffboardingProcess assetName process st))
  | .assets op => { st with assets := Assets.step st.assets op }

/-! ## Complete -/

/-- **What is asked of a closed process.** -/
def Cleared (st : OffboardingState) (process : EmployeeOffboardingProcess) : Prop :=
  (∀ task ∈ st.tasks, task.process = process.id → task.isRequired = true →
      task.status ∈ offboardingDoneStatuses)
    ∧ getUnresolvedAssetAssignments st.assets process.employee = []

instance (st : OffboardingState) (process : EmployeeOffboardingProcess) :
    Decidable (Cleared st process) :=
  inferInstanceAs (Decidable (_ ∧ _))

/-- **Offboarding is complete** where it is closed. -/
def OffboardingComplete (st : OffboardingState) : Prop :=
  ∀ process ∈ st.processes, process.status = .completed → Cleared st process

/-- **A closed process is left alone**: no required task of it is taken up again, and no
asset is assigned to its employee. -/
def KeepsClosed (st : OffboardingState) : OffboardingOp → Prop
  | .updateOffboardingTask id statusValue _ => ∀ task ∈ st.getTask id, task.isRequired = true →
    ∀ status ∈ OffboardingTaskStatus.ofValue statusValue, status ∉ offboardingDoneStatuses →
      ∀ process ∈ st.processes, process.id = task.process → process.status ≠ .completed
  | .assets op => ∀ process ∈ st.processes, process.status = .completed →
    ¬ Assets.Assigns st.assets process.employee op
  | _ => True

instance (st : OffboardingState) : Decidable (OffboardingComplete st) :=
  inferInstanceAs (Decidable (∀ process ∈ st.processes, _ → _))

instance (st : OffboardingState) : ∀ op, Decidable (KeepsClosed st op)
  | .updateOffboardingTask _ _ _ => inferInstanceAs (Decidable (∀ task ∈ _, _ → ∀ status ∈ _, _))
  | .assets _ => inferInstanceAs (Decidable (∀ process ∈ st.processes, _ → _))
  | .endEmployment _ | .completeOffboardingProcess _ => instDecidableTrue

/-- The rows that are referred to. -/
structure OffboardingState.Known (st : OffboardingState) : Prop where
  freshProcesses : ∀ process ∈ st.processes, process.id < st.processes.length
  uniqueProcesses : Table.Unique EmployeeOffboardingProcess.id st.processes
  freshTasks : ∀ task ∈ st.tasks, task.id < st.tasks.length
  uniqueTasks : Table.Unique EmployeeOffboardingTask.id st.tasks
  ofProcess : ∀ task ∈ st.tasks, task.process < st.processes.length

section

variable {st st' : OffboardingState} {process : EmployeeOffboardingProcess}
  {task : EmployeeOffboardingTask} {assetName : AssetId → String}

theorem OffboardingState.Known.withStaff (hknown : st.Known) (staff : StaffState) :
    OffboardingState.Known { st with staff := staff } :=
  ⟨hknown.freshProcesses, hknown.uniqueProcesses, hknown.freshTasks, hknown.uniqueTasks,
    hknown.ofProcess⟩

/-! ### Ending an employment -/

/-- The tasks that a process starts with are its own, and new. -/
theorem exists_seeded (process : EmployeeOffboardingProcess) (st : OffboardingState) :
    ∃ new, seedOffboardingTasks process st = { st with tasks := st.tasks ++ new }
      ∧ (∀ task ∈ new, task.process = process.id)
      ∧ new.map EmployeeOffboardingTask.id = List.range' st.tasks.length new.length := by
  unfold seedOffboardingTasks
  split
  · exact ⟨[], by rw [List.append_nil], by simp, rfl⟩
  · refine ⟨_, rfl, fun task htask => ?_, rfl⟩
    obtain ⟨i, hi, rfl⟩ := List.mem_mapIdx.mp htask
    rfl

/-- **A process that is opened** is the last one, and not closed; one that is opened again
is not closed either. -/
theorem createOrUpdate_cases (r : ExitRequest) (dateOfExit : Date) (st : OffboardingState) :
    (∃ new, createOrUpdateOffboardingProcess r dateOfExit st
        = { st with
          processes := st.processes ++ [newProcess r dateOfExit st], tasks := st.tasks ++ new }
        ∧ (∀ task ∈ new, task.process = st.processes.length)
        ∧ new.map EmployeeOffboardingTask.id = List.range' st.tasks.length new.length)
      ∨ createOrUpdateOffboardingProcess r dateOfExit st = st
      ∨ ∃ updated, updated.status = .inProgress
        ∧ createOrUpdateOffboardingProcess r dateOfExit st
          = { st with
              processes := Table.save EmployeeOffboardingProcess.id updated st.processes } := by
  unfold createOrUpdateOffboardingProcess
  split
  · exact Or.inl (exists_seeded (newProcess r dateOfExit st) _)
  · dsimp only
    split
    · exact Or.inr (Or.inl rfl)
    · exact Or.inr (Or.inr ⟨_, rfl, rfl⟩)

theorem complete_createOrUpdate (hknown : st.Known) (h : OffboardingComplete st)
    (r : ExitRequest) (dateOfExit : Date) :
    OffboardingComplete (createOrUpdateOffboardingProcess r dateOfExit st) := by
  obtain ⟨new, heq, hnew, -⟩ | heq | ⟨updated, hopen, heq⟩ := createOrUpdate_cases r dateOfExit st
  · rw [heq]
    intro process hprocess hclosed
    rcases List.mem_append.mp hprocess with hprocess | hprocess
    · refine ⟨fun task htask hof => ?_, (h process hprocess hclosed).2⟩
      rcases List.mem_append.mp htask with htask | htask
      · exact (h process hprocess hclosed).1 task htask hof
      · -- the new tasks are of the new process
        have hlt := hknown.freshProcesses process hprocess
        rw [← hof, hnew task htask] at hlt
        exact absurd hlt (lt_irrefl _)
    · obtain rfl := List.mem_singleton.mp hprocess
      cases hclosed
  · rwa [heq]
  · rw [heq]
    intro process hprocess hclosed
    rcases Table.mem_save hprocess with rfl | ⟨hprocess, -⟩
    · rw [hopen] at hclosed
      cases hclosed
    · exact h process hprocess hclosed

theorem complete_endEmployment (hknown : st.Known) (h : OffboardingComplete st)
    (r : ExitRequest) : OffboardingComplete (endEmployment r st) := by
  unfold endEmployment
  split
  · exact h
  · split
    · exact h
    · next dateOfExit _ =>
      have hstaff : OffboardingComplete
          { st with staff := Payroll.endEmployment r.toEndEmployment st.staff } := h
      exact complete_createOrUpdate (hknown.withStaff _) hstaff r dateOfExit

/-! ### Updating a task -/

/-- **A task is updated** in a closed process only if that does not take it up again. -/
theorem complete_updateOffboardingTask_iff (hknown : st.Known) (h : OffboardingComplete st)
    (htask : task ∈ st.tasks) (statusValue note : String) :
    OffboardingComplete (settle st (updateOffboardingTask task statusValue note st))
      ↔ (task.isRequired = true → ∀ status ∈ OffboardingTaskStatus.ofValue statusValue,
        status ∉ offboardingDoneStatuses → ∀ process ∈ st.processes,
          process.id = task.process → process.status ≠ .completed) := by
  unfold updateOffboardingTask
  cases OffboardingTaskStatus.ofValue statusValue with
  | none => exact iff_of_true h (fun _ status hstatus => nomatch hstatus)
  | some status =>
    rw [settle_ok]
    constructor
    · intro h' hrequired status' hstatus hopen process hprocess hof hclosed
      obtain rfl := Option.mem_some_iff.mp hstatus
      exact hopen ((h' process hprocess hclosed).1 { task with status := status, note := note }
        (Table.mem_update_iff.mpr (Or.inl ⟨task, htask, decide_eq_true rfl, rfl⟩)) hof.symm
        hrequired)
    · intro hkept process hprocess hclosed
      refine ⟨fun row hrow hof hrequired => ?_, (h process hprocess hclosed).2⟩
      rcases Table.mem_update_iff.mp hrow with ⟨old, hold, hid, rfl⟩ | ⟨hrow, -⟩
      · obtain rfl := hknown.uniqueTasks.eq_of_key hold htask (of_decide_eq_true hid)
        by_contra hopen
        exact hkept hrequired status rfl hopen process hprocess hof.symm hclosed
      · exact (h process hprocess hclosed).1 row hrow hof hrequired

/-! ### Closing a process -/

theorem complete_completeOffboardingProcess (hknown : st.Known) (h : OffboardingComplete st)
    (hprocess : process ∈ st.processes)
    (ht : completeOffboardingProcess assetName process st = .ok st') :
    OffboardingComplete st' := by
  simp only [completeOffboardingProcess] at ht
  split_ifs at ht with hopen hreturned
  obtain rfl := Except.ok.inj ht
  intro row hrow hclosed
  rcases Table.mem_update_iff.mp hrow with ⟨old, hold, hid, rfl⟩ | ⟨hrow, -⟩
  · obtain rfl := hknown.uniqueProcesses.eq_of_key hold hprocess (of_decide_eq_true hid)
    refine ⟨fun task htask hof hrequired => ?_, not_not.mp hreturned⟩
    by_contra hnot
    exact hopen (List.any_eq_true.mpr ⟨task, htask, decide_eq_true ⟨hof, hrequired, hnot⟩⟩)
  · exact h row hrow hclosed

/-! ### Assigning and returning assets -/

/-- **The assets of an employee who holds none**: an operation leaves it at that unless it
assigns one. -/
theorem unresolved_step_iff {t : AssetTables} {employee : EmployeeId}
    (h : getUnresolvedAssetAssignments t employee = []) (op : Assets.Op) :
    getUnresolvedAssetAssignments (Assets.step t op) employee = []
      ↔ ¬ Assets.Assigns t employee op := by
  have hnone : ∀ a ∈ t.assignments, ¬ (a.employee = employee ∧ a.status = .active) := by
    simpa [getUnresolvedAssetAssignments] using h
  have hiff : getUnresolvedAssetAssignments (Assets.step t op) employee = []
      ↔ ∀ a ∈ (Assets.step t op).assignments, ¬ (a.employee = employee ∧ a.status = .active) := by
    simp [getUnresolvedAssetAssignments]
  rw [hiff]
  constructor
  · intro hnone' hassigns
    obtain ⟨a, ha, hheld⟩ := Assets.exists_active_of_assigns hassigns
    exact hnone' a ha hheld
  · intro hassigns a ha
    obtain hsame | ⟨b, hended, hsaved⟩ | ⟨recipient, item, condition, hassigned, -, hadded⟩ :=
      Assets.assignments_step (t := t) op
    · exact hnone a (hsame ▸ ha)
    · rw [hsaved] at ha
      rcases Table.mem_save ha with rfl | ⟨ha, -⟩
      · exact fun hheld => hended hheld.2
      · exact hnone a ha
    · rw [hadded] at ha
      rcases List.mem_append.mp ha with ha | ha
      · exact hnone a ha
      · obtain rfl := List.mem_singleton.mp ha
        rintro ⟨rfl, -⟩
        exact hassigns hassigned

/-! ### One operation -/

/-- **One operation keeps offboarding complete** exactly when it leaves closed processes
alone. -/
theorem complete_step_iff (st : OffboardingState) (op : OffboardingOp) (hknown : st.Known)
    (h : OffboardingComplete st) :
    OffboardingComplete (offboardingStep assetName st op) ↔ KeepsClosed st op := by
  cases op with
  | endEmployment request => exact iff_of_true (complete_endEmployment hknown h request) trivial
  | updateOffboardingTask id statusValue note =>
    show OffboardingComplete ((st.getTask id).elim st _) ↔ ∀ task ∈ st.getTask id, _
    cases htask : st.getTask id with
    | none => exact iff_of_true h (fun task htask => nomatch htask)
    | some task =>
      refine (complete_updateOffboardingTask_iff hknown h (Table.find_mem htask) _ note).trans ?_
      exact ⟨fun hkept task' htask' => Option.mem_some_iff.mp htask' ▸ hkept,
        fun hkept => hkept task rfl⟩
  | completeOffboardingProcess employee =>
    refine iff_of_true ?_ trivial
    show OffboardingComplete ((st.getProcess employee).elim st _)
    cases hprocess : st.getProcess employee with
    | none => exact h
    | some process =>
      exact settle_induction (P := OffboardingComplete) h fun st' ht =>
        complete_completeOffboardingProcess hknown h (Table.find_mem hprocess) ht
  | assets op =>
    constructor
    · intro h' process hprocess hclosed
      exact (unresolved_step_iff (h process hprocess hclosed).2 op).mp
        (h' process hprocess hclosed).2
    · intro hkept process hprocess hclosed
      obtain ⟨hdone, hreturned⟩ := h process hprocess hclosed
      exact ⟨hdone, (unresolved_step_iff hreturned op).mpr (hkept process hprocess hclosed)⟩

/-! ### The rows stay known -/

/-- Processes that are written keep their ids. -/
theorem OffboardingState.Known.withProcesses (hknown : st.Known)
    {processes : List EmployeeOffboardingProcess}
    (hids : processes.map EmployeeOffboardingProcess.id
      = st.processes.map EmployeeOffboardingProcess.id) :
    OffboardingState.Known { st with processes := processes } := by
  have hlength : processes.length = st.processes.length := by
    simpa using congrArg List.length hids
  refine ⟨fun process hprocess => ?_, ?_, hknown.freshTasks, hknown.uniqueTasks,
    fun task htask => (hknown.ofProcess task htask).trans_eq hlength.symm⟩
  · have hid : process.id ∈ st.processes.map EmployeeOffboardingProcess.id :=
      hids ▸ List.mem_map_of_mem hprocess
    obtain ⟨old, hold, hid⟩ := List.mem_map.mp hid
    exact hid ▸ (hknown.freshProcesses old hold).trans_eq hlength.symm
  · unfold Table.Unique
    exact hids ▸ hknown.uniqueProcesses

theorem known_createOrUpdate (hknown : st.Known) (r : ExitRequest) (dateOfExit : Date) :
    (createOrUpdateOffboardingProcess r dateOfExit st).Known := by
  obtain ⟨new, heq, hnew, hids⟩ | heq | ⟨updated, -, heq⟩ := createOrUpdate_cases r dateOfExit st
  · rw [heq]
    have hnewIds (task : EmployeeOffboardingTask) (htask : task ∈ new) :
        st.tasks.length ≤ task.id ∧ task.id < st.tasks.length + new.length := by
      have hid : task.id ∈ List.range' st.tasks.length new.length :=
        hids ▸ List.mem_map_of_mem htask
      simpa [List.mem_range'_1] using hid
    refine ⟨fun process hprocess => ?_, ?_, fun task htask => ?_, ?_, fun task htask => ?_⟩
    · show process.id < (st.processes ++ [_]).length
      rw [List.length_append]
      rcases List.mem_append.mp hprocess with hprocess | hprocess
      · exact (hknown.freshProcesses process hprocess).trans (Nat.lt_succ_self _)
      · obtain rfl := List.mem_singleton.mp hprocess
        exact Nat.lt_succ_self _
    · exact hknown.uniqueProcesses.append_one fun process hprocess =>
        (hknown.freshProcesses process hprocess).ne
    · show task.id < (st.tasks ++ new).length
      rw [List.length_append]
      rcases List.mem_append.mp htask with htask | htask
      · exact (hknown.freshTasks task htask).trans_le (Nat.le_add_right _ _)
      · exact (hnewIds task htask).2
    · show ((st.tasks ++ new).map EmployeeOffboardingTask.id).Nodup
      rw [List.map_append, List.nodup_append]
      refine ⟨hknown.uniqueTasks, hids ▸ List.nodup_range', fun id hid id' hid' => ?_⟩
      obtain ⟨task, htask, rfl⟩ := List.mem_map.mp hid
      obtain ⟨task', htask', rfl⟩ := List.mem_map.mp hid'
      exact ((hknown.freshTasks task htask).trans_le (hnewIds task' htask').1).ne
    · show task.process < (st.processes ++ [_]).length
      rw [List.length_append]
      rcases List.mem_append.mp htask with htask | htask
      · exact (hknown.ofProcess task htask).trans (Nat.lt_succ_self _)
      · exact (hnew task htask).trans_lt (Nat.lt_succ_self _)
  · rwa [heq]
  · rw [heq]
    exact hknown.withProcesses (Table.map_key_save updated st.processes)

/-- **One operation** refers to rows that are known. -/
theorem known_step (st : OffboardingState) (op : OffboardingOp) (hknown : st.Known) :
    (offboardingStep assetName st op).Known := by
  cases op with
  | endEmployment request =>
    show (endEmployment request st).Known
    unfold endEmployment
    split
    · exact hknown
    · split
      · exact hknown
      · exact known_createOrUpdate (hknown.withStaff _) request _
  | updateOffboardingTask id statusValue note =>
    show ((st.getTask id).elim st _).Known
    cases st.getTask id with
    | none => exact hknown
    | some task =>
      refine settle_induction (P := OffboardingState.Known) hknown fun st' ht => ?_
      unfold updateOffboardingTask at ht
      split at ht
      · cases ht
      · obtain rfl := Except.ok.inj ht
        refine ⟨hknown.freshProcesses, hknown.uniqueProcesses, fun row hrow => ?_,
          hknown.uniqueTasks.update (fun _ => rfl), fun row hrow => ?_⟩
        all_goals
          obtain ⟨old, hold, rfl⟩ := Table.mem_update.mp hrow
        · show _ < (Table.update _ _ st.tasks).length
          rw [Table.update, List.length_map]
          split
          · exact hknown.freshTasks old hold
          · exact hknown.freshTasks old hold
        · split
          · exact hknown.ofProcess old hold
          · exact hknown.ofProcess old hold
  | completeOffboardingProcess employee =>
    show ((st.getProcess employee).elim st _).Known
    cases st.getProcess employee with
    | none => exact hknown
    | some process =>
      refine settle_induction (P := OffboardingState.Known) hknown fun st' ht => ?_
      simp only [completeOffboardingProcess] at ht
      split_ifs at ht
      obtain rfl := Except.ok.inj ht
      refine hknown.withProcesses (Table.map_update (fun _ => ?_) st.processes)
      rfl
  | assets op =>
    exact ⟨hknown.freshProcesses, hknown.uniqueProcesses, hknown.freshTasks, hknown.uniqueTasks,
      hknown.ofProcess⟩

end

/-- **Offboarding stays complete** in a run exactly when each of its operations leaves
closed processes alone. -/
theorem offboardingComplete_iff_keepsClosed (assetName : AssetId → String)
    {st : OffboardingState} (hknown : st.Known) (h : OffboardingComplete st)
    (ops : List OffboardingOp) :
    (∀ n, OffboardingComplete (Run.exec (offboardingStep assetName) st (ops.take n)))
      ↔ Run.Along (offboardingStep assetName) KeepsClosed st ops :=
  Run.forall_take_iff_along known_step complete_step_iff hknown h ops

/-! ## An employee who leaves -/

namespace Sample

/-- Employee 1 is active, and a laptop is available. -/
def active : OffboardingState where
  staff := .initial Payroll.Sample.stages [] [Payroll.Sample.employee]
  processes := []
  tasks := []
  assets := Assets.Sample.laptop

def resigns : ExitRequest where
  employee := 1
  endStatus := .resigned
  dateOfExit := some Assets.Sample.may
  settlement := {
    assignments := []
    encashable := []
    gratuityEligibilityYears := 5
    fnfTds := fun _ _ _ _ => 0 }
  exitReason := "Relocation"
  exitNotes := ""

/-- The employee resigns, the tasks are done, and the process is closed. -/
def offboards : List OffboardingOp :=
  .endEmployment resigns
    :: (List.range 6).map (fun task => .updateOffboardingTask task "COMPLETED" "")
    ++ [.completeOffboardingProcess 1]

/-- The laptop is assigned to the employee who has left. -/
def assignsLaptop : OffboardingOp := .assets (Assets.Sample.assign 1)

theorem active_known : active.Known where
  freshProcesses := by decide
  uniqueProcesses := by decide
  freshTasks := by decide
  uniqueTasks := by decide
  ofProcess := by decide

end Sample

open Sample

theorem offboardingComplete_iff_keepsClosed_sample :
    OffboardingComplete (Run.exec (offboardingStep fun _ => "Laptop") active offboards) :=
  (offboardingComplete_iff_keepsClosed _ active_known (by decide) offboards).mpr (by decide)
    offboards.length

/-- **A laptop is assigned** to an employee whose offboarding is closed. -/
theorem assigned_after_offboarding :
    ¬ ∀ n, OffboardingComplete (Run.exec (offboardingStep fun _ => "Laptop") active
      ((offboards ++ [assignsLaptop]).take n)) :=
  fun h => absurd (h 9) (by decide)

end Offboarding
