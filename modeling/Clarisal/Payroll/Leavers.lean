import Clarisal.Payroll.ServiceDays

/-!
# Leavers

Ending an employment drafts the settlement, and the settlement pays the salary of the last
month. Nothing tells the pay runs: an item that was calculated for that month before, or
for a later one, can still be finalized, and then the month is paid twice
(`exit_month_paid_twice`). The settlement in turn does not look at the joining date, and a
pay run does not look at it for months before joining.

A leaver is paid at most the salary due in every run where the pay runs that are finalized
with an item of the employee are of months from joining to the one before the last, and
the employment does not end in the month it began (`leaver_paid_once_of_guarded`).
-/

open Calendar Approvals

namespace Payroll

open Transaction PayrollTables

/-- The statuses an employment ends with. -/
def terminalEmployeeStatuses : List EmployeeStatus := [.resigned, .retired, .terminated]

/-- The pay runs, the employees and the settlements. -/
structure StaffState where
  payroll : State
  employees : List Employee
  settlements : List FullAndFinalSettlement

/-- What ending an employment is asked with, and what drafting the settlement reads. -/
structure EndEmployment where
  employee : EmployeeId
  endStatus : EmployeeStatus
  dateOfExit : Option Date
  settlement : SettlementInputs

def checkEndEmployment (r : EndEmployment) (employee : Employee) : Except String Date :=
  if employee.status ≠ .active then .error "Only active employees can end employment."
  else if r.endStatus ∉ terminalEmployeeStatuses then
    .error "End employment status must be resigned, retired, or terminated."
  else match r.dateOfExit with
    | none => .error "Date of exit is required."
    | some dateOfExit => .ok dateOfExit

/-- **`end_employment`**, on the employee's row as it stands. -/
def endEmployment (r : EndEmployment) (st : StaffState) : StaffState :=
  match Table.find Employee.id r.employee st.employees with
  | none => st
  | some employee =>
    match checkEndEmployment r employee with
    | .error _ => st
    | .ok dateOfExit =>
      let employee := { employee with status := r.endStatus, dateOfExit := some dateOfExit }
      let st := { st with employees := Table.save Employee.id employee st.employees }
      -- the row is saved already when the settlement fails
      match createFullAndFinalSettlement r.settlement employee dateOfExit st.settlements with
      | .error _ => st
      | .ok settlements => { st with settlements := settlements }

/-- A calculation reads the employees as they are. -/
def Op.withEmployees (employees : List Employee) : Op → Op
  | .calculatePayRun inputs payRun =>
    .calculatePayRun { inputs with employees := employees } payRun
  | op => op

/-- **The requests**: those about pay runs, and the end of an employment. -/
inductive StaffOp
  | payRuns (op : Op)
  | endEmployment (request : EndEmployment)

/-- **One request.** -/
def staffStep (st : StaffState) : StaffOp → StaffState
  | .payRuns op => { st with payroll := step st.payroll (op.withEmployees st.employees) }
  | .endEmployment request => Payroll.endEmployment request st

/-- Before the first pay run. -/
def StaffState.initial (stages : StageTable) (expenseClaims : List ExpenseClaim)
    (employees : List Employee) : StaffState :=
  { payroll := EngineState.initial stages (.initial expenseClaims)
    employees := employees
    settlements := [] }

/-! ## Paid at most once -/

/-- The payslips of an employee. -/
def PayrollTables.payslipsOf (t : PayrollTables) (employee : EmployeeId) : List Payslip :=
  t.payslips.filter (fun s => s.employee = employee)

/-- The settlement of an employee, if there is one. -/
def StaffState.settlementOf (st : StaffState) (employee : EmployeeId) :
    List FullAndFinalSettlement :=
  st.settlements.filter (fun f => f.employee = employee)

/-- **What an employee is paid**: the payslips, and the settlement's salary. -/
def paidTo (employee : EmployeeId) (st : StaffState) : ℚ :=
  ((st.payroll.subjects.payslipsOf employee).map (fun s => s.snapshot.grossPay)).sum
    + ((st.settlementOf employee).map FullAndFinalSettlement.proratedSalary).sum

/-- **A leaver is paid at most the salary of the days of service**, up to a paisa for each
month. -/
def LeaverPaidOnce (employee : EmployeeId) (gross : ℚ) (st : StaffState) : Prop :=
  ∀ row ∈ st.employees, row.id = employee → row.status ∈ terminalEmployeeStatuses →
    ∀ joining ∈ row.dateOfJoining, ∀ last ∈ row.dateOfExit,
      paidTo employee st ≤ salaryDue gross joining last + (serviceMonths joining last).card / 100

instance (employee : EmployeeId) (gross : ℚ) (st : StaffState) :
    Decidable (LeaverPaidOnce employee gross st) :=
  inferInstanceAs (Decidable (∀ row ∈ st.employees, _))

/-- **What is said of the employee**: the monthly salary does not change, there are no
arrears, and a month has one pay run. -/
def Assumed (employee : EmployeeId) (gross : ℚ) (st : StaffState) : StaffOp → Prop
  | .payRuns (.calculatePayRun inputs _) => ∀ a ∈ inputs.assignments, a.employee = employee →
    a.isApproved = true → a.salary = gross
  | .payRuns (.finalizePayRun id _) => ∀ p ∈ st.payroll.subjects.payRuns, p.id = id →
    ∀ i ∈ st.payroll.subjects.readyItems id, i.employee = employee → i.snapshot.arrears = 0
      ∧ ∀ s ∈ st.payroll.subjects.payslipsOf employee, s.monthIndex ≠ p.monthIndex
  | .endEmployment r => r.employee = employee → ∀ a ∈ r.settlement.assignments,
    a.employee = employee → a.isApproved = true → a.grossMonthlySalary = gross
  | _ => True

/-- **The guard of a request.** A pay run is finalized with an item of the employee only
for a month from joining on and, after the end of the employment, before the last one, and
without reimbursements. The employment does not end in a month that is paid, in an earlier
one, or in the one it began in. -/
def Guarded (employee : EmployeeId) (st : StaffState) : StaffOp → Prop
  | .payRuns (.finalizePayRun id _) => ∀ p ∈ st.payroll.subjects.payRuns, p.id = id →
    ∀ i ∈ st.payroll.subjects.readyItems id, i.employee = employee →
      i.snapshot.expenseReimbursements = 0 ∧ ∀ row ∈ st.employees, row.id = employee →
        (∀ joining ∈ row.dateOfJoining, monthIndexOf joining ≤ p.monthIndex)
        ∧ (row.status ∈ terminalEmployeeStatuses → ∀ last ∈ row.dateOfExit,
          p.monthIndex < monthIndexOf last)
  | .endEmployment r => r.employee = employee → ∀ last ∈ r.dateOfExit,
    (∀ s ∈ st.payroll.subjects.payslipsOf employee, s.monthIndex < monthIndexOf last)
    ∧ ∀ row ∈ st.employees, row.id = employee → ∀ joining ∈ row.dateOfJoining,
      JoinedBefore joining last
  | _ => True

instance (employee : EmployeeId) (gross : ℚ) (st : StaffState) :
    ∀ op : StaffOp, Decidable (Assumed employee gross st op)
  | .payRuns (.calculatePayRun inputs _) => inferInstanceAs
      (Decidable (∀ a ∈ inputs.assignments, a.employee = employee → a.isApproved = true →
        a.salary = gross))
  | .payRuns (.finalizePayRun id _) => inferInstanceAs
      (Decidable (∀ p ∈ st.payroll.subjects.payRuns, p.id = id →
        ∀ i ∈ st.payroll.subjects.readyItems id, i.employee = employee → i.snapshot.arrears = 0
          ∧ ∀ s ∈ st.payroll.subjects.payslipsOf employee, s.monthIndex ≠ p.monthIndex))
  | .endEmployment r => inferInstanceAs
      (Decidable (r.employee = employee → ∀ a ∈ r.settlement.assignments,
        a.employee = employee → a.isApproved = true → a.grossMonthlySalary = gross))
  | .payRuns (.createPayrollRun ..) | .payRuns (.createArrears _)
  | .payRuns (.submitPayRunForApproval ..) | .payRuns (.approveAction ..)
  | .payRuns (.rejectAction ..) | .payRuns (.processPendingActionEscalations ..) =>
    instDecidableTrue

instance (employee : EmployeeId) (st : StaffState) :
    ∀ op : StaffOp, Decidable (Guarded employee st op)
  | .payRuns (.finalizePayRun id _) => inferInstanceAs
      (Decidable (∀ p ∈ st.payroll.subjects.payRuns, p.id = id →
        ∀ i ∈ st.payroll.subjects.readyItems id, i.employee = employee →
          i.snapshot.expenseReimbursements = 0 ∧ ∀ row ∈ st.employees, row.id = employee →
            (∀ joining ∈ row.dateOfJoining, monthIndexOf joining ≤ p.monthIndex)
            ∧ (row.status ∈ terminalEmployeeStatuses → ∀ last ∈ row.dateOfExit,
              p.monthIndex < monthIndexOf last)))
  | .endEmployment r => inferInstanceAs
      (Decidable (r.employee = employee → ∀ last ∈ r.dateOfExit,
        (∀ s ∈ st.payroll.subjects.payslipsOf employee, s.monthIndex < monthIndexOf last)
        ∧ ∀ row ∈ st.employees, row.id = employee → ∀ joining ∈ row.dateOfJoining,
          JoinedBefore joining last))
  | .payRuns (.createPayrollRun ..) | .payRuns (.createArrears _)
  | .payRuns (.calculatePayRun ..) | .payRuns (.submitPayRunForApproval ..)
  | .payRuns (.approveAction ..) | .payRuns (.rejectAction ..)
  | .payRuns (.processPendingActionEscalations ..) => instDecidableTrue

/-! ## Payslips across a request -/

section Payslips

variable {t t' : PayrollTables} {payRun : PayrollRun} {rows : List PayrollRunItem}

/-- The first payslip of an item is appended, when the employee has none in the run. -/
theorem finalizeItem_payslips {item : PayrollRunItem}
    (hfresh : ∀ s ∈ t.payslips, s.payRunItem ≠ item.id)
    (h : finalizeItem payRun t item = .ok t') :
    t'.payslips = t.payslips ++ [item.payslip payRun]
      ∧ ∀ s ∈ t.payslips, s.payRun = payRun.id → s.employee ≠ item.employee := by
  obtain ⟨t₁, hslip, h⟩ := bind_eq_ok_iff.mp h
  obtain rfl := pure_eq_ok_iff.mp h
  unfold updateOrCreatePayslip at hslip
  split at hslip
  · next hany =>
    obtain ⟨s, hs, hitem⟩ := List.any_eq_true.mp hany
    exact absurd (of_decide_eq_true hitem) (hfresh s hs)
  · split at hslip
    · cases hslip
    · next hnone =>
      obtain rfl := Except.ok.inj hslip
      refine ⟨rfl, fun s hs hrun hemployee => hnone (List.any_eq_true.mpr ⟨s, hs, ?_⟩)⟩
      exact decide_eq_true ⟨hemployee, hrun⟩

/-- **The payslips of new items** are appended, and no employee gets two. -/
theorem foldlM_finalizeItem_payslips (hunique : Table.Unique PayrollRunItem.id rows)
    (hfresh : ∀ s ∈ t.payslips, ∀ i ∈ rows, s.payRunItem ≠ i.id)
    (h : rows.foldlM (finalizeItem payRun) t = .ok t') :
    t'.payslips = t.payslips ++ rows.map (PayrollRunItem.payslip payRun)
      ∧ Table.Unique PayrollRunItem.employee rows
      ∧ ∀ i ∈ rows, ∀ s ∈ t.payslips, s.payRun = payRun.id → s.employee ≠ i.employee := by
  induction rows generalizing t with
  | nil =>
    cases h
    exact ⟨(List.append_nil _).symm, List.nodup_nil, fun _ hi => absurd hi List.not_mem_nil⟩
  | cons item rows ih =>
    rw [List.foldlM_cons, bind_eq_ok_iff] at h
    obtain ⟨t₁, hitem, hrest⟩ := h
    obtain ⟨hnew, hnone⟩ := finalizeItem_payslips
      (fun s hs => hfresh s hs item List.mem_cons_self) hitem
    obtain ⟨hid, hunique⟩ :=
      List.nodup_cons.mp (show (item.id :: rows.map PayrollRunItem.id).Nodup from hunique)
    obtain ⟨hslips, hemployees, hothers⟩ := ih hunique (fun s hs i hi => by
      rw [hnew] at hs
      rcases List.mem_append.mp hs with hs | hs
      · exact hfresh s hs i (List.mem_cons_of_mem _ hi)
      · rw [List.mem_singleton.mp hs]
        exact fun hsame => hid (List.mem_map.mpr ⟨i, hi, hsame.symm⟩)) hrest
    refine ⟨?_, List.nodup_cons.mpr ⟨fun hmem => ?_, hemployees⟩, fun i hi s hs hrun => ?_⟩
    · rw [hslips, hnew, List.append_assoc]
      rfl
    · -- a second item of the employee finds the payslip of the first
      obtain ⟨i, hi, hsame⟩ := List.mem_map.mp hmem
      have hslip : item.payslip payRun ∈ t₁.payslips := by
        rw [hnew]
        exact List.mem_append_right _ List.mem_cons_self
      exact hothers i hi _ hslip rfl hsame.symm
    · rcases List.mem_cons.mp hi with rfl | hi
      · exact hnone s hs hrun
      · exact hothers i hi s (by rw [hnew]; exact List.mem_append_left _ hs) hrun

/-- The payslips of an employee after a finalization: one more at most. -/
theorem payslipsOf_finalizeWrites {st : State} (h : Ledger st) (hp : payRun ∈ st.subjects.payRuns)
    (hopen : payRun.status ≠ .finalized) (hok : finalizeWrites payRun st.subjects = .ok t')
    (employee : EmployeeId) :
    t'.payslipsOf employee = st.subjects.payslipsOf employee
      ∨ ∃ i ∈ st.subjects.readyItems payRun.id, i.employee = employee
        ∧ t'.payslipsOf employee
          = st.subjects.payslipsOf employee ++ [i.payslip payRun] := by
  obtain ⟨_, -, hok⟩ := bind_eq_ok_iff.mp hok
  obtain ⟨t₁, hloop, hok⟩ := bind_eq_ok_iff.mp hok
  obtain rfl := pure_eq_ok_iff.mp hok
  have hfresh : ∀ s ∈ st.subjects.payslips, ∀ i ∈ st.subjects.readyItems payRun.id,
      s.payRunItem ≠ i.id := by
    intro s hs i hi hid
    obtain ⟨hi, hrun, -⟩ := mem_readyItems.mp hi
    obtain ⟨p, hpmem, hfinal, j, hj, hjrun, rfl⟩ := h.issued s hs
    refine h.ne_of_finalized hp hopen p.id ⟨p, hpmem, rfl, hfinal⟩ ?_
    rw [← hjrun, h.keys.item_eq hj hi hid, hrun]
  have hunique : Table.Unique PayrollRunItem.id (st.subjects.readyItems payRun.id) :=
    (h.keys.uniqueItem.filter _).filter _
  obtain ⟨hslips, hemployees, -⟩ := foldlM_finalizeItem_payslips hunique hfresh hloop
  have hof : (t₁.updatePayRun payRun.id (fun p => { p with status := .finalized })).payslipsOf
      employee = st.subjects.payslipsOf employee ++ ((st.subjects.readyItems payRun.id).filter
        (fun i => i.employee = employee)).map (PayrollRunItem.payslip payRun) := by
    show t₁.payslips.filter _ = _
    rw [hslips, List.filter_append, List.filter_map]
    rfl
  rcases hemployees.filter_cases employee with hnone | ⟨i, hi, hemployee, hone⟩
  · rw [hof, hnone, List.map_nil, List.append_nil]
    exact Or.inl rfl
  · rw [hof, hone]
    exact Or.inr ⟨i, hi, hemployee, rfl⟩

/-- **The payslips of an employee after a request about pay runs**: fewer, or one more by
a finalization. -/
theorem payslipsOf_of_change {st st' : State} {op : Op} (h : Ledger st) (hc : Change st st' op)
    (employee : EmployeeId) :
    (st'.subjects.payslipsOf employee).Sublist (st.subjects.payslipsOf employee)
      ∨ ∃ p ∈ st.subjects.payRuns, ∃ skipApproval, op = .finalizePayRun p.id skipApproval
        ∧ ∃ i ∈ st.subjects.readyItems p.id, i.employee = employee
          ∧ st'.subjects.payslipsOf employee
            = st.subjects.payslipsOf employee ++ [i.payslip p] := by
  have hsame : ∀ {t' : PayrollTables}, t'.payslips = st.subjects.payslips →
      (t'.payslipsOf employee).Sublist (st.subjects.payslipsOf employee) := fun hslips => by
    unfold payslipsOf
    rw [hslips]
  cases hc with
  | quiet hcloses hsubjects => exact Or.inl (hsame (by rw [hsubjects]))
  | decided run decision id hrun hpending hsubject houtline hsubjects =>
    exact Or.inl (hsame (by rw [hsubjects]; rfl))
  | created organisation periodYear periodMonth runType useAttendanceInputs hdb hsubjects =>
    exact Or.inl (hsame (by rw [hsubjects]; rfl))
  | arrears row hdb hsubjects => exact Or.inl (hsame (by rw [hsubjects]))
  | calculated inputs p approvalRun hp hopen hcloses hnone hok =>
    obtain ⟨t₁, hadds, hsubjects⟩ := calculateWrites_eq_ok hok
    refine Or.inl ?_
    show (st'.subjects.payslips.filter _).Sublist _
    rw [hsubjects, show (t₁.updatePayRun _ _).payslips = _ from hadds.payslips]
    exact List.Sublist.filter _ List.filter_sublist
  | submitted submission p r hp hcalculated hfresh houtline hsubjects =>
    exact Or.inl (hsame (by rw [hsubjects]; rfl))
  | finalized p skipApproval hp hstatus hdb hok =>
    have hopen : p.status ≠ .finalized := by
      rcases hstatus with hstatus | ⟨hstatus, -⟩ <;> rw [hstatus] <;> decide
    rcases payslipsOf_finalizeWrites h hp hopen hok employee with hnone | ⟨i, hi, hemployee, hone⟩
    · exact Or.inl (hnone ▸ List.Sublist.refl _)
    · exact Or.inr ⟨p, hp, skipApproval, rfl, i, hi, hemployee, hone⟩

/-- **A payslip after a request** was there before, or was just issued. -/
theorem mem_payslipsOf_of_change {st st' : State} {op : Op} (h : Ledger st) (hc : Change st st' op)
    {employee : EmployeeId} {s : Payslip} (hs : s ∈ st'.subjects.payslipsOf employee) :
    s ∈ st.subjects.payslipsOf employee
      ∨ ∃ p ∈ st.subjects.payRuns, ∃ i ∈ st.subjects.readyItems p.id, i.employee = employee
        ∧ s = i.payslip p ∧ ∃ skipApproval, op = .finalizePayRun p.id skipApproval := by
  rcases payslipsOf_of_change h hc employee with
    hfewer | ⟨p, hp, skipApproval, hop, i, hi, hemployee, hone⟩
  · exact Or.inl (hfewer.subset hs)
  · rw [hone] at hs
    rcases List.mem_append.mp hs with hs | hs
    · exact Or.inl hs
    · exact Or.inr ⟨p, hp, i, hi, hemployee, List.mem_singleton.mp hs, skipApproval, hop⟩

/-- **A ready item after a request** was there before, or was just calculated, for a pay run
that was there. -/
theorem mem_readyItems_of_change {st st' : State} {op : Op} (h : Ledger st)
    (howned : Owned st.subjects) (hc : Change st st' op) {q : PayrollRun}
    (hq : q ∈ st'.subjects.payRuns) {i : PayrollRunItem} (hi : i ∈ st'.subjects.readyItems q.id) :
    ∃ p ∈ st.subjects.payRuns, q.monthIndex = p.monthIndex
      ∧ (i ∈ st.subjects.readyItems p.id
        ∨ (∃ inputs approvalRun, op = .calculatePayRun inputs p.id
            ∧ inputs.calculateWrites { p with approvalRun := approvalRun } st.subjects
              = .ok st'.subjects)
          ∧ i ∈ st'.subjects.readyItems p.id) := by
  obtain ⟨hi, hrun, hready⟩ := mem_readyItems.mp hi
  rcases payRun_of_change h hc hq with ⟨p, hp, hpq⟩ | hnew
  · have hindex : q.monthIndex = p.monthIndex := by
      rw [PayrollRun.monthIndex, ← hpq.2.1, ← hpq.2.2, PayrollRun.monthIndex]
    refine ⟨p, hp, hindex, ?_⟩
    rcases item_of_change h hc hi with
      hold | ⟨inputs, p', hp', approvalRun, hop, hok, hmem⟩
    · exact Or.inl (mem_readyItems.mpr ⟨hold, hrun.trans hpq.1.symm, hready⟩)
    · have hid : p.id = p'.id := hpq.1.trans (hrun.symm.trans (mem_runItems.mp hmem).2)
      obtain rfl := h.keys.run_eq hp hp' hid
      exact Or.inr ⟨⟨inputs, approvalRun, hop, hok⟩,
        mem_readyItems.mpr ⟨hi, (mem_runItems.mp hmem).2, hready⟩⟩
  · -- a run that was just created has no items
    rcases item_of_change h hc hi with hold | ⟨inputs, p', hp', -, -, -, hmem⟩
    · have hlt := howned i hold
      rw [hrun, hnew] at hlt
      exact absurd hlt (lt_irrefl _)
    · have hlt := h.keys.freshRun p' hp'
      rw [← (mem_runItems.mp hmem).2, hrun, hnew] at hlt
      exact absurd hlt (lt_irrefl _)

end Payslips

/-! ## The invariant -/

/-- **The invariant**, for an employee, a monthly salary and a joining date. Payslips are of
distinct months, each within the salary of its month; a settlement belongs to an ended
employment, after the months of all payslips. -/
structure LeaverInv (employee : EmployeeId) (gross : ℚ) (joining : Date) (st : StaffState) :
    Prop where
  ledger : Ledger st.payroll
  owned : Owned st.payroll.subjects
  uniqueEmployee : Table.Unique Employee.id st.employees
  uniqueSettlement : Table.Unique FullAndFinalSettlement.employee st.settlements
  joined : ∃ row ∈ st.employees, row.id = employee ∧ row.dateOfJoining = some joining
  items : ∀ p ∈ st.payroll.subjects.payRuns, ∀ i ∈ st.payroll.subjects.readyItems p.id,
    i.employee = employee → i.snapshot.arrears = 0 → i.snapshot.expenseReimbursements = 0 →
      i.amounts.grossPay ≤ gross * daysFromJoining joining p.monthIndex / daysOfMonth p.monthIndex
        + 1 / 100
  months : Table.Unique Payslip.monthIndex (st.payroll.subjects.payslipsOf employee)
  slips : ∀ s ∈ st.payroll.subjects.payslipsOf employee, monthIndexOf joining ≤ s.monthIndex
    ∧ s.snapshot.grossPay
      ≤ gross * daysFromJoining joining s.monthIndex / daysOfMonth s.monthIndex + 1 / 100
  ended : ∀ row ∈ st.employees, row.id = employee → row.status ∈ terminalEmployeeStatuses →
    ∀ last ∈ row.dateOfExit, ∀ s ∈ st.payroll.subjects.payslipsOf employee,
      s.monthIndex < monthIndexOf last
  settled : ∀ f ∈ st.settlements, f.employee = employee → ∃ row ∈ st.employees,
    row.id = employee ∧ row.status ∈ terminalEmployeeStatuses
      ∧ row.dateOfExit = some f.lastWorkingDay ∧ JoinedBefore joining f.lastWorkingDay
      ∧ f.proratedSalary ≤ gross * f.lastWorkingDay.day
        / daysOfMonth (monthIndexOf f.lastWorkingDay) + 1 / 100

section Step

variable {employee : EmployeeId} {gross : ℚ} {joining : Date} {st : StaffState}

theorem LeaverInv.dateOfJoining (h : LeaverInv employee gross joining st) {row : Employee}
    (hrow : row ∈ st.employees) (hid : row.id = employee) : row.dateOfJoining = some joining := by
  obtain ⟨row', hrow', hid', hjoining⟩ := h.joined
  rwa [h.uniqueEmployee.eq_of_key hrow hrow' (hid.trans hid'.symm)]

/-- A calculation among the requests is one of the requests. -/
theorem withEmployees_eq_calculate {employees : List Employee} {op : Op}
    {inputs : CalculationInputs} {id : PayrollRunId}
    (h : op.withEmployees employees = .calculatePayRun inputs id) :
    ∃ inputs₀ : CalculationInputs, op = .calculatePayRun inputs₀ id
      ∧ inputs.employees = employees ∧ inputs.assignments = inputs₀.assignments := by
  cases op with
  | calculatePayRun inputs₀ payRun =>
    obtain ⟨rfl, rfl⟩ := Op.calculatePayRun.inj h
    exact ⟨inputs₀, rfl, rfl, rfl⟩
  | createPayrollRun | createArrears | submitPayRunForApproval | approveAction | rejectAction
  | processPendingActionEscalations | finalizePayRun => cases h

/-- So is a finalization. -/
theorem withEmployees_eq_finalize {employees : List Employee} {op : Op} {id : PayrollRunId}
    {skipApproval : Bool} (h : op.withEmployees employees = .finalizePayRun id skipApproval) :
    op = .finalizePayRun id skipApproval := by
  cases op with
  | calculatePayRun inputs₀ payRun => cases h
  | createPayrollRun | createArrears | submitPayRunForApproval | approveAction | rejectAction
  | processPendingActionEscalations | finalizePayRun => exact h

/-- **The items of a calculation** of an employee with that salary. -/
theorem item_of_calculateWrites (h : LeaverInv employee gross joining st) (hgross : 0 ≤ gross)
    {inputs : CalculationInputs} {payRun : PayrollRun} {t' : PayrollTables}
    (hemployees : inputs.employees = st.employees)
    (hsalary : ∀ a ∈ inputs.assignments, a.employee = employee → a.isApproved = true →
      a.salary = gross)
    (hok : inputs.calculateWrites payRun st.payroll.subjects = .ok t') {i : PayrollRunItem}
    (hi : i ∈ t'.readyItems payRun.id) (hemployee : i.employee = employee)
    (harrears : i.snapshot.arrears = 0) (hreimbursed : i.snapshot.expenseReimbursements = 0) :
    i.amounts.grossPay ≤ gross * daysFromJoining joining payRun.monthIndex
      / daysOfMonth payRun.monthIndex + 1 / 100 := by
  obtain ⟨period, row, stateCode, assignment, taxSlabSet, claims, t₀, hrow, -, -, hid, hyear,
    hmonth, hassignment, hcalc⟩ := exists_itemInputs hok hi
  have hrowid : row.id = employee := hid.trans hemployee
  have hjoining := h.dateOfJoining (hemployees ▸ hrow) hrowid
  unfold CalculationInputs.assignmentFor at hassignment
  obtain ⟨hmem, hfilter⟩ := List.mem_filter.mp (List.mem_of_find?_eq_some hassignment)
  have howner := List.find?_some hassignment
  have hpays : assignment.salary = gross :=
    hsalary assignment hmem ((of_decide_eq_true howner).trans hrowid) (of_decide_eq_true hfilter).1
  have hpaid := grossPay_le hcalc hjoining (hpays ▸ hgross) harrears hreimbursed
  have hindex : monthIndex period.year period.month = payRun.monthIndex := by
    rw [hyear, hmonth]
    rfl
  change i.amounts.grossPay ≤ assignment.salary
    * daysFromJoining joining (monthIndex period.year period.month)
    / daysOfMonth (monthIndex period.year period.month) + 1 / 100 at hpaid
  rwa [hpays, hindex] at hpaid

/-- **A request about pay runs** that is guarded keeps the invariant. -/
theorem leaverInv_payRuns (h : LeaverInv employee gross joining st) (hgross : 0 ≤ gross) {op : Op}
    (hassumed : Assumed employee gross st (.payRuns op))
    (hguarded : Guarded employee st (.payRuns op)) :
    LeaverInv employee gross joining (staffStep st (.payRuns op)) := by
  have hc := change_step h.ledger (op.withEmployees st.employees)
  exact {
    ledger := ledger_step h.ledger _
    owned := owned_of_change h.ledger h.owned hc
    uniqueEmployee := h.uniqueEmployee
    uniqueSettlement := h.uniqueSettlement
    joined := h.joined
    items := by
      intro q hq i hi hemployee harrears hreimbursed
      obtain ⟨p, hp, hindex, hold | ⟨⟨inputs, approvalRun, hop, hok⟩, hready⟩⟩ :=
        mem_readyItems_of_change h.ledger h.owned hc hq hi
      · rw [hindex]
        exact h.items p hp i hold hemployee harrears hreimbursed
      · obtain ⟨inputs₀, rfl, hemployees, hassignments⟩ := withEmployees_eq_calculate hop
        rw [hindex]
        exact item_of_calculateWrites h hgross hemployees (hassignments ▸ hassumed) hok hready
          hemployee harrears hreimbursed
    months := by
      rcases payslipsOf_of_change h.ledger hc employee with
        hfewer | ⟨p, hp, skipApproval, hop, i, hi, hemployee, hone⟩
      · exact h.months.sublist (hfewer.map _)
      · obtain rfl := withEmployees_eq_finalize hop
        show Table.Unique _ ((step st.payroll _).subjects.payslipsOf employee)
        rw [hone]
        exact h.months.append_one fun s hs => (hassumed p hp rfl i hi hemployee).2 s hs
    slips := by
      intro s hs
      rcases mem_payslipsOf_of_change h.ledger hc hs with
        hold | ⟨p, hp, i, hi, hemployee, rfl, skipApproval, hop⟩
      · exact h.slips s hold
      · obtain rfl := withEmployees_eq_finalize hop
        obtain ⟨hreimbursed, hrows⟩ := hguarded p hp rfl i hi hemployee
        obtain ⟨row, hrow, hid, hjoining⟩ := h.joined
        exact ⟨(hrows row hrow hid).1 joining hjoining,
          h.items p hp i hi hemployee (hassumed p hp rfl i hi hemployee).1 hreimbursed⟩
    ended := by
      intro row hrow hid hstatus last hlast s hs
      rcases mem_payslipsOf_of_change h.ledger hc hs with
        hold | ⟨p, hp, i, hi, hemployee, rfl, skipApproval, hop⟩
      · exact h.ended row hrow hid hstatus last hlast s hold
      · obtain rfl := withEmployees_eq_finalize hop
        exact ((hguarded p hp rfl i hi hemployee).2 row hrow hid).2 hstatus last hlast
    settled := h.settled }

/-- An active employee has no settlement. -/
theorem LeaverInv.ne_of_settled (h : LeaverInv employee gross joining st) {row : Employee}
    (hrow : row ∈ st.employees) (hactive : row.status = .active) {f : FullAndFinalSettlement}
    (hf : f ∈ st.settlements) (hemployee : f.employee = employee) : row.id ≠ employee := by
  intro hid
  obtain ⟨row', hrow', hid', hstatus, -⟩ := h.settled f hf hemployee
  rw [← h.uniqueEmployee.eq_of_key hrow hrow' (hid.trans hid'.symm), hactive] at hstatus
  exact absurd hstatus (by decide)

/-- The row of an employment that ends after all payslips. -/
theorem LeaverInv.endRow (h : LeaverInv employee gross joining st) {found : Employee}
    (hfound : found ∈ st.employees) (hactive : found.status = .active) (endStatus : EmployeeStatus)
    (last : Date) (hafter : found.id = employee →
      ∀ s ∈ st.payroll.subjects.payslipsOf employee, s.monthIndex < monthIndexOf last) :
    LeaverInv employee gross joining { st with
      employees := Table.save Employee.id
        { found with status := endStatus, dateOfExit := some last } st.employees } where
  ledger := h.ledger
  owned := h.owned
  uniqueEmployee := h.uniqueEmployee.save _
  uniqueSettlement := h.uniqueSettlement
  joined := by
    obtain ⟨row, hrow, hid, hjoining⟩ := h.joined
    by_cases hsame : row.id = found.id
    · obtain rfl := h.uniqueEmployee.eq_of_key hrow hfound hsame
      exact ⟨_, Table.mem_save_self hrow rfl, hid, hjoining⟩
    · exact ⟨row, Table.mem_save_of_ne hrow hsame, hid, hjoining⟩
  items := h.items
  months := h.months
  slips := h.slips
  ended := by
    intro row hrow hid hstatus last' hlast s hs
    rcases Table.mem_save hrow with rfl | ⟨hrow, -⟩
    · obtain rfl := Option.some.inj hlast
      exact hafter hid s hs
    · exact h.ended row hrow hid hstatus last' hlast s hs
  settled := by
    intro f hf hemployee
    have hne := h.ne_of_settled hfound hactive hf hemployee
    obtain ⟨row, hrow, hid, hrest⟩ := h.settled f hf hemployee
    exact ⟨row, Table.mem_save_of_ne hrow (fun hsame => hne (hsame.symm.trans hid)), hid, hrest⟩

@[simp] theorem draftSettlement_employee (inputs : SettlementInputs) (row : Employee) (last : Date)
    (fnf : FullAndFinalSettlement) :
    (draftSettlement inputs row last fnf).employee = fnf.employee := by
  unfold draftSettlement
  dsimp only
  split <;> rfl

@[simp] theorem draftSettlement_lastWorkingDay (inputs : SettlementInputs) (row : Employee)
    (last : Date) (fnf : FullAndFinalSettlement) :
    (draftSettlement inputs row last fnf).lastWorkingDay = last := by
  unfold draftSettlement
  dsimp only
  split <;> rfl

/-- **A settlement is drafted** in its row or in a new one. -/
theorem createFullAndFinalSettlement_eq_ok {inputs : SettlementInputs} {row : Employee}
    {last : Date} {settlements settlements' : List FullAndFinalSettlement}
    (h : createFullAndFinalSettlement inputs row last settlements = .ok settlements') :
    (∃ found ∈ settlements, found.employee = row.id
        ∧ settlements' = Table.save FullAndFinalSettlement.employee
          (draftSettlement inputs row last found) settlements)
      ∨ ∃ fnf, (∀ f ∈ settlements, f.employee ≠ row.id) ∧ fnf.employee = row.id
        ∧ fnf.status = .draft ∧ (draftSettlement inputs row last fnf).fits = true
        ∧ settlements' = settlements ++ [draftSettlement inputs row last fnf] := by
  unfold createFullAndFinalSettlement at h
  split at h
  · next found hfound =>
    dsimp only at h
    split at h
    · exact Or.inl ⟨found, Table.find_mem hfound, Table.find_key hfound, (Except.ok.inj h).symm⟩
    · cases h
  · next hnone =>
    dsimp only at h
    split at h
    · next hfits =>
      exact Or.inr ⟨_, Table.find_eq_none_iff.mp hnone, rfl, rfl, hfits, (Except.ok.inj h).symm⟩
    · cases h

/-- An employment that ends was that of an active employee. -/
theorem checkEndEmployment_eq_ok {r : EndEmployment} {row : Employee} {last : Date}
    (h : checkEndEmployment r row = .ok last) :
    row.status = .active ∧ r.endStatus ∈ terminalEmployeeStatuses ∧ r.dateOfExit = some last := by
  unfold checkEndEmployment at h
  split at h
  · cases h
  · next hactive =>
    split at h
    · cases h
    · next hterminal =>
      split at h
      · cases h
      · next hexit =>
        obtain rfl := Except.ok.inj h
        exact ⟨not_not.mp hactive, not_not.mp hterminal, hexit⟩

/-- **The end of an employment** that is guarded keeps the invariant. -/
theorem leaverInv_endEmployment (h : LeaverInv employee gross joining st) (hgross : 0 ≤ gross)
    {r : EndEmployment} (hassumed : Assumed employee gross st (.endEmployment r))
    (hguarded : Guarded employee st (.endEmployment r)) :
    LeaverInv employee gross joining (staffStep st (.endEmployment r)) := by
  show LeaverInv employee gross joining (endEmployment r st)
  unfold endEmployment
  split
  · exact h
  · next found hfind =>
    split
    · exact h
    · next last hcheck =>
      have hfound := Table.find_mem hfind
      have hid : found.id = r.employee := Table.find_key hfind
      obtain ⟨hactive, hterminal, hexit⟩ := checkEndEmployment_eq_ok hcheck
      have hrow := h.endRow hfound hactive r.endStatus last
        (fun hemployee => (hguarded (hid.symm.trans hemployee) last hexit).1)
      dsimp only
      split
      · exact hrow
      · next settlements hcreate =>
        refine { hrow with uniqueSettlement := ?_, settled := ?_ }
        · rcases createFullAndFinalSettlement_eq_ok hcreate with
            ⟨old, -, -, rfl⟩ | ⟨fnf, hnone, hemployee, -, -, rfl⟩
          · exact h.uniqueSettlement.save _
          · refine h.uniqueSettlement.append_one fun f hf => ?_
            rw [draftSettlement_employee, hemployee]
            exact hnone f hf
        · intro f hf hemployee
          rcases createFullAndFinalSettlement_eq_ok hcreate with
            ⟨old, hold, holdid, rfl⟩ | ⟨fnf, hnone, hfnf, hdraft, hfits, rfl⟩
          · rcases Table.mem_save hf with rfl | ⟨hf, -⟩
            · rw [draftSettlement_employee] at hemployee
              exact absurd (show found.id = employee from holdid.symm.trans hemployee)
                (h.ne_of_settled hfound hactive hold hemployee)
            · exact hrow.settled f hf hemployee
          · rcases List.mem_append.mp hf with hf | hf
            · exact hrow.settled f hf hemployee
            · obtain rfl := List.mem_singleton.mp hf
              rw [draftSettlement_employee] at hemployee
              have hleaver : found.id = employee := hfnf.symm.trans hemployee
              have hasked : r.employee = employee := hid.symm.trans hleaver
              refine ⟨_, Table.mem_save_self hfound rfl, hleaver, hterminal, ?_, ?_, ?_⟩
              · rw [draftSettlement_lastWorkingDay]
              · rw [draftSettlement_lastWorkingDay]
                exact (hguarded hasked last hexit).2 found hfound hleaver joining
                  (h.dateOfJoining hfound hleaver)
              · rw [draftSettlement_lastWorkingDay]
                refine proratedSalary_le hgross hdraft (fun a ha howner happroved => ?_) hfits
                exact hassumed hasked a ha (howner.trans hleaver) happroved

/-- **A guarded request** keeps the invariant. -/
theorem leaverInv_step (h : LeaverInv employee gross joining st) (hgross : 0 ≤ gross) (op : StaffOp)
    (hassumed : Assumed employee gross st op) (hguarded : Guarded employee st op) :
    LeaverInv employee gross joining (staffStep st op) := by
  cases op with
  | payRuns op => exact leaverInv_payRuns h hgross hassumed hguarded
  | endEmployment r => exact leaverInv_endEmployment h hgross hassumed hguarded

/-- **Within the salary due**: every payslip uses a month before the last one, and the
settlement the last one. -/
theorem LeaverInv.paidOnce (h : LeaverInv employee gross joining st) (hgross : 0 ≤ gross) :
    LeaverPaidOnce employee gross st := by
  intro row hrow hid hstatus joining' hjoining last hlast
  obtain rfl : joining' = joining := by
    rw [h.dateOfJoining hrow hid] at hjoining
    exact (Option.some.inj hjoining).symm
  have hbudget : ∀ i ∈ serviceMonths joining' last,
      0 ≤ gross * serviceDays joining' last i / daysOfMonth i + 1 / 100 :=
    fun i _ => by positivity
  have hmonths : ∀ s ∈ st.payroll.subjects.payslipsOf employee,
      s.monthIndex ∈ serviceMonths joining' last ∧ s.monthIndex ≠ monthIndexOf last := by
    intro s hs
    have hlt := h.ended row hrow hid hstatus last hlast s hs
    exact ⟨Finset.mem_Icc.mpr ⟨(h.slips s hs).1, hlt.le⟩, hlt.ne⟩
  have hspent : ∀ s ∈ st.payroll.subjects.payslipsOf employee, s.snapshot.grossPay
      ≤ gross * serviceDays joining' last s.monthIndex / daysOfMonth s.monthIndex + 1 / 100 := by
    intro s hs
    rw [serviceDays_of_ne (hmonths s hs).2]
    exact (h.slips s hs).2
  have hdue : salaryDue gross joining' last + (serviceMonths joining' last).card / 100
      = ∑ i ∈ serviceMonths joining' last,
        (gross * serviceDays joining' last i / daysOfMonth i + 1 / 100) := by
    rw [Finset.sum_add_distrib, Finset.sum_const, nsmul_eq_mul, mul_one_div]
    rfl
  rw [hdue]
  unfold paidTo
  rcases h.uniqueSettlement.filter_cases employee with hnone | ⟨f, hf, hemployee, hone⟩
  · rw [show st.settlementOf employee = [] from hnone, List.map_nil, List.sum_nil, add_zero]
    exact Budget.sum_le h.months (fun s hs => (hmonths s hs).1) hspent hbudget
  · obtain ⟨row', hrow', hid', -, hexit, hbefore, hsettled⟩ := h.settled f hf hemployee
    obtain rfl := h.uniqueEmployee.eq_of_key hrow hrow' (hid.trans hid'.symm)
    obtain rfl : f.lastWorkingDay = last := Option.some.inj (hexit.symm.trans hlast)
    rw [show st.settlementOf employee = [f] from hone, List.map_singleton, List.sum_singleton]
    refine Budget.sum_add_le (Finset.mem_Icc.mpr ⟨?_, le_rfl⟩) h.months hmonths hspent ?_ hbudget
    · exact hbefore.elim le_of_lt (fun hsame => hsame.1.le)
    · rw [serviceDays_last hbefore]
      exact hsettled

end Step

/-- Nobody is paid before the first pay run. -/
theorem leaverInv_initial (stages : StageTable) (expenseClaims : List ExpenseClaim)
    {employees : List Employee} (hunique : Table.Unique Employee.id employees) {row : Employee}
    (hrow : row ∈ employees) {joining : Date} (hjoining : row.dateOfJoining = some joining)
    (gross : ℚ) : LeaverInv row.id gross joining (.initial stages expenseClaims employees) where
  ledger := ledger_initial stages expenseClaims
  owned _ hi := absurd hi List.not_mem_nil
  uniqueEmployee := hunique
  uniqueSettlement := List.nodup_nil
  joined := ⟨row, hrow, rfl, hjoining⟩
  items _ hp := absurd hp List.not_mem_nil
  months := List.nodup_nil
  slips _ hs := absurd hs List.not_mem_nil
  ended _ _ _ _ _ _ _ hs := absurd hs List.not_mem_nil
  settled _ hf := absurd hf List.not_mem_nil

/-- **A leaver is paid at most once** in every run of guarded requests. -/
theorem leaver_paid_once_of_guarded (stages : StageTable) (expenseClaims : List ExpenseClaim)
    {employees : List Employee} (hunique : Table.Unique Employee.id employees)
    {row : Employee} (hrow : row ∈ employees) {joining : Date}
    (hjoining : row.dateOfJoining = some joining) {gross : ℚ} (hgross : 0 ≤ gross)
    {ops : List StaffOp}
    (hassumed : Run.Along staffStep (Assumed row.id gross)
      (.initial stages expenseClaims employees) ops)
    (hguarded : Run.Along staffStep (Guarded row.id) (.initial stages expenseClaims employees) ops)
    (n : ℕ) : LeaverPaidOnce row.id gross
      (Run.exec staffStep (.initial stages expenseClaims employees) (ops.take n)) := by
  have hops := hassumed.and hguarded
  rw [← List.take_append_drop n ops, Run.along_append] at hops
  have hinv := Run.invariant_of_along
    (I := fun st : StaffState => LeaverInv row.id gross joining st)
    (fun _ op h hop => leaverInv_step h hgross op hop.1 hop.2)
    (leaverInv_initial stages expenseClaims hunique hrow hjoining gross) hops.1
  exact hinv.paidOnce hgross

/-! ## The last month

Employee 1 joins on the first of April with 50000 a month. -/

namespace Sample

def leaver : Employee := { employee with dateOfJoining := some april.start }

/-- The employee leaves on the fifteenth of a month. -/
def leaves (month : ℕ) (h : 1 ≤ month ∧ month ≤ 12) : StaffOp :=
  .endEmployment {
    employee := 1
    endStatus := .resigned
    dateOfExit := some {
      year := 2024, month := month, day := 15
      valid := ⟨by decide, by decide, h.1, h.2, by decide,
        (by decide : 15 ≤ 28).trans (one_le_daysInMonth _ _)⟩ }
    settlement := {
      assignments := [assignment 50000]
      encashable := []
      gratuityEligibilityYears := 5
      fnfTds := fun _ _ _ _ => 0 } }

/-- April is paid, and the employment ends in May. -/
def leavesInMay : List StaffOp := [
  .payRuns (.createPayrollRun 1 2024 4 .regular false), .payRuns (.calculatePayRun calculation 0),
  .payRuns (.finalizePayRun 0 true), leaves 5 (by decide)]

/-- April is calculated, and finalized after the employment ended in it. -/
def leavesInApril : List StaffOp := [
  .payRuns (.createPayrollRun 1 2024 4 .regular false), .payRuns (.calculatePayRun calculation 0),
  leaves 4 (by decide), .payRuns (.finalizePayRun 0 true)]

end Sample

open Sample

theorem leaver_paid_once_of_guarded_sample :
    LeaverPaidOnce leaver.id 50000
      (Run.exec staffStep (.initial Sample.stages [] [leaver]) (leavesInMay.take 4)) := by
  have hassumed : Run.Along staffStep (Assumed leaver.id 50000)
      (.initial Sample.stages [] [leaver]) leavesInMay := by decide +kernel
  have hguarded : Run.Along staffStep (Guarded leaver.id) (.initial Sample.stages [] [leaver])
      leavesInMay := by decide +kernel
  exact leaver_paid_once_of_guarded Sample.stages [] (by decide) List.mem_cons_self rfl
    (by norm_num) hassumed hguarded 4

/-- **The exit month is paid twice**: all of April by the pay run that was calculated
before, and its half by the settlement. -/
theorem exit_month_paid_twice :
    Run.Along staffStep (Assumed leaver.id 50000) (.initial Sample.stages [] [leaver]) leavesInApril
      ∧ ¬ LeaverPaidOnce leaver.id 50000
        (Run.exec staffStep (.initial Sample.stages [] [leaver]) leavesInApril) := by
  decide +kernel

end Payroll
