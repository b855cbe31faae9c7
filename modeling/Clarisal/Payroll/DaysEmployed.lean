import Clarisal.Lib.DateRange
import Clarisal.Payroll.LossOfPay
import Clarisal.Payroll.Gate

/-!
# Days employed

An item of a pay run pays the days of its month on which the employee is employed, from
joining to the exit date. A joining date is the first day paid when it is one of the month,
an exit date is the last one when it is one of the month, and in all other cases the days
run from the first of the month to its last. This is also done for a month that ends before
joining, or begins after the exit date: it is paid as a whole one (`paid_before_joining`).
Only the status keeps an employee out of a run, and an employee is active from the moment
the joining date is entered, which may lie ahead.

The days paid are the days employed exactly when the month is neither before joining nor
after the exit date, and then the pay follows them up to a paisa (`paysDaysEmployed_iff`).
-/

open Calendar Date

namespace Payroll

/-! ## Days of employment -/

/-- Joined by the day, and not gone before it. -/
def Employee.EmployedOn (e : Employee) (day : Date) : Prop :=
  (∀ joining ∈ e.dateOfJoining, joining ≤ day) ∧ ∀ exitDate ∈ e.dateOfExit, day ≤ exitDate

instance (e : Employee) (day : Date) : Decidable (e.EmployedOn day) :=
  inferInstanceAs (Decidable (_ ∧ _))

namespace PayPeriod

variable (p : PayPeriod) (e : Employee)

/-- **The days of the month** on which the employee is employed. -/
def daysEmployed : ℕ :=
  ((datesBetween p.start p.finish).filter (fun day => e.EmployedOn day)).length

/-- The month is neither before joining nor after the exit date. -/
def MeetsEmployment : Prop :=
  (∀ joining ∈ e.dateOfJoining, joining ≤ p.finish) ∧ ∀ exitDate ∈ e.dateOfExit, p.start ≤ exitDate

instance : Decidable (p.MeetsEmployment e) := inferInstanceAs (Decidable (_ ∧ _))

theorem eq_of_month {p q : PayPeriod} (hyear : p.year = q.year) (hmonth : p.month = q.month) :
    p = q := by
  cases p
  cases q
  cases hyear
  cases hmonth
  rfl

/-- The day of joining, the first of the month where there is none. -/
def firstDay : ℕ := e.dateOfJoining.elim p.start.toordinal toordinal

/-- The day of the exit, the last of the month where there is none. -/
def lastDay : ℕ := e.dateOfExit.elim p.finish.toordinal toordinal

variable {p e}

theorem meetsEmployment_iff : p.MeetsEmployment e
    ↔ p.firstDay e ≤ p.finish.toordinal ∧ p.start.toordinal ≤ p.lastDay e := by
  have hmonth := le_iff.mp p.start_le_finish
  unfold MeetsEmployment firstDay lastDay
  cases e.dateOfJoining <;> cases e.dateOfExit <;> simp [le_iff, hmonth]

/-- The days employed run from the later start to the earlier end. -/
theorem daysEmployed_eq : p.daysEmployed e
    = min p.finish.toordinal (p.lastDay e) + 1 - max p.start.toordinal (p.firstDay e) := by
  rw [← length_filter_datesBetween]
  refine congrArg List.length (List.filter_congr fun day hday => decide_eq_decide.mpr ?_)
  have hmonth := mem_datesBetween.mp hday
  rw [le_iff, le_iff] at hmonth
  unfold Employee.EmployedOn firstDay lastDay
  cases e.dateOfJoining <;> cases e.dateOfExit <;> simp [le_iff, hmonth]

end PayPeriod

namespace ItemInputs

variable (inp : ItemInputs)

/-- The paid period begins on the day of joining, but for a joining after the month. -/
theorem toordinal_paidPeriodStart : inp.paidPeriodStart.toordinal
    = if inp.period.firstDay inp.employee ≤ inp.period.finish.toordinal
      then max inp.period.start.toordinal (inp.period.firstDay inp.employee)
      else inp.period.start.toordinal := by
  unfold paidPeriodStart PayPeriod.firstDay
  cases inp.employee.dateOfJoining with
  | none => simp
  | some joining =>
    show toordinal (if inp.period.start.toordinal ≤ joining.toordinal
        ∧ joining.toordinal ≤ inp.period.finish.toordinal then joining else inp.period.start)
      = if joining.toordinal ≤ inp.period.finish.toordinal
        then max inp.period.start.toordinal joining.toordinal else inp.period.start.toordinal
    split_ifs <;> omega

/-- It ends on the day of the exit, but for an exit before the month. -/
theorem toordinal_paidPeriodEnd : inp.paidPeriodEnd.toordinal
    = if inp.period.start.toordinal ≤ inp.period.lastDay inp.employee
      then min inp.period.finish.toordinal (inp.period.lastDay inp.employee)
      else inp.period.finish.toordinal := by
  unfold paidPeriodEnd PayPeriod.lastDay
  cases inp.employee.dateOfExit with
  | none => simp
  | some exitDate =>
    show toordinal (if inp.period.start.toordinal ≤ exitDate.toordinal
        ∧ exitDate.toordinal < inp.period.finish.toordinal then exitDate else inp.period.finish)
      = if inp.period.start.toordinal ≤ exitDate.toordinal
        then min inp.period.finish.toordinal exitDate.toordinal else inp.period.finish.toordinal
    split_ifs <;> omega

/-- **The days paid are the days employed** exactly when the month is neither before joining
nor after the exit date. -/
theorem paidDays_eq_daysEmployed_iff : inp.paidDays = inp.period.daysEmployed inp.employee
    ↔ inp.period.MeetsEmployment inp.employee := by
  have hmonth := le_iff.mp inp.period.start_le_finish
  rw [PayPeriod.daysEmployed_eq, PayPeriod.meetsEmployment_iff, paidDays,
    toordinal_paidPeriodStart, toordinal_paidPeriodEnd]
  -- outside the month the days employed are none, and one is paid at least
  split_ifs <;> omega

end ItemInputs

/-! ## What an item pays -/

/-- What an item pays besides arrears and reimbursements. Arrears are added before the month
is pro-rated, so the gross pay has them for the days paid. -/
def regularPayOf (amounts : ItemAmounts) (snapshot : ItemSnapshot) : ℚ :=
  salaryOf amounts snapshot
    - max snapshot.arrears 0 * snapshot.paidDays / snapshot.totalDaysInPeriod

/-- **The pay follows the days employed**: the days paid are these, the monthly gross is paid
for them up to a paisa, and nothing is paid for a month that ends before joining. -/
structure PaysDaysEmployed (p : PayPeriod) (e : Employee) (monthlyGross : ℚ)
    (amounts : ItemAmounts) (snapshot : ItemSnapshot) : Prop where
  paidDays : snapshot.paidDays = p.daysEmployed e
  regularPay : |regularPayOf amounts snapshot - monthlyGross * snapshot.paidDays / p.totalDays|
    ≤ 1 / 100
  beforeJoining : ∀ joining ∈ e.dateOfJoining, p.finish < joining →
    regularPayOf amounts snapshot = 0

theorem CompensationAssignment.salary_nonneg {a : CompensationAssignment}
    (h : ∀ line ∈ a.lines, 0 ≤ line.monthlyAmount) : 0 ≤ a.salary := by
  refine List.sum_nonneg fun x hx => ?_
  obtain ⟨line, hline, rfl⟩ := List.mem_map.mp hx
  unfold CompensationAssignmentLine.counted
  split
  · exact normalizeDecimal_nonneg (h line hline)
  · exact le_rfl

namespace ItemInputs

variable {inp : ItemInputs} {amounts : ItemAmounts} {snapshot : ItemSnapshot}

/-- **A ready item** pays the monthly gross for its days paid, whatever these are. -/
theorem abs_regularPayOf_sub_le (h : calculateItem inp = .ok (.ready amounts snapshot))
    (hsalary : 0 ≤ inp.assignment.salary) :
    |regularPayOf amounts snapshot
      - inp.assignment.salary * snapshot.paidDays / inp.period.totalDays| ≤ 1 / 100 := by
  obtain ⟨hpays, -⟩ := salaryOf_eq_prorate h
  have hcolumn := salaryOf_le h
  obtain ⟨window, pt, ptBasis, -, -, -, rfl, -⟩ := calculateItem_eq_ready h
  set gross := inp.monthTotal .earnings
  have hsplit : gross = inp.assignment.salary + max inp.arrears 0 :=
    inp.monthTotal_earnings_eq
  have hpositive : 0 ≤ gross := hsplit ▸ add_nonneg hsalary (le_max_right _ _)
  rw [hpays] at hcolumn
  calc |regularPayOf amounts _ - inp.assignment.salary * inp.paidDays / inp.period.totalDays|
      = |inp.prorate gross - gross * inp.paidDays / inp.period.totalDays| := by
        rw [regularPayOf, hpays, hsplit]
        congr 1
        show _ - max inp.arrears 0 * (inp.paidDays : ℚ) / (inp.period.totalDays : ℚ) - _ = _
        ring
    _ ≤ 1 / 100 := abs_prorate_sub_le hpositive hcolumn

/-- **A ready item follows the days employed** exactly when its month is neither before
joining nor after the exit date. -/
theorem paysDaysEmployed_ready_iff (h : calculateItem inp = .ok (.ready amounts snapshot))
    (hsalary : 0 ≤ inp.assignment.salary) :
    PaysDaysEmployed inp.period inp.employee inp.assignment.salary amounts snapshot
      ↔ inp.period.MeetsEmployment inp.employee := by
  obtain ⟨-, -, -, hdays, -⟩ := salaryOf_eq_prorate h
  rw [← inp.paidDays_eq_daysEmployed_iff, ← hdays]
  constructor
  · exact PaysDaysEmployed.paidDays
  · intro hright
    have hmeets := inp.paidDays_eq_daysEmployed_iff.mp (hdays ▸ hright)
    exact {
      paidDays := hright
      regularPay := abs_regularPayOf_sub_le h hsalary
      beforeJoining := fun joining hjoining hlater =>
        absurd (hmeets.1 joining hjoining) (not_le_of_gt hlater) }

end ItemInputs

/-! ## The items of a run -/

section Run

variable {inputs : CalculationInputs} {payRun : PayrollRun} {t t' : PayrollTables}

/-- **The pay of a calculated run follows the days employed** exactly where its month is
neither before joining nor after the exit date: for the ready item of an employee, on the
assignment in force. -/
theorem paysDaysEmployed_iff (hok : inputs.calculateWrites payRun t = .ok t') {i : PayrollRunItem}
    (hi : i ∈ t'.readyItems payRun.id) (hunique : Table.Unique Employee.id inputs.employees)
    {employee : Employee} (hemployee : employee ∈ inputs.employees)
    (hid : employee.id = i.employee) {period : PayPeriod}
    (hperiod : PayPeriod.ofYearMonth payRun.periodYear payRun.periodMonth = some period)
    {assignment : CompensationAssignment}
    (hassignment : inputs.assignmentFor period employee.id = some assignment)
    (hamounts : ∀ line ∈ assignment.lines, 0 ≤ line.monthlyAmount) :
    PaysDaysEmployed period employee assignment.salary i.amounts i.snapshot
      ↔ period.MeetsEmployment employee := by
  obtain ⟨period', employee', stateCode, assignment', taxSlabSet, claims, t₀, hemployee', -, -,
    hid', hyear, hmonth, hassignment', hcalc⟩ := exists_itemInputs hok hi
  obtain rfl := hunique.eq_of_key hemployee hemployee' (hid.trans hid'.symm)
  obtain ⟨hyear', hmonth'⟩ := PayPeriod.ofYearMonth_eq_some hperiod
  obtain rfl := PayPeriod.eq_of_month (hyear.trans hyear'.symm) (hmonth.trans hmonth'.symm)
  obtain rfl := Option.some.inj (hassignment'.symm.trans hassignment)
  exact ItemInputs.paysDaysEmployed_ready_iff hcalc
    (CompensationAssignment.salary_nonneg hamounts)

end Run

/-! ## April 2024

Employee 1 has 50000 a month. One joins in the middle of April, another on 6 May. -/

namespace Sample

def newcomer : Employee := { employee with dateOfJoining := some ⟨2024, 5, 6, by decide⟩ }

def draftOfApril : PayrollTables :=
  createPayrollRun 1 2024 4 .regular false (.initial [])

def runOfApril : PayrollRun :=
  { id := 0, organisation := 1, periodYear := 2024, periodMonth := 4, runType := .regular,
    useAttendanceInputs := false, status := .draft, approvalRun := none }

def calculationFor (e : Employee) : CalculationInputs := { calculation with employees := [e] }

/-- April, calculated for one employee. -/
def calculatedFor (e : Employee) : PayrollTables :=
  match (calculationFor e).calculateWrites runOfApril draftOfApril with
  | .ok t => t
  | .error _ => draftOfApril

end Sample

open Sample

/-- Fifteen days of April are paid. -/
theorem paysDaysEmployed_iff_sample :
    (calculatedFor joiner).readyItems runOfApril.id ≠ []
      ∧ ∀ i ∈ (calculatedFor joiner).readyItems runOfApril.id,
        PaysDaysEmployed april joiner (assignment 50000).salary i.amounts i.snapshot := by
  have hok : (calculationFor joiner).calculateWrites runOfApril draftOfApril
      = .ok (calculatedFor joiner) := by decide +kernel
  have hitems : (calculatedFor joiner).readyItems runOfApril.id ≠ []
      ∧ ∀ i ∈ (calculatedFor joiner).readyItems runOfApril.id, joiner.id = i.employee := by
    decide +kernel
  refine ⟨hitems.1, fun i hi => ?_⟩
  exact (paysDaysEmployed_iff hok hi (List.nodup_singleton _) List.mem_cons_self (hitems.2 i hi)
    rfl (by decide +kernel) (by decide +kernel)).mpr (by decide +kernel)

/-- **A whole month before joining** is paid to the one who joins in May. -/
theorem paid_before_joining :
    (calculationFor newcomer).calculateWrites runOfApril draftOfApril
        = .ok (calculatedFor newcomer)
      ∧ ∃ i ∈ (calculatedFor newcomer).readyItems runOfApril.id,
        i.snapshot.paidDays = 30 ∧ i.amounts.grossPay = 50000
        ∧ ¬ PaysDaysEmployed april newcomer (assignment 50000).salary i.amounts i.snapshot := by
  have hitems : ∃ i ∈ (calculatedFor newcomer).readyItems runOfApril.id,
      i.snapshot.paidDays = 30 ∧ i.amounts.grossPay = 50000 := by decide +kernel
  have hnone : april.daysEmployed newcomer = 0 := by decide +kernel
  obtain ⟨i, hi, hdays, hgross⟩ := hitems
  refine ⟨by decide +kernel, i, hi, hdays, hgross, fun hpays => ?_⟩
  have hzero := hpays.paidDays
  rw [hdays, hnone] at hzero
  cases hzero

end Payroll
