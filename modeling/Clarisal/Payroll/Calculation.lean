import Clarisal.Payroll.Statutory

/-!
# Calculating one employee

The body of the employee loop of `calculate_pay_run`, step by step. Lines and
totals are built side by side: `Working` holds both, and each step that adds
to a total says which lines it adds. Pro-ration comes after all of them and
acts on the totals alone.
-/

open Calendar

namespace Payroll

/-! ## The pay period -/

/-- **A month of the calendar.** -/
structure PayPeriod where
  year : ℕ
  month : ℕ
  valid : 1 ≤ year ∧ year ≤ 9999 ∧ 1 ≤ month ∧ month ≤ 12

namespace PayPeriod

def ofYearMonth (year month : ℕ) : Option PayPeriod :=
  if h : 1 ≤ year ∧ year ≤ 9999 ∧ 1 ≤ month ∧ month ≤ 12 then some ⟨year, month, h⟩ else none

theorem ofYearMonth_eq_some {year month : ℕ} {p : PayPeriod}
    (h : ofYearMonth year month = some p) : p.year = year ∧ p.month = month := by
  unfold ofYearMonth at h
  split at h
  · obtain rfl := Option.some.inj h
    exact ⟨rfl, rfl⟩
  · cases h

def totalDays (p : PayPeriod) : ℕ := daysInMonth p.year p.month

def start (p : PayPeriod) : Date where
  year := p.year
  month := p.month
  day := 1
  valid := by
    obtain ⟨h₁, h₂, h₃, h₄⟩ := p.valid
    have := one_le_daysInMonth p.year p.month
    omega

def finish (p : PayPeriod) : Date where
  year := p.year
  month := p.month
  day := p.totalDays
  valid := by
    obtain ⟨h₁, h₂, h₃, h₄⟩ := p.valid
    have := one_le_daysInMonth p.year p.month
    unfold totalDays
    omega

/-- The first and the last date are as far apart as the month is long. -/
theorem toordinal_finish (p : PayPeriod) :
    p.finish.toordinal + 1 = p.start.toordinal + p.totalDays := by
  unfold Date.toordinal finish start
  dsimp only
  omega

/-- The dates of a month are in order. -/
theorem start_le_finish (p : PayPeriod) : p.start ≤ p.finish := by
  rw [Date.le_iff]
  have hdays : 28 ≤ p.totalDays := one_le_daysInMonth p.year p.month
  have hfinish := p.toordinal_finish
  omega

/-- The year the fiscal year of a period starts in. -/
def fiscalYear (p : PayPeriod) : ℕ := if 4 ≤ p.month then p.year else p.year - 1

end PayPeriod

/-- The months to the end of March, the month itself included. -/
def monthsRemainingInFiscalYear (periodMonth : ℕ) : ℕ :=
  if periodMonth ≤ 3 then 4 - periodMonth else 16 - periodMonth

/-- **What the calculation of one employee reads.** -/
structure ItemInputs where
  period : PayPeriod
  useAttendanceInputs : Bool
  employee : Employee
  employeeState : String
  assignment : CompensationAssignment
  taxSlabSet : PayrollTaxSlabSet
  /-- the amounts of the employee's arrears of the run not yet on a payslip -/
  arrearsAmounts : List ℚ
  /-- the employee's payslips -/
  payslips : List Payslip
  professionalTaxRule : Option ProfessionalTaxRule
  labourWelfareFundRule : Option LabourWelfareFundRule
  /-- paid fraction and overtime minutes, when the attendance service answers -/
  attendanceSummary : Option (ℚ × ℕ)
  leaveOnlyLopDays : Option ℚ
  explicitLwpDays : Option ℚ
  /-- the employee's declarations for the fiscal year, added up by section -/
  declaredTotals : InvestmentSection → ℚ
  expenseClaims : List ExpenseClaim

/-- **The totals and lines of an item while it is calculated.** -/
structure Working where
  grossPay : ℚ := 0
  employeeDeductions : ℚ := 0
  employerContributions : ℚ := 0
  taxableMonthly : ℚ := 0
  basicPay : ℚ := 0
  hasPfEmployeeLine : Bool := false
  hasPfEmployerLine : Bool := false
  lines : List SnapshotLine := []
deriving DecidableEq, Repr

/-! ## Step 1: the assignment's lines and the arrears -/

/-- The snapshot of an assignment line. -/
def CompensationAssignmentLine.snapshot (line : CompensationAssignmentLine) : SnapshotLine :=
  { componentCode := line.componentCode, componentType := line.componentType,
    monthlyAmount := normalizeDecimal line.monthlyAmount, isTaxable := line.isTaxable,
    autoCalculated := false }

/-- A provident-fund line, by its code. -/
def CompensationAssignmentLine.isPf (line : CompensationAssignmentLine) : Bool :=
  line.componentCode = "PF_EMPLOYEE" ∨ line.componentCode = "PF_EMPLOYER"

/-- One line of the assignment. A provident-fund line is listed with its
template amount and not counted; Step 2 replaces it. -/
def collectLine (w : Working) (line : CompensationAssignmentLine) : Working :=
  let amount := normalizeDecimal line.monthlyAmount
  let w := { w with
    basicPay := if line.componentCode = "BASIC" ∧ line.componentType = PayrollComponentType.earning
      then amount else w.basicPay
    lines := w.lines ++ [line.snapshot] }
  if line.componentCode = "PF_EMPLOYEE" then { w with hasPfEmployeeLine := true }
  else if line.componentCode = "PF_EMPLOYER" then { w with hasPfEmployerLine := true }
  else
    match line.componentType with
    | .earning | .reimbursement =>
      { w with
        grossPay := w.grossPay + amount
        taxableMonthly := if line.isTaxable then w.taxableMonthly + amount
          else w.taxableMonthly }
    | .employeeDeduction => { w with employeeDeductions := w.employeeDeductions + amount }
    | .employerContribution =>
      { w with employerContributions := w.employerContributions + amount }

/-- Arrears enter the pay when they are positive. -/
def addArrears (arrears : ℚ) (w : Working) : Working :=
  if 0 < arrears then
    { w with
      grossPay := normalizeDecimal (w.grossPay + arrears)
      taxableMonthly := normalizeDecimal (w.taxableMonthly + arrears) }
  else w

/-! ## Step 2: the provident fund -/

/-- A computed line. -/
def autoLine (code : String) (type : PayrollComponentType) (amount : ℚ) : SnapshotLine :=
  { componentCode := code, componentType := type, monthlyAmount := amount, isTaxable := false,
    autoCalculated := true }

/-- A provident-fund line of the template takes the computed amount. -/
def replacePfLine (pf : EpfContributions) (line : SnapshotLine) : SnapshotLine :=
  if line.componentCode = "PF_EMPLOYEE" then
    { line with monthlyAmount := pf.employee, autoCalculated := true }
  else if line.componentCode = "PF_EMPLOYER" then
    { line with monthlyAmount := pf.employer, autoCalculated := true }
  else line

/-- The provident fund, when there is a basic pay. -/
def applyProvidentFund (pf : EpfContributions) (w : Working) : Working :=
  if 0 < w.basicPay then
    { w with
      employeeDeductions := w.employeeDeductions + pf.employee
      employerContributions := w.employerContributions + pf.employer
      lines := w.lines.map (replacePfLine pf)
        ++ (if w.hasPfEmployeeLine then []
          else [autoLine "PF_EMPLOYEE" .employeeDeduction pf.employee])
        ++ (if w.hasPfEmployerLine then []
          else [autoLine "PF_EMPLOYER" .employerContribution pf.employer]) }
  else w

/-! ## Steps 3 to 4A: levies -/

/-- A levy shared by employee and employer, with a line for each share. -/
def applyLevy (employeeCode employerCode : String) (shares : Option (ℚ × ℚ)) (w : Working) :
    Working :=
  match shares with
  | none => w
  | some (employee, employer) =>
    { w with
      employeeDeductions := w.employeeDeductions + employee
      employerContributions := w.employerContributions + employer
      lines := w.lines ++ [autoLine employeeCode .employeeDeduction employee,
        autoLine employerCode .employerContribution employer] }

def applyEsi (shares : Option (ℚ × ℚ)) (w : Working) : Working :=
  applyLevy "ESI_EMPLOYEE" "ESI_EMPLOYER" shares w

def applyLabourWelfareFund (shares : Option (ℚ × ℚ)) (w : Working) : Working :=
  applyLevy "LWF_EMPLOYEE" "LWF_EMPLOYER" shares w

def applyProfessionalTax (ptMonthly : ℚ) (w : Working) : Working :=
  if 0 < ptMonthly then
    { w with
      employeeDeductions := w.employeeDeductions + ptMonthly
      lines := w.lines ++ [autoLine "PROFESSIONAL_TAX" .employeeDeduction ptMonthly] }
  else w

/-- Covered by the wage, or by a payslip of the same window that was. -/
def resolveEsiEligibility (window : Date × Date) (payslips : List Payslip) (grossPay : ℚ) :
    ESIEligibilityMode :=
  if normalizeDecimal grossPay ≤ esiWageCeiling then .direct
  else if payslips.any (fun s =>
      s.esiContributionPeriod = some window ∧ s.esiEligibilityMode ≠ .none) then .continued
  else .none

def genderPriority : Option GenderChoice → List ProfessionalTaxGender
  | some .female => [.female, .any, .male]
  | some .male => [.male, .any]
  | _ => [.any, .male, .female]

/-- The tax and the basis it was read off at. -/
def resolveProfessionalTaxAmount (gender : Option GenderChoice) (stateCode : String)
    (rule : Option ProfessionalTaxRule) (periodMonth : ℕ) (grossPay : ℚ) :
    Except String (ℚ × ℚ) :=
  match rule with
  | none => .error
      s!"No active professional tax rule is configured for state {stateCode}."
  | some rule =>
    let basis := onIncomeBasis (normalizeDecimal grossPay) rule.incomeBasis
    let slabs := rule.slabs.filter (fun slab => appliesIn slab.applicableMonths periodMonth)
    let slab := (genderPriority gender).findSome? (fun g => slabs.find? (fun slab =>
      slab.gender = g ∧ slab.minIncome ≤ basis ∧ ∀ m ∈ slab.maxIncome, basis ≤ m))
    .ok (slab.elim 0 (fun slab => normalizeDecimal slab.deductionAmount), basis)

/-- The shares of the fund and the wage they were read off at. -/
def resolveLabourWelfareFundAmount (rule : Option LabourWelfareFundRule) (periodMonth : ℕ)
    (grossPay : ℚ) : Option (ℚ × ℚ) × ℚ :=
  let gross := normalizeDecimal grossPay
  match rule with
  | none => (calculateLabourWelfareFund periodMonth gross [], gross)
  | some rule =>
    let basis := onIncomeBasis gross rule.wageBasis
    (calculateLabourWelfareFund periodMonth basis rule.contributions, basis)

/-! ## Step 8: reimbursements -/

def ExpenseClaim.totalAmount (claim : ExpenseClaim) : ℚ := normalizeDecimal claim.lineAmounts.sum

/-- A line for each claim with a positive amount, and their total. -/
def buildPayrollReimbursementLines (claims : List ExpenseClaim) : List SnapshotLine × ℚ :=
  let payable := claims.filter (fun claim => 0 < claim.totalAmount)
  (payable.map (fun claim =>
      { autoLine s!"EXPENSE_{claim.id}" .reimbursement claim.totalAmount with
        sourceId := some claim.id }),
    normalizeDecimal (payable.map ExpenseClaim.totalAmount).sum)

/-- The yearly caps of the sections that lower the taxable income. -/
def sectionLimits : List (InvestmentSection × ℚ) :=
  [(.section80C, 150000), (.section80D, 50000), (.section80TTA, 10000)]

namespace ItemInputs

variable (inp : ItemInputs)

/-! ## The steps in order -/

/-- `get_employee_arrears_for_run`. -/
def arrears : ℚ := normalizeDecimal inp.arrearsAmounts.sum

/-- After the assignment's lines. -/
def collected : Working := inp.assignment.lines.foldl collectLine {}

/-- After the arrears: gross and basic pay as the levies see them. -/
def earned : Working := addArrears inp.arrears inp.collected

def pfIsOptedOut : Bool :=
  inp.assignment.isPfOptedOut ∧ pfWageCeiling < inp.earned.basicPay
    ∧ inp.employee.dateOfJoining.isSome

def pfEmployeeRatePercent : ℚ :=
  if inp.assignment.isPfOptedOut then 0 else inp.assignment.vpfRatePercent

def providentFund : EpfContributions :=
  if 0 < inp.earned.basicPay then
    calculateEpfContributions inp.earned.basicPay
      (if inp.pfIsOptedOut then 0 else inp.pfEmployeeRatePercent / 100)
      (if inp.pfIsOptedOut then 0 else pfRate) pfWageCeiling
  else { eligibleBasic := 0, employee := 0, employer := 0, epsEmployer := 0, epfEmployer := 0 }

def esiMode (window : Date × Date) : ESIEligibilityMode :=
  resolveEsiEligibility window inp.payslips inp.earned.grossPay

def esi (window : Date × Date) : Option (ℚ × ℚ) :=
  calculateEsiContributions inp.earned.grossPay (inp.esiMode window = .continued)

def professionalTax : Except String (ℚ × ℚ) :=
  resolveProfessionalTaxAmount inp.employee.gender inp.employeeState inp.professionalTaxRule
    inp.period.month inp.earned.grossPay

def labourWelfareFund : Option (ℚ × ℚ) × ℚ :=
  resolveLabourWelfareFundAmount inp.labourWelfareFundRule inp.period.month inp.earned.grossPay

/-- **After Steps 1 to 4A**: the totals of a full month, and the lines. -/
def fullMonth (window : Date × Date) (ptMonthly : ℚ) : Working :=
  applyLabourWelfareFund inp.labourWelfareFund.1
    (applyProfessionalTax ptMonthly
      (applyEsi (inp.esi window) (applyProvidentFund inp.providentFund inp.earned)))

/-! ### Step 5: pro-ration -/

def paidPeriodStart : Date :=
  match inp.employee.dateOfJoining with
  | some joining =>
    if inp.period.start ≤ joining ∧ joining ≤ inp.period.finish then joining
    else inp.period.start
  | none => inp.period.start

def paidPeriodEnd : Date :=
  match inp.employee.dateOfExit with
  | some exitDate =>
    if inp.period.start ≤ exitDate ∧ exitDate < inp.period.finish then exitDate
    else inp.period.finish
  | none => inp.period.finish

def paidDays : ℕ :=
  ((inp.paidPeriodEnd.toordinal : ℤ) - inp.paidPeriodStart.toordinal + 1).toNat

/-- Joined or left within the month. -/
abbrev IsPartialMonth : Prop := inp.paidDays < inp.period.totalDays

def proRateFactor : ℚ :=
  if inp.IsPartialMonth then Decimal.context 28 ((inp.paidDays : ℚ) / inp.period.totalDays) else 1

/-- An amount for the days paid. -/
def prorate (amount : ℚ) : ℚ :=
  if inp.IsPartialMonth then normalizeDecimal (Decimal.context 28 (amount * inp.proRateFactor))
  else amount

/-! ### Step 6: loss of pay -/

def activePeriodStart : Date :=
  match inp.employee.dateOfJoining with
  | some joining => if inp.period.start < joining then joining else inp.period.start
  | none => inp.period.start

def activePeriodEnd : Date :=
  match inp.employee.dateOfExit with
  | some exitDate => if exitDate < inp.period.finish then exitDate else inp.period.finish
  | none => inp.period.finish

def attendancePaidDays : ℚ :=
  if inp.useAttendanceInputs ∧ inp.activePeriodStart ≤ inp.activePeriodEnd then
    inp.attendanceSummary.elim (inp.paidDays : ℚ) Prod.fst
  else inp.paidDays

def policyLwpDays : ℚ :=
  normalizeDecimal (normalizeDecimal (inp.leaveOnlyLopDays.getD 0)
    + normalizeDecimal (inp.explicitLwpDays.getD 0))

def lopDays : ℚ :=
  max inp.policyLwpDays
    (if inp.useAttendanceInputs then max 0 (inp.paidDays - inp.attendancePaidDays) else 0)

/-- The deduction for the days lost, at most the gross pay. -/
def lopDeduction (grossPay : ℚ) : ℚ :=
  if 0 < inp.lopDays ∧ 0 < grossPay then
    let dailyGross := normalizeDecimal (Decimal.context 28 (grossPay / inp.period.totalDays))
    min (normalizeDecimal (dailyGross * inp.lopDays)) grossPay
  else 0

/-! ### Step 7: income tax -/

def totalDeclaredDeductions : ℚ :=
  (sectionLimits.map (fun s => min (normalizeDecimal (inp.declaredTotals s.1)) s.2)).sum

def calculateTaxableIncomeWithInvestments (annualGross : ℚ) : ℚ :=
  match inp.assignment.taxRegime with
  | .new => calculateTaxableIncomeAfterStandardDeduction annualGross
  | .old => normalizeDecimal (max 0
      (calculateTaxableIncomeAfterStandardDeduction annualGross - inp.totalDeclaredDeductions))

def monthsRemaining : ℕ := monthsRemainingInFiscalYear inp.period.month

/-- **The annual tax on an annual gross**, by the employee's regime and
declarations. -/
def annualTax (annualGross : ℚ) : TaxBreakdown :=
  calculateIncomeTaxWithRebate (inp.calculateTaxableIncomeWithInvestments annualGross)
    inp.taxSlabSet (surchargeTiersForRegime inp.assignment.taxRegime)
    (getRebate87aParams inp.period.fiscalYear inp.assignment.taxRegime)

/-- The gross projected on the rest of the fiscal year. -/
def annualTaxableGross (taxableMonthly : ℚ) : ℚ :=
  normalizeDecimal (taxableMonthly * inp.monthsRemaining)

def incomeTax (taxableMonthly : ℚ) : ℚ :=
  normalizeDecimal (Decimal.context 28
    ((inp.annualTax (inp.annualTaxableGross taxableMonthly)).annualTax / inp.monthsRemaining))

def taxWorking (taxableMonthly : ℚ) : TaxWorking :=
  let annualGross := inp.annualTaxableGross taxableMonthly
  let afterSd := inp.calculateTaxableIncomeWithInvestments annualGross
  let breakdown := inp.annualTax annualGross
  { annualTaxableGross := annualGross
    annualInvestmentDeductions := normalizeDecimal
      (max 0 (calculateTaxableIncomeAfterStandardDeduction annualGross - afterSd))
    annualTaxableAfterSd := afterSd
    annualTaxBeforeRebate := breakdown.taxBeforeRebate
    annualRebate87a := breakdown.rebate87a
    annualSurcharge := breakdown.surcharge
    annualTaxBeforeCess := breakdown.taxAfterRebate
    annualCess := breakdown.cess
    annualTaxTotal := breakdown.annualTax }

/-! ### Step 8: final totals -/

/-- The claims' total. -/
def reimbursement : ℚ := (buildPayrollReimbursementLines inp.expenseClaims).2

/-- The lines of the item. -/
def finalLines (w : Working) : List SnapshotLine :=
  if 0 < inp.reimbursement then w.lines ++ (buildPayrollReimbursementLines inp.expenseClaims).1
  else w.lines

/-- The gross pay of the item. -/
def finalGross (w : Working) : ℚ :=
  if 0 < inp.reimbursement then normalizeDecimal (inp.prorate w.grossPay + inp.reimbursement)
  else inp.prorate w.grossPay

def finalAmounts (w : Working) : ItemAmounts :=
  let employeeDeductions := inp.prorate w.employeeDeductions
  let incomeTax := inp.incomeTax (inp.prorate w.taxableMonthly)
  let totalDeductions := normalizeDecimal
    (employeeDeductions + incomeTax + inp.lopDeduction (inp.prorate w.grossPay))
  { grossPay := normalizeDecimal (inp.finalGross w)
    employeeDeductions := normalizeDecimal employeeDeductions
    employerContributions := normalizeDecimal (inp.prorate w.employerContributions)
    epsEmployer := normalizeDecimal inp.providentFund.epsEmployer
    epfEmployer := normalizeDecimal inp.providentFund.epfEmployer
    incomeTax := incomeTax
    totalDeductions := totalDeductions
    netPay := ensureNonNegativeNetPay (inp.finalGross w - totalDeductions) }

def finalSnapshot (window : Date × Date) (pt ptBasis : ℚ) (w : Working) : ItemSnapshot :=
  let share (shares : Option (ℚ × ℚ)) (f : ℚ × ℚ → ℚ) : ℚ := inp.prorate (shares.elim 0 f)
  { lines := inp.finalLines w
    arrears := inp.arrears
    expenseReimbursements := inp.reimbursement
    paidDays := inp.paidDays
    totalDaysInPeriod := inp.period.totalDays
    proRateFactor := inp.proRateFactor
    autoPf := inp.prorate inp.providentFund.employee
    pfEmployer := inp.providentFund.employer
    epsEmployer := inp.providentFund.epsEmployer
    epfEmployer := inp.providentFund.epfEmployer
    pfEligibleBasic := inp.providentFund.eligibleBasic
    pfEmployeeRatePercent := inp.pfEmployeeRatePercent
    pfIsOptedOut := inp.pfIsOptedOut
    esiEmployee := share (inp.esi window) Prod.fst
    esiEmployer := share (inp.esi window) Prod.snd
    esiEligibilityMode := inp.esiMode window
    esiContributionPeriod := if inp.esiMode window = .none then none else some window
    ptMonthly := inp.prorate pt
    ptTaxableBasis := ptBasis
    lwfEmployee := share inp.labourWelfareFund.1 Prod.fst
    lwfEmployer := share inp.labourWelfareFund.1 Prod.snd
    lwfWageBasis := inp.labourWelfareFund.2
    attendancePaidDays := inp.attendancePaidDays
    lopDays := inp.lopDays
    lopDeduction := inp.lopDeduction (inp.prorate w.grossPay)
    tax := inp.taxWorking (inp.prorate w.taxableMonthly) }

end ItemInputs

/-- What the calculation of an employee makes of its item. -/
inductive ItemOutcome
  | ready (amounts : ItemAmounts) (snapshot : ItemSnapshot)
  | exception (message : String)
deriving DecidableEq, Repr

/-- Every amount fits its column of twelve digits. -/
def ItemAmounts.fits (a : ItemAmounts) : Bool :=
  [a.grossPay, a.employeeDeductions, a.employerContributions, a.epsEmployer, a.epfEmployer,
    a.incomeTax, a.totalDeductions, a.netPay].all (fun x => |x| < 10 ^ 10)

theorem ItemAmounts.abs_grossPay_lt {a : ItemAmounts} (h : a.fits = true) :
    |a.grossPay| < 10 ^ 10 :=
  of_decide_eq_true (List.all_eq_true.mp h _ List.mem_cons_self)

/-- **The item of one employee.** A missing professional-tax rule makes it an
exception; an amount too large to store fails the whole calculation. -/
def calculateItem (inp : ItemInputs) : Except String ItemOutcome :=
  match getEsiContributionPeriodBounds inp.period.year inp.period.month with
  | none => .error "year is out of range"
  | some window =>
    match inp.professionalTax with
    | .error message => .ok (.exception message)
    | .ok (pt, ptBasis) =>
      if (inp.finalAmounts (inp.fullMonth window pt)).fits then
        .ok (.ready (inp.finalAmounts (inp.fullMonth window pt))
          (inp.finalSnapshot window pt ptBasis (inp.fullMonth window pt)))
      else .error "numeric field overflow"

/-- **A ready item** holds the final amounts and the final snapshot, and its
amounts fit their columns. -/
theorem calculateItem_eq_ready {inp : ItemInputs} {amounts : ItemAmounts}
    {snapshot : ItemSnapshot} (h : calculateItem inp = .ok (.ready amounts snapshot)) :
    ∃ window pt ptBasis,
      getEsiContributionPeriodBounds inp.period.year inp.period.month = some window
        ∧ inp.professionalTax = .ok (pt, ptBasis)
        ∧ amounts = inp.finalAmounts (inp.fullMonth window pt)
        ∧ snapshot = inp.finalSnapshot window pt ptBasis (inp.fullMonth window pt)
        ∧ amounts.fits := by
  unfold calculateItem at h
  split at h
  · cases h
  · next window hwindow =>
    split at h
    · cases h
    · next pt ptBasis hpt =>
      split at h
      · next hfits =>
        obtain ⟨rfl, rfl⟩ := ItemOutcome.ready.inj (Except.ok.inj h)
        exact ⟨window, pt, ptBasis, hwindow, hpt, rfl, rfl, hfits⟩
      · cases h

/-! ## A concrete employee

Employee 1 of organisation 1, in employment all along, with a basic pay and
the slabs of the new regime for 2024. -/

namespace Sample

def employee : Employee :=
  { id := 1, organisation := 1, status := .active, dateOfJoining := none, dateOfExit := none,
    gender := none, officeStateCode := none }

def taxSlabSet : PayrollTaxSlabSet where
  slabs := [
    { minIncome := 0, maxIncome := some 300000, ratePercent := 0 },
    { minIncome := 300000, maxIncome := some 700000, ratePercent := 5 },
    { minIncome := 700000, maxIncome := some 1000000, ratePercent := 10 },
    { minIncome := 1000000, maxIncome := some 1200000, ratePercent := 15 },
    { minIncome := 1200000, maxIncome := some 1500000, ratePercent := 20 },
    { minIncome := 1500000, maxIncome := none, ratePercent := 30 }]
  ordered := by decide +kernel

/-- A monthly basic pay and nothing else. -/
def assignment (basic : ℚ) : CompensationAssignment :=
  { employee := 1, effectiveFrom := ⟨2024, 1, 1, by decide⟩, isApproved := true,
    taxRegime := .new, isPfOptedOut := false, vpfRatePercent := 12,
    lines := [
      { componentCode := "BASIC", componentType := .earning, monthlyAmount := basic,
        isTaxable := true }] }

/-- No professional tax. -/
def professionalTaxRule : ProfessionalTaxRule := { incomeBasis := .monthly, slabs := [] }

def april : PayPeriod := ⟨2024, 4, by decide⟩

/-- Nothing but the assignment. -/
def inputs (period : PayPeriod) (employee : Employee) (assignment : CompensationAssignment) :
    ItemInputs where
  period := period
  useAttendanceInputs := false
  employee := employee
  employeeState := "MH"
  assignment := assignment
  taxSlabSet := taxSlabSet
  arrearsAmounts := []
  payslips := []
  professionalTaxRule := some professionalTaxRule
  labourWelfareFundRule := none
  attendanceSummary := none
  leaveOnlyLopDays := none
  explicitLwpDays := none
  declaredTotals := fun _ => 0
  expenseClaims := []

/-- The item of a calculation that makes one. -/
def item (inp : ItemInputs) : ItemAmounts × ItemSnapshot :=
  match calculateItem inp with
  | .ok (.ready amounts snapshot) => (amounts, snapshot)
  | _ => ({}, {})

end Sample

end Payroll
