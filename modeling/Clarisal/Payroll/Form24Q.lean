import Clarisal.Payroll.Filings
import Clarisal.Payroll.TaxBreakdown

/-!
# Form 24Q

The quarterly statement of tax deducted. For each month the tax of the payslips
is set against the challan it was deposited with, and each challan lists the
employees it covers. Four maps grow over the employees and their payslips; a
second loop reads them month by month.

The tax of a payslip is split in the proportions of its annual tax. The split
always adds up (`split_addsUp`), since surcharge and cess are never more than
three fifths of a calculated annual tax.
-/

open Approvals Calendar

namespace Payroll

/-! ## The shares of an annual tax -/

section

variable {tax : ℚ}

/-- **A surcharge** is at most 37 hundredths of the tax, rounded. -/
theorem calculateSurcharge_bounds (regime : TaxRegime) (income : ℚ) (htax : 0 ≤ tax)
    (hpaise : OnPaise tax) :
    0 ≤ calculateSurcharge income tax (surchargeTiersForRegime regime)
      ∧ calculateSurcharge income tax (surchargeTiersForRegime regime)
        ≤ normalizeDecimal (tax * (37 / 100)) := by
  unfold calculateSurcharge
  split
  · exact ⟨le_rfl, normalizeDecimal_nonneg (by positivity)⟩
  · next rate hrate =>
    obtain ⟨hlow, hhigh⟩ := rate_surchargeTier hrate
    rw [normalizeDecimal_of_onPaise hpaise]
    exact ⟨normalizeDecimal_nonneg (mul_nonneg htax hlow),
      normalizeDecimal_mono (mul_le_mul_of_nonneg_left hhigh htax)⟩

/-- What rounding adds to surcharge and cess never outweighs the tax. -/
theorem shares_of_tax {surcharge : ℚ} (htax : 0 ≤ tax) (hpaise : OnPaise tax)
    (hlow : 0 ≤ surcharge) (hhigh : surcharge ≤ normalizeDecimal (tax * (37 / 100))) :
    surcharge + normalizeDecimal ((tax + surcharge) * indiaCessRate)
      ≤ 3 / 5 * (tax + surcharge + normalizeDecimal ((tax + surcharge) * indiaCessRate)) := by
  rcases htax.eq_or_lt with rfl | hpos
  · obtain rfl : surcharge = 0 := le_antisymm (by simpa using hhigh) hlow
    simp
  · have hpaisa := one_le_of_onPaise hpaise hpos
    have hsurcharge : normalizeDecimal (tax * (37 / 100)) ≤ tax * (37 / 100) + 1 / 100 / 2 := by
      have := (abs_le.mp (Decimal.abs_quantize_sub_le (u := (1 : ℚ) / 100) (by norm_num)
        (tax * (37 / 100)))).2
      exact sub_le_iff_le_add'.mp this
    have hcess : normalizeDecimal ((tax + surcharge) * indiaCessRate)
        ≤ (tax + surcharge) * (4 / 100) + 1 / 100 / 2 := by
      have := (abs_le.mp (Decimal.abs_quantize_sub_le (u := (1 : ℚ) / 100) (by norm_num)
        ((tax + surcharge) * indiaCessRate))).2
      exact sub_le_iff_le_add'.mp this
    linarith

/-- **Surcharge and cess are a part of the annual tax**, and leave two fifths of
it for the tax itself. -/
theorem shares_calculateIncomeTax (income : ℚ) (taxSlabSet : PayrollTaxSlabSet) (rebate : ℚ × ℚ)
    (regime : TaxRegime) {breakdown : TaxBreakdown}
    (h : calculateIncomeTaxWithRebate income taxSlabSet (surchargeTiersForRegime regime) rebate
      = breakdown) :
    0 ≤ breakdown.surcharge ∧ 0 ≤ breakdown.cess
      ∧ breakdown.surcharge + breakdown.cess ≤ 3 / 5 * breakdown.annualTax := by
  subst h
  unfold calculateIncomeTaxWithRebate
  dsimp only
  generalize htax : taxAfterRebate taxSlabSet (normalizeDecimal rebate.1, normalizeDecimal rebate.2)
    (normalizeDecimal income) = tax
  have hnonneg : 0 ≤ tax := htax ▸ normalizeDecimal_nonneg (le_max_left 0 _)
  have hpaise : OnPaise tax := htax ▸ onPaise_normalizeDecimal _
  obtain ⟨hlow, hhigh⟩ :=
    calculateSurcharge_bounds regime (normalizeDecimal income) hnonneg hpaise
  obtain ⟨hlow', hhigh', hgrid⟩ := relievedSurcharge_bounds taxSlabSet
    (surchargeTiersForRegime regime) (normalizeDecimal rebate.1, normalizeDecimal rebate.2)
    (normalizeDecimal income) hpaise (onPaise_calculateSurcharge _ _ _) hlow
  rw [normalizeDecimal_of_onPaise (hpaise.add hgrid), applyCess_eq (hpaise.add hgrid)]
  refine ⟨hlow', normalizeDecimal_nonneg ?_,
    shares_of_tax hnonneg hpaise hlow' (hhigh'.trans hhigh)⟩
  exact mul_nonneg (add_nonneg hnonneg hlow') (by norm_num [indiaCessRate])

end

theorem ItemInputs.shares_annualTax (inp : ItemInputs) (annualGross : ℚ) :
    0 ≤ (inp.annualTax annualGross).surcharge ∧ 0 ≤ (inp.annualTax annualGross).cess
      ∧ (inp.annualTax annualGross).surcharge + (inp.annualTax annualGross).cess
        ≤ 3 / 5 * (inp.annualTax annualGross).annualTax :=
  shares_calculateIncomeTax _ _ _ _ rfl

/-- **The tax of a payslip** and the shares of its annual tax. -/
theorem PayslipRow.taxed (s : PayslipRow) :
    0 ≤ s.incomeTax ∧ OnPaise s.incomeTax ∧ 0 ≤ s.snapshot.annualSurcharge
      ∧ 0 ≤ s.snapshot.annualCess
      ∧ s.snapshot.annualSurcharge + s.snapshot.annualCess ≤ 3 / 5 * s.snapshot.annualTaxTotal := by
  obtain ⟨inp, -, -, -, hcalc⟩ := s.calculated
  obtain ⟨window, pt, ptBasis, -, -, hamounts, hsnapshot, -⟩ := calculateItem_eq_ready hcalc
  set taxable := inp.prorate (inp.fullMonth window pt).taxableMonthly
  obtain ⟨hsurcharge, hcess, hshares⟩ := inp.shares_annualTax (inp.annualTaxableGross taxable)
  have htax : s.incomeTax = inp.incomeTax taxable := congrArg ItemAmounts.incomeTax hamounts
  have hworking : s.item.snapshot.tax = inp.taxWorking taxable :=
    congrArg ItemSnapshot.tax hsnapshot
  have hannual : 0 ≤ (inp.annualTax (inp.annualTaxableGross taxable)).annualTax := by linarith
  refine ⟨?_, ?_, ?_, ?_, ?_⟩
  · rw [htax]
    exact normalizeDecimal_nonneg
      (Decimal.context_nonneg 28 (div_nonneg hannual (Nat.cast_nonneg _)))
  · rw [htax]
    exact onPaise_normalizeDecimal _
  · show 0 ≤ s.item.snapshot.tax.annualSurcharge
    rw [hworking]
    exact hsurcharge
  · show 0 ≤ s.item.snapshot.tax.annualCess
    rw [hworking]
    exact hcess
  · show s.item.snapshot.tax.annualSurcharge + s.item.snapshot.tax.annualCess
      ≤ 3 / 5 * s.item.snapshot.tax.annualTaxTotal
    rw [hworking]
    exact hshares

/-! ## The split of a month's tax -/

structure TdsBreakdown where
  taxAmount : ℚ := 0
  surchargeAmount : ℚ := 0
  healthAndEducationCess : ℚ := 0
deriving DecidableEq, Repr

/-- **The tax of a month in the proportions of the annual tax.** -/
def splitMonthlyTdsComponents (snapshot : PayslipSnapshot) (totalDeducted : ℚ) : TdsBreakdown :=
  if totalDeducted ≤ 0 then {}
  else if snapshot.annualTaxTotal ≤ 0 then { taxAmount := normalizeDecimal totalDeducted }
  else
    let surchargeAmount := normalizeDecimal
      (Decimal.context 28 (totalDeducted * snapshot.annualSurcharge / snapshot.annualTaxTotal))
    let cessAmount := normalizeDecimal
      (Decimal.context 28 (totalDeducted * snapshot.annualCess / snapshot.annualTaxTotal))
    let taxAmount := normalizeDecimal (totalDeducted - surchargeAmount - cessAmount)
    { taxAmount := if taxAmount < 0 then 0 else taxAmount
      surchargeAmount := surchargeAmount
      healthAndEducationCess := cessAmount }

/-- Shares that are not negative and add up to a total. -/
structure TdsBreakdown.AddsUp (b : TdsBreakdown) (total : ℚ) : Prop where
  tax_nonneg : 0 ≤ b.taxAmount
  surcharge_nonneg : 0 ≤ b.surchargeAmount
  cess_nonneg : 0 ≤ b.healthAndEducationCess
  sum : b.taxAmount + b.surchargeAmount + b.healthAndEducationCess = total

/-- Shares in whole paise. -/
structure TdsBreakdown.InPaise (b : TdsBreakdown) : Prop where
  tax : OnPaise b.taxAmount
  surcharge : OnPaise b.surchargeAmount
  cess : OnPaise b.healthAndEducationCess

section

variable {total surcharge cess annual : ℚ}

/-- A share of a month's tax, rounded. -/
theorem share_le (htotal : 0 ≤ total) (hshare : 0 ≤ surcharge) (hannual : 0 < annual) :
    normalizeDecimal (Decimal.context 28 (total * surcharge / annual))
      ≤ total * surcharge / annual * (1 + 1 / 10 ^ 27 / 2) + 1 / 100 / 2 := by
  have hnonneg : 0 ≤ total * surcharge / annual := by positivity
  have hround := (abs_le.mp (Decimal.abs_quantize_context_sub_le (u := (1 : ℚ) / 100) (by norm_num)
    28 (total * surcharge / annual))).2
  have hten : (10 : ℚ) ^ (1 - (28 : ℕ) : ℤ) = 1 / 10 ^ 27 := by norm_num [zpow_neg]
  rw [hten, abs_of_nonneg hnonneg] at hround
  unfold normalizeDecimal
  linarith

/-- **The rounded shares leave something for the tax**, since two fifths of the
annual tax are neither. -/
theorem shares_le_total (htotal : 0 < total) (hpaise : OnPaise total) (hsurcharge : 0 ≤ surcharge)
    (hcess : 0 ≤ cess) (hannual : 0 < annual) (hshares : surcharge + cess ≤ 3 / 5 * annual) :
    normalizeDecimal (Decimal.context 28 (total * surcharge / annual))
      + normalizeDecimal (Decimal.context 28 (total * cess / annual)) ≤ total := by
  by_contra hlt
  have hgrid : OnPaise (normalizeDecimal (Decimal.context 28 (total * surcharge / annual))
      + normalizeDecimal (Decimal.context 28 (total * cess / annual)) - total) :=
    ((onPaise_normalizeDecimal _).add (onPaise_normalizeDecimal _)).sub hpaise
  -- more than the total would be a paisa more, as much as rounding can add
  have hpaisa := one_le_of_onPaise hgrid (by linarith)
  have h₁ := share_le htotal.le hsurcharge hannual
  have h₂ := share_le htotal.le hcess hannual
  have hsum : total * surcharge / annual + total * cess / annual ≤ 3 / 5 * total := by
    rw [← add_div, ← mul_add, div_le_iff₀ hannual]
    nlinarith
  nlinarith

end

/-- **The split of a payslip's tax** adds up to it. -/
theorem split_addsUp (s : PayslipRow) :
    (splitMonthlyTdsComponents s.snapshot s.incomeTax).AddsUp s.incomeTax
      ∧ (splitMonthlyTdsComponents s.snapshot s.incomeTax).InPaise := by
  obtain ⟨hnonneg, hpaise, hsurcharge, hcess, hshares⟩ := s.taxed
  unfold splitMonthlyTdsComponents
  split
  · next hzero =>
    exact ⟨⟨le_rfl, le_rfl, le_rfl, by simpa using le_antisymm hnonneg hzero⟩,
      Decimal.onGrid_zero, Decimal.onGrid_zero, Decimal.onGrid_zero⟩
  · next hpos =>
    split
    · rw [normalizeDecimal_of_onPaise hpaise]
      exact ⟨⟨hnonneg, le_rfl, le_rfl, by simp⟩, hpaise, Decimal.onGrid_zero, Decimal.onGrid_zero⟩
    · next hannual =>
      have hle := shares_le_total (not_le.mp hpos) hpaise hsurcharge hcess (not_le.mp hannual)
        hshares
      have hgrid := (hpaise.sub (onPaise_normalizeDecimal (Decimal.context 28
        (s.incomeTax * s.snapshot.annualSurcharge / s.snapshot.annualTaxTotal)))).sub
        (onPaise_normalizeDecimal (Decimal.context 28
          (s.incomeTax * s.snapshot.annualCess / s.snapshot.annualTaxTotal)))
      have hshare : ∀ {share : ℚ}, 0 ≤ share → 0 ≤ normalizeDecimal (Decimal.context 28
          (s.incomeTax * share / s.snapshot.annualTaxTotal)) := fun hshare =>
        normalizeDecimal_nonneg (Decimal.context_nonneg 28
          (div_nonneg (mul_nonneg hnonneg hshare) (not_le.mp hannual).le))
      dsimp only
      rw [normalizeDecimal_of_onPaise hgrid, if_neg (by linarith)]
      exact ⟨⟨by linarith, hshare hsurcharge, hshare hcess, by ring⟩, hgrid,
        onPaise_normalizeDecimal _, onPaise_normalizeDecimal _⟩

/-! ## The statement -/

/-- A challan, as an employee's row refers to it. -/
structure ChallanReference where
  month : Month
  bsrCode : String
  challanSerialNumber : String
  depositDate : Date
deriving DecidableEq, Repr

def PayrollTDSChallan.reference (challan : PayrollTDSChallan) (month : Month) : ChallanReference :=
  { month := month, bsrCode := challan.bsrCode,
    challanSerialNumber := challan.challanSerialNumber, depositDate := challan.depositDate }

/-- The amounts of a row are those written, with two places. -/
structure Form24QEmployeeRow where
  employeeSequence : ℕ
  employeeId : EmployeeId
  employee : FilingEmployee
  grossSalary : ℚ
  taxableIncome : ℚ
  taxDeducted : ℚ
  healthAndEducationCess : ℚ
  payPeriods : List Month
  challanRefs : List ChallanReference
deriving DecidableEq, Repr

structure Form24QDeducteeRow where
  deducteeSequence : ℕ
  employeeId : EmployeeId
  employee : FilingEmployee
  paymentDate : Option Date
  deductionDate : Option Date
  amountPaidOrCredited : ℚ
  breakdown : TdsBreakdown
  totalTaxDeducted : ℚ
  totalTaxDeposited : ℚ
deriving DecidableEq, Repr

structure Form24QChallanRow where
  sequenceNumber : ℕ
  month : Month
  breakdown : TdsBreakdown
  interestAmount : ℚ
  feeAmount : ℚ
  taxDeposited : ℚ
  bsrCode : String
  challanSerialNumber : String
  depositDate : Date
  statementReceiptNumber : String
  deducteeRows : List Form24QDeducteeRow
deriving DecidableEq, Repr

/-- What keeps a statement from being filed. -/
inductive Form24QBlocker
  | missingTan
  | missingPan
  | missingEmployeePan (employee : FilingEmployee)
  | missingChallan (month : Month)
  | challanMismatch (month : Month) (deposited deducted : ℚ)
deriving DecidableEq, Repr

def Form24QBlocker.text : Form24QBlocker → String
  | .missingTan => "Organisation TAN is required for Form 24Q export."
  | .missingPan =>
    "Organisation PAN is required for Form 24Q export for non-government deductors."
  | .missingEmployeePan employee => s!"{employee.label}: missing PAN for Form 24Q export."
  | .missingChallan month => s!"{periodLabel month}: missing TDS challan for Form 24Q export."
  | .challanMismatch month deposited deducted =>
    let depositedText := decimalToString deposited
    let deductedText := decimalToString deducted
    s!"{periodLabel month}: challan tax deposited {depositedText} does not match deducted tax {deductedText}."

structure Form24QExport where
  blockers : List Form24QBlocker
  employees : List Form24QEmployeeRow
  challans : List Form24QChallanRow

def Form24QExport.validationErrors (e : Form24QExport) : List String :=
  (e.blockers.map Form24QBlocker.text).insertionSort (· ≤ ·)

/-- The challans of a quarter, by month. -/
def quarterChallanMap (organisation : OrganisationId) (fiscalYear : String)
    (quarter : TDSQuarter) (challans : List PayrollTDSChallan) :
    Except String (List (Month × PayrollTDSChallan)) := do
  let months ← quarterMonths fiscalYear quarter
  return challanMap (challans.filter (fun c => c.organisation = organisation
    ∧ c.fiscalYear = fiscalYear ∧ c.quarter = quarter ∧ c.month.isIn months = true))

def deductorCategory (entityType : String) : String :=
  if entityType ∈ ["PRIVATE_LIMITED", "PUBLIC_LIMITED", "ONE_PERSON_COMPANY",
      "SECTION_8_COMPANY"] then "COMPANY"
  else if entityType ∈ ["LIMITED_LIABILITY_PARTNERSHIP", "PARTNERSHIP_FIRM",
      "SOLE_PROPRIETORSHIP"] then "FIRM"
  else if entityType = "GOVERNMENT_BODY" then "STATUTORY_BODY_GOVERNMENT"
  else "OTHER"

/-- The deductor needs its own numbers. -/
def deductorBlockers (organisation : FilingOrganisation) : List Form24QBlocker :=
  (if strip organisation.tanNumber.toList = [] then [.missingTan] else [])
    ++ if deductorCategory organisation.entityType ≠ "STATUTORY_BODY_GOVERNMENT"
        ∧ strip organisation.panNumber.toList = [] then [.missingPan] else []

/-- The last day of a month, when it has one. -/
def periodEndDate (month : Month) : Option Date :=
  (PayPeriod.ofYearMonth month.1 month.2).map PayPeriod.finish

/-! ### The loop over the employees -/

/-- The sums over the payslips of one employee. -/
structure EmployeeTotals where
  grossSalary : ℚ := 0
  taxableIncome : ℚ := 0
  taxDeducted : ℚ := 0
  cess : ℚ := 0
  challanRefs : List ChallanReference := []

/-- The sums and rows of each month. -/
structure PeriodTotals where
  taxTotals : List (Month × ℚ) := []
  taxBreakdowns : List (Month × TdsBreakdown) := []
  deducteeRows : List (Month × List Form24QDeducteeRow) := []

/-- The shares, added one by one and rounded. -/
def TdsBreakdown.add (b b' : TdsBreakdown) : TdsBreakdown :=
  { taxAmount := normalizeDecimal (b.taxAmount + b'.taxAmount)
    surchargeAmount := normalizeDecimal (b.surchargeAmount + b'.surchargeAmount)
    healthAndEducationCess :=
      normalizeDecimal (b.healthAndEducationCess + b'.healthAndEducationCess) }

/-- The shares as they are written. -/
def TdsBreakdown.written (b : TdsBreakdown) : TdsBreakdown :=
  { taxAmount := normalizeDecimal b.taxAmount
    surchargeAmount := normalizeDecimal b.surchargeAmount
    healthAndEducationCess := normalizeDecimal b.healthAndEducationCess }

def PayslipRow.breakdown (s : PayslipRow) : TdsBreakdown :=
  splitMonthlyTdsComponents s.snapshot s.incomeTax

section

variable (directory : EmployeeDirectory) (challans : List (Month × PayrollTDSChallan))

def addToEmployee (t : EmployeeTotals) (s : PayslipRow) : EmployeeTotals :=
  { grossSalary := t.grossSalary + s.snapshot.grossPay
    taxableIncome := max t.taxableIncome s.snapshot.annualTaxableAfterSd
    taxDeducted := t.taxDeducted + s.incomeTax
    cess := t.cess + s.breakdown.healthAndEducationCess
    challanRefs := t.challanRefs
      ++ ((Dict.get s.month challans).map (fun c => c.reference s.month)).toList }

def deducteeRow (sequence : ℕ) (s : PayslipRow) : Form24QDeducteeRow :=
  { deducteeSequence := sequence
    employeeId := s.employee
    employee := directory s.employee
    paymentDate := periodEndDate s.month
    deductionDate := periodEndDate s.month
    amountPaidOrCredited := normalizeDecimal s.snapshot.grossPay
    breakdown := s.breakdown.written
    totalTaxDeducted := normalizeDecimal s.incomeTax
    totalTaxDeposited := normalizeDecimal s.incomeTax }

def addToPeriods (t : PeriodTotals) (s : PayslipRow) : PeriodTotals :=
  { taxTotals := Dict.alter s.month (fun total => total.getD 0 + s.incomeTax) t.taxTotals
    taxBreakdowns := Dict.alter s.month (fun b => (b.getD {}).add s.breakdown) t.taxBreakdowns
    deducteeRows :=
      -- a month without a challan has no rows
      if (Dict.get s.month challans).isSome then
        Dict.alter s.month (fun rows => rows.getD []
          ++ [deducteeRow directory ((rows.getD []).length + 1) s]) t.deducteeRows
      else t.deducteeRows }

/-- The payslips of an employee by month. -/
def sortedByMonth (payslips : List PayslipRow) : List PayslipRow :=
  payslips.insertionSort (fun s s' => toLex s.month ≤ toLex s'.month)

structure Form24QState where
  blockers : List Form24QBlocker
  employees : List Form24QEmployeeRow
  periods : PeriodTotals

def employeeRow (sequence : ℕ) (employee : EmployeeId) (payslips : List PayslipRow)
    (t : EmployeeTotals) : Form24QEmployeeRow :=
  { employeeSequence := sequence
    employeeId := employee
    employee := directory employee
    grossSalary := normalizeDecimal t.grossSalary
    taxableIncome := normalizeDecimal t.taxableIncome
    taxDeducted := normalizeDecimal t.taxDeducted
    healthAndEducationCess := normalizeDecimal t.cess
    payPeriods := (sortedByMonth payslips).map PayslipRow.month
    challanRefs := t.challanRefs }

/-- One employee: without a PAN, its payslips are not counted. -/
def addEmployee (st : Form24QState) (entry : (EmployeeId × List PayslipRow) × ℕ) :
    Form24QState :=
  let ((employee, payslips), sequence) := entry
  if (directory employee).pan = "" then
    { st with blockers := st.blockers ++ [.missingEmployeePan (directory employee)] }
  else
    let (totals, periods) := (sortedByMonth payslips).foldl
      (fun t s => (addToEmployee challans t.1 s, addToPeriods directory challans t.2 s))
      ({}, st.periods)
    { blockers := st.blockers
      employees := st.employees ++ [employeeRow directory sequence employee payslips totals]
      periods := periods }

/-! ### The loop over the months -/

def challanRow (periods : PeriodTotals) (month : Month) (challan : PayrollTDSChallan) :
    Form24QChallanRow :=
  { sequenceNumber := ((Dict.keys challans).insertionSort
      (fun m m' => toLex m ≤ toLex m')).idxOf month + 1
    month := month
    breakdown := ((Dict.get month periods.taxBreakdowns).getD {}).written
    interestAmount := normalizeDecimal challan.interestAmount
    feeAmount := normalizeDecimal challan.feeAmount
    taxDeposited := normalizeDecimal challan.taxDeposited
    bsrCode := challan.bsrCode
    challanSerialNumber := challan.challanSerialNumber
    depositDate := challan.depositDate
    statementReceiptNumber := challan.statementReceiptNumber
    deducteeRows := (Dict.get month periods.deducteeRows).getD [] }

/-- One month: its challan has to be the tax deducted, when there is any. -/
def addChallan (periods : PeriodTotals) (out : List Form24QBlocker × List Form24QChallanRow)
    (month : Month) : List Form24QBlocker × List Form24QChallanRow :=
  let expectedTax := (Dict.get month periods.taxTotals).getD 0
  match Dict.get month challans with
  | none => if 0 < expectedTax then (out.1 ++ [.missingChallan month], out.2) else out
  | some challan =>
    (if 0 < expectedTax ∧ challan.taxDeposited ≠ expectedTax then
        out.1 ++ [.challanMismatch month challan.taxDeposited expectedTax]
      else out.1,
      out.2 ++ [challanRow challans periods month challan])

/-- **The statement on a challan map.** -/
def form24QStatement (organisation : FilingOrganisation)
    (payslipsByEmployee : List (EmployeeId × List PayslipRow)) : Form24QExport :=
  let employees := payslipsByEmployee.insertionSort (fun e e' => e.1 ≤ e'.1)
  let st := (employees.zipIdx 1).foldl (addEmployee directory challans)
    { blockers := deductorBlockers organisation, employees := [], periods := {} }
  let months := (Dict.keys st.periods.taxTotals).insertionSort (fun m m' => toLex m ≤ toLex m')
  let (blockers, rows) := months.foldl (addChallan challans st.periods) (st.blockers, [])
  { blockers := blockers, employees := st.employees, challans := rows }

end

/-- **Form 24Q of a quarter.** -/
def generateForm24QExport (organisation : FilingOrganisation) (quarter : TDSQuarter)
    (fiscalYear : String) (challans : List PayrollTDSChallan) (directory : EmployeeDirectory)
    (payslipsByEmployee : List (EmployeeId × List PayslipRow)) : Except String Form24QExport := do
  let challans ← quarterChallanMap organisation.id fiscalYear quarter challans
  return form24QStatement directory challans organisation payslipsByEmployee

end Payroll
