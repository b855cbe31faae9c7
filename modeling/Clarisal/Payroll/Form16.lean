import Clarisal.Payroll.Form24QReconciliation

/-!
# Form 16

The yearly certificate of each employee, from the payslips and challans that the
quarterly statements are made from. A challan is the deposit of a month for the
whole organisation. Form 24Q compares it with the tax of all payslips of the
month; Form 16 compares it with the tax of each one.

On deposits that are right, Form 24Q reports no mismatch
(`noMismatch_form24QOfQuarter`). Form 16 reports none exactly when no month has
two employees with tax (`filings_agree_iff`).
-/

open Approvals Calendar

namespace Payroll

open Transaction

/-! ## The dataset -/

structure QuarterSummary where
  amountPaid : ℚ := 0
  taxDeducted : ℚ := 0
  taxDeposited : ℚ := 0
  statementReceiptNumber : String := ""
deriving DecidableEq, Repr

structure ChallanDetail where
  period : Month
  taxDepositedForEmployee : ℚ
  bsrCode : String
  challanSerialNumber : String
  depositDate : Date
deriving DecidableEq, Repr

/-- The certificate of an employee. The amounts are those written, with two
places. -/
structure Form16EmployeePayload where
  employeeId : EmployeeId
  employee : FilingEmployee
  taxRegime : TaxRegime
  grossSalary : ℚ
  standardDeduction : ℚ
  deductionsChapterVia : ℚ
  taxableIncome : ℚ
  taxBeforeRebate : ℚ
  surcharge : ℚ
  cess : ℚ
  taxDeducted : ℚ
  quarterSummaries : List (TDSQuarter × QuarterSummary)
  challanDetails : List ChallanDetail
  fiscalYear : String
deriving DecidableEq, Repr

/-- What keeps the certificates from being issued. -/
inductive Form16Blocker
  | missingTan
  | missingEmployeePan (employee : FilingEmployee)
  | missingChallan (employee : FilingEmployee) (month : Month)
  | challanMismatch (employee : FilingEmployee) (deposited deducted : ℚ) (month : Month)
  | multipleReceipts (employee : FilingEmployee) (quarter : TDSQuarter) (fiscalYear : String)
deriving DecidableEq, Repr

def Form16Blocker.text : Form16Blocker → String
  | .missingTan => "Organisation TAN is required for Form 16 generation."
  | .missingEmployeePan employee => s!"{employee.label}: missing PAN for Form 16 generation."
  | .missingChallan employee month =>
    s!"{employee.label}: missing TDS challan for {periodLabel month} Form 16 output."
  | .challanMismatch employee deposited deducted month =>
    let depositedText := decimalToString deposited
    let deductedText := decimalToString deducted
    s!"{employee.label}: challan tax deposited {depositedText} does not match deducted tax {deductedText} for {periodLabel month}."
  | .multipleReceipts employee quarter fiscalYear =>
    s!"{employee.label}: multiple statement receipt numbers found for {quarter.value} of {fiscalYear}."

/-- The months of the four quarters. -/
def fiscalYearMonths (fiscalYear : String) : Except String (List (ℤ × ℕ)) := do
  let quarters ← [TDSQuarter.q1, .q2, .q3, .q4].mapM (quarterMonths fiscalYear)
  return quarters.flatten

/-- The challans of a fiscal year, by month. -/
def fiscalYearChallanMap (organisation : OrganisationId) (fiscalYear : String)
    (challans : List PayrollTDSChallan) : Except String (List (Month × PayrollTDSChallan)) := do
  let months ← fiscalYearMonths fiscalYear
  return challanMap (challans.filter (fun c => c.organisation = organisation
    ∧ c.fiscalYear = fiscalYear ∧ c.month.isIn months = true))

/-! ### The loop over the payslips of an employee -/

structure Form16Totals where
  grossSalary : ℚ := 0
  taxDeducted : ℚ := 0
  investmentDeductions : ℚ := 0
  taxableIncome : ℚ := 0
  cess : ℚ := 0
  surcharge : ℚ := 0
  taxBeforeRebate : ℚ := 0
  regime : TaxRegime := .new
  quarterSummaries : List (TDSQuarter × QuarterSummary) := []
  challanDetails : List ChallanDetail := []

/-- All tax deducted counts as deposited. -/
def QuarterSummary.add (summary : QuarterSummary) (s : PayslipRow) : QuarterSummary :=
  { summary with
    amountPaid := summary.amountPaid + s.snapshot.grossPay
    taxDeducted := summary.taxDeducted + s.incomeTax
    taxDeposited := summary.taxDeposited + s.incomeTax }

def PayslipRow.quarter (s : PayslipRow) : TDSQuarter := tdsQuarterForMonth s.month.2

def Form16Totals.add (t : Form16Totals) (s : PayslipRow) : Form16Totals :=
  { grossSalary := t.grossSalary + s.snapshot.grossPay
    taxDeducted := t.taxDeducted + s.incomeTax
    investmentDeductions := t.investmentDeductions + s.item.snapshot.tax.annualInvestmentDeductions
    taxableIncome := max t.taxableIncome s.snapshot.annualTaxableAfterSd
    cess := max t.cess s.snapshot.annualCess
    surcharge := max t.surcharge s.snapshot.annualSurcharge
    taxBeforeRebate := max t.taxBeforeRebate s.item.snapshot.tax.annualTaxBeforeRebate
    regime := s.taxRegime
    quarterSummaries := Dict.alter s.quarter (fun q => (q.getD {}).add s) t.quarterSummaries
    challanDetails := t.challanDetails }

/-- The receipt of a challan goes to the quarter, when the quarter has no other. -/
def Form16Totals.addReceipt (t : Form16Totals) (quarter : TDSQuarter) (receipt : String) :
    Option Form16Totals :=
  let existing := ((Dict.get quarter t.quarterSummaries).getD {}).statementReceiptNumber
  if receipt = "" then some t
  else if existing ≠ "" ∧ existing ≠ receipt then none
  else some { t with
    quarterSummaries := Dict.alter quarter
      (fun q => { q.getD {} with statementReceiptNumber := receipt }) t.quarterSummaries }

def PayrollTDSChallan.detail (challan : PayrollTDSChallan) (s : PayslipRow) : ChallanDetail :=
  { period := s.month
    taxDepositedForEmployee := normalizeDecimal s.incomeTax
    bsrCode := challan.bsrCode
    challanSerialNumber := challan.challanSerialNumber
    depositDate := challan.depositDate }

section

variable (fiscalYear : String) (challans : List (Month × PayrollTDSChallan))
  (directory : EmployeeDirectory)

/-- One payslip: its challan has to be the tax deducted from this employee. -/
def addPayslip (employee : FilingEmployee) (st : List Form16Blocker × Form16Totals)
    (s : PayslipRow) : List Form16Blocker × Form16Totals :=
  let t := st.2.add s
  match Dict.get s.month challans with
  | none =>
    (st.1 ++ if 0 < s.incomeTax then [.missingChallan employee s.month] else [], t)
  | some challan =>
    let blockers := st.1 ++ if 0 < s.incomeTax ∧ challan.taxDeposited ≠ s.incomeTax then
      [.challanMismatch employee challan.taxDeposited s.incomeTax s.month] else []
    let details := t.challanDetails ++ [challan.detail s]
    match t.addReceipt s.quarter challan.statementReceiptNumber with
    | none =>
      (blockers ++ [.multipleReceipts employee s.quarter fiscalYear],
        { t with challanDetails := details })
    | some t => (blockers, { t with challanDetails := details })

/-- The quarters of an employee in which something was paid or deducted. -/
def Form16Totals.writtenSummaries (t : Form16Totals) : List (TDSQuarter × QuarterSummary) :=
  ((t.quarterSummaries.insertionSort (fun q q' => q.1.value ≤ q'.1.value)).filter
    (fun q => 0 < q.2.amountPaid ∨ 0 < q.2.taxDeducted)).map (fun q =>
      (q.1, { q.2 with
        amountPaid := normalizeDecimal q.2.amountPaid
        taxDeducted := normalizeDecimal q.2.taxDeducted
        taxDeposited := normalizeDecimal q.2.taxDeposited }))

def Form16Totals.payload (t : Form16Totals) (employee : EmployeeId) : Form16EmployeePayload :=
  { employeeId := employee
    employee := directory employee
    taxRegime := t.regime
    grossSalary := normalizeDecimal t.grossSalary
    standardDeduction := 75000
    deductionsChapterVia := normalizeDecimal t.investmentDeductions
    taxableIncome := normalizeDecimal t.taxableIncome
    taxBeforeRebate := normalizeDecimal t.taxBeforeRebate
    surcharge := normalizeDecimal t.surcharge
    cess := normalizeDecimal t.cess
    taxDeducted := normalizeDecimal t.taxDeducted
    quarterSummaries := t.writtenSummaries
    challanDetails := t.challanDetails
    fiscalYear := fiscalYear }

/-- One employee: without a PAN there is no certificate. -/
def addForm16Employee (st : List Form16Blocker × List Form16EmployeePayload)
    (entry : EmployeeId × List PayslipRow) : List Form16Blocker × List Form16EmployeePayload :=
  let employee := directory entry.1
  if employee.pan = "" then (st.1 ++ [.missingEmployeePan employee], st.2)
  else
    let (blockers, totals) :=
      (sortedByMonth entry.2).foldl (addPayslip fiscalYear challans employee) (st.1, {})
    (blockers, st.2 ++ [totals.payload fiscalYear directory entry.1])

/-- **The dataset on a challan map.** -/
def form16Dataset (organisation : FilingOrganisation)
    (payslipsByEmployee : List (EmployeeId × List PayslipRow)) :
    List Form16Blocker × List Form16EmployeePayload :=
  (payslipsByEmployee.insertionSort (fun e e' => e.1 ≤ e'.1)).foldl
    (addForm16Employee fiscalYear challans directory)
    (if strip organisation.tanNumber.toList = [] then [.missingTan] else [], [])

end

/-- **The Form 16 dataset**: the certificates, and what blocks them. -/
def aggregateForm16Dataset (organisation : FilingOrganisation) (fiscalYear : String)
    (challans : List PayrollTDSChallan) (directory : EmployeeDirectory)
    (payslipsByEmployee : List (EmployeeId × List PayslipRow)) :
    Except String (List Form16EmployeePayload × List Form16Blocker) := do
  let byMonth ← fiscalYearChallanMap organisation.id fiscalYear challans
  let (blockers, employees) :=
    form16Dataset fiscalYear byMonth directory organisation payslipsByEmployee
  return (employees, blockers)

/-! ## The filings of an organisation -/

section

variable (organisation : FilingOrganisation) (fiscalYear : String)
  (challans : List PayrollTDSChallan) (directory : EmployeeDirectory) (payRuns : List PayrollRun)
  (payslips : List PayslipRow)

/-- Form 24Q of a quarter, from the tables. -/
def form24QOfQuarter (quarter : TDSQuarter) : Except String Form24QExport := do
  let payslips ← payslipsOfQuarter organisation.id fiscalYear directory payRuns payslips quarter
  generateForm24QExport organisation quarter fiscalYear challans directory
    (groupEffectivePayslipsByEmployee directory payslips)

/-- Form 16 of a fiscal year, from the tables. -/
def form16OfFiscalYear : Except String (List Form16EmployeePayload × List Form16Blocker) := do
  let payslips ← payslipsOfFiscalYear organisation.id fiscalYear directory payRuns payslips
  aggregateForm16Dataset organisation fiscalYear challans directory
    (groupEffectivePayslipsByEmployee directory payslips)

end

/-! ## The mismatches of Form 16 -/

def Form16Blocker.isChallanMismatch : Form16Blocker → Bool
  | .challanMismatch .. => true
  | _ => false

section

variable {fiscalYear : String} {challans : List (Month × PayrollTDSChallan)}
  {directory : EmployeeDirectory} {organisation : FilingOrganisation} {payslips : List PayslipRow}

/-- The mismatch of a payslip. -/
def mismatchOf (challans : List (Month × PayrollTDSChallan)) (employee : FilingEmployee)
    (s : PayslipRow) : List Form16Blocker :=
  match Dict.get s.month challans with
  | none => []
  | some challan =>
    if 0 < s.incomeTax ∧ challan.taxDeposited ≠ s.incomeTax then
      [.challanMismatch employee challan.taxDeposited s.incomeTax s.month]
    else []

theorem filter_addPayslip (employee : FilingEmployee) (st : List Form16Blocker × Form16Totals)
    (s : PayslipRow) :
    (addPayslip fiscalYear challans employee st s).1.filter Form16Blocker.isChallanMismatch
      = st.1.filter Form16Blocker.isChallanMismatch ++ mismatchOf challans employee s := by
  unfold addPayslip mismatchOf
  cases Dict.get s.month challans with
  | none => dsimp only; split <;> simp [Form16Blocker.isChallanMismatch]
  | some challan =>
    dsimp only
    split <;> split <;> simp [List.filter_cons, Form16Blocker.isChallanMismatch]

theorem filter_foldl_addPayslip (employee : FilingEmployee) (own : List PayslipRow)
    (st : List Form16Blocker × Form16Totals) :
    (own.foldl (addPayslip fiscalYear challans employee) st).1.filter
        Form16Blocker.isChallanMismatch
      = st.1.filter Form16Blocker.isChallanMismatch
        ++ own.flatMap (mismatchOf challans employee) := by
  induction own generalizing st with
  | nil => simp
  | cons s own ih =>
    rw [List.foldl_cons, ih, filter_addPayslip, List.append_assoc, List.flatMap_cons]

/-- **The mismatches of the dataset** are those of the payslips of its employees. -/
theorem filter_foldl_addForm16Employee (fiscalYear : String)
    (challans : List (Month × PayrollTDSChallan)) (entries : List (EmployeeId × List PayslipRow))
    (hpan : ∀ e ∈ entries, (directory e.1).pan ≠ "")
    (st : List Form16Blocker × List Form16EmployeePayload) :
    (entries.foldl (addForm16Employee fiscalYear challans directory) st).1.filter
        Form16Blocker.isChallanMismatch
      = st.1.filter Form16Blocker.isChallanMismatch
        ++ entries.flatMap (fun e => (sortedByMonth e.2).flatMap
          (mismatchOf challans (directory e.1))) := by
  induction entries generalizing st with
  | nil => simp
  | cons e entries ih =>
    obtain ⟨he, hpan⟩ := List.forall_mem_cons.mp hpan
    rw [List.foldl_cons, ih hpan, List.flatMap_cons, ← List.append_assoc]
    congr 1
    unfold addForm16Employee
    dsimp only
    rw [if_neg he]
    exact filter_foldl_addPayslip _ _ _

theorem mismatchOf_eq_nil {employee : FilingEmployee} {s : PayslipRow} :
    mismatchOf challans employee s = [] ↔ ∀ c, Dict.get s.month challans = some c →
      0 < s.incomeTax → c.taxDeposited = s.incomeTax := by
  unfold mismatchOf
  cases Dict.get s.month challans with
  | none => simp
  | some challan =>
    dsimp only
    split
    · next h => simpa using h
    · next h => simpa using h

/-- The employees of the payslips have a PAN. -/
theorem pan_of_mem_groups (hpan : ∀ s ∈ payslips, (directory s.employee).pan ≠ "")
    {e : EmployeeId × List PayslipRow}
    (he : e ∈ groupEffectivePayslipsByEmployee directory payslips) : (directory e.1).pan ≠ "" := by
  obtain ⟨hne, hown⟩ := mem_groupEffective he
  obtain ⟨s, hs⟩ := List.exists_mem_of_ne_nil _ hne
  rw [← hown s hs]
  have hmem := List.mem_flatMap.mpr ⟨e, he, hs⟩
  exact hpan s ((perm_groupEffective directory payslips).mem_iff.mp hmem)

/-- **Form 16 has no mismatch** when each taxed payslip alone is what its challan
deposited. -/
theorem noMismatch_form16Dataset (hpan : ∀ s ∈ payslips, (directory s.employee).pan ≠ "") :
    (∀ b ∈ (form16Dataset fiscalYear challans directory organisation
        (groupEffectivePayslipsByEmployee directory payslips)).1, b.isChallanMismatch = false)
      ↔ ∀ s ∈ payslips, ∀ c, Dict.get s.month challans = some c →
        0 < s.incomeTax → c.taxDeposited = s.incomeTax := by
  set groups := groupEffectivePayslipsByEmployee directory payslips with hgroups
  have hmem : ∀ {s : PayslipRow}, s ∈ payslips ↔ ∃ e ∈ groups, s ∈ e.2 := by
    intro s
    rw [← (perm_groupEffective directory payslips).mem_iff, List.mem_flatMap]
  have hown : ∀ e ∈ groups.insertionSort (fun e e' => e.1 ≤ e'.1),
      (directory e.1).pan ≠ "" :=
    fun e he => pan_of_mem_groups hpan ((List.mem_insertionSort _).mp he)
  have hstart : (if strip organisation.tanNumber.toList = [] then [Form16Blocker.missingTan]
      else []).filter Form16Blocker.isChallanMismatch = [] := by
    split <;> rfl
  have hfilter := filter_foldl_addForm16Employee fiscalYear challans _ hown
    (if strip organisation.tanNumber.toList = [] then [.missingTan] else [], [])
  rw [hstart, List.nil_append] at hfilter
  unfold form16Dataset
  simp only [← Bool.not_eq_true]
  rw [← List.filter_eq_nil_iff, hfilter]
  simp only [List.flatMap_eq_nil_iff, List.mem_insertionSort, mismatchOf_eq_nil, sortedByMonth]
  constructor
  · intro h s hs
    obtain ⟨e, he, hs⟩ := hmem.mp hs
    exact h e he s hs
  · exact fun h e he s hs => h s (hmem.mpr ⟨e, he, hs⟩)

/-! ## The mismatches of Form 24Q -/

def Form24QBlocker.isChallanMismatch : Form24QBlocker → Bool
  | .challanMismatch .. => true
  | _ => false

/-- **Form 24Q has no mismatch** when the tax of each month is what its challan
deposited. -/
theorem noMismatch_form24QStatement (hpan : ∀ s ∈ payslips, (directory s.employee).pan ≠ "")
    (hdeposit : ∀ m c, Dict.get m challans = some c → 0 < taxOfMonth payslips m →
      c.taxDeposited = taxOfMonth payslips m) :
    ∀ b ∈ (form24QStatement directory challans organisation
      (groupEffectivePayslipsByEmployee directory payslips)).blockers,
      b.isChallanMismatch = false := by
  have hown : ∀ e ∈ numberedEmployees directory payslips, (directory e.1.1).pan ≠ "" := by
    intro e he
    have he := (List.mem_insertionSort _).mp (List.fst_mem_of_mem_zipIdx he)
    exact pan_of_mem_groups hpan he
  rw [form24QStatement_of_pan hown]
  intro b hb
  rcases List.mem_append.mp hb with hb | hb
  · unfold deductorBlockers at hb
    rcases List.mem_append.mp hb with hb | hb <;> split at hb <;>
      simp only [List.mem_singleton, List.not_mem_nil] at hb <;> rw [hb] <;> rfl
  · obtain ⟨m, -, hb⟩ := List.mem_flatMap.mp hb
    rcases addChallan_nil (statementPeriods directory challans payslips) m with
      ⟨-, heq⟩ | ⟨c, hc, heq⟩
    · rw [heq] at hb
      dsimp only at hb
      split at hb
      · rw [List.mem_singleton.mp hb]
        rfl
      · cases hb
    · rw [heq, taxTotals_statementPeriods] at hb
      dsimp only at hb
      rw [if_neg (fun h => h.2 (hdeposit m c hc h.1))] at hb
      cases hb

/-! ## The tax of a month and of a payslip -/

variable {s s' : PayslipRow} {m : Month}

theorem exists_taxed_of_taxOfMonth (h : 0 < taxOfMonth payslips m) :
    ∃ s ∈ payslips, s.month = m ∧ 0 < s.incomeTax := by
  by_contra hnone
  refine h.ne' (List.sum_eq_zero (fun x hx => ?_))
  obtain ⟨s, hs, rfl⟩ := List.mem_map.mp hx
  obtain ⟨hs, hm⟩ := List.mem_filter.mp hs
  exact le_antisymm (not_lt.mp (fun hpos => hnone ⟨s, hs, of_decide_eq_true hm, hpos⟩)) s.taxed.1

/-- **A payslip bears the tax of its month** when no other one bears any. -/
theorem taxOfMonth_eq_iff (hnodup : payslips.Nodup) (hs : s ∈ payslips) :
    taxOfMonth payslips s.month = s.incomeTax
      ↔ ∀ s' ∈ payslips, s'.month = s.month → s' ≠ s → s'.incomeTax = 0 := by
  classical
  set own := payslips.filter (fun s' => s'.month = s.month)
  have hmem : s ∈ own := List.mem_filter.mpr ⟨hs, decide_eq_true rfl⟩
  have hothers : ∀ s', s' ∈ own.erase s ↔ s' ≠ s ∧ s' ∈ payslips ∧ s'.month = s.month := by
    intro s'
    rw [(hnodup.filter _).mem_erase_iff, List.mem_filter, decide_eq_true_iff]
  have hsum : taxOfMonth payslips s.month
      = s.incomeTax + ((own.erase s).map PayslipRow.incomeTax).sum :=
    ((List.perm_cons_erase hmem).map _).sum_eq
  rw [hsum, add_eq_left]
  constructor
  · intro hzero s' hs' hmonth hne
    refine List.all_zero_of_le_zero_le_of_sum_eq_zero (fun x hx => ?_) hzero
      (List.mem_map_of_mem ((hothers s').mpr ⟨hne, hs', hmonth⟩))
    obtain ⟨s'', -, rfl⟩ := List.mem_map.mp hx
    exact s''.taxed.1
  · intro hzero
    refine List.sum_eq_zero (fun x hx => ?_)
    obtain ⟨s', hs', rfl⟩ := List.mem_map.mp hx
    obtain ⟨hne, hs', hmonth⟩ := (hothers s').mp hs'
    exact hzero s' hs' hmonth hne

/-- The tax of a month is that of its payslips. -/
theorem taxOfMonth_congr {payslips' : List PayslipRow} (hnodup : payslips.Nodup)
    (hnodup' : payslips'.Nodup) (h : ∀ s, s.month = m → (s ∈ payslips ↔ s ∈ payslips')) :
    taxOfMonth payslips m = taxOfMonth payslips' m := by
  refine List.Perm.sum_eq (List.Perm.map _
    ((List.perm_ext_iff_of_nodup (hnodup.filter _) (hnodup'.filter _)).mpr (fun s => ?_)))
  simp only [List.mem_filter, decide_eq_true_eq]
  exact and_congr_left (h s)

end

/-! ## Deposits -/

/-- **Every taxed month is deposited in full**: an organisation has one challan a
month, and that of a taxed month is for the tax of its payslips. -/
structure DepositedInFull (organisation : OrganisationId) (fiscalYear : String)
    (challans : List PayrollTDSChallan) (payslips : List PayslipRow) : Prop where
  one : ∀ c ∈ challans, ∀ c' ∈ challans, c.organisation = c'.organisation → c.month = c'.month →
    c = c'
  taxed : ∀ s ∈ payslips, 0 < s.incomeTax → ∃ c ∈ challans, c.organisation = organisation
    ∧ c.fiscalYear = fiscalYear ∧ c.month = s.month ∧ c.taxDeposited = taxOfMonth payslips s.month

/-- A month of the four quarters. -/
def Month.IsInQuarters (fiscalYear : String) (month : Month) : Prop :=
  ∃ quarter months, quarterMonths fiscalYear quarter = .ok months ∧ month.isIn months = true

/-- **No month has two employees with tax.** -/
def OneTaxpayerAMonth (fiscalYear : String) (payslips : List PayslipRow) : Prop :=
  ∀ s ∈ payslips, ∀ s' ∈ payslips, s.month = s'.month → s.month.IsInQuarters fiscalYear →
    0 < s.incomeTax → 0 < s'.incomeTax → s.employee = s'.employee

section

variable {organisation : FilingOrganisation} {fiscalYear : String}
  {challans : List PayrollTDSChallan} {directory : EmployeeDirectory} {payRuns : List PayrollRun}
  {payslips counted : List PayslipRow} {byMonth : List (Month × PayrollTDSChallan)} {m : Month}
  {s : PayslipRow} {c : PayrollTDSChallan}

/-- The challans of an organisation that are found for a taxed month are its
deposit. -/
theorem DepositedInFull.deposit
    (h : DepositedInFull organisation.id fiscalYear challans payslips) (hs : s ∈ payslips)
    (hpos : 0 < s.incomeTax) (hc : c ∈ challans) (hown : c.organisation = organisation.id)
    (hmonth : c.month = s.month) : c.taxDeposited = taxOfMonth payslips s.month := by
  obtain ⟨c', hc', hown', -, hmonth', hdeposited⟩ := h.taxed s hs hpos
  rwa [h.one c hc c' hc' (hown.trans hown'.symm) (hmonth.trans hmonth'.symm)]

/-- What the map of the year has. -/
theorem mem_of_fiscalYearChallanMap
    (hmap : fiscalYearChallanMap organisation.id fiscalYear challans = .ok byMonth)
    (hc : Dict.get m byMonth = some c) : c ∈ challans ∧ c.organisation = organisation.id
      ∧ c.month = m ∧ m.IsInQuarters fiscalYear := by
  obtain ⟨months, hmonths, hmap⟩ := bind_eq_ok_iff.mp hmap
  obtain rfl := pure_eq_ok_iff.mp hmap
  obtain ⟨quarters, hquarters, hmonths⟩ := bind_eq_ok_iff.mp hmonths
  obtain rfl := pure_eq_ok_iff.mp hmonths
  obtain ⟨hmem, rfl⟩ := mem_of_get_challanMap hc
  obtain ⟨hmem, hfilter⟩ := List.mem_filter.mp hmem
  obtain ⟨hown, -, hin⟩ := of_decide_eq_true hfilter
  obtain ⟨months, hlist, hin⟩ := List.mem_flatten.mp (of_decide_eq_true hin)
  obtain ⟨quarter, -, hquarter⟩ := (mem_of_mapM hquarters).mp hlist
  exact ⟨hmem, hown, rfl, quarter, months, hquarter, decide_eq_true hin⟩

/-- **The deposit of a taxed month is found** for the year. -/
theorem exists_get_fiscalYearChallanMap
    (h : DepositedInFull organisation.id fiscalYear challans payslips)
    (hmap : fiscalYearChallanMap organisation.id fiscalYear challans = .ok byMonth)
    (hs : s ∈ payslips) (hpos : 0 < s.incomeTax) (hin : s.month.IsInQuarters fiscalYear) :
    ∃ c, Dict.get s.month byMonth = some c := by
  obtain ⟨months, hmonths, hmap⟩ := bind_eq_ok_iff.mp hmap
  obtain rfl := pure_eq_ok_iff.mp hmap
  obtain ⟨quarters, hquarters, hmonths⟩ := bind_eq_ok_iff.mp hmonths
  obtain rfl := pure_eq_ok_iff.mp hmonths
  obtain ⟨quarter, months, hquarter, hin⟩ := hin
  obtain ⟨c, hc, hown, hyear, hmonth, -⟩ := h.taxed s hs hpos
  have hall : quarter ∈ [TDSQuarter.q1, .q2, .q3, .q4] := by cases quarter <;> simp
  have hin : s.month.isIn quarters.flatten = true := decide_eq_true
    (List.mem_flatten.mpr ⟨months, (mem_of_mapM hquarters).mpr ⟨quarter, hall, hquarter⟩,
      of_decide_eq_true hin⟩)
  rw [← hmonth] at hin ⊢
  exact exists_get_challanMap (List.mem_filter.mpr ⟨hc, decide_eq_true ⟨hown, hyear, hin⟩⟩)

/-- **Form 16 has no mismatch** exactly when no month has two employees with
tax. -/
theorem noMismatch_form16_iff
    (hunique : ∀ s ∈ payslips, ∀ s' ∈ payslips, s.employee = s'.employee → s.month = s'.month →
      s = s') (hnodup : payslips.Nodup)
    (hpan : ∀ s ∈ payslips, (directory s.employee).pan ≠ "")
    (h : DepositedInFull organisation.id fiscalYear challans payslips)
    (hmap : fiscalYearChallanMap organisation.id fiscalYear challans = .ok byMonth) :
    (∀ b ∈ (form16Dataset fiscalYear byMonth directory organisation
        (groupEffectivePayslipsByEmployee directory payslips)).1, b.isChallanMismatch = false)
      ↔ OneTaxpayerAMonth fiscalYear payslips := by
  rw [noMismatch_form16Dataset hpan]
  constructor
  · intro halone s hs s' hs' hmonth hin hpos hpos'
    obtain ⟨c, hc⟩ := exists_get_fiscalYearChallanMap h hmap hs hpos hin
    obtain ⟨hmem, hown, hcmonth, -⟩ := mem_of_fiscalYearChallanMap hmap hc
    have htax : taxOfMonth payslips s.month = s.incomeTax :=
      (h.deposit hs hpos hmem hown hcmonth).symm.trans (halone s hs c hc hpos)
    by_contra hne
    refine hpos'.ne' ((taxOfMonth_eq_iff hnodup hs).mp htax s' hs' hmonth.symm ?_)
    rintro rfl
    exact hne rfl
  · intro hone s hs c hc hpos
    obtain ⟨hmem, hown, hcmonth, hin⟩ := mem_of_fiscalYearChallanMap hmap hc
    rw [h.deposit hs hpos hmem hown hcmonth]
    refine (taxOfMonth_eq_iff hnodup hs).mpr (fun s' hs' hmonth hne => ?_)
    refine le_antisymm (not_lt.mp (fun hpos' => hne ?_)) s'.taxed.1
    exact hunique s' hs' s hs (hone s hs s' hs' hmonth.symm hin hpos hpos').symm hmonth

theorem exists_fiscalYearChallanMap
    (hcounted : payslipsOfFiscalYear organisation.id fiscalYear directory payRuns payslips
      = .ok counted) (challans : List PayrollTDSChallan) :
    ∃ byMonth, fiscalYearChallanMap organisation.id fiscalYear challans = .ok byMonth := by
  obtain ⟨q₁, h₁⟩ := exists_quarterMonths hcounted .q1
  obtain ⟨q₂, h₂⟩ := exists_quarterMonths hcounted .q2
  obtain ⟨q₃, h₃⟩ := exists_quarterMonths hcounted .q3
  obtain ⟨q₄, h₄⟩ := exists_quarterMonths hcounted .q4
  unfold fiscalYearChallanMap fiscalYearMonths
  simp only [List.mapM_cons, h₁, h₂, h₃, h₄]
  exact ⟨_, rfl⟩

/-- **Form 24Q has no mismatch** in any quarter. -/
theorem noMismatch_form24QOfQuarter
    (hcounted : payslipsOfFiscalYear organisation.id fiscalYear directory payRuns payslips
      = .ok counted)
    (hpan : ∀ s ∈ counted, (directory s.employee).pan ≠ "")
    (h : DepositedInFull organisation.id fiscalYear challans counted) (quarter : TDSQuarter) :
    ∃ e, form24QOfQuarter organisation fiscalYear challans directory payRuns payslips quarter
      = .ok e ∧ ∀ b ∈ e.blockers, b.isChallanMismatch = false := by
  obtain ⟨months, hmonths⟩ := exists_quarterMonths hcounted quarter
  set runs := payRuns.filter (fun p => p.organisation = organisation.id ∧ p.status = .finalized
    ∧ p.month.isIn months = true)
  have hruns : finalizedRunsForQuarter organisation.id fiscalYear quarter payRuns = .ok runs :=
    bind_eq_ok_iff.mpr ⟨months, hmonths, rfl⟩
  set ofQuarter := effectivePayslipsForRuns directory (payslipsOfRuns runs payslips)
  have hquarter : payslipsOfQuarter organisation.id fiscalYear directory payRuns payslips quarter
      = .ok ofQuarter := bind_eq_ok_iff.mpr ⟨runs, hruns, rfl⟩
  set byMonth := challanMap (challans.filter (fun c => c.organisation = organisation.id
    ∧ c.fiscalYear = fiscalYear ∧ c.quarter = quarter ∧ c.month.isIn months = true)) with hmap
  have hmem : ∀ s, s ∈ ofQuarter ↔ s ∈ counted ∧ s.month.isIn months = true :=
    fun s => mem_payslipsOfQuarter hcounted hquarter hmonths
  refine ⟨form24QStatement directory byMonth organisation
    (groupEffectivePayslipsByEmployee directory ofQuarter), ?_, ?_⟩
  · exact bind_eq_ok_iff.mpr ⟨ofQuarter, hquarter, bind_eq_ok_iff.mpr
      ⟨byMonth, bind_eq_ok_iff.mpr ⟨months, hmonths, rfl⟩, rfl⟩⟩
  · refine noMismatch_form24QStatement (fun s hs => hpan s ((hmem s).mp hs).1)
      (fun m c hc hpos => ?_)
    obtain ⟨s, hs, rfl, hspos⟩ := exists_taxed_of_taxOfMonth hpos
    obtain ⟨hcmem, hcmonth⟩ := mem_of_get_challanMap hc
    obtain ⟨hcmem, hfilter⟩ := List.mem_filter.mp hcmem
    obtain ⟨hscounted, hin⟩ := (hmem s).mp hs
    rw [h.deposit hscounted hspos hcmem (of_decide_eq_true hfilter).1 hcmonth]
    refine taxOfMonth_congr (nodup_payslipsOfFiscalYear hcounted) nodup_effective
      (fun s' hs' => ?_)
    rw [hmem s', hs', and_iff_left hin]

/-- **The two filings agree** on deposits that are right exactly when no month has
two employees with tax. -/
theorem filings_agree_iff (organisation : FilingOrganisation) (fiscalYear : String)
    (challans : List PayrollTDSChallan) (directory : EmployeeDirectory)
    (payRuns : List PayrollRun) (payslips counted : List PayslipRow)
    (hcounted : payslipsOfFiscalYear organisation.id fiscalYear directory payRuns payslips
      = .ok counted)
    (hpan : ∀ s ∈ counted, (directory s.employee).pan ≠ "")
    (hdeposited : DepositedInFull organisation.id fiscalYear challans counted) :
    ((∃ dataset, form16OfFiscalYear organisation fiscalYear challans directory payRuns payslips
          = .ok dataset ∧ ∀ b ∈ dataset.2, b.isChallanMismatch = false)
      ∧ ∀ quarter, ∃ e, form24QOfQuarter organisation fiscalYear challans directory payRuns
          payslips quarter = .ok e ∧ ∀ b ∈ e.blockers, b.isChallanMismatch = false)
      ↔ OneTaxpayerAMonth fiscalYear counted := by
  rw [and_iff_left (noMismatch_form24QOfQuarter hcounted hpan hdeposited)]
  obtain ⟨byMonth, hmap⟩ := exists_fiscalYearChallanMap hcounted challans
  rw [← noMismatch_form16_iff (unique_payslipsOfFiscalYear hcounted)
    (nodup_payslipsOfFiscalYear hcounted) hpan hdeposited hmap]
  have hdataset : form16OfFiscalYear organisation fiscalYear challans directory payRuns payslips
      = .ok ((form16Dataset fiscalYear byMonth directory organisation
          (groupEffectivePayslipsByEmployee directory counted)).2,
        (form16Dataset fiscalYear byMonth directory organisation
          (groupEffectivePayslipsByEmployee directory counted)).1) :=
    bind_eq_ok_iff.mpr ⟨counted, hcounted, bind_eq_ok_iff.mpr ⟨byMonth, hmap, rfl⟩⟩
  constructor
  · rintro ⟨dataset, hok, hnone⟩
    obtain rfl := Except.ok.inj (hdataset.symm.trans hok)
    exact hnone
  · exact fun hnone => ⟨_, hdataset, hnone⟩

end

namespace Sample

def taxed : PayslipRow := april2024 2 2 200000 (by decide +kernel)

def alsoTaxed : PayslipRow := april2024 3 3 200000 (by decide +kernel)

/-- The April payslips of run 1. -/
def countedForYear (payslips : List PayslipRow) : List PayslipRow :=
  effectivePayslipsForRuns filers (payslipsOfRuns [payRunOf 1 .regular] payslips)

theorem payslipsOfFiscalYear_sample (payslips : List PayslipRow) :
    payslipsOfFiscalYear 1 "2024-2025" filers [payRunOf 1 .regular] payslips
      = .ok (countedForYear payslips) :=
  bind_eq_ok_iff.mpr ⟨_, by decide +kernel, rfl⟩

end Sample

theorem filings_agree_iff_sample :
    ((∃ dataset, form16OfFiscalYear Sample.filingOrganisation "2024-2025"
          [Sample.aprilChallan 3358333] Sample.filers [Sample.payRunOf 1 .regular]
          [Sample.untaxed, Sample.taxed] = .ok dataset
          ∧ ∀ b ∈ dataset.2, b.isChallanMismatch = false)
      ∧ ∀ quarter, ∃ e, form24QOfQuarter Sample.filingOrganisation "2024-2025"
          [Sample.aprilChallan 3358333] Sample.filers [Sample.payRunOf 1 .regular]
          [Sample.untaxed, Sample.taxed] quarter = .ok e
          ∧ ∀ b ∈ e.blockers, b.isChallanMismatch = false)
      ↔ OneTaxpayerAMonth "2024-2025" (Sample.countedForYear [Sample.untaxed, Sample.taxed]) :=
  filings_agree_iff Sample.filingOrganisation "2024-2025" [Sample.aprilChallan 3358333]
    Sample.filers [Sample.payRunOf 1 .regular] [Sample.untaxed, Sample.taxed] _
    (Sample.payslipsOfFiscalYear_sample _) (by decide +kernel)
    ⟨by decide +kernel, by decide +kernel⟩

/-- **Two employees with tax in April**, and a challan for the tax of both: each of
them has a mismatch on Form 16. -/
theorem two_taxpayers_mismatch :
    strip Sample.filingOrganisation.tanNumber.toList ≠ []
      ∧ (∀ s ∈ Sample.countedForYear [Sample.taxed, Sample.alsoTaxed],
        (Sample.filers s.employee).pan ≠ "")
      ∧ DepositedInFull 1 "2024-2025" [Sample.aprilChallan 6716666]
        (Sample.countedForYear [Sample.taxed, Sample.alsoTaxed])
      ∧ ∃ dataset, form16OfFiscalYear Sample.filingOrganisation "2024-2025"
          [Sample.aprilChallan 6716666] Sample.filers [Sample.payRunOf 1 .regular]
          [Sample.taxed, Sample.alsoTaxed] = .ok dataset
        ∧ dataset.2 = [
          .challanMismatch (Sample.filers 2) (6716666 / 100) (3358333 / 100) (2024, 4),
          .challanMismatch (Sample.filers 3) (6716666 / 100) (3358333 / 100) (2024, 4)] := by
  refine ⟨by decide +kernel, by decide +kernel, ⟨by decide +kernel, by decide +kernel⟩, _,
    bind_eq_ok_iff.mpr ⟨_, Sample.payslipsOfFiscalYear_sample _, bind_eq_ok_iff.mpr
      ⟨challanMap [Sample.aprilChallan 6716666], by decide +kernel, rfl⟩⟩, by decide +kernel⟩

end Payroll
