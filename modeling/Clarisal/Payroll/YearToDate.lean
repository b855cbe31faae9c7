import Clarisal.Payroll.Arrears
import Clarisal.Payroll.Form24Q
import Clarisal.Payroll.Withholding

/-!
# The year to date

A final settlement is taxed on top of what the employee was paid and taxed in the
fiscal year so far. The year to date is added up from the finalized payslips, in
another way than the filings do it: every payslip counts, also one whose month
was paid again by a later run, and the taxable pay is read off the lines, which
show a full month and no arrears.

So the tax to date is that of the effective payslips exactly when no payslip that
bears tax was superseded, and the taxable pay to date is theirs exactly when what
superseded payslips add is what the lines of the others leave out
(`ytd_agrees_iff`).
-/

open Approvals Calendar

namespace Payroll

open Transaction

/-! ## The tax context -/

def SnapshotLine.isTaxableEarning (line : SnapshotLine) : Bool :=
  line.componentType = .earning ∧ line.isTaxable = true

/-- The lines of a kind, in whole paise. -/
def amountOf (p : SnapshotLine → Bool) (lines : List SnapshotLine) : ℚ :=
  ((lines.filter p).map (fun line => normalizeDecimal line.monthlyAmount)).sum

/-- The taxable earnings of a payslip, read off its lines. The gross pay stands
in for lines that come to nothing. -/
def sumTaxableSnapshotEarnings (snapshot : PayslipSnapshot) : ℚ :=
  let taxableLinesTotal := amountOf SnapshotLine.isTaxableEarning snapshot.lines
  if 0 < taxableLinesTotal then normalizeDecimal taxableLinesTotal
  else normalizeDecimal (normalizeDecimal snapshot.grossPay)

/-- The month is not after the one of the date. -/
def Month.isUpTo (month : Month) (date : Date) : Bool :=
  month.1 < date.year ∨ (month.1 = date.year ∧ month.2 ≤ date.month)

/-- **Taxable income and tax of the year to date**, of all finalized payslips. -/
def getFnfYtdTaxContext (employee : EmployeeId) (lastWorkingDay : Date)
    (payslips : List PayslipRow) : Except String (ℚ × ℚ) := do
  let bounds ← fiscalYearBounds (fiscalYearForPeriod lastWorkingDay.year lastWorkingDay.month)
  let payslips := payslips.filter (fun s => s.employee = employee ∧ s.payRun.status = .finalized
    ∧ s.month.isWithin bounds = true ∧ s.month.isUpTo lastWorkingDay = true)
  return (normalizeDecimal (payslips.map (fun s => sumTaxableSnapshotEarnings s.snapshot)).sum,
    normalizeDecimal (payslips.map (fun s => normalizeDecimal s.incomeTax)).sum)

/-! ## The taxable pay of a payslip -/

def SnapshotLine.isPf (line : SnapshotLine) : Bool :=
  line.componentCode = "PF_EMPLOYEE" ∨ line.componentCode = "PF_EMPLOYER"

/-- A line that is taxed: pay of the month that is taxable. Provident-fund lines
are not pay. -/
def SnapshotLine.isTaxed (line : SnapshotLine) : Bool :=
  (line.componentType = .earning ∨ line.componentType = .reimbursement)
    ∧ line.isTaxable = true ∧ line.isPf = false

namespace PayslipSnapshot

variable (snapshot : PayslipSnapshot)

/-- What would be taxed in a full month. -/
def fullTaxablePay : ℚ := amountOf SnapshotLine.isTaxed snapshot.lines + max 0 snapshot.arrears

/-- **The taxable pay**, for the days paid and with arrears. -/
def taxablePay : ℚ := snapshot.prorate snapshot.fullTaxablePay

end PayslipSnapshot

theorem onPaise_amountOf (p : SnapshotLine → Bool) (lines : List SnapshotLine) :
    OnPaise (amountOf p lines) := by
  refine Decimal.onGrid_sum (fun x hx => ?_)
  obtain ⟨line, -, rfl⟩ := List.mem_map.mp hx
  exact onPaise_normalizeDecimal _

theorem amountOf_append (p : SnapshotLine → Bool) (lines lines' : List SnapshotLine) :
    amountOf p (lines ++ lines') = amountOf p lines + amountOf p lines' := by
  simp [amountOf]

/-- Lines of other kinds add nothing. -/
theorem amountOf_eq_zero {p : SnapshotLine → Bool} {lines : List SnapshotLine}
    (h : ∀ line ∈ lines, p line = false) : amountOf p lines = 0 := by
  unfold amountOf
  rw [List.filter_eq_nil_iff.mpr (fun line hline => by simp [h line hline])]
  rfl

section

variable {inp : ItemInputs}

/-- The taxed lines of an assignment, as the item lists them. -/
theorem amountOf_listed (lines : List CompensationAssignmentLine) :
    amountOf SnapshotLine.isTaxed (lines.map inp.listedLine)
      = (lines.map CompensationAssignmentLine.taxablePay).sum := by
  induction lines with
  | nil => rfl
  | cons line lines ih =>
    have hline : amountOf SnapshotLine.isTaxed [inp.listedLine line] = line.taxablePay := by
      cases hpf : line.isPf with
      | true =>
        have hcode : (inp.listedLine line).isPf = true := by
          simpa [SnapshotLine.isPf, CompensationAssignmentLine.isPf] using hpf
        rw [amountOf_eq_zero (fun l hl => by
          rw [List.mem_singleton.mp hl, SnapshotLine.isTaxed, hcode]; simp)]
        simp [CompensationAssignmentLine.taxablePay, hpf]
      | false =>
        have hcode : line.snapshot.isPf = false := hpf
        rw [ItemInputs.listedLine_of_not_pf hpf]
        unfold amountOf CompensationAssignmentLine.taxablePay
        rw [List.filter_singleton, SnapshotLine.isTaxed, hcode, if_neg (by simp [hpf])]
        cases htype : line.componentType <;> cases htaxable : line.isTaxable <;>
          simp [CompensationAssignmentLine.snapshot, htype, htaxable]
    rw [List.map_cons, ← List.singleton_append, amountOf_append, hline, ih, List.map_cons,
      List.sum_cons]

/-- **The taxable pay of an issued payslip** is the one its tax was computed on. -/
theorem PayslipRow.taxablePay_eq (s : PayslipRow) :
    s.snapshot.annualTaxableGross
      = normalizeDecimal (s.snapshot.taxablePay * monthsRemainingInFiscalYear s.month.2) := by
  obtain ⟨inp, -, -, hmonth, hcalc⟩ := s.calculated
  obtain ⟨window, pt, ptBasis, -, -, -, hsnapshot, -⟩ := calculateItem_eq_ready hcalc
  have hlines : s.snapshot.lines = inp.itemLines := (linesTotal_sub_total hcalc .earnings).1
  have hauto : ∀ line ∈ inp.computedLines ++ inp.reimbursementLines, line.isTaxed = false := by
    intro line hline
    rcases List.mem_append.mp hline with hline | hline
    · obtain ⟨code, type, amount, rfl, -, -⟩ := ItemInputs.autoLine_of_mem_computedLines hline
      simp [SnapshotLine.isTaxed, autoLine]
    · obtain ⟨claim, -, rfl⟩ := List.mem_map.mp hline
      simp [SnapshotLine.isTaxed, autoLine]
  have hfull : s.snapshot.fullTaxablePay = (inp.fullMonth window pt).taxableMonthly := by
    have harrears : s.snapshot.arrears = inp.arrears := congrArg ItemSnapshot.arrears hsnapshot
    rw [fullMonth_taxableMonthly, PayslipSnapshot.fullTaxablePay, hlines, harrears,
      ItemInputs.itemLines, List.append_assoc, amountOf_append, amountOf_listed,
      amountOf_eq_zero hauto, add_zero]
    rfl
  have htaxable : s.snapshot.taxablePay = inp.prorate (inp.fullMonth window pt).taxableMonthly := by
    rw [PayslipSnapshot.taxablePay, hfull]
    exact prorate_payslipSnapshot hcalc _
  have hannual : s.snapshot.annualTaxableGross
      = inp.annualTaxableGross (inp.prorate (inp.fullMonth window pt).taxableMonthly) :=
    congrArg (fun snapshot => snapshot.tax.annualTaxableGross) hsnapshot
  rw [hannual, htaxable]
  unfold ItemInputs.annualTaxableGross ItemInputs.monthsRemaining
  rw [hmonth]
  rfl

end

/-! ## What the lines leave out -/

/-- Taxed lines that are not earnings. -/
def SnapshotLine.isOtherTaxed (line : SnapshotLine) : Bool :=
  line.isTaxed = true ∧ line.isTaxableEarning = false

/-- Lines that count as taxable earnings and are not taxed. -/
def SnapshotLine.isUntaxedEarning (line : SnapshotLine) : Bool :=
  line.isTaxableEarning = true ∧ line.isTaxed = false

namespace PayslipSnapshot

variable (snapshot : PayslipSnapshot)

/-- The taxable pay that the days not paid take away. -/
def unpaidPart : ℚ := snapshot.fullTaxablePay - snapshot.taxablePay

/-- **What reading off the lines leaves out** of the taxable pay: the arrears and the
taxed lines that are not earnings. It adds the earnings that are not taxed and
the pay of the days not paid. -/
def leftOut : ℚ :=
  (if 0 < amountOf SnapshotLine.isTaxableEarning snapshot.lines then
      max 0 snapshot.arrears + amountOf SnapshotLine.isOtherTaxed snapshot.lines
        - amountOf SnapshotLine.isUntaxedEarning snapshot.lines
    else snapshot.fullTaxablePay - normalizeDecimal snapshot.grossPay)
  - snapshot.unpaidPart

theorem amountOf_taxed_add_untaxed (lines : List SnapshotLine) :
    amountOf SnapshotLine.isTaxed lines + amountOf SnapshotLine.isUntaxedEarning lines
      = amountOf SnapshotLine.isTaxableEarning lines
        + amountOf SnapshotLine.isOtherTaxed lines := by
  induction lines with
  | nil => rfl
  | cons line lines ih =>
    have hline : amountOf SnapshotLine.isTaxed [line]
          + amountOf SnapshotLine.isUntaxedEarning [line]
        = amountOf SnapshotLine.isTaxableEarning [line]
          + amountOf SnapshotLine.isOtherTaxed [line] := by
      unfold amountOf SnapshotLine.isUntaxedEarning SnapshotLine.isOtherTaxed
      cases h : line.isTaxed <;> cases h' : line.isTaxableEarning <;> simp [h, h']
    simp only [← List.singleton_append (l := lines), amountOf_append]
    linarith

theorem onPaise_sumTaxableSnapshotEarnings : OnPaise (sumTaxableSnapshotEarnings snapshot) := by
  unfold sumTaxableSnapshotEarnings
  dsimp only
  split <;> exact onPaise_normalizeDecimal _

/-- **The taxable pay** is what the lines show and what they leave out. -/
theorem sumTaxableSnapshotEarnings_add_leftOut :
    sumTaxableSnapshotEarnings snapshot + snapshot.leftOut = snapshot.taxablePay := by
  unfold sumTaxableSnapshotEarnings leftOut unpaidPart
  dsimp only
  split
  · have hsplit := amountOf_taxed_add_untaxed snapshot.lines
    rw [normalizeDecimal_of_onPaise (onPaise_amountOf _ _)]
    unfold fullTaxablePay
    linarith
  · rw [normalizeDecimal_normalizeDecimal]
    ring

/-- **A full month without arrears**, taxed on its earnings: the lines show all of
the taxable pay. -/
theorem leftOut_eq_zero (hfull : ¬ snapshot.paidDays < snapshot.totalDaysInPeriod)
    (harrears : snapshot.arrears ≤ 0)
    (hearnings : 0 < amountOf SnapshotLine.isTaxableEarning snapshot.lines)
    (hlines : ∀ line ∈ snapshot.lines, line.isTaxed = line.isTaxableEarning) :
    snapshot.leftOut = 0 := by
  have hother : amountOf SnapshotLine.isOtherTaxed snapshot.lines = 0 :=
    amountOf_eq_zero (fun line hline => by
      unfold SnapshotLine.isOtherTaxed
      rw [hlines line hline]
      cases line.isTaxableEarning <;> rfl)
  have huntaxed : amountOf SnapshotLine.isUntaxedEarning snapshot.lines = 0 :=
    amountOf_eq_zero (fun line hline => by
      unfold SnapshotLine.isUntaxedEarning
      rw [hlines line hline]
      cases line.isTaxableEarning <;> rfl)
  rw [leftOut, if_pos hearnings, hother, huntaxed, unpaidPart, taxablePay,
    prorate, if_neg hfull, max_eq_left harrears]
  ring

end PayslipSnapshot

/-! ## The year up to a date -/

/-- The fiscal year of the date is made of years that dates have. -/
def HasFiscalYear (date : Date) : Prop :=
  1 ≤ fiscalYearStart date.year date.month ∧ fiscalYearStart date.year date.month + 1 ≤ 9999

/-- The month is of the date's fiscal year, and not after the date's month. -/
def Month.isToDate (month : Month) (date : Date) : Bool :=
  ((month.1 = fiscalYearStart date.year date.month ∧ 4 ≤ month.2)
      ∨ (month.1 = fiscalYearStart date.year date.month + 1 ∧ month.2 ≤ 3))
    ∧ month.isUpTo date = true

/-- The finalized payslips of an employee in the year to date. -/
def payslipsToDate (employee : EmployeeId) (date : Date) (payslips : List PayslipRow) :
    List PayslipRow :=
  payslips.filter (fun s => s.employee = employee ∧ s.payRun.status = .finalized
    ∧ s.month.isToDate date = true)

section

variable {date : Date} {bounds : Date × Date}

theorem exists_fiscalYearBounds (h : HasFiscalYear date) :
    ∃ bounds, fiscalYearBounds (fiscalYearForPeriod date.year date.month) = .ok bounds := by
  obtain ⟨hfirst, hlast⟩ := h
  obtain ⟨april, hapril⟩ := exists_yearDate (fiscalYearStart date.year date.month) 4 1
    ⟨hfirst, by omega⟩ (by decide) ⟨le_rfl, by simp [daysInMonth]⟩
  obtain ⟨march, hmarch⟩ := exists_yearDate (fiscalYearStart date.year date.month + 1) 3 31
    ⟨by omega, hlast⟩ (by decide) ⟨by decide, by simp [daysInMonth]⟩
  rw [fiscalYearForPeriod_eq date.valid.1]
  exact ⟨(april, march), fiscalYearBounds_label.mpr ⟨hapril, hmarch⟩⟩

/-- **The bounds of the fiscal year of a date.** -/
theorem isWithin_fiscalYear
    (h : fiscalYearBounds (fiscalYearForPeriod date.year date.month) = .ok bounds) :
    HasFiscalYear date ∧ ∀ month : Month,
      (month.isWithin bounds = true ∧ month.isUpTo date = true) ↔ month.isToDate date = true := by
  rw [fiscalYearForPeriod_eq date.valid.1] at h
  obtain ⟨hfirst, hlast⟩ := fiscalYearBounds_label.mp h
  obtain ⟨hfirst, hapril⟩ := yearDate_eq_ok hfirst
  obtain ⟨hlast, hmarch⟩ := yearDate_eq_ok hlast
  obtain ⟨hone, -⟩ := bounds.1.valid
  obtain ⟨-, hmax, -⟩ := bounds.2.valid
  refine ⟨⟨by omega, by omega⟩, fun month => ?_⟩
  unfold Month.isToDate Month.isWithin
  simp only [decide_eq_true_eq]
  refine and_congr_left (fun _ => ?_)
  omega

variable {organisation : OrganisationId} {directory : EmployeeDirectory}
  {payRuns : List PayrollRun} {payslips counted : List PayslipRow} {employee : EmployeeId}

/-- **The context adds up all payslips** of the year to date. -/
theorem getFnfYtdTaxContext_eq_ok {context : ℚ × ℚ}
    (h : getFnfYtdTaxContext employee date payslips = .ok context) :
    context = (((payslipsToDate employee date payslips).map
        (fun s => sumTaxableSnapshotEarnings s.snapshot)).sum,
      ((payslipsToDate employee date payslips).map PayslipRow.incomeTax).sum) := by
  obtain ⟨bounds, hbounds, h⟩ := bind_eq_ok_iff.mp h
  obtain rfl := pure_eq_ok_iff.mp h
  have hfilter : payslips.filter (fun s => s.employee = employee ∧ s.payRun.status = .finalized
      ∧ s.month.isWithin bounds = true ∧ s.month.isUpTo date = true)
      = payslipsToDate employee date payslips := by
    refine List.filter_congr (fun s _ => ?_)
    rw [decide_eq_decide, (isWithin_fiscalYear hbounds).2 s.month]
  have hpay : OnPaise ((payslipsToDate employee date payslips).map
      (fun s => sumTaxableSnapshotEarnings s.snapshot)).sum := by
    refine Decimal.onGrid_sum (fun x hx => ?_)
    obtain ⟨s, -, rfl⟩ := List.mem_map.mp hx
    exact s.snapshot.onPaise_sumTaxableSnapshotEarnings
  have htax : (payslipsToDate employee date payslips).map
      (fun s => normalizeDecimal s.incomeTax)
      = (payslipsToDate employee date payslips).map PayslipRow.incomeTax :=
    List.map_congr_left (fun s _ => normalizeDecimal_of_onPaise s.taxed.2.1)
  have htaxes : OnPaise ((payslipsToDate employee date payslips).map PayslipRow.incomeTax).sum := by
    refine Decimal.onGrid_sum (fun x hx => ?_)
    obtain ⟨s, -, rfl⟩ := List.mem_map.mp hx
    exact s.taxed.2.1
  rw [hfilter, htax, normalizeDecimal_of_onPaise hpay, normalizeDecimal_of_onPaise htaxes]

/-- **The effective payslips** of the year to date, among those of the
organisation. -/
theorem sum_countedToDate
    (hown : ∀ s ∈ payslips, s.employee = employee →
      s.payRun ∈ payRuns ∧ s.payRun.organisation = organisation)
    (hcounted : payslipsOfFiscalYear organisation (fiscalYearForPeriod date.year date.month)
      directory payRuns payslips = .ok counted) (f : PayslipRow → ℚ) :
    ((counted.filter (fun s => s.employee = employee ∧ s.month.isUpTo date = true)).map f).sum
      = ((effectivePayslipsForRuns directory
          (payslipsToDate employee date payslips)).map f).sum := by
  have hnodup := nodup_payslipsOfFiscalYear hcounted
  obtain ⟨runs, hruns, hcounted⟩ := bind_eq_ok_iff.mp hcounted
  obtain rfl := pure_eq_ok_iff.mp hcounted
  obtain ⟨bounds, hbounds, hruns⟩ := bind_eq_ok_iff.mp hruns
  obtain rfl := pure_eq_ok_iff.mp hruns
  have hwithin := (isWithin_fiscalYear hbounds).2
  refine List.Perm.sum_eq (List.Perm.map _
    ((List.perm_ext_iff_of_nodup (hnodup.filter _) nodup_effective).mpr (fun s => ?_)))
  rw [List.mem_filter, ← mem_effective_filter (fun key : EmployeeId × Month =>
    key.1 = employee ∧ key.2.isUpTo date = true)]
  -- the employee's payslips are of the organisation's runs
  have hfilter : (payslipsOfRuns (payRuns.filter (fun p => p.organisation = organisation
      ∧ p.status = .finalized ∧ p.month.isWithin bounds = true)) payslips).filter
        (fun s => s.employee = employee ∧ s.month.isUpTo date = true)
      = payslipsToDate employee date payslips := by
    unfold payslipsOfRuns payslipsToDate
    rw [List.filter_filter]
    refine List.filter_congr (fun s hs => ?_)
    have hmonth : s.month = s.payRun.month := rfl
    rw [Bool.eq_iff_iff, Bool.and_eq_true, decide_eq_true_iff, decide_eq_true_iff,
      decide_eq_true_iff, List.mem_filter, decide_eq_true_iff, ← hwithin s.month, hmonth]
    constructor
    · rintro ⟨⟨hemployee, hupTo⟩, -, -, hstatus, hin⟩
      exact ⟨hemployee, hstatus, hin, hupTo⟩
    · rintro ⟨hemployee, hstatus, hin, hupTo⟩
      obtain ⟨hrun, horganisation⟩ := hown s hs hemployee
      exact ⟨⟨hemployee, hupTo⟩, hrun, horganisation, hstatus, hin⟩
  rw [hfilter]

/-- The effective payslips of the year to date bear all its tax when no superseded
one bears any. -/
theorem sum_superseded_eq_zero (directory : EmployeeDirectory) (payslips : List PayslipRow) :
    ((supersededPayslips directory payslips).map PayslipRow.incomeTax).sum = 0
      ↔ ∀ s ∈ supersededPayslips directory payslips, s.incomeTax = 0 := by
  constructor
  · intro hzero s hs
    refine List.all_zero_of_le_zero_le_of_sum_eq_zero (fun x hx => ?_) hzero
      (List.mem_map_of_mem hs)
    obtain ⟨s', -, rfl⟩ := List.mem_map.mp hx
    exact s'.taxed.1
  · intro hzero
    refine List.sum_eq_zero (fun x hx => ?_)
    obtain ⟨s, hs, rfl⟩ := List.mem_map.mp hx
    exact hzero s hs

end

/-- **The year to date is that of the effective payslips**: its tax is theirs, and
its taxable income their taxable pay. -/
def YtdAgrees (organisation : OrganisationId) (directory : EmployeeDirectory)
    (payRuns : List PayrollRun) (payslips : List PayslipRow) (employee : EmployeeId)
    (date : Date) : Prop :=
  ∃ counted context,
    payslipsOfFiscalYear organisation (fiscalYearForPeriod date.year date.month) directory payRuns
        payslips = .ok counted
      ∧ getFnfYtdTaxContext employee date payslips = .ok context
      ∧ context.2 = ((counted.filter (fun s => s.employee = employee
          ∧ s.month.isUpTo date = true)).map PayslipRow.incomeTax).sum
      ∧ context.1 = ((counted.filter (fun s => s.employee = employee
          ∧ s.month.isUpTo date = true)).map (fun s => s.snapshot.taxablePay)).sum

/-- **When the year to date is right**: no superseded payslip bears tax, and what the
superseded ones add to the pay is what the lines of the effective ones leave
out. -/
theorem ytd_agrees_iff (organisation : OrganisationId) (directory : EmployeeDirectory)
    (payRuns : List PayrollRun) (payslips : List PayslipRow) (employee : EmployeeId) (date : Date)
    (hnodup : payslips.Nodup)
    (hown : ∀ s ∈ payslips, s.employee = employee →
      s.payRun ∈ payRuns ∧ s.payRun.organisation = organisation) :
    YtdAgrees organisation directory payRuns payslips employee date
      ↔ HasFiscalYear date
        ∧ (∀ s ∈ supersededPayslips directory (payslipsToDate employee date payslips),
          s.incomeTax = 0)
        ∧ ((supersededPayslips directory (payslipsToDate employee date payslips)).map
            (fun s => sumTaxableSnapshotEarnings s.snapshot)).sum
          = ((effectivePayslipsForRuns directory (payslipsToDate employee date payslips)).map
            (fun s => s.snapshot.leftOut)).sum := by
  set own := payslipsToDate employee date payslips with hpayslips
  have hsplit := sum_effective_add_superseded directory (show own.Nodup from hnodup.filter _)
  have hpay : ((effectivePayslipsForRuns directory own).map
        (fun s => sumTaxableSnapshotEarnings s.snapshot)).sum
      + ((effectivePayslipsForRuns directory own).map (fun s => s.snapshot.leftOut)).sum
      = ((effectivePayslipsForRuns directory own).map (fun s => s.snapshot.taxablePay)).sum := by
    rw [← List.sum_map_add]
    exact congrArg List.sum (List.map_congr_left (fun s _ =>
      s.snapshot.sumTaxableSnapshotEarnings_add_leftOut))
  have htax := sum_superseded_eq_zero directory own
  constructor
  · rintro ⟨counted, context, hcounted, hcontext, htaxes, hincome⟩
    rw [sum_countedToDate hown hcounted] at htaxes hincome
    obtain ⟨bounds, hbounds, -⟩ := bind_eq_ok_iff.mp hcontext
    obtain rfl := getFnfYtdTaxContext_eq_ok hcontext
    rw [hsplit PayslipRow.incomeTax] at htaxes
    rw [hsplit (fun s => sumTaxableSnapshotEarnings s.snapshot), ← hpay] at hincome
    exact ⟨(isWithin_fiscalYear hbounds).1, htax.mp (by linarith), by linarith⟩
  · rintro ⟨hyear, hzero, hbalance⟩
    obtain ⟨bounds, hbounds⟩ := exists_fiscalYearBounds hyear
    obtain ⟨counted, hcounted⟩ : ∃ counted, payslipsOfFiscalYear organisation
        (fiscalYearForPeriod date.year date.month) directory payRuns payslips = .ok counted :=
      ⟨_, bind_eq_ok_iff.mpr ⟨_, bind_eq_ok_iff.mpr ⟨bounds, hbounds, rfl⟩, rfl⟩⟩
    obtain ⟨context, hcontext⟩ : ∃ context,
        getFnfYtdTaxContext employee date payslips = .ok context :=
      ⟨_, bind_eq_ok_iff.mpr ⟨bounds, hbounds, rfl⟩⟩
    refine ⟨counted, context, hcounted, hcontext, ?_, ?_⟩ <;>
      rw [sum_countedToDate hown hcounted, getFnfYtdTaxContext_eq_ok hcontext]
    · show (own.map PayslipRow.incomeTax).sum = _
      rw [hsplit PayslipRow.incomeTax, htax.mpr hzero, add_zero]
    · show (own.map (fun s => sumTaxableSnapshotEarnings s.snapshot)).sum = _
      rw [hsplit (fun s => sumTaxableSnapshotEarnings s.snapshot), hbalance, hpay]

namespace Sample

/-- The April payslip of employee 2, issued by a run and again by its rerun. -/
def original : PayslipRow :=
  payslipRow 2 (payRunOf 1 .regular)
    (inputs aprilPeriod { employee with id := 2 } (assignment 200000)) rfl rfl (by decide +kernel)

def reissued : PayslipRow :=
  payslipRow 5 (payRunOf 4 .rerun)
    (inputs aprilPeriod { employee with id := 2 } (assignment 200000)) rfl rfl (by decide +kernel)

def lastWorkingDay : Date := ⟨2024, 5, 31, by decide⟩

end Sample

theorem ytd_agrees_iff_sample :
    YtdAgrees 1 Sample.filers [Sample.payRunOf 1 .regular] [Sample.original] 2
        Sample.lastWorkingDay
      ↔ HasFiscalYear Sample.lastWorkingDay
        ∧ (∀ s ∈ supersededPayslips Sample.filers
            (payslipsToDate 2 Sample.lastWorkingDay [Sample.original]), s.incomeTax = 0)
        ∧ ((supersededPayslips Sample.filers
            (payslipsToDate 2 Sample.lastWorkingDay [Sample.original])).map
            (fun s => sumTaxableSnapshotEarnings s.snapshot)).sum
          = ((effectivePayslipsForRuns Sample.filers
            (payslipsToDate 2 Sample.lastWorkingDay [Sample.original])).map
            (fun s => s.snapshot.leftOut)).sum :=
  ytd_agrees_iff 1 Sample.filers [Sample.payRunOf 1 .regular] [Sample.original] 2
    Sample.lastWorkingDay (by decide +kernel) (by decide +kernel)

/-- **A rerun counts twice**: the year to date has the tax of April from the run and
from its rerun, of which only the rerun is effective. -/
theorem rerun_counted_twice :
    getFnfYtdTaxContext 2 Sample.lastWorkingDay [Sample.original, Sample.reissued]
        = .ok (400000, 6716666 / 100)
      ∧ payslipsOfFiscalYear 1 (fiscalYearForPeriod 2024 5) Sample.filers
          [Sample.payRunOf 1 .regular, Sample.payRunOf 4 .rerun]
          [Sample.original, Sample.reissued] = .ok [Sample.reissued]
      ∧ Sample.reissued.incomeTax = 3358333 / 100
      ∧ Sample.reissued.snapshot.taxablePay = 200000
      ∧ ¬ YtdAgrees 1 Sample.filers [Sample.payRunOf 1 .regular, Sample.payRunOf 4 .rerun]
        [Sample.original, Sample.reissued] 2 Sample.lastWorkingDay := by
  have hcontext : getFnfYtdTaxContext 2 Sample.lastWorkingDay [Sample.original, Sample.reissued]
      = .ok (400000, 6716666 / 100) := by decide +kernel
  have hcounted : payslipsOfFiscalYear 1 (fiscalYearForPeriod 2024 5) Sample.filers
      [Sample.payRunOf 1 .regular, Sample.payRunOf 4 .rerun]
      [Sample.original, Sample.reissued] = .ok [Sample.reissued] := by decide +kernel
  refine ⟨hcontext, hcounted, by decide +kernel, by decide +kernel, ?_⟩
  rintro ⟨counted, context, hcounted', hcontext', htaxes, -⟩
  obtain rfl := Except.ok.inj (hcounted.symm.trans hcounted')
  obtain rfl := Except.ok.inj (hcontext.symm.trans hcontext')
  revert htaxes
  decide +kernel

end Payroll
