import Clarisal.Payroll.ServiceDays

/-!
# Loss of pay

A day without pay costs a day of the monthly gross pay. The deduction divides the gross
pay of the item by the days of the month, and that of a month of joining or leaving is
pro-rated already: each day then costs a fraction of a fraction, and an employee who is
absent on all days of the part is still paid for some (`absent_and_paid`).

So for an employee and a month the deduction is the loss exactly when the month is a
whole one, or no day of it is paid (`losesPay_iff`).
-/

open Calendar

namespace Payroll

/-- What an item pays besides the reimbursements. -/
def salaryOf (amounts : ItemAmounts) (snapshot : ItemSnapshot) : ℚ :=
  amounts.grossPay - snapshot.expenseReimbursements

theorem PayPeriod.totalDays_le (p : PayPeriod) : p.totalDays ≤ 31 := by
  unfold PayPeriod.totalDays daysInMonth
  split_ifs <;> omega

namespace ItemInputs

/-- **Pay is lost day by day**: an employee absent on all days paid loses the salary, up to a
paisa a day, and a day costs the gross pay of the month over its days, up to a paisa, within
the salary. -/
def LosesPay (inp : ItemInputs) (amounts : ItemAmounts) (snapshot : ItemSnapshot) : Prop :=
  (snapshot.lopDays = snapshot.paidDays →
      |snapshot.lopDeduction - salaryOf amounts snapshot| ≤ snapshot.paidDays * (1 / 100))
    ∧ ∃ dailyPay, |dailyPay - inp.monthTotal .earnings / snapshot.totalDaysInPeriod| ≤ 1 / 100
      ∧ snapshot.lopDeduction
        = min (normalizeDecimal (dailyPay * snapshot.lopDays)) (salaryOf amounts snapshot)

variable {inp : ItemInputs} {amounts : ItemAmounts} {snapshot : ItemSnapshot}

/-- The salary of a ready item is the pro-rated gross pay of the month. -/
theorem salaryOf_eq_prorate (h : calculateItem inp = .ok (.ready amounts snapshot)) :
    salaryOf amounts snapshot = inp.prorate (inp.monthTotal .earnings)
      ∧ snapshot.lopDeduction = inp.lopDeduction (inp.prorate (inp.monthTotal .earnings))
      ∧ snapshot.lopDays = inp.lopDays ∧ snapshot.paidDays = inp.paidDays
      ∧ snapshot.totalDaysInPeriod = inp.period.totalDays := by
  obtain ⟨window, pt, ptBasis, hwindow, hpt, rfl, rfl, -⟩ := calculateItem_eq_ready h
  have htotal := fun g => fullMonth_total hwindow hpt g
  have hgrid : ∀ g, OnPaise ((inp.fullMonth window pt).total g) :=
    fun g => (htotal g).symm ▸ onPaise_monthTotal g
  have hgross : (inp.finalAmounts (inp.fullMonth window pt)).grossPay
      = inp.prorate ((inp.fullMonth window pt).total .earnings)
        + linesTotal .earnings inp.reimbursementLines := finalAmounts_total hgrid .earnings
  have hlop : inp.lopDeduction (inp.prorate ((inp.fullMonth window pt).total .earnings))
      = inp.lopDeduction (inp.prorate (inp.monthTotal .earnings)) := by rw [htotal]
  refine ⟨?_, hlop, rfl, rfl, rfl⟩
  rw [salaryOf, hgross, htotal, linesTotal_reimbursementLines, if_pos rfl]
  exact add_sub_cancel_right _ _

theorem lopDays_nonneg (inp : ItemInputs) : 0 ≤ inp.lopDays := by
  refine le_max_of_le_right ?_
  split
  · exact le_max_left _ _
  · exact le_rfl

/-- The pay of a day, as the deduction counts it. -/
def dailyPay (inp : ItemInputs) (gross : ℚ) : ℚ :=
  normalizeDecimal (Decimal.context 28 (gross / inp.period.totalDays))

theorem dailyPay_nonneg {gross : ℚ} (h : 0 ≤ gross) : 0 ≤ inp.dailyPay gross :=
  normalizeDecimal_nonneg
    (Decimal.context_nonneg 28 (div_nonneg h inp.totalDays_pos.le))

/-- The pay of a day is a share of the gross pay, up to a paisa. -/
theorem abs_dailyPay_sub_le (inp : ItemInputs) {gross : ℚ} (h : 0 ≤ gross)
    (hfits : gross ≤ 10 ^ 10) :
    |inp.dailyPay gross - gross / inp.period.totalDays| ≤ 1 / 100 := by
  have hone : (1 : ℚ) ≤ inp.period.totalDays :=
    Nat.one_le_cast.mpr (Nat.cast_pos.mp inp.totalDays_pos)
  refine abs_normalizeDecimal_context_sub_le_of_le ?_
  rw [abs_of_nonneg (div_nonneg h inp.totalDays_pos.le)]
  calc gross / inp.period.totalDays ≤ gross / 1 := div_le_div_of_nonneg_left h one_pos hone
    _ ≤ 10 ^ 11 := by linarith

/-- **The deduction**: the pay of the days lost, within the gross pay. -/
theorem lopDeduction_eq_min {gross : ℚ} (h : 0 ≤ gross) :
    inp.lopDeduction gross = min (normalizeDecimal (inp.dailyPay gross * inp.lopDays)) gross := by
  have hlost : 0 ≤ normalizeDecimal (inp.dailyPay gross * inp.lopDays) :=
    normalizeDecimal_nonneg (mul_nonneg (dailyPay_nonneg h) inp.lopDays_nonneg)
  unfold lopDeduction
  split
  · rfl
  · next hnone =>
    rcases inp.lopDays_nonneg.eq_or_lt with hdays | hdays
    · rw [← hdays, mul_zero, normalizeDecimal_zero, min_eq_left h]
    · have hzero : gross = 0 := le_antisymm (not_lt.mp fun hpos => hnone ⟨hdays, hpos⟩) h
      rw [hzero] at hlost ⊢
      rw [min_eq_right hlost]

/-! ## Whole months, and months without a day paid -/

/-- The salary of an item fits the column of its gross pay. -/
theorem salaryOf_le (h : calculateItem inp = .ok (.ready amounts snapshot)) :
    salaryOf amounts snapshot ≤ 10 ^ 10 := by
  obtain ⟨window, pt, ptBasis, -, -, -, rfl, hfits⟩ := calculateItem_eq_ready h
  have hpay := (abs_lt.mp (ItemAmounts.abs_grossPay_lt hfits)).2
  have hreimbursed : 0 ≤ inp.reimbursement := reimbursement_nonneg
  show amounts.grossPay - inp.reimbursement ≤ _
  linarith

/-- The gross pay of a whole month fits its column. -/
theorem monthTotal_le (h : calculateItem inp = .ok (.ready amounts snapshot))
    (hwhole : ¬ inp.IsPartialMonth) : inp.monthTotal .earnings ≤ 10 ^ 10 := by
  obtain ⟨hsalary, -⟩ := salaryOf_eq_prorate h
  have hprorate : inp.prorate (inp.monthTotal .earnings) = inp.monthTotal .earnings := if_neg hwhole
  rw [hprorate] at hsalary
  exact hsalary ▸ salaryOf_le h

/-- All days of a month cost its gross pay, up to a paisa a day. -/
theorem abs_all_days_sub_le {gross : ℚ} (h : 0 ≤ gross) (hfits : gross ≤ 10 ^ 10)
    (hdays : inp.paidDays = inp.period.totalDays) :
    |min (normalizeDecimal (inp.dailyPay gross * inp.paidDays)) gross - gross|
      ≤ inp.paidDays * (1 / 100) := by
  have hdaily := inp.abs_dailyPay_sub_le h hfits
  -- a whole number of days costs a whole number of paise
  have hgrid : OnPaise (inp.dailyPay gross * inp.paidDays) := by
    obtain ⟨n, hn⟩ := onPaise_normalizeDecimal
      (Decimal.context 28 (gross / inp.period.totalDays))
    refine ⟨n * inp.paidDays, ?_⟩
    rw [dailyPay, hn]
    push_cast
    ring
  rw [normalizeDecimal_of_onPaise hgrid]
  calc |min (inp.dailyPay gross * inp.paidDays) gross - gross|
      ≤ |inp.dailyPay gross * inp.paidDays - gross| := by
        rcases le_total (inp.dailyPay gross * inp.paidDays) gross with hle | hle
        · rw [min_eq_left hle]
        · rw [min_eq_right hle, sub_self, abs_zero]
          exact abs_nonneg _
    _ = inp.paidDays * |inp.dailyPay gross - gross / inp.period.totalDays| := by
        rw [hdays, ← abs_of_nonneg inp.totalDays_pos.le, ← abs_mul, mul_sub,
          abs_of_nonneg inp.totalDays_pos.le, mul_div_cancel₀ _ inp.totalDays_pos.ne',
          mul_comm (inp.period.totalDays : ℚ)]
    _ ≤ inp.paidDays * (1 / 100) := by gcongr

theorem losesPay_of_wholeMonth (h : calculateItem inp = .ok (.ready amounts snapshot))
    (hgross : 0 ≤ inp.monthTotal .earnings) (hwhole : ¬ inp.IsPartialMonth) :
    inp.LosesPay amounts snapshot := by
  obtain ⟨hsalary, hlop, hlopDays, hpaidDays, htotalDays⟩ := salaryOf_eq_prorate h
  have hprorate : inp.prorate (inp.monthTotal .earnings) = inp.monthTotal .earnings := if_neg hwhole
  have hdays : inp.paidDays = inp.period.totalDays :=
    le_antisymm inp.paidDays_le_totalDays (not_lt.mp hwhole)
  have hfits := monthTotal_le h hwhole
  rw [hprorate] at hsalary hlop
  rw [lopDeduction_eq_min hgross] at hlop
  unfold LosesPay
  rw [hsalary, hlop, hlopDays, hpaidDays, htotalDays]
  refine ⟨fun hall => ?_, inp.dailyPay (inp.monthTotal .earnings),
    inp.abs_dailyPay_sub_le hgross hfits, rfl⟩
  rw [hall]
  exact abs_all_days_sub_le hgross hfits hdays

theorem losesPay_of_no_paidDays (h : calculateItem inp = .ok (.ready amounts snapshot))
    (hgross : 0 ≤ inp.monthTotal .earnings) (hnone : inp.paidDays = 0) :
    inp.LosesPay amounts snapshot := by
  obtain ⟨hsalary, hlop, hlopDays, hpaidDays, htotalDays⟩ := salaryOf_eq_prorate h
  have hpart : inp.IsPartialMonth := by
    show inp.paidDays < _
    rw [hnone]
    exact Nat.cast_pos.mp inp.totalDays_pos
  have hfactor : inp.proRateFactor = 0 := by
    rw [proRateFactor, if_pos hpart, hnone]
    simp
  have hprorate : inp.prorate (inp.monthTotal .earnings) = 0 := by
    rw [prorate, if_pos hpart, hfactor]
    simp
  have hlost : 0 ≤ normalizeDecimal
      (inp.monthTotal .earnings / inp.period.totalDays * inp.lopDays) :=
    normalizeDecimal_nonneg
      (mul_nonneg (div_nonneg hgross inp.totalDays_pos.le) inp.lopDays_nonneg)
  rw [hprorate] at hsalary hlop
  unfold LosesPay
  rw [hsalary, hlop, hlopDays, hpaidDays, htotalDays]
  refine ⟨fun _ => ?_, inp.monthTotal .earnings / inp.period.totalDays, ?_, ?_⟩
  · simp [lopDeduction, hnone]
  · norm_num
  · rw [min_eq_right hlost]
    simp [lopDeduction]

/-! ## Months of joining and leaving

The employee of any inputs, with a single allowance of 3000 a day and as many days without
pay as are paid. -/

/-- The month without a day of work. -/
def absent (inp : ItemInputs) : ItemInputs where
  period := inp.period
  useAttendanceInputs := false
  employee := inp.employee
  employeeState := inp.employeeState
  assignment := { inp.assignment with
    taxRegime := .new
    lines := [
      { componentCode := "SPECIAL_ALLOWANCE", componentType := .earning,
        monthlyAmount := 3000 * inp.period.totalDays, isTaxable := false }] }
  taxSlabSet := { slabs := [], ordered := List.Pairwise.nil }
  arrearsAmounts := []
  payslips := []
  professionalTaxRule := some { incomeBasis := .monthly, slabs := [] }
  labourWelfareFundRule := none
  attendanceSummary := none
  leaveOnlyLopDays := none
  explicitLwpDays := some inp.paidDays
  declaredTotals := fun _ => 0
  expenseClaims := []

theorem normalizeDecimal_natCast (n : ℕ) : normalizeDecimal n = n :=
  normalizeDecimal_of_onPaise ⟨100 * n, by push_cast; ring⟩

theorem normalizeDecimal_allowance (inp : ItemInputs) :
    normalizeDecimal (3000 * (inp.period.totalDays : ℚ)) = 3000 * inp.period.totalDays := by
  exact_mod_cast normalizeDecimal_natCast (3000 * inp.period.totalDays)

/-- The gross pay of the month. -/
theorem absent_collected (inp : ItemInputs) : inp.absent.collected
    = { grossPay := 3000 * inp.period.totalDays,
        lines := inp.absent.assignment.lines.map CompensationAssignmentLine.snapshot } := by
  simp [collected, absent, collectLine, normalizeDecimal_allowance]

theorem absent_earned (inp : ItemInputs) : inp.absent.earned = inp.absent.collected := by
  simp [earned, arrears, absent, addArrears]

theorem absent_lopDays (inp : ItemInputs) : inp.absent.lopDays = inp.paidDays := by
  simp [lopDays, policyLwpDays, absent, normalizeDecimal_natCast]

theorem absent_prorate (inp : ItemInputs) : inp.absent.prorate = inp.prorate := rfl

/-- Nothing is charged on it. -/
theorem absent_fullMonth (inp : ItemInputs) (window : Date × Date) :
    inp.absent.fullMonth window 0 = inp.absent.collected := by
  have hdays : (28 : ℚ) ≤ inp.period.totalDays := Nat.cast_le.mpr (one_le_daysInMonth _ _)
  have hgross : ¬ normalizeDecimal inp.absent.earned.grossPay ≤ esiWageCeiling := by
    rw [absent_earned, absent_collected, normalizeDecimal_allowance, esiWageCeiling]
    linarith
  have hesi : inp.absent.esi window = none := by
    simp only [esi, calculateEsiContributions, esiMode, resolveEsiEligibility, hgross]
    simp [absent]
  have hpf : applyProvidentFund inp.absent.providentFund inp.absent.earned
      = inp.absent.earned := by
    rw [absent_earned, absent_collected]
    rfl
  have hfund : inp.absent.labourWelfareFund.1 = none := rfl
  rw [fullMonth, hpf, hesi, hfund, absent_earned]
  simp [applyLabourWelfareFund, applyEsi, applyLevy, applyProfessionalTax]

theorem absent_incomeTax (inp : ItemInputs) : inp.absent.incomeTax 0 = 0 := by
  have hnew : ∀ rebate ∈ [(1200000, 60000), (indiaRebate87aThreshold, indiaRebate87aMax)],
      (calculateIncomeTaxWithRebate 0 { slabs := [], ordered := List.Pairwise.nil }
        newRegimeSurchargeTiers rebate).annualTax = 0 := by
    decide +kernel
  have hincome : inp.absent.calculateTaxableIncomeWithInvestments 0 = 0 := by
    show calculateTaxableIncomeAfterStandardDeduction 0 = 0
    decide +kernel
  have htax : (inp.absent.annualTax 0).annualTax = 0 := by
    rw [annualTax, hincome]
    refine hnew _ ?_
    show (if inp.period.fiscalYear = 2025 then ((1200000 : ℚ), (60000 : ℚ))
      else (indiaRebate87aThreshold, indiaRebate87aMax)) ∈ _
    split <;> simp
  simp [incomeTax, annualTaxableGross, htax]

/-- The salary of the part of the month is 3000 a day. -/
theorem abs_absent_salary_sub_le (inp : ItemInputs) (hpart : inp.IsPartialMonth) :
    |inp.prorate (3000 * inp.period.totalDays) - 3000 * inp.paidDays| ≤ 1 / 100 := by
  have hdays : (inp.paidDays : ℚ) ≤ 31 := by
    exact_mod_cast inp.paidDays_le_totalDays.trans inp.period.totalDays_le
  have hgross : (0 : ℚ) ≤ 3000 * inp.period.totalDays := by positivity
  have hshare : (0 : ℚ) ≤ inp.paidDays / inp.period.totalDays := by positivity
  have hround := abs_normalizeDecimal_mul_context_sub_le hgross hshare
  have hproduct : 3000 * (inp.period.totalDays : ℚ) * (inp.paidDays / inp.period.totalDays)
      = 3000 * inp.paidDays := by
    rw [mul_assoc, mul_div_cancel₀ _ inp.totalDays_pos.ne']
  rw [hproduct] at hround
  rw [prorate, if_pos hpart, proRateFactor, if_pos hpart]
  refine hround.trans ?_
  norm_num
  linarith

theorem absent_professionalTax (inp : ItemInputs) :
    ∃ basis, inp.absent.professionalTax = .ok (0, basis) := by
  refine ⟨onIncomeBasis (normalizeDecimal inp.absent.earned.grossPay) .monthly, ?_⟩
  have hnone : ∀ genders : List ProfessionalTaxGender,
      genders.findSome? (fun _ => (none : Option ProfessionalTaxSlab)) = none := by simp
  show Except.ok (((genderPriority inp.employee.gender).findSome? (fun _ => none)).elim 0 _, _) = _
  rw [hnone]
  rfl

theorem normalizeDecimal_le_of_le {x : ℚ} (h : x ≤ 100000) : normalizeDecimal x ≤ 100000 := by
  have hgrid : normalizeDecimal 100000 = 100000 :=
    normalizeDecimal_of_onPaise ⟨10000000, by norm_num⟩
  rw [← hgrid]
  exact normalizeDecimal_mono h

/-- An amount up to 100000 fits its column. -/
theorem abs_normalizeDecimal_lt {x : ℚ} (h : 0 ≤ x) (h' : x ≤ 100000) :
    |normalizeDecimal x| < 10 ^ 10 := by
  have hle := normalizeDecimal_le_of_le h'
  have hnonneg : 0 ≤ normalizeDecimal x := normalizeDecimal_nonneg h
  rw [abs_of_nonneg hnonneg]
  linarith

theorem absent_ready (inp : ItemInputs) {window : Date × Date}
    (hwindow : getEsiContributionPeriodBounds inp.period.year inp.period.month = some window)
    (hpart : inp.IsPartialMonth) :
    ∃ amounts snapshot, calculateItem inp.absent = .ok (.ready amounts snapshot) := by
  obtain ⟨basis, hpt⟩ := inp.absent_professionalTax
  have hwindow' : getEsiContributionPeriodBounds inp.absent.period.year inp.absent.period.month
      = some window := hwindow
  have hsalary := abs_le.mp (inp.abs_absent_salary_sub_le hpart)
  have hmonth : (inp.paidDays : ℚ) ≤ 31 := by
    exact_mod_cast inp.paidDays_le_totalDays.trans inp.period.totalDays_le
  have hdays : (0 : ℚ) ≤ inp.paidDays := Nat.cast_nonneg _
  have hgross : 0 ≤ inp.prorate (3000 * inp.period.totalDays) := by
    rw [prorate, if_pos hpart, proRateFactor, if_pos hpart]
    exact normalizeDecimal_nonneg (Decimal.context_nonneg 28
      (mul_nonneg (by positivity) (Decimal.context_nonneg 28 (by positivity))))
  have hlop : 0 ≤ inp.absent.lopDeduction (inp.prorate (3000 * inp.period.totalDays))
      ∧ inp.absent.lopDeduction (inp.prorate (3000 * inp.period.totalDays))
        ≤ inp.prorate (3000 * inp.period.totalDays) := by
    rw [lopDeduction_eq_min hgross]
    exact ⟨le_min (normalizeDecimal_nonneg
      (mul_nonneg (dailyPay_nonneg hgross) (lopDays_nonneg _))) hgross, min_le_right _ _⟩
  have hfits : (inp.absent.finalAmounts (inp.absent.fullMonth window 0)).fits := by
    have hzero : inp.prorate 0 = 0 := by
      unfold prorate
      split <;> simp
    have hreimbursed : inp.absent.reimbursement = 0 := by
      simp [reimbursement, buildPayrollReimbursementLines, absent]
    have hpf : inp.absent.providentFund.epsEmployer = 0
        ∧ inp.absent.providentFund.epfEmployer = 0 := by
      rw [providentFund, absent_earned, absent_collected]
      exact ⟨rfl, rfl⟩
    rw [absent_fullMonth, absent_collected]
    have hnet : ∀ y, y ≤ 100000 → |ensureNonNegativeNetPay y| < 10 ^ 10 := fun y hy =>
      abs_normalizeDecimal_lt (le_max_left _ _)
        (max_le (by norm_num) (normalizeDecimal_le_of_le hy))
    have hdeducted : 0 ≤ normalizeDecimal
        (inp.absent.lopDeduction (inp.prorate (3000 * inp.period.totalDays))) :=
      normalizeDecimal_nonneg hlop.1
    simp only [finalAmounts, finalGross, absent_prorate, hzero, hreimbursed, hpf,
      absent_incomeTax, ItemAmounts.fits]
    simp only [lt_irrefl, if_false, normalizeDecimal_zero, add_zero, zero_add, List.all_cons,
      List.all_nil, Bool.and_true, Bool.and_eq_true, decide_eq_true_eq]
    norm_num only [abs_zero, true_and]
    exact ⟨abs_normalizeDecimal_lt hgross (by linarith),
      abs_normalizeDecimal_lt hlop.1 (by linarith), hnet _ (by linarith)⟩
  unfold calculateItem
  rw [hwindow', hpt]
  exact ⟨_, _, if_pos hfits⟩

theorem absent_monthTotal (inp : ItemInputs) :
    inp.absent.monthTotal .earnings = 3000 * inp.period.totalDays := by
  rw [monthTotal_of_no_arrears (by simp [arrears, absent])]
  simp [CompensationAssignment.salary, CompensationAssignmentLine.counted,
    CompensationAssignmentLine.isPf, PayrollComponentType.group, absent,
    normalizeDecimal_allowance]

/-- **Absent on all days of a part of the month, and paid.** -/
theorem not_losesPay_absent (hpart : inp.IsPartialMonth) (hdays : 0 < inp.paidDays)
    (h : calculateItem inp.absent = .ok (.ready amounts snapshot)) :
    ¬ inp.absent.LosesPay amounts snapshot := by
  rintro ⟨hall, -⟩
  obtain ⟨hsalary, hlop, hlopDays, hpaidDays, -⟩ := salaryOf_eq_prorate h
  have habsent : snapshot.lopDays = snapshot.paidDays := by
    rw [hlopDays, hpaidDays]
    exact inp.absent_lopDays
  have hclose := hall habsent
  have hS := abs_le.mp (inp.abs_absent_salary_sub_le hpart)
  rw [absent_monthTotal, absent_prorate] at hsalary hlop
  rw [hsalary, hlop, show snapshot.paidDays = inp.paidDays from hpaidDays] at hclose
  generalize inp.prorate (3000 * inp.period.totalDays) = S at hS hclose
  have hone : (1 : ℚ) ≤ inp.paidDays := Nat.one_le_cast.mpr hdays
  have hnext : (inp.paidDays : ℚ) + 1 ≤ inp.period.totalDays := by exact_mod_cast hpart
  have hlast : (inp.period.totalDays : ℚ) ≤ 31 := by exact_mod_cast inp.period.totalDays_le
  have hnonneg : 0 ≤ S := by linarith
  -- the pay of one day of the month, out of the salary of its part
  have hdaily := abs_le.mp (inp.absent.abs_dailyPay_sub_le hnonneg (by linarith))
  have hday : 96 ≤ S / inp.period.totalDays := by
    rw [le_div_iff₀ inp.totalDays_pos]
    nlinarith
  have hsalary' : S / inp.period.totalDays * inp.paidDays + S / inp.period.totalDays ≤ S := by
    calc S / inp.period.totalDays * inp.paidDays + S / inp.period.totalDays
        = S / inp.period.totalDays * (inp.paidDays + 1) := by ring
      _ ≤ S / inp.period.totalDays * inp.period.totalDays :=
          mul_le_mul_of_nonneg_left hnext (by linarith)
      _ = S := div_mul_cancel₀ S inp.totalDays_pos.ne'
  have hdeducted : inp.absent.lopDeduction S
      ≤ S / inp.period.totalDays * inp.paidDays + inp.paidDays * (1 / 100) + 1 / 200 := by
    have hround := abs_le.mp (Decimal.abs_quantize_sub_le (u := (1 : ℚ) / 100) (by norm_num)
      (inp.absent.dailyPay S * inp.paidDays))
    have hrate : inp.absent.dailyPay S * inp.paidDays
        ≤ (S / inp.period.totalDays + 1 / 100) * inp.paidDays := by
      refine mul_le_mul_of_nonneg_right ?_ (by linarith)
      have hupper : inp.absent.dailyPay S - S / inp.period.totalDays ≤ 1 / 100 := hdaily.2
      linarith
    rw [lopDeduction_eq_min hnonneg, absent_lopDays]
    refine (min_le_left _ _).trans ?_
    have hupper : normalizeDecimal (inp.absent.dailyPay S * inp.paidDays)
        - inp.absent.dailyPay S * inp.paidDays ≤ 1 / 100 / 2 := hround.2
    linarith
  have hgap := (abs_le.mp hclose).1
  linarith

end ItemInputs

/-- **The days lost cost the pay** of a month of an employee, whatever the salary and the
days lost, exactly when the month is whole or has no day paid, or has no items. -/
theorem losesPay_iff (inp : ItemInputs) :
    (∀ (other : ItemInputs) (amounts : ItemAmounts) (snapshot : ItemSnapshot),
        other.period = inp.period → other.employee = inp.employee →
        calculateItem other = .ok (.ready amounts snapshot) → 0 ≤ other.monthTotal .earnings →
        other.LosesPay amounts snapshot)
      ↔ ¬ inp.IsPartialMonth ∨ inp.paidDays = 0
        ∨ getEsiContributionPeriodBounds inp.period.year inp.period.month = none := by
  constructor
  · intro h
    by_contra hcondition
    push Not at hcondition
    obtain ⟨hpart, hdays, hwindow⟩ := hcondition
    obtain ⟨window, hwindow⟩ := Option.ne_none_iff_exists'.mp hwindow
    obtain ⟨amounts, snapshot, hready⟩ := inp.absent_ready hwindow hpart
    refine ItemInputs.not_losesPay_absent hpart (Nat.pos_of_ne_zero hdays) hready
      (h inp.absent amounts snapshot rfl rfl hready ?_)
    rw [ItemInputs.absent_monthTotal]
    positivity
  · intro hcondition other amounts snapshot hperiod hemployee hready hgross
    have hdays : other.paidDays = inp.paidDays := by
      unfold ItemInputs.paidDays ItemInputs.paidPeriodStart ItemInputs.paidPeriodEnd
      rw [hperiod, hemployee]
    rcases hcondition with hwhole | hnone | hwindow
    · refine ItemInputs.losesPay_of_wholeMonth hready hgross ?_
      rwa [ItemInputs.IsPartialMonth, hdays, hperiod]
    · exact ItemInputs.losesPay_of_no_paidDays hready hgross (hdays.trans hnone)
    · obtain ⟨window, pt, ptBasis, hbounds, -⟩ := calculateItem_eq_ready hready
      rw [hperiod, hwindow] at hbounds
      cases hbounds

/-- The joiner of 16 April, absent on all fifteen days, is paid half of the salary. -/
theorem absent_and_paid :
    ¬ ∀ (inp : ItemInputs) (amounts : ItemAmounts) (snapshot : ItemSnapshot),
      calculateItem inp = .ok (.ready amounts snapshot) → 0 ≤ inp.monthTotal .earnings →
      inp.LosesPay amounts snapshot := by
  intro h
  have hready : calculateItem { Sample.inputs Sample.april Sample.joiner
        (Sample.assignment 30000) with explicitLwpDays := some 15 }
      = .ok (.ready
        (Sample.item { Sample.inputs Sample.april Sample.joiner
          (Sample.assignment 30000) with explicitLwpDays := some 15 }).1
        (Sample.item { Sample.inputs Sample.april Sample.joiner
          (Sample.assignment 30000) with explicitLwpDays := some 15 }).2) := by
    decide +kernel
  have hlost := (h _ _ _ hready (by decide +kernel)).1
  revert hlost
  decide +kernel

end Payroll
