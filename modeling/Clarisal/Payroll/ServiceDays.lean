import Clarisal.Lib.Budget
import Clarisal.Payroll.Arrears
import Clarisal.Payroll.EsiContinuity
import Clarisal.Payroll.FullAndFinal
import Mathlib.Order.Interval.Finset.Nat

/-!
# The salary of the days of service

What a leaver is owed: for every month from joining to the last working day, the monthly
salary times the days of service over the days of the month (`salaryDue`).

An item of a pay run knows the joining date, so it is within what the month brings an
employee who stays (`grossPay_le`). A settlement pays its month from the first day on
(`proratedSalary_le`), which is within the salary due unless the employee joined later in
that month.
-/

open Calendar Approvals

namespace Payroll

/-! ## Days of service -/

/-- The month of a date. -/
def monthIndexOf (d : Date) : ℕ := monthIndex d.year d.month

/-- The days of a month, by its index. -/
def daysOfMonth (i : ℕ) : ℕ := daysInMonth ((i - 1) / 12) ((i - 1) % 12 + 1)

/-- The days of a month from joining on. -/
def daysFromJoining (joining : Date) (i : ℕ) : ℕ :=
  daysOfMonth i + 1 - (if i = monthIndexOf joining then joining.day else 1)

/-- The days of a month from joining to the last working day. -/
def serviceDays (joining last : Date) (i : ℕ) : ℕ :=
  (if i = monthIndexOf last then last.day else daysOfMonth i) + 1
    - (if i = monthIndexOf joining then joining.day else 1)

/-- The months with days of service. -/
def serviceMonths (joining last : Date) : Finset ℕ :=
  Finset.Icc (monthIndexOf joining) (monthIndexOf last)

/-- **The salary of the days from joining to the last working day.** -/
def salaryDue (grossMonthlySalary : ℚ) (joining last : Date) : ℚ :=
  ∑ i ∈ serviceMonths joining last,
    grossMonthlySalary * serviceDays joining last i / daysOfMonth i

/-- Joined before the month of a date, or on its first day. -/
def JoinedBefore (joining last : Date) : Prop :=
  monthIndexOf joining < monthIndexOf last
    ∨ (monthIndexOf joining = monthIndexOf last ∧ joining.day = 1)

instance (joining last : Date) : Decidable (JoinedBefore joining last) :=
  inferInstanceAs (Decidable (_ ∨ _))

theorem daysOfMonth_monthIndex {year month : ℕ} (h : 1 ≤ month) (h' : month ≤ 12) :
    daysOfMonth (monthIndex year month) = daysInMonth year month := by
  unfold daysOfMonth monthIndex
  rw [show (12 * year + month - 1) / 12 = year by omega,
    show (12 * year + month - 1) % 12 + 1 = month by omega]

theorem daysOfMonth_monthIndexOf (d : Date) :
    daysOfMonth (monthIndexOf d) = daysInMonth d.year d.month :=
  daysOfMonth_monthIndex d.valid.2.2.1 d.valid.2.2.2.1

theorem daysOfMonth_pos (i : ℕ) : 0 < daysOfMonth i :=
  lt_of_lt_of_le (by decide) (one_le_daysInMonth _ _)

/-- Before the last month every day from joining on is one of service. -/
theorem serviceDays_of_ne {joining last : Date} {i : ℕ} (h : i ≠ monthIndexOf last) :
    serviceDays joining last i = daysFromJoining joining i := by
  unfold serviceDays daysFromJoining
  rw [if_neg h]

/-- In the last month the days of service are the days up to the last one. -/
theorem serviceDays_last {joining last : Date} (h : JoinedBefore joining last) :
    serviceDays joining last (monthIndexOf last) = last.day := by
  unfold serviceDays
  rw [if_pos rfl]
  cases h with
  | inl hlt => rw [if_neg hlt.ne', Nat.add_sub_cancel]
  | inr hfirst => rw [if_pos hfirst.1.symm, hfirst.2, Nat.add_sub_cancel]

namespace PayPeriod

variable (p : PayPeriod)

/-- The month of a period. -/
theorem daysOfMonth_eq : daysOfMonth (monthIndex p.year p.month) = p.totalDays :=
  daysOfMonth_monthIndex p.valid.2.2.1 p.valid.2.2.2

/-- **The dates of a period** are those of its month. -/
theorem mem_iff (d : Date) :
    p.start ≤ d ∧ d ≤ p.finish ↔ monthIndex p.year p.month = monthIndexOf d := by
  obtain ⟨-, -, hm, hm'⟩ := p.valid
  obtain ⟨-, -, hdm, hdm', hd, hd'⟩ := d.valid
  have hindex : monthIndex p.year p.month = monthIndexOf d
      ↔ p.year = d.year ∧ p.month = d.month := by
    unfold monthIndexOf monthIndex
    omega
  rw [hindex]
  constructor
  · rintro ⟨hstart, hfinish⟩
    have hyear : p.year = d.year := by
      rcases lt_trichotomy p.year d.year with hlt | heq | hlt
      · exact absurd hfinish (not_le_of_gt (Date.toordinal_lt_of_year (x := p.finish) hlt))
      · exact heq
      · exact absurd hstart (not_le_of_gt (Date.toordinal_lt_of_year (y := p.start) hlt))
    refine ⟨hyear, ?_⟩
    rcases lt_trichotomy p.month d.month with hlt | heq | hlt
    · exact absurd hfinish (not_le_of_gt (Date.toordinal_lt_of_month (x := p.finish) hyear hlt))
    · exact heq
    · exact absurd hstart
        (not_le_of_gt (Date.toordinal_lt_of_month (y := p.start) hyear.symm hlt))
  · rintro ⟨hyear, hmonth⟩
    have hlast : d.day ≤ p.totalDays := by
      unfold totalDays
      rw [hyear, hmonth]
      exact hd'
    have hfirst : p.start.toordinal + d.day = d.toordinal + 1 := by
      show daysBeforeYear p.year + daysBeforeMonth p.year p.month + 1 + d.day = _
      unfold Date.toordinal
      rw [hyear, hmonth]
      omega
    have hend : p.finish.toordinal + d.day = d.toordinal + p.totalDays := by
      show daysBeforeYear p.year + daysBeforeMonth p.year p.month + p.totalDays + d.day = _
      unfold Date.toordinal
      rw [hyear, hmonth]
      omega
    rw [Date.le_iff, Date.le_iff]
    omega

end PayPeriod

/-! ## What an item pays -/

/-- The salary of an assignment, as a pay run counts it. -/
def CompensationAssignment.salary (a : CompensationAssignment) : ℚ :=
  (a.lines.map (CompensationAssignmentLine.counted .earnings)).sum

namespace ItemInputs

variable {inp : ItemInputs} {joining : Date} {gross : ℚ}

/-- The paid period begins in the month or with it. -/
theorem start_le_paidPeriodStart (inp : ItemInputs) :
    inp.period.start.toordinal ≤ inp.paidPeriodStart.toordinal := by
  unfold paidPeriodStart
  split
  · split
    · next hjoining => exact Date.le_iff.mp hjoining.1
    · exact le_rfl
  · exact le_rfl

/-- The paid period ends in the month or with it. -/
theorem paidPeriodEnd_le_finish (inp : ItemInputs) :
    inp.paidPeriodEnd.toordinal ≤ inp.period.finish.toordinal := by
  unfold paidPeriodEnd
  split
  · split
    · next hexit => exact (Date.lt_iff.mp hexit.2).le
    · exact le_rfl
  · exact le_rfl

/-- No more days are paid than the month has. -/
theorem paidDays_le_totalDays (inp : ItemInputs) : inp.paidDays ≤ inp.period.totalDays := by
  have hstart := inp.start_le_paidPeriodStart
  have hend := inp.paidPeriodEnd_le_finish
  have hfinish := inp.period.toordinal_finish
  unfold paidDays
  omega

/-- The days paid are days of the month from joining on. -/
theorem paidDays_le (hjoining : inp.employee.dateOfJoining = some joining) :
    inp.paidDays ≤ daysFromJoining joining (monthIndex inp.period.year inp.period.month) := by
  have hend := inp.paidPeriodEnd_le_finish
  have hfinish := inp.period.toordinal_finish
  have hstart : inp.paidPeriodStart = if inp.period.start ≤ joining ∧ joining ≤ inp.period.finish
      then joining else inp.period.start := by
    unfold paidPeriodStart
    rw [hjoining]
  unfold paidDays daysFromJoining
  rw [hstart, inp.period.daysOfMonth_eq]
  by_cases hmonth : inp.period.start ≤ joining ∧ joining ≤ inp.period.finish
  · have hindex := (inp.period.mem_iff joining).mp hmonth
    have hday : joining.toordinal + 1 = inp.period.start.toordinal + joining.day := by
      have hsame : inp.period.year = joining.year ∧ inp.period.month = joining.month := by
        obtain ⟨-, -, hm, hm'⟩ := inp.period.valid
        obtain ⟨-, -, hdm, hdm', -⟩ := joining.valid
        unfold monthIndexOf monthIndex at hindex
        omega
      unfold Date.toordinal PayPeriod.start
      dsimp only
      rw [hsame.1, hsame.2]
      omega
    rw [if_pos hmonth, if_pos hindex]
    omega
  · rw [if_neg hmonth, if_neg (fun hindex => hmonth ((inp.period.mem_iff joining).mpr hindex))]
    omega

/-- **A product with a rounded quotient**, in whole paise, is half a paisa and a few of the
last digits away from the exact one. -/
theorem abs_normalizeDecimal_mul_context_sub_le {share : ℚ} (hgross : 0 ≤ gross)
    (hshare : 0 ≤ share) :
    |normalizeDecimal (Decimal.context 28 (gross * Decimal.context 28 share)) - gross * share|
      ≤ 1 / 200 + gross * share * (1 / 10 ^ 26) := by
  have hten : (10 : ℚ) ^ (1 - (28 : ℕ) : ℤ) = 1 / 10 ^ 27 := by norm_num [zpow_neg]
  have hx : 0 ≤ gross * Decimal.context 28 share :=
    mul_nonneg hgross (Decimal.context_nonneg 28 hshare)
  have hround := Decimal.abs_quantize_context_sub_le (u := (1 : ℚ) / 100) (by norm_num) 28
    (gross * Decimal.context 28 share)
  change |normalizeDecimal (Decimal.context 28 (gross * Decimal.context 28 share)) - _| ≤ _
    at hround
  have hfactor : |gross * Decimal.context 28 share - gross * share|
      ≤ gross * share * (1 / 10 ^ 27) / 2 := by
    have hquotient := Decimal.abs_context_sub_le 28 share
    rw [abs_of_nonneg hshare, hten] at hquotient
    calc |gross * Decimal.context 28 share - gross * share|
        = gross * |Decimal.context 28 share - share| := by
          rw [← mul_sub, abs_mul, abs_of_nonneg hgross]
      _ ≤ gross * (share * (1 / 10 ^ 27) / 2) := mul_le_mul_of_nonneg_left hquotient hgross
      _ = gross * share * (1 / 10 ^ 27) / 2 := by ring
  rw [abs_of_nonneg hx, hten] at hround
  have hround' := abs_le.mp hround
  have hfactor' := abs_le.mp hfactor
  have hproduct := mul_nonneg hgross hshare
  rw [abs_le]
  constructor <;> linarith

/-- When it fits its column, it is at most a paisa away. -/
theorem abs_normalizeDecimal_mul_context_sub_le_of_fits {share : ℚ} (hgross : 0 ≤ gross)
    (hshare : 0 ≤ share)
    (hfits : normalizeDecimal (Decimal.context 28 (gross * Decimal.context 28 share)) ≤ 10 ^ 10) :
    |normalizeDecimal (Decimal.context 28 (gross * Decimal.context 28 share)) - gross * share|
      ≤ 1 / 100 := by
  have hround := abs_normalizeDecimal_mul_context_sub_le hgross hshare
  have hupper := (abs_le.mp hround).1
  refine hround.trans ?_
  -- both products are below 10 ^ 11, so what the digits leave off is far below a paisa
  linarith

theorem totalDays_pos (inp : ItemInputs) : (0 : ℚ) < inp.period.totalDays := by
  rw [← inp.period.daysOfMonth_eq]
  exact Nat.cast_pos.mpr (daysOfMonth_pos _)

/-- **Pro-ration**: an amount that fits its column is at most a paisa away from what the
days paid are worth. -/
theorem abs_prorate_sub_le (hgross : 0 ≤ gross) (hfits : inp.prorate gross ≤ 10 ^ 10) :
    |inp.prorate gross - gross * inp.paidDays / inp.period.totalDays| ≤ 1 / 100 := by
  unfold prorate at hfits ⊢
  split at hfits
  · next hpart =>
    rw [if_pos hpart]
    rw [proRateFactor, if_pos hpart] at hfits ⊢
    rw [mul_div_assoc]
    exact abs_normalizeDecimal_mul_context_sub_le_of_fits hgross (by positivity) hfits
  · next hfull =>
    rw [if_neg hfull]
    have hdays : inp.paidDays = inp.period.totalDays :=
      le_antisymm inp.paidDays_le_totalDays (not_lt.mp hfull)
    rw [hdays, mul_div_cancel_right₀ _ inp.totalDays_pos.ne', sub_self, abs_zero]
    norm_num

/-- The earnings of a whole month: the salary and the arrears. -/
theorem monthTotal_earnings_eq (inp : ItemInputs) :
    inp.monthTotal .earnings = inp.assignment.salary + max inp.arrears 0 := by
  rw [monthTotal_earnings, payTotal_itemLines]
  rfl

/-- Without arrears they are the salary. -/
theorem monthTotal_of_no_arrears (harrears : inp.arrears = 0) :
    inp.monthTotal .earnings = inp.assignment.salary := by
  rw [monthTotal_earnings_eq, harrears, max_self, add_zero]

end ItemInputs

/-- **An item without arrears and reimbursements** pays at most for the days of its month
from joining on. -/
theorem grossPay_le {inp : ItemInputs} {amounts : ItemAmounts} {snapshot : ItemSnapshot}
    {joining : Date} (h : calculateItem inp = .ok (.ready amounts snapshot))
    (hjoining : inp.employee.dateOfJoining = some joining) (hgross : 0 ≤ inp.assignment.salary)
    (harrears : snapshot.arrears = 0) (hreimbursed : snapshot.expenseReimbursements = 0) :
    amounts.grossPay ≤ inp.assignment.salary
      * daysFromJoining joining (monthIndex inp.period.year inp.period.month)
      / daysOfMonth (monthIndex inp.period.year inp.period.month) + 1 / 100 := by
  obtain ⟨window, pt, ptBasis, hwindow, hpt, rfl, rfl, hfits⟩ := calculateItem_eq_ready h
  have htotal := fun g => ItemInputs.fullMonth_total hwindow hpt g
  have hpays : (inp.finalAmounts (inp.fullMonth window pt)).grossPay
      = inp.prorate inp.assignment.salary := by
    have hgrid : ∀ g, OnPaise ((inp.fullMonth window pt).total g) :=
      fun g => (htotal g).symm ▸ ItemInputs.onPaise_monthTotal g
    have hearnings : (inp.finalAmounts (inp.fullMonth window pt)).total .earnings
        = inp.prorate ((inp.fullMonth window pt).total .earnings)
          + linesTotal .earnings inp.reimbursementLines :=
      ItemInputs.finalAmounts_total hgrid .earnings
    rw [ItemInputs.linesTotal_reimbursementLines, if_pos rfl, htotal,
      ItemInputs.monthTotal_of_no_arrears harrears,
      show inp.reimbursement = 0 from hreimbursed, add_zero] at hearnings
    exact hearnings
  have hfit := ItemAmounts.abs_grossPay_lt hfits
  rw [hpays] at hfit ⊢
  rw [inp.period.daysOfMonth_eq]
  have hdays := ItemInputs.abs_prorate_sub_le hgross (le_of_abs_le hfit.le)
  calc inp.prorate inp.assignment.salary
      ≤ inp.assignment.salary * inp.paidDays / inp.period.totalDays + 1 / 100 := by
        have hupper := (abs_le.mp hdays).2
        linarith
    _ ≤ inp.assignment.salary
          * daysFromJoining joining (monthIndex inp.period.year inp.period.month)
          / inp.period.totalDays + 1 / 100 := by
        have := ItemInputs.paidDays_le hjoining
        gcongr

/-! ## What a settlement pays -/

theorem onPaise_grossMonthlySalary (a : CompensationAssignment) : OnPaise a.grossMonthlySalary := by
  refine Decimal.onGrid_sum fun x hx => ?_
  obtain ⟨line, -, rfl⟩ := List.mem_map.mp hx
  exact onPaise_normalizeDecimal _

/-- **A new settlement** pays at most for the days of its month up to the last working
day, counted from the first. -/
theorem proratedSalary_le {inputs : SettlementInputs} {employee : Employee} {last : Date}
    {fnf : FullAndFinalSettlement} {gross : ℚ} (hgross : 0 ≤ gross) (hdraft : fnf.status = .draft)
    (hsalary : ∀ a ∈ inputs.assignments, a.employee = employee.id → a.isApproved = true →
      a.grossMonthlySalary = gross)
    (hfits : (draftSettlement inputs employee last fnf).fits = true) :
    (draftSettlement inputs employee last fnf).proratedSalary
      ≤ gross * last.day / daysOfMonth (monthIndexOf last) + 1 / 100 := by
  have hfit : |(draftSettlement inputs employee last fnf).proratedSalary| < 10 ^ 10 :=
    of_decide_eq_true (List.all_eq_true.mp hfits _ List.mem_cons_self)
  unfold draftSettlement at hfit ⊢
  rw [if_pos hdraft] at hfit ⊢
  unfold FullAndFinalSettlement.withTotals SettlementInputs.calculateFnfTotals at hfit ⊢
  cases hassignment : inputs.effectiveAssignment employee.id last with
  | none =>
    dsimp only
    positivity
  | some assignment =>
    rw [hassignment] at hfit
    dsimp only at hfit ⊢
    have hmem := List.mem_of_find?_eq_some hassignment
    have hemployee := List.find?_some hassignment
    obtain ⟨hmem, hfilter⟩ := List.mem_filter.mp hmem
    have happroved := (of_decide_eq_true hfilter).1
    unfold calculateFnfSalaryProration at hfit ⊢
    rw [normalizeDecimal_of_onPaise (onPaise_grossMonthlySalary assignment),
      hsalary assignment hmem (of_decide_eq_true hemployee) happroved] at hfit ⊢
    rw [daysOfMonth_monthIndexOf]
    have := (abs_le.mp (abs_normalizeDecimal_context_sub_le hfit)).2
    linarith

end Payroll
