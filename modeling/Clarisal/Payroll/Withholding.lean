import Clarisal.Payroll.Calculation
import Mathlib.Algebra.Order.BigOperators.Group.Finset

/-!
# Withholding over a fiscal year

Each month projects its taxable pay on the months left in the fiscal year,
itself included, and withholds an equal share of the tax on that projection.
A month with `k` months left therefore withholds a `k`-th of the tax on `k`
salaries (`withheld_near`), and the twelve months together withhold the sum of
these shares (`withholding_by_projection`). With progressive slabs the later
shares are smaller than the first, so the year's tax is not reached
(`withholding_not_annual`).
-/

namespace Payroll

/-! ## The taxable salary -/

/-- What a line adds to the taxable pay of a month. -/
def CompensationAssignmentLine.taxablePay (line : CompensationAssignmentLine) : ℚ :=
  if line.isPf then 0
  else
    match line.componentType with
    | .earning | .reimbursement => if line.isTaxable then normalizeDecimal line.monthlyAmount else 0
    | .employeeDeduction | .employerContribution => 0

/-- **The monthly taxable salary** of an assignment. -/
def CompensationAssignment.taxableSalary (assignment : CompensationAssignment) : ℚ :=
  (assignment.lines.map CompensationAssignmentLine.taxablePay).sum

theorem collectLine_taxableMonthly (w : Working) (line : CompensationAssignmentLine) :
    (collectLine w line).taxableMonthly = w.taxableMonthly + line.taxablePay := by
  unfold collectLine CompensationAssignmentLine.taxablePay CompensationAssignmentLine.isPf
  cases line.componentType <;> by_cases h₁ : line.componentCode = "PF_EMPLOYEE" <;>
    by_cases h₂ : line.componentCode = "PF_EMPLOYER" <;> by_cases h₃ : line.isTaxable <;>
    simp [h₁, h₂, h₃]

section

variable {inp : ItemInputs}

theorem collected_taxableMonthly :
    inp.collected.taxableMonthly = inp.assignment.taxableSalary := by
  have hfold : ∀ (lines : List CompensationAssignmentLine) (w : Working),
      (lines.foldl collectLine w).taxableMonthly
        = w.taxableMonthly + (lines.map CompensationAssignmentLine.taxablePay).sum := by
    intro lines
    induction lines with
    | nil => simp
    | cons line lines ih =>
      intro w
      rw [List.foldl_cons, ih, collectLine_taxableMonthly, List.map_cons, List.sum_cons, add_assoc]
  rw [ItemInputs.collected, hfold, CompensationAssignment.taxableSalary, zero_add]

/-- The salary is a whole number of paise. -/
theorem onPaise_taxableSalary (assignment : CompensationAssignment) :
    OnPaise assignment.taxableSalary := by
  have hline : ∀ line : CompensationAssignmentLine, OnPaise line.taxablePay := by
    intro line
    unfold CompensationAssignmentLine.taxablePay
    split
    · exact Decimal.onGrid_zero
    · cases line.componentType <;> dsimp only <;> try split
      all_goals first | exact onPaise_normalizeDecimal _ | exact Decimal.onGrid_zero
  refine Decimal.onGrid_sum (fun x hx => ?_)
  obtain ⟨line, -, rfl⟩ := List.mem_map.mp hx
  exact hline line

/-- The levies leave the taxable pay. -/
@[simp] theorem applyLevy_taxableMonthly (employeeCode employerCode : String)
    (shares : Option (ℚ × ℚ)) (w : Working) :
    (applyLevy employeeCode employerCode shares w).taxableMonthly = w.taxableMonthly := by
  cases shares <;> rfl

@[simp] theorem applyProfessionalTax_taxableMonthly (pt : ℚ) (w : Working) :
    (applyProfessionalTax pt w).taxableMonthly = w.taxableMonthly := by
  unfold applyProfessionalTax
  split <;> rfl

@[simp] theorem applyProvidentFund_taxableMonthly (pf : EpfContributions) (w : Working) :
    (applyProvidentFund pf w).taxableMonthly = w.taxableMonthly := by
  unfold applyProvidentFund
  split <;> rfl

/-- In a full month the salary and the arrears are taxed. -/
theorem fullMonth_taxableMonthly (window : Calendar.Date × Calendar.Date) (pt : ℚ) :
    (inp.fullMonth window pt).taxableMonthly
      = inp.assignment.taxableSalary + max 0 inp.arrears := by
  have hlevies : (inp.fullMonth window pt).taxableMonthly = inp.earned.taxableMonthly := by
    simp [ItemInputs.fullMonth, applyEsi, applyLabourWelfareFund]
  have harrears : OnPaise inp.arrears := onPaise_normalizeDecimal _
  rw [hlevies, ItemInputs.earned, addArrears]
  split
  · next hpos =>
    rw [max_eq_right hpos.le]
    show normalizeDecimal (inp.collected.taxableMonthly + inp.arrears) = _
    rw [collected_taxableMonthly,
      normalizeDecimal_of_onPaise ((onPaise_taxableSalary _).add harrears)]
  · next hneg =>
    rw [max_eq_left (not_lt.mp hneg), add_zero, collected_taxableMonthly]

/-! ## One month -/

/-- **A month withholds its share of the projected tax**, up to a paisa. -/
theorem withheld_near {amounts : ItemAmounts} {snapshot : ItemSnapshot}
    (h : calculateItem inp = .ok (.ready amounts snapshot)) (harrears : inp.arrears = 0)
    (hfull : ¬ inp.IsPartialMonth) :
    |amounts.incomeTax
      - (inp.annualTax (inp.monthsRemaining * inp.assignment.taxableSalary)).annualTax
        / inp.monthsRemaining| ≤ 1 / 100 := by
  obtain ⟨window, pt, ptBasis, -, -, rfl, -, hfits⟩ := calculateItem_eq_ready h
  have hsalary : inp.prorate (inp.fullMonth window pt).taxableMonthly
      = inp.assignment.taxableSalary := by
    rw [ItemInputs.prorate, if_neg hfull, fullMonth_taxableMonthly, harrears, max_self, add_zero]
  have hgross : inp.annualTaxableGross inp.assignment.taxableSalary
      = inp.monthsRemaining * inp.assignment.taxableSalary := by
    rw [ItemInputs.annualTaxableGross, mul_comm]
    refine normalizeDecimal_of_onPaise ?_
    obtain ⟨n, hn⟩ := onPaise_taxableSalary inp.assignment
    exact ⟨inp.monthsRemaining * n, by rw [hn]; push_cast; ring⟩
  have hfits : |inp.incomeTax inp.assignment.taxableSalary| < 10 ^ 10 := by
    have hall := List.all_eq_true.mp hfits (inp.incomeTax inp.assignment.taxableSalary)
      (by simp [ItemInputs.finalAmounts, hsalary])
    simpa using hall
  show |inp.incomeTax (inp.prorate (inp.fullMonth window pt).taxableMonthly) - _| ≤ 1 / 100
  rw [hsalary]
  unfold ItemInputs.incomeTax at hfits ⊢
  rw [hgross] at hfits ⊢
  exact abs_normalizeDecimal_context_sub_le hfits

end

/-! ## The year -/

/-- The months of a fiscal year, from April. -/
def fiscalMonth (m : Fin 12) : ℕ := (m + 3) % 12 + 1

/-- **One salary for a fiscal year**: twelve full months with the same taxable
salary, on the same terms of taxation. -/
structure SameSalary (inputs : Fin 12 → ItemInputs) (salary : ℚ) : Prop where
  month : ∀ m, (inputs m).period.month = fiscalMonth m
  fiscalYear : ∀ m, (inputs m).period.fiscalYear = (inputs 0).period.fiscalYear
  salary : ∀ m, (inputs m).assignment.taxableSalary = salary
  noArrears : ∀ m, (inputs m).arrears = 0
  fullMonth : ∀ m, ¬ (inputs m).IsPartialMonth
  taxRegime : ∀ m, (inputs m).assignment.taxRegime = (inputs 0).assignment.taxRegime
  declared : ∀ m, (inputs m).declaredTotals = (inputs 0).declaredTotals
  taxSlabSet : ∀ m, (inputs m).taxSlabSet = (inputs 0).taxSlabSet

/-- The annual tax depends on the terms alone. -/
theorem annualTax_congr {inp inp' : ItemInputs}
    (hyear : inp.period.fiscalYear = inp'.period.fiscalYear)
    (hregime : inp.assignment.taxRegime = inp'.assignment.taxRegime)
    (hdeclared : inp.declaredTotals = inp'.declaredTotals)
    (hslabs : inp.taxSlabSet = inp'.taxSlabSet) : inp.annualTax = inp'.annualTax := by
  funext annualGross
  simp only [ItemInputs.annualTax, ItemInputs.calculateTaxableIncomeWithInvestments,
    ItemInputs.totalDeclaredDeductions, hyear, hregime, hdeclared, hslabs]

theorem monthsRemaining_fiscalMonth (m : Fin 12) :
    monthsRemainingInFiscalYear (fiscalMonth m) = 12 - m := by
  revert m
  decide

/-- **Withholding by projection.** The month with `12 - m` months left
withholds, up to a paisa, the tax on as many salaries divided by these months,
and the year up to a paisa a month their sum. -/
theorem withholding_by_projection (inputs : Fin 12 → ItemInputs) (salary : ℚ)
    (hsame : SameSalary inputs salary) (amounts : Fin 12 → ItemAmounts)
    (snapshot : Fin 12 → ItemSnapshot)
    (hready : ∀ m, calculateItem (inputs m) = .ok (.ready (amounts m) (snapshot m))) :
    (∀ m : Fin 12, |(amounts m).incomeTax
        - ((inputs 0).annualTax ((12 - m : ℕ) * salary)).annualTax / (12 - m : ℕ)| ≤ 1 / 100)
      ∧ |∑ m, (amounts m).incomeTax
        - ∑ m : Fin 12, ((inputs 0).annualTax ((12 - m : ℕ) * salary)).annualTax / (12 - m : ℕ)|
          ≤ 12 * (1 / 100) := by
  have hmonth : ∀ m : Fin 12, |(amounts m).incomeTax
      - ((inputs 0).annualTax ((12 - m : ℕ) * salary)).annualTax / (12 - m : ℕ)| ≤ 1 / 100 := by
    intro m
    have h := withheld_near (hready m) (hsame.noArrears m) (hsame.fullMonth m)
    rwa [ItemInputs.monthsRemaining, hsame.month, monthsRemaining_fiscalMonth, hsame.salary,
      annualTax_congr (hsame.fiscalYear m) (hsame.taxRegime m) (hsame.declared m)
        (hsame.taxSlabSet m)] at h
  refine ⟨hmonth, ?_⟩
  rw [← Finset.sum_sub_distrib]
  calc |∑ m : Fin 12, ((amounts m).incomeTax
        - ((inputs 0).annualTax ((12 - m : ℕ) * salary)).annualTax / (12 - m : ℕ))|
      ≤ ∑ m : Fin 12, |(amounts m).incomeTax
        - ((inputs 0).annualTax ((12 - m : ℕ) * salary)).annualTax / (12 - m : ℕ)| :=
        Finset.abs_sum_le_sum_abs _ _
    _ ≤ ∑ _m : Fin 12, (1 / 100 : ℚ) := Finset.sum_le_sum (fun m _ => hmonth m)
    _ = 12 * (1 / 100) := by simp

/-! ### A salary of 100000 -/

namespace Sample

/-- The twelve months from April 2024. -/
def year (m : Fin 12) : ItemInputs :=
  inputs
    { year := if (m : ℕ) ≤ 8 then 2024 else 2025
      month := fiscalMonth m
      valid := by revert m; decide }
    employee (assignment 100000)

end Sample

theorem sameSalary_sample : SameSalary Sample.year 100000 := by
  constructor <;> intro m <;> first | rfl | (revert m; decide +kernel)

theorem ready_sample (m : Fin 12) :
    calculateItem (Sample.year m)
      = .ok (.ready (Sample.item (Sample.year m)).1 (Sample.item (Sample.year m)).2) := by
  revert m
  decide +kernel

/-- The withholding of a year is not the tax on twelve salaries: 22140.71 is
withheld of 71500. -/
theorem withholding_not_annual :
    ¬ ∀ (inputs : Fin 12 → ItemInputs) (salary : ℚ), SameSalary inputs salary →
      ∀ (amounts : Fin 12 → ItemAmounts) (snapshot : Fin 12 → ItemSnapshot),
        (∀ m, calculateItem (inputs m) = .ok (.ready (amounts m) (snapshot m))) →
        |∑ m, (amounts m).incomeTax - ((inputs 0).annualTax (12 * salary)).annualTax|
          ≤ 12 * (1 / 100) := by
  intro h
  have hyear := h Sample.year 100000 sameSalary_sample (fun m => (Sample.item (Sample.year m)).1)
    (fun m => (Sample.item (Sample.year m)).2) ready_sample
  have hsum : ∑ m, (Sample.item (Sample.year m)).1.incomeTax = 2214071 / 100 := by decide +kernel
  have htax : ((Sample.year 0).annualTax (12 * 100000)).annualTax = 71500 := by decide +kernel
  rw [hsum, htax] at hyear
  norm_num at hyear

/-- A twelfth of the tax on twelve salaries, in April. -/
theorem withholding_by_projection_sample :
    |(Sample.item (Sample.year 0)).1.incomeTax
        - ((Sample.year 0).annualTax (12 * 100000)).annualTax / 12| ≤ 1 / 100 :=
  (withholding_by_projection Sample.year 100000 sameSalary_sample _ _ ready_sample).1 0

end Payroll
