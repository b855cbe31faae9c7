import Clarisal.Lib.Decimal
import Clarisal.Payroll.Models
import Mathlib.Data.List.Sort

/-!
# Statutory formulas

The income-tax, provident-fund, state-insurance, professional-tax and
welfare-fund formulas. Sums, differences and products of stored amounts and
rates are exact at the precision decimals are computed with, so they are
written as they stand; rounding to paise is `normalizeDecimal`.
-/

open Calendar

namespace Payroll

/-- `quantize(Decimal('0.01'))`. -/
def normalizeDecimal (x : ℚ) : ℚ := Decimal.quantize (1 / 100) x

/-- A whole number of paise. -/
abbrev OnPaise (x : ℚ) : Prop := Decimal.OnGrid (1 / 100) x

section Paise

variable {x y : ℚ}

theorem onPaise_normalizeDecimal (x : ℚ) : OnPaise (normalizeDecimal x) :=
  Decimal.onGrid_quantize _ x

@[simp] theorem normalizeDecimal_of_onPaise (h : OnPaise x) : normalizeDecimal x = x :=
  Decimal.quantize_of_onGrid (by norm_num) h

@[simp] theorem normalizeDecimal_normalizeDecimal (x : ℚ) :
    normalizeDecimal (normalizeDecimal x) = normalizeDecimal x :=
  normalizeDecimal_of_onPaise (onPaise_normalizeDecimal x)

@[simp] theorem normalizeDecimal_zero : normalizeDecimal 0 = 0 := Decimal.quantize_zero _

theorem normalizeDecimal_mono (h : x ≤ y) : normalizeDecimal x ≤ normalizeDecimal y :=
  Decimal.quantize_mono (by norm_num) h

theorem normalizeDecimal_nonneg (h : 0 ≤ x) : 0 ≤ normalizeDecimal x :=
  Decimal.quantize_nonneg (by norm_num) h

/-- An amount of up to half a paisa rounds to nothing. -/
theorem normalizeDecimal_pos_iff : 0 < normalizeDecimal x ↔ 1 / 200 < x := by
  rw [normalizeDecimal, Decimal.quantize_pos_iff (by norm_num), div_div,
    show (100 : ℚ) * 2 = 200 by norm_num]

/-- Rounding to paise moves a value by at most half a paisa. -/
theorem abs_normalizeDecimal_sub_le (x : ℚ) : |normalizeDecimal x - x| ≤ 1 / 200 := by
  have hround := Decimal.abs_quantize_sub_le (u := (1 : ℚ) / 100) (by norm_num) x
  rwa [div_div, show (100 : ℚ) * 2 = 200 by norm_num] at hround

/-- Less than half a paisa from a whole number of paise. -/
theorem normalizeDecimal_eq_of_near {n : ℤ} (h : |x - n * (1 / 100)| < 1 / 200) :
    normalizeDecimal x = n * (1 / 100) := by
  have hround : Decimal.roundHalfEven (x / (1 / 100)) = n := by
    refine Decimal.roundHalfEven_eq_iff.mpr (Or.inl ?_)
    rw [show x / (1 / 100) - n = (x - n * (1 / 100)) * 100 by ring, abs_mul,
      abs_of_pos (by norm_num : (0 : ℚ) < 100)]
    linarith
  rw [normalizeDecimal, Decimal.quantize, hround]

/-- A positive number of paise is at least one. -/
theorem one_le_of_onPaise (h : OnPaise x) (hx : 0 < x) : 1 / 100 ≤ x := by
  obtain ⟨n, rfl⟩ := h
  have hn : 0 < n := by
    by_contra hn
    have : (n : ℚ) ≤ 0 := by exact_mod_cast not_lt.mp hn
    linarith
  have : (1 : ℚ) ≤ n := by exact_mod_cast hn
  linarith

/-- **Rounded to paise**: a value of at most twelve digits moves by at most a paisa. -/
theorem abs_normalizeDecimal_context_sub_le_of_le (h : |y| ≤ 10 ^ 11) :
    |normalizeDecimal (Decimal.context 28 y) - y| ≤ 1 / 100 := by
  have hround := Decimal.abs_quantize_context_sub_le (u := (1 : ℚ) / 100) (by norm_num) 28 y
  change |normalizeDecimal (Decimal.context 28 y) - y| ≤ _ at hround
  have hten : (10 : ℚ) ^ (1 - (28 : ℕ) : ℤ) = 1 / 10 ^ 27 := by norm_num [zpow_neg]
  rw [hten] at hround
  calc |normalizeDecimal (Decimal.context 28 y) - y|
      ≤ 1 / 100 / 2 + |y| * (1 / 10 ^ 27) / 2 := hround
    _ ≤ 1 / 100 / 2 + 10 ^ 11 * (1 / 10 ^ 27) / 2 := by gcongr
    _ ≤ 1 / 100 := by norm_num

/-- An amount that fits its column is a paisa away from what it rounds. -/
theorem abs_normalizeDecimal_context_sub_le
    (h : |normalizeDecimal (Decimal.context 28 y)| < 10 ^ 10) :
    |normalizeDecimal (Decimal.context 28 y) - y| ≤ 1 / 100 := by
  refine abs_normalizeDecimal_context_sub_le_of_le ?_
  have hround := Decimal.abs_quantize_context_sub_le (u := (1 : ℚ) / 100) (by norm_num) 28 y
  change |normalizeDecimal (Decimal.context 28 y) - y| ≤ _ at hround
  have hten : (10 : ℚ) ^ (1 - (28 : ℕ) : ℤ) = 1 / 10 ^ 27 := by norm_num [zpow_neg]
  rw [hten] at hround
  have hsize : |y| ≤ |normalizeDecimal (Decimal.context 28 y)|
      + |normalizeDecimal (Decimal.context 28 y) - y| := by
    have := abs_sub_abs_le_abs_sub y (normalizeDecimal (Decimal.context 28 y))
    rw [abs_sub_comm] at this
    linarith
  -- the value is at most a little above 10 ^ 10, so its 28 digits reach far beyond the paise
  have hpos := abs_nonneg y
  linarith

end Paise

/-! ## Income tax -/

def indiaStandardDeduction : ℚ := 75000
def indiaCessRate : ℚ := 4 / 100
def indiaRebate87aMax : ℚ := 25000
def indiaRebate87aThreshold : ℚ := 700000
def oldRegimeRebate87aMax : ℚ := 12500
def oldRegimeRebate87aThreshold : ℚ := 500000

/-- Thresholds and rates, lowest first. -/
def newRegimeSurchargeTiers : List (ℚ × ℚ) :=
  [(5000000, 10 / 100), (10000000, 15 / 100), (20000000, 25 / 100)]

def oldRegimeSurchargeTiers : List (ℚ × ℚ) :=
  [(5000000, 10 / 100), (10000000, 15 / 100), (20000000, 25 / 100), (50000000, 37 / 100)]

def surchargeTiersForRegime : TaxRegime → List (ℚ × ℚ)
  | .old => oldRegimeSurchargeTiers
  | .new => newRegimeSurchargeTiers

/-- Threshold and maximum of the rebate. A fiscal year is named by the year it
starts in. -/
def getRebate87aParams (fiscalYear : ℕ) : TaxRegime → ℚ × ℚ
  | .old => (oldRegimeRebate87aThreshold, oldRegimeRebate87aMax)
  | .new =>
    if fiscalYear = 2025 then (1200000, 60000)
    else (indiaRebate87aThreshold, indiaRebate87aMax)

/-- The slabs in turn, each taxing its slice; the one that holds the income is
the last. -/
def annualTaxOfSlabs (taxable : ℚ) : List PayrollTaxSlab → ℚ → ℚ
  | [], annualTax => annualTax
  | slab :: slabs, annualTax =>
    if taxable ≤ slab.minIncome then annualTaxOfSlabs taxable slabs annualTax
    else
      match slab.maxIncome with
      | none => annualTax + (taxable - slab.minIncome) * (slab.ratePercent / 100)
      | some slabEnd =>
        if min taxable slabEnd - slab.minIncome ≤ 0 then
          annualTaxOfSlabs taxable slabs annualTax
        else if taxable ≤ slabEnd then
          annualTax + (min taxable slabEnd - slab.minIncome) * (slab.ratePercent / 100)
        else
          annualTaxOfSlabs taxable slabs
            (annualTax + (min taxable slabEnd - slab.minIncome) * (slab.ratePercent / 100))

def calculateAnnualTax (taxSlabSet : PayrollTaxSlabSet) (annualTaxableIncome : ℚ) : ℚ :=
  normalizeDecimal (annualTaxOfSlabs (normalizeDecimal annualTaxableIncome) taxSlabSet.slabs 0)

def calculateTaxableIncomeAfterStandardDeduction (grossTaxableIncome : ℚ) : ℚ :=
  normalizeDecimal (max 0 (normalizeDecimal grossTaxableIncome - indiaStandardDeduction))

def applyCess (taxBeforeCess : ℚ) : ℚ :=
  normalizeDecimal (normalizeDecimal taxBeforeCess * (1 + indiaCessRate))

/-- The tiers in order of their thresholds. -/
def sortedTiers (tiers : List (ℚ × ℚ)) : List (ℚ × ℚ) :=
  tiers.insertionSort (fun s t => s.1 ≤ t.1)

/-- The last tier an income exceeds. -/
def surchargeTier (tiers : List (ℚ × ℚ)) (income : ℚ) : Option (ℚ × ℚ) :=
  ((sortedTiers tiers).takeWhile (fun tier => tier.1 < income)).getLast?

def calculateSurcharge (taxableIncome taxAfterRebate : ℚ) (tiers : List (ℚ × ℚ)) : ℚ :=
  match surchargeTier tiers (normalizeDecimal taxableIncome) with
  | none => 0
  | some (_, rate) => normalizeDecimal (normalizeDecimal taxAfterRebate * rate)

/-- The rebate on a tax, for incomes up to the threshold. -/
def rebate87a (income tax threshold maximum : ℚ) : ℚ :=
  if income ≤ threshold then normalizeDecimal (min tax maximum) else 0

/-- The tax an income bears after its rebate. -/
def taxAfterRebate (taxSlabSet : PayrollTaxSlabSet) (rebate : ℚ × ℚ) (income : ℚ) : ℚ :=
  let tax := calculateAnnualTax taxSlabSet income
  normalizeDecimal (max 0 (tax - rebate87a income tax rebate.1 rebate.2))

/-- **Marginal relief**: the surcharge is cut so that the tax exceeds the tax at
the tier's threshold by at most the income above it. -/
def relievedSurcharge (taxSlabSet : PayrollTaxSlabSet) (tiers : List (ℚ × ℚ)) (rebate : ℚ × ℚ)
    (income tax surcharge : ℚ) : ℚ :=
  match surchargeTier tiers income with
  | none => surcharge
  | some (threshold, _) =>
    let thresholdTax := taxAfterRebate taxSlabSet rebate threshold
    let thresholdTotal :=
      normalizeDecimal (thresholdTax + calculateSurcharge threshold thresholdTax tiers)
    let maxTotal := normalizeDecimal (thresholdTotal + (income - threshold))
    if maxTotal < normalizeDecimal (tax + surcharge) then
      normalizeDecimal (max 0 (maxTotal - tax))
    else surcharge

/-- The steps of an annual tax. -/
structure TaxBreakdown where
  taxBeforeRebate : ℚ
  rebate87a : ℚ
  taxAfterRebate : ℚ
  surcharge : ℚ
  cess : ℚ
  annualTax : ℚ
deriving DecidableEq, Repr

/-- **The annual tax on an income**, with the rebate's threshold and maximum. -/
def calculateIncomeTaxWithRebate (taxableIncome : ℚ) (taxSlabSet : PayrollTaxSlabSet)
    (tiers : List (ℚ × ℚ)) (rebate : ℚ × ℚ) : TaxBreakdown :=
  let income := normalizeDecimal taxableIncome
  let rebate := (normalizeDecimal rebate.1, normalizeDecimal rebate.2)
  let tax := taxAfterRebate taxSlabSet rebate income
  let surcharge := relievedSurcharge taxSlabSet tiers rebate income tax
    (calculateSurcharge income tax tiers)
  let taxBeforeCess := normalizeDecimal (tax + surcharge)
  { taxBeforeRebate := calculateAnnualTax taxSlabSet income
    rebate87a := Payroll.rebate87a income (calculateAnnualTax taxSlabSet income)
      rebate.1 rebate.2
    taxAfterRebate := taxBeforeCess
    surcharge := surcharge
    cess := normalizeDecimal (taxBeforeCess * indiaCessRate)
    annualTax := applyCess taxBeforeCess }

def ensureNonNegativeNetPay (netPay : ℚ) : ℚ :=
  normalizeDecimal (max 0 (normalizeDecimal netPay))

/-! ## Provident fund and state insurance -/

def pfRate : ℚ := 12 / 100
def pfWageCeiling : ℚ := 15000
def esiEmployeeRate : ℚ := 75 / 10000
def esiEmployerRate : ℚ := 325 / 10000
def esiWageCeiling : ℚ := 21000

structure EpfContributions where
  eligibleBasic : ℚ
  employee : ℚ
  employer : ℚ
  epsEmployer : ℚ
  epfEmployer : ℚ
deriving DecidableEq, Repr

/-- The provident-fund contributions on wages capped at the ceiling. -/
def calculateEpfContributions (basicPay employeeRate employerRate wageCeiling : ℚ) :
    EpfContributions :=
  let eligibleBasic := min (normalizeDecimal basicPay) wageCeiling
  let employer := normalizeDecimal (eligibleBasic * employerRate)
  let eps := if employer ≤ 0 then 0
    else min (min (normalizeDecimal (eligibleBasic * (833 / 10000))) 1250) employer
  { eligibleBasic := normalizeDecimal eligibleBasic
    employee := normalizeDecimal (eligibleBasic * employeeRate)
    employer := employer
    epsEmployer := eps
    epfEmployer := if employer ≤ 0 then 0 else normalizeDecimal (max 0 (employer - eps)) }

/-- The state-insurance contributions of employee and employer, when any. -/
def calculateEsiContributions (grossPay : ℚ) (forceEligible : Bool) : Option (ℚ × ℚ) :=
  let gross := normalizeDecimal grossPay
  if forceEligible ∨ gross ≤ esiWageCeiling then
    some (normalizeDecimal (gross * esiEmployeeRate), normalizeDecimal (gross * esiEmployerRate))
  else none

/-- April to September and October to March. The bounds are dates, so the
window can be missing at either end of the calendar. -/
def getEsiContributionPeriodBounds (periodYear periodMonth : ℕ) : Option (Date × Date) := do
  if 4 ≤ periodMonth ∧ periodMonth ≤ 9 then
    return (← Date.ofYMD periodYear 4 1, ← Date.ofYMD periodYear 9 30)
  else if 10 ≤ periodMonth then
    return (← Date.ofYMD periodYear 10 1, ← Date.ofYMD (periodYear + 1) 3 31)
  else
    return (← Date.ofYMD (periodYear - 1) 10 1, ← Date.ofYMD periodYear 3 31)

/-! ## State levies -/

/-- A monthly gross on the basis of a levy. -/
def onIncomeBasis (gross : ℚ) : StatutoryIncomeBasis → ℚ
  | .halfYearly => normalizeDecimal (gross * 6)
  | .annual => normalizeDecimal (gross * 12)
  | .monthly => gross

/-- A row that names no months applies in all of them. -/
def appliesIn (months : List ℕ) (month : ℕ) : Bool := months = [] ∨ month ∈ months

/-- The welfare-fund contribution of the first row that applies. -/
def calculateLabourWelfareFund (payrollMonth : ℕ) (grossPay : ℚ)
    (contributions : List LabourWelfareFundContribution) : Option (ℚ × ℚ) :=
  let gross := normalizeDecimal grossPay
  let row := contributions.find? (fun c =>
    appliesIn c.applicableMonths payrollMonth
      ∧ (∀ w ∈ c.minWage, normalizeDecimal w ≤ gross)
      ∧ (∀ w ∈ c.maxWage, gross ≤ normalizeDecimal w))
  row.map (fun c => (normalizeDecimal c.employeeAmount, normalizeDecimal c.employerAmount))

end Payroll
