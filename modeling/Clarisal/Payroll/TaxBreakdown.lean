import Clarisal.Payroll.SlabTax
import Mathlib.Data.List.TakeWhile

/-!
# The tax breakdown reconciles

The fields of a breakdown are rounded one by one, and still add up: the tax, less the
rebate, plus the surcharge is the tax before the cess, and that plus the cess is the annual
tax. The second holds because a cess of 4 % never ends in half a paisa, so that rounding it
alone and rounding it with the tax agree.

No field is negative, except that a rebate with a negative maximum is
(`breakdown_reconciles`).
-/

namespace Payroll

section

variable {taxSlabSet : PayrollTaxSlabSet} {tiers : List (ℚ × ℚ)} {rebate : ℚ × ℚ}
  {income tax threshold maximum surcharge : ℚ} {tier : ℚ × ℚ}

/-! ## The slab tax and the rebate -/

theorem le_annualTaxOfSlabs {slabs : List PayrollTaxSlab}
    (hrates : ∀ s ∈ slabs, 0 ≤ s.ratePercent) (annualTax : ℚ) :
    annualTax ≤ annualTaxOfSlabs income slabs annualTax := by
  induction slabs generalizing annualTax with
  | nil => exact le_rfl
  | cons slab slabs ih =>
    obtain ⟨hrate, hrates⟩ := List.forall_mem_cons.mp hrates
    have hpercent : 0 ≤ slab.ratePercent / 100 := div_nonneg hrate (by norm_num)
    rw [annualTaxOfSlabs]
    split
    · exact ih hrates annualTax
    · next hstart =>
      split
      · exact le_add_of_nonneg_right
          (mul_nonneg (sub_nonneg.mpr (not_le.mp hstart).le) hpercent)
      · split
        · exact ih hrates annualTax
        · next hpart =>
          have hslice := mul_nonneg (not_le.mp hpart).le hpercent
          split
          · exact le_add_of_nonneg_right hslice
          · exact (le_add_of_nonneg_right hslice).trans (ih hrates _)

theorem calculateAnnualTax_nonneg (hrates : ∀ s ∈ taxSlabSet.slabs, 0 ≤ s.ratePercent)
    (income : ℚ) : 0 ≤ calculateAnnualTax taxSlabSet income :=
  normalizeDecimal_nonneg (le_annualTaxOfSlabs hrates 0)

theorem onPaise_calculateAnnualTax (taxSlabSet : PayrollTaxSlabSet) (income : ℚ) :
    OnPaise (calculateAnnualTax taxSlabSet income) :=
  onPaise_normalizeDecimal _

theorem onPaise_rebate87a (income tax threshold maximum : ℚ) :
    OnPaise (rebate87a income tax threshold maximum) := by
  unfold rebate87a
  split
  · exact onPaise_normalizeDecimal _
  · exact Decimal.onGrid_zero

/-- A rebate is at most the tax. -/
theorem rebate87a_le (htax : OnPaise tax) (hnonneg : 0 ≤ tax) :
    rebate87a income tax threshold maximum ≤ tax := by
  unfold rebate87a
  split
  · exact (normalizeDecimal_mono (min_le_left _ _)).trans_eq (normalizeDecimal_of_onPaise htax)
  · exact hnonneg

/-- **When a rebate is negative**: it applies, and its maximum is. -/
theorem rebate87a_nonneg_iff (hmaximum : OnPaise maximum) (hnonneg : 0 ≤ tax) :
    0 ≤ rebate87a income tax threshold maximum ↔ threshold < income ∨ 0 ≤ maximum := by
  unfold rebate87a
  split
  · next happlies =>
    rw [or_iff_right (not_lt.mpr happlies)]
    constructor
    · intro h
      by_contra hneg
      have hmin : min tax maximum = maximum := min_eq_right ((not_le.mp hneg).le.trans hnonneg)
      rw [hmin, normalizeDecimal_of_onPaise hmaximum] at h
      exact hneg h
    · exact fun h => normalizeDecimal_nonneg (le_min hnonneg h)
  · next happlies => exact iff_of_true le_rfl (Or.inl (not_le.mp happlies))

/-- The clamp of the tax after the rebate takes nothing away. -/
theorem taxAfterRebate_eq (hrates : ∀ s ∈ taxSlabSet.slabs, 0 ≤ s.ratePercent) :
    taxAfterRebate taxSlabSet rebate income = calculateAnnualTax taxSlabSet income
      - rebate87a income (calculateAnnualTax taxSlabSet income) rebate.1 rebate.2 := by
  have htax := onPaise_calculateAnnualTax taxSlabSet income
  have hrebate : rebate87a income (calculateAnnualTax taxSlabSet income) rebate.1 rebate.2
      ≤ calculateAnnualTax taxSlabSet income :=
    rebate87a_le htax (calculateAnnualTax_nonneg hrates income)
  unfold taxAfterRebate
  dsimp only
  rw [max_eq_right (sub_nonneg.mpr hrebate),
    normalizeDecimal_of_onPaise (htax.sub (onPaise_rebate87a _ _ _ _))]

theorem taxAfterRebate_nonneg : 0 ≤ taxAfterRebate taxSlabSet rebate income :=
  normalizeDecimal_nonneg (le_max_left _ _)

theorem onPaise_taxAfterRebate : OnPaise (taxAfterRebate taxSlabSet rebate income) :=
  onPaise_normalizeDecimal _

/-! ## The surcharge -/

/-- The tier of an income is one of the tiers, and below the income. -/
theorem surchargeTier_eq_some (h : surchargeTier tiers income = some tier) :
    tier ∈ tiers ∧ tier.1 < income := by
  have hmem := List.mem_of_getLast? h
  refine ⟨(List.mem_insertionSort _).mp ((List.takeWhile_sublist _).subset hmem), ?_⟩
  simpa using List.mem_takeWhile_imp hmem

theorem onPaise_calculateSurcharge (income tax : ℚ) (tiers : List (ℚ × ℚ)) :
    OnPaise (calculateSurcharge income tax tiers) := by
  unfold calculateSurcharge
  split
  · exact Decimal.onGrid_zero
  · exact onPaise_normalizeDecimal _

theorem calculateSurcharge_nonneg (htiers : ∀ t ∈ tiers, 0 ≤ t.2) (htax : 0 ≤ tax) :
    0 ≤ calculateSurcharge income tax tiers := by
  unfold calculateSurcharge
  split
  · exact le_rfl
  · next threshold rate htier =>
    have hrate : 0 ≤ rate := htiers _ (surchargeTier_eq_some htier).1
    exact normalizeDecimal_nonneg (mul_nonneg (normalizeDecimal_nonneg htax) hrate)

/-- The rates of the tiers. -/
theorem rate_surchargeTier {regime : TaxRegime} {income : ℚ} {tier : ℚ × ℚ}
    (h : surchargeTier (surchargeTiersForRegime regime) income = some tier) :
    0 ≤ tier.2 ∧ tier.2 ≤ 37 / 100 := by
  have hmem := (surchargeTier_eq_some h).1
  cases regime with
  | old =>
    simp only [surchargeTiersForRegime, oldRegimeSurchargeTiers, List.mem_cons, List.not_mem_nil,
      or_false] at hmem
    rcases hmem with rfl | rfl | rfl | rfl <;> norm_num
  | new =>
    simp only [surchargeTiersForRegime, newRegimeSurchargeTiers, List.mem_cons, List.not_mem_nil,
      or_false] at hmem
    rcases hmem with rfl | rfl | rfl <;> norm_num

/-- Relief lowers a surcharge, at most to nothing. -/
theorem relievedSurcharge_bounds (taxSlabSet : PayrollTaxSlabSet) (tiers : List (ℚ × ℚ))
    (rebate : ℚ × ℚ) (income : ℚ) {surcharge : ℚ} (htax : OnPaise tax)
    (hpaise : OnPaise surcharge) (hnonneg : 0 ≤ surcharge) :
    0 ≤ relievedSurcharge taxSlabSet tiers rebate income tax surcharge
      ∧ relievedSurcharge taxSlabSet tiers rebate income tax surcharge ≤ surcharge
      ∧ OnPaise (relievedSurcharge taxSlabSet tiers rebate income tax surcharge) := by
  unfold relievedSurcharge
  split
  · exact ⟨hnonneg, le_rfl, hpaise⟩
  · dsimp only
    split
    · next hlt =>
      rw [normalizeDecimal_of_onPaise (htax.add hpaise)] at hlt
      refine ⟨normalizeDecimal_nonneg (le_max_left 0 _), ?_,
        onPaise_normalizeDecimal _⟩
      conv_rhs => rw [← normalizeDecimal_of_onPaise hpaise]
      exact normalizeDecimal_mono (max_le hnonneg (by linarith))
    · exact ⟨hnonneg, le_rfl, hpaise⟩

/-- No tier at all, for an income that exceeds none. -/
theorem surchargeTier_eq_none (h : ∀ t ∈ tiers, income ≤ t.1) :
    surchargeTier tiers income = none := by
  cases htier : surchargeTier tiers income with
  | none => rfl
  | some tier =>
    obtain ⟨hmem, hlow⟩ := surchargeTier_eq_some htier
    exact absurd (h tier hmem) (not_le.mpr hlow)

/-! ## The cess -/

/-- **The tax with cess** is the tax and the cess: the four hundredths of a
number of paise never fall halfway. -/
theorem applyCess_eq (h : OnPaise tax) :
    applyCess tax = tax + normalizeDecimal (tax * indiaCessRate) := by
  obtain ⟨n, rfl⟩ := h
  have htie : ((n : ℚ) * (4 / 100)) - ⌊(n : ℚ) * (4 / 100)⌋ ≠ 1 / 2 := by
    intro htie
    have hint : (2 * (4 * n - 100 * ⌊(n : ℚ) * (4 / 100)⌋) : ℚ) = 100 := by linarith
    have : 2 * (4 * n - 100 * ⌊(n : ℚ) * (4 / 100)⌋) = (100 : ℤ) := by exact_mod_cast hint
    omega
  have hround := Decimal.roundHalfEven_intCast_add n htie
  unfold applyCess
  rw [normalizeDecimal_of_onPaise ⟨n, rfl⟩]
  unfold normalizeDecimal Decimal.quantize indiaCessRate
  rw [show (n : ℚ) * (1 / 100) * (1 + 4 / 100) / (1 / 100) = n + n * (4 / 100) by ring,
    show (n : ℚ) * (1 / 100) * (4 / 100) / (1 / 100) = n * (4 / 100) by ring, hround]
  push_cast
  ring

end

/-- **The fields of a breakdown add up.** -/
def TaxBreakdown.AddsUp (b : TaxBreakdown) : Prop :=
  b.taxBeforeRebate - b.rebate87a + b.surcharge = b.taxAfterRebate
    ∧ b.taxAfterRebate + b.cess = b.annualTax

/-- No field of a breakdown is negative. -/
def TaxBreakdown.IsNonneg (b : TaxBreakdown) : Prop :=
  0 ≤ b.taxBeforeRebate ∧ 0 ≤ b.rebate87a ∧ 0 ≤ b.taxAfterRebate ∧ 0 ≤ b.surcharge ∧ 0 ≤ b.cess
    ∧ 0 ≤ b.annualTax

instance (b : TaxBreakdown) : Decidable b.IsNonneg := inferInstanceAs (Decidable (_ ∧ _))

/-- **The breakdown reconciles to the paisa**, no field is negative unless a rebate with a
negative maximum applies, and there is no surcharge up to the lowest tier. -/
theorem breakdown_reconciles (taxableIncome : ℚ) (taxSlabSet : PayrollTaxSlabSet)
    (tiers : List (ℚ × ℚ)) (rebate : ℚ × ℚ) (hslabs : ∀ s ∈ taxSlabSet.slabs, 0 ≤ s.ratePercent)
    (htiers : ∀ t ∈ tiers, 0 ≤ t.2) {b : TaxBreakdown}
    (h : calculateIncomeTaxWithRebate taxableIncome taxSlabSet tiers rebate = b) :
    b.AddsUp
      ∧ (b.IsNonneg ↔ normalizeDecimal rebate.1 < normalizeDecimal taxableIncome
          ∨ 0 ≤ normalizeDecimal rebate.2)
      ∧ ((∀ t ∈ tiers, normalizeDecimal taxableIncome ≤ t.1) → b.surcharge = 0) := by
  subst h
  unfold calculateIncomeTaxWithRebate
  dsimp only
  generalize hincome : normalizeDecimal taxableIncome = income
  generalize normalizeDecimal rebate.1 = threshold
  generalize hmaximum : normalizeDecimal rebate.2 = maximum
  have hin : normalizeDecimal income = income := hincome ▸ normalizeDecimal_normalizeDecimal _
  have hgrid : OnPaise maximum := hmaximum ▸ onPaise_normalizeDecimal _
  have hbefore := calculateAnnualTax_nonneg hslabs income
  have hrebate : 0 ≤ rebate87a income (calculateAnnualTax taxSlabSet income) threshold maximum
      ↔ threshold < income ∨ 0 ≤ maximum := rebate87a_nonneg_iff hgrid hbefore
  have hafter : taxAfterRebate taxSlabSet (threshold, maximum) income
      = calculateAnnualTax taxSlabSet income
        - rebate87a income (calculateAnnualTax taxSlabSet income) threshold maximum :=
    taxAfterRebate_eq hslabs
  have htax : 0 ≤ taxAfterRebate taxSlabSet (threshold, maximum) income := taxAfterRebate_nonneg
  have hpaise : OnPaise (taxAfterRebate taxSlabSet (threshold, maximum) income) :=
    onPaise_taxAfterRebate
  generalize taxAfterRebate taxSlabSet (threshold, maximum) income = tax at *
  obtain ⟨hsurcharge, -, hsurchargePaise⟩ := relievedSurcharge_bounds taxSlabSet tiers
    (threshold, maximum) income hpaise (onPaise_calculateSurcharge income tax tiers)
    (calculateSurcharge_nonneg htiers htax)
  have hnone : (∀ t ∈ tiers, income ≤ t.1) → relievedSurcharge taxSlabSet tiers
      (threshold, maximum) income tax (calculateSurcharge income tax tiers) = 0 := by
    intro hlow
    rw [relievedSurcharge, calculateSurcharge, hin, surchargeTier_eq_none hlow]
  generalize relievedSurcharge taxSlabSet tiers (threshold, maximum) income tax
    (calculateSurcharge income tax tiers) = surcharge at *
  have htotal := add_nonneg htax hsurcharge
  have hcess : 0 ≤ normalizeDecimal ((tax + surcharge) * indiaCessRate) :=
    normalizeDecimal_nonneg (mul_nonneg htotal (by norm_num [indiaCessRate]))
  rw [normalizeDecimal_of_onPaise (hpaise.add hsurchargePaise),
    applyCess_eq (hpaise.add hsurchargePaise)]
  refine ⟨⟨by rw [hafter], rfl⟩, ?_, hnone⟩
  rw [← hrebate]
  constructor
  · exact fun hall => hall.2.1
  · exact fun h => ⟨hbefore, h, htotal, hsurcharge, hcess, add_nonneg htotal hcess⟩

/-- An income in the second tier of the old regime. -/
theorem breakdown_reconciles_sample :
    (calculateIncomeTaxWithRebate 12000000 (.ofCreated
        [{ minIncome := 0, maxIncome := none, ratePercent := 30 }]) oldRegimeSurchargeTiers
      (500000, 12500)).IsNonneg :=
  ((breakdown_reconciles 12000000 _ oldRegimeSurchargeTiers (500000, 12500)
    (by decide +kernel) (by decide +kernel) rfl).2.1).mpr (by decide +kernel)

/-- A maximum below zero: the rebate is negative. -/
theorem negative_rebate :
    ¬ ∀ (taxableIncome : ℚ) (taxSlabSet : PayrollTaxSlabSet) (tiers : List (ℚ × ℚ))
        (rebate : ℚ × ℚ), (∀ s ∈ taxSlabSet.slabs, 0 ≤ s.ratePercent) →
        (∀ t ∈ tiers, 0 ≤ t.2 ∧ t.2 ≤ 1) → ∀ b : TaxBreakdown,
        calculateIncomeTaxWithRebate taxableIncome taxSlabSet tiers rebate = b →
      b.AddsUp ∧ b.IsNonneg
        ∧ ((∀ t ∈ tiers, normalizeDecimal taxableIncome ≤ t.1) → b.surcharge = 0) := by
  intro h
  have hnonneg := (h 100 (.ofCreated []) [] (500000, -1) (by decide) (by decide) _ rfl).2.1
  revert hnonneg
  decide +kernel

end Payroll
