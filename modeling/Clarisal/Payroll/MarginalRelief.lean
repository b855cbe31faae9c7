import Clarisal.Lib.Relief
import Clarisal.Payroll.TaxBreakdown
import Mathlib.Data.Int.ConditionallyCompleteOrder

/-!
# Marginal relief and the rebate

An income above a surcharge tier pays at most the tax at the tier's threshold and what the
income exceeds it by. The tax at the threshold is taken with the surcharge of the tier below
but without that tier's own relief. A rebate that ends between two thresholds lowers the tax
at the lower one only, and with it the cap in between. If the rebate is so large that the cap
still holds at the higher threshold, the relief is lost there at once, and a paisa more
income costs lakhs.

`earningMore_iff` says how large a rebate may be.
-/

namespace Payroll

/-- **The slabs follow one another from 0**, at rates of up to 50 %. -/
structure PayrollTaxSlabSet.IsContiguous (taxSlabSet : PayrollTaxSlabSet) : Prop where
  slices : ∃ slices : List (Tariff.Slice ℚ), Tariff.Contiguous 0 slices
    ∧ (taxSlabSet.slabs.map PayrollTaxSlab.slice).Perm slices
  rates : ∀ slab ∈ taxSlabSet.slabs, 0 ≤ slab.ratePercent ∧ slab.ratePercent ≤ 50

/-- **Earning more never leaves a taxpayer worse off**: the annual tax only grows with the
income and, beyond the threshold of the rebate, the tax before the cess by at most what the
income grows by and two paise. Incomes are compared in paise, as the code takes them. -/
def EarningMore (regime : TaxRegime) (rebate : ℚ × ℚ) : Prop :=
  ∀ taxSlabSet : PayrollTaxSlabSet, taxSlabSet.IsContiguous →
    let breakdown := fun income => calculateIncomeTaxWithRebate income taxSlabSet
      (surchargeTiersForRegime regime) rebate
    ∀ x y : ℚ, x ≤ y → (breakdown x).annualTax ≤ (breakdown y).annualTax
      ∧ (normalizeDecimal rebate.1 < normalizeDecimal x →
        (breakdown y).taxAfterRebate ≤ (breakdown x).taxAfterRebate
          + (normalizeDecimal y - normalizeDecimal x) + 2 / 100)

/-! ## The tax in paise -/

/-- An amount, by its paise. -/
def ofPaise (n : ℤ) : ℚ := n * (1 / 100)

section

variable {m n : ℤ}

theorem onPaise_ofPaise (n : ℤ) : OnPaise (ofPaise n) := ⟨n, rfl⟩

/-- What is rounded to paise is a number of them. -/
theorem exists_normalizeDecimal_eq (x : ℚ) : ∃ n, normalizeDecimal x = ofPaise n := ⟨_, rfl⟩

@[simp] theorem normalizeDecimal_ofPaise (n : ℤ) : normalizeDecimal (ofPaise n) = ofPaise n :=
  normalizeDecimal_of_onPaise (onPaise_ofPaise n)

@[simp] theorem ofPaise_zero : ofPaise 0 = 0 := by simp [ofPaise]

@[simp] theorem ofPaise_le_ofPaise : ofPaise m ≤ ofPaise n ↔ m ≤ n := by
  unfold ofPaise
  rw [mul_le_mul_iff_of_pos_right (by norm_num), Int.cast_le]

@[simp] theorem ofPaise_lt_ofPaise : ofPaise m < ofPaise n ↔ m < n := by
  unfold ofPaise
  rw [mul_lt_mul_iff_of_pos_right (by norm_num), Int.cast_lt]

theorem ofPaise_add (m n : ℤ) : ofPaise (m + n) = ofPaise m + ofPaise n := by
  unfold ofPaise
  push_cast
  ring

theorem ofPaise_sub (m n : ℤ) : ofPaise (m - n) = ofPaise m - ofPaise n := by
  unfold ofPaise
  push_cast
  ring

theorem ofPaise_mono : Monotone ofPaise := fun _ _ h => ofPaise_le_ofPaise.mpr h

theorem ofPaise_max (m n : ℤ) : ofPaise (max m n) = max (ofPaise m) (ofPaise n) :=
  ofPaise_mono.map_max

theorem ofPaise_min (m n : ℤ) : ofPaise (min m n) = min (ofPaise m) (ofPaise n) :=
  ofPaise_mono.map_min

/-- A share of an amount. -/
theorem normalizeDecimal_ofPaise_mul (n : ℤ) (rate : ℚ) :
    normalizeDecimal (ofPaise n * rate) = ofPaise (Decimal.roundHalfEven (n * rate)) := by
  show ofPaise (Decimal.roundHalfEven (ofPaise n * rate / (1 / 100))) = _
  rw [show ofPaise n * rate / (1 / 100) = n * rate by unfold ofPaise; ring]

end

/-- The surcharge tiers, the lowest first, in paise. -/
def tierThreshold : ℕ → ℤ
  | 0 => 500000000
  | 1 => 1000000000
  | 2 => 2000000000
  | _ => 5000000000

/-- The rate of the surcharge above a number of tiers. -/
def tierRate : ℕ → ℚ
  | 0 => 0
  | 1 => 10 / 100
  | 2 => 15 / 100
  | 3 => 25 / 100
  | _ => 37 / 100

def tierCount : TaxRegime → ℕ
  | .old => 4
  | .new => 3

/-- The slab tax before it is rounded, in paise. -/
def exactTax (taxSlabSet : PayrollTaxSlabSet) (n : ℤ) : ℚ :=
  annualTaxOfSlabs (ofPaise n) taxSlabSet.slabs 0 / (1 / 100)

/-- The slab tax. -/
def slabTax (taxSlabSet : PayrollTaxSlabSet) (n : ℤ) : ℤ :=
  Decimal.roundHalfEven (exactTax taxSlabSet n)

/-- The slab tax less the rebate. -/
def rebatedTax (taxSlabSet : PayrollTaxSlabSet) (threshold maximum n : ℤ) : ℤ :=
  if n ≤ threshold then max 0 (slabTax taxSlabSet n - maximum) else slabTax taxSlabSet n

/-- **The tax with the surcharge** above a number of tiers, without relief. -/
def surchargedTax (taxSlabSet : PayrollTaxSlabSet) (threshold maximum : ℤ) (k : ℕ) (n : ℤ) : ℤ :=
  rebatedTax taxSlabSet threshold maximum n
    + Decimal.roundHalfEven (rebatedTax taxSlabSet threshold maximum n * tierRate k)

/-- **The tax before the cess**: with the surcharge of the tiers of a regime, relieved. -/
def relievedTax (taxSlabSet : PayrollTaxSlabSet) (regime : TaxRegime) (threshold maximum : ℤ) :
    ℤ → ℤ :=
  Relief.due (surchargedTax taxSlabSet threshold maximum) tierThreshold (tierCount regime)

/-! ### The tiers of a regime -/

theorem takeWhile_range_eq_range_band {threshold : ℕ → ℤ} (hmono : Monotone threshold) (x : ℤ)
    (n : ℕ) : (List.range n).takeWhile (fun i => threshold i < x)
      = List.range (Relief.band threshold x n) := by
  induction n with
  | zero => rfl
  | succ n ih =>
    rw [List.range_succ, List.takeWhile_append, ih, Relief.band]
    by_cases hlt : threshold n < x
    · have hall : (List.range n).takeWhile (fun i => threshold i < x) = List.range n :=
        List.takeWhile_eq_self_iff.mpr fun i hi =>
          decide_eq_true ((hmono (List.mem_range.mp hi).le).trans_lt hlt)
      rw [ih] at hall
      simp [hlt, hall, List.range_succ]
    · have hnone : [n].takeWhile (fun i => threshold i < x) = [] := by simp [hlt]
      rw [hnone, List.append_nil, if_neg hlt]
      split
      · next hlength =>
        rw [List.length_range, List.length_range] at hlength
        rw [hlength]
      · rfl

theorem tierThreshold_mono : Monotone tierThreshold := by
  refine monotone_nat_of_le_succ fun k => ?_
  match k with
  | 0 => decide
  | 1 => decide
  | 2 => decide
  | _ + 3 => exact le_rfl

theorem four_dvd_tierThreshold (k : ℕ) : 4 ∣ tierThreshold k := by
  match k with
  | 0 => decide
  | 1 => decide
  | 2 => decide
  | _ + 3 => exact (by decide : (4 : ℤ) ∣ 5000000000)

theorem tierRate_mono : Monotone tierRate := by
  refine monotone_nat_of_le_succ fun k => ?_
  match k with
  | 0 => norm_num [tierRate]
  | 1 => norm_num [tierRate]
  | 2 => norm_num [tierRate]
  | 3 => norm_num [tierRate]
  | _ + 4 => exact le_rfl

theorem tierRate_bounds (k : ℕ) : 0 ≤ tierRate k ∧ tierRate k ≤ 37 / 100 := by
  refine ⟨tierRate_mono (Nat.zero_le k), ?_⟩
  match k with
  | 0 => norm_num [tierRate]
  | 1 => norm_num [tierRate]
  | 2 => norm_num [tierRate]
  | 3 => norm_num [tierRate]
  | _ + 4 => exact le_rfl

theorem sortedTiers_regime (regime : TaxRegime) :
    sortedTiers (surchargeTiersForRegime regime)
      = (List.range (tierCount regime)).map
          (fun i => (ofPaise (tierThreshold i), tierRate (i + 1))) := by
  cases regime <;> decide +kernel

/-- **The tier of an income** is the last one below it. -/
theorem surchargeTier_regime (regime : TaxRegime) (n : ℤ) :
    surchargeTier (surchargeTiersForRegime regime) (ofPaise n)
      = match Relief.band tierThreshold n (tierCount regime) with
        | 0 => none
        | k + 1 => some (ofPaise (tierThreshold k), tierRate (k + 1)) := by
  have hbelow : (fun tier : ℚ × ℚ => decide (tier.1 < ofPaise n))
      ∘ (fun i => (ofPaise (tierThreshold i), tierRate (i + 1)))
      = fun i => decide (tierThreshold i < n) := by
    funext i
    simp
  rw [surchargeTier, sortedTiers_regime, List.takeWhile_map, hbelow,
    takeWhile_range_eq_range_band tierThreshold_mono]
  cases Relief.band tierThreshold n (tierCount regime) with
  | zero => rfl
  | succ k => simp [List.range_succ]

theorem band_tierThreshold (regime : TaxRegime) : ∀ k < tierCount regime,
    Relief.band tierThreshold (tierThreshold k) (tierCount regime) = k := by
  cases regime <;> decide

theorem band_tierThreshold_add_one (regime : TaxRegime) : ∀ k < tierCount regime,
    Relief.band tierThreshold (tierThreshold k + 1) (tierCount regime) = k + 1 := by
  cases regime <;> decide

/-! ### The code computes the relief -/

section

variable {taxSlabSet : PayrollTaxSlabSet} {threshold maximum n : ℤ}

theorem calculateAnnualTax_ofPaise (taxSlabSet : PayrollTaxSlabSet) (n : ℤ) :
    calculateAnnualTax taxSlabSet (ofPaise n) = ofPaise (slabTax taxSlabSet n) := by
  rw [calculateAnnualTax, normalizeDecimal_ofPaise]
  rfl

theorem slabTax_nonneg (hrates : ∀ s ∈ taxSlabSet.slabs, 0 ≤ s.ratePercent) (n : ℤ) :
    0 ≤ slabTax taxSlabSet n :=
  Decimal.roundHalfEven_nonneg
    (div_nonneg (le_annualTaxOfSlabs hrates 0) (by norm_num))

theorem rebatedTax_nonneg (hrates : ∀ s ∈ taxSlabSet.slabs, 0 ≤ s.ratePercent) (n : ℤ) :
    0 ≤ rebatedTax taxSlabSet threshold maximum n := by
  unfold rebatedTax
  split
  · exact le_max_left _ _
  · exact slabTax_nonneg hrates n

theorem rebatedTax_of_lt (taxSlabSet : PayrollTaxSlabSet) (maximum : ℤ) (h : threshold < n) :
    rebatedTax taxSlabSet threshold maximum n = slabTax taxSlabSet n :=
  if_neg (not_le.mpr h)

theorem taxAfterRebate_ofPaise (hrates : ∀ s ∈ taxSlabSet.slabs, 0 ≤ s.ratePercent) (n : ℤ) :
    taxAfterRebate taxSlabSet (ofPaise threshold, ofPaise maximum) (ofPaise n)
      = ofPaise (rebatedTax taxSlabSet threshold maximum n) := by
  have htax := slabTax_nonneg hrates n
  rw [taxAfterRebate_eq hrates, calculateAnnualTax_ofPaise]
  unfold rebate87a rebatedTax
  by_cases hn : n ≤ threshold
  · rw [if_pos (ofPaise_le_ofPaise.mpr hn), if_pos hn, ← ofPaise_min, normalizeDecimal_ofPaise,
      ← ofPaise_sub]
    congr 1
    omega
  · rw [if_neg (mt ofPaise_le_ofPaise.mp hn), if_neg hn, sub_zero]

theorem surchargedTax_zero (taxSlabSet : PayrollTaxSlabSet) (threshold maximum n : ℤ) :
    surchargedTax taxSlabSet threshold maximum 0 n = rebatedTax taxSlabSet threshold maximum n := by
  simp [surchargedTax, tierRate]

theorem calculateSurcharge_ofPaise (regime : TaxRegime) (n t : ℤ) :
    calculateSurcharge (ofPaise n) (ofPaise t) (surchargeTiersForRegime regime)
      = ofPaise (Decimal.roundHalfEven
          (t * tierRate (Relief.band tierThreshold n (tierCount regime)))) := by
  rw [calculateSurcharge, normalizeDecimal_ofPaise, surchargeTier_regime]
  cases Relief.band tierThreshold n (tierCount regime) with
  | zero => simp [tierRate]
  | succ k =>
    dsimp only
    rw [normalizeDecimal_ofPaise, normalizeDecimal_ofPaise_mul]

/-- **The code computes the relieved tax.** -/
theorem taxAfterRebate_eq_relievedTax (regime : TaxRegime) (rebate : ℚ × ℚ) (income : ℚ)
    (hthreshold : normalizeDecimal rebate.1 = ofPaise threshold)
    (hmaximum : normalizeDecimal rebate.2 = ofPaise maximum)
    (hincome : normalizeDecimal income = ofPaise n)
    (hrates : ∀ s ∈ taxSlabSet.slabs, 0 ≤ s.ratePercent) :
    (calculateIncomeTaxWithRebate income taxSlabSet (surchargeTiersForRegime regime)
        rebate).taxAfterRebate
      = ofPaise (relievedTax taxSlabSet regime threshold maximum n) := by
  have ht : 0 ≤ rebatedTax taxSlabSet threshold maximum n := rebatedTax_nonneg hrates n
  show normalizeDecimal (taxAfterRebate _ (_, _) _ + relievedSurcharge _ _ (_, _) _ _ _) = _
  rw [hthreshold, hmaximum, hincome, taxAfterRebate_ofPaise hrates, calculateSurcharge_ofPaise,
    relievedSurcharge, surchargeTier_regime, relievedTax, Relief.due]
  have hband := Relief.band_le tierThreshold n (tierCount regime)
  generalize Relief.band tierThreshold n (tierCount regime) = band at *
  cases band with
  | zero =>
    dsimp only
    rw [← ofPaise_add, normalizeDecimal_ofPaise]
    rfl
  | succ k =>
    have hsurcharge : 0 ≤ Decimal.roundHalfEven
        (rebatedTax taxSlabSet threshold maximum n * tierRate (k + 1)) :=
      Decimal.roundHalfEven_nonneg
        (mul_nonneg (Int.cast_nonneg_iff.mpr ht) (tierRate_bounds _).1)
    dsimp only
    rw [taxAfterRebate_ofPaise hrates, calculateSurcharge_ofPaise,
      band_tierThreshold regime k hband, ← ofPaise_add, ← ofPaise_add, normalizeDecimal_ofPaise,
      normalizeDecimal_ofPaise, ← ofPaise_sub, ← ofPaise_add, normalizeDecimal_ofPaise,
      ← ofPaise_sub, ← ofPaise_zero, ← ofPaise_max, normalizeDecimal_ofPaise,
      ← apply_ite ofPaise, ← ofPaise_add, normalizeDecimal_ofPaise]
    unfold Relief.relieved
    rw [surchargedTax_zero]
    congr 1
    simp only [ofPaise_lt_ofPaise]
    unfold surchargedTax
    split <;> omega

/-! ## How fast the tax grows -/

/-- **The slab tax is the charge of a tariff.** -/
theorem PayrollTaxSlabSet.IsContiguous.exists_exactTax_eq (h : taxSlabSet.IsContiguous) :
    ∃ slices : List (Tariff.Slice ℚ), Tariff.Contiguous 0 slices
      ∧ (∀ s ∈ slices, 0 ≤ s.rate ∧ s.rate ≤ 1 / 2)
      ∧ ∀ n, exactTax taxSlabSet n = Tariff.charge slices (ofPaise n) * 100 := by
  obtain ⟨slices, hcontiguous, hperm⟩ := h.slices
  refine ⟨slices, hcontiguous, fun s hs => ?_, fun n => ?_⟩
  · obtain ⟨slab, hslab, rfl⟩ := List.mem_map.mp (hperm.mem_iff.mpr hs)
    have hrate := h.rates slab hslab
    show 0 ≤ slab.ratePercent / 100 ∧ slab.ratePercent / 100 ≤ 1 / 2
    constructor <;> linarith [hrate.1, hrate.2]
  · have hdisjoint : (taxSlabSet.slabs.map PayrollTaxSlab.slice).Pairwise
        (fun s t => Disjoint s.interval t.interval) :=
      (hperm.pairwise_iff (fun hst => Disjoint.symm hst)).mpr hcontiguous.disjoint
    have happart : taxSlabSet.slabs.Pairwise
        (fun s t => Disjoint s.slice.interval t.slice.interval) := by
      rwa [List.pairwise_map] at hdisjoint
    rw [exactTax, annualTaxOfSlabs_eq_charge taxSlabSet.ordered happart, zero_add,
      Tariff.charge_perm hperm]
    ring

variable {m d : ℤ}

theorem exactTax_mono (h : taxSlabSet.IsContiguous) : Monotone (exactTax taxSlabSet) := by
  obtain ⟨slices, -, hrates, hcharge⟩ := h.exists_exactTax_eq
  intro m n hmn
  rw [hcharge, hcharge]
  exact mul_le_mul_of_nonneg_right
    (Tariff.charge_mono (fun s hs => (hrates s hs).1) (ofPaise_mono hmn)) (by norm_num)

/-- **At most half of what an income grows by** goes to the slab tax. -/
theorem exactTax_sub_le (h : taxSlabSet.IsContiguous) (hmn : m ≤ n) :
    exactTax taxSlabSet n - exactTax taxSlabSet m ≤ ((n : ℚ) - m) / 2 := by
  obtain ⟨slices, hcontiguous, hrates, hcharge⟩ := h.exists_exactTax_eq
  have hrise := hcontiguous.charge_sub_le (by norm_num) (fun s hs => (hrates s hs).2)
    (ofPaise_mono hmn)
  have hpaise : ofPaise n - ofPaise m = ((n : ℚ) - m) * (1 / 100) := by
    unfold ofPaise
    ring
  rw [hpaise] at hrise
  rw [hcharge, hcharge, ← sub_mul]
  linarith

theorem exactTax_zero (h : taxSlabSet.IsContiguous) : exactTax taxSlabSet 0 = 0 := by
  obtain ⟨slices, hcontiguous, -, hcharge⟩ := h.exists_exactTax_eq
  rw [hcharge, ofPaise_zero, hcontiguous.charge_eq_zero le_rfl, zero_mul]

theorem slabTax_mono (h : taxSlabSet.IsContiguous) : Monotone (slabTax taxSlabSet) :=
  fun _ _ hmn => Decimal.roundHalfEven_mono (exactTax_mono h hmn)

/-- Rounding adds at most a paisa. -/
theorem slabTax_sub_le (h : taxSlabSet.IsContiguous) (hmn : m ≤ n) :
    (slabTax taxSlabSet n : ℚ) - slabTax taxSlabSet m ≤ ((n : ℚ) - m) / 2 + 1 := by
  have hrise := exactTax_sub_le h hmn
  have hm := abs_le.mp (Decimal.abs_roundHalfEven_sub_le (exactTax taxSlabSet m))
  have hn := abs_le.mp (Decimal.abs_roundHalfEven_sub_le (exactTax taxSlabSet n))
  unfold slabTax
  linarith [hm.1, hn.2]

theorem slabTax_zero (h : taxSlabSet.IsContiguous) : slabTax taxSlabSet 0 = 0 := by
  simp [slabTax, exactTax_zero h]

/-- **Over a multiple of four paise** rounding adds nothing: half of it is even, and passes
through the rounding. -/
theorem two_mul_slabTax_sub_le (h : taxSlabSet.IsContiguous) (hmn : m ≤ n) (hfour : 4 ∣ n - m) :
    2 * (slabTax taxSlabSet n - slabTax taxSlabSet m) ≤ n - m := by
  obtain ⟨c, hc⟩ := hfour
  have hpass := (Decimal.add_roundHalfEven_sub_iff (2 * c) (exactTax taxSlabSet n)).mpr
    (fun _ => even_two_mul c)
  have hrise : exactTax taxSlabSet n - (2 * c : ℤ) ≤ exactTax taxSlabSet m := by
    have hhalf := exactTax_sub_le h hmn
    have hlength : (n : ℚ) - m = 4 * c := by exact_mod_cast hc
    rw [hlength] at hhalf
    push_cast
    linarith
  have hround := Decimal.roundHalfEven_mono hrise
  unfold slabTax
  omega

theorem PayrollTaxSlabSet.IsContiguous.rates_nonneg (h : taxSlabSet.IsContiguous) :
    ∀ s ∈ taxSlabSet.slabs, 0 ≤ s.ratePercent :=
  fun s hs => (h.rates s hs).1

theorem rebatedTax_mono (h : taxSlabSet.IsContiguous) (hmaximum : 0 ≤ maximum) :
    Monotone (rebatedTax taxSlabSet threshold maximum) := by
  intro m n hmn
  have htax := slabTax_mono h hmn
  have hnonneg := slabTax_nonneg h.rates_nonneg m
  unfold rebatedTax
  split <;> split <;> omega

theorem surchargedTax_mono (h : taxSlabSet.IsContiguous) (hmaximum : 0 ≤ maximum) (k : ℕ) :
    Monotone (surchargedTax taxSlabSet threshold maximum k) := by
  intro m n hmn
  have htax : rebatedTax taxSlabSet threshold maximum m
      ≤ rebatedTax taxSlabSet threshold maximum n := rebatedTax_mono h hmaximum hmn
  refine add_le_add htax (Decimal.roundHalfEven_mono ?_)
  exact mul_le_mul_of_nonneg_right (Int.cast_le.mpr htax) (tierRate_bounds k).1

/-- A higher tier takes no less. -/
theorem surchargedTax_mono_tier (h : taxSlabSet.IsContiguous) (n : ℤ) :
    Monotone (fun k => surchargedTax taxSlabSet threshold maximum k n) := by
  intro j k hjk
  refine add_le_add le_rfl (Decimal.roundHalfEven_mono ?_)
  exact mul_le_mul_of_nonneg_left (tierRate_mono hjk)
    (Int.cast_nonneg_iff.mpr (rebatedTax_nonneg h.rates_nonneg n))

theorem surchargedTax_nonneg (h : taxSlabSet.IsContiguous) (k : ℕ) (n : ℤ) :
    0 ≤ surchargedTax taxSlabSet threshold maximum k n := by
  have htax : 0 ≤ rebatedTax taxSlabSet threshold maximum n := rebatedTax_nonneg h.rates_nonneg n
  rw [← surchargedTax_zero] at htax
  exact htax.trans (surchargedTax_mono_tier h n (Nat.zero_le k))

/-- The tax with the surcharge, up to the rounding. -/
theorem abs_surchargedTax_sub_le (taxSlabSet : PayrollTaxSlabSet) (threshold maximum : ℤ) (k : ℕ)
    (n : ℤ) :
    |(surchargedTax taxSlabSet threshold maximum k n : ℚ)
      - rebatedTax taxSlabSet threshold maximum n * (1 + tierRate k)| ≤ 1 / 2 := by
  have hround := Decimal.abs_roundHalfEven_sub_le
    ((rebatedTax taxSlabSet threshold maximum n : ℚ) * tierRate k)
  rw [surchargedTax, Int.cast_add, mul_add, mul_one, add_sub_add_left_eq_sub]
  exact hround

/-- Beyond the threshold of the rebate, it is the slab tax that is surcharged. -/
theorem surchargedTax_bounds (taxSlabSet : PayrollTaxSlabSet) (maximum : ℤ) (k : ℕ)
    (hn : threshold < n) :
    slabTax taxSlabSet n * (1 + tierRate k) - 1 / 2
        ≤ (surchargedTax taxSlabSet threshold maximum k n : ℚ)
      ∧ (surchargedTax taxSlabSet threshold maximum k n : ℚ)
        ≤ slabTax taxSlabSet n * (1 + tierRate k) + 1 / 2 := by
  have hround := abs_le.mp (abs_surchargedTax_sub_le taxSlabSet threshold maximum k n)
  rw [rebatedTax_of_lt _ _ hn] at hround
  constructor <;> linarith [hround.1, hround.2]

/-- **Beyond the threshold of the rebate** no tier takes more than what the income grows by,
but for two paise: with the surcharge it is at most 1.37 halves of it, and the tax and the
surcharge are each rounded. -/
theorem surchargedTax_le_add (h : taxSlabSet.IsContiguous) (k : ℕ) {x y : ℤ} (hx : threshold < x)
    (hxy : x ≤ y) : surchargedTax taxSlabSet threshold maximum k y
      ≤ surchargedTax taxSlabSet threshold maximum k x + (y - x + 2) := by
  have hlow := (surchargedTax_bounds taxSlabSet maximum k hx).1
  have hhigh := (surchargedTax_bounds taxSlabSet maximum k (hx.trans_le hxy)).2
  have hgrow : (0 : ℚ) ≤ slabTax taxSlabSet y - slabTax taxSlabSet x :=
    sub_nonneg.mpr (Int.cast_le.mpr (slabTax_mono h hxy))
  have hrise := slabTax_sub_le h hxy
  have hshare : ((slabTax taxSlabSet y : ℚ) - slabTax taxSlabSet x) * (1 + tierRate k)
      ≤ (slabTax taxSlabSet y - slabTax taxSlabSet x) * (137 / 100) :=
    mul_le_mul_of_nonneg_left (by linarith [(tierRate_bounds k).2]) hgrow
  have hincome : (x : ℚ) ≤ y := Int.cast_le.mpr hxy
  have hlt : (surchargedTax taxSlabSet threshold maximum k y : ℚ)
      < surchargedTax taxSlabSet threshold maximum k x + (y - x + 3) := by
    linarith
  have : surchargedTax taxSlabSet threshold maximum k y
      < surchargedTax taxSlabSet threshold maximum k x + (y - x + 3) := by exact_mod_cast hlt
  omega

/-! ## Where the relief wears off -/

/-- At most half of an income is slab tax, at a tier and up to the next one. -/
theorem slabTax_tier_le (h : taxSlabSet.IsContiguous) (k : ℕ) :
    (2 : ℚ) * slabTax taxSlabSet (tierThreshold k) ≤ tierThreshold k
      ∧ (2 : ℚ) * (slabTax taxSlabSet (tierThreshold (k + 1))
          - slabTax taxSlabSet (tierThreshold k))
        ≤ tierThreshold (k + 1) - tierThreshold k := by
  have hfour := four_dvd_tierThreshold
  have hpos : 0 ≤ tierThreshold k := (by decide : (0 : ℤ) ≤ tierThreshold 0).trans
    (tierThreshold_mono (Nat.zero_le k))
  have hstart := two_mul_slabTax_sub_le h hpos (by rw [sub_zero]; exact hfour k)
  rw [slabTax_zero h, sub_zero, sub_zero] at hstart
  have hgap := two_mul_slabTax_sub_le h (tierThreshold_mono k.le_succ)
    (dvd_sub (hfour (k + 1)) (hfour k))
  exact ⟨by exact_mod_cast hstart, by exact_mod_cast hgap⟩

/-- **Without a rebate at the threshold**, a tier's relief has worn off at the next one. -/
theorem surchargedTax_tier_le (h : taxSlabSet.IsContiguous) {k : ℕ} (hk : k < 3)
    (hthreshold : threshold < tierThreshold k) :
    surchargedTax taxSlabSet threshold maximum (k + 1) (tierThreshold (k + 1))
      ≤ surchargedTax taxSlabSet threshold maximum k (tierThreshold k)
        + (tierThreshold (k + 1) - tierThreshold k) := by
  obtain ⟨hstart, hgap⟩ := slabTax_tier_le h k
  have hlow := (surchargedTax_bounds taxSlabSet maximum k hthreshold).1
  have hhigh := (surchargedTax_bounds taxSlabSet maximum (k + 1)
    (hthreshold.trans_le (tierThreshold_mono k.le_succ))).2
  generalize slabTax taxSlabSet (tierThreshold k) = a at *
  generalize slabTax taxSlabSet (tierThreshold (k + 1)) = b at *
  have hle : (surchargedTax taxSlabSet threshold maximum (k + 1) (tierThreshold (k + 1)) : ℚ)
      ≤ surchargedTax taxSlabSet threshold maximum k (tierThreshold k)
        + (tierThreshold (k + 1) - tierThreshold k) := by
    match k, hk with
    | 0, _ | 1, _ | 2, _ =>
      simp only [tierThreshold, tierRate] at hstart hgap hlow hhigh ⊢
      push_cast at hstart hgap hlow hhigh ⊢
      linarith
  exact_mod_cast hle

/-- The largest rebate up to a threshold above a tier and below the next, in paise. -/
def largestRebate : ℕ → ℤ
  | 0 => 200000002
  | 1 => 363636365
  | _ => 891304349

/-- **With a rebate at the threshold**, the relief has worn off if the rebate is not too
large. -/
theorem surchargedTax_tier_le_of_rebate (h : taxSlabSet.IsContiguous) {k : ℕ} (hk : k < 3)
    (hge : tierThreshold k ≤ threshold) (hthreshold : threshold < tierThreshold (k + 1))
    (hmaximum : maximum ≤ largestRebate k) :
    surchargedTax taxSlabSet threshold maximum (k + 1) (tierThreshold (k + 1))
      ≤ surchargedTax taxSlabSet threshold maximum k (tierThreshold k)
        + (tierThreshold (k + 1) - tierThreshold k + 2) := by
  obtain ⟨hstart, hgap⟩ := slabTax_tier_le h k
  have hlow := (abs_le.mp
    (abs_surchargedTax_sub_le taxSlabSet threshold maximum k (tierThreshold k))).1
  have hhigh := (surchargedTax_bounds taxSlabSet maximum (k + 1) hthreshold).2
  have hcut : slabTax taxSlabSet (tierThreshold k) - maximum
      ≤ rebatedTax taxSlabSet threshold maximum (tierThreshold k) := by
    rw [rebatedTax, if_pos hge]
    exact le_max_right _ _
  -- below the first tier there is no surcharge to be rounded
  have hzero := surchargedTax_zero taxSlabSet threshold maximum (tierThreshold 0)
  generalize slabTax taxSlabSet (tierThreshold k) = a at *
  generalize slabTax taxSlabSet (tierThreshold (k + 1)) = b at *
  have hcut' : (a : ℚ) - maximum ≤ rebatedTax taxSlabSet threshold maximum (tierThreshold k) := by
    exact_mod_cast hcut
  have hmaximum' : (maximum : ℚ) ≤ largestRebate k := by exact_mod_cast hmaximum
  have hlt : (surchargedTax taxSlabSet threshold maximum (k + 1) (tierThreshold (k + 1)) : ℚ)
      < surchargedTax taxSlabSet threshold maximum k (tierThreshold k)
        + (tierThreshold (k + 1) - tierThreshold k + 3) := by
    match k, hk with
    | 0, _ =>
      rw [hzero]
      simp only [tierThreshold, tierRate, largestRebate] at hstart hgap hcut' hmaximum' hhigh ⊢
      push_cast at hstart hgap hcut' hmaximum' hhigh ⊢
      linarith
    | 1, _ | 2, _ =>
      simp only [tierThreshold, tierRate, largestRebate]
        at hstart hgap hcut' hmaximum' hlow hhigh ⊢
      push_cast at hstart hgap hcut' hmaximum' hlow hhigh ⊢
      linarith
  have : surchargedTax taxSlabSet threshold maximum (k + 1) (tierThreshold (k + 1))
      < surchargedTax taxSlabSet threshold maximum k (tierThreshold k)
        + (tierThreshold (k + 1) - tierThreshold k + 3) := by exact_mod_cast hlt
  omega

/-! ## Which rebates are safe -/

theorem applyCess_mono : Monotone applyCess := by
  intro x y h
  exact normalizeDecimal_mono
    (mul_le_mul_of_nonneg_right (normalizeDecimal_mono h) (by norm_num [indiaCessRate]))

end

/-- **A rebate that its threshold allows**: between two tiers it is limited, elsewhere only not
negative. -/
def RebateIsSafe (regime : TaxRegime) (threshold maximum : ℚ) : Prop :=
  0 ≤ maximum ∧ ∀ k, k + 1 < tierCount regime → ofPaise (tierThreshold k) ≤ threshold →
    threshold < ofPaise (tierThreshold (k + 1)) → maximum ≤ ofPaise (largestRebate k)

section

variable {regime : TaxRegime} {rebate : ℚ × ℚ}

theorem tierCount_le (regime : TaxRegime) : tierCount regime ≤ 4 := by
  cases regime <;> decide

/-- Earning more, in paise. -/
theorem earningMore_iff_relievedTax {threshold maximum : ℤ}
    (hthreshold : normalizeDecimal rebate.1 = ofPaise threshold)
    (hmaximum : normalizeDecimal rebate.2 = ofPaise maximum) :
    EarningMore regime rebate ↔ ∀ taxSlabSet : PayrollTaxSlabSet, taxSlabSet.IsContiguous →
      ∀ m n : ℤ, m ≤ n →
        applyCess (ofPaise (relievedTax taxSlabSet regime threshold maximum m))
            ≤ applyCess (ofPaise (relievedTax taxSlabSet regime threshold maximum n))
          ∧ (threshold < m → relievedTax taxSlabSet regime threshold maximum n
            ≤ relievedTax taxSlabSet regime threshold maximum m + (n - m + 2)) := by
  refine forall_congr' fun taxSlabSet => forall_congr' fun h => ?_
  have hdue : ∀ {x : ℚ} {n : ℤ}, normalizeDecimal x = ofPaise n →
      (calculateIncomeTaxWithRebate x taxSlabSet (surchargeTiersForRegime regime)
        rebate).taxAfterRebate = ofPaise (relievedTax taxSlabSet regime threshold maximum n) :=
    fun hx => taxAfterRebate_eq_relievedTax regime rebate _ hthreshold hmaximum hx h.rates_nonneg
  have hcess : ∀ x : ℚ, (calculateIncomeTaxWithRebate x taxSlabSet
      (surchargeTiersForRegime regime) rebate).annualTax
        = applyCess (calculateIncomeTaxWithRebate x taxSlabSet
          (surchargeTiersForRegime regime) rebate).taxAfterRebate := fun _ => rfl
  have hpaise : ∀ a b m n : ℤ, ofPaise b ≤ ofPaise a + (ofPaise n - ofPaise m) + 2 / 100
      ↔ b ≤ a + (n - m + 2) := fun a b m n => by
    rw [← ofPaise_sub, show (2 / 100 : ℚ) = ofPaise 2 by norm_num [ofPaise], ← ofPaise_add,
      ← ofPaise_add, ofPaise_le_ofPaise, add_assoc]
  constructor
  · intro hgrow m n hmn
    have hpair := hgrow (ofPaise m) (ofPaise n) (ofPaise_mono hmn)
    dsimp only at hpair
    rwa [hcess, hcess, hdue (normalizeDecimal_ofPaise m), hdue (normalizeDecimal_ofPaise n),
      hthreshold, normalizeDecimal_ofPaise, normalizeDecimal_ofPaise, ofPaise_lt_ofPaise,
      hpaise] at hpair
  · intro hgrow breakdown x y hxy
    obtain ⟨m, hx⟩ := exists_normalizeDecimal_eq x
    obtain ⟨n, hy⟩ := exists_normalizeDecimal_eq y
    have hmn : m ≤ n := ofPaise_le_ofPaise.mp (hx ▸ hy ▸ normalizeDecimal_mono hxy)
    have hpair := hgrow m n hmn
    dsimp only [breakdown]
    rwa [hcess, hcess, hdue hx, hdue hy, hthreshold, hx, hy, ofPaise_lt_ofPaise, hpaise]

theorem earningMore_of_safe
    (hsafe : RebateIsSafe regime (normalizeDecimal rebate.1) (normalizeDecimal rebate.2)) :
    EarningMore regime rebate := by
  obtain ⟨threshold, hthreshold⟩ := exists_normalizeDecimal_eq rebate.1
  obtain ⟨maximum, hmaximum⟩ := exists_normalizeDecimal_eq rebate.2
  rw [hthreshold, hmaximum] at hsafe
  obtain ⟨hnonneg, hlimit⟩ := hsafe
  have hnonneg' : 0 ≤ maximum := ofPaise_le_ofPaise.mp (ofPaise_zero ▸ hnonneg)
  have hthree : ∀ k, k + 1 < tierCount regime → k < 3 := fun k hk => by
    have := tierCount_le regime
    omega
  refine (earningMore_iff_relievedTax hthreshold hmaximum).mpr fun taxSlabSet h m n hmn =>
    ⟨?_, fun hbeyond => ?_⟩
  · exact applyCess_mono (ofPaise_mono (Relief.due_mono (surchargedTax_mono h hnonneg')
      (surchargedTax_mono_tier h) (tierCount regime) hmn))
  · refine Relief.due_le_add (by norm_num) (fun k x y hx hxy => surchargedTax_le_add h k hx hxy)
      (fun k hk hlt => ?_) (fun k hk hlt => surchargedTax_tier_le h (hthree k hk) hlt) hbeyond hmn
    rcases lt_or_ge threshold (tierThreshold k) with hbelow | habove
    · exact (surchargedTax_tier_le h (hthree k hk) hbelow).trans (by omega)
    · exact surchargedTax_tier_le_of_rebate h (hthree k hk) habove hlt (ofPaise_le_ofPaise.mp
        (hlimit k hk (ofPaise_mono habove) (ofPaise_lt_ofPaise.mpr hlt)))

/-! ### Slabs that show the limits -/

theorem isContiguous_ofCreated {created : List PayrollTaxSlab}
    (hslices : Tariff.Contiguous 0 (created.map PayrollTaxSlab.slice))
    (hrates : ∀ slab ∈ created, 0 ≤ slab.ratePercent ∧ slab.ratePercent ≤ 50) :
    (PayrollTaxSlabSet.ofCreated created).IsContiguous where
  slices := ⟨_, hslices, (List.perm_insertionSort _ created).map _⟩
  rates := fun slab h => hrates slab ((List.mem_insertionSort _).mp h)

/-- One slab for every income. -/
def flatSlabs (ratePercent : ℚ) : PayrollTaxSlabSet :=
  .ofCreated [{ minIncome := 0, maxIncome := none, ratePercent := ratePercent }]

theorem isContiguous_flatSlabs {ratePercent : ℚ} (h : 0 ≤ ratePercent ∧ ratePercent ≤ 50) :
    (flatSlabs ratePercent).IsContiguous :=
  isContiguous_ofCreated (Tariff.Contiguous.last (s := ⟨0, none, ratePercent / 100⟩) rfl)
    (by simpa using h)

/-- Half of every income, but for its first two paise. -/
def steepSlabs : PayrollTaxSlabSet :=
  .ofCreated [
    { minIncome := 0, maxIncome := some (2 / 100), ratePercent := 0 },
    { minIncome := 2 / 100, maxIncome := none, ratePercent := 50 }]

theorem isContiguous_steepSlabs : steepSlabs.IsContiguous := by
  refine isContiguous_ofCreated ?_ (by norm_num)
  exact Tariff.Contiguous.cons (s := ⟨0, some (2 / 100), 0 / 100⟩) rfl (by norm_num)
    (Tariff.Contiguous.last (s := ⟨2 / 100, none, 50 / 100⟩) rfl)

theorem slabTax_flatSlabs_zero (n : ℤ) : slabTax (flatSlabs 0) n = 0 := by
  have hexact : exactTax (flatSlabs 0) n = 0 := by
    simp [exactTax, flatSlabs, PayrollTaxSlabSet.ofCreated, annualTaxOfSlabs]
  simp [slabTax, hexact]

theorem surchargedTax_anti {taxSlabSet : PayrollTaxSlabSet} {threshold threshold' : ℤ}
    {maximum maximum' n : ℤ} (hn : n ≤ threshold) (hn' : n ≤ threshold')
    (h : maximum ≤ maximum') (k : ℕ) :
    surchargedTax taxSlabSet threshold' maximum' k n
      ≤ surchargedTax taxSlabSet threshold maximum k n := by
  have htax : rebatedTax taxSlabSet threshold' maximum' n
      ≤ rebatedTax taxSlabSet threshold maximum n := by
    rw [rebatedTax, rebatedTax, if_pos hn, if_pos hn']
    exact max_le_max le_rfl (sub_le_sub_left h _)
  refine add_le_add htax (Decimal.roundHalfEven_mono ?_)
  exact mul_le_mul_of_nonneg_right (Int.cast_le.mpr htax) (tierRate_bounds k).1

/-- The steep slabs under the smallest rebate that is too large. -/
def steepTax (k j : ℕ) (n : ℤ) : ℤ :=
  surchargedTax steepSlabs (tierThreshold k) (largestRebate k + 1) j n

/-- **One paisa too much** for the relief to wear off. -/
theorem steepTax_not_worn : ∀ k < 3,
    steepTax k 0 (tierThreshold (k + 1)) ≤ tierThreshold (k + 1) - tierThreshold k
      ∧ steepTax k (k + 1) (tierThreshold (k + 1)) + 1
        ≤ steepTax k (k + 2) (tierThreshold (k + 1) + 1)
      ∧ steepTax k k (tierThreshold k) + (tierThreshold (k + 1) - tierThreshold k + 2)
        < steepTax k (k + 1) (tierThreshold (k + 1)) := by
  decide +kernel

/-- **A negative rebate** is charged up to its threshold only. -/
theorem nonneg_of_earningMore (h : EarningMore regime rebate) :
    0 ≤ normalizeDecimal rebate.2 := by
  have hcontiguous : (flatSlabs 0).IsContiguous := isContiguous_flatSlabs (by norm_num)
  obtain ⟨threshold, hthreshold⟩ := exists_normalizeDecimal_eq rebate.1
  obtain ⟨maximum, hmaximum⟩ := exists_normalizeDecimal_eq rebate.2
  have hgrow := ((earningMore_iff_relievedTax hthreshold hmaximum).mp h _ hcontiguous threshold
    (threshold + 1) (by omega)).1
  rw [hmaximum]
  by_contra hneg
  have hnegative : maximum < 0 := by
    rwa [← ofPaise_zero, ofPaise_le_ofPaise, not_le] at hneg
  have hcharged : 1 ≤ relievedTax (flatSlabs 0) regime threshold maximum threshold := by
    refine le_trans ?_ (Relief.le_relieved _ _)
    rw [surchargedTax_zero, rebatedTax, if_pos le_rfl, slabTax_flatSlabs_zero]
    omega
  have hfree : relievedTax (flatSlabs 0) regime threshold maximum (threshold + 1) ≤ 0 := by
    have hnone : ∀ k, surchargedTax (flatSlabs 0) threshold maximum k (threshold + 1) = 0 :=
      fun k => by
        rw [surchargedTax, rebatedTax_of_lt _ _ (by omega), slabTax_flatSlabs_zero]
        simp
    exact (Relief.relieved_le (surchargedTax_mono_tier hcontiguous) _ _).trans_eq (hnone _)
  have hpaid := (applyCess_mono (ofPaise_mono hcharged)).trans
    (hgrow.trans (applyCess_mono (ofPaise_mono hfree)))
  exact absurd hpaid (by decide +kernel)

/-- **A rebate that is too large** leaves a relief that has not worn off at the next tier. -/
theorem le_largestRebate_of_earningMore (h : EarningMore regime rebate) {k : ℕ}
    (hk : k + 1 < tierCount regime)
    (hlow : ofPaise (tierThreshold k) ≤ normalizeDecimal rebate.1)
    (hhigh : normalizeDecimal rebate.1 < ofPaise (tierThreshold (k + 1))) :
    normalizeDecimal rebate.2 ≤ ofPaise (largestRebate k) := by
  have hcontiguous := isContiguous_steepSlabs
  obtain ⟨threshold, hthreshold⟩ := exists_normalizeDecimal_eq rebate.1
  obtain ⟨maximum, hmaximum⟩ := exists_normalizeDecimal_eq rebate.2
  rw [hthreshold, ofPaise_le_ofPaise] at hlow
  rw [hthreshold, ofPaise_lt_ofPaise] at hhigh
  have hgrow := ((earningMore_iff_relievedTax hthreshold hmaximum).mp h _ hcontiguous
    (tierThreshold (k + 1)) (tierThreshold (k + 1) + 1) (by omega)).2 hhigh
  rw [hmaximum, ofPaise_le_ofPaise]
  by_contra hlarge
  have hthree : k < 3 := by
    have := tierCount_le regime
    omega
  obtain ⟨hsteep, habove, hnot⟩ := steepTax_not_worn k hthree
  -- above the threshold of the rebate its size does not matter, at the tier below it lowers the tax
  have hbeyond : ∀ j n, threshold < n → tierThreshold k < n →
      surchargedTax steepSlabs threshold maximum j n = steepTax k j n := fun j n hn hn' => by
    rw [steepTax, surchargedTax, surchargedTax, rebatedTax_of_lt _ _ hn, rebatedTax_of_lt _ _ hn']
  have hbelow : surchargedTax steepSlabs threshold maximum k (tierThreshold k)
      ≤ steepTax k k (tierThreshold k) := surchargedTax_anti le_rfl hlow (not_le.mp hlarge) k
  have hpaid : 0 ≤ surchargedTax steepSlabs threshold maximum k (tierThreshold k) :=
    surchargedTax_nonneg hcontiguous k _
  have hnext : tierThreshold k < tierThreshold (k + 1) := hlow.trans_lt hhigh
  refine absurd hgrow (not_le.mpr (Relief.lt_due_of_not_worn (band_tierThreshold regime _ hk)
    (band_tierThreshold_add_one regime _ hk) ?_ ?_ ?_))
  · rw [hbeyond _ _ hhigh hnext]
    omega
  · rw [hbeyond _ _ hhigh hnext, hbeyond _ _ (by omega) (by omega)]
    omega
  · rw [hbeyond _ _ hhigh hnext]
    omega

/-- **Earning more never leaves a taxpayer worse off** just when the rebate is not negative,
and not too large for its threshold. -/
theorem earningMore_iff (regime : TaxRegime) (rebate : ℚ × ℚ) :
    EarningMore regime rebate
      ↔ RebateIsSafe regime (normalizeDecimal rebate.1) (normalizeDecimal rebate.2) :=
  ⟨fun h => ⟨nonneg_of_earningMore h, fun _ => le_largestRebate_of_earningMore h⟩,
    earningMore_of_safe⟩

/-- A rebate of 25 lakh up to an income of 60 lakh. An income of one crore then pays 50 lakh
before the cess, and a paisa more costs five lakh. -/
theorem relief_lost_at_next_tier :
    ¬ ∀ (regime : TaxRegime) (rebate : ℚ × ℚ), EarningMore regime rebate := by
  intro h
  have hrise := (h .new (6000000, 2500000) (flatSlabs 50) (isContiguous_flatSlabs (by norm_num))
    10000000 (1000000001 / 100) (by norm_num)).2 (by decide +kernel)
  revert hrise
  decide +kernel

/-- **The rebates of the code are safe**: they end far below the first tier. -/
theorem earningMore_getRebate87aParams (fiscalYear : ℕ) (regime : TaxRegime) :
    EarningMore regime (getRebate87aParams fiscalYear regime) := by
  have hlow : normalizeDecimal (getRebate87aParams fiscalYear regime).1 < ofPaise (tierThreshold 0)
      ∧ 0 ≤ normalizeDecimal (getRebate87aParams fiscalYear regime).2 := by
    unfold getRebate87aParams
    cases regime with
    | old =>
      dsimp only
      decide +kernel
    | new =>
      dsimp only
      split <;> decide +kernel
  refine earningMore_of_safe ⟨hlow.2, fun k _ hge _ => ?_⟩
  exact absurd (hlow.1.trans_le (ofPaise_mono (tierThreshold_mono (Nat.zero_le k))))
    (not_lt.mpr hge)

end

end Payroll
