import Clarisal.Lib.Tariff
import Clarisal.Payroll.Statutory

/-!
# The slab tax is a tariff

`calculateAnnualTax` walks the slabs of a set by their lower bounds, and stops at the slab
that holds the income. On slabs with disjoint intervals it charges each slab's rate on the
part of the slab below the income, in whatever order the slabs were created
(`calculateAnnualTax_eq_charge`): a slab after the one that holds the income has no part
below it.
-/

namespace Payroll

/-- A slab, as a slice of the income. -/
def PayrollTaxSlab.slice (slab : PayrollTaxSlab) : Tariff.Slice ℚ where
  lower := slab.minIncome
  upper := slab.maxIncome
  rate := slab.ratePercent / 100

/-- **The slabs by their lower bounds**, those with the same bound as they were created. -/
def PayrollTaxSlabSet.ofCreated (created : List PayrollTaxSlab) : PayrollTaxSlabSet where
  slabs := created.insertionSort (fun s t => s.minIncome ≤ t.minIncome)
  ordered := by
    have : IsTrans PayrollTaxSlab (fun s t => s.minIncome ≤ t.minIncome) := ⟨fun _ _ _ => le_trans⟩
    have : Std.Total (fun s t : PayrollTaxSlab => s.minIncome ≤ t.minIncome) :=
      ⟨fun _ _ => le_total _ _⟩
    exact List.pairwise_insertionSort _ created

section

variable {slab : PayrollTaxSlab} {slabs : List PayrollTaxSlab} {x : ℚ}

/-- **The walk over the slabs** misses nothing when it stops. -/
theorem annualTaxOfSlabs_eq_charge
    (hordered : slabs.Pairwise (fun s t => s.minIncome ≤ t.minIncome))
    (hdisjoint : slabs.Pairwise (fun s t => Disjoint s.slice.interval t.slice.interval))
    (annualTax : ℚ) :
    annualTaxOfSlabs x slabs annualTax
      = annualTax + Tariff.charge (slabs.map PayrollTaxSlab.slice) x := by
  induction slabs generalizing annualTax with
  | nil => simp [annualTaxOfSlabs]
  | cons slab slabs ih =>
    obtain ⟨hlower, hordered⟩ := List.pairwise_cons.mp hordered
    obtain ⟨hapart, hdisjoint⟩ := List.pairwise_cons.mp hdisjoint
    -- what comes after the slab that holds the income
    have hrest (hupper : ∀ u ∈ slab.maxIncome, x ≤ u) :
        Tariff.charge (slabs.map PayrollTaxSlab.slice) x = 0 := by
      refine Tariff.charge_eq_zero (fun s hs => ?_)
      obtain ⟨t, ht, rfl⟩ := List.mem_map.mp hs
      exact Tariff.Slice.below_eq_zero_of_disjoint (hapart t ht) (hlower t ht) hupper
    rw [List.map_cons, Tariff.charge_cons, annualTaxOfSlabs]
    split
    · next hx =>
      rw [ih hordered hdisjoint, Tariff.Slice.charge, Tariff.Slice.below_eq_zero hx]
      ring
    · next hx =>
      have hstart : slab.minIncome ≤ x := (not_le.mp hx).le
      split
      · next hupper =>
        have hcharge : slab.slice.charge x
            = (x - slab.minIncome) * (slab.ratePercent / 100) := by
          simp [Tariff.Slice.charge, Tariff.Slice.below, Tariff.Slice.top, PayrollTaxSlab.slice,
            hupper, hstart]
        rw [hrest (by simp [hupper]), hcharge, add_zero]
      · next slabEnd hupper =>
        have hbelow : slab.slice.below x = max 0 (min x slabEnd - slab.minIncome) := by
          simp [Tariff.Slice.below, Tariff.Slice.top, PayrollTaxSlab.slice, hupper]
        split
        · next hempty =>
          rw [ih hordered hdisjoint, Tariff.Slice.charge, hbelow, max_eq_left hempty]
          ring
        · next hpart =>
          have hcharge : slab.slice.charge x
              = (min x slabEnd - slab.minIncome) * (slab.ratePercent / 100) := by
            rw [Tariff.Slice.charge, hbelow, max_eq_right (not_le.mp hpart).le]
            rfl
          split
          · next hlast =>
            rw [hrest (by simpa [hupper] using hlast), hcharge, add_zero]
          · rw [ih hordered hdisjoint, hcharge, add_assoc]

/-- The intervals of slabs are apart in any order. -/
theorem disjoint_of_perm {slabs' : List PayrollTaxSlab} (h : slabs.Perm slabs')
    (hdisjoint : slabs'.Pairwise (fun s t => Disjoint s.slice.interval t.slice.interval)) :
    slabs.Pairwise (fun s t => Disjoint s.slice.interval t.slice.interval) :=
  (h.pairwise_iff (fun hst => Disjoint.symm hst)).mpr hdisjoint

end

/-- **The slab tax is what its definition says**: the sum over the slabs of the rate on the
part of the slab below the income, rounded to paise. -/
theorem calculateAnnualTax_eq_charge (created : List PayrollTaxSlab)
    (hdisjoint : created.Pairwise (fun s t => Disjoint s.slice.interval t.slice.interval))
    (annualTaxableIncome : ℚ) :
    calculateAnnualTax (.ofCreated created) annualTaxableIncome
      = normalizeDecimal (Tariff.charge (created.map PayrollTaxSlab.slice)
          (normalizeDecimal annualTaxableIncome)) := by
  have hperm : (PayrollTaxSlabSet.ofCreated created).slabs.Perm created :=
    List.perm_insertionSort _ created
  rw [calculateAnnualTax, annualTaxOfSlabs_eq_charge (PayrollTaxSlabSet.ofCreated created).ordered
    (disjoint_of_perm hperm hdisjoint), zero_add, Tariff.charge_perm (hperm.map _)]

/-- Two slabs with a gap between them, the higher one created first. -/
theorem calculateAnnualTax_eq_charge_sample :
    calculateAnnualTax (.ofCreated
        [{ minIncome := 500000, maxIncome := none, ratePercent := 20 },
          { minIncome := 250000, maxIncome := some 400000, ratePercent := 5 }]) 600000
      = normalizeDecimal (Tariff.charge
          [⟨500000, none, 20 / 100⟩, ⟨250000, some 400000, 5 / 100⟩]
          (normalizeDecimal 600000)) := by
  refine calculateAnnualTax_eq_charge _ ?_ _
  refine List.pairwise_pair.mpr (Set.disjoint_left.mpr fun x hhigh hlow => ?_)
  have habove : (500000 : ℚ) < x := hhigh.1
  have hbelow : x ≤ 400000 := hlow.2 _ rfl
  linarith

end Payroll
