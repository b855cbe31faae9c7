import Clarisal.Lib.Table
import Mathlib.Algebra.Order.BigOperators.Group.Finset

/-!
# Budgets

Every key of a finite set has a budget, and the rows of a table spend from the budget of
their key. Rows of distinct keys that each stay within theirs stay within the sum of the
budgets (`Budget.sum_le`), and a key that no row uses leaves its budget to something else
(`Budget.sum_add_le`). Nothing is spent in all only when no row spends anything
(`Budget.sum_eq_zero_iff`).
-/

open Table (Unique)

variable {α κ M : Type*} [DecidableEq κ] [AddCommMonoid M] [PartialOrder M]
  [IsOrderedAddMonoid M]

namespace Budget

variable {key : α → κ} {t : List α} {s : Finset κ} {spent : α → M} {budget : κ → M}

/-- **Rows of distinct keys**, each within the budget of its key. -/
theorem sum_le (h : Unique key t) (hs : ∀ a ∈ t, key a ∈ s)
    (hspent : ∀ a ∈ t, spent a ≤ budget (key a)) (hbudget : ∀ k ∈ s, 0 ≤ budget k) :
    (t.map spent).sum ≤ ∑ k ∈ s, budget k := by
  have hsub : (t.map key).toFinset ⊆ s := by
    intro k hk
    obtain ⟨a, ha, rfl⟩ := List.mem_map.mp (List.mem_toFinset.mp hk)
    exact hs a ha
  calc (t.map spent).sum ≤ (t.map (fun a => budget (key a))).sum := List.sum_le_sum hspent
    _ = ((t.map key).map budget).sum := by
      rw [List.map_map]
      rfl
    _ = ∑ k ∈ (t.map key).toFinset, budget k := (List.sum_toFinset budget h).symm
    _ ≤ ∑ k ∈ s, budget k :=
      Finset.sum_le_sum_of_subset_of_nonneg hsub (fun k hk _ => hbudget k hk)

/-- **The budget of a key that no row uses** is left for an amount. -/
theorem sum_add_le {k : κ} {x : M} (hk : k ∈ s) (h : Unique key t)
    (hs : ∀ a ∈ t, key a ∈ s ∧ key a ≠ k) (hspent : ∀ a ∈ t, spent a ≤ budget (key a))
    (hx : x ≤ budget k) (hbudget : ∀ k ∈ s, 0 ≤ budget k) :
    (t.map spent).sum + x ≤ ∑ k ∈ s, budget k := by
  rw [← Finset.sum_erase_add s budget hk]
  refine add_le_add (sum_le h (fun a ha => ?_) hspent fun k hk => ?_) hx
  · exact Finset.mem_erase.mpr ⟨(hs a ha).2, (hs a ha).1⟩
  · exact hbudget k (Finset.mem_of_mem_erase hk)

omit [DecidableEq κ] in
/-- **Nothing is spent** in all when each row spends nothing. -/
theorem sum_eq_zero_iff (h : ∀ a ∈ t, 0 ≤ spent a) :
    (t.map spent).sum = 0 ↔ ∀ a ∈ t, spent a = 0 := by
  constructor
  · intro hsum a ha
    refine List.all_zero_of_le_zero_le_of_sum_eq_zero (fun x hx => ?_) hsum
      (List.mem_map_of_mem ha)
    obtain ⟨b, hb, rfl⟩ := List.mem_map.mp hx
    exact h b hb
  · intro hzero
    refine List.sum_eq_zero fun x hx => ?_
    obtain ⟨b, hb, rfl⟩ := List.mem_map.mp hx
    exact hzero b hb

end Budget
