import Mathlib.Algebra.Order.Group.Defs
import Mathlib.Algebra.Order.Group.MinMax
import Mathlib.Order.Monotone.Basic
import Mathlib.Tactic.Abel

/-!
# Marginal relief

A levy jumps at thresholds: a value above `k` of them pays `u k`. Relief smooths the jumps,
so that past a threshold one pays at most what was paid at it and what the value exceeds it
by, and never less than `u 0`.

With relief a higher value pays no less (`due_mono`). It pays at most the difference more as
long as the relief of a threshold has worn off at the next one (`due_le_add`). For what was
paid at a threshold is taken without the relief of the one before, so that relief which has
not worn off is lost at once (`lt_due_of_not_worn`).
-/

namespace Relief

variable {α : Type*} [AddCommGroup α] [LinearOrder α]

/-- How many thresholds a value has behind it, by the last one it exceeds. -/
def band (threshold : ℕ → α) (x : α) : ℕ → ℕ
  | 0 => 0
  | n + 1 => if threshold n < x then n + 1 else band threshold x n

/-- **What a value in a band pays**: the levy of the band, cut to what is paid at the
threshold below it and the distance from there. -/
def relieved (u : ℕ → α → α) (threshold : ℕ → α) (x : α) : ℕ → α
  | 0 => u 0 x
  | k + 1 => max (u 0 x) (min (u (k + 1) x) (u k (threshold k) + (x - threshold k)))

/-- **What a value pays**, with `n` thresholds. -/
def due (u : ℕ → α → α) (threshold : ℕ → α) (n : ℕ) (x : α) : α :=
  relieved u threshold x (band threshold x n)

section

omit [AddCommGroup α]

variable {threshold : ℕ → α} {x y : α} {n k : ℕ}

/-! ## Bands -/

theorem band_le (threshold : ℕ → α) (x : α) (n : ℕ) : band threshold x n ≤ n := by
  induction n with
  | zero => exact le_rfl
  | succ n ih =>
    unfold band
    split
    · exact le_rfl
    · exact ih.trans n.le_succ

/-- The threshold below a band. -/
theorem lt_of_band_eq_succ (h : band threshold x n = k + 1) : threshold k < x := by
  induction n with
  | zero => exact absurd h (Nat.succ_ne_zero k).symm
  | succ n ih =>
    unfold band at h
    split at h
    · next hlt => exact (Nat.succ.inj h) ▸ hlt
    · exact ih h

/-- The thresholds above a band. -/
theorem le_threshold (h : band threshold x n ≤ k) (hk : k < n) : x ≤ threshold k := by
  induction n with
  | zero => exact absurd hk (Nat.not_lt_zero k)
  | succ n ih =>
    unfold band at h
    split at h
    · exact absurd h (Nat.not_le.mpr hk)
    · next hle =>
      rcases Nat.lt_succ_iff_lt_or_eq.mp hk with hlt | rfl
      · exact ih h hlt
      · exact not_lt.mp hle

theorem band_mono (threshold : ℕ → α) (n : ℕ) (h : x ≤ y) :
    band threshold x n ≤ band threshold y n := by
  by_contra hlt
  obtain ⟨k, hk⟩ := Nat.exists_eq_succ_of_ne_zero (Nat.ne_zero_of_lt (not_le.mp hlt))
  have hbelow : band threshold y n ≤ k := Nat.lt_succ_iff.mp (hk ▸ not_le.mp hlt)
  have hkn : k < n := Nat.lt_of_lt_of_le (hk ▸ Nat.lt_succ_self k) (band_le threshold x n)
  exact absurd (h.trans (le_threshold hbelow hkn)) (not_le.mpr (lt_of_band_eq_succ hk))

end

variable {u : ℕ → α → α} {threshold : ℕ → α} {x y : α} {n k : ℕ}

/-! ## One band -/

/-- Nobody pays less than without any threshold. -/
theorem le_relieved (x : α) (k : ℕ) : u 0 x ≤ relieved u threshold x k := by
  cases k with
  | zero => exact le_rfl
  | succ k => exact le_max_left _ _

/-- Relief only lowers what is paid. -/
theorem relieved_le (hstep : ∀ x, Monotone (fun k => u k x)) (x : α) (k : ℕ) :
    relieved u threshold x k ≤ u k x := by
  cases k with
  | zero => exact le_rfl
  | succ k => exact max_le (hstep x (Nat.zero_le _)) (min_le_left _ _)

variable [IsOrderedAddMonoid α]

theorem relieved_mono (hu : ∀ k, Monotone (u k)) (h : x ≤ y) (k : ℕ) :
    relieved u threshold x k ≤ relieved u threshold y k := by
  cases k with
  | zero => exact hu 0 h
  | succ k =>
    exact max_le_max (hu 0 h)
      (min_le_min (hu (k + 1) h) (add_le_add_right (sub_le_sub_right h _) _))

/-- **A higher value pays no less.** Across a threshold, what is paid below it is at most
what is paid at it without relief, from where the relief above starts. -/
theorem due_mono (hu : ∀ k, Monotone (u k)) (hstep : ∀ x, Monotone (fun k => u k x)) (n : ℕ) :
    Monotone (due u threshold n) := by
  intro x y h
  unfold due
  rcases (band_mono threshold n h).eq_or_lt with heq | hlt
  · rw [heq]
    exact relieved_mono hu h _
  · obtain ⟨k, hk⟩ := Nat.exists_eq_succ_of_ne_zero (Nat.ne_zero_of_lt hlt)
    have hbelow : band threshold x n ≤ k := Nat.lt_succ_iff.mp (hk ▸ hlt)
    have hkn : k < n := Nat.lt_of_lt_of_le (hk ▸ Nat.lt_succ_self k) (band_le threshold y n)
    have hx : x ≤ threshold k := le_threshold hbelow hkn
    have hy : threshold k ≤ y := (lt_of_band_eq_succ hk).le
    have hpaid : relieved u threshold x (band threshold x n) ≤ u k x :=
      (relieved_le hstep x _).trans (hstep x hbelow)
    rw [hk]
    refine le_max_of_le_right (le_min ?_ ?_)
    · exact (hpaid.trans (hstep x k.le_succ)).trans (hu (k + 1) h)
    · exact (hpaid.trans (hu k hx)).trans (le_add_of_nonneg_right (sub_nonneg.mpr hy))

/-! ## What a difference costs -/

section

variable {r ε : α}

/-- Within a band. -/
theorem relieved_le_add (hε : 0 ≤ ε)
    (hrise : ∀ k x y, r < x → x ≤ y → u k y ≤ u k x + ((y - x) + ε)) (hx : r < x) (h : x ≤ y)
    (k : ℕ) : relieved u threshold y k ≤ relieved u threshold x k + ((y - x) + ε) := by
  cases k with
  | zero => exact hrise 0 x y hx h
  | succ k =>
    unfold relieved
    rw [max_add, min_add]
    refine max_le_max (hrise 0 x y hx h) (min_le_min (hrise (k + 1) x y hx h) ?_)
    calc u k (threshold k) + (y - threshold k)
        = u k (threshold k) + (x - threshold k) + (y - x) := by abel
      _ ≤ u k (threshold k) + (x - threshold k) + (y - x + ε) :=
          add_le_add_right (le_add_of_nonneg_right hε) _

/-- **Up to the end of a band**: where the relief is still at work, it has to have worn off
there. -/
theorem levy_le_add (hrise : ∀ k x y, r < x → x ≤ y → u k y ≤ u k x + ((y - x) + ε))
    (hworn : ∀ k, k + 1 < n → r < threshold (k + 1) → u (k + 1) (threshold (k + 1))
      ≤ u k (threshold k) + (threshold (k + 1) - threshold k + ε))
    (hx : r < x) (hk : k < n) (hend : x ≤ threshold k) :
    u k (threshold k) ≤ relieved u threshold x k + (threshold k - x + ε) := by
  cases k with
  | zero => exact hrise 0 x _ hx hend
  | succ k =>
    have hcap := hworn k hk (hx.trans_le hend)
    unfold relieved
    rw [max_add, min_add]
    refine le_max_of_le_right (le_min (hrise (k + 1) x _ hx hend) ?_)
    calc u (k + 1) (threshold (k + 1))
        ≤ u k (threshold k) + (threshold (k + 1) - threshold k + ε) := hcap
      _ = u k (threshold k) + (x - threshold k) + (threshold (k + 1) - x + ε) := by abel

/-- **Up to the end of a later band**, by the thresholds between. -/
theorem levy_le_add_of_band_le
    (hrise : ∀ k x y, r < x → x ≤ y → u k y ≤ u k x + ((y - x) + ε))
    (hworn : ∀ k, k + 1 < n → r < threshold (k + 1) → u (k + 1) (threshold (k + 1))
      ≤ u k (threshold k) + (threshold (k + 1) - threshold k + ε))
    (hexact : ∀ k, k + 1 < n → r < threshold k → u (k + 1) (threshold (k + 1))
      ≤ u k (threshold k) + (threshold (k + 1) - threshold k))
    (hx : r < x) (hband : band threshold x n ≤ k) (hk : k < n) :
    u k (threshold k)
      ≤ relieved u threshold x (band threshold x n) + (threshold k - x + ε) := by
  induction k, hband using Nat.le_induction with
  | base => exact levy_le_add hrise hworn hx hk (le_threshold le_rfl hk)
  | succ k hle ih =>
    have hkn : k < n := (Nat.lt_succ_self k).trans hk
    have hgap := hexact k hk (hx.trans_le (le_threshold hle hkn))
    calc u (k + 1) (threshold (k + 1))
        ≤ u k (threshold k) + (threshold (k + 1) - threshold k) := hgap
      _ ≤ relieved u threshold x (band threshold x n) + (threshold k - x + ε)
            + (threshold (k + 1) - threshold k) := add_le_add_left (ih hkn) _
      _ = relieved u threshold x (band threshold x n) + (threshold (k + 1) - x + ε) := by abel

/-- **A higher value pays at most the difference more**, up to the error of the levy: the
relief of each threshold beyond `r` has worn off at the next one, within the error, and
without it when both are beyond. -/
theorem due_le_add (hε : 0 ≤ ε)
    (hrise : ∀ k x y, r < x → x ≤ y → u k y ≤ u k x + ((y - x) + ε))
    (hworn : ∀ k, k + 1 < n → r < threshold (k + 1) → u (k + 1) (threshold (k + 1))
      ≤ u k (threshold k) + (threshold (k + 1) - threshold k + ε))
    (hexact : ∀ k, k + 1 < n → r < threshold k → u (k + 1) (threshold (k + 1))
      ≤ u k (threshold k) + (threshold (k + 1) - threshold k))
    (hx : r < x) (h : x ≤ y) :
    due u threshold n y ≤ due u threshold n x + (y - x + ε) := by
  unfold due
  rcases (band_mono threshold n h).eq_or_lt with heq | hlt
  · rw [heq]
    exact relieved_le_add hε hrise hx h _
  · obtain ⟨k, hk⟩ := Nat.exists_eq_succ_of_ne_zero (Nat.ne_zero_of_lt hlt)
    have hbelow : band threshold x n ≤ k := Nat.lt_succ_iff.mp (hk ▸ hlt)
    have hkn : k < n := Nat.lt_of_lt_of_le (hk ▸ Nat.lt_succ_self k) (band_le threshold y n)
    rw [hk]
    refine max_le ?_ ((min_le_right _ _).trans ?_)
    · exact (hrise 0 x y hx h).trans (add_le_add_left (le_relieved x _) _)
    · calc u k (threshold k) + (y - threshold k)
          ≤ relieved u threshold x (band threshold x n) + (threshold k - x + ε)
              + (y - threshold k) :=
            add_le_add_left (levy_le_add_of_band_le hrise hworn hexact hx hbelow hkn) _
        _ = relieved u threshold x (band threshold x n) + (y - x + ε) := by abel

/-- **Relief that has not worn off** at the next threshold is lost right above it. -/
theorem lt_due_of_not_worn (hx : band threshold (threshold (k + 1)) n = k + 1)
    (hy : band threshold y n = k + 2)
    (hlow : u 0 (threshold (k + 1))
      ≤ u k (threshold k) + (threshold (k + 1) - threshold k))
    (hhigh : u (k + 1) (threshold (k + 1)) + (y - threshold (k + 1)) ≤ u (k + 2) y)
    (hnot : u k (threshold k) + (threshold (k + 1) - threshold k + ε)
      < u (k + 1) (threshold (k + 1))) :
    due u threshold n (threshold (k + 1)) + (y - threshold (k + 1) + ε)
      < due u threshold n y := by
  unfold due
  rw [hx, hy]
  have hpaid : relieved u threshold (threshold (k + 1)) (k + 1)
      ≤ u k (threshold k) + (threshold (k + 1) - threshold k) :=
    max_le hlow (min_le_right _ _)
  have hlost : u (k + 1) (threshold (k + 1)) + (y - threshold (k + 1))
      ≤ relieved u threshold y (k + 2) := le_max_of_le_right (le_min hhigh le_rfl)
  calc relieved u threshold (threshold (k + 1)) (k + 1) + (y - threshold (k + 1) + ε)
      ≤ u k (threshold k) + (threshold (k + 1) - threshold k) + (y - threshold (k + 1) + ε) :=
        add_le_add_left hpaid _
    _ = u k (threshold k) + (threshold (k + 1) - threshold k + ε) + (y - threshold (k + 1)) := by
        abel
    _ < u (k + 1) (threshold (k + 1)) + (y - threshold (k + 1)) := add_lt_add_left hnot _
    _ ≤ relieved u threshold y (k + 2) := hlost

end

end Relief
