import Mathlib.Algebra.BigOperators.Group.List.Basic
import Mathlib.Algebra.Order.BigOperators.Group.List
import Mathlib.Algebra.Order.Field.Basic
import Mathlib.Data.List.Sort
import Mathlib.Order.CompletePartialOrder
import Mathlib.Order.Interval.Set.Basic
import Mathlib.Tactic.Linarith
import Mathlib.Tactic.Positivity
import Mathlib.Tactic.Ring

/-!
# Tariffs

A tariff charges each slice of a value at the slice's own rate. `charge` is the sum over
the slices; its order does not matter. On a tariff whose slices are disjoint, what starts
at or above the value adds nothing (`charge_eq_zero`), so that a scan in the order of the
lower bounds can stop at the slice that holds the value.

Contiguous slices leave no gaps: their parts below a value add up to at most the value, and
a charge with rates up to `r` grows by at most `r` times what the value grows by
(`Contiguous.charge_sub_le`).
-/

namespace Tariff

variable {K : Type*}

/-- A slice: the values above a bound, up to another one if there is one. -/
structure Slice (K : Type*) where
  lower : K
  upper : Option K
  rate : K

section

variable [LinearOrder K]

/-- The values of a slice. -/
def Slice.interval (s : Slice K) : Set K := { x | s.lower < x ∧ ∀ u ∈ s.upper, x ≤ u }

/-- The end of a slice, as far as a value reaches. -/
def Slice.top (s : Slice K) (x : K) : K := s.upper.elim x (min x)

/-- **The slices follow one another** from a value on, the last one perhaps without end. -/
inductive Contiguous : K → List (Slice K) → Prop
  | nil (a : K) : Contiguous a []
  | last {s : Slice K} (hupper : s.upper = none) : Contiguous s.lower [s]
  | cons {s : Slice K} {slices : List (Slice K)} {b : K} (hupper : s.upper = some b)
      (hle : s.lower ≤ b) (hrest : Contiguous b slices) : Contiguous s.lower (s :: slices)

variable {slices : List (Slice K)} {a : K}

/-- A slice reaches no further than the value. -/
theorem Slice.top_le (s : Slice K) (x : K) : s.top x ≤ x := by
  unfold Slice.top
  cases s.upper with
  | none => exact le_rfl
  | some u => exact min_le_left x u

/-- Every slice starts at the value or after it. -/
theorem Contiguous.le_lower (h : Contiguous a slices) : ∀ s ∈ slices, a ≤ s.lower := by
  induction h with
  | nil a => simp
  | last hupper => simp
  | cons hupper hle hrest ih =>
    exact List.forall_mem_cons.mpr ⟨le_rfl, fun t ht => hle.trans (ih t ht)⟩

theorem Contiguous.ordered (h : Contiguous a slices) :
    slices.Pairwise (fun s t => s.lower ≤ t.lower) := by
  induction h with
  | nil a => exact List.Pairwise.nil
  | last hupper => exact List.pairwise_singleton _ _
  | cons hupper hle hrest ih =>
    exact List.pairwise_cons.mpr ⟨fun t ht => hle.trans (hrest.le_lower t ht), ih⟩

/-- **Contiguous slices are disjoint.** -/
theorem Contiguous.disjoint (h : Contiguous a slices) :
    slices.Pairwise (fun s t => Disjoint s.interval t.interval) := by
  induction h with
  | nil a => exact List.Pairwise.nil
  | last hupper => exact List.pairwise_singleton _ _
  | cons hupper hle hrest ih =>
    refine List.pairwise_cons.mpr ⟨fun t ht => Set.disjoint_left.mpr fun x hs htx => ?_, ih⟩
    have hx := hs.2 _ (Option.mem_def.mpr hupper)
    exact absurd (hx.trans (hrest.le_lower t ht)) (not_le.mpr htx.1)

end

/-! ## Charges -/

section

variable [Field K] [LinearOrder K]

/-- The length of the part of a slice below a value. -/
def Slice.below (s : Slice K) (x : K) : K := max 0 (s.top x - s.lower)

/-- What a slice charges a value. -/
def Slice.charge (s : Slice K) (x : K) : K := s.below x * s.rate

/-- **What a tariff charges a value.** -/
def charge (slices : List (Slice K)) (x : K) : K := (slices.map (fun s => s.charge x)).sum

/-- The length of all slices below a value. -/
def totalBelow (slices : List (Slice K)) (x : K) : K := (slices.map (fun s => s.below x)).sum

variable {slices : List (Slice K)}

@[simp] theorem charge_nil (x : K) : charge ([] : List (Slice K)) x = 0 := rfl

@[simp] theorem charge_cons (s : Slice K) (slices : List (Slice K)) (x : K) :
    charge (s :: slices) x = s.charge x + charge slices x := by
  simp [charge]

@[simp] theorem totalBelow_nil (x : K) : totalBelow ([] : List (Slice K)) x = 0 := rfl

@[simp] theorem totalBelow_cons (s : Slice K) (slices : List (Slice K)) (x : K) :
    totalBelow (s :: slices) x = s.below x + totalBelow slices x := by
  simp [totalBelow]

theorem charge_perm {slices' : List (Slice K)} (h : slices.Perm slices') (x : K) :
    charge slices x = charge slices' x :=
  (h.map _).sum_eq

/-- **Slices that charge nothing** add nothing. -/
theorem charge_eq_zero {x : K} (h : ∀ s ∈ slices, s.below x = 0) : charge slices x = 0 := by
  refine List.sum_eq_zero (fun c hc => ?_)
  obtain ⟨s, hs, rfl⟩ := List.mem_map.mp hc
  rw [Slice.charge, h s hs, zero_mul]

variable [IsStrictOrderedRing K] {s t : Slice K} {a x y r : K}

/-! ### One slice -/

/-- A slice that starts at or above a value. -/
theorem Slice.below_eq_zero (h : x ≤ s.lower) : s.below x = 0 :=
  max_eq_left (sub_nonpos.mpr ((s.top_le x).trans h))

/-- The end of a slice moves with the value, and no faster. -/
theorem Slice.top_sub_top (s : Slice K) (h : x ≤ y) :
    s.top x ≤ s.top y ∧ s.top y - s.top x ≤ y - x := by
  unfold Slice.top
  cases s.upper with
  | none => exact ⟨h, le_rfl⟩
  | some u =>
    refine ⟨min_le_min_right u h, ?_⟩
    dsimp only [Option.elim]
    rcases le_total y u with hy | hy
    · rw [min_eq_left hy, min_eq_left (h.trans hy)]
    · rw [min_eq_right hy]
      rcases le_total x u with hx | hx
      · rw [min_eq_left hx]
        linarith
      · rw [min_eq_right hx]
        linarith

theorem Slice.below_mono (s : Slice K) (h : x ≤ y) : s.below x ≤ s.below y :=
  max_le_max le_rfl (sub_le_sub_right (s.top_sub_top h).1 _)

theorem Slice.charge_mono (hrate : 0 ≤ s.rate) (h : x ≤ y) : s.charge x ≤ s.charge y :=
  mul_le_mul_of_nonneg_right (s.below_mono h) hrate

/-! ### A tariff -/

/-- **A charge only grows with the value.** -/
theorem charge_mono (hrates : ∀ s ∈ slices, 0 ≤ s.rate) (h : x ≤ y) :
    charge slices x ≤ charge slices y :=
  List.sum_le_sum (fun s hs => Slice.charge_mono (hrates s hs) h)

/-- **After the slice that holds a value**, a disjoint one that starts no lower has nothing
below the value. -/
theorem Slice.below_eq_zero_of_disjoint (hdisjoint : Disjoint s.interval t.interval)
    (horder : s.lower ≤ t.lower) (hupper : ∀ u ∈ s.upper, x ≤ u) : t.below x = 0 := by
  by_contra hne
  have htop : t.lower < t.top x := by
    by_contra hlow
    exact hne (max_eq_left (sub_nonpos.mpr (not_lt.mp hlow)))
  -- the end of the later slice would be in both
  have hs : t.top x ∈ s.interval :=
    ⟨horder.trans_lt htop, fun u hu => (t.top_le x).trans (hupper u hu)⟩
  refine Set.disjoint_left.mp hdisjoint hs ⟨htop, fun u hu => ?_⟩
  unfold Slice.top
  rw [Option.mem_def.mp hu]
  exact min_le_right x u

/-! ### Contiguous slices -/

/-- The part of a slice below a value, and what lies beyond the slice. -/
theorem part_add_rest {b : K} (hab : a ≤ b) (x : K) :
    max 0 (min x b - a) + max 0 (x - b) = max 0 (x - a) := by
  rcases le_total x b with hx | hx
  · rw [min_eq_left hx, max_eq_left (sub_nonpos.mpr hx), add_zero]
  · rw [min_eq_right hx, max_eq_right (sub_nonneg.mpr hab), max_eq_right (sub_nonneg.mpr hx),
      max_eq_right (sub_nonneg.mpr (hab.trans hx))]
    ring

/-- What the slices have below two values differs by at most what the values do. -/
theorem Contiguous.totalBelow_sub_le (h : Contiguous a slices) (hxy : x ≤ y) :
    totalBelow slices y - totalBelow slices x ≤ max 0 (y - a) - max 0 (x - a) := by
  induction h with
  | nil a =>
    rw [totalBelow_nil, totalBelow_nil, sub_self, sub_nonneg]
    exact max_le_max le_rfl (sub_le_sub_right hxy a)
  | @last s hupper =>
    have hbelow : ∀ z, s.below z = max 0 (z - s.lower) := fun z => by
      simp [Slice.below, Slice.top, hupper]
    rw [totalBelow_cons, totalBelow_cons, totalBelow_nil, totalBelow_nil, add_zero, add_zero,
      hbelow, hbelow]
  | @cons s slices b hupper hle hrest ih =>
    have hbelow : ∀ z, s.below z = max 0 (z - s.lower) - max 0 (z - b) := fun z => by
      rw [← part_add_rest hle z, add_sub_cancel_right]
      simp [Slice.below, Slice.top, hupper]
    rw [totalBelow_cons, totalBelow_cons, hbelow, hbelow]
    linarith [ih]

/-- The charges of two values differ by at most the highest rate on their lengths. -/
theorem charge_sub_le_totalBelow (hrates : ∀ s ∈ slices, s.rate ≤ r) (hxy : x ≤ y) :
    charge slices y - charge slices x ≤ (totalBelow slices y - totalBelow slices x) * r := by
  induction slices with
  | nil => simp
  | cons s slices ih =>
    obtain ⟨hs, hrest⟩ := List.forall_mem_cons.mp hrates
    have hgrow : 0 ≤ s.below y - s.below x := sub_nonneg.mpr (s.below_mono hxy)
    have hslice : s.charge y - s.charge x ≤ (s.below y - s.below x) * r := by
      rw [Slice.charge, Slice.charge, ← sub_mul]
      exact mul_le_mul_of_nonneg_left hs hgrow
    rw [charge_cons, charge_cons, totalBelow_cons, totalBelow_cons]
    linarith [ih hrest]

/-- **A charge grows by at most the highest rate** on what the value grows by. -/
theorem Contiguous.charge_sub_le (h : Contiguous a slices) (hr : 0 ≤ r)
    (hrates : ∀ s ∈ slices, s.rate ≤ r) (hxy : x ≤ y) :
    charge slices y - charge slices x ≤ (y - x) * r := by
  refine (charge_sub_le_totalBelow hrates hxy).trans (mul_le_mul_of_nonneg_right ?_ hr)
  refine (h.totalBelow_sub_le hxy).trans (sub_le_iff_le_add.mpr (max_le ?_ ?_))
  · exact add_nonneg (sub_nonneg.mpr hxy) (le_max_left _ _)
  · linarith [le_max_right 0 (x - a)]

/-- Below the first slice nothing is charged. -/
theorem Contiguous.charge_eq_zero (h : Contiguous a slices) (hx : x ≤ a) :
    charge slices x = 0 :=
  Tariff.charge_eq_zero (fun s hs => Slice.below_eq_zero (hx.trans (h.le_lower s hs)))

end

end Tariff
