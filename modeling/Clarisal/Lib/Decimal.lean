import Mathlib.Algebra.Order.Round
import Mathlib.Data.Int.Log
import Mathlib.Data.Rat.Floor
import Mathlib.Tactic.FieldSimp
import Mathlib.Tactic.Linarith
import Mathlib.Tactic.Positivity
import Mathlib.Tactic.Ring

/-!
# Decimal rounding

A decimal is the rational it denotes. Two roundings act on it, both to the
nearest multiple of a step, ties going to the even one:

* `quantize u` rounds to the multiples of a fixed step `u`, which is what
  storing an amount with a fixed number of places does;
* `context p` keeps `p` significant digits, so its step follows the magnitude
  of what it rounds. It is what a division, or a product with a quotient,
  goes through in decimal floating point.

A value on the grid is not moved (`quantize_of_onGrid`), rounding moves
nothing by more than half a step (`abs_quantize_sub_le`,
`abs_context_sub_le`), and both roundings are monotone (`quantize_mono`,
`context_mono`).
-/

namespace Decimal

variable {K : Type*} [Field K] [LinearOrder K] [IsStrictOrderedRing K] [FloorRing K]

/-- **Round half even**: the nearest integer, and the even one of two nearest. -/
def roundHalfEven (q : K) : ℤ :=
  if q - ⌊q⌋ < 1 / 2 then ⌊q⌋
  else if 1 / 2 < q - ⌊q⌋ then ⌊q⌋ + 1
  else if ⌊q⌋ % 2 = 0 then ⌊q⌋ else ⌊q⌋ + 1

@[simp] theorem roundHalfEven_intCast (n : ℤ) : roundHalfEven (n : K) = n := by
  unfold roundHalfEven
  simp

@[simp] theorem roundHalfEven_zero : roundHalfEven (0 : K) = 0 := by
  simpa using roundHalfEven_intCast (K := K) 0

/-- A whole number is added after rounding as before, unless it decides a tie. -/
theorem roundHalfEven_intCast_add (n : ℤ) {q : K} (h : q - ⌊q⌋ ≠ 1 / 2) :
    roundHalfEven (n + q) = n + roundHalfEven q := by
  have hfloor : ⌊(n : K) + q⌋ = n + ⌊q⌋ := Int.floor_intCast_add n q
  have hrest : (n : K) + q - ((n + ⌊q⌋ : ℤ) : K) = q - ⌊q⌋ := by
    push_cast
    ring
  unfold roundHalfEven
  rw [hfloor, hrest]
  split
  · rfl
  · next hlow =>
    have hhigh : 1 / 2 < q - ⌊q⌋ := lt_of_le_of_ne (not_lt.mp hlow) (Ne.symm h)
    rw [if_pos hhigh, if_pos hhigh, add_assoc]

omit [IsStrictOrderedRing K] in
/-- The two candidates, and how far each is. -/
theorem roundHalfEven_cases (q : K) :
    (roundHalfEven q = ⌊q⌋ ∧ q - ⌊q⌋ ≤ 1 / 2)
      ∨ (roundHalfEven q = ⌊q⌋ + 1 ∧ 1 / 2 ≤ q - ⌊q⌋) := by
  unfold roundHalfEven
  split
  · next h => exact Or.inl ⟨rfl, h.le⟩
  · next h =>
    split
    · next h' => exact Or.inr ⟨rfl, h'.le⟩
    · next h' =>
      split
      · exact Or.inl ⟨rfl, not_lt.mp h'⟩
      · exact Or.inr ⟨rfl, not_lt.mp h⟩

/-- Rounding moves a value by at most one half. -/
theorem abs_roundHalfEven_sub_le (q : K) : |(roundHalfEven q : K) - q| ≤ 1 / 2 := by
  have hlow : (0 : K) ≤ q - ⌊q⌋ := sub_nonneg.mpr (Int.floor_le q)
  have hhigh : q < ⌊q⌋ + 1 := Int.lt_floor_add_one q
  rcases roundHalfEven_cases q with ⟨h, hq⟩ | ⟨h, hq⟩
  · rw [h, abs_le]
    constructor <;> linarith
  · rw [h, abs_le]
    push_cast
    constructor <;> linarith

/-- **Rounding is monotone.** Two values with different floors are apart by a
candidate; two with the same floor only differ in which side of the half
they lie. -/
theorem roundHalfEven_mono {a b : K} (hab : a ≤ b) : roundHalfEven a ≤ roundHalfEven b := by
  rcases (Int.floor_mono hab).lt_or_eq with hlt | heq
  · have ha : roundHalfEven a ≤ ⌊a⌋ + 1 := by
      rcases roundHalfEven_cases a with ⟨h, -⟩ | ⟨h, -⟩ <;> omega
    have hb : ⌊b⌋ ≤ roundHalfEven b := by
      rcases roundHalfEven_cases b with ⟨h, -⟩ | ⟨h, -⟩ <;> omega
    omega
  · have hfrac : a - ⌊a⌋ ≤ b - ⌊b⌋ := by rw [heq]; linarith
    unfold roundHalfEven
    rw [heq] at hfrac ⊢
    split
    · split <;> [skip; split] <;> omega
    · next h₁ =>
      rw [if_neg (not_lt.mpr ((not_lt.mp h₁).trans hfrac))]
      split
      · next h₂ => rw [if_pos (h₂.trans_le hfrac)]
      · split
        · split <;> omega
        · next h₃ => split <;> omega

theorem roundHalfEven_nonneg {q : K} (h : 0 ≤ q) : 0 ≤ roundHalfEven q := by
  simpa using roundHalfEven_mono h

theorem roundHalfEven_nonpos {q : K} (h : q ≤ 0) : roundHalfEven q ≤ 0 := by
  simpa using roundHalfEven_mono h

/-- **What rounds to something positive** is more than one half. -/
theorem roundHalfEven_pos_iff {q : K} : 0 < roundHalfEven q ↔ 1 / 2 < q := by
  constructor
  · intro hpos
    by_contra hle
    have hhalf : roundHalfEven (1 / 2 : K) = 0 := by
      have hfloor : ⌊(1 / 2 : K)⌋ = 0 := Int.floor_eq_zero_iff.mpr ⟨by norm_num, by norm_num⟩
      unfold roundHalfEven
      rw [hfloor]
      norm_num
    have := roundHalfEven_mono (not_lt.mp hle)
    omega
  · intro hlt
    have hnear := (abs_le.mp (abs_roundHalfEven_sub_le q)).1
    have hpos : (0 : K) < roundHalfEven q := by linarith
    exact_mod_cast hpos

/-- A tie is a value halfway between two whole numbers. -/
theorem abs_sub_roundHalfEven_eq_half_iff {q : K} :
    |q - roundHalfEven q| = 1 / 2 ↔ Int.fract q = 1 / 2 := by
  have hlt := Int.lt_floor_add_one q
  show _ ↔ q - ⌊q⌋ = 1 / 2
  rcases roundHalfEven_cases q with ⟨hq, -⟩ | ⟨hq, -⟩
  · rw [hq, abs_of_nonneg (sub_nonneg.mpr (Int.floor_le q))]
  · rw [hq, abs_of_neg (by push_cast; linarith)]
    push_cast
    constructor <;> intro h <;> linarith

/-- **A tie goes to the even side.** -/
theorem roundHalfEven_of_tie {q : K} (h : |q - roundHalfEven q| = 1 / 2) :
    Even (roundHalfEven q) := by
  have hfrac : q - ⌊q⌋ = 1 / 2 := abs_sub_roundHalfEven_eq_half_iff.mp h
  unfold roundHalfEven
  rw [hfrac, if_neg (lt_irrefl _), if_neg (lt_irrefl _)]
  split
  · next heven => exact Int.even_iff.mpr heven
  · next hodd => exact Int.even_iff.mpr (by omega)

/-- **What a value rounds to**: a whole number less than a half away, or an even one just a
half away. -/
theorem roundHalfEven_eq_iff {q : K} {n : ℤ} :
    roundHalfEven q = n ↔ |q - n| < 1 / 2 ∨ (|q - n| = 1 / 2 ∧ Even n) := by
  have hnear : |q - roundHalfEven q| ≤ 1 / 2 := by
    rw [abs_sub_comm]
    exact abs_roundHalfEven_sub_le q
  constructor
  · rintro rfl
    exact hnear.lt_or_eq.imp_right (fun h => ⟨h, roundHalfEven_of_tie h⟩)
  · intro h
    have hdist : |((roundHalfEven q - n : ℤ) : K)| ≤ |q - n| + |q - roundHalfEven q| := by
      rw [show ((roundHalfEven q - n : ℤ) : K) = (q - n) - (q - roundHalfEven q) by push_cast; ring]
      exact abs_sub _ _
    by_contra hne
    have hone : (1 : K) ≤ |((roundHalfEven q - n : ℤ) : K)| := by
      exact_mod_cast Int.one_le_abs (sub_ne_zero.mpr hne)
    rcases h with hlt | ⟨heq, hn⟩
    · linarith
    · -- two even numbers are not one apart
      have htie : |q - roundHalfEven q| = 1 / 2 := by linarith
      have hexact : |roundHalfEven q - n| = 1 := by
        have : |((roundHalfEven q - n : ℤ) : K)| = 1 := by linarith
        exact_mod_cast this
      have heven := (roundHalfEven_of_tie htie).sub hn
      rw [← even_abs, hexact] at heven
      exact absurd heven (by decide)

/-- **A whole number passes through rounding**, but for halves, where it has to be even. -/
theorem add_roundHalfEven_sub_iff (n : ℤ) (q : K) :
    n + roundHalfEven (q - n) = roundHalfEven q ↔ (Int.fract q = 1 / 2 → Even n) := by
  have hsame : |q - ((n + roundHalfEven (q - n) : ℤ) : K)| = |q - n - roundHalfEven (q - n)| := by
    push_cast
    rw [sub_sub]
  have hnear : |q - n - roundHalfEven (q - n)| ≤ 1 / 2 := by
    rw [abs_sub_comm]
    exact abs_roundHalfEven_sub_le _
  have htie : |q - n - roundHalfEven (q - n)| = 1 / 2 ↔ Int.fract q = 1 / 2 := by
    rw [abs_sub_roundHalfEven_eq_half_iff, Int.fract_sub_intCast]
  rw [eq_comm, roundHalfEven_eq_iff, hsame]
  rcases hnear.lt_or_eq with hlt | heq
  · exact iff_of_true (Or.inl hlt) (fun h => absurd (htie.mpr h) hlt.ne)
  · rw [or_iff_right heq.not_lt, and_iff_right heq, Int.even_add,
      iff_true_right (roundHalfEven_of_tie heq)]
    exact ⟨fun h _ => h, fun h => h (htie.mp heq)⟩

/-! ## A fixed step -/

/-- Round to the multiples of a step. -/
def quantize (u x : K) : K := roundHalfEven (x / u) * u

/-- A multiple of the step. -/
def OnGrid (u x : K) : Prop := ∃ n : ℤ, x = n * u

section Grid

variable {u x y : K}

omit [LinearOrder K] [IsStrictOrderedRing K] [FloorRing K] in
theorem onGrid_zero : OnGrid u 0 := ⟨0, by simp⟩

omit [LinearOrder K] [IsStrictOrderedRing K] [FloorRing K] in
theorem OnGrid.add (hx : OnGrid u x) (hy : OnGrid u y) : OnGrid u (x + y) := by
  obtain ⟨m, rfl⟩ := hx
  obtain ⟨n, rfl⟩ := hy
  exact ⟨m + n, by push_cast; ring⟩

omit [LinearOrder K] [IsStrictOrderedRing K] [FloorRing K] in
theorem OnGrid.sub (hx : OnGrid u x) (hy : OnGrid u y) : OnGrid u (x - y) := by
  obtain ⟨m, rfl⟩ := hx
  obtain ⟨n, rfl⟩ := hy
  exact ⟨m - n, by push_cast; ring⟩

omit [LinearOrder K] [IsStrictOrderedRing K] [FloorRing K] in
theorem onGrid_sum {xs : List K} (h : ∀ x ∈ xs, OnGrid u x) : OnGrid u xs.sum := by
  induction xs with
  | nil => exact onGrid_zero
  | cons x xs ih =>
    rw [List.sum_cons]
    exact (h x List.mem_cons_self).add (ih (fun y hy => h y (List.mem_cons_of_mem _ hy)))

omit [IsStrictOrderedRing K] in
/-- Rounding lands on the grid. -/
theorem onGrid_quantize (u x : K) : OnGrid u (quantize u x) := ⟨_, rfl⟩

/-- **A value on the grid is not moved.** -/
theorem quantize_of_onGrid (hu : 0 < u) (hx : OnGrid u x) : quantize u x = x := by
  obtain ⟨n, rfl⟩ := hx
  rw [quantize, mul_div_cancel_right₀ _ hu.ne', roundHalfEven_intCast]

@[simp] theorem quantize_zero (u : K) : quantize u 0 = 0 := by
  simp [quantize]

/-- **Rounding moves a value by at most half a step.** -/
theorem abs_quantize_sub_le (hu : 0 < u) (x : K) : |quantize u x - x| ≤ u / 2 := by
  have hx : quantize u x - x = (roundHalfEven (x / u) - x / u) * u := by
    rw [quantize, sub_mul, div_mul_cancel₀ _ hu.ne']
  rw [hx, abs_mul, abs_of_pos hu]
  calc |(roundHalfEven (x / u) : K) - x / u| * u
      ≤ 1 / 2 * u := by gcongr; exact abs_roundHalfEven_sub_le _
    _ = u / 2 := by ring

theorem quantize_mono (hu : 0 < u) (h : x ≤ y) : quantize u x ≤ quantize u y := by
  unfold quantize
  have : x / u ≤ y / u := by gcongr
  have := roundHalfEven_mono this
  gcongr

theorem quantize_nonneg (hu : 0 < u) (h : 0 ≤ x) : 0 ≤ quantize u x := by
  simpa using quantize_mono hu h

theorem quantize_nonpos (hu : 0 < u) (h : x ≤ 0) : quantize u x ≤ 0 := by
  simpa using quantize_mono hu h

theorem quantize_pos_iff (hu : 0 < u) : 0 < quantize u x ↔ u / 2 < x := by
  rw [quantize, mul_pos_iff_of_pos_right hu, Int.cast_pos, roundHalfEven_pos_iff, lt_div_iff₀ hu,
    one_div_mul_eq_div]

end Grid

/-! ## A fixed number of significant digits -/

/-- The step at which `p` significant digits of `x` end. -/
def ulp (p : ℕ) (x : K) : K := 10 ^ (Int.log 10 |x| - p + 1)

/-- **Keep `p` significant digits.** -/
def context (p : ℕ) (x : K) : K := quantize (ulp p x) x

omit [FloorRing K] in
theorem ten_zpow_pos (n : ℤ) : (0 : K) < 10 ^ n := zpow_pos (by norm_num) n

theorem ulp_pos (p : ℕ) (x : K) : 0 < ulp p x := ten_zpow_pos _

@[simp] theorem context_zero (p : ℕ) : context p (0 : K) = 0 := quantize_zero _

/-- The step is small against the value: `x` has `p` digits before it. -/
theorem ulp_le (p : ℕ) {x : K} (hx : x ≠ 0) : ulp p x ≤ |x| * 10 ^ (1 - p : ℤ) := by
  have hlog := Int.zpow_log_le_self (b := 10) (by norm_num) (abs_pos.mpr hx)
  have hsplit : ulp p x = 10 ^ Int.log 10 |x| * 10 ^ (1 - p : ℤ) := by
    rw [ulp, ← zpow_add₀ (by norm_num : (10 : K) ≠ 0)]
    congr 1
    ring
  rw [hsplit]
  have : ((10 : ℕ) : K) = 10 := by norm_num
  rw [this] at hlog
  exact mul_le_mul_of_nonneg_right hlog (ten_zpow_pos _).le

/-- **Keeping `p` digits moves a value by at most half a unit of the last
one.** -/
theorem abs_context_sub_le (p : ℕ) (x : K) :
    |context p x - x| ≤ |x| * 10 ^ (1 - p : ℤ) / 2 := by
  by_cases hx : x = 0
  · simp [hx]
  · calc |context p x - x| ≤ ulp p x / 2 := abs_quantize_sub_le (ulp_pos p x) x
      _ ≤ |x| * 10 ^ (1 - p : ℤ) / 2 := by
        have := ulp_le p hx
        linarith

theorem context_nonneg (p : ℕ) {x : K} (hx : 0 ≤ x) : 0 ≤ context p x :=
  quantize_nonneg (ulp_pos p x) hx

theorem context_nonpos (p : ℕ) {x : K} (hx : x ≤ 0) : context p x ≤ 0 :=
  quantize_nonpos (ulp_pos p x) hx

omit [FloorRing K] in
/-- A power of ten is a multiple of every smaller one. -/
theorem onGrid_zpow {m n : ℤ} (h : m ≤ n) : OnGrid ((10 : K) ^ m) (10 ^ n) := by
  obtain ⟨k, hk⟩ := Int.le.dest h
  refine ⟨10 ^ k, ?_⟩
  rw [← hk, zpow_add₀ (by norm_num : (10 : K) ≠ 0), mul_comm]
  norm_cast

/-- **Keeping digits is monotone**, on values that are not negative: values of
one magnitude share a step, and between magnitudes lies a power of ten, which
neither rounding crosses. -/
theorem context_mono {p : ℕ} (hp : 1 ≤ p) {x y : K} (hx : 0 ≤ x) (h : x ≤ y) :
    context p x ≤ context p y := by
  rcases hx.eq_or_lt with rfl | hpos
  · simpa using context_nonneg p h
  have hypos : 0 < y := hpos.trans_le h
  have hlog : Int.log 10 x ≤ Int.log 10 y := Int.log_mono_right hpos h
  rcases hlog.eq_or_lt with heq | hlt
  · unfold context ulp
    rw [abs_of_pos hpos, abs_of_pos hypos, heq]
    exact quantize_mono (ten_zpow_pos _) h
  · have hten : ((10 : ℕ) : K) = 10 := by norm_num
    have hxlt : x ≤ 10 ^ (Int.log 10 x + 1) := by
      have := (Int.lt_zpow_succ_log_self (b := 10) (by norm_num) x).le
      rwa [hten] at this
    have hyge : 10 ^ (Int.log 10 x + 1) ≤ y := by
      have := Int.zpow_log_le_self (b := 10) (by norm_num) hypos
      rw [hten] at this
      exact (zpow_le_zpow_right₀ (by norm_num) hlt).trans this
    -- the power of ten between the two is on both grids
    have hleft : context p x ≤ 10 ^ (Int.log 10 x + 1) := by
      have hgrid : OnGrid (ulp p x) ((10 : K) ^ (Int.log 10 x + 1)) := by
        unfold ulp
        rw [abs_of_pos hpos]
        exact onGrid_zpow (by omega)
      rw [← quantize_of_onGrid (ulp_pos p x) hgrid]
      exact quantize_mono (ulp_pos p x) hxlt
    have hright : (10 : K) ^ Int.log 10 y ≤ context p y := by
      have hgrid : OnGrid (ulp p y) ((10 : K) ^ Int.log 10 y) := by
        unfold ulp
        rw [abs_of_pos hypos]
        exact onGrid_zpow (by omega)
      rw [← quantize_of_onGrid (ulp_pos p y) hgrid]
      refine quantize_mono (ulp_pos p y) ?_
      have := Int.zpow_log_le_self (b := 10) (by norm_num) hypos
      rwa [hten] at this
    calc context p x ≤ 10 ^ (Int.log 10 x + 1) := hleft
      _ ≤ 10 ^ Int.log 10 y := zpow_le_zpow_right₀ (by norm_num) hlt
      _ ≤ context p y := hright

/-- **A rounding to `p` digits and then to a step** moves a value by at most
half a step and half a unit of the last digit. -/
theorem abs_quantize_context_sub_le {u : K} (hu : 0 < u) (p : ℕ) (x : K) :
    |quantize u (context p x) - x| ≤ u / 2 + |x| * 10 ^ (1 - p : ℤ) / 2 := by
  calc |quantize u (context p x) - x|
      = |(quantize u (context p x) - context p x) + (context p x - x)| := by
        congr 1; ring
    _ ≤ |quantize u (context p x) - context p x| + |context p x - x| :=
        abs_add_le _ _
    _ ≤ u / 2 + |x| * 10 ^ (1 - p : ℤ) / 2 :=
        add_le_add (abs_quantize_sub_le hu _) (abs_context_sub_le p x)

end Decimal
