import Clarisal.Lib.Calendar

/-!
# Anniversaries

The anniversary of a date in a later year has its month and day; that of 29 February falls
between 28 February and 1 March. `Date.Reached` says that it is not after another date, and
`Date.anniversaries` counts those that are.

In days, a date from March on is as far from itself a number of years earlier as there are
days in ordinary years, and a day more for each leap year among them
(`Date.toordinal_of_sameDay`).
-/

namespace Calendar

/-- The leap years among the last years up to a year. -/
def leapYears (year n : ℕ) : ℕ := (List.range n).countP (fun k => isLeap (year - k))

@[simp] theorem leapYears_zero (year : ℕ) : leapYears year 0 = 0 := rfl

theorem leapYears_succ (year n : ℕ) :
    leapYears (year + 1) (n + 1) = leapYears year n + (isLeap (year + 1)).toNat := by
  unfold leapYears
  rw [List.range_succ_eq_map, List.countP_cons, List.countP_map]
  have hshift : (fun k => isLeap (year + 1 - k)) ∘ Nat.succ = fun k => isLeap (year - k) := by
    funext k
    simp
  rw [hshift]
  cases isLeap (year + 1) <;> simp

/-- From March on, a leap year is a day ahead. -/
theorem daysBeforeMonth_eq (y : ℕ) {m : ℕ} (hm : 3 ≤ m) :
    daysBeforeMonth y m = daysBeforeMonth 1 m + (isLeap y).toNat := by
  induction m, hm using Nat.le_induction with
  | base =>
    have hfebruary : ∀ y, daysBeforeMonth y 3 = 31 + daysInMonth y 2 := fun y => by
      simp [daysBeforeMonth, List.range_succ, daysInMonth]
    rw [hfebruary, hfebruary, daysInMonth, daysInMonth]
    cases isLeap y <;> rfl
  | succ m hm ih =>
    have hlength : daysInMonth y m = daysInMonth 1 m := by
      simp [daysInMonth, show m ≠ 2 by omega]
    rw [daysBeforeMonth_succ y (by omega), daysBeforeMonth_succ 1 (by omega), ih, hlength]
    omega

theorem daysBeforeYear_add {y : ℕ} (hy : 1 ≤ y) {m : ℕ} (hm : 3 ≤ m) (n : ℕ) :
    daysBeforeYear (y + n) + daysBeforeMonth (y + n) m
      = daysBeforeYear y + daysBeforeMonth y m + 365 * n + leapYears (y + n) n := by
  induction n with
  | zero => simp
  | succ n ih =>
    have hlength : daysBeforeMonth (y + n) 13 = 365 + (isLeap (y + n)).toNat := by
      rw [daysBeforeMonth_eq _ (by omega), show daysBeforeMonth 1 13 = 365 by decide]
    have hmonth := daysBeforeMonth_eq (y + n) hm
    have hmonth' := daysBeforeMonth_eq (y + n + 1) hm
    rw [← add_assoc, daysBeforeYear_succ (by omega : 1 ≤ y + n), leapYears_succ, hlength]
    omega

/-- One year in four, about. -/
theorem leapYears_le {year n : ℕ} (h : n < year) : leapYears year n ≤ n / 4 + 2 := by
  obtain ⟨y, rfl⟩ : ∃ y, year = y + n := ⟨year - n, by omega⟩
  have hadd := daysBeforeYear_add (by omega : 1 ≤ y) le_rfl n
  have hmonth := daysBeforeMonth_eq y (m := 3) le_rfl
  have hmonth' := daysBeforeMonth_eq (y + n) (m := 3) le_rfl
  have hleap : (isLeap (y + n)).toNat ≤ 1 := Bool.toNat_le _
  unfold daysBeforeYear at hadd
  omega

namespace Date

variable {x y z birth on : Date} {n : ℕ}

/-- **The chronological order**, by year, month and day. -/
theorem le_iff_fields : x ≤ y ↔ x.year < y.year ∨ (x.year = y.year
    ∧ (x.month < y.month ∨ (x.month = y.month ∧ x.day ≤ y.day))) := by
  rcases lt_trichotomy x.year y.year with hlt | heq | hgt
  · exact iff_of_true (toordinal_lt_of_year hlt).le (Or.inl hlt)
  · rcases lt_trichotomy x.month y.month with hlt | hmonth | hgt
    · exact iff_of_true (toordinal_lt_of_month heq hlt).le (Or.inr ⟨heq, Or.inl hlt⟩)
    · have hday : x ≤ y ↔ x.day ≤ y.day := by
        rw [le_iff, toordinal, toordinal, heq, hmonth]
        omega
      rw [hday]
      omega
    · refine iff_of_false (not_le.mpr (lt_iff.mpr (toordinal_lt_of_month heq.symm hgt))) ?_
      omega
  · refine iff_of_false (not_le.mpr (lt_iff.mpr (toordinal_lt_of_year hgt))) ?_
    omega

/-- **A date some years later.** -/
theorem toordinal_of_sameDay (hyear : y.year = x.year + n) (hmonth : y.month = x.month)
    (hday : y.day = x.day) (hmarch : 3 ≤ x.month) :
    y.toordinal = x.toordinal + 365 * n + leapYears y.year n := by
  have hadd := daysBeforeYear_add x.valid.1 hmarch n
  unfold toordinal
  rw [hyear, hmonth, hday]
  omega

/-- The month and day of a date are not after those of another. -/
def DayLe (x y : Date) : Prop := x.month < y.month ∨ (x.month = y.month ∧ x.day ≤ y.day)

instance (x y : Date) : Decidable (x.DayLe y) := inferInstanceAs (Decidable (_ ∨ _))

/-- **The anniversary is reached**: the one after some years is not after a date. -/
def Reached (n : ℕ) (birth on : Date) : Prop :=
  birth.year + n < on.year ∨ (birth.year + n = on.year ∧ birth.DayLe on)

instance (n : ℕ) (birth on : Date) : Decidable (Reached n birth on) :=
  inferInstanceAs (Decidable (_ ∨ _))

theorem le_iff_reached : x ≤ y ↔ Reached 0 x y := by
  rw [le_iff_fields]
  rfl

/-- **The anniversaries up to a date.** -/
def anniversaries (birth on : Date) : ℕ :=
  (on.year - birth.year) - if birth.DayLe on then 0 else 1

/-- **What the anniversaries count.** -/
theorem le_anniversaries_iff (h : birth ≤ on) :
    n ≤ birth.anniversaries on ↔ Reached n birth on := by
  have hyear : birth.year ≤ on.year := by
    rcases le_iff_fields.mp h with hlt | ⟨heq, -⟩
    · exact hlt.le
    · exact heq.le
  have hzero := le_iff_reached.mp h
  unfold Reached at hzero ⊢
  unfold anniversaries
  split
  · next hle =>
    simp only [hle, and_true] at hzero ⊢
    omega
  · next hgt =>
    simp only [hgt, and_false, or_false] at hzero ⊢
    omega

end Date

end Calendar
