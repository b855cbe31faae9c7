import Mathlib.Algebra.Order.Ring.Nat
import Mathlib.Data.Nat.Init
import Mathlib.Order.Interval.Set.Defs

/-!
# Calendar dates

Dates of the proleptic Gregorian calendar, years 1 to 9999. A `Date` carries
the proof that its day exists, so a date built from three numbers is an
option (`Date.ofYMD`).

Dates are ordered by their ordinal, the number of days since the day before
1 January of year 1. The ordinal is strictly increasing in the year, then the
month, then the day (`Date.toordinal_lt_of_year`, `Date.toordinal_lt_of_month`,
`Date.toordinal_lt_of_day`), so this is the chronological order, and the day
before a date is the one that separates what is earlier from what is not
(`Date.le_prevDay_iff`).
-/

namespace Calendar

/-- A Gregorian leap year. -/
def isLeap (y : ℕ) : Bool :=
  y % 4 == 0 && (y % 100 != 0 || y % 400 == 0)

/-- The length of a month. -/
def daysInMonth (y m : ℕ) : ℕ :=
  if m = 2 then (if isLeap y then 29 else 28)
  else if m = 4 ∨ m = 6 ∨ m = 9 ∨ m = 11 then 30
  else 31

/-- The days of all years before a year. -/
def daysBeforeYear (y : ℕ) : ℕ :=
  (y - 1) * 365 + (y - 1) / 4 - (y - 1) / 100 + (y - 1) / 400

/-- The days of the year before a month. -/
def daysBeforeMonth (y m : ℕ) : ℕ :=
  ((List.range (m - 1)).map (fun k => daysInMonth y (k + 1))).sum

theorem one_le_daysInMonth (y m : ℕ) : 28 ≤ daysInMonth y m := by
  unfold daysInMonth
  split_ifs <;> omega

theorem daysInMonth_december (y : ℕ) : daysInMonth y 12 = 31 := rfl

theorem daysBeforeMonth_succ (y : ℕ) {m : ℕ} (hm : 1 ≤ m) :
    daysBeforeMonth y (m + 1) = daysBeforeMonth y m + daysInMonth y m := by
  obtain ⟨k, rfl⟩ : ∃ k, m = k + 1 := ⟨m - 1, by omega⟩
  simp [daysBeforeMonth, List.range_succ]

theorem daysBeforeMonth_mono (y : ℕ) {m n : ℕ} (hm : 1 ≤ m) (h : m ≤ n) :
    daysBeforeMonth y m ≤ daysBeforeMonth y n := by
  induction n, h using Nat.le_induction with
  | base => exact le_rfl
  | succ n hmn ih =>
    rw [daysBeforeMonth_succ y (hm.trans hmn)]
    omega

/-- A year is as long as its twelve months. -/
theorem daysBeforeYear_succ {y : ℕ} (hy : 1 ≤ y) :
    daysBeforeYear (y + 1) = daysBeforeYear y + daysBeforeMonth y 13 := by
  have hmonths : daysBeforeMonth y 13 = if isLeap y then 366 else 365 := by
    simp only [daysBeforeMonth, daysInMonth]
    cases isLeap y <;> rfl
  have hleap : isLeap y = true ↔ 4 ∣ y ∧ (¬ 100 ∣ y ∨ 400 ∣ y) := by
    simp [isLeap, Nat.dvd_iff_mod_eq_zero]
  obtain ⟨k, rfl⟩ : ∃ k, y = k + 1 := ⟨y - 1, by omega⟩
  -- each quotient steps exactly at the multiples of its divisor
  have h4 := Nat.succ_div (a := k) (b := 4)
  have h100 := Nat.succ_div (a := k) (b := 100)
  have h400 := Nat.succ_div (a := k) (b := 400)
  have h4of100 : 100 ∣ k + 1 → 4 ∣ k + 1 := Nat.dvd_trans (by decide)
  have h100of400 : 400 ∣ k + 1 → 100 ∣ k + 1 := Nat.dvd_trans (by decide)
  have hle : k / 100 ≤ k / 4 := Nat.div_le_div_left (by decide) (by decide)
  rw [hmonths]
  unfold daysBeforeYear
  simp only [Nat.add_sub_cancel, h4, h100, h400, hleap]
  by_cases h₄₀₀ : 400 ∣ k + 1
  · have h₁₀₀ := h100of400 h₄₀₀
    simp only [h₄₀₀, h₁₀₀, h4of100 h₁₀₀, not_true_eq_false, false_or, and_self, if_true]
    omega
  · by_cases h₁₀₀ : 100 ∣ k + 1
    · simp only [h₄₀₀, h₁₀₀, h4of100 h₁₀₀, not_true_eq_false, or_self, and_false, if_true, if_false]
      omega
    · by_cases h₄ : 4 ∣ k + 1
      · simp only [h₄₀₀, h₁₀₀, h₄, not_false_eq_true, true_or, and_self, if_true, if_false]
        omega
      · simp only [h₄₀₀, h₁₀₀, h₄, false_and, if_false]
        omega

theorem daysBeforeYear_mono {y z : ℕ} (hy : 1 ≤ y) (h : y ≤ z) :
    daysBeforeYear y ≤ daysBeforeYear z := by
  induction z, h using Nat.le_induction with
  | base => exact le_rfl
  | succ z hyz ih =>
    rw [daysBeforeYear_succ (hy.trans hyz)]
    omega

/-- The three numbers are the year, the month and the day of a date. -/
abbrev IsDate (y m d : ℕ) : Prop :=
  1 ≤ y ∧ y ≤ 9999 ∧ 1 ≤ m ∧ m ≤ 12 ∧ 1 ≤ d ∧ d ≤ daysInMonth y m

theorem isDate_2026_01_01 : IsDate 2026 1 1 := by decide
theorem isDate_2026_04_01 : IsDate 2026 4 1 := by decide
theorem isDate_2026_05_01 : IsDate 2026 5 1 := by decide
theorem isDate_2026_05_02 : IsDate 2026 5 2 := by decide
theorem isDate_2026_05_06 : IsDate 2026 5 6 := by decide
theorem isDate_2026_05_31 : IsDate 2026 5 31 := by decide
theorem isDate_2026_12_07 : IsDate 2026 12 7 := by decide
theorem isDate_2026_12_31 : IsDate 2026 12 31 := by decide
theorem isDate_2027_01_04 : IsDate 2027 1 4 := by decide
theorem isDate_2027_01_05 : IsDate 2027 1 5 := by decide

/-- **A calendar date**: a year, a month and a day that exists in them. -/
structure Date where
  year : ℕ
  month : ℕ
  day : ℕ
  valid : 1 ≤ year ∧ year ≤ 9999 ∧ 1 ≤ month ∧ month ≤ 12
    ∧ 1 ≤ day ∧ day ≤ daysInMonth year month
deriving DecidableEq, Repr

namespace Date

/-- The date of three numbers, when there is one. -/
def ofYMD (y m d : ℕ) : Option Date :=
  if h : 1 ≤ y ∧ y ≤ 9999 ∧ 1 ≤ m ∧ m ≤ 12 ∧ 1 ≤ d ∧ d ≤ daysInMonth y m then
    some ⟨y, m, d, h⟩
  else none

theorem ofYMD_eq_some {y m d : ℕ} {x : Date} :
    ofYMD y m d = some x ↔ x.year = y ∧ x.month = m ∧ x.day = d := by
  unfold ofYMD
  constructor
  · intro h
    split at h
    · cases h
      exact ⟨rfl, rfl, rfl⟩
    · cases h
  · rintro ⟨rfl, rfl, rfl⟩
    rw [dif_pos x.valid]

/-- **The ordinal of a date**: 1 for the first day of year 1. -/
def toordinal (x : Date) : ℕ :=
  daysBeforeYear x.year + daysBeforeMonth x.year x.month + x.day

theorem toordinal_lt_of_day {x y : Date} (hyear : x.year = y.year)
    (hmonth : x.month = y.month) (h : x.day < y.day) : x.toordinal < y.toordinal := by
  unfold toordinal
  rw [hyear, hmonth]
  omega

/-- A date is at most the end of its month. -/
theorem toordinal_le_monthEnd (x : Date) :
    x.toordinal ≤ daysBeforeYear x.year + daysBeforeMonth x.year (x.month + 1) := by
  obtain ⟨-, -, hm, -, -, hd⟩ := x.valid
  unfold toordinal
  rw [daysBeforeMonth_succ _ hm]
  omega

theorem toordinal_lt_of_month {x y : Date} (hyear : x.year = y.year)
    (h : x.month < y.month) : x.toordinal < y.toordinal := by
  obtain ⟨-, -, -, -, hd, -⟩ := y.valid
  have hx := x.toordinal_le_monthEnd
  have hmono := daysBeforeMonth_mono x.year (m := x.month + 1) (by omega) h
  have : y.toordinal = daysBeforeYear x.year + daysBeforeMonth x.year y.month + y.day := by
    rw [toordinal, ← hyear]
  omega

theorem toordinal_lt_of_year {x y : Date} (h : x.year < y.year) :
    x.toordinal < y.toordinal := by
  obtain ⟨hy, -, hm, hm', -, -⟩ := x.valid
  obtain ⟨-, -, -, -, hd, -⟩ := y.valid
  have hx := x.toordinal_le_monthEnd
  have hmonth := daysBeforeMonth_mono x.year (m := x.month + 1) (n := 13) (by omega)
    (by omega)
  have hyear := daysBeforeYear_mono (y := x.year + 1) (by omega) h
  rw [daysBeforeYear_succ hy] at hyear
  have : daysBeforeYear y.year + y.day ≤ y.toordinal := by
    unfold toordinal
    omega
  omega

/-- **No two dates share an ordinal.** -/
theorem toordinal_injective : Function.Injective toordinal := by
  intro x y h
  have hyear : x.year = y.year := by
    rcases lt_trichotomy x.year y.year with hlt | heq | hlt
    · exact absurd h (toordinal_lt_of_year hlt).ne
    · exact heq
    · exact absurd h (toordinal_lt_of_year hlt).ne'
  have hmonth : x.month = y.month := by
    rcases lt_trichotomy x.month y.month with hlt | heq | hlt
    · exact absurd h (toordinal_lt_of_month hyear hlt).ne
    · exact heq
    · exact absurd h (toordinal_lt_of_month hyear.symm hlt).ne'
  have hday : x.day = y.day := by
    rcases lt_trichotomy x.day y.day with hlt | heq | hlt
    · exact absurd h (toordinal_lt_of_day hyear hmonth hlt).ne
    · exact heq
    · exact absurd h (toordinal_lt_of_day hyear.symm hmonth.symm hlt).ne'
  cases x
  cases y
  simp_all

/-- **The chronological order.** -/
instance : LinearOrder Date := LinearOrder.lift' toordinal toordinal_injective

theorem le_iff {x y : Date} : x ≤ y ↔ x.toordinal ≤ y.toordinal := Iff.rfl

theorem lt_iff {x y : Date} : x < y ↔ x.toordinal < y.toordinal := Iff.rfl

/-- The day before a date, when the calendar has one. -/
def prevDay (x : Date) : Option Date :=
  if 1 < x.day then ofYMD x.year x.month (x.day - 1)
  else if 1 < x.month then ofYMD x.year (x.month - 1) (daysInMonth x.year (x.month - 1))
  else ofYMD (x.year - 1) 12 31

/-- The day before has the ordinal before. -/
theorem toordinal_prevDay {x e : Date} (h : prevDay x = some e) :
    e.toordinal + 1 = x.toordinal := by
  obtain ⟨hy, -, hm, -, hd, -⟩ := x.valid
  obtain ⟨hey, -⟩ := e.valid
  unfold prevDay at h
  unfold toordinal
  split_ifs at h with hday hmonth
  · obtain ⟨h₁, h₂, h₃⟩ := ofYMD_eq_some.mp h
    rw [h₁, h₂, h₃]
    omega
  · obtain ⟨h₁, h₂, h₃⟩ := ofYMD_eq_some.mp h
    obtain ⟨k, hk⟩ : ∃ k, x.month = k + 1 := ⟨x.month - 1, by omega⟩
    have hmonths := daysBeforeMonth_succ x.year (m := k) (by omega)
    rw [h₁, h₂, h₃, hk, hmonths]
    simp only [Nat.add_sub_cancel]
    omega
  · obtain ⟨h₁, h₂, h₃⟩ := ofYMD_eq_some.mp h
    obtain ⟨k, hk⟩ : ∃ k, x.year = k + 1 := ⟨x.year - 1, by omega⟩
    have hyears := daysBeforeYear_succ (y := k) (by omega)
    have hmonths := daysBeforeMonth_succ k (m := 12) (by omega)
    rw [daysInMonth_december] at hmonths
    have hfirst : daysBeforeMonth (k + 1) x.month = 0 := by
      rw [show x.month = 1 by omega]
      rfl
    rw [h₁, h₂, h₃, hk, hfirst, hyears, hmonths]
    simp only [Nat.add_sub_cancel]
    omega

/-- After the first year every date has a day before. -/
theorem exists_prevDay {x : Date} (h : 1 < x.year) : ∃ e, prevDay x = some e := by
  obtain ⟨hy, hy', hm, hm', hd, hd'⟩ := x.valid
  have hsome : ∀ {y m d : ℕ}, IsDate y m d → ∃ e, ofYMD y m d = some e :=
    fun hdate => ⟨_, dif_pos hdate⟩
  unfold prevDay
  split_ifs with hday hmonth
  · exact hsome ⟨hy, hy', hm, hm', by omega, by omega⟩
  · have hlength := one_le_daysInMonth x.year (x.month - 1)
    exact hsome ⟨hy, hy', by omega, by omega, by omega, le_rfl⟩
  · refine hsome ⟨by omega, by omega, by omega, by omega, by omega, ?_⟩
    rw [daysInMonth_december]

/-- **The day before separates the earlier dates from the others.** -/
theorem le_prevDay_iff {x e : Date} (h : prevDay x = some e) (z : Date) :
    z ≤ e ↔ z < x := by
  have := toordinal_prevDay h
  rw [le_iff, lt_iff]
  omega

/-- The day after a date, when the calendar has one. -/
def nextDay (x : Date) : Option Date :=
  if x.day < daysInMonth x.year x.month then ofYMD x.year x.month (x.day + 1)
  else if x.month < 12 then ofYMD x.year (x.month + 1) 1
  else ofYMD (x.year + 1) 1 1

/-- The date a number of days later, when the calendar has one. -/
def addDays (x : Date) : ℕ → Option Date
  | 0 => some x
  | n + 1 => (addDays x n).bind nextDay

/-- The day after has the ordinal after. -/
theorem toordinal_nextDay {x e : Date} (h : nextDay x = some e) :
    e.toordinal = x.toordinal + 1 := by
  obtain ⟨hy, -, hm, hm', -, hd⟩ := x.valid
  unfold nextDay at h
  unfold toordinal
  split_ifs at h with hday hmonth
  · obtain ⟨h₁, h₂, h₃⟩ := ofYMD_eq_some.mp h
    rw [h₁, h₂, h₃]
    omega
  · obtain ⟨h₁, h₂, h₃⟩ := ofYMD_eq_some.mp h
    rw [h₁, h₂, h₃, daysBeforeMonth_succ x.year hm]
    omega
  · obtain ⟨h₁, h₂, h₃⟩ := ofYMD_eq_some.mp h
    have hyears := daysBeforeYear_succ hy
    have hmonths : daysBeforeMonth x.year 13 = daysBeforeMonth x.year 12 + daysInMonth x.year 12 :=
      daysBeforeMonth_succ x.year (by omega)
    have hlast : x.month = 12 := by omega
    have hfirst : daysBeforeMonth (x.year + 1) 1 = 0 := rfl
    rw [hlast] at hday hd
    rw [h₁, h₂, h₃, hfirst, hyears, hlast]
    omega

/-- **The day after separates the later dates from the others.** -/
theorem nextDay_le_iff {x e : Date} (h : nextDay x = some e) (z : Date) :
    e ≤ z ↔ x < z := by
  have := toordinal_nextDay h
  rw [le_iff, lt_iff]
  omega

/-- **A date before another one** has a day after it. -/
theorem exists_nextDay {x z : Date} (h : x < z) : ∃ e, nextDay x = some e := by
  obtain ⟨hy, hy', hm, hm', hd, hd'⟩ := x.valid
  have hsome : ∀ {y m d : ℕ}, 1 ≤ y ∧ y ≤ 9999 ∧ 1 ≤ m ∧ m ≤ 12 ∧ 1 ≤ d ∧ d ≤ daysInMonth y m →
      ∃ e, ofYMD y m d = some e := fun hvalid => ⟨_, dif_pos hvalid⟩
  unfold nextDay
  split_ifs with hday hmonth
  · exact hsome ⟨hy, hy', hm, hm', by omega, by omega⟩
  · have := one_le_daysInMonth x.year (x.month + 1)
    exact hsome ⟨hy, hy', by omega, by omega, by omega, by omega⟩
  · -- the last day of a year, which is not the last one of the calendar
    have hfirst := one_le_daysInMonth (x.year + 1) 1
    refine hsome ⟨by omega, ?_, le_rfl, by omega, le_rfl, by omega⟩
    by_contra hlast
    obtain ⟨-, hz, -, hz', -, hzd⟩ := z.valid
    have hyear : z.year ≤ x.year := by omega
    rcases hyear.lt_or_eq with hlt | heq
    · exact lt_asymm h (toordinal_lt_of_year hlt)
    · have hzm : z.month ≤ x.month := by omega
      rcases hzm.lt_or_eq with hlt | heq'
      · exact lt_asymm h (toordinal_lt_of_month heq hlt)
      · rw [heq, heq'] at hzd
        have hle : z.day ≤ x.day := hzd.trans (not_lt.mp hday)
        rcases hle.lt_or_eq with hlt | heq''
        · exact lt_asymm h (toordinal_lt_of_day heq heq' hlt)
        · have hsame : z.toordinal = x.toordinal := by
            unfold toordinal
            rw [heq, heq', heq'']
          exact absurd h (not_lt.mpr hsame.le)

end Date

end Calendar
