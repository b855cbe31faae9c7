import Clarisal.Lib.Anniversary
import Mathlib.Order.Bounds.Basic

/-!
# Days that come back every year

A date comes back every year on its day of its month. 29 February has no such day in an
ordinary year: a `LeapDayRule` says whether it is observed on 28 February or on 1 March. From
any day on there is a first day to come (`Date.nextOccurrence_eq_some_iff`), this year's or the
next year's.

In days, the next year is more than 31 days away, except from December; there it is away as many
days as the day of the month says (`Date.toordinal_le_add_31_iff`).
-/

namespace Calendar

/-- Where 29 February is observed in ordinary years. -/
inductive LeapDayRule
  | february28 | march1
deriving DecidableEq, Repr

/-- The day that stands for 29 February. -/
def LeapDayRule.ofYear : LeapDayRule → ℕ → Option Date
  | .february28, year => Date.ofYMD year 2 28
  | .march1, year => Date.ofYMD year 3 1

namespace Date

/-- **The same day of another year**, when there is one. -/
def replaceYear (d : Date) (year : ℕ) : Option Date := ofYMD year d.month d.day

/-- The day of a date in a year. -/
def observed (rule : LeapDayRule) (d : Date) (year : ℕ) : Option Date :=
  (d.replaceYear year).or (rule.ofYear year)

/-- **This year's day**, or the next year's when it is over. -/
def nextOccurrence (rule : LeapDayRule) (d today : Date) : Option Date :=
  match d.observed rule today.year with
  | none => none
  | some x => if today ≤ x then some x else d.observed rule (today.year + 1)

/-- The days of a date. -/
def Recurs (rule : LeapDayRule) (d x : Date) : Prop := d.observed rule x.year = some x

variable {rule : LeapDayRule} {d x y today : Date} {year : ℕ}

theorem replaceYear_eq_some :
    d.replaceYear year = some x ↔ x.year = year ∧ x.month = d.month ∧ x.day = d.day :=
  ofYMD_eq_some

/-- **Only 29 February** is not in every year. -/
theorem exists_replaceYear_iff (hlow : 1 ≤ year) (hhigh : year ≤ 9999) :
    (∃ x, d.replaceYear year = some x) ↔ ¬ (d.month = 2 ∧ d.day = 29 ∧ isLeap year = false) := by
  obtain ⟨-, -, hm, hm', hd, hd'⟩ := d.valid
  have hexists : (∃ x, d.replaceYear year = some x) ↔ d.day ≤ daysInMonth year d.month := by
    constructor
    · rintro ⟨x, hx⟩
      obtain ⟨hyear, hmonth, hday⟩ := replaceYear_eq_some.mp hx
      rw [← hyear, ← hmonth, ← hday]
      exact x.valid.2.2.2.2.2
    · exact fun hday => ⟨_, dif_pos ⟨hlow, hhigh, hm, hm', hd, hday⟩⟩
  rw [hexists]
  by_cases hfebruary : d.month = 2
  · have hlength (y : ℕ) : daysInMonth y d.month = if isLeap y then 29 else 28 := by
      rw [hfebruary]
      rfl
    have hday : d.day ≤ 29 := hd'.trans (by rw [hlength]; split <;> decide)
    rw [hlength]
    cases isLeap year
    · simp only [hfebruary, true_and, and_true, Bool.false_eq_true, if_false]
      omega
    · simpa using hday
  · have hlength : daysInMonth year d.month = daysInMonth d.year d.month := by
      simp [daysInMonth, hfebruary]
    exact iff_of_true (hlength ▸ hd') (fun h => hfebruary h.1)

theorem exists_ofYear (rule : LeapDayRule) (hlow : 1 ≤ year) (hhigh : year ≤ 9999) :
    ∃ x, rule.ofYear year = some x := by
  have hday (m : ℕ) : 28 ≤ daysInMonth year m := one_le_daysInMonth year m
  cases rule with
  | february28 => exact ⟨_, dif_pos ⟨hlow, hhigh, by decide, by decide, by decide, hday 2⟩⟩
  | march1 =>
    have hfirst : 1 ≤ daysInMonth year 3 := le_trans (by decide) (hday 3)
    exact ⟨_, dif_pos ⟨hlow, hhigh, by decide, by decide, le_rfl, hfirst⟩⟩

theorem year_of_ofYear (h : rule.ofYear year = some x) :
    x.year = year ∧ (x.month = 2 ∨ x.month = 3) := by
  cases rule with
  | february28 => exact ⟨(ofYMD_eq_some.mp h).1, Or.inl (ofYMD_eq_some.mp h).2.1⟩
  | march1 => exact ⟨(ofYMD_eq_some.mp h).1, Or.inr (ofYMD_eq_some.mp h).2.1⟩

/-- A date is observed on its own day, or it is 29 February. -/
theorem observed_eq_some (h : d.observed rule year = some x) :
    x.year = year ∧ (x.month = d.month ∧ x.day = d.day
      ∨ d.month = 2 ∧ (x.month = 2 ∨ x.month = 3)) := by
  rcases Option.or_eq_some_iff.mp h with hsame | ⟨hnone, hrule⟩
  · obtain ⟨hyear, hfields⟩ := replaceYear_eq_some.mp hsame
    exact ⟨hyear, Or.inl hfields⟩
  · obtain ⟨hyear, hmonth⟩ := year_of_ofYear hrule
    have hleap : d.month = 2 := by
      by_contra hother
      obtain ⟨x', hx'⟩ := (exists_replaceYear_iff (hyear ▸ x.valid.1) (hyear ▸ x.valid.2.1)).mpr
        (fun h => hother h.1)
      rw [hnone] at hx'
      cases hx'
    exact ⟨hyear, Or.inr ⟨hleap, hmonth⟩⟩

/-- **A date comes back every year.** -/
theorem exists_observed (hlow : 1 ≤ year) (hhigh : year ≤ 9999) :
    ∃ x, d.observed rule year = some x := by
  obtain ⟨z, hz⟩ := exists_ofYear rule hlow hhigh
  unfold observed
  cases hsame : d.replaceYear year with
  | none => exact ⟨z, hz⟩
  | some x => exact ⟨x, rfl⟩

theorem year_le_of_le (h : x ≤ y) : x.year ≤ y.year := by
  rcases le_iff_fields.mp h with hlt | ⟨heq, -⟩
  · exact hlt.le
  · exact heq.le

theorem lt_of_year (h : x.year < y.year) : x < y := lt_iff.mpr (toordinal_lt_of_year h)

theorem recurs_of_observed (h : d.observed rule year = some x) : d.Recurs rule x := by
  unfold Recurs
  rw [(observed_eq_some h).1, h]

/-- This year's day, while it is not over. -/
theorem nextOccurrence_of_le (hx : d.replaceYear today.year = some x) (h : today ≤ x) :
    d.nextOccurrence rule today = some x := by
  unfold nextOccurrence observed
  rw [hx]
  exact if_pos h

/-- The next year's day, when this year's is over. -/
theorem nextOccurrence_of_lt (hx : d.replaceYear today.year = some x) (h : x < today) :
    d.nextOccurrence rule today = d.observed rule (today.year + 1) := by
  unfold nextOccurrence observed
  rw [hx]
  exact if_neg (not_le.mpr h)

/-- **The first day to come.** -/
theorem isLeast_of_nextOccurrence (h : d.nextOccurrence rule today = some x) :
    IsLeast {y | d.Recurs rule y ∧ today ≤ y} x := by
  unfold nextOccurrence at h
  split at h
  · cases h
  · next z hz =>
    split_ifs at h with hle
    · obtain rfl := Option.some.inj h
      refine ⟨⟨recurs_of_observed hz, hle⟩, fun y ⟨hy, hty⟩ => ?_⟩
      have hyear := (observed_eq_some hz).1
      rcases (year_le_of_le hty).lt_or_eq with hlt | heq
      · exact (lt_of_year (hyear ▸ hlt)).le
      · rw [Recurs, ← heq, hz] at hy
        exact (Option.some.inj hy).le
    · have hyear := (observed_eq_some h).1
      refine ⟨⟨recurs_of_observed h, (lt_of_year (by omega)).le⟩, fun y ⟨hy, hty⟩ => ?_⟩
      have hlater : today.year < y.year := by
        refine (year_le_of_le hty).lt_of_ne fun heq => hle ?_
        rw [Recurs, ← heq, hz] at hy
        rwa [Option.some.inj hy]
      rcases Nat.lt_or_eq_of_le hlater with hlt | heq
      · exact (lt_of_year (hyear ▸ hlt)).le
      · rw [Recurs, ← heq, h] at hy
        exact (Option.some.inj hy).le

theorem nextOccurrence_eq_some_iff :
    d.nextOccurrence rule today = some x ↔ IsLeast {y | d.Recurs rule y ∧ today ≤ y} x := by
  refine ⟨isLeast_of_nextOccurrence, fun h => ?_⟩
  obtain ⟨hrecurs, hle⟩ := h.1
  have hsome : ∃ z, d.nextOccurrence rule today = some z := by
    obtain ⟨z, hz⟩ : ∃ z, d.observed rule today.year = some z :=
      exists_observed today.valid.1 today.valid.2.1
    unfold nextOccurrence
    simp only [hz]
    split_ifs with hthis
    · exact ⟨z, rfl⟩
    · refine exists_observed (by omega) ?_
      have hne : today.year ≠ x.year := fun heq => hthis (by
        rw [Recurs, ← heq, hz] at hrecurs
        rwa [Option.some.inj hrecurs])
      have := year_le_of_le hle
      have := x.valid.2.1
      omega
  obtain ⟨z, hz⟩ := hsome
  rw [hz, (isLeast_of_nextOccurrence hz).unique h]

/-! ## The next 31 days -/

/-- **The turn of the year**: within 31 days, only January is reached, and from December. -/
theorem toordinal_le_add_31_iff (h : y.year = x.year + 1) :
    y.toordinal ≤ x.toordinal + 31 ↔ x.month = 12 ∧ y.month = 1 ∧ y.day ≤ x.day := by
  obtain ⟨hy, -, hm, hm', hd, -⟩ := x.valid
  obtain ⟨-, -, hym, -, hyd, -⟩ := y.valid
  have hyears := daysBeforeYear_succ hy
  have hmonths : daysBeforeMonth x.year 13 = daysBeforeMonth x.year 12 + daysInMonth x.year 12 :=
    daysBeforeMonth_succ x.year (by decide)
  rw [daysInMonth_december] at hmonths
  have hyord : y.toordinal = daysBeforeYear x.year + daysBeforeMonth x.year 12 + 31
      + daysBeforeMonth y.year y.month + y.day := by
    rw [toordinal, h]
    omega
  by_cases hlast : x.month = 12
  · have hxord : x.toordinal = daysBeforeYear x.year + daysBeforeMonth x.year 12 + x.day := by
      rw [toordinal, hlast]
    have hday := x.valid.2.2.2.2.2
    rw [hlast, daysInMonth_december] at hday
    by_cases hfirst : y.month = 1
    · have : daysBeforeMonth y.year y.month = 0 := by rw [hfirst]; rfl
      omega
    · have hjanuary : daysBeforeMonth y.year 2 ≤ daysBeforeMonth y.year y.month :=
        daysBeforeMonth_mono y.year (by decide) (by omega)
      have : daysBeforeMonth y.year 2 = 31 := rfl
      omega
  · have hend := x.toordinal_le_monthEnd
    have hmono : daysBeforeMonth x.year (x.month + 1) ≤ daysBeforeMonth x.year 12 :=
      daysBeforeMonth_mono x.year (by omega) (by omega)
    omega

theorem toordinal_addDays {n : ℕ} (h : x.addDays n = some y) : y.toordinal = x.toordinal + n := by
  induction n generalizing y with
  | zero =>
    obtain rfl := Option.some.inj h
    rfl
  | succ n ih =>
    obtain ⟨z, hz, hnext⟩ := Option.bind_eq_some_iff.mp h
    rw [toordinal_nextDay hnext, ih hz, Nat.add_assoc]

/-- There is a day some days later when a later one is known. -/
theorem exists_addDays {n : ℕ} (h : x.toordinal + n ≤ y.toordinal) :
    ∃ z, x.addDays n = some z := by
  induction n with
  | zero => exact ⟨x, rfl⟩
  | succ n ih =>
    obtain ⟨z, hz⟩ := ih (by omega)
    have hlt : z < y := by
      rw [lt_iff, toordinal_addDays hz]
      omega
    obtain ⟨e, he⟩ := exists_nextDay hlt
    exact ⟨e, by rw [addDays, hz]; exact he⟩

theorem isDate_last : IsDate 9999 12 31 := by decide

/-- **The calendar ends** 31 days after November 9999. -/
theorem exists_addDays_31_iff :
    (∃ e, x.addDays 31 = some e) ↔ ¬ (x.year = 9999 ∧ x.month = 12) := by
  obtain ⟨hy, hy', hm, hm', hd, hd'⟩ := x.valid
  have hend := x.toordinal_le_monthEnd
  constructor
  · rintro ⟨e, he⟩ ⟨hyear, hmonth⟩
    have hlater := toordinal_addDays he
    have hsame : e.year = x.year := by
      have hle : x ≤ e := le_iff.mpr (by omega)
      have := year_le_of_le hle
      have := e.valid.2.1
      omega
    have heend := e.toordinal_le_monthEnd
    have hmono : daysBeforeMonth e.year (e.month + 1) ≤ daysBeforeMonth e.year 13 :=
      daysBeforeMonth_mono e.year (by omega) (by have := e.valid.2.2.2.1; omega)
    have hmonths : daysBeforeMonth x.year 13 = daysBeforeMonth x.year 12 + daysInMonth x.year 12 :=
      daysBeforeMonth_succ x.year (by decide)
    rw [daysInMonth_december] at hmonths
    have hxord : x.toordinal = daysBeforeYear x.year + daysBeforeMonth x.year 12 + x.day := by
      rw [toordinal, hmonth]
    rw [hsame] at heend hmono
    omega
  · intro hbefore
    refine exists_addDays (y := ⟨9999, 12, 31, isDate_last⟩) ?_
    show x.toordinal + 31 ≤ daysBeforeYear 9999 + daysBeforeMonth 9999 12 + 31
    by_cases hyear : x.year = 9999
    · have hmono : daysBeforeMonth x.year (x.month + 1) ≤ daysBeforeMonth x.year 12 :=
        daysBeforeMonth_mono x.year (by omega) (by omega)
      rw [hyear] at hend hmono
      omega
    · have hmonth : daysBeforeMonth x.year (x.month + 1) ≤ daysBeforeMonth x.year 13 :=
        daysBeforeMonth_mono x.year (by omega) (by omega)
      have hyears := daysBeforeYear_succ hy
      have hmono : daysBeforeYear (x.year + 1) ≤ daysBeforeYear 9999 :=
        daysBeforeYear_mono (by omega) (by omega)
      omega

end Date

end Calendar
