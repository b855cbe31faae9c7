import Clarisal.Lib.Anniversary
import Clarisal.Payroll.FullAndFinal

/-!
# Service years for the gratuity

A gratuity is paid for full years of service, and a rest of more than half a year counts as
one. The rest is found by subtracting months and days; when the days do not suffice, those
of the month before are added. They always suffice, except for those of February: on 2 or 3
March the rest of someone who joined at the end of August has no days at all, and is half a
year just as for someone who joined on the first days of September, whose rest has some.

Counted in months, with a correction for the days, the years are one division
(`calculateGratuityServiceYears_eq`). That they only grow with the last working day, and are
the anniversaries or one more, follows from it, and so does exactly when joining later means
more of them (`serviceYears_monotone`).
-/

open Calendar

namespace Payroll

/-- The anniversaries of the joining date, as the services count them. -/
def completedServiceYears (dateOfJoining : Option Date) (lastWorkingDay : Date) : ℕ :=
  match dateOfJoining with
  | none => 0
  | some joining =>
    if lastWorkingDay < joining then 0
    else
      let years := (lastWorkingDay.year : ℤ) - joining.year
      let years := if lastWorkingDay.month < joining.month
          ∨ (lastWorkingDay.month = joining.month ∧ lastWorkingDay.day < joining.day)
        then years - 1 else years
      years.toNat

/-- The length of the month before. -/
def previousMonthLength (d : Date) : ℕ :=
  if d.month = 1 then daysInMonth (d.year - 1) 12 else daysInMonth d.year (d.month - 1)

/-- The months from one month to another, days aside. -/
def monthsBetween (joining last : Date) : ℤ :=
  12 * ((last.year : ℤ) - joining.year) + ((last.month : ℤ) - joining.month)

/-- **What the days change**: a month and some days have begun, or not even with the days of
the month before is there one left. -/
def dayCarry (joining last : Date) : ℤ :=
  if joining.day < last.day then 1
  else if last.day + previousMonthLength last ≤ joining.day then -1
  else 0

section

variable {joining joining' last last' : Date}

theorem le_iff_months : joining ≤ last ↔ 0 < monthsBetween joining last
    ∨ (monthsBetween joining last = 0 ∧ joining.day ≤ last.day) := by
  have hjoining := joining.valid
  have hlast := last.valid
  rw [Date.le_iff_fields, monthsBetween]
  omega

/-- Only February is shorter than thirty days. -/
theorem previousMonthLength_bounds (d : Date) : 28 ≤ previousMonthLength d
    ∧ (d.month ≠ 3 → 30 ≤ previousMonthLength d) := by
  have hd := d.valid
  unfold previousMonthLength daysInMonth
  split_ifs <;> omega

/-- **The years in months**: half a year less a day more, in whole years. -/
theorem calculateGratuityServiceYears_eq (h : joining ≤ last) :
    (calculateGratuityServiceYears (some joining) last : ℤ)
      = (monthsBetween joining last + 5 + dayCarry joining last) / 12 := by
  have hmonths := le_iff_months.mp h
  have hjoining := joining.valid
  have hlast := last.valid
  have hlength := previousMonthLength_bounds last
  have hprevious : daysInMonth (if last.month = 1 then last.year - 1 else last.year)
      (if last.month = 1 then 12 else last.month - 1) = previousMonthLength last := by
    unfold previousMonthLength
    split <;> rfl
  unfold calculateGratuityServiceYears
  dsimp only
  rw [if_neg (not_lt.mpr h), hprevious]
  unfold dayCarry
  unfold monthsBetween at *
  generalize previousMonthLength last = length at hlength ⊢
  -- the rest in months and days, after the borrow of a month and that of a year
  by_cases hday : (last.day : ℤ) - joining.day < 0
  · rw [if_pos hday]
    dsimp only
    split_ifs <;> omega
  · rw [if_neg hday]
    dsimp only
    split_ifs <;> omega

theorem completedServiceYears_eq (h : joining ≤ last) :
    (completedServiceYears (some joining) last : ℤ)
      = (monthsBetween joining last - if last.day < joining.day then 1 else 0) / 12 := by
  have hmonths := le_iff_months.mp h
  have hjoining := joining.valid
  have hlast := last.valid
  unfold completedServiceYears
  dsimp only
  rw [if_neg (not_lt.mpr h)]
  unfold monthsBetween at *
  split_ifs <;> omega

/-- The completed years are the anniversaries. -/
theorem completedServiceYears_eq_anniversaries (h : joining ≤ last) :
    completedServiceYears (some joining) last = joining.anniversaries last := by
  have hmonths := le_iff_months.mp h
  unfold completedServiceYears Date.anniversaries
  dsimp only
  rw [if_neg (not_lt.mpr h)]
  unfold monthsBetween at hmonths
  by_cases hday : joining.DayLe last
  · rw [if_pos hday]
    unfold Date.DayLe at hday
    split_ifs <;> omega
  · rw [if_neg hday]
    unfold Date.DayLe at hday
    split_ifs <;> omega

theorem le_completedServiceYears_iff (h : joining ≤ last) {n : ℕ} :
    n ≤ completedServiceYears (some joining) last ↔ Date.Reached n joining last := by
  rw [completedServiceYears_eq_anniversaries h, Date.le_anniversaries_iff h]

/-! ## A later last working day -/

/-- A later day has at least the months and days. -/
theorem monthsBetween_add_dayCarry_mono (h : last ≤ last') :
    monthsBetween joining last + dayCarry joining last
      ≤ monthsBetween joining last' + dayCarry joining last' := by
  have hmonths := le_iff_months.mp h
  have hlast := last.valid
  have hlast' := last'.valid
  have hlength := previousMonthLength_bounds last
  have hlength' := previousMonthLength_bounds last'
  -- the month before the next one is this one
  have hnext : monthsBetween last last' = 1 → last.day ≤ previousMonthLength last' := by
    intro hone
    unfold monthsBetween at hone
    have hday : last.day ≤ daysInMonth last.year last.month := hlast.2.2.2.2.2
    unfold previousMonthLength
    split
    · rw [show last'.year - 1 = last.year by omega, show 12 = last.month by omega]
      exact hday
    · rw [show last'.year = last.year by omega, show last'.month - 1 = last.month by omega]
      exact hday
  have hsame : monthsBetween last last' = 0 →
      previousMonthLength last' = previousMonthLength last := by
    intro hzero
    unfold monthsBetween at hzero
    unfold previousMonthLength
    rw [show last'.year = last.year by omega, show last'.month = last.month by omega]
  unfold dayCarry
  unfold monthsBetween at *
  split_ifs <;> omega

/-! ## A later joining date -/

/-- **The days of February do not suffice** for the earlier joining date, and none are needed
for the later one: the last working day is in March, and they are at the end of August and
at the beginning of September. -/
def BorrowsPastFebruary (joining joining' last : Date) : Prop :=
  joining' ≤ last ∧ last.month = 3 ∧ joining.year = joining'.year ∧ joining.month = 8
    ∧ joining'.month = 9 ∧ joining'.day < last.day
    ∧ last.day + daysInMonth last.year 2 ≤ joining.day

instance (joining joining' last : Date) : Decidable (BorrowsPastFebruary joining joining' last) :=
  inferInstanceAs (Decidable (_ ∧ _))

theorem dayCarry_eq_one_iff : dayCarry joining last = 1 ↔ joining.day < last.day := by
  unfold dayCarry
  split_ifs with hbegun <;> simp [hbegun]

theorem dayCarry_eq_neg_one_iff :
    dayCarry joining last = -1 ↔ last.day + previousMonthLength last ≤ joining.day := by
  unfold dayCarry
  split_ifs with hbegun hshort
  · simp only [false_iff]
    omega
  · simp [hshort]
  · simp [hshort]

theorem day_le (d : Date) : d.day ≤ 31 := by
  have hday := d.valid.2.2.2.2.2
  unfold daysInMonth at hday
  split_ifs at hday <;> omega

/-- **The days outweigh the month** only in March, from the end of a month to the beginning of
the next. -/
theorem dayCarry_of_lt (h : joining ≤ joining')
    (hcarry : monthsBetween joining joining' + dayCarry joining last < dayCarry joining' last) :
    last.month = 3 ∧ monthsBetween joining joining' = 1
      ∧ dayCarry joining last = -1 ∧ dayCarry joining' last = 1 := by
  have hmonths := le_iff_months.mp h
  have hlength := previousMonthLength_bounds last
  have hday := day_le joining
  have hday' := joining'.valid.2.2.2.2.1
  unfold dayCarry at *
  split_ifs at hcarry ⊢ <;> omega

theorem serviceYears_antitone_iff (h : joining ≤ joining') :
    calculateGratuityServiceYears (some joining') last
        ≤ calculateGratuityServiceYears (some joining) last
      ↔ ¬ BorrowsPastFebruary joining joining' last := by
  by_cases hserved : joining' ≤ last
  · have hyears := calculateGratuityServiceYears_eq (h.trans hserved)
    have hyears' := calculateGratuityServiceYears_eq hserved
    have hsum : monthsBetween joining last
        = monthsBetween joining joining' + monthsBetween joining' last := by
      unfold monthsBetween
      omega
    have hmarch : last.month = 3 → previousMonthLength last = daysInMonth last.year 2 := by
      intro hm
      rw [previousMonthLength, hm]
      rfl
    unfold BorrowsPastFebruary
    rw [and_iff_right hserved]
    by_cases hlt : monthsBetween joining joining' + dayCarry joining last < dayCarry joining' last
    · obtain ⟨hm, hone, hlow, hhigh⟩ := dayCarry_of_lt h hlt
      rw [hlow, hsum, hone] at hyears
      rw [hhigh] at hyears'
      have hbegun := dayCarry_eq_one_iff.mp hhigh
      have hshort := dayCarry_eq_neg_one_iff.mp hlow
      rw [hmarch hm] at hshort
      have hmonth := joining.valid.2.2
      have hmonth' := joining'.valid.2.2
      unfold monthsBetween at *
      omega
    · refine iff_of_true (by omega) ?_
      rintro ⟨hm, hyear, haugust, hseptember, hbegun, hshort⟩
      rw [← hmarch hm] at hshort
      rw [dayCarry_eq_one_iff.mpr hbegun, dayCarry_eq_neg_one_iff.mpr hshort] at hlt
      unfold monthsBetween at hlt
      omega
  · refine iff_of_true ?_ (fun hborrows => hserved hborrows.1)
    unfold calculateGratuityServiceYears
    dsimp only
    rw [if_pos (not_le.mp hserved)]
    exact Nat.zero_le _

end

/-- **Service years** only grow with the last working day, and are the completed years or one
more; they grow with the joining date exactly across the end of August, when the last
working day is in the first days of March. -/
theorem serviceYears_monotone (dateOfJoining : Option Date) (joining joining' last last' : Date) :
    (last ≤ last' → calculateGratuityServiceYears dateOfJoining last
        ≤ calculateGratuityServiceYears dateOfJoining last')
    ∧ (joining ≤ joining' →
      (calculateGratuityServiceYears (some joining') last
          ≤ calculateGratuityServiceYears (some joining) last
        ↔ ¬ BorrowsPastFebruary joining joining' last))
    ∧ completedServiceYears dateOfJoining last ≤ calculateGratuityServiceYears dateOfJoining last
    ∧ calculateGratuityServiceYears dateOfJoining last
      ≤ completedServiceYears dateOfJoining last + 1 := by
  refine ⟨fun h => ?_, fun h => serviceYears_antitone_iff h, ?_⟩
  · cases dateOfJoining with
    | none => exact le_rfl
    | some joining =>
      by_cases hserved : joining ≤ last
      · have hyears := calculateGratuityServiceYears_eq hserved
        have hyears' := calculateGratuityServiceYears_eq (hserved.trans h)
        have hmono : monthsBetween joining last + dayCarry joining last
            ≤ monthsBetween joining last' + dayCarry joining last' :=
          monthsBetween_add_dayCarry_mono h
        omega
      · rw [calculateGratuityServiceYears, if_pos (not_le.mp hserved)]
        exact Nat.zero_le _
  · cases dateOfJoining with
    | none => exact ⟨le_rfl, Nat.zero_le _⟩
    | some joining =>
      by_cases hserved : joining ≤ last
      · have hyears := calculateGratuityServiceYears_eq hserved
        have hcompleted := completedServiceYears_eq hserved
        unfold dayCarry at hyears
        split_ifs at hyears hcompleted <;> omega
      · rw [calculateGratuityServiceYears, completedServiceYears, if_pos (not_le.mp hserved),
          if_pos (not_le.mp hserved)]
        exact ⟨le_rfl, Nat.zero_le _⟩

/-- Half a year, and a day less. -/
theorem serviceYears_monotone_sample :
    calculateGratuityServiceYears (some ⟨2020, 9, 2, by decide⟩) ⟨2023, 3, 2, by decide⟩
        ≤ calculateGratuityServiceYears (some ⟨2020, 9, 1, by decide⟩) ⟨2023, 3, 2, by decide⟩
      ∧ calculateGratuityServiceYears (some ⟨2020, 9, 1, by decide⟩) ⟨2023, 3, 1, by decide⟩
        ≤ calculateGratuityServiceYears (some ⟨2020, 9, 1, by decide⟩) ⟨2023, 3, 2, by decide⟩ :=
  ⟨((serviceYears_monotone none ⟨2020, 9, 1, by decide⟩ ⟨2020, 9, 2, by decide⟩
      ⟨2023, 3, 2, by decide⟩ ⟨2023, 3, 2, by decide⟩).2.1 (by decide)).mpr (by decide),
    (serviceYears_monotone (some ⟨2020, 9, 1, by decide⟩) ⟨2020, 9, 1, by decide⟩
      ⟨2020, 9, 1, by decide⟩ ⟨2023, 3, 1, by decide⟩ ⟨2023, 3, 2, by decide⟩).1 (by decide)⟩

/-- **Joining a day later for a year more**: on 2 March, 31 August counts two years and
1 September three. -/
theorem later_joining_counts_more :
    ¬ ∀ joining joining' last : Date, joining ≤ joining' →
      calculateGratuityServiceYears (some joining') last
        ≤ calculateGratuityServiceYears (some joining) last := by
  intro h
  have hyears := h ⟨2020, 8, 31, by decide⟩ ⟨2020, 9, 1, by decide⟩ ⟨2023, 3, 2, by decide⟩
    (by decide)
  revert hyears
  decide

end Payroll
