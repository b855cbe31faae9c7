import Clarisal.TimeOff.Models

/-!
# Leave cycles

A leave cycle is a year that starts on a fixed month and day: that of the
plan, 1 April, or the anniversary of joining. The cycle of a date is the one
it lies in (`anniversaryWindow_mem`), and two cycles with the same month and
day are equal or disjoint (`anniversaryWindow_eq_or_disjoint`).

An employee without a joining date has, under the joining-date cycle, a cycle
starting on every date, and these overlap.
-/

open Calendar

namespace TimeOff

/-- The year from a date to the eve of its anniversary. -/
def yearFrom (start : Date) : Option (Date × Date) := do
  let anniversary ← Date.ofYMD (start.year + 1) start.month start.day
  let finish ← anniversary.prevDay
  return (start, finish)

/-- The last date of a month and day, up to a date. -/
def lastAnniversary (month day : ℕ) (today : Date) : Option Date := do
  let start ← Date.ofYMD today.year month day
  if today < start then Date.ofYMD (today.year - 1) month day else some start

/-- The year from a month and day that a date lies in. -/
def anniversaryWindow (month day : ℕ) (today : Date) : Option (Date × Date) :=
  (lastAnniversary month day today).bind yearFrom

/-- The month and day the cycles of an employee start on; none when a cycle
starts on every date. -/
def LeaveCycle.startsOn (cycle : LeaveCycle) (employee : Employee) : Option (ℕ × ℕ) :=
  match cycle.cycleType with
  | .employeeJoiningDate => employee.dateOfJoining.map (fun join => (join.month, join.day))
  | .financialYear => some (4, 1)
  | .calendarYear | .customFixedStart => some (cycle.startMonth, cycle.startDay)

/-- **The cycle of a date.** A start that does not exist in the year is an
error. -/
def getCycleWindow (cycle : LeaveCycle) (employee : Employee) (asOf : Date) :
    Except String (Date × Date) :=
  let window := match cycle.startsOn employee with
    | none => yearFrom asOf
    | some (month, day) => anniversaryWindow month day asOf
  window.elim (.error "day is out of range for month") .ok

theorem getCycleWindow_eq_ok {cycle : LeaveCycle} {employee : Employee} {asOf : Date}
    {window : Date × Date} {month day : ℕ} (hstart : cycle.startsOn employee = some (month, day)) :
    getCycleWindow cycle employee asOf = .ok window
      ↔ anniversaryWindow month day asOf = some window := by
  rw [getCycleWindow, hstart]
  cases hwindow : anniversaryWindow month day asOf <;> simp [hwindow]

section Windows

variable {month day : ℕ} {x y : Date} {w v : Date × Date}

/-- An anniversary of an earlier year is not after one of a later year. -/
theorem anniversary_le (hyear : x.year ≤ y.year) (hmonth : x.month = y.month)
    (hday : x.day = y.day) : x ≤ y := by
  rcases hyear.lt_or_eq with hlt | heq
  · exact (Date.toordinal_lt_of_year hlt).le
  · have hsame : x = y := by
      cases x
      cases y
      simp_all
    exact hsame.le

/-- **A window**, by its two anniversaries. -/
theorem anniversaryWindow_eq_some (h : anniversaryWindow month day x = some w) :
    ∃ next : Date, (w.1.month = month ∧ w.1.day = day)
      ∧ (next.year = w.1.year + 1 ∧ next.month = month ∧ next.day = day)
      ∧ w.1 ≤ x ∧ x < next ∧ ∀ z, z ≤ w.2 ↔ z < next := by
  obtain ⟨start, hlast, h⟩ := Option.bind_eq_some_iff.mp h
  obtain ⟨this, hthis, hstart⟩ := Option.bind_eq_some_iff.mp hlast
  obtain ⟨next, hnext, h⟩ := Option.bind_eq_some_iff.mp h
  obtain ⟨finish, hfinish, h⟩ := Option.bind_eq_some_iff.mp h
  obtain rfl := Option.some.inj h
  obtain ⟨hty, htm, htd⟩ := Date.ofYMD_eq_some.mp hthis
  obtain ⟨hny, hnm, hnd⟩ := Date.ofYMD_eq_some.mp hnext
  split at hstart
  · next hbefore =>
    obtain ⟨hsy, hsm, hsd⟩ := Date.ofYMD_eq_some.mp hstart
    have hyear : 1 ≤ start.year := start.valid.1
    have hearlier : start.year < x.year := by omega
    refine ⟨next, ⟨hsm, hsd⟩, ⟨hny, hnm.trans hsm, hnd.trans hsd⟩, ?_, ?_,
      Date.le_prevDay_iff hfinish⟩
    · exact (Date.toordinal_lt_of_year hearlier).le
    · -- the window ends where the year of the date would have started
      have hle : this ≤ next := anniversary_le (by omega) (by omega) (by omega)
      exact hbefore.trans_le hle
  · next hafter =>
    obtain rfl := Option.some.inj hstart
    refine ⟨next, ⟨htm, htd⟩, ⟨hny, hnm.trans htm, hnd.trans htd⟩, not_lt.mp hafter, ?_,
      Date.le_prevDay_iff hfinish⟩
    have hlater : x.year < next.year := by omega
    exact Date.toordinal_lt_of_year hlater

/-- A date lies in its window. -/
theorem anniversaryWindow_mem (h : anniversaryWindow month day x = some w) :
    w.1 ≤ x ∧ x ≤ w.2 := by
  obtain ⟨next, -, -, hstart, hnext, hfinish⟩ := anniversaryWindow_eq_some h
  exact ⟨hstart, (hfinish x).mpr hnext⟩

/-- **Windows tile**: two of them are equal or disjoint. -/
theorem anniversaryWindow_eq_or_disjoint (h : anniversaryWindow month day x = some w)
    (h' : anniversaryWindow month day y = some v) : w = v ∨ w.2 < v.1 ∨ v.2 < w.1 := by
  obtain ⟨next, ⟨hm, hd⟩, ⟨hy, hnm, hnd⟩, -, -, hfinish⟩ := anniversaryWindow_eq_some h
  obtain ⟨next', ⟨hm', hd'⟩, ⟨hy', hnm', hnd'⟩, -, -, hfinish'⟩ := anniversaryWindow_eq_some h'
  rcases lt_trichotomy w.1.year v.1.year with hlt | heq | hlt
  · refine Or.inr (Or.inl ?_)
    by_contra hnot
    have hbefore := (hfinish v.1).mp (not_lt.mp hnot)
    exact absurd (anniversary_le (by omega) (by omega) (by omega)) (not_le.mpr hbefore)
  · refine Or.inl (Prod.ext ?_ ?_)
    · exact le_antisymm (anniversary_le heq.le (by omega) (by omega))
        (anniversary_le heq.ge (by omega) (by omega))
    · have hnext : next = next' := le_antisymm (anniversary_le (by omega) (by omega) (by omega))
        (anniversary_le (by omega) (by omega) (by omega))
      subst hnext
      exact le_antisymm ((hfinish' _).mpr ((hfinish _).mp le_rfl))
        ((hfinish _).mpr ((hfinish' _).mp le_rfl))
  · refine Or.inr (Or.inr ?_)
    by_contra hnot
    have hbefore := (hfinish' w.1).mp (not_lt.mp hnot)
    exact absurd (anniversary_le (by omega) (by omega) (by omega)) (not_le.mpr hbefore)

end Windows

end TimeOff
