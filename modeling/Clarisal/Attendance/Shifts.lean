import Clarisal.Approvals.Models
import Clarisal.Lib.Calendar
import Mathlib.Algebra.Order.Round
import Mathlib.Data.Int.ConditionallyCompleteOrder
import Mathlib.Data.List.Sort
import Mathlib.Data.Set.Operations
import Mathlib.Order.Monotone.Defs

/-!
# Shifts and the days of punches

The shift of a date is that of the rotation assigned to the employee, or of
the direct assignment, or none, when the policy's times apply. The punches of
a date are those from midnight to midnight, except under an overnight shift,
where they are those from six hours before the shift to six hours after it,
on the next day.

The punches after an overnight shift are then also punches of the next day,
unless its shift is overnight too (`checkOut_counts_twice`). Punches belong to
one date at most exactly when the shifts keep apart: an overnight shift is
followed by an overnight one that starts more than twelve hours after it ends,
and the first one starts at six o'clock or later (`onePunchOneDay_iff`).

Times are in microseconds: local times those on the clocks of a zone, from
midnight before the first date on, and punches instants. What would overflow
at the two ends of the calendar is left out.
-/

open Calendar

namespace Attendance

open Approvals (OrganisationId EmployeeId)

abbrev ShiftId := ℕ

abbrev hour : ℤ := 3600000000

abbrev day : ℤ := 86400000000

structure TimeOfDay where
  micros : ℤ
  valid : 0 ≤ micros ∧ micros < day
deriving DecidableEq

def TimeOfDay.ofHours (h : ℤ) (valid : 0 ≤ h ∧ h < 24 := by decide) : TimeOfDay where
  micros := h * hour
  valid := by
    unfold hour day
    omega

theorem midnight : (0 : ℤ) ≤ 0 ∧ (0 : ℤ) < 24 := by decide

/-- **A time zone**: the instants that its local times stand for, which follow each
other as the local times do, except where the clocks skip an hour. -/
structure Zone where
  utc : ℤ → ℤ
  skipped : Set ℤ
  ordered : StrictMonoOn utc skippedᶜ

/-- `datetime.combine`. -/
def combine (date : Date) (time : TimeOfDay) : ℤ := date.toordinal * day + time.micros

/-! ## Rows -/

structure Shift where
  id : ShiftId
  organisation : OrganisationId
  startTime : TimeOfDay
  endTime : TimeOfDay
  isOvernight : Bool
  isActive : Bool
deriving DecidableEq

/-- What the two kinds of assignments of an employee have in common. -/
structure Assignment where
  id : ℕ
  organisation : OrganisationId
  startDate : Date
  endDate : Option Date
  isActive : Bool
  createdAt : ℤ
deriving DecidableEq, Repr

structure ShiftAssignment extends Assignment where
  shift : Shift
deriving DecidableEq

structure ShiftRotationTemplate where
  id : ℕ
  rotationIntervalDays : ℕ
  shiftSequence : List ShiftId
deriving DecidableEq, Repr

structure ShiftRotationAssignment extends Assignment where
  template : ShiftRotationTemplate
deriving DecidableEq, Repr

structure Employee where
  organisation : OrganisationId
  shiftAssignments : List ShiftAssignment
  shiftRotationAssignments : List ShiftRotationAssignment
deriving DecidableEq

structure AttendancePolicy where
  /-- the zone of its name, or the default one -/
  timezone : Zone
  defaultStartTime : TimeOfDay
  defaultEndTime : TimeOfDay

inductive AttendancePunchActionType
  | checkIn | checkOut | raw
deriving DecidableEq, Repr

structure AttendancePunch where
  punchAt : ℤ
  actionType : AttendancePunchActionType
deriving DecidableEq, Repr

inductive ShiftSource
  | rotation | direct
deriving DecidableEq, Repr

structure ResolvedShiftAssignment where
  shift : Shift
  source : ShiftSource
  directAssignment : Option ℕ := none
  rotationAssignment : Option ℕ := none
  rotationTemplate : Option ℕ := none
deriving DecidableEq

/-! ## The shift of a date -/

/-- `order_by('-start_date', '-created_at')`. -/
def Assignment.NotBefore (a b : Assignment) : Prop :=
  b.startDate < a.startDate ∨ (b.startDate = a.startDate ∧ b.createdAt ≤ a.createdAt)

instance (a b : Assignment) : Decidable (a.NotBefore b) := inferInstanceAs (Decidable (_ ∨ _ ∧ _))

def Assignment.isCurrent (organisation : OrganisationId) (date : Date) (a : Assignment) : Bool :=
  a.organisation = organisation ∧ a.isActive ∧ a.startDate ≤ date ∧ ∀ e ∈ a.endDate, date ≤ e

/-- The latest assignment that covers a date. -/
def currentAssignment {α : Type} (assignment : α → Assignment) (organisation : OrganisationId)
    (date : Date) (rows : List α) : Option α :=
  ((rows.filter (fun a => (assignment a).isCurrent organisation date)).insertionSort
    (fun a b => (assignment a).NotBefore (assignment b))).head?

/-- **The shift of a rotation**, when it is one of the active shifts. -/
def resolveRotationShift (shifts : List Shift) (rotationAssignment : Option ShiftRotationAssignment)
    (date : Date) : Option ResolvedShiftAssignment := do
  let rotation ← rotationAssignment
  let sequence := rotation.template.shiftSequence
  let rotationInterval := max 1 rotation.template.rotationIntervalDays
  if date < rotation.startDate then none
  else
    let daysElapsed := date.toordinal - rotation.startDate.toordinal
    let shiftId ← sequence[(daysElapsed / rotationInterval) % sequence.length]?
    let shift ← shifts.find? (fun s => s.organisation = rotation.organisation ∧ s.id = shiftId
      ∧ s.isActive)
    return { shift := shift, source := .rotation, rotationAssignment := some rotation.id,
             rotationTemplate := some rotation.template.id }

/-- **The shift of a date**: a rotation goes before a direct assignment. -/
def getEffectiveShift (shifts : List Shift) (employee : Employee) (date : Date) :
    Option ResolvedShiftAssignment :=
  let rotationAssignment := currentAssignment ShiftRotationAssignment.toAssignment
    employee.organisation date employee.shiftRotationAssignments
  match resolveRotationShift shifts rotationAssignment date with
  | some resolved => some resolved
  | none =>
    (currentAssignment ShiftAssignment.toAssignment employee.organisation date
      employee.shiftAssignments).map (fun a =>
        { shift := a.shift, source := .direct, directAssignment := some a.id })

/-! ## The bounds of a date -/

/-- The start and the end of a shift, or of the times of the policy. -/
def getShiftWindows (policy : AttendancePolicy) (shift : Option Shift) (date : Date) :
    ℤ × ℤ :=
  let shiftStart := combine date ((shift.map Shift.startTime).getD policy.defaultStartTime)
  let shiftEnd := combine date ((shift.map Shift.endTime).getD policy.defaultEndTime)
  if shift.any Shift.isOvernight then (shiftStart, shiftEnd + day)
  -- a shift that ends before it starts ends on the next day
  else if shiftEnd < shiftStart then (shiftStart, shiftEnd + day)
  else (shiftStart, shiftEnd)

structure DayBounds where
  dayStart : ℤ
  dayEnd : ℤ
  shiftStart : ℤ
  shiftEnd : ℤ
deriving DecidableEq, Repr

/-- **The bounds of a date.** -/
def getDayBounds (policy : AttendancePolicy) (shift : Option Shift) (date : Date) : DayBounds :=
  let (shiftStart, shiftEnd) := getShiftWindows policy shift date
  if shift.any Shift.isOvernight then
    { dayStart := shiftStart - 6 * hour, dayEnd := shiftEnd + 6 * hour, shiftStart := shiftStart,
      shiftEnd := shiftEnd }
  else
    { dayStart := date.toordinal * day, dayEnd := date.toordinal * day + (day - 1),
      shiftStart := shiftStart, shiftEnd := shiftEnd }

/-- The bounds of a date under the shift of an employee. -/
def dayBoundsOf (policy : AttendancePolicy) (shifts : List Shift) (employee : Employee)
    (date : Date) : DayBounds :=
  getDayBounds policy ((getEffectiveShift shifts employee date).map
    ResolvedShiftAssignment.shift) date

/-- An instant lies in bounds. -/
def DayBounds.Contains (zone : Zone) (bounds : DayBounds) (punchAt : ℤ) : Prop :=
  zone.utc bounds.dayStart ≤ punchAt ∧ punchAt ≤ zone.utc bounds.dayEnd

instance (zone : Zone) (bounds : DayBounds) (punchAt : ℤ) :
    Decidable (bounds.Contains zone punchAt) := inferInstanceAs (Decidable (_ ∧ _))

/-! ## The time worked -/

/-- The punches of a date, in order. -/
def dayPunches (policy : AttendancePolicy) (shifts : List Shift) (employee : Employee)
    (punches : List AttendancePunch) (date : Date) : List AttendancePunch :=
  (punches.filter (fun p => (dayBoundsOf policy shifts employee date).Contains policy.timezone
    p.punchAt)).insertionSort (fun p q => p.punchAt ≤ q.punchAt)

/-- From the first check-in to the last check-out; any punch will do where there
is none. -/
def pickIntervalFromPunches : List AttendancePunch → Option ℤ × Option ℤ
  | [] => (none, none)
  | first :: rest =>
    let punches := first :: rest
    let candidates (type : AttendancePunchActionType) :=
      (punches.filter (fun p => p.actionType = type)).map AttendancePunch.punchAt
    let checkInAt := (candidates .checkIn).min?.getD first.punchAt
    let validCheckOuts := (candidates .checkOut).filter (fun t => checkInAt ≤ t)
    let checkOutAt := match validCheckOuts.max?, rest.getLast? with
      | some t, _ => some t
      | none, some last => if checkInAt < last.punchAt then some last.punchAt else none
      | none, none => none
    (some checkInAt, checkOutAt)

/-- The minutes worked on a date that nobody has overridden. -/
def workedMinutes (policy : AttendancePolicy) (shifts : List Shift) (employee : Employee)
    (punches : List AttendancePunch) (date : Date) : ℤ :=
  match pickIntervalFromPunches (dayPunches policy shifts employee punches date) with
  | (some checkInAt, some checkOutAt) => max 0 ((checkOutAt - checkInAt) / 60000000)
  | _ => 0

/-- An instant that the time worked is counted from, or up to. -/
def IsIntervalEnd (punches : List AttendancePunch) (t : ℤ) : Prop :=
  (pickIntervalFromPunches punches).1 = some t ∨ (pickIntervalFromPunches punches).2 = some t

/-! ## One punch, one day -/

section

variable (policy : AttendancePolicy) (shifts : List Shift) (employee : Employee)

/-- **A punch lies in the bounds of one date** at most. -/
def OnePunchOneDay : Prop :=
  ∀ (punchAt : ℤ) (d d' : Date),
    (dayBoundsOf policy shifts employee d).Contains policy.timezone punchAt →
    (dayBoundsOf policy shifts employee d').Contains policy.timezone punchAt → d = d'

/-- **No bound falls into an hour that the clocks skip.** -/
def BoundsOnClock : Prop :=
  ∀ d, (dayBoundsOf policy shifts employee d).dayStart ∉ policy.timezone.skipped
    ∧ (dayBoundsOf policy shifts employee d).dayEnd ∉ policy.timezone.skipped

end

/-- The shift of a date is an overnight shift. -/
def OvernightOn (shifts : List Shift) (employee : Employee) (date : Date) (shift : Shift) : Prop :=
  ∃ resolved, getEffectiveShift shifts employee date = some resolved ∧ resolved.shift = shift
    ∧ shift.isOvernight = true

/-- **The shifts keep apart.** -/
structure ShiftsKeepApart (shifts : List Shift) (employee : Employee) : Prop where
  afterNight : ∀ d d' : Date, d'.toordinal = d.toordinal + 1 →
    ∀ s, OvernightOn shifts employee d s →
      ∃ s', OvernightOn shifts employee d' s'
        ∧ s.endTime.micros + 12 * hour < s'.startTime.micros
  firstNight : ∀ d d' : Date, d'.toordinal = d.toordinal + 1 →
    ∀ s', OvernightOn shifts employee d' s' → (∀ s, ¬ OvernightOn shifts employee d s) →
      6 * hour ≤ s'.startTime.micros

section

variable {policy : AttendancePolicy} {shifts : List Shift} {employee : Employee} {d d' : Date}
  {s s' : Shift}

/-- The bounds under an overnight shift. -/
theorem dayBoundsOf_overnight (policy : AttendancePolicy) (h : OvernightOn shifts employee d s) :
    (dayBoundsOf policy shifts employee d).dayStart
        = d.toordinal * day + s.startTime.micros - 6 * hour
      ∧ (dayBoundsOf policy shifts employee d).dayEnd
        = d.toordinal * day + s.endTime.micros + day + 6 * hour := by
  obtain ⟨resolved, hresolved, rfl, hovernight⟩ := h
  unfold dayBoundsOf getDayBounds getShiftWindows combine
  rw [hresolved]
  simp [hovernight]

/-- The bounds of the other dates: from midnight to midnight. -/
theorem dayBoundsOf_day (policy : AttendancePolicy) (h : ∀ s, ¬ OvernightOn shifts employee d s) :
    (dayBoundsOf policy shifts employee d).dayStart = d.toordinal * day
      ∧ (dayBoundsOf policy shifts employee d).dayEnd = d.toordinal * day + (day - 1) := by
  have hnot : ((getEffectiveShift shifts employee d).map ResolvedShiftAssignment.shift).any
      Shift.isOvernight = false := by
    cases hshift : getEffectiveShift shifts employee d with
    | none => rfl
    | some resolved =>
      refine Bool.eq_false_iff.mpr (fun hovernight => h resolved.shift ?_)
      exact ⟨resolved, hshift, rfl, hovernight⟩
  unfold dayBoundsOf getDayBounds
  simp [hnot]

/-- Every date has a shift that is overnight, or none. -/
theorem overnight_or_day (shifts : List Shift) (employee : Employee) (d : Date) :
    (∃ s, OvernightOn shifts employee d s) ∨ ∀ s, ¬ OvernightOn shifts employee d s := by
  by_cases h : ∃ s, OvernightOn shifts employee d s
  · exact Or.inl h
  · exact Or.inr (fun s hs => h ⟨s, hs⟩)

/-- The first bound of a date is not after the second one. -/
theorem dayStart_le_dayEnd (policy : AttendancePolicy) (shifts : List Shift) (employee : Employee)
    (d : Date) :
    (dayBoundsOf policy shifts employee d).dayStart
      ≤ (dayBoundsOf policy shifts employee d).dayEnd := by
  rcases overnight_or_day shifts employee d with ⟨s, hs⟩ | hnone
  · obtain ⟨hstart, hend⟩ := dayBoundsOf_overnight policy hs
    have := s.startTime.valid
    have := s.endTime.valid
    rw [hstart, hend]
    unfold hour day at *
    omega
  · obtain ⟨hstart, hend⟩ := dayBoundsOf_day policy hnone
    rw [hstart, hend]
    unfold day
    omega

/-- The bounds of a date begin six hours before its midnight at the earliest, and
before eighteen o'clock. -/
theorem dayStart_window (policy : AttendancePolicy) (shifts : List Shift) (employee : Employee)
    (d : Date) :
    (d.toordinal : ℤ) * day - 6 * hour ≤ (dayBoundsOf policy shifts employee d).dayStart
      ∧ (dayBoundsOf policy shifts employee d).dayStart < d.toordinal * day + 18 * hour := by
  rcases overnight_or_day shifts employee d with ⟨s, hs⟩ | hnone
  · have := s.startTime.valid
    rw [(dayBoundsOf_overnight policy hs).1]
    unfold hour day at *
    omega
  · rw [(dayBoundsOf_day policy hnone).1]
    unfold hour day
    omega

/-- The bounds of dates begin in the order of the dates. -/
theorem dayStart_lt_dayStart (policy : AttendancePolicy) (shifts : List Shift)
    (employee : Employee) (hlt : d < d') :
    (dayBoundsOf policy shifts employee d).dayStart
      < (dayBoundsOf policy shifts employee d').dayStart := by
  have hlater : d.toordinal < d'.toordinal := hlt
  have hbefore := (dayStart_window policy shifts employee d).2
  have hafter := (dayStart_window policy shifts employee d').1
  unfold hour day at *
  omega

/-- **Shifts that keep apart** end before the bounds of every later date. -/
theorem ShiftsKeepApart.dayEnd_lt_dayStart (h : ShiftsKeepApart shifts employee)
    (policy : AttendancePolicy) (hlt : d < d') :
    (dayBoundsOf policy shifts employee d).dayEnd
      < (dayBoundsOf policy shifts employee d').dayStart := by
  obtain ⟨next, hnext⟩ := Date.exists_nextDay hlt
  have hone := Date.toordinal_nextDay hnext
  have hlater : d.toordinal < d'.toordinal := hlt
  have hstart := (dayStart_window policy shifts employee d').1
  rcases overnight_or_day shifts employee d with ⟨s, hs⟩ | hnone
  · obtain ⟨s', hs', hapart⟩ := h.afterNight d next hone s hs
    have := s'.startTime.valid
    rw [(dayBoundsOf_overnight policy hs).2]
    by_cases hadjacent : d'.toordinal = d.toordinal + 1
    · obtain rfl : next = d' := Date.toordinal_injective (hone.trans hadjacent.symm)
      rw [(dayBoundsOf_overnight policy hs').1, hadjacent]
      unfold hour day at *
      push_cast
      omega
    · unfold hour day at *
      omega
  · rw [(dayBoundsOf_day policy hnone).2]
    by_cases hadjacent : d'.toordinal = d.toordinal + 1
    · rcases overnight_or_day shifts employee d' with ⟨s', hs'⟩ | hnone'
      · have := h.firstNight d d' hadjacent s' hs' hnone
        rw [(dayBoundsOf_overnight policy hs').1, hadjacent]
        unfold hour day at *
        push_cast
        omega
      · rw [(dayBoundsOf_day policy hnone').1, hadjacent]
        unfold day
        push_cast
        omega
    · unfold hour day at *
      omega

/-- The bounds of dates are in the order of their instants. -/
theorem BoundsOnClock.utc_lt (hclock : BoundsOnClock policy shifts employee)
    (h : (dayBoundsOf policy shifts employee d).dayEnd
      < (dayBoundsOf policy shifts employee d').dayStart) :
    policy.timezone.utc (dayBoundsOf policy shifts employee d).dayEnd
      < policy.timezone.utc (dayBoundsOf policy shifts employee d').dayStart :=
  policy.timezone.ordered (hclock d).2 (hclock d').1 h

/-- **Punches that belong to one date** keep the bounds of two dates apart. -/
theorem OnePunchOneDay.apart (h : OnePunchOneDay policy shifts employee)
    (hclock : BoundsOnClock policy shifts employee) (hlt : d < d') :
    (dayBoundsOf policy shifts employee d).dayEnd
      < (dayBoundsOf policy shifts employee d').dayStart := by
  have hordered := policy.timezone.ordered.monotoneOn
  by_contra hmeet
  -- where the later date begins, a punch belongs to both
  refine hlt.ne (h (policy.timezone.utc (dayBoundsOf policy shifts employee d').dayStart) d d'
    ⟨?_, ?_⟩ ⟨le_rfl, ?_⟩)
  · exact hordered (hclock d).1 (hclock d').1
      (dayStart_lt_dayStart policy shifts employee hlt).le
  · exact hordered (hclock d').1 (hclock d).2 (not_lt.mp hmeet)
  · exact hordered (hclock d').1 (hclock d').2 (dayStart_le_dayEnd policy shifts employee d')

/-- **The interval of a date** goes from one of its punches to one of its punches. -/
theorem IsIntervalEnd.exists_punch {punches : List AttendancePunch} {t : ℤ}
    (h : IsIntervalEnd punches t) : ∃ p ∈ punches, p.punchAt = t := by
  unfold IsIntervalEnd pickIntervalFromPunches at h
  split at h
  · simp at h
  · rename_i first rest
    have hcandidate : ∀ type, ∀ t ∈ ((first :: rest).filter (fun p => p.actionType = type)).map
        AttendancePunch.punchAt, ∃ p ∈ first :: rest, p.punchAt = t := by
      intro type t ht
      obtain ⟨p, hp, rfl⟩ := List.mem_map.mp ht
      exact ⟨p, (List.mem_filter.mp hp).1, rfl⟩
    dsimp only at h
    rcases h with hin | hout
    · -- the first check-in, or else the first punch
      rw [Option.some_inj] at hin
      cases hmin : (((first :: rest).filter (fun p => p.actionType = .checkIn)).map
          AttendancePunch.punchAt).min? with
      | none =>
        rw [hmin] at hin
        exact ⟨first, List.mem_cons_self, hin⟩
      | some earliest =>
        rw [hmin] at hin
        exact hcandidate .checkIn t (hin ▸ List.min?_mem hmin)
    · split at hout
      · rename_i latest _ hmax
        rw [Option.some_inj] at hout
        exact hcandidate .checkOut t (List.mem_of_mem_filter (hout ▸ List.max?_mem hmax))
      · rename_i last _ hlast
        split_ifs at hout
        exact ⟨last, List.mem_cons_of_mem _ (List.mem_of_getLast? hlast),
          Option.some_inj.mp hout⟩
      · cases hout

/-- **A punch counts for one date**: the intervals of two dates share no end. -/
theorem OnePunchOneDay.isIntervalEnd (h : OnePunchOneDay policy shifts employee)
    {punches : List AttendancePunch} {t : ℤ}
    (ht : IsIntervalEnd (dayPunches policy shifts employee punches d) t)
    (ht' : IsIntervalEnd (dayPunches policy shifts employee punches d') t) : d = d' := by
  obtain ⟨p, hp, rfl⟩ := ht.exists_punch
  obtain ⟨q, hq, hsame⟩ := ht'.exists_punch
  unfold dayPunches at hp hq
  rw [List.mem_insertionSort, List.mem_filter, decide_eq_true_iff] at hp hq
  exact h p.punchAt d d' hp.2 (hsame ▸ hq.2)

end

/-- **A punch belongs to one date** exactly when the shifts keep apart. -/
theorem onePunchOneDay_iff (policy : AttendancePolicy) (shifts : List Shift) (employee : Employee)
    (hclock : BoundsOnClock policy shifts employee) :
    OnePunchOneDay policy shifts employee ↔ ShiftsKeepApart shifts employee := by
  constructor
  · intro h
    constructor
    · intro d d' hadjacent s hs
      have hapart := h.apart hclock (Nat.lt_of_succ_le hadjacent.ge)
      have := s.endTime.valid
      rw [(dayBoundsOf_overnight policy hs).2] at hapart
      rcases overnight_or_day shifts employee d' with ⟨s', hs'⟩ | hnone
      · refine ⟨s', hs', ?_⟩
        rw [(dayBoundsOf_overnight policy hs').1, hadjacent] at hapart
        unfold hour day at *
        push_cast at hapart
        omega
      · -- the day after the night has begun six hours before its bounds end
        rw [(dayBoundsOf_day policy hnone).1, hadjacent] at hapart
        unfold hour day at *
        push_cast at hapart
        omega
    · intro d d' hadjacent s' hs' hnone
      have hapart := h.apart hclock (Nat.lt_of_succ_le hadjacent.ge)
      rw [(dayBoundsOf_day policy hnone).2, (dayBoundsOf_overnight policy hs').1,
        hadjacent] at hapart
      unfold hour day at *
      push_cast at hapart
      omega
  · intro h punchAt d d' hpunch hpunch'
    rcases lt_trichotomy d d' with hlt | heq | hlt
    · have := hclock.utc_lt (h.dayEnd_lt_dayStart policy hlt)
      exact absurd (hpunch.2.trans_lt (this.trans_le hpunch'.1)) (lt_irrefl _)
    · exact heq
    · have := hclock.utc_lt (h.dayEnd_lt_dayStart policy hlt)
      exact absurd (hpunch'.2.trans_lt (this.trans_le hpunch.1)) (lt_irrefl _)

/-! ## A night before a day -/

namespace Sample

/-- A zone five hours and a half ahead, whose clocks skip nothing. -/
def kolkata : Zone where
  utc local' := local' - 19800000000
  skipped := ∅
  ordered := fun _ _ _ _ h => Int.sub_lt_sub_right h _

def policy : AttendancePolicy where
  timezone := kolkata
  defaultStartTime := .ofHours 9
  defaultEndTime := .ofHours 18

def night : Shift where
  id := 1
  organisation := 1
  startTime := .ofHours 22
  endTime := .ofHours 6
  isOvernight := true
  isActive := true

/-- The night of the sixth of May. -/
def employee : Employee where
  organisation := 1
  shiftAssignments := [
    { id := 1, organisation := 1, startDate := ⟨2026, 5, 6, isDate_2026_05_06⟩,
      endDate := some ⟨2026, 5, 6, isDate_2026_05_06⟩, isActive := true, createdAt := 0,
      shift := night }]
  shiftRotationAssignments := []

/-- A punch of a device, at an hour of the sixth of May. -/
def punch (h : ℤ) : AttendancePunch where
  punchAt := kolkata.utc (combine ⟨2026, 5, 6, isDate_2026_05_06⟩ (.ofHours 0 midnight) + h * hour)
  actionType := .raw

end Sample

open Sample

theorem onePunchOneDay_iff_sample :
    OnePunchOneDay policy [night] employee ↔ ShiftsKeepApart [night] employee :=
  onePunchOneDay_iff policy [night] employee (fun _ => ⟨Set.notMem_empty _, Set.notMem_empty _⟩)

/-- **The punch after a night** at six o'clock is the last one of the night, eight
hours of work, and the first one of the next day, twelve hours of work. -/
theorem checkOut_counts_twice :
    workedMinutes policy [night] employee [punch 22, punch 30, punch 42]
        ⟨2026, 5, 6, by decide⟩ = 8 * 60
      ∧ workedMinutes policy [night] employee [punch 22, punch 30, punch 42]
        ⟨2026, 5, 7, by decide⟩ = 12 * 60
      ∧ ¬ OnePunchOneDay policy [night] employee := by
  refine ⟨by decide +kernel, by decide +kernel, fun h => ?_⟩
  have := h (punch 30).punchAt ⟨2026, 5, 6, by decide⟩ ⟨2026, 5, 7, by decide⟩
    (by decide +kernel) (by decide +kernel)
  exact absurd this (by decide)

end Attendance
