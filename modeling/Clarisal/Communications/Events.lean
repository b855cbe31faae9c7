import Clarisal.Lib.Numeral
import Clarisal.Lib.Yearly
import Clarisal.Employees.OrgChart

/-!
# Birthdays and work anniversaries

The dashboard lists the birthdays and the work anniversaries of the active coworkers in the
next 31 days. Each stored date is moved into the year of today, and listed when it is then in
the window.

A date in January is over when it is moved into the year that ends. So from December on it is
missed, though it may be tomorrow; and 29 February cannot be moved into an ordinary year at all,
an error that leaves everybody without a list (`leap_day_and_january`). All other dates are listed
as they should be, in whatever way 29 February is observed (`events_upcoming_iff`).
-/

open Calendar OrgChart
open Approvals (EmployeeId)

namespace Communications

inductive EventKind
  | birthday | workAnniversary
deriving DecidableEq, Repr

/-- A date of a coworker. -/
structure Event where
  kind : EventKind
  label : String
  date : Date
deriving DecidableEq

/-- A row of the response. -/
structure EventEntry where
  kind : EventKind
  label : String
  date : String
deriving DecidableEq, Repr

structure EmployeeProfile where
  dateOfBirth : Option Date
deriving DecidableEq

/-- `date.isoformat`. -/
def isoformat (d : Date) : String :=
  String.ofList (zeroPad 4 d.year ++ '-' :: (zeroPad 2 d.month ++ '-' :: zeroPad 2 d.day))

def Event.entry (event : Event) : EventEntry where
  kind := event.kind
  label := event.label
  date := isoformat event.date

/-! ## The list -/

section

variable (profiles : EmployeeId → Option EmployeeProfile) (t : StaffTables) (employee : Employee)
  (today windowEnd : Date)

def birthDate (coworker : Employee) : Option Date :=
  (profiles coworker.id).bind EmployeeProfile.dateOfBirth

/-- The active employees of the organisation. -/
def coworkers : List Employee :=
  t.objects.filter (fun e => e.organisation = employee.organisation ∧ e.status = .active)

/-- A stored date, moved into the year of today. -/
def addEvent (entries : List EventEntry) (stored : Event) : Except String (List EventEntry) :=
  match stored.date.replaceYear today.year with
  | none => .error "day is out of range for month"
  | some eventDate =>
    .ok (if today ≤ eventDate ∧ eventDate ≤ windowEnd then
      entries ++ [{ kind := stored.kind, label := stored.label, date := isoformat eventDate }]
    else entries)

def addCoworker (entries : List EventEntry) (coworker : Employee) :
    Except String (List EventEntry) := do
  let entries ← match birthDate profiles coworker with
    | none => .ok entries
    | some date => addEvent today windowEnd entries ⟨.birthday, coworker.fullName, date⟩
  match coworker.dateOfJoining with
    | none => .ok entries
    | some date => addEvent today windowEnd entries ⟨.workAnniversary, coworker.fullName, date⟩

/-- `get_employee_events`. -/
def getEmployeeEvents : Except String (List EventEntry) :=
  match today.addDays 31 with
  | none => .error "date value out of range"
  | some windowEnd => do
    let entries ← (coworkers t employee).foldlM (addCoworker profiles today windowEnd) []
    return entries.insertionSort (fun e e' => e.date ≤ e'.date)

/-! ## What is to be listed -/

/-- The dates of a coworker. -/
def datesOf (coworker : Employee) : List Event :=
  (birthDate profiles coworker).toList.map (⟨.birthday, coworker.fullName, ·⟩)
    ++ coworker.dateOfJoining.toList.map (⟨.workAnniversary, coworker.fullName, ·⟩)

/-- **The birthdays and the work anniversaries** of the coworkers. -/
def anniversaries : List Event := (coworkers t employee).flatMap (datesOf profiles)

/-- The next occurrence, when it is at most 31 days away. -/
def Event.upcoming (rule : LeapDayRule) (today : Date) (stored : Event) : Option Event :=
  ((stored.date.nextOccurrence rule today).filter
    (fun x => x.toordinal ≤ today.toordinal + 31)).map (fun x => { stored with date := x })

/-- **The list is right**: it returns one entry for each upcoming day, sorted by date. -/
def ListsUpcoming (rule : LeapDayRule) : Prop :=
  ∃ events : List Event,
    events.Perm ((anniversaries profiles t employee).filterMap (Event.upcoming rule today))
      ∧ events.Pairwise (fun a b => a.date ≤ b.date)
      ∧ getEmployeeEvents profiles t employee today = .ok (events.map Event.entry)

/-- The date has no day in the year of today: 29 February in an ordinary year. -/
def HasNoDay (today d : Date) : Prop := d.month = 2 ∧ d.day = 29 ∧ isLeap today.year = false

/-- It is December, and the date is in January, on no later day of the month. -/
def TurnsTheYear (today d : Date) : Prop := today.month = 12 ∧ d.month = 1 ∧ d.day ≤ today.day

end

/-! ## The texts of dates -/

theorem isoformat_lt {x y : Date} (h : x < y) : isoformat x < isoformat y := by
  obtain ⟨-, hyear, -, hmonth, -, hday⟩ := y.valid
  have hday : y.day < 10 ^ 2 := by
    have : daysInMonth y.year y.month ≤ 31 := by
      unfold daysInMonth
      split_ifs <;> decide
    omega
  have hlength {w : ℕ} {m n : ℕ} (hw : 0 < w) (hmn : m < n) (hn : n < 10 ^ w) :
      (zeroPad w m).length = (zeroPad w n).length := by
    rw [length_zeroPad hw (hmn.trans hn), length_zeroPad hw hn]
  rw [isoformat, isoformat, String.lt_iff_toList_lt, String.toList_ofList, String.toList_ofList]
  have hfields := fun hle => not_le.mpr h (Date.le_iff_fields.mpr hle)
  rcases lt_trichotomy x.year y.year with hlt | heq | hgt
  · exact append_lt_append_of_length (hlength (by decide) hlt (by omega))
      (zeroPad_lt_zeroPad (by decide) hlt (by omega)) _ _
  · rw [heq]
    refine List.append_left_lt (List.cons_lt_cons_iff.mpr (Or.inr ⟨rfl, ?_⟩))
    rcases lt_trichotomy x.month y.month with hlt | heq' | hgt
    · exact append_lt_append_of_length (hlength (by decide) hlt (by omega))
        (zeroPad_lt_zeroPad (by decide) hlt (by omega)) _ _
    · rw [heq']
      refine List.append_left_lt (List.cons_lt_cons_iff.mpr (Or.inr ⟨rfl, ?_⟩))
      refine zeroPad_lt_zeroPad (by decide) ?_ hday
      by_contra hge
      exact hfields (Or.inr ⟨heq.symm, Or.inr ⟨heq'.symm, not_lt.mp hge⟩⟩)
    · exact absurd (Or.inr ⟨heq.symm, Or.inl hgt⟩) hfields
  · exact absurd (Or.inl hgt) hfields

/-- **The order of the texts is that of the dates.** -/
theorem isoformat_le_iff {x y : Date} : isoformat x ≤ isoformat y ↔ x ≤ y := by
  constructor
  · intro h
    by_contra hlt
    exact not_lt.mpr h (isoformat_lt (not_le.mp hlt))
  · intro h
    rcases h.lt_or_eq with hlt | rfl
    · exact (isoformat_lt hlt).le
    · exact le_rfl

/-! ## The loop -/

/-- A date that is in the window this year. -/
def Event.thisYear (today windowEnd : Date) (stored : Event) : Option Event :=
  ((stored.date.replaceYear today.year).filter (fun x => today ≤ x ∧ x ≤ windowEnd)).map
    (fun x => { stored with date := x })

section

variable {profiles : EmployeeId → Option EmployeeProfile} {t : StaffTables} {employee : Employee}
  {today windowEnd : Date} {rule : LeapDayRule} {stored : Event}

theorem addEvent_eq_ok_iff {entries entries' : List EventEntry} :
    addEvent today windowEnd entries stored = .ok entries'
      ↔ (∃ x, stored.date.replaceYear today.year = some x)
        ∧ entries' = entries ++ ((stored.thisYear today windowEnd).map Event.entry).toList := by
  unfold addEvent Event.thisYear
  cases stored.date.replaceYear today.year with
  | none => simp
  | some x =>
    by_cases hwindow : today ≤ x ∧ x ≤ windowEnd
    · simp [hwindow, Option.filter, Event.entry, eq_comm]
    · simp [hwindow, Option.filter, eq_comm]

/-- A coworker's dates are added one after the other. -/
theorem addCoworker_eq (coworker : Employee) (entries : List EventEntry) :
    addCoworker profiles today windowEnd entries coworker
      = (datesOf profiles coworker).foldlM (addEvent today windowEnd) entries := by
  unfold addCoworker datesOf
  rw [List.foldlM_append]
  cases birthDate profiles coworker with
  | none =>
    cases coworker.dateOfJoining with
    | none => rfl
    | some joined => exact (bind_pure _).symm
  | some born =>
    cases coworker.dateOfJoining with
    | none => exact (bind_pure _).symm
    | some joined => 
      simp only [Option.toList_some, List.map_cons, List.map_nil, List.foldlM_cons,
        List.foldlM_nil, bind_pure]

theorem foldlM_addCoworker (es : List Employee) (entries : List EventEntry) :
    es.foldlM (addCoworker profiles today windowEnd) entries
      = (es.flatMap (datesOf profiles)).foldlM (addEvent today windowEnd) entries := by
  induction es generalizing entries with
  | nil => rfl
  | cons e es ih =>
    rw [List.foldlM_cons, List.flatMap_cons, List.foldlM_append, addCoworker_eq]
    simp only [ih]

/-- **The loop**: every date has a day in the year, and those in the window are added. -/
theorem foldlM_addEvent_eq_ok_iff {l : List Event} {entries entries' : List EventEntry} :
    l.foldlM (addEvent today windowEnd) entries = .ok entries'
      ↔ (∀ a ∈ l, ∃ x, a.date.replaceYear today.year = some x)
        ∧ entries' = entries ++ (l.filterMap (Event.thisYear today windowEnd)).map Event.entry := by
  induction l generalizing entries with
  | nil => simp [pure, Except.pure, eq_comm]
  | cons a l ih =>
    have hcons : ((a :: l).filterMap (Event.thisYear today windowEnd)).map Event.entry
        = ((a.thisYear today windowEnd).map Event.entry).toList
          ++ (l.filterMap (Event.thisYear today windowEnd)).map Event.entry := by
      cases h : a.thisYear today windowEnd <;> simp [h]
    rw [List.foldlM_cons, Transaction.bind_eq_ok_iff, List.forall_mem_cons, hcons,
      ← List.append_assoc]
    constructor
    · rintro ⟨mid, hmid, hrest⟩
      obtain ⟨ha, rfl⟩ := addEvent_eq_ok_iff.mp hmid
      obtain ⟨hl, rfl⟩ := ih.mp hrest
      exact ⟨⟨ha, hl⟩, rfl⟩
    · rintro ⟨⟨ha, hl⟩, rfl⟩
      exact ⟨_, addEvent_eq_ok_iff.mpr ⟨ha, rfl⟩, ih.mpr ⟨hl, rfl⟩⟩

/-- What is returned: the dates of the window, in the order of their texts. -/
theorem getEmployeeEvents_eq_ok_iff {entries : List EventEntry} :
    getEmployeeEvents profiles t employee today = .ok entries
      ↔ ∃ windowEnd, today.addDays 31 = some windowEnd
        ∧ (∀ a ∈ anniversaries profiles t employee, ∃ x, a.date.replaceYear today.year = some x)
        ∧ entries = (((anniversaries profiles t employee).filterMap
            (Event.thisYear today windowEnd)).insertionSort
              (fun a b => a.date ≤ b.date)).map Event.entry := by
  have hsort (events : List Event) : (events.map Event.entry).insertionSort
      (fun e e' => e.date ≤ e'.date)
        = (events.insertionSort (fun a b => a.date ≤ b.date)).map Event.entry :=
    (List.map_insertionSort _ _ Event.entry events fun _ _ _ _ => isoformat_le_iff.symm).symm
  unfold getEmployeeEvents
  cases today.addDays 31 with
  | none => simp
  | some windowEnd =>
    simp only [foldlM_addCoworker, Transaction.bind_eq_ok_iff, Transaction.pure_eq_ok_iff,
      foldlM_addEvent_eq_ok_iff, Option.some.injEq, exists_eq_left']
    constructor
    · rintro ⟨_, ⟨hday, rfl⟩, rfl⟩
      exact ⟨hday, hsort _⟩
    · rintro ⟨hday, rfl⟩
      exact ⟨_, ⟨hday, rfl⟩, hsort _⟩

/-! ## One date -/

/-- **What is upcoming**: the first day to come, in the next 31 days. -/
theorem Event.upcoming_eq_some_iff {event : Event} :
    stored.upcoming rule today = some event
      ↔ ∃ x, IsLeast {y | stored.date.Recurs rule y ∧ today ≤ y} x
        ∧ x.toordinal ≤ today.toordinal + 31 ∧ { stored with date := x } = event := by
  simp [Event.upcoming, Option.filter_eq_some_iff, Date.nextOccurrence_eq_some_iff, and_assoc]

/-- Where the window reaches. -/
theorem le_windowEnd_iff (hwindow : today.addDays 31 = some windowEnd) (x : Date) :
    x ≤ windowEnd ↔ x.toordinal ≤ today.toordinal + 31 := by
  rw [Date.le_iff, Date.toordinal_addDays hwindow]

/-- **In the window this year** means upcoming. -/
theorem upcoming_of_thisYear (hwindow : today.addDays 31 = some windowEnd) {event : Event}
    (h : stored.thisYear today windowEnd = some event) :
    stored.upcoming rule today = some event := by
  unfold Event.thisYear at h
  obtain ⟨x, hx, rfl⟩ := Option.map_eq_some_iff.mp h
  obtain ⟨hsame, hin⟩ := Option.filter_eq_some_iff.mp hx
  obtain ⟨hle, hend⟩ := of_decide_eq_true hin
  have hin := (le_windowEnd_iff hwindow x).mp hend
  unfold Event.upcoming
  rw [Date.nextOccurrence_of_le hsame hle, Option.filter_some, if_pos (decide_eq_true hin)]
  rfl

/-- The next year's day is upcoming where the year turns, and nowhere else. -/
theorem upcoming_nextYear_iff {next : Date}
    (hnext : stored.date.observed rule (today.year + 1) = some next) :
    next.toordinal ≤ today.toordinal + 31 ↔ TurnsTheYear today stored.date := by
  obtain ⟨hyear, hfields⟩ := Date.observed_eq_some hnext
  rw [Date.toordinal_le_add_31_iff hyear]
  unfold TurnsTheYear
  rcases hfields with ⟨hmonth, hday⟩ | ⟨hfebruary, hmonth⟩
  · rw [hmonth, hday]
  · refine iff_of_false ?_ ?_ <;> rintro ⟨-, hjanuary, -⟩ <;> omega

/-- **What is upcoming is in the window this year**, unless the year turns. -/
theorem thisYear_of_upcoming (hwindow : today.addDays 31 = some windowEnd)
    (hday : ∃ x, stored.date.replaceYear today.year = some x)
    (hturn : ¬ TurnsTheYear today stored.date) :
    stored.upcoming rule today = stored.thisYear today windowEnd := by
  cases hthis : stored.thisYear today windowEnd with
  | some event => exact upcoming_of_thisYear hwindow hthis
  | none =>
    obtain ⟨x, hx⟩ := hday
    rw [Event.thisYear, hx, Option.map_eq_none_iff, Option.filter_some] at hthis
    rw [Event.upcoming, Option.map_eq_none_iff, Option.filter_eq_none_iff]
    intro next hnext hin
    have hin := of_decide_eq_true hin
    rcases lt_or_ge x today with hover | hle
    · rw [Date.nextOccurrence_of_lt hx hover] at hnext
      exact hturn ((upcoming_nextYear_iff hnext).mp hin)
    · obtain rfl := Option.some.inj (hnext.symm.trans (Date.nextOccurrence_of_le hx hle))
      have hend := (le_windowEnd_iff hwindow next).mpr hin
      simp [hle, hend] at hthis

/-- **Where the year turns**, an upcoming day is not in the window this year. -/
theorem missed_of_turnsTheYear (rule : LeapDayRule)
    (hwindow : today.addDays 31 = some windowEnd)
    (hturn : TurnsTheYear today stored.date) :
    (stored.upcoming rule today).isSome ∧ stored.thisYear today windowEnd = none := by
  obtain ⟨hdecember, hjanuary, hdayle⟩ := hturn
  obtain ⟨x, hx⟩ := (Date.exists_replaceYear_iff (d := stored.date) today.valid.1
    today.valid.2.1).mpr (by omega)
  have hover : x < today := by
    obtain ⟨hyear, hmonth, -⟩ := Date.replaceYear_eq_some.mp hx
    exact Date.lt_iff.mpr (Date.toordinal_lt_of_month hyear (by omega))
  have hlast := Date.exists_addDays_31_iff.mp ⟨windowEnd, hwindow⟩
  obtain ⟨next, hnext⟩ : ∃ next, stored.date.observed rule (today.year + 1) = some next := by
    have := today.valid.2.1
    exact Date.exists_observed (by omega) (by omega)
  have hin := (upcoming_nextYear_iff hnext).mpr ⟨hdecember, hjanuary, hdayle⟩
  constructor
  · rw [Event.upcoming, Date.nextOccurrence_of_lt hx hover, hnext, Option.filter_some,
      if_pos (decide_eq_true hin)]
    rfl
  · rw [Event.thisYear, hx, Option.filter_some,
      if_neg (by simpa using fun hle => absurd hover (not_lt.mpr hle))]
    rfl

end

/-! ## All dates -/

/-- **The list of birthdays and work anniversaries.** -/
theorem events_upcoming_iff (rule : LeapDayRule) (profiles : EmployeeId → Option EmployeeProfile)
    (t : StaffTables) (employee : Employee) (today : Date) :
    ListsUpcoming profiles t employee today rule
      ↔ ¬ (today.year = 9999 ∧ today.month = 12)
        ∧ ∀ a ∈ anniversaries profiles t employee,
            ¬ HasNoDay today a.date ∧ ¬ TurnsTheYear today a.date := by
  have hdays (a : Event) : (∃ x, a.date.replaceYear today.year = some x)
      ↔ ¬ HasNoDay today a.date :=
    Date.exists_replaceYear_iff today.valid.1 today.valid.2.1
  rw [← Date.exists_addDays_31_iff]
  constructor
  · rintro ⟨events, hperm, -, hok⟩
    obtain ⟨windowEnd, hwindow, hday, hentries⟩ := getEmployeeEvents_eq_ok_iff.mp hok
    refine ⟨⟨windowEnd, hwindow⟩, fun a ha => ⟨(hdays a).mp (hday a ha), fun hturn => ?_⟩⟩
    -- as many dates are upcoming as are in the window this year
    have hlength := congrArg List.length hentries
    rw [List.length_map, List.length_map, hperm.length_eq, List.length_insertionSort,
      List.length_filterMap_eq_countP, List.length_filterMap_eq_countP,
      List.countP_eq_length_filter, List.countP_eq_length_filter] at hlength
    have hsub := List.monotone_filter_right (anniversaries profiles t employee)
      (p := fun b => (b.thisYear today windowEnd).isSome)
      (q := fun b => (b.upcoming rule today).isSome) fun b hb => by
        obtain ⟨event, hevent⟩ := Option.isSome_iff_exists.mp hb
        exact Option.isSome_iff_exists.mpr ⟨event, upcoming_of_thisYear hwindow hevent⟩
    have hsame := hsub.eq_of_length hlength.symm
    obtain ⟨hupcoming, hmissed⟩ := missed_of_turnsTheYear rule hwindow hturn
    have hmem : a ∈ (anniversaries profiles t employee).filter
        (fun b => (b.thisYear today windowEnd).isSome) :=
      hsame ▸ List.mem_filter.mpr ⟨ha, hupcoming⟩
    rw [List.mem_filter, hmissed] at hmem
    exact absurd hmem.2 Bool.false_ne_true
  · rintro ⟨⟨windowEnd, hwindow⟩, hsafe⟩
    have hsame : (anniversaries profiles t employee).filterMap (Event.upcoming rule today)
        = (anniversaries profiles t employee).filterMap (Event.thisYear today windowEnd) :=
      List.filterMap_congr fun a ha =>
        thisYear_of_upcoming hwindow ((hdays a).mpr (hsafe a ha).1) (hsafe a ha).2
    rw [ListsUpcoming, hsame]
    exact ⟨_, List.perm_insertionSort _ _, List.pairwise_insertionSort _ _,
      getEmployeeEvents_eq_ok_iff.mpr
        ⟨windowEnd, hwindow, fun a ha => (hdays a).mpr (hsafe a ha).1, rfl⟩⟩

/-! ## A leap day, and a day in January -/

namespace Sample

/-- The birth date of employee 1. -/
def bornOn (date : Date) (id : EmployeeId) : Option EmployeeProfile :=
  if id = 1 then some { dateOfBirth := some date } else none

theorem isDate_2000_02_29 : IsDate 2000 2 29 := by decide
theorem isDate_1990_01_05 : IsDate 1990 1 5 := by decide
theorem isDate_2026_12_20 : IsDate 2026 12 20 := by decide

def leapDay : Date := ⟨2000, 2, 29, isDate_2000_02_29⟩
def january : Date := ⟨1990, 1, 5, isDate_1990_01_05⟩
def spring : Date := ⟨2026, 5, 1, isDate_2026_05_01⟩
def december : Date := ⟨2026, 12, 20, isDate_2026_12_20⟩

/-- Who asks. -/
def asker : Employee := OrgChart.Sample.employee 2 .active

end Sample

open Sample

/-- **A coworker born on 29 February** is an error for everybody in an ordinary year, and one
born on 5 January is missed on 20 December, with 16 days to go. -/
theorem leap_day_and_january :
    (∀ rule, ¬ ListsUpcoming (bornOn leapDay) OrgChart.Sample.pending asker spring rule)
      ∧ ∀ rule, ¬ ListsUpcoming (bornOn january) OrgChart.Sample.pending asker december rule := by
  have hraises : getEmployeeEvents (bornOn leapDay) OrgChart.Sample.pending asker spring
      = .error "day is out of range for month" := rfl
  have hmisses : getEmployeeEvents (bornOn january) OrgChart.Sample.pending asker december
      = .ok [] := rfl
  constructor
  · rintro rule ⟨events, -, -, hok⟩
    rw [hraises] at hok
    cases hok
  · rintro rule ⟨events, hperm, -, hok⟩
    rw [hmisses] at hok
    obtain rfl := List.map_eq_nil_iff.mp (Except.ok.inj hok).symm
    have hlength := hperm.length_eq
    cases rule <;> exact absurd hlength (by decide)

end Communications
