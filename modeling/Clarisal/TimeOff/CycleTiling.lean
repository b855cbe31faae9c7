import Clarisal.TimeOff.Cycle

/-!
# When cycles tile time

A cycle's window should hold the date it is asked for, be the window of every date in it, and
be followed by another. It does so wherever its month and day are a day of every year and the
calendar has room for the windows around (`tilesAt_iff`).

The month and the day a plan may be given are checked on their own, so 31 April and
30 February pass, and then no date has a window. 29 February passes too, as does the joining
date of whoever joined on one: the window needs two consecutive years with that day, and there
are none, so leave cannot be computed for these employees even in a leap year.
-/

open Calendar

namespace TimeOff

variable {month day : ℕ} {x y : Date} {w v : Date × Date}

/-- **The cycle tiles time at a date**: its window holds the date, is that of all its dates,
and the day after it starts another. -/
def TilesAt (cycle : LeaveCycle) (employee : Employee) (asOf : Date) : Prop :=
  ∃ w, getCycleWindow cycle employee asOf = .ok w
    ∧ (w.1 ≤ asOf ∧ asOf ≤ w.2)
    ∧ (∀ x, w.1 ≤ x → x ≤ w.2 → getCycleWindow cycle employee x = .ok w)
    ∧ ∃ next v, w.2.nextDay = some next ∧ getCycleWindow cycle employee next = .ok v
      ∧ v.1 = next

/-! ## Anniversaries -/

/-- A day of every year: it exists in the common ones. -/
def IsEveryYear (month day : ℕ) : Prop := IsDate 1 month day

/-- The months of a common year. -/
theorem daysInMonth_of_common {n : ℕ} (h : isLeap n = false) (m : ℕ) :
    daysInMonth n m = daysInMonth 1 m := by
  have hone : isLeap 1 = false := rfl
  unfold daysInMonth
  rw [h, hone]

/-- The months of any year are no shorter. -/
theorem daysInMonth_one_le (n m : ℕ) : daysInMonth 1 m ≤ daysInMonth n m := by
  have hone : isLeap 1 = false := rfl
  unfold daysInMonth
  rw [hone]
  split_ifs <;> simp_all

/-- **A day of two consecutive years is a day of every year**: they are not both leap years. -/
theorem isEveryYear_of_consecutive {n : ℕ} (h : IsDate n month day)
    (h' : IsDate (n + 1) month day) : IsEveryYear month day := by
  obtain ⟨-, -, hm, hm', hd, hlength⟩ := h
  obtain ⟨-, -, -, -, -, hlength'⟩ := h'
  refine ⟨le_rfl, by decide, hm, hm', hd, ?_⟩
  cases hleap : isLeap n with
  | false => rwa [daysInMonth_of_common hleap] at hlength
  | true =>
    have hnext : isLeap (n + 1) = false := by
      unfold isLeap at hleap ⊢
      simp only [Bool.and_eq_true, beq_iff_eq, Bool.and_eq_false_iff,
        beq_eq_false_iff_ne] at hleap ⊢
      omega
    rwa [daysInMonth_of_common hnext] at hlength'

theorem IsEveryYear.isDate (h : IsEveryYear month day) {n : ℕ} (hn : 1 ≤ n) (hn' : n ≤ 9999) :
    IsDate n month day := by
  obtain ⟨-, -, hm, hm', hd, hlength⟩ := h
  exact ⟨hn, hn', hm, hm', hd, hlength.trans (daysInMonth_one_le n month)⟩

/-- **A date has a window** from the first anniversary of the calendar to the last but one. -/
theorem exists_anniversaryWindow (h : IsEveryYear month day) {first last : Date}
    (hfirst : Date.ofYMD 1 month day = some first)
    (hlast : Date.ofYMD 9999 month day = some last) (hle : first ≤ x) (hlt : x < last) :
    ∃ w, anniversaryWindow month day x = some w := by
  obtain ⟨hfy, hfm, hfd⟩ := Date.ofYMD_eq_some.mp hfirst
  obtain ⟨hly, hlm, hld⟩ := Date.ofYMD_eq_some.mp hlast
  obtain ⟨hx, hx', -⟩ := x.valid
  have hyearFrom : ∀ start : Date, start.month = month → start.day = day →
      start.year < 9999 → ∃ w, yearFrom start = some w := by
    intro start hm hd hyear
    have hdate := h.isDate (n := start.year + 1) (by omega) (by omega)
    have hnext : Date.ofYMD (start.year + 1) start.month start.day
        = some ⟨start.year + 1, month, day, hdate⟩ := by
      rw [hm, hd]
      exact dif_pos hdate
    obtain ⟨finish, hfinish⟩ : ∃ e, (⟨start.year + 1, month, day, hdate⟩ : Date).prevDay
        = some e := Date.exists_prevDay (Nat.lt_add_of_pos_left start.valid.1)
    exact ⟨(start, finish), by simp only [yearFrom, hnext, hfinish, Option.bind_eq_bind,
      Option.bind_some, Option.pure_def]⟩
  have hthis : Date.ofYMD x.year month day = some ⟨x.year, month, day, h.isDate hx hx'⟩ :=
    dif_pos (h.isDate hx hx')
  unfold anniversaryWindow lastAnniversary
  rw [hthis]
  dsimp only [Option.bind_eq_bind, Option.bind_some]
  split
  · next hbefore =>
    have hearlier : 1 < x.year := by
      by_contra hone
      refine absurd hbefore (not_lt.mpr (le_trans (anniversary_le ?_ hfm.symm hfd.symm) hle))
      show x.year ≤ first.year
      omega
    have hdate := h.isDate (n := x.year - 1) (by omega) (by omega)
    rw [show Date.ofYMD (x.year - 1) month day = some ⟨x.year - 1, month, day, hdate⟩ from
      dif_pos hdate, Option.bind_some]
    refine hyearFrom _ rfl rfl ?_
    show x.year - 1 < 9999
    omega
  · next hafter =>
    refine hyearFrom _ rfl rfl ?_
    show x.year < 9999
    by_contra hyear
    refine hafter (lt_of_lt_of_le hlt (anniversary_le ?_ hlm hld))
    show last.year ≤ x.year
    omega

/-- **A window is that of all its dates**, when they have one. -/
theorem anniversaryWindow_eq_of_mem (h : anniversaryWindow month day x = some w)
    (hv : anniversaryWindow month day y = some v) (hle : w.1 ≤ y) (hle' : y ≤ w.2) : v = w := by
  obtain ⟨hstart, hfinish⟩ := anniversaryWindow_mem hv
  rcases anniversaryWindow_eq_or_disjoint h hv with heq | hlt | hlt
  · exact heq.symm
  · exact absurd (hstart.trans hle') (not_le.mpr hlt)
  · exact absurd (hle.trans hfinish) (not_le.mpr hlt)

/-- **The next window starts** on the anniversary that ends this one. -/
theorem anniversaryWindow_next {next : Date} (h : anniversaryWindow month day x = some w)
    (hnext : w.2.nextDay = some next) (hv : anniversaryWindow month day next = some v) :
    v.1 = next ∧ next.year = w.1.year + 1 := by
  obtain ⟨this, ⟨hm, hd⟩, ⟨hty, htm, htd⟩, -, -, hfinish⟩ := anniversaryWindow_eq_some h
  obtain ⟨after, ⟨hm', hd'⟩, ⟨hay, ham, had⟩, hle, hlt, -⟩ := anniversaryWindow_eq_some hv
  have hsame : next = this := by
    refine le_antisymm ((Date.nextDay_le_iff hnext _).mpr ?_) ?_
    · exact not_le.mp fun hle => lt_irrefl _ ((hfinish this).mp hle)
    · exact not_lt.mp fun hlt => absurd ((hfinish next).mpr hlt)
        (not_le.mpr ((Date.nextDay_le_iff hnext next).mp le_rfl))
  subst hsame
  refine ⟨le_antisymm hle (anniversary_le ?_ (htm.trans hm'.symm) (htd.trans hd'.symm)), hty⟩
  by_contra hyear
  refine absurd (lt_of_lt_of_le hlt (anniversary_le ?_ (ham.trans htm.symm)
    (had.trans htd.symm))) (lt_irrefl _)
  omega

/-! ## Tiling -/

variable {cycle : LeaveCycle} {employee : Employee} {asOf : Date}

/-- **Without a joining date** every date has a window of its own, and they overlap. -/
theorem not_tilesAt_of_startsOn_eq_none (hstarts : cycle.startsOn employee = none) :
    ¬ TilesAt cycle employee asOf := by
  have hwindow : ∀ {x : Date} {w : Date × Date}, getCycleWindow cycle employee x = .ok w →
      yearFrom x = some w := by
    intro x w h
    rw [getCycleWindow, hstarts] at h
    cases hyear : yearFrom x with
    | none => rw [hyear] at h; cases h
    | some v => rw [hyear] at h; rw [Except.ok.inj h]
  rintro ⟨w, hw, -, hall, -⟩
  obtain ⟨anniversary, hanniversary, h⟩ := Option.bind_eq_some_iff.mp (hwindow hw)
  obtain ⟨finish, hfinish, h⟩ := Option.bind_eq_some_iff.mp h
  obtain rfl := Option.some.inj h
  obtain ⟨hay, ham, had⟩ := Date.ofYMD_eq_some.mp hanniversary
  have hlt : asOf < anniversary := Date.toordinal_lt_of_year (by omega)
  obtain ⟨x, hx⟩ := Date.exists_nextDay hlt
  have hafter : asOf < x := (Date.nextDay_le_iff hx x).mp le_rfl
  -- the day after is not the anniversary, so it is in the window
  have hne : x ≠ anniversary := by
    rintro rfl
    obtain ⟨-, -, -, hm, -⟩ := asOf.valid
    unfold Date.nextDay at hx
    split_ifs at hx with hday hmonth
    · have := (Date.ofYMD_eq_some.mp hx).2.2
      omega
    · have := (Date.ofYMD_eq_some.mp hx).2.1
      omega
    · have := (Date.ofYMD_eq_some.mp hx).2.1
      omega
  have hin : x ≤ finish := (Date.le_prevDay_iff hfinish x).mpr
    (lt_of_le_of_ne ((Date.nextDay_le_iff hx anniversary).mpr hlt) hne)
  obtain ⟨anniversary', -, h'⟩ := Option.bind_eq_some_iff.mp (hwindow (hall x hafter.le hin))
  obtain ⟨finish', -, h'⟩ := Option.bind_eq_some_iff.mp h'
  exact hafter.ne (congrArg Prod.fst (Option.some.inj h')).symm

/-- **The windows there are** tile time. -/
theorem tilesAt_of_everyYear {first last : Date}
    (hstarts : cycle.startsOn employee = some (month, day))
    (hfirst : Date.ofYMD 1 month day = some first) (hlast : Date.ofYMD 9998 month day = some last)
    (hle : first ≤ asOf) (hlt : asOf < last) : TilesAt cycle employee asOf := by
  obtain ⟨hfy, hfm, hfd⟩ := Date.ofYMD_eq_some.mp hfirst
  obtain ⟨hly, hlm, hld⟩ := Date.ofYMD_eq_some.mp hlast
  have hevery : IsEveryYear month day := by
    have hvalid := first.valid
    rwa [hfy, hfm, hfd] at hvalid
  have hfinal := hevery.isDate (n := 9999) (by decide) le_rfl
  have hwindow : ∀ x, first ≤ x → x ≤ last →
      ∃ w, anniversaryWindow month day x = some w := by
    intro x hx hx'
    refine exists_anniversaryWindow hevery hfirst (dif_pos hfinal) hx (lt_of_le_of_lt hx' ?_)
    refine Date.toordinal_lt_of_year ?_
    show last.year < 9999
    omega
  obtain ⟨w, hw⟩ := hwindow asOf hle hlt.le
  obtain ⟨this, ⟨hm, hd⟩, ⟨hty, htm, htd⟩, hstart, hend, hfinish⟩ := anniversaryWindow_eq_some hw
  have hthis : this ≤ last := by
    refine anniversary_le ?_ (htm.trans hlm.symm) (htd.trans hld.symm)
    by_contra hyear
    refine absurd (hstart.trans_lt hlt) (not_lt.mpr (anniversary_le ?_ (hlm.trans hm.symm)
      (hld.trans hd.symm)))
    omega
  have hfirst' : first ≤ w.1 := by
    refine anniversary_le ?_ (hfm.trans hm.symm) (hfd.trans hd.symm)
    rw [hfy]
    exact w.1.valid.1
  have hends : w.2 < this := (hfinish w.2).mp le_rfl
  obtain ⟨next, hnext⟩ := Date.exists_nextDay hends
  have hnextle : next ≤ this := (Date.nextDay_le_iff hnext this).mpr hends
  have hafter : w.2 < next := (Date.nextDay_le_iff hnext next).mp le_rfl
  obtain ⟨v, hv⟩ := hwindow next
    (hfirst'.trans (hstart.trans (((hfinish asOf).mpr hend).trans hafter.le)))
    (hnextle.trans hthis)
  refine ⟨w, (getCycleWindow_eq_ok hstarts).mpr hw, ⟨hstart, (hfinish asOf).mpr hend⟩, ?_, next, v,
    hnext, (getCycleWindow_eq_ok hstarts).mpr hv, (anniversaryWindow_next hw hnext hv).1⟩
  intro x hx hx'
  obtain ⟨w', hw'⟩ := hwindow x (hfirst'.trans hx)
    ((((hfinish x).mp hx').le).trans hthis)
  rw [getCycleWindow_eq_ok hstarts, hw', anniversaryWindow_eq_of_mem hw hw' hx hx']

/-- **Cycles tile time** at a date when their month and day are a day of every year, and the
date lies between its first year and its last but one. -/
theorem tilesAt_iff (cycle : LeaveCycle) (employee : Employee) (asOf : Date) :
    TilesAt cycle employee asOf
      ↔ ∃ month day first last, cycle.startsOn employee = some (month, day)
        ∧ Date.ofYMD 1 month day = some first ∧ Date.ofYMD 9998 month day = some last
        ∧ first ≤ asOf ∧ asOf < last := by
  constructor
  · intro h
    cases hstarts : cycle.startsOn employee with
    | none => exact absurd h (not_tilesAt_of_startsOn_eq_none hstarts)
    | some start =>
      obtain ⟨month, day⟩ := start
      obtain ⟨w, hw, ⟨hle, hle'⟩, -, next, v, hnext, hv, -⟩ := h
      rw [getCycleWindow_eq_ok hstarts] at hw hv
      obtain ⟨this, ⟨hm, hd⟩, ⟨hty, htm, htd⟩, -⟩ := anniversaryWindow_eq_some hw
      obtain ⟨after, ⟨hm', hd'⟩, ⟨hay, -, -⟩, -⟩ := anniversaryWindow_eq_some hv
      obtain ⟨hstart, hyear⟩ := anniversaryWindow_next hw hnext hv
      have hevery : IsEveryYear month day := by
        refine isEveryYear_of_consecutive (n := w.1.year) ?_ ?_
        · have hvalid := w.1.valid
          rwa [hm, hd] at hvalid
        · have hvalid := this.valid
          rwa [hty, htm, htd] at hvalid
      have hfirst := hevery.isDate (n := 1) le_rfl (by decide)
      have hlast := hevery.isDate (n := 9998) (by decide) (by decide)
      refine ⟨month, day, _, _, rfl, dif_pos hfirst, dif_pos hlast, ?_, ?_⟩
      · exact (anniversary_le w.1.valid.1 hm.symm hd.symm).trans hle
      · have hafter : w.2 < next := (Date.nextDay_le_iff hnext next).mp le_rfl
        refine (hle'.trans_lt hafter).trans_le ?_
        rw [← hstart] at hyear ⊢
        refine anniversary_le ?_ hm' hd'
        show v.1.year ≤ 9998
        have := after.valid.2.1
        omega
  · rintro ⟨month, day, first, last, hstarts, hfirst, hlast, hle, hlt⟩
    exact tilesAt_of_everyYear hstarts hfirst hlast hle hlt

namespace Sample

/-- Whoever joined on 29 February, with the cycle of their plan. -/
def joinedOnLeapDay : Employee :=
  { id := 1, organisation := 1, dateOfJoining := Date.ofYMD 2024 2 29 }

def joiningDateCycle : LeaveCycle :=
  { cycleType := .employeeJoiningDate, startMonth := 1, startDay := 1 }

def aprilThirtyFirst : LeaveCycle :=
  { cycleType := .customFixedStart, startMonth := 4, startDay := 31 }

end Sample

/-- **No window**: for an employee who joined on 29 February, in a leap year too, and for a
cycle that starts on 31 April. -/
theorem leap_day_has_no_window :
    (Date.ofYMD 2028 3 1).map (getCycleWindow Sample.joiningDateCycle Sample.joinedOnLeapDay)
        = some (.error "day is out of range for month")
      ∧ (Date.ofYMD 2026 5 2).map (getCycleWindow Sample.aprilThirtyFirst Sample.joinedOnLeapDay)
        = some (.error "day is out of range for month") :=
  ⟨rfl, rfl⟩

end TimeOff
