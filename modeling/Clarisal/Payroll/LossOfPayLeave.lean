import Clarisal.Lib.DateRange
import Clarisal.Payroll.Calculation
import Clarisal.TimeOff.Charges
import Clarisal.TimeOff.Booking

/-!
# Leave without pay, month by month

A request for loss of pay takes days, or halves of them, of the months it covers. Payroll
charges all of it to the month that it starts in, and the helper of time off to each month
that it overlaps: a request across the end of a month is charged to one month too much, or
to two (`charged_across_months`).

So every month is charged what is taken of it, and the two agree, exactly when each request
that overlaps one of the months lies within it (`chargesDays_iff`).
-/

open Calendar Date

namespace TimeOff

open Approvals

/-! ## What a request takes before a date -/

/-- The request starts with a half day. -/
def LeaveRequest.startLoss (r : LeaveRequest) : ℚ := if r.startSession ≠ .fullDay then 1 / 2 else 0

/-- **What a request takes of the dates before an ordinal.** -/
def LeaveRequest.takenBefore (r : LeaveRequest) (ordinal : ℕ) : ℚ :=
  if ordinal ≤ r.startDate.toordinal then 0
  else if ordinal ≤ r.endDate.toordinal then
    (ordinal : ℚ) - r.startDate.toordinal - r.startLoss
  else r.span.units

section

variable {r : LeaveRequest}

/-- The units of a request, without rounding. -/
theorem units_eq (r : LeaveRequest) : r.span.units
    = if r.startDate = r.endDate ∧ r.startSession ≠ .fullDay ∧ r.endSession ≠ .fullDay then 1 / 2
      else (r.endDate.toordinal : ℚ) - r.startDate.toordinal + 1 - r.startLoss
        - (if r.endSession ≠ .fullDay then 1 / 2 else 0) := by
  have hgrid : TwoPlaces (daysSpanned r.startDate r.endDate
      - (if r.startSession ≠ .fullDay then 1 / 2 else 0)
      - (if r.endSession ≠ .fullDay then 1 / 2 else 0)) := by
    have hhalf : ∀ p : Prop, [Decidable p] → TwoPlaces (if p then 1 / 2 else 0) := by
      intro p _
      split
      · exact ⟨50, by norm_num⟩
      · exact Decimal.onGrid_zero
    refine (Decimal.OnGrid.sub ?_ (hhalf _)).sub (hhalf _)
    exact ⟨100 * ((r.endDate.toordinal : ℤ) - r.startDate.toordinal + 1), by
      unfold daysSpanned
      push_cast
      ring⟩
  show leaveRequestUnits r.startDate r.endDate r.startSession r.endSession = _
  unfold leaveRequestUnits LeaveRequest.startLoss
  rw [decimal_of_twoPlaces hgrid]
  unfold daysSpanned
  push_cast
  rfl

theorem takenBefore_of_le {o : ℕ} (h : o ≤ r.startDate.toordinal) : r.takenBefore o = 0 := if_pos h

theorem takenBefore_of_mem {o : ℕ} (h : r.startDate.toordinal < o)
    (h' : o ≤ r.endDate.toordinal) :
    r.takenBefore o = (o : ℚ) - r.startDate.toordinal - r.startLoss := by
  rw [LeaveRequest.takenBefore, if_neg (not_le.mpr h), if_pos h']

theorem takenBefore_of_lt {o : ℕ} (hdates : r.startDate ≤ r.endDate)
    (h : r.endDate.toordinal < o) : r.takenBefore o = r.span.units := by
  rw [LeaveRequest.takenBefore, if_neg (not_le.mpr ((Date.le_iff.mp hdates).trans_lt h)),
    if_neg (not_le.mpr h)]

/-- **A date takes what is taken up to its end, less what is taken before it.** -/
theorem fractionOn_eq_sub (h : r.startDate ≤ r.endDate) (date : Date) :
    r.fractionOn date
      = r.takenBefore (date.toordinal + 1) - r.takenBefore date.toordinal := by
  unfold LeaveRequest.fractionOn requestDayFraction
  rcases lt_trichotomy date r.startDate with hs | rfl | hs
  · have hlt := Date.lt_iff.mp hs
    rw [if_pos (Or.inl hs), takenBefore_of_le (by omega), takenBefore_of_le hlt.le, sub_zero]
  · rw [if_neg (not_or.mpr ⟨lt_irrefl _, not_lt.mpr h⟩), takenBefore_of_le le_rfl, sub_zero]
    rcases h.eq_or_lt with hday | hlt
    · rw [takenBefore_of_lt h (by rw [hday]; exact Nat.lt_succ_self _), units_eq, ← hday]
      unfold LeaveRequest.startLoss
      by_cases hstart : r.startSession = .fullDay <;> by_cases hend : r.endSession = .fullDay <;>
        norm_num [hstart, hend]
    · have hend := Date.lt_iff.mp hlt
      rw [takenBefore_of_mem (Nat.lt_succ_self _) hend, if_neg (fun hone => hlt.ne hone.1)]
      unfold LeaveRequest.startLoss
      by_cases hstart : r.startSession = .fullDay <;> norm_num [hstart, hlt.ne]
  · have hstart := Date.lt_iff.mp hs
    rcases lt_trichotomy date r.endDate with he | rfl | he
    · have hend := Date.lt_iff.mp he
      rw [takenBefore_of_mem (by omega) hend, takenBefore_of_mem hstart hend.le,
        if_neg (not_or.mpr ⟨not_lt.mpr hs.le, not_lt.mpr he.le⟩),
        if_neg (fun hone => he.ne' hone.2), if_neg (fun hone => hs.ne' hone.1),
        if_neg (fun hone => he.ne hone.1)]
      push_cast
      ring
    · rw [takenBefore_of_lt h (Nat.lt_succ_self _), takenBefore_of_mem hstart le_rfl, units_eq]
      by_cases hend : r.endSession = .fullDay
      · simp only [hend, hs.ne, hs.ne', not_lt.mpr h, lt_irrefl, false_and, false_or, ne_eq,
          not_true_eq_false, and_false, if_false]
        ring
      · simp only [hend, hs.ne, hs.ne', not_lt.mpr h, lt_irrefl, false_and, false_or, ne_eq,
          not_false_eq_true, and_true, if_false, if_true]
        ring
    · have hend := Date.lt_iff.mp he
      rw [if_pos (Or.inr he), takenBefore_of_lt h (by omega), takenBefore_of_lt h hend, sub_self]

/-- A request takes half a day at least. -/
theorem units_pos (h : r.startDate ≤ r.endDate) : 0 < r.span.units := by
  have hle : (r.startDate.toordinal : ℚ) ≤ r.endDate.toordinal := Nat.cast_le.mpr (Date.le_iff.mp h)
  rw [units_eq]
  unfold LeaveRequest.startLoss
  split_ifs with hone hstart hend
  · norm_num
  · -- two halves of one day are the first case, so there are two days
    have hlt : r.startDate < r.endDate := lt_of_le_of_ne h (fun hday => hone ⟨hday, hstart, hend⟩)
    have hnext : (r.startDate.toordinal : ℚ) + 1 ≤ r.endDate.toordinal := by
      exact_mod_cast Date.lt_iff.mp hlt
    linarith
  all_goals linarith

/-- Before its end a request has taken less than its units. -/
theorem takenBefore_lt (h : r.startDate ≤ r.endDate) {o : ℕ} (ho : o ≤ r.endDate.toordinal) :
    r.takenBefore o < r.span.units := by
  rcases le_or_gt o r.startDate.toordinal with hstart | hstart
  · rw [takenBefore_of_le hstart]
    exact units_pos h
  · have hlt : r.startDate ≠ r.endDate := fun hday => by
      rw [hday] at hstart
      omega
    have hcast : (o : ℚ) ≤ r.endDate.toordinal := Nat.cast_le.mpr ho
    rw [takenBefore_of_mem hstart ho, units_eq, if_neg (fun hone => hlt hone.1)]
    split_ifs <;> linarith

end

/-! ## Loss of pay in a period -/

section

variable (m : Masters) (requests : List LeaveRequest) (employee : EmployeeId)

/-- The approved requests of an employee for leave without pay. -/
def lossOfPayRequests : List LeaveRequest :=
  requests.filter (fun r => r.employee = employee ∧ (m.leaveType r.leaveType).isLossOfPay
    ∧ r.status = .approved)

/-- The units of the requests that overlap a period. -/
def getLwpDaysForPeriod (periodStart periodEnd : Date) : ℚ :=
  decimal (((lossOfPayRequests m requests employee).filter (fun r =>
    r.startDate ≤ periodEnd ∧ periodStart ≤ r.endDate)).map LeaveRequest.totalUnits).sum

/-- **What the requests take of the dates of a period.** -/
def lossOfPayTaken (periodStart periodEnd : Date) : ℚ :=
  ((datesBetween periodStart periodEnd).map (fun date =>
    ((lossOfPayRequests m requests employee).map (fun r => r.fractionOn date)).sum)).sum

end

end TimeOff

namespace Payroll

open Approvals TimeOff

section

variable (m : Masters) (requests : List LeaveRequest) (employee : EmployeeId)

/-- The loss-of-pay days of a month: the units of the requests that start in it. -/
def leaveOnlyLopDays (p : PayPeriod) : ℚ :=
  normalizeDecimal (((lossOfPayRequests m requests employee).filter (fun r =>
    p.start ≤ r.startDate ∧ r.startDate ≤ p.finish)).map LeaveRequest.totalUnits).sum

/-- A month after another. -/
def PayPeriod.Follows (p q : PayPeriod) : Prop := nextDay p.finish = some q.start

instance (p q : PayPeriod) : Decidable (p.Follows q) :=
  inferInstanceAs (Decidable (_ = _))

/-- **Each month is charged what is taken of it**, the months together what is taken of them,
and the helper of time off agrees. -/
def ChargesDays (months : List PayPeriod) : Prop :=
  (∀ p ∈ months,
      leaveOnlyLopDays m requests employee p = lossOfPayTaken m requests employee p.start p.finish
        ∧ getLwpDaysForPeriod m requests employee p.start p.finish
          = leaveOnlyLopDays m requests employee p)
    ∧ ∀ first ∈ months.head?, ∀ last ∈ months.getLast?,
      (months.map (leaveOnlyLopDays m requests employee)).sum
        = lossOfPayTaken m requests employee first.start last.finish

instance (months : List PayPeriod) : Decidable (ChargesDays m requests employee months) :=
  inferInstanceAs (Decidable (_ ∧ ∀ first ∈ months.head?, ∀ last ∈ months.getLast?, _))

/-- **No request crosses the end of a month.** -/
def WithinMonths (months : List PayPeriod) : Prop :=
  ∀ p ∈ months, ∀ r ∈ lossOfPayRequests m requests employee,
    r.startDate ≤ p.finish → p.start ≤ r.endDate → p.start ≤ r.startDate ∧ r.endDate ≤ p.finish

instance (months : List PayPeriod) : Decidable (WithinMonths m requests employee months) :=
  inferInstanceAs (Decidable (∀ p ∈ months, ∀ r ∈ lossOfPayRequests m requests employee, _))

end

section

variable {m : Masters} {requests : List LeaveRequest} {employee : EmployeeId} {p : PayPeriod}

/-- What the requests take before a date. -/
def takenBefore (rs : List LeaveRequest) (o : ℕ) : ℚ := (rs.map (fun r => r.takenBefore o)).sum

/-- **What is taken of a period**, by the totals at its ends. -/
theorem lossOfPayTaken_eq
    (h : ∀ r ∈ requests, r.startDate ≤ r.endDate ∧ r.totalUnits = r.span.units) {x y : Date}
    (hxy : x.toordinal ≤ y.toordinal + 1) :
    lossOfPayTaken m requests employee x y
      = takenBefore (lossOfPayRequests m requests employee) (y.toordinal + 1)
        - takenBefore (lossOfPayRequests m requests employee) x.toordinal := by
  unfold lossOfPayTaken
  refine sum_datesBetween (fun date => ?_) hxy
  rw [takenBefore, takenBefore, eq_sub_iff_add_eq, ← List.sum_map_add]
  refine congrArg List.sum (List.map_congr_left (fun r hr => ?_))
  rw [fractionOn_eq_sub (h r (List.mem_of_mem_filter hr)).1, sub_add_cancel]

/-- The units of selected requests. -/
theorem sum_totalUnits (m : Masters) (employee : EmployeeId)
    (h : ∀ r ∈ requests, r.startDate ≤ r.endDate ∧ r.totalUnits = r.span.units)
    (selected : LeaveRequest → Prop) [DecidablePred selected] :
    TwoPlaces (((lossOfPayRequests m requests employee).filter selected).map
        LeaveRequest.totalUnits).sum
      ∧ (((lossOfPayRequests m requests employee).filter selected).map
          LeaveRequest.totalUnits).sum
        = ((lossOfPayRequests m requests employee).map (fun r =>
          if selected r then r.span.units else 0)).sum := by
  constructor
  · refine Decimal.onGrid_sum (fun x hx => ?_)
    obtain ⟨r, hr, rfl⟩ := List.mem_map.mp hx
    exact twoPlaces_of_units h r (List.mem_of_mem_filter (List.mem_of_mem_filter hr))
  · rw [sum_map_filter]
    refine congrArg List.sum (List.map_congr_left (fun r hr => ?_))
    rw [(h r (List.mem_of_mem_filter hr)).2]
    simp only [decide_eq_true_eq]

theorem leaveOnlyLopDays_eq
    (h : ∀ r ∈ requests, r.startDate ≤ r.endDate ∧ r.totalUnits = r.span.units) (p : PayPeriod) :
    leaveOnlyLopDays m requests employee p
      = ((lossOfPayRequests m requests employee).map (fun r =>
        if p.start ≤ r.startDate ∧ r.startDate ≤ p.finish then r.span.units else 0)).sum := by
  obtain ⟨hgrid, hsum⟩ := sum_totalUnits m employee h
    (fun r => p.start ≤ r.startDate ∧ r.startDate ≤ p.finish)
  exact (normalizeDecimal_of_onPaise hgrid).trans hsum

theorem getLwpDaysForPeriod_eq
    (h : ∀ r ∈ requests, r.startDate ≤ r.endDate ∧ r.totalUnits = r.span.units) (x y : Date) :
    getLwpDaysForPeriod m requests employee x y
      = ((lossOfPayRequests m requests employee).map (fun r =>
        if r.startDate ≤ y ∧ x ≤ r.endDate then r.span.units else 0)).sum := by
  obtain ⟨hgrid, hsum⟩ := sum_totalUnits m employee h
    (fun r => r.startDate ≤ y ∧ x ≤ r.endDate)
  exact (decimal_of_twoPlaces hgrid).trans hsum

/-- **A request within the month**, or outside it, is charged what it takes of it. -/
theorem charge_eq_taken {r : LeaveRequest} (hdates : r.startDate ≤ r.endDate)
    (hwithin : r.startDate ≤ p.finish → p.start ≤ r.endDate →
      p.start ≤ r.startDate ∧ r.endDate ≤ p.finish) :
    (if p.start ≤ r.startDate ∧ r.startDate ≤ p.finish then r.span.units else 0)
        + r.takenBefore p.start.toordinal = r.takenBefore (p.finish.toordinal + 1) := by
  have hle := Date.le_iff.mp hdates
  have hmonth := Date.le_iff.mp p.start_le_finish
  by_cases hfinish : r.startDate ≤ p.finish
  · by_cases hstart : p.start ≤ r.endDate
    · obtain ⟨hfirst, hlast⟩ := hwithin hfinish hstart
      rw [if_pos ⟨hfirst, hfinish⟩, takenBefore_of_le (Date.le_iff.mp hfirst),
        takenBefore_of_lt hdates (Nat.lt_succ_of_le (Date.le_iff.mp hlast)), add_zero]
    · have hpast := Date.lt_iff.mp (not_le.mp hstart)
      rw [if_neg (fun hin => hstart (hin.1.trans hdates)), takenBefore_of_lt hdates hpast,
        takenBefore_of_lt hdates (by omega), zero_add]
  · have hlater := Date.lt_iff.mp (not_le.mp hfinish)
    rw [if_neg (fun hin => hfinish hin.2), takenBefore_of_le (by omega),
      takenBefore_of_le hlater, add_zero]

/-- **A request that starts in the month and ends after it** is charged more than it takes
of it. -/
theorem taken_lt_charge {r : LeaveRequest} (hdates : r.startDate ≤ r.endDate)
    (hstart : p.start ≤ r.startDate) (hfinish : r.startDate ≤ p.finish)
    (hlate : p.finish < r.endDate) :
    r.takenBefore (p.finish.toordinal + 1)
      < (if p.start ≤ r.startDate ∧ r.startDate ≤ p.finish then r.span.units else 0)
        + r.takenBefore p.start.toordinal := by
  rw [if_pos ⟨hstart, hfinish⟩, takenBefore_of_le (Date.le_iff.mp hstart), add_zero]
  exact takenBefore_lt hdates (Date.lt_iff.mp hlate)

/-- **One month** is charged what is taken of it by both, exactly when no request crosses
its ends. -/
theorem month_exact_iff
    (h : ∀ r ∈ requests, r.startDate ≤ r.endDate ∧ r.totalUnits = r.span.units) (p : PayPeriod) :
    (leaveOnlyLopDays m requests employee p = lossOfPayTaken m requests employee p.start p.finish
        ∧ getLwpDaysForPeriod m requests employee p.start p.finish
          = leaveOnlyLopDays m requests employee p)
      ↔ ∀ r ∈ lossOfPayRequests m requests employee, r.startDate ≤ p.finish →
        p.start ≤ r.endDate → p.start ≤ r.startDate ∧ r.endDate ≤ p.finish := by
  have hdates : ∀ r ∈ lossOfPayRequests m requests employee, r.startDate ≤ r.endDate :=
    fun r hr => (h r (List.mem_of_mem_filter hr)).1
  have hmonth := Date.le_iff.mp p.start_le_finish
  rw [lossOfPayTaken_eq h (by omega), eq_sub_iff_add_eq, leaveOnlyLopDays_eq h,
    getLwpDaysForPeriod_eq h, takenBefore, takenBefore, ← List.sum_map_add]
  constructor
  · rintro ⟨htaken, hhelper⟩
    have hstarts : ∀ r ∈ lossOfPayRequests m requests employee, r.startDate ≤ p.finish →
        p.start ≤ r.endDate → p.start ≤ r.startDate := by
      intro r hr hfinish hstart
      by_contra hbefore
      refine absurd hhelper.symm (ne_of_lt (List.sum_lt_sum _ _ (fun r hr => ?_) ⟨r, hr, ?_⟩))
      · have hpos := units_pos (hdates r hr)
        split
        · next hin => rw [if_pos ⟨hin.2, hin.1.trans (hdates r hr)⟩]
        · split
          · exact hpos.le
          · exact le_rfl
      · rw [if_neg (fun hin => hbefore hin.1), if_pos ⟨hfinish, hstart⟩]
        exact units_pos (hdates r hr)
    intro r hr hfinish hstart
    refine ⟨hstarts r hr hfinish hstart, ?_⟩
    by_contra hlate
    refine absurd htaken.symm (ne_of_lt (List.sum_lt_sum _ _ (fun r hr => ?_) ⟨r, hr,
      taken_lt_charge (hdates r hr) (hstarts r hr hfinish hstart) hfinish (not_le.mp hlate)⟩))
    by_cases hover : r.startDate ≤ p.finish ∧ p.start ≤ r.endDate ∧ p.finish < r.endDate
    · exact (taken_lt_charge (hdates r hr) (hstarts r hr hover.1 hover.2.1) hover.1 hover.2.2).le
    · exact (charge_eq_taken (hdates r hr) (fun hfinish hstart =>
        ⟨hstarts r hr hfinish hstart, not_lt.mp (fun hlate => hover ⟨hfinish, hstart, hlate⟩)⟩)).ge
  · intro hwithin
    constructor
    · exact congrArg List.sum (List.map_congr_left (fun r hr =>
        charge_eq_taken (hdates r hr) (hwithin r hr)))
    · refine congrArg List.sum (List.map_congr_left (fun r hr => if_congr ?_ rfl rfl))
      constructor
      · exact fun hover => ⟨(hwithin r hr hover.1 hover.2).1, hover.1⟩
      · exact fun hin => ⟨hin.2, hin.1.trans (hdates r hr)⟩

/-- **Months one after another** add up to what lies between their ends. -/
theorem sum_months {f : PayPeriod → ℚ} {F : ℕ → ℚ} {months : List PayPeriod}
    (hmonths : months.IsChain PayPeriod.Follows)
    (hf : ∀ p ∈ months, f p = F (p.finish.toordinal + 1) - F p.start.toordinal) :
    ∀ first ∈ months.head?, ∀ last ∈ months.getLast?,
      first.start.toordinal ≤ last.finish.toordinal
        ∧ (months.map f).sum = F (last.finish.toordinal + 1) - F first.start.toordinal := by
  induction months with
  | nil => exact fun first hfirst => absurd hfirst (by simp)
  | cons p months ih =>
    intro first hfirst last hlast
    obtain rfl : p = first := Option.some.inj hfirst
    obtain ⟨hp, hrest⟩ := List.forall_mem_cons.mp hf
    have hmonth := Date.le_iff.mp p.start_le_finish
    cases months with
    | nil =>
      obtain rfl : p = last := Option.some.inj hlast
      rw [List.map_singleton, List.sum_singleton, hp]
      exact ⟨hmonth, rfl⟩
    | cons q months =>
      obtain ⟨hfollows, htail⟩ := List.isChain_cons_cons.mp hmonths
      obtain ⟨horder, hsum⟩ := ih htail hrest q rfl last hlast
      have hnext := toordinal_nextDay hfollows
      rw [List.map_cons, List.sum_cons, hp, hsum, hnext, sub_add_sub_cancel']
      exact ⟨by omega, rfl⟩

end

/-- **The loss-of-pay days of consecutive months** are those that the requests take of them,
for payroll and for time off, exactly when no request crosses the end of a month. -/
theorem chargesDays_iff (m : Masters) (requests : List LeaveRequest) (employee : EmployeeId)
    (months : List PayPeriod) (hmonths : months.IsChain PayPeriod.Follows)
    (h : ∀ r ∈ requests, r.startDate ≤ r.endDate ∧ r.totalUnits = r.span.units) :
    ChargesDays m requests employee months ↔ WithinMonths m requests employee months := by
  constructor
  · rintro ⟨hcharges, -⟩ p hp
    exact (month_exact_iff h p).mp (hcharges p hp)
  · intro hwithin
    have hcharges := fun p hp => (month_exact_iff h p).mpr (hwithin p hp)
    refine ⟨hcharges, fun first hfirst last hlast => ?_⟩
    have hmonth : ∀ p : PayPeriod, p.start.toordinal ≤ p.finish.toordinal + 1 := fun p =>
      (Date.le_iff.mp p.start_le_finish).trans (Nat.le_succ _)
    obtain ⟨horder, hsum⟩ := sum_months hmonths (fun p hp =>
      (hcharges p hp).1.trans (lossOfPayTaken_eq h (hmonth p))) first hfirst last hlast
    rw [hsum, lossOfPayTaken_eq h (horder.trans (Nat.le_succ _))]

/-! ## The end of January

Employee 1 is on leave without pay around it. -/

namespace Sample

/-- All leave is without pay. -/
def unpaidLeave : Masters where
  employee e := { id := e, organisation := 1, dateOfJoining := none }
  leaveType _ :=
    { isCompOff := false, isLossOfPay := true, annualEntitlement := 0,
      creditFrequency := .manual, prorateOnJoin := false, maxBalance := none,
      leaveCycle := { cycleType := .calendarYear, startMonth := 1, startDay := 1 },
      twoPlaces := twoPlaces_of_none }

def januaryAndFebruary : List PayPeriod := [⟨2024, 1, by decide⟩, ⟨2024, 2, by decide⟩]

/-- Whole days, and the first half of the last one. -/
def unpaid (startDate endDate : Date) (units : ℚ) : LeaveRequest :=
  { id := 1, employee := 1, leaveType := 1, startDate := startDate, endDate := endDate,
    startSession := .fullDay, endSession := .firstHalf, totalUnits := units, reason := "",
    status := .approved, rejectionReason := "" }

end Sample

open Sample in
/-- Two days and a half in January. -/
theorem chargesDays_iff_sample :
    ChargesDays unpaidLeave [unpaid ⟨2024, 1, 29, by decide⟩ ⟨2024, 1, 31, by decide⟩ (5 / 2)] 1
      januaryAndFebruary :=
  (chargesDays_iff unpaidLeave [unpaid ⟨2024, 1, 29, by decide⟩ ⟨2024, 1, 31, by decide⟩ (5 / 2)]
    1 januaryAndFebruary (by decide +kernel) (by decide +kernel)).mpr (by decide +kernel)

open Sample in
/-- Two days in January and one and a half in February: payroll charges all of them to
January, and the helper of time off charges them to both months. -/
theorem charged_across_months :
    leaveOnlyLopDays unpaidLeave
          [unpaid ⟨2024, 1, 30, by decide⟩ ⟨2024, 2, 2, by decide⟩ (7 / 2)] 1
          ⟨2024, 1, by decide⟩ = 7 / 2
      ∧ getLwpDaysForPeriod unpaidLeave
          [unpaid ⟨2024, 1, 30, by decide⟩ ⟨2024, 2, 2, by decide⟩ (7 / 2)] 1
          ⟨2024, 2, 1, by decide⟩ ⟨2024, 2, 29, by decide⟩ = 7 / 2
      ∧ ¬ ChargesDays unpaidLeave
          [unpaid ⟨2024, 1, 30, by decide⟩ ⟨2024, 2, 2, by decide⟩ (7 / 2)] 1
          januaryAndFebruary := by
  decide +kernel

end Payroll
