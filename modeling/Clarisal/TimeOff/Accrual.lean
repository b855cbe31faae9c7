import Clarisal.TimeOff.Balance

/-!
# Accrual and the entitlement

A periodic credit is the annual entitlement over the periods of a year, times the periods that
have started since the cycle began. The periods are counted up to today, not up to the end of
the cycle, so a balance of a cycle that is over goes on growing whenever it is recomputed.
They are also counted by calendar months: a cycle that starts in the middle of one has touched
thirteen by its last day, and credits a period too many before it ends.

`withinEntitlement_iff` says how far this goes. The divisions and products round to 28 digits
on the way, and prove harmless: they are off by less than a 10²⁶th part
(`periodicEntitlement_bounds`).
-/

open Calendar

namespace TimeOff

variable {today cycleStart cycleEnd : Date} {employee : Employee} {leaveType : LeaveType}
  {frequency : LeaveCreditFrequency} {x y annual : ℚ}

/-! ## Rounding on the way -/

/-- A value that is not half a hundredth above one of two places does not round above it. -/
theorem decimal_le_of_lt (hx : TwoPlaces x) (h : y < x + 1 / 200) : decimal y ≤ x := by
  obtain ⟨n, hn⟩ := hx
  obtain ⟨m, hm⟩ := twoPlaces_decimal y
  have hnear := (abs_le.mp (Decimal.abs_quantize_sub_le (by norm_num : (0 : ℚ) < 1 / 100) y)).2
  have hlt : (m : ℚ) < n + 1 := by
    have hdecimal : decimal y < x + 1 / 100 := by linarith
    rw [hm, hn] at hdecimal
    linarith
  have hle : m ≤ n := Int.lt_add_one_iff.mp (by exact_mod_cast hlt)
  rw [hm, hn]
  have hcast : (m : ℚ) ≤ n := by exact_mod_cast hle
  linarith

/-- Keeping 28 digits changes a value by less than its 10²⁷th part. -/
theorem context_bounds (hx : 0 ≤ x) :
    x * (1 - 1 / 10 ^ 27) ≤ Decimal.context 28 x
      ∧ Decimal.context 28 x ≤ x * (1 + 1 / 10 ^ 27) := by
  have hnear := abs_le.mp (Decimal.abs_context_sub_le 28 x)
  rw [abs_of_nonneg hx] at hnear
  norm_num at hnear ⊢
  constructor <;> linarith [hnear.1, hnear.2]

variable (today cycleStart) in
/-- **The entitlement of the periods** before rounding to two places: within a 10²⁶th part of
the annual amount's share. -/
theorem periodicEntitlement_bounds (hannual : 0 ≤ annual) (frequency : LeaveCreditFrequency) :
    annual / periodsPerYear frequency * periodsElapsed cycleStart today frequency
          * (1 - 1 / 10 ^ 26)
        ≤ periodicEntitlement today annual frequency cycleStart
      ∧ periodicEntitlement today annual frequency cycleStart
        ≤ annual / periodsPerYear frequency * periodsElapsed cycleStart today frequency
          * (1 + 1 / 10 ^ 26) := by
  have hshare : 0 ≤ annual / periodsPerYear frequency :=
    div_nonneg hannual (periodsPerYear_pos frequency).le
  have helapsed : (0 : ℚ) ≤ periodsElapsed cycleStart today frequency := by
    exact_mod_cast periodsElapsed_nonneg frequency
  unfold periodicEntitlement
  generalize annual / periodsPerYear frequency = share at hshare ⊢
  generalize (periodsElapsed cycleStart today frequency : ℚ) = elapsed at helapsed ⊢
  obtain ⟨hlow, hhigh⟩ := context_bounds hshare
  have hkept : 0 ≤ Decimal.context 28 share := Decimal.context_nonneg 28 hshare
  obtain ⟨hlow', hhigh'⟩ := context_bounds (mul_nonneg hkept helapsed)
  have hproduct : 0 ≤ share * elapsed := mul_nonneg hshare helapsed
  have hup := mul_le_mul_of_nonneg_right hhigh helapsed
  have hdown := mul_le_mul_of_nonneg_right hlow helapsed
  constructor
  · refine le_trans ?_ hlow'
    nlinarith
  · refine hhigh'.trans ?_
    nlinarith

variable (employee leaveType cycleStart cycleEnd) in
/-- **Pro-ration** does not enlarge an entitlement, but for the rounding. -/
theorem prorateOnJoin_le (hx : 0 ≤ x) :
    prorateOnJoin employee leaveType cycleStart cycleEnd x ≤ x * (1 + 1 / 10 ^ 26) := by
  unfold prorateOnJoin
  split
  · nlinarith
  · next join _ =>
    split
    · next hjoin =>
      have hworked := one_le_daysSpanned hjoin.2.2
      have htotal := one_le_daysSpanned (hjoin.2.1.trans hjoin.2.2)
      have hle : daysSpanned join cycleEnd ≤ daysSpanned cycleStart cycleEnd := by
        have hstart : cycleStart.toordinal ≤ join.toordinal := hjoin.2.1
        have hdays : (cycleEnd.toordinal : ℤ) - join.toordinal + 1
            ≤ cycleEnd.toordinal - cycleStart.toordinal + 1 := by omega
        unfold daysSpanned
        exact Int.cast_le.mpr hdays
      generalize daysSpanned join cycleEnd = worked at hworked hle ⊢
      generalize daysSpanned cycleStart cycleEnd = total at htotal hle ⊢
      have hshare : x * worked ≤ x * total := mul_le_mul_of_nonneg_left hle hx
      have hproduct : 0 ≤ x * worked := mul_nonneg hx (zero_le_one.trans hworked)
      have hup := (context_bounds hproduct).2
      have hquotient : Decimal.context 28 (x * worked) / total ≤ x * (1 + 1 / 10 ^ 27) := by
        rw [div_le_iff₀ (by linarith)]
        nlinarith
      have hnonneg : 0 ≤ Decimal.context 28 (x * worked) / total :=
        div_nonneg (Decimal.context_nonneg 28 hproduct) (zero_le_one.trans htotal)
      refine (context_bounds hnonneg).2.trans ?_
      nlinarith
    · nlinarith

/-! ## The credit of a cycle -/

/-- An annual entitlement as its column stores it: eight digits, two of them places. -/
def LeaveType.Stored (leaveType : LeaveType) : Prop :=
  TwoPlaces leaveType.annualEntitlement ∧ |leaveType.annualEntitlement| < 1000000

/-- **The credit stays within the entitlement**, and is settled when the cycle is over. -/
structure WithinEntitlement (today : Date) (employee : Employee) (leaveType : LeaveType)
    (cycleStart cycleEnd : Date) : Prop where
  nonneg : 0 ≤ computeCreditForPeriod today employee leaveType cycleStart cycleEnd
  le_annual : computeCreditForPeriod today employee leaveType cycleStart cycleEnd
    ≤ leaveType.annualEntitlement
  settled : cycleEnd < today → computeCreditForPeriod today employee leaveType cycleStart cycleEnd
    = computeCreditForPeriod cycleEnd employee leaveType cycleStart cycleEnd

/-- **A credit by periods**: every month, quarter or half-year. -/
def LeaveCreditFrequency.IsPeriodic : LeaveCreditFrequency → Prop
  | .monthly | .quarterly | .halfYearly => True
  | .manual | .yearly => False

/-- The credit of a frequency with periods. -/
theorem computeCreditForPeriod_of_periodic (h : leaveType.creditFrequency.IsPeriodic) :
    computeCreditForPeriod today employee leaveType cycleStart cycleEnd
      = decimal (prorateOnJoin employee leaveType cycleStart cycleEnd
          (periodicEntitlement today (decimal leaveType.annualEntitlement)
            leaveType.creditFrequency cycleStart)) := by
  unfold computeCreditForPeriod
  cases hfrequency : leaveType.creditFrequency with
  | manual =>
    rw [hfrequency] at h
    exact h.elim
  | yearly =>
    rw [hfrequency] at h
    exact h.elim
  | monthly => rfl
  | quarterly => rfl
  | halfYearly => rfl

/-- No more periods have started than a year has, when today is in one of the first twelve
months. -/
theorem periodsElapsed_le_iff (h : frequency.IsPeriodic) :
    (periodsElapsed cycleStart today frequency : ℚ) ≤ periodsPerYear frequency
      ↔ monthsSpanned cycleStart today ≤ 12 := by
  have hcast : ∀ {n : ℤ} {k : ℕ}, (n : ℚ) ≤ (k : ℚ) ↔ n ≤ k := by
    intro n k
    exact_mod_cast Iff.rfl
  cases frequency with
  | manual => exact h.elim
  | yearly => exact h.elim
  | monthly =>
    refine (hcast (k := 12)).trans (max_le_iff.trans ?_)
    omega
  | quarterly =>
    refine (hcast (k := 4)).trans (max_le_iff.trans ?_)
    rw [Int.ceil_le, div_le_iff₀ (by norm_num)]
    norm_num
    norm_cast
  | halfYearly =>
    refine (hcast (k := 2)).trans (max_le_iff.trans ?_)
    rw [Int.ceil_le, div_le_iff₀ (by norm_num)]
    norm_num
    norm_cast

/-- The calendar has no more than 120 000 months. -/
theorem periodsElapsed_le (frequency : LeaveCreditFrequency) :
    periodsElapsed cycleStart today frequency ≤ 120000 := by
  have hmonths : monthsSpanned cycleStart today ≤ 120000 := by
    obtain ⟨hstart, -, hmonth, -⟩ := cycleStart.valid
    obtain ⟨-, hyear, -, hmonth', -⟩ := today.valid
    unfold monthsSpanned
    omega
  have hcast : (monthsSpanned cycleStart today : ℚ) ≤ 120000 := by exact_mod_cast hmonths
  cases frequency with
  | manual => exact (by norm_num : (0 : ℤ) ≤ 120000)
  | yearly => exact (by norm_num : (1 : ℤ) ≤ 120000)
  | monthly => exact max_le (by norm_num) hmonths
  | quarterly =>
    refine max_le (by norm_num) (Int.ceil_le.mpr ?_)
    rw [div_le_iff₀ (by norm_num)]
    push_cast
    linarith
  | halfYearly =>
    refine max_le (by norm_num) (Int.ceil_le.mpr ?_)
    rw [div_le_iff₀ (by norm_num)]
    push_cast
    linarith

/-- **No more periods than a year has** have started, and none since the cycle ended. -/
def PeriodsInYear (frequency : LeaveCreditFrequency) (today cycleStart cycleEnd : Date) : Prop :=
  frequency.IsPeriodic → monthsSpanned cycleStart today ≤ 12
    ∧ (cycleEnd < today →
      periodsElapsed cycleStart today frequency = periodsElapsed cycleStart cycleEnd frequency)

/-- What is granted at once does not depend on today. -/
theorem computeCreditForPeriod_of_not_periodic (h : ¬ leaveType.creditFrequency.IsPeriodic)
    (today today' : Date) :
    computeCreditForPeriod today employee leaveType cycleStart cycleEnd
      = computeCreditForPeriod today' employee leaveType cycleStart cycleEnd := by
  unfold computeCreditForPeriod
  cases hfrequency : leaveType.creditFrequency with
  | manual => rfl
  | yearly => rfl
  | monthly =>
    rw [hfrequency] at h
    exact absurd trivial h
  | quarterly =>
    rw [hfrequency] at h
    exact absurd trivial h
  | halfYearly =>
    rw [hfrequency] at h
    exact absurd trivial h

/-- An entitlement that is no more than the annual one does not round above it. -/
theorem decimal_prorateOnJoin_le (htwo : TwoPlaces annual) (hlimit : annual < 1000000)
    (hx : 0 ≤ x) (h : x ≤ annual * (1 + 1 / 10 ^ 26)) :
    decimal (prorateOnJoin employee leaveType cycleStart cycleEnd x) ≤ annual := by
  have hprorated := prorateOnJoin_le cycleStart cycleEnd employee leaveType hx
  refine decimal_le_of_lt htwo (hprorated.trans_lt ?_)
  linarith

/-- **Within the periods of a year** a credit is within the entitlement. -/
theorem withinEntitlement_of_periodsInYear (hstored : leaveType.Stored)
    (hannual : 0 ≤ leaveType.annualEntitlement)
    (h : PeriodsInYear leaveType.creditFrequency today cycleStart cycleEnd) :
    WithinEntitlement today employee leaveType cycleStart cycleEnd := by
  obtain ⟨htwo, hlimit⟩ := hstored
  rw [abs_of_nonneg hannual] at hlimit
  by_cases hperiodic : leaveType.creditFrequency.IsPeriodic
  · obtain ⟨hmonths, hsettled⟩ := h hperiodic
    refine ⟨computeCreditForPeriod_nonneg hannual, ?_, fun hended => ?_⟩
    · rw [computeCreditForPeriod_of_periodic hperiodic, decimal_of_twoPlaces htwo]
      have hperiods := (periodsElapsed_le_iff hperiodic).mpr hmonths
      have hbounds := (periodicEntitlement_bounds today cycleStart hannual
        leaveType.creditFrequency).2
      refine decimal_prorateOnJoin_le htwo hlimit
        (periodicEntitlement_nonneg hannual _) (hbounds.trans ?_)
      refine mul_le_mul_of_nonneg_right ?_ (by norm_num)
      have hpos := periodsPerYear_pos leaveType.creditFrequency
      rw [div_mul_eq_mul_div, div_le_iff₀ hpos]
      exact mul_le_mul_of_nonneg_left hperiods hannual
    · rw [computeCreditForPeriod_of_periodic hperiodic,
        computeCreditForPeriod_of_periodic hperiodic]
      unfold periodicEntitlement
      rw [hsettled hended]
  · refine ⟨computeCreditForPeriod_nonneg hannual, ?_,
      fun _ => computeCreditForPeriod_of_not_periodic hperiodic _ _⟩
    unfold computeCreditForPeriod
    rw [decimal_of_twoPlaces htwo]
    cases hfrequency : leaveType.creditFrequency with
    | manual => exact hannual
    | yearly =>
      refine decimal_prorateOnJoin_le htwo hlimit hannual ?_
      linarith
    | monthly =>
      rw [hfrequency] at hperiodic
      exact absurd trivial hperiodic
    | quarterly =>
      rw [hfrequency] at hperiodic
      exact absurd trivial hperiodic
    | halfYearly =>
      rw [hfrequency] at hperiodic
      exact absurd trivial hperiodic

/-! ## Where each period shows -/

theorem periodsPerYear_int (frequency : LeaveCreditFrequency) :
    ∃ periods : ℤ, periodsPerYear frequency = periods := by
  cases frequency with
  | manual => exact ⟨1, by norm_num [periodsPerYear]⟩
  | yearly => exact ⟨1, by norm_num [periodsPerYear]⟩
  | monthly => exact ⟨12, by norm_num [periodsPerYear]⟩
  | quarterly => exact ⟨4, by norm_num [periodsPerYear]⟩
  | halfYearly => exact ⟨2, by norm_num [periodsPerYear]⟩

variable (employee cycleStart cycleEnd) in
/-- The credit of an employee who is not pro-rated is near the share of the periods. -/
theorem credit_bounds (hstored : leaveType.Stored) (hannual : 0 ≤ leaveType.annualEntitlement)
    (hperiodic : leaveType.creditFrequency.IsPeriodic)
    (hprorate : leaveType.prorateOnJoin = false) (today : Date) :
    |computeCreditForPeriod today employee leaveType cycleStart cycleEnd
        - leaveType.annualEntitlement / periodsPerYear leaveType.creditFrequency
          * periodsElapsed cycleStart today leaveType.creditFrequency|
      ≤ 1 / 200 + 1 / 1000000 := by
  obtain ⟨htwo, hlimit⟩ := hstored
  rw [abs_of_nonneg hannual] at hlimit
  rw [computeCreditForPeriod_of_periodic hperiodic, decimal_of_twoPlaces htwo]
  have hwhole : prorateOnJoin employee leaveType cycleStart cycleEnd
      (periodicEntitlement today leaveType.annualEntitlement leaveType.creditFrequency cycleStart)
      = periodicEntitlement today leaveType.annualEntitlement leaveType.creditFrequency
        cycleStart := by
    unfold prorateOnJoin
    rw [hprorate]
    cases employee.dateOfJoining with
    | none => rfl
    | some join => exact if_neg (fun hjoin => Bool.false_ne_true hjoin.1)
  rw [hwhole]
  obtain ⟨hlow, hhigh⟩ := periodicEntitlement_bounds today cycleStart hannual
    leaveType.creditFrequency
  have hnear := abs_le.mp (Decimal.abs_quantize_sub_le (by norm_num : (0 : ℚ) < 1 / 100)
    (periodicEntitlement today leaveType.annualEntitlement leaveType.creditFrequency cycleStart))
  have hperiods : (1 : ℚ) ≤ periodsPerYear leaveType.creditFrequency := by
    cases leaveType.creditFrequency <;> simp [periodsPerYear]
  have hworth : 0 ≤ leaveType.annualEntitlement / periodsPerYear leaveType.creditFrequency
      ∧ leaveType.annualEntitlement / periodsPerYear leaveType.creditFrequency ≤ 1000000 :=
    ⟨div_nonneg hannual (zero_le_one.trans hperiods),
      (div_le_self hannual hperiods).trans hlimit.le⟩
  have helapsed : (0 : ℚ) ≤ periodsElapsed cycleStart today leaveType.creditFrequency
      ∧ (periodsElapsed cycleStart today leaveType.creditFrequency : ℚ) ≤ 120000 :=
    ⟨by exact_mod_cast periodsElapsed_nonneg leaveType.creditFrequency,
      by exact_mod_cast periodsElapsed_le leaveType.creditFrequency⟩
  have hshare := mul_nonneg hworth.1 helapsed.1
  have hmost := mul_le_mul hworth.2 helapsed.2 helapsed.1 (by norm_num)
  show |Decimal.quantize (1 / 100) _ - _| ≤ _
  rw [abs_le]
  constructor <;> linarith [hnear.1, hnear.2]

/-- **Each period shows**: where it is worth two hundredths of a day, the credit of an employee
who is not pro-rated is within the entitlement only within the periods of a year. -/
theorem periodsInYear_of_withinEntitlement (hstored : leaveType.Stored)
    (hprorate : leaveType.prorateOnJoin = false)
    (hworth : 1 / 50 ≤ leaveType.annualEntitlement / periodsPerYear leaveType.creditFrequency)
    (h : WithinEntitlement today employee leaveType cycleStart cycleEnd) :
    PeriodsInYear leaveType.creditFrequency today cycleStart cycleEnd := by
  intro hperiodic
  have hpos := periodsPerYear_pos leaveType.creditFrequency
  have hannual : 0 ≤ leaveType.annualEntitlement := h.nonneg.trans h.le_annual
  have hyear : leaveType.annualEntitlement
      = leaveType.annualEntitlement / periodsPerYear leaveType.creditFrequency
        * periodsPerYear leaveType.creditFrequency := (div_mul_cancel₀ _ hpos.ne').symm
  have hnear := abs_le.mp
    (credit_bounds cycleStart cycleEnd employee hstored hannual hperiodic hprorate today)
  constructor
  · -- a period more than a year has is worth more than what the rounding takes
    rw [← periodsElapsed_le_iff hperiodic]
    by_contra hmore
    have hextra : (periodsPerYear leaveType.creditFrequency : ℚ) + 1
        ≤ periodsElapsed cycleStart today leaveType.creditFrequency := by
      obtain ⟨periods, hperiods⟩ := periodsPerYear_int leaveType.creditFrequency
      rw [hperiods] at hmore ⊢
      exact_mod_cast not_le.mp hmore
    have hcredit := mul_le_mul_of_nonneg_left hextra (le_trans (by norm_num) hworth)
    rw [mul_add, ← hyear] at hcredit
    linarith [h.le_annual, hnear.1]
  · intro hended
    have hnear' := abs_le.mp (credit_bounds cycleStart cycleEnd employee hstored hannual hperiodic
      hprorate cycleEnd)
    by_contra hchanged
    have hlater : cycleEnd ≤ today := le_of_lt hended
    have hextra : (periodsElapsed cycleStart cycleEnd leaveType.creditFrequency : ℚ) + 1
        ≤ periodsElapsed cycleStart today leaveType.creditFrequency := by
      exact_mod_cast lt_of_le_of_ne (periodsElapsed_mono leaveType.creditFrequency hlater)
        (Ne.symm hchanged)
    have hcredit := mul_le_mul_of_nonneg_left hextra (le_trans (by norm_num) hworth)
    rw [mul_add] at hcredit
    linarith [h.settled hended, hnear.1, hnear'.2]

/-- Twelve days a year, whenever one joined. -/
def twelveDays (frequency : LeaveCreditFrequency) : LeaveType where
  isCompOff := false
  isLossOfPay := false
  annualEntitlement := 12
  creditFrequency := frequency
  prorateOnJoin := false
  maxBalance := none
  leaveCycle := { cycleType := .calendarYear, startMonth := 1, startDay := 1 }
  twoPlaces := fun _ h => nomatch h

theorem twelveDays_stored (frequency : LeaveCreditFrequency) : (twelveDays frequency).Stored :=
  ⟨⟨1200, by norm_num [twelveDays]⟩, by norm_num [twelveDays]⟩

theorem twelveDays_worth (frequency : LeaveCreditFrequency) :
    1 / 50 ≤ (twelveDays frequency).annualEntitlement / periodsPerYear frequency := by
  cases frequency <;> norm_num [twelveDays, periodsPerYear]

/-- **Accrual stays within the entitlement** for every leave type of a frequency whose annual
amount is not negative, exactly when no more periods than a year has have started and, once the
cycle is over, none since its last day. Where a period is worth two hundredths of a day and
nothing is pro-rated, this holds of each leave type by itself. -/
theorem withinEntitlement_iff (frequency : LeaveCreditFrequency) (employee : Employee)
    (cycleStart cycleEnd today : Date) :
    ((∀ leaveType : LeaveType, leaveType.creditFrequency = frequency → leaveType.Stored →
        (WithinEntitlement today employee leaveType cycleStart cycleEnd
          ↔ 0 ≤ leaveType.annualEntitlement))
      ↔ PeriodsInYear frequency today cycleStart cycleEnd)
    ∧ ∀ leaveType : LeaveType, leaveType.creditFrequency = frequency → leaveType.Stored →
      leaveType.prorateOnJoin = false →
      1 / 50 ≤ leaveType.annualEntitlement / periodsPerYear frequency →
      (WithinEntitlement today employee leaveType cycleStart cycleEnd
        ↔ PeriodsInYear frequency today cycleStart cycleEnd) := by
  refine ⟨⟨fun h => ?_, fun h leaveType hfrequency hstored => ⟨fun hwithin => ?_, ?_⟩⟩, ?_⟩
  · have hwithin := (h (twelveDays frequency) rfl (twelveDays_stored frequency)).mpr
      (by norm_num [twelveDays])
    exact periodsInYear_of_withinEntitlement (twelveDays_stored frequency) rfl
      (twelveDays_worth frequency) hwithin
  · exact hwithin.nonneg.trans hwithin.le_annual
  · intro hannual
    exact withinEntitlement_of_periodsInYear hstored hannual (by rw [hfrequency]; exact h)
  · rintro leaveType rfl hstored hprorate hworth
    have hshare : 0 ≤ leaveType.annualEntitlement / periodsPerYear leaveType.creditFrequency :=
      le_trans (by norm_num) hworth
    have hpos := periodsPerYear_pos leaveType.creditFrequency
    have hannual : 0 ≤ leaveType.annualEntitlement := by
      have hyear := mul_nonneg hshare hpos.le
      rwa [div_mul_cancel₀ _ hpos.ne'] at hyear
    exact ⟨periodsInYear_of_withinEntitlement hstored hprorate hworth,
      withinEntitlement_of_periodsInYear hstored hannual⟩

namespace Sample

def joinedIn2020 : Employee :=
  { id := 1, organisation := 1, dateOfJoining := Date.ofYMD 2020 6 1 }

end Sample

/-- **Beyond the entitlement**: a day a month in the calendar year 2025, seen on 2 May 2026, and
in a year from 15 April 2025, seen four days before its end. -/
theorem accrual_beyond_entitlement :
    ¬ WithinEntitlement ⟨2026, 5, 2, by decide⟩ Sample.joinedIn2020 (twelveDays .monthly)
        ⟨2025, 1, 1, by decide⟩ ⟨2025, 12, 31, by decide⟩
      ∧ ¬ WithinEntitlement ⟨2026, 4, 10, by decide⟩ Sample.joinedIn2020 (twelveDays .monthly)
        ⟨2025, 4, 15, by decide⟩ ⟨2026, 4, 14, by decide⟩ := by
  refine ⟨fun h => ?_, fun h => ?_⟩
  · have hyear := periodsInYear_of_withinEntitlement (twelveDays_stored .monthly) rfl
      (twelveDays_worth .monthly) h
    exact absurd (hyear trivial).1 (by decide)
  · have hyear := periodsInYear_of_withinEntitlement (twelveDays_stored .monthly) rfl
      (twelveDays_worth .monthly) h
    exact absurd (hyear trivial).1 (by decide)

end TimeOff
