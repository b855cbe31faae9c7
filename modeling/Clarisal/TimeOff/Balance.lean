import Clarisal.TimeOff.Cycle

/-!
# Leave balances

A balance is recomputed from the request rows whenever it is read: the credit
of its cycle up to today, capped, and the units of the requests that lie
within the cycle. A request that reaches over the end of a cycle lies within
none.

The cap makes the credit depend on the units taken. What is taken stays within
opening balance, carried amount and credit when units are given back
(`taken_le_of_le`), when the credit grows (`cappedCredit_mono`), and the
credit only grows with the days (`computeCreditForPeriod_mono`).
-/

open Calendar

namespace TimeOff

open Approvals

/-! ## Credits -/

/-- The number of months of a period, both ends included. -/
def monthsSpanned (startDate endDate : Date) : ℤ :=
  ((endDate.year : ℤ) - startDate.year) * 12 + endDate.month - startDate.month + 1

def periodsElapsed (startDate endDate : Date) : LeaveCreditFrequency → ℤ
  | .yearly => 1
  | .monthly => max 1 (monthsSpanned startDate endDate)
  | .quarterly => max 1 ⌈(monthsSpanned startDate endDate : ℚ) / 3⌉
  | .halfYearly => max 1 ⌈(monthsSpanned startDate endDate : ℚ) / 6⌉
  | .manual => 0

def periodsPerYear : LeaveCreditFrequency → ℚ
  | .monthly => 12
  | .quarterly => 4
  | .halfYearly => 2
  | .yearly | .manual => 1

/-- The number of days of a period, both ends included. -/
def daysSpanned (startDate endDate : Date) : ℚ :=
  ((endDate.toordinal : ℤ) - startDate.toordinal + 1 : ℤ)

/-- An entitlement for the days employed in the cycle. -/
def prorateOnJoin (employee : Employee) (leaveType : LeaveType) (cycleStart cycleEnd : Date)
    (entitlement : ℚ) : ℚ :=
  match employee.dateOfJoining with
  | none => entitlement
  | some join =>
    if leaveType.prorateOnJoin ∧ cycleStart ≤ join ∧ join ≤ cycleEnd then
      Decimal.context 28 (Decimal.context 28 (entitlement * daysSpanned join cycleEnd)
        / daysSpanned cycleStart cycleEnd)
    else entitlement

/-- An annual amount for the periods of the cycle up to today. -/
def periodicEntitlement (today : Date) (annual : ℚ) (frequency : LeaveCreditFrequency)
    (cycleStart : Date) : ℚ :=
  Decimal.context 28 (Decimal.context 28 (annual / periodsPerYear frequency)
    * periodsElapsed cycleStart today frequency)

/-- **The credit of a cycle**, up to today. -/
def computeCreditForPeriod (today : Date) (employee : Employee) (leaveType : LeaveType)
    (cycleStart cycleEnd : Date) : ℚ :=
  let annual := decimal leaveType.annualEntitlement
  match leaveType.creditFrequency with
  | .manual => 0
  | .yearly => decimal (prorateOnJoin employee leaveType cycleStart cycleEnd annual)
  | frequency => decimal (prorateOnJoin employee leaveType cycleStart cycleEnd
      (periodicEntitlement today annual frequency cycleStart))

/-- The credit under the cap of the leave type. -/
def cappedCredit (leaveType : LeaveType) (total taken credited : ℚ) : ℚ :=
  match leaveType.maxBalance with
  | none => decimal credited
  | some maxBalance => max 0 (min (decimal credited) (decimal (maxBalance - total + taken)))

/-! ## Units -/

/-- **The units of a request**: its days, less its half days. -/
def leaveRequestUnits (startDate endDate : Date) (startSession endSession : DaySession) : ℚ :=
  -- one half day, also when the two sessions are different halves
  if startDate = endDate ∧ startSession ≠ .fullDay ∧ endSession ≠ .fullDay then 1 / 2
  else
    decimal (daysSpanned startDate endDate - (if startSession ≠ .fullDay then 1 / 2 else 0)
      - (if endSession ≠ .fullDay then 1 / 2 else 0))

/-- The requests of a status that lie within a cycle. -/
def LeaveRequest.IsWithin (key : BalanceKey) (status : LeaveRequestStatus) (r : LeaveRequest) :
    Prop :=
  r.employee = key.employee ∧ r.leaveType = key.leaveType ∧ r.status = status
    ∧ key.cycleStart ≤ r.startDate ∧ r.endDate ≤ key.cycleEnd

instance (key : BalanceKey) (status : LeaveRequestStatus) (r : LeaveRequest) :
    Decidable (r.IsWithin key status) :=
  inferInstanceAs (Decidable (_ ∧ _ ∧ _ ∧ _ ∧ _))

def getLeaveRequestTotalUnits (requests : List LeaveRequest) (key : BalanceKey)
    (status : LeaveRequestStatus) : ℚ :=
  ((requests.filter (fun r => r.IsWithin key status)).map LeaveRequest.totalUnits).sum

/-! ## Balances -/

theorem twoPlaces_decimal (x : ℚ) : TwoPlaces (decimal x) := Decimal.onGrid_quantize _ x

theorem decimal_of_twoPlaces {x : ℚ} (h : TwoPlaces x) : decimal x = x :=
  Decimal.quantize_of_onGrid (by norm_num) h

theorem twoPlaces_cappedCredit (leaveType : LeaveType) (total taken credited : ℚ) :
    TwoPlaces (cappedCredit leaveType total taken credited) := by
  unfold cappedCredit
  split
  · exact twoPlaces_decimal _
  · next m _ =>
    rcases max_choice 0 (min (decimal credited) (decimal (m - total + taken))) with h | h
    · rw [h]
      exact Decimal.onGrid_zero
    · rw [h]
      rcases min_choice (decimal credited) (decimal (m - total + taken)) with h | h <;>
        rw [h] <;> exact twoPlaces_decimal _

/-- What a cycle starts with. -/
def LeaveBalance.total (b : LeaveBalance) : ℚ := b.openingBalance + b.carriedForwardAmount

/-- What can still be requested. -/
def LeaveBalance.available (b : LeaveBalance) : ℚ :=
  b.openingBalance + b.carriedForwardAmount + b.creditedAmount - b.usedAmount - b.pendingAmount

/-- A balance row as it is inserted. -/
def LeaveBalance.new (key : BalanceKey) : LeaveBalance where
  key := key
  openingBalance := 0
  carriedForwardAmount := 0
  creditedAmount := 0
  usedAmount := 0
  pendingAmount := 0
  twoPlaces := ⟨Decimal.onGrid_zero, Decimal.onGrid_zero, Decimal.onGrid_zero,
    Decimal.onGrid_zero, Decimal.onGrid_zero⟩

/-- The units taken of a cycle: used and pending. -/
def takenUnits (requests : List LeaveRequest) (key : BalanceKey) : ℚ :=
  decimal (getLeaveRequestTotalUnits requests key .approved)
    + decimal (getLeaveRequestTotalUnits requests key .pending)

/-- The credit of a balance today, with some units taken. -/
def LeaveBalance.creditOf (m : Masters) (today : Date) (taken : ℚ) (b : LeaveBalance) : ℚ :=
  cappedCredit (m.leaveType b.key.leaveType) b.total taken
    (computeCreditForPeriod today (m.employee b.key.employee) (m.leaveType b.key.leaveType)
      b.key.cycleStart b.key.cycleEnd)

/-- **A balance, recomputed.** -/
def LeaveBalance.refresh (m : Masters) (t : LeaveTables) (b : LeaveBalance) : LeaveBalance :=
  { b with
    creditedAmount := b.creditOf m t.today (takenUnits t.requests b.key)
    usedAmount := decimal (getLeaveRequestTotalUnits t.requests b.key .approved)
    pendingAmount := decimal (getLeaveRequestTotalUnits t.requests b.key .pending)
    twoPlaces := ⟨b.twoPlaces.1, b.twoPlaces.2.1, twoPlaces_cappedCredit _ _ _ _,
      twoPlaces_decimal _, twoPlaces_decimal _⟩ }

/-- **The balance of the cycle a date lies in**, recomputed, and created first
when there is none. -/
def getOrCreateLeaveBalance (m : Masters) (employee : EmployeeId) (leaveType : LeaveTypeId)
    (asOf : Date) (t : LeaveTables) : Except String (LeaveBalance × LeaveTables) := do
  let (cycleStart, cycleEnd) ←
    getCycleWindow (m.leaveType leaveType).leaveCycle (m.employee employee) asOf
  let key : BalanceKey :=
    { employee := employee, leaveType := leaveType, cycleStart := cycleStart, cycleEnd := cycleEnd }
  match t.getBalance key with
  | some row =>
    let balance := row.refresh m t
    return (balance, { t with
      balances := Table.update (fun b => b.key = key) (fun _ => balance) t.balances })
  | none =>
    -- the first credit of a new balance enters the ledger, later ones do not
    let balance := (LeaveBalance.new key).refresh m t
    return (balance, { t with
      balances := t.balances ++ [balance]
      ledgerEntries := t.ledgerEntries ++ [
        { leaveBalance := key, entryType := .credit, amount := balance.creditedAmount,
          effectiveDate := cycleStart }] })

/-- An amount as it is printed. -/
def decimalText (x : ℚ) : String :=
  let paise := Decimal.roundHalfEven (x * 100)
  let sign := if paise < 0 then "-" else ""
  let rest := paise.natAbs % 100
  s!"{sign}{paise.natAbs / 100}.{rest / 10}{rest % 10}"

/-- Enough balance for a request, in the cycle of a date. The recomputed
balance stays when there is not. -/
def validateLeaveBalance (m : Masters) (employee : EmployeeId) (leaveType : LeaveTypeId)
    (requestedUnits : ℚ) (asOf : Date) (t : LeaveTables) : Except String Unit × LeaveTables :=
  if (m.leaveType leaveType).isLossOfPay then (.ok (), t)
  else
    match getOrCreateLeaveBalance m employee leaveType asOf t with
    | .error message => (.error message, t)
    | .ok (balance, t) =>
      if decimal balance.available < decimal requestedUnits then
        (.error ("Insufficient leave balance. Available: " ++ decimalText balance.available
          ++ " days, Requested: " ++ decimalText requestedUnits ++ " days."), t)
      else (.ok (), t)

/-! ## Credits grow with the days -/

/-- **A credit that is never taken back**: the entitlement is not negative, or
nothing is credited, or a cap keeps the credit from falling below zero. -/
def LeaveType.CreditGrows (leaveType : LeaveType) : Prop :=
  0 ≤ leaveType.annualEntitlement ∨ leaveType.creditFrequency = .manual
    ∨ leaveType.maxBalance.isSome

section Credits

variable {today today' startDate endDate : Date} {employee : Employee} {leaveType : LeaveType}

theorem one_le_daysSpanned (h : startDate ≤ endDate) : 1 ≤ daysSpanned startDate endDate := by
  have hle : startDate.toordinal ≤ endDate.toordinal := h
  have hdays : (1 : ℤ) ≤ (endDate.toordinal : ℤ) - startDate.toordinal + 1 := by omega
  unfold daysSpanned
  rw [← Int.cast_one]
  exact Int.cast_le.mpr hdays

theorem monthsSpanned_mono (h : today ≤ today') :
    monthsSpanned startDate today ≤ monthsSpanned startDate today' := by
  obtain ⟨-, -, hmonth, hmonth', -⟩ := today.valid
  obtain ⟨-, -, hmonth₂, hmonth₂', -⟩ := today'.valid
  have hyear : today.year ≤ today'.year := by
    by_contra hlt
    exact absurd (Date.toordinal_lt_of_year (not_le.mp hlt)) (not_lt.mpr h)
  have hsame : today.year = today'.year → today.month ≤ today'.month := by
    intro heq
    by_contra hlt
    exact absurd (Date.toordinal_lt_of_month heq.symm (not_le.mp hlt)) (not_lt.mpr h)
  unfold monthsSpanned
  rcases hyear.lt_or_eq with hlt | heq
  · omega
  · have := hsame heq
    omega

theorem periodsElapsed_mono (frequency : LeaveCreditFrequency) (h : today ≤ today') :
    periodsElapsed startDate today frequency ≤ periodsElapsed startDate today' frequency := by
  have hmonths : monthsSpanned startDate today ≤ monthsSpanned startDate today' :=
    monthsSpanned_mono h
  cases frequency with
  | manual => exact le_rfl
  | yearly => exact le_rfl
  | monthly => exact max_le_max le_rfl hmonths
  | quarterly =>
    refine max_le_max le_rfl (Int.ceil_mono ?_)
    gcongr
  | halfYearly =>
    refine max_le_max le_rfl (Int.ceil_mono ?_)
    gcongr

theorem periodsElapsed_nonneg (frequency : LeaveCreditFrequency) :
    0 ≤ periodsElapsed startDate today frequency := by
  cases frequency <;> simp [periodsElapsed]

theorem periodsPerYear_pos (frequency : LeaveCreditFrequency) : 0 < periodsPerYear frequency := by
  cases frequency <;> simp [periodsPerYear]

/-- Pro-ration keeps the order of the entitlements that are not negative. -/
theorem prorateOnJoin_mono {x y : ℚ} (hx : 0 ≤ x) (h : x ≤ y) :
    prorateOnJoin employee leaveType startDate endDate x
      ≤ prorateOnJoin employee leaveType startDate endDate y := by
  unfold prorateOnJoin
  split
  · exact h
  · next join _ =>
    split
    · next hjoin =>
      have hworked := zero_le_one.trans (one_le_daysSpanned hjoin.2.2)
      have htotal := zero_le_one.trans (one_le_daysSpanned (hjoin.2.1.trans hjoin.2.2))
      have hproduct : 0 ≤ Decimal.context 28 (x * daysSpanned join endDate) :=
        Decimal.context_nonneg 28 (mul_nonneg hx hworked)
      refine Decimal.context_mono (by norm_num) (div_nonneg hproduct htotal) ?_
      exact div_le_div_of_nonneg_right (Decimal.context_mono (by norm_num)
        (mul_nonneg hx hworked) (mul_le_mul_of_nonneg_right h hworked)) htotal
    · exact h

theorem prorateOnJoin_nonneg {x : ℚ} (hx : 0 ≤ x) :
    0 ≤ prorateOnJoin employee leaveType startDate endDate x := by
  have hzero : prorateOnJoin employee leaveType startDate endDate 0 = 0 := by
    unfold prorateOnJoin
    split
    · rfl
    · split <;> simp
  rw [← hzero]
  exact prorateOnJoin_mono le_rfl hx

theorem prorateOnJoin_nonpos {x : ℚ} (hx : x ≤ 0) :
    prorateOnJoin employee leaveType startDate endDate x ≤ 0 := by
  unfold prorateOnJoin
  split
  · exact hx
  · next join _ =>
    split
    · next hjoin =>
      have hworked := zero_le_one.trans (one_le_daysSpanned hjoin.2.2)
      have htotal := zero_le_one.trans (one_le_daysSpanned (hjoin.2.1.trans hjoin.2.2))
      exact Decimal.context_nonpos 28 (div_nonpos_of_nonpos_of_nonneg
        (Decimal.context_nonpos 28 (mul_nonpos_of_nonpos_of_nonneg hx hworked)) htotal)
    · exact hx

theorem periodicEntitlement_mono {annual : ℚ} (hannual : 0 ≤ annual)
    (frequency : LeaveCreditFrequency) (h : today ≤ today') :
    periodicEntitlement today annual frequency startDate
      ≤ periodicEntitlement today' annual frequency startDate := by
  have hshare : 0 ≤ Decimal.context 28 (annual / periodsPerYear frequency) :=
    Decimal.context_nonneg 28 (div_nonneg hannual (periodsPerYear_pos frequency).le)
  have helapsed : (0 : ℚ) ≤ periodsElapsed startDate today frequency := by
    exact_mod_cast periodsElapsed_nonneg frequency
  have hmono : (periodsElapsed startDate today frequency : ℚ)
      ≤ periodsElapsed startDate today' frequency := by
    exact_mod_cast periodsElapsed_mono frequency h
  exact Decimal.context_mono (by norm_num) (mul_nonneg hshare helapsed)
    (mul_le_mul_of_nonneg_left hmono hshare)

theorem periodicEntitlement_nonneg {annual : ℚ} (hannual : 0 ≤ annual)
    (frequency : LeaveCreditFrequency) :
    0 ≤ periodicEntitlement today annual frequency startDate :=
  Decimal.context_nonneg 28 (mul_nonneg
    (Decimal.context_nonneg 28 (div_nonneg hannual (periodsPerYear_pos frequency).le))
    (by exact_mod_cast periodsElapsed_nonneg frequency))

theorem periodicEntitlement_nonpos {annual : ℚ} (hannual : annual ≤ 0)
    (frequency : LeaveCreditFrequency) :
    periodicEntitlement today annual frequency startDate ≤ 0 :=
  Decimal.context_nonpos 28 (mul_nonpos_of_nonpos_of_nonneg
    (Decimal.context_nonpos 28
      (div_nonpos_of_nonpos_of_nonneg hannual (periodsPerYear_pos frequency).le))
    (by exact_mod_cast periodsElapsed_nonneg frequency))

/-- **The credit grows with the days.** -/
theorem computeCreditForPeriod_mono (hannual : 0 ≤ leaveType.annualEntitlement)
    (h : today ≤ today') :
    computeCreditForPeriod today employee leaveType startDate endDate
      ≤ computeCreditForPeriod today' employee leaveType startDate endDate := by
  have hannual' : 0 ≤ decimal leaveType.annualEntitlement :=
    Decimal.quantize_nonneg (by norm_num) hannual
  have hperiodic : ∀ frequency,
      decimal (prorateOnJoin employee leaveType startDate endDate
          (periodicEntitlement today (decimal leaveType.annualEntitlement) frequency startDate))
        ≤ decimal (prorateOnJoin employee leaveType startDate endDate
          (periodicEntitlement today' (decimal leaveType.annualEntitlement) frequency startDate)) :=
    fun frequency => Decimal.quantize_mono (by norm_num)
      (prorateOnJoin_mono (periodicEntitlement_nonneg hannual' frequency)
        (periodicEntitlement_mono hannual' frequency h))
  unfold computeCreditForPeriod
  cases hfrequency : leaveType.creditFrequency with
  | manual => exact le_rfl
  | yearly => exact le_rfl
  | monthly => exact hperiodic .monthly
  | quarterly => exact hperiodic .quarterly
  | halfYearly => exact hperiodic .halfYearly

/-- The credit has the sign of the entitlement. -/
theorem computeCreditForPeriod_nonneg (hannual : 0 ≤ leaveType.annualEntitlement) :
    0 ≤ computeCreditForPeriod today employee leaveType startDate endDate := by
  have hannual' : 0 ≤ decimal leaveType.annualEntitlement :=
    Decimal.quantize_nonneg (by norm_num) hannual
  have hprorate : ∀ {x : ℚ}, 0 ≤ x →
      0 ≤ decimal (prorateOnJoin employee leaveType startDate endDate x) := fun hx =>
    Decimal.quantize_nonneg (by norm_num) (prorateOnJoin_nonneg hx)
  unfold computeCreditForPeriod
  cases hfrequency : leaveType.creditFrequency with
  | manual => exact le_rfl
  | yearly => exact hprorate hannual'
  | monthly => exact hprorate (periodicEntitlement_nonneg hannual' .monthly)
  | quarterly => exact hprorate (periodicEntitlement_nonneg hannual' .quarterly)
  | halfYearly => exact hprorate (periodicEntitlement_nonneg hannual' .halfYearly)

theorem computeCreditForPeriod_nonpos (hannual : leaveType.annualEntitlement ≤ 0) :
    computeCreditForPeriod today employee leaveType startDate endDate ≤ 0 := by
  have hannual' : decimal leaveType.annualEntitlement ≤ 0 :=
    Decimal.quantize_nonpos (by norm_num) hannual
  have hprorate : ∀ {x : ℚ}, x ≤ 0 →
      decimal (prorateOnJoin employee leaveType startDate endDate x) ≤ 0 := fun hx =>
    Decimal.quantize_nonpos (by norm_num) (prorateOnJoin_nonpos hx)
  unfold computeCreditForPeriod
  cases hfrequency : leaveType.creditFrequency with
  | manual => exact le_rfl
  | yearly => exact hprorate hannual'
  | monthly => exact hprorate (periodicEntitlement_nonpos hannual' .monthly)
  | quarterly => exact hprorate (periodicEntitlement_nonpos hannual' .quarterly)
  | halfYearly => exact hprorate (periodicEntitlement_nonpos hannual' .halfYearly)

end Credits

/-! ## What is taken stays within what is credited -/

section Capped

variable {leaveType : LeaveType} {total taken taken' credited credited' : ℚ}

theorem cappedCredit_mono (hcredited : credited ≤ credited') (htaken : taken ≤ taken') :
    cappedCredit leaveType total taken credited
      ≤ cappedCredit leaveType total taken' credited' := by
  have hquantize := Decimal.quantize_mono (by norm_num : (0 : ℚ) < 1 / 100) hcredited
  unfold cappedCredit
  split
  · exact hquantize
  · exact max_le_max le_rfl (min_le_min hquantize
      (Decimal.quantize_mono (by norm_num) (by linarith)))

/-- **Giving units back keeps what is taken within the credit**, although it
may lower the capped credit by as much. -/
theorem taken_le_of_le (htotal : TwoPlaces total) (htaken : TwoPlaces taken)
    (htaken' : TwoPlaces taken') (hle : taken' ≤ taken)
    (h : taken ≤ total + cappedCredit leaveType total taken credited) :
    taken' ≤ total + cappedCredit leaveType total taken' credited := by
  unfold cappedCredit at h ⊢
  cases hmax : leaveType.maxBalance with
  | none =>
    rw [hmax] at h
    exact hle.trans h
  | some m =>
    rw [hmax] at h
    dsimp only at h ⊢
    have hm : TwoPlaces m := leaveType.twoPlaces m hmax
    rw [decimal_of_twoPlaces ((hm.sub htotal).add htaken)] at h
    rw [decimal_of_twoPlaces ((hm.sub htotal).add htaken')]
    by_cases hwithin : taken' ≤ total
    · have := le_max_left 0 (min (decimal credited) (m - total + taken'))
      linarith
    · -- more is taken than the cycle started with, so the credit is the smaller amount
      have hpos : max 0 (min (decimal credited) (m - total + taken))
          = min (decimal credited) (m - total + taken) := by
        refine max_eq_right (le_of_not_gt (fun hneg => ?_))
        rw [max_eq_left hneg.le] at h
        linarith
      rw [hpos] at h
      have hcredit := min_le_left (decimal credited) (m - total + taken)
      have hcap := min_le_right (decimal credited) (m - total + taken)
      have : taken' - total ≤ min (decimal credited) (m - total + taken') :=
        le_min (by linarith) (by linarith)
      have := this.trans (le_max_right 0 _)
      linarith

variable {today today' startDate endDate : Date} {employee : Employee}

/-- Under a credit that is never taken back, the capped credit is not negative. -/
theorem cappedCredit_nonneg (hgrows : leaveType.CreditGrows) :
    0 ≤ cappedCredit leaveType total taken
      (computeCreditForPeriod today employee leaveType startDate endDate) := by
  unfold cappedCredit
  split
  · next hnone =>
    refine Decimal.quantize_nonneg (by norm_num) ?_
    rcases hgrows with hannual | hmanual | hmax
    · exact computeCreditForPeriod_nonneg hannual
    · simp [computeCreditForPeriod, hmanual]
    · simp [hnone] at hmax
  · exact le_max_left 0 _

/-- Under a credit that is never taken back, the capped credit grows with the
days. -/
theorem cappedCredit_days_mono (hgrows : leaveType.CreditGrows) (h : today ≤ today') :
    cappedCredit leaveType total taken
        (computeCreditForPeriod today employee leaveType startDate endDate)
      ≤ cappedCredit leaveType total taken
        (computeCreditForPeriod today' employee leaveType startDate endDate) := by
  by_cases hannual : 0 ≤ leaveType.annualEntitlement
  · exact cappedCredit_mono (computeCreditForPeriod_mono hannual h) le_rfl
  · rcases hgrows with hpos | hmanual | hmax
    · exact absurd hpos hannual
    · simp [computeCreditForPeriod, hmanual]
    · obtain ⟨m, hm⟩ := Option.isSome_iff_exists.mp hmax
      have hzero : ∀ today, cappedCredit leaveType total taken
          (computeCreditForPeriod today employee leaveType startDate endDate) = 0 := fun today => by
        simp only [cappedCredit, hm]
        exact max_eq_left ((min_le_left _ _).trans (Decimal.quantize_nonpos (by norm_num)
          (computeCreditForPeriod_nonpos (not_le.mp hannual).le)))
      rw [hzero, hzero]

end Capped

end TimeOff
