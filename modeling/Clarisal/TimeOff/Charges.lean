import Clarisal.TimeOff.Requests
import Mathlib.Algebra.Order.BigOperators.Group.List

/-!
# What is charged to a leave cycle

A request is charged to the cycle it lies within, and to no cycle when it lies
within none. `Charged` says of one employee and leave type that every request
lies within the cycle of a balance, and that no balance is overdrawn, neither
as it is stored nor as it would be recomputed today.

It survives everything that gives units back (`Charged.ease`), recomputing a
balance (`Charged.refresh`), and a new request for which the recomputed
balance has enough (`Charged.insert`).
-/

open Calendar

namespace TimeOff

open Approvals Transaction

/-! ## Units -/

theorem twoPlaces_leaveRequestUnits (startDate endDate : Date)
    (startSession endSession : DaySession) :
    TwoPlaces (leaveRequestUnits startDate endDate startSession endSession) := by
  unfold leaveRequestUnits
  split
  · exact ⟨50, by norm_num⟩
  · exact twoPlaces_decimal _

theorem leaveRequestUnits_nonneg {startDate endDate : Date} (h : startDate ≤ endDate)
    (startSession endSession : DaySession) :
    0 ≤ leaveRequestUnits startDate endDate startSession endSession := by
  unfold leaveRequestUnits
  split
  · norm_num
  · next hhalves =>
    refine Decimal.quantize_nonneg (by norm_num) ?_
    have hone := one_le_daysSpanned h
    split_ifs with hstart hend
    · -- two halves of one day are the first case, so there are two days
      have hlt : startDate < endDate := lt_of_le_of_ne h (fun heq => hhalves ⟨heq, hstart, hend⟩)
      linarith
    all_goals linarith

/-! ## Sums over requests -/

/-- A request that is taken, or may be. -/
abbrev LeaveRequest.IsActive (r : LeaveRequest) : Prop :=
  r.status = .pending ∨ r.status = .approved

/-- The cycle of a balance has a request within it. -/
abbrev BalanceKey.Holds (key : BalanceKey) (r : LeaveRequest) : Prop :=
  r.employee = key.employee ∧ r.leaveType = key.leaveType
    ∧ key.cycleStart ≤ r.startDate ∧ r.endDate ≤ key.cycleEnd

/-- The balances of an employee and leave type. -/
abbrev BalanceKey.IsOf (key : BalanceKey) (employee : EmployeeId) (leaveType : LeaveTypeId) :
    Prop :=
  key.employee = employee ∧ key.leaveType = leaveType

/-- What a request takes of a cycle. -/
def LeaveRequest.takenIn (key : BalanceKey) (r : LeaveRequest) : ℚ :=
  if key.Holds r ∧ r.IsActive then r.totalUnits else 0

theorem sum_map_filter {α : Type*} (p : α → Bool) (f : α → ℚ) (l : List α) :
    ((l.filter p).map f).sum = (l.map (fun a => if p a then f a else 0)).sum := by
  induction l with
  | nil => rfl
  | cons a l ih => cases hp : p a <;> simp [hp, ih]

/-- **The units taken of a cycle**, request by request. -/
theorem takenUnits_eq {requests : List LeaveRequest}
    (h : ∀ r ∈ requests, TwoPlaces r.totalUnits) (key : BalanceKey) :
    takenUnits requests key = (requests.map (LeaveRequest.takenIn key)).sum := by
  have hgrid : ∀ status, TwoPlaces (getLeaveRequestTotalUnits requests key status) := fun status =>
    Decimal.onGrid_sum (fun x hx => by
      obtain ⟨r, hr, rfl⟩ := List.mem_map.mp hx
      exact h r (List.mem_of_mem_filter hr))
  rw [takenUnits, decimal_of_twoPlaces (hgrid _), decimal_of_twoPlaces (hgrid _),
    getLeaveRequestTotalUnits, getLeaveRequestTotalUnits, sum_map_filter, sum_map_filter,
    ← List.sum_map_add]
  refine congrArg List.sum (List.map_congr_left (fun r _ => ?_))
  unfold LeaveRequest.takenIn
  by_cases hholds : key.Holds r
  · by_cases happroved : r.status = .approved
    · simp [LeaveRequest.IsWithin, LeaveRequest.IsActive, happroved, hholds]
    · by_cases hpending : r.status = .pending <;>
        simp [LeaveRequest.IsWithin, LeaveRequest.IsActive, happroved, hpending, hholds]
  · have hnot : ∀ status, ¬ r.IsWithin key status := fun status hw =>
      hholds ⟨hw.1, hw.2.1, hw.2.2.2.1, hw.2.2.2.2⟩
    simp [hnot, hholds]

theorem twoPlaces_takenUnits (requests : List LeaveRequest) (key : BalanceKey) :
    TwoPlaces (takenUnits requests key) := (twoPlaces_decimal _).add (twoPlaces_decimal _)

theorem twoPlaces_available (b : LeaveBalance) : TwoPlaces b.available := by
  obtain ⟨hopening, hcarried, hcredited, hused, hpending⟩ := b.twoPlaces
  exact (((hopening.add hcarried).add hcredited).sub hused).sub hpending

theorem twoPlaces_total (b : LeaveBalance) : TwoPlaces b.total := b.twoPlaces.1.add b.twoPlaces.2.1

/-! ## The invariant -/

/-- **No balance of the employee and leave type is overdrawn.** -/
structure Charged (m : Masters) (employee : EmployeeId) (leaveType : LeaveTypeId)
    (t : LeaveTables) : Prop where
  units : ∀ r ∈ t.requests, r.startDate ≤ r.endDate ∧ r.totalUnits = r.span.units
  window : ∀ b ∈ t.balances, b.key.IsOf employee leaveType → ∃ asOf,
    getCycleWindow (m.leaveType leaveType).leaveCycle (m.employee employee) asOf
      = .ok (b.key.cycleStart, b.key.cycleEnd)
  charged : ∀ r ∈ t.requests, r.employee = employee → r.leaveType = leaveType →
    ∃ b ∈ t.balances, b.key.Holds r
  stored : ∀ b ∈ t.balances, b.key.IsOf employee leaveType →
    takenUnits t.requests b.key ≤ b.total + b.creditedAmount
  current : ∀ b ∈ t.balances, b.key.IsOf employee leaveType →
    takenUnits t.requests b.key
      ≤ b.total + b.creditOf m t.today (takenUnits t.requests b.key)

/-- The request as far as charges go. -/
structure SameCharge (r r' : LeaveRequest) : Prop where
  id : r'.id = r.id
  employee : r'.employee = r.employee
  leaveType : r'.leaveType = r.leaveType
  span : r'.span = r.span
  totalUnits : r'.totalUnits = r.totalUnits

/-- **Units are given back, or nothing happens**: requests change their status
only, and none becomes active. -/
structure Eases (t t' : LeaveTables) : Prop where
  balances : t'.balances = t.balances
  today : t'.today = t.today
  nextRequest : t'.nextRequest = t.nextRequest
  requests : ∃ f : LeaveRequest → LeaveRequest, t'.requests = t.requests.map f
    ∧ ∀ r ∈ t.requests, SameCharge r (f r) ∧ ((f r).IsActive → r.IsActive)

theorem Eases.refl (t : LeaveTables) : Eases t t where
  balances := rfl
  today := rfl
  nextRequest := rfl
  requests := ⟨id, (List.map_id _).symm, fun _ _ => ⟨⟨rfl, rfl, rfl, rfl, rfl⟩, fun h => h⟩⟩

section

variable {m : Masters} {employee : EmployeeId} {leaveType : LeaveTypeId} {t t' : LeaveTables}

theorem twoPlaces_of_units {requests : List LeaveRequest}
    (h : ∀ r ∈ requests, r.startDate ≤ r.endDate ∧ r.totalUnits = r.span.units) :
    ∀ r ∈ requests, TwoPlaces r.totalUnits := by
  intro r hr
  rw [(h r hr).2]
  exact twoPlaces_leaveRequestUnits _ _ _ _

theorem Charged.nonneg (h : Charged m employee leaveType t) :
    ∀ r ∈ t.requests, 0 ≤ r.totalUnits := by
  intro r hr
  obtain ⟨hdates, hunits⟩ := h.units r hr
  rw [hunits]
  exact leaveRequestUnits_nonneg hdates _ _

theorem SameCharge.holds_iff {r r' : LeaveRequest} (h : SameCharge r r') (key : BalanceKey) :
    key.Holds r' ↔ key.Holds r := by
  have hstart : r'.startDate = r.startDate := congrArg LeaveSpan.startDate h.span
  have hend : r'.endDate = r.endDate := congrArg LeaveSpan.endDate h.span
  unfold BalanceKey.Holds
  rw [h.employee, h.leaveType, hstart, hend]

/-- **Giving units back.** -/
theorem Charged.ease (h : Charged m employee leaveType t) (hease : Eases t t') :
    Charged m employee leaveType t' := by
  obtain ⟨hbalances, htoday, -, f, hrequests, hf⟩ := hease
  have hunits : ∀ r ∈ t'.requests, r.startDate ≤ r.endDate ∧ r.totalUnits = r.span.units := by
    intro r' hr'
    rw [hrequests] at hr'
    obtain ⟨r, hr, rfl⟩ := List.mem_map.mp hr'
    obtain ⟨hsame, -⟩ := hf r hr
    rw [show (f r).startDate = r.startDate from congrArg LeaveSpan.startDate hsame.span,
      show (f r).endDate = r.endDate from congrArg LeaveSpan.endDate hsame.span, hsame.totalUnits,
      hsame.span]
    exact h.units r hr
  have htaken : ∀ key, takenUnits t'.requests key ≤ takenUnits t.requests key := by
    intro key
    rw [takenUnits_eq (twoPlaces_of_units hunits), takenUnits_eq (twoPlaces_of_units h.units),
      hrequests, List.map_map]
    refine List.sum_le_sum (fun r hr => ?_)
    obtain ⟨hsame, hactive⟩ := hf r hr
    simp only [Function.comp_apply, LeaveRequest.takenIn, hsame.holds_iff, hsame.totalUnits]
    have hpos := h.nonneg r hr
    split_ifs with hnew hold
    · exact le_rfl
    · exact absurd ⟨hnew.1, hactive hnew.2⟩ hold
    · exact hpos
    · exact le_rfl
  refine ⟨hunits, ?_, ?_, ?_, ?_⟩
  · rw [hbalances]
    exact h.window
  · intro r' hr' he hl
    rw [hrequests] at hr'
    obtain ⟨r, hr, rfl⟩ := List.mem_map.mp hr'
    obtain ⟨hsame, -⟩ := hf r hr
    obtain ⟨b, hb, hholds⟩ := h.charged r hr (hsame.employee ▸ he) (hsame.leaveType ▸ hl)
    exact ⟨b, hbalances ▸ hb, (hsame.holds_iff _).mpr hholds⟩
  · intro b hb hof
    rw [hbalances] at hb
    exact (htaken _).trans (h.stored b hb hof)
  · intro b hb hof
    rw [hbalances] at hb
    rw [htoday]
    exact taken_le_of_le (twoPlaces_total b) (twoPlaces_takenUnits _ _) (twoPlaces_takenUnits _ _)
      (htaken _) (h.current b hb hof)

/-- **The passing of days**, under a credit that is never taken back. -/
theorem Charged.laterDay (h : Charged m employee leaveType t)
    (hgrows : (m.leaveType leaveType).CreditGrows) {date : Date} (hdate : t.today ≤ date) :
    Charged m employee leaveType { t with today := date } where
  units := h.units
  window := h.window
  charged := h.charged
  stored := h.stored
  current b hb hof := by
    refine (h.current b hb hof).trans (add_le_add_right ?_ _)
    unfold LeaveBalance.creditOf
    rw [hof.2]
    exact cappedCredit_days_mono hgrows hdate

/-! ## Recomputing a balance -/

/-- **A row is recomputed**, or inserted recomputed when its key is new. -/
structure Recomputes (m : Masters) (t t' : LeaveTables) (row : LeaveBalance) : Prop where
  origin : row ∈ t.balances
    ∨ (row = LeaveBalance.new row.key ∧ ∀ b ∈ t.balances, b.key ≠ row.key)
  balances : ∀ b, b ∈ t'.balances
    ↔ b = row.refresh m t ∨ (b ∈ t.balances ∧ b.key ≠ row.key)
  requests : t'.requests = t.requests
  today : t'.today = t.today
  nextRequest : t'.nextRequest = t.nextRequest

theorem getOrCreateLeaveBalance_eq_ok {asOf : Date} {balance : LeaveBalance}
    (h : getOrCreateLeaveBalance m employee leaveType asOf t = .ok (balance, t')) :
    ∃ row : LeaveBalance, balance = row.refresh m t ∧ row.key.IsOf employee leaveType
      ∧ getCycleWindow (m.leaveType leaveType).leaveCycle (m.employee employee) asOf
        = .ok (row.key.cycleStart, row.key.cycleEnd)
      ∧ Recomputes m t t' row := by
  obtain ⟨⟨cycleStart, cycleEnd⟩, hwindow, h⟩ := bind_eq_ok_iff.mp h
  dsimp only at h
  split at h
  · next row hrow =>
    obtain ⟨rfl, rfl⟩ := Prod.mk.inj (Except.ok.inj h)
    have hmem : row ∈ t.balances := Table.find_mem hrow
    have hkey := Table.find_key hrow
    refine ⟨row, rfl, by rw [hkey]; exact ⟨rfl, rfl⟩, by rw [hkey]; exact hwindow,
      ⟨Or.inl hmem, fun b => ?_, rfl, rfl, rfl⟩⟩
    simp only [Table.mem_update_iff, decide_eq_true_eq, decide_eq_false_iff_not, ← hkey]
    refine or_congr_left ⟨?_, fun hb => ⟨row, hmem, rfl, hb.symm⟩⟩
    rintro ⟨_, _, _, rfl⟩
    rfl
  · next hnone =>
    obtain ⟨rfl, rfl⟩ := Prod.mk.inj (Except.ok.inj h)
    have hunused := Table.find_eq_none_iff.mp hnone
    refine ⟨LeaveBalance.new ⟨employee, leaveType, cycleStart, cycleEnd⟩, rfl, ⟨rfl, rfl⟩, hwindow,
      ⟨Or.inr ⟨rfl, hunused⟩, fun b => ?_, rfl, rfl, rfl⟩⟩
    rw [List.mem_append, List.mem_singleton, or_comm]
    exact or_congr_right ⟨fun hb => ⟨hb, hunused b hb⟩, And.left⟩

/-- **Cycles tile**: two of them are one or disjoint. -/
theorem key_eq_or_disjoint (hstart : ((m.leaveType leaveType).leaveCycle.startsOn
      (m.employee employee)).isSome) {key key' : BalanceKey} {asOf asOf' : Date}
    (hof : key.IsOf employee leaveType) (hof' : key'.IsOf employee leaveType)
    (hwindow : getCycleWindow (m.leaveType leaveType).leaveCycle (m.employee employee) asOf
      = .ok (key.cycleStart, key.cycleEnd))
    (hwindow' : getCycleWindow (m.leaveType leaveType).leaveCycle (m.employee employee) asOf'
      = .ok (key'.cycleStart, key'.cycleEnd)) :
    key = key' ∨ key.cycleEnd < key'.cycleStart ∨ key'.cycleEnd < key.cycleStart := by
  obtain ⟨⟨month, day⟩, hsome⟩ := Option.isSome_iff_exists.mp hstart
  refine (anniversaryWindow_eq_or_disjoint ((getCycleWindow_eq_ok hsome).mp hwindow)
    ((getCycleWindow_eq_ok hsome).mp hwindow')).imp_left (fun heq => ?_)
  obtain ⟨hs, he⟩ := Prod.mk.inj heq
  cases key
  cases key'
  simp only [BalanceKey.IsOf] at hof hof' hs he
  obtain ⟨rfl, rfl⟩ := hof
  obtain ⟨rfl, rfl⟩ := hof'
  rw [hs, he]

/-- Two cycles with a request within are one. -/
theorem key_eq_of_holds (hstart : ((m.leaveType leaveType).leaveCycle.startsOn
      (m.employee employee)).isSome) {key key' : BalanceKey} {r : LeaveRequest}
    {asOf asOf' : Date} (hof : key.IsOf employee leaveType) (hof' : key'.IsOf employee leaveType)
    (hwindow : getCycleWindow (m.leaveType leaveType).leaveCycle (m.employee employee) asOf
      = .ok (key.cycleStart, key.cycleEnd))
    (hwindow' : getCycleWindow (m.leaveType leaveType).leaveCycle (m.employee employee) asOf'
      = .ok (key'.cycleStart, key'.cycleEnd))
    (hdates : r.startDate ≤ r.endDate) (hholds : key.Holds r) (hholds' : key'.Holds r) :
    key = key' := by
  obtain ⟨-, -, hbefore, hafter⟩ := hholds
  obtain ⟨-, -, hbefore', hafter'⟩ := hholds'
  rcases key_eq_or_disjoint hstart hof hof' hwindow hwindow' with heq | hlt | hlt
  · exact heq
  · exact absurd (hlt.trans_le (hbefore'.trans (hdates.trans hafter))) (lt_irrefl _)
  · exact absurd (hlt.trans_le (hbefore.trans (hdates.trans hafter'))) (lt_irrefl _)

variable (hgrows : (m.leaveType leaveType).CreditGrows)
  (hstart : ((m.leaveType leaveType).leaveCycle.startsOn (m.employee employee)).isSome)

include hgrows hstart in
/-- The recomputed row is not overdrawn: a new cycle has no request yet. -/
theorem Charged.row_current (h : Charged m employee leaveType t) {row : LeaveBalance}
    {asOf : Date} (hof : row.key.IsOf employee leaveType)
    (hwindow : getCycleWindow (m.leaveType leaveType).leaveCycle (m.employee employee) asOf
      = .ok (row.key.cycleStart, row.key.cycleEnd)) (hrow : Recomputes m t t' row) :
    takenUnits t.requests row.key
      ≤ row.total + row.creditOf m t.today (takenUnits t.requests row.key) := by
  rcases hrow.origin with hmem | ⟨hnew, hunused⟩
  · exact h.current row hmem hof
  · have hnone : ∀ r ∈ t.requests, ¬ row.key.Holds r := by
      intro r hr hholds
      obtain ⟨b, hb, hbr⟩ := h.charged r hr (hholds.1.trans hof.1) (hholds.2.1.trans hof.2)
      have hbof : b.key.IsOf employee leaveType :=
        ⟨hbr.1.symm.trans (hholds.1.trans hof.1), hbr.2.1.symm.trans (hholds.2.1.trans hof.2)⟩
      obtain ⟨asOf', hwindow'⟩ := h.window b hb hbof
      exact hunused b hb
        (key_eq_of_holds hstart hbof hof hwindow' hwindow (h.units r hr).1 hbr hholds)
    have hzero : takenUnits t.requests row.key = 0 := by
      rw [takenUnits_eq (twoPlaces_of_units h.units)]
      refine List.sum_eq_zero (fun x hx => ?_)
      obtain ⟨r, hr, rfl⟩ := List.mem_map.mp hx
      simp [LeaveRequest.takenIn, hnone r hr]
    have htotal : row.total = 0 := by
      rw [hnew]
      exact add_zero 0
    rw [hzero, htotal, zero_add]
    unfold LeaveBalance.creditOf
    rw [hof.2]
    exact cappedCredit_nonneg hgrows

include hgrows hstart in
/-- **Recomputing a balance.** -/
theorem Charged.recompute (h : Charged m employee leaveType t) {row : LeaveBalance}
    (hwindow : row.key.IsOf employee leaveType → ∃ asOf,
      getCycleWindow (m.leaveType leaveType).leaveCycle (m.employee employee) asOf
        = .ok (row.key.cycleStart, row.key.cycleEnd)) (hrow : Recomputes m t t' row) :
    Charged m employee leaveType t' := by
  have hkey : (row.refresh m t).key = row.key := rfl
  -- the stored amounts of the recomputed row are the current ones
  have hcurrent : row.key.IsOf employee leaveType → takenUnits t.requests row.key
      ≤ row.total + row.creditOf m t.today (takenUnits t.requests row.key) := by
    intro hof
    obtain ⟨asOf, hwindow⟩ := hwindow hof
    exact h.row_current hgrows hstart hof hwindow hrow
  refine ⟨?_, ?_, ?_, ?_, ?_⟩
  · rw [hrow.requests]
    exact h.units
  · intro b hb hof
    rcases (hrow.balances b).mp hb with rfl | ⟨hb, -⟩
    · exact hwindow hof
    · exact h.window b hb hof
  · rw [hrow.requests]
    intro r hr he hl
    obtain ⟨b, hb, hholds⟩ := h.charged r hr he hl
    by_cases hbrow : b.key = row.key
    · exact ⟨row.refresh m t, (hrow.balances _).mpr (Or.inl rfl), by rwa [hkey, ← hbrow]⟩
    · exact ⟨b, (hrow.balances b).mpr (Or.inr ⟨hb, hbrow⟩), hholds⟩
  · rw [hrow.requests]
    intro b hb hof
    rcases (hrow.balances b).mp hb with rfl | ⟨hb, -⟩
    · exact hcurrent hof
    · exact h.stored b hb hof
  · rw [hrow.requests, hrow.today]
    intro b hb hof
    rcases (hrow.balances b).mp hb with rfl | ⟨hb, -⟩
    · exact hcurrent hof
    · exact h.current b hb hof

omit hgrows in
include hstart in
/-- **The room of a recomputed balance**: what is available can be requested. -/
theorem Charged.room_of_available (h : Charged m employee leaveType t') {row : LeaveBalance}
    (hrow : Recomputes m t t' row) {r : LeaveRequest} (hof : row.key.IsOf employee leaveType)
    (hdates : r.startDate ≤ r.endDate) (hholds : row.key.Holds r)
    (havailable : r.totalUnits ≤ (row.refresh m t).available) {b : LeaveBalance}
    (hb : b ∈ t'.balances) (hbr : b.key.Holds r) :
    takenUnits t'.requests b.key + r.totalUnits ≤ b.total + b.creditedAmount
      ∧ b.creditedAmount = b.creditOf m t'.today (takenUnits t'.requests b.key) := by
  have hrefreshed : row.refresh m t ∈ t'.balances := (hrow.balances _).mpr (Or.inl rfl)
  have hbof : b.key.IsOf employee leaveType :=
    ⟨hbr.1.symm.trans (hholds.1.trans hof.1), hbr.2.1.symm.trans (hholds.2.1.trans hof.2)⟩
  obtain ⟨asOf, hwindow⟩ := h.window b hb hbof
  obtain ⟨asOf', hwindow'⟩ := h.window _ hrefreshed hof
  have hkey : b.key = row.key := key_eq_of_holds hstart hbof hof hwindow hwindow' hdates hbr hholds
  obtain rfl : b = row.refresh m t :=
    ((hrow.balances b).mp hb).resolve_right (fun hne => hne.2 hkey)
  rw [hrow.requests, hrow.today]
  refine ⟨?_, rfl⟩
  have havailable' : r.totalUnits ≤ (row.refresh m t).openingBalance
      + (row.refresh m t).carriedForwardAmount + (row.refresh m t).creditedAmount
      - decimal (getLeaveRequestTotalUnits t.requests row.key .approved)
      - decimal (getLeaveRequestTotalUnits t.requests row.key .pending) := havailable
  show decimal (getLeaveRequestTotalUnits t.requests row.key .approved)
      + decimal (getLeaveRequestTotalUnits t.requests row.key .pending) + r.totalUnits
    ≤ (row.refresh m t).openingBalance + (row.refresh m t).carriedForwardAmount
      + (row.refresh m t).creditedAmount
  linarith

omit hgrows hstart in
/-- **A new request**, in the room of its cycle. -/
theorem Charged.insert (h : Charged m employee leaveType t) {r : LeaveRequest}
    (hunits : r.startDate ≤ r.endDate ∧ r.totalUnits = r.span.units)
    (hrequests : t'.requests = t.requests ++ [r]) (hbalances : t'.balances = t.balances)
    (htoday : t'.today = t.today)
    (hcycle : r.employee = employee → r.leaveType = leaveType → ∃ b ∈ t.balances, b.key.Holds r)
    (hroom : ∀ b ∈ t.balances, b.key.IsOf employee leaveType → b.key.Holds r →
      takenUnits t.requests b.key + r.totalUnits ≤ b.total + b.creditedAmount
        ∧ b.creditedAmount = b.creditOf m t.today (takenUnits t.requests b.key)) :
    Charged m employee leaveType t' := by
  have hunits' : ∀ r' ∈ t'.requests, r'.startDate ≤ r'.endDate ∧ r'.totalUnits = r'.span.units := by
    intro r' hr'
    rw [hrequests] at hr'
    rcases List.mem_append.mp hr' with hr' | hr'
    · exact h.units r' hr'
    · rw [List.mem_singleton.mp hr']
      exact hunits
  have hnonneg : 0 ≤ r.totalUnits := by
    rw [hunits.2]
    exact leaveRequestUnits_nonneg hunits.1 _ _
  have htaken : ∀ key, takenUnits t'.requests key
      = takenUnits t.requests key + r.takenIn key := by
    intro key
    rw [takenUnits_eq (twoPlaces_of_units hunits'), takenUnits_eq (twoPlaces_of_units h.units),
      hrequests, List.map_append, List.sum_append, List.map_singleton, List.sum_singleton]
  have htakenIn : ∀ key : BalanceKey, 0 ≤ r.takenIn key ∧ r.takenIn key ≤ r.totalUnits
      ∧ (¬ key.Holds r → r.takenIn key = 0) := by
    intro key
    unfold LeaveRequest.takenIn
    split_ifs with hactive
    · exact ⟨hnonneg, le_rfl, fun hnot => absurd hactive.1 hnot⟩
    · exact ⟨le_rfl, hnonneg, fun _ => rfl⟩
  refine ⟨hunits', ?_, ?_, ?_, ?_⟩
  · rw [hbalances]
    exact h.window
  · intro r' hr' he hl
    rw [hbalances]
    rw [hrequests] at hr'
    rcases List.mem_append.mp hr' with hr' | hr'
    · exact h.charged r' hr' he hl
    · rw [List.mem_singleton.mp hr'] at he hl ⊢
      exact hcycle he hl
  · rw [hbalances]
    intro b hb hof
    obtain ⟨-, hle, hzero⟩ := htakenIn b.key
    rw [htaken]
    by_cases hholds : b.key.Holds r
    · exact (add_le_add_right hle _).trans (hroom b hb hof hholds).1
    · rw [hzero hholds, add_zero]
      exact h.stored b hb hof
  · rw [hbalances, htoday]
    intro b hb hof
    obtain ⟨hpos, hle, hzero⟩ := htakenIn b.key
    rw [htaken]
    by_cases hholds : b.key.Holds r
    · obtain ⟨hfits, hcredit⟩ := hroom b hb hof hholds
      rw [hcredit] at hfits
      -- the cap moves up with the units that are taken
      have hcap : b.creditOf m t.today (takenUnits t.requests b.key)
          ≤ b.creditOf m t.today (takenUnits t.requests b.key + r.takenIn b.key) :=
        cappedCredit_mono le_rfl (by linarith)
      exact ((add_le_add_right hle _).trans hfits).trans (add_le_add_right hcap _)
    · rw [hzero hholds, add_zero]
      exact h.current b hb hof

/-! ## The days of a cycle -/

/-- **The days of a request that fall in a cycle.** A day is cut in half only
at an end of the request that lies within. -/
def LeaveRequest.daysIn (key : BalanceKey) (r : LeaveRequest) : ℚ :=
  let first := max r.startDate key.cycleStart
  let last := min r.endDate key.cycleEnd
  if last < first then 0
  else leaveRequestUnits first last
    (if r.startDate < key.cycleStart then .fullDay else r.startSession)
    (if key.cycleEnd < r.endDate then .fullDay else r.endSession)

/-- **The days taken of a cycle**, of the requests pending or approved. -/
def daysTaken (requests : List LeaveRequest) (key : BalanceKey) : ℚ :=
  ((requests.filter (fun r => r.employee = key.employee ∧ r.leaveType = key.leaveType
    ∧ r.IsActive)).map (LeaveRequest.daysIn key)).sum

omit hgrows in
include hstart in
/-- **Every day is charged** to the cycle it falls in. -/
theorem Charged.daysTaken_eq (h : Charged m employee leaveType t) {b : LeaveBalance}
    (hb : b ∈ t.balances) (hof : b.key.IsOf employee leaveType) :
    daysTaken t.requests b.key = takenUnits t.requests b.key := by
  rw [takenUnits_eq (twoPlaces_of_units h.units), daysTaken, sum_map_filter]
  refine congrArg List.sum (List.map_congr_left (fun r hr => ?_))
  obtain ⟨hdates, hunits⟩ := h.units r hr
  unfold LeaveRequest.takenIn
  by_cases hsame : r.employee = b.key.employee ∧ r.leaveType = b.key.leaveType
  · by_cases hholds : b.key.Holds r
    · have hdays : r.daysIn b.key = r.totalUnits := by
        obtain ⟨-, -, hbefore, hafter⟩ := hholds
        rw [hunits, LeaveRequest.daysIn, max_eq_left hbefore, min_eq_left hafter,
          if_neg (not_lt.mpr hdates), if_neg (not_lt.mpr hbefore), if_neg (not_lt.mpr hafter)]
        rfl
      simp only [hsame, hdays, true_and, decide_eq_true_eq]
      exact (if_congr (and_iff_right hholds) rfl rfl).symm
    · -- the request lies within another cycle, which is disjoint
      obtain ⟨b', hb', hbr⟩ := h.charged r hr (hsame.1.trans hof.1) (hsame.2.trans hof.2)
      have hbof : b'.key.IsOf employee leaveType :=
        ⟨hbr.1.symm.trans (hsame.1.trans hof.1), hbr.2.1.symm.trans (hsame.2.trans hof.2)⟩
      obtain ⟨asOf, hwindow⟩ := h.window b hb hof
      obtain ⟨asOf', hwindow'⟩ := h.window b' hb' hbof
      have hdays : r.daysIn b.key = 0 := by
        rw [LeaveRequest.daysIn, if_pos]
        rcases key_eq_or_disjoint hstart hbof hof hwindow' hwindow with heq | hlt | hlt
        · exact absurd (heq ▸ hbr) hholds
        · exact ((min_le_left _ _).trans hbr.2.2.2).trans_lt (hlt.trans_le (le_max_right _ _))
        · exact (min_le_right _ _).trans_lt (hlt.trans_le (hbr.2.2.1.trans (le_max_left _ _)))
      simp only [hholds, hdays, false_and, ite_self, if_false]
  · have hnot : ¬ b.key.Holds r := fun hholds => hsame ⟨hholds.1, hholds.2.1⟩
    have hother : ¬ (r.employee = b.key.employee ∧ r.leaveType = b.key.leaveType ∧ r.IsActive) :=
      fun hall => hsame ⟨hall.1, hall.2.1⟩
    simp only [hnot, hother, false_and, decide_false, Bool.false_eq_true, if_false]

end

end TimeOff
