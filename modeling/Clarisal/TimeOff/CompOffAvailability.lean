import Clarisal.Lib.Budget
import Clarisal.TimeOff.Redemptions

/-!
# What compensatory leave is available

The units an employee can still take are computed twice. The check before a request adds up
the accruals that have not expired and subtracts **everything** the employee has reserved; the
reservation itself walks the accruals and looks, for each, at what is reserved of it. The two
differ by the reservations of accruals the first no longer counts, those that have expired
since they were used among them: such a reservation is held against accruals it was never made
of, and the check refuses units that could be reserved.

`available_exact_iff` says when the two agree, and `reservedInPlace_iff` what this means where
the reservations are in order.
-/

open Calendar

namespace TimeOff

open Approvals

/-- **The check before a request**: no more than is available. -/
def LeaveTables.validateCompOffBalance (t : LeaveTables) (employee : EmployeeId)
    (requestedUnits : ℚ) : Except String Unit :=
  let available := t.getAvailableCompOffUnits employee
  if available < decimal requestedUnits then .error (compOffMessage available requestedUnits)
  else .ok ()

/-- The check of a request for compensatory leave is this one. -/
theorem validateUnits_of_isCompOff {m : Masters} {leaveType : LeaveTypeId}
    (h : (m.leaveType leaveType).isCompOff = true) (employee : EmployeeId) (span : LeaveSpan)
    (t : LeaveTables) :
    validateUnits m employee leaveType span t
      = (t.validateCompOffBalance employee span.units, t) := by
  unfold validateUnits LeaveTables.validateCompOffBalance
  rw [if_pos h]
  dsimp only
  split <;> rfl

namespace LeaveTables

/-- **A request can be reserved**: no unit of it is missing at the end of the loop. -/
def CanReserve (t : LeaveTables) (request : LeaveRequest) : Prop :=
  (t.reserveCompOffRedemption request).1 ≤ 0

/-- The accruals that are approved and have not expired. -/
def openAccruals (t : LeaveTables) (employee : EmployeeId) : List CompOffAccrual :=
  (t.approvedAccruals employee).filter (fun a => !a.hasExpired t.today)

/-- What is left of the open accruals, each by itself. -/
def unreservedUnits (t : LeaveTables) (employee : EmployeeId) : ℚ :=
  ((t.openAccruals employee).map t.availableUnits).sum

/-- All the employee has reserved or redeemed, of whatever accrual. -/
def reservedUnits (t : LeaveTables) (employee : EmployeeId) : ℚ :=
  ((t.redemptions.filter (fun x => x.employee = employee ∧ x.status.isReserved)).map
    CompOffRedemption.units).sum

/-- What is reserved of the open accruals, of each up to its units. -/
def countedUnits (t : LeaveTables) (employee : EmployeeId) : ℚ :=
  ((t.openAccruals employee).map
    (fun a => min a.units (redeemedOf t.redemptions a.id))).sum

/-- **The reservations are in place**: what the employee has reserved is what is reserved of
the open accruals. Where nothing is left of these it may also be more. -/
def ReservedInPlace (t : LeaveTables) (employee : EmployeeId) : Prop :=
  t.reservedUnits employee = t.countedUnits employee
    ∨ t.countedUnits employee ≤ t.reservedUnits employee
      ∧ ∀ a ∈ t.openAccruals employee, a.units ≤ redeemedOf t.redemptions a.id

/-- **What the columns and the keys ensure** of accruals and redemptions. -/
structure CompOffStored (t : LeaveTables) : Prop where
  accrualKeys : Table.Unique CompOffAccrual.id t.accruals
  accrualUnits : ∀ a ∈ t.accruals, TwoPlaces a.units
  redemptionUnits : ∀ x ∈ t.redemptions, TwoPlaces x.units

end LeaveTables

variable {t : LeaveTables} {employee : EmployeeId} {u : ℚ}

/-! ## The check -/

theorem validateCompOffBalance_iff (u : ℚ) :
    t.validateCompOffBalance employee u = .ok ()
      ↔ decimal u ≤ t.getAvailableCompOffUnits employee := by
  unfold LeaveTables.validateCompOffBalance
  dsimp only
  split
  · next hless => exact ⟨nofun, fun h => absurd hless (not_lt.mpr h)⟩
  · next hless => exact ⟨fun _ => not_lt.mp hless, fun _ => rfl⟩

theorem mem_of_mem_openAccruals {a : CompOffAccrual} (h : a ∈ t.openAccruals employee) :
    a ∈ t.accruals := List.mem_of_mem_filter (List.mem_of_mem_filter h)

theorem LeaveTables.CompOffStored.twoPlaces_openUnits (h : t.CompOffStored) :
    TwoPlaces ((t.openAccruals employee).map CompOffAccrual.units).sum :=
  Decimal.onGrid_sum (fun x hx => by
    obtain ⟨a, ha, rfl⟩ := List.mem_map.mp hx
    exact h.accrualUnits a (mem_of_mem_openAccruals ha))

/-- What is available: the units of the open accruals less all that is reserved. -/
theorem getAvailableCompOffUnits_eq (h : t.CompOffStored) (employee : EmployeeId) :
    t.getAvailableCompOffUnits employee
      = max 0 (((t.openAccruals employee).map CompOffAccrual.units).sum
        - t.reservedUnits employee) := by
  have hreserved : TwoPlaces (t.reservedUnits employee) :=
    Decimal.onGrid_sum (fun x hx => by
      obtain ⟨r, hr, rfl⟩ := List.mem_map.mp hx
      exact h.redemptionUnits r (List.mem_of_mem_filter hr))
  have haccrued : (t.openAccruals employee).map (fun a => decimal a.units)
      = (t.openAccruals employee).map CompOffAccrual.units :=
    List.map_congr_left (fun a ha =>
      decimal_of_twoPlaces (h.accrualUnits a (mem_of_mem_openAccruals ha)))
  show max 0 (decimal (((t.openAccruals employee).map (fun a => decimal a.units)).sum
    - decimal (t.reservedUnits employee))) = _
  rw [haccrued, decimal_of_twoPlaces hreserved,
    decimal_of_twoPlaces (h.twoPlaces_openUnits.sub hreserved)]

theorem twoPlaces_getAvailableCompOffUnits (t : LeaveTables) (employee : EmployeeId) :
    TwoPlaces (t.getAvailableCompOffUnits employee) := by
  unfold LeaveTables.getAvailableCompOffUnits
  dsimp only
  rcases max_choice 0 (decimal (_ - decimal _)) with hmax | hmax <;> rw [hmax]
  · exact Decimal.onGrid_zero
  · exact twoPlaces_decimal _

/-! ## The loop over the accruals -/

/-- What is left of an accrual is its units less what counts of its reservations. -/
theorem availableUnits_eq_sub_min (h : t.CompOffStored) {a : CompOffAccrual}
    (ha : a ∈ t.accruals) :
    t.availableUnits a = a.units - min a.units (redeemedOf t.redemptions a.id) := by
  rw [availableUnits_eq h.redemptionUnits (h.accrualUnits a ha)]
  rcases le_total a.units (redeemedOf t.redemptions a.id) with hle | hle
  · rw [min_eq_left hle, sub_self, max_eq_left (sub_nonpos.mpr hle)]
  · rw [min_eq_right hle, max_eq_right (sub_nonneg.mpr hle)]

theorem unreservedUnits_eq (h : t.CompOffStored) (employee : EmployeeId) :
    t.unreservedUnits employee
      = ((t.openAccruals employee).map CompOffAccrual.units).sum - t.countedUnits employee := by
  have hall : ∀ a ∈ t.openAccruals employee, a ∈ t.accruals := fun _ => mem_of_mem_openAccruals
  unfold LeaveTables.unreservedUnits LeaveTables.countedUnits
  generalize t.openAccruals employee = accruals at hall ⊢
  induction accruals with
  | nil => simp
  | cons a as ih =>
    simp only [List.map_cons, List.sum_cons]
    rw [availableUnits_eq_sub_min h (hall a List.mem_cons_self),
      ih (fun b hb => hall b (List.mem_cons_of_mem _ hb))]
    ring

theorem availableUnits_nonneg (t : LeaveTables) (a : CompOffAccrual) : 0 ≤ t.availableUnits a :=
  le_max_left 0 _

theorem unreservedUnits_nonneg (t : LeaveTables) (employee : EmployeeId) :
    0 ≤ t.unreservedUnits employee :=
  List.sum_nonneg (fun x hx => by
    obtain ⟨a, -, rfl⟩ := List.mem_map.mp hx
    exact availableUnits_nonneg t a)

theorem twoPlaces_unreservedUnits (t : LeaveTables) (employee : EmployeeId) :
    TwoPlaces (t.unreservedUnits employee) :=
  Decimal.onGrid_sum (fun x hx => by
    obtain ⟨a, -, rfl⟩ := List.mem_map.mp hx
    exact twoPlaces_availableUnits t a)

/-- A reservation of one accrual leaves the others as they are. -/
theorem availableUnits_append_of_ne {a : CompOffAccrual} {x : CompOffRedemption}
    (h : x.accrual ≠ a.id) :
    { t with redemptions := t.redemptions ++ [x] : LeaveTables }.availableUnits a
      = t.availableUnits a := by
  unfold LeaveTables.availableUnits
  simp [h]

/-- **The loop reserves what is left**: nothing is missing at its end exactly when the
accruals it uses have the units between them. -/
theorem reserveFrom_le_iff (request : LeaveRequest) {accruals : List CompOffAccrual}
    {remaining : ℚ} (hkeys : Table.Unique CompOffAccrual.id accruals)
    (hremaining : TwoPlaces remaining) :
    (LeaveTables.reserveFrom request accruals remaining t).1 ≤ 0
      ↔ remaining ≤ ((accruals.filter (fun a => !a.hasExpired t.today)).map
        t.availableUnits).sum := by
  induction accruals generalizing remaining t with
  | nil => exact Iff.rfl
  | cons a accruals ih =>
    have hne : ∀ b ∈ accruals, a.id ≠ b.id := fun b hb heq =>
      (List.nodup_cons.mp hkeys).1 (List.mem_map.mpr ⟨b, hb, heq.symm⟩)
    have hrest : 0 ≤ ((accruals.filter (fun b => !b.hasExpired t.today)).map
        t.availableUnits).sum :=
      List.sum_nonneg (fun x hx => by
        obtain ⟨b, -, rfl⟩ := List.mem_map.mp hx
        exact availableUnits_nonneg t b)
    unfold LeaveTables.reserveFrom
    split
    · next hskip =>
      rw [ih (List.nodup_cons.mp hkeys).2 hremaining]
      by_cases hexpired : a.hasExpired t.today = true
      · rw [List.filter_cons_of_neg (by simp [hexpired])]
      · have hnone : t.availableUnits a = 0 :=
          le_antisymm (hskip.resolve_left hexpired) (availableUnits_nonneg t a)
        rw [List.filter_cons_of_pos (by simp [hexpired]), List.map_cons, List.sum_cons, hnone,
          zero_add]
    · next huse =>
      obtain ⟨hopen, hleft⟩ := not_or.mp huse
      rw [List.filter_cons_of_pos (by simp [hopen]), List.map_cons, List.sum_cons]
      have hredeem : TwoPlaces (min remaining (t.availableUnits a)) := by
        rcases min_choice remaining (t.availableUnits a) with hmin | hmin <;> rw [hmin]
        · exact hremaining
        · exact twoPlaces_availableUnits t a
      have hgrid := hremaining.sub hredeem
      dsimp only
      rw [decimal_of_twoPlaces hgrid]
      split
      · next hdone =>
        have hle : remaining ≤ t.availableUnits a :=
          (sub_nonpos.mp hdone).trans (min_le_right _ _)
        exact iff_of_true hdone (hle.trans (le_add_of_nonneg_right hrest))
      · next hmore =>
        -- the accrual is used up, and the later ones are as they were
        have hall : min remaining (t.availableUnits a) = t.availableUnits a :=
          min_eq_right (le_of_not_ge (fun hle => hmore (by rw [min_eq_left hle, sub_self])))
        rw [ih (List.nodup_cons.mp hkeys).2 hgrid, hall, sub_le_iff_le_add']
        have hsame : (accruals.filter (fun b => !b.hasExpired t.today)).map
            (LeaveTables.availableUnits { t with redemptions := t.redemptions ++ [
              { employee := request.employee, accrual := a.id,
                redemptionDate := request.startDate, units := t.availableUnits a,
                status := .pending, reason := request.reason, leaveRequest := request.id }] })
            = (accruals.filter (fun b => !b.hasExpired t.today)).map t.availableUnits :=
          List.map_congr_left (fun b hb =>
            availableUnits_append_of_ne (hne b (List.mem_of_mem_filter hb)))
        exact (iff_of_eq (congrArg (fun xs => remaining ≤ t.availableUnits a + List.sum xs) hsame))

/-- **A request can be reserved** exactly when the open accruals have its units left. -/
theorem canReserve_iff (h : t.CompOffStored) (request : LeaveRequest) :
    t.CanReserve request ↔ decimal request.totalUnits ≤ t.unreservedUnits request.employee := by
  have hperm := List.perm_insertionSort (fun a b => CompOffAccrual.usedBefore a b)
    (t.approvedAccruals request.employee)
  have hkeys : Table.Unique CompOffAccrual.id
      ((t.approvedAccruals request.employee).insertionSort (fun a b => a.usedBefore b)) :=
    ((hperm.map _).nodup_iff).mpr (h.accrualKeys.filter _)
  refine (reserveFrom_le_iff request hkeys (twoPlaces_decimal _)).trans ?_
  exact iff_of_eq (congrArg _ ((hperm.filter _).map _).sum_eq)

/-! ## When the two agree -/

/-- Nothing is left of the open accruals when each is used up. -/
theorem unreservedUnits_eq_zero_iff (h : t.CompOffStored) (employee : EmployeeId) :
    t.unreservedUnits employee = 0
      ↔ ∀ a ∈ t.openAccruals employee, a.units ≤ redeemedOf t.redemptions a.id := by
  refine (Budget.sum_eq_zero_iff fun a _ => availableUnits_nonneg t a).trans
    (forall₂_congr fun a ha => ?_)
  rw [availableUnits_eq h.redemptionUnits (h.accrualUnits a (mem_of_mem_openAccruals ha)),
    max_eq_left_iff, sub_nonpos]

/-- **What is available is what is left** exactly when the reservations are in place. -/
theorem available_eq_unreserved_iff (h : t.CompOffStored) (employee : EmployeeId) :
    t.getAvailableCompOffUnits employee = t.unreservedUnits employee
      ↔ t.ReservedInPlace employee := by
  have hleft := unreservedUnits_nonneg t employee
  have hnone := unreservedUnits_eq_zero_iff h employee
  unfold LeaveTables.ReservedInPlace
  rw [← hnone, getAvailableCompOffUnits_eq h, unreservedUnits_eq h] at *
  generalize ((t.openAccruals employee).map CompOffAccrual.units).sum = units at hleft ⊢
  constructor
  · intro heq
    rcases max_choice 0 (units - t.reservedUnits employee) with hmax | hmax
    · have hover : units - t.reservedUnits employee ≤ 0 := max_eq_left_iff.mp hmax
      rw [hmax] at heq
      exact Or.inr ⟨by linarith, heq.symm⟩
    · rw [hmax] at heq
      exact Or.inl (by linarith)
  · rintro (heq | ⟨hle, hzero⟩)
    · rw [heq]
      exact max_eq_right hleft
    · rw [hzero]
      exact max_eq_left (by linarith)

/-- **The check and the reservation agree** on every request of an employee, and what is
available is what is left of the open accruals, exactly when the reservations are in place. -/
theorem available_exact_iff (h : t.CompOffStored) (employee : EmployeeId) :
    ((∀ request : LeaveRequest, request.employee = employee →
        (t.validateCompOffBalance employee request.totalUnits = .ok () ↔ t.CanReserve request))
      ↔ t.ReservedInPlace employee)
    ∧ (t.getAvailableCompOffUnits employee = t.unreservedUnits employee
      ↔ t.ReservedInPlace employee) := by
  refine ⟨?_, available_eq_unreserved_iff h employee⟩
  rw [← available_eq_unreserved_iff h]
  constructor
  · intro hagree
    have hunits : ∀ u, decimal u ≤ t.getAvailableCompOffUnits employee
        ↔ decimal u ≤ t.unreservedUnits employee := fun u => by
      have hrequest := hagree
        { id := 0, employee := employee, leaveType := 0, startDate := t.today,
          endDate := t.today, startSession := .fullDay, endSession := .fullDay, totalUnits := u,
          reason := "", status := .pending, rejectionReason := "" } rfl
      rwa [validateCompOffBalance_iff, canReserve_iff h] at hrequest
    have havailable := (hunits (t.getAvailableCompOffUnits employee)).mp
    have hleft := (hunits (t.unreservedUnits employee)).mpr
    rw [decimal_of_twoPlaces (twoPlaces_getAvailableCompOffUnits t employee)] at havailable
    rw [decimal_of_twoPlaces (twoPlaces_unreservedUnits t employee)] at hleft
    exact le_antisymm (havailable le_rfl) (hleft le_rfl)
  · rintro heq request rfl
    rw [validateCompOffBalance_iff, canReserve_iff h, heq]

namespace Sample

/-- A day in December took half a day of each accrual, and one of the two has expired since. -/
def expired : LeaveTables :=
  { accrued with
    today := ⟨2027, 1, 4, by decide⟩
    redemptions := [
      { employee := 1, accrual := 1, redemptionDate := ⟨2026, 12, 7, isDate_2026_12_07⟩,
        units := 1 / 2, status := .approved, reason := "", leaveRequest := 0 },
      { employee := 1, accrual := 0, redemptionDate := ⟨2026, 12, 7, isDate_2026_12_07⟩,
        units := 1 / 2, status := .approved, reason := "", leaveRequest := 0 }] }

theorem expired_stored : expired.CompOffStored where
  accrualKeys := accrued_accrued.accrualKeys
  accrualUnits := accrued_accrued.accrualUnits
  redemptionUnits := by
    intro x hx
    simp only [expired, List.mem_cons, List.not_mem_nil, or_false] at hx
    rcases hx with rfl | rfl <;> exact ⟨50, by norm_num⟩

def halfDay : LeaveRequest :=
  expired.newRequest 1 1
    { startDate := ⟨2027, 1, 5, isDate_2027_01_05⟩, endDate := ⟨2027, 1, 5, isDate_2027_01_05⟩,
      startSession := .firstHalf, endSession := .firstHalf } ""

end Sample

theorem available_exact_iff_sample :
    ((∀ request : LeaveRequest, request.employee = 1 →
        (Sample.expired.validateCompOffBalance 1 request.totalUnits = .ok ()
          ↔ Sample.expired.CanReserve request))
      ↔ Sample.expired.ReservedInPlace 1)
    ∧ (Sample.expired.getAvailableCompOffUnits 1 = Sample.expired.unreservedUnits 1
      ↔ Sample.expired.ReservedInPlace 1) :=
  available_exact_iff Sample.expired_stored 1

/-- **Refused though it is left**: the half day of the expired accrual is taken off the half day
that remains of the other. -/
theorem expired_accrual_held_against :
    ¬ (Sample.expired.validateCompOffBalance 1 Sample.halfDay.totalUnits = .ok ()
      ↔ Sample.expired.CanReserve Sample.halfDay) := by
  rw [validateCompOffBalance_iff]
  unfold LeaveTables.CanReserve
  decide +kernel

/-! ## Reservations in order -/

/-- What is reserved of the open accruals, when no accrual gives more than its units. -/
theorem countedUnits_eq {m : Masters} (h : Reserved m t)
    (hunits : ∀ a ∈ t.accruals, 0 ≤ a.units) (employee : EmployeeId) :
    t.countedUnits employee
      = ((t.redemptions.filter (fun x => x.status.isReserved
          ∧ ∃ a ∈ t.openAccruals employee, x.accrual = a.id)).map CompOffRedemption.units).sum := by
  have hkeys : Table.Unique CompOffAccrual.id (t.openAccruals employee) :=
    (h.accrualKeys.filter _).filter _
  have hmin : ∀ a ∈ t.openAccruals employee, min a.units (redeemedOf t.redemptions a.id)
      = (((t.redemptions.filter (fun x => x.status.isReserved)).filter
        (fun x => x.accrual = a.id)).map CompOffRedemption.units).sum := by
    intro a ha
    have hmem := mem_of_mem_openAccruals ha
    have hwithin := h.conserved.accruals a hmem
    rw [max_eq_right (hunits a hmem)] at hwithin
    rw [min_eq_right hwithin, redeemedOf, List.filter_filter]
    simp
  unfold LeaveTables.countedUnits
  rw [List.map_congr_left hmin, hkeys.sum_children, List.filter_filter]
  refine congrArg (fun p => ((t.redemptions.filter p).map CompOffRedemption.units).sum)
    (funext fun x => ?_)
  simp [Bool.and_comm]

/-- **Where the reservations are in order**, each of the employee of its accrual, they are in
place exactly when each that is worth something is of an open accrual, or nothing is left. -/
theorem reservedInPlace_iff {m : Masters} (h : Reserved m t)
    (hunits : ∀ a ∈ t.accruals, 0 ≤ a.units)
    (howned : ∀ x ∈ t.redemptions, ∀ a ∈ t.accruals, x.accrual = a.id →
      x.employee = a.employee) (employee : EmployeeId) :
    t.ReservedInPlace employee
      ↔ (∀ x ∈ t.redemptions, x.employee = employee → x.status.isReserved = true →
          x.units ≠ 0 → ∃ a ∈ t.openAccruals employee, x.accrual = a.id)
        ∨ ∀ a ∈ t.openAccruals employee, a.units ≤ redeemedOf t.redemptions a.id := by
  set elsewhere := ((t.redemptions.filter (fun x => x.employee = employee ∧ x.status.isReserved
    ∧ ¬ ∃ a ∈ t.openAccruals employee, x.accrual = a.id)).map CompOffRedemption.units).sum
    with helsewhere
  have hsplit : t.reservedUnits employee = t.countedUnits employee + elsewhere := by
    rw [countedUnits_eq h hunits, helsewhere, Table.sum_filter_or]
    · refine congrArg (fun rows => (List.map CompOffRedemption.units rows).sum)
        (List.filter_congr (fun x hx => ?_))
      have hmine : (∃ a ∈ t.openAccruals employee, x.accrual = a.id) → x.employee = employee := by
        rintro ⟨a, ha, haccrual⟩
        rw [howned x hx a (mem_of_mem_openAccruals ha) haccrual]
        exact (of_decide_eq_true (List.mem_filter.mp (List.mem_of_mem_filter ha)).2).1
      rw [← Bool.decide_or, decide_eq_decide]
      by_cases hplace : ∃ a ∈ t.openAccruals employee, x.accrual = a.id
      · simp only [hplace, hmine hplace, not_true_eq_false, and_false, or_false, and_true, true_and]
      · simp only [hplace, not_false_eq_true, and_false, false_or, and_true]
    · intro x hx
      exact decide_eq_false (fun hother => hother.2.2 (of_decide_eq_true hx).2)
  have hnonneg : ∀ x ∈ t.redemptions.filter (fun x => x.employee = employee
      ∧ x.status.isReserved ∧ ¬ ∃ a ∈ t.openAccruals employee, x.accrual = a.id), 0 ≤ x.units :=
    fun x hx => (h.units x (List.mem_of_mem_filter hx)).2
  have hzero : elsewhere = 0 ↔ ∀ x ∈ t.redemptions, x.employee = employee →
      x.status.isReserved = true → x.units ≠ 0 →
        ∃ a ∈ t.openAccruals employee, x.accrual = a.id := by
    rw [helsewhere, Budget.sum_eq_zero_iff hnonneg]
    simp only [List.mem_filter, decide_eq_true_iff]
    refine forall_congr' fun x => ?_
    by_cases hplace : ∃ a ∈ t.openAccruals employee, x.accrual = a.id
    · simp only [hplace, not_true_eq_false, and_false, false_implies, implies_true]
    · simp only [hplace, not_false_eq_true, and_true, and_imp, imp_false, not_not]
  have hpos : 0 ≤ elsewhere := List.sum_nonneg (fun y hy => by
    obtain ⟨x, hx, rfl⟩ := List.mem_map.mp hy
    exact hnonneg x hx)
  unfold LeaveTables.ReservedInPlace
  rw [hsplit, ← hzero, add_eq_left]
  exact or_congr_right (and_iff_right (le_add_of_nonneg_right hpos))

end TimeOff
