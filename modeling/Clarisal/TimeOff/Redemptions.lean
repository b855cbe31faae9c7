import Clarisal.TimeOff.Moves

/-!
# Compensatory leave is conserved

A request for compensatory leave is reserved of accruals, whole or in part, the
reservations take the status of the request, and only those of an active
request count. Reserving takes of an accrual what is left of it, and a request
that cannot be reserved in full is rolled back. So in every run no accrual
gives more than its units, and the reservations of an active request are its
units exactly (`compOffConserved`).
-/

open Calendar

namespace TimeOff

open Approvals Transaction

/-- The units of an accrual that are reserved or redeemed. -/
def redeemedOf (redemptions : List CompOffRedemption) (accrual : CompOffAccrualId) : ℚ :=
  ((redemptions.filter (fun x => x.accrual = accrual ∧ x.status.isReserved)).map
    CompOffRedemption.units).sum

/-- The units reserved or redeemed for a request. -/
def redeemedFor (redemptions : List CompOffRedemption) (request : LeaveRequestId) : ℚ :=
  ((redemptions.filter (fun x => x.leaveRequest = request ∧ x.status.isReserved)).map
    CompOffRedemption.units).sum

/-- **Compensatory leave is conserved**: an accrual gives its units at most, and
a request that is active takes its own exactly. -/
structure CompOffConserved (m : Masters) (t : LeaveTables) : Prop where
  /-- Nothing is given of an accrual with units below zero. -/
  accruals : ∀ a ∈ t.accruals, redeemedOf t.redemptions a.id ≤ max 0 a.units
  requests : ∀ r ∈ t.requests, (m.leaveType r.leaveType).isCompOff = true → r.IsActive →
    redeemedFor t.redemptions r.id = r.totalUnits

/-- **The invariant**: reservations are of known requests, of whole hundredths,
and have the status of their request. -/
structure Reserved (m : Masters) (t : LeaveTables) : Prop where
  accrualKeys : Table.Unique CompOffAccrual.id t.accruals
  accrualUnits : ∀ a ∈ t.accruals, TwoPlaces a.units
  requestKeys : Table.Unique LeaveRequest.id t.requests
  fresh : ∀ r ∈ t.requests, r.id < t.nextRequest
  known : ∀ x ∈ t.redemptions, x.leaveRequest < t.nextRequest
  units : ∀ x ∈ t.redemptions, TwoPlaces x.units ∧ 0 ≤ x.units
  owned : ∀ x ∈ t.redemptions, ∀ r ∈ t.requests, r.id = x.leaveRequest →
    (m.leaveType r.leaveType).isCompOff = true ∧ x.status = r.status.redemptionStatus
  conserved : CompOffConserved m t

section

variable {m : Masters} {t t' : LeaveTables} {redemptions : List CompOffRedemption}

theorem redeemedOf_append (xs ys : List CompOffRedemption) (accrual : CompOffAccrualId) :
    redeemedOf (xs ++ ys) accrual = redeemedOf xs accrual + redeemedOf ys accrual := by
  simp [redeemedOf]

theorem redeemedFor_append (xs ys : List CompOffRedemption) (request : LeaveRequestId) :
    redeemedFor (xs ++ ys) request = redeemedFor xs request + redeemedFor ys request := by
  simp [redeemedFor]

theorem twoPlaces_redeemedOf (h : ∀ x ∈ redemptions, TwoPlaces x.units)
    (accrual : CompOffAccrualId) : TwoPlaces (redeemedOf redemptions accrual) :=
  Decimal.onGrid_sum (fun u hu => by
    obtain ⟨x, hx, rfl⟩ := List.mem_map.mp hu
    exact h x (List.mem_of_mem_filter hx))

theorem redeemedFor_eq_zero {request : LeaveRequestId}
    (h : ∀ x ∈ redemptions, x.leaveRequest ≠ request) : redeemedFor redemptions request = 0 := by
  have hnone : redemptions.filter (fun x => x.leaveRequest = request ∧ x.status.isReserved) = [] :=
    List.filter_eq_nil_iff.mpr (fun x hx => by simp [h x hx])
  rw [redeemedFor, hnone]
  rfl

/-! ## Reserving -/

/-- What is left of an accrual, with the reservations on the grid. -/
theorem availableUnits_eq (hunits : ∀ x ∈ t.redemptions, TwoPlaces x.units) {a : CompOffAccrual}
    (ha : TwoPlaces a.units) :
    t.availableUnits a = max 0 (a.units - redeemedOf t.redemptions a.id) := by
  have hgrid := twoPlaces_redeemedOf hunits a.id
  have hused : decimal (redeemedOf t.redemptions a.id) = redeemedOf t.redemptions a.id :=
    decimal_of_twoPlaces hgrid
  show max 0 (decimal (a.units - decimal (redeemedOf t.redemptions a.id))) = _
  rw [hused, decimal_of_twoPlaces (ha.sub hgrid)]

/-- **What the loop over the accruals keeps.** -/
structure Reservable (t : LeaveTables) : Prop where
  accrualKeys : Table.Unique CompOffAccrual.id t.accruals
  accrualUnits : ∀ a ∈ t.accruals, TwoPlaces a.units
  units : ∀ x ∈ t.redemptions, TwoPlaces x.units
  within : ∀ a ∈ t.accruals, redeemedOf t.redemptions a.id ≤ max 0 a.units

/-- A reservation of what is left. -/
theorem Reservable.reserve (h : Reservable t) {a : CompOffAccrual} (ha : a ∈ t.accruals)
    {x : CompOffRedemption} (hx : x.accrual = a.id) (hunits : TwoPlaces x.units)
    (hleft : 0 < t.availableUnits a) (hle : x.units ≤ t.availableUnits a) :
    Reservable { t with redemptions := t.redemptions ++ [x] } where
  accrualKeys := h.accrualKeys
  accrualUnits := h.accrualUnits
  units y hy := by
    rcases List.mem_append.mp hy with hy | hy
    · exact h.units y hy
    · rwa [List.mem_singleton.mp hy]
  within b hb := by
    rw [redeemedOf_append]
    by_cases hba : b.id = a.id
    · obtain rfl := h.accrualKeys.eq_of_key hb ha hba
      rw [availableUnits_eq h.units (h.accrualUnits b hb)] at hleft hle
      have hpos : 0 < b.units - redeemedOf t.redemptions b.id := by
        simpa using hleft
      rw [max_eq_right hpos.le] at hle
      have hone : redeemedOf [x] b.id ≤ x.units ∨ redeemedOf [x] b.id = 0 := by
        unfold redeemedOf
        by_cases hreserved : x.status.isReserved = true <;> simp [hx, hreserved]
      have hunitsPos := le_max_right 0 b.units
      rcases hone with hone | hone <;> linarith
    · have hzero : redeemedOf [x] b.id = 0 := by
        have hne : ¬ a.id = b.id := fun heq => hba heq.symm
        simp [redeemedOf, hx, hne]
      rw [hzero, add_zero]
      exact h.within b hb

/-- **What a request reserved**: pending rows of its own, which make up what is
no longer missing. -/
structure Reservation (request : LeaveRequest) (t t' : LeaveTables) (remaining missing : ℚ)
    (rows : List CompOffRedemption) : Prop where
  written : t' = { t with redemptions := t.redemptions ++ rows }
  own : ∀ x ∈ rows, x.leaveRequest = request.id ∧ x.status = .pending
    ∧ TwoPlaces x.units ∧ 0 ≤ x.units
  total : (rows.map CompOffRedemption.units).sum + missing = remaining
  missing_nonneg : 0 ≤ missing

theorem twoPlaces_availableUnits (t : LeaveTables) (a : CompOffAccrual) :
    TwoPlaces (t.availableUnits a) := by
  unfold LeaveTables.availableUnits
  dsimp only
  rcases max_choice 0 (decimal (a.units - decimal _)) with h | h <;> rw [h]
  · exact Decimal.onGrid_zero
  · exact twoPlaces_decimal _

/-- **The loop over the accruals.** -/
theorem reserveFrom_spec (request : LeaveRequest) {accruals : List CompOffAccrual} {remaining : ℚ}
    (h : Reservable t) (hmem : ∀ a ∈ accruals, a ∈ t.accruals) (hremaining : TwoPlaces remaining)
    (hpos : 0 ≤ remaining) :
    Reservable (LeaveTables.reserveFrom request accruals remaining t).2
      ∧ ∃ rows, Reservation request t (LeaveTables.reserveFrom request accruals remaining t).2
        remaining (LeaveTables.reserveFrom request accruals remaining t).1 rows := by
  induction accruals generalizing remaining t with
  | nil => exact ⟨h, [], ⟨by simp [LeaveTables.reserveFrom], by simp, by
      simp [LeaveTables.reserveFrom], hpos⟩⟩
  | cons a accruals ih =>
    have hrest : ∀ b ∈ accruals, b ∈ t.accruals := fun b hb => hmem b (List.mem_cons_of_mem _ hb)
    unfold LeaveTables.reserveFrom
    split
    · exact ih h hrest hremaining hpos
    · next huse =>
      have hleft : 0 < t.availableUnits a := not_le.mp (not_or.mp huse).2
      set redeem := min remaining (t.availableUnits a) with hredeem
      have hredeemPos : 0 ≤ redeem := le_min hpos hleft.le
      have hredeemGrid : TwoPlaces redeem := by
        rcases min_choice remaining (t.availableUnits a) with hmin | hmin <;> rw [hredeem, hmin]
        · exact hremaining
        · exact twoPlaces_availableUnits t a
      have hrest' : decimal (remaining - redeem) = remaining - redeem :=
        decimal_of_twoPlaces (hremaining.sub hredeemGrid)
      have hsub : 0 ≤ remaining - redeem := sub_nonneg.mpr (min_le_left _ _)
      set x : CompOffRedemption :=
        { employee := request.employee, accrual := a.id, redemptionDate := request.startDate,
          units := redeem, status := .pending, reason := request.reason,
          leaveRequest := request.id } with hx
      have hreserved := h.reserve (hmem a List.mem_cons_self) (x := x) rfl hredeemGrid hleft
        (min_le_right _ _)
      have hown : x.leaveRequest = request.id ∧ x.status = .pending ∧ TwoPlaces x.units
          ∧ 0 ≤ x.units := ⟨rfl, rfl, hredeemGrid, hredeemPos⟩
      dsimp only
      rw [hrest']
      split
      · refine ⟨hreserved, [x], ⟨rfl, by simpa using hown, ?_, hsub⟩⟩
        simp [hx]
      · obtain ⟨hkept, rows, hrows⟩ := ih hreserved hrest (hremaining.sub hredeemGrid) hsub
        refine ⟨hkept, x :: rows, ⟨?_, ?_, ?_, hrows.missing_nonneg⟩⟩
        · rw [hrows.written]
          simp
        · rintro y (_ | ⟨_, hy⟩)
          · exact hown
          · exact hrows.own y hy
        · rw [List.map_cons, List.sum_cons, add_assoc, hrows.total]
          simp [hx]

/-- The units of pending reservations of one request. -/
theorem redeemedFor_own {id : LeaveRequestId}
    (h : ∀ x ∈ redemptions, x.leaveRequest = id ∧ x.status = .pending) :
    redeemedFor redemptions id = (redemptions.map CompOffRedemption.units).sum := by
  rw [redeemedFor, List.filter_eq_self.mpr]
  intro x hx
  simp [h x hx, CompOffStatus.isReserved]

/-! ## Inserting -/

/-- **A request that is inserted completely** reserved its units. -/
theorem insertRequest_complete (h : Reserved m t) {e : EmployeeId} {l : LeaveTypeId}
    {span : LeaveSpan} {reason : String} (hdates : span.startDate ≤ span.endDate)
    (hok : (t.insertRequest m e l span reason).1 = .ok ()) :
    ∃ rows, (t.insertRequest m e l span reason).2 = { t with
        requests := t.requests ++ [t.newRequest e l span reason]
        redemptions := t.redemptions ++ rows
        nextRequest := t.nextRequest + 1 }
      ∧ (∀ x ∈ rows, (m.leaveType l).isCompOff = true ∧ x.leaveRequest = t.nextRequest
        ∧ x.status = .pending ∧ TwoPlaces x.units ∧ 0 ≤ x.units)
      ∧ ((m.leaveType l).isCompOff = true →
        (rows.map CompOffRedemption.units).sum = span.units)
      ∧ ∀ a ∈ t.accruals, redeemedOf (t.redemptions ++ rows) a.id ≤ max 0 a.units := by
  revert hok
  unfold LeaveTables.insertRequest
  dsimp only
  split
  · next hcompOff =>
    set t₀ : LeaveTables := { t with
      requests := t.requests ++ [t.newRequest e l span reason]
      nextRequest := t.nextRequest + 1 } with ht₀
    have hreservable : Reservable t₀ :=
      ⟨h.accrualKeys, h.accrualUnits, fun x hx => (h.units x hx).1, h.conserved.accruals⟩
    have hgrid : TwoPlaces span.units := twoPlaces_leaveRequestUnits _ _ _ _
    have hunits : decimal (t.newRequest e l span reason).totalUnits = span.units :=
      decimal_of_twoPlaces hgrid
    have hspec : Reservable (t₀.reserveCompOffRedemption (t.newRequest e l span reason)).2
        ∧ ∃ rows, Reservation (t.newRequest e l span reason) t₀
          (t₀.reserveCompOffRedemption (t.newRequest e l span reason)).2 span.units
          (t₀.reserveCompOffRedemption (t.newRequest e l span reason)).1 rows := by
      unfold LeaveTables.reserveCompOffRedemption
      rw [hunits]
      exact reserveFrom_spec _ hreservable
        (fun a ha => List.mem_of_mem_filter ((List.mem_insertionSort _).mp ha)) hgrid
        (leaveRequestUnits_nonneg hdates _ _)
    revert hspec
    generalize t₀.reserveCompOffRedemption (t.newRequest e l span reason) = reserved
    obtain ⟨missing, t'⟩ := reserved
    rintro ⟨hkept, rows, hrows⟩
    dsimp only
    split
    · exact fun hok => by cases hok
    · next hnone =>
      intro _
      have htotal := hrows.total
      rw [le_antisymm (not_lt.mp hnone) hrows.missing_nonneg, add_zero] at htotal
      have hwritten : t' = { t₀ with redemptions := t₀.redemptions ++ rows } := hrows.written
      have hwithin := hkept.within
      rw [hwritten] at hwithin
      exact ⟨rows, hwritten, fun x hx => ⟨hcompOff, hrows.own x hx⟩, fun _ => htotal, hwithin⟩
  · next hcompOff =>
    intro _
    refine ⟨[], by simp, by simp, fun hl => absurd hl hcompOff, ?_⟩
    simpa using h.conserved.accruals

/-- **A request is inserted** with its reservations. -/
theorem Reserved.insert (h : Reserved m t) {e : EmployeeId} {l : LeaveTypeId} {span : LeaveSpan}
    {reason : String} (hdates : span.startDate ≤ span.endDate)
    (hok : (t.insertRequest m e l span reason).1 = .ok ()) :
    Reserved m (t.insertRequest m e l span reason).2 := by
  obtain ⟨rows, hwritten, hrows, htotal, hwithin⟩ := insertRequest_complete h hdates hok
  have hnew : ∀ r ∈ t.requests ++ [t.newRequest e l span reason],
      r ∈ t.requests ∨ r = t.newRequest e l span reason := by simp
  have hrowsOf : ∀ id, id ≠ t.nextRequest → redeemedFor rows id = 0 := fun id hid =>
    redeemedFor_eq_zero (fun x hx hx' => hid (hx'.symm.trans (hrows x hx).2.1))
  have hnone : redeemedFor t.redemptions t.nextRequest = 0 :=
    redeemedFor_eq_zero (fun x hx => (h.known x hx).ne)
  rw [hwritten]
  refine ⟨h.accrualKeys, h.accrualUnits,
    h.requestKeys.append_one (fun r hr => (h.fresh r hr).ne), ?_, ?_, ?_, ?_, hwithin, ?_⟩
  · intro r hr
    rcases hnew r hr with hr | rfl
    · exact Nat.lt_succ_of_lt (h.fresh r hr)
    · exact Nat.lt_succ_self _
  · intro x hx
    rcases List.mem_append.mp hx with hx | hx
    · exact Nat.lt_succ_of_lt (h.known x hx)
    · rw [(hrows x hx).2.1]
      exact Nat.lt_succ_self _
  · intro x hx
    rcases List.mem_append.mp hx with hx | hx
    · exact h.units x hx
    · exact (hrows x hx).2.2.2
  · intro x hx r hr hid
    rcases List.mem_append.mp hx with hx | hx
    · rcases hnew r hr with hr | rfl
      · exact h.owned x hx r hr hid
      · exact absurd hid.symm (h.known x hx).ne
    · obtain ⟨hcompOff, hrequest, hpending, -⟩ := hrows x hx
      rcases hnew r hr with hr | rfl
      · exact absurd (hid.trans hrequest) (h.fresh r hr).ne
      · exact ⟨hcompOff, hpending⟩
  · intro r hr hcompOff hactive
    rw [redeemedFor_append]
    rcases hnew r hr with hr | rfl
    · rw [hrowsOf r.id (h.fresh r hr).ne, add_zero]
      exact h.conserved.requests r hr hcompOff hactive
    · show redeemedFor t.redemptions t.nextRequest + redeemedFor rows t.nextRequest = span.units
      rw [hnone, zero_add, redeemedFor_own (fun x hx => ⟨(hrows x hx).2.1, (hrows x hx).2.2.1⟩)]
      exact htotal hcompOff

/-! ## Following a status -/

/-- Reservations follow a request of their own, or there are none. -/
theorem Reserved.syncRequest_eq (h : Reserved m t) {request : LeaveRequest}
    (hmem : request ∈ t.requests) (f : LeaveRequest → LeaveRequest) (status : LeaveRequestStatus) :
    (t.updateRequest request.id f).syncRequest m request status
      = { t with
        requests := Table.update (fun r => r.id = request.id) f t.requests
        redemptions := Table.update (fun x => x.leaveRequest = request.id)
          (fun x => { x with status := status.redemptionStatus }) t.redemptions } := by
  unfold LeaveTables.syncRequest
  split
  · exact syncCompOffRedemptions_eq _ _ _
  · next hnot =>
    have hnone : Table.update (fun x : CompOffRedemption => x.leaveRequest = request.id)
        (fun x => { x with status := status.redemptionStatus }) t.redemptions = t.redemptions := by
      refine (List.map_congr_left (fun x hx => ?_)).trans (List.map_id _)
      have hne : x.leaveRequest ≠ request.id := fun hid =>
        hnot (h.owned x hx request hmem hid.symm).1
      simp [hne]
    rw [hnone]
    rfl

/-- The reservations of an active request count. -/
theorem Reserved.isReserved (h : Reserved m t) {request : LeaveRequest}
    (hmem : request ∈ t.requests) (hactive : request.IsActive) :
    ∀ x ∈ t.redemptions, x.leaveRequest = request.id → x.status.isReserved = true := by
  intro x hx hid
  rw [(h.owned x hx request hmem hid.symm).2]
  rcases hactive with hs | hs <;> rw [hs] <;> rfl

/-- Taking a status never adds to what an accrual gives. -/
theorem redeemedOf_update_le {id : LeaveRequestId} (status : CompOffStatus)
    (hunits : ∀ x ∈ redemptions, 0 ≤ x.units)
    (hreserved : ∀ x ∈ redemptions, x.leaveRequest = id → x.status.isReserved = true)
    (accrual : CompOffAccrualId) :
    redeemedOf (Table.update (fun x => x.leaveRequest = id) (fun x => { x with status := status })
      redemptions) accrual ≤ redeemedOf redemptions accrual := by
  rw [redeemedOf, redeemedOf, sum_map_filter, sum_map_filter, Table.update, List.map_map]
  refine List.sum_le_sum (fun x hx => ?_)
  have hpos := hunits x hx
  simp only [Function.comp_apply]
  by_cases hid : x.leaveRequest = id
  · by_cases haccrual : x.accrual = accrual
    · simp only [hid, hreserved x hx hid, haccrual, decide_true, if_true, and_self]
      split
      · exact le_rfl
      · exact hpos
    · simp [hid, haccrual]
  · simp [hid]

/-- Taking a status leaves the units of other requests, and those of the request
when the status counts. -/
theorem redeemedFor_update {id : LeaveRequestId} {status : CompOffStatus}
    (hreserved : ∀ x ∈ redemptions, x.leaveRequest = id → x.status.isReserved = true)
    {request : LeaveRequestId} (h : request = id → status.isReserved = true) :
    redeemedFor (Table.update (fun x => x.leaveRequest = id) (fun x => { x with status := status })
      redemptions) request = redeemedFor redemptions request := by
  rw [redeemedFor, redeemedFor, sum_map_filter, sum_map_filter, Table.update, List.map_map]
  refine congrArg List.sum (List.map_congr_left (fun x hx => ?_))
  simp only [Function.comp_apply]
  by_cases hid : x.leaveRequest = id
  · by_cases hrequest : id = request
    · simp [hid, hreserved x hx hid, hrequest, h hrequest.symm]
    · simp [hid, hrequest]
  · simp [hid]

/-- **A status given to an active request**, and to its reservations. -/
theorem Reserved.setStatus (h : Reserved m t) {request : LeaveRequest}
    (hmem : request ∈ t.requests) (hactive : request.IsActive) {status : LeaveRequestStatus}
    {f : LeaveRequest → LeaveRequest} (hf : ∀ r, SameCharge r (f r) ∧ (f r).status = status) :
    Reserved m ((t.updateRequest request.id f).syncRequest m request status) := by
  have hreserved := h.isReserved hmem hactive
  have hrequests : ∀ r' ∈ Table.update (fun r => r.id = request.id) f t.requests,
      ∃ r ∈ t.requests, SameCharge r r'
        ∧ ((r.id = request.id ∧ r'.status = status) ∨ (r.id ≠ request.id ∧ r' = r)) := by
    intro r' hr'
    rcases Table.mem_update_iff.mp hr' with ⟨r, hr, hid, rfl⟩ | ⟨hr, hid⟩
    · exact ⟨r, hr, (hf r).1, Or.inl ⟨of_decide_eq_true hid, (hf r).2⟩⟩
    · exact ⟨r', hr, .refl r', Or.inr ⟨of_decide_eq_false hid, rfl⟩⟩
  have hredemptions : ∀ x' ∈ Table.update (fun x : CompOffRedemption => x.leaveRequest = request.id)
        (fun x => { x with status := status.redemptionStatus }) t.redemptions,
      ∃ x ∈ t.redemptions, x'.leaveRequest = x.leaveRequest ∧ x'.units = x.units
        ∧ ((x.leaveRequest = request.id ∧ x'.status = status.redemptionStatus)
          ∨ (x.leaveRequest ≠ request.id ∧ x' = x)) := by
    intro x' hx'
    rcases Table.mem_update_iff.mp hx' with ⟨x, hx, hid, rfl⟩ | ⟨hx, hid⟩
    · exact ⟨x, hx, rfl, rfl, Or.inl ⟨of_decide_eq_true hid, rfl⟩⟩
    · exact ⟨x', hx, rfl, rfl, Or.inr ⟨of_decide_eq_false hid, rfl⟩⟩
  rw [h.syncRequest_eq hmem f status]
  refine ⟨h.accrualKeys, h.accrualUnits, h.requestKeys.update (fun r => (hf r).1.id), ?_, ?_, ?_,
    ?_, ?_, ?_⟩
  · intro r' hr'
    obtain ⟨r, hr, hsame, -⟩ := hrequests r' hr'
    rw [hsame.id]
    exact h.fresh r hr
  · intro x' hx'
    obtain ⟨x, hx, hid, -⟩ := hredemptions x' hx'
    rw [hid]
    exact h.known x hx
  · intro x' hx'
    obtain ⟨x, hx, -, hunits, -⟩ := hredemptions x' hx'
    rw [hunits]
    exact h.units x hx
  · intro x' hx' r' hr' hid
    obtain ⟨x, hx, hxid, -, hxcases⟩ := hredemptions x' hx'
    obtain ⟨r, hr, hsame, hrcases⟩ := hrequests r' hr'
    have hown : r.id = x.leaveRequest := hsame.id.symm.trans (hid.trans hxid)
    obtain ⟨hcompOff, hstatus⟩ := h.owned x hx r hr hown
    refine ⟨hsame.leaveType ▸ hcompOff, ?_⟩
    rcases hxcases with ⟨hx₁, hx₂⟩ | ⟨hx₁, rfl⟩ <;> rcases hrcases with ⟨hr₁, hr₂⟩ | ⟨hr₁, rfl⟩
    · rw [hx₂, hr₂]
    · exact absurd (hown.trans hx₁) hr₁
    · exact absurd (hown.symm.trans hr₁) hx₁
    · exact hstatus
  · intro a ha
    exact (redeemedOf_update_le _ (fun x hx => (h.units x hx).2) hreserved a.id).trans
      (h.conserved.accruals a ha)
  · intro r' hr' hcompOff hactive'
    obtain ⟨r, hr, hsame, hrcases⟩ := hrequests r' hr'
    rw [hsame.leaveType] at hcompOff
    rw [hsame.id, hsame.totalUnits]
    rcases hrcases with ⟨hid, hstatus⟩ | ⟨hid, rfl⟩
    · obtain rfl : r = request := h.requestKeys.eq_of_key hr hmem hid
      have hcounts : status.redemptionStatus.isReserved = true := by
        rcases hactive' with hs | hs <;> rw [← hstatus, hs] <;> rfl
      exact (redeemedFor_update hreserved (fun _ => hcounts)).trans
        (h.conserved.requests r hr hcompOff hactive)
    · exact (redeemedFor_update hreserved (fun heq => absurd heq hid)).trans
        (h.conserved.requests r' hr hcompOff hactive')

/-! ## Every move -/

/-- **Every complete move keeps it.** -/
theorem Reserved.move (h : Reserved m t) (hmove : Move m False t t') : Reserved m t' := by
  cases hmove with
  | recompute hok =>
    obtain ⟨balances, entries, rfl⟩ := getOrCreateLeaveBalance_frame hok
    exact ⟨h.accrualKeys, h.accrualUnits, h.requestKeys, h.fresh, h.known, h.units, h.owned,
      ⟨h.conserved.accruals, h.conserved.requests⟩⟩
  | insert hdates hcomplete =>
    exact h.insert (checkDates_eq_ok hdates) (hcomplete.resolve_left id)
  | @decide _ subject decision reason hpending hok =>
    unfold leaveHandler at hok
    dsimp only at hok
    split at hok
    · next htype =>
      split at hok
      · cases hok
        exact h
      · next request hfound =>
        obtain rfl := Except.ok.inj hok
        have hid : request.id = subject.objectId := Table.find_key hfound
        have hsubject : subject = leaveSubject request.id := by
          obtain ⟨type, objectId⟩ := subject
          obtain rfl : type = .leaveRequest := htype
          rw [hid]
          rfl
        rw [← hid]
        exact h.setStatus (Table.find_mem hfound)
          (Or.inl (hpending request (Table.find_mem hfound) hsubject))
          (fun r => ⟨⟨rfl, rfl, rfl, rfl, rfl⟩, rfl⟩)
    · cases hok
      exact h
  | @withdraw request hfound hactive =>
    exact h.setStatus (Table.find_mem hfound) hactive
      (fun r => ⟨⟨rfl, rfl, rfl, rfl, rfl⟩, rfl⟩)
  | laterDay _ =>
    exact ⟨h.accrualKeys, h.accrualUnits, h.requestKeys, h.fresh, h.known, h.units, h.owned,
      ⟨h.conserved.accruals, h.conserved.requests⟩⟩

end

/-- **Tables without requests**: accruals have their keys, and units of two
places. -/
structure LeaveTables.Accrued (t : LeaveTables) : Prop where
  requests : t.requests = []
  redemptions : t.redemptions = []
  accrualKeys : Table.Unique CompOffAccrual.id t.accruals
  accrualUnits : ∀ a ∈ t.accruals, TwoPlaces a.units

/-- **Compensatory leave is conserved** in every run that rolls a failed creation
back. -/
theorem compOffConserved (m : Masters) (stages : StageTable) (tables : LeaveTables)
    (htables : tables.Accrued) (ops : List Op) :
    CompOffConserved m
      (Run.exec (stepRolledBack m) (EngineState.initial stages tables) ops).subjects := by
  have hnone : ∀ r, r ∉ tables.requests := fun r hr => by simp [htables.requests] at hr
  have hunreserved : ∀ x, x ∉ tables.redemptions := fun x hx => by
    simp [htables.redemptions] at hx
  have hinitial : Reserved m tables := by
    refine ⟨htables.accrualKeys, htables.accrualUnits, ?_, fun r hr => absurd hr (hnone r),
      fun x hx => absurd hx (hunreserved x), fun x hx => absurd hx (hunreserved x),
      fun x hx => absurd hx (hunreserved x), fun a _ => ?_, fun r hr => absurd hr (hnone r)⟩
    · rw [htables.requests]
      exact List.nodup_nil
    · rw [htables.redemptions]
      exact le_max_left 0 a.units
  exact (invariant_of_moves (fun _ op hst => stepRolledBack_moves hst op)
    (fun _ _ h hmove => h.move hmove) htables.requests hinitial ops).conserved

/-! ## Two accruals

Employee 1 has a day and a half of compensatory leave, the half day expiring
first. -/

namespace Sample

def compOffMasters : Masters where
  employee := masters.employee
  leaveType l := { masters.leaveType l with isCompOff := true }

def accrual (id : CompOffAccrualId) (units : ℚ) (expiresOn : Option Date) : CompOffAccrual where
  id := id
  employee := 1
  accrualDate := ⟨2026, 11, 1, by decide⟩
  units := units
  expiresOn := expiresOn
  status := .approved

def accrued : LeaveTables :=
  { tables with
    accruals := [accrual 0 1 none, accrual 1 (1 / 2) (some ⟨2026, 12, 31, isDate_2026_12_31⟩)] }

theorem accrued_accrued : accrued.Accrued where
  requests := rfl
  redemptions := rfl
  accrualKeys := by decide
  accrualUnits := by
    intro a ha
    simp only [accrued, List.mem_cons, List.not_mem_nil, or_false] at ha
    rcases ha with rfl | rfl
    · exact ⟨100, by norm_num [accrual]⟩
    · exact ⟨50, by norm_num [accrual]⟩

/-- A day that takes the half day and half of the other, and a second day that is
refused. -/
def twoDays : List Op :=
  [ask ⟨2026, 12, 7, isDate_2026_12_07⟩ ⟨2026, 12, 7, isDate_2026_12_07⟩, approve 1,
    ask ⟨2026, 12, 8, by decide⟩ ⟨2026, 12, 8, by decide⟩]

end Sample

theorem compOffConserved_sample :
    CompOffConserved Sample.compOffMasters
      (Run.exec (stepRolledBack Sample.compOffMasters)
        (EngineState.initial Sample.stages Sample.accrued) Sample.twoDays).subjects :=
  compOffConserved Sample.compOffMasters Sample.stages Sample.accrued Sample.accrued_accrued
    Sample.twoDays

example : ((Run.exec (stepRolledBack Sample.compOffMasters)
    (EngineState.initial Sample.stages Sample.accrued) Sample.twoDays).subjects.redemptions.map
      (fun x => (x.accrual, x.units, x.status)))
    = [(1, 1 / 2, .approved), (0, 1 / 2, .approved)] := by
  decide +kernel

end TimeOff
