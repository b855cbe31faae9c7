import Clarisal.TimeOff.Debits

/-!
# Encashment limits

A request is checked against what the balance of its cycle has available, which
the requests that are still undecided do not reduce: two requests of five days
both pass when five days are available, and both can be approved
(`fiveDays_encashed_twice`). The limit for the year counts them, and
is kept.

While nothing else changes the balance, what is available together with the
days already debited is what was available at first. So the requests stay
within it exactly when each of them, with the days that are outstanding, is
within the two (`withinLimits_iff_reserves`).
-/

open Calendar

namespace TimeOff

open Approvals Transaction

/-- The days of the requests of a balance that are not given up. -/
def outstandingDays (t : EncashmentTables) (key : BalanceKey) : ℚ :=
  getTotalDaysToEncash t.encashments key outstandingStatuses

/-- **The limits of a balance**, when it has a request. -/
def WithinLimits (m : EncashmentMasters) (key : BalanceKey) (available : ℚ)
    (t : EncashmentTables) : Prop :=
  (∃ r ∈ t.encashments, r.key = key) → outstandingDays t key ≤ available
    ∧ ∀ limit ∈ (m.encashment key.leaveType).maxEncashmentDaysPerYear,
      outstandingDays t key ≤ limit

instance (m : EncashmentMasters) (key : BalanceKey) (available : ℚ) (t : EncashmentTables) :
    Decidable (WithinLimits m key available t) :=
  inferInstanceAs (Decidable (_ → _ ∧ _))

/-- The operations on encashments: no leave is requested or recomputed. -/
def EncashmentOp.IsEncashment : EncashmentOp → Prop
  | .createLeaveEncashmentRequest _ _ _ | .finalizeLeaveEncashment _
  | .leave (.approveAction _ _ _ _ _) | .leave (.rejectAction _ _ _ _)
  | .leave (.processPendingActionEscalations _ _) => True
  | .leave (.createLeaveRequest _ _ _ _ _) | .leave (.withdrawLeaveRequest _ _)
  | .leave (.getOrCreateLeaveBalance _ _ _) | .leave (.dateChanges _) => False

instance : ∀ op : EncashmentOp, Decidable op.IsEncashment
  | .createLeaveEncashmentRequest _ _ _ | .finalizeLeaveEncashment _
  | .leave (.approveAction _ _ _ _ _) | .leave (.rejectAction _ _ _ _)
  | .leave (.processPendingActionEscalations _ _) => instDecidableTrue
  | .leave (.createLeaveRequest _ _ _ _ _) | .leave (.withdrawLeaveRequest _ _)
  | .leave (.getOrCreateLeaveBalance _ _ _) | .leave (.dateChanges _) => instDecidableFalse

/-- **A request that leaves the outstanding ones their days**: it is refused, or
it and they are within what is available and what was debited. -/
def Reserves (m : EncashmentMasters) (key : BalanceKey) (st : EncashmentState) :
    EncashmentOp → Prop
  | .createLeaveEncashmentRequest submission key' days =>
    key' = key → (createLeaveEncashmentRequest m submission key days st).isOk →
      days + outstandingDays st.subjects key
        ≤ st.subjects.availableOf key + finalizedDays st.subjects key
  | .finalizeLeaveEncashment _ | .leave _ => True

instance (m : EncashmentMasters) (key : BalanceKey) (st : EncashmentState) :
    ∀ op : EncashmentOp, Decidable (Reserves m key st op)
  | .createLeaveEncashmentRequest _ _ _ => inferInstanceAs (Decidable (_ → _ → _))
  | .finalizeLeaveEncashment _ | .leave _ => instDecidableTrue

/-! ## Approvals and encashments agree -/

/-- **The approvals of the encashments**: a pending one is about a pending
request, and no two are about one request. -/
structure Awaited (st : EncashmentState) : Prop where
  known : ∀ o ∈ st.db.outline, ∀ id, o.subject = encashmentSubject id →
    id < st.subjects.nextEncashment
  single : ∀ o ∈ st.db.outline, ∀ o' ∈ st.db.outline, ∀ id,
    o.subject = encashmentSubject id → o'.subject = encashmentSubject id → o.id = o'.id
  pending : ∀ o ∈ st.db.outline, o.status = .pending → ∀ r ∈ st.subjects.encashments,
    o.subject = encashmentSubject r.id → r.status = .pending

section

variable {m : EncashmentMasters} {key : BalanceKey} {available : ℚ} {t t' : EncashmentTables}
  {st st' : EncashmentState}

theorem encashmentSubject_inj {i j : LeaveEncashmentRequestId}
    (h : encashmentSubject i = encashmentSubject j) : i = j :=
  congrArg ContentObject.objectId h

/-- Approvals that are decided or stay, when requests change that have none
pending. -/
theorem Awaited.of_closes (h : Awaited st) (hcloses : Closes st.db.outline st'.db.outline)
    (hnext : st'.subjects.nextEncashment = st.subjects.nextEncashment)
    (hrows : ∀ r' ∈ st'.subjects.encashments, r' ∈ st.subjects.encashments
      ∨ ∀ o ∈ st'.db.outline, o.status = .pending → o.subject ≠ encashmentSubject r'.id) :
    Awaited st' where
  known o ho id hsubject := by
    obtain ⟨o₀, ho₀, -, hsame⟩ := hcloses.exists_of_mem ho
    rw [hnext]
    exact h.known o₀ ho₀ id (hsame.trans hsubject)
  single o ho o' ho' id hsubject hsubject' := by
    obtain ⟨o₀, ho₀, hid, hsame⟩ := hcloses.exists_of_mem ho
    obtain ⟨o₀', ho₀', hid', hsame'⟩ := hcloses.exists_of_mem ho'
    rw [← hid, ← hid']
    exact h.single o₀ ho₀ o₀' ho₀' id (hsame.trans hsubject) (hsame'.trans hsubject')
  pending o ho hop r' hr' hsubject := by
    rcases hrows r' hr' with hr' | hnone
    · exact h.pending o (hcloses.pending ho hop) hop r' hr' hsubject
    · exact absurd hsubject (hnone o ho hop)

/-- A request is created with its approval. -/
theorem Awaited.create (h : Awaited st) (hregistered : Registered st.subjects)
    {submission : Submission} {days : DaysToEncash}
    (hok : createLeaveEncashmentRequest m submission key days st = .ok st') : Awaited st' := by
  obtain ⟨-, workflow, run, hcreate, hsubjects⟩ := createLeaveEncashmentRequest_eq_ok hok
  obtain ⟨-, houtline⟩ := outline_createApprovalRun hcreate
  have hnext : st'.subjects.nextEncashment = st.subjects.nextEncashment + 1 := by
    rw [hsubjects]
    rfl
  constructor
  · rw [houtline, hnext]
    intro o ho id hsubject
    rcases List.mem_append.mp ho with ho | ho
    · exact (h.known o ho id hsubject).trans (Nat.lt_succ_self _)
    · rw [List.mem_singleton.mp ho] at hsubject
      exact encashmentSubject_inj hsubject ▸ Nat.lt_succ_self _
  · rw [houtline]
    simp only [List.mem_append, List.mem_singleton]
    rintro o (ho | rfl) o' (ho' | rfl) id hsubject hsubject'
    · exact h.single o ho o' ho' id hsubject hsubject'
    · exact absurd (h.known o ho id hsubject) (encashmentSubject_inj hsubject' ▸ lt_irrefl _)
    · exact absurd (h.known o' ho' id hsubject') (encashmentSubject_inj hsubject ▸ lt_irrefl _)
    · rfl
  · rw [houtline, hsubjects]
    intro o ho hop r' hr' hsubject
    obtain ⟨r, hr, rfl⟩ := Table.mem_update.mp hr'
    have hid : ∀ r : LeaveEncashmentRequest,
        (if decide (r.id = st.subjects.nextEncashment) = true then
          { r with approvalRun := some run } else r).id = r.id := fun r => by split <;> rfl
    have hstatus : ∀ r : LeaveEncashmentRequest,
        (if decide (r.id = st.subjects.nextEncashment) = true then
          { r with approvalRun := some run } else r).status = r.status := fun r => by split <;> rfl
    rw [hid] at hsubject
    rw [hstatus]
    rcases List.mem_append.mp hr with hr | hr
    · rcases List.mem_append.mp ho with ho | ho
      · exact h.pending o ho hop r hr hsubject
      · rw [List.mem_singleton.mp ho] at hsubject
        exact absurd (hregistered.fresh r hr) (encashmentSubject_inj hsubject ▸ lt_irrefl _)
    · rw [List.mem_singleton.mp hr]

/-! ## What is outstanding -/

/-- What a request adds to the outstanding days of a balance. -/
def LeaveEncashmentRequest.outstandingIn (key : BalanceKey) (r : LeaveEncashmentRequest) : ℚ :=
  if r.key = key ∧ r.status ∈ outstandingStatuses then r.daysToEncash else 0

theorem outstandingDays_eq (t : EncashmentTables) (key : BalanceKey) :
    outstandingDays t key
      = (t.encashments.map (LeaveEncashmentRequest.outstandingIn key)).sum := by
  rw [outstandingDays, getTotalDaysToEncash, sum_map_filter]
  simp only [decide_eq_true_eq]
  rfl

theorem twoPlaces_outstandingDays (t : EncashmentTables) (key : BalanceKey) :
    TwoPlaces (outstandingDays t key) :=
  Decimal.onGrid_sum (fun x hx => by
    obtain ⟨r, -, rfl⟩ := List.mem_map.mp hx
    exact r.valid.2)

theorem twoPlaces_availableOf (t : EncashmentTables) (key : BalanceKey) :
    TwoPlaces (t.availableOf key) := by
  unfold EncashmentTables.availableOf
  split
  · exact Decimal.onGrid_zero
  · exact twoPlaces_available _

/-- **What leaves the limits of a balance alone**: no request appears, none
counts that did not, and what is debited was available. -/
structure Keeps (key : BalanceKey) (t t' : EncashmentTables) : Prop where
  rows : (∃ r ∈ t'.encashments, r.key = key) → ∃ r ∈ t.encashments, r.key = key
  days : outstandingDays t' key ≤ outstandingDays t key
  conserved : t'.availableOf key + finalizedDays t' key
    = t.availableOf key + finalizedDays t key

theorem Keeps.refl (key : BalanceKey) (t : EncashmentTables) : Keeps key t t := ⟨id, le_rfl, rfl⟩

theorem Keeps.trans {t'' : EncashmentTables} (h : Keeps key t t') (h' : Keeps key t' t'') :
    Keeps key t t'' :=
  ⟨fun hrow => h.rows (h'.rows hrow), h'.days.trans h.days, h'.conserved.trans h.conserved⟩

theorem Keeps.within (h : Keeps key t t') (hwithin : WithinLimits m key available t) :
    WithinLimits m key available t' := by
  intro hrow
  obtain ⟨havailable, hlimit⟩ := hwithin (h.rows hrow)
  exact ⟨h.days.trans havailable, fun limit hmem => h.days.trans (hlimit limit hmem)⟩

/-- A decision about a pending request. -/
theorem keeps_decide {id : LeaveEncashmentRequestId} {decision : SubjectStatus} {reason : String}
    (hpending : ∀ r ∈ t.encashments, r.id = id → r.status = .pending) :
    Keeps key t (t.decide id decision reason) where
  rows := by
    rintro ⟨r', hr', hkey⟩
    obtain ⟨r, hr, rfl⟩ := Table.mem_update.mp hr'
    refine ⟨r, hr, hkey ▸ ?_⟩
    split <;> rfl
  days := by
    rw [outstandingDays_eq, outstandingDays_eq]
    show ((t.encashments.map _).map _).sum ≤ _
    rw [List.map_map]
    refine List.sum_le_sum (fun r hr => ?_)
    by_cases hid : r.id = id
    · have hstatus := hpending r hr hid
      have hpos : 0 ≤ r.daysToEncash := by linarith [r.valid.1]
      simp only [Function.comp_apply, hid, decide_true, if_true,
        LeaveEncashmentRequest.outstandingIn, hstatus]
      split_ifs with hcounts hcounted hcounted
      · exact le_rfl
      · exact absurd ⟨hcounts.1, by decide⟩ hcounted
      · exact hpos
      · exact le_rfl
    · simp [hid]
  conserved := by
    have hfinalized : finalizedDays (t.decide id decision reason) = finalizedDays t := by
      refine finalizedDays_updateEncashment ?_ t id
      exact fun _ => ⟨rfl, rfl, rfl⟩
    rw [hfinalized]
    rfl

/-- **A debit moves days** from what is available to what is finalized. -/
theorem keeps_finalize (h : Registered t) {request r : LeaveEncashmentRequest}
    (hr : r ∈ t.encashments) (hsame : SameDebit r request)
    (hok : finalizeLeaveEncashment request t = .ok t') : Keeps key t t' := by
  obtain ⟨balance, hbalance, ⟨-, rfl⟩ | ⟨hopen, rfl⟩⟩ := finalizeLeaveEncashment_eq_ok hok
  · exact .refl key t'
  · have hkey : balance.key = request.key := Table.find_key hbalance
    refine ⟨id, le_rfl, ?_⟩
    rw [h.finalizedDays_debit hr hsame hopen rfl rfl]
    unfold EncashmentTables.availableOf LeaveTables.getBalance
    by_cases hthis : request.key = key
    · have hfound : Table.find LeaveBalance.key key (Table.save LeaveBalance.key
          (balance.encash request.daysToEncash) t.leave.balances)
          = some (balance.encash request.daysToEncash) := by
        have hbalance' : Table.find LeaveBalance.key (balance.encash request.daysToEncash).key
            t.leave.balances = some balance := hkey ▸ hbalance
        rw [← hthis, ← hkey]
        exact Table.find_save_self hbalance'
      have hold : Table.find LeaveBalance.key key t.leave.balances = some balance :=
        hthis ▸ hbalance
      have hused : (balance.encash request.daysToEncash).usedAmount
          = balance.usedAmount + request.daysToEncash :=
        decimal_of_twoPlaces (balance.twoPlaces.2.2.2.1.add request.valid.2)
      rw [hfound, hold, if_pos hthis]
      show balance.openingBalance + balance.carriedForwardAmount + balance.creditedAmount
        - (balance.encash request.daysToEncash).usedAmount - balance.pendingAmount + _ = _
      rw [hused]
      unfold LeaveBalance.available
      ring
    · have hother : key ≠ (balance.encash request.daysToEncash).key := fun heq =>
        hthis (heq.trans hkey).symm
      rw [Table.find_save_of_ne hother, if_neg hthis, add_zero]

/-- **A decision handed to its subject**, when that was pending. -/
theorem keeps_encashmentHandler {m : Masters} {subject : ContentObject}
    {decision : SubjectStatus} {reason : String} (h : Registered t)
    (hpending : ∀ r ∈ t.encashments, subject = encashmentSubject r.id → r.status = .pending)
    (hok : (encashmentHandler m).applySubjectStatus subject decision reason t = .ok t') :
    Registered t' ∧ Keeps key t t' := by
  rcases encashmentHandler_eq_ok hok with ⟨leave, hleave, rfl, -⟩ | ⟨id, rfl, ⟨-, rfl⟩ | hfound⟩
  · obtain ⟨leave', hleave', hset⟩ := leaveHandler_eq_ok m subject decision reason t.leave
    obtain rfl := Except.ok.inj (hleave.symm.trans hleave')
    refine ⟨⟨h.unique, h.fresh, h.known⟩, id, le_rfl, ?_⟩
    unfold EncashmentTables.availableOf LeaveTables.getBalance
    rw [hset.balances]
    rfl
  · exact ⟨h, .refl key t'⟩
  · obtain ⟨request, hrequest, hcases⟩ := hfound
    have hregistered : Registered (t.decide id decision reason) := by
      refine h.updateEncashment ?_ id
      exact fun _ => ⟨rfl, rfl, rfl⟩
    have hkeeps : Keeps key t (t.decide id decision reason) :=
      keeps_decide (fun r hr hid => hpending r hr (congrArg encashmentSubject hid.symm))
    rcases hcases with ⟨-, rfl⟩ | ⟨-, hfinalize⟩
    · exact ⟨hregistered, hkeeps⟩
    · obtain ⟨r, hr, hsame⟩ := exists_mem_decide hrequest decision reason
      exact ⟨hregistered.finalize hr hsame hfinalize,
        hkeeps.trans (keeps_finalize hregistered hr hsame hfinalize)⟩

/-- A debit leaves the requests alone. -/
theorem finalizeLeaveEncashment_frame {request : LeaveEncashmentRequest}
    (hok : finalizeLeaveEncashment request t = .ok t') :
    t'.encashments = t.encashments ∧ t'.nextEncashment = t.nextEncashment := by
  obtain ⟨balance, -, ⟨-, rfl⟩ | ⟨-, rfl⟩⟩ := finalizeLeaveEncashment_eq_ok hok <;>
    exact ⟨rfl, rfl⟩

/-- A decision changes its subject at most. -/
theorem encashmentHandler_frame {m : Masters} {subject : ContentObject}
    {decision : SubjectStatus} {reason : String}
    (hok : (encashmentHandler m).applySubjectStatus subject decision reason t = .ok t') :
    t'.nextEncashment = t.nextEncashment
      ∧ ∀ r ∈ t'.encashments, r ∈ t.encashments ∨ subject = encashmentSubject r.id := by
  have hdecide : ∀ id, subject = encashmentSubject id →
      ∀ r ∈ (t.decide id decision reason).encashments,
        r ∈ t.encashments ∨ subject = encashmentSubject r.id := by
    intro id hsubject r' hr'
    rcases Table.mem_update_iff.mp hr' with ⟨r, -, hid, rfl⟩ | ⟨hr', -⟩
    · exact Or.inr (hsubject.trans (congrArg encashmentSubject (of_decide_eq_true hid).symm))
    · exact Or.inl hr'
  rcases encashmentHandler_eq_ok hok with ⟨leave, -, rfl, -⟩ | ⟨id, hsubject, ⟨-, rfl⟩ | hfound⟩
  · exact ⟨rfl, fun r hr => Or.inl hr⟩
  · exact ⟨rfl, fun r hr => Or.inl hr⟩
  · obtain ⟨request, -, ⟨-, rfl⟩ | ⟨-, hfinalize⟩⟩ := hfound
    · exact ⟨rfl, hdecide id hsubject⟩
    · obtain ⟨hrows, hnext⟩ := finalizeLeaveEncashment_frame hfinalize
      exact ⟨hnext, hrows ▸ hdecide id hsubject⟩

/-! ## Every run -/

/-- **The invariant**: approvals and encashments agree, and what was available
is available or debited. -/
structure Conserved (key : BalanceKey) (available : ℚ) (st : EncashmentState) : Prop where
  engine : st.db.Inv
  registered : Registered st.subjects
  awaited : Awaited st
  conserved : st.subjects.availableOf key + finalizedDays st.subjects key = available

/-- A request of the engine. -/
theorem Conserved.outcome {m : Masters} (h : Conserved key available st) (hinv : st'.db.Inv)
    (houtcome : Outcome (encashmentHandler m) st st') :
    Conserved key available st' ∧ Keeps key st.subjects st'.subjects := by
  cases houtcome with
  | quiet houtline hsubjects =>
    refine ⟨⟨hinv, hsubjects ▸ h.registered, h.awaited.of_closes (.none houtline)
      (by rw [hsubjects]) (fun r hr => Or.inl (hsubjects ▸ hr)), hsubjects ▸ h.conserved⟩, ?_⟩
    exact hsubjects ▸ .refl key st'.subjects
  | dropped run hrun hpending houtline hsubjects =>
    refine ⟨⟨hinv, hsubjects ▸ h.registered, h.awaited.of_closes
      (.one run .cancelled hrun hpending nofun houtline)
      (by rw [hsubjects]) (fun r hr => Or.inl (hsubjects ▸ hr)), hsubjects ▸ h.conserved⟩, ?_⟩
    exact hsubjects ▸ .refl key st'.subjects
  | decided run decision reason hrun hpending houtline hsubjects =>
    obtain ⟨hnext, hrows⟩ := encashmentHandler_frame hsubjects
    obtain ⟨hregistered, hkeeps⟩ : Registered st'.subjects
        ∧ Keeps key st.subjects st'.subjects := keeps_encashmentHandler h.registered
      (fun r hr hsubject => h.awaited.pending run hrun hpending r hr hsubject) hsubjects
    refine ⟨⟨hinv, hregistered, h.awaited.of_closes
      (.one run _ hrun hpending decision.runStatus_ne_pending houtline) hnext
      (fun r hr => (hrows r hr).imp_right (fun hsubject o ho hop hsame => ?_)),
      hkeeps.conserved.trans h.conserved⟩, hkeeps⟩
    -- the request decided has no second approval that could be pending
    rw [houtline] at ho
    obtain ⟨ho, hne⟩ := pending_of_mem_setOutline decision.runStatus_ne_pending ho hop
    exact hne (h.awaited.single o ho run hrun r.id hsame hsubject)

variable (key) in
/-- The rows of a created request. -/
theorem created_rows {submission : Submission} {days : DaysToEncash} {key' : BalanceKey}
    (hregistered : Registered st.subjects)
    (hok : createLeaveEncashmentRequest m submission key' days st = .ok st') :
    Registered st'.subjects
      ∧ ((∃ r ∈ st'.subjects.encashments, r.key = key)
        ↔ (∃ r ∈ st.subjects.encashments, r.key = key) ∨ key' = key)
      ∧ st'.subjects.availableOf key = st.subjects.availableOf key
      ∧ finalizedDays st'.subjects = finalizedDays st.subjects
      ∧ outstandingDays st'.subjects key
        = outstandingDays st.subjects key + if key' = key then days.1 else 0 := by
  obtain ⟨-, workflow, run, -, hsubjects⟩ := createLeaveEncashmentRequest_eq_ok hok
  have hsame : ∀ r : LeaveEncashmentRequest,
      SameDebit r { r with approvalRun := some run } := fun _ => ⟨rfl, rfl, rfl⟩
  rw [hsubjects]
  refine ⟨(hregistered.insertEncashment key' days).updateEncashment hsame _, ?_, rfl, ?_, ?_⟩
  · have hkeys := Table.map_update (p := fun r => decide (r.id = st.subjects.nextEncashment))
      (fun r => (hsame r).key) (st.subjects.insertEncashment key' days).encashments
    rw [← List.mem_map, ← List.mem_map]
    unfold EncashmentTables.updateEncashment
    rw [hkeys]
    simp [EncashmentTables.insertEncashment, eq_comm]
  · rw [finalizedDays_updateEncashment hsame, hregistered.finalizedDays_insertEncashment]
  · rw [outstandingDays_eq, outstandingDays_eq]
    have hupdate := Table.map_update (p := fun r => decide (r.id = st.subjects.nextEncashment))
      (f := fun r => { r with approvalRun := some run })
      (g := LeaveEncashmentRequest.outstandingIn key) (fun _ => rfl)
      (st.subjects.insertEncashment key' days).encashments
    refine (congrArg List.sum hupdate).trans ?_
    have hdays : decimal days.1 = days.1 := decimal_of_twoPlaces days.2.2
    have hpending : LeaveEncashmentStatus.pending ∈ outstandingStatuses := by decide
    unfold EncashmentTables.insertEncashment
    rw [List.map_append, List.sum_append, List.map_singleton, List.sum_singleton]
    simp only [LeaveEncashmentRequest.outstandingIn, hpending, and_true, hdays]

/-- **What a request is checked for.** -/
theorem checkEncashment_eq_ok {days : DaysToEncash} (h : checkEncashment m key days t = .ok ()) :
    days ≤ t.availableOf key
      ∧ ∀ limit ∈ (m.encashment key.leaveType).maxEncashmentDaysPerYear,
        outstandingDays t key + days ≤ limit := by
  have hdays : decimal days.1 = days.1 := decimal_of_twoPlaces days.2.2
  unfold checkEncashment at h
  dsimp only at h
  split at h
  · cases h
  · split at h
    · cases h
    · next havailable =>
      rw [hdays, decimal_of_twoPlaces (twoPlaces_availableOf t key), not_lt] at havailable
      refine ⟨havailable, fun limit hlimit => ?_⟩
      rw [Option.mem_def.mp hlimit] at h
      dsimp only at h
      split at h
      · cases h
      · next hwithin =>
        rw [hdays, decimal_of_twoPlaces ((m.encashment key.leaveType).twoPlaces limit hlimit),
          show decimal (getTotalDaysToEncash t.encashments key outstandingStatuses)
            = outstandingDays t key from decimal_of_twoPlaces (twoPlaces_outstandingDays t key),
          not_lt] at hwithin
        exact hwithin

/-- **A created request** keeps the limits when it leaves the outstanding ones
their days, and only then. -/
theorem Conserved.create (h : Conserved key available st) {submission : Submission}
    {key' : BalanceKey} {days : DaysToEncash}
    (hok : createLeaveEncashmentRequest m submission key' days st = .ok st') :
    Conserved key available st'
      ∧ (WithinLimits m key available st.subjects →
        (WithinLimits m key available st'.subjects
          ↔ (key' = key → days + outstandingDays st.subjects key
            ≤ st.subjects.availableOf key + finalizedDays st.subjects key))) := by
  obtain ⟨hcheck, workflow, run, hcreate, hsubjects⟩ := createLeaveEncashmentRequest_eq_ok hok
  obtain ⟨hregistered, hrows, havailable, hfinalized, hdays⟩ := created_rows key h.registered hok
  refine ⟨⟨(kept_createApprovalRun h.engine hcreate).1, hregistered,
    h.awaited.create h.registered hok, ?_⟩, fun hwithin => ?_⟩
  · rw [havailable, hfinalized]
    exact h.conserved
  · rw [h.conserved]
    unfold WithinLimits at hwithin ⊢
    rw [hdays, hrows]
    by_cases hkey : key' = key
    · subst hkey
      obtain ⟨-, hlimit⟩ := checkEncashment_eq_ok hcheck
      rw [if_pos rfl, add_comm]
      refine ⟨fun h' _ => (h' (Or.inr rfl)).1, fun h' _ => ⟨h' rfl, fun limit hmem => ?_⟩⟩
      rw [add_comm]
      exact hlimit limit hmem
    · rw [if_neg hkey, add_zero]
      refine iff_of_true (fun hrow => hwithin (hrow.resolve_right hkey)) (fun h' => absurd h' hkey)

/-- **Every operation on encashments keeps the invariant**, and the limits when
it leaves the outstanding requests their days, and only then. -/
theorem Conserved.step (h : Conserved key available st) {op : EncashmentOp}
    (hop : op.IsEncashment) :
    Conserved key available (encashmentStep m st op)
      ∧ (WithinLimits m key available st.subjects →
        (WithinLimits m key available (encashmentStep m st op).subjects
          ↔ Reserves m key st op)) := by
  have hsettle : ∀ {x : Except String EncashmentState}, (∀ st', x = .ok st' →
        Conserved key available st' ∧ Keeps key st.subjects st'.subjects) →
      Conserved key available (settle st x) ∧ Keeps key st.subjects (settle st x).subjects :=
    fun hok => settle_induction (P := fun st' : EncashmentState =>
      Conserved key available st' ∧ Keeps key st.subjects st'.subjects)
      ⟨h, .refl key st.subjects⟩ hok
  have hkeeps : ∀ {st' : EncashmentState}, Conserved key available st'
        ∧ Keeps key st.subjects st'.subjects →
      Conserved key available st' ∧ (WithinLimits m key available st.subjects →
        (WithinLimits m key available st'.subjects ↔ True)) :=
    fun hst' => ⟨hst'.1, fun hwithin => iff_of_true (hst'.2.within hwithin) trivial⟩
  cases op with
  | leave op =>
    cases op with
    | approveAction user dir action actor comment =>
      refine hkeeps (hsettle (fun st' hok => ?_))
      exact h.outcome (kept_approveAction h.engine hok).1 (outcome_approveAction h.engine hok)
    | rejectAction dir action actor comment =>
      refine hkeeps (hsettle (fun st' hok => ?_))
      exact h.outcome (kept_rejectAction h.engine hok).1 (outcome_rejectAction h.engine hok)
    | processPendingActionEscalations user dir =>
      refine hkeeps (h.outcome (m := m.toMasters) ?_ (.quiet ?_ rfl))
      · exact (kept_processPendingActionEscalations h.engine).1
      · exact outline_processPendingActionEscalations
    | createLeaveRequest submission e l span reason => exact hop.elim
    | withdrawLeaveRequest now request => exact hop.elim
    | getOrCreateLeaveBalance e l asOf => exact hop.elim
    | dateChanges date => exact hop.elim
  | createLeaveEncashmentRequest submission key' days =>
    show Conserved key available
          (settle st (createLeaveEncashmentRequest m submission key' days st))
        ∧ (WithinLimits m key available st.subjects → (WithinLimits m key available
          (settle st (createLeaveEncashmentRequest m submission key' days st)).subjects ↔ _))
    cases hcreate : createLeaveEncashmentRequest m submission key' days st with
    | error message =>
      refine ⟨h, fun hwithin => iff_of_true hwithin ?_⟩
      rintro rfl haccepted
      rw [hcreate] at haccepted
      cases haccepted
    | ok st' =>
      obtain ⟨hst', hiff⟩ := h.create hcreate
      refine ⟨hst', fun hwithin => (hiff hwithin).trans (forall_congr' (fun hkey => ?_))⟩
      subst hkey
      rw [hcreate]
      exact (imp_iff_right rfl).symm
  | finalizeLeaveEncashment id =>
    unfold TimeOff.encashmentStep
    dsimp only
    split
    · exact hkeeps ⟨h, .refl key st.subjects⟩
    · next request hrequest =>
      refine hkeeps (hsettle (fun st' hok => ?_))
      obtain ⟨t, hfinalize, hret⟩ := bind_eq_ok_iff.mp hok
      obtain rfl := pure_eq_ok_iff.mp hret
      obtain ⟨hrows, hnext⟩ := finalizeLeaveEncashment_frame hfinalize
      have hmem := Table.find_mem hrequest
      have hkept : Keeps key st.subjects t :=
        keeps_finalize h.registered hmem ⟨rfl, rfl, rfl⟩ hfinalize
      exact ⟨⟨h.engine, h.registered.finalize hmem ⟨rfl, rfl, rfl⟩ hfinalize,
        h.awaited.of_closes (.none rfl) hnext (fun r hr => Or.inl (hrows ▸ hr)),
        hkept.conserved.trans h.conserved⟩, hkept⟩

end

/-- **The requests of a balance stay within their limits** exactly when each of
them leaves the outstanding ones their days, in every run of encashments from
tables without any. -/
theorem withinLimits_iff_reserves (m : EncashmentMasters) (stages : StageTable)
    (tables : EncashmentTables) (hencashments : tables.encashments = [])
    (hdebits : tables.debits = []) (key : BalanceKey) (ops : List EncashmentOp)
    (hops : ∀ op ∈ ops, op.IsEncashment) :
    Run.Along (encashmentStep m) (fun st op =>
        WithinLimits m key (tables.availableOf key) (encashmentStep m st op).subjects)
        (EngineState.initial stages tables) ops
      ↔ Run.Along (encashmentStep m) (Reserves m key) (EngineState.initial stages tables) ops := by
  have hinitial : Conserved key (tables.availableOf key) (EngineState.initial stages tables) := by
    refine ⟨inv_initial _ _, registered_of_none hencashments hdebits, ?_, ?_⟩
    · exact ⟨fun o ho => absurd ho List.not_mem_nil, fun o ho => absurd ho List.not_mem_nil,
        fun o ho => absurd ho List.not_mem_nil⟩
    · show tables.availableOf key + finalizedDays tables key = tables.availableOf key
      rw [finalizedDays, hencashments]
      exact add_zero _
  have hnone : WithinLimits m key (tables.availableOf key) tables := by
    rintro ⟨r, hr, -⟩
    rw [hencashments] at hr
    cases hr
  refine Run.along_congr_of_mem (I := fun st : EncashmentState =>
    Conserved key (tables.availableOf key) st
      ∧ WithinLimits m key (tables.availableOf key) st.subjects)
    (fun st op hop hst hreserves => ?_) (fun st op hop hst => ?_) ⟨hinitial, hnone⟩
  · obtain ⟨hstep, hiff⟩ := hst.1.step (m := m) (hops op hop)
    exact ⟨hstep, (hiff hst.2).mpr hreserves⟩
  · exact (hst.1.step (hops op hop)).2 hst.2

/-! ## Five days left -/

namespace Sample

/-- At most twelve days a year may be encashed. -/
def limitedMasters : EncashmentMasters where
  toMasters := masters
  encashment _ :=
    { name := "Earned leave", allowsEncashment := true, maxEncashmentDaysPerYear := some 12,
      twoPlaces := fun m hm => by
        obtain rfl := Option.some.inj hm
        exact ⟨1200, by norm_num⟩ }

/-- Five of the twelve days of 2026 are left. -/
def fiveLeft : EncashmentTables where
  leave := { tables with balances := [balance2026.encash 7] }
  encashments := []
  debits := []
  nextEncashment := 0

/-- Five days are encashed, and five more are refused. -/
def oneEncashment : List EncashmentOp := [encash, .leave (approve 1), encash]

/-- Five days are asked for twice, and approved. -/
def twoEncashments : List EncashmentOp :=
  [encash, encash, .leave (approve 1), .leave (approve 3)]

end Sample

theorem withinLimits_iff_reserves_sample :
    Run.Along (encashmentStep Sample.limitedMasters) (fun st op =>
        WithinLimits Sample.limitedMasters Sample.balance2026.key
          (Sample.fiveLeft.availableOf Sample.balance2026.key)
          (encashmentStep Sample.limitedMasters st op).subjects)
        (EngineState.initial Sample.stages Sample.fiveLeft) Sample.oneEncashment
      ↔ Run.Along (encashmentStep Sample.limitedMasters)
        (Reserves Sample.limitedMasters Sample.balance2026.key)
        (EngineState.initial Sample.stages Sample.fiveLeft) Sample.oneEncashment :=
  withinLimits_iff_reserves Sample.limitedMasters Sample.stages Sample.fiveLeft rfl rfl
    Sample.balance2026.key Sample.oneEncashment (by decide)

example : Run.Along (encashmentStep Sample.limitedMasters)
    (Reserves Sample.limitedMasters Sample.balance2026.key)
    (EngineState.initial Sample.stages Sample.fiveLeft) Sample.oneEncashment := by
  decide +kernel

/-- **Five days are encashed twice**: the balance of 2026 ends five days below
zero. -/
theorem fiveDays_encashed_twice :
    ¬ WithinLimits Sample.limitedMasters Sample.balance2026.key
        (Sample.fiveLeft.availableOf Sample.balance2026.key)
        (encashmentReached Sample.limitedMasters Sample.stages Sample.fiveLeft
          Sample.twoEncashments).subjects
      ∧ Sample.fiveLeft.availableOf Sample.balance2026.key = 5
      ∧ outstandingDays (encashmentReached Sample.limitedMasters Sample.stages Sample.fiveLeft
        Sample.twoEncashments).subjects Sample.balance2026.key = 10
      ∧ (encashmentReached Sample.limitedMasters Sample.stages Sample.fiveLeft
        Sample.twoEncashments).subjects.availableOf Sample.balance2026.key = -5 := by
  decide +kernel

end TimeOff
