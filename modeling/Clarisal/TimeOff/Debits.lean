import Clarisal.TimeOff.Encashment

/-!
# Encashed leave stays debited

What is used of a cycle is written by two: an encashment that is finalized
adds its days, and a balance that is recomputed counts the approved requests
within its cycle. The second forgets the first, so the days of an encashment
come back as soon as the balance is recomputed, which creating and withdrawing
requests do (`recompute_forgets_encashment`). And an approved request is only
counted when its balance is next recomputed.

The used amounts cover the approved requests and the finalized encashments
(`Debited`) in every run whose steps recompute no cycle with a finalized
encashment, and approve no request its balance has no room for
(`debited_of_undisturbed`).
-/

open Calendar

namespace TimeOff

open Approvals Transaction

/-- **What is used of a cycle covers** its approved requests and its finalized
encashments. -/
def Debited (t : EncashmentTables) : Prop :=
  ∀ b ∈ t.leave.balances,
    getLeaveRequestTotalUnits t.leave.requests b.key .approved + finalizedDays t b.key
      ≤ b.usedAmount

instance (t : EncashmentTables) : Decidable (Debited t) :=
  inferInstanceAs (Decidable (∀ b ∈ t.leave.balances, _))

/-! ## What a step recomputes and approves -/

/-- The balances a step recomputes, by employee, leave type and a date of the
cycle. -/
def Op.recomputes (m : Masters) (st : State) : Op → List (EmployeeId × LeaveTypeId × Date)
  | .createLeaveRequest submission employee leaveType span reason =>
    if (m.leaveType leaveType).isCompOff ∨ checkDates employee span st.subjects ≠ .ok () then []
    else
      (if (m.leaveType leaveType).isLossOfPay then []
        else [(employee, leaveType, span.startDate)])
      ++ if (TimeOff.createLeaveRequest m submission employee leaveType span reason st).1
            = .ok () then
          [(employee, leaveType, st.subjects.today)]
        else []
  | .withdrawLeaveRequest _ id =>
    match st.subjects.getRequest id with
    | none => []
    | some request =>
      if request.IsActive ∧ ¬ (m.leaveType request.leaveType).isCompOff then
        [(request.employee, request.leaveType, st.subjects.today)]
      else []
  | .getOrCreateLeaveBalance employee leaveType asOf => [(employee, leaveType, asOf)]
  | .approveAction _ _ _ _ _ | .rejectAction _ _ _ _ | .processPendingActionEscalations _ _
  | .dateChanges _ => []

/-- No encashment is finalized for the cycle of a date. -/
def NoneFinalized (m : Masters) (t : EncashmentTables) (employee : EmployeeId)
    (leaveType : LeaveTypeId) (asOf : Date) : Prop :=
  match getCycleWindow (m.leaveType leaveType).leaveCycle (m.employee employee) asOf with
  | .error _ => True
  | .ok (cycleStart, cycleEnd) =>
    ∀ r ∈ t.encashments, r.key = ⟨employee, leaveType, cycleStart, cycleEnd⟩ →
      r.isFinalized t.debits = false

/-- The balances have used amounts that cover the requests of a subject too. -/
def HasRoom (t : EncashmentTables) (subject : ContentObject) : Prop :=
  ∀ b ∈ t.leave.balances,
    ((t.leave.requests.filter (fun r => b.key.Holds r
        ∧ (r.status = .approved ∨ subject = leaveSubject r.id))).map LeaveRequest.totalUnits).sum
      + finalizedDays t b.key ≤ b.usedAmount

/-- The subject a step approves. -/
def Op.approves (db : ApprovalDb) : Op → Option ContentObject
  | .approveAction _ dir action actor comment => decidedSubject dir action actor comment db
  | _ => none

/-- **A step that leaves debits alone**: it recomputes no cycle with a finalized
encashment, and approves no request its balance has no room for. -/
def Undisturbed (m : EncashmentMasters) (st : EncashmentState) : EncashmentOp → Prop
  | .leave op =>
    (∀ call ∈ op.recomputes m.toMasters (leaveState st),
      NoneFinalized m.toMasters st.subjects call.1 call.2.1 call.2.2)
    ∧ ∀ subject ∈ op.approves st.db, HasRoom st.subjects subject
  | .createLeaveEncashmentRequest _ _ _ | .finalizeLeaveEncashment _ => True

instance (m : Masters) (t : EncashmentTables) (employee : EmployeeId) (leaveType : LeaveTypeId)
    (asOf : Date) : Decidable (NoneFinalized m t employee leaveType asOf) :=
  match h : getCycleWindow (m.leaveType leaveType).leaveCycle (m.employee employee) asOf with
  | .error _ => isTrue (by simp [NoneFinalized, h])
  | .ok (cycleStart, cycleEnd) =>
    decidable_of_iff (∀ r ∈ t.encashments, r.key = ⟨employee, leaveType, cycleStart, cycleEnd⟩ →
      r.isFinalized t.debits = false) (by simp [NoneFinalized, h])

instance (t : EncashmentTables) (subject : ContentObject) : Decidable (HasRoom t subject) :=
  inferInstanceAs (Decidable (∀ b ∈ t.leave.balances, _))

instance (m : EncashmentMasters) (st : EncashmentState) :
    ∀ op : EncashmentOp, Decidable (Undisturbed m st op)
  | .leave _ => inferInstanceAs (Decidable (_ ∧ _))
  | .createLeaveEncashmentRequest _ _ _ | .finalizeLeaveEncashment _ => instDecidableTrue

/-! ## The leave requests -/

/-- **What is used covers the approved requests**, and some other days. -/
structure Covers (others : BalanceKey → ℚ) (t : LeaveTables) : Prop where
  units : ∀ r ∈ t.requests, 0 ≤ r.totalUnits ∧ TwoPlaces r.totalUnits
  covered : ∀ b ∈ t.balances,
    getLeaveRequestTotalUnits t.requests b.key .approved + others b.key ≤ b.usedAmount

section

variable {m : Masters} {others : BalanceKey → ℚ} {t t' : LeaveTables} {st st' : State}

theorem getLeaveRequestTotalUnits_eq (requests : List LeaveRequest) (key : BalanceKey)
    (status : LeaveRequestStatus) :
    getLeaveRequestTotalUnits requests key status
      = (requests.map (fun r => if r.IsWithin key status then r.totalUnits else 0)).sum := by
  rw [getLeaveRequestTotalUnits, sum_map_filter]
  simp only [decide_eq_true_eq]

theorem twoPlaces_getLeaveRequestTotalUnits {requests : List LeaveRequest}
    (h : ∀ r ∈ requests, TwoPlaces r.totalUnits) (key : BalanceKey) (status : LeaveRequestStatus) :
    TwoPlaces (getLeaveRequestTotalUnits requests key status) :=
  Decimal.onGrid_sum (fun x hx => by
    obtain ⟨r, hr, rfl⟩ := List.mem_map.mp hx
    exact h r (List.mem_of_mem_filter hr))

theorem isWithin_iff (key : BalanceKey) (status : LeaveRequestStatus) (r : LeaveRequest) :
    r.IsWithin key status ↔ key.Holds r ∧ r.status = status :=
  ⟨fun ⟨he, hl, hstatus, hdates⟩ => ⟨⟨he, hl, hdates⟩, hstatus⟩,
    fun ⟨⟨he, hl, hdates⟩, hstatus⟩ => ⟨he, hl, hstatus, hdates⟩⟩

/-- A cycle without other days is recomputed. -/
theorem Covers.recompute (h : Covers others t) {row : LeaveBalance} (hrow : Recomputes m t t' row)
    (hnone : others row.key = 0) : Covers others t' where
  units := by
    rw [hrow.requests]
    exact h.units
  covered b hb := by
    rw [hrow.requests]
    rcases (hrow.balances b).mp hb with rfl | ⟨hb, -⟩
    · show getLeaveRequestTotalUnits t.requests row.key .approved + others row.key
        ≤ decimal (getLeaveRequestTotalUnits t.requests row.key .approved)
      rw [hnone, add_zero, decimal_of_twoPlaces
        (twoPlaces_getLeaveRequestTotalUnits (fun r hr => (h.units r hr).2) _ _)]
    · exact h.covered b hb

/-- A new request is not approved. -/
theorem Covers.insertRequest (h : Covers others t) (e : EmployeeId) (l : LeaveTypeId)
    {span : LeaveSpan} (hdates : span.startDate ≤ span.endDate) (reason : String) :
    Covers others (t.insertRequest m e l span reason).2 := by
  obtain ⟨redemptions, hframe⟩ := insertRequest_frame (m := m) e l span reason t
  rw [hframe]
  refine ⟨fun r hr => ?_, fun b hb => ?_⟩
  · rcases List.mem_append.mp hr with hr | hr
    · exact h.units r hr
    · rw [List.mem_singleton.mp hr]
      exact ⟨leaveRequestUnits_nonneg hdates _ _, twoPlaces_leaveRequestUnits _ _ _ _⟩
  · have hnew : ¬ (t.newRequest e l span reason).IsWithin b.key .approved := fun hw => by
      cases hw.2.2.1
    show getLeaveRequestTotalUnits (t.requests ++ [t.newRequest e l span reason]) b.key .approved
      + others b.key ≤ b.usedAmount
    rw [getLeaveRequestTotalUnits_eq, List.map_append, List.sum_append, List.map_singleton,
      if_neg hnew, List.sum_singleton, add_zero, ← getLeaveRequestTotalUnits_eq]
    exact h.covered b hb

/-- Requests that take a status, when they count as approved only if there is
room for them. -/
theorem Covers.setsStatus {p : LeaveRequest → Bool} {status : LeaveRequestStatus}
    (h : Covers others t) (hset : SetsStatus p status t t')
    (hroom : status = .approved → ∀ b ∈ t.balances,
      ((t.requests.filter (fun r => b.key.Holds r ∧ (r.status = .approved ∨ p r))).map
        LeaveRequest.totalUnits).sum + others b.key ≤ b.usedAmount) : Covers others t' := by
  obtain ⟨⟨f, hrequests, hf⟩, hbalances, -, -⟩ := hset
  refine ⟨fun r' hr' => ?_, fun b hb => ?_⟩
  · rw [hrequests, Table.mem_update] at hr'
    obtain ⟨r, hr, rfl⟩ := hr'
    split
    · rw [(hf r).1.totalUnits]
      exact h.units r hr
    · exact h.units r hr
  · rw [hbalances] at hb
    rw [hrequests, getLeaveRequestTotalUnits_eq, Table.update, List.map_map]
    by_cases happroved : status = .approved
    · refine le_trans (add_le_add_left (le_of_eq ?_) _) (hroom happroved b hb)
      rw [sum_map_filter]
      refine congrArg List.sum (List.map_congr_left (fun r _ => ?_))
      obtain ⟨hsame, hstatus⟩ := hf r
      cases hp : p r <;>
        simp [hp, isWithin_iff, hsame.holds_iff, hsame.totalUnits, hstatus, happroved]
    · refine le_trans (add_le_add_left ?_ _) (h.covered b hb)
      rw [getLeaveRequestTotalUnits_eq]
      refine List.sum_le_sum (fun r hr => ?_)
      obtain ⟨-, hstatus⟩ := hf r
      cases hp : p r with
      | false => simp [hp]
      | true =>
        have hpos := (h.units r hr).1
        simp only [hp, Function.comp_apply, if_true, isWithin_iff, hstatus, happroved, and_false,
          if_false]
        split_ifs
        · exact hpos
        · exact le_rfl

/-- The cycle of a date has no other days. -/
def Free (m : Masters) (others : BalanceKey → ℚ) (employee : EmployeeId) (leaveType : LeaveTypeId)
    (asOf : Date) : Prop :=
  ∀ cycleStart cycleEnd,
    getCycleWindow (m.leaveType leaveType).leaveCycle (m.employee employee) asOf
      = .ok (cycleStart, cycleEnd) → others ⟨employee, leaveType, cycleStart, cycleEnd⟩ = 0

theorem Covers.getOrCreateLeaveBalance {e : EmployeeId} {l : LeaveTypeId} {asOf : Date}
    {balance : LeaveBalance} (h : Covers others t) (hfree : Free m others e l asOf)
    (hok : getOrCreateLeaveBalance m e l asOf t = .ok (balance, t')) : Covers others t' := by
  obtain ⟨row, -, ⟨rfl, rfl⟩, hwindow, hrow⟩ := getOrCreateLeaveBalance_eq_ok hok
  exact h.recompute hrow (hfree _ _ hwindow)

/-- Validating a request recomputes the cycle it starts in. -/
theorem Covers.validateUnits {e : EmployeeId} {l : LeaveTypeId} {span : LeaveSpan}
    (h : Covers others t)
    (hfree : ¬ (m.leaveType l).isCompOff → ¬ (m.leaveType l).isLossOfPay →
      Free m others e l span.startDate) :
    Covers others (validateUnits m e l span t).2
      ∧ (validateUnits m e l span t).2.today = t.today := by
  unfold TimeOff.validateUnits validateLeaveBalance
  split
  · dsimp only
    split <;> exact ⟨h, rfl⟩
  · next hcompOff =>
    split
    · exact ⟨h, rfl⟩
    · next hloss =>
      split
      · exact ⟨h, rfl⟩
      · next balance t' hok =>
        obtain ⟨row, -, -, -, hrow⟩ := getOrCreateLeaveBalance_eq_ok hok
        have hcovers := h.getOrCreateLeaveBalance (hfree hcompOff hloss) hok
        split <;> exact ⟨hcovers, hrow.today⟩

theorem Covers.refreshToday {e : EmployeeId} {l : LeaveTypeId} (hinv : st.db.Inv)
    (h : Covers others st.subjects)
    (hfree : ¬ (m.leaveType l).isCompOff → (refreshToday m e l st).1 = .ok () →
      Free m others e l st.subjects.today) :
    (refreshToday m e l st).2.db.Inv ∧ Covers others (refreshToday m e l st).2.subjects := by
  revert hfree
  unfold TimeOff.refreshToday
  split
  · exact fun _ => ⟨hinv, h⟩
  · next hcompOff =>
    split
    · exact fun _ => ⟨hinv, h⟩
    · next balance t' hok =>
      exact fun hfree => ⟨hinv, h.getOrCreateLeaveBalance (hfree hcompOff rfl) hok⟩

theorem requestApproval_inv {submission : Submission} {employee : Employee} {id : LeaveRequestId}
    (hinv : st.db.Inv) (hok : requestApproval submission employee id st = .ok st') :
    st'.db.Inv ∧ st'.subjects = st.subjects := by
  unfold requestApproval at hok
  split at hok
  · cases hok
  · obtain ⟨⟨run, db⟩, hcreate, hret⟩ := bind_eq_ok_iff.mp hok
    obtain rfl := pure_eq_ok_iff.mp hret
    exact ⟨(kept_createApprovalRun hinv hcreate).1, rfl⟩

/-- **Creating a request** recomputes two cycles at most. -/
theorem Covers.createLeaveRequest (hinv : st.db.Inv) (h : Covers others st.subjects)
    (submission : Submission) (e : EmployeeId) (l : LeaveTypeId) (span : LeaveSpan)
    (reason : String)
    (hfree : ∀ call ∈ Op.recomputes m st (.createLeaveRequest submission e l span reason),
      Free m others call.1 call.2.1 call.2.2) :
    (createLeaveRequest m submission e l span reason st).2.db.Inv
      ∧ Covers others (createLeaveRequest m submission e l span reason st).2.subjects := by
  have hcalls : checkDates e span st.subjects = .ok () → ¬ (m.leaveType l).isCompOff →
      (¬ (m.leaveType l).isLossOfPay → Free m others e l span.startDate)
      ∧ ((TimeOff.createLeaveRequest m submission e l span reason st).1 = .ok () →
        Free m others e l st.subjects.today) := by
    intro hdates hcompOff
    rw [Op.recomputes, if_neg (by simp [hdates, hcompOff])] at hfree
    refine ⟨fun hloss => hfree (e, l, span.startDate) ?_,
      fun hok => hfree (e, l, st.subjects.today) ?_⟩
    · exact List.mem_append_left _ (by simp [hloss])
    · exact List.mem_append_right _ (by simp [hok])
  revert hcalls
  unfold TimeOff.createLeaveRequest
  split
  · exact fun _ => ⟨hinv, h⟩
  · next hdates =>
    intro hcalls
    obtain ⟨hvalidated, htoday⟩ := h.validateUnits
      (fun hcompOff hloss => (hcalls hdates hcompOff).1 hloss)
    split
    · next heq =>
      rw [heq] at hvalidated
      exact ⟨hinv, hvalidated⟩
    · next t heq =>
      rw [heq] at hvalidated htoday
      have hinserted := hvalidated.insertRequest (m := m) e l (checkDates_eq_ok hdates) reason
      obtain ⟨redemptions, hframe⟩ := insertRequest_frame (m := m) e l span reason t
      split
      · next heq' =>
        rw [heq'] at hinserted
        exact ⟨hinv, hinserted⟩
      · next t' heq' =>
        rw [heq'] at hinserted hframe
        split
        · exact ⟨hinv, hinserted⟩
        · next st₃ hok =>
          obtain ⟨hinv₃, hsubjects⟩ := requestApproval_inv (by exact hinv) hok
          refine Covers.refreshToday hinv₃ (hsubjects ▸ hinserted) (fun hcompOff hdone => ?_)
          have hsame : st₃.subjects.today = st.subjects.today := by
            rw [hsubjects]
            exact (congrArg LeaveTables.today hframe).trans htoday
          rw [hsame]
          refine (hcalls hdates hcompOff).2 ?_
          rw [heq]
          dsimp only
          rw [heq']
          dsimp only
          rw [hok]
          exact hdone

/-- Tables with the same requests and balances. -/
theorem Covers.of_eq (h : Covers others t) (hrequests : t'.requests = t.requests)
    (hbalances : t'.balances = t.balances) : Covers others t' where
  units := by
    rw [hrequests]
    exact h.units
  covered := by
    rw [hrequests, hbalances]
    exact h.covered

/-- A decision that does not approve. -/
theorem Covers.leaveHandler {subject : ContentObject} {decision : SubjectStatus} {reason : String}
    (h : Covers others t) (hdecision : decision ≠ .approved)
    (hok : (leaveHandler m).applySubjectStatus subject decision reason t = .ok t') :
    Covers others t' ∧ t'.today = t.today := by
  obtain ⟨t'', hok', hset⟩ := leaveHandler_eq_ok m subject decision reason t
  obtain rfl := Except.ok.inj (hok.symm.trans hok')
  refine ⟨h.setsStatus hset (fun happroved => ?_), hset.today⟩
  cases decision <;> first | exact absurd rfl hdecision | cases happroved

theorem Covers.cancelRequestApproval {now : Time} {id : LeaveRequestId} (hinv : st.db.Inv)
    (h : Covers others st.subjects) (hok : cancelRequestApproval m now id st = .ok st') :
    st'.db.Inv ∧ Covers others st'.subjects ∧ st'.subjects.today = st.subjects.today := by
  unfold TimeOff.cancelRequestApproval at hok
  split at hok
  · obtain rfl := Except.ok.inj hok
    exact ⟨hinv, h, rfl⟩
  · refine ⟨(kept_cancelApprovalRun hinv hok).1, ?_⟩
    rcases cancelApprovalRun_eq_ok hok with rfl | ⟨run, -, -, -, hwrites⟩
    · exact ⟨h, rfl⟩
    · have hdecided : (TimeOff.leaveHandler m).applySubjectStatus run.contentObject .withdrawn ""
          st.subjects = .ok st'.subjects := (cancelApprovalRunWrites_eq_ok hwrites).2
      have hwithdrawn : SubjectStatus.withdrawn ≠ .approved := nofun
      exact h.leaveHandler hwithdrawn hdecided

/-- **Withdrawing a request** recomputes the cycle of today. -/
theorem Covers.withdrawLeaveRequest (hinv : st.db.Inv) (h : Covers others st.subjects)
    (now : Time) (id : LeaveRequestId)
    (hfree : ∀ call ∈ Op.recomputes m st (.withdrawLeaveRequest now id),
      Free m others call.1 call.2.1 call.2.2) :
    (withdrawLeaveRequest m now id st).2.db.Inv
      ∧ Covers others (withdrawLeaveRequest m now id st).2.subjects := by
  unfold TimeOff.withdrawLeaveRequest
  split
  · exact ⟨hinv, h⟩
  · next request hfound =>
    split
    · exact ⟨hinv, h⟩
    · next hactive =>
      have hactive : request.IsActive := by simpa [or_iff_not_imp_left] using hactive
      have hset : SetsStatus (fun r => r.id = id) .withdrawn st.subjects
          (st.subjects.updateRequest id (fun r => { r with status := .withdrawn })) :=
        ⟨⟨fun r => { r with status := .withdrawn }, rfl, fun r => ⟨⟨rfl, rfl, rfl, rfl, rfl⟩, rfl⟩⟩,
          rfl, rfl, rfl⟩
      have hwithdrawn := h.setsStatus hset nofun
      dsimp only
      split
      · exact ⟨hinv, hwithdrawn⟩
      · next st₂ hok =>
        obtain ⟨hinv₂, hcovers, htoday⟩ := Covers.cancelRequestApproval (by exact hinv)
          (by exact hwithdrawn) hok
        obtain ⟨redemptions, hframe⟩ := syncRequest_frame m st₂.subjects request .withdrawn
        refine Covers.refreshToday (by exact hinv₂) ?_ (fun hcompOff _ => ?_)
        · rw [hframe]
          exact hcovers.of_eq rfl rfl
        · rw [hframe]
          show Free m others request.employee request.leaveType st₂.subjects.today
          rw [htoday]
          refine hfree (request.employee, request.leaveType, st.subjects.today) ?_
          rw [Op.recomputes, hfound]
          simp [hactive, hcompOff]

/-- **What the leave requests write**, when nothing is approved. -/
theorem Covers.step {op : Op} (hinv : st.db.Inv) (h : Covers others st.subjects)
    (hfree : ∀ call ∈ op.recomputes m st, Free m others call.1 call.2.1 call.2.2)
    (happroves : ∀ user dir action actor comment,
      op ≠ .approveAction user dir action actor comment) :
    (step m st op).db.Inv ∧ Covers others (step m st op).subjects := by
  cases op with
  | createLeaveRequest submission e l span reason =>
    exact h.createLeaveRequest hinv submission e l span reason hfree
  | withdrawLeaveRequest now request => exact h.withdrawLeaveRequest hinv now request hfree
  | approveAction user dir action actor comment => exact absurd rfl (happroves _ _ _ _ _)
  | rejectAction dir action actor comment =>
    refine settle_induction (P := fun st' : State => st'.db.Inv ∧ Covers others st'.subjects)
      ⟨hinv, h⟩ (fun st' hok => ⟨(kept_rejectAction hinv hok).1, ?_⟩)
    obtain ⟨subject, hsubject⟩ := rejectAction_subjects hok
    have hrejected : SubjectStatus.rejected ≠ .approved := nofun
    exact (h.leaveHandler hrejected hsubject).1
  | processPendingActionEscalations user dir =>
    exact ⟨(kept_processPendingActionEscalations hinv).1, h⟩
  | getOrCreateLeaveBalance e l asOf =>
    refine settle_induction (P := fun st' : State => st'.db.Inv ∧ Covers others st'.subjects)
      ⟨hinv, h⟩
      (fun st' hok => ?_)
    obtain ⟨⟨balance, t⟩, hbalance, hret⟩ := bind_eq_ok_iff.mp hok
    obtain rfl := pure_eq_ok_iff.mp hret
    exact ⟨hinv, h.getOrCreateLeaveBalance (hfree (e, l, asOf) (by simp [Op.recomputes])) hbalance⟩
  | dateChanges date => exact ⟨hinv, h.of_eq rfl rfl⟩

end

/-! ## The encashments -/

/-- **The invariant**: what is used covers the finalized encashments. -/
structure Encashed (t : EncashmentTables) : Prop where
  registered : Registered t
  covers : Covers (finalizedDays t) t.leave

section

variable {m : EncashmentMasters} {t t' : EncashmentTables} {st st' : EncashmentState}

theorem Encashed.updateEncashment {f : LeaveEncashmentRequest → LeaveEncashmentRequest}
    (h : Encashed t) (hf : ∀ r, SameDebit r (f r)) (id : LeaveEncashmentRequestId) :
    Encashed (t.updateEncashment id f) where
  registered := h.registered.updateEncashment hf id
  covers := finalizedDays_updateEncashment hf t id ▸ h.covers

theorem Encashed.insertEncashment (h : Encashed t) (key : BalanceKey) (days : DaysToEncash) :
    Encashed (t.insertEncashment key days) where
  registered := h.registered.insertEncashment key days
  covers := h.registered.finalizedDays_insertEncashment key days ▸ h.covers

/-- **A debit adds the days of its request**, to what is finalized and to what
is used. -/
theorem Encashed.finalize (h : Encashed t) {request r : LeaveEncashmentRequest}
    (hr : r ∈ t.encashments) (hsame : SameDebit r request)
    (hok : finalizeLeaveEncashment request t = .ok t') : Encashed t' := by
  refine ⟨h.registered.finalize hr hsame hok, ?_⟩
  obtain ⟨balance, hbalance, ⟨-, rfl⟩ | ⟨hopen, rfl⟩⟩ := finalizeLeaveEncashment_eq_ok hok
  · exact h.covers
  · have hkey : balance.key = request.key := Table.find_key hbalance
    refine ⟨h.covers.units, fun b hb => ?_⟩
    rw [h.registered.finalizedDays_debit hr hsame hopen rfl rfl]
    rcases Table.mem_save hb with rfl | ⟨hb, hne⟩
    · show getLeaveRequestTotalUnits t.leave.requests balance.key .approved
          + (finalizedDays t balance.key + if request.key = balance.key then _ else 0)
        ≤ decimal (balance.usedAmount + request.daysToEncash)
      have hcovered := h.covers.covered balance (Table.find_mem hbalance)
      rw [if_pos hkey.symm, decimal_of_twoPlaces
        (balance.twoPlaces.2.2.2.1.add request.valid.2)]
      linarith
    · have hother : request.key ≠ b.key := fun heq => hne (heq.symm.trans hkey.symm)
      rw [if_neg hother, add_zero]
      exact h.covers.covered b hb

/-- **A decision**, when there is room for what it approves. -/
theorem Encashed.encashmentHandler {m : Masters} {subject : ContentObject}
    {decision : SubjectStatus} {reason : String} (h : Encashed t)
    (hroom : decision = .approved → HasRoom t subject)
    (hok : (encashmentHandler m).applySubjectStatus subject decision reason t = .ok t') :
    Encashed t' := by
  rcases encashmentHandler_eq_ok hok with ⟨leave, hleave, rfl, -⟩ | ⟨id, -, ⟨-, rfl⟩ | hfound⟩
  · obtain ⟨leave', hleave', hset⟩ := leaveHandler_eq_ok m subject decision reason t.leave
    obtain rfl := Except.ok.inj (hleave.symm.trans hleave')
    refine ⟨⟨h.registered.unique, h.registered.fresh, h.registered.known⟩,
      h.covers.setsStatus hset (fun happroved b hb => ?_)⟩
    have hdecision : decision = .approved := by
      cases decision <;> first | rfl | cases happroved
    simpa using hroom hdecision b hb
  · exact h
  · obtain ⟨request, hrequest, hcases⟩ := hfound
    have hdecided : Encashed (t.decide id decision reason) := by
      refine h.updateEncashment ?_ id
      exact fun _ => ⟨rfl, rfl, rfl⟩
    rcases hcases with ⟨-, rfl⟩ | ⟨-, hfinalize⟩
    · exact hdecided
    · obtain ⟨r, hr, hsame⟩ := exists_mem_decide hrequest decision reason
      exact hdecided.finalize hr hsame hfinalize

/-- A cycle without a finalized encashment has no finalized days. -/
theorem NoneFinalized.free {m : Masters} {e : EmployeeId} {l : LeaveTypeId} {asOf : Date}
    (h : NoneFinalized m t e l asOf) : Free m (finalizedDays t) e l asOf := by
  intro cycleStart cycleEnd hwindow
  rw [NoneFinalized, hwindow] at h
  rw [finalizedDays, List.filter_eq_nil_iff.mpr]
  · rfl
  · intro r hr hdone
    have hdone := of_decide_eq_true hdone
    rw [h r hr hdone.1] at hdone
    cases hdone.2

/-- **Every undisturbed step keeps it.** -/
theorem Encashed.step {op : EncashmentOp} (hinv : st.db.Inv) (h : Encashed st.subjects)
    (hop : Undisturbed m st op) :
    (encashmentStep m st op).db.Inv ∧ Encashed (encashmentStep m st op).subjects := by
  have hsettle : ∀ {x : Except String EncashmentState}, (∀ st', x = .ok st' →
        st'.db.Inv ∧ Encashed st'.subjects) →
      (settle st x).db.Inv ∧ Encashed (settle st x).subjects :=
    fun hok => settle_induction (P := fun st' : EncashmentState =>
      st'.db.Inv ∧ Encashed st'.subjects) ⟨hinv, h⟩ hok
  cases op with
  | leave op =>
    obtain ⟨hnone, hroom⟩ := hop
    have hleave : (∀ user dir action actor comment,
          op ≠ .approveAction user dir action actor comment) →
        (TimeOff.step m.toMasters (leaveState st) op).db.Inv
          ∧ Encashed { st.subjects with
              leave := (TimeOff.step m.toMasters (leaveState st) op).subjects } := by
      intro happroves
      have hcovered : Covers (finalizedDays st.subjects) (leaveState st).subjects := h.covers
      have hengine : (leaveState st).db.Inv := hinv
      obtain ⟨hinv', hcovers⟩ := hcovered.step hengine
        (fun call hcall => (hnone call hcall).free) happroves
      exact ⟨hinv', ⟨h.registered.unique, h.registered.fresh, h.registered.known⟩, hcovers⟩
    cases op with
    | approveAction user dir action actor comment =>
      refine hsettle (fun st' hok => ⟨(kept_approveAction hinv hok).1, ?_⟩)
      rcases approveAction_subjects hok with hsame | ⟨subject, hdecided, hsubject⟩
      · exact hsame ▸ h
      · exact h.encashmentHandler (fun _ => hroom subject hdecided) hsubject
    | rejectAction dir action actor comment =>
      refine hsettle (fun st' hok => ⟨(kept_rejectAction hinv hok).1, ?_⟩)
      obtain ⟨subject, hsubject⟩ := rejectAction_subjects hok
      exact h.encashmentHandler (fun hne => by cases hne) hsubject
    | createLeaveRequest submission e l span reason => exact hleave nofun
    | withdrawLeaveRequest now request => exact hleave nofun
    | processPendingActionEscalations user dir => exact hleave nofun
    | getOrCreateLeaveBalance e l asOf => exact hleave nofun
    | dateChanges date => exact hleave nofun
  | createLeaveEncashmentRequest submission key days =>
    refine hsettle (fun st' hok => ?_)
    obtain ⟨-, workflow, run, hcreate, hsubjects⟩ := createLeaveEncashmentRequest_eq_ok hok
    refine ⟨(kept_createApprovalRun hinv hcreate).1, ?_⟩
    rw [hsubjects]
    refine (h.insertEncashment key days).updateEncashment ?_ _
    exact fun _ => ⟨rfl, rfl, rfl⟩
  | finalizeLeaveEncashment id =>
    unfold TimeOff.encashmentStep
    dsimp only
    split
    · exact ⟨hinv, h⟩
    · next request hrequest =>
      refine hsettle (fun st' hok => ?_)
      obtain ⟨t, hfinalize, hret⟩ := bind_eq_ok_iff.mp hok
      obtain rfl := pure_eq_ok_iff.mp hret
      exact ⟨hinv, h.finalize (Table.find_mem hrequest) ⟨rfl, rfl, rfl⟩ hfinalize⟩

end

/-- **Tables without requests.** -/
structure EncashmentTables.Opening (t : EncashmentTables) : Prop where
  requests : t.leave.requests = []
  encashments : t.encashments = []
  debits : t.debits = []
  used : ∀ b ∈ t.leave.balances, 0 ≤ b.usedAmount

/-- The state reached from some tables by a list of requests. -/
def encashmentReached (m : EncashmentMasters) (stages : StageTable) (tables : EncashmentTables)
    (ops : List EncashmentOp) : EncashmentState :=
  Run.exec (encashmentStep m) (EngineState.initial stages tables) ops

theorem encashed_initial {tables : EncashmentTables} (h : tables.Opening) : Encashed tables where
  registered := registered_of_none h.encashments h.debits
  covers := by
    refine ⟨fun r hr => ?_, fun b hb => ?_⟩
    · rw [h.requests] at hr
      cases hr
    · rw [h.requests, finalizedDays, h.encashments]
      simpa [getLeaveRequestTotalUnits] using h.used b hb

/-- **Encashed leave stays debited** in every undisturbed run. -/
theorem debited_of_undisturbed (m : EncashmentMasters) (stages : StageTable)
    (tables : EncashmentTables) (htables : tables.Opening) (ops : List EncashmentOp)
    (hops : Run.Along (encashmentStep m) (Undisturbed m) (EngineState.initial stages tables) ops) :
    Debited (encashmentReached m stages tables ops).subjects := by
  have hrun : (encashmentReached m stages tables ops).db.Inv
      ∧ Encashed (encashmentReached m stages tables ops).subjects :=
    Run.invariant_of_along (I := fun st : EncashmentState => st.db.Inv ∧ Encashed st.subjects)
      (fun _ _ h hop => h.2.step h.1 hop) ⟨inv_initial _ _, encashed_initial htables⟩ hops
  exact hrun.2.covers.covered

/-! ## Five days encashed -/

namespace Sample

def encashmentMasters : EncashmentMasters where
  toMasters := masters
  encashment _ :=
    { name := "Earned leave", allowsEncashment := true, maxEncashmentDaysPerYear := none,
      twoPlaces := twoPlaces_of_none }

/-- The twelve days of 2026. -/
def balance2026 : LeaveBalance where
  key := ⟨1, 0, ⟨2026, 1, 1, isDate_2026_01_01⟩, ⟨2026, 12, 31, isDate_2026_12_31⟩⟩
  openingBalance := 0
  carriedForwardAmount := 0
  creditedAmount := 12
  usedAmount := 0
  pendingAmount := 0
  twoPlaces := ⟨Decimal.onGrid_zero, Decimal.onGrid_zero, ⟨1200, by norm_num⟩,
    Decimal.onGrid_zero, Decimal.onGrid_zero⟩

def encashmentTables : EncashmentTables where
  leave := { tables with balances := [balance2026] }
  encashments := []
  debits := []
  nextEncashment := 0

/-- Employee 1 asks for five days to be encashed. -/
def encash : EncashmentOp :=
  .createLeaveEncashmentRequest
    { user := Approvals.Sample.user, dir := Approvals.Sample.directory 0, workflow := some 1 }
    balance2026.key ⟨5, by norm_num, ⟨500, by norm_num⟩⟩

/-- Five days are encashed, and a day is asked for in the new year. -/
def encashed : List EncashmentOp :=
  [.leave (ask ⟨2026, 12, 7, isDate_2026_12_07⟩ ⟨2026, 12, 7, isDate_2026_12_07⟩),
    encash, .leave (approve 3),
    .leave (.dateChanges ⟨2027, 1, 4, isDate_2027_01_04⟩),
    .leave (ask ⟨2027, 1, 5, isDate_2027_01_05⟩ ⟨2027, 1, 5, isDate_2027_01_05⟩)]

/-- Five days are encashed, and a day is asked for afterwards. -/
def recomputed : List EncashmentOp :=
  [encash, .leave (approve 1),
    .leave (ask ⟨2026, 12, 7, isDate_2026_12_07⟩ ⟨2026, 12, 7, isDate_2026_12_07⟩)]

end Sample

theorem debited_of_undisturbed_sample :
    Debited (encashmentReached Sample.encashmentMasters Sample.stages Sample.encashmentTables
      Sample.encashed).subjects :=
  debited_of_undisturbed Sample.encashmentMasters Sample.stages Sample.encashmentTables
    ⟨rfl, rfl, rfl, by decide⟩ Sample.encashed (by decide +kernel)

example : finalizedDays (encashmentReached Sample.encashmentMasters Sample.stages
    Sample.encashmentTables Sample.encashed).subjects Sample.balance2026.key = 5 := by
  decide +kernel

/-- **A balance that is recomputed forgets its encashments**: five days are
encashed, and nothing is used of the year. -/
theorem recompute_forgets_encashment :
    ¬ Debited (encashmentReached Sample.encashmentMasters Sample.stages Sample.encashmentTables
      Sample.recomputed).subjects := by
  decide +kernel

end TimeOff
