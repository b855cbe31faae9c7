import Clarisal.TimeOff.Overdraw
import Mathlib.Logic.Relation

/-!
# What leave requests do to the tables

An operation of the leave module writes the tables in a few ways, `Move`: it
recomputes a balance, inserts a request with its reservations, hands a decision
to a pending request, or withdraws an active one. Each operation is a sequence
of these (`step_moves`), so what every move keeps holds in every state reached
(`invariant_of_moves`).

A request that cannot reserve its units is inserted all the same, unless the
call is rolled back when it raises: `stepRolledBack` is that system, and it
makes complete moves only (`stepRolledBack_moves`).
-/

open Calendar

namespace TimeOff

open Approvals Transaction

/-- **A write of the leave tables.** Partial moves are those of calls that
raise half way. -/
inductive Move (m : Masters) (partially : Prop) : LeaveTables → LeaveTables → Prop
  | recompute {t t' : LeaveTables} {e : EmployeeId} {l : LeaveTypeId} {asOf : Date}
      {balance : LeaveBalance} (h : getOrCreateLeaveBalance m e l asOf t = .ok (balance, t')) :
      Move m partially t t'
  | insert {t : LeaveTables} {e : EmployeeId} {l : LeaveTypeId} {span : LeaveSpan}
      {reason : String} (dates : checkDates e span t = .ok ())
      (complete : partially ∨ (t.insertRequest m e l span reason).1 = .ok ()) :
      Move m partially t (t.insertRequest m e l span reason).2
  | decide {t t' : LeaveTables} {subject : ContentObject} {decision : SubjectStatus}
      {reason : String}
      (pending : ∀ r ∈ t.requests, subject = leaveSubject r.id → r.status = .pending)
      (h : (leaveHandler m).applySubjectStatus subject decision reason t = .ok t') :
      Move m partially t t'
  | withdraw {t : LeaveTables} {request : LeaveRequest}
      (found : t.getRequest request.id = some request) (active : request.IsActive) :
      Move m partially t
        ((t.updateRequest request.id (fun r => { r with status := .withdrawn })).syncRequest m
          request .withdrawn)
  | laterDay {t : LeaveTables} {date : Date} (h : t.today ≤ date) :
      Move m partially t { t with today := date }

/-- A sequence of writes. -/
abbrev Moves (m : Masters) (partially : Prop) : LeaveTables → LeaveTables → Prop :=
  Relation.ReflTransGen (Move m partially)

/-- A creation that is rolled back when it raises. -/
def createRolledBack (m : Masters) (submission : Submission) (employee : EmployeeId)
    (leaveType : LeaveTypeId) (span : LeaveSpan) (reason : String) (st : State) : State :=
  match createLeaveRequest m submission employee leaveType span reason st with
  | (.error _, _) => st
  | (.ok _, st') => st'

/-- **The step of a system that rolls a failed creation back.** -/
def stepRolledBack (m : Masters) (st : State) : Op → State
  | .createLeaveRequest submission employee leaveType span reason =>
    createRolledBack m submission employee leaveType span reason st
  | op => step m st op

section

variable {m : Masters} {partially : Prop} {st st' : State} {t t' : LeaveTables}

/-- What every move keeps, a sequence of them keeps. -/
theorem Moves.keep {I : LeaveTables → Prop} (hI : ∀ t t', I t → Move m partially t t' → I t')
    (h : I t) (hmoves : Moves m partially t t') : I t' := by
  induction hmoves with
  | refl => exact h
  | tail _ hmove ih => exact hI _ _ ih hmove

/-- Recomputing touches the balances and their ledger alone. -/
theorem getOrCreateLeaveBalance_frame {e : EmployeeId} {l : LeaveTypeId} {asOf : Date}
    {balance : LeaveBalance} (h : getOrCreateLeaveBalance m e l asOf t = .ok (balance, t')) :
    ∃ balances entries, t' = { t with balances := balances, ledgerEntries := entries } := by
  obtain ⟨⟨cycleStart, cycleEnd⟩, -, h⟩ := bind_eq_ok_iff.mp h
  dsimp only at h
  split at h
  · obtain ⟨-, rfl⟩ := Prod.mk.inj (Except.ok.inj h)
    exact ⟨_, t.ledgerEntries, rfl⟩
  · obtain ⟨-, rfl⟩ := Prod.mk.inj (Except.ok.inj h)
    exact ⟨_, _, rfl⟩

/-! ## Submitting -/

theorem checkDates_congr {e : EmployeeId} {span : LeaveSpan} (h : t'.requests = t.requests) :
    checkDates e span t' = checkDates e span t := by
  rw [checkDates, h, checkDates]

variable (m partially) in
theorem validateUnits_moves (e : EmployeeId) (l : LeaveTypeId) (span : LeaveSpan)
    (t : LeaveTables) :
    Moves m partially t (validateUnits m e l span t).2
      ∧ (validateUnits m e l span t).2.requests = t.requests
      ∧ (validateUnits m e l span t).2.nextRequest = t.nextRequest := by
  unfold validateUnits validateLeaveBalance
  split
  · dsimp only
    split <;> exact ⟨.refl, rfl, rfl⟩
  · split
    · exact ⟨.refl, rfl, rfl⟩
    · split
      · exact ⟨.refl, rfl, rfl⟩
      · next balance t' hok =>
        obtain ⟨row, -, -, -, hrow⟩ := getOrCreateLeaveBalance_eq_ok hok
        split <;> exact ⟨.single (.recompute hok), hrow.requests, hrow.nextRequest⟩

variable (m partially) in
theorem refreshToday_moves (h : Linked st) (e : EmployeeId) (l : LeaveTypeId) :
    Linked (refreshToday m e l st).2
      ∧ Moves m partially st.subjects (refreshToday m e l st).2.subjects := by
  unfold refreshToday
  split
  · exact ⟨h, .refl⟩
  · split
    · exact ⟨h, .refl⟩
    · next balance t' hok =>
      obtain ⟨row, -, -, -, hrow⟩ := getOrCreateLeaveBalance_eq_ok hok
      exact ⟨h.of_requests hrow.requests hrow.nextRequest, .single (.recompute hok)⟩

variable (m partially) in
/-- **Creating a request** recomputes, inserts and recomputes. -/
theorem createLeaveRequest_moves (h : Linked st) (submission : Submission) (e : EmployeeId)
    (l : LeaveTypeId) (span : LeaveSpan) (reason : String)
    (hcovers : partially ∨ (createLeaveRequest m submission e l span reason st).1 = .ok ()) :
    Linked (createLeaveRequest m submission e l span reason st).2
      ∧ Moves m partially st.subjects
        (createLeaveRequest m submission e l span reason st).2.subjects := by
  obtain ⟨hvalidated, hrequests, hnext⟩ :=
    validateUnits_moves m partially e l span st.subjects
  revert hcovers
  unfold createLeaveRequest
  split
  · exact fun _ => ⟨h, .refl⟩
  · next hdates =>
    split
    · next heq =>
      rw [heq] at hvalidated hrequests hnext
      exact fun _ => ⟨h.of_requests hrequests hnext, hvalidated⟩
    · next t heq =>
      rw [heq] at hvalidated hrequests hnext
      have hlinked : Linked { st with subjects := t } := h.of_requests hrequests hnext
      obtain ⟨hinserted, hnone, hid, hrows⟩ :=
        hlinked.insertRequest (m := m) e l span reason
      have hdates' : checkDates e span t = .ok () := (checkDates_congr hrequests).trans hdates
      have hmoves : partially ∨ (t.insertRequest m e l span reason).1 = .ok () →
          Moves m partially st.subjects (t.insertRequest m e l span reason).2 :=
        fun hcomplete => hvalidated.tail (.insert hdates' hcomplete)
      split
      · next heq' =>
        rw [heq'] at hinserted hmoves
        exact fun hcovers => ⟨hinserted, hmoves (hcovers.imp_right (fun h => by cases h))⟩
      · next t' heq' =>
        rw [heq'] at hinserted hid hrows hmoves
        split
        · exact fun _ => ⟨hinserted, hmoves (Or.inr rfl)⟩
        · next st₃ hok =>
          obtain ⟨hlinked₃, hsubjects⟩ := linked_requestApproval hinserted hid hnone hrows hok
          obtain ⟨hlinked', hrefresh⟩ :=
            refreshToday_moves m partially hlinked₃ e l
          rw [hsubjects] at hrefresh
          exact fun _ => ⟨hlinked', (hmoves (Or.inr rfl)).trans hrefresh⟩

/-! ## Withdrawing -/

/-- The status of the reservations of a request. -/
def LeaveRequestStatus.redemptionStatus : LeaveRequestStatus → CompOffStatus
  | .approved => .approved
  | .withdrawn | .cancelled => .cancelled
  | .rejected => .rejected
  | .pending => .pending

/-- **The reservations of a request take the status** it has. -/
theorem syncCompOffRedemptions_eq (t : LeaveTables) (id : LeaveRequestId)
    (status : LeaveRequestStatus) :
    t.syncCompOffRedemptions id status = { t with
      redemptions := Table.update (fun x => x.leaveRequest = id)
        (fun x => { x with status := status.redemptionStatus }) t.redemptions } := by
  have hsame : ∀ target : CompOffStatus,
      Table.update (fun x : CompOffRedemption => x.leaveRequest = id ∧ x.status ≠ target)
          (fun x => { x with status := target }) t.redemptions
        = Table.update (fun x => x.leaveRequest = id) (fun x => { x with status := target })
          t.redemptions := by
    intro target
    refine List.map_congr_left (fun x _ => ?_)
    by_cases hid : x.leaveRequest = id
    · by_cases hstatus : x.status = target
      · subst hid hstatus
        simp
      · simp [hid, hstatus]
    · simp [hid]
  cases status <;>
    exact congrArg (fun redemptions => { t with redemptions := redemptions }) (hsame _)

/-- The reservations follow a status once. -/
theorem syncCompOffRedemptions_twice (t : LeaveTables) (id : LeaveRequestId)
    (status : LeaveRequestStatus) :
    (t.syncCompOffRedemptions id status).syncCompOffRedemptions id status
      = t.syncCompOffRedemptions id status := by
  rw [syncCompOffRedemptions_eq, syncCompOffRedemptions_eq]
  refine congrArg (fun redemptions => { t with redemptions := redemptions }) ?_
  refine Table.update_idem ?_ _
  exact fun _ => rfl

/-- The decision a withdrawal hands to its request changes nothing more. -/
theorem syncRequest_of_withdrawn {request : LeaveRequest}
    (found : t.getRequest request.id = some request)
    (h : (leaveHandler m).applySubjectStatus (leaveSubject request.id) .withdrawn ""
      (t.updateRequest request.id (fun r => { r with status := .withdrawn })) = .ok t') :
    t'.syncRequest m request .withdrawn
      = (t.updateRequest request.id (fun r => { r with status := .withdrawn })).syncRequest m
        request .withdrawn := by
  have hfound : (t.updateRequest request.id (fun r => { r with status := .withdrawn })).getRequest
      request.id = some { request with status := .withdrawn } := by
    refine (Table.find_update ?_).trans ((congrArg (Option.map _) found).trans (by simp))
    exact fun _ => rfl
  have hagain : (t.updateRequest request.id
        (fun r => { r with status := .withdrawn })).updateRequest request.id (fun r => { r with
          status := leaveRequestStatus .withdrawn })
      = t.updateRequest request.id (fun r => { r with status := .withdrawn }) := by
    refine congrArg (fun requests => { t with requests := requests }) ?_
    refine Table.update_idem ?_ _
    exact fun _ => rfl
  unfold leaveHandler at h
  simp only [leaveSubject, hfound, if_true, hagain] at h
  obtain rfl := Except.ok.inj h
  unfold LeaveTables.syncRequest
  simp only [leaveRequestStatus]
  split
  · exact syncCompOffRedemptions_twice _ _ _
  · rfl

/-- The request of a cancelled approval is told that it was withdrawn. -/
theorem cancelRequestApproval_subjects {now : Time} {id : LeaveRequestId}
    (h : cancelRequestApproval m now id st = .ok st')
    (hunique : Table.Unique ApprovalRun.id st.db.runs) :
    st'.subjects = st.subjects
      ∨ (leaveHandler m).applySubjectStatus (leaveSubject id) .withdrawn "" st.subjects
        = .ok st'.subjects := by
  unfold cancelRequestApproval at h
  split at h
  · cases h
    exact Or.inl rfl
  · next run hrun =>
    rcases cancelApprovalRun_eq_ok h with rfl | ⟨run', hmem, hid, hpending, hwrites⟩
    · exact Or.inl rfl
    · obtain ⟨hrun, hsubject⟩ := newestRunOf_eq_some hrun
      obtain rfl := hunique.eq_of_key hmem hrun hid
      exact Or.inr (hsubject ▸ (cancelApprovalRunWrites_eq_ok hwrites).2)

/-- **Withdrawing a request** gives it up, and recomputes. -/
theorem withdrawLeaveRequest_moves (h : Linked st) (now : Time) (id : LeaveRequestId) :
    Linked (withdrawLeaveRequest m now id st).2
      ∧ Moves m partially st.subjects (withdrawLeaveRequest m now id st).2.subjects := by
  unfold withdrawLeaveRequest
  split
  · exact ⟨h, .refl⟩
  · next request hfound =>
    obtain rfl : request.id = id := Table.find_key hfound
    split
    · exact ⟨h, .refl⟩
    · next hactive =>
      have hactive : request.IsActive := by simpa [or_iff_not_imp_left] using hactive
      obtain ⟨st₂, hok, hlinked, -⟩ := h.cancelWithdrawn m now request.id
      have hsync : st₂.subjects.syncRequest m request .withdrawn
          = (st.subjects.updateRequest request.id
            (fun r => { r with status := .withdrawn })).syncRequest m request .withdrawn := by
        rcases cancelRequestApproval_subjects hok h.engine.uniqueRun with hsame | hdecided
        · rw [hsame]
        · exact syncRequest_of_withdrawn hfound hdecided
      have hmove : Move m partially st.subjects (st₂.subjects.syncRequest m request .withdrawn) :=
        hsync ▸ .withdraw hfound hactive
      obtain ⟨redemptions, hframe⟩ := syncRequest_frame m st₂.subjects request .withdrawn
      have hlinked' : Linked { st₂ with
          subjects := st₂.subjects.syncRequest m request .withdrawn } := by
        rw [hframe]
        exact hlinked.of_requests rfl rfl
      dsimp only
      rw [hok]
      obtain ⟨hlast, hrefresh⟩ :=
        refreshToday_moves m partially hlinked' request.employee
          request.leaveType
      exact ⟨hlast, (Relation.ReflTransGen.single hmove).trans hrefresh⟩

/-! ## Every operation -/

/-- A request of the engine hands over one decision at most. -/
theorem moves_of_outcome (h : Linked st) (hinv : st'.db.Inv)
    (houtcome : Outcome (leaveHandler m) st st') :
    Linked st' ∧ Moves m partially st.subjects st'.subjects := by
  refine ⟨(linked_of_outcome h hinv houtcome).1, ?_⟩
  cases houtcome with
  | quiet _ hsubjects => exact hsubjects ▸ .refl
  | dropped run _ _ _ hsubjects => exact hsubjects ▸ .refl
  | decided run decision reason hrun hpending _ hsubjects =>
    exact .single (.decide (fun r hr hsubject => h.pending run hrun hpending r hr hsubject)
      hsubjects)

/-- **An operation is a sequence of moves**; only a creation is ever partial. -/
theorem step_moves_of (h : Linked st) (op : Op)
    (hcovers : ∀ submission e l span reason,
      op = .createLeaveRequest submission e l span reason →
        partially ∨ (createLeaveRequest m submission e l span reason st).1 = .ok ()) :
    Linked (step m st op) ∧ Moves m partially st.subjects (step m st op).subjects := by
  have hsettle : ∀ {x : Except String State}, (∀ st', x = .ok st' →
        Linked st' ∧ Moves m partially st.subjects st'.subjects) →
      Linked (settle st x) ∧ Moves m partially st.subjects (settle st x).subjects :=
    fun hok => settle_induction
      (P := fun st' => Linked st' ∧ Moves m partially st.subjects st'.subjects) ⟨h, .refl⟩ hok
  cases op with
  | createLeaveRequest submission e l span reason =>
    exact createLeaveRequest_moves m partially h submission e l span reason (hcovers _ _ _ _ _ rfl)
  | withdrawLeaveRequest now request => exact withdrawLeaveRequest_moves h now request
  | approveAction user dir action actor comment =>
    refine hsettle (fun st' hok => ?_)
    exact moves_of_outcome h (kept_approveAction h.engine hok).1
      (outcome_approveAction h.engine hok)
  | rejectAction dir action actor comment =>
    refine hsettle (fun st' hok => ?_)
    exact moves_of_outcome h (kept_rejectAction h.engine hok).1
      (outcome_rejectAction h.engine hok)
  | processPendingActionEscalations user dir =>
    exact moves_of_outcome h (kept_processPendingActionEscalations h.engine).1
      (.quiet outline_processPendingActionEscalations rfl)
  | getOrCreateLeaveBalance e l asOf =>
    refine hsettle (fun st' hok => ?_)
    obtain ⟨⟨balance, t⟩, hbalance, hret⟩ := bind_eq_ok_iff.mp hok
    obtain rfl := pure_eq_ok_iff.mp hret
    obtain ⟨row, -, -, -, hrow⟩ := getOrCreateLeaveBalance_eq_ok hbalance
    exact ⟨h.of_requests hrow.requests hrow.nextRequest, .single (.recompute hbalance)⟩
  | dateChanges date =>
    exact ⟨h.of_requests rfl rfl, .single (.laterDay (le_max_left _ _))⟩

theorem step_moves (h : Linked st) (op : Op) :
    Linked (step m st op) ∧ Moves m True st.subjects (step m st op).subjects :=
  step_moves_of h op (fun _ _ _ _ _ _ => Or.inl trivial)

/-- **Rolled back, a system makes complete moves.** -/
theorem stepRolledBack_moves (h : Linked st) (op : Op) :
    Linked (stepRolledBack m st op)
      ∧ Moves m False st.subjects (stepRolledBack m st op).subjects := by
  cases op with
  | createLeaveRequest submission e l span reason =>
    have hmoves := createLeaveRequest_moves m False h submission e l span
      reason
    show Linked (createRolledBack m submission e l span reason st) ∧ Moves m False st.subjects
      (createRolledBack m submission e l span reason st).subjects
    unfold createRolledBack
    cases hcreate : createLeaveRequest m submission e l span reason st with
    | mk result st' =>
      rw [hcreate] at hmoves
      cases result with
      | error message => exact ⟨h, .refl⟩
      | ok u => exact hmoves (Or.inr rfl)
  | withdrawLeaveRequest now request => exact withdrawLeaveRequest_moves h now request
  | approveAction user dir action actor comment =>
    exact step_moves_of h (.approveAction user dir action actor comment) nofun
  | rejectAction dir action actor comment =>
    exact step_moves_of h (.rejectAction dir action actor comment) nofun
  | processPendingActionEscalations user dir =>
    exact step_moves_of h (.processPendingActionEscalations user dir) nofun
  | getOrCreateLeaveBalance e l asOf =>
    exact step_moves_of h (.getOrCreateLeaveBalance e l asOf) nofun
  | dateChanges date => exact step_moves_of h (.dateChanges date) nofun

/-! ## Every run -/

/-- The approvals and the requests agree when there are none. -/
theorem linked_initial {stages : StageTable} {tables : LeaveTables} (h : tables.requests = []) :
    Linked (EngineState.initial stages tables) where
  engine := inv_initial _ _
  fresh r hr := by
    change r ∈ tables.requests at hr
    rw [h] at hr
    cases hr
  known _ ho := absurd ho List.not_mem_nil
  single _ ho := absurd ho List.not_mem_nil
  pending _ ho := absurd ho List.not_mem_nil

/-- **What every move keeps holds in every state reached.** -/
theorem invariant_of_moves {I : LeaveTables → Prop} {next : State → Op → State}
    (hnext : ∀ st op, Linked st →
      Linked (next st op) ∧ Moves m partially st.subjects (next st op).subjects)
    (hI : ∀ t t', I t → Move m partially t t' → I t') {stages : StageTable} {tables : LeaveTables}
    (hnone : tables.requests = []) (h : I tables) (ops : List Op) :
    I (Run.exec next (EngineState.initial stages tables) ops).subjects := by
  have hrun : Linked (Run.exec next (EngineState.initial stages tables) ops)
      ∧ I (Run.exec next (EngineState.initial stages tables) ops).subjects := by
    refine Run.invariant (I := fun st => Linked st ∧ I st.subjects) (fun st op hst => ?_)
      ⟨linked_initial hnone, h⟩ ops
    obtain ⟨hlinked, hmoves⟩ := hnext st op hst.1
    exact ⟨hlinked, hmoves.keep hI hst.2⟩
  exact hrun.2

end

end TimeOff
