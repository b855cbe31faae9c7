import Clarisal.TimeOff.Moves

/-!
# Encashing leave

An employee can ask for days of a cycle to be paid instead of taken. A request
is checked against what the balance of the cycle has available, and against a
limit for the year; once it is approved its days are debited, which the used
amount of the balance and an entry of its ledger record.

The ledger entries of encashments are kept apart from the others, since they
are looked up by the request their note names.
-/

open Calendar

namespace TimeOff

open Approvals Transaction

abbrev LeaveEncashmentRequestId := ℕ

inductive LeaveEncashmentStatus
  | pending | approved | rejected | paid | cancelled
deriving DecidableEq, Repr

/-- What a leave type says of encashment. -/
structure EncashmentPolicy where
  name : String
  allowsEncashment : Bool
  maxEncashmentDaysPerYear : Option ℚ
  twoPlaces : ∀ m ∈ maxEncashmentDaysPerYear, TwoPlaces m

structure EncashmentMasters extends Masters where
  encashment : LeaveTypeId → EncashmentPolicy

/-- The days of a request that the form accepts. -/
abbrev DaysToEncash := { days : ℚ // 1 / 2 ≤ days ∧ TwoPlaces days }

structure LeaveEncashmentRequest where
  id : LeaveEncashmentRequestId
  /-- employee, leave type and cycle -/
  key : BalanceKey
  daysToEncash : ℚ
  status : LeaveEncashmentStatus
  approvalRun : Option RunId
  rejectionReason : String
  valid : 1 / 2 ≤ daysToEncash ∧ TwoPlaces daysToEncash
deriving DecidableEq

/-- A debit of the ledger, whose note names a request. -/
structure EncashmentDebit where
  leaveBalance : BalanceKey
  request : LeaveEncashmentRequestId
  amount : ℚ
  effectiveDate : Date
deriving DecidableEq, Repr

/-- **The leave tables, with encashments.** -/
structure EncashmentTables where
  leave : LeaveTables
  encashments : List LeaveEncashmentRequest
  debits : List EncashmentDebit
  nextEncashment : LeaveEncashmentRequestId
deriving DecidableEq

abbrev EncashmentState := EngineState EncashmentTables

/-- The subject of an encashment's approval. -/
def encashmentSubject (id : LeaveEncashmentRequestId) : ContentObject :=
  { contentType := .leaveEncashmentRequest, objectId := id }

def getTotalDaysToEncash (encashments : List LeaveEncashmentRequest) (key : BalanceKey)
    (statuses : List LeaveEncashmentStatus) : ℚ :=
  ((encashments.filter (fun r => r.key = key ∧ r.status ∈ statuses)).map
    LeaveEncashmentRequest.daysToEncash).sum

/-- The statuses that count against the limit for the year. -/
def outstandingStatuses : List LeaveEncashmentStatus := [.pending, .approved, .paid]

/-- A balance with more days used. -/
def LeaveBalance.encash (b : LeaveBalance) (days : ℚ) : LeaveBalance :=
  { b with
    usedAmount := decimal (b.usedAmount + days)
    twoPlaces := ⟨b.twoPlaces.1, b.twoPlaces.2.1, b.twoPlaces.2.2.1, twoPlaces_decimal _,
      b.twoPlaces.2.2.2.2⟩ }

/-- The days of a request have been debited. -/
def LeaveEncashmentRequest.isFinalized (debits : List EncashmentDebit)
    (r : LeaveEncashmentRequest) : Bool :=
  debits.any (fun d => d.leaveBalance = r.key ∧ d.request = r.id)

namespace EncashmentTables

def getEncashment (t : EncashmentTables) (id : LeaveEncashmentRequestId) :
    Option LeaveEncashmentRequest :=
  Table.find LeaveEncashmentRequest.id id t.encashments

def updateEncashment (t : EncashmentTables) (id : LeaveEncashmentRequestId)
    (f : LeaveEncashmentRequest → LeaveEncashmentRequest) : EncashmentTables :=
  { t with encashments := Table.update (fun r => r.id = id) f t.encashments }

/-- What the balance of a cycle has available; nothing when there is none. -/
def availableOf (t : EncashmentTables) (key : BalanceKey) : ℚ :=
  match t.leave.getBalance key with
  | none => 0
  | some balance => balance.available

/-- A request with its approval to come. -/
def insertEncashment (t : EncashmentTables) (key : BalanceKey) (days : DaysToEncash) :
    EncashmentTables :=
  { t with
    encashments := t.encashments ++ [
      { id := t.nextEncashment, key := key, daysToEncash := decimal days, status := .pending,
        approvalRun := none, rejectionReason := "",
        valid := (decimal_of_twoPlaces days.2.2).symm ▸ days.2 }]
    nextEncashment := t.nextEncashment + 1 }

end EncashmentTables

/-! ## Asking -/

/-- **The limits of a request**: what is available, and the days that may be
encashed in a year. -/
def checkEncashment (m : EncashmentMasters) (key : BalanceKey) (days : DaysToEncash)
    (t : EncashmentTables) : Except String Unit :=
  let policy := m.encashment key.leaveType
  if ¬ policy.allowsEncashment then
    .error ("Leave type '" ++ policy.name ++ "' does not allow encashment.")
  else if decimal (t.availableOf key) < decimal days then
    .error ("Cannot encash " ++ decimalText (decimal days) ++ " days. Available balance: "
      ++ decimalText (decimal (t.availableOf key)) ++ " days.")
  else
    match policy.maxEncashmentDaysPerYear with
    | none => .ok ()
    | some limit =>
      if decimal limit
          < decimal (getTotalDaysToEncash t.encashments key outstandingStatuses) + decimal days then
        .error ("Exceeds annual encashment limit of " ++ decimalText limit ++ " days.")
      else .ok ()

/-- **Ask for an encashment**, in one transaction with its approval. -/
def createLeaveEncashmentRequest (m : EncashmentMasters) (submission : Submission)
    (key : BalanceKey) (days : DaysToEncash) (st : EncashmentState) :
    Except String EncashmentState := do
  checkEncashment m key days st.subjects
  let id := st.subjects.nextEncashment
  let t := st.subjects.insertEncashment key days
  match submission.workflow with
  | none => .error "No active default approval workflow is configured for leave requests."
  | some workflow =>
    let (run, db) ← createApprovalRun submission.user submission.dir workflow .leave
      (m.employee key.employee).organisation (some (m.employee key.employee).id)
      (encashmentSubject id) st.db
    return { db := db, subjects := t.updateEncashment id (fun r => { r with
      approvalRun := some run }) }

/-! ## Debiting -/

/-- **Debit the days of a request**, once. -/
def finalizeLeaveEncashment (request : LeaveEncashmentRequest) (t : EncashmentTables) :
    Except String EncashmentTables :=
  match t.leave.getBalance request.key with
  | none => .error "LeaveBalance matching query does not exist."
  | some balance =>
    if request.isFinalized t.debits then .ok t
    else
      .ok { t with
        leave := { t.leave with
          balances := Table.save LeaveBalance.key (balance.encash request.daysToEncash)
            t.leave.balances }
        debits := t.debits ++ [
          { leaveBalance := request.key, request := request.id, amount := request.daysToEncash,
            effectiveDate := t.leave.today }] }

/-- The status of an encashment whose approval is decided; none is withdrawn. -/
def leaveEncashmentStatus : SubjectStatus → LeaveEncashmentStatus
  | .approved => .approved
  | .rejected => .rejected
  | .cancelled | .withdrawn => .cancelled

/-- The request takes the decision. -/
def EncashmentTables.decide (t : EncashmentTables) (id : LeaveEncashmentRequestId)
    (decision : SubjectStatus) (reason : String) : EncashmentTables :=
  t.updateEncashment id (fun r => { r with
    status := leaveEncashmentStatus decision
    rejectionReason := if reason = "" then r.rejectionReason else reason })

/-- **A decision reaches its subject**: an approved encashment is debited in
the transaction of the approval. -/
def encashmentHandler (m : Masters) : SubjectHandler EncashmentTables where
  applySubjectStatus subject status reason t :=
    match subject.contentType with
    | .leaveEncashmentRequest =>
      match t.getEncashment subject.objectId with
      | none => .ok t
      | some request =>
        let t := t.decide subject.objectId status reason
        match status with
        | .approved => finalizeLeaveEncashment request t
        | _ => .ok t
    | _ => do
      let leave ← (leaveHandler m).applySubjectStatus subject status reason t.leave
      return { t with leave := leave }

/-! ## The leave module with encashments -/

/-- The state as the leave requests see it. -/
def leaveState (st : EncashmentState) : State := { db := st.db, subjects := st.subjects.leave }

/-- An operation on leave requests. -/
def onLeave (f : State → State) (st : EncashmentState) : EncashmentState :=
  { db := (f (leaveState st)).db
    subjects := { st.subjects with leave := (f (leaveState st)).subjects } }

/-- **The requests about leave and encashments.** -/
inductive EncashmentOp
  | leave (op : Op)
  | createLeaveEncashmentRequest (submission : Submission) (key : BalanceKey)
      (days : DaysToEncash)
  | finalizeLeaveEncashment (request : LeaveEncashmentRequestId)

/-- **One step.** Approvals decide requests of both kinds. -/
def encashmentStep (m : EncashmentMasters) (st : EncashmentState) : EncashmentOp → EncashmentState
  | .leave (.approveAction user dir action actor comment) =>
    settle st (approveAction (encashmentHandler m.toMasters) user dir action actor comment st)
  | .leave (.rejectAction dir action actor comment) =>
    settle st (rejectAction (encashmentHandler m.toMasters) dir action actor comment st)
  | .leave op => onLeave (fun st => step m.toMasters st op) st
  | .createLeaveEncashmentRequest submission key days =>
    settle st (createLeaveEncashmentRequest m submission key days st)
  | .finalizeLeaveEncashment id =>
    match st.subjects.getEncashment id with
    | none => st
    | some request =>
      settle st do
        let t ← finalizeLeaveEncashment request st.subjects
        return { st with subjects := t }

/-! ## What committed calls have done -/

section

variable {m : Masters} {t t' : EncashmentTables}

/-- **A debit** is made once, to the balance of the request. -/
theorem finalizeLeaveEncashment_eq_ok {request : LeaveEncashmentRequest}
    (h : finalizeLeaveEncashment request t = .ok t') :
    ∃ balance, t.leave.getBalance request.key = some balance
      ∧ ((request.isFinalized t.debits = true ∧ t' = t)
        ∨ (request.isFinalized t.debits = false ∧ t' = { t with
            leave := { t.leave with
              balances := Table.save LeaveBalance.key (balance.encash request.daysToEncash)
                t.leave.balances }
            debits := t.debits ++ [
              { leaveBalance := request.key, request := request.id,
                amount := request.daysToEncash, effectiveDate := t.leave.today }] })) := by
  unfold finalizeLeaveEncashment at h
  split at h
  · cases h
  · next balance hbalance =>
    refine ⟨balance, hbalance, ?_⟩
    split at h
    · next hdone => exact Or.inl ⟨hdone, (Except.ok.inj h).symm⟩
    · next hopen => exact Or.inr ⟨by simpa using hopen, (Except.ok.inj h).symm⟩

/-- **What a decision did**, to a leave request or to an encashment. -/
theorem encashmentHandler_eq_ok {subject : ContentObject} {decision : SubjectStatus}
    {reason : String}
    (h : (encashmentHandler m).applySubjectStatus subject decision reason t = .ok t') :
    (∃ leave, (leaveHandler m).applySubjectStatus subject decision reason t.leave = .ok leave
        ∧ t' = { t with leave := leave } ∧ ∀ id, subject ≠ encashmentSubject id)
      ∨ ∃ id, subject = encashmentSubject id
        ∧ ((t.getEncashment id = none ∧ t' = t)
          ∨ ∃ request, t.getEncashment id = some request
            ∧ ((decision ≠ .approved ∧ t' = t.decide id decision reason)
              ∨ (decision = .approved
                ∧ finalizeLeaveEncashment request (t.decide id decision reason) = .ok t'))) := by
  obtain ⟨type, objectId⟩ := subject
  by_cases htype : type = .leaveEncashmentRequest
  · subst htype
    refine Or.inr ⟨objectId, rfl, ?_⟩
    unfold encashmentHandler at h
    dsimp only at h
    split at h
    · next hnone => exact Or.inl ⟨hnone, (Except.ok.inj h).symm⟩
    · next request hfound =>
      refine Or.inr ⟨request, hfound, ?_⟩
      cases decision with
      | approved => exact Or.inr ⟨rfl, h⟩
      | rejected => exact Or.inl ⟨nofun, (Except.ok.inj h).symm⟩
      | cancelled => exact Or.inl ⟨nofun, (Except.ok.inj h).symm⟩
      | withdrawn => exact Or.inl ⟨nofun, (Except.ok.inj h).symm⟩
  · left
    have hleave : (encashmentHandler m).applySubjectStatus ⟨type, objectId⟩ decision reason t
        = (do
          let leave ← (leaveHandler m).applySubjectStatus ⟨type, objectId⟩ decision reason t.leave
          return { t with leave := leave }) := by
      cases type <;> first | rfl | exact absurd rfl htype
    rw [hleave] at h
    obtain ⟨leave, hok, hret⟩ := bind_eq_ok_iff.mp h
    obtain rfl := pure_eq_ok_iff.mp hret
    exact ⟨leave, hok, rfl, fun id hsubject => htype (congrArg ContentObject.contentType hsubject)⟩

/-- **A created request** passed its checks, and waits for its approval. -/
theorem createLeaveEncashmentRequest_eq_ok {m : EncashmentMasters} {submission : Submission}
    {key : BalanceKey} {days : DaysToEncash} {st st' : EncashmentState}
    (h : createLeaveEncashmentRequest m submission key days st = .ok st') :
    checkEncashment m key days st.subjects = .ok ()
      ∧ ∃ workflow run, createApprovalRun submission.user submission.dir workflow .leave
            (m.employee key.employee).organisation (some (m.employee key.employee).id)
            (encashmentSubject st.subjects.nextEncashment) st.db = .ok (run, st'.db)
        ∧ st'.subjects = (st.subjects.insertEncashment key days).updateEncashment
            st.subjects.nextEncashment (fun r => { r with approvalRun := some run }) := by
  obtain ⟨_, hcheck, h⟩ := bind_eq_ok_iff.mp h
  refine ⟨hcheck, ?_⟩
  dsimp only at h
  split at h
  · cases h
  · next workflow _ =>
    obtain ⟨⟨run, db⟩, hcreate, hret⟩ := bind_eq_ok_iff.mp h
    obtain rfl := pure_eq_ok_iff.mp hret
    exact ⟨workflow, run, hcreate, rfl⟩

end

/-! ## What is finalized -/

/-- The days of the encashments finalized for a cycle. -/
def finalizedDays (t : EncashmentTables) (key : BalanceKey) : ℚ :=
  ((t.encashments.filter (fun r => r.key = key ∧ r.isFinalized t.debits)).map
    LeaveEncashmentRequest.daysToEncash).sum

/-- **The ledger of encashments**: requests are numbered, and debits name
requests there are. -/
structure Registered (t : EncashmentTables) : Prop where
  unique : Table.Unique LeaveEncashmentRequest.id t.encashments
  fresh : ∀ r ∈ t.encashments, r.id < t.nextEncashment
  known : ∀ d ∈ t.debits, d.request < t.nextEncashment

/-- A request as far as its debit goes. -/
structure SameDebit (r r' : LeaveEncashmentRequest) : Prop where
  id : r'.id = r.id
  key : r'.key = r.key
  daysToEncash : r'.daysToEncash = r.daysToEncash

/-- What a request adds to the finalized days of a cycle. -/
def LeaveEncashmentRequest.finalizedIn (debits : List EncashmentDebit) (key : BalanceKey)
    (r : LeaveEncashmentRequest) : ℚ :=
  if r.key = key ∧ r.isFinalized debits then r.daysToEncash else 0

section

variable {t t' : EncashmentTables} {request r r' : LeaveEncashmentRequest}

theorem finalizedDays_eq (t : EncashmentTables) (key : BalanceKey) :
    finalizedDays t key
      = (t.encashments.map (LeaveEncashmentRequest.finalizedIn t.debits key)).sum := by
  rw [finalizedDays, sum_map_filter]
  simp only [decide_eq_true_eq]
  rfl

theorem SameDebit.isFinalized (h : SameDebit r r') (debits : List EncashmentDebit) :
    r'.isFinalized debits = r.isFinalized debits := by
  rw [LeaveEncashmentRequest.isFinalized, h.key, h.id, LeaveEncashmentRequest.isFinalized]

theorem SameDebit.finalizedIn (h : SameDebit r r') (debits : List EncashmentDebit)
    (key : BalanceKey) : r'.finalizedIn debits key = r.finalizedIn debits key := by
  rw [LeaveEncashmentRequest.finalizedIn, h.isFinalized, h.key, h.daysToEncash,
    LeaveEncashmentRequest.finalizedIn]

/-- The row of a decided request, which the debit looks at without its status. -/
theorem exists_mem_decide {id : LeaveEncashmentRequestId} (h : t.getEncashment id = some request)
    (decision : SubjectStatus) (reason : String) :
    ∃ r ∈ (t.decide id decision reason).encashments, SameDebit r request :=
  ⟨_, Table.mem_update_iff.mpr (Or.inl ⟨request, Table.find_mem h,
    decide_eq_true (Table.find_key h), rfl⟩), rfl, rfl, rfl⟩

theorem registered_of_none (hencashments : t.encashments = []) (hdebits : t.debits = []) :
    Registered t where
  unique := by
    rw [hencashments]
    exact List.nodup_nil
  fresh r hr := by
    rw [hencashments] at hr
    cases hr
  known d hd := by
    rw [hdebits] at hd
    cases hd

/-- The finalized days do not depend on the statuses. -/
theorem finalizedDays_updateEncashment {f : LeaveEncashmentRequest → LeaveEncashmentRequest}
    (hf : ∀ r, SameDebit r (f r)) (t : EncashmentTables) (id : LeaveEncashmentRequestId) :
    finalizedDays (t.updateEncashment id f) = finalizedDays t := by
  funext key
  rw [finalizedDays_eq, finalizedDays_eq]
  refine congrArg List.sum (Table.map_update ?_ t.encashments)
  exact fun r => (hf r).finalizedIn t.debits key

theorem Registered.updateEncashment {f : LeaveEncashmentRequest → LeaveEncashmentRequest}
    (h : Registered t) (hf : ∀ r, SameDebit r (f r)) (id : LeaveEncashmentRequestId) :
    Registered (t.updateEncashment id f) where
  unique := h.unique.update (fun r => (hf r).id)
  fresh r' hr' := by
    obtain ⟨r, hr, rfl⟩ := Table.mem_update.mp hr'
    split
    · exact (hf r).id ▸ h.fresh r hr
    · exact h.fresh r hr
  known := h.known

theorem Registered.insertEncashment (h : Registered t) (key : BalanceKey) (days : DaysToEncash) :
    Registered (t.insertEncashment key days) where
  unique := h.unique.append_one (fun r hr => (h.fresh r hr).ne)
  fresh r hr := by
    rcases List.mem_append.mp hr with hr | hr
    · exact (h.fresh r hr).trans (Nat.lt_succ_self _)
    · rw [List.mem_singleton.mp hr]
      exact Nat.lt_succ_self _
  known d hd := (h.known d hd).trans (Nat.lt_succ_self _)

/-- A new request is not finalized. -/
theorem Registered.finalizedDays_insertEncashment (h : Registered t) (key : BalanceKey)
    (days : DaysToEncash) : finalizedDays (t.insertEncashment key days) = finalizedDays t := by
  have hnone : ∀ r : LeaveEncashmentRequest, r.id = t.nextEncashment →
      r.isFinalized t.debits = false := by
    intro r hid
    simp only [LeaveEncashmentRequest.isFinalized, List.any_eq_false, decide_eq_true_eq, hid]
    exact fun d hd hdebit => (h.known d hd).ne hdebit.2
  funext key'
  rw [finalizedDays_eq, finalizedDays_eq, EncashmentTables.insertEncashment, List.map_append,
    List.sum_append, List.map_singleton, List.sum_singleton, LeaveEncashmentRequest.finalizedIn,
    if_neg (fun hdone => by rw [hnone _ rfl] at hdone; cases hdone.2), add_zero]

/-- The debit of a request finalizes it, and no other. -/
theorem isFinalized_append {debits : List EncashmentDebit} {d : EncashmentDebit}
    (r : LeaveEncashmentRequest) :
    r.isFinalized (debits ++ [d])
      = (r.isFinalized debits || decide (d.leaveBalance = r.key ∧ d.request = r.id)) := by
  rw [LeaveEncashmentRequest.isFinalized, List.any_append, List.any_cons, List.any_nil,
    Bool.or_false, LeaveEncashmentRequest.isFinalized]

/-- **The debit of a request** that has none adds its days. -/
theorem Registered.finalizedDays_debit (h : Registered t) (hr : r ∈ t.encashments)
    (hsame : SameDebit r request) (hopen : request.isFinalized t.debits = false)
    {debit : EncashmentDebit} (hbalance : debit.leaveBalance = request.key)
    (hrequest : debit.request = request.id) {leave : LeaveTables} {next : ℕ} (key : BalanceKey) :
    finalizedDays ⟨leave, t.encashments, t.debits ++ [debit], next⟩ key
      = finalizedDays t key + if request.key = key then request.daysToEncash else 0 := by
  rw [hsame.isFinalized] at hopen
  have hothers : ∀ b ∈ t.encashments, b.id ≠ r.id →
      b.finalizedIn (t.debits ++ [debit]) key = b.finalizedIn t.debits key := by
    intro b _ hne
    have hnot : ¬ (debit.leaveBalance = b.key ∧ debit.request = b.id) := fun hd =>
      hne ((hd.2.symm.trans hrequest).trans hsame.id)
    simp only [LeaveEncashmentRequest.finalizedIn, isFinalized_append, hnot, decide_false,
      Bool.or_false]
  have hbefore : r.finalizedIn t.debits key = 0 := by
    simp [LeaveEncashmentRequest.finalizedIn, hopen]
  have hafter : r.finalizedIn (t.debits ++ [debit]) key
      = if request.key = key then request.daysToEncash else 0 := by
    have hthis : debit.leaveBalance = r.key ∧ debit.request = r.id :=
      ⟨hbalance.trans hsame.key, hrequest.trans hsame.id⟩
    simp [LeaveEncashmentRequest.finalizedIn, isFinalized_append, hthis, hsame.key,
      hsame.daysToEncash]
  have hsum := h.unique.sum_map_change hr hothers
  rw [hbefore, add_zero, hafter] at hsum
  rw [finalizedDays_eq, finalizedDays_eq]
  exact hsum

theorem Registered.finalize (h : Registered t) (hr : r ∈ t.encashments)
    (hsame : SameDebit r request) (hok : finalizeLeaveEncashment request t = .ok t') :
    Registered t' := by
  obtain ⟨balance, -, ⟨-, rfl⟩ | ⟨-, rfl⟩⟩ := finalizeLeaveEncashment_eq_ok hok
  · exact h
  · refine ⟨h.unique, h.fresh, fun d hd => ?_⟩
    rcases List.mem_append.mp hd with hd | hd
    · exact h.known d hd
    · rw [List.mem_singleton.mp hd]
      exact hsame.id ▸ h.fresh r hr

end

end TimeOff
