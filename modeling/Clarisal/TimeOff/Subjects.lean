import Clarisal.TimeOff.Charges

/-!
# Approvals and leave requests agree

A pending approval is about a pending request, and no two approvals are about
one request (`Linked`). A decision therefore finds its request pending, and a
withdrawal finds the one approval it has to cancel: neither makes a request
active that was not.
-/

namespace TimeOff

open Approvals Transaction

/-- **The approvals of the requests.** -/
structure Linked (st : State) : Prop where
  engine : st.db.Inv
  fresh : ∀ r ∈ st.subjects.requests, r.id < st.subjects.nextRequest
  known : ∀ o ∈ st.db.outline, ∀ id, o.subject = leaveSubject id → id < st.subjects.nextRequest
  single : ∀ o ∈ st.db.outline, ∀ o' ∈ st.db.outline, ∀ id,
    o.subject = leaveSubject id → o'.subject = leaveSubject id → o.id = o'.id
  pending : ∀ o ∈ st.db.outline, o.status = .pending → ∀ r ∈ st.subjects.requests,
    o.subject = leaveSubject r.id → r.status = .pending

/-- Some requests take a status. -/
structure SetsStatus (p : LeaveRequest → Bool) (status : LeaveRequestStatus)
    (t t' : LeaveTables) : Prop where
  requests : ∃ f : LeaveRequest → LeaveRequest, t'.requests = Table.update p f t.requests
    ∧ ∀ r, SameCharge r (f r) ∧ (f r).status = status
  balances : t'.balances = t.balances
  today : t'.today = t.today
  nextRequest : t'.nextRequest = t.nextRequest

section

variable {m : Masters} {st st' : State} {t t' t'' : LeaveTables} {p : LeaveRequest → Bool}
  {status : LeaveRequestStatus}

theorem SameCharge.refl (r : LeaveRequest) : SameCharge r r := ⟨rfl, rfl, rfl, rfl, rfl⟩

theorem SameCharge.trans {r r' r'' : LeaveRequest} (h : SameCharge r r') (h' : SameCharge r' r'') :
    SameCharge r r'' where
  id := h'.id.trans h.id
  employee := h'.employee.trans h.employee
  leaveType := h'.leaveType.trans h.leaveType
  span := h'.span.trans h.span
  totalUnits := h'.totalUnits.trans h.totalUnits

/-- A row afterwards: another status, or the row as it was. -/
theorem SetsStatus.mem (h : SetsStatus p status t t') {r' : LeaveRequest} (hr' : r' ∈ t'.requests) :
    ∃ r ∈ t.requests, r'.id = r.id
      ∧ ((p r = true ∧ r'.status = status) ∨ (p r = false ∧ r' = r)) := by
  obtain ⟨f, hrequests, hf⟩ := h.requests
  rw [hrequests, Table.mem_update_iff] at hr'
  rcases hr' with ⟨r, hr, hp, rfl⟩ | ⟨hr, hp⟩
  · exact ⟨r, hr, (hf r).1.id, Or.inl ⟨hp, (hf r).2⟩⟩
  · exact ⟨r', hr, rfl, Or.inr ⟨hp, rfl⟩⟩

/-- The requests that are meant have the status already. -/
theorem SetsStatus.refl (h : ∀ r ∈ t.requests, p r = true → r.status = status) :
    SetsStatus p status t t where
  requests := by
    refine ⟨fun r => { r with status := status }, ?_, fun _ => ⟨⟨rfl, rfl, rfl, rfl, rfl⟩, rfl⟩⟩
    refine ((List.map_congr_left (fun r hr => ?_)).trans (List.map_id _)).symm
    cases hpr : p r with
    | false => rfl
    | true => simp only [if_true, ← h r hr hpr, id]
  balances := rfl
  today := rfl
  nextRequest := rfl

/-- A status set twice. -/
theorem SetsStatus.trans (h : SetsStatus p status t t') (h' : SetsStatus p status t' t'')
    (hp : ∀ r r', SameCharge r r' → p r' = p r) : SetsStatus p status t t'' := by
  obtain ⟨f, hrequests, hf⟩ := h.requests
  obtain ⟨g, hrequests', hg⟩ := h'.requests
  refine ⟨⟨fun r => g (f r), ?_, fun r => ⟨(hf r).1.trans (hg (f r)).1, (hg (f r)).2⟩⟩,
    h'.balances.trans h.balances, h'.today.trans h.today, h'.nextRequest.trans h.nextRequest⟩
  rw [hrequests', hrequests, Table.update, Table.update, Table.update, List.map_map]
  refine List.map_congr_left (fun r _ => ?_)
  cases hpr : p r with
  | true => simp [hpr, hp r (f r) (hf r).1]
  | false => simp [hpr]

/-- **A status given to pending requests, or not an active one, gives units
back.** -/
theorem SetsStatus.eases (h : SetsStatus p status t t')
    (hactive : ∀ r ∈ t.requests, p r = true →
      r.IsActive ∨ (status ≠ .pending ∧ status ≠ .approved)) : Eases t t' := by
  obtain ⟨f, hrequests, hf⟩ := h.requests
  refine ⟨h.balances, h.today, h.nextRequest, _, hrequests, fun r hr => ?_⟩
  cases hpr : p r with
  | false => exact ⟨.refl r, id⟩
  | true =>
    refine ⟨(hf r).1, fun hstatus => ?_⟩
    rcases hactive r hr hpr with hold | ⟨hne, hne'⟩
    · exact hold
    · simp only [LeaveRequest.IsActive, if_true, (hf r).2] at hstatus
      exact absurd hstatus (not_or.mpr ⟨hne, hne'⟩)

theorem syncRequest_frame (m : Masters) (t : LeaveTables) (request : LeaveRequest)
    (status : LeaveRequestStatus) :
    ∃ redemptions, t.syncRequest m request status = { t with redemptions := redemptions } := by
  unfold LeaveTables.syncRequest
  split
  · exact ⟨_, rfl⟩
  · exact ⟨t.redemptions, rfl⟩

/-- **A decision reaches the requests of its subject**, and is never refused. -/
theorem leaveHandler_eq_ok (m : Masters) (subject : ContentObject) (decision : SubjectStatus)
    (reason : String) (t : LeaveTables) :
    ∃ t', (leaveHandler m).applySubjectStatus subject decision reason t = .ok t'
      ∧ SetsStatus (fun r => subject = leaveSubject r.id) (leaveRequestStatus decision) t t' := by
  have hother : (∀ r ∈ t.requests, subject ≠ leaveSubject r.id) →
      SetsStatus (fun r => subject = leaveSubject r.id) (leaveRequestStatus decision) t t :=
    fun h => .refl (fun r hr hpr => absurd (of_decide_eq_true hpr) (h r hr))
  unfold leaveHandler
  dsimp only
  split
  · next htype =>
    have hsubject : ∀ id, subject = leaveSubject id ↔ id = subject.objectId := by
      intro id
      obtain ⟨type, objectId⟩ := subject
      obtain rfl : type = .leaveRequest := htype
      simp [leaveSubject, eq_comm]
    split
    · next hnone =>
      refine ⟨t, rfl, hother (fun r hr hsub => ?_)⟩
      exact Table.find_eq_none_iff.mp hnone r hr ((hsubject r.id).mp hsub)
    · next request _ =>
      refine ⟨_, rfl, ?_⟩
      obtain ⟨redemptions, hsync⟩ := syncRequest_frame m (t.updateRequest subject.objectId
        (fun r => { r with
          status := leaveRequestStatus decision
          rejectionReason := if reason = "" then r.rejectionReason else reason }))
        request (leaveRequestStatus decision)
      rw [hsync]
      refine ⟨⟨fun r => { r with
        status := leaveRequestStatus decision
        rejectionReason := if reason = "" then r.rejectionReason else reason }, ?_,
        fun r => ⟨⟨rfl, rfl, rfl, rfl, rfl⟩, rfl⟩⟩, rfl, rfl, rfl⟩
      simp only [LeaveTables.updateRequest, hsubject]
  · next htype =>
    exact ⟨t, rfl, hother (fun r _ hsub => htype (by rw [hsub]; rfl))⟩

/-! ## What keeps the agreement -/

/-- **Approvals that are decided or stay, and requests that follow.** -/
theorem Linked.of_setsStatus (h : Linked st) (hinv : st'.db.Inv)
    (hstatus : SetsStatus p status st.subjects st'.subjects)
    (hruns : ∀ o ∈ st'.db.outline, ∃ o₀ ∈ st.db.outline, o₀.id = o.id ∧ o₀.subject = o.subject)
    (hpending : ∀ o ∈ st'.db.outline, o.status = .pending → o ∈ st.db.outline
      ∧ ∀ r ∈ st.subjects.requests, p r = true → o.subject ≠ leaveSubject r.id) : Linked st' where
  engine := hinv
  fresh r' hr' := by
    obtain ⟨r, hr, hid, -⟩ := hstatus.mem hr'
    rw [hid, hstatus.nextRequest]
    exact h.fresh r hr
  known o ho id hsubject := by
    obtain ⟨o₀, ho₀, -, hsame⟩ := hruns o ho
    rw [hstatus.nextRequest]
    exact h.known o₀ ho₀ id (hsame.trans hsubject)
  single o ho o' ho' id hsubject hsubject' := by
    obtain ⟨o₀, ho₀, hid, hsame⟩ := hruns o ho
    obtain ⟨o₀', ho₀', hid', hsame'⟩ := hruns o' ho'
    rw [← hid, ← hid']
    exact h.single o₀ ho₀ o₀' ho₀' id (hsame.trans hsubject) (hsame'.trans hsubject')
  pending o ho hop r' hr' hsubject := by
    obtain ⟨ho, hnot⟩ := hpending o ho hop
    obtain ⟨r, hr, hid, ⟨hpr, -⟩ | ⟨-, rfl⟩⟩ := hstatus.mem hr'
    · exact absurd (hid ▸ hsubject) (hnot r hr hpr)
    · exact h.pending o ho hop r' hr hsubject

/-- Balances are recomputed without the approvals. -/
theorem Linked.of_requests (h : Linked st) (hrequests : t.requests = st.subjects.requests)
    (hnext : t.nextRequest = st.subjects.nextRequest) : Linked { st with subjects := t } where
  engine := h.engine
  fresh := by
    show ∀ r ∈ t.requests, r.id < t.nextRequest
    rw [hrequests, hnext]
    exact h.fresh
  known := by
    show ∀ o ∈ st.db.outline, ∀ id, o.subject = leaveSubject id → id < t.nextRequest
    rw [hnext]
    exact h.known
  single := h.single
  pending := by
    show ∀ o ∈ st.db.outline, o.status = .pending → ∀ r ∈ t.requests, _
    rw [hrequests]
    exact h.pending

/-- **A request of the engine.** -/
theorem linked_of_outcome (h : Linked st) (hinv : st'.db.Inv)
    (houtcome : Outcome (leaveHandler m) st st') :
    Linked st' ∧ Eases st.subjects st'.subjects := by
  cases houtcome with
  | quiet houtline hsubjects =>
    have hsame : SetsStatus (fun _ => false) .pending st.subjects st'.subjects :=
      hsubjects ▸ .refl (fun _ _ hp => by cases hp)
    refine ⟨h.of_setsStatus hinv hsame ?_ ?_, hsubjects ▸ .refl _⟩ <;> rw [houtline]
    · exact fun o ho => ⟨o, ho, rfl, rfl⟩
    · exact fun o ho _ => ⟨ho, fun _ _ hp => by cases hp⟩
  | dropped run hrun hpending houtline hsubjects =>
    have hsame : SetsStatus (fun _ => false) .pending st.subjects st'.subjects :=
      hsubjects ▸ .refl (fun _ _ hp => by cases hp)
    refine ⟨h.of_setsStatus hinv hsame ?_ ?_, hsubjects ▸ .refl _⟩ <;> rw [houtline]
    · exact fun o ho => exists_of_mem_setOutline ho
    · intro o ho hop
      exact ⟨(pending_of_mem_setOutline (by simp) ho hop).1, fun _ _ hp => by cases hp⟩
  | decided run decision reason hrun hpending houtline hsubjects =>
    obtain ⟨t', ht', hstatus⟩ := leaveHandler_eq_ok m run.subject decision reason st.subjects
    obtain rfl := Except.ok.inj (ht'.symm.trans hsubjects)
    constructor
    · refine h.of_setsStatus hinv hstatus ?_ ?_ <;> rw [houtline]
      · exact fun o ho => exists_of_mem_setOutline ho
      · intro o ho hop
        -- the request decided has no second approval that could be pending
        obtain ⟨ho, hne⟩ := pending_of_mem_setOutline decision.runStatus_ne_pending ho hop
        refine ⟨ho, fun r _ hpr hsubject => hne ?_⟩
        exact h.single o ho run hrun r.id hsubject (of_decide_eq_true hpr)
    · exact hstatus.eases (fun r hr hpr =>
        Or.inl (Or.inl (h.pending run hrun hpending r hr (of_decide_eq_true hpr))))

/-! ## Submitting and withdrawing -/

/-- **An approval is requested** for a request that has none. -/
theorem linked_requestApproval {submission : Submission} {employee : Employee}
    {id : LeaveRequestId} (h : Linked st) (hid : id < st.subjects.nextRequest)
    (hnone : ∀ o ∈ st.db.outline, o.subject ≠ leaveSubject id)
    (hrows : ∀ r ∈ st.subjects.requests, r.id = id → r.status = .pending)
    (hok : requestApproval submission employee id st = .ok st') :
    Linked st' ∧ st'.subjects = st.subjects := by
  have hinj : ∀ {i j}, leaveSubject i = leaveSubject j → i = j := fun h =>
    congrArg ContentObject.objectId h
  unfold requestApproval at hok
  split at hok
  · cases hok
  · next workflow _ =>
    obtain ⟨⟨run, db⟩, hcreate, hret⟩ := bind_eq_ok_iff.mp hok
    obtain rfl := pure_eq_ok_iff.mp hret
    obtain ⟨-, houtline⟩ := outline_createApprovalRun hcreate
    refine ⟨⟨(kept_createApprovalRun h.engine hcreate).1, h.fresh, ?_, ?_, ?_⟩, rfl⟩ <;>
      simp only [houtline, List.mem_append, List.mem_singleton]
    · rintro o (ho | rfl) id' hsubject
      · exact h.known o ho id' hsubject
      · exact hinj hsubject ▸ hid
    · rintro o (ho | rfl) o' (ho' | rfl) id' hsubject hsubject'
      · exact h.single o ho o' ho' id' hsubject hsubject'
      · exact absurd (hsubject.trans hsubject'.symm) (hnone o ho)
      · exact absurd (hsubject'.trans hsubject.symm) (hnone o' ho')
      · rfl
    · rintro o (ho | rfl) hop r hr hsubject
      · exact h.pending o ho hop r hr hsubject
      · exact hrows r hr (hinj hsubject).symm

theorem newestRunOf_eq_some {db : ApprovalDb} {subject : ContentObject} {run : ApprovalRun}
    (h : newestRunOf db subject = some run) : run ∈ db.runs ∧ run.contentObject = subject :=
  ⟨List.mem_reverse.mp (List.mem_of_find?_eq_some h), by simpa using List.find?_some h⟩

theorem newestRunOf_eq_none {db : ApprovalDb} {subject : ContentObject}
    (h : newestRunOf db subject = none) : ∀ o ∈ db.outline, o.subject ≠ subject := by
  intro o ho
  obtain ⟨run, hrun, rfl⟩ := mem_outline.mp ho
  show run.contentObject ≠ subject
  simpa using List.find?_eq_none.mp h run (List.mem_reverse.mpr hrun)

/-- **The approval of a withdrawn request is cancelled**, and never refused:
afterwards none is pending. -/
theorem cancelRequestApproval_eq_ok (m : Masters) (st : State) (hinv : st.db.Inv)
    {id : LeaveRequestId}
    (hsingle : ∀ o ∈ st.db.outline, ∀ o' ∈ st.db.outline,
      o.subject = leaveSubject id → o'.subject = leaveSubject id → o.id = o'.id)
    (hwithdrawn : ∀ r ∈ st.subjects.requests, r.id = id → r.status = .withdrawn) (now : Time) :
    ∃ st', cancelRequestApproval m now id st = .ok st' ∧ st'.db.Inv
      ∧ SetsStatus (fun r => r.id = id) .withdrawn st.subjects st'.subjects
      ∧ (∀ o ∈ st'.db.outline, ∃ o₀ ∈ st.db.outline, o₀.id = o.id ∧ o₀.subject = o.subject)
      ∧ ∀ o ∈ st'.db.outline, o.status = .pending →
        o ∈ st.db.outline ∧ o.subject ≠ leaveSubject id := by
  have hsame : SetsStatus (fun r => r.id = id) .withdrawn st.subjects st.subjects :=
    .refl (fun r hr hpr => hwithdrawn r hr (of_decide_eq_true hpr))
  unfold cancelRequestApproval
  split
  · next hnone =>
    exact ⟨st, rfl, hinv, hsame, fun o ho => ⟨o, ho, rfl, rfl⟩,
      fun o ho _ => ⟨ho, newestRunOf_eq_none hnone o ho⟩⟩
  · next run hrun =>
    obtain ⟨hmem, hsubject⟩ := newestRunOf_eq_some hrun
    have honly : ∀ o ∈ st.db.outline, o.subject = leaveSubject id → o.id = run.id :=
      fun o ho hsub => hsingle o ho run.outline (outline_mem hmem) hsub hsubject
    rw [cancelApprovalRun_of_mem hinv.uniqueRun hmem]
    split
    · next hpending =>
      obtain ⟨t', ht', hstatus⟩ :=
        leaveHandler_eq_ok m run.contentObject .withdrawn "" st.subjects
      obtain ⟨st', hok⟩ : ∃ st', cancelApprovalRunWrites (leaveHandler m) now run
          (some .withdrawn) st = .ok st' := by
        rw [cancelApprovalRunWrites, ht']
        exact ⟨_, rfl⟩
      obtain ⟨hdb, hsubjects⟩ := cancelApprovalRunWrites_eq_ok hok
      obtain rfl : t' = st'.subjects := Except.ok.inj (ht'.symm.trans hsubjects)
      have houtline : st'.db.outline = setOutline run.id .cancelled st.db.outline := by
        rw [hdb]
        exact outline_setRunStatus run.id .cancelled
      refine ⟨st', hok, (kept_cancelApprovalRunWrites hinv hmem hpending hok).1, ?_, ?_, ?_⟩
      · simpa [hsubject, leaveSubject, leaveRequestStatus, eq_comm] using hstatus
      · rw [houtline]
        exact fun o ho => exists_of_mem_setOutline ho
      · rw [houtline]
        intro o ho hop
        obtain ⟨ho, hne⟩ := pending_of_mem_setOutline (by simp) ho hop
        exact ⟨ho, fun hsub => hne (honly o ho hsub)⟩
    · next hdecided =>
      refine ⟨st, rfl, hinv, hsame, fun o ho => ⟨o, ho, rfl, rfl⟩, fun o ho hop =>
        ⟨ho, fun hsub => ?_⟩⟩
      obtain rfl := (uniqueOutline hinv.toKeys).eq_of_key ho (outline_mem hmem) (honly o ho hsub)
      exact hdecided hop

/-- **Withdrawing** a request keeps the agreement, and cancels its approval. -/
theorem Linked.cancelWithdrawn (m : Masters) (h : Linked st) (now : Time) (id : LeaveRequestId) :
    ∃ st', cancelRequestApproval m now id { st with
        subjects := st.subjects.updateRequest id (fun r => { r with status := .withdrawn }) }
          = .ok st'
      ∧ Linked st' ∧ SetsStatus (fun r => r.id = id) .withdrawn st.subjects st'.subjects := by
  have hset : SetsStatus (fun r => r.id = id) .withdrawn st.subjects
      (st.subjects.updateRequest id (fun r => { r with status := .withdrawn })) :=
    ⟨⟨fun r => { r with status := .withdrawn }, rfl, fun r => ⟨⟨rfl, rfl, rfl, rfl, rfl⟩, rfl⟩⟩,
      rfl, rfl, rfl⟩
  obtain ⟨st', hok, hinv, hset', hruns, hpending⟩ := cancelRequestApproval_eq_ok m
    { st with
      subjects := st.subjects.updateRequest id (fun r => { r with status := .withdrawn }) }
    h.engine (fun o ho o' ho' => h.single o ho o' ho' id)
    (fun r' hr' hid => by
      obtain ⟨r, -, hid', ⟨-, hwithdrawn⟩ | ⟨hne, -⟩⟩ := hset.mem hr'
      · exact hwithdrawn
      · exact absurd (hid'.symm.trans hid) (of_decide_eq_false hne)) now
  have hall := hset.trans hset' (fun r r' hsame => by simp only [hsame.id])
  refine ⟨st', hok, h.of_setsStatus hinv hall hruns (fun o ho hop => ?_), hall⟩
  obtain ⟨ho, hne⟩ := hpending o ho hop
  exact ⟨ho, fun r _ hpr hsubject => hne (of_decide_eq_true hpr ▸ hsubject)⟩

end

end TimeOff
