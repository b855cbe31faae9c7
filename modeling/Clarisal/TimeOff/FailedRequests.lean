import Clarisal.Approvals.Preservation
import Clarisal.Approvals.Submission
import Clarisal.TimeOff.CompOffAvailability
import Clarisal.TimeOff.OnDuty

/-!
# Requests that fail

Neither a leave request nor an on-duty request is created in one transaction. What a call has
written when it raises stays: a request that nobody could be asked about is pending for ever,
with the compensatory leave it reserved. A check that fails comes before any of this, except
that the balance it looks at is recomputed, and stored, first.

So a call that raises leaves no trace exactly when it raises in the checks, over a balance that
was up to date (`failedRequests_noTrace_iff`): when the checks pass, nothing after them may fail.
-/

open Calendar

namespace TimeOff

open Approvals Transaction

/-- **No trace of a call**: the requests, reservations, balances and approval runs are those
there were. -/
structure NoTrace (st st' : State) : Prop where
  requests : st'.subjects.requests = st.subjects.requests
  redemptions : st'.subjects.redemptions = st.subjects.redemptions
  balances : st'.subjects.balances = st.subjects.balances
  runs : st'.db.runs = st.db.runs

/-- No trace of an on-duty request. -/
structure NoOnDutyTrace (st st' : EngineState OnDutyTables) : Prop where
  requests : st'.subjects.requests = st.subjects.requests
  runs : st'.db.runs = st.db.runs

/-! ## What a call needs -/

/-- The cycle of a leave type that a date lies in. -/
def cycleOf (m : Masters) (employee : EmployeeId) (leaveType : LeaveTypeId) (asOf : Date) :
    Except String (Date × Date) :=
  getCycleWindow (m.leaveType leaveType).leaveCycle (m.employee employee) asOf

/-- The balance of a cycle as it would be recomputed now. -/
def LeaveTables.recomputed (m : Masters) (t : LeaveTables) (key : BalanceKey) : LeaveBalance :=
  ((t.getBalance key).getD (LeaveBalance.new key)).refresh m t

/-- The key of the balance of a cycle. -/
abbrev balanceKey (employee : EmployeeId) (leaveType : LeaveTypeId) (window : Date × Date) :
    BalanceKey :=
  { employee := employee, leaveType := leaveType, cycleStart := window.1, cycleEnd := window.2 }

/-- **There are units for a request**: of the accruals, of nothing for a loss of pay, or of the
balance of the cycle its first day lies in. -/
def HasUnits (m : Masters) (employee : EmployeeId) (leaveType : LeaveTypeId) (span : LeaveSpan)
    (t : LeaveTables) : Prop :=
  if (m.leaveType leaveType).isCompOff then
    decimal span.units ≤ t.getAvailableCompOffUnits employee
  else (m.leaveType leaveType).isLossOfPay = true
    ∨ ∃ window, cycleOf m employee leaveType span.startDate = .ok window
      ∧ decimal span.units ≤ decimal (t.recomputed m (balanceKey employee leaveType window)).available

/-- The balance that is looked at is stored as it would be recomputed. -/
def UpToDate (m : Masters) (employee : EmployeeId) (leaveType : LeaveTypeId) (asOf : Date)
    (t : LeaveTables) : Prop :=
  ∀ window, cycleOf m employee leaveType asOf = .ok window →
    t.getBalance (balanceKey employee leaveType window)
      = some (t.recomputed m (balanceKey employee leaveType window))

/-- **Nothing fails after the checks**: the units can be reserved, somebody can be asked for
approval, and today has a cycle. -/
structure GoesThrough (m : Masters) (submission : Submission) (employee : EmployeeId)
    (leaveType : LeaveTypeId) (span : LeaveSpan) (st : State) : Prop where
  reservable : (m.leaveType leaveType).isCompOff = true →
    decimal span.units ≤ st.subjects.unreservedUnits employee
  approvable : ∃ workflow ∈ submission.workflow, Approvable submission.user submission.dir
    workflow .leave (m.employee employee).organisation (some (m.employee employee).id) st.db
  cycle : (m.leaveType leaveType).isCompOff = false →
    ∃ window, cycleOf m employee leaveType st.subjects.today = .ok window

/-- **What the keys and columns ensure** of the tables. -/
structure StoredState (st : State) : Prop where
  engine : st.db.Keys
  balances : Table.Unique LeaveBalance.key st.subjects.balances
  compOff : st.subjects.CompOffStored

variable {m : Masters} {submission : Submission} {employee : EmployeeId}
  {leaveType : LeaveTypeId} {span : LeaveSpan} {reason : String} {st : State} {t : LeaveTables}

/-! ## The checks -/

/-- **A balance is recomputed and stored**; the tables keep it exactly when it was up to date. -/
theorem getOrCreateLeaveBalance_spec {asOf : Date} {window : Date × Date}
    (hwindow : cycleOf m employee leaveType asOf = .ok window) :
    ∃ balances entries,
      getOrCreateLeaveBalance m employee leaveType asOf t
          = .ok (t.recomputed m (balanceKey employee leaveType window),
            { t with balances := balances, ledgerEntries := entries })
        ∧ (Table.Unique LeaveBalance.key t.balances → (balances = t.balances
          ↔ t.getBalance (balanceKey employee leaveType window)
            = some (t.recomputed m (balanceKey employee leaveType window)))) := by
  set key := balanceKey employee leaveType window with hkey
  unfold LeaveTables.recomputed
  cases hrow : t.getBalance key with
  | none =>
    refine ⟨t.balances ++ [(LeaveBalance.new key).refresh m t],
      t.ledgerEntries ++ [
        { leaveBalance := key, entryType := .credit,
          amount := ((LeaveBalance.new key).refresh m t).creditedAmount,
          effectiveDate := key.cycleStart }], ?_,
      fun _ => iff_of_false (fun hsame => ?_) nofun⟩
    · unfold getOrCreateLeaveBalance
      show (cycleOf m employee leaveType asOf >>= _) = _
      rw [hwindow]
      dsimp only [bind, Except.bind]
      rw [show t.getBalance _ = none from hrow]
      rfl
    · exact absurd (congrArg List.length hsame) (by simp)
  | some row =>
    have hrowKey : row.key = key := Table.find_key hrow
    refine ⟨Table.update (fun b => b.key = key) (fun _ => row.refresh m t) t.balances,
      t.ledgerEntries, ?_, fun hkeys => ?_⟩
    · unfold getOrCreateLeaveBalance
      show (cycleOf m employee leaveType asOf >>= _) = _
      rw [hwindow]
      dsimp only [bind, Except.bind]
      rw [show t.getBalance _ = some row from hrow]
      rfl
    · rw [← hrowKey, Option.some_inj, eq_comm (a := row)]
      exact hkeys.save_eq_iff (b := row.refresh m t) (Table.find_mem hrow) rfl

theorem getOrCreateLeaveBalance_error {asOf : Date} {message : String}
    (hwindow : cycleOf m employee leaveType asOf = .error message) :
    getOrCreateLeaveBalance m employee leaveType asOf t = .error message := by
  unfold getOrCreateLeaveBalance
  show (cycleOf m employee leaveType asOf >>= _) = _
  rw [hwindow]
  rfl

/-- **Recomputing a balance** leaves every balance as it would be recomputed. -/
theorem recomputed_getOrCreateLeaveBalance {asOf : Date} {balance : LeaveBalance}
    {t' : LeaveTables}
    (h : getOrCreateLeaveBalance m employee leaveType asOf t = .ok (balance, t'))
    (key : BalanceKey) : t'.recomputed m key = t.recomputed m key := by
  obtain ⟨window, -, h⟩ := bind_eq_ok_iff.mp h
  dsimp only at h
  generalize BalanceKey.mk employee leaveType window.1 window.2 = stored at h
  unfold LeaveTables.recomputed
  cases hrow : t.getBalance stored with
  | some row =>
    rw [hrow] at h
    obtain ⟨-, rfl⟩ := Prod.mk.inj (Except.ok.inj h)
    obtain rfl : row.key = stored := Table.find_key hrow
    by_cases hsame : key = row.key
    · subst hsame
      have hsaved : Table.find LeaveBalance.key row.key
          (Table.save LeaveBalance.key (row.refresh m t) t.balances)
          = some (row.refresh m t) := Table.find_save_self (a := row.refresh m t) hrow
      rw [hrow]
      exact congrArg (fun b => LeaveBalance.refresh m t (b.getD (.new row.key))) hsaved
    · have hother : Table.find LeaveBalance.key key
          (Table.save LeaveBalance.key (row.refresh m t) t.balances) = t.getBalance key :=
        Table.find_save_of_ne (a := row.refresh m t) hsame
      exact congrArg (fun b => LeaveBalance.refresh m t (b.getD (.new key))) hother
  | none =>
    rw [hrow] at h
    obtain ⟨-, rfl⟩ := Prod.mk.inj (Except.ok.inj h)
    by_cases hsame : key = stored
    · subst hsame
      have hsaved : Table.find LeaveBalance.key key
          (t.balances ++ [(LeaveBalance.new key).refresh m t])
          = some ((LeaveBalance.new key).refresh m t) :=
        Table.find_append_self (a := (LeaveBalance.new key).refresh m t) hrow
      rw [hrow]
      exact congrArg (fun b => LeaveBalance.refresh m t (b.getD (.new key))) hsaved
    · have hother : Table.find LeaveBalance.key key
          (t.balances ++ [(LeaveBalance.new stored).refresh m t]) = t.getBalance key :=
        Table.find_append_of_ne (Ne.symm hsame)
      exact congrArg (fun b => LeaveBalance.refresh m t (b.getD (.new key))) hother

variable (m employee leaveType span) in
/-- **The check of the units** passes when there are units, and writes a balance at most. -/
theorem validateUnits_spec (hkeys : Table.Unique LeaveBalance.key t.balances) :
    ∃ outcome balances entries,
      validateUnits m employee leaveType span t
          = (outcome, { t with balances := balances, ledgerEntries := entries })
        ∧ (outcome = .ok () ↔ HasUnits m employee leaveType span t)
        ∧ (¬ HasUnits m employee leaveType span t → (balances = t.balances
          ↔ (m.leaveType leaveType).isCompOff = true
            ∨ UpToDate m employee leaveType span.startDate t)) := by
  unfold HasUnits validateUnits validateLeaveBalance
  by_cases hcompOff : (m.leaveType leaveType).isCompOff = true
  · simp only [if_pos hcompOff]
    split
    · next hless =>
      exact ⟨_, t.balances, t.ledgerEntries, rfl, iff_of_false nofun (not_le.mpr hless),
        fun _ => iff_of_true rfl (Or.inl hcompOff)⟩
    · next hless =>
      exact ⟨_, t.balances, t.ledgerEntries, rfl, iff_of_true rfl (not_lt.mp hless),
        fun hnone => absurd (not_lt.mp hless) hnone⟩
  · simp only [if_neg hcompOff]
    by_cases hloss : (m.leaveType leaveType).isLossOfPay = true
    · simp only [if_pos hloss]
      exact ⟨_, t.balances, t.ledgerEntries, rfl, iff_of_true rfl (Or.inl hloss),
        fun hnone => absurd (Or.inl hloss) hnone⟩
    · simp only [if_neg hloss]
      cases hwindow : cycleOf m employee leaveType span.startDate with
      | error message =>
        rw [getOrCreateLeaveBalance_error hwindow]
        refine ⟨_, t.balances, t.ledgerEntries, rfl, iff_of_false nofun ?_,
          fun _ => iff_of_true rfl (Or.inr ?_)⟩
        · rintro (h | ⟨window, hw, -⟩)
          · exact hloss h
          · cases hw
        · intro window hw
          rw [hwindow] at hw
          cases hw
      | ok window =>
        obtain ⟨balances, entries, hok, hsame⟩ := getOrCreateLeaveBalance_spec (t := t) hwindow
        rw [hok]
        dsimp only
        have hthis : ∀ {p : Date × Date → Prop},
            (∃ w, (Except.ok window : Except String (Date × Date)) = .ok w ∧ p w) ↔ p window :=
          ⟨fun ⟨_, hw, hp⟩ => Except.ok.inj hw ▸ hp, fun hp => ⟨window, rfl, hp⟩⟩
        have hupToDate : UpToDate m employee leaveType span.startDate t
            ↔ t.getBalance (balanceKey employee leaveType window)
              = some (t.recomputed m (balanceKey employee leaveType window)) := by
          refine ⟨fun h => h window hwindow, fun h w hw => ?_⟩
          obtain rfl := Except.ok.inj (hwindow.symm.trans hw)
          exact h
        rw [hthis, hupToDate]
        split
        · next hless =>
          refine ⟨_, balances, entries, rfl, iff_of_false nofun ?_, fun _ => ?_⟩
          · exact not_or.mpr ⟨hloss, not_le.mpr hless⟩
          · rw [or_iff_right hcompOff]
            exact hsame hkeys
        · next hless =>
          exact ⟨_, balances, entries, rfl, iff_of_true rfl (Or.inr (not_lt.mp hless)),
            fun hnone => absurd (Or.inr (not_lt.mp hless)) hnone⟩

/-! ## After the checks -/

variable (m employee leaveType span reason) in
/-- **A request is inserted** whether its units can be reserved or not. -/
theorem insertRequest_spec (hstored : t.CompOffStored) :
    ∃ outcome redemptions,
      t.insertRequest m employee leaveType span reason
          = (outcome, { t with
            requests := t.requests ++ [t.newRequest employee leaveType span reason]
            redemptions := redemptions
            nextRequest := t.nextRequest + 1 })
        ∧ (outcome = .ok () ↔ ((m.leaveType leaveType).isCompOff = true →
          decimal span.units ≤ t.unreservedUnits employee)) := by
  unfold LeaveTables.insertRequest
  dsimp only
  by_cases hcompOff : (m.leaveType leaveType).isCompOff = true
  · rw [if_pos hcompOff]
    set inserted : LeaveTables := { t with
      requests := t.requests ++ [t.newRequest employee leaveType span reason]
      nextRequest := t.nextRequest + 1 } with hinserted
    have hstored' : inserted.CompOffStored :=
      ⟨hstored.accrualKeys, hstored.accrualUnits, hstored.redemptionUnits⟩
    have hreserve := canReserve_iff hstored' (t.newRequest employee leaveType span reason)
    obtain ⟨redemptions, hframe⟩ :=
      inserted.reserveCompOffRedemption_frame (t.newRequest employee leaveType span reason)
    unfold LeaveTables.CanReserve at hreserve
    revert hreserve hframe
    generalize inserted.reserveCompOffRedemption (t.newRequest employee leaveType span reason)
      = reserved
    obtain ⟨missing, t'⟩ := reserved
    rintro hreserve rfl
    dsimp only
    have hunits : missing ≤ 0 ↔ ((m.leaveType leaveType).isCompOff = true →
        decimal span.units ≤ t.unreservedUnits employee) :=
      ⟨fun h _ => hreserve.mp h, fun h => hreserve.mpr (h hcompOff)⟩
    split
    · next hmissing =>
      exact ⟨_, redemptions, rfl, iff_of_false nofun (fun h => absurd (hunits.mpr h)
        (not_le.mpr hmissing))⟩
    · next hnone =>
      exact ⟨_, redemptions, rfl, iff_of_true rfl (hunits.mp (not_lt.mp hnone))⟩
  · rw [if_neg hcompOff]
    exact ⟨_, t.redemptions, rfl, iff_of_true rfl (fun h => absurd h hcompOff)⟩

/-- **A choice that may be missing**: it goes through when there is one that does. -/
theorem exists_workflow_iff {S : Type} {workflow : Option WorkflowId} {message : String}
    {attempt : WorkflowId → Except String S} {P : WorkflowId → Prop}
    (h : ∀ workflow, (∃ st' : S, attempt workflow = .ok st') ↔ P workflow) :
    (∃ st' : S, (match workflow with
        | none => Except.error message
        | some workflow => attempt workflow) = .ok st')
      ↔ ∃ w ∈ workflow, P w := by
  cases workflow with
  | none =>
    constructor
    · rintro ⟨st', hok⟩
      cases hok
    · rintro ⟨workflow, hworkflow, -⟩
      cases hworkflow
  | some workflow =>
    refine (h workflow).trans ⟨fun hP => ⟨workflow, rfl, hP⟩, ?_⟩
    rintro ⟨_, hworkflow, hP⟩
    exact Option.some.inj hworkflow ▸ hP

/-- **The approval of a request** is asked for exactly when somebody can be asked. -/
theorem requestApproval_isOk_iff (hkeys : st.db.Keys) (employee : Employee)
    (id : LeaveRequestId) :
    (∃ st', requestApproval submission employee id st = .ok st')
      ↔ ∃ workflow ∈ submission.workflow, Approvable submission.user submission.dir workflow
        .leave employee.organisation (some employee.id) st.db :=
  exists_workflow_iff (fun _ => submit_isOk_iff hkeys)

theorem subjects_requestApproval {st' : State} {employee : Employee} {id : LeaveRequestId}
    (hok : requestApproval submission employee id st = .ok st') : st'.subjects = st.subjects := by
  unfold requestApproval at hok
  split at hok
  · cases hok
  · exact subjects_submit hok

theorem requestOnDutyApproval_isOk_iff {st : EngineState OnDutyTables} (hkeys : st.db.Keys)
    (employee : Employee) (id : OnDutyRequestId) :
    (∃ st', requestOnDutyApproval submission employee id st = .ok st')
      ↔ ∃ workflow ∈ submission.workflow, Approvable submission.user submission.dir workflow
        .onDuty employee.organisation (some employee.id) st.db :=
  exists_workflow_iff (fun _ => submit_isOk_iff hkeys)

/-- **The balance of today** is recomputed when today has a cycle. -/
theorem refreshToday_spec (m : Masters) (employee : EmployeeId) (leaveType : LeaveTypeId)
    (st : State) : ∃ outcome balances entries,
      refreshToday m employee leaveType st = (outcome, { st with
        subjects := { st.subjects with balances := balances, ledgerEntries := entries } })
        ∧ (outcome = .ok () ↔ ((m.leaveType leaveType).isCompOff = false →
          ∃ window, cycleOf m employee leaveType st.subjects.today = .ok window)) := by
  unfold refreshToday
  by_cases hcompOff : (m.leaveType leaveType).isCompOff = true
  · rw [if_pos hcompOff]
    exact ⟨_, st.subjects.balances, st.subjects.ledgerEntries, rfl,
      iff_of_true rfl (fun h => absurd hcompOff (by simp [h]))⟩
  · rw [if_neg hcompOff]
    have hnot : (m.leaveType leaveType).isCompOff = false := Bool.eq_false_of_not_eq_true hcompOff
    cases hwindow : cycleOf m employee leaveType st.subjects.today with
    | error message =>
      rw [getOrCreateLeaveBalance_error hwindow]
      refine ⟨_, st.subjects.balances, st.subjects.ledgerEntries, rfl, iff_of_false nofun ?_⟩
      intro h
      obtain ⟨window, hw⟩ := h hnot
      cases hw
    | ok window =>
      obtain ⟨balances, entries, hok, -⟩ := getOrCreateLeaveBalance_spec (t := st.subjects) hwindow
      rw [hok]
      exact ⟨_, balances, entries, rfl, iff_of_true rfl (fun _ => ⟨window, rfl⟩)⟩

/-! ## What a failed call leaves -/

theorem NoTrace.refl (st : State) : NoTrace st st := ⟨rfl, rfl, rfl, rfl⟩

/-- A request that is there was not there before. -/
theorem not_noTrace_of_append {st' : State} {r : LeaveRequest}
    (h : st'.subjects.requests = st.subjects.requests ++ [r]) : ¬ NoTrace st st' := by
  intro hnone
  rw [hnone.requests] at h
  exact absurd (congrArg List.length h) (by simp)

/-- **A leave request leaves no trace** of a failure exactly when it fails in its checks, over a
balance that was up to date, or not at all. -/
theorem createLeaveRequest_noTrace_iff (h : StoredState st) :
    (∀ message, (createLeaveRequest m submission employee leaveType span reason st).1
        = .error message →
      NoTrace st (createLeaveRequest m submission employee leaveType span reason st).2)
      ↔ (checkDates employee span st.subjects = .ok () →
        (HasUnits m employee leaveType span st.subjects →
            GoesThrough m submission employee leaveType span st)
          ∧ (¬ HasUnits m employee leaveType span st.subjects →
            (m.leaveType leaveType).isCompOff = true
              ∨ UpToDate m employee leaveType span.startDate st.subjects)) := by
  unfold createLeaveRequest
  cases hdates : checkDates employee span st.subjects with
  | error message => exact iff_of_true (fun _ _ => NoTrace.refl st) nofun
  | ok _ =>
    rw [forall_prop_of_true rfl]
    obtain ⟨outcome, balances, entries, hvalidated, hhas, hsame⟩ :=
      validateUnits_spec m employee leaveType span h.balances
    rw [hvalidated]
    cases outcome with
    | error message =>
      have hnone : ¬ HasUnits m employee leaveType span st.subjects := fun hu => by
        cases hhas.mpr hu
      constructor
      · intro hall
        exact ⟨fun hu => absurd hu hnone, fun _ => (hsame hnone).mp (hall message rfl).balances⟩
      · rintro ⟨-, hupToDate⟩ _ _
        exact ⟨rfl, rfl, (hsame hnone).mpr (hupToDate hnone), rfl⟩
    | ok _ =>
      have hunits := hhas.mp rfl
      have hgoes : (HasUnits m employee leaveType span st.subjects →
          GoesThrough m submission employee leaveType span st)
          ∧ (¬ HasUnits m employee leaveType span st.subjects →
            (m.leaveType leaveType).isCompOff = true
              ∨ UpToDate m employee leaveType span.startDate st.subjects)
          ↔ GoesThrough m submission employee leaveType span st :=
        ⟨fun h => h.1 hunits, fun h => ⟨fun _ => h, fun hnone => absurd hunits hnone⟩⟩
      rw [hgoes]
      have hstored : LeaveTables.CompOffStored
          { st.subjects with balances := balances, ledgerEntries := entries } :=
        ⟨h.compOff.accrualKeys, h.compOff.accrualUnits, h.compOff.redemptionUnits⟩
      obtain ⟨outcome, redemptions, hinserted, hreservable⟩ :=
        insertRequest_spec m employee leaveType span reason hstored
      dsimp only
      rw [hinserted]
      cases outcome with
      | error message =>
        refine iff_of_false (fun hall => not_noTrace_of_append rfl (hall message rfl)) ?_
        intro hgo
        cases hreservable.mpr hgo.reservable
      | ok _ =>
        dsimp only
        set inserted : State := { st with subjects := _ } with hinsertedState
        have hkeys : inserted.db.Keys := h.engine
        cases happroval : requestApproval submission (m.employee employee)
            st.subjects.nextRequest inserted with
        | error message =>
          refine iff_of_false (fun hall => not_noTrace_of_append rfl (hall message rfl)) ?_
          intro hgo
          obtain ⟨st', hok⟩ := (requestApproval_isOk_iff hkeys _ _).mpr hgo.approvable
          cases happroval.symm.trans hok
        | ok st' =>
          have hsubjects := subjects_requestApproval happroval
          obtain ⟨outcome, balances', entries', hrefreshed, hcycle⟩ :=
            refreshToday_spec m employee leaveType st'
          dsimp only
          rw [hrefreshed]
          rw [hsubjects] at hcycle ⊢
          cases outcome with
          | error message =>
            refine iff_of_false (fun hall => not_noTrace_of_append rfl (hall message rfl)) ?_
            intro hgo
            cases hcycle.mpr hgo.cycle
          | ok _ =>
            exact iff_of_true nofun ⟨hreservable.mp rfl,
              (requestApproval_isOk_iff hkeys _ _).mp ⟨st', happroval⟩, hcycle.mp rfl⟩

/-- **An on-duty request leaves no trace** of a failure exactly when it fails in its checks, or
not at all. -/
theorem createOnDutyRequest_noTrace_iff {st : EngineState OnDutyTables} (hkeys : st.db.Keys)
    (employee : Employee) (form : OnDutyForm) :
    (∀ message, (createOnDutyRequest submission employee form st).1 = .error message →
      NoOnDutyTrace st (createOnDutyRequest submission employee form st).2)
      ↔ (form.check = .ok () → ∃ workflow ∈ submission.workflow,
        Approvable submission.user submission.dir workflow .onDuty employee.organisation
          (some employee.id) st.db) := by
  unfold createOnDutyRequest
  cases hcheck : form.check with
  | error message => exact iff_of_true (fun _ _ => ⟨rfl, rfl⟩) nofun
  | ok _ =>
    rw [forall_prop_of_true rfl]
    dsimp only
    set inserted : EngineState OnDutyTables := { st with subjects := _ } with hinserted
    have hkeys' : inserted.db.Keys := hkeys
    cases happroval : requestOnDutyApproval submission employee st.subjects.nextRequest
        inserted with
    | error message =>
      refine iff_of_false (fun hall => ?_) (fun hgo => ?_)
      · exact absurd (congrArg List.length (hall message rfl).requests)
          (by simp [hinserted, OnDutyTables.insertRequest])
      · obtain ⟨st', hok⟩ := (requestOnDutyApproval_isOk_iff hkeys' _ _).mpr hgo
        cases happroval.symm.trans hok
    | ok st' =>
      exact iff_of_true nofun ((requestOnDutyApproval_isOk_iff hkeys' _ _).mp ⟨st', happroval⟩)

/-- **Failed requests leave no trace** exactly when nothing fails after their checks: of a leave
request that passes them the units can be reserved, somebody can be asked and today has a cycle,
and one that is refused for want of units finds its balance up to date; of an on-duty request
that passes them somebody can be asked. -/
theorem failedRequests_noTrace_iff (m : Masters) (submission : Submission)
    (employee : EmployeeId) (leaveType : LeaveTypeId) (span : LeaveSpan) (reason : String)
    {st : State} (h : StoredState st) (form : OnDutyForm) {duty : EngineState OnDutyTables}
    (hduty : duty.db.Keys) :
    ((∀ message, (createLeaveRequest m submission employee leaveType span reason st).1
          = .error message →
        NoTrace st (createLeaveRequest m submission employee leaveType span reason st).2)
      ↔ (checkDates employee span st.subjects = .ok () →
        (HasUnits m employee leaveType span st.subjects →
            GoesThrough m submission employee leaveType span st)
          ∧ (¬ HasUnits m employee leaveType span st.subjects →
            (m.leaveType leaveType).isCompOff = true
              ∨ UpToDate m employee leaveType span.startDate st.subjects)))
    ∧ ((∀ message, (createOnDutyRequest submission (m.employee employee) form duty).1
          = .error message →
        NoOnDutyTrace duty (createOnDutyRequest submission (m.employee employee) form duty).2)
      ↔ (form.check = .ok () → ∃ workflow ∈ submission.workflow,
        Approvable submission.user submission.dir workflow .onDuty
          (m.employee employee).organisation (some (m.employee employee).id) duty.db)) :=
  ⟨createLeaveRequest_noTrace_iff h, createOnDutyRequest_noTrace_iff hduty _ form⟩

namespace Sample

/-- An organisation without a workflow. -/
def unconfigured : Submission where
  user := Approvals.Sample.user
  dir := Approvals.Sample.directory 0
  workflow := none

def accruedState : State := EngineState.initial stages accrued

theorem accruedState_stored : StoredState accruedState where
  engine := keys_initial stages accrued
  balances := List.nodup_nil
  compOff := ⟨accrued_accrued.accrualKeys, accrued_accrued.accrualUnits,
    fun _ hx => absurd hx List.not_mem_nil⟩

def secondHalf : LeaveSpan where
  startDate := ⟨2026, 12, 7, isDate_2026_12_07⟩
  endDate := ⟨2026, 12, 7, isDate_2026_12_07⟩
  startSession := .secondHalf
  endSession := .secondHalf

def noDuty : EngineState OnDutyTables :=
  EngineState.initial stages { requests := [], nextRequest := 0 }

def visit : OnDutyForm where
  policy := 1
  startDate := ⟨2026, 12, 7, isDate_2026_12_07⟩
  endDate := ⟨2026, 12, 7, isDate_2026_12_07⟩
  durationType := .fullDay
  startTime := none
  endTime := none
  purpose := "Client visit"
  destination := ""

end Sample

theorem failedRequests_noTrace_iff_sample :
    ((∀ message, (createLeaveRequest Sample.compOffMasters Sample.unconfigured 1 0
          Sample.secondHalf "" Sample.accruedState).1 = .error message →
        NoTrace Sample.accruedState (createLeaveRequest Sample.compOffMasters
          Sample.unconfigured 1 0 Sample.secondHalf "" Sample.accruedState).2)
      ↔ (checkDates 1 Sample.secondHalf Sample.accruedState.subjects = .ok () →
        (HasUnits Sample.compOffMasters 1 0 Sample.secondHalf Sample.accruedState.subjects →
            GoesThrough Sample.compOffMasters Sample.unconfigured 1 0 Sample.secondHalf
              Sample.accruedState)
          ∧ (¬ HasUnits Sample.compOffMasters 1 0 Sample.secondHalf
              Sample.accruedState.subjects →
            (Sample.compOffMasters.leaveType 0).isCompOff = true
              ∨ UpToDate Sample.compOffMasters 1 0 Sample.secondHalf.startDate
                Sample.accruedState.subjects)))
    ∧ ((∀ message, (createOnDutyRequest Sample.unconfigured (Sample.compOffMasters.employee 1)
          Sample.visit Sample.noDuty).1 = .error message →
        NoOnDutyTrace Sample.noDuty (createOnDutyRequest Sample.unconfigured
          (Sample.compOffMasters.employee 1) Sample.visit Sample.noDuty).2)
      ↔ (Sample.visit.check = .ok () → ∃ workflow ∈ Sample.unconfigured.workflow,
        Approvable Sample.unconfigured.user Sample.unconfigured.dir workflow .onDuty
          (Sample.compOffMasters.employee 1).organisation
          (some (Sample.compOffMasters.employee 1).id) Sample.noDuty.db)) :=
  failedRequests_noTrace_iff Sample.compOffMasters Sample.unconfigured 1 0 Sample.secondHalf ""
    Sample.accruedState_stored Sample.visit (keys_initial _ _)

/-- **What is left without a workflow**: a half day of compensatory leave that is pending and
reserved, and a pending day on duty, neither of which anybody can decide. -/
theorem unconfigured_leaves_requests :
    ¬ (∀ message, (createLeaveRequest Sample.compOffMasters Sample.unconfigured 1 0
          Sample.secondHalf "" Sample.accruedState).1 = .error message →
        NoTrace Sample.accruedState (createLeaveRequest Sample.compOffMasters
          Sample.unconfigured 1 0 Sample.secondHalf "" Sample.accruedState).2)
      ∧ ¬ (∀ message, (createOnDutyRequest Sample.unconfigured (Sample.compOffMasters.employee 1)
          Sample.visit Sample.noDuty).1 = .error message →
        NoOnDutyTrace Sample.noDuty (createOnDutyRequest Sample.unconfigured
          (Sample.compOffMasters.employee 1) Sample.visit Sample.noDuty).2) := by
  refine ⟨fun h => ?_, fun h => ?_⟩
  · have hdates : checkDates 1 Sample.secondHalf Sample.accruedState.subjects = .ok () :=
      (if_neg (lt_irrefl Sample.secondHalf.startDate)).trans rfl
    have henough : decimal Sample.secondHalf.units
        ≤ Sample.accruedState.subjects.getAvailableCompOffUnits 1 := by decide +kernel
    have hunits : HasUnits Sample.compOffMasters 1 0 Sample.secondHalf
        Sample.accruedState.subjects := henough
    have hgoes :=
      ((createLeaveRequest_noTrace_iff Sample.accruedState_stored).mp h hdates).1 hunits
    obtain ⟨workflow, hworkflow, -⟩ := hgoes.approvable
    cases hworkflow
  · have hcheck : Sample.visit.check = .ok () :=
      (if_neg (lt_irrefl Sample.visit.startDate)).trans rfl
    obtain ⟨workflow, hworkflow, -⟩ :=
      (createOnDutyRequest_noTrace_iff (keys_initial _ _) _ _).mp h hcheck
    cases hworkflow

end TimeOff
