import Clarisal.Payroll.Gate
import Clarisal.Payroll.TaxMasters

/-!
# A calculation that fails

A calculation that raises is rolled back, from the first claim it released to the last item it
wrote. The approval it cancelled before is not: cancelling is a transaction of its own, and
commits. So a failed calculation leaves everything as it was exactly when the pay run did not
wait for an approval (`failedCalculation_iff`). One that did keeps its status, and points
to an approval that is cancelled.
-/

open Approvals

namespace Payroll

open Transaction

/-- **`calculate_pay_run`** with what it raises, and the state it leaves. -/
def calculatePayRunResult (inputs : CalculationInputs) (id : PayrollRunId) (st : State) :
    Except String Unit × State :=
  match readPayRun st.subjects id with
  | .error message => (.error message, st)
  | .ok payRun =>
    match checkCalculable payRun with
    | .error message => (.error message, st)
    | .ok () =>
      match cancelPendingApproval inputs.now payRun st with
      | .error message => (.error message, st)
      | .ok (payRun, st) =>
        match inputs.calculateWrites payRun st.subjects with
        | .error message => (.error message, st)
        | .ok subjects => (.ok (), { st with subjects := subjects })

/-- The state it leaves is that of the request. -/
theorem snd_calculatePayRunResult (inputs : CalculationInputs) (id : PayrollRunId) (st : State) :
    (calculatePayRunResult inputs id st).2 = calculatePayRun inputs id st := by
  unfold calculatePayRunResult calculatePayRun
  cases readPayRun st.subjects id with
  | error message => rfl
  | ok payRun =>
    dsimp only
    cases checkCalculable payRun with
    | error message => rfl
    | ok _ =>
      dsimp only
      unfold calculateTransactions
      cases cancelPendingApproval inputs.now payRun st with
      | error message => rfl
      | ok read =>
        obtain ⟨payRun, st⟩ := read
        dsimp only
        cases inputs.calculateWrites payRun st.subjects <;> rfl

/-- The pay run's row, its items, the claims and its approval are as before. -/
structure Unchanged (id : PayrollRunId) (st st' : State) : Prop where
  payRun : st'.subjects.getPayRun id = st.subjects.getPayRun id
  items : st'.subjects.runItems id = st.subjects.runItems id
  expenseClaims : st'.subjects.expenseClaims = st.subjects.expenseClaims
  approvalRun : ∀ payRun ∈ st.subjects.getPayRun id, ∀ r ∈ payRun.approvalRun,
    st'.db.getRun r = st.db.getRun r
  actions : ∀ payRun ∈ st.subjects.getPayRun id, ∀ r ∈ payRun.approvalRun,
    st'.db.actions.filter (fun a => a.approvalRun = r)
      = st.db.actions.filter (fun a => a.approvalRun = r)

theorem Unchanged.refl (id : PayrollRunId) (st : State) : Unchanged id st st :=
  ⟨rfl, rfl, rfl, fun _ _ _ _ => rfl, fun _ _ _ _ => rfl⟩

/-- **The pay run waits for an approval**, and can be calculated. -/
def UnderApproval (id : PayrollRunId) (st : State) : Prop :=
  ∃ payRun ∈ st.subjects.getPayRun id, checkCalculable payRun = .ok ()
    ∧ ∃ run ∈ payRun.approvalRun.bind st.db.getRun, run.status = .pending

section

variable {inputs : CalculationInputs} {id : PayrollRunId} {st : State}

theorem readPayRun_of_getPayRun {payRun : PayrollRun} (h : st.subjects.getPayRun id = some payRun) :
    readPayRun st.subjects id = .ok payRun := by
  unfold readPayRun
  rw [h]

theorem getPayRun_of_readPayRun {payRun : PayrollRun}
    (h : readPayRun st.subjects id = .ok payRun) : st.subjects.getPayRun id = some payRun := by
  unfold readPayRun at h
  split at h
  · cases h
  · next found hfound => rw [hfound, Except.ok.inj h]

/-- The state once an approval is cancelled. -/
def cancelledApproval (now : Time) (run : ApprovalRun) (st : State) : State :=
  { st with
    db := (st.db.setRunStatus run.id .cancelled).updateActions
      (fun a => a.approvalRun = run.id && a.status = .pending)
      (ApprovalAction.close .cancelled now) }

/-- **A pending approval is cancelled** whatever comes after. -/
theorem cancelPendingApproval_of_pending (now : Time) {payRun : PayrollRun} {run : ApprovalRun}
    (hrun : payRun.approvalRun.bind st.db.getRun = some run) (hpending : run.status = .pending) :
    cancelPendingApproval now payRun st
      = .ok ({ payRun with approvalRun := none }, cancelledApproval now run st) := by
  obtain ⟨r, hr, hget⟩ := Option.bind_eq_some_iff.mp hrun
  have hid : run.id = r := Table.find_key hget
  unfold cancelPendingApproval cancelApprovalRun
  rw [hrun]
  dsimp only
  rw [if_pos hpending, hid, hget]
  dsimp only
  rw [if_neg (not_not.mpr hpending)]
  rfl

theorem getRun_cancelledApproval (now : Time) {r : RunId} {run : ApprovalRun}
    (hrun : st.db.getRun r = some run) :
    (cancelledApproval now run st).db.getRun r = some { run with status := .cancelled } := by
  have hid : run.id = r := Table.find_key hrun
  refine (Table.find_update ?_).trans ?_
  · exact fun _ => rfl
  · show (st.db.getRun r).map _ = _
    rw [hrun, Option.map_some, if_pos (by simp)]

/-- Without a pending approval there is nothing to cancel. -/
theorem cancelPendingApproval_of_not (now : Time) {payRun : PayrollRun}
    (h : ¬ ∃ run ∈ payRun.approvalRun.bind st.db.getRun, run.status = .pending) :
    cancelPendingApproval now payRun st = .ok (payRun, st) := by
  unfold cancelPendingApproval
  split
  · rfl
  · next run hrun => exact if_neg (fun hpending => h ⟨run, hrun, hpending⟩)

/-- **What a failed calculation leaves behind**: nothing of its own, and the approval
cancelled. -/
theorem calculatePayRunResult_of_error {message : String}
    (hraises : (calculatePayRunResult inputs id st).1 = .error message) :
    (¬ UnderApproval id st ∧ (calculatePayRunResult inputs id st).2 = st)
      ∨ (UnderApproval id st ∧ ∃ payRun ∈ st.subjects.getPayRun id, ∃ r ∈ payRun.approvalRun,
        ∃ run ∈ st.db.getRun r, run.status = .pending
          ∧ (calculatePayRunResult inputs id st).2 = cancelledApproval inputs.now run st) := by
  unfold calculatePayRunResult at hraises ⊢
  cases hread : readPayRun st.subjects id with
  | error message' =>
    refine Or.inl ⟨fun ⟨payRun, hpayRun, _⟩ => ?_, rfl⟩
    rw [readPayRun_of_getPayRun hpayRun] at hread
    cases hread
  | ok payRun =>
    have hpayRun := getPayRun_of_readPayRun hread
    have hthis : ∀ payRun' ∈ st.subjects.getPayRun id, payRun' = payRun := fun payRun' h =>
      Option.some.inj (h.symm.trans hpayRun)
    rw [hread] at hraises
    dsimp only at hraises ⊢
    cases hcheck : checkCalculable payRun with
    | error message' =>
      refine Or.inl ⟨fun ⟨payRun', hpayRun', hcheck', _⟩ => ?_, rfl⟩
      rw [hthis payRun' hpayRun', hcheck] at hcheck'
      cases hcheck'
    | ok _ =>
      rw [hcheck] at hraises
      dsimp only at hraises ⊢
      by_cases hpending : ∃ run ∈ payRun.approvalRun.bind st.db.getRun, run.status = .pending
      · obtain ⟨run, hrun, hpending⟩ := hpending
        obtain ⟨r, hr, hget⟩ := Option.bind_eq_some_iff.mp hrun
        refine Or.inr ⟨⟨payRun, hpayRun, hcheck, run, hrun, hpending⟩, payRun, hpayRun, r, hr, run,
          hget, hpending, ?_⟩
        rw [cancelPendingApproval_of_pending inputs.now hrun hpending] at hraises ⊢
        dsimp only at hraises ⊢
        split at hraises
        · rfl
        · cases hraises
      · refine Or.inl ⟨fun ⟨payRun', hpayRun', _, hrun'⟩ => ?_, ?_⟩
        · rw [hthis payRun' hpayRun'] at hrun'
          exact hpending hrun'
        · rw [cancelPendingApproval_of_not inputs.now hpending] at hraises ⊢
          dsimp only at hraises ⊢
          split at hraises
          · rfl
          · cases hraises

/-- **A failed calculation changes nothing** exactly when the pay run did not wait for an
approval. -/
theorem failedCalculation_iff (inputs : CalculationInputs) (id : PayrollRunId) (st : State)
    {message : String} (hraises : (calculatePayRunResult inputs id st).1 = .error message) :
    Unchanged id st (calculatePayRunResult inputs id st).2 ↔ ¬ UnderApproval id st := by
  rcases calculatePayRunResult_of_error hraises with
    ⟨hnot, hstate⟩ | ⟨hunder, payRun, hpayRun, r, hr, run, hget, hpending, hstate⟩
  · rw [hstate]
    exact iff_of_true (.refl id st) hnot
  · rw [hstate]
    refine iff_of_false (fun hsame => ?_) (not_not.mpr hunder)
    have hkept := hsame.approvalRun payRun hpayRun r hr
    rw [getRun_cancelledApproval inputs.now hget, hget, Option.some_inj] at hkept
    have hstatus := congrArg ApprovalRun.status hkept
    rw [hpending] at hstatus
    cases hstatus

end

/-! ## A pay run under approval -/

namespace Sample

/-- The masters of 2024: one of the new regime, which is not active. -/
def inactiveMaster : TaxMasterTables where
  slabSets := [
    { id := 1, organisation := none, name := "Retired", countryCode := "IN",
      fiscalYear := "2024-2025", isActive := false, isSystemMaster := true, isOldRegime := false,
      taxCategory := .individual }]
  slabs := []
  nextId := 2

/-- No slab set is in force, and the fallback master cannot be created. -/
def withoutMaster : CalculationInputs :=
  { calculation with
    activeTaxSlabSet := fun employee taxRegime =>
      activeTaxSlabSet inactiveMaster "2024-2025" (fun _ => none) employee taxRegime }

/-- Calculated and submitted. -/
def submittedRun : List Op :=
  [.createPayrollRun 1 2024 4 .regular false, .calculatePayRun calculation 0,
    .submitPayRunForApproval submission 0]

/-- What the calculation without a master raises. -/
def masterExists : String :=
  "A master already exists for 2024-2025 New Regime — Individual (age < 60). "
    ++ "Edit or delete the existing master instead."

end Sample

/-- A draft that cannot be calculated stays as it is. -/
theorem failedCalculation_iff_sample :
    Unchanged 0 (reached Sample.stages [] (Sample.submittedRun.take 1))
      (calculatePayRunResult Sample.withoutMaster 0
        (reached Sample.stages [] (Sample.submittedRun.take 1))).2 := by
  have hraises : (calculatePayRunResult Sample.withoutMaster 0
      (reached Sample.stages [] (Sample.submittedRun.take 1))).1 = .error Sample.masterExists := by
    decide +kernel
  refine (failedCalculation_iff Sample.withoutMaster 0 _ hraises).mpr ?_
  rintro ⟨payRun, hpayRun, -, run, hrun, -⟩
  have hdraft : payRun.approvalRun = none := by
    clear hrun
    revert payRun
    decide +kernel
  rw [hdraft] at hrun
  cases hrun

/-- **A pay run under approval** loses its approval to a calculation that fails. -/
theorem approval_lost :
    ¬ ∀ (inputs : CalculationInputs) (id : PayrollRunId) (st : State) (message : String),
      (calculatePayRunResult inputs id st).1 = .error message →
      Unchanged id st (calculatePayRunResult inputs id st).2 := by
  intro h
  have hraises : (calculatePayRunResult Sample.withoutMaster 0
      (reached Sample.stages [] Sample.submittedRun)).1 = .error Sample.masterExists := by
    decide +kernel
  have hkept := (h Sample.withoutMaster 0 _ _ hraises).approvalRun
    { Sample.payRun with status := .approvalPending } (by decide +kernel) 0 rfl
  have hstatus := congrArg (Option.map ApprovalRun.status) hkept
  revert hstatus
  decide +kernel

end Payroll
