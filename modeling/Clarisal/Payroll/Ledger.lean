import Clarisal.Payroll.Transactions

/-!
# What a request does to the pay runs

A request changes the payroll tables in one of few ways, and `Change` lists
them, each with what it needs of the state it finds. Everything about runs of
requests is read off this list.

The first such fact is the invariant `Ledger`, which holds whether approvals
are bypassed or not: a pending approval belongs to a pay run that waits for it,
and payslips exist for finalized runs only, each agreeing with its item. So a
finalized run stays as it is (`frozen_of_change`).
-/

open Approvals

namespace Payroll

open Transaction PayrollTables

/-- **The invariant of every request.** -/
structure Ledger (st : State) : Prop where
  engine : st.db.Inv
  keys : st.subjects.Keys
  known : ∀ o ∈ st.db.outline, ∀ id, o.subject = payRunSubject id → id < st.subjects.nextId
  pending : ∀ o ∈ st.db.outline, o.status = .pending → ∀ p ∈ st.subjects.payRuns,
    o.subject = payRunSubject p.id → p.status = .approvalPending ∧ p.approvalRun = some o.id
  issued : ∀ s ∈ st.subjects.payslips, ∃ p ∈ st.subjects.payRuns, p.status = .finalized
    ∧ ∃ i ∈ st.subjects.items, i.payRun = p.id ∧ s = i.payslip p

/-- The run of an identifier is finalized. -/
def Finalized (t : PayrollTables) (id : PayrollRunId) : Prop :=
  ∃ p ∈ t.payRuns, p.id = id ∧ p.status = .finalized

/-- Nothing happens to a run. -/
structure Frozen (id : PayrollRunId) (t t' : PayrollTables) : Prop where
  finalized : Finalized t' id
  items : t'.runItems id = t.runItems id
  payslips : ∀ s, s ∈ t'.runPayslips id ↔ s ∈ t.runPayslips id

/-- **What a request did.** -/
inductive Change (st st' : State) : Op → Prop
  /-- nothing the pay runs notice -/
  | quiet {op : Op} (hcloses : Closes st.db.outline st'.db.outline)
      (hsubjects : st'.subjects = st.subjects) : Change st st' op
  /-- a pay run took the decision of its approval -/
  | decided {op : Op} (run : RunOutline) (decision : SubjectStatus) (id : PayrollRunId)
      (hrun : run ∈ st.db.outline) (hpending : run.status = .pending)
      (hsubject : run.subject = payRunSubject id)
      (houtline : st'.db.outline = setOutline run.id decision.runStatus st.db.outline)
      (hsubjects : st'.subjects = st.subjects.updatePayRun id
        (fun p => { p with status := payrollRunStatus decision })) : Change st st' op
  | created (organisation : OrganisationId) (periodYear periodMonth : ℕ)
      (runType : PayrollRunType) (useAttendanceInputs : Bool)
      (hdb : st'.db = st.db)
      (hsubjects : st'.subjects = createPayrollRun organisation periodYear periodMonth runType
        useAttendanceInputs st.subjects) :
      Change st st'
        (.createPayrollRun organisation periodYear periodMonth runType useAttendanceInputs)
  | arrears (row : Arrears) (hdb : st'.db = st.db)
      (hsubjects : st'.subjects = { st.subjects with arrears := st.subjects.arrears ++ [row] }) :
      Change st st' (.createArrears row)
  /-- an open run that waits for no approval any more was calculated -/
  | calculated (inputs : CalculationInputs) (p : PayrollRun) (approvalRun : Option RunId)
      (hp : p ∈ st.subjects.payRuns)
      (hopen : p.status ≠ .approved ∧ p.status ≠ .finalized)
      (hcloses : Closes st.db.outline st'.db.outline)
      (hnone : ∀ o ∈ st'.db.outline, o.status = .pending → o.subject ≠ payRunSubject p.id)
      (hok : inputs.calculateWrites { p with approvalRun := approvalRun } st.subjects
        = .ok st'.subjects) : Change st st' (.calculatePayRun inputs p.id)
  | submitted (submission : Submission) (p : PayrollRun) (r : RunId)
      (hp : p ∈ st.subjects.payRuns) (hcalculated : p.status = .calculated)
      (hfresh : ∀ o ∈ st.db.outline, o.id ≠ r)
      (houtline : st'.db.outline = st.db.outline
        ++ [{ id := r, subject := payRunSubject p.id, status := .pending }])
      (hsubjects : st'.subjects = st.subjects.updatePayRun p.id
        (fun p => { p with approvalRun := some r, status := .approvalPending })) :
      Change st st' (.submitPayRunForApproval submission p.id)
  | finalized (p : PayrollRun) (skipApproval : Bool) (hp : p ∈ st.subjects.payRuns)
      (hstatus : p.status = .approved ∨ (p.status = .calculated ∧ skipApproval = true))
      (hdb : st'.db = st.db) (hok : finalizeWrites p st.subjects = .ok st'.subjects) :
      Change st st' (.finalizePayRun p.id skipApproval)

section

variable {st st' : State} {op : Op}

theorem Change.refused : Change st st op := .quiet (.none rfl) rfl

/-! ## Every request is one of them -/

theorem change_of_outcome (houtcome : Outcome payrollHandler st st') : Change st st' op := by
  cases houtcome with
  | quiet houtline hsubjects => exact .quiet (.none houtline) hsubjects
  | dropped run hrun hpending houtline hsubjects =>
    exact .quiet (.one run .cancelled hrun hpending (by simp) houtline) hsubjects
  | decided run decision reason hrun hpending houtline hsubjects =>
    unfold payrollHandler at hsubjects
    dsimp only at hsubjects
    split at hsubjects
    · next htype =>
      have hsubject : run.subject = payRunSubject run.subject.objectId := by
        rw [payRunSubject, ← htype]
      exact .decided run decision _ hrun hpending hsubject houtline (Except.ok.inj hsubjects).symm
    · exact .quiet (.one run decision.runStatus hrun hpending decision.runStatus_ne_pending
        houtline) (Except.ok.inj hsubjects).symm

/-- **Leaving an approval** before a calculation: no approval of the run is
pending afterwards. -/
theorem closes_cancelPendingApproval (h : Ledger st) {now : Time} {p payRun : PayrollRun}
    (hp : p ∈ st.subjects.payRuns) (hok : cancelPendingApproval now p st = .ok (payRun, st')) :
    Closes st.db.outline st'.db.outline ∧ st'.subjects = st.subjects
      ∧ payRun = { p with approvalRun := payRun.approvalRun }
      ∧ ∀ o ∈ st'.db.outline, o.status = .pending → o.subject ≠ payRunSubject p.id := by
  -- a pending approval of the run is the one the run points to
  have hpoints : ∀ o ∈ st.db.outline, o.status = .pending → o.subject = payRunSubject p.id →
      ∃ run ∈ st.db.runs, run.outline = o ∧ p.approvalRun.bind st.db.getRun = some run := by
    intro o ho hop hsub
    obtain ⟨run, hrun, rfl⟩ := mem_outline.mp ho
    refine ⟨run, hrun, rfl, ?_⟩
    rw [(h.pending _ ho hop p hp hsub).2, Option.bind_some]
    exact (Table.find_eq_some_iff h.engine.uniqueRun).mpr ⟨hrun, rfl⟩
  unfold cancelPendingApproval at hok
  split at hok
  · next hnone =>
    obtain ⟨rfl, rfl⟩ := Prod.mk.inj (Except.ok.inj hok)
    refine ⟨.none rfl, rfl, rfl, fun o ho hop hsub => ?_⟩
    obtain ⟨run, -, -, hsome⟩ := hpoints o ho hop hsub
    rw [hnone] at hsome
    cases hsome
  · next run hsome =>
    obtain ⟨r, -, hget⟩ := Option.bind_eq_some_iff.mp hsome
    obtain ⟨hrun, rfl⟩ := (Table.find_eq_some_iff h.engine.uniqueRun).mp hget
    split at hok
    · next hpending =>
      obtain ⟨st₁, hcancel, hret⟩ := bind_eq_ok_iff.mp hok
      obtain ⟨rfl, rfl⟩ := Prod.mk.inj (pure_eq_ok_iff.mp hret)
      rw [cancelApprovalRun_of_mem h.engine.uniqueRun hrun, if_pos hpending] at hcancel
      obtain ⟨hdb, hsubjects⟩ := cancelApprovalRunWrites_eq_ok hcancel
      have houtline : st₁.db.outline = setOutline run.outline.id .cancelled st.db.outline := by
        rw [hdb]
        exact outline_setRunStatus run.id .cancelled
      refine ⟨.one run.outline .cancelled (outline_mem hrun) hpending (by simp) houtline,
        hsubjects, rfl, fun o ho hop hsub => ?_⟩
      obtain ⟨ho, hne⟩ := pending_of_mem_setOutline (by simp) (houtline ▸ ho) hop
      obtain ⟨run', -, rfl, hsome'⟩ := hpoints o ho hop hsub
      rw [hsome] at hsome'
      exact hne (by rw [Option.some.inj hsome'])
    · next hdecided =>
      obtain ⟨rfl, rfl⟩ := Prod.mk.inj (Except.ok.inj hok)
      refine ⟨.none rfl, rfl, rfl, fun o ho hop hsub => ?_⟩
      obtain ⟨run', -, rfl, hsome'⟩ := hpoints o ho hop hsub
      rw [hsome] at hsome'
      rw [← Option.some.inj hsome'] at hop
      exact hdecided hop

theorem change_calculatePayRun (h : Ledger st) (inputs : CalculationInputs) (id : PayrollRunId) :
    Change st (calculatePayRun inputs id st) (.calculatePayRun inputs id) := by
  unfold calculatePayRun
  split
  · exact .refused
  · next p hread =>
    obtain ⟨hp, rfl⟩ := readPayRun_eq_ok hread
    split
    · exact .refused
    · next hcheck =>
      unfold calculateTransactions
      split
      · exact .refused
      · next payRun st₁ hcancel =>
        obtain ⟨hcloses, hsubjects, hrow, hnone⟩ := closes_cancelPendingApproval h hp hcancel
        refine settle_induction (P := fun st₂ : State => Change st st₂ _)
          (.quiet hcloses hsubjects) (fun st₂ hok => ?_)
        obtain ⟨t', hcalc, hret⟩ := bind_eq_ok_iff.mp hok
        obtain rfl := pure_eq_ok_iff.mp hret
        rw [hsubjects, hrow] at hcalc
        exact .calculated inputs p payRun.approvalRun hp (checkCalculable_eq_ok hcheck) hcloses
          hnone hcalc

theorem engine_cancelPendingApproval (h : st.db.Inv) {now : Time} {p payRun : PayrollRun}
    (hok : cancelPendingApproval now p st = .ok (payRun, st')) : st'.db.Inv := by
  unfold cancelPendingApproval at hok
  split at hok
  · obtain ⟨-, rfl⟩ := Prod.mk.inj (Except.ok.inj hok)
    exact h
  · split at hok
    · obtain ⟨st₁, hcancel, hret⟩ := bind_eq_ok_iff.mp hok
      obtain ⟨-, rfl⟩ := Prod.mk.inj (pure_eq_ok_iff.mp hret)
      exact (kept_cancelApprovalRun h hcancel).1
    · obtain ⟨-, rfl⟩ := Prod.mk.inj (Except.ok.inj hok)
      exact h

/-- **Every request is one of the changes.** -/
theorem change_step (h : Ledger st) (op : Op) : Change st (step st op) op := by
  cases op with
  | createPayrollRun organisation periodYear periodMonth runType useAttendanceInputs =>
    exact .created _ _ _ _ _ rfl rfl
  | createArrears row => exact .arrears row rfl rfl
  | calculatePayRun inputs payRun => exact change_calculatePayRun h inputs payRun
  | submitPayRunForApproval submission payRun =>
    refine settle_induction (P := fun st' : State => Change st st' _) .refused (fun st' hok => ?_)
    obtain ⟨p, hread, hok⟩ := bind_eq_ok_iff.mp hok
    obtain ⟨_, hcheck, hsubmit⟩ := bind_eq_ok_iff.mp hok
    obtain ⟨hp, rfl⟩ := readPayRun_eq_ok hread
    obtain ⟨workflow, r, hcreate, hsubjects⟩ := submitWrites_eq_ok hsubmit
    obtain ⟨hr, houtline⟩ := outline_createApprovalRun hcreate
    exact .submitted submission p r hp (checkSubmittable_eq_ok hcheck)
      (fun o ho => hr ▸ (freshOutline h.engine.toKeys ho).ne) houtline hsubjects
  | approveAction user dir action actor comment =>
    refine settle_induction (P := fun st' : State => Change st st' _) .refused (fun st' hok => ?_)
    exact change_of_outcome (outcome_approveAction h.engine hok)
  | rejectAction dir action actor comment =>
    refine settle_induction (P := fun st' : State => Change st st' _) .refused (fun st' hok => ?_)
    exact change_of_outcome (outcome_rejectAction h.engine hok)
  | processPendingActionEscalations user dir =>
    exact .quiet (.none outline_processPendingActionEscalations) rfl
  | finalizePayRun payRun skipApproval =>
    refine settle_induction (P := fun st' : State => Change st st' _) .refused (fun st' hok => ?_)
    obtain ⟨p, hread, hok⟩ := bind_eq_ok_iff.mp hok
    obtain ⟨_, hcheck, hok⟩ := bind_eq_ok_iff.mp hok
    obtain ⟨t', hfinalize, hret⟩ := bind_eq_ok_iff.mp hok
    obtain rfl := pure_eq_ok_iff.mp hret
    obtain ⟨hp, rfl⟩ := readPayRun_eq_ok hread
    exact .finalized p skipApproval hp (checkFinalizable_eq_ok hcheck) rfl hfinalize

/-- The engine keeps its own invariant. -/
theorem engine_step (h : st.db.Inv) (op : Op) : (step st op).db.Inv := by
  cases op with
  | createPayrollRun organisation periodYear periodMonth runType useAttendanceInputs => exact h
  | createArrears row => exact h
  | calculatePayRun inputs payRun =>
    show (calculatePayRun inputs payRun st).db.Inv
    unfold calculatePayRun
    split
    · exact h
    · split
      · exact h
      · unfold calculateTransactions
        split
        · exact h
        · next hcancel =>
          have hinv := engine_cancelPendingApproval h hcancel
          refine settle_induction (P := fun st' : State => st'.db.Inv) hinv (fun st' hok => ?_)
          obtain ⟨t', -, hret⟩ := bind_eq_ok_iff.mp hok
          obtain rfl := pure_eq_ok_iff.mp hret
          exact hinv
  | submitPayRunForApproval submission payRun =>
    refine settle_induction (P := fun st' : State => st'.db.Inv) h (fun st' hok => ?_)
    obtain ⟨p, -, hok⟩ := bind_eq_ok_iff.mp hok
    obtain ⟨_, -, hsubmit⟩ := bind_eq_ok_iff.mp hok
    obtain ⟨workflow, r, hcreate, -⟩ := submitWrites_eq_ok hsubmit
    exact (kept_createApprovalRun h hcreate).1
  | approveAction user dir action actor comment =>
    exact settle_induction (P := fun st' : State => st'.db.Inv) h
      (fun st' hok => (kept_approveAction h hok).1)
  | rejectAction dir action actor comment =>
    exact settle_induction (P := fun st' : State => st'.db.Inv) h
      (fun st' hok => (kept_rejectAction h hok).1)
  | processPendingActionEscalations user dir =>
    exact (kept_processPendingActionEscalations h).1
  | finalizePayRun payRun skipApproval =>
    refine settle_induction (P := fun st' : State => st'.db.Inv) h (fun st' hok => ?_)
    obtain ⟨p, -, hok⟩ := bind_eq_ok_iff.mp hok
    obtain ⟨_, -, hok⟩ := bind_eq_ok_iff.mp hok
    obtain ⟨t', -, hret⟩ := bind_eq_ok_iff.mp hok
    obtain rfl := pure_eq_ok_iff.mp hret
    exact h

/-! ## The invariant is kept -/

theorem Ledger.linked (h : Ledger st) : Linked st.subjects where
  keys := h.keys
  owned s hs := by
    obtain ⟨p, -, -, i, hi, hirun, rfl⟩ := h.issued s hs
    exact ⟨i, hi, rfl, hirun⟩

/-- The run of a row that is not finalized is another than a finalized one. -/
theorem Ledger.ne_of_finalized (h : Ledger st) {p : PayrollRun} (hp : p ∈ st.subjects.payRuns)
    (hopen : p.status ≠ .finalized) : ∀ id, Finalized st.subjects id → id ≠ p.id := by
  rintro id ⟨q, hq, hid, hfinal⟩ rfl
  rw [h.keys.run_eq hq hp hid] at hfinal
  exact hopen hfinal

/-- The runs that a pending approval is about wait for it. -/
theorem Ledger.ne_of_pending (h : Ledger st) {run : RunOutline} (hrun : run ∈ st.db.outline)
    (hpending : run.status = .pending) {id : PayrollRunId}
    (hsubject : run.subject = payRunSubject id) : ∀ id', Finalized st.subjects id' → id' ≠ id := by
  rintro id' ⟨p, hp, rfl, hfinal⟩ rfl
  rw [(h.pending run hrun hpending p hp hsubject).1] at hfinal
  cases hfinal

/-- A payslip that is out keeps its run and its item while another run changes. -/
theorem Ledger.issued_of_onlyRun (h : Ledger st) {id : PayrollRunId} {t' : PayrollTables}
    (hne : ∀ id', Finalized st.subjects id' → id' ≠ id)
    (honly : OnlyRun id st.subjects t') {s : Payslip} (hs : s ∈ st.subjects.payslips) :
    ∃ p ∈ t'.payRuns, p.status = .finalized
      ∧ ∃ i ∈ t'.items, i.payRun = p.id ∧ s = i.payslip p := by
  obtain ⟨p, hp, hfinal, i, hi, hirun, hsi⟩ := h.issued s hs
  have hother := hne p.id ⟨p, hp, rfl, hfinal⟩
  have hitem : i ∈ t'.runItems p.id := by
    rw [honly.items p.id hother]
    exact mem_runItems.mpr ⟨hi, hirun⟩
  exact ⟨p, (honly.payRuns p hother).mpr hp, hfinal, i, (mem_runItems.mp hitem).1, hirun, hsi⟩

theorem Frozen.refl {id : PayrollRunId} {t : PayrollTables} (h : Finalized t id) : Frozen id t t :=
  ⟨h, rfl, fun _ => Iff.rfl⟩

theorem Frozen.trans {id : PayrollRunId} {t t' t'' : PayrollTables} (h : Frozen id t t')
    (h' : Frozen id t' t'') : Frozen id t t'' :=
  ⟨h'.finalized, h'.items.trans h.items, fun s => (h'.payslips s).trans (h.payslips s)⟩

/-- A change of another run. -/
theorem OnlyRun.frozen {id id' : PayrollRunId} {t t' : PayrollTables} (h : OnlyRun id t t')
    (hne : id' ≠ id) (hf : Finalized t id') : Frozen id' t t' where
  finalized := by
    obtain ⟨p, hp, rfl, hfinal⟩ := hf
    exact ⟨p, (h.payRuns p hne).mpr hp, rfl, hfinal⟩
  items := h.items id' hne
  payslips s := by
    rw [mem_runPayslips, mem_runPayslips]
    exact and_congr_left (fun hs => h.payslips s (hs ▸ hne))

theorem onlyRun_of_eq_updatePayRun {t t' : PayrollTables} {id : PayrollRunId}
    {f : PayrollRun → PayrollRun} (h : t' = t.updatePayRun id f) (hf : ∀ p, (f p).id = p.id) :
    OnlyRun id t t' :=
  h ▸ (OnlyRun.refl id t).updatePayRun hf

/-- **A finalized run stays as it is.** -/
theorem frozen_of_change (h : Ledger st) (hc : Change st st' op) {id : PayrollRunId}
    (hf : Finalized st.subjects id) : Frozen id st.subjects st'.subjects := by
  cases hc with
  | quiet hcloses hsubjects =>
    rw [hsubjects]
    exact .refl hf
  | decided run decision id' hrun hpending hsubject houtline hsubjects =>
    exact (onlyRun_of_eq_updatePayRun hsubjects (fun _ => rfl)).frozen
      (h.ne_of_pending hrun hpending hsubject id hf) hf
  | created organisation periodYear periodMonth runType useAttendanceInputs hdb hsubjects =>
    rw [hsubjects]
    obtain ⟨p, hp, hrest⟩ := hf
    exact ⟨⟨p, List.mem_append_left _ hp, hrest⟩, rfl, fun _ => Iff.rfl⟩
  | arrears row hdb hsubjects =>
    rw [hsubjects]
    exact ⟨hf, rfl, fun _ => Iff.rfl⟩
  | calculated inputs p approvalRun hp hopen hcloses hnone hok =>
    exact (onlyRun_calculateWrites h.linked hok).frozen (h.ne_of_finalized hp hopen.2 id hf) hf
  | submitted submission p r hp hcalculated hfresh houtline hsubjects =>
    exact (onlyRun_of_eq_updatePayRun hsubjects (fun _ => rfl)).frozen
      (h.ne_of_finalized hp (by simp [hcalculated]) id hf) hf
  | finalized p skipApproval hp hstatus hdb hok =>
    refine (onlyRun_finalizeWrites h.linked hok).frozen (h.ne_of_finalized hp ?_ id hf) hf
    rcases hstatus with hstatus | ⟨hstatus, -⟩ <;> simp [hstatus]

/-- A run that is not finalized is rewritten to another status: no other is
finalized than before. -/
theorem finalized_updatePayRun {t : PayrollTables} {id : PayrollRunId}
    {f : PayrollRun → PayrollRun} (hopen : ¬ Finalized t id)
    (hf : ∀ p, (f p).status ≠ .finalized) (id' : PayrollRunId) :
    Finalized (t.updatePayRun id f) id' ↔ Finalized t id' := by
  constructor
  · rintro ⟨p, hp, hid, hfinal⟩
    rcases mem_updatePayRun.mp hp with ⟨p₀, -, -, rfl⟩ | ⟨hp, -⟩
    · exact absurd hfinal (hf p₀)
    · exact ⟨p, hp, hid, hfinal⟩
  · rintro ⟨p, hp, hid, hfinal⟩
    exact ⟨p, mem_updatePayRun.mpr (Or.inr ⟨hp, fun hother => hopen ⟨p, hp, hother, hfinal⟩⟩),
      hid, hfinal⟩

/-- A finalization makes its run finalized, and no other. -/
theorem finalized_finalizeWrites {t t' : PayrollTables} (hkeys : t.Keys) {p : PayrollRun}
    (hp : p ∈ t.payRuns) (hopen : ¬ Finalized t p.id) (hok : finalizeWrites p t = .ok t')
    (id : PayrollRunId) : Finalized t' id ↔ Finalized t id ∨ id = p.id := by
  obtain ⟨t₁, hissues, rfl⟩ := finalizeWrites_eq_ok hkeys hok
  constructor
  · rintro ⟨q, hq, rfl, hfinal⟩
    rcases mem_updatePayRun.mp hq with ⟨q₀, -, hid, rfl⟩ | ⟨hq, -⟩
    · exact Or.inr hid
    · exact Or.inl ⟨q, hissues.payRuns ▸ hq, rfl, hfinal⟩
  · rintro (⟨q, hq, rfl, hfinal⟩ | rfl)
    · have hother : q.id ≠ p.id := fun hid => hopen ⟨q, hq, hid, hfinal⟩
      exact ⟨q, mem_updatePayRun.mpr (Or.inr ⟨hissues.payRuns.symm ▸ hq, hother⟩), rfl, hfinal⟩
    · exact ⟨_, mem_updatePayRun.mpr (Or.inl ⟨p, hissues.payRuns.symm ▸ hp, rfl, rfl⟩), rfl, rfl⟩

/-- What the outlines say of the pay runs when no approval is created. -/
theorem Ledger.known_of_closes (h : Ledger st) (hcloses : Closes st.db.outline st'.db.outline) :
    ∀ o ∈ st'.db.outline, ∀ id, o.subject = payRunSubject id → id < st.subjects.nextId := by
  intro o ho id hsubject
  obtain ⟨o₀, ho₀, -, hsame⟩ := hcloses.exists_of_mem ho
  exact h.known o₀ ho₀ id (hsame.trans hsubject)

/-- **The keys of the rows** stay unique, and below the next one. -/
theorem keys_of_change (h : Ledger st) (hc : Change st st' op) : st'.subjects.Keys := by
  cases hc with
  | quiet hcloses hsubjects =>
    rw [hsubjects]
    exact h.keys
  | decided run decision id hrun hpending hsubject houtline hsubjects =>
    rw [hsubjects]
    exact h.keys.updatePayRun (fun _ => rfl)
  | created organisation periodYear periodMonth runType useAttendanceInputs hdb hsubjects =>
    rw [hsubjects]
    refine ⟨h.keys.uniqueRun.append_one (fun p hp => (h.keys.freshRun p hp).ne),
      h.keys.uniqueItem, fun p hp => ?_, fun i hi => Nat.lt_succ_of_lt (h.keys.freshItem i hi)⟩
    rcases List.mem_append.mp hp with hp | hp
    · exact Nat.lt_succ_of_lt (h.keys.freshRun p hp)
    · rw [List.mem_singleton.mp hp]
      exact Nat.lt_succ_self _
  | arrears row hdb hsubjects =>
    rw [hsubjects]
    exact ⟨h.keys.uniqueRun, h.keys.uniqueItem, h.keys.freshRun, h.keys.freshItem⟩
  | calculated inputs p approvalRun hp hopen hcloses hnone hok =>
    obtain ⟨t₁, hadds, hsubjects⟩ := calculateWrites_eq_ok hok
    rw [hsubjects]
    exact (hadds.keys h.keys.clearRun).updatePayRun (fun _ => rfl)
  | submitted submission p r hp hcalculated hfresh houtline hsubjects =>
    rw [hsubjects]
    exact h.keys.updatePayRun (fun _ => rfl)
  | finalized p skipApproval hp hstatus hdb hok =>
    obtain ⟨t₁, hissues, hsubjects⟩ := finalizeWrites_eq_ok h.keys hok
    rw [hsubjects]
    exact (hissues.keys h.keys).updatePayRun (fun _ => rfl)

/-- **An approval is of a run that was created.** -/
theorem known_of_change (h : Ledger st) (hc : Change st st' op) :
    ∀ o ∈ st'.db.outline, ∀ id, o.subject = payRunSubject id → id < st'.subjects.nextId := by
  cases hc with
  | quiet hcloses hsubjects =>
    rw [hsubjects]
    exact h.known_of_closes hcloses
  | decided run decision id hrun hpending hsubject houtline hsubjects =>
    rw [hsubjects]
    exact h.known_of_closes (.one run _ hrun hpending decision.runStatus_ne_pending houtline)
  | created organisation periodYear periodMonth runType useAttendanceInputs hdb hsubjects =>
    rw [hsubjects]
    exact fun o ho id hid => Nat.lt_succ_of_lt (h.known o (hdb ▸ ho) id hid)
  | arrears row hdb hsubjects =>
    rw [hsubjects]
    exact hdb ▸ h.known
  | calculated inputs p approvalRun hp hopen hcloses hnone hok =>
    obtain ⟨t₁, hadds, hsubjects⟩ := calculateWrites_eq_ok hok
    rw [hsubjects]
    exact fun o ho id hsub => (h.known_of_closes hcloses o ho id hsub).trans_le hadds.nextId
  | submitted submission p r hp hcalculated hfresh houtline hsubjects =>
    intro o ho id hsub
    rw [hsubjects]
    rw [houtline] at ho
    rcases List.mem_append.mp ho with ho | ho
    · exact h.known o ho id hsub
    · rw [List.mem_singleton.mp ho] at hsub
      rw [← show p.id = id from congrArg ContentObject.objectId hsub]
      exact h.keys.freshRun p hp
  | finalized p skipApproval hp hstatus hdb hok =>
    obtain ⟨t₁, hissues, hsubjects⟩ := finalizeWrites_eq_ok h.keys hok
    rw [hdb, hsubjects]
    show ∀ o ∈ st.db.outline, ∀ id, _ → id < t₁.nextId
    rw [hissues.nextId]
    exact h.known

/-- **A run under a pending approval** waits for it, and for no other. -/
theorem pending_of_change (h : Ledger st) (hc : Change st st' op) :
    ∀ o ∈ st'.db.outline, o.status = .pending → ∀ p ∈ st'.subjects.payRuns,
      o.subject = payRunSubject p.id →
        p.status = .approvalPending ∧ p.approvalRun = some o.id := by
  intro o ho hpend q hq hsub
  cases hc with
  | quiet hcloses hsubjects =>
    rw [hsubjects] at hq
    exact h.pending o (hcloses.pending ho hpend) hpend q hq hsub
  | decided run decision id hrun hpending hsubject houtline hsubjects =>
    obtain ⟨ho, hoid⟩ :=
      pending_of_mem_setOutline decision.runStatus_ne_pending (houtline ▸ ho) hpend
    rw [hsubjects, mem_updatePayRun] at hq
    rcases hq with ⟨p, hp, rfl, rfl⟩ | ⟨hq, -⟩
    · -- the run waits for one approval only
      have hwaits := (h.pending o ho hpend p hp hsub).2
      rw [(h.pending run hrun hpending p hp hsubject).2] at hwaits
      exact absurd (Option.some.inj hwaits).symm hoid
    · exact h.pending o ho hpend q hq hsub
  | created organisation periodYear periodMonth runType useAttendanceInputs hdb hsubjects =>
    rw [hsubjects] at hq
    rw [hdb] at ho
    rcases List.mem_append.mp hq with hq | hq
    · exact h.pending o ho hpend q hq hsub
    · rw [List.mem_singleton.mp hq] at hsub
      exact absurd (h.known o ho _ hsub) (lt_irrefl _)
  | arrears row hdb hsubjects =>
    rw [hsubjects] at hq
    exact h.pending o (hdb ▸ ho) hpend q hq hsub
  | calculated inputs p approvalRun hp hopen hcloses hnone hok =>
    have hother : q.id ≠ p.id := fun hqp => hnone o ho hpend (hqp ▸ hsub)
    exact h.pending o (hcloses.pending ho hpend) hpend q
      (((onlyRun_calculateWrites h.linked hok).payRuns q hother).mp hq) hsub
  | submitted submission p r hp hcalculated hfresh houtline hsubjects =>
    rw [hsubjects, mem_updatePayRun] at hq
    rw [houtline] at ho
    rcases List.mem_append.mp ho with ho | ho
    · -- an older approval is not of the run submitted, which was only calculated
      have hother : q.id ≠ p.id := by
        intro hqp
        have hwaits := (h.pending o ho hpend p hp (hqp ▸ hsub)).1
        rw [hcalculated] at hwaits
        cases hwaits
      rcases hq with ⟨q₀, -, hq₀, rfl⟩ | ⟨hq, -⟩
      · exact absurd hq₀ hother
      · exact h.pending o ho hpend q hq hsub
    · rw [List.mem_singleton.mp ho] at hsub ⊢
      have hqp : p.id = q.id := congrArg ContentObject.objectId hsub
      rcases hq with ⟨q₀, -, -, rfl⟩ | ⟨-, hother⟩
      · exact ⟨rfl, rfl⟩
      · exact absurd hqp.symm hother
  | finalized p skipApproval hp hstatus hdb hok =>
    rw [hdb] at ho
    have hother : q.id ≠ p.id := by
      intro hqp
      have hwaits := (h.pending o ho hpend p hp (hqp ▸ hsub)).1
      rcases hstatus with hstatus | ⟨hstatus, -⟩ <;> simp [hstatus] at hwaits
    exact h.pending o ho hpend q
      (((onlyRun_finalizeWrites h.linked hok).payRuns q hother).mp hq) hsub

/-- **A payslip is of an item of a finalized run.** -/
theorem issued_of_change (h : Ledger st) (hc : Change st st' op) :
    ∀ s ∈ st'.subjects.payslips, ∃ p ∈ st'.subjects.payRuns, p.status = .finalized
      ∧ ∃ i ∈ st'.subjects.items, i.payRun = p.id ∧ s = i.payslip p := by
  intro s hs
  cases hc with
  | quiet hcloses hsubjects =>
    rw [hsubjects] at hs ⊢
    exact h.issued s hs
  | decided run decision id hrun hpending hsubject houtline hsubjects =>
    have honly : OnlyRun id st.subjects st'.subjects :=
      onlyRun_of_eq_updatePayRun hsubjects (fun _ => rfl)
    rw [hsubjects] at hs
    exact h.issued_of_onlyRun (h.ne_of_pending hrun hpending hsubject) honly hs
  | created organisation periodYear periodMonth runType useAttendanceInputs hdb hsubjects =>
    rw [hsubjects] at hs ⊢
    obtain ⟨p, hp, hrest⟩ := h.issued s hs
    exact ⟨p, List.mem_append_left _ hp, hrest⟩
  | arrears row hdb hsubjects =>
    rw [hsubjects] at hs ⊢
    exact h.issued s hs
  | calculated inputs p approvalRun hp hopen hcloses hnone hok =>
    obtain ⟨t₁, hadds, hsubjects⟩ := calculateWrites_eq_ok hok
    have honly := onlyRun_calculateWrites h.linked hok
    rw [hsubjects] at hs
    have hold : s ∈ (CalculationInputs.clearRun _ st.subjects).payslips := hadds.payslips ▸ hs
    exact h.issued_of_onlyRun (h.ne_of_finalized hp hopen.2) honly
      (mem_clearRun_payslips.mp hold).1
  | submitted submission p r hp hcalculated hfresh houtline hsubjects =>
    have honly : OnlyRun p.id st.subjects st'.subjects :=
      onlyRun_of_eq_updatePayRun hsubjects (fun _ => rfl)
    rw [hsubjects] at hs
    exact h.issued_of_onlyRun (h.ne_of_finalized hp (by simp [hcalculated])) honly hs
  | finalized p skipApproval hp hstatus hdb hok =>
    have honly := onlyRun_finalizeWrites h.linked hok
    have hopen : p.status ≠ .finalized := by
      rcases hstatus with hstatus | ⟨hstatus, -⟩ <;> simp [hstatus]
    obtain ⟨t₁, hissues, hsubjects⟩ := finalizeWrites_eq_ok h.keys hok
    rw [hsubjects] at hs honly ⊢
    rcases (hissues.payslips s).mp hs with ⟨hs, -⟩ | ⟨i, hi, rfl⟩
    · exact h.issued_of_onlyRun (h.ne_of_finalized hp hopen) honly hs
    · obtain ⟨himem, hirun, -⟩ := mem_readyItems.mp hi
      refine ⟨{ p with status := .finalized }, ?_, rfl, i, ?_, hirun, rfl⟩
      · rw [mem_updatePayRun, hissues.payRuns]
        exact Or.inl ⟨p, hp, rfl, rfl⟩
      · rw [← hissues.items] at himem
        exact himem

/-- **The invariant is kept** by every change. -/
theorem ledger_of_change (h : Ledger st) (hinv : st'.db.Inv) (hc : Change st st' op) :
    Ledger st' where
  engine := hinv
  keys := keys_of_change h hc
  known := known_of_change h hc
  pending := pending_of_change h hc
  issued := issued_of_change h hc

theorem ledger_step (h : Ledger st) (op : Op) : Ledger (step st op) :=
  ledger_of_change h (engine_step h.engine op) (change_step h op)

theorem ledger_initial (stages : StageTable) (expenseClaims : List ExpenseClaim) :
    Ledger (EngineState.initial stages (.initial expenseClaims)) where
  engine := inv_initial _ _
  keys := ⟨List.nodup_nil, List.nodup_nil, fun _ hp => absurd hp List.not_mem_nil,
    fun _ hi => absurd hi List.not_mem_nil⟩
  known _ ho := absurd ho List.not_mem_nil
  pending _ ho := absurd ho List.not_mem_nil
  issued _ hs := absurd hs List.not_mem_nil

/-! ## Items and payslips across a change -/

/-- Every item is of a run that was created. -/
def Owned (t : PayrollTables) : Prop := ∀ i ∈ t.items, i.payRun < t.nextId

theorem owned_of_change (h : Ledger st) (howned : Owned st.subjects) (hc : Change st st' op) :
    Owned st'.subjects := by
  intro i hi
  cases hc with
  | quiet hcloses hsubjects =>
    rw [hsubjects] at hi ⊢
    exact howned i hi
  | decided run decision id hrun hpending hsubject houtline hsubjects =>
    rw [hsubjects] at hi ⊢
    exact howned i hi
  | created organisation periodYear periodMonth runType useAttendanceInputs hdb hsubjects =>
    rw [hsubjects] at hi ⊢
    exact Nat.lt_succ_of_lt (howned i hi)
  | arrears row hdb hsubjects =>
    rw [hsubjects] at hi ⊢
    exact howned i hi
  | calculated inputs p approvalRun hp hopen hcloses hnone hok =>
    obtain ⟨t₁, hadds, hsubjects⟩ := calculateWrites_eq_ok hok
    rw [hsubjects] at hi ⊢
    refine lt_of_lt_of_le ?_ (show st.subjects.nextId ≤ t₁.nextId from hadds.nextId)
    obtain ⟨new, hitems, hnew⟩ := hadds.items
    rcases List.mem_append.mp (hitems ▸ hi) with hi | hi
    · exact howned i (List.mem_of_mem_filter hi)
    · rw [(hnew i hi).1]
      exact h.keys.freshRun p hp
  | submitted submission p r hp hcalculated hfresh houtline hsubjects =>
    rw [hsubjects] at hi ⊢
    exact howned i hi
  | finalized p skipApproval hp hstatus hdb hok =>
    obtain ⟨t₁, hissues, hsubjects⟩ := finalizeWrites_eq_ok h.keys hok
    rw [hsubjects] at hi ⊢
    show i.payRun < t₁.nextId
    rw [hissues.nextId]
    exact howned i (hissues.items ▸ hi)

/-- **An item that is new** was calculated. -/
theorem item_of_change (h : Ledger st) (hc : Change st st' op) {i : PayrollRunItem}
    (hi : i ∈ st'.subjects.items) :
    i ∈ st.subjects.items
    ∨ ∃ inputs, ∃ p ∈ st.subjects.payRuns, ∃ approvalRun, op = .calculatePayRun inputs p.id
      ∧ CalculationInputs.calculateWrites inputs { p with approvalRun := approvalRun } st.subjects
        = .ok st'.subjects
      ∧ i ∈ st'.subjects.runItems p.id := by
  cases hc with
  | quiet hcloses hsubjects => exact Or.inl (hsubjects ▸ hi)
  | decided run decision id hrun hpending hsubject houtline hsubjects =>
    rw [hsubjects] at hi
    exact Or.inl hi
  | created organisation periodYear periodMonth runType useAttendanceInputs hdb hsubjects =>
    rw [hsubjects] at hi
    exact Or.inl hi
  | arrears row hdb hsubjects =>
    rw [hsubjects] at hi
    exact Or.inl hi
  | calculated inputs p approvalRun hp hopen hcloses hnone hok =>
    by_cases hrun : i.payRun = p.id
    · exact Or.inr ⟨inputs, p, hp, approvalRun, rfl, hok, mem_runItems.mpr ⟨hi, hrun⟩⟩
    · have hsame := (onlyRun_calculateWrites h.linked hok).items i.payRun hrun
      have hmem := hsame ▸ mem_runItems.mpr ⟨hi, rfl⟩
      exact Or.inl (mem_runItems.mp hmem).1
  | submitted submission p r hp hcalculated hfresh houtline hsubjects =>
    rw [hsubjects] at hi
    exact Or.inl hi
  | finalized p skipApproval hp hstatus hdb hok =>
    obtain ⟨t₁, hissues, hsubjects⟩ := finalizeWrites_eq_ok h.keys hok
    rw [hsubjects] at hi
    exact Or.inl (hissues.items ▸ hi)

/-- What a pay run keeps from its creation on. -/
def PayrollRun.SamePeriod (p q : PayrollRun) : Prop :=
  p.id = q.id ∧ p.periodYear = q.periodYear ∧ p.periodMonth = q.periodMonth

/-- **A pay run that is new** has a new identifier; the others keep their
periods. -/
theorem payRun_of_change (h : Ledger st) (hc : Change st st' op) {q : PayrollRun}
    (hq : q ∈ st'.subjects.payRuns) :
    (∃ p ∈ st.subjects.payRuns, p.SamePeriod q) ∨ q.id = st.subjects.nextId := by
  have hupdated : ∀ {t : PayrollTables} {id : PayrollRunId} {f : PayrollRun → PayrollRun},
      q ∈ (t.updatePayRun id f).payRuns → t.payRuns = st.subjects.payRuns →
      (∀ p : PayrollRun, p.SamePeriod (f p)) → ∃ p ∈ st.subjects.payRuns, p.SamePeriod q := by
    intro t id f hq ht hf
    rw [mem_updatePayRun, ht] at hq
    rcases hq with ⟨p, hp, -, rfl⟩ | ⟨hq, -⟩
    · exact ⟨p, hp, hf p⟩
    · exact ⟨q, hq, rfl, rfl, rfl⟩
  cases hc with
  | quiet hcloses hsubjects => exact Or.inl ⟨q, hsubjects ▸ hq, rfl, rfl, rfl⟩
  | decided run decision id hrun hpending hsubject houtline hsubjects =>
    rw [hsubjects] at hq
    exact Or.inl (hupdated hq rfl (fun _ => ⟨rfl, rfl, rfl⟩))
  | created organisation periodYear periodMonth runType useAttendanceInputs hdb hsubjects =>
    rw [hsubjects] at hq
    rcases List.mem_append.mp hq with hq | hq
    · exact Or.inl ⟨q, hq, rfl, rfl, rfl⟩
    · exact Or.inr (congrArg PayrollRun.id (List.mem_singleton.mp hq))
  | arrears row hdb hsubjects =>
    rw [hsubjects] at hq
    exact Or.inl ⟨q, hq, rfl, rfl, rfl⟩
  | calculated inputs p approvalRun hp hopen hcloses hnone hok =>
    obtain ⟨t₁, hadds, hsubjects⟩ := calculateWrites_eq_ok hok
    rw [hsubjects] at hq
    exact Or.inl (hupdated hq hadds.payRuns (fun _ => ⟨rfl, rfl, rfl⟩))
  | submitted submission p r hp hcalculated hfresh houtline hsubjects =>
    rw [hsubjects] at hq
    exact Or.inl (hupdated hq rfl (fun _ => ⟨rfl, rfl, rfl⟩))
  | finalized p skipApproval hp hstatus hdb hok =>
    obtain ⟨t₁, hissues, hsubjects⟩ := finalizeWrites_eq_ok h.keys hok
    rw [hsubjects] at hq
    exact Or.inl (hupdated hq hissues.payRuns (fun _ => ⟨rfl, rfl, rfl⟩))

/-- **A payslip that is out stays.** -/
theorem payslip_mem_of_change (h : Ledger st) (hc : Change st st' op) {s : Payslip}
    (hs : s ∈ st.subjects.payslips) : s ∈ st'.subjects.payslips := by
  obtain ⟨p, hp, hfinal, i, -, -, rfl⟩ := h.issued s hs
  have hfrozen := frozen_of_change h hc ⟨p, hp, rfl, hfinal⟩
  exact (mem_runPayslips.mp ((hfrozen.payslips _).mpr (mem_runPayslips.mpr ⟨hs, rfl⟩))).1

/-- **A payslip that is new** is the one of a ready item of the run finalized. -/
theorem payslip_new_of_change (h : Ledger st) (hc : Change st st' op) {s : Payslip}
    (hs : s ∈ st'.subjects.payslips) (hnew : s ∉ st.subjects.payslips) :
    ∃ p ∈ st.subjects.payRuns, p.status ≠ .finalized
      ∧ (∃ skipApproval, op = .finalizePayRun p.id skipApproval)
      ∧ finalizeWrites p st.subjects = .ok st'.subjects
      ∧ ∃ i ∈ st.subjects.readyItems p.id, s = i.payslip p := by
  cases hc with
  | quiet hcloses hsubjects => exact absurd (hsubjects ▸ hs) hnew
  | decided run decision id hrun hpending hsubject houtline hsubjects =>
    rw [hsubjects] at hs
    exact absurd hs hnew
  | created organisation periodYear periodMonth runType useAttendanceInputs hdb hsubjects =>
    rw [hsubjects] at hs
    exact absurd hs hnew
  | arrears row hdb hsubjects =>
    rw [hsubjects] at hs
    exact absurd hs hnew
  | calculated inputs p approvalRun hp hopen hcloses hnone hok =>
    obtain ⟨t₁, hadds, hsubjects⟩ := calculateWrites_eq_ok hok
    rw [hsubjects] at hs
    have hold : s ∈ (CalculationInputs.clearRun _ st.subjects).payslips := hadds.payslips ▸ hs
    exact absurd (mem_clearRun_payslips.mp hold).1 hnew
  | submitted submission p r hp hcalculated hfresh houtline hsubjects =>
    rw [hsubjects] at hs
    exact absurd hs hnew
  | finalized p skipApproval hp hstatus hdb hok =>
    obtain ⟨t₁, hissues, hsubjects⟩ := finalizeWrites_eq_ok h.keys hok
    rw [hsubjects] at hs
    rcases (hissues.payslips s).mp hs with ⟨hs, -⟩ | ⟨i, hi, rfl⟩
    · exact absurd hs hnew
    · refine ⟨p, hp, ?_, ⟨skipApproval, rfl⟩, hok, i, hi, rfl⟩
      rcases hstatus with hstatus | ⟨hstatus, -⟩ <;> simp [hstatus]

end

end Payroll
