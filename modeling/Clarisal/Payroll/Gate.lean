import Clarisal.Approvals.Quorum
import Clarisal.Payroll.Ledger

/-!
# The approval gate of pay runs

A pay run is finalized only through an approval, and what was approved is what
is paid. The invariant is `Gate`: a pending approval belongs to a run that
waits for it, an approved or finalized run points to an approved approval, and
payslips exist for finalized runs only, each agreeing with its item.

`Passes` collects what every transaction keeps: the invariant, the items of a
run from its submission on, and everything about a finalized run. The theorem
is `finalized_gate`.
-/

open Approvals

namespace Payroll

open Transaction PayrollTables

/-- **The invariant of the gate.** -/
structure Gate (st : State) : Prop where
  engine : st.db.Inv
  keys : st.subjects.Keys
  known : ∀ o ∈ st.db.outline, ∀ id, o.subject = payRunSubject id → id < st.subjects.nextId
  pending : ∀ o ∈ st.db.outline, o.status = .pending → ∀ p ∈ st.subjects.payRuns,
    o.subject = payRunSubject p.id → p.status = .approvalPending ∧ p.approvalRun = some o.id
  approved : ∀ p ∈ st.subjects.payRuns, p.status = .approved ∨ p.status = .finalized →
    ∃ o ∈ st.db.outline, p.approvalRun = some o.id ∧ o.status = .approved
  issued : ∀ s ∈ st.subjects.payslips, ∃ p ∈ st.subjects.payRuns, p.status = .finalized
    ∧ ∃ i ∈ st.subjects.items, i.payRun = p.id ∧ s = i.payslip p

/-- A run submitted under an approval. -/
structure Held (st : State) (p : PayrollRun) (r : RunId) : Prop where
  row : p ∈ st.subjects.payRuns
  approvalRun : p.approvalRun = some r
  status : p.status = .approvalPending ∨ p.status = .approved ∨ p.status = .finalized

/-- An approval that was not there before. -/
def IsCreated (r : RunId) (st st' : State) : Prop :=
  (∀ o ∈ st.db.outline, o.id ≠ r) ∧ ∃ o ∈ st'.db.outline, o.id = r

/-- **What a transaction keeps.** -/
structure Passes (st st' : State) : Prop where
  gate : Gate st'
  runs : ∀ o ∈ st.db.outline, ∃ o' ∈ st'.db.outline, o'.id = o.id
  held : ∀ p' r, Held st' p' r →
    (∃ p, Held st p r ∧ p.id = p'.id
      ∧ st'.subjects.runItems p'.id = st.subjects.runItems p'.id) ∨ IsCreated r st st'
  frozen : ∀ id, Finalized st.subjects id → Frozen id st.subjects st'.subjects

/-- No finalization bypasses the approval. -/
def Op.Gated : Op → Prop
  | .finalizePayRun _ skipApproval => skipApproval = false
  | _ => True

/-! ## The transactions -/

section Transactions

variable {st st' : State} {op : Op}

theorem Gate.ledger (h : Gate st) : Ledger st := ⟨h.engine, h.keys, h.known, h.pending, h.issued⟩

theorem Ledger.gate (h : Ledger st)
    (happroved : ∀ p ∈ st.subjects.payRuns, p.status = .approved ∨ p.status = .finalized →
      ∃ o ∈ st.db.outline, p.approvalRun = some o.id ∧ o.status = .approved) : Gate st :=
  ⟨h.engine, h.keys, h.known, h.pending, happroved, h.issued⟩

/-- No approval disappears. -/
theorem exists_mem_of_change (hc : Change st st' op) {o : RunOutline} (ho : o ∈ st.db.outline) :
    ∃ o' ∈ st'.db.outline, o'.id = o.id := by
  cases hc with
  | quiet hcloses hsubjects => exact hcloses.exists_mem ho
  | decided run decision id hrun hpending hsubject houtline hsubjects =>
    exact houtline ▸ exists_mem_setOutline ho
  | created organisation periodYear periodMonth runType useAttendanceInputs hdb hsubjects =>
    exact ⟨o, hdb ▸ ho, rfl⟩
  | arrears row hdb hsubjects => exact ⟨o, hdb ▸ ho, rfl⟩
  | calculated inputs p approvalRun hp hopen hcloses hnone hok => exact hcloses.exists_mem ho
  | submitted submission p r hp hcalculated hfresh houtline hsubjects =>
    exact ⟨o, houtline ▸ List.mem_append_left _ ho, rfl⟩
  | finalized p skipApproval hp hstatus hdb hok => exact ⟨o, hdb ▸ ho, rfl⟩

/-- An approved approval stays one. -/
theorem approved_mem_of_change (h : Ledger st) (hc : Change st st' op) {o : RunOutline}
    (ho : o ∈ st.db.outline) (happroved : o.status = .approved) : o ∈ st'.db.outline := by
  have hdecided : o.status ≠ .pending := by simp [happroved]
  have hunique := uniqueOutline h.engine.toKeys
  cases hc with
  | quiet hcloses hsubjects => exact hcloses.decided hunique ho hdecided
  | decided run decision id hrun hpending hsubject houtline hsubjects =>
    exact (Closes.one run _ hrun hpending decision.runStatus_ne_pending houtline).decided
      hunique ho hdecided
  | created organisation periodYear periodMonth runType useAttendanceInputs hdb hsubjects =>
    exact hdb ▸ ho
  | arrears row hdb hsubjects => exact hdb ▸ ho
  | calculated inputs p approvalRun hp hopen hcloses hnone hok =>
    exact hcloses.decided hunique ho hdecided
  | submitted submission p r hp hcalculated hfresh houtline hsubjects =>
    exact houtline ▸ List.mem_append_left _ ho
  | finalized p skipApproval hp hstatus hdb hok => exact hdb ▸ ho

/-- A row of a calculated run is the calculated one or the row of another run. -/
theorem row_of_calculateWrites {inputs : CalculationInputs} {p q : PayrollRun}
    {approvalRun : Option RunId} {t t' : PayrollTables}
    (hok : inputs.calculateWrites { p with approvalRun := approvalRun } t = .ok t')
    (hq : q ∈ t'.payRuns) : q.status = .calculated ∨ (q ∈ t.payRuns ∧ q.id ≠ p.id) := by
  obtain ⟨t₁, hadds, rfl⟩ := calculateWrites_eq_ok hok
  rw [mem_updatePayRun, hadds.payRuns] at hq
  rcases hq with ⟨q₀, -, -, rfl⟩ | hq
  · exact Or.inl rfl
  · exact Or.inr hq

/-- A row of a finalized run is the finalized one or the row of another run. -/
theorem row_of_finalizeWrites {p q : PayrollRun} {t t' : PayrollTables} (h : t.Keys)
    (hp : p ∈ t.payRuns) (hok : finalizeWrites p t = .ok t') (hq : q ∈ t'.payRuns) :
    q = { p with status := .finalized } ∨ (q ∈ t.payRuns ∧ q.id ≠ p.id) := by
  obtain ⟨t₁, hissues, rfl⟩ := finalizeWrites_eq_ok h hok
  rw [mem_updatePayRun, hissues.payRuns] at hq
  rcases hq with ⟨q₀, hq₀, hid, rfl⟩ | hq
  · rw [h.run_eq hq₀ hp hid]
    exact Or.inl rfl
  · exact Or.inr hq

/-- **An approved or finalized run has its approval.** -/
theorem approved_of_change (h : Gate st) (hop : op.Gated) (hc : Change st st' op) :
    ∀ p ∈ st'.subjects.payRuns, p.status = .approved ∨ p.status = .finalized →
      ∃ o ∈ st'.db.outline, p.approvalRun = some o.id ∧ o.status = .approved := by
  have hkept : ∀ p ∈ st.subjects.payRuns, p.status = .approved ∨ p.status = .finalized →
      ∃ o ∈ st'.db.outline, p.approvalRun = some o.id ∧ o.status = .approved := by
    intro p hp hdone
    obtain ⟨o, ho, hor, happroved⟩ := h.approved p hp hdone
    exact ⟨o, approved_mem_of_change h.ledger hc ho happroved, hor, happroved⟩
  intro q hq hdone
  cases hc with
  | quiet hcloses hsubjects => exact hkept q (hsubjects ▸ hq) hdone
  | decided run decision id hrun hpending hsubject houtline hsubjects =>
    rw [hsubjects, mem_updatePayRun] at hq
    rcases hq with ⟨p, hp, rfl, rfl⟩ | ⟨hq, -⟩
    · have hdecision : decision.runStatus = .approved := by
        cases decision <;> simp_all [payrollRunStatus, SubjectStatus.runStatus]
      refine ⟨{ run with status := decision.runStatus }, ?_,
        (h.pending run hrun hpending p hp hsubject).2, hdecision⟩
      rw [houtline, mem_setOutline]
      exact Or.inl ⟨run, hrun, rfl, rfl⟩
    · exact hkept q hq hdone
  | created organisation periodYear periodMonth runType useAttendanceInputs hdb hsubjects =>
    rw [hsubjects] at hq
    rcases List.mem_append.mp hq with hq | hq
    · exact hkept q hq hdone
    · rw [List.mem_singleton.mp hq] at hdone
      simp at hdone
  | arrears row hdb hsubjects =>
    rw [hsubjects] at hq
    exact hkept q hq hdone
  | calculated inputs p approvalRun hp hopen hcloses hnone hok =>
    rcases row_of_calculateWrites hok hq with hstatus | ⟨hq, -⟩
    · simp [hstatus] at hdone
    · exact hkept q hq hdone
  | submitted submission p r hp hcalculated hfresh houtline hsubjects =>
    rw [hsubjects, mem_updatePayRun] at hq
    rcases hq with ⟨q₀, -, -, rfl⟩ | ⟨hq, -⟩
    · simp at hdone
    · exact hkept q hq hdone
  | finalized p skipApproval hp hstatus hdb hok =>
    obtain rfl : skipApproval = false := hop
    rcases row_of_finalizeWrites h.keys hp hok hq with rfl | ⟨hq, -⟩
    · exact hkept p hp (Or.inl (by simpa using hstatus))
    · exact hkept q hq hdone

/-- **A run under an approval was so before**, with the items it has, or is
submitted now. -/
theorem held_of_change (h : Ledger st) (hop : op.Gated) (hc : Change st st' op) {q : PayrollRun}
    {r : RunId} (hq : Held st' q r) :
    (∃ p, Held st p r ∧ p.id = q.id
      ∧ st'.subjects.runItems q.id = st.subjects.runItems q.id) ∨ IsCreated r st st' := by
  have hrow := hq.row
  cases hc with
  | quiet hcloses hsubjects =>
    rw [hsubjects] at hrow ⊢
    exact Or.inl ⟨q, ⟨hrow, hq.approvalRun, hq.status⟩, rfl, rfl⟩
  | decided run decision id hrun hpending hsubject houtline hsubjects =>
    have hitems : ∀ id', st'.subjects.runItems id' = st.subjects.runItems id' := fun id' => by
      rw [hsubjects]
      rfl
    rw [hsubjects, mem_updatePayRun] at hrow
    rcases hrow with ⟨p, hp, rfl, rfl⟩ | ⟨hrow, -⟩
    · have hwaits := (h.pending run hrun hpending p hp hsubject).1
      exact Or.inl ⟨p, ⟨hp, hq.approvalRun, Or.inl hwaits⟩, rfl, hitems _⟩
    · exact Or.inl ⟨q, ⟨hrow, hq.approvalRun, hq.status⟩, rfl, hitems _⟩
  | created organisation periodYear periodMonth runType useAttendanceInputs hdb hsubjects =>
    rw [hsubjects] at hrow ⊢
    rcases List.mem_append.mp hrow with hrow | hrow
    · exact Or.inl ⟨q, ⟨hrow, hq.approvalRun, hq.status⟩, rfl, rfl⟩
    · have hnone := hq.approvalRun
      rw [List.mem_singleton.mp hrow] at hnone
      cases hnone
  | arrears row hdb hsubjects =>
    rw [hsubjects] at hrow ⊢
    exact Or.inl ⟨q, ⟨hrow, hq.approvalRun, hq.status⟩, rfl, rfl⟩
  | calculated inputs p approvalRun hp hopen hcloses hnone hok =>
    rcases row_of_calculateWrites hok hrow with hstatus | ⟨hrow, hother⟩
    · have := hq.status
      simp [hstatus] at this
    · exact Or.inl ⟨q, ⟨hrow, hq.approvalRun, hq.status⟩, rfl,
        (onlyRun_calculateWrites h.linked hok).items q.id hother⟩
  | submitted submission p r' hp hcalculated hfresh houtline hsubjects =>
    have hitems : ∀ id', st'.subjects.runItems id' = st.subjects.runItems id' := fun id' => by
      rw [hsubjects]
      rfl
    rw [hsubjects, mem_updatePayRun] at hrow
    rcases hrow with ⟨q₀, -, -, rfl⟩ | ⟨hrow, -⟩
    · -- the run is held by the approval created here
      obtain rfl := Option.some.inj hq.approvalRun
      exact Or.inr ⟨hfresh,
        _, houtline ▸ List.mem_append_right _ (List.mem_singleton_self _), rfl⟩
    · exact Or.inl ⟨q, ⟨hrow, hq.approvalRun, hq.status⟩, rfl, hitems _⟩
  | finalized p skipApproval hp hstatus hdb hok =>
    obtain rfl : skipApproval = false := hop
    have hitems : ∀ id', st'.subjects.runItems id' = st.subjects.runItems id' := fun id' => by
      obtain ⟨t₁, hissues, hsubjects⟩ := finalizeWrites_eq_ok h.keys hok
      rw [hsubjects]
      show t₁.runItems id' = _
      rw [runItems, hissues.items, runItems]
    rcases row_of_finalizeWrites h.keys hp hok hrow with rfl | ⟨hrow, -⟩
    · have happroved : p.status = .approved := by simpa using hstatus
      exact Or.inl ⟨p, ⟨hp, hq.approvalRun, Or.inr (Or.inl happroved)⟩, rfl, hitems _⟩
    · exact Or.inl ⟨q, ⟨hrow, hq.approvalRun, hq.status⟩, rfl, hitems _⟩

/-- **Every request passes the gate.** -/
theorem passes_step (h : Gate st) (hop : op.Gated) : Passes st (step st op) :=
  have hc := change_step h.ledger op
  { gate := (ledger_of_change h.ledger (engine_step h.engine op) hc).gate
      (approved_of_change h hop hc)
    runs := fun _ ho => exists_mem_of_change hc ho
    held := fun _ _ hq => held_of_change h.ledger hop hc hq
    frozen := fun _ hf => frozen_of_change h.ledger hc hf }

end Transactions

/-! ## Runs -/

/-- The state reached from the first by a list of requests. -/
def reached (stages : StageTable) (expenseClaims : List ExpenseClaim) (ops : List Op) : State :=
  Run.exec step (EngineState.initial stages (.initial expenseClaims)) ops

section Reached

variable {stages : StageTable} {expenseClaims : List ExpenseClaim}

theorem gate_initial : Gate (EngineState.initial stages (.initial expenseClaims)) :=
  (ledger_initial stages expenseClaims).gate (fun _ hp => absurd hp List.not_mem_nil)

theorem gate_reached (stages : StageTable) (expenseClaims : List ExpenseClaim) {ops : List Op}
    (hops : ∀ op ∈ ops, op.Gated) : Gate (reached stages expenseClaims ops) :=
  Run.invariant_of_along (G := fun (_ : State) (op : Op) => op.Gated) (I := Gate)
    (fun _ _ h hop => (passes_step h hop).gate) gate_initial (Run.along_of_forall hops)

/-- **A submitted run was submitted at some point**, with the items it has. -/
theorem held_reached {ops : List Op} (hops : ∀ op ∈ ops, op.Gated) {p : PayrollRun} {r : RunId}
    (hp : Held (reached stages expenseClaims ops) p r) :
    ∃ before op after, ops = before ++ op :: after
      ∧ IsCreated r (reached stages expenseClaims before)
        (reached stages expenseClaims (before ++ [op]))
      ∧ (reached stages expenseClaims ops).subjects.runItems p.id
        = (reached stages expenseClaims (before ++ [op])).subjects.runItems p.id := by
  set items := (reached stages expenseClaims ops).subjects.runItems p.id with hitems
  obtain ⟨before, op, after, hsplit, hcreated, hthere⟩ := Run.exists_origin (I := Gate)
    (G := fun (_ : State) (op : Op) => op.Gated)
    (Q := fun st : State => (∃ q, Held st q r ∧ q.id = p.id)
      ∧ st.subjects.runItems p.id = items)
    (E := fun st st' : State => IsCreated r st st' ∧ st'.subjects.runItems p.id = items)
    (fun _ _ h hop => (passes_step h hop).gate)
    (fun st op h hop => by
      rintro ⟨⟨q, hq, hid⟩, hq_items⟩
      rcases (passes_step h hop).held q r hq with ⟨q₀, hq₀, hid₀, hsame⟩ | hcreated
      · exact Or.inl ⟨⟨q₀, hq₀, hid₀.trans hid⟩, by rw [← hq_items, ← hid, hsame]⟩
      · exact Or.inr ⟨hcreated, hq_items⟩)
    gate_initial (fun ⟨⟨_, hq, _⟩, _⟩ => absurd hq.row List.not_mem_nil)
    (Run.along_of_forall hops) ⟨⟨p, hp, rfl⟩, rfl⟩
  exact ⟨before, op, after, hsplit, hcreated, hthere.symm⟩

end Reached

/-- **The gate.** A finalized run has an approved approval; each of its
payslips says what its item said when that approval was created; and no later
request changes the run's items, payslips or status. -/
theorem finalized_gate (stages : StageTable) (expenseClaims : List ExpenseClaim)
    (ops later : List Op) (hops : ∀ op ∈ ops ++ later, op.Gated) (p : PayrollRun)
    (hp : p ∈ (reached stages expenseClaims ops).subjects.payRuns)
    (hfinal : p.status = .finalized) :
    (∃ r ∈ (reached stages expenseClaims ops).db.runs,
        p.approvalRun = some r.id ∧ r.status = .approved
          ∧ ∃ before op after, ops = before ++ op :: after
            ∧ IsCreated r.id (reached stages expenseClaims before)
              (reached stages expenseClaims (before ++ [op]))
            ∧ ∀ s ∈ (reached stages expenseClaims ops).subjects.runPayslips p.id,
              ∃ i ∈ (reached stages expenseClaims (before ++ [op])).subjects.runItems p.id,
                i.id = s.payRunItem ∧ s.snapshot = i.payslipSnapshot)
      ∧ Frozen p.id (reached stages expenseClaims ops).subjects
        (reached stages expenseClaims (ops ++ later)).subjects := by
  have hgated : ∀ op ∈ ops, op.Gated := fun op hop => hops op (List.mem_append_left _ hop)
  have hgate := gate_reached stages expenseClaims hgated
  constructor
  · obtain ⟨o, ho, hor, happroved⟩ := hgate.approved p hp (Or.inr hfinal)
    obtain ⟨r, hr, rfl⟩ := mem_outline.mp ho
    obtain ⟨before, op, after, hsplit, hcreated, hitems⟩ :=
      held_reached hgated ⟨hp, hor, Or.inr (Or.inr hfinal)⟩
    refine ⟨r, hr, hor, happroved, before, op, after, hsplit, hcreated, fun s hs => ?_⟩
    obtain ⟨hs, hsrun⟩ := mem_runPayslips.mp hs
    obtain ⟨q, -, -, i, hi, hirun, rfl⟩ := hgate.issued s hs
    exact ⟨i, hitems ▸ mem_runItems.mpr ⟨hi, hirun.trans hsrun⟩, rfl, rfl⟩
  · have hlater : ∀ op ∈ later, op.Gated := fun op hop => hops op (List.mem_append_right _ hop)
    rw [show reached stages expenseClaims (ops ++ later)
      = Run.exec step (reached stages expenseClaims ops) later from Run.exec_append _ _ _]
    exact (Run.related_of_along (G := fun (_ : State) (op : Op) => op.Gated) (I := Gate)
      (R := fun st st' : State =>
        ∀ id, Finalized st.subjects id → Frozen id st.subjects st'.subjects)
      (fun _ _ hf => .refl hf)
      (fun _ _ _ h h' id hf => (h id hf).trans (h' id (h id hf).finalized))
      (fun _ _ h hop => ⟨(passes_step h hop).gate, (passes_step h hop).frozen⟩)
      hgate (Run.along_of_forall hlater)) p.id ⟨p, hp, rfl, hfinal⟩

/-! ## A finalized run

Employee 2 approves the April run of organisation 1, calculated for one
employee. -/

namespace Sample

def calculation : CalculationInputs where
  now := 0
  orgStateCode := .ok "MH"
  employees := [employee]
  assignments := [assignment 50000]
  activeTaxSlabSet := fun _ _ => .ok (some taxSlabSet)
  professionalTaxRule := fun _ => some professionalTaxRule
  labourWelfareFundRule := fun _ => none
  attendanceSummary := fun _ => none
  leaveOnlyLopDays := fun _ => none
  explicitLwpDays := fun _ => none
  declaredTotals := fun _ _ => 0

def stages : StageTable where
  rows := [Approvals.Sample.stage 1 1 .all [Approvals.Sample.employeeApprover 2]]
  uniqueId := by decide
  uniqueSequence := by decide

def submission : Submission :=
  { user := Approvals.Sample.user, dir := Approvals.Sample.directory 0, workflow := some 1,
    requester := none }

/-- Calculated, submitted, approved and finalized. -/
def finalizedRun : List Op :=
  [.createPayrollRun 1 2024 4 .regular false, .calculatePayRun calculation 0,
    .submitPayRunForApproval submission 0,
    .approveAction Approvals.Sample.user (Approvals.Sample.directory 0) 1 102 "",
    .finalizePayRun 0 false]

def payRun : PayrollRun :=
  { id := 0, organisation := 1, periodYear := 2024, periodMonth := 4, runType := .regular,
    useAttendanceInputs := false, status := .finalized, approvalRun := some 0 }

end Sample

/-- Calculating the finalized run again changes nothing. -/
theorem finalized_gate_sample :
    (∃ r ∈ (reached Sample.stages [] Sample.finalizedRun).db.runs,
        Sample.payRun.approvalRun = some r.id ∧ r.status = .approved)
      ∧ Frozen 0 (reached Sample.stages [] Sample.finalizedRun).subjects
        (reached Sample.stages []
          (Sample.finalizedRun ++ [.calculatePayRun Sample.calculation 0])).subjects := by
  obtain ⟨⟨r, hr, hrun, happroved, -⟩, hfrozen⟩ :=
    finalized_gate Sample.stages [] Sample.finalizedRun [.calculatePayRun Sample.calculation 0]
      (by simp [Sample.finalizedRun, Op.Gated]) Sample.payRun (by decide +kernel) rfl
  exact ⟨⟨r, hr, hrun, happroved⟩, hfrozen⟩

end Payroll
