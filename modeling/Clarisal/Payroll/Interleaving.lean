import Clarisal.Lib.TwoPhase
import Clarisal.Payroll.Gate

/-!
# Interleaved pay-run requests

Calculating, submitting and finalizing read the row of the run, check its
status, and write later from that row. The status is not checked again in the
transaction, so a calculation that read the run before it was finalized
deletes its items, and with them its payslips
(`calculation_destroys_payslips`).

Where no calculation and no submission writes to a run that is finalized by
then, a finalized run stays as it is under every interleaving
(`finalized_frozen_of_inOrder`). Two finalizations may overlap: the second
issues the payslips the first one issued.
-/

open Approvals

namespace Payroll

open Transaction PayrollTables

/-- The requests on a pay run. -/
inductive PayRunRequest
  | calculate (payRun : PayrollRunId)
  | submit (payRun : PayrollRunId)
  | finalize (payRun : PayrollRunId) (skipApproval : Bool)

/-- A request that has read its row and passed its check. -/
inductive PayRunInFlight
  | calculate (payRun : PayrollRun)
  | submit (payRun : PayrollRun)
  | finalize (payRun : PayrollRun)
deriving DecidableEq

/-- What a transaction finds besides the tables. -/
structure PayRunEnvironment where
  inputs : CalculationInputs
  submission : Submission

/-- Read the row and check its status. -/
def readChecked (t : PayrollTables) (id : PayrollRunId)
    (check : PayrollRun → Except String Unit) : Option PayrollRun :=
  match readPayRun t id with
  | .error _ => none
  | .ok payRun =>
    match check payRun with
    | .error _ => none
    | .ok () => some payRun

/-- The first phase. -/
def readRequest (st : State) : PayRunRequest → Option PayRunInFlight
  | .calculate id => (readChecked st.subjects id checkCalculable).map .calculate
  | .submit id => (readChecked st.subjects id checkSubmittable).map .submit
  | .finalize id skipApproval =>
    (readChecked st.subjects id (checkFinalizable skipApproval)).map .finalize

/-- The second phase, on the row as read. -/
def writeRequest (st : State) (request : PayRunInFlight) (env : PayRunEnvironment) : State :=
  match request with
  | .calculate payRun => calculateTransactions env.inputs payRun st
  | .submit payRun => settle st (submitWrites env.submission payRun st)
  | .finalize payRun => settle st do
    let subjects ← finalizeWrites payRun st.subjects
    return { st with subjects := subjects }

/-- **Pay-run requests in two phases.** -/
def payRunRequests : Protocol State PayRunRequest PayRunInFlight PayRunEnvironment Empty where
  read := readRequest
  write := writeRequest
  atomic _ request := request.elim

/-- **In order**: no calculation and no submission writes to a finalized run. -/
def InOrder (st : State) (request : PayRunInFlight) (_ : PayRunEnvironment) : Prop :=
  match request with
  | .calculate payRun | .submit payRun => ¬ Finalized st.subjects payRun.id
  | .finalize _ => True

instance (t : PayrollTables) (id : PayrollRunId) : Decidable (Finalized t id) :=
  inferInstanceAs (Decidable (∃ p ∈ t.payRuns, p.id = id ∧ p.status = .finalized))

instance (st : State) (request : PayRunInFlight) (env : PayRunEnvironment) :
    Decidable (InOrder st request env) :=
  match request with
  | .calculate payRun | .submit payRun =>
    inferInstanceAs (Decidable (¬ Finalized st.subjects payRun.id))
  | .finalize _ => inferInstanceAs (Decidable True)

/-! ## What the tables and the requests keep -/

/-- The ready items of a run have their payslips. -/
def Issued (t : PayrollTables) (id : PayrollRunId) : Prop :=
  ∀ p ∈ t.payRuns, p.id = id → ∀ i ∈ t.readyItems id,
    i.payslip p ∈ t.payslips ∧ ∀ s ∈ t.runPayslips id, s.payRunItem = i.id → s = i.payslip p

/-- A row of the same run and period. -/
def SameRun (p q : PayrollRun) : Prop :=
  p.id = q.id ∧ p.periodYear = q.periodYear ∧ p.periodMonth = q.periodMonth

/-- **What a finalization holds between its phases**: the period of its run,
and, if another request finalized it meanwhile, that the payslips are out. -/
def Relies (st : State) : PayRunInFlight → Prop
  | .calculate _ | .submit _ => True
  | .finalize payRun =>
    (∀ p ∈ st.subjects.payRuns, p.id = payRun.id → SameRun p payRun)
      ∧ (Finalized st.subjects payRun.id → Issued st.subjects payRun.id)

/-- **What a write keeps.** -/
structure Keeps (t t' : PayrollTables) : Prop where
  back : ∀ p' ∈ t'.payRuns, ∃ p ∈ t.payRuns, SameRun p p'
  frozen : ∀ id, Finalized t id → Frozen id t t'
  issued : ∀ id, Finalized t' id → Finalized t id ∨ Issued t' id

theorem payslip_congr {p q : PayrollRun} (h : SameRun p q) (i : PayrollRunItem) :
    i.payslip p = i.payslip q := by
  obtain ⟨hid, hyear, hmonth⟩ := h
  simp [PayrollRunItem.payslip, hid, hyear, hmonth]

theorem SameRun.refl (p : PayrollRun) : SameRun p p := ⟨rfl, rfl, rfl⟩

theorem SameRun.trans {p q r : PayrollRun} (h : SameRun p q) (h' : SameRun q r) : SameRun p r :=
  ⟨h.1.trans h'.1, h.2.1.trans h'.2.1, h.2.2.trans h'.2.2⟩

/-- Issued payslips stay issued while nothing happens to the run. -/
theorem Issued.keep {t t' : PayrollTables} {id : PayrollRunId} (h : Issued t id)
    (hkeep : Keeps t t') (hfinal : Finalized t id) : Issued t' id := by
  have hfrozen := hkeep.frozen id hfinal
  intro p' hp' hid' i hi
  obtain ⟨p, hp, hsame⟩ := hkeep.back p' hp'
  have hready : t'.readyItems id = t.readyItems id := by
    rw [readyItems, hfrozen.items, readyItems]
  rw [hready] at hi
  have hid : p.id = id := hsame.1.trans hid'
  obtain ⟨hmem, hall⟩ := h p hp hid i hi
  rw [← payslip_congr hsame i]
  refine ⟨?_, fun s hs => hall s ((hfrozen.payslips s).mp hs)⟩
  have : i.payslip p ∈ t.runPayslips id := mem_runPayslips.mpr ⟨hmem, hid⟩
  exact (mem_runPayslips.mp ((hfrozen.payslips _).mpr this)).1

theorem Keeps.refl (t : PayrollTables) : Keeps t t where
  back p hp := ⟨p, hp, .refl p⟩
  frozen _ hf := .refl hf
  issued _ hf := Or.inl hf

theorem Keeps.trans {t t' t'' : PayrollTables} (h : Keeps t t') (h' : Keeps t' t'') :
    Keeps t t'' where
  back p'' hp'' := by
    obtain ⟨p', hp', hsame'⟩ := h'.back p'' hp''
    obtain ⟨p, hp, hsame⟩ := h.back p' hp'
    exact ⟨p, hp, hsame.trans hsame'⟩
  frozen id hf := (h.frozen id hf).trans (h'.frozen id (h.frozen id hf).finalized)
  issued id hf := by
    rcases h'.issued id hf with hf' | hissued
    · rcases h.issued id hf' with hf | hissued
      · exact Or.inl hf
      · exact Or.inr (hissued.keep h' hf')
    · exact Or.inr hissued

theorem Relies.keep {st st' : State} {request : PayRunInFlight}
    (hkeep : Keeps st.subjects st'.subjects) (h : Relies st request) : Relies st' request := by
  cases request with
  | calculate payRun => trivial
  | submit payRun => trivial
  | finalize payRun =>
    obtain ⟨hsame, hissued⟩ := h
    refine ⟨fun p' hp' hid => ?_, fun hf => ?_⟩
    · obtain ⟨p, hp, hpp'⟩ := hkeep.back p' hp'
      have := hsame p hp (hpp'.1.trans hid)
      exact ⟨hid, hpp'.2.1.symm.trans this.2.1, hpp'.2.2.symm.trans this.2.2⟩
    · rcases hkeep.issued _ hf with hf₀ | hissued'
      · exact (hissued hf₀).keep hkeep hf₀
      · exact hissued'

/-! ## The writes -/

section Writes

variable {t t' : PayrollTables} {payRun : PayrollRun}

/-- Rewriting the row of a run that is not finalized to another status. -/
theorem keeps_updatePayRun (h : ¬ Finalized t payRun.id) {f : PayrollRun → PayrollRun}
    (hsame : ∀ p, SameRun p (f p)) (hopen : ∀ p, (f p).status ≠ .finalized) :
    Keeps t (t.updatePayRun payRun.id f) where
  back p' hp' := by
    rcases mem_updatePayRun.mp hp' with ⟨p, hp, -, rfl⟩ | ⟨hp', -⟩
    · exact ⟨p, hp, hsame p⟩
    · exact ⟨p', hp', .refl p'⟩
  frozen id hf := ((OnlyRun.refl payRun.id t).updatePayRun (fun p => (hsame p).1.symm)).frozen
    (fun heq => h (heq ▸ hf)) hf
  issued id hf := by
    obtain ⟨p, hp, hid, hfinal⟩ := hf
    rcases mem_updatePayRun.mp hp with ⟨p₀, -, -, rfl⟩ | ⟨hp, -⟩
    · exact absurd hfinal (hopen p₀)
    · exact Or.inl ⟨p, hp, hid, hfinal⟩

theorem linked_updatePayRun (h : Linked t) {id : PayrollRunId} {f : PayrollRun → PayrollRun}
    (hf : ∀ p, (f p).id = p.id) : Linked (t.updatePayRun id f) :=
  ⟨h.keys.updatePayRun hf, h.owned⟩

theorem kept_calculateWrites {inputs : CalculationInputs} (h : Linked t)
    (hopen : ¬ Finalized t payRun.id) (hok : inputs.calculateWrites payRun t = .ok t') :
    Linked t' ∧ Keeps t t' := by
  have honly := onlyRun_calculateWrites h hok
  obtain ⟨t₁, hadds, rfl⟩ := calculateWrites_eq_ok hok
  refine ⟨⟨(hadds.keys h.keys.clearRun).updatePayRun (fun _ => rfl), fun s hs => ?_⟩,
    ⟨fun p' hp' => ?_, fun id hf => honly.frozen (fun heq => hopen (heq ▸ hf)) hf,
      fun id hf => ?_⟩⟩
  · have hold : s ∈ (CalculationInputs.clearRun payRun t).payslips := hadds.payslips ▸ hs
    obtain ⟨hs, hall⟩ := mem_clearRun_payslips.mp hold
    obtain ⟨i, hi, hid, hirun⟩ := h.owned s hs
    have hne : i.payRun ≠ payRun.id := fun heq => hall i hi heq hid
    have hitem : i ∈ t₁.runItems i.payRun := by
      rw [show t₁.runItems i.payRun = t.runItems i.payRun from honly.items _ hne]
      exact mem_runItems.mpr ⟨hi, rfl⟩
    exact ⟨i, (mem_runItems.mp hitem).1, hid, hirun⟩
  · rcases mem_updatePayRun.mp hp' with ⟨p, hp, -, rfl⟩ | ⟨hp, -⟩
    · exact ⟨p, hadds.payRuns ▸ hp, rfl, rfl, rfl⟩
    · exact ⟨p', hadds.payRuns ▸ hp, .refl p'⟩
  · obtain ⟨p, hp, hid, hfinal⟩ := hf
    rcases mem_updatePayRun.mp hp with ⟨p₀, -, -, rfl⟩ | ⟨hp, -⟩
    · cases hfinal
    · exact Or.inl ⟨p, hadds.payRuns ▸ hp, hid, hfinal⟩

/-- **A finalization**, whatever has become of the run since it was read. -/
theorem kept_finalizeWrites (h : Linked t)
    (hsame : ∀ p ∈ t.payRuns, p.id = payRun.id → SameRun p payRun)
    (hissued : Finalized t payRun.id → Issued t payRun.id)
    (hok : finalizeWrites payRun t = .ok t') : Linked t' ∧ Keeps t t' := by
  have honly := onlyRun_finalizeWrites h hok
  obtain ⟨t₁, hissues, rfl⟩ := finalizeWrites_eq_ok h.keys hok
  have hitems : ∀ id, t₁.runItems id = t.runItems id := fun id => by
    rw [runItems, hissues.items, runItems]
  have hrow : ∀ {q : PayrollRun},
      q ∈ (t₁.updatePayRun payRun.id (fun p => { p with status := .finalized })).payRuns ↔
      (∃ q₀ ∈ t.payRuns, q₀.id = payRun.id ∧ { q₀ with status := .finalized } = q)
        ∨ (q ∈ t.payRuns ∧ q.id ≠ payRun.id) := by
    intro q
    rw [mem_updatePayRun, hissues.payRuns]
  refine ⟨⟨(hissues.keys h.keys).updatePayRun (fun _ => rfl), fun s hs => ?_⟩,
    ⟨fun p' hp' => ?_, fun id hf => ?_, fun id hf => ?_⟩⟩
  · show ∃ i ∈ t₁.items, _
    rw [hissues.items]
    rcases (hissues.payslips s).mp hs with ⟨hs, -⟩ | ⟨i, hi, rfl⟩
    · exact h.owned s hs
    · obtain ⟨hi, hirun, -⟩ := mem_readyItems.mp hi
      exact ⟨i, hi, rfl, hirun⟩
  · rcases hrow.mp hp' with ⟨p, hp, -, rfl⟩ | ⟨hp', -⟩
    · exact ⟨p, hp, ⟨rfl, rfl, rfl⟩⟩
    · exact ⟨p', hp', .refl p'⟩
  · by_cases hid : id = payRun.id
    · -- finalized meanwhile: the payslips are the ones already there
      obtain ⟨p, hp, rfl, hfinal⟩ := hf
      have hready := hissued ⟨p, hp, hid, hfinal⟩ p hp hid
      have hpayslip : ∀ i : PayrollRunItem, i.payslip payRun = i.payslip p := fun i =>
        (payslip_congr (hsame p hp hid) i).symm
      refine ⟨⟨_, hrow.mpr (Or.inl ⟨p, hp, hid, rfl⟩), rfl, rfl⟩, hitems _, fun s => ?_⟩
      rw [mem_runPayslips, mem_runPayslips]
      refine and_congr_left (fun hsp => (hissues.payslips s).trans ⟨?_, fun hs => ?_⟩)
      · rintro (⟨hs, -⟩ | ⟨i, hi, rfl⟩)
        · exact hs
        · rw [hpayslip]
          exact (hready i hi).1
      · by_cases hitem : ∃ i ∈ t.readyItems payRun.id, i.id = s.payRunItem
        · obtain ⟨i, hi, his⟩ := hitem
          refine Or.inr ⟨i, hi, ?_⟩
          rw [hpayslip]
          exact (hready i hi).2 s (mem_runPayslips.mpr ⟨hs, hsp.trans hid⟩) his.symm
        · push Not at hitem
          exact Or.inl ⟨hs, hitem⟩
    · exact honly.frozen hid hf
  · obtain ⟨p, hp, rfl, hfinal⟩ := hf
    rcases hrow.mp hp with ⟨p₀, hp₀, hid, rfl⟩ | ⟨hp, -⟩
    · -- the run was finalized here
      refine Or.inr (fun q hq hqid i hi => ?_)
      have hq' : SameRun q payRun := by
        rcases hrow.mp hq with ⟨q₀, hq₀, hq₀id, rfl⟩ | ⟨-, hne⟩
        · exact hsame q₀ hq₀ hq₀id
        · exact absurd (hqid.trans hid) hne
      have hi' : i ∈ t.readyItems payRun.id := by
        rw [mem_readyItems] at hi ⊢
        rw [← hid, ← hissues.items]
        exact hi
      rw [payslip_congr hq' i]
      refine ⟨(hissues.payslips _).mpr (Or.inr ⟨i, hi', rfl⟩), fun s hs hsi => ?_⟩
      rcases (hissues.payslips s).mp (mem_runPayslips.mp hs).1 with ⟨-, hne⟩ | ⟨j, hj, rfl⟩
      · exact absurd hsi.symm (hne i hi')
      · rw [h.keys.item_eq (mem_readyItems.mp hj).1 (mem_readyItems.mp hi').1 hsi]
    · exact Or.inl ⟨p, hp, rfl, hfinal⟩

end Writes

/-! ## The protocol -/

theorem readChecked_eq_some {t : PayrollTables} {id : PayrollRunId}
    {check : PayrollRun → Except String Unit} {payRun : PayrollRun}
    (h : readChecked t id check = some payRun) :
    payRun ∈ t.payRuns ∧ check payRun = .ok () := by
  unfold readChecked at h
  split at h
  · cases h
  · next p hread =>
    split at h
    · cases h
    · next hcheck =>
      obtain rfl := Option.some.inj h
      exact ⟨(readPayRun_eq_ok hread).1, hcheck⟩

/-- A finalization reads a run that is not finalized. -/
theorem relies_of_read {st : State} (h : Linked st.subjects) {request : PayRunRequest}
    {inFlight : PayRunInFlight} (hread : readRequest st request = some inFlight) :
    Relies st inFlight := by
  cases request with
  | calculate id =>
    obtain ⟨payRun, -, rfl⟩ := Option.map_eq_some_iff.mp hread
    trivial
  | submit id =>
    obtain ⟨payRun, -, rfl⟩ := Option.map_eq_some_iff.mp hread
    trivial
  | finalize id skipApproval =>
    obtain ⟨payRun, hchecked, rfl⟩ := Option.map_eq_some_iff.mp hread
    obtain ⟨hp, hcheck⟩ := readChecked_eq_some hchecked
    refine ⟨fun p hp' hid => h.keys.run_eq hp' hp hid ▸ .refl p, fun hf => ?_⟩
    obtain ⟨q, hq, hid, hfinal⟩ := hf
    rw [h.keys.run_eq hq hp hid] at hfinal
    rcases checkFinalizable_eq_ok hcheck with hs | ⟨hs, -⟩ <;> rw [hs] at hfinal <;> cases hfinal

theorem kept_writeRequest {st : State} {request : PayRunInFlight} {env : PayRunEnvironment}
    (h : Linked st.subjects) (hrelies : Relies st request) (hguard : InOrder st request env) :
    Linked (writeRequest st request env).subjects
      ∧ Keeps st.subjects (writeRequest st request env).subjects := by
  have hrefl : Linked st.subjects ∧ Keeps st.subjects st.subjects := ⟨h, .refl _⟩
  cases request with
  | calculate payRun =>
    unfold writeRequest calculateTransactions
    dsimp only
    split
    · exact hrefl
    · next payRun' st₁ hcancel =>
      obtain ⟨hsubjects, hid⟩ := cancelPendingApproval_eq_ok hcancel
      refine settle_induction (P := fun s : State =>
        Linked s.subjects ∧ Keeps st.subjects s.subjects) (hsubjects ▸ hrefl) (fun st₂ hok => ?_)
      obtain ⟨t', hcalc, hret⟩ := bind_eq_ok_iff.mp hok
      obtain rfl := pure_eq_ok_iff.mp hret
      rw [hsubjects] at hcalc
      exact kept_calculateWrites h (hid ▸ hguard) hcalc
  | submit payRun =>
    refine settle_induction (P := fun s : State =>
      Linked s.subjects ∧ Keeps st.subjects s.subjects) hrefl (fun st' hok => ?_)
    obtain ⟨_, _, -, hsubjects⟩ := submitWrites_eq_ok hok
    rw [hsubjects]
    exact ⟨linked_updatePayRun h (fun _ => rfl),
      keeps_updatePayRun hguard (fun _ => ⟨rfl, rfl, rfl⟩) (fun _ => by simp)⟩
  | finalize payRun =>
    refine settle_induction (P := fun s : State =>
      Linked s.subjects ∧ Keeps st.subjects s.subjects) hrefl (fun st' hok => ?_)
    obtain ⟨t', hfinalize, hret⟩ := bind_eq_ok_iff.mp hok
    obtain rfl := pure_eq_ok_iff.mp hret
    exact kept_finalizeWrites h hrelies.1 hrelies.2 hfinalize

/-- **A finalized run stays as it is** under every interleaving in which no
calculation and no submission writes to a run finalized by then. -/
theorem finalized_frozen_of_inOrder (st : State) (hst : Linked st.subjects)
    (events later : List (Protocol.Event PayRunRequest PayRunEnvironment Empty))
    (horder : Run.Along payRunRequests.step (Protocol.WriteGuard InOrder) ⟨st, []⟩
      (events ++ later)) (id : PayrollRunId)
    (hfinal : Finalized (Run.exec payRunRequests.step ⟨st, []⟩ events).shared.subjects id) :
    Frozen id (Run.exec payRunRequests.step ⟨st, []⟩ events).shared.subjects
      (Run.exec payRunRequests.step ⟨st, []⟩ (events ++ later)).shared.subjects := by
  have hsafe : ∀ (start : Protocol.State State PayRunInFlight) evs,
      Linked start.shared.subjects → (∀ r ∈ start.inFlight, Relies start.shared r) →
      Run.Along payRunRequests.step (Protocol.WriteGuard InOrder) start evs → _ :=
    fun start evs hlinked hrelies hevs => Protocol.safe_of_along (p := payRunRequests)
      (G := InOrder) (I := fun s : State => Linked s.subjects) (J := Relies)
      (R := fun s s' : State => Keeps s.subjects s'.subjects)
      (fun s => .refl s.subjects) (fun _ _ _ h h' => h.trans h')
      (fun _ _ _ h hread => relies_of_read h hread) (fun _ _ _ hkeep h => h.keep hkeep)
      (fun _ _ _ h hrelies hguard => kept_writeRequest h hrelies hguard)
      (fun _ request => request.elim) hlinked hrelies hevs
  obtain ⟨hfirst, hlater⟩ := (Run.along_append _ _ _).mp horder
  obtain ⟨⟨hlinked, hrelies⟩, -⟩ := hsafe ⟨st, []⟩ events hst (by simp) hfirst
  have hkeeps := (hsafe _ later hlinked hrelies hlater).2
  rw [Run.exec_append]
  exact hkeeps.frozen id hfinal

/-! ## A calculation that comes late

Run 0 is calculated. A second calculation reads it, then a finalization with
the approval bypassed reads it and writes, then the calculation writes. -/

namespace Sample

/-- The April run, calculated. -/
def calculatedRun : State :=
  reached stages [] [.createPayrollRun 1 2024 4 .regular false, .calculatePayRun calculation 0]

def environment : PayRunEnvironment := { inputs := calculation, submission := submission }

/-- Read before the finalization. -/
def staleReads : List (Protocol.Event PayRunRequest PayRunEnvironment Empty) :=
  [.begin (.calculate 0), .begin (.finalize 0 true), .commit 1 environment]

/-- Refused, as it reads after the finalization. -/
def lateRead : List (Protocol.Event PayRunRequest PayRunEnvironment Empty) :=
  [.begin (.calculate 0), .commit 0 environment]

end Sample

/-- **The late calculation destroys the payslips** of a finalized run, and the
run is no longer finalized. -/
theorem calculation_destroys_payslips :
    let finalized := Run.exec payRunRequests.step ⟨Sample.calculatedRun, []⟩ Sample.staleReads
    let later := payRunRequests.step finalized (.commit 0 Sample.environment)
    Finalized finalized.shared.subjects 0
      ∧ (finalized.shared.subjects.runPayslips 0).length = 1
      ∧ later.shared.subjects.runPayslips 0 = []
      ∧ ¬ Finalized later.shared.subjects 0 := by
  decide +kernel

/-- A second finalization and a calculation that reads in time. -/
theorem finalized_frozen_of_inOrder_sample :
    Frozen 0
      (Run.exec payRunRequests.step ⟨Sample.calculatedRun, []⟩
        [.begin (.finalize 0 true), .begin (.finalize 0 true), .commit 0 Sample.environment]
        ).shared.subjects
      (Run.exec payRunRequests.step ⟨Sample.calculatedRun, []⟩
        ([.begin (.finalize 0 true), .begin (.finalize 0 true), .commit 0 Sample.environment]
          ++ .commit 0 Sample.environment :: Sample.lateRead)).shared.subjects :=
  finalized_frozen_of_inOrder Sample.calculatedRun
    ⟨⟨by decide +kernel, by decide +kernel, by decide +kernel, by decide +kernel⟩,
      by decide +kernel⟩
    _ _ (by decide +kernel) 0 (by decide +kernel)

end Payroll
