import Clarisal.Payroll.Gate
import Clarisal.Payroll.Reconciliation

/-!
# Arrears on payslips

The arrears of a run are read when it is calculated and marked as included when
it is finalized, by two queries over the same rows. The marked rows are those
the gross pay was made with (`arrearsConserved_of_settled`) when nothing is
added in between and their sum is not negative: negative arrears are not
counted, and marked all the same.
-/

open Approvals

namespace Payroll

open Transaction PayrollTables

/-! ## What the gross pay is made of -/

/-- A line of the assignment that is counted in the gross pay. -/
def SnapshotLine.isPay (line : SnapshotLine) : Bool :=
  line.componentType.group = .earnings ∧ line.autoCalculated = false
    ∧ line.componentCode ≠ "PF_EMPLOYEE" ∧ line.componentCode ≠ "PF_EMPLOYER"

/-- The line of a reimbursed claim. -/
def SnapshotLine.isReimbursed (line : SnapshotLine) : Bool :=
  line.componentType.group = .earnings ∧ line.autoCalculated = true
    ∧ line.componentCode ≠ "PF_EMPLOYEE" ∧ line.componentCode ≠ "PF_EMPLOYER"

def payTotal (lines : List SnapshotLine) : ℚ :=
  linesTotal .earnings (lines.filter SnapshotLine.isPay)

def reimbursedTotal (lines : List SnapshotLine) : ℚ :=
  linesTotal .earnings (lines.filter SnapshotLine.isReimbursed)

/-- An amount for the days paid, as a payslip states them. -/
def PayslipSnapshot.prorate (s : PayslipSnapshot) (amount : ℚ) : ℚ :=
  if s.paidDays < s.totalDaysInPeriod then
    normalizeDecimal (Decimal.context 28 (amount * s.proRateFactor))
  else amount

/-- **Arrears added to the gross pay** of a payslip: it pays its lines and the
arrears, for the days paid, and the reimbursements. -/
def PayslipSnapshot.Contains (s : PayslipSnapshot) (arrears : ℚ) : Prop :=
  s.grossPay = s.prorate (payTotal s.lines + arrears) + reimbursedTotal s.lines

instance (s : PayslipSnapshot) (arrears : ℚ) : Decidable (s.Contains arrears) :=
  inferInstanceAs (Decidable (_ = _))

namespace ItemInputs

variable {inp : ItemInputs}

theorem linesTotal_filter_none {g : LineGroup} {p : SnapshotLine → Bool}
    {lines : List SnapshotLine} (h : ∀ line ∈ lines, p line = false) :
    linesTotal g (lines.filter p) = 0 := by
  rw [List.filter_eq_nil_iff.mpr (fun line hline => by simp [h line hline])]
  rfl

/-- No computed line is an earning. -/
theorem group_computedLines : ∀ line ∈ inp.computedLines, line.componentType.group ≠ .earnings := by
  intro line hline
  obtain ⟨code, type, amount, rfl, htype, -⟩ := autoLine_of_mem_computedLines hline
  exact htype

theorem linesTotal_filter (g : LineGroup) (p : SnapshotLine → Bool) (lines : List SnapshotLine) :
    linesTotal g (lines.filter p)
      = (lines.map (fun line => if p line then line.amountIn g else 0)).sum := by
  induction lines with
  | nil => rfl
  | cons line lines ih =>
    rw [List.filter_cons, List.map_cons, List.sum_cons, ← ih]
    cases p line <;> simp

/-- The assignment's lines are pay, but for those of the provident fund. -/
theorem payTotal_listed : payTotal (inp.assignment.lines.map inp.listedLine)
    = (inp.assignment.lines.map (CompensationAssignmentLine.counted .earnings)).sum := by
  rw [payTotal, linesTotal_filter, List.map_map]
  refine congrArg List.sum (List.map_congr_left (fun line _ => ?_))
  cases hpf : line.isPf with
  | true =>
    have hcode : line.componentCode = "PF_EMPLOYEE" ∨ line.componentCode = "PF_EMPLOYER" := by
      simpa [CompensationAssignmentLine.isPf] using hpf
    rcases hcode with hcode | hcode <;>
      simp [SnapshotLine.isPay, CompensationAssignmentLine.counted, hcode, hpf]
  | false =>
    have hcode : line.componentCode ≠ "PF_EMPLOYEE" ∧ line.componentCode ≠ "PF_EMPLOYER" := by
      simpa [CompensationAssignmentLine.isPf] using hpf
    by_cases hgroup : line.componentType.group = .earnings <;>
      simp [listedLine_of_not_pf hpf, SnapshotLine.isPay, SnapshotLine.amountIn,
        CompensationAssignmentLine.snapshot, CompensationAssignmentLine.counted, hcode, hpf, hgroup]

theorem payTotal_itemLines : payTotal inp.itemLines
    = (inp.assignment.lines.map (CompensationAssignmentLine.counted .earnings)).sum := by
  have hcomputed : linesTotal .earnings (inp.computedLines.filter SnapshotLine.isPay) = 0 :=
    linesTotal_filter_none (fun line hline => by
      simp [SnapshotLine.isPay, group_computedLines line hline])
  have hreimbursed : linesTotal .earnings (inp.reimbursementLines.filter SnapshotLine.isPay) = 0 :=
    linesTotal_filter_none (fun line hline => by
      obtain ⟨claim, -, rfl⟩ := List.mem_map.mp hline
      simp [SnapshotLine.isPay, autoLine])
  rw [← payTotal_listed, itemLines, payTotal, List.filter_append, List.filter_append,
    linesTotal_append, linesTotal_append, hcomputed, hreimbursed, add_zero, add_zero, payTotal]

/-- The code of a reimbursement is not one of the provident fund. -/
theorem expenseCode_ne (id : ExpenseClaimId) :
    s!"EXPENSE_{id}" ≠ "PF_EMPLOYEE" ∧ s!"EXPENSE_{id}" ≠ "PF_EMPLOYER" := by
  constructor <;> intro h <;>
  · have hlist := congrArg String.toList (show "EXPENSE_" ++ toString id = _ from h)
    simp at hlist

theorem reimbursedTotal_itemLines : reimbursedTotal inp.itemLines = inp.reimbursement := by
  have hlisted : linesTotal .earnings
      ((inp.assignment.lines.map inp.listedLine).filter SnapshotLine.isReimbursed) = 0 :=
    linesTotal_filter_none (fun line hline => by
      obtain ⟨line, -, rfl⟩ := List.mem_map.mp hline
      cases hpf : line.isPf with
      | true =>
        have hcode : line.componentCode = "PF_EMPLOYEE" ∨ line.componentCode = "PF_EMPLOYER" := by
          simpa [CompensationAssignmentLine.isPf] using hpf
        rcases hcode with hcode | hcode <;> simp [SnapshotLine.isReimbursed, hcode]
      | false => simp [listedLine_of_not_pf hpf, SnapshotLine.isReimbursed,
          CompensationAssignmentLine.snapshot])
  have hcomputed : linesTotal .earnings (inp.computedLines.filter SnapshotLine.isReimbursed) = 0 :=
    linesTotal_filter_none (fun line hline => by
      simp [SnapshotLine.isReimbursed, group_computedLines line hline])
  have hall : inp.reimbursementLines.filter SnapshotLine.isReimbursed
      = inp.reimbursementLines := by
    refine List.filter_eq_self.mpr (fun line hline => ?_)
    obtain ⟨claim, -, rfl⟩ := List.mem_map.mp hline
    exact decide_eq_true ⟨rfl, rfl, expenseCode_ne claim.id⟩
  rw [itemLines, reimbursedTotal, List.filter_append, List.filter_append, linesTotal_append,
    linesTotal_append, hlisted, hcomputed, hall, linesTotal_reimbursementLines]
  simp

theorem monthTotal_earnings : inp.monthTotal .earnings = payTotal inp.itemLines
    + max inp.arrears 0 := by
  have hcomputed : linesTotal .earnings inp.computedLines = 0 := by
    refine List.sum_eq_zero (fun x hx => ?_)
    obtain ⟨line, hline, rfl⟩ := List.mem_map.mp hx
    exact if_neg (group_computedLines line hline)
  rw [monthTotal, payTotal_itemLines, hcomputed]
  simp [countedArrears, pfReplaced]

end ItemInputs

/-- A payslip states the days its item was calculated for. -/
theorem prorate_payslipSnapshot {inp : ItemInputs} {i : PayrollRunItem}
    (h : calculateItem inp = .ok (.ready i.amounts i.snapshot)) (x : ℚ) :
    i.payslipSnapshot.prorate x = inp.prorate x := by
  obtain ⟨window, pt, ptBasis, -, -, -, hsnapshot, -⟩ := calculateItem_eq_ready h
  unfold PayslipSnapshot.prorate PayrollRunItem.payslipSnapshot
  rw [hsnapshot]
  rfl

/-- **The gross pay of a ready item** contains its arrears, when they are not
negative. -/
theorem contains_of_ready {inp : ItemInputs} {i : PayrollRunItem}
    (h : calculateItem inp = .ok (.ready i.amounts i.snapshot)) :
    i.snapshot.arrears = inp.arrears ∧ i.payslipSnapshot.Contains (max i.snapshot.arrears 0) := by
  obtain ⟨window, pt, ptBasis, hwindow, hpt, hamounts, hsnapshot, -⟩ := calculateItem_eq_ready h
  have htotal : ∀ g, (inp.fullMonth window pt).total g = inp.monthTotal g :=
    inp.fullMonth_total hwindow hpt
  have harrears : i.snapshot.arrears = inp.arrears := by rw [hsnapshot]; rfl
  have hlines : i.snapshot.lines = inp.itemLines := (linesTotal_sub_total h .earnings).1
  have hgross : i.amounts.grossPay = inp.prorate (inp.monthTotal .earnings)
      + linesTotal .earnings inp.reimbursementLines := by
    have hpaise : ∀ g, OnPaise ((inp.fullMonth window pt).total g) :=
      fun g => htotal g ▸ ItemInputs.onPaise_monthTotal g
    have hfinal : (inp.finalAmounts (inp.fullMonth window pt)).total .earnings
        = inp.prorate ((inp.fullMonth window pt).total .earnings)
          + linesTotal .earnings inp.reimbursementLines :=
      ItemInputs.finalAmounts_total hpaise .earnings
    rw [htotal, ← hamounts] at hfinal
    exact hfinal
  refine ⟨harrears, ?_⟩
  show i.amounts.grossPay = _
  rw [prorate_payslipSnapshot h, hgross, ItemInputs.monthTotal_earnings, harrears,
    show i.payslipSnapshot.lines = inp.itemLines from hlines,
    ItemInputs.reimbursedTotal_itemLines, ItemInputs.linesTotal_reimbursementLines, if_pos rfl]

/-! ## The arrears of a request -/

/-- The amounts of the employee's arrears of a run that are marked as included. -/
def PayrollTables.includedArrears (t : PayrollTables) (employee : EmployeeId)
    (payRun : PayrollRunId) : ℚ :=
  ((t.arrears.filter (fun a => a.employee = employee ∧ a.payRun = some payRun
    ∧ a.isIncludedInPayslip = true)).map Arrears.amount).sum

/-- The amounts of those that are not. -/
def PayrollTables.openArrearsTotal (t : PayrollTables) (employee : EmployeeId)
    (payRun : PayrollRunId) : ℚ :=
  ((t.openArrears employee payRun).map Arrears.amount).sum

/-- **Nothing is added in between.** Arrears are created open; and when a run is
finalized, the open arrears of its employees are those its items were
calculated with, and not negative. -/
def ArrearsSettled (st : State) : Op → Prop
  | .createArrears row => row.isIncludedInPayslip = false
  | .finalizePayRun id _ => ∀ i ∈ st.subjects.readyItems id,
    0 ≤ i.snapshot.arrears ∧ st.subjects.openArrearsTotal i.employee id = i.snapshot.arrears
  | _ => True

instance (st : State) : ∀ op : Op, Decidable (ArrearsSettled st op)
  | .createArrears row => inferInstanceAs (Decidable (row.isIncludedInPayslip = false))
  | .finalizePayRun id _ => inferInstanceAs (Decidable (∀ i ∈ st.subjects.readyItems id,
      0 ≤ i.snapshot.arrears ∧ st.subjects.openArrearsTotal i.employee id = i.snapshot.arrears))
  | .createPayrollRun .. | .calculatePayRun .. | .submitPayRunForApproval .. | .approveAction ..
  | .rejectAction .. | .processPendingActionEscalations .. => instDecidableTrue

/-- **Arrears are conserved**: the rows marked as included for the employee and
run of a payslip add up to the arrears it states, and these are what its gross
pay contains. -/
def ArrearsConserved (t : PayrollTables) : Prop :=
  ∀ s ∈ t.payslips, t.includedArrears s.employee s.payRun = s.snapshot.arrears
    ∧ s.snapshot.Contains (t.includedArrears s.employee s.payRun)

instance (t : PayrollTables) : Decidable (ArrearsConserved t) :=
  inferInstanceAs (Decidable (∀ s ∈ t.payslips, _ ∧ _))

/-- **The invariant**: marked arrears are of finalized runs, and every ready
item's gross pay contains its arrears. -/
structure ArrearsInv (st : State) : Prop where
  ledger : Ledger st
  marked : ∀ a ∈ st.subjects.arrears, a.isIncludedInPayslip = true →
    ∃ id, a.payRun = some id ∧ Finalized st.subjects id
  items : ∀ i ∈ st.subjects.items, i.status = .ready →
    i.payslipSnapshot.Contains (max i.snapshot.arrears 0)
  conserved : ArrearsConserved st.subjects

section

variable {st st' : State} {op : Op} {t t' : PayrollTables} {p : PayrollRun}

/-- **The arrears across a change**: as they are, with a new row, or marked by a
finalization. -/
theorem arrears_of_change (hc : Change st st' op) :
    st'.subjects.arrears = st.subjects.arrears
    ∨ (∃ row, op = .createArrears row ∧ st'.subjects.arrears = st.subjects.arrears ++ [row])
    ∨ ∃ p skipApproval, op = .finalizePayRun p.id skipApproval
      ∧ (p ∈ st.subjects.payRuns ∧ p.status ≠ .finalized)
      ∧ finalizeWrites p st.subjects = .ok st'.subjects := by
  cases hc with
  | quiet hcloses hsubjects => exact Or.inl (by rw [hsubjects])
  | decided run decision id hrun hpending hsubject houtline hsubjects =>
    exact Or.inl (by rw [hsubjects]; rfl)
  | created organisation periodYear periodMonth runType useAttendanceInputs hdb hsubjects =>
    exact Or.inl (by rw [hsubjects]; rfl)
  | arrears row hdb hsubjects => exact Or.inr (Or.inl ⟨row, rfl, by rw [hsubjects]⟩)
  | calculated inputs p approvalRun hp hopen hcloses hnone hok =>
    obtain ⟨t₁, hadds, hsubjects⟩ := calculateWrites_eq_ok hok
    rw [hsubjects]
    exact Or.inl hadds.arrears
  | submitted submission p r hp hcalculated hfresh houtline hsubjects =>
    exact Or.inl (by rw [hsubjects]; rfl)
  | finalized p skipApproval hp hstatus hdb hok =>
    refine Or.inr (Or.inr ⟨p, skipApproval, rfl, ⟨hp, ?_⟩, hok⟩)
    rcases hstatus with hstatus | ⟨hstatus, -⟩ <;> simp [hstatus]

theorem sum_filter_eq (q : Arrears → Prop) [DecidablePred q] (rows : List Arrears) :
    ((rows.filter (fun a => q a)).map Arrears.amount).sum
      = (rows.map (fun a => if q a then a.amount else 0)).sum := by
  rw [List.sum_map_ite]
  simp

/-- Only the arrears of the run finalized are marked. -/
theorem includedArrears_of_ne {employee : EmployeeId} {id : PayrollRunId}
    (hok : finalizeWrites p t = .ok t') (hne : id ≠ p.id) :
    t'.includedArrears employee id = t.includedArrears employee id := by
  unfold includedArrears
  rw [sum_filter_eq, sum_filter_eq, (finalizeWrites_arrears hok).1, Table.update, List.map_map]
  refine congrArg List.sum (List.map_congr_left (fun a _ => ?_))
  by_cases hrun : a.payRun = some id
  · have hother : ¬ id = p.id := hne
    simp [hrun, hother]
  · simp only [Function.comp_apply]
    split <;> simp [hrun]

/-- **A finalization marks the open arrears** of an employee with a ready item. -/
theorem includedArrears_of_ready (hok : finalizeWrites p t = .ok t')
    (hnone : ∀ a ∈ t.arrears, a.payRun = some p.id → a.isIncludedInPayslip = false)
    {i : PayrollRunItem} (hi : i ∈ t.readyItems p.id) :
    t'.includedArrears i.employee p.id = t.openArrearsTotal i.employee p.id := by
  unfold includedArrears openArrearsTotal openArrears
  rw [sum_filter_eq, sum_filter_eq, (finalizeWrites_arrears hok).1, Table.update, List.map_map]
  refine congrArg List.sum (List.map_congr_left (fun a ha => ?_))
  by_cases hrow : a.employee = i.employee ∧ a.payRun = some p.id
  · obtain ⟨hemployee, hrun⟩ := hrow
    have hopen := hnone a ha hrun
    have hmarked : ∃ j ∈ t.readyItems p.id, a.employee = j.employee ∧ a.payRun = some p.id
        ∧ a.isIncludedInPayslip = false := ⟨i, hi, hemployee, hrun, hopen⟩
    simp only [Function.comp_apply, decide_eq_true hmarked]
    simp [hemployee, hrun, hopen]
  · have hboth : ∀ b : Bool, ¬ (a.employee = i.employee ∧ a.payRun = some p.id
        ∧ a.isIncludedInPayslip = b) := fun b h => hrow ⟨h.1, h.2.1⟩
    simp only [Function.comp_apply]
    rw [if_neg (hboth false)]
    split
    · exact if_neg (fun h => hrow ⟨h.1, h.2.1⟩)
    · exact if_neg (hboth true)

/-- An item that is ready shows the arrears that were added to its lines. -/
theorem contains_of_change (h : ArrearsInv st) (hc : Change st st' op) :
    ∀ i ∈ st'.subjects.items, i.status = .ready →
      i.payslipSnapshot.Contains (max i.snapshot.arrears 0) := by
  intro i hi hready
  rcases item_of_change h.ledger hc hi with hold | ⟨inputs, p, -, approvalRun, -, hok, hmem⟩
  · exact h.items i hold hready
  · obtain ⟨himem, hirun⟩ := mem_runItems.mp hmem
    obtain ⟨inp, -, -, -, -, -, -, hcalc⟩ :=
      exists_calculateItem hok (i := i) (mem_readyItems.mpr ⟨himem, hirun, hready⟩)
    exact (contains_of_ready hcalc).2

/-- Arrears are marked by a finalization of their run only. -/
theorem marked_of_change (h : ArrearsInv st) (hop : ArrearsSettled st op) (hc : Change st st' op) :
    ∀ a ∈ st'.subjects.arrears, a.isIncludedInPayslip = true →
      ∃ id, a.payRun = some id ∧ Finalized st'.subjects id := by
  have hmarked : ∀ a ∈ st.subjects.arrears, a.isIncludedInPayslip = true →
      ∃ id, a.payRun = some id ∧ Finalized st'.subjects id := by
    intro a ha hmarked
    obtain ⟨id, hrun, hf⟩ := h.marked a ha hmarked
    exact ⟨id, hrun, (frozen_of_change h.ledger hc hf).finalized⟩
  intro a ha hnew
  rcases arrears_of_change hc with hsame | ⟨row, rfl, hrows⟩ | ⟨p, skip, rfl, hp, hok⟩
  · exact hmarked a (hsame ▸ ha) hnew
  · rw [hrows] at ha
    rcases List.mem_append.mp ha with ha | ha
    · exact hmarked a ha hnew
    · rw [List.mem_singleton.mp ha, show row.isIncludedInPayslip = false from hop] at hnew
      cases hnew
  · rw [(finalizeWrites_arrears hok).1, Table.mem_update_iff] at ha
    rcases ha with ⟨a₀, -, hmatch, rfl⟩ | ⟨ha, -⟩
    · obtain ⟨i, -, -, hrun, -⟩ := of_decide_eq_true hmatch
      have hopen : ¬ Finalized st.subjects p.id :=
        fun hf => h.ledger.ne_of_finalized hp.1 hp.2 p.id hf rfl
      exact ⟨p.id, hrun,
        (finalized_finalizeWrites h.ledger.keys hp.1 hopen hok p.id).mpr (Or.inr rfl)⟩
    · exact hmarked a ha hnew

/-- The arrears of a payslip that is out are the same after a change. -/
theorem includedArrears_of_change (h : ArrearsInv st) (hop : ArrearsSettled st op)
    (hc : Change st st' op) {s : Payslip} (hs : s ∈ st.subjects.payslips) :
    st'.subjects.includedArrears s.employee s.payRun
      = st.subjects.includedArrears s.employee s.payRun := by
  rcases arrears_of_change hc with hsame | ⟨row, rfl, hrows⟩ | ⟨p, skip, rfl, hp, hok⟩
  · unfold includedArrears
    rw [hsame]
  · have hopen : row.isIncludedInPayslip = false := hop
    unfold includedArrears
    rw [hrows, List.filter_append, List.filter_cons_of_neg (by simp [hopen]), List.filter_nil,
      List.append_nil]
  · refine includedArrears_of_ne hok (fun hid => ?_)
    obtain ⟨q, hq, hqfinal, i, -, -, rfl⟩ := h.ledger.issued s hs
    exact h.ledger.ne_of_finalized hp.1 hp.2 q.id ⟨q, hq, rfl, hqfinal⟩ hid

/-- **The arrears a payslip paid** are the ones marked for it, on a payslip that
was out as on one that is new. -/
theorem conserved_of_change (h : ArrearsInv st) (hop : ArrearsSettled st op)
    (hc : Change st st' op) : ArrearsConserved st'.subjects := by
  intro s hs
  by_cases hold : s ∈ st.subjects.payslips
  · rw [includedArrears_of_change h hop hc hold]
    exact h.conserved s hold
  · obtain ⟨p, hp, hopen, ⟨skip, rfl⟩, hok, i, hi, rfl⟩ :=
      payslip_new_of_change h.ledger hc hs hold
    obtain ⟨hnonneg, htotal⟩ := hop i hi
    obtain ⟨himem, -, hready⟩ := mem_readyItems.mp hi
    -- no row of a run that is not finalized is marked
    have hnone : ∀ a ∈ st.subjects.arrears, a.payRun = some p.id →
        a.isIncludedInPayslip = false := by
      intro a ha hrun
      by_contra hmarked
      obtain ⟨id, hid, hf⟩ := h.marked a ha (by simpa using hmarked)
      exact h.ledger.ne_of_finalized hp hopen id hf (Option.some.inj (hid.symm.trans hrun))
    have hincluded := includedArrears_of_ready hok hnone hi
    have hcontains := h.items i himem hready
    rw [max_eq_left hnonneg] at hcontains
    show st'.subjects.includedArrears i.employee p.id = i.snapshot.arrears
      ∧ i.payslipSnapshot.Contains (st'.subjects.includedArrears i.employee p.id)
    rw [hincluded, htotal]
    exact ⟨rfl, hcontains⟩

/-- **Every request that adds nothing in between keeps the invariant.** -/
theorem arrearsInv_step (h : ArrearsInv st) (hop : ArrearsSettled st op) :
    ArrearsInv (step st op) where
  ledger := ledger_step h.ledger op
  marked := marked_of_change h hop (change_step h.ledger op)
  items := contains_of_change h (change_step h.ledger op)
  conserved := conserved_of_change h hop (change_step h.ledger op)

theorem arrearsInv_initial (stages : StageTable) (expenseClaims : List ExpenseClaim) :
    ArrearsInv (EngineState.initial stages (.initial expenseClaims)) where
  ledger := ledger_initial stages expenseClaims
  marked _ ha := absurd ha List.not_mem_nil
  items _ hi := absurd hi List.not_mem_nil
  conserved _ hs := absurd hs List.not_mem_nil

end

namespace Sample

/-- Calculated, submitted, approved and finalized, with arrears of the run
added before and after the calculation. -/
def runWithArrears (before after : List ℚ) : List Op :=
  let row (amount : ℚ) : Op := .createArrears
    { employee := 1, payRun := some 0, amount := amount, isIncludedInPayslip := false }
  [.createPayrollRun 1 2024 4 .regular false] ++ before.map row
    ++ [.calculatePayRun calculation 0] ++ after.map row
    ++ [.submitPayRunForApproval submission 0,
      .approveAction Approvals.Sample.user (Approvals.Sample.directory 0) 1 102 "",
      .finalizePayRun 0 false]

end Sample

/-- **Negative arrears** are marked and not taken back. -/
theorem negative_arrears_not_taken_back :
    ¬ ArrearsConserved (reached Sample.stages [] (Sample.runWithArrears [-500] [])).subjects := by
  decide +kernel

end Payroll
