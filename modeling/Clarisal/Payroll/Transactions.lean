import Clarisal.Payroll.PayRuns

/-!
# What each payroll transaction does

One lemma for each transaction on the payroll tables says what a committed
call has done. A calculation replaces the items of its run; a finalization
gives each ready item its payslip; neither touches another run.
-/

open Approvals

namespace Payroll

open Transaction

namespace PayrollTables

variable {t t' : PayrollTables} {id : PayrollRunId}

theorem getPayRun_mem {p : PayrollRun} (h : t.getPayRun id = some p) :
    p ∈ t.payRuns ∧ p.id = id :=
  ⟨Table.find_mem h, Table.find_key h⟩

theorem mem_runItems {i : PayrollRunItem} : i ∈ t.runItems id ↔ i ∈ t.items ∧ i.payRun = id := by
  simp [runItems]

theorem mem_runPayslips {s : Payslip} :
    s ∈ t.runPayslips id ↔ s ∈ t.payslips ∧ s.payRun = id := by
  simp [runPayslips]

theorem mem_readyItems {i : PayrollRunItem} :
    i ∈ t.readyItems id ↔ i ∈ t.items ∧ i.payRun = id ∧ i.status = .ready := by
  simp [readyItems, mem_runItems, and_assoc]

/-- **The keys of the tables.** -/
structure Keys (t : PayrollTables) : Prop where
  uniqueRun : Table.Unique PayrollRun.id t.payRuns
  uniqueItem : Table.Unique PayrollRunItem.id t.items
  freshRun : ∀ p ∈ t.payRuns, p.id < t.nextId
  freshItem : ∀ i ∈ t.items, i.id < t.nextId

theorem Keys.run_eq (h : t.Keys) {p q : PayrollRun} (hp : p ∈ t.payRuns) (hq : q ∈ t.payRuns)
    (hid : p.id = q.id) : p = q :=
  h.uniqueRun.eq_of_key hp hq hid

theorem Keys.item_eq (h : t.Keys) {i j : PayrollRunItem} (hi : i ∈ t.items) (hj : j ∈ t.items)
    (hid : i.id = j.id) : i = j :=
  h.uniqueItem.eq_of_key hi hj hid

/-- A pay run rewritten in place. -/
theorem mem_updatePayRun {f : PayrollRun → PayrollRun} {p : PayrollRun} :
    p ∈ (t.updatePayRun id f).payRuns
      ↔ (∃ p₀ ∈ t.payRuns, p₀.id = id ∧ f p₀ = p) ∨ (p ∈ t.payRuns ∧ p.id ≠ id) := by
  simp [updatePayRun, Table.mem_update_iff]

theorem Keys.updatePayRun (h : t.Keys) {f : PayrollRun → PayrollRun}
    (hf : ∀ p, (f p).id = p.id) : (t.updatePayRun id f).Keys where
  uniqueRun := h.uniqueRun.update hf
  uniqueItem := h.uniqueItem
  freshRun p hp := by
    rcases mem_updatePayRun.mp hp with ⟨p₀, hp₀, -, rfl⟩ | ⟨hp, -⟩
    · exact (hf p₀).symm ▸ h.freshRun p₀ hp₀
    · exact h.freshRun p hp
  freshItem := h.freshItem

/-! ## Calculating -/

/-- **What a calculation adds**: items of its run, under new identifiers. -/
structure AddsItems (id : PayrollRunId) (t t' : PayrollTables) : Prop where
  payRuns : t'.payRuns = t.payRuns
  payslips : t'.payslips = t.payslips
  arrears : t'.arrears = t.arrears
  nextId : t.nextId ≤ t'.nextId
  keys : t.Keys → t'.Keys
  items : ∃ new, t'.items = t.items ++ new ∧ ∀ i ∈ new, i.payRun = id ∧ t.nextId ≤ i.id

namespace AddsItems

theorem refl (id : PayrollRunId) (t : PayrollTables) : AddsItems id t t :=
  ⟨rfl, rfl, rfl, le_rfl, fun h => h, [], by simp, by simp⟩

theorem trans {t'' : PayrollTables} (h : AddsItems id t t') (h' : AddsItems id t' t'') :
    AddsItems id t t'' where
  payRuns := h'.payRuns.trans h.payRuns
  payslips := h'.payslips.trans h.payslips
  arrears := h'.arrears.trans h.arrears
  nextId := h.nextId.trans h'.nextId
  keys hk := h'.keys (h.keys hk)
  items := by
    obtain ⟨new, hitems, hnew⟩ := h.items
    obtain ⟨new', hitems', hnew'⟩ := h'.items
    refine ⟨new ++ new', by rw [hitems', hitems, List.append_assoc], fun i hi => ?_⟩
    rcases List.mem_append.mp hi with hi | hi
    · exact hnew i hi
    · exact ⟨(hnew' i hi).1, h.nextId.trans (hnew' i hi).2⟩

/-- The items of another run stay as they are. -/
theorem runItems_eq (h : AddsItems id t t') {id' : PayrollRunId} (hne : id' ≠ id) :
    t'.runItems id' = t.runItems id' := by
  obtain ⟨new, hitems, hnew⟩ := h.items
  have hnone : new.filter (fun i => decide (i.payRun = id')) = [] := by
    refine List.filter_eq_nil_iff.mpr (fun i hi => ?_)
    simpa [(hnew i hi).1] using hne.symm
  rw [runItems, hitems, List.filter_append, hnone, List.append_nil, runItems]

end AddsItems

end PayrollTables

open PayrollTables

variable {t t' : PayrollTables} {inputs : CalculationInputs} {payRun : PayrollRun}

@[simp] theorem ItemOutcome.item_id (id : PayrollRunItemId) (payRun : PayrollRunId)
    (employee : EmployeeId) (outcome : ItemOutcome) :
    (outcome.item id payRun employee).id = id := by
  cases outcome <;> rfl

@[simp] theorem ItemOutcome.item_payRun (id : PayrollRunItemId) (payRun : PayrollRunId)
    (employee : EmployeeId) (outcome : ItemOutcome) :
    (outcome.item id payRun employee).payRun = payRun := by
  cases outcome <;> rfl

/-- A round of the employee loop appends the employee's item. -/
theorem calculateEmployee_eq_ok {period : PayPeriod} {claims : List ExpenseClaim}
    {employee : Employee}
    (h : inputs.calculateEmployee payRun period claims t employee = .ok t') :
    ∃ outcome, inputs.employeeOutcome payRun period claims employee t = .ok outcome
      ∧ t'.items = t.items ++ [outcome.item t.nextId payRun.id employee.id]
      ∧ t'.nextId = t.nextId + 1 ∧ t'.payRuns = t.payRuns ∧ t'.payslips = t.payslips
      ∧ t'.arrears = t.arrears := by
  obtain ⟨outcome, houtcome, h⟩ := bind_eq_ok_iff.mp h
  obtain ⟨t₁, hcreate, h⟩ := bind_eq_ok_iff.mp h
  refine ⟨outcome, houtcome, ?_⟩
  unfold createItem at hcreate
  split at hcreate
  · cases hcreate
  · obtain rfl := Except.ok.inj hcreate
    cases outcome with
    | ready amounts snapshot =>
      obtain rfl := pure_eq_ok_iff.mp h
      exact ⟨rfl, rfl, rfl, rfl, rfl⟩
    | exception message =>
      obtain rfl := pure_eq_ok_iff.mp h
      exact ⟨rfl, rfl, rfl, rfl, rfl⟩

/-- A ready outcome is one of `calculateItem`. -/
theorem employeeOutcome_eq_ready {period : PayPeriod} {claims : List ExpenseClaim}
    {employee : Employee} {amounts : ItemAmounts} {snapshot : ItemSnapshot}
    (h : inputs.employeeOutcome payRun period claims employee t
      = .ok (.ready amounts snapshot)) :
    ∃ stateCode assignment taxSlabSet,
      calculateItem (inputs.itemInputs payRun period stateCode employee assignment taxSlabSet
        claims t) = .ok (.ready amounts snapshot) := by
  unfold CalculationInputs.employeeOutcome at h
  split at h
  · cases h
  · split at h
    · cases h
    · split at h
      · cases h
      · cases h
      · exact ⟨_, _, _, h⟩

theorem addsItems_calculateEmployee {period : PayPeriod} {claims : List ExpenseClaim}
    {employee : Employee}
    (h : inputs.calculateEmployee payRun period claims t employee = .ok t') :
    AddsItems payRun.id t t' := by
  obtain ⟨outcome, -, hitems, hnext, hruns, hslips, harrears⟩ := calculateEmployee_eq_ok h
  refine ⟨hruns, hslips, harrears, hnext ▸ Nat.le_succ _, fun hk => ?_, _, hitems, by simp⟩
  constructor
  · rw [hruns]
    exact hk.uniqueRun
  · rw [hitems]
    refine hk.uniqueItem.append_one (fun i hi => ?_)
    rw [ItemOutcome.item_id]
    exact (hk.freshItem i hi).ne
  · intro p hp
    rw [hruns] at hp
    rw [hnext]
    exact Nat.lt_succ_of_lt (hk.freshRun p hp)
  · intro i hi
    rw [hitems] at hi
    rw [hnext]
    rcases List.mem_append.mp hi with hi | hi
    · exact Nat.lt_succ_of_lt (hk.freshItem i hi)
    · rw [List.mem_singleton.mp hi, ItemOutcome.item_id]
      exact Nat.lt_succ_self _

/-- **A calculation** clears the run, adds its new items and marks it
calculated. -/
theorem calculateWrites_eq_ok (h : inputs.calculateWrites payRun t = .ok t') :
    ∃ t₁, AddsItems payRun.id (CalculationInputs.clearRun payRun t) t₁
      ∧ t' = t₁.updatePayRun payRun.id
        (fun p => { p with status := .calculated, approvalRun := payRun.approvalRun }) := by
  unfold CalculationInputs.calculateWrites at h
  split at h
  · cases h
  · next period _ =>
    obtain ⟨t₁, hloop, h⟩ := bind_eq_ok_iff.mp h
    refine ⟨t₁, ?_, (pure_eq_ok_iff.mp h).symm⟩
    exact foldlM_induction (P := AddsItems payRun.id (CalculationInputs.clearRun payRun t))
      (fun _ _ _ hP hstep => hP.trans (addsItems_calculateEmployee hstep)) (.refl _ _) hloop

/-- The run has no items left. -/
@[simp] theorem clearRun_runItems_self :
    (CalculationInputs.clearRun payRun t).runItems payRun.id = [] := by
  show (t.items.filter _).filter _ = []
  rw [List.filter_filter]
  exact List.filter_eq_nil_iff.mpr (fun i _ => by simp)

/-- **Every item of a calculated run** is the outcome of its employee, on the
payslips and arrears the calculation found. -/
theorem exists_outcome (h : inputs.calculateWrites payRun t = .ok t')
    {i : PayrollRunItem} (hi : i ∈ t'.runItems payRun.id) :
    ∃ period employee outcome t₀, period.year = payRun.periodYear
      ∧ period.month = payRun.periodMonth ∧ i = outcome.item i.id payRun.id employee.id
      ∧ t₀.payslips = (CalculationInputs.clearRun payRun t).payslips ∧ t₀.arrears = t.arrears
      ∧ inputs.employeeOutcome payRun period
        ((CalculationInputs.clearRun payRun t).pendingExpenseClaimsForPayRun payRun) employee t₀
          = .ok outcome := by
  unfold CalculationInputs.calculateWrites at h
  split at h
  · cases h
  · next period hperiod =>
    obtain ⟨hyear, hmonth⟩ := PayPeriod.ofYearMonth_eq_some hperiod
    obtain ⟨t₁, hloop, h⟩ := bind_eq_ok_iff.mp h
    obtain rfl := pure_eq_ok_iff.mp h
    refine (foldlM_induction (P := fun t₁ : PayrollTables =>
      t₁.payslips = (CalculationInputs.clearRun payRun t).payslips ∧ t₁.arrears = t.arrears
        ∧ ∀ i ∈ t₁.runItems payRun.id, ∃ period employee outcome t₀,
          period.year = payRun.periodYear ∧ period.month = payRun.periodMonth
            ∧ i = outcome.item i.id payRun.id employee.id
            ∧ t₀.payslips = (CalculationInputs.clearRun payRun t).payslips
            ∧ t₀.arrears = t.arrears
            ∧ inputs.employeeOutcome payRun period
              ((CalculationInputs.clearRun payRun t).pendingExpenseClaimsForPayRun payRun)
              employee t₀ = .ok outcome)
      (fun t₁ employee t₂ hold hstep => ?_) ⟨rfl, rfl, fun i hi => ?_⟩ hloop).2.2 i hi
    · obtain ⟨hslips, harrears, hold⟩ := hold
      obtain ⟨outcome, houtcome, hitems, -, -, hslips', harrears'⟩ := calculateEmployee_eq_ok hstep
      refine ⟨hslips'.trans hslips, harrears'.trans harrears, fun i hi => ?_⟩
      obtain ⟨hi, hrun⟩ := mem_runItems.mp hi
      rw [hitems] at hi
      rcases List.mem_append.mp hi with hi | hi
      · exact hold i (mem_runItems.mpr ⟨hi, hrun⟩)
      · obtain rfl := List.mem_singleton.mp hi
        exact ⟨period, employee, outcome, t₁, hyear, hmonth, by rw [ItemOutcome.item_id], hslips,
          harrears, houtcome⟩
    · rw [clearRun_runItems_self] at hi
      cases hi

/-- **Every ready item of a calculated run** is what the calculation of its
employee made, for the period of the run. -/
theorem exists_calculateItem (h : inputs.calculateWrites payRun t = .ok t')
    {i : PayrollRunItem} (hi : i ∈ t'.readyItems payRun.id) :
    ∃ inp : ItemInputs, inp.employee.id = i.employee ∧ inp.period.year = payRun.periodYear
      ∧ inp.period.month = payRun.periodMonth
      ∧ inp.payslips = (CalculationInputs.clearRun payRun t).payslips.filter
        (fun s => s.employee = i.employee)
      ∧ inp.arrearsAmounts = (t.openArrears i.employee payRun.id).map Arrears.amount
      ∧ inp.expenseClaims = ((CalculationInputs.clearRun payRun t).pendingExpenseClaimsForPayRun
        payRun).filter (fun c => c.employee = i.employee)
      ∧ calculateItem inp = .ok (.ready i.amounts i.snapshot) := by
  obtain ⟨hi, hrun, hready⟩ := mem_readyItems.mp hi
  obtain ⟨period, employee, outcome, t₀, hyear, hmonth, hitem, hslips, harrears, houtcome⟩ :=
    exists_outcome h (mem_runItems.mpr ⟨hi, hrun⟩)
  rw [hitem] at hready ⊢
  cases outcome with
  | exception message => cases hready
  | ready amounts snapshot =>
    obtain ⟨stateCode, assignment, taxSlabSet, hcalc⟩ := employeeOutcome_eq_ready houtcome
    refine ⟨_, rfl, hyear, hmonth, ?_, ?_, rfl, hcalc⟩
    · rw [← hslips]
      rfl
    · show (t₀.arrears.filter _).map _ = (t.arrears.filter _).map _
      rw [harrears]
      rfl

/-- **Whom a ready item is of**: an active employee of the run's organisation, with the
assignment in force. -/
theorem exists_itemInputs (h : inputs.calculateWrites payRun t = .ok t') {i : PayrollRunItem}
    (hi : i ∈ t'.readyItems payRun.id) :
    ∃ period employee stateCode assignment taxSlabSet claims t₀,
      employee ∈ inputs.employees ∧ employee.organisation = payRun.organisation
      ∧ employee.status = .active ∧ employee.id = i.employee
      ∧ period.year = payRun.periodYear ∧ period.month = payRun.periodMonth
      ∧ inputs.assignmentFor period employee.id = some assignment
      ∧ calculateItem (inputs.itemInputs payRun period stateCode employee assignment taxSlabSet
        claims t₀) = .ok (.ready i.amounts i.snapshot) := by
  unfold CalculationInputs.calculateWrites at h
  split at h
  · cases h
  · next period hperiod =>
    obtain ⟨hyear, hmonth⟩ := PayPeriod.ofYearMonth_eq_some hperiod
    obtain ⟨t₁, hloop, h⟩ := bind_eq_ok_iff.mp h
    obtain rfl := pure_eq_ok_iff.mp h
    have hrounds := foldlM_induction_of_mem (P := fun t₁ : PayrollTables =>
      ∀ i ∈ t₁.runItems payRun.id, i.status = .ready →
        ∃ employee ∈ inputs.employees.filter (fun e =>
            e.organisation = payRun.organisation ∧ e.status = .active),
          employee.id = i.employee ∧ ∃ claims t₀, inputs.employeeOutcome payRun period claims
            employee t₀ = .ok (.ready i.amounts i.snapshot))
      (fun t₁ employee hemployee t₂ hold hstep i hi hready => ?_) (fun i hi => ?_) hloop
    · obtain ⟨hi, hrun, hready⟩ := mem_readyItems.mp hi
      obtain ⟨employee, hemployee, hid, claims, t₀, houtcome⟩ :=
        hrounds i (mem_runItems.mpr ⟨hi, hrun⟩) hready
      obtain ⟨hmem, hactive⟩ := List.mem_filter.mp hemployee
      obtain ⟨horganisation, hstatus⟩ := of_decide_eq_true hactive
      unfold CalculationInputs.employeeOutcome at houtcome
      split at houtcome
      · cases houtcome
      · split at houtcome
        · cases houtcome
        · next assignment hassignment =>
          split at houtcome
          · cases houtcome
          · cases houtcome
          · exact ⟨period, employee, _, assignment, _, claims, t₀, hmem, horganisation, hstatus,
              hid, hyear, hmonth, hassignment, houtcome⟩
    · obtain ⟨outcome, houtcome, hitems, -⟩ := calculateEmployee_eq_ok hstep
      obtain ⟨hi, hrun⟩ := mem_runItems.mp hi
      rw [hitems] at hi
      rcases List.mem_append.mp hi with hi | hi
      · exact hold i (mem_runItems.mpr ⟨hi, hrun⟩) hready
      · obtain rfl := List.mem_singleton.mp hi
        cases outcome with
        | exception message => cases hready
        | ready amounts snapshot => exact ⟨employee, hemployee, rfl, _, t₁, houtcome⟩
    · rw [clearRun_runItems_self] at hi
      cases hi

/-- An item that is not ready remembers nothing. -/
theorem snapshot_of_not_ready (h : inputs.calculateWrites payRun t = .ok t')
    {i : PayrollRunItem} (hi : i ∈ t'.runItems payRun.id) (hready : i.status ≠ .ready) :
    i.snapshot = {} := by
  obtain ⟨_, _, outcome, _, -, -, hitem, -⟩ := exists_outcome h hi
  rw [hitem] at hready ⊢
  cases outcome with
  | exception message => rfl
  | ready amounts snapshot => exact absurd rfl hready

@[simp] theorem clearRun_payRuns : (CalculationInputs.clearRun payRun t).payRuns = t.payRuns := rfl

@[simp] theorem clearRun_nextId : (CalculationInputs.clearRun payRun t).nextId = t.nextId := rfl

theorem clearRun_runItems {id : PayrollRunId} (hne : id ≠ payRun.id) :
    (CalculationInputs.clearRun payRun t).runItems id = t.runItems id := by
  show (t.items.filter _).filter _ = t.items.filter _
  rw [List.filter_filter]
  refine List.filter_congr (fun i _ => ?_)
  by_cases hi : i.payRun = id <;> simp [hi, hne]

theorem mem_clearRun_payslips {s : Payslip} :
    s ∈ (CalculationInputs.clearRun payRun t).payslips
      ↔ s ∈ t.payslips ∧ ∀ i ∈ t.items, i.payRun = payRun.id → i.id ≠ s.payRunItem := by
  simp [CalculationInputs.clearRun, deleteItems, resetExpenseClaimsForPayRun, runItems]

theorem PayrollTables.Keys.clearRun (h : t.Keys) : (CalculationInputs.clearRun payRun t).Keys where
  uniqueRun := h.uniqueRun
  uniqueItem := h.uniqueItem.filter _
  freshRun := h.freshRun
  freshItem i hi := h.freshItem i (List.mem_of_mem_filter hi)

/-! ## Finalizing -/

/-- **What a finalization issues**: each item's payslip, in place of any the
item had. -/
structure IssuesPayslips (payRun : PayrollRun) (rows : List PayrollRunItem)
    (t t' : PayrollTables) : Prop where
  payRuns : t'.payRuns = t.payRuns
  items : t'.items = t.items
  nextId : t'.nextId = t.nextId
  payslips : ∀ s, s ∈ t'.payslips
    ↔ (s ∈ t.payslips ∧ ∀ i : PayrollRunItem, i ∈ rows → i.id ≠ s.payRunItem)
      ∨ ∃ i ∈ rows, s = PayrollRunItem.payslip payRun i

@[simp] theorem payslip_payRunItem (item : PayrollRunItem) :
    (item.payslip payRun).payRunItem = item.id := rfl

@[simp] theorem payslip_payRun (item : PayrollRunItem) :
    (item.payslip payRun).payRun = payRun.id := rfl

theorem updateOrCreatePayslip_eq_ok {item : PayrollRunItem}
    (h : t.updateOrCreatePayslip payRun item = .ok t') :
    IssuesPayslips payRun [item] t t' := by
  unfold updateOrCreatePayslip at h
  split at h
  · next hany =>
    obtain rfl := Except.ok.inj h
    obtain ⟨s₀, hs₀, hitem⟩ := List.any_eq_true.mp hany
    refine ⟨rfl, rfl, rfl, fun s => ?_⟩
    rw [Table.mem_update_iff]
    constructor
    · rintro (⟨_, _, _, rfl⟩ | ⟨hs, hne⟩)
      · exact Or.inr ⟨item, List.mem_singleton_self _, rfl⟩
      · refine Or.inl ⟨hs, fun i hi hid => ?_⟩
        rw [List.mem_singleton.mp hi] at hid
        simp [hid] at hne
    · rintro (⟨hs, hne⟩ | ⟨i, hi, rfl⟩)
      · exact Or.inr ⟨hs, by simpa using fun hid => hne item (List.mem_singleton_self _) hid.symm⟩
      · rw [List.mem_singleton.mp hi]
        exact Or.inl ⟨s₀, hs₀, hitem, rfl⟩
  · next hnone =>
    split at h
    · cases h
    · obtain rfl := Except.ok.inj h
      refine ⟨rfl, rfl, rfl, fun s => ?_⟩
      have hall : ∀ s ∈ t.payslips, item.id ≠ s.payRunItem := by
        intro s hs hid
        exact hnone (List.any_eq_true.mpr ⟨s, hs, by simpa using hid.symm⟩)
      simp only [List.mem_append, List.mem_singleton, forall_eq, exists_eq_left]
      exact or_congr_left ⟨fun hs => ⟨hs, hall s hs⟩, fun hs => hs.1⟩

theorem finalizeItem_eq_ok {item : PayrollRunItem} (h : finalizeItem payRun t item = .ok t') :
    IssuesPayslips payRun [item] t t' := by
  obtain ⟨t₁, hslip, h⟩ := bind_eq_ok_iff.mp h
  obtain rfl := pure_eq_ok_iff.mp h
  obtain ⟨hruns, hitems, hnext, hslips⟩ := updateOrCreatePayslip_eq_ok hslip
  exact ⟨hruns, hitems, hnext, hslips⟩

/-- Issuing one item after others. -/
theorem IssuesPayslips.cons {t'' : PayrollTables} {item : PayrollRunItem}
    {items : List PayrollRunItem} (h : IssuesPayslips payRun [item] t t')
    (h' : IssuesPayslips payRun items t' t'') (hnew : ∀ i ∈ items, i.id ≠ item.id) :
    IssuesPayslips payRun (item :: items) t t'' where
  payRuns := h'.payRuns.trans h.payRuns
  items := h'.items.trans h.items
  nextId := h'.nextId.trans h.nextId
  payslips s := by
    rw [h'.payslips, h.payslips]
    simp only [List.mem_singleton, forall_eq, exists_eq_left, List.forall_mem_cons,
      List.exists_mem_cons_iff]
    constructor
    · rintro (⟨⟨hs, hitem⟩ | rfl, hitems⟩ | hs)
      · exact Or.inl ⟨hs, hitem, hitems⟩
      · exact Or.inr (Or.inl rfl)
      · exact Or.inr (Or.inr hs)
    · rintro (⟨hs, hitem, hitems⟩ | rfl | hs)
      · exact Or.inl ⟨Or.inl ⟨hs, hitem⟩, hitems⟩
      · exact Or.inl ⟨Or.inr rfl, hnew⟩
      · exact Or.inr hs

theorem IssuesPayslips.keys {items : List PayrollRunItem} (h : IssuesPayslips payRun items t t')
    (hkeys : t.Keys) : t'.Keys := by
  obtain ⟨hruns, hitems, hnext, -⟩ := h
  constructor
  · rw [hruns]
    exact hkeys.uniqueRun
  · rw [hitems]
    exact hkeys.uniqueItem
  · rw [hruns, hnext]
    exact hkeys.freshRun
  · rw [hitems, hnext]
    exact hkeys.freshItem

theorem IssuesPayslips.nil (t : PayrollTables) : IssuesPayslips payRun [] t t :=
  ⟨rfl, rfl, rfl, by simp⟩

/-- **A finalization** finds ready items and no exception, issues the
payslips of the ready items and marks the run finalized. -/
theorem finalizeWrites_eq_ok (hkeys : t.Keys) (h : finalizeWrites payRun t = .ok t') :
    ∃ t₁, IssuesPayslips payRun (t.readyItems payRun.id) t t₁
      ∧ t' = t₁.updatePayRun payRun.id (fun p => { p with status := .finalized }) := by
  obtain ⟨_, -, h⟩ := bind_eq_ok_iff.mp h
  obtain ⟨t₁, hloop, h⟩ := bind_eq_ok_iff.mp h
  refine ⟨t₁, ?_, (pure_eq_ok_iff.mp h).symm⟩
  have hunique : Table.Unique PayrollRunItem.id (t.readyItems payRun.id) :=
    (hkeys.uniqueItem.filter _).filter _
  -- the items still to come never share the identifier of one already issued
  have hissue : ∀ (items : List PayrollRunItem), Table.Unique PayrollRunItem.id items →
      ∀ t, items.foldlM (finalizeItem payRun) t = .ok t₁ → IssuesPayslips payRun items t t₁ := by
    intro items
    induction items with
    | nil =>
      intro _ t hloop
      cases hloop
      exact .nil _
    | cons item items ih =>
      intro hunique t hloop
      rw [List.foldlM_cons, bind_eq_ok_iff] at hloop
      obtain ⟨t₂, hitem, hrest⟩ := hloop
      obtain ⟨hnotin, hunique⟩ :=
        List.nodup_cons.mp (show (item.id :: items.map _).Nodup from hunique)
      refine (finalizeItem_eq_ok hitem).cons (ih hunique t₂ hrest) (fun i hi hid => ?_)
      exact hnotin (hid ▸ List.mem_map_of_mem hi)
  exact hissue _ hunique t hloop

/-- What issuing one item does to the arrears and the claims. -/
theorem finalizeItem_arrears {item : PayrollRunItem}
    (h : finalizeItem payRun t item = .ok t') :
    t'.arrears = (t.includeArrears item.employee payRun.id).arrears
      ∧ t'.expenseClaims = (t.markExpenseClaimsPaidForPayRunItem item.id).expenseClaims := by
  obtain ⟨t₁, hslip, h⟩ := bind_eq_ok_iff.mp h
  obtain rfl := pure_eq_ok_iff.mp h
  unfold updateOrCreatePayslip at hslip
  split at hslip
  · obtain rfl := Except.ok.inj hslip
    exact ⟨rfl, rfl⟩
  · split at hslip
    · cases hslip
    · obtain rfl := Except.ok.inj hslip
      exact ⟨rfl, rfl⟩

theorem foldlM_finalizeItem {rows : List PayrollRunItem}
    (h : rows.foldlM (finalizeItem payRun) t = .ok t') :
    t'.arrears = Table.update (fun a => ∃ i ∈ rows, a.employee = i.employee
          ∧ a.payRun = some payRun.id ∧ a.isIncludedInPayslip = false)
        (fun a => { a with isIncludedInPayslip := true }) t.arrears
      ∧ t'.expenseClaims = Table.update (fun c => ∃ i ∈ rows,
          c.reimbursementPayRunItem = some i.id ∧ c.reimbursementStatus = .includedInPayroll)
        (fun c => { c with reimbursementStatus := .paid }) t.expenseClaims := by
  induction rows generalizing t with
  | nil =>
    cases h
    simp [Table.update]
  | cons item rows ih =>
    rw [List.foldlM_cons, bind_eq_ok_iff] at h
    obtain ⟨t₁, hitem, hrest⟩ := h
    obtain ⟨harrears, hclaims⟩ := finalizeItem_arrears hitem
    obtain ⟨harrears', hclaims'⟩ := ih hrest
    rw [harrears', hclaims', harrears, hclaims]
    constructor
    · show Table.update _ _ (Table.update _ _ t.arrears) = _
      rw [Table.update_update]
      · exact Table.update_congr (fun a _ => by simp)
      · exact fun _ => rfl
    · show Table.update _ _ (Table.update _ _ t.expenseClaims) = _
      rw [Table.update_update]
      · exact Table.update_congr (fun c _ => by simp)
      · exact fun _ => rfl

/-- **A finalization** marks the arrears of its ready items as included, and
their claims as paid. -/
theorem finalizeWrites_arrears (h : finalizeWrites payRun t = .ok t') :
    t'.arrears = Table.update (fun a => ∃ i ∈ t.readyItems payRun.id, a.employee = i.employee
          ∧ a.payRun = some payRun.id ∧ a.isIncludedInPayslip = false)
        (fun a => { a with isIncludedInPayslip := true }) t.arrears
      ∧ t'.expenseClaims = Table.update (fun c => ∃ i ∈ t.readyItems payRun.id,
          c.reimbursementPayRunItem = some i.id ∧ c.reimbursementStatus = .includedInPayroll)
        (fun c => { c with reimbursementStatus := .paid }) t.expenseClaims := by
  obtain ⟨_, -, h⟩ := bind_eq_ok_iff.mp h
  obtain ⟨t₁, hloop, h⟩ := bind_eq_ok_iff.mp h
  obtain rfl := pure_eq_ok_iff.mp h
  obtain ⟨harrears, hclaims⟩ := foldlM_finalizeItem hloop
  exact ⟨harrears, hclaims⟩

/-! ## One run at a time -/

/-- **The keys and foreign keys of the tables**: a payslip has its item. -/
structure Linked (t : PayrollTables) : Prop where
  keys : t.Keys
  owned : ∀ s ∈ t.payslips, ∃ i ∈ t.items, i.id = s.payRunItem ∧ i.payRun = s.payRun

/-- A payslip of another run is not one of an item of this run. -/
theorem Linked.item_ne (h : Linked t) {s : Payslip} (hs : s ∈ t.payslips) {i : PayrollRunItem}
    (hi : i ∈ t.items) (hne : i.payRun ≠ s.payRun) : i.id ≠ s.payRunItem := by
  obtain ⟨j, hj, hjs, hjrun⟩ := h.owned s hs
  intro hid
  rw [h.keys.item_eq hi hj (hid.trans hjs.symm)] at hne
  exact hne hjrun

/-- **Nothing happens to the other runs.** -/
structure OnlyRun (id : PayrollRunId) (t t' : PayrollTables) : Prop where
  payRuns : ∀ p, p.id ≠ id → (p ∈ t'.payRuns ↔ p ∈ t.payRuns)
  items : ∀ id', id' ≠ id → t'.runItems id' = t.runItems id'
  payslips : ∀ s, s.payRun ≠ id → (s ∈ t'.payslips ↔ s ∈ t.payslips)

theorem OnlyRun.refl (id : PayrollRunId) (t : PayrollTables) : OnlyRun id t t :=
  ⟨fun _ _ => Iff.rfl, fun _ _ => rfl, fun _ _ => Iff.rfl⟩

theorem OnlyRun.updatePayRun {id : PayrollRunId} (h : OnlyRun id t t')
    {f : PayrollRun → PayrollRun} (hf : ∀ p, (f p).id = p.id) :
    OnlyRun id t (t'.updatePayRun id f) where
  payRuns p hp := by
    rw [← h.payRuns p hp, mem_updatePayRun]
    constructor
    · rintro (⟨p₀, -, hid, rfl⟩ | ⟨hp', -⟩)
      · exact absurd ((hf p₀).trans hid) hp
      · exact hp'
    · exact fun hp' => Or.inr ⟨hp', hp⟩
  items := h.items
  payslips := h.payslips

theorem onlyRun_calculateWrites (h : Linked t) (hok : inputs.calculateWrites payRun t = .ok t') :
    OnlyRun payRun.id t t' := by
  obtain ⟨t₁, hadds, rfl⟩ := calculateWrites_eq_ok hok
  refine OnlyRun.updatePayRun ⟨fun p _ => ?_, fun id hne => ?_, fun s hne => ?_⟩ (fun _ => rfl)
  · rw [hadds.payRuns, clearRun_payRuns]
  · exact (hadds.runItems_eq hne).trans (clearRun_runItems hne)
  · rw [hadds.payslips, mem_clearRun_payslips]
    refine and_iff_left_of_imp (fun hs i hi hirun => ?_)
    exact h.item_ne hs hi (by rw [hirun]; exact hne.symm)

theorem onlyRun_finalizeWrites (h : Linked t) (hok : finalizeWrites payRun t = .ok t') :
    OnlyRun payRun.id t t' := by
  obtain ⟨t₁, hissues, rfl⟩ := finalizeWrites_eq_ok h.keys hok
  refine OnlyRun.updatePayRun ⟨fun p _ => ?_, fun id _ => ?_, fun s hne => ?_⟩ (fun _ => rfl)
  · rw [hissues.payRuns]
  · rw [runItems, hissues.items, runItems]
  · refine (hissues.payslips s).trans ⟨?_, fun hs => Or.inl ⟨hs, fun i hi => ?_⟩⟩
    · rintro (⟨hs, -⟩ | ⟨i, -, rfl⟩)
      · exact hs
      · exact absurd rfl hne
    · obtain ⟨himem, hirun, -⟩ := mem_readyItems.mp hi
      exact h.item_ne hs himem (by rw [hirun]; exact hne.symm)

/-! ## Reading and submitting -/

theorem readPayRun_eq_ok {id : PayrollRunId} (h : readPayRun t id = .ok payRun) :
    payRun ∈ t.payRuns ∧ payRun.id = id := by
  unfold readPayRun at h
  split at h
  · cases h
  · next p hp =>
    cases h
    exact getPayRun_mem hp

theorem checkCalculable_eq_ok {u : Unit} (h : checkCalculable payRun = .ok u) :
    payRun.status ≠ .approved ∧ payRun.status ≠ .finalized := by
  unfold checkCalculable at h
  split at h
  · cases h
  · cases h
  · next happroved hfinal => exact ⟨happroved, hfinal⟩

theorem checkSubmittable_eq_ok {u : Unit} (h : checkSubmittable payRun = .ok u) :
    payRun.status = .calculated := by
  unfold checkSubmittable at h
  split at h
  · next hs => exact hs
  · cases h

theorem checkFinalizable_eq_ok {skipApproval : Bool} {u : Unit}
    (h : checkFinalizable skipApproval payRun = .ok u) :
    payRun.status = .approved ∨ (payRun.status = .calculated ∧ skipApproval = true) := by
  unfold checkFinalizable at h
  split at h
  · next hs => exact Or.inl hs
  · next hs =>
    split at h
    · next hskip => exact Or.inr ⟨hs, hskip⟩
    · cases h
  · cases h

/-- Leaving an approval changes no payroll table. -/
theorem cancelPendingApproval_eq_ok {now : Time} {payRun' : PayrollRun} {st st' : State}
    (h : cancelPendingApproval now payRun st = .ok (payRun', st')) :
    st'.subjects = st.subjects ∧ payRun'.id = payRun.id := by
  unfold cancelPendingApproval at h
  split at h
  · obtain ⟨rfl, rfl⟩ := Prod.mk.inj (Except.ok.inj h)
    exact ⟨rfl, rfl⟩
  · split at h
    · obtain ⟨st₁, hcancel, hret⟩ := bind_eq_ok_iff.mp h
      obtain ⟨rfl, rfl⟩ := Prod.mk.inj (pure_eq_ok_iff.mp hret)
      refine ⟨?_, rfl⟩
      rcases cancelApprovalRun_eq_ok hcancel with rfl | ⟨_, _, _, _, hwrites⟩
      · rfl
      · exact (cancelApprovalRunWrites_eq_ok hwrites).2
    · obtain ⟨rfl, rfl⟩ := Prod.mk.inj (Except.ok.inj h)
      exact ⟨rfl, rfl⟩

/-- **A submission** creates a pending approval of the run and hands it over. -/
theorem submitWrites_eq_ok {submission : Submission} {st st' : State}
    (h : submitWrites submission payRun st = .ok st') :
    ∃ workflow id, createApprovalRun submission.user submission.dir workflow .payrollProcessing
        (submission.organisation payRun) (submission.requester.map Employee.id)
        (payRunSubject payRun.id) st.db = .ok (id, st'.db)
      ∧ st'.subjects = st.subjects.updatePayRun payRun.id
        (fun p => { p with approvalRun := some id, status := .approvalPending }) := by
  obtain ⟨_, -, h⟩ := bind_eq_ok_iff.mp h
  split at h
  · cases h
  · next workflow _ =>
    obtain ⟨⟨id, db⟩, hcreate, h⟩ := bind_eq_ok_iff.mp h
    obtain rfl := pure_eq_ok_iff.mp h
    exact ⟨workflow, id, hcreate, rfl⟩

end Payroll
