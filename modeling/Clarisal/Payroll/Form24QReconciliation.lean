import Clarisal.Payroll.Form24Q

/-!
# Form 24Q adds up

A statement without errors should be one in which every challan is the tax of
its rows, split into its shares, and every employee's tax that of its rows
(`Reconciles`). It is one exactly when no challan states a deposit for a month
whose payslips bear no tax (`reconciles_iff_noIdleDeposit`): the comparison of
challan and tax is skipped for such a month, and the challan is listed all the
same.
-/

open Approvals

namespace Payroll

open Transaction

/-- **The statement adds up.** -/
structure Form24QExport.Reconciles (e : Form24QExport) : Prop where
  deposited : ∀ c ∈ e.challans,
    (c.deducteeRows.map Form24QDeducteeRow.totalTaxDeducted).sum = c.taxDeposited
  rows : ∀ c ∈ e.challans, ∀ r ∈ c.deducteeRows, r.breakdown.AddsUp r.totalTaxDeducted
  split : ∀ c ∈ e.challans, c.breakdown.taxAmount + c.breakdown.surchargeAmount
    + c.breakdown.healthAndEducationCess = c.taxDeposited
  employees : ∀ row ∈ e.employees, row.taxDeducted
    = (((e.challans.flatMap Form24QChallanRow.deducteeRows).filter
        (fun r => r.employeeId = row.employeeId)).map Form24QDeducteeRow.totalTaxDeducted).sum

/-- The tax of the payslips of a month. -/
def taxOfMonth (payslips : List PayslipRow) (month : Month) : ℚ :=
  ((payslips.filter (fun s => s.month = month)).map PayslipRow.incomeTax).sum

/-- **No challan of a month without tax states a deposit.** -/
def NoIdleDeposit (challans : List (Month × PayrollTDSChallan)) (payslips : List PayslipRow) :
    Prop :=
  ∀ month challan, Dict.get month challans = some challan →
    (∃ s ∈ payslips, s.month = month) → taxOfMonth payslips month = 0 → challan.taxDeposited = 0

/-! ## The loop over the employees -/

section

variable {directory : EmployeeDirectory} {challans : List (Month × PayrollTDSChallan)}

/-- Two loops over one list. -/
theorem foldl_pair {α β γ : Type*} (f : α → γ → α) (g : β → γ → β) (xs : List γ) (a : α) (b : β) :
    xs.foldl (fun t x => (f t.1 x, g t.2 x)) (a, b) = (xs.foldl f a, xs.foldl g b) := by
  induction xs generalizing a b with
  | nil => rfl
  | cons x xs ih => exact ih (f a x) (g b x)

theorem addEmployee_of_pan {st : Form24QState} {entry : (EmployeeId × List PayslipRow) × ℕ}
    (hpan : (directory entry.1.1).pan ≠ "") :
    addEmployee directory challans st entry
      = { blockers := st.blockers
          employees := st.employees ++ [employeeRow directory entry.2 entry.1.1 entry.1.2
            ((sortedByMonth entry.1.2).foldl (addToEmployee challans) {})]
          periods := (sortedByMonth entry.1.2).foldl (addToPeriods directory challans)
            st.periods } := by
  unfold addEmployee
  dsimp only
  rw [if_neg hpan, foldl_pair]

/-- A statement without errors has a PAN for every employee. -/
theorem pan_of_no_blockers {entries : List ((EmployeeId × List PayslipRow) × ℕ)}
    {st : Form24QState}
    (h : (entries.foldl (addEmployee directory challans) st).blockers = []) :
    st.blockers = [] ∧ ∀ e ∈ entries, (directory e.1.1).pan ≠ "" := by
  induction entries generalizing st with
  | nil => exact ⟨h, by simp⟩
  | cons e entries ih =>
    obtain ⟨hstep, hrest⟩ := ih h
    by_cases hpan : (directory e.1.1).pan = ""
    · unfold addEmployee at hstep
      dsimp only at hstep
      rw [if_pos hpan] at hstep
      exact absurd hstep (by simp)
    · rw [addEmployee_of_pan hpan] at hstep
      exact ⟨hstep, List.forall_mem_cons.mpr ⟨hpan, hrest⟩⟩

/-- **The loop over employees that all have a PAN.** -/
theorem foldl_addEmployee {entries : List ((EmployeeId × List PayslipRow) × ℕ)}
    (hpan : ∀ e ∈ entries, (directory e.1.1).pan ≠ "") (st : Form24QState) :
    entries.foldl (addEmployee directory challans) st
      = { blockers := st.blockers
          employees := st.employees ++ entries.map (fun e => employeeRow directory e.2 e.1.1 e.1.2
            ((sortedByMonth e.1.2).foldl (addToEmployee challans) {}))
          periods := (entries.flatMap (fun e => sortedByMonth e.1.2)).foldl
            (addToPeriods directory challans) st.periods } := by
  induction entries generalizing st with
  | nil => simp
  | cons e entries ih =>
    obtain ⟨he, hpan⟩ := List.forall_mem_cons.mp hpan
    rw [List.foldl_cons, ih hpan, addEmployee_of_pan he, List.flatMap_cons, List.foldl_append,
      List.map_cons, List.append_assoc]
    rfl

theorem taxDeducted_foldl (payslips : List PayslipRow) (t : EmployeeTotals) :
    (payslips.foldl (addToEmployee challans) t).taxDeducted
      = t.taxDeducted + (payslips.map PayslipRow.incomeTax).sum := by
  induction payslips generalizing t with
  | nil => simp
  | cons s payslips ih =>
    rw [List.foldl_cons, ih, List.map_cons, List.sum_cons, ← add_assoc]
    rfl

/-! ## The maps of the months -/

/-- **Each map is a loop of its own** over the payslips. -/
theorem foldl_addToPeriods (payslips : List PayslipRow) (t : PeriodTotals) :
    payslips.foldl (addToPeriods directory challans) t
      = { taxTotals := Dict.collect PayslipRow.month (fun a s => a.getD 0 + s.incomeTax) payslips
            t.taxTotals
          taxBreakdowns := Dict.collect PayslipRow.month (fun a s => (a.getD {}).add s.breakdown)
            payslips t.taxBreakdowns
          deducteeRows := Dict.collect PayslipRow.month
            (fun a s => a.getD [] ++ [deducteeRow directory ((a.getD []).length + 1) s])
            (payslips.filter (fun s => (Dict.get s.month challans).isSome)) t.deducteeRows } := by
  induction payslips generalizing t with
  | nil => rfl
  | cons s payslips ih =>
    rw [List.foldl_cons, ih, List.filter_cons]
    unfold addToPeriods
    dsimp only
    split <;> rfl

/-- A whole number of paise stays as it is when it is written. -/
theorem TdsBreakdown.InPaise.written {b : TdsBreakdown} (h : b.InPaise) : b.written = b := by
  unfold TdsBreakdown.written
  rw [normalizeDecimal_of_onPaise h.tax, normalizeDecimal_of_onPaise h.surcharge,
    normalizeDecimal_of_onPaise h.cess]

def TdsBreakdown.total (b : TdsBreakdown) : ℚ :=
  b.taxAmount + b.surchargeAmount + b.healthAndEducationCess

theorem TdsBreakdown.InPaise.add {b b' : TdsBreakdown} (h : b.InPaise) (h' : b'.InPaise) :
    (b.add b').InPaise ∧ (b.add b').total = b.total + b'.total := by
  unfold TdsBreakdown.add TdsBreakdown.total
  rw [normalizeDecimal_of_onPaise (h.tax.add h'.tax),
    normalizeDecimal_of_onPaise (h.surcharge.add h'.surcharge),
    normalizeDecimal_of_onPaise (h.cess.add h'.cess)]
  exact ⟨⟨h.tax.add h'.tax, h.surcharge.add h'.surcharge, h.cess.add h'.cess⟩, by ring⟩

/-- **The shares of a month** add up to its tax. -/
theorem foldl_breakdowns (payslips : List PayslipRow) (a : Option TdsBreakdown)
    (ha : (a.getD {}).InPaise) :
    ((payslips.foldl (fun a s => some ((a.getD {}).add s.breakdown)) a).getD {}).InPaise
      ∧ ((payslips.foldl (fun a s => some ((a.getD {}).add s.breakdown)) a).getD {}).total
        = (a.getD {}).total + (payslips.map PayslipRow.incomeTax).sum := by
  induction payslips generalizing a with
  | nil => simpa using ha
  | cons s payslips ih =>
    obtain ⟨haddsUp, hpaise⟩ := split_addsUp s
    obtain ⟨hadd, htotal⟩ := ha.add hpaise
    obtain ⟨hrest, hsum⟩ := ih (some ((a.getD {}).add s.breakdown)) hadd
    refine ⟨hrest, hsum.trans ?_⟩
    rw [List.map_cons, List.sum_cons, ← add_assoc]
    congr 1
    rw [Option.getD_some, PayslipRow.breakdown, htotal]
    congr 1
    exact haddsUp.sum

/-- The rows of a month are those of its payslips, whatever their numbers. -/
theorem foldl_deducteeRows {β : Type*} {g : Form24QDeducteeRow → β} {g' : PayslipRow → β}
    (hg : ∀ n s, g (deducteeRow directory n s) = g' s) (payslips : List PayslipRow)
    (a : Option (List Form24QDeducteeRow)) :
    (((payslips.foldl (fun a s => some (a.getD []
      ++ [deducteeRow directory ((a.getD []).length + 1) s])) a).getD []).map g)
      = (a.getD []).map g ++ payslips.map g' := by
  induction payslips generalizing a with
  | nil => simp
  | cons s payslips ih =>
    rw [List.foldl_cons, ih]
    simp [hg]

/-! ## The loop over the months -/

theorem foldl_addChallan (periods : PeriodTotals) (months : List Month)
    (out : List Form24QBlocker × List Form24QChallanRow) :
    months.foldl (addChallan challans periods) out
      = (out.1 ++ months.flatMap (fun m => (addChallan challans periods ([], []) m).1),
        out.2 ++ months.flatMap (fun m => (addChallan challans periods ([], []) m).2)) := by
  have hstep : ∀ out m, addChallan challans periods out m
      = (out.1 ++ (addChallan challans periods ([], []) m).1,
        out.2 ++ (addChallan challans periods ([], []) m).2) := by
    intro out m
    unfold addChallan
    dsimp only
    split
    · split <;> simp
    · split <;> simp
  induction months generalizing out with
  | nil => simp
  | cons m months ih =>
    rw [List.foldl_cons, ih, hstep, List.flatMap_cons, List.flatMap_cons, List.append_assoc,
      List.append_assoc]

/-- **A month's blockers and row.** -/
theorem addChallan_nil (periods : PeriodTotals) (m : Month) :
    (Dict.get m challans = none ∧ addChallan challans periods ([], []) m
        = (if 0 < (Dict.get m periods.taxTotals).getD 0 then [.missingChallan m] else [], []))
      ∨ ∃ c, Dict.get m challans = some c ∧ addChallan challans periods ([], []) m
        = (if 0 < (Dict.get m periods.taxTotals).getD 0
            ∧ c.taxDeposited ≠ (Dict.get m periods.taxTotals).getD 0 then
            [.challanMismatch m c.taxDeposited ((Dict.get m periods.taxTotals).getD 0)] else [],
          [challanRow challans periods m c]) := by
  unfold addChallan
  dsimp only
  split
  · next hnone =>
    refine Or.inl ⟨hnone, ?_⟩
    split <;> rfl
  · next c hsome =>
    refine Or.inr ⟨c, hsome, ?_⟩
    split <;> rfl

/-! ## The statement -/

variable {organisation : FilingOrganisation} {payslips : List PayslipRow}

/-- The employees in the order of the statement. -/
def numberedEmployees (directory : EmployeeDirectory) (payslips : List PayslipRow) :
    List ((EmployeeId × List PayslipRow) × ℕ) :=
  ((groupEffectivePayslipsByEmployee directory payslips).insertionSort
    (fun e e' => e.1 ≤ e'.1)).zipIdx 1

/-- The payslips in the order they are counted. -/
def countedPayslips (directory : EmployeeDirectory) (payslips : List PayslipRow) :
    List PayslipRow :=
  (numberedEmployees directory payslips).flatMap (fun e => sortedByMonth e.1.2)

theorem perm_sortedByMonth (payslips : List PayslipRow) : (sortedByMonth payslips).Perm payslips :=
  List.perm_insertionSort _ _

/-- **Every payslip is counted once.** -/
theorem perm_countedPayslips (directory : EmployeeDirectory) (payslips : List PayslipRow) :
    (countedPayslips directory payslips).Perm payslips := by
  unfold countedPayslips numberedEmployees
  set groups := groupEffectivePayslipsByEmployee directory payslips
  have hnumbers : ((groups.insertionSort (fun e e' => e.1 ≤ e'.1)).zipIdx 1).flatMap
      (fun e => sortedByMonth e.1.2)
        = (groups.insertionSort (fun e e' => e.1 ≤ e'.1)).flatMap (fun e => sortedByMonth e.2) := by
    conv_rhs => rw [← List.zipIdx_map_fst 1 (groups.insertionSort (fun e e' => e.1 ≤ e'.1)),
      List.flatMap_map]
  rw [hnumbers]
  have hsorted : (groups.flatMap (fun e => sortedByMonth e.2)).Perm (groups.flatMap Prod.snd) :=
    List.Perm.flatMap_left _ (fun e _ => perm_sortedByMonth e.2)
  exact ((List.perm_insertionSort _ groups).flatMap_right _).trans
    (hsorted.trans (perm_groupEffective directory payslips))

/-- The maps after the loop over the employees. -/
def statementPeriods (directory : EmployeeDirectory) (challans : List (Month × PayrollTDSChallan))
    (payslips : List PayslipRow) : PeriodTotals :=
  (countedPayslips directory payslips).foldl (addToPeriods directory challans) {}

/-- The months of the second loop. -/
def statementMonths (directory : EmployeeDirectory) (challans : List (Month × PayrollTDSChallan))
    (payslips : List PayslipRow) : List Month :=
  (Dict.keys (statementPeriods directory challans payslips).taxTotals).insertionSort
    (fun m m' => toLex m ≤ toLex m')

theorem mem_statementMonths {m : Month} :
    m ∈ statementMonths directory challans payslips ↔ ∃ s ∈ payslips, s.month = m := by
  rw [statementMonths, List.mem_insertionSort, statementPeriods, foldl_addToPeriods,
    Dict.mem_keys_collect]
  simp [(perm_countedPayslips directory payslips).mem_iff]

theorem nodup_statementMonths : (statementMonths directory challans payslips).Nodup := by
  rw [statementMonths, (List.perm_insertionSort _ _).nodup_iff, statementPeriods,
    foldl_addToPeriods]
  exact Dict.nodup_keys_collect (by simp)

theorem taxTotals_statementPeriods (m : Month) :
    (Dict.get m (statementPeriods directory challans payslips).taxTotals).getD 0
      = taxOfMonth payslips m := by
  rw [statementPeriods, foldl_addToPeriods, Dict.get_totals]
  exact (((perm_countedPayslips directory payslips).filter _).map _).sum_eq

/-- **The statement when every employee has a PAN**: its two loops. -/
theorem form24QStatement_of_pan
    (hpan : ∀ e ∈ numberedEmployees directory payslips, (directory e.1.1).pan ≠ "") :
    form24QStatement directory challans organisation
        (groupEffectivePayslipsByEmployee directory payslips)
      = { blockers := deductorBlockers organisation
            ++ (statementMonths directory challans payslips).flatMap (fun m =>
              (addChallan challans (statementPeriods directory challans payslips) ([], []) m).1)
          employees := (numberedEmployees directory payslips).map (fun e => employeeRow directory
            e.2 e.1.1 e.1.2 ((sortedByMonth e.1.2).foldl (addToEmployee challans) {}))
          challans := (statementMonths directory challans payslips).flatMap (fun m =>
            (addChallan challans (statementPeriods directory challans payslips) ([], []) m).2) } := by
  unfold form24QStatement
  dsimp only
  rw [← numberedEmployees, foldl_addEmployee hpan, foldl_addChallan]
  rfl

/-- Without a PAN there is an error. -/
theorem pan_of_statement
    (h : (form24QStatement directory challans organisation
      (groupEffectivePayslipsByEmployee directory payslips)).blockers = []) :
    ∀ e ∈ numberedEmployees directory payslips, (directory e.1.1).pan ≠ "" := by
  unfold form24QStatement at h
  dsimp only at h
  rw [foldl_addChallan] at h
  exact (pan_of_no_blockers (List.append_eq_nil_iff.mp h).1).2

/-- **A statement without errors**: its two loops, and what no month was blocked
for. -/
theorem form24QStatement_of_no_blockers
    (h : (form24QStatement directory challans organisation
      (groupEffectivePayslipsByEmployee directory payslips)).blockers = []) :
    (form24QStatement directory challans organisation
        (groupEffectivePayslipsByEmployee directory payslips)).employees
      = (numberedEmployees directory payslips).map (fun e => employeeRow directory e.2 e.1.1 e.1.2
        ((sortedByMonth e.1.2).foldl (addToEmployee challans) {}))
    ∧ (form24QStatement directory challans organisation
        (groupEffectivePayslipsByEmployee directory payslips)).challans
      = (statementMonths directory challans payslips).flatMap (fun m =>
        (addChallan challans (statementPeriods directory challans payslips) ([], []) m).2)
    ∧ ∀ m ∈ statementMonths directory challans payslips,
      (addChallan challans (statementPeriods directory challans payslips) ([], []) m).1 = [] := by
  have hpan := pan_of_statement h
  rw [form24QStatement_of_pan hpan] at h ⊢
  exact ⟨rfl, rfl, List.flatMap_eq_nil_iff.mp (List.append_eq_nil_iff.mp h).2⟩

/-- The rows of a month with a challan. -/
theorem deducteeRows_statementPeriods {β : Type*} {g : Form24QDeducteeRow → β}
    {g' : PayslipRow → β} (hg : ∀ n s, g (deducteeRow directory n s) = g' s) {m : Month}
    {c : PayrollTDSChallan} (hc : Dict.get m challans = some c) :
    ((Dict.get m (statementPeriods directory challans payslips).deducteeRows).getD []).map g
      = ((countedPayslips directory payslips).filter (fun s => s.month = m)).map g' := by
  have hsome : ∀ s ∈ countedPayslips directory payslips,
      (decide (s.month = m) && (Dict.get s.month challans).isSome) = decide (s.month = m) := by
    intro s _
    by_cases hs : s.month = m <;> simp [hs, hc]
  rw [statementPeriods, foldl_addToPeriods, Dict.get_collect, List.filter_filter,
    List.filter_congr hsome, foldl_deducteeRows hg]
  rfl

/-- **What a challan's row states.** -/
theorem challanRow_spec (directory : EmployeeDirectory) (payslips : List PayslipRow) {m : Month}
    {c : PayrollTDSChallan} (hc : Dict.get m challans = some c) :
    ((challanRow challans (statementPeriods directory challans payslips) m c).deducteeRows.map
        Form24QDeducteeRow.totalTaxDeducted).sum = taxOfMonth payslips m
      ∧ (∀ r ∈ (challanRow challans (statementPeriods directory challans payslips) m
        c).deducteeRows, r.breakdown.AddsUp r.totalTaxDeducted)
      ∧ (challanRow challans (statementPeriods directory challans payslips) m c).breakdown.total
        = taxOfMonth payslips m
      ∧ (challanRow challans (statementPeriods directory challans payslips) m c).taxDeposited
        = c.taxDeposited := by
  have hsum : (((countedPayslips directory payslips).filter (fun s => s.month = m)).map
      PayslipRow.incomeTax).sum = taxOfMonth payslips m :=
    (((perm_countedPayslips directory payslips).filter _).map _).sum_eq
  refine ⟨?_, fun r hr => ?_, ?_, normalizeDecimal_of_onPaise c.onPaise⟩
  · rw [← hsum]
    refine congrArg List.sum (deducteeRows_statementPeriods (fun n s => ?_) hc)
    exact normalizeDecimal_of_onPaise s.taxed.2.1
  · -- a row is written from a payslip
    have hrow : ((Dict.get m (statementPeriods directory challans payslips).deducteeRows).getD
        []).map (fun r => (r.breakdown, r.totalTaxDeducted))
        = ((countedPayslips directory payslips).filter (fun s => s.month = m)).map
          (fun s => (s.breakdown.written, normalizeDecimal s.incomeTax)) :=
      deducteeRows_statementPeriods (fun _ _ => rfl) hc
    obtain ⟨s, -, hs⟩ := List.mem_map.mp (hrow ▸ List.mem_map_of_mem hr)
    obtain ⟨haddsUp, hpaise⟩ := split_addsUp s
    obtain ⟨hbreakdown, htotal⟩ := Prod.mk.inj hs
    rw [← hbreakdown, ← htotal, normalizeDecimal_of_onPaise s.taxed.2.1, PayslipRow.breakdown,
      hpaise.written]
    exact haddsUp
  · have hempty : ((none : Option TdsBreakdown).getD {}).InPaise :=
      ⟨Decimal.onGrid_zero, Decimal.onGrid_zero, Decimal.onGrid_zero⟩
    obtain ⟨hpaise, htotal⟩ := foldl_breakdowns
      ((countedPayslips directory payslips).filter (fun s => s.month = m)) none hempty
    show (((Dict.get m (statementPeriods directory challans payslips).taxBreakdowns).getD
      {}).written).total = _
    rw [statementPeriods, foldl_addToPeriods, Dict.get_collect]
    show (TdsBreakdown.written
      (Option.getD (List.foldl _ (none : Option TdsBreakdown) _) {})).total = _
    rw [hpaise.written, htotal, hsum]
    simp [TdsBreakdown.total]

theorem taxOfMonth_nonneg (payslips : List PayslipRow) (m : Month) : 0 ≤ taxOfMonth payslips m := by
  refine List.sum_nonneg (fun x hx => ?_)
  obtain ⟨s, -, rfl⟩ := List.mem_map.mp hx
  exact s.taxed.1

/-- **What an error-free statement compared**: a taxed month has a challan, with
the tax of the month. -/
theorem challan_of_no_blockers
    (h : (form24QStatement directory challans organisation
      (groupEffectivePayslipsByEmployee directory payslips)).blockers = [])
    {m : Month} (hm : ∃ s ∈ payslips, s.month = m) (hpos : 0 < taxOfMonth payslips m) :
    ∃ c, Dict.get m challans = some c ∧ c.taxDeposited = taxOfMonth payslips m := by
  have hnone := (form24QStatement_of_no_blockers h).2.2 m (mem_statementMonths.mpr hm)
  rcases addChallan_nil (statementPeriods directory challans payslips) m with
    ⟨-, heq⟩ | ⟨c, hc, heq⟩
  · rw [heq, taxTotals_statementPeriods, if_pos hpos] at hnone
    cases hnone
  · rw [heq, taxTotals_statementPeriods] at hnone
    refine ⟨c, hc, ?_⟩
    by_contra hne
    rw [if_pos ⟨hpos, hne⟩] at hnone
    cases hnone

/-- The challans listed are those of the months with payslips. -/
theorem mem_challans_statement
    (h : (form24QStatement directory challans organisation
      (groupEffectivePayslipsByEmployee directory payslips)).blockers = [])
    {row : Form24QChallanRow} :
    row ∈ (form24QStatement directory challans organisation
        (groupEffectivePayslipsByEmployee directory payslips)).challans
      ↔ ∃ m c, (∃ s ∈ payslips, s.month = m) ∧ Dict.get m challans = some c
        ∧ row = challanRow challans (statementPeriods directory challans payslips) m c := by
  rw [(form24QStatement_of_no_blockers h).2.1, List.mem_flatMap]
  constructor
  · rintro ⟨m, hm, hrow⟩
    rcases addChallan_nil (statementPeriods directory challans payslips) m with
      ⟨-, heq⟩ | ⟨c, hc, heq⟩
    · rw [heq] at hrow
      cases hrow
    · rw [heq] at hrow
      exact ⟨m, c, mem_statementMonths.mp hm, hc, List.mem_singleton.mp hrow⟩
  · rintro ⟨m, c, hm, hc, rfl⟩
    refine ⟨m, mem_statementMonths.mpr hm, ?_⟩
    rcases addChallan_nil (statementPeriods directory challans payslips) m with
      ⟨hnone, -⟩ | ⟨c', hc', heq⟩
    · rw [hnone] at hc
      cases hc
    · rw [hc] at hc'
      rw [heq, Option.some.inj hc']
      exact List.mem_singleton_self _

/-- **The rows of all challans** are the payslips of the months that have one. -/
theorem perm_deducteeRows
    (h : (form24QStatement directory challans organisation
      (groupEffectivePayslipsByEmployee directory payslips)).blockers = []) :
    (((form24QStatement directory challans organisation
        (groupEffectivePayslipsByEmployee directory payslips)).challans.flatMap
          Form24QChallanRow.deducteeRows).map
        (fun r => (r.employeeId, r.totalTaxDeducted))).Perm
      ((payslips.filter (fun s => (Dict.get s.month challans).isSome)).map
        (fun s => (s.employee, s.incomeTax))) := by
  have hmonth : ∀ m, ((addChallan challans (statementPeriods directory challans payslips) ([], [])
      m).2.flatMap Form24QChallanRow.deducteeRows).map (fun r => (r.employeeId, r.totalTaxDeducted))
      = (((countedPayslips directory payslips).filter (fun s => (Dict.get s.month challans).isSome)
        ).filter (fun s => s.month = m)).map (fun s => (s.employee, s.incomeTax)) := by
    intro m
    rw [List.filter_filter]
    rcases addChallan_nil (statementPeriods directory challans payslips) m with
      ⟨hnone, heq⟩ | ⟨c, hc, heq⟩
    · rw [heq, List.filter_eq_nil_iff.mpr (fun s _ => ?_)]
      · rfl
      · by_cases hs : s.month = m <;> simp [hs, hnone]
    · rw [heq, List.flatMap_singleton]
      have hfilter : ∀ s ∈ countedPayslips directory payslips,
          (decide (s.month = m) && (Dict.get s.month challans).isSome) = decide (s.month = m) := by
        intro s _
        by_cases hs : s.month = m <;> simp [hs, hc]
      rw [List.filter_congr hfilter]
      refine deducteeRows_statementPeriods (fun n s => ?_) hc
      exact Prod.ext rfl (normalizeDecimal_of_onPaise s.taxed.2.1)
  rw [(form24QStatement_of_no_blockers h).2.1, List.flatMap_assoc, List.map_flatMap]
  rw [List.flatMap_congr (fun m _ => hmonth m), ← List.map_flatMap]
  refine List.Perm.map _ ((Dict.perm_flatMap_filter nodup_statementMonths (fun s hs => ?_)).trans
    ((perm_countedPayslips directory payslips).filter _))
  have hmem := (perm_countedPayslips directory payslips).mem_iff.mp (List.mem_of_mem_filter hs)
  exact mem_statementMonths.mpr ⟨s, hmem, rfl⟩

/-- **An employee's row states the tax of the employee's payslips.** -/
theorem taxDeducted_employees
    (h : (form24QStatement directory challans organisation
      (groupEffectivePayslipsByEmployee directory payslips)).blockers = [])
    {row : Form24QEmployeeRow} (hrow : row ∈ (form24QStatement directory challans organisation
      (groupEffectivePayslipsByEmployee directory payslips)).employees) :
    row.taxDeducted
      = ((payslips.filter
          (fun s => s.employee = row.employeeId)).map PayslipRow.incomeTax).sum := by
  rw [(form24QStatement_of_no_blockers h).1] at hrow
  obtain ⟨⟨⟨employee, own⟩, n⟩, he, rfl⟩ := List.mem_map.mp hrow
  have hgroup : (employee, own) ∈ groupEffectivePayslipsByEmployee directory payslips :=
    (List.mem_insertionSort _).mp (List.fst_mem_of_mem_zipIdx he)
  obtain ⟨hown, -⟩ := Dict.mem_group.mp hgroup
  have hsum : (own.map PayslipRow.incomeTax).sum
      = ((payslips.filter (fun s => s.employee = employee)).map PayslipRow.incomeTax).sum := by
    rw [hown]
    exact (((List.perm_insertionSort _ payslips).filter _).map _).sum_eq
  have hpaise : OnPaise (own.map PayslipRow.incomeTax).sum := by
    refine Decimal.onGrid_sum (fun x hx => ?_)
    obtain ⟨s, -, rfl⟩ := List.mem_map.mp hx
    exact s.taxed.2.1
  show normalizeDecimal ((sortedByMonth own).foldl (addToEmployee challans) {}).taxDeducted = _
  rw [taxDeducted_foldl, ((perm_sortedByMonth own).map _).sum_eq]
  show normalizeDecimal (0 + _) = _
  rw [zero_add, normalizeDecimal_of_onPaise hpaise, hsum]
  rfl

/-- **Without a challan** a month of an error-free statement bears no tax. -/
theorem incomeTax_of_no_challan
    (h : (form24QStatement directory challans organisation
      (groupEffectivePayslipsByEmployee directory payslips)).blockers = [])
    {s : PayslipRow} (hs : s ∈ payslips) (hnone : (Dict.get s.month challans).isSome = false) :
    s.incomeTax = 0 := by
  have hzero : taxOfMonth payslips s.month = 0 := by
    by_contra hne
    obtain ⟨c, hc, -⟩ := challan_of_no_blockers h ⟨s, hs, rfl⟩
      (lt_of_le_of_ne (taxOfMonth_nonneg payslips s.month) (Ne.symm hne))
    simp [hc] at hnone
  refine le_antisymm ?_ s.taxed.1
  rw [← hzero]
  refine List.single_le_sum (fun x hx => ?_) _ (List.mem_map_of_mem ?_)
  · obtain ⟨s', -, rfl⟩ := List.mem_map.mp hx
    exact s'.taxed.1
  · exact List.mem_filter.mpr ⟨hs, decide_eq_true rfl⟩

/-- **An employee's total** is the sum of the employee's rows: the payslips
without a row bear no tax. -/
theorem taxDeducted_eq_rows
    (h : (form24QStatement directory challans organisation
      (groupEffectivePayslipsByEmployee directory payslips)).blockers = [])
    {row : Form24QEmployeeRow} (hrow : row ∈ (form24QStatement directory challans organisation
      (groupEffectivePayslipsByEmployee directory payslips)).employees) :
    row.taxDeducted = ((((form24QStatement directory challans organisation
      (groupEffectivePayslipsByEmployee directory payslips)).challans.flatMap
        Form24QChallanRow.deducteeRows).filter (fun r => r.employeeId = row.employeeId)).map
      Form24QDeducteeRow.totalTaxDeducted).sum := by
  have hrows := (((perm_deducteeRows h).filter (fun e => e.1 = row.employeeId)).map
    Prod.snd).sum_eq
  rw [List.filter_map, List.map_map, List.filter_map, List.map_map] at hrows
  rw [taxDeducted_employees h hrow]
  refine Eq.trans ?_ hrows.symm
  show _ = (((payslips.filter (fun s => (Dict.get s.month challans).isSome)).filter
    (fun s => s.employee = row.employeeId)).map PayslipRow.incomeTax).sum
  rw [List.filter_comm]
  exact (Dict.sum_filter_of_zero (fun s hs hnone =>
    incomeTax_of_no_challan h (List.mem_of_mem_filter hs) hnone)).symm

/-- **An error-free statement adds up** when no challan of a month without tax
states a deposit, and only then. -/
theorem reconciles_statement
    (h : (form24QStatement directory challans organisation
      (groupEffectivePayslipsByEmployee directory payslips)).blockers = []) :
    (form24QStatement directory challans organisation
        (groupEffectivePayslipsByEmployee directory payslips)).Reconciles
      ↔ NoIdleDeposit challans payslips := by
  constructor
  · intro hrec m c hc hm hzero
    obtain ⟨hdeposited, -, -, hwritten⟩ := challanRow_spec directory payslips hc
    rw [← hwritten, ← hrec.deposited _ ((mem_challans_statement h).mpr ⟨m, c, hm, hc, rfl⟩),
      hdeposited, hzero]
  · intro hidle
    have hchallan : ∀ m c, (∃ s ∈ payslips, s.month = m) → Dict.get m challans = some c →
        c.taxDeposited = taxOfMonth payslips m := by
      intro m c hm hc
      rcases (taxOfMonth_nonneg payslips m).eq_or_lt with hzero | hpos
      · rw [hidle m c hc hm hzero.symm, hzero]
      · obtain ⟨c', hc', hequal⟩ := challan_of_no_blockers h hm hpos
        rw [hc] at hc'
        rwa [Option.some.inj hc']
    refine ⟨fun row hrow => ?_, fun row hrow => ?_, fun row hrow => ?_, fun row hrow => ?_⟩
    · obtain ⟨m, c, hm, hc, rfl⟩ := (mem_challans_statement h).mp hrow
      obtain ⟨hdeposited, -, -, hwritten⟩ := challanRow_spec directory payslips hc
      rw [hdeposited, hwritten, hchallan m c hm hc]
    · obtain ⟨m, c, hm, hc, rfl⟩ := (mem_challans_statement h).mp hrow
      exact (challanRow_spec directory payslips hc).2.1
    · obtain ⟨m, c, hm, hc, rfl⟩ := (mem_challans_statement h).mp hrow
      obtain ⟨-, -, htotal, hwritten⟩ := challanRow_spec directory payslips hc
      rw [hwritten, hchallan m c hm hc]
      exact htotal
    · exact taxDeducted_eq_rows h hrow

end

/-- No messages, no blockers. -/
theorem blockers_of_no_errors {e : Form24QExport} (h : e.validationErrors = []) :
    e.blockers = [] := by
  have hlength := congrArg List.length h
  rw [Form24QExport.validationErrors, List.length_insertionSort, List.length_map] at hlength
  exact List.eq_nil_of_length_eq_zero hlength

/-- **A statement without errors** adds up exactly when no challan of a month
without tax states a deposit. -/
theorem reconciles_iff_noIdleDeposit (organisation : FilingOrganisation) (quarter : TDSQuarter)
    (fiscalYear : String) (challans : List PayrollTDSChallan) (directory : EmployeeDirectory)
    (payslips : List PayslipRow) (e : Form24QExport)
    (h : generateForm24QExport organisation quarter fiscalYear challans directory
      (groupEffectivePayslipsByEmployee directory payslips) = .ok e)
    (hnone : e.validationErrors = []) :
    e.Reconciles ↔ ∃ byMonth,
      quarterChallanMap organisation.id fiscalYear quarter challans = .ok byMonth
        ∧ NoIdleDeposit byMonth payslips := by
  obtain ⟨byMonth, hmap, hret⟩ := bind_eq_ok_iff.mp h
  obtain rfl := pure_eq_ok_iff.mp hret
  rw [reconciles_statement (blockers_of_no_errors hnone)]
  constructor
  · exact fun hidle => ⟨byMonth, hmap, hidle⟩
  · rintro ⟨byMonth', hmap', hidle⟩
    rwa [Except.ok.inj (hmap.symm.trans hmap')]

instance (b : TdsBreakdown) (total : ℚ) : Decidable (b.AddsUp total) :=
  decidable_of_iff (0 ≤ b.taxAmount ∧ 0 ≤ b.surchargeAmount ∧ 0 ≤ b.healthAndEducationCess
      ∧ b.taxAmount + b.surchargeAmount + b.healthAndEducationCess = total)
    ⟨fun ⟨h₁, h₂, h₃, h₄⟩ => ⟨h₁, h₂, h₃, h₄⟩, fun ⟨h₁, h₂, h₃, h₄⟩ => ⟨h₁, h₂, h₃, h₄⟩⟩

namespace Sample

/-- A month's payslip without tax. -/
def untaxed : PayslipRow := april2024 1 1 20000 aprilOf20000_ready

def challansByMonth : List (Month × PayrollTDSChallan) := challanMap [aprilChallan 50000]

/-- The statement on the payslip without tax and a challan of 500. -/
def idleStatement : Form24QExport :=
  form24QStatement filers challansByMonth filingOrganisation
    (groupEffectivePayslipsByEmployee filers [untaxed])

theorem quarterChallanMap_sample :
    quarterChallanMap 1 "2024-2025" .q1 [aprilChallan 50000] = .ok challansByMonth := by
  decide +kernel

end Sample

theorem reconciles_iff_noIdleDeposit_sample : Sample.idleStatement.Reconciles ↔ ∃ byMonth,
    quarterChallanMap 1 "2024-2025" .q1 [Sample.aprilChallan 50000] = .ok byMonth
      ∧ NoIdleDeposit byMonth [Sample.untaxed] :=
  reconciles_iff_noIdleDeposit Sample.filingOrganisation .q1 "2024-2025" [Sample.aprilChallan 50000]
    Sample.filers [Sample.untaxed] Sample.idleStatement
    (bind_eq_ok_iff.mpr ⟨_, Sample.quarterChallanMap_sample, rfl⟩) (by decide +kernel)

/-- **A challan for a month without tax** is listed with its deposit, and no
error. -/
theorem idle_deposit_listed : ∃ e ∈ (generateForm24QExport Sample.filingOrganisation .q1
      "2024-2025" [Sample.aprilChallan 50000] Sample.filers
      (groupEffectivePayslipsByEmployee Sample.filers [Sample.untaxed])).toOption,
    e.validationErrors = [] ∧ ¬ e.Reconciles := by
  refine ⟨Sample.idleStatement, ?_, by decide +kernel, fun h => ?_⟩
  · rw [show generateForm24QExport Sample.filingOrganisation .q1 "2024-2025" _ Sample.filers _
      = .ok Sample.idleStatement from bind_eq_ok_iff.mpr ⟨_, Sample.quarterChallanMap_sample, rfl⟩]
    rfl
  · have hdeposited : ∀ c ∈ Sample.idleStatement.challans,
        (c.deducteeRows.map Form24QDeducteeRow.totalTaxDeducted).sum = c.taxDeposited := h.deposited
    revert hdeposited
    decide +kernel

end Payroll
