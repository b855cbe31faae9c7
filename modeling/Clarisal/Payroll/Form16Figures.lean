import Clarisal.Payroll.Form16
import Clarisal.Payroll.TaxBreakdown
import Mathlib.Order.Lattice

/-!
# The annual figures of Form 16

Each month's calculation projects the whole year: its snapshot has the year's taxable
income, tax, surcharge and cess, and the year's investment deductions. The certificate
takes the greatest of each of the first four over the months, and adds up the deductions.

So deductions that are the same in every month are reported once for each month, and the
four figures are those of one calculation only when one month has the greatest of them all
(`describesYear_iff`).
-/

open Approvals Calendar

namespace Payroll

open Transaction

/-! ## The greatest of the months -/

/-- A running supremum is one of its values exactly when that bounds the others. -/
theorem foldl_sup_eq_iff {α : Type*} [SemilatticeSup α] {l : List α} {a x : α} (hx : x ∈ l) :
    l.foldl (· ⊔ ·) a = x ↔ a ≤ x ∧ ∀ y ∈ l, y ≤ x := by
  have hbound : ∀ (l : List α) (a z : α), l.foldl (· ⊔ ·) a ≤ z ↔ a ≤ z ∧ ∀ y ∈ l, y ≤ z := by
    intro l
    induction l with
    | nil => simp
    | cons y l ih =>
      intro a z
      rw [List.foldl_cons, ih, sup_le_iff, List.forall_mem_cons, and_assoc]
  rw [← hbound]
  exact ⟨le_of_eq, fun h => le_antisymm h (((hbound l a _).mp le_rfl).2 x hx)⟩

/-- Four amounts in paise. -/
def AllOnPaise (x : ℚ × ℚ × ℚ × ℚ) : Prop :=
  OnPaise x.1 ∧ OnPaise x.2.1 ∧ OnPaise x.2.2.1 ∧ OnPaise x.2.2.2

theorem OnPaise.max {x y : ℚ} (hx : OnPaise x) (hy : OnPaise y) : OnPaise (x ⊔ y) := by
  rcases le_total x y with h | h
  · rwa [sup_eq_right.mpr h]
  · rwa [sup_eq_left.mpr h]

theorem AllOnPaise.foldl_sup {l : List (ℚ × ℚ × ℚ × ℚ)} {x : ℚ × ℚ × ℚ × ℚ} (hx : AllOnPaise x)
    (h : ∀ y ∈ l, AllOnPaise y) : AllOnPaise (l.foldl (· ⊔ ·) x) := by
  induction l generalizing x with
  | nil => exact hx
  | cons y l ih =>
    obtain ⟨⟨h₁, h₂, h₃, h₄⟩, h⟩ := List.forall_mem_cons.mp h
    exact ih ⟨OnPaise.max hx.1 h₁, OnPaise.max hx.2.1 h₂, OnPaise.max hx.2.2.1 h₃,
      OnPaise.max hx.2.2.2 h₄⟩ h

namespace PayslipRow

variable (s : PayslipRow)

def annualInvestmentDeductions : ℚ := s.item.snapshot.tax.annualInvestmentDeductions

/-- The year's taxable income, surcharge, cess and tax before the rebate, as the month
projects them. -/
def annualFigures : ℚ × ℚ × ℚ × ℚ :=
  (s.snapshot.annualTaxableAfterSd, s.snapshot.annualSurcharge, s.snapshot.annualCess,
    s.item.snapshot.tax.annualTaxBeforeRebate)

/-- The annual figures are none below those of any month, and none is negative. -/
def Leads (own : List PayslipRow) : Prop :=
  0 ≤ s.annualFigures ∧ ∀ s' ∈ own, s'.annualFigures ≤ s.annualFigures

theorem onPaise_relievedSurcharge {taxSlabSet : PayrollTaxSlabSet} {tiers : List (ℚ × ℚ)}
    {rebate : ℚ × ℚ} {income tax surcharge : ℚ} (hpaise : OnPaise surcharge) :
    OnPaise (relievedSurcharge taxSlabSet tiers rebate income tax surcharge) := by
  unfold relievedSurcharge
  split
  · exact hpaise
  · dsimp only
    split
    · exact onPaise_normalizeDecimal _
    · exact hpaise

/-- What the certificate takes of a payslip is in paise. -/
theorem onPaise_annual : OnPaise s.snapshot.grossPay ∧ OnPaise s.annualInvestmentDeductions
    ∧ AllOnPaise s.annualFigures := by
  obtain ⟨inp, -, -, -, hcalc⟩ := s.calculated
  obtain ⟨window, pt, ptBasis, -, -, hamounts, hsnapshot, -⟩ := calculateItem_eq_ready hcalc
  have htax : s.item.snapshot.tax = inp.taxWorking _ := congrArg ItemSnapshot.tax hsnapshot
  have hincome : OnPaise (inp.calculateTaxableIncomeWithInvestments
      (inp.annualTaxableGross (inp.prorate (inp.fullMonth window pt).taxableMonthly))) := by
    unfold ItemInputs.calculateTaxableIncomeWithInvestments
    split <;> exact onPaise_normalizeDecimal _
  refine ⟨?_, ?_, ?_, ?_, ?_, ?_⟩
  · rw [show s.snapshot.grossPay = _ from congrArg ItemAmounts.grossPay hamounts]
    exact onPaise_normalizeDecimal _
  · rw [annualInvestmentDeductions, htax]
    exact onPaise_normalizeDecimal _
  · rw [show s.annualFigures.1 = s.item.snapshot.tax.annualTaxableAfterSd from rfl, htax]
    exact hincome
  · rw [show s.annualFigures.2.1 = s.item.snapshot.tax.annualSurcharge from rfl, htax]
    exact onPaise_relievedSurcharge (onPaise_calculateSurcharge _ _ _)
  · rw [show s.annualFigures.2.2.1 = s.item.snapshot.tax.annualCess from rfl, htax]
    exact onPaise_normalizeDecimal _
  · rw [show s.annualFigures.2.2.2 = s.item.snapshot.tax.annualTaxBeforeRebate from rfl, htax]
    exact onPaise_calculateAnnualTax _ _

end PayslipRow

/-! ## The totals of an employee -/

namespace Form16Totals

def annualFigures (t : Form16Totals) : ℚ × ℚ × ℚ × ℚ :=
  (t.taxableIncome, t.surcharge, t.cess, t.taxBeforeRebate)

end Form16Totals

section

variable (fiscalYear : String) (challans : List (Month × PayrollTDSChallan))
  (employee : FilingEmployee)

/-- A challan changes none of the amounts. -/
theorem addPayslip_amounts (st : List Form16Blocker × Form16Totals) (s : PayslipRow) :
    (addPayslip fiscalYear challans employee st s).2.grossSalary
        = st.2.grossSalary + s.snapshot.grossPay
      ∧ (addPayslip fiscalYear challans employee st s).2.investmentDeductions
        = st.2.investmentDeductions + s.annualInvestmentDeductions
      ∧ (addPayslip fiscalYear challans employee st s).2.annualFigures
        = st.2.annualFigures ⊔ s.annualFigures := by
  have hreceipt (t t' : Form16Totals) (quarter : TDSQuarter) (receipt : String)
      (h : t.addReceipt quarter receipt = some t') : t'.grossSalary = t.grossSalary
        ∧ t'.investmentDeductions = t.investmentDeductions
        ∧ t'.annualFigures = t.annualFigures := by
    unfold Form16Totals.addReceipt at h
    dsimp only at h
    split at h
    · obtain rfl := Option.some.inj h
      exact ⟨rfl, rfl, rfl⟩
    · split at h
      · cases h
      · obtain rfl := Option.some.inj h
        exact ⟨rfl, rfl, rfl⟩
  unfold addPayslip
  cases Dict.get s.month challans with
  | none => exact ⟨rfl, rfl, rfl⟩
  | some challan =>
    dsimp only
    cases h : (st.2.add s).addReceipt s.quarter challan.statementReceiptNumber with
    | none => exact ⟨rfl, rfl, rfl⟩
    | some t => exact hreceipt _ t _ _ h

theorem foldl_addPayslip_amounts (own : List PayslipRow)
    (st : List Form16Blocker × Form16Totals) :
    (own.foldl (addPayslip fiscalYear challans employee) st).2.grossSalary
        = st.2.grossSalary + (own.map fun s => s.snapshot.grossPay).sum
      ∧ (own.foldl (addPayslip fiscalYear challans employee) st).2.investmentDeductions
        = st.2.investmentDeductions + (own.map PayslipRow.annualInvestmentDeductions).sum
      ∧ (own.foldl (addPayslip fiscalYear challans employee) st).2.annualFigures
        = (own.map PayslipRow.annualFigures).foldl (· ⊔ ·) st.2.annualFigures := by
  induction own generalizing st with
  | nil => simp
  | cons s own ih =>
    obtain ⟨hgross, hdeductions, hfigures⟩ := addPayslip_amounts fiscalYear challans employee st s
    obtain ⟨hgross', hdeductions', hfigures'⟩ := ih (addPayslip fiscalYear challans employee st s)
    rw [List.foldl_cons, hgross', hdeductions', hfigures', hgross, hdeductions, hfigures]
    simp [add_assoc]

end

/-! ## The certificate of an employee -/

section

variable (fiscalYear : String) (challans : List (Month × PayrollTDSChallan))
  (directory : EmployeeDirectory)

/-- The amounts of an employee do not depend on what blocked the ones before. -/
theorem foldl_addPayslip_snd (employee : FilingEmployee) (own : List PayslipRow)
    (blockers blockers' : List Form16Blocker) (t : Form16Totals) :
    (own.foldl (addPayslip fiscalYear challans employee) (blockers, t)).2
      = (own.foldl (addPayslip fiscalYear challans employee) (blockers', t)).2 := by
  induction own generalizing blockers blockers' t with
  | nil => rfl
  | cons s own ih =>
    have hstep : (addPayslip fiscalYear challans employee (blockers, t) s).2
        = (addPayslip fiscalYear challans employee (blockers', t) s).2 := by
      unfold addPayslip
      cases Dict.get s.month challans with
      | none => rfl
      | some challan =>
        dsimp only
        cases (t.add s).addReceipt s.quarter challan.statementReceiptNumber <;> rfl
    rw [List.foldl_cons, List.foldl_cons]
    exact (ih _ _ _).trans (congrArg (fun t => (own.foldl _ (_, t)).2) hstep)

/-- The totals of the payslips of an employee. -/
def employeeTotals (entry : EmployeeId × List PayslipRow) : Form16Totals :=
  ((sortedByMonth entry.2).foldl (addPayslip fiscalYear challans (directory entry.1)) ([], {})).2

def certificate (entry : EmployeeId × List PayslipRow) : Form16EmployeePayload :=
  (employeeTotals fiscalYear challans directory entry).payload fiscalYear directory entry.1

/-- **Each employee with a PAN has its certificate.** -/
theorem foldl_addForm16Employee (entries : List (EmployeeId × List PayslipRow))
    (st : List Form16Blocker × List Form16EmployeePayload) :
    (entries.foldl (addForm16Employee fiscalYear challans directory) st).2
      = st.2 ++ (entries.filter fun entry => (directory entry.1).pan ≠ "").map
        (certificate fiscalYear challans directory) := by
  induction entries generalizing st with
  | nil => simp
  | cons entry entries ih =>
    rw [List.foldl_cons, ih]
    unfold addForm16Employee
    dsimp only
    by_cases hpan : (directory entry.1).pan = ""
    · rw [if_pos hpan, List.filter_cons_of_neg (by simpa using hpan)]
    · rw [if_neg hpan, List.filter_cons_of_pos (by simpa using hpan), List.map_cons, certificate,
        employeeTotals, foldl_addPayslip_snd fiscalYear challans _ _ [] st.1]
      exact List.append_assoc _ [_] _

variable {fiscalYear challans directory} {organisation : FilingOrganisation}
  {payslipsByEmployee : List (EmployeeId × List PayslipRow)} {own : List PayslipRow}
  {e : EmployeeId} {d : ℚ}

/-- The four figures of a certificate. -/
def Form16EmployeePayload.annualFigures (p : Form16EmployeePayload) : ℚ × ℚ × ℚ × ℚ :=
  (p.taxableIncome, p.surcharge, p.cess, p.taxBeforeRebate)

/-- **The certificate describes the year**: the deductions are what each month has, the
gross salary is the sum of the months, and the four figures are those of one month. -/
def Form16EmployeePayload.DescribesYear (p : Form16EmployeePayload) (d : ℚ)
    (own : List PayslipRow) : Prop :=
  p.deductionsChapterVia = d
    ∧ p.grossSalary = (own.map fun s => s.snapshot.grossPay).sum
    ∧ ∃ s ∈ own, p.annualFigures = s.annualFigures

/-- What is written of totals in paise. -/
theorem annualFigures_payload {t : Form16Totals} (h : AllOnPaise t.annualFigures) :
    (t.payload fiscalYear directory e).annualFigures = t.annualFigures := by
  show (normalizeDecimal t.annualFigures.1, normalizeDecimal t.annualFigures.2.1,
    normalizeDecimal t.annualFigures.2.2.1, normalizeDecimal t.annualFigures.2.2.2) = _
  rw [normalizeDecimal_of_onPaise h.1, normalizeDecimal_of_onPaise h.2.1,
    normalizeDecimal_of_onPaise h.2.2.1, normalizeDecimal_of_onPaise h.2.2.2]

variable (fiscalYear challans directory own e) in
/-- The amounts that are summed. -/
theorem certificate_sums :
    (certificate fiscalYear challans directory (e, own)).grossSalary
        = (own.map fun s => s.snapshot.grossPay).sum
      ∧ (certificate fiscalYear challans directory (e, own)).deductionsChapterVia
        = (own.map PayslipRow.annualInvestmentDeductions).sum := by
  obtain ⟨hgross, hdeductions, -⟩ := foldl_addPayslip_amounts fiscalYear challans (directory e)
    (sortedByMonth own) ([], {})
  have hperm := perm_sortedByMonth own
  constructor
  · show normalizeDecimal (employeeTotals _ _ _ _).grossSalary = _
    rw [employeeTotals, hgross, zero_add, (hperm.map _).sum_eq]
    refine normalizeDecimal_of_onPaise (Decimal.onGrid_sum fun x hx => ?_)
    obtain ⟨s, -, rfl⟩ := List.mem_map.mp hx
    exact s.onPaise_annual.1
  · show normalizeDecimal (employeeTotals _ _ _ _).investmentDeductions = _
    rw [employeeTotals, hdeductions, zero_add, (hperm.map _).sum_eq]
    refine normalizeDecimal_of_onPaise (Decimal.onGrid_sum fun x hx => ?_)
    obtain ⟨s, -, rfl⟩ := List.mem_map.mp hx
    exact s.onPaise_annual.2.1

/-- The four figures are the greatest of the months. -/
theorem certificate_figures {s : PayslipRow} (hs : s ∈ own) :
    (certificate fiscalYear challans directory (e, own)).annualFigures = s.annualFigures
      ↔ s.Leads own := by
  obtain ⟨-, -, hfigures⟩ := foldl_addPayslip_amounts fiscalYear challans (directory e)
    (sortedByMonth own) ([], {})
  have hperm := perm_sortedByMonth own
  have hzero : AllOnPaise 0 := ⟨Decimal.onGrid_zero, Decimal.onGrid_zero, Decimal.onGrid_zero,
    Decimal.onGrid_zero⟩
  have hpaise :
      AllOnPaise (employeeTotals fiscalYear challans directory (e, own)).annualFigures := by
    rw [employeeTotals, hfigures]
    refine AllOnPaise.foldl_sup hzero fun x hx => ?_
    obtain ⟨s, -, rfl⟩ := List.mem_map.mp hx
    exact s.onPaise_annual.2.2
  rw [certificate, annualFigures_payload hpaise, employeeTotals, hfigures]
  show List.foldl (· ⊔ ·) 0 _ = _ ↔ _
  rw [foldl_sup_eq_iff (List.mem_map_of_mem (hperm.mem_iff.mpr hs)), PayslipRow.Leads,
    List.forall_mem_map]
  simp only [hperm.mem_iff]

/-- The same amount for each month adds up to the amount when it is nothing, or there is
one month. -/
theorem sum_const_eq_iff (hd : ∀ s ∈ own, s.annualInvestmentDeductions = d) :
    (own.map PayslipRow.annualInvestmentDeductions).sum = d ↔ d = 0 ∨ own.length = 1 := by
  rw [List.map_congr_left hd, List.map_const', List.sum_replicate, nsmul_eq_mul,
    mul_left_eq_self₀, or_comm, Nat.cast_eq_one]

/-- **When a certificate describes the year.** -/
theorem describesYear_iff (hd : ∀ s ∈ own, s.annualInvestmentDeductions = d) :
    (certificate fiscalYear challans directory (e, own)).DescribesYear d own
      ↔ (d = 0 ∨ own.length = 1) ∧ ∃ s ∈ own, s.Leads own := by
  obtain ⟨hgross, hdeductions⟩ := certificate_sums fiscalYear challans directory own e
  unfold Form16EmployeePayload.DescribesYear
  rw [hdeductions, sum_const_eq_iff hd, and_iff_right hgross]
  exact and_congr_right fun _ => exists_congr fun s => and_congr_right certificate_figures

end

/-- **The dataset has one certificate of an employee with a PAN**, and it describes the
year exactly when the deductions are nothing, or for one month, and one month has the
greatest taxable income, surcharge, cess and tax of all. -/
theorem form16_describesYear_iff (organisation : FilingOrganisation) (fiscalYear : String)
    (challans : List PayrollTDSChallan) (directory : EmployeeDirectory)
    (payslipsByEmployee : List (EmployeeId × List PayslipRow))
    (hkeys : Table.Unique Prod.fst payslipsByEmployee) (employees : List Form16EmployeePayload)
    (blockers : List Form16Blocker)
    (hdataset : aggregateForm16Dataset organisation fiscalYear challans directory
      payslipsByEmployee = .ok (employees, blockers))
    (e : EmployeeId) (own : List PayslipRow) (hown : (e, own) ∈ payslipsByEmployee)
    (hpan : (directory e).pan ≠ "") (d : ℚ)
    (hd : ∀ s ∈ own, s.annualInvestmentDeductions = d) :
    ∃ p, employees.filter (fun p => p.employeeId = e) = [p]
      ∧ (p.DescribesYear d own
        ↔ (d = 0 ∨ own.length = 1) ∧ ∃ s ∈ own, s.Leads own) := by
  obtain ⟨byMonth, -, hpair⟩ := bind_eq_ok_iff.mp hdataset
  obtain ⟨rfl, -⟩ := Prod.mk.inj (Except.ok.inj hpair)
  refine ⟨certificate fiscalYear byMonth directory (e, own), ?_, describesYear_iff hd⟩
  -- the entries are those of the employee, in the order of the identifiers
  set entries := (payslipsByEmployee.insertionSort (fun x y => x.1 ≤ y.1)).filter
    fun entry => (directory entry.1).pan ≠ "" with hentries
  have hperm := List.perm_insertionSort (fun x y : EmployeeId × List PayslipRow => x.1 ≤ y.1)
    payslipsByEmployee
  have hunique : Table.Unique Prod.fst entries :=
    Table.Unique.filter ((hperm.map Prod.fst).nodup_iff.mpr hkeys) _
  have hmem : (e, own) ∈ entries.filter (fun entry => entry.1 = e) :=
    List.mem_filter.mpr ⟨List.mem_filter.mpr ⟨hperm.mem_iff.mpr hown, decide_eq_true hpan⟩,
      decide_eq_true rfl⟩
  have hone : entries.filter (fun entry => entry.1 = e) = [(e, own)] := by
    cases hunique.filter_cases e with
    | inl hnone =>
      rw [hnone] at hmem
      cases hmem
    | inr hsome =>
      obtain ⟨entry, -, -, hentry⟩ := hsome
      rw [hentry] at hmem ⊢
      rw [List.mem_singleton.mp hmem]
  rw [foldl_addForm16Employee, List.nil_append, ← hentries, List.filter_map]
  exact congrArg (List.map (certificate fiscalYear byMonth directory)) hone

/-! ## Two months with declared investments -/

namespace Sample

/-- Employee 1 in the old regime, with 150000 declared under section 80C. -/
def investor (period : PayPeriod) : ItemInputs :=
  { inputs period employee { assignment 100000 with taxRegime := .old } with
    declaredTotals := fun section_ => if section_ = .section80C then 150000 else 0 }

def mayOf2024 : PayPeriod := ⟨2024, 5, by decide⟩

theorem investor_april_ready : calculateItem (investor april)
    = .ok (.ready (item (investor april)).1 (item (investor april)).2) := by
  decide +kernel

theorem investor_may_ready : calculateItem (investor mayOf2024)
    = .ok (.ready (item (investor mayOf2024)).1 (item (investor mayOf2024)).2) := by
  decide +kernel

def investorPayslips : List PayslipRow :=
  [payslipRow 1 (payRunOf 1 .regular) (investor april) rfl rfl investor_april_ready,
    payslipRow 2 { payRunOf 2 .regular with periodMonth := 5 } (investor mayOf2024) rfl rfl
      investor_may_ready]

/-- The certificates on payslips of employee 1, without a challan. -/
def certificates (payslips : List PayslipRow) : List Form16EmployeePayload :=
  (form16Dataset "2024-2025" [] filers filingOrganisation [(1, payslips)]).2

theorem aggregateForm16Dataset_sample (payslips : List PayslipRow) :
    ∃ blockers, aggregateForm16Dataset filingOrganisation "2024-2025" [] filers [(1, payslips)]
      = .ok (certificates payslips, blockers) :=
  ⟨_, bind_eq_ok_iff.mpr ⟨[], by decide +kernel, rfl⟩⟩

end Sample

/-- The certificate on the payslip of April alone. -/
theorem form16_describesYear_iff_sample :
    ∃ p, (Sample.certificates (Sample.investorPayslips.take 1)).filter (fun p => p.employeeId = 1)
        = [p]
      ∧ (p.DescribesYear 150000 (Sample.investorPayslips.take 1)
        ↔ ((150000 : ℚ) = 0 ∨ (Sample.investorPayslips.take 1).length = 1)
          ∧ ∃ s ∈ Sample.investorPayslips.take 1, s.Leads (Sample.investorPayslips.take 1)) := by
  obtain ⟨blockers, hdataset⟩ :=
    Sample.aggregateForm16Dataset_sample (Sample.investorPayslips.take 1)
  exact form16_describesYear_iff Sample.filingOrganisation "2024-2025" [] Sample.filers
    [(1, Sample.investorPayslips.take 1)] (by decide) _ blockers hdataset 1 _
    (List.mem_singleton_self _) (by decide +kernel) 150000 (by decide +kernel)

/-- **Deductions of 150000 in April and in May are reported as 300000.** -/
theorem declared_twice : ∃ employees blockers,
    aggregateForm16Dataset Sample.filingOrganisation "2024-2025" [] Sample.filers
        [(1, Sample.investorPayslips)] = .ok (employees, blockers)
      ∧ (∀ s ∈ Sample.investorPayslips, s.annualInvestmentDeductions = 150000)
      ∧ employees.map (fun p => p.deductionsChapterVia) = [300000]
      ∧ ∀ p ∈ employees, ¬ p.DescribesYear 150000 Sample.investorPayslips := by
  obtain ⟨blockers, hdataset⟩ := Sample.aggregateForm16Dataset_sample Sample.investorPayslips
  have hreported : (Sample.certificates Sample.investorPayslips).map
      (fun p => p.deductionsChapterVia) = [300000] := by
    decide +kernel
  refine ⟨_, blockers, hdataset, by decide +kernel, hreported, fun p hp h => ?_⟩
  have hmem := List.mem_map_of_mem (f := fun p => p.deductionsChapterVia) hp
  rw [hreported, List.mem_singleton, h.1] at hmem
  norm_num at hmem

end Payroll
