import Clarisal.Payroll.Filings
import Clarisal.Payroll.ProvidentFund
import Clarisal.Payroll.StatutoryCharges

/-!
# The tax summary

The tax summary of a fiscal year has a row for each item of the finalized runs of its months,
with the tax of the item and the first line of each statutory code. The filings read the
payslips of the same runs and keep one for each employee and month, that of the run finalized
last.

The summary has the rows that the filings keep only where no run of a month was repeated:
a rerun is listed beside the run it replaces (`rerun_listed_twice`). The shares in a row are
those the payslip deducts only where the first line says them: it has the amount of a whole
month, also in a part of one, and it may be a line of the assignment that is not what is
deducted, or not all of it. These are the only differences (`summaryAgrees_iff`).
-/

open Approvals Calendar

namespace Payroll

/-! ## What a code stands for in an item -/

/-- `_snapshot_component_amount`: the amount of the first line of a code. -/
def snapshotComponentAmount (snapshot : ItemSnapshot) (componentCode : String) : ℚ :=
  (snapshot.lines.find? (fun line => line.componentCode = componentCode)).elim 0
    SnapshotLine.monthlyAmount

namespace ItemInputs

variable (inp : ItemInputs)

/-- What the deductions of a whole month take for a code: the lines of the assignment that
are counted, the provident fund in place of such a line, and the computed line. -/
def deductedFor (code : String) : ℚ :=
  inp.templateCharge .deductions code
    + (if code = "PF_EMPLOYEE" then inp.pfReplaced .deductions else 0)
    + linesTotal .deductions (inp.computedLines.filter (fun line => line.componentCode = code))

/-- **The amount for a code that the employee deductions contain.** -/
def contained (code : String) : ℚ := inp.prorate (inp.deductedFor code)

/-- The deductions for all but the provident fund and the state insurance. -/
def otherDeductions : ℚ :=
  ((inp.assignment.lines.filter (fun line =>
      line.componentCode ∉ ["PF_EMPLOYEE", "ESI_EMPLOYEE"])).map
        (CompensationAssignmentLine.counted .deductions)).sum
    + linesTotal .deductions (inp.computedLines.filter (fun line =>
        line.componentCode ∉ ["PF_EMPLOYEE", "ESI_EMPLOYEE"]))

/-- The state insurance charged to the employee. -/
def esiShare : ℚ := inp.esiShares.elim 0 Prod.fst

/-- The first line of the assignment with a code. -/
def firstLine (code : String) : Option CompensationAssignmentLine :=
  inp.assignment.lines.find? (fun line => line.componentCode = code)

/-- **The first provident-fund line says what is deducted**: the share is the same for the
days paid, or there is none and no amount is listed first. -/
def ListsPf : Prop :=
  if 0 < inp.basicPay then inp.prorate inp.providentFund.employee = inp.providentFund.employee
  else ∀ line ∈ inp.firstLine "PF_EMPLOYEE", normalizeDecimal line.monthlyAmount = 0

/-- **The first state-insurance line says what is deducted**: the share, when it is the same
for the days paid, or a line of the assignment that has the amount of all of them and the
share. -/
def ListsEsi : Prop :=
  match inp.firstLine "ESI_EMPLOYEE" with
  | none => inp.prorate inp.esiShare = inp.esiShare
  | some line => normalizeDecimal line.monthlyAmount
      = inp.prorate (inp.templateCharge .deductions "ESI_EMPLOYEE" + inp.esiShare)

instance : Decidable inp.ListsPf := by
  unfold ListsPf
  infer_instance

instance : Decidable inp.ListsEsi :=
  match h : inp.firstLine "ESI_EMPLOYEE" with
  | none => decidable_of_iff (inp.prorate inp.esiShare = inp.esiShare) (by simp [ListsEsi, h])
  | some line => decidable_of_iff (normalizeDecimal line.monthlyAmount
      = inp.prorate (inp.templateCharge .deductions "ESI_EMPLOYEE" + inp.esiShare))
      (by simp [ListsEsi, h])

variable {inp}

/-! ### What is deducted -/

theorem linesTotal_levyLines_filter {employeeCode employerCode code : String}
    (hemployee : employeeCode ≠ code) (hemployer : employerCode ≠ code)
    (shares : Option (ℚ × ℚ)) (g : LineGroup) :
    linesTotal g ((levyLines employeeCode employerCode shares).filter
      (fun line => line.componentCode = code)) = 0 := by
  refine linesTotal_filter_none fun line hline => ?_
  rcases mem_levyLines hline with h | h
  · exact decide_eq_false (h.trans_ne hemployee)
  · exact decide_eq_false (h.trans_ne hemployer)

theorem pfEmployee_isPfShare : inp.IsPfShare "PF_EMPLOYEE" inp.providentFund.employee :=
  Or.inl ⟨rfl, rfl⟩

/-- **The provident fund** is deducted as it is computed. -/
theorem deductedFor_pf : inp.deductedFor "PF_EMPLOYEE" = inp.providentFund.employee := by
  have htemplate : inp.templateCharge .deductions "PF_EMPLOYEE" = 0 := by
    refine List.sum_eq_zero fun x hx => ?_
    obtain ⟨line, hline, rfl⟩ := List.mem_map.mp hx
    have hcode : line.componentCode = "PF_EMPLOYEE" :=
      of_decide_eq_true (List.mem_filter.mp hline).2
    simp [CompensationAssignmentLine.counted, CompensationAssignmentLine.isPf, hcode]
  have hpt : linesTotal .deductions ((if 0 < inp.ptMonthly then
      [autoLine "PROFESSIONAL_TAX" .employeeDeduction inp.ptMonthly] else []).filter
        (fun line => line.componentCode = "PF_EMPLOYEE")) = 0 := by
    split <;> simp [autoLine]
  unfold deductedFor
  rw [htemplate, computedLines, List.filter_append, List.filter_append, List.filter_append,
    linesTotal_append, linesTotal_append, linesTotal_append, hpt,
    linesTotal_levyLines_filter (by decide) (by decide),
    linesTotal_levyLines_filter (by decide) (by decide), if_pos rfl, zero_add, add_zero, add_zero,
    add_zero]
  by_cases hbasic : 0 < inp.basicPay
  · cases hhas : inp.hasLine "PF_EMPLOYEE" <;> cases hhas' : inp.hasLine "PF_EMPLOYER" <;>
      simp [pfReplaced, pfLines, hbasic, hhas, hhas', autoLine, SnapshotLine.amountIn,
        PayrollComponentType.group]
  · rw [share_eq_zero pfEmployee_isPfShare hbasic]
    simp [pfReplaced, pfLines, hbasic]

/-- **The state insurance** is deducted besides the lines of the assignment. -/
theorem deductedFor_esi : inp.deductedFor "ESI_EMPLOYEE"
    = inp.templateCharge .deductions "ESI_EMPLOYEE" + inp.esiShare := by
  have hpf : linesTotal .deductions (inp.pfLines.filter
      (fun line => line.componentCode = "ESI_EMPLOYEE")) = 0 := by
    refine linesTotal_filter_none fun line hline => ?_
    have hcount := inp.codeCount_pfLines_le "ESI_EMPLOYEE"
    rw [if_pos (Or.inl (by decide)), codeCount, Nat.le_zero, List.countP_eq_zero] at hcount
    exact Bool.eq_false_iff.mpr (hcount line hline)
  have hesi : linesTotal .deductions ((levyLines "ESI_EMPLOYEE" "ESI_EMPLOYER"
      inp.esiShares).filter (fun line => line.componentCode = "ESI_EMPLOYEE"))
      = inp.esiShare := by
    unfold esiShare
    cases inp.esiShares <;> simp [levyLines, autoLine, SnapshotLine.amountIn,
      PayrollComponentType.group]
  have hpt : linesTotal .deductions ((if 0 < inp.ptMonthly then
      [autoLine "PROFESSIONAL_TAX" .employeeDeduction inp.ptMonthly] else []).filter
        (fun line => line.componentCode = "ESI_EMPLOYEE")) = 0 := by
    split <;> simp [autoLine]
  unfold deductedFor
  rw [computedLines, List.filter_append, List.filter_append, List.filter_append,
    linesTotal_append, linesTotal_append, linesTotal_append, hpf, hesi, hpt,
    linesTotal_levyLines_filter (by decide) (by decide), if_neg (by decide)]
  ring

theorem sum_filter_add_sum_filter_not {α : Type*} (p : α → Bool) (f : α → ℚ) (xs : List α) :
    (xs.map f).sum = ((xs.filter p).map f).sum + ((xs.filter (fun x => !p x)).map f).sum := by
  have hsplit := ((List.filter_append_perm p xs).map f).sum_eq
  rw [List.map_append, List.sum_append] at hsplit
  exact hsplit.symm

/-- The sums for two codes and for the others. -/
theorem sum_by_code {α : Type*} (code : α → String) (f : α → ℚ) (xs : List α) :
    (xs.map f).sum = ((xs.filter (fun x => code x = "PF_EMPLOYEE")).map f).sum
      + ((xs.filter (fun x => code x = "ESI_EMPLOYEE")).map f).sum
      + ((xs.filter (fun x => code x ∉ ["PF_EMPLOYEE", "ESI_EMPLOYEE"])).map f).sum := by
  rw [sum_filter_add_sum_filter_not (fun x => decide (code x = "PF_EMPLOYEE")) f xs,
    sum_filter_add_sum_filter_not (fun x => decide (code x = "ESI_EMPLOYEE")) f
      (xs.filter (fun x => !decide (code x = "PF_EMPLOYEE"))), List.filter_filter,
    List.filter_filter, add_assoc]
  congr 3
  · refine congrArg (List.map f) (List.filter_congr fun x _ => ?_)
    by_cases hesi : code x = "ESI_EMPLOYEE" <;> simp [hesi]
  · refine congrArg (List.map f) (List.filter_congr fun x _ => ?_)
    simp [Bool.and_comm]

/-- **The employee deductions** are those for the provident fund, for the state insurance,
and the others, for the days paid. -/
theorem monthTotal_deductions_eq : inp.monthTotal .deductions
    = inp.deductedFor "PF_EMPLOYEE" + inp.deductedFor "ESI_EMPLOYEE" + inp.otherDeductions := by
  have hlines := sum_by_code CompensationAssignmentLine.componentCode
    (CompensationAssignmentLine.counted .deductions) inp.assignment.lines
  have hcomputed := sum_by_code SnapshotLine.componentCode
    (SnapshotLine.amountIn .deductions) inp.computedLines
  change linesTotal .deductions inp.computedLines = linesTotal .deductions _
    + linesTotal .deductions _ + linesTotal .deductions _ at hcomputed
  rw [monthTotal, hlines, hcomputed, deductedFor, deductedFor, otherDeductions, if_pos rfl,
    if_neg (by decide), templateCharge, templateCharge,
    show inp.countedArrears .deductions = 0 from rfl]
  ring

/-! ### What is listed first -/

/-- The first line of a code is one of the assignment, where it has one. -/
theorem find?_itemLines {code : String} (hcode : code ∈ statutoryCodes) :
    inp.itemLines.find? (fun line => line.componentCode = code)
      = ((inp.firstLine code).map inp.listedLine).or
        (inp.computedLines.find? (fun line => line.componentCode = code)) := by
  have hlisted : (inp.assignment.lines.map inp.listedLine).find?
      (fun line => line.componentCode = code) = (inp.firstLine code).map inp.listedLine := by
    rw [List.find?_map, firstLine]
    congr 2
    funext line
    simp
  have hclaims : inp.reimbursementLines.find? (fun line => line.componentCode = code) = none := by
    have hnone : codeCount code inp.reimbursementLines = 0 := codeCount_reimbursementLines hcode
    exact List.find?_eq_none.mpr fun line hline => List.countP_eq_zero.mp hnone line hline
  rw [itemLines, List.find?_append, List.find?_append, hlisted, hclaims, Option.or_none]

theorem listedLine_monthlyAmount {line : CompensationAssignmentLine}
    (h : ¬ 0 < inp.basicPay ∨ line.isPf = false) :
    (inp.listedLine line).monthlyAmount = normalizeDecimal line.monthlyAmount := by
  rcases h with hbasic | hpf
  · rw [listedLine, if_neg hbasic]
    rfl
  · rw [listedLine_of_not_pf hpf]
    rfl

/-- **The first provident-fund line** is as computed, if there is a basic pay, and else the
first one of the assignment. -/
theorem first_pfLine : (inp.itemLines.find? (fun line => line.componentCode = "PF_EMPLOYEE")).elim
      0 SnapshotLine.monthlyAmount
    = if 0 < inp.basicPay then inp.providentFund.employee
      else (inp.firstLine "PF_EMPLOYEE").elim 0
        (fun line => normalizeDecimal line.monthlyAmount) := by
  split
  · next hbasic =>
    cases hfind : inp.itemLines.find? (fun line => line.componentCode = "PF_EMPLOYEE") with
    | none =>
      obtain ⟨line, hline, hcode, -⟩ := exists_pfLine pfEmployee_isPfShare hbasic
      exact absurd (decide_eq_true hcode) (List.find?_eq_none.mp hfind line hline)
    | some line =>
      have hcode : line.componentCode = "PF_EMPLOYEE" := by simpa using List.find?_some hfind
      rw [find?_itemLines (by decide)] at hfind
      rcases Option.or_eq_some_iff.mp hfind with hlisted | ⟨-, hcomputed⟩
      · obtain ⟨source, hsource, rfl⟩ := Option.map_eq_some_iff.mp hlisted
        rw [listedLine_componentCode] at hcode
        simp [listedLine, hbasic, replacePfLine, CompensationAssignmentLine.snapshot, hcode]
      · have hmem := List.mem_of_find?_eq_some hcomputed
        obtain ⟨code, type, amount, rfl, -, -⟩ := autoLine_of_mem_computedLines hmem
        exact amount_of_mem_itemLines pfEmployee_isPfShare
          (List.mem_append_left _ (List.mem_append_right _ hmem)) hcode rfl
  · next hbasic =>
    have hnone : inp.computedLines.find? (fun line => line.componentCode = "PF_EMPLOYEE")
        = none := by
      refine List.find?_eq_none.mpr fun line hline hcode => ?_
      have hcodeEq : line.componentCode = "PF_EMPLOYEE" := by simpa using hcode
      rw [computedLines_eq, pfLines, if_neg hbasic, List.nil_append] at hline
      have hlevy := inp.levyCharges_sublist.subset (List.mem_map_of_mem hline)
      rw [hcodeEq] at hlevy
      exact absurd hlevy (by decide)
    rw [find?_itemLines (by decide), hnone, Option.or_none]
    cases inp.firstLine "PF_EMPLOYEE" with
    | none => rfl
    | some line => exact listedLine_monthlyAmount (Or.inl hbasic)

/-- **The first state-insurance line** is one of the assignment, if it has one, and else the
share. -/
theorem first_esiLine :
    (inp.itemLines.find? (fun line => line.componentCode = "ESI_EMPLOYEE")).elim
      0 SnapshotLine.monthlyAmount
    = (inp.firstLine "ESI_EMPLOYEE").elim inp.esiShare
        (fun line => normalizeDecimal line.monthlyAmount) := by
  rw [find?_itemLines (by decide)]
  cases hfirst : inp.firstLine "ESI_EMPLOYEE" with
  | some line =>
    have hcode : line.componentCode = "ESI_EMPLOYEE" := by simpa using List.find?_some hfirst
    exact listedLine_monthlyAmount (Or.inr (by simp [CompensationAssignmentLine.isPf, hcode]))
  | none =>
    have hpf : inp.pfLines.find? (fun line => line.componentCode = "ESI_EMPLOYEE") = none := by
      have hcount := inp.codeCount_pfLines_le "ESI_EMPLOYEE"
      rw [if_pos (Or.inl (by decide)), codeCount, Nat.le_zero, List.countP_eq_zero] at hcount
      exact List.find?_eq_none.mpr hcount
    have hlwf : (levyLines "LWF_EMPLOYEE" "LWF_EMPLOYER" inp.labourWelfareFund.1).find?
        (fun line => line.componentCode = "ESI_EMPLOYEE") = none := by
      cases inp.labourWelfareFund.1 <;> simp [levyLines, autoLine]
    rw [computedLines, List.find?_append, List.find?_append, List.find?_append, hpf, hlwf]
    unfold esiShare
    cases inp.esiShares with
    | none => by_cases hpt : 0 < inp.ptMonthly <;> simp [levyLines, autoLine, hpt]
    | some shares => simp [levyLines, autoLine]

end ItemInputs

/-- **The first lines of a ready item** say what is deducted exactly where its inputs let
them. -/
theorem listed_eq_contained_iff {inp : ItemInputs} {amounts : ItemAmounts}
    {snapshot : ItemSnapshot} (h : calculateItem inp = .ok (.ready amounts snapshot)) :
    (snapshotComponentAmount snapshot "PF_EMPLOYEE" = inp.contained "PF_EMPLOYEE" ↔ inp.ListsPf)
      ∧ (snapshotComponentAmount snapshot "ESI_EMPLOYEE" = inp.contained "ESI_EMPLOYEE"
        ↔ inp.ListsEsi) := by
  have hlines : snapshot.lines = inp.itemLines := (linesTotal_sub_total h .earnings).1
  unfold snapshotComponentAmount ItemInputs.contained
  rw [hlines, ItemInputs.first_pfLine, ItemInputs.first_esiLine, ItemInputs.deductedFor_pf,
    ItemInputs.deductedFor_esi]
  constructor
  · unfold ItemInputs.ListsPf
    split
    · exact eq_comm
    · next hbasic =>
      have hzero : inp.prorate inp.providentFund.employee = 0 := by
        rw [ItemInputs.share_eq_zero ItemInputs.pfEmployee_isPfShare hbasic]
        unfold ItemInputs.prorate
        split <;> simp
      rw [hzero]
      cases inp.firstLine "PF_EMPLOYEE" <;> simp
  · unfold ItemInputs.ListsEsi
    cases hfirst : inp.firstLine "ESI_EMPLOYEE" with
    | some line => rfl
    | none =>
      have hnone : inp.templateCharge .deductions "ESI_EMPLOYEE" = 0 := by
        have hempty : inp.assignment.lines.filter
            (fun line => line.componentCode = "ESI_EMPLOYEE") = [] :=
          List.filter_eq_nil_iff.mpr (List.find?_eq_none.mp hfirst)
        rw [ItemInputs.templateCharge, hempty]
        rfl
      rw [hnone, zero_add]
      exact eq_comm

/-- The deductions of a ready item contain the amounts. -/
theorem employeeDeductions_eq {inp : ItemInputs} {amounts : ItemAmounts}
    {snapshot : ItemSnapshot} (h : calculateItem inp = .ok (.ready amounts snapshot)) :
    amounts.employeeDeductions = inp.prorate
      (inp.deductedFor "PF_EMPLOYEE" + inp.deductedFor "ESI_EMPLOYEE" + inp.otherDeductions) := by
  obtain ⟨window, pt, ptBasis, hwindow, hpt, rfl, rfl, -⟩ := calculateItem_eq_ready h
  have htotal : ∀ g, (inp.fullMonth window pt).total g = inp.monthTotal g :=
    inp.fullMonth_total hwindow hpt
  have hstored : (inp.finalAmounts (inp.fullMonth window pt)).employeeDeductions
      = inp.prorate ((inp.fullMonth window pt).total .deductions)
        + linesTotal .deductions inp.reimbursementLines :=
    ItemInputs.finalAmounts_total (fun g => htotal g ▸ ItemInputs.onPaise_monthTotal g) .deductions
  rw [htotal, ItemInputs.linesTotal_reimbursementLines, if_neg (by decide), add_zero,
    ItemInputs.monthTotal_deductions_eq] at hstored
  exact hstored

/-! ## The report -/

/-- A row of the report, of the employee it names. -/
structure TaxSummaryRow where
  employee : EmployeeId
  employeeName : String
  employeeCode : String
  month : ℕ
  year : ℕ
  professionalTax : ℚ
  tdsMonthly : ℚ
  pfEmployee : ℚ
  pfEmployer : ℚ
  esiEmployee : ℚ
  esiEmployer : ℚ
deriving DecidableEq, Repr

namespace TaxSummaryReport

/-- April to March, each with its year. -/
def monthsFrom (startYear : ℤ) : List (ℤ × ℕ) :=
  [4, 5, 6, 7, 8, 9, 10, 11, 12].map (fun month => (startYear, month))
    ++ [1, 2, 3].map (fun month => (startYear + 1, month))

/-- `_get_fiscal_months`. -/
def getFiscalMonths (fiscalYear : String) : Except String (List (ℤ × ℕ)) :=
  match parseInt (fiscalYear.toList.takeWhile (· ≠ '-')) with
  | some startYear => .ok (monthsFrom startYear)
  | none => .error "invalid literal for int() with base 10"

/-- The order of the items of a month. -/
def itemLe (directory : EmployeeDirectory) (s s' : PayslipRow) : Prop :=
  toLex ((directory s.employee).employeeCode, s.item.id)
    ≤ toLex ((directory s'.employee).employeeCode, s'.item.id)

instance (directory : EmployeeDirectory) : DecidableRel (itemLe directory) :=
  fun _ s' => inferInstanceAs (Decidable (_ ≤ toLex ((directory s'.employee).employeeCode,
    s'.item.id)))

section

variable (organisation : OrganisationId) (fiscalYear : String) (directory : EmployeeDirectory)
  (payRuns : List PayrollRun) (payslips : List PayslipRow)

/-- The items of the finalized runs of a month. Each has its payslip, so they come with it. -/
def itemsOfMonth (month : ℤ × ℕ) : List PayslipRow :=
  (payslips.filter (fun s => s.payRun ∈ payRuns ∧ s.payRun.organisation = organisation
    ∧ s.payRun.status = .finalized ∧ ((s.month.1 : ℤ), s.month.2) = month)).insertionSort
      (itemLe directory)

/-- The row of an item. Its snapshot has no `professional_tax` and no `tds_monthly`, so the
columns come from the lines and from the item. -/
def rowOf (s : PayslipRow) : TaxSummaryRow where
  employee := s.employee
  employeeName := (directory s.employee).fullName
  employeeCode := (directory s.employee).employeeCode
  month := s.month.2
  year := s.month.1
  professionalTax := snapshotComponentAmount s.item.snapshot "PROFESSIONAL_TAX"
  tdsMonthly := s.item.amounts.incomeTax
  pfEmployee := snapshotComponentAmount s.item.snapshot "PF_EMPLOYEE"
  pfEmployer := snapshotComponentAmount s.item.snapshot "PF_EMPLOYER"
  esiEmployee := snapshotComponentAmount s.item.snapshot "ESI_EMPLOYEE"
  esiEmployer := snapshotComponentAmount s.item.snapshot "ESI_EMPLOYER"

/-- **The rows of the report.** -/
def generateRows : Except String (List TaxSummaryRow) := do
  let months ← getFiscalMonths fiscalYear
  return months.flatMap (fun month =>
    (itemsOfMonth organisation directory payRuns payslips month).map (rowOf directory))

end

end TaxSummaryReport

/-! ## The report and the payslips that count -/

/-- What a row and a payslip are compared by. -/
structure SummaryFigures where
  employee : EmployeeId
  month : Month
  tds : ℚ
  pfEmployee : ℚ
  esiEmployee : ℚ
deriving DecidableEq

def TaxSummaryRow.figures (row : TaxSummaryRow) : SummaryFigures where
  employee := row.employee
  month := (row.year, row.month)
  tds := row.tdsMonthly
  pfEmployee := row.pfEmployee
  esiEmployee := row.esiEmployee

/-- The figures of a payslip calculated from the inputs. -/
def PayslipRow.figures (s : PayslipRow) (inp : ItemInputs) : SummaryFigures where
  employee := s.employee
  month := s.month
  tds := s.incomeTax
  pfEmployee := inp.contained "PF_EMPLOYEE"
  esiEmployee := inp.contained "ESI_EMPLOYEE"

/-- **The summary agrees with the payslips that count**: it has a row for each of them, with
its figures, and no others. -/
def SummaryAgrees (inputsOf : PayslipRow → ItemInputs) (rows : List TaxSummaryRow)
    (counted : List PayslipRow) : Prop :=
  (rows.map TaxSummaryRow.figures).Perm (counted.map (fun s => s.figures (inputsOf s)))

/-- Each employee has one payslip of a month at most. -/
def OneOfMonth (payslips : List PayslipRow) : Prop :=
  ∀ s ∈ payslips, ∀ s' ∈ payslips, s.employee = s'.employee → s.month = s'.month → s = s'

instance (payslips : List PayslipRow) : Decidable (OneOfMonth payslips) :=
  inferInstanceAs (Decidable (∀ s ∈ payslips, ∀ s' ∈ payslips, _))

/-- Functions whose values name their arguments make the same list only if they are equal. -/
theorem eq_of_perm_map {α β γ : Type*} (key : β → γ) {f g : α → β} {xs : List α}
    (hkey : ∀ x ∈ xs, ∀ y ∈ xs, key (f x) = key (g y) → x = y)
    (h : (xs.map f).Perm (xs.map g)) : ∀ x ∈ xs, f x = g x := by
  intro x hx
  obtain ⟨y, hy, hxy⟩ := List.mem_map.mp (h.mem_iff.mp (List.mem_map_of_mem hx))
  obtain rfl := hkey x hx y hy (congrArg key hxy.symm)
  exact hxy.symm

section

variable {y : ℕ} {organisation : OrganisationId} {directory : EmployeeDirectory}
  {payRuns : List PayrollRun} {payslips : List PayslipRow}

/-- The months of the label. -/
theorem getFiscalMonths_label (y : ℕ) : TaxSummaryReport.getFiscalMonths s!"{y}-{y + 1}"
    = .ok (TaxSummaryReport.monthsFrom y) := by
  have hstart : s!"{y}-{y + 1}".toList.takeWhile (· ≠ '-') = Nat.toDigits 10 y := by
    have hspan := span_label y (Nat.toDigits 10 (y + 1))
    rw [List.span_eq_takeWhile_dropWhile] at hspan
    rw [toList_label]
    exact congrArg Prod.fst hspan
  unfold TaxSummaryReport.getFiscalMonths
  rw [hstart, parseInt_toDigits]

theorem mem_monthsFrom {startYear year : ℤ} {month : ℕ} :
    (year, month) ∈ TaxSummaryReport.monthsFrom startYear
      ↔ (year = startYear ∧ 4 ≤ month ∧ month ≤ 12)
        ∨ (year = startYear + 1 ∧ 1 ≤ month ∧ month ≤ 3) := by
  unfold TaxSummaryReport.monthsFrom
  simp only [List.map_cons, List.map_nil, List.cons_append, List.nil_append, List.mem_cons,
    Prod.mk.injEq, List.not_mem_nil, or_false]
  omega

/-- The months of the year, as the filings compare them. -/
theorem isWithin_label_iff {bounds : Date × Date}
    (hbounds : fiscalYearBounds s!"{y}-{y + 1}" = .ok bounds) {month : Month}
    (hmonth : 1 ≤ month.2 ∧ month.2 ≤ 12) : month.isWithin bounds = true
      ↔ ((month.1 : ℤ), month.2) ∈ TaxSummaryReport.monthsFrom y := by
  obtain ⟨hfirst, hlast⟩ := fiscalYearBounds_label.mp hbounds
  obtain ⟨hfirstYear, hapril⟩ := yearDate_eq_ok hfirst
  obtain ⟨hlastYear, hmarch⟩ := yearDate_eq_ok hlast
  rw [mem_monthsFrom, Month.isWithin, decide_eq_true_eq, hapril, hmarch]
  push_cast at hlastYear
  omega

/-- The month of a payslip is one of the calendar. -/
theorem PayslipRow.month_valid (s : PayslipRow) : 1 ≤ s.month.2 ∧ s.month.2 ≤ 12 := by
  obtain ⟨inp, -, -, hmonth, -⟩ := s.calculated
  have hvalid := inp.period.valid.2.2
  rw [hmonth] at hvalid
  exact hvalid

/-- **The rows are those of all items** of the finalized runs of the year. -/
theorem generateRows_perm (directory : EmployeeDirectory) (payslips : List PayslipRow)
    {runs : List PayrollRun}
    (hruns : finalizedRunsForFiscalYear organisation s!"{y}-{y + 1}" payRuns = .ok runs) :
    ∃ rows, TaxSummaryReport.generateRows organisation s!"{y}-{y + 1}" directory payRuns payslips
        = .ok rows
      ∧ rows.Perm ((payslipsOfRuns runs payslips).map (TaxSummaryReport.rowOf directory)) := by
  obtain ⟨bounds, hbounds, hruns⟩ := Transaction.bind_eq_ok_iff.mp hruns
  obtain rfl := Transaction.pure_eq_ok_iff.mp hruns
  refine ⟨_, Transaction.bind_eq_ok_iff.mpr ⟨_, getFiscalMonths_label y, rfl⟩, ?_⟩
  have hnodup : (TaxSummaryReport.monthsFrom y).Nodup := by
    simp [TaxSummaryReport.monthsFrom]
  set year := payslipsOfRuns (payRuns.filter (fun p => p.organisation = organisation
    ∧ p.status = .finalized ∧ p.month.isWithin bounds = true)) payslips with hyear
  have hmem : ∀ s : PayslipRow, s.payRun.month.isWithin bounds = true
      ↔ ((s.month.1 : ℤ), s.month.2) ∈ TaxSummaryReport.monthsFrom y := fun s =>
    isWithin_label_iff hbounds s.month_valid
  -- of a month, the items are the year's
  have hmonth : ∀ month ∈ TaxSummaryReport.monthsFrom y,
      (TaxSummaryReport.itemsOfMonth organisation directory payRuns payslips month).Perm
        (year.filter (fun s => ((s.month.1 : ℤ), s.month.2) = month)) := by
    intro month hin
    refine (List.perm_insertionSort _ _).trans (List.Perm.of_eq ?_)
    rw [hyear, payslipsOfRuns, List.filter_filter]
    refine List.filter_congr fun s _ => ?_
    rw [Bool.eq_iff_iff]
    simp only [decide_eq_true_eq, Bool.and_eq_true, List.mem_filter]
    constructor
    · rintro ⟨hrun, horganisation, hfinal, rfl⟩
      exact ⟨rfl, hrun, horganisation, hfinal, (hmem s).mpr hin⟩
    · rintro ⟨rfl, hrun, horganisation, hfinal, -⟩
      exact ⟨hrun, horganisation, hfinal, rfl⟩
  have hcover : ∀ s ∈ year, ((s.month.1 : ℤ), s.month.2) ∈ TaxSummaryReport.monthsFrom y := by
    intro s hs
    have hrun := of_decide_eq_true (List.mem_filter.mp hs).2
    exact (hmem s).mp (of_decide_eq_true (List.mem_filter.mp hrun).2).2.2
  have hall : ((TaxSummaryReport.monthsFrom y).flatMap (fun month =>
      TaxSummaryReport.itemsOfMonth organisation directory payRuns payslips month)).Perm year :=
    (List.Perm.flatMap_left _ hmonth).trans (Dict.perm_flatMap_filter hnodup hcover)
  rw [← List.map_flatMap]
  exact hall.map _

/-- Where nothing is issued twice every payslip counts. -/
theorem effective_perm_of_oneOfMonth (directory : EmployeeDirectory)
    (hnodup : payslips.Nodup) (hone : OneOfMonth payslips) :
    (effectivePayslipsForRuns directory payslips).Perm payslips := by
  refine (List.perm_ext_iff_of_nodup nodup_effective hnodup).mpr fun s =>
    ⟨mem_of_mem_effective, fun hs => mem_effective.mpr ?_⟩
  have hown : s ∈ (payslips.insertionSort (queryLe directory)).filter
      (fun s' => (s'.employee, s'.month) = (s.employee, s.month)) :=
    List.mem_filter.mpr ⟨(List.mem_insertionSort _).mpr hs, decide_eq_true rfl⟩
  cases hlast : ((payslips.insertionSort (queryLe directory)).filter
      (fun s' => (s'.employee, s'.month) = (s.employee, s.month))).getLast? with
  | none =>
    rw [List.getLast?_eq_none_iff.mp hlast] at hown
    cases hown
  | some s' =>
    obtain ⟨hs', hkey⟩ := List.mem_filter.mp (List.mem_of_getLast? hlast)
    obtain ⟨hemployee, hmonth⟩ := Prod.mk.inj (of_decide_eq_true hkey)
    rw [hone s' ((List.mem_insertionSort _).mp hs') s hs hemployee hmonth]

/-- As many rows as payslips that count means that all of them count. -/
theorem effective_perm_of_length (directory : EmployeeDirectory)
    (hlength : payslips.length = (effectivePayslipsForRuns directory payslips).length) :
    (effectivePayslipsForRuns directory payslips).Perm payslips :=
  (List.subperm_of_subset nodup_effective fun _ hs => mem_of_mem_effective hs).perm_of_length_le
    hlength.le

/-- **The summary of a year agrees with the payslips that count** exactly when no employee has
two payslips of one month, and the first lines of all items say what is deducted. -/
theorem summaryAgrees_iff {runs : List PayrollRun} (inputsOf : PayslipRow → ItemInputs)
    (hnodup : payslips.Nodup)
    (hinputs : ∀ s ∈ payslips,
      calculateItem (inputsOf s) = .ok (.ready s.item.amounts s.item.snapshot))
    (hruns : finalizedRunsForFiscalYear organisation s!"{y}-{y + 1}" payRuns = .ok runs) :
    ∃ rows, TaxSummaryReport.generateRows organisation s!"{y}-{y + 1}" directory payRuns payslips
        = .ok rows
      ∧ (SummaryAgrees inputsOf rows
          (effectivePayslipsForRuns directory (payslipsOfRuns runs payslips))
        ↔ OneOfMonth (payslipsOfRuns runs payslips)
          ∧ ∀ s ∈ payslipsOfRuns runs payslips, (inputsOf s).ListsPf ∧ (inputsOf s).ListsEsi) := by
  obtain ⟨rows, hrows, hperm⟩ := generateRows_perm directory payslips hruns
  refine ⟨rows, hrows, ?_⟩
  have hitems : (payslipsOfRuns runs payslips).Nodup := hnodup.filter _
  have hready : ∀ s ∈ payslipsOfRuns runs payslips,
      calculateItem (inputsOf s) = .ok (.ready s.item.amounts s.item.snapshot) := fun s hs =>
    hinputs s (List.mem_of_mem_filter hs)
  generalize payslipsOfRuns runs payslips = year at hperm hitems hready ⊢
  have hfigures : (rows.map TaxSummaryRow.figures).Perm
      (year.map (fun s => (TaxSummaryReport.rowOf directory s).figures)) := by
    have := hperm.map TaxSummaryRow.figures
    rwa [List.map_map] at this
  constructor
  · intro hagrees
    have hsame := hfigures.symm.trans hagrees
    have hcounted := effective_perm_of_length directory
      (by simpa using hsame.length_eq)
    have hone : OneOfMonth year := fun s hs s' hs' =>
      effective_unique (hcounted.mem_iff.mpr hs) (hcounted.mem_iff.mpr hs')
    refine ⟨hone, fun s hs => ?_⟩
    have hrow := eq_of_perm_map (fun f : SummaryFigures => (f.employee, f.month))
      (fun s hs s' hs' hkey => hone s hs s' hs' (congrArg Prod.fst hkey) (congrArg Prod.snd hkey))
      (hsame.trans (hcounted.map _)) s hs
    obtain ⟨hpf, hesi⟩ := listed_eq_contained_iff (hready s hs)
    exact ⟨hpf.mp (congrArg SummaryFigures.pfEmployee hrow),
      hesi.mp (congrArg SummaryFigures.esiEmployee hrow)⟩
  · rintro ⟨hone, hlists⟩
    have hcounted := effective_perm_of_oneOfMonth directory hitems hone
    refine hfigures.trans (List.Perm.trans (List.Perm.of_eq ?_) (hcounted.map _).symm)
    refine List.map_congr_left fun s hs => ?_
    obtain ⟨hpf, hesi⟩ := listed_eq_contained_iff (hready s hs)
    have hpfEq := hpf.mpr (hlists s hs).1
    have hesiEq := hesi.mpr (hlists s hs).2
    unfold TaxSummaryRow.figures PayslipRow.figures TaxSummaryReport.rowOf
    rw [hpfEq, hesiEq]
    rfl

end

/-! ## A rerun of April

Run 1 and its rerun 2 are both finalized, with an item of employee 1 in each. -/

namespace Sample

def aprilInputs : ItemInputs := inputs aprilPeriod { employee with id := 1 } (assignment 20000)

def firstIssue : PayslipRow :=
  payslipRow 1 (payRunOf 1 .regular) aprilInputs rfl rfl aprilOf20000_ready

def secondIssue : PayslipRow :=
  payslipRow 2 (payRunOf 2 .rerun) aprilInputs rfl rfl aprilOf20000_ready

def aprilRuns : List PayrollRun := [payRunOf 1 .regular, payRunOf 2 .rerun]

end Sample

/-- The report has two rows of the employee for April, and one payslip counts. -/
theorem rerun_listed_twice :
    ¬ ∀ (y : ℕ) (organisation : OrganisationId) (directory : EmployeeDirectory)
      (payRuns runs : List PayrollRun) (payslips : List PayslipRow)
      (inputsOf : PayslipRow → ItemInputs) (rows : List TaxSummaryRow),
      payslips.Nodup →
      (∀ s ∈ payslips, calculateItem (inputsOf s)
        = .ok (.ready s.item.amounts s.item.snapshot)) →
      finalizedRunsForFiscalYear organisation s!"{y}-{y + 1}" payRuns = .ok runs →
      TaxSummaryReport.generateRows organisation s!"{y}-{y + 1}" directory payRuns payslips
        = .ok rows →
      SummaryAgrees inputsOf rows
        (effectivePayslipsForRuns directory (payslipsOfRuns runs payslips)) := by
  intro h
  have hruns : finalizedRunsForFiscalYear 1 s!"{2024}-{2024 + 1}" Sample.aprilRuns
      = .ok Sample.aprilRuns := by
    decide +kernel
  obtain ⟨rows, hrows, hperm⟩ := generateRows_perm Sample.filers
    [Sample.firstIssue, Sample.secondIssue] hruns
  have hagrees := h 2024 1 Sample.filers Sample.aprilRuns Sample.aprilRuns
    [Sample.firstIssue, Sample.secondIssue] (fun _ => Sample.aprilInputs) rows
    (by decide +kernel)
    (by
      intro s hs
      simp only [List.mem_cons, List.not_mem_nil, or_false] at hs
      rcases hs with rfl | rfl
      · exact Sample.aprilOf20000_ready
      · exact Sample.aprilOf20000_ready)
    hruns hrows
  have hlength := hagrees.length_eq
  rw [List.length_map, hperm.length_eq, List.length_map, List.length_map] at hlength
  revert hlength
  decide +kernel

/-- The summary of the first run alone. -/
theorem summaryAgrees_iff_sample :
    ∃ rows, TaxSummaryReport.generateRows 1 s!"{2024}-{2024 + 1}" Sample.filers
        [Sample.payRunOf 1 .regular] [Sample.firstIssue] = .ok rows
      ∧ SummaryAgrees (fun _ => Sample.aprilInputs) rows
          (effectivePayslipsForRuns Sample.filers
            (payslipsOfRuns [Sample.payRunOf 1 .regular] [Sample.firstIssue])) := by
  obtain ⟨rows, hrows, hiff⟩ := @summaryAgrees_iff 2024 1 Sample.filers
    [Sample.payRunOf 1 .regular] [Sample.firstIssue] [Sample.payRunOf 1 .regular]
    (fun _ => Sample.aprilInputs) (List.nodup_singleton _)
    (fun s hs => by rw [List.mem_singleton.mp hs]; exact Sample.aprilOf20000_ready)
    (by decide +kernel)
  refine ⟨rows, hrows, hiff.mpr ⟨by decide +kernel, ?_⟩⟩
  intro s hs
  exact ⟨by decide +kernel, by decide +kernel⟩

end Payroll
