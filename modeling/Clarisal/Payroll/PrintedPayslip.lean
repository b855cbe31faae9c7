import Clarisal.Lib.Numeral
import Clarisal.Payroll.LossOfPay
import Clarisal.Payroll.StatutoryCharges
import Mathlib.Algebra.Order.Floor.Semifield

/-!
# The printed payslip

A payslip is printed from the snapshot of its item: a row for each earning and each
deduction, and below them the totals that were calculated. The rows and the totals are made
apart from each other, the rows from the lines of the snapshot by their types.

What is printed can be read back (`readInr_fmtInr`), so the question whether a payslip adds
up is one about the texts on it. Reimbursements are paid with the gross salary and have no
row among the earnings, so a payslip with a paid expense claim does not add up
(`claim_without_row`). Apart from that the rows of a whole month say what the totals do,
unless the assignment has lines of the provident fund that are not the deduction counted, or
deductions without a code (`printed_addsUp_iff`). The net pay is the difference of what is
printed in any case.
-/

namespace Payroll

/-! ## Amounts as texts -/

/-- `_fmt_inr`: the sign, the rupees in groups of three digits, and two more digits. -/
def fmtInr (number : ℚ) : String :=
  let sign := if number < 0 then ['-'] else []
  let intPart := ⌊|number|⌋₊
  let decPart := ⌊(|number| - intPart) * 100⌋₊
  String.ofList (sign ++ '₹' :: '.' :: groupThousands (Nat.toDigits 10 intPart)
    ++ '.' :: zeroPad 2 decPart)

/-- **The amount a text says**: its digits, the last two of them paise. -/
def readInr (text : String) : ℚ :=
  let paise := Nat.ofDigitChars 10 (text.toList.filter Char.isDigit) 0
  if text.toList.head? = some '-' then -(paise / 100) else paise / 100

/-- The rupees and the paise of a whole number of paise. -/
theorem floor_parts (n : ℕ) : ⌊(n : ℚ) / 100⌋₊ = n / 100
    ∧ ⌊((n : ℚ) / 100 - (n / 100 : ℕ)) * 100⌋₊ = n % 100 := by
  refine ⟨Nat.floor_div_eq_div n 100, ?_⟩
  have hrest : ((n : ℚ) / 100 - (n / 100 : ℕ)) * 100 = (n % 100 : ℕ) := by
    have hsplit : ((100 * (n / 100) + n % 100 : ℕ) : ℚ) = n := by rw [Nat.div_add_mod]
    push_cast at hsplit
    linarith
  rw [hrest, Nat.floor_natCast]

/-- The digits of a printed amount. -/
theorem filter_isDigit_amount (sign : List Char) (hsign : sign.filter Char.isDigit = [])
    (q r : ℕ) :
    (sign ++ '₹' :: '.' :: groupThousands (Nat.toDigits 10 q)
        ++ '.' :: zeroPad 2 r).filter Char.isDigit
      = Nat.toDigits 10 q ++ zeroPad 2 r := by
  have hplain : ('₹'.isDigit = false) ∧ ('.'.isDigit = false) := by decide
  have hrupees : (Nat.toDigits 10 q).filter Char.isDigit = Nat.toDigits 10 q :=
    List.filter_eq_self.mpr fun _ hc => Nat.isDigit_of_mem_toDigits (by decide) le_rfl hc
  have hpaise : (zeroPad 2 r).filter Char.isDigit = zeroPad 2 r :=
    List.filter_eq_self.mpr fun _ hc => isDigit_of_mem_zeroPad hc
  simp [List.filter_append, hplain, hsign, hrupees, hpaise,
    filter_groupThousands (show Char.isDigit ',' = false by decide)]

/-- **A printed amount is read back.** -/
theorem readInr_fmtInr {x : ℚ} (h : OnPaise x) : readInr (fmtInr x) = x := by
  obtain ⟨n, rfl⟩ := h
  have habs : |(n : ℚ) * (1 / 100)| = (n.natAbs : ℚ) / 100 := by
    rw [abs_mul, Nat.cast_natAbs, abs_of_pos (by norm_num : (0 : ℚ) < 1 / 100), Int.cast_abs,
      mul_one_div]
  obtain ⟨hrupees, hpaise⟩ := floor_parts n.natAbs
  have hvalue : Nat.ofDigitChars 10
      (Nat.toDigits 10 (n.natAbs / 100) ++ zeroPad 2 (n.natAbs % 100)) 0 = n.natAbs := by
    have hlow : n.natAbs % 100 < 10 ^ 2 := Nat.mod_lt _ (by decide)
    rw [Nat.ofDigitChars_append, Nat.ofDigitChars_toDigits (by decide) le_rfl,
      ofDigitChars_zeroPad (by decide) hlow]
    exact Nat.div_add_mod n.natAbs 100
  unfold readInr fmtInr
  simp only [habs, hrupees, hpaise, String.toList_ofList]
  rcases lt_or_ge n 0 with hneg | hpos
  · have hnegative : (n : ℚ) * (1 / 100) < 0 := by
      have : (n : ℚ) < 0 := by exact_mod_cast hneg
      linarith
    have hcast : (n.natAbs : ℚ) = -n := by
      rw [Nat.cast_natAbs, abs_of_neg hneg, Int.cast_neg]
    rw [if_pos hnegative, filter_isDigit_amount _ (by decide), hvalue, if_pos (by simp), hcast]
    ring
  · have hpositive : ¬ (n : ℚ) * (1 / 100) < 0 := by
      have : (0 : ℚ) ≤ n := by exact_mod_cast hpos
      linarith
    have hcast : (n.natAbs : ℚ) = n := by rw [Nat.cast_natAbs, abs_of_nonneg hpos]
    rw [if_neg hpositive, filter_isDigit_amount _ rfl, hvalue, if_neg (by simp), hcast]
    ring

example : fmtInr (-1234567) = "-₹.1,234,567.00" := by decide +kernel

/-! ## Rows and totals -/

/-- The texts of a snapshot that no amount depends on. -/
structure SnapshotTexts where
  componentName : SnapshotLine → String
  lopDays : String

/-- A row of the payslip. -/
structure PrintedRow where
  name : String
  amount : String
deriving DecidableEq, Repr

/-- A line of the column of earnings. -/
def SnapshotLine.isEarning (line : SnapshotLine) : Bool := line.componentType = .earning

/-- A line of the column of a type, which has to have a code. -/
def SnapshotLine.isCoded (type : PayrollComponentType) (line : SnapshotLine) : Bool :=
  line.componentType = type ∧ line.componentCode ≠ ""

section Rows

variable (texts : SnapshotTexts) (snapshot : PayslipSnapshot)

def lineRows (p : SnapshotLine → Bool) : List PrintedRow :=
  (snapshot.lines.filter p).map (fun line =>
    { name := texts.componentName line, amount := fmtInr line.monthlyAmount })

/-- The row of an amount above zero. -/
def positiveRow (name : String) (amount : ℚ) : List PrintedRow :=
  if 0 < amount then [{ name := name, amount := fmtInr amount }] else []

/-- `_build_earnings_rows`. -/
def buildEarningsRows : List PrintedRow :=
  lineRows texts snapshot SnapshotLine.isEarning ++ positiveRow "Arrears" snapshot.arrears

/-- `_build_deductions_rows`. -/
def buildDeductionsRows : List PrintedRow :=
  lineRows texts snapshot (SnapshotLine.isCoded .employeeDeduction)
    ++ positiveRow ("LOP (" ++ texts.lopDays ++ " day(s))") snapshot.lopDeduction
    ++ [{ name := "TDS (Income Tax)", amount := fmtInr snapshot.incomeTax }]

/-- `_build_employer_rows`. -/
def buildEmployerRows : List PrintedRow :=
  lineRows texts snapshot (SnapshotLine.isCoded .employerContribution)

/-- **The amounts on a payslip.** -/
structure PrintedPayslip where
  earningsRows : List PrintedRow
  deductionsRows : List PrintedRow
  employerRows : List PrintedRow
  grossSalary : String
  totalDeductions : String
  netPay : String
deriving DecidableEq, Repr

/-- `generate_payslip_pdf_bytes`. The snapshot is the payslip's: where the one of the item
has a key of the same name, the payslip's value is taken. -/
def generatePayslip (payslip : Payslip) : PrintedPayslip where
  earningsRows := buildEarningsRows texts payslip.snapshot
  deductionsRows := buildDeductionsRows texts payslip.snapshot
  employerRows := buildEmployerRows texts payslip.snapshot
  grossSalary := fmtInr payslip.snapshot.grossPay
  totalDeductions := fmtInr payslip.snapshot.totalDeductions
  netPay := fmtInr payslip.snapshot.netPay

end Rows

/-- The sum of a column, as it is printed. -/
def printedSum (rows : List PrintedRow) : ℚ := (rows.map (fun row => readInr row.amount)).sum

/-- **The payslip adds up**, in what is printed on it. -/
structure PrintedPayslip.AddsUp (slip : PrintedPayslip) : Prop where
  earnings : printedSum slip.earningsRows = readInr slip.grossSalary
  deductions : printedSum slip.deductionsRows = readInr slip.totalDeductions
  net : readInr slip.totalDeductions ≤ readInr slip.grossSalary →
    readInr slip.grossSalary - readInr slip.totalDeductions = readInr slip.netPay

/-- The sum of the lines of a column. -/
def amountsOf (p : SnapshotLine → Bool) (lines : List SnapshotLine) : ℚ :=
  ((lines.filter p).map SnapshotLine.monthlyAmount).sum

section Sums

variable {p : SnapshotLine → Bool}

@[simp] theorem amountsOf_nil : amountsOf p [] = 0 := rfl

@[simp] theorem amountsOf_cons (line : SnapshotLine) (lines : List SnapshotLine) :
    amountsOf p (line :: lines)
      = (if p line then line.monthlyAmount else 0) + amountsOf p lines := by
  unfold amountsOf
  rw [List.filter_cons]
  split <;> simp

@[simp] theorem amountsOf_append (xs ys : List SnapshotLine) :
    amountsOf p (xs ++ ys) = amountsOf p xs + amountsOf p ys := by
  simp [amountsOf]

theorem amountsOf_none {lines : List SnapshotLine} (h : ∀ line ∈ lines, p line = false) :
    amountsOf p lines = 0 := by
  rw [amountsOf, List.filter_eq_nil_iff.mpr fun line hline => by simp [h line hline]]
  rfl

theorem amountsOf_congr {q : SnapshotLine → Bool} {lines : List SnapshotLine}
    (h : ∀ line ∈ lines, p line = q line) : amountsOf p lines = amountsOf q lines := by
  rw [amountsOf, amountsOf, List.filter_congr h]

/-- The total of a group is the sum of its lines. -/
theorem linesTotal_eq_amountsOf (g : LineGroup) (lines : List SnapshotLine) :
    linesTotal g lines = amountsOf (fun line => line.componentType.group = g) lines := by
  induction lines with
  | nil => rfl
  | cons line lines ih => simp [ih, SnapshotLine.amountIn]

end Sums

@[simp] theorem printedSum_append (xs ys : List PrintedRow) :
    printedSum (xs ++ ys) = printedSum xs + printedSum ys := by
  simp [printedSum]

/-- The rows of lines print their amounts. -/
theorem printedSum_lineRows (texts : SnapshotTexts) {snapshot : PayslipSnapshot}
    (hpaise : ∀ line ∈ snapshot.lines, OnPaise line.monthlyAmount) (p : SnapshotLine → Bool) :
    printedSum (lineRows texts snapshot p) = amountsOf p snapshot.lines := by
  unfold printedSum lineRows amountsOf
  rw [List.map_map]
  refine congrArg List.sum (List.map_congr_left fun line hline => ?_)
  exact readInr_fmtInr (hpaise line (List.mem_of_mem_filter hline))

theorem printedSum_positiveRow (name : String) {amount : ℚ} (hpaise : OnPaise amount) :
    printedSum (positiveRow name amount) = max amount 0 := by
  unfold printedSum positiveRow
  split
  · next hpos => simp [readInr_fmtInr hpaise, max_eq_left hpos.le]
  · next hneg => simp [max_eq_right (not_lt.mp hneg)]

/-! ## What the totals count and no row shows -/

/-- A reimbursement, counted in the gross pay. -/
def CompensationAssignmentLine.isReimbursed (line : CompensationAssignmentLine) : Bool :=
  line.componentType = .reimbursement ∧ line.isPf = false

/-- A deduction without a code. -/
def CompensationAssignmentLine.isCodeless (line : CompensationAssignmentLine) : Bool :=
  line.componentType = .employeeDeduction ∧ line.componentCode = ""

/-- The sum of lines of an assignment. -/
def templateSum (p : CompensationAssignmentLine → Bool)
    (lines : List CompensationAssignmentLine) : ℚ :=
  ((lines.filter p).map (fun line => normalizeDecimal line.monthlyAmount)).sum

@[simp] theorem templateSum_nil (p : CompensationAssignmentLine → Bool) :
    templateSum p [] = 0 := rfl

@[simp] theorem templateSum_cons (p : CompensationAssignmentLine → Bool)
    (line : CompensationAssignmentLine) (lines : List CompensationAssignmentLine) :
    templateSum p (line :: lines)
      = (if p line then normalizeDecimal line.monthlyAmount else 0) + templateSum p lines := by
  unfold templateSum
  rw [List.filter_cons]
  split <;> simp

namespace ItemInputs

variable (inp : ItemInputs)

/-- What is reimbursed with the salary: by lines of the assignment, and by expense claims. -/
def reimbursed : ℚ :=
  templateSum CompensationAssignmentLine.isReimbursed inp.assignment.lines + inp.reimbursement

/-- The provident-fund lines of the assignment among the earnings, as listed. -/
def pfEarnings : ℚ :=
  amountsOf SnapshotLine.isEarning
    ((inp.assignment.lines.filter CompensationAssignmentLine.isPf).map inp.listedLine)

/-- The deductions of the assignment without a code. -/
def codelessDeductions : ℚ :=
  templateSum CompensationAssignmentLine.isCodeless inp.assignment.lines

/-- **The rows show what the totals count**: nothing is reimbursed, unless as much is listed of
the provident fund as earnings, and the provident-fund lines among the deductions say what is
counted for them, and what the deductions without a code take besides. -/
def RowsShowTotals : Prop :=
  inp.reimbursed = inp.pfEarnings
    ∧ inp.pfListed .deductions = inp.pfReplaced .deductions + inp.codelessDeductions

instance : Decidable inp.RowsShowTotals := inferInstanceAs (Decidable (_ ∧ _))

variable {inp}

theorem onPaise_listedLine (line : CompensationAssignmentLine) :
    OnPaise (inp.listedLine line).monthlyAmount := by
  obtain ⟨hemployee, hemployer⟩ := onPaise_providentFund inp
  unfold listedLine replacePfLine
  split_ifs
  · exact hemployee
  · exact hemployer
  · exact onPaise_normalizeDecimal _
  · exact onPaise_normalizeDecimal _

theorem onPaise_itemLines : ∀ line ∈ inp.itemLines, OnPaise line.monthlyAmount := by
  intro line hline
  unfold itemLines at hline
  rw [List.mem_append, List.mem_append] at hline
  rcases hline with (hlisted | hcomputed) | hreimbursement
  · obtain ⟨source, -, rfl⟩ := List.mem_map.mp hlisted
    exact onPaise_listedLine source
  · exact onPaise_computedLines line hcomputed
  · obtain ⟨claim, -, rfl⟩ := List.mem_map.mp hreimbursement
    exact onPaise_normalizeDecimal _

/-- A computed line has a code. -/
theorem componentCode_of_mem_computedLines {line : SnapshotLine}
    (hline : line ∈ inp.computedLines) : line.componentCode ≠ "" := by
  rw [computedLines_eq, List.mem_append] at hline
  rcases hline with hpf | hlevy
  · unfold pfLines at hpf
    split at hpf
    · rcases List.mem_append.mp hpf with hpf | hpf <;> split at hpf <;> simp_all [autoLine]
    · cases hpf
  · have hcode := inp.levyCharges_sublist.subset (List.mem_map_of_mem hlevy)
    intro hempty
    rw [hempty] at hcode
    exact absurd hcode (by decide)

/-! ## The earnings -/

/-- **The earnings listed** of the assignment fall short of what is counted by the
reimbursements, and are ahead of it by the provident fund. -/
theorem amountsOf_isEarning_listed (inp : ItemInputs) :
    amountsOf SnapshotLine.isEarning (inp.assignment.lines.map inp.listedLine)
        + (inp.reimbursed - inp.reimbursement)
      = inp.assignment.salary + inp.pfEarnings := by
  unfold reimbursed pfEarnings CompensationAssignment.salary
  rw [add_sub_cancel_right]
  induction inp.assignment.lines with
  | nil => simp
  | cons line lines ih =>
    rw [List.map_cons, amountsOf_cons, templateSum_cons, List.map_cons, List.sum_cons]
    cases hpf : line.isPf with
    | false =>
      have hdrop : (line :: lines).filter CompensationAssignmentLine.isPf
          = lines.filter CompensationAssignmentLine.isPf := List.filter_cons_of_neg (by simp [hpf])
      have hline : (if (inp.listedLine line).isEarning then (inp.listedLine line).monthlyAmount
            else 0) + (if line.isReimbursed then normalizeDecimal line.monthlyAmount else 0)
          = line.counted .earnings := by
        rw [listedLine_of_not_pf hpf]
        cases htype : line.componentType <;>
          simp [hpf, htype, CompensationAssignmentLine.counted, PayrollComponentType.group,
            CompensationAssignmentLine.isReimbursed, SnapshotLine.isEarning,
            CompensationAssignmentLine.snapshot]
      rw [hdrop, ← hline]
      linarith
    | true =>
      have hcounted : line.counted .earnings = 0 := by
        simp [CompensationAssignmentLine.counted, hpf]
      have hreimbursed : line.isReimbursed = false := by
        simp [CompensationAssignmentLine.isReimbursed, hpf]
      rw [List.filter_cons_of_pos hpf, List.map_cons, amountsOf_cons, hcounted, hreimbursed,
        if_neg Bool.false_ne_true]
      linarith

theorem amountsOf_isEarning_itemLines :
    amountsOf SnapshotLine.isEarning inp.itemLines
      = amountsOf SnapshotLine.isEarning (inp.assignment.lines.map inp.listedLine) := by
  have hcomputed : amountsOf SnapshotLine.isEarning inp.computedLines = 0 := by
    refine amountsOf_none fun line hline => ?_
    have hgroup := group_computedLines line hline
    unfold SnapshotLine.isEarning
    cases htype : line.componentType <;> simp_all [PayrollComponentType.group]
  have hclaims : amountsOf SnapshotLine.isEarning inp.reimbursementLines = 0 := by
    refine amountsOf_none fun line hline => ?_
    obtain ⟨claim, -, rfl⟩ := List.mem_map.mp hline
    rfl
  rw [itemLines, amountsOf_append, amountsOf_append, hcomputed, hclaims, add_zero, add_zero]

/-! ## The deductions -/

/-- The deductions listed of the assignment, with and without a code. -/
theorem amountsOf_isCoded_listed (inp : ItemInputs) :
    amountsOf (SnapshotLine.isCoded .employeeDeduction)
        (inp.assignment.lines.map inp.listedLine) + inp.codelessDeductions
      = linesTotal .deductions (inp.assignment.lines.map inp.listedLine) := by
  unfold codelessDeductions
  induction inp.assignment.lines with
  | nil => simp
  | cons line lines ih =>
    have htype : (inp.listedLine line).componentType = line.componentType := by
      unfold listedLine replacePfLine CompensationAssignmentLine.snapshot
      split_ifs <;> rfl
    have hline : (if (inp.listedLine line).isCoded .employeeDeduction
          then (inp.listedLine line).monthlyAmount else 0)
          + (if line.isCodeless then normalizeDecimal line.monthlyAmount else 0)
        = (inp.listedLine line).amountIn .deductions := by
      by_cases hcode : line.componentCode = ""
      · have hpf : line.isPf = false := by simp [CompensationAssignmentLine.isPf, hcode]
        rw [listedLine_of_not_pf hpf]
        cases htype : line.componentType <;>
          simp [htype, hcode, SnapshotLine.isCoded, SnapshotLine.amountIn,
            CompensationAssignmentLine.isCodeless, PayrollComponentType.group,
            CompensationAssignmentLine.snapshot]
      · cases hline : line.componentType <;>
          simp [hline, hcode, htype, SnapshotLine.isCoded, SnapshotLine.amountIn,
            CompensationAssignmentLine.isCodeless, PayrollComponentType.group]
    rw [List.map_cons, amountsOf_cons, templateSum_cons, linesTotal_cons, ← ih, ← hline]
    ring

theorem amountsOf_isCoded_itemLines :
    amountsOf (SnapshotLine.isCoded .employeeDeduction) inp.itemLines
      = amountsOf (SnapshotLine.isCoded .employeeDeduction)
          (inp.assignment.lines.map inp.listedLine)
        + linesTotal .deductions inp.computedLines := by
  have hcomputed : amountsOf (SnapshotLine.isCoded .employeeDeduction) inp.computedLines
      = linesTotal .deductions inp.computedLines := by
    rw [linesTotal_eq_amountsOf]
    refine amountsOf_congr fun line hline => ?_
    have hcode := componentCode_of_mem_computedLines hline
    unfold SnapshotLine.isCoded
    cases line.componentType <;> simp [hcode, PayrollComponentType.group]
  have hclaims : amountsOf (SnapshotLine.isCoded .employeeDeduction) inp.reimbursementLines
      = 0 := by
    refine amountsOf_none fun line hline => ?_
    obtain ⟨claim, -, rfl⟩ := List.mem_map.mp hline
    rfl
  rw [itemLines, amountsOf_append, amountsOf_append, hcomputed, hclaims, add_zero]

end ItemInputs

/-! ## The payslip of a whole month -/

namespace ItemInputs

variable {inp : ItemInputs} {gross : ℚ}

theorem onPaise_lopDeduction (h : OnPaise gross) : OnPaise (inp.lopDeduction gross) := by
  unfold lopDeduction
  split
  · dsimp only
    rcases min_choice (normalizeDecimal (normalizeDecimal
      (Decimal.context 28 (gross / inp.period.totalDays)) * inp.lopDays)) gross with hmin | hmin
    · rw [hmin]
      exact onPaise_normalizeDecimal _
    · rw [hmin]
      exact h
  · exact Decimal.onGrid_zero

theorem lopDeduction_nonneg (inp : ItemInputs) (gross : ℚ) : 0 ≤ inp.lopDeduction gross := by
  rcases le_or_gt 0 gross with hpos | hneg
  · rw [lopDeduction_eq_min hpos]
    exact le_min (normalizeDecimal_nonneg (mul_nonneg (dailyPay_nonneg hpos) inp.lopDays_nonneg))
      hpos
  · exact (if_neg fun hboth => hboth.2.not_gt hneg).ge

end ItemInputs

section

variable {inp : ItemInputs} {amounts : ItemAmounts} {snapshot : ItemSnapshot}

/-- **The totals of a whole month**, in paise. -/
structure WholeMonthTotals (inp : ItemInputs) (amounts : ItemAmounts) (snapshot : ItemSnapshot) :
    Prop where
  lines : snapshot.lines = inp.itemLines
  arrears : snapshot.arrears = inp.arrears
  grossPay : amounts.grossPay = inp.monthTotal .earnings + inp.reimbursement
  totalDeductions : amounts.totalDeductions
    = inp.monthTotal .deductions + amounts.incomeTax + snapshot.lopDeduction
  netPay : amounts.netPay = normalizeDecimal (max 0 (amounts.grossPay - amounts.totalDeductions))
  grossPaise : OnPaise amounts.grossPay
  deductionsPaise : OnPaise amounts.totalDeductions
  taxPaise : OnPaise amounts.incomeTax
  lopPaise : OnPaise snapshot.lopDeduction
  lopNonneg : 0 ≤ snapshot.lopDeduction

theorem ItemInputs.finalGross_of_whole {w : Working} (hwhole : ¬ inp.IsPartialMonth)
    (hpay : w.grossPay = inp.monthTotal .earnings) :
    inp.finalGross w = inp.monthTotal .earnings + inp.reimbursement := by
  have hprorate : inp.prorate w.grossPay = w.grossPay := if_neg hwhole
  unfold ItemInputs.finalGross
  rw [hprorate, hpay]
  split
  · exact normalizeDecimal_of_onPaise
      ((ItemInputs.onPaise_monthTotal .earnings).add (onPaise_normalizeDecimal _))
  · next hzero => rw [le_antisymm (not_lt.mp hzero) ItemInputs.reimbursement_nonneg, add_zero]

theorem ItemInputs.grossPay_of_whole {w : Working} (hwhole : ¬ inp.IsPartialMonth)
    (hpay : w.grossPay = inp.monthTotal .earnings) :
    (inp.finalAmounts w).grossPay = inp.monthTotal .earnings + inp.reimbursement := by
  have hpaise : OnPaise (inp.monthTotal .earnings + inp.reimbursement) :=
    (ItemInputs.onPaise_monthTotal .earnings).add (onPaise_normalizeDecimal _)
  show normalizeDecimal (inp.finalGross w) = _
  rw [ItemInputs.finalGross_of_whole hwhole hpay, normalizeDecimal_of_onPaise hpaise]

theorem ItemInputs.totalDeductions_of_whole {w : Working} (hwhole : ¬ inp.IsPartialMonth)
    (hpay : w.grossPay = inp.monthTotal .earnings)
    (hdeducted : w.employeeDeductions = inp.monthTotal .deductions) :
    (inp.finalAmounts w).totalDeductions = inp.monthTotal .deductions
      + (inp.finalAmounts w).incomeTax + inp.lopDeduction (inp.monthTotal .earnings) := by
  have hprorate : ∀ x, inp.prorate x = x := fun x => if_neg hwhole
  have htax : OnPaise (inp.finalAmounts w).incomeTax := onPaise_normalizeDecimal _
  have hlop : OnPaise (inp.lopDeduction (inp.monthTotal .earnings)) :=
    ItemInputs.onPaise_lopDeduction (ItemInputs.onPaise_monthTotal .earnings)
  have hsum : (inp.finalAmounts w).totalDeductions
      = normalizeDecimal (inp.prorate w.employeeDeductions + (inp.finalAmounts w).incomeTax
        + inp.lopDeduction (inp.prorate w.grossPay)) := rfl
  rw [hsum, hprorate, hprorate, hpay, hdeducted]
  exact normalizeDecimal_of_onPaise
    (((ItemInputs.onPaise_monthTotal .deductions).add htax).add hlop)

theorem ItemInputs.netPay_of_whole {w : Working} (hwhole : ¬ inp.IsPartialMonth)
    (hpay : w.grossPay = inp.monthTotal .earnings) :
    (inp.finalAmounts w).netPay = normalizeDecimal
      (max 0 ((inp.finalAmounts w).grossPay - (inp.finalAmounts w).totalDeductions)) := by
  have hgrid : OnPaise ((inp.finalAmounts w).grossPay - (inp.finalAmounts w).totalDeductions) :=
    (onPaise_normalizeDecimal _).sub (onPaise_normalizeDecimal _)
  have hnet : (inp.finalAmounts w).netPay
      = ensureNonNegativeNetPay (inp.finalGross w - (inp.finalAmounts w).totalDeductions) := rfl
  rw [hnet, ItemInputs.finalGross_of_whole hwhole hpay, ← ItemInputs.grossPay_of_whole hwhole hpay,
    ensureNonNegativeNetPay, normalizeDecimal_of_onPaise hgrid]

theorem wholeMonthTotals (h : calculateItem inp = .ok (.ready amounts snapshot))
    (hwhole : ¬ inp.IsPartialMonth) : WholeMonthTotals inp amounts snapshot := by
  have hlines : snapshot.lines = inp.itemLines := (linesTotal_sub_total h .earnings).1
  obtain ⟨window, pt, ptBasis, hwindow, hpt, rfl, rfl, -⟩ := calculateItem_eq_ready h
  have hpay : (inp.fullMonth window pt).grossPay = inp.monthTotal .earnings :=
    inp.fullMonth_total hwindow hpt .earnings
  have hdeducted : (inp.fullMonth window pt).employeeDeductions = inp.monthTotal .deductions :=
    inp.fullMonth_total hwindow hpt .deductions
  have hlop : (inp.finalSnapshot window pt ptBasis (inp.fullMonth window pt)).lopDeduction
      = inp.lopDeduction (inp.monthTotal .earnings) := by
    have hprorate : inp.prorate (inp.fullMonth window pt).grossPay
        = (inp.fullMonth window pt).grossPay := if_neg hwhole
    show inp.lopDeduction (inp.prorate _) = _
    rw [hprorate, hpay]
  exact
    { lines := hlines
      arrears := rfl
      grossPay := ItemInputs.grossPay_of_whole hwhole hpay
      totalDeductions := by
        rw [hlop]
        exact ItemInputs.totalDeductions_of_whole hwhole hpay hdeducted
      netPay := ItemInputs.netPay_of_whole hwhole hpay
      grossPaise := onPaise_normalizeDecimal _
      deductionsPaise := onPaise_normalizeDecimal _
      taxPaise := onPaise_normalizeDecimal _
      lopPaise := hlop ▸ ItemInputs.onPaise_lopDeduction (ItemInputs.onPaise_monthTotal .earnings)
      lopNonneg := hlop ▸ inp.lopDeduction_nonneg _ }

/-- **The columns of a whole month** are the totals, but for what no row shows. -/
theorem printedSum_columns (texts : SnapshotTexts) {item : PayrollRunItem}
    (h : WholeMonthTotals inp item.amounts item.snapshot) :
    printedSum (buildEarningsRows texts item.payslipSnapshot) + inp.reimbursed
        = item.amounts.grossPay + inp.pfEarnings
      ∧ printedSum (buildDeductionsRows texts item.payslipSnapshot)
          + (inp.pfReplaced .deductions + inp.codelessDeductions)
        = item.amounts.totalDeductions + inp.pfListed .deductions := by
  have hpaise : ∀ line ∈ item.payslipSnapshot.lines, OnPaise line.monthlyAmount := by
    show ∀ line ∈ item.snapshot.lines, _
    rw [h.lines]
    exact ItemInputs.onPaise_itemLines
  have hlines : item.payslipSnapshot.lines = inp.itemLines := h.lines
  have harrears : item.payslipSnapshot.arrears = inp.arrears := h.arrears
  constructor
  · have hlisted := inp.amountsOf_isEarning_listed
    rw [buildEarningsRows, printedSum_append, printedSum_lineRows texts hpaise, hlines, harrears,
      printedSum_positiveRow _ ItemInputs.onPaise_arrears,
      ItemInputs.amountsOf_isEarning_itemLines, h.grossPay, inp.monthTotal_earnings_eq]
    linarith
  · have hlisted := inp.amountsOf_isCoded_listed
    have hsplit : linesTotal .deductions (inp.assignment.lines.map inp.listedLine)
        = (inp.assignment.lines.map (CompensationAssignmentLine.counted .deductions)).sum
          + inp.pfListed .deductions := ItemInputs.linesTotal_listed .deductions
    have htax : printedSum [PrintedRow.mk "TDS (Income Tax)"
        (fmtInr item.payslipSnapshot.incomeTax)] = item.amounts.incomeTax := by
      rw [printedSum, List.map_singleton, List.sum_singleton]
      exact readInr_fmtInr h.taxPaise
    have hlop : max item.payslipSnapshot.lopDeduction 0 = item.snapshot.lopDeduction :=
      max_eq_left h.lopNonneg
    have hmonth : inp.monthTotal .deductions
        = (inp.assignment.lines.map (CompensationAssignmentLine.counted .deductions)).sum
          + inp.pfReplaced .deductions + linesTotal .deductions inp.computedLines := by
      rw [ItemInputs.monthTotal, show inp.countedArrears .deductions = 0 from rfl, add_zero]
    rw [buildDeductionsRows, printedSum_append, printedSum_append,
      printedSum_lineRows texts hpaise, hlines,
      printedSum_positiveRow _ (show OnPaise item.payslipSnapshot.lopDeduction from h.lopPaise),
      htax, hlop, ItemInputs.amountsOf_isCoded_itemLines, h.totalDeductions, hmonth]
    linarith

/-- **The payslip of a whole month adds up** exactly when its rows show what the totals
count. -/
theorem printed_addsUp_iff (texts : SnapshotTexts) {payRun : PayrollRun}
    {item : PayrollRunItem} (h : calculateItem inp = .ok (.ready item.amounts item.snapshot))
    (hwhole : ¬ inp.IsPartialMonth) :
    (generatePayslip texts (item.payslip payRun)).AddsUp ↔ inp.RowsShowTotals := by
  have htotals := wholeMonthTotals h hwhole
  obtain ⟨hearnings, hdeductions⟩ := printedSum_columns texts htotals
  have hgross : readInr (fmtInr item.amounts.grossPay) = item.amounts.grossPay :=
    readInr_fmtInr htotals.grossPaise
  have htaken : readInr (fmtInr item.amounts.totalDeductions) = item.amounts.totalDeductions :=
    readInr_fmtInr htotals.deductionsPaise
  constructor
  · rintro ⟨hcolumn, hcolumn', -⟩
    change printedSum (buildEarningsRows texts item.payslipSnapshot)
      = readInr (fmtInr item.amounts.grossPay) at hcolumn
    change printedSum (buildDeductionsRows texts item.payslipSnapshot)
      = readInr (fmtInr item.amounts.totalDeductions) at hcolumn'
    rw [hgross] at hcolumn
    rw [htaken] at hcolumn'
    constructor <;> linarith
  · rintro ⟨hreimbursed, hpf⟩
    refine ⟨?_, ?_, ?_⟩
    · show printedSum (buildEarningsRows texts item.payslipSnapshot)
        = readInr (fmtInr item.amounts.grossPay)
      rw [hgross]
      linarith
    · show printedSum (buildDeductionsRows texts item.payslipSnapshot)
        = readInr (fmtInr item.amounts.totalDeductions)
      rw [htaken]
      linarith
    · show readInr (fmtInr item.amounts.totalDeductions)
          ≤ readInr (fmtInr item.amounts.grossPay) →
        readInr (fmtInr item.amounts.grossPay) - readInr (fmtInr item.amounts.totalDeductions)
          = readInr (fmtInr item.amounts.netPay)
      rw [hgross, htaken]
      intro hle
      have hgrid := htotals.grossPaise.sub htotals.deductionsPaise
      rw [htotals.netPay, max_eq_right (sub_nonneg.mpr hle), normalizeDecimal_of_onPaise hgrid,
        readInr_fmtInr hgrid]

end

/-! ## A paid expense claim

The employee has a basic pay of 20000, and spent 1000 that are paid back with it. -/

namespace Sample

def travelClaim : ExpenseClaim :=
  { id := 7, organisation := 1, employee := 1, status := .approved,
    reimbursementStatus := .pendingPayroll, reimbursementPayRun := none,
    reimbursementPayRunItem := none, lineAmounts := [1000] }

def travelled : ItemInputs :=
  { inputs april employee (assignment 20000) with expenseClaims := [travelClaim] }

/-- The item of run 1. -/
def runItem (inp : ItemInputs) : PayrollRunItem :=
  { id := 1, payRun := 1, employee := inp.employee.id, status := .ready,
    amounts := (item inp).1, snapshot := (item inp).2, message := "" }

def plainTexts : SnapshotTexts := { componentName := SnapshotLine.componentCode, lopDays := "0" }

def aprilRun : PayrollRun :=
  { id := 1, organisation := 1, periodYear := 2024, periodMonth := 4, runType := .regular,
    useAttendanceInputs := false, status := .finalized, approvalRun := none }

end Sample

/-- The claim is paid with the gross salary, and no row shows it. -/
theorem claim_without_row :
    ¬ ∀ (texts : SnapshotTexts) (payRun : PayrollRun) (inp : ItemInputs) (item : PayrollRunItem),
      calculateItem inp = .ok (.ready item.amounts item.snapshot) → ¬ inp.IsPartialMonth →
      (generatePayslip texts (item.payslip payRun)).AddsUp := by
  intro h
  have hearnings := (h Sample.plainTexts Sample.aprilRun Sample.travelled
    (Sample.runItem Sample.travelled) (by decide +kernel) (by decide +kernel)).earnings
  revert hearnings
  decide +kernel

/-- The payslip without the claim adds up. -/
theorem printed_addsUp_iff_sample :
    (generatePayslip Sample.plainTexts ((Sample.runItem
      (Sample.inputs Sample.april Sample.employee (Sample.assignment 20000))).payslip
        Sample.aprilRun)).AddsUp :=
  (@printed_addsUp_iff (Sample.inputs Sample.april Sample.employee (Sample.assignment 20000))
    Sample.plainTexts Sample.aprilRun
    (Sample.runItem (Sample.inputs Sample.april Sample.employee (Sample.assignment 20000)))
    (by decide +kernel) (by decide +kernel)).mpr (by decide +kernel)

end Payroll
