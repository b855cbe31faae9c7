import Clarisal.Payroll.Transactions

/-!
# Lines and totals of an item

An item lists lines and stores totals. The lines fall in three groups, each
with a total of its own, and the two are built side by side; this module says
how far apart they end.

The lines are those of the assignment, as listed, followed by the computed
ones and the reimbursements (`fullMonth_lines`), and every total is a sum over
the same lines (`fullMonth_total`), with three differences: a provident-fund
line of the assignment is listed whatever is counted for it, negative arrears
are recorded and not counted, and pro-ration acts on the totals alone. The
snapshot adds up to the totals exactly when these differences stay within a
paisa a line (`reconciles_iff`).
-/

open Calendar

namespace Payroll

/-! ## Groups of lines -/

/-- The sections of a payslip. -/
inductive LineGroup
  | earnings
  | deductions
  | contributions
deriving DecidableEq

def PayrollComponentType.group : PayrollComponentType → LineGroup
  | .earning | .reimbursement => .earnings
  | .employeeDeduction => .deductions
  | .employerContribution => .contributions

/-- The amount of a line within a group. -/
def SnapshotLine.amountIn (g : LineGroup) (line : SnapshotLine) : ℚ :=
  if line.componentType.group = g then line.monthlyAmount else 0

/-- The sum of the lines of a group. -/
def linesTotal (g : LineGroup) (lines : List SnapshotLine) : ℚ :=
  (lines.map (SnapshotLine.amountIn g)).sum

/-- The number of lines of a group. -/
def lineCount (g : LineGroup) (lines : List SnapshotLine) : ℕ :=
  lines.countP (fun line => line.componentType.group = g)

/-- The running total of a group. -/
def Working.total (w : Working) : LineGroup → ℚ
  | .earnings => w.grossPay
  | .deductions => w.employeeDeductions
  | .contributions => w.employerContributions

/-- The stored total of a group. -/
def ItemAmounts.total (amounts : ItemAmounts) : LineGroup → ℚ
  | .earnings => amounts.grossPay
  | .deductions => amounts.employeeDeductions
  | .contributions => amounts.employerContributions

/-- What the snapshot records besides its lines. -/
def ItemSnapshot.recorded (snapshot : ItemSnapshot) : LineGroup → ℚ
  | .earnings => snapshot.arrears
  | .deductions | .contributions => 0

/-- **The snapshot adds up to the totals**, up to a paisa a line. -/
def Reconciles (amounts : ItemAmounts) (snapshot : ItemSnapshot) : Prop :=
  ∀ g, |linesTotal g snapshot.lines + snapshot.recorded g - amounts.total g|
    ≤ lineCount g snapshot.lines * (1 / 100)

@[simp] theorem linesTotal_nil (g : LineGroup) : linesTotal g [] = 0 := rfl

@[simp] theorem linesTotal_cons (g : LineGroup) (line : SnapshotLine)
    (lines : List SnapshotLine) :
    linesTotal g (line :: lines) = line.amountIn g + linesTotal g lines := by
  simp [linesTotal]

@[simp] theorem linesTotal_append (g : LineGroup) (xs ys : List SnapshotLine) :
    linesTotal g (xs ++ ys) = linesTotal g xs + linesTotal g ys := by
  simp [linesTotal]

/-- A sum of whole paise. -/
theorem onPaise_linesTotal {lines : List SnapshotLine}
    (h : ∀ line ∈ lines, OnPaise line.monthlyAmount) (g : LineGroup) :
    OnPaise (linesTotal g lines) := by
  refine Decimal.onGrid_sum (fun x hx => ?_)
  obtain ⟨line, hline, rfl⟩ := List.mem_map.mp hx
  unfold SnapshotLine.amountIn
  split
  · exact h line hline
  · exact Decimal.onGrid_zero

/-! ## The lines of an item, from its inputs -/

/-- What a line of the assignment adds to a total. -/
def CompensationAssignmentLine.counted (g : LineGroup) (line : CompensationAssignmentLine) : ℚ :=
  if line.componentType.group = g ∧ line.isPf = false then normalizeDecimal line.monthlyAmount
  else 0

namespace ItemInputs

variable (inp : ItemInputs)

/-- The assignment has a line of a code. -/
def hasLine (code : String) : Bool :=
  inp.assignment.lines.any (fun line => line.componentCode = code)

/-- The basic pay: the last line that says so. -/
def basicPay : ℚ :=
  inp.assignment.lines.foldl (fun basic line =>
    if line.componentCode = "BASIC" ∧ line.componentType = PayrollComponentType.earning
    then normalizeDecimal line.monthlyAmount else basic) 0

/-- A line of the assignment as the item lists it. -/
def listedLine (line : CompensationAssignmentLine) : SnapshotLine :=
  if 0 < inp.basicPay then replacePfLine inp.providentFund line.snapshot else line.snapshot

/-- The lines of a levy. -/
def levyLines (employeeCode employerCode : String) : Option (ℚ × ℚ) → List SnapshotLine
  | none => []
  | some (employee, employer) =>
    [autoLine employeeCode .employeeDeduction employee,
      autoLine employerCode .employerContribution employer]

/-- The provident-fund lines the assignment does not have. -/
def pfLines : List SnapshotLine :=
  if 0 < inp.basicPay then
    (if inp.hasLine "PF_EMPLOYEE" then []
      else [autoLine "PF_EMPLOYEE" .employeeDeduction inp.providentFund.employee])
    ++ (if inp.hasLine "PF_EMPLOYER" then []
      else [autoLine "PF_EMPLOYER" .employerContribution inp.providentFund.employer])
  else []

/-- The state-insurance shares of the period. -/
def esiShares : Option (ℚ × ℚ) :=
  (getEsiContributionPeriodBounds inp.period.year inp.period.month).bind inp.esi

/-- The professional tax of the period. -/
def ptMonthly : ℚ :=
  match inp.professionalTax with
  | .ok (pt, _) => pt
  | .error _ => 0

/-- **The computed lines.** -/
def computedLines : List SnapshotLine :=
  inp.pfLines ++ levyLines "ESI_EMPLOYEE" "ESI_EMPLOYER" inp.esiShares
    ++ (if 0 < inp.ptMonthly then
        [autoLine "PROFESSIONAL_TAX" .employeeDeduction inp.ptMonthly] else [])
    ++ levyLines "LWF_EMPLOYEE" "LWF_EMPLOYER" inp.labourWelfareFund.1

def reimbursementLines : List SnapshotLine := (buildPayrollReimbursementLines inp.expenseClaims).1

/-- **All lines of the item.** -/
def itemLines : List SnapshotLine :=
  inp.assignment.lines.map inp.listedLine ++ inp.computedLines ++ inp.reimbursementLines

/-- The provident fund counted in place of a line the assignment has. -/
def pfReplaced : LineGroup → ℚ
  | .earnings => 0
  | .deductions =>
    if 0 < inp.basicPay ∧ inp.hasLine "PF_EMPLOYEE" then inp.providentFund.employee else 0
  | .contributions =>
    if 0 < inp.basicPay ∧ inp.hasLine "PF_EMPLOYER" then inp.providentFund.employer else 0

/-- The arrears counted. -/
def countedArrears : LineGroup → ℚ
  | .earnings => max inp.arrears 0
  | .deductions | .contributions => 0

/-- **The total of a whole month.** -/
def monthTotal (g : LineGroup) : ℚ :=
  (inp.assignment.lines.map (CompensationAssignmentLine.counted g)).sum
    + inp.countedArrears g + inp.pfReplaced g + linesTotal g inp.computedLines

/-! ## What keeps lines and totals apart -/

/-- The provident-fund lines of the assignment, as listed. -/
def pfListed (g : LineGroup) : ℚ :=
  linesTotal g ((inp.assignment.lines.filter CompensationAssignmentLine.isPf).map inp.listedLine)

/-- Negative arrears are recorded and not counted. -/
def uncountedArrears : LineGroup → ℚ
  | .earnings => min inp.arrears 0
  | .deductions | .contributions => 0

/-- What pro-ration takes off a total. -/
def proRatedAway (g : LineGroup) : ℚ := inp.monthTotal g - inp.prorate (inp.monthTotal g)

/-- **The distance of lines and total** in a group. -/
def drift (g : LineGroup) : ℚ :=
  inp.pfListed g - inp.pfReplaced g + inp.uncountedArrears g + inp.proRatedAway g

end ItemInputs

/-! ## The lines of the assignment -/

section Collect

variable (w : Working) (line : CompensationAssignmentLine)

/-- What a line of the assignment leaves. -/
theorem collectLine_fields (g : LineGroup) :
    (collectLine w line).lines = w.lines ++ [line.snapshot]
      ∧ (collectLine w line).total g = w.total g + line.counted g
      ∧ (collectLine w line).basicPay
        = (if line.componentCode = "BASIC" ∧ line.componentType = PayrollComponentType.earning
          then normalizeDecimal line.monthlyAmount else w.basicPay)
      ∧ (collectLine w line).hasPfEmployeeLine
        = (w.hasPfEmployeeLine || decide (line.componentCode = "PF_EMPLOYEE"))
      ∧ (collectLine w line).hasPfEmployerLine
        = (w.hasPfEmployerLine || decide (line.componentCode = "PF_EMPLOYER")) := by
  unfold CompensationAssignmentLine.counted CompensationAssignmentLine.isPf
  by_cases hemployee : line.componentCode = "PF_EMPLOYEE"
  · cases g <;> simp [collectLine, hemployee, Working.total]
  · by_cases hemployer : line.componentCode = "PF_EMPLOYER"
    · cases g <;> simp [collectLine, hemployer, Working.total]
    · cases htype : line.componentType <;> cases g <;>
        simp [collectLine, hemployee, hemployer, htype, Working.total,
          PayrollComponentType.group]

/-- **After the assignment's lines.** -/
theorem foldl_collectLine (lines : List CompensationAssignmentLine) (g : LineGroup) :
    (lines.foldl collectLine w).lines = w.lines ++ lines.map CompensationAssignmentLine.snapshot
      ∧ (lines.foldl collectLine w).total g
        = w.total g + (lines.map (CompensationAssignmentLine.counted g)).sum
      ∧ (lines.foldl collectLine w).basicPay = lines.foldl (fun basic line =>
          if line.componentCode = "BASIC" ∧ line.componentType = PayrollComponentType.earning
          then normalizeDecimal line.monthlyAmount else basic) w.basicPay
      ∧ (lines.foldl collectLine w).hasPfEmployeeLine
        = (w.hasPfEmployeeLine || lines.any (fun line => line.componentCode = "PF_EMPLOYEE"))
      ∧ (lines.foldl collectLine w).hasPfEmployerLine
        = (w.hasPfEmployerLine || lines.any (fun line => line.componentCode = "PF_EMPLOYER")) := by
  induction lines generalizing w with
  | nil => simp
  | cons line lines ih =>
    obtain ⟨hlines, htotal, hbasic, hemployee, hemployer⟩ := ih (collectLine w line)
    obtain ⟨hlines', htotal', hbasic', hemployee', hemployer'⟩ := collectLine_fields w line g
    simp only [List.foldl_cons]
    refine ⟨?_, ?_, ?_, ?_, ?_⟩
    · rw [hlines, hlines', List.map_cons, List.append_assoc, List.singleton_append]
    · rw [htotal, htotal', List.map_cons, List.sum_cons, add_assoc]
    · rw [hbasic, hbasic']
    · rw [hemployee, hemployee', List.any_cons, Bool.or_assoc]
    · rw [hemployer, hemployer', List.any_cons, Bool.or_assoc]

end Collect

namespace ItemInputs

variable {inp : ItemInputs}

theorem onPaise_arrears : OnPaise inp.arrears := onPaise_normalizeDecimal _

theorem onPaise_counted (g : LineGroup) (line : CompensationAssignmentLine) :
    OnPaise (line.counted g) := by
  unfold CompensationAssignmentLine.counted
  split
  · exact onPaise_normalizeDecimal _
  · exact Decimal.onGrid_zero

theorem onPaise_counted_sum (g : LineGroup) :
    OnPaise (inp.assignment.lines.map (CompensationAssignmentLine.counted g)).sum := by
  refine Decimal.onGrid_sum (fun x hx => ?_)
  obtain ⟨line, -, rfl⟩ := List.mem_map.mp hx
  exact onPaise_counted g line

/-- The arrears leave everything but the earnings. -/
theorem earned_fields (inp : ItemInputs) :
    inp.earned.lines = inp.assignment.lines.map CompensationAssignmentLine.snapshot
      ∧ inp.earned.basicPay = inp.basicPay
      ∧ inp.earned.hasPfEmployeeLine = inp.hasLine "PF_EMPLOYEE"
      ∧ inp.earned.hasPfEmployerLine = inp.hasLine "PF_EMPLOYER" := by
  obtain ⟨hlines, -, hbasic, hemployee, hemployer⟩ :=
    foldl_collectLine {} inp.assignment.lines .earnings
  unfold earned addArrears collected
  split <;> exact ⟨hlines, hbasic, by simpa [hasLine] using hemployee,
    by simpa [hasLine] using hemployer⟩

theorem earned_total (g : LineGroup) : inp.earned.total g
    = (inp.assignment.lines.map (CompensationAssignmentLine.counted g)).sum
      + inp.countedArrears g := by
  have htotal : ∀ g, inp.collected.total g
      = (inp.assignment.lines.map (CompensationAssignmentLine.counted g)).sum := fun g => by
    have h := (foldl_collectLine {} inp.assignment.lines g).2.1
    rw [collected, h]
    cases g <;> simp [Working.total]
  unfold earned addArrears
  split
  · next hpos =>
    cases g with
    | earnings =>
      have hgross : inp.collected.grossPay
          = (inp.assignment.lines.map (CompensationAssignmentLine.counted .earnings)).sum :=
        htotal .earnings
      simp only [Working.total, countedArrears, hgross, max_eq_left hpos.le]
      exact normalizeDecimal_of_onPaise ((onPaise_counted_sum _).add onPaise_arrears)
    | deductions => simpa [Working.total, countedArrears] using htotal .deductions
    | contributions => simpa [Working.total, countedArrears] using htotal .contributions
  · next hneg =>
    rw [htotal]
    cases g <;> simp [countedArrears, max_eq_right (not_lt.mp hneg)]

/-! ## A whole month -/

theorem applyLevy_lines (employeeCode employerCode : String) (shares : Option (ℚ × ℚ))
    (w : Working) : (applyLevy employeeCode employerCode shares w).lines
      = w.lines ++ levyLines employeeCode employerCode shares := by
  cases shares with
  | none => exact (List.append_nil _).symm
  | some shares => rfl

theorem applyLevy_total (employeeCode employerCode : String) (shares : Option (ℚ × ℚ))
    (w : Working) (g : LineGroup) : (applyLevy employeeCode employerCode shares w).total g
      = w.total g + linesTotal g (levyLines employeeCode employerCode shares) := by
  cases shares with
  | none => exact (add_zero _).symm
  | some shares =>
    cases g <;> simp [applyLevy, levyLines, Working.total, SnapshotLine.amountIn, autoLine,
      PayrollComponentType.group]

theorem applyProfessionalTax_lines (pt : ℚ) (w : Working) :
    (applyProfessionalTax pt w).lines
      = w.lines ++ if 0 < pt then [autoLine "PROFESSIONAL_TAX" .employeeDeduction pt] else [] := by
  unfold applyProfessionalTax
  split
  · rfl
  · exact (List.append_nil _).symm

theorem applyProfessionalTax_total (pt : ℚ) (w : Working) (g : LineGroup) :
    (applyProfessionalTax pt w).total g = w.total g + linesTotal g
      (if 0 < pt then [autoLine "PROFESSIONAL_TAX" .employeeDeduction pt] else []) := by
  unfold applyProfessionalTax
  split
  · cases g <;> simp [Working.total, SnapshotLine.amountIn, autoLine, PayrollComponentType.group]
  · simp

theorem applyProvidentFund_lines :
    (applyProvidentFund inp.providentFund inp.earned).lines
      = inp.assignment.lines.map inp.listedLine ++ inp.pfLines := by
  obtain ⟨hlines, hbasic, hemployee, hemployer⟩ := earned_fields inp
  unfold applyProvidentFund pfLines
  rw [hbasic]
  split
  · next hpos =>
    have hmap : inp.assignment.lines.map inp.listedLine
        = (inp.assignment.lines.map CompensationAssignmentLine.snapshot).map
          (replacePfLine inp.providentFund) := by
      rw [List.map_map]
      refine List.map_congr_left (fun line _ => ?_)
      simp [listedLine, hpos]
    dsimp only
    rw [hmap, hlines, hemployee, hemployer, List.append_assoc]
  · next hneg =>
    have hmap : inp.assignment.lines.map inp.listedLine
        = inp.assignment.lines.map CompensationAssignmentLine.snapshot :=
      List.map_congr_left (fun line _ => by simp [listedLine, hneg])
    rw [hmap, hlines, List.append_nil]

theorem applyProvidentFund_total (g : LineGroup) :
    (applyProvidentFund inp.providentFund inp.earned).total g
      = inp.earned.total g + inp.pfReplaced g + linesTotal g inp.pfLines := by
  obtain ⟨-, hbasic, -, -⟩ := earned_fields inp
  unfold applyProvidentFund pfLines pfReplaced
  rw [hbasic]
  by_cases hpos : 0 < inp.basicPay
  · cases hemployee : inp.hasLine "PF_EMPLOYEE" <;> cases hemployer : inp.hasLine "PF_EMPLOYER" <;>
      cases g <;> simp [hpos, Working.total, SnapshotLine.amountIn, autoLine,
        PayrollComponentType.group]
  · cases g <;> simp [hpos]

section FullMonth

variable {window : Date × Date} {pt ptBasis : ℚ}
  (hwindow : getEsiContributionPeriodBounds inp.period.year inp.period.month = some window)
  (hpt : inp.professionalTax = .ok (pt, ptBasis))

include hwindow hpt

/-- **The lines of a whole month**: the assignment's, as listed, and the
computed ones. -/
theorem fullMonth_lines : (inp.fullMonth window pt).lines
    = inp.assignment.lines.map inp.listedLine ++ inp.computedLines := by
  have hesi : inp.esiShares = inp.esi window := by simp [esiShares, hwindow]
  have hptMonthly : inp.ptMonthly = pt := by simp [ptMonthly, hpt]
  rw [fullMonth, applyLabourWelfareFund, applyLevy_lines, applyProfessionalTax_lines, applyEsi,
    applyLevy_lines, applyProvidentFund_lines, computedLines, hesi, hptMonthly]
  simp only [List.append_assoc]

/-- **The totals of a whole month.** -/
theorem fullMonth_total (g : LineGroup) :
    (inp.fullMonth window pt).total g = inp.monthTotal g := by
  have hesi : inp.esiShares = inp.esi window := by simp [esiShares, hwindow]
  have hptMonthly : inp.ptMonthly = pt := by simp [ptMonthly, hpt]
  rw [fullMonth, applyLabourWelfareFund, applyLevy_total, applyProfessionalTax_total, applyEsi,
    applyLevy_total, applyProvidentFund_total, earned_total, monthTotal, computedLines, hesi,
    hptMonthly]
  simp only [linesTotal_append]
  ring

end FullMonth

/-! ## Whole paise -/

theorem onPaise_providentFund (inp : ItemInputs) :
    OnPaise inp.providentFund.employee ∧ OnPaise inp.providentFund.employer := by
  unfold providentFund
  split
  · exact ⟨onPaise_normalizeDecimal _, onPaise_normalizeDecimal _⟩
  · exact ⟨Decimal.onGrid_zero, Decimal.onGrid_zero⟩

theorem onPaise_pfReplaced (g : LineGroup) : OnPaise (inp.pfReplaced g) := by
  obtain ⟨hemployee, hemployer⟩ := onPaise_providentFund inp
  cases g with
  | earnings => exact Decimal.onGrid_zero
  | deductions =>
    rw [pfReplaced]
    split
    · exact hemployee
    · exact Decimal.onGrid_zero
  | contributions =>
    rw [pfReplaced]
    split
    · exact hemployer
    · exact Decimal.onGrid_zero

theorem onPaise_esiShares : ∀ s ∈ inp.esiShares, OnPaise s.1 ∧ OnPaise s.2 := by
  intro s hs
  obtain ⟨window, -, hesi⟩ := Option.bind_eq_some_iff.mp hs
  unfold esi calculateEsiContributions at hesi
  dsimp only at hesi
  split at hesi
  · obtain rfl := Option.some.inj hesi
    exact ⟨onPaise_normalizeDecimal _, onPaise_normalizeDecimal _⟩
  · cases hesi

theorem onPaise_labourWelfareFund :
    ∀ s ∈ inp.labourWelfareFund.1, OnPaise s.1 ∧ OnPaise s.2 := by
  have hfund : ∀ month gross contributions s,
      s ∈ calculateLabourWelfareFund month gross contributions → OnPaise s.1 ∧ OnPaise s.2 := by
    intro month gross contributions s hs
    obtain ⟨c, -, rfl⟩ := Option.map_eq_some_iff.mp hs
    exact ⟨onPaise_normalizeDecimal _, onPaise_normalizeDecimal _⟩
  intro s hs
  unfold labourWelfareFund resolveLabourWelfareFundAmount at hs
  dsimp only at hs
  split at hs <;> dsimp only at hs <;> exact hfund _ _ _ s hs

theorem onPaise_ptMonthly : OnPaise inp.ptMonthly := by
  have hslab : ∀ slab : Option ProfessionalTaxSlab,
      OnPaise (slab.elim 0 (fun slab => normalizeDecimal slab.deductionAmount)) := by
    intro slab
    cases slab with
    | none => exact Decimal.onGrid_zero
    | some slab => exact onPaise_normalizeDecimal _
  unfold ptMonthly
  split
  · next pt ptBasis hpt =>
    unfold professionalTax resolveProfessionalTaxAmount at hpt
    split at hpt
    · cases hpt
    · obtain ⟨rfl, -⟩ := Prod.mk.inj (Except.ok.inj hpt)
      exact hslab _
  · exact Decimal.onGrid_zero

/-- **A computed line** is a deduction or a contribution, in whole paise. -/
theorem autoLine_of_mem_computedLines {line : SnapshotLine} (hline : line ∈ inp.computedLines) :
    ∃ code type amount, line = autoLine code type amount ∧ type.group ≠ .earnings
      ∧ OnPaise amount := by
  obtain ⟨hemployee, hemployer⟩ := onPaise_providentFund inp
  have hlevy : ∀ {employeeCode employerCode : String} {shares : Option (ℚ × ℚ)},
      (∀ s ∈ shares, OnPaise s.1 ∧ OnPaise s.2) →
      line ∈ levyLines employeeCode employerCode shares →
      ∃ code type amount, line = autoLine code type amount ∧ type.group ≠ .earnings
        ∧ OnPaise amount := by
    intro employeeCode employerCode shares hshares hline
    cases shares with
    | none => cases hline
    | some shares =>
      obtain ⟨hfirst, hsecond⟩ := hshares shares rfl
      rcases List.mem_cons.mp hline with rfl | hline
      · exact ⟨_, _, _, rfl, by simp [PayrollComponentType.group], hfirst⟩
      · rw [List.mem_singleton.mp hline]
        exact ⟨_, _, _, rfl, by simp [PayrollComponentType.group], hsecond⟩
  unfold computedLines at hline
  rcases List.mem_append.mp hline with hline | hline
  · rcases List.mem_append.mp hline with hline | hline
    · rcases List.mem_append.mp hline with hline | hline
      · unfold pfLines at hline
        split at hline
        · rcases List.mem_append.mp hline with hline | hline <;> split at hline
          · cases hline
          · rw [List.mem_singleton.mp hline]
            exact ⟨_, _, _, rfl, by simp [PayrollComponentType.group], hemployee⟩
          · cases hline
          · rw [List.mem_singleton.mp hline]
            exact ⟨_, _, _, rfl, by simp [PayrollComponentType.group], hemployer⟩
        · cases hline
      · exact hlevy onPaise_esiShares hline
    · split at hline
      · rw [List.mem_singleton.mp hline]
        exact ⟨_, _, _, rfl, by simp [PayrollComponentType.group], onPaise_ptMonthly⟩
      · cases hline
  · exact hlevy onPaise_labourWelfareFund hline

theorem onPaise_computedLines : ∀ line ∈ inp.computedLines, OnPaise line.monthlyAmount := by
  intro line hline
  obtain ⟨code, type, amount, rfl, -, hamount⟩ := autoLine_of_mem_computedLines hline
  exact hamount

theorem onPaise_monthTotal (g : LineGroup) : OnPaise (inp.monthTotal g) := by
  have harrears : OnPaise (inp.countedArrears g) := by
    cases g <;> unfold countedArrears
    · rcases max_choice inp.arrears 0 with h | h <;> rw [h]
      · exact onPaise_arrears
      · exact Decimal.onGrid_zero
    · exact Decimal.onGrid_zero
    · exact Decimal.onGrid_zero
  exact (((onPaise_counted_sum g).add harrears).add (onPaise_pfReplaced g)).add
    (onPaise_linesTotal onPaise_computedLines g)

theorem onPaise_prorate {x : ℚ} (h : OnPaise x) : OnPaise (inp.prorate x) := by
  unfold prorate
  split
  · exact onPaise_normalizeDecimal _
  · exact h

/-! ## The final item -/

/-- The claims that are paid out. -/
def payableClaims (inp : ItemInputs) : List ExpenseClaim :=
  inp.expenseClaims.filter (fun claim => 0 < claim.totalAmount)

theorem payableClaims_pos : ∀ x ∈ inp.payableClaims.map ExpenseClaim.totalAmount, 0 < x := by
  intro x hx
  obtain ⟨claim, hclaim, rfl⟩ := List.mem_map.mp hx
  exact of_decide_eq_true (List.mem_filter.mp hclaim).2

theorem reimbursement_eq_sum :
    inp.reimbursement = (inp.payableClaims.map ExpenseClaim.totalAmount).sum := by
  refine normalizeDecimal_of_onPaise (Decimal.onGrid_sum (fun x hx => ?_))
  obtain ⟨claim, -, rfl⟩ := List.mem_map.mp hx
  exact onPaise_normalizeDecimal _

theorem reimbursement_nonneg : 0 ≤ inp.reimbursement := by
  rw [reimbursement_eq_sum]
  exact List.sum_nonneg (fun x hx => (payableClaims_pos x hx).le)

/-- The reimbursement lines are earnings. -/
theorem linesTotal_reimbursementLines (g : LineGroup) : linesTotal g inp.reimbursementLines
    = if g = .earnings then inp.reimbursement else 0 := by
  rw [reimbursement_eq_sum]
  unfold reimbursementLines buildPayrollReimbursementLines linesTotal
  rw [List.map_map]
  split
  · next hg =>
    subst hg
    rfl
  · next hg =>
    refine List.sum_eq_zero (fun x hx => ?_)
    obtain ⟨claim, -, rfl⟩ := List.mem_map.mp hx
    cases g <;> simp_all [autoLine, SnapshotLine.amountIn, PayrollComponentType.group]

/-- Without anything to reimburse there is no line. -/
theorem finalLines_eq (w : Working) : inp.finalLines w = w.lines ++ inp.reimbursementLines := by
  unfold finalLines
  split
  · rfl
  · next hzero =>
    have hnone : inp.payableClaims = [] := by
      by_contra hne
      refine hzero ?_
      rw [reimbursement_eq_sum]
      exact List.sum_pos _ payableClaims_pos (by simpa using hne)
    rw [payableClaims] at hnone
    simp [reimbursementLines, buildPayrollReimbursementLines, hnone]

/-- The totals of the item: what pro-ration leaves, and the reimbursements. -/
theorem finalAmounts_total {w : Working} (h : ∀ g, OnPaise (w.total g)) (g : LineGroup) :
    (inp.finalAmounts w).total g
      = inp.prorate (w.total g) + linesTotal g inp.reimbursementLines := by
  have hgrid : ∀ g, OnPaise (inp.prorate (w.total g)) := fun g => onPaise_prorate (h g)
  rw [linesTotal_reimbursementLines]
  cases g with
  | earnings =>
    have hgross : OnPaise (inp.prorate w.grossPay) := hgrid .earnings
    have hreimbursement : OnPaise inp.reimbursement := onPaise_normalizeDecimal _
    simp only [ItemAmounts.total, finalAmounts, finalGross, Working.total, if_true]
    split
    · rw [normalizeDecimal_normalizeDecimal,
        normalizeDecimal_of_onPaise (hgross.add hreimbursement)]
    · next hzero =>
      rw [normalizeDecimal_of_onPaise hgross,
        le_antisymm (not_lt.mp hzero) reimbursement_nonneg, add_zero]
  | deductions =>
    simpa [ItemAmounts.total, finalAmounts, Working.total]
      using normalizeDecimal_of_onPaise (hgrid .deductions)
  | contributions =>
    simpa [ItemAmounts.total, finalAmounts, Working.total]
      using normalizeDecimal_of_onPaise (hgrid .contributions)

theorem listedLine_of_not_pf {line : CompensationAssignmentLine} (hline : line.isPf = false) :
    inp.listedLine line = line.snapshot := by
  have hcode : line.componentCode ≠ "PF_EMPLOYEE" ∧ line.componentCode ≠ "PF_EMPLOYER" := by
    simpa [CompensationAssignmentLine.isPf] using hline
  unfold listedLine
  split
  · simp [replacePfLine, CompensationAssignmentLine.snapshot, hcode]
  · rfl

@[simp] theorem listedLine_componentCode (line : CompensationAssignmentLine) :
    (inp.listedLine line).componentCode = line.componentCode := by
  unfold listedLine replacePfLine CompensationAssignmentLine.snapshot
  split_ifs <;> rfl

/-- **The listed lines of the assignment** are the counted ones and those of
the provident fund. -/
theorem linesTotal_listed (g : LineGroup) :
    linesTotal g (inp.assignment.lines.map inp.listedLine)
      = (inp.assignment.lines.map (CompensationAssignmentLine.counted g)).sum + inp.pfListed g := by
  unfold pfListed
  induction inp.assignment.lines with
  | nil => simp
  | cons line lines ih =>
    rw [List.map_cons, linesTotal_cons, ih, List.map_cons, List.sum_cons]
    cases hpf : line.isPf with
    | false =>
      have hamount : (inp.listedLine line).amountIn g = line.counted g := by
        simp [listedLine_of_not_pf hpf, SnapshotLine.amountIn, CompensationAssignmentLine.counted,
          hpf, CompensationAssignmentLine.snapshot]
      rw [List.filter_cons_of_neg (by simp [hpf]), hamount]
      ring
    | true =>
      have hcounted : line.counted g = 0 := by simp [CompensationAssignmentLine.counted, hpf]
      rw [List.filter_cons_of_pos hpf, List.map_cons, linesTotal_cons, hcounted]
      ring

end ItemInputs

/-- **How far lines and totals of a ready item are apart.** -/
theorem linesTotal_sub_total {inp : ItemInputs} {amounts : ItemAmounts} {snapshot : ItemSnapshot}
    (h : calculateItem inp = .ok (.ready amounts snapshot)) (g : LineGroup) :
    snapshot.lines = inp.itemLines
      ∧ linesTotal g snapshot.lines + snapshot.recorded g - amounts.total g = inp.drift g := by
  obtain ⟨window, pt, ptBasis, hwindow, hpt, rfl, rfl, -⟩ := calculateItem_eq_ready h
  have htotal : ∀ g, (inp.fullMonth window pt).total g = inp.monthTotal g :=
    inp.fullMonth_total hwindow hpt
  have hlines : inp.finalLines (inp.fullMonth window pt) = inp.itemLines := by
    rw [ItemInputs.finalLines_eq, ItemInputs.fullMonth_lines hwindow hpt, ItemInputs.itemLines]
  refine ⟨hlines, ?_⟩
  have harrears : (inp.finalSnapshot window pt ptBasis (inp.fullMonth window pt)).recorded g
      = inp.countedArrears g + inp.uncountedArrears g := by
    cases g <;> simp [ItemSnapshot.recorded, ItemInputs.finalSnapshot, ItemInputs.countedArrears,
      ItemInputs.uncountedArrears, max_add_min]
  have hmonth : linesTotal g inp.itemLines
      = inp.monthTotal g - inp.countedArrears g + inp.pfListed g - inp.pfReplaced g
        + linesTotal g inp.reimbursementLines := by
    rw [ItemInputs.itemLines, linesTotal_append, linesTotal_append, ItemInputs.linesTotal_listed,
      ItemInputs.monthTotal]
    ring
  rw [ItemInputs.finalAmounts_total (fun g => htotal g ▸ ItemInputs.onPaise_monthTotal g), htotal,
    harrears, show (inp.finalSnapshot window pt ptBasis (inp.fullMonth window pt)).lines
      = inp.itemLines from hlines, hmonth, ItemInputs.drift, ItemInputs.proRatedAway]
  ring

/-- **The items of a calculated run**: each is as far apart as the inputs it was
made from say. -/
theorem exists_drift {inputs : CalculationInputs} {payRun : PayrollRun} {t t' : PayrollTables}
    (h : inputs.calculateWrites payRun t = .ok t') {i : PayrollRunItem}
    (hi : i ∈ t'.readyItems payRun.id) :
    ∃ inp : ItemInputs, inp.employee.id = i.employee ∧ inp.period.year = payRun.periodYear
      ∧ inp.period.month = payRun.periodMonth ∧ i.snapshot.lines = inp.itemLines
      ∧ ∀ g, linesTotal g i.snapshot.lines + i.snapshot.recorded g - i.amounts.total g
        = inp.drift g := by
  obtain ⟨inp, hemployee, hyear, hmonth, -, -, -, hcalc⟩ := exists_calculateItem h hi
  exact ⟨inp, hemployee, hyear, hmonth, (linesTotal_sub_total hcalc .earnings).1,
    fun g => (linesTotal_sub_total hcalc g).2⟩

/-- **Reconciliation.** The lines of a ready item add up to its totals exactly
when in every group the provident-fund lines of the assignment agree with what
is counted for them, apart from negative arrears and from what pro-ration
takes off, up to a paisa a line. -/
theorem reconciles_iff {inp : ItemInputs} {amounts : ItemAmounts} {snapshot : ItemSnapshot}
    (h : calculateItem inp = .ok (.ready amounts snapshot)) :
    Reconciles amounts snapshot
      ↔ ∀ g, |inp.drift g| ≤ lineCount g inp.itemLines * (1 / 100) := by
  refine forall_congr' (fun g => ?_)
  obtain ⟨hlines, hdrift⟩ := linesTotal_sub_total h g
  rw [hdrift, hlines]

/-- **A whole month adds up exactly**, when the provident-fund lines agree with
what is counted for them and no arrears are taken back. -/
theorem adds_up_of_fullMonth {inp : ItemInputs} {amounts : ItemAmounts} {snapshot : ItemSnapshot}
    (h : calculateItem inp = .ok (.ready amounts snapshot)) (hfull : ¬ inp.IsPartialMonth)
    (harrears : 0 ≤ inp.arrears) (hpf : ∀ g, inp.pfListed g = inp.pfReplaced g) (g : LineGroup) :
    linesTotal g snapshot.lines + snapshot.recorded g = amounts.total g := by
  have hdrift := (linesTotal_sub_total h g).2
  have hzero : inp.drift g = 0 := by
    rw [ItemInputs.drift, hpf, ItemInputs.proRatedAway, ItemInputs.prorate, if_neg hfull]
    cases g <;> simp [ItemInputs.uncountedArrears, harrears]
  rw [hzero] at hdrift
  exact sub_eq_zero.mp hdrift

/-! ## A joining month

The employee joins on 16 April on a basic pay of 30000. -/

namespace Sample

def joiner : Employee := { employee with dateOfJoining := some ⟨2024, 4, 16, by decide⟩ }

end Sample

theorem ready_joiner :
    calculateItem (Sample.inputs Sample.april Sample.joiner (Sample.assignment 30000))
      = .ok (.ready (Sample.item
          (Sample.inputs Sample.april Sample.joiner (Sample.assignment 30000))).1
        (Sample.item (Sample.inputs Sample.april Sample.joiner (Sample.assignment 30000))).2) := by
  decide +kernel

/-- The joining month lists 30000 and pays 15000. -/
theorem joiner_not_reconciled :
    ¬ ∀ (inp : ItemInputs) (amounts : ItemAmounts) (snapshot : ItemSnapshot),
      calculateItem inp = .ok (.ready amounts snapshot) → Reconciles amounts snapshot := by
  intro h
  have hearnings := h _ _ _ ready_joiner .earnings
  revert hearnings
  decide +kernel

/-- The same pay for the whole month. -/
theorem reconciles_iff_sample :
    Reconciles
      (Sample.item (Sample.inputs Sample.april Sample.employee (Sample.assignment 30000))).1
      (Sample.item (Sample.inputs Sample.april Sample.employee (Sample.assignment 30000))).2 :=
  (@reconciles_iff (Sample.inputs Sample.april Sample.employee (Sample.assignment 30000)) _ _
    (by decide +kernel)).mpr (fun g => by cases g <;> decide +kernel)

end Payroll
