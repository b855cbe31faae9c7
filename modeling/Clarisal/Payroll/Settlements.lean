import Clarisal.Lib.Run
import Clarisal.Payroll.FullAndFinal
import Clarisal.Payroll.TaxMasters
import Clarisal.Payroll.YearToDate

/-!
# Settlements over time

A settlement is drafted when an employment ends, and again whenever the end is recorded
again. A draft is computed anew; once it is calculated, approved or paid, its amounts are
kept. The last working day and the offboarding process are not: they follow the latest call,
whatever the status. So a settlement that is no draft stays as it is exactly as long as
the calls for its employee bring the day and the process it has, or are refused
(`settlement_frozen_iff`).

Drafting again on the same data changes nothing, and the amounts of a draft add up.
-/

open Approvals Calendar

namespace Payroll

abbrev OffboardingProcessId := ℕ

/-! ## The tax on a settlement -/

/-- `FNF_LEAVE_ENCASHMENT_EXEMPTION_CEILING`. -/
def fnfLeaveEncashmentExemptionCeiling : ℚ := 2500000

/-- What a settlement is taxed on top of. -/
structure FnfTaxContext where
  taxRegime : TaxRegime
  isGovernmentBody : Bool
  /-- the year the fiscal year starts in -/
  fiscalYear : ℕ
  ytdTaxableIncome : ℚ
  existingYtdTds : ℚ
  declaredTotals : InvestmentSection → ℚ
  taxSlabSet : Option PayrollTaxSlabSet

namespace FnfTaxContext

variable (context : FnfTaxContext)

/-- An amount without its exemption, which for a government body is all of it. -/
def taxablePart (ceiling amount : ℚ) : ℚ :=
  let amount := normalizeDecimal amount
  let exemption :=
    if context.isGovernmentBody then amount else normalizeDecimal (min amount ceiling)
  normalizeDecimal (max 0 (amount - exemption))

def gratuityTaxable : ℚ → ℚ := context.taxablePart gratuityStatutoryCeiling

def leaveEncashmentTaxable : ℚ → ℚ := context.taxablePart fnfLeaveEncashmentExemptionCeiling

def calculateTaxableIncomeWithInvestments (annualGross : ℚ) : ℚ :=
  let afterStandardDeduction := calculateTaxableIncomeAfterStandardDeduction annualGross
  match context.taxRegime with
  | .new => afterStandardDeduction
  | .old => normalizeDecimal (max 0 (afterStandardDeduction
      - (sectionLimits.map (fun s => min (normalizeDecimal (context.declaredTotals s.1)) s.2)).sum))

/-- **`_calculate_fnf_tds`**: the tax on the year with the settlement, less what was paid. -/
def calculateFnfTds (gratuity leaveEncashment otherTaxableIncome : ℚ) : ℚ :=
  match context.taxSlabSet with
  | none => 0
  | some taxSlabSet =>
    let totalTaxableFnf := normalizeDecimal (context.gratuityTaxable gratuity
      + context.leaveEncashmentTaxable leaveEncashment + normalizeDecimal otherTaxableIncome)
    let annualTaxableGross := normalizeDecimal (context.ytdTaxableIncome + totalTaxableFnf)
    let breakdown := calculateIncomeTaxWithRebate
      (context.calculateTaxableIncomeWithInvestments annualTaxableGross) taxSlabSet
      (surchargeTiersForRegime context.taxRegime)
      (getRebate87aParams context.fiscalYear context.taxRegime)
    normalizeDecimal (max 0 (breakdown.annualTax - context.existingYtdTds))

theorem onPaise_calculateFnfTds (gratuity leaveEncashment otherTaxableIncome : ℚ) :
    OnPaise (context.calculateFnfTds gratuity leaveEncashment otherTaxableIncome) := by
  unfold calculateFnfTds
  split
  · exact Decimal.onGrid_zero
  · exact onPaise_normalizeDecimal _

end FnfTaxContext

/-! ## The rows -/

namespace FullAndFinalSettlement

variable (fnf : FullAndFinalSettlement)

/-- Every amount has two decimal places. -/
structure IsOnPaise : Prop where
  proratedSalary : OnPaise fnf.proratedSalary
  leaveEncashment : OnPaise fnf.leaveEncashment
  gratuity : OnPaise fnf.gratuity
  arrears : OnPaise fnf.arrears
  otherCredits : OnPaise fnf.otherCredits
  tdsDeduction : OnPaise fnf.tdsDeduction
  pfDeduction : OnPaise fnf.pfDeduction
  loanRecovery : OnPaise fnf.loanRecovery
  otherDeductions : OnPaise fnf.otherDeductions
  grossPayable : OnPaise fnf.grossPayable
  netPayable : OnPaise fnf.netPayable

/-- **The amounts add up.** -/
def AddsUp : Prop :=
  fnf.grossPayable = fnf.proratedSalary + fnf.leaveEncashment + fnf.gratuity + fnf.arrears
      + fnf.otherCredits
    ∧ fnf.netPayable = max 0 (fnf.grossPayable - fnf.tdsDeduction - fnf.pfDeduction
      - fnf.loanRecovery - fnf.otherDeductions)

end FullAndFinalSettlement

section

variable {inputs : SettlementInputs} {fnf : FullAndFinalSettlement} (employee : Employee)
  (lastWorkingDay : Date)

/-- A settlement that is no draft gets the day. -/
theorem draftSettlement_of_ne (inputs : SettlementInputs) (h : fnf.status ≠ .draft) :
    draftSettlement inputs employee lastWorkingDay fnf
      = { fnf with lastWorkingDay := lastWorkingDay } := by
  unfold draftSettlement
  exact if_neg h

/-- A draft is computed. -/
theorem draftSettlement_of_draft (inputs : SettlementInputs) (h : fnf.status = .draft) :
    draftSettlement inputs employee lastWorkingDay fnf
      = { fnf with lastWorkingDay := lastWorkingDay }.withTotals
        (inputs.calculateFnfTotals employee lastWorkingDay
          { fnf with lastWorkingDay := lastWorkingDay }) := by
  unfold draftSettlement
  exact if_pos h

theorem status_draftSettlement (inputs : SettlementInputs) (fnf : FullAndFinalSettlement) :
    (draftSettlement inputs employee lastWorkingDay fnf).status = fnf.status := by
  unfold draftSettlement
  dsimp only
  split <;> rfl

theorem employee_draftSettlement (inputs : SettlementInputs) (fnf : FullAndFinalSettlement) :
    (draftSettlement inputs employee lastWorkingDay fnf).employee = fnf.employee := by
  unfold draftSettlement
  dsimp only
  split <;> rfl

/-- **Computing again** on the same data changes nothing: what is computed reads only what
is entered by hand. -/
theorem draftSettlement_idem (inputs : SettlementInputs) (fnf : FullAndFinalSettlement) :
    draftSettlement inputs employee lastWorkingDay
        (draftSettlement inputs employee lastWorkingDay fnf)
      = draftSettlement inputs employee lastWorkingDay fnf := by
  by_cases hdraft : fnf.status = .draft
  · rw [draftSettlement_of_draft employee lastWorkingDay inputs hdraft]
    refine (draftSettlement_of_draft _ _ _ ?_).trans ?_
    · exact hdraft
    · unfold SettlementInputs.calculateFnfTotals
      split <;> rfl
  · rw [draftSettlement_of_ne employee lastWorkingDay inputs hdraft]
    exact draftSettlement_of_ne employee lastWorkingDay inputs hdraft

section

variable (htds : ∀ assignment gratuity leaveEncashment other,
  OnPaise (inputs.fnfTds assignment gratuity leaveEncashment other))

theorem onPaise_leaveEncashment (inputs : SettlementInputs) (monthlyBasicSalary : ℚ) :
    OnPaise (inputs.leaveEncashment monthlyBasicSalary) := by
  unfold SettlementInputs.leaveEncashment
  split
  · exact onPaise_normalizeDecimal _
  · exact Decimal.onGrid_zero

theorem onPaise_gratuity (inputs : SettlementInputs) (dateOfJoining : Option Date)
    (monthlyBasicSalary : ℚ) :
    OnPaise (inputs.gratuity dateOfJoining lastWorkingDay monthlyBasicSalary) := by
  unfold SettlementInputs.gratuity calculateGratuityAmount
  dsimp only
  split_ifs
  · exact Decimal.onGrid_zero
  · exact onPaise_normalizeDecimal _
  · exact Decimal.onGrid_zero

include htds in
/-- What is computed has two decimal places. -/
theorem isOnPaise_draftSettlement (h : fnf.IsOnPaise) :
    (draftSettlement inputs employee lastWorkingDay fnf).IsOnPaise := by
  by_cases hdraft : fnf.status = .draft
  · rw [draftSettlement_of_draft employee lastWorkingDay inputs hdraft]
    unfold SettlementInputs.calculateFnfTotals
    split
    · exact { h with
        proratedSalary := Decimal.onGrid_zero
        leaveEncashment := Decimal.onGrid_zero
        gratuity := Decimal.onGrid_zero
        grossPayable := onPaise_normalizeDecimal _
        netPayable := onPaise_normalizeDecimal _ }
    · exact { h with
        proratedSalary := onPaise_normalizeDecimal _
        leaveEncashment := onPaise_leaveEncashment _ _
        gratuity := onPaise_gratuity _ _ _ _
        tdsDeduction := htds _ _ _ _
        grossPayable := onPaise_normalizeDecimal _
        netPayable := onPaise_normalizeDecimal _ }
  · rw [draftSettlement_of_ne employee lastWorkingDay inputs hdraft]
    exact { h with }

/-- The payable amounts of totals in whole paise need no rounding. -/
theorem addsUp_withTotals {totals : FnfTotals} (h : (fnf.withTotals totals).IsOnPaise)
    (hgross : totals.grossPayable = normalizeDecimal (totals.proratedSalary
      + totals.leaveEncashment + totals.gratuity + fnf.arrears + fnf.otherCredits))
    (hnet : totals.netPayable = normalizeDecimal (max 0 (totals.grossPayable - totals.tdsDeduction
      - fnf.pfDeduction - fnf.loanRecovery - fnf.otherDeductions))) :
    (fnf.withTotals totals).AddsUp := by
  have hsum : OnPaise (totals.proratedSalary + totals.leaveEncashment + totals.gratuity
      + fnf.arrears + fnf.otherCredits) :=
    (((h.proratedSalary.add h.leaveEncashment).add h.gratuity).add h.arrears).add h.otherCredits
  have hrest : OnPaise (max 0 (totals.grossPayable - totals.tdsDeduction - fnf.pfDeduction
      - fnf.loanRecovery - fnf.otherDeductions)) := by
    rcases max_choice 0 (totals.grossPayable - totals.tdsDeduction - fnf.pfDeduction
      - fnf.loanRecovery - fnf.otherDeductions) with hmax | hmax <;> rw [hmax]
    · exact Decimal.onGrid_zero
    · exact (((h.grossPayable.sub h.tdsDeduction).sub h.pfDeduction).sub h.loanRecovery).sub
        h.otherDeductions
  exact ⟨hgross.trans (normalizeDecimal_of_onPaise hsum),
    hnet.trans (normalizeDecimal_of_onPaise hrest)⟩

include htds in
/-- **The amounts of a draft add up** once it is computed. -/
theorem addsUp_draftSettlement (h : fnf.IsOnPaise) (hdraft : fnf.status = .draft) :
    (draftSettlement inputs employee lastWorkingDay fnf).AddsUp := by
  have honpaise := isOnPaise_draftSettlement employee lastWorkingDay htds h
  rw [draftSettlement_of_draft employee lastWorkingDay inputs hdraft] at honpaise ⊢
  refine addsUp_withTotals honpaise ?_ ?_
  · unfold SettlementInputs.calculateFnfTotals
    split
    · simp
    · rfl
  · unfold SettlementInputs.calculateFnfTotals
    split <;> rfl

end

end

/-- **A stored settlement**: its amounts fit their columns. -/
structure SettlementRow where
  fnf : FullAndFinalSettlement
  offboardingProcess : Option OffboardingProcessId
  onPaise : fnf.IsOnPaise
  fits : fnf.fits = true

def SettlementRow.employee (row : SettlementRow) : EmployeeId := row.fnf.employee

@[ext] theorem SettlementRow.ext {row row' : SettlementRow} (hfnf : row.fnf = row'.fnf)
    (hprocess : row.offboardingProcess = row'.offboardingProcess) : row = row' := by
  cases row
  cases row'
  cases hfnf
  cases hprocess
  rfl

structure SettlementState where
  settlements : List SettlementRow
  masters : TaxMasterTables

/-! ## Drafting -/

/-- **A call**, with what it reads besides the settlements and the tax masters. -/
structure FnfCall where
  employee : Employee
  lastWorkingDay : Date
  offboardingProcess : Option OffboardingProcessId
  /-- by employee, latest first -/
  assignments : List CompensationAssignment
  encashable : List EncashableBalance
  gratuityEligibilityYears : ℕ
  dateOfBirth : EmployeeId → Option Date
  isGovernmentBody : Bool
  payslips : List PayslipRow
  declaredTotals : InvestmentSection → ℚ

namespace FnfCall

variable (call : FnfCall)

/-- What the totals read, with the context of the tax when there is one. -/
def inputs (context : Option FnfTaxContext) : SettlementInputs where
  assignments := call.assignments
  encashable := call.encashable
  gratuityEligibilityYears := call.gratuityEligibilityYears
  fnfTds := fun _ gratuity leaveEncashment otherTaxableIncome =>
    match context with
    | none => 0
    | some context => context.calculateFnfTds gratuity leaveEncashment otherTaxableIncome

theorem onPaise_fnfTds (context : Option FnfTaxContext) (assignment : CompensationAssignment)
    (gratuity leaveEncashment other : ℚ) :
    OnPaise ((call.inputs context).fnfTds assignment gratuity leaveEncashment other) := by
  cases context with
  | none => exact Decimal.onGrid_zero
  | some context => exact context.onPaise_calculateFnfTds _ _ _

def assignment : Option CompensationAssignment :=
  (call.inputs none).effectiveAssignment call.employee.id call.lastWorkingDay

def fiscalYear : String :=
  fiscalYearForPeriod call.lastWorkingDay.year call.lastWorkingDay.month

theorem normalizeFiscalYearLabel_fiscalYear :
    normalizeFiscalYearLabel call.fiscalYear = call.fiscalYear := by
  rw [fiscalYear, fiscalYearForPeriod_eq call.lastWorkingDay.valid.1]
  exact normalizeFiscalYearLabel_label _

/-- The lookups of the tax, which may fail. Without an assignment there are none. -/
def taxContext (masters : TaxMasterTables) : Except String (Option FnfTaxContext) :=
  match call.assignment with
  | none => .ok none
  | some assignment => do
    let (ytdTaxableIncome, existingYtdTds) ←
      getFnfYtdTaxContext call.employee.id call.lastWorkingDay call.payslips
    let taxSlabSet ← activeTaxSlabSet masters call.fiscalYear call.dateOfBirth call.employee
      assignment.taxRegime
    return some
      { taxRegime := assignment.taxRegime
        isGovernmentBody := call.isGovernmentBody
        fiscalYear := fiscalYearStart call.lastWorkingDay.year call.lastWorkingDay.month
        ytdTaxableIncome := ytdTaxableIncome
        existingYtdTds := existingYtdTds
        declaredTotals := call.declaredTotals
        taxSlabSet := taxSlabSet }

/-- The tax masters after the lookups. -/
def mastersAfter (masters : TaxMasterTables) : TaxMasterTables :=
  match call.assignment with
  | none => masters
  | some assignment =>
    match getFnfYtdTaxContext call.employee.id call.lastWorkingDay call.payslips with
    | .error _ => masters
    | .ok _ => mastersInUse masters call.fiscalYear call.dateOfBirth call.employee
        assignment.taxRegime

/-- An empty settlement. -/
def newRow : SettlementRow where
  fnf := { employee := call.employee.id, lastWorkingDay := call.lastWorkingDay }
  offboardingProcess := none
  onPaise := by constructor <;> exact Decimal.onGrid_zero
  fits := by simp [FullAndFinalSettlement.fits]

/-- The settlement before it is drafted: the stored row, or an empty one. -/
def rowIn (settlements : List SettlementRow) : SettlementRow :=
  (Table.find SettlementRow.employee call.employee.id settlements).getD call.newRow

/-- The process is set, and another settlement has it. -/
def takesProcess (row : SettlementRow) (settlements : List SettlementRow) : Bool :=
  match call.offboardingProcess with
  | none => false
  | some process => row.offboardingProcess ≠ some process
      ∧ settlements.any (fun r => r.offboardingProcess = some process)

/-- **The settlement drafted** for a call. -/
def draft (call : FnfCall) (context : Option FnfTaxContext) (row : SettlementRow) :
    Except String SettlementRow :=
  let fnf := draftSettlement (call.inputs context) call.employee call.lastWorkingDay row.fnf
  if hfits : fnf.fits = true then
    .ok
      { fnf := fnf
        offboardingProcess := call.offboardingProcess.or row.offboardingProcess
        onPaise := isOnPaise_draftSettlement _ _ (call.onPaise_fnfTds context) row.onPaise
        fits := hfits }
  else .error "numeric field overflow"

end FnfCall

section

variable {call : FnfCall} {context : Option FnfTaxContext} {row saved : SettlementRow}
  {st : SettlementState} {rows : List SettlementRow}

/-- **What is drafted.** -/
theorem draft_eq_ok (h : call.draft context row = .ok saved) :
    saved.fnf = draftSettlement (call.inputs context) call.employee call.lastWorkingDay row.fnf
      ∧ saved.offboardingProcess = call.offboardingProcess.or row.offboardingProcess := by
  unfold FnfCall.draft at h
  dsimp only at h
  split_ifs at h
  obtain rfl := Except.ok.inj h
  exact ⟨rfl, rfl⟩

/-- The draft is that of the call's data. -/
theorem draft_of_eq (hfnf : saved.fnf
      = draftSettlement (call.inputs context) call.employee call.lastWorkingDay row.fnf)
    (hprocess : saved.offboardingProcess = call.offboardingProcess.or row.offboardingProcess) :
    call.draft context row = .ok saved := by
  unfold FnfCall.draft
  dsimp only
  rw [dif_pos (hfnf ▸ saved.fits)]
  exact congrArg Except.ok (SettlementRow.ext hfnf.symm hprocess.symm)

theorem employee_rowIn (call : FnfCall) (rows : List SettlementRow) :
    (call.rowIn rows).employee = call.employee.id := by
  unfold FnfCall.rowIn
  cases hfind : Table.find SettlementRow.employee call.employee.id rows with
  | none => rfl
  | some row => exact Table.find_key hfind

theorem rowIn_of_find (h : Table.find SettlementRow.employee call.employee.id rows = some row) :
    call.rowIn rows = row := by
  unfold FnfCall.rowIn
  rw [h, Option.getD_some]

end

namespace SettlementState

/-- **`create_full_and_final_settlement`**, on the stored settlements and tax masters. -/
def createFullAndFinalSettlement (call : FnfCall) (st : SettlementState) :
    Except String (List SettlementRow) := do
  let context ← call.taxContext st.masters
  let row := call.rowIn st.settlements
  let saved ← call.draft context row
  if call.takesProcess row st.settlements then .error "duplicate key value"
  else
    match Table.find SettlementRow.employee call.employee.id st.settlements with
    | some _ => return Table.save SettlementRow.employee saved st.settlements
    | none => return st.settlements ++ [saved]

/-- **One call**: the lookups of the tax may leave a new tax master behind. -/
def step (st : SettlementState) (call : FnfCall) : SettlementState where
  settlements :=
    match createFullAndFinalSettlement call st with
    | .error _ => st.settlements
    | .ok settlements => settlements
  masters := call.mastersAfter st.masters

/-- The settlement of an employee. -/
def settlementOf (employee : EmployeeId) (st : SettlementState) : Option SettlementRow :=
  Table.find SettlementRow.employee employee st.settlements

section

variable {call : FnfCall} {context : Option FnfTaxContext} {row saved : SettlementRow}
  {st : SettlementState} {rows : List SettlementRow} {employee : EmployeeId}

/-- **A call that succeeds** stores the draft: the lookups succeed, and the process is free. -/
theorem createFullAndFinalSettlement_eq_ok
    (h : createFullAndFinalSettlement call st = .ok rows) :
    ∃ context saved, call.taxContext st.masters = .ok context
      ∧ call.draft context (call.rowIn st.settlements) = .ok saved
      ∧ call.takesProcess (call.rowIn st.settlements) st.settlements = false
      ∧ saved.employee = call.employee.id
      ∧ ((Table.find SettlementRow.employee call.employee.id st.settlements ≠ none
          ∧ rows = Table.save SettlementRow.employee saved st.settlements)
        ∨ (Table.find SettlementRow.employee call.employee.id st.settlements = none
          ∧ rows = st.settlements ++ [saved])) := by
  obtain ⟨context, hcontext, h⟩ := Transaction.bind_eq_ok_iff.mp h
  obtain ⟨saved, hsaved, h⟩ := Transaction.bind_eq_ok_iff.mp h
  have hemployee : saved.employee = call.employee.id := by
    have hfnf := congrArg FullAndFinalSettlement.employee (draft_eq_ok hsaved).1
    rw [employee_draftSettlement] at hfnf
    exact hfnf.trans (employee_rowIn call st.settlements)
  refine ⟨context, saved, hcontext, hsaved, ?_, hemployee, ?_⟩
  · by_contra htakes
    rw [if_pos (by simpa using htakes)] at h
    cases h
  · split_ifs at h
    split at h
    · next found hfind =>
      exact Or.inl ⟨by simp [hfind], (Except.ok.inj h).symm⟩
    · next hnone => exact Or.inr ⟨hnone, (Except.ok.inj h).symm⟩

/-- **Within the model of a single drafting**: a call that succeeds drafts the amounts as
`Payroll.createFullAndFinalSettlement` does. -/
theorem map_fnf_createFullAndFinalSettlement
    (h : createFullAndFinalSettlement call st = .ok rows) :
    ∃ context, call.taxContext st.masters = .ok context
      ∧ Payroll.createFullAndFinalSettlement (call.inputs context) call.employee
        call.lastWorkingDay (st.settlements.map SettlementRow.fnf)
        = .ok (rows.map SettlementRow.fnf) := by
  obtain ⟨context, saved, hcontext, hsaved, -, hemployee, hrows⟩ :=
    createFullAndFinalSettlement_eq_ok h
  have hfind : Table.find FullAndFinalSettlement.employee call.employee.id
      (st.settlements.map SettlementRow.fnf)
      = (Table.find SettlementRow.employee call.employee.id st.settlements).map
        SettlementRow.fnf := List.find?_map ..
  have hfnf := (draft_eq_ok hsaved).1
  refine ⟨context, hcontext, ?_⟩
  unfold Payroll.createFullAndFinalSettlement
  rw [hfind]
  rcases hrows with ⟨hfound, rfl⟩ | ⟨hnone, rfl⟩
  · obtain ⟨row, hrow⟩ := Option.ne_none_iff_exists'.mp hfound
    rw [rowIn_of_find hrow] at hfnf
    rw [hrow, Option.map_some]
    dsimp only
    rw [← hfnf, if_pos saved.fits, Table.save, Table.save, Table.update, Table.update,
      List.map_map, List.map_map]
    refine congrArg Except.ok (List.map_congr_left (fun r _ => ?_))
    exact (apply_ite SettlementRow.fnf _ _ _).symm
  · have hrow : call.rowIn st.settlements = call.newRow := by
      unfold FnfCall.rowIn
      rw [hnone, Option.getD_none]
    rw [hrow] at hfnf
    unfold FnfCall.newRow at hfnf
    rw [hnone, Option.map_none]
    dsimp only
    rw [← hfnf, if_pos saved.fits, List.map_append]
    rfl

/-- The settlement a call has stored. -/
theorem settlementOf_createFullAndFinalSettlement
    (h : createFullAndFinalSettlement call st = .ok rows) :
    ∃ context saved, call.taxContext st.masters = .ok context
      ∧ call.draft context (call.rowIn st.settlements) = .ok saved
      ∧ Table.find SettlementRow.employee call.employee.id rows = some saved
      ∧ ∀ r ∈ rows, r.employee = call.employee.id → r = saved := by
  obtain ⟨context, saved, hcontext, hsaved, -, hemployee, hrows⟩ :=
    createFullAndFinalSettlement_eq_ok h
  refine ⟨context, saved, hcontext, hsaved, ?_⟩
  rcases hrows with ⟨hfound, rfl⟩ | ⟨hnone, rfl⟩
  · obtain ⟨old, hold⟩ := Option.ne_none_iff_exists'.mp hfound
    rw [← hemployee] at hold ⊢
    refine ⟨Table.find_save_self hold, fun r hr hkey => ?_⟩
    exact (Table.mem_save hr).resolve_right (fun hother => hother.2 hkey)
  · rw [← hemployee] at hnone ⊢
    refine ⟨Table.find_append_self hnone, fun r hr hkey => ?_⟩
    rcases List.mem_append.mp hr with hr | hr
    · exact absurd hkey (Table.find_eq_none_iff.mp hnone r hr)
    · exact List.mem_singleton.mp hr

/-- A call changes no settlement of another employee. -/
theorem settlementOf_step_of_ne (h : call.employee.id ≠ employee) :
    settlementOf employee (step st call) = settlementOf employee st := by
  unfold step settlementOf
  dsimp only
  cases hcreate : createFullAndFinalSettlement call st with
  | error message => rfl
  | ok rows =>
    obtain ⟨context, saved, -, -, -, hemployee, ⟨-, rfl⟩ | ⟨-, rfl⟩⟩ :=
      createFullAndFinalSettlement_eq_ok hcreate
    · exact Table.find_save_of_ne (fun hkey => h (hemployee.symm.trans hkey.symm))
    · exact Table.find_append_of_ne (fun hkey => h (hemployee.symm.trans hkey))

/-! ## The frozen settlement -/

/-- **The call is refused**: a lookup of the tax fails, or another settlement has the
process. -/
def Refused (call : FnfCall) (st : SettlementState) : Prop :=
  (call.taxContext st.masters).isOk = false
    ∨ call.takesProcess (call.rowIn st.settlements) st.settlements = true

instance (call : FnfCall) (st : SettlementState) : Decidable (Refused call st) :=
  inferInstanceAs (Decidable (_ ∨ _))

/-- **The call brings the day and the process** that the settlement has. -/
def Agrees (call : FnfCall) (row : SettlementRow) : Prop :=
  call.lastWorkingDay = row.fnf.lastWorkingDay
    ∧ ∀ process ∈ call.offboardingProcess, row.offboardingProcess = some process

instance (call : FnfCall) (row : SettlementRow) : Decidable (Agrees call row) :=
  inferInstanceAs (Decidable (_ ∧ _))

/-- A refused call stores nothing. -/
theorem step_of_refused (h : Refused call st) : (step st call).settlements = st.settlements := by
  unfold step
  dsimp only
  cases hcreate : createFullAndFinalSettlement call st with
  | error message => rfl
  | ok rows =>
    obtain ⟨context, saved, hcontext, -, htakes, -⟩ := createFullAndFinalSettlement_eq_ok hcreate
    rcases h with hfails | htaken
    · rw [hcontext] at hfails
      cases hfails
    · rw [htakes] at htaken
      cases htaken

/-- **A draft that fits** and takes no other settlement's process is stored. -/
theorem createFullAndFinalSettlement_of_ok (hcontext : call.taxContext st.masters = .ok context)
    (hsaved : call.draft context (call.rowIn st.settlements) = .ok saved)
    (htakes : call.takesProcess (call.rowIn st.settlements) st.settlements = false) :
    createFullAndFinalSettlement call st
      = .ok (match Table.find SettlementRow.employee call.employee.id st.settlements with
        | some _ => Table.save SettlementRow.employee saved st.settlements
        | none => st.settlements ++ [saved]) := by
  unfold createFullAndFinalSettlement
  rw [hcontext]
  show (call.draft context _ >>= _) = _
  rw [hsaved]
  show (if call.takesProcess (call.rowIn st.settlements) st.settlements = true then _ else _) = _
  rw [if_neg (by rw [htakes]; exact Bool.false_ne_true)]
  split <;> rfl

theorem settlementOf_step (hcontext : call.taxContext st.masters = .ok context)
    (hsaved : call.draft context (call.rowIn st.settlements) = .ok saved)
    (htakes : call.takesProcess (call.rowIn st.settlements) st.settlements = false) :
    settlementOf call.employee.id (step st call) = some saved := by
  have hcreate := createFullAndFinalSettlement_of_ok hcontext hsaved htakes
  obtain ⟨context', saved', hcontext', hsaved', hfind, -⟩ :=
    settlementOf_createFullAndFinalSettlement hcreate
  rw [hcontext] at hcontext'
  obtain rfl := Except.ok.inj hcontext'
  rw [hsaved] at hsaved'
  obtain rfl := Except.ok.inj hsaved'
  unfold step settlementOf
  dsimp only
  rw [hcreate]
  exact hfind

/-- **One call keeps a settlement** that is no draft when it is refused or agrees. -/
theorem settlementOf_step_iff (hrow : settlementOf call.employee.id st = some row)
    (hfrozen : row.fnf.status ≠ .draft) :
    settlementOf call.employee.id (step st call) = some row
      ↔ Refused call st ∨ Agrees call row := by
  by_cases hrefused : Refused call st
  · refine iff_of_true ?_ (Or.inl hrefused)
    rw [settlementOf, step_of_refused hrefused]
    exact hrow
  · obtain ⟨hok, htakes⟩ := not_or.mp hrefused
    have hin : call.rowIn st.settlements = row := rowIn_of_find hrow
    cases hcontext : call.taxContext st.masters with
    | error message => exact absurd (by rw [hcontext]; rfl) hok
    | ok context =>
      have hdraft := draftSettlement_of_ne call.employee call.lastWorkingDay
        (call.inputs context) hfrozen
      let saved : SettlementRow :=
        { fnf := { row.fnf with lastWorkingDay := call.lastWorkingDay }
          offboardingProcess := call.offboardingProcess.or row.offboardingProcess
          onPaise := { row.onPaise with }
          fits := row.fits }
      have hsaved : call.draft context (call.rowIn st.settlements) = .ok saved :=
        draft_of_eq (by rw [hin, hdraft]) (by rw [hin])
      rw [settlementOf_step hcontext hsaved (by simpa using htakes), Option.some_inj,
        or_iff_right hrefused]
      constructor
      · intro hsame
        refine ⟨congrArg (fun r => r.fnf.lastWorkingDay) hsame, fun process hprocess => ?_⟩
        have hkept := congrArg SettlementRow.offboardingProcess hsame
        rw [← hkept]
        show call.offboardingProcess.or _ = _
        rw [hprocess, Option.some_or]
      · rintro ⟨hday, hprocess⟩
        refine SettlementRow.ext ?_ ?_
        · show { row.fnf with lastWorkingDay := call.lastWorkingDay } = row.fnf
          rw [hday]
        · show call.offboardingProcess.or row.offboardingProcess = row.offboardingProcess
          cases hcall : call.offboardingProcess with
          | none => rfl
          | some process => rw [Option.some_or, hprocess process hcall]

/-! ## Drafting again -/

/-- **The tax lookups** find again what they found. -/
theorem taxContext_mastersAfter (call : FnfCall) (masters : TaxMasterTables) :
    call.taxContext (call.mastersAfter masters) = call.taxContext masters := by
  unfold FnfCall.mastersAfter FnfCall.taxContext
  split
  · rfl
  · cases hytd : getFnfYtdTaxContext call.employee.id call.lastWorkingDay call.payslips with
    | error message => rfl
    | ok ytd =>
      dsimp only
      rw [activeTaxSlabSet_mastersInUse call.normalizeFiscalYearLabel_fiscalYear]

theorem mastersAfter_idem (call : FnfCall) (masters : TaxMasterTables) :
    call.mastersAfter (call.mastersAfter masters) = call.mastersAfter masters := by
  unfold FnfCall.mastersAfter
  split
  · rfl
  · cases hytd : getFnfYtdTaxContext call.employee.id call.lastWorkingDay call.payslips with
    | error message => rfl
    | ok ytd =>
      dsimp only
      rw [mastersInUse_idem call.normalizeFiscalYearLabel_fiscalYear]

/-- **The same call again** changes nothing. -/
theorem step_step (st : SettlementState) (call : FnfCall) :
    step (step st call) call = step st call := by
  cases hcreate : createFullAndFinalSettlement call st with
  | error message =>
    have hstep : step st call = ⟨st.settlements, call.mastersAfter st.masters⟩ := by
      unfold step
      rw [hcreate]
    have hagain : createFullAndFinalSettlement call (step st call) = .error message := by
      rw [← hcreate, hstep]
      unfold createFullAndFinalSettlement
      dsimp only
      rw [taxContext_mastersAfter]
    rw [step, hagain, hstep, mastersAfter_idem]
  | ok rows =>
    have hstep : step st call = ⟨rows, call.mastersAfter st.masters⟩ := by
      unfold step
      rw [hcreate]
    obtain ⟨context, saved, hcontext, hsaved, hfind, hsame⟩ :=
      settlementOf_createFullAndFinalSettlement hcreate
    obtain ⟨hfnf, hprocess⟩ := draft_eq_ok hsaved
    have hin : call.rowIn rows = saved := rowIn_of_find hfind
    have hdraft : call.draft context saved = .ok saved := by
      refine draft_of_eq ?_ ?_
      · rw [hfnf, draftSettlement_idem]
      · rw [hprocess]
        cases call.offboardingProcess <;> rfl
    have htakes : call.takesProcess saved rows = false := by
      unfold FnfCall.takesProcess
      rw [hprocess]
      cases call.offboardingProcess with
      | none => rfl
      | some process => simp
    have hagain : createFullAndFinalSettlement call (step st call) = _ :=
      createFullAndFinalSettlement_of_ok (by rw [hstep, taxContext_mastersAfter]; exact hcontext)
        (by rw [hstep, hin]; exact hdraft) (by rw [hstep, hin]; exact htakes)
    rw [hstep] at hagain
    dsimp only at hagain
    rw [hfind] at hagain
    -- the row that is saved again is the one that is stored
    have hsave : Table.save SettlementRow.employee saved rows = rows :=
      Table.update_eq_self fun r hr hkey => (hsame r hr (by
        rw [← Table.find_key hfind]
        simpa using hkey)).symm
    rw [hstep]
    unfold step
    rw [hagain]
    dsimp only
    rw [hsave, mastersAfter_idem]

/-- What a successful call leaves of a draft adds up. -/
theorem addsUp_createFullAndFinalSettlement (h : createFullAndFinalSettlement call st = .ok rows)
    (hrow : Table.find SettlementRow.employee call.employee.id rows = some row)
    (hdraft : row.fnf.status = .draft) : row.fnf.AddsUp := by
  obtain ⟨context, saved, -, hsaved, hfind, -⟩ := settlementOf_createFullAndFinalSettlement h
  rw [hfind] at hrow
  obtain rfl := Option.some.inj hrow
  obtain ⟨hfnf, -⟩ := draft_eq_ok hsaved
  rw [hfnf, status_draftSettlement] at hdraft
  rw [hfnf]
  exact addsUp_draftSettlement _ _ (call.onPaise_fnfTds context) (call.rowIn _).onPaise hdraft

/-! ## Runs of calls -/

/-- **What is no draft is as before.** -/
def KeepsFrozen (st st' : SettlementState) : Prop :=
  ∀ employee row, settlementOf employee st = some row → row.fnf.status ≠ .draft →
    settlementOf employee st' = some row

/-- **Every draft adds up.** -/
def DraftsAddUp (st : SettlementState) : Prop :=
  ∀ employee row, settlementOf employee st = some row → row.fnf.status = .draft → row.fnf.AddsUp

/-- **The call computes a draft**: the amounts add up, and the same call changes nothing
more. -/
def Recomputes (st : SettlementState) (call : FnfCall) : Prop :=
  (∀ rows row, createFullAndFinalSettlement call st = .ok rows →
      Table.find SettlementRow.employee call.employee.id rows = some row →
      row.fnf.status = .draft → row.fnf.AddsUp)
    ∧ step (step st call) call = step st call

/-- **The call leaves a settlement that is no draft alone**: it is refused, or agrees. -/
def LeavesFrozen (st : SettlementState) (call : FnfCall) : Prop :=
  ∀ row, settlementOf call.employee.id st = some row → row.fnf.status ≠ .draft →
    Refused call st ∨ Agrees call row

theorem keepsFrozen_step_iff (st : SettlementState) (call : FnfCall) :
    KeepsFrozen st (step st call) ↔ LeavesFrozen st call := by
  constructor
  · intro h row hrow hfrozen
    exact (settlementOf_step_iff hrow hfrozen).mp (h _ row hrow hfrozen)
  · intro h employee row hrow hfrozen
    by_cases hemployee : call.employee.id = employee
    · subst hemployee
      exact (settlementOf_step_iff hrow hfrozen).mpr (h row hrow hfrozen)
    · rw [settlementOf_step_of_ne hemployee]
      exact hrow

theorem draftsAddUp_step (h : DraftsAddUp st) (call : FnfCall) : DraftsAddUp (step st call) := by
  intro employee row hrow hdraft
  by_cases hemployee : call.employee.id = employee
  · subst hemployee
    cases hcreate : createFullAndFinalSettlement call st with
    | error message =>
      refine h call.employee.id row ?_ hdraft
      unfold step settlementOf at hrow
      rwa [hcreate] at hrow
    | ok rows =>
      refine addsUp_createFullAndFinalSettlement hcreate ?_ hdraft
      unfold step settlementOf at hrow
      rwa [hcreate] at hrow
  · rw [settlementOf_step_of_ne hemployee] at hrow
    exact h employee row hrow hdraft

theorem recomputes (st : SettlementState) (call : FnfCall) : Recomputes st call :=
  ⟨fun _ _ hcreate hrow hdraft => addsUp_createFullAndFinalSettlement hcreate hrow hdraft,
    step_step st call⟩

end

/-- **Settlements are frozen and drafts recomputed** along a run exactly when each call
for a settlement that is no draft is refused or brings what the settlement has. -/
theorem settlement_frozen_iff (st : SettlementState) (calls : List FnfCall) :
    ((∀ i j, i ≤ j → KeepsFrozen (Run.exec step st (calls.take i))
          (Run.exec step st (calls.take j)))
        ∧ (DraftsAddUp st → ∀ n, DraftsAddUp (Run.exec step st (calls.take n)))
        ∧ Run.Along step Recomputes st calls)
      ↔ Run.Along step LeavesFrozen st calls := by
  constructor
  · rintro ⟨hkept, -, -⟩
    exact (Run.along_of_forall_take hkept).mono (fun t call => (keepsFrozen_step_iff t call).mp)
  · intro h
    refine ⟨fun i j => Run.related_take (I := fun _ => True) (fun _ _ _ hrow _ => hrow) ?_ ?_
      trivial h, ?_, ?_⟩
    · intro _ _ _ hst htu employee row hrow hfrozen
      exact htu employee row (hst employee row hrow hfrozen) hfrozen
    · exact fun t call _ hcall => ⟨trivial, (keepsFrozen_step_iff t call).mpr hcall⟩
    · intro hdrafts n
      exact Run.invariant (I := DraftsAddUp) (fun t call ht => draftsAddUp_step ht call) hdrafts _
    · exact h.mono (fun t call _ => recomputes t call)

namespace Sample

/-- Employee 1 was settled for January, and the settlement is approved. -/
def approved : SettlementRow where
  fnf :=
    { employee := 1
      lastWorkingDay := ⟨2026, 1, 31, by decide⟩
      status := .approved
      proratedSalary := 26000
      grossPayable := 26000
      netPayable := 26000 }
  offboardingProcess := some 1
  onPaise := by constructor <;> first | exact Decimal.onGrid_zero | exact ⟨2600000, by norm_num⟩
  fits := by decide

/-- The employment ends again, in February. -/
def endsAgain : FnfCall where
  employee := Payroll.Sample.employee
  lastWorkingDay := ⟨2026, 2, 15, by decide⟩
  offboardingProcess := some 1
  assignments := []
  encashable := []
  gratuityEligibilityYears := 5
  dateOfBirth := fun _ => none
  isGovernmentBody := false
  payslips := []
  declaredTotals := fun _ => 0

end Sample

/-- **An approved settlement of January** becomes one of February, with the salary of
January. -/
theorem approved_settlement_moves :
    ¬ ∀ (st : SettlementState) (calls : List FnfCall) (i j : ℕ), i ≤ j →
      KeepsFrozen (Run.exec step st (calls.take i)) (Run.exec step st (calls.take j)) := by
  intro h
  have hkept := h ⟨[Sample.approved], ⟨[], [], 1⟩⟩ [Sample.endsAgain] 0 1 (by decide) 1
    Sample.approved rfl (by decide)
  have hday := congrArg (Option.map fun row => row.fnf.lastWorkingDay) hkept
  revert hday
  decide +kernel

end SettlementState

end Payroll
