import Clarisal.Lib.Dict
import Clarisal.Payroll.FilingBatches
import Clarisal.Payroll.Gate
import Mathlib.Data.Prod.Lex
import Mathlib.Data.String.Basic

/-!
# What the filings read

The filings of a quarter or a year read the payslips of its finalized runs. Of
the payslips of one employee and month only one counts, that of the run
finalized last: the effective payslips. The tax withheld is compared with the
challans, one for each month, with which it was deposited.

Identifiers are ordered as numbers.
-/

open Approvals Calendar

namespace Payroll

abbrev PayslipId := ℕ

/-! ## Rows -/

/-- An employee, as filings name it. What is missing is empty. -/
structure FilingEmployee where
  employeeCode : String
  fullName : String
  pan : String
deriving DecidableEq, Repr

/-- The name of the employee in a message. -/
def FilingEmployee.label (employee : FilingEmployee) : String :=
  if employee.employeeCode = "" then employee.fullName else employee.employeeCode

abbrev EmployeeDirectory := EmployeeId → FilingEmployee

/-- The organisation that files. -/
structure FilingOrganisation where
  id : OrganisationId
  entityType : String
  tanNumber : String
  panNumber : String
deriving DecidableEq, Repr

/-- A month: the year and its number. -/
abbrev Month := ℕ × ℕ

def PayrollRun.month (p : PayrollRun) : Month := (p.periodYear, p.periodMonth)

/-- The item is what the calculation of its employee made for the run. -/
def CalculatedFor (payRun : PayrollRun) (item : PayrollRunItem) : Prop :=
  ∃ inp : ItemInputs, inp.employee.id = item.employee ∧ inp.period.year = payRun.periodYear
    ∧ inp.period.month = payRun.periodMonth
    ∧ calculateItem inp = .ok (.ready item.amounts item.snapshot)

/-- **An issued payslip**, with its run and its item, which was calculated for
the run in a tax regime. -/
structure PayslipRow where
  id : PayslipId
  createdAt : Time
  payRun : PayrollRun
  finalizedAt : Time
  item : PayrollRunItem
  taxRegime : TaxRegime
  calculated : CalculatedFor payRun item
deriving DecidableEq

namespace PayslipRow

def payslip (s : PayslipRow) : Payslip := s.item.payslip s.payRun

def employee (s : PayslipRow) : EmployeeId := s.item.employee

def month (s : PayslipRow) : Month := s.payRun.month

def snapshot (s : PayslipRow) : PayslipSnapshot := s.payslip.snapshot

def incomeTax (s : PayslipRow) : ℚ := s.snapshot.incomeTax

end PayslipRow

/-! ### Issued payslips are calculated -/

section

variable {st st' : State} {op : Op}

/-- **The invariant**: the ready items are calculated for their runs, and the
payslips are theirs. -/
structure Calculated (st : State) : Prop where
  ledger : Ledger st
  owned : Owned st.subjects
  items : ∀ i ∈ st.subjects.items, i.status = .ready → ∀ p ∈ st.subjects.payRuns,
    p.id = i.payRun → CalculatedFor p i
  payslips : ∀ s ∈ st.subjects.payslips, ∃ p i, s = PayrollRunItem.payslip p i ∧ CalculatedFor p i

theorem CalculatedFor.samePeriod {p q : PayrollRun} {i : PayrollRunItem} (h : CalculatedFor p i)
    (hpq : p.SamePeriod q) : CalculatedFor q i := by
  obtain ⟨inp, hemployee, hyear, hmonth, hok⟩ := h
  exact ⟨inp, hemployee, hyear.trans hpq.2.1, hmonth.trans hpq.2.2, hok⟩

theorem calculated_step (h : Calculated st) (op : Op) : Calculated (step st op) := by
  have hc := change_step h.ledger op
  refine ⟨ledger_step h.ledger op, owned_of_change h.ledger h.owned hc,
    fun i hi hready q hq hqi => ?_, fun s hs => ?_⟩
  · have hrun := payRun_of_change h.ledger hc hq
    rcases item_of_change h.ledger hc hi with hold | ⟨inputs, p, hp, approvalRun, -, hok, hmem⟩
    · rcases hrun with ⟨p, hp, hpq⟩ | hnew
      · exact (h.items i hold hready p hp (hpq.1.trans hqi)).samePeriod hpq
      · exact absurd (h.owned i hold) (by rw [← hqi, hnew]; exact lt_irrefl _)
    · obtain ⟨himem, hirun⟩ := PayrollTables.mem_runItems.mp hmem
      obtain ⟨inp, hemployee, hyear, hmonth, -, -, -, hcalc⟩ :=
        exists_calculateItem hok (PayrollTables.mem_readyItems.mpr ⟨himem, hirun, hready⟩)
      have hpq : p.SamePeriod q := by
        rcases hrun with ⟨p', hp', hpq⟩ | hnew
        · rwa [h.ledger.keys.run_eq hp' hp (hpq.1.trans (hqi.trans hirun))] at hpq
        · have := h.ledger.keys.freshRun p hp
          rw [← hirun, ← hqi, hnew] at this
          exact absurd this (lt_irrefl _)
      exact CalculatedFor.samePeriod ⟨inp, hemployee, hyear, hmonth, hcalc⟩ hpq
  · by_cases hold : s ∈ st.subjects.payslips
    · exact h.payslips s hold
    · obtain ⟨p, hp, -, -, -, i, hi, rfl⟩ := payslip_new_of_change h.ledger hc hs hold
      obtain ⟨himem, hirun, hready⟩ := PayrollTables.mem_readyItems.mp hi
      exact ⟨p, i, rfl, h.items i himem hready p hp hirun.symm⟩

/-- **Every payslip of a reached state** is the one of an item that was
calculated for its run: the rows of the filings are payslips that can be. -/
theorem calculated_reached (stages : StageTable) (expenseClaims : List ExpenseClaim)
    (ops : List Op) : ∀ s ∈ (reached stages expenseClaims ops).subjects.payslips,
      ∃ p i, s = PayrollRunItem.payslip p i ∧ CalculatedFor p i :=
  (Run.invariant (I := Calculated) (fun _ op h => calculated_step h op)
    ⟨ledger_initial stages expenseClaims, fun _ hi => absurd hi List.not_mem_nil,
      fun _ hi => absurd hi List.not_mem_nil, fun _ hs => absurd hs List.not_mem_nil⟩ ops).payslips

end

/-! ## Effective payslips -/

/-- The order of the query: by employee and month, and the run finalized last
at the end. -/
def queryKey (directory : EmployeeDirectory) (s : PayslipRow) :
    String ×ₗ ℕ ×ₗ ℕ ×ₗ Time ×ₗ Time ×ₗ ℕ :=
  toLex ((directory s.employee).employeeCode, toLex (s.payRun.periodYear,
    toLex (s.payRun.periodMonth, toLex (s.finalizedAt, toLex (s.createdAt, s.id)))))

def queryLe (directory : EmployeeDirectory) (s s' : PayslipRow) : Prop :=
  queryKey directory s ≤ queryKey directory s'

instance (directory : EmployeeDirectory) : DecidableRel (queryLe directory) :=
  fun s s' => inferInstanceAs (Decidable (queryKey directory s ≤ queryKey directory s'))

instance (directory : EmployeeDirectory) : IsTrans PayslipRow (queryLe directory) :=
  ⟨fun _ _ _ => le_trans⟩

instance (directory : EmployeeDirectory) : Std.Total (queryLe directory) :=
  ⟨fun _ _ => le_total _ _⟩

/-- **The payslips of the runs that count**: the last one of each employee and
month. -/
def effectivePayslipsForRuns (directory : EmployeeDirectory) (payslips : List PayslipRow) :
    List PayslipRow :=
  (Dict.collect (fun s => (s.employee, s.month)) (fun _ s => s)
    (payslips.insertionSort (queryLe directory)) []).map Prod.snd

/-- The order of the grouping. -/
def groupKey (directory : EmployeeDirectory) (s : PayslipRow) : String ×ₗ ℕ ×ₗ ℕ ×ₗ ℕ :=
  toLex ((directory s.employee).employeeCode,
    toLex (s.payRun.periodYear, toLex (s.payRun.periodMonth, s.id)))

/-- The payslips of each employee. -/
def groupEffectivePayslipsByEmployee (directory : EmployeeDirectory)
    (payslips : List PayslipRow) : List (EmployeeId × List PayslipRow) :=
  Dict.group PayslipRow.employee
    (payslips.insertionSort (fun s s' => groupKey directory s ≤ groupKey directory s'))

section

variable {directory : EmployeeDirectory} {payslips : List PayslipRow} {s s' : PayslipRow}

/-- The last of a list. -/
theorem foldl_latest {α : Type*} (xs : List α) (a : Option α) :
    xs.foldl (fun _ x => some x) a = xs.getLast?.or a := by
  induction xs generalizing a with
  | nil => rfl
  | cons x xs ih =>
    rw [List.foldl_cons, ih]
    cases xs with
    | nil => rfl
    | cons y ys => simp [List.getLast?_cons]

/-- **An effective payslip** is the last one of its employee and month. -/
theorem mem_effective : s ∈ effectivePayslipsForRuns directory payslips
    ↔ ((payslips.insertionSort (queryLe directory)).filter
        (fun s' => (s'.employee, s'.month) = (s.employee, s.month))).getLast? = some s := by
  unfold effectivePayslipsForRuns
  rw [List.mem_map]
  constructor
  · rintro ⟨⟨k, s'⟩, hmem, rfl⟩
    rw [Dict.mem_collect, foldl_latest, Option.or_none] at hmem
    -- the entry is under the key of its payslip
    have hkey := (List.mem_filter.mp (List.mem_of_getLast? hmem)).2
    rw [of_decide_eq_true hkey]
    exact hmem
  · intro h
    exact ⟨_, Dict.mem_collect.mpr (by rw [foldl_latest, Option.or_none]; exact h), rfl⟩

theorem mem_of_mem_effective (h : s ∈ effectivePayslipsForRuns directory payslips) :
    s ∈ payslips :=
  (List.mem_insertionSort _).mp (List.mem_of_mem_filter (List.mem_of_getLast? (mem_effective.mp h)))

/-- Only one payslip of an employee and month is effective. -/
theorem effective_unique (hs : s ∈ effectivePayslipsForRuns directory payslips)
    (hs' : s' ∈ effectivePayslipsForRuns directory payslips) (hemployee : s.employee = s'.employee)
    (hmonth : s.month = s'.month) : s = s' := by
  have h := mem_effective.mp hs
  have h' := mem_effective.mp hs'
  rw [hemployee, hmonth, h'] at h
  exact (Option.some.inj h).symm

/-- The effective payslips have different employees or months. -/
theorem nodup_effective : (effectivePayslipsForRuns directory payslips).Nodup := by
  have hkeys : (Dict.keys (Dict.collect (fun s : PayslipRow => (s.employee, s.month))
      (fun _ s => s) (payslips.insertionSort (queryLe directory)) [])).Nodup :=
    Dict.nodup_keys_collect (by simp)
  refine (List.nodup_map_iff_inj_on hkeys.of_map).mpr (fun e he e' he' hsnd => ?_)
  obtain ⟨k, s⟩ := e
  obtain ⟨k', s'⟩ := e'
  obtain rfl : s = s' := hsnd
  have hown : ∀ {k : EmployeeId × Month} {s : PayslipRow},
      (k, s) ∈ Dict.collect (fun s : PayslipRow => (s.employee, s.month))
        (fun _ s => s) (payslips.insertionSort (queryLe directory)) [] →
      (s.employee, s.month) = k := by
    intro k s hmem
    rw [Dict.mem_collect, foldl_latest, Option.or_none] at hmem
    exact of_decide_eq_true (List.mem_filter.mp (List.mem_of_getLast? hmem)).2
  rw [← hown he, ← hown he']

/-- **Some employees and months**: what counts among their payslips is what counts
among all, of these employees and months. -/
theorem mem_effective_filter (p : EmployeeId × Month → Bool) :
    s ∈ effectivePayslipsForRuns directory (payslips.filter (fun s => p (s.employee, s.month)))
      ↔ s ∈ effectivePayslipsForRuns directory payslips ∧ p (s.employee, s.month) = true := by
  rw [mem_effective, mem_effective, Table.insertionSort_filter, List.filter_filter]
  cases hp : p (s.employee, s.month) with
  | true =>
    rw [and_iff_left rfl]
    refine iff_of_eq (congrArg (fun xs => List.getLast? xs = some s)
      (List.filter_congr (fun s' _ => ?_)))
    by_cases hkey : (s'.employee, s'.month) = (s.employee, s.month)
    · rw [hkey, hp, Bool.and_true]
    · simp [hkey]
  | false =>
    refine iff_of_false (fun h => ?_) (by simp)
    have hsel := (List.mem_filter.mp (List.mem_of_getLast? h)).2
    simp [hp] at hsel

/-- The payslips that another one of their employee and month replaces. -/
def supersededPayslips (directory : EmployeeDirectory) (payslips : List PayslipRow) :
    List PayslipRow :=
  payslips.filter (fun s => s ∉ effectivePayslipsForRuns directory payslips)

/-- **A total of all payslips** is that of the effective ones and of those they
replace. -/
theorem sum_effective_add_superseded (directory : EmployeeDirectory) (hnodup : payslips.Nodup)
    (f : PayslipRow → ℚ) :
    (payslips.map f).sum = ((effectivePayslipsForRuns directory payslips).map f).sum
      + ((supersededPayslips directory payslips).map f).sum := by
  set effective := effectivePayslipsForRuns directory payslips with heffective
  have hkept : (payslips.filter (fun s => s ∈ effective)).Perm effective := by
    refine (List.perm_ext_iff_of_nodup (hnodup.filter _) nodup_effective).mpr (fun s => ?_)
    rw [List.mem_filter, decide_eq_true_iff]
    exact and_iff_right_of_imp mem_of_mem_effective
  have hsplit := ((List.filter_append_perm (fun s => decide (s ∈ effective)) payslips).map f).sum_eq
  rw [List.map_append, List.sum_append, (hkept.map f).sum_eq] at hsplit
  rw [← hsplit, supersededPayslips, ← heffective]
  simp only [decide_not]

/-- The groups hold the payslips. -/
theorem perm_groupEffective (directory : EmployeeDirectory) (payslips : List PayslipRow) :
    ((groupEffectivePayslipsByEmployee directory payslips).flatMap Prod.snd).Perm payslips :=
  Dict.perm_group.trans (List.perm_insertionSort _ _)

theorem mem_groupEffective {e : EmployeeId × List PayslipRow}
    (he : e ∈ groupEffectivePayslipsByEmployee directory payslips) :
    e.2 ≠ [] ∧ ∀ s ∈ e.2, s.employee = e.1 := by
  obtain ⟨hfilter, hne⟩ := Dict.mem_group.mp he
  refine ⟨hne, fun s hs => ?_⟩
  rw [hfilter] at hs
  exact of_decide_eq_true (List.mem_filter.mp hs).2

end

/-! ## Months of a fiscal year -/

/-- `int` of a text: an optional sign and digits of any script, which single
underscores may separate. -/
def parseInt (text : List Char) : Option ℤ :=
  let (sign, digits) : ℤ × List Char :=
    match strip text with
    | '-' :: rest => (-1, rest)
    | '+' :: rest => (1, rest)
    | rest => (1, rest)
  let groups := digits.splitOn '_'
  if [] ∈ groups then none else (decimalNumber groups.flatten).map (fun n => sign * n)

/-- The two years of a label, as they are written. -/
def fiscalYearParts (fiscalYear : String) : Except String (ℤ × ℤ) :=
  match fiscalYear.toList.span (· ≠ '-') with
  | (startText, _ :: endText) =>
    match parseInt startText, parseInt endText with
    | some startYear, some endYear => .ok (startYear, endYear)
    | _, _ => .error "invalid literal for int() with base 10"
  | (_, []) => .error "not enough values to unpack (expected 2, got 1)"

/-- **A text of digits** is the number it writes. -/
theorem parseInt_of_digits {text : List Char} {n : ℕ}
    (hplain : ∀ c ∈ text, isSpace c = false ∧ c ≠ '-' ∧ c ≠ '+' ∧ c ≠ '_') (hne : text ≠ [])
    (hnumber : decimalNumber text = some n) : parseInt text = some (n : ℤ) := by
  unfold parseInt
  rw [strip_of_not_isSpace (fun c hc => (hplain c hc).1)]
  have hsplit : text.splitOn '_' = [text] :=
    List.splitOn_eq_singleton (fun h => (hplain _ h).2.2.2 rfl)
  have hfirst : ∀ {c : Char} {rest : List Char}, text = c :: rest → c ≠ '-' ∧ c ≠ '+' := fun h =>
    let hc := hplain _ (h ▸ List.mem_cons_self)
    ⟨hc.2.1, hc.2.2.1⟩
  split
  next sign digits h =>
  have hdigits : (sign, digits) = ((1 : ℤ), text) := by
    rw [← h]
    split
    · next rest => exact absurd rfl (hfirst (show '-' :: rest = '-' :: rest from rfl)).1
    · next rest => exact absurd rfl (hfirst (show '+' :: rest = '+' :: rest from rfl)).2
    · rfl
  obtain ⟨rfl, rfl⟩ := Prod.mk.inj hdigits
  dsimp only
  rw [hsplit, List.flatten_singleton, hnumber, if_neg (by simpa using hne.symm)]
  simp

theorem parseInt_toDigits (n : ℕ) : parseInt (Nat.toDigits 10 n) = some (n : ℤ) :=
  parseInt_of_digits (fun _ hc =>
      have hplain := isSpace_of_mem_toDigits hc
      ⟨hplain.1, hplain.2.2.1, hplain.2.2.2.1, hplain.2.2.2.2⟩)
    (by simp) (decimalNumber_toDigits n)

theorem span_label (y : ℕ) (rest : List Char) :
    (Nat.toDigits 10 y ++ '-' :: rest).span (· ≠ '-') = (Nat.toDigits 10 y, '-' :: rest) := by
  rw [List.span_eq_takeWhile_dropWhile]
  have hdigits : ∀ c ∈ Nat.toDigits 10 y, decide (c ≠ '-') = true := fun c hc =>
    decide_eq_true (isSpace_of_mem_toDigits hc).2.2.1
  rw [List.takeWhile_append_of_pos hdigits, List.dropWhile_append_of_pos hdigits]
  simp

/-- **The years of a label** are read back. -/
theorem fiscalYearParts_label (y z : ℕ) : fiscalYearParts s!"{y}-{z}" = .ok (y, z) := by
  unfold fiscalYearParts
  rw [toList_label, span_label]
  dsimp only
  rw [parseInt_toDigits, parseInt_toDigits]

/-- The months of a quarter. -/
def quarterMonths (fiscalYear : String) (quarter : TDSQuarter) :
    Except String (List (ℤ × ℕ)) := do
  let (startYear, endYear) ← fiscalYearParts fiscalYear
  match quarter with
  | .q1 => return [(startYear, 4), (startYear, 5), (startYear, 6)]
  | .q2 => return [(startYear, 7), (startYear, 8), (startYear, 9)]
  | .q3 => return [(startYear, 10), (startYear, 11), (startYear, 12)]
  | .q4 => return [(endYear, 1), (endYear, 2), (endYear, 3)]

/-- The month is one of these. -/
def Month.isIn (month : Month) (months : List (ℤ × ℕ)) : Bool :=
  ((month.1 : ℤ), month.2) ∈ months

/-- The quarter of a month. -/
def tdsQuarterForMonth (month : ℕ) : TDSQuarter :=
  if month ∈ [4, 5, 6] then .q1
  else if month ∈ [7, 8, 9] then .q2
  else if month ∈ [10, 11, 12] then .q3
  else .q4

/-- A date of a year that is read from a label. -/
def yearDate (year : ℤ) (month day : ℕ) : Except String Date :=
  match Date.ofYMD year.toNat month day with
  | some date => .ok date
  | none => .error s!"year {year} is out of range"

def fiscalYearBounds (fiscalYear : String) : Except String (Date × Date) := do
  let (startYear, endYear) ← fiscalYearParts fiscalYear
  return (← yearDate startYear 4 1, ← yearDate endYear 3 31)

/-- **The dates of a label** of two years in a row. There are none outside the
years of dates. -/
theorem fiscalYearBounds_label {y : ℕ} {bounds : Date × Date} :
    fiscalYearBounds s!"{y}-{y + 1}" = .ok bounds
      ↔ yearDate y 4 1 = .ok bounds.1 ∧ yearDate ((y + 1 : ℕ) : ℤ) 3 31 = .ok bounds.2 := by
  unfold fiscalYearBounds
  rw [fiscalYearParts_label]
  constructor
  · intro h
    obtain ⟨years, hyears, h⟩ := Transaction.bind_eq_ok_iff.mp h
    obtain rfl := Except.ok.inj hyears
    obtain ⟨first, hfirst, h⟩ := Transaction.bind_eq_ok_iff.mp h
    obtain ⟨last, hlast, h⟩ := Transaction.bind_eq_ok_iff.mp h
    obtain rfl := Transaction.pure_eq_ok_iff.mp h
    exact ⟨hfirst, hlast⟩
  · rintro ⟨hfirst, hlast⟩
    exact Transaction.bind_eq_ok_iff.mpr ⟨_, rfl, Transaction.bind_eq_ok_iff.mpr ⟨_, hfirst,
      Transaction.bind_eq_ok_iff.mpr ⟨_, hlast, rfl⟩⟩⟩

/-- The month is between the two dates, as the queries compare it. -/
def Month.isWithin (month : Month) (bounds : Date × Date) : Bool :=
  (month.1 = bounds.1.year ∧ bounds.1.month ≤ month.2)
    ∨ (month.1 = bounds.2.year ∧ month.2 ≤ bounds.2.month)
    ∨ (bounds.1.year < month.1 ∧ month.1 < bounds.2.year)

theorem yearDate_eq_ok {year : ℤ} {month day : ℕ} {date : Date}
    (h : yearDate year month day = .ok date) : (date.year : ℤ) = year ∧ date.month = month := by
  unfold yearDate at h
  split at h
  · next hdate =>
    cases h
    obtain ⟨hyear, hmonth, -⟩ := Date.ofYMD_eq_some.mp hdate
    have := date.valid.1
    exact ⟨by omega, hmonth⟩
  · cases h

theorem exists_yearDate (y month day : ℕ) (hyear : 1 ≤ y ∧ y ≤ 9999)
    (hmonth : 1 ≤ month ∧ month ≤ 12) (hday : 1 ≤ day ∧ day ≤ daysInMonth y month) :
    ∃ date, yearDate y month day = .ok date := by
  have hdate : Date.ofYMD y month day
      = some ⟨y, month, day, hyear.1, hyear.2, hmonth.1, hmonth.2, hday.1, hday.2⟩ :=
    dif_pos ⟨hyear.1, hyear.2, hmonth.1, hmonth.2, hday⟩
  unfold yearDate
  rw [Int.toNat_natCast, hdate]
  exact ⟨_, rfl⟩

/-- **The quarters of a fiscal year lie in it.** -/
theorem isWithin_of_isIn {fiscalYear : String} {bounds : Date × Date} {quarter : TDSQuarter}
    {months : List (ℤ × ℕ)} (hbounds : fiscalYearBounds fiscalYear = .ok bounds)
    (hmonths : quarterMonths fiscalYear quarter = .ok months) {month : Month}
    (h : month.isIn months = true) : month.isWithin bounds = true := by
  obtain ⟨⟨startYear, endYear⟩, hparts, hbounds⟩ := Transaction.bind_eq_ok_iff.mp hbounds
  obtain ⟨first, hfirst, hbounds⟩ := Transaction.bind_eq_ok_iff.mp hbounds
  obtain ⟨last, hlast, hbounds⟩ := Transaction.bind_eq_ok_iff.mp hbounds
  obtain rfl := Transaction.pure_eq_ok_iff.mp hbounds
  obtain ⟨⟨startYear', endYear'⟩, hparts', hmonths⟩ := Transaction.bind_eq_ok_iff.mp hmonths
  obtain ⟨rfl, rfl⟩ := Prod.mk.inj (Except.ok.inj (hparts.symm.trans hparts'))
  obtain ⟨hfirst, hapril⟩ := yearDate_eq_ok hfirst
  obtain ⟨hlast, hmarch⟩ := yearDate_eq_ok hlast
  have hmem := of_decide_eq_true h
  unfold Month.isWithin
  rw [decide_eq_true_eq]
  dsimp only
  rw [hapril, hmarch]
  -- a month of the first three quarters is after March of the first year
  cases quarter <;> obtain rfl := Transaction.pure_eq_ok_iff.mp hmonths <;>
    simp only [List.mem_cons, Prod.mk.injEq, List.not_mem_nil, or_false] at hmem <;> omega

/-! ## Finalized runs -/

/-- The finalized runs of the months of a quarter. -/
def finalizedRunsForQuarter (organisation : OrganisationId) (fiscalYear : String)
    (quarter : TDSQuarter) (payRuns : List PayrollRun) : Except String (List PayrollRun) := do
  let months ← quarterMonths fiscalYear quarter
  return payRuns.filter (fun p => p.organisation = organisation ∧ p.status = .finalized
    ∧ p.month.isIn months = true)

def finalizedRunsForFiscalYear (organisation : OrganisationId) (fiscalYear : String)
    (payRuns : List PayrollRun) : Except String (List PayrollRun) := do
  let bounds ← fiscalYearBounds fiscalYear
  return payRuns.filter (fun p => p.organisation = organisation ∧ p.status = .finalized
    ∧ p.month.isWithin bounds = true)

/-- The payslips of some runs. -/
def payslipsOfRuns (runs : List PayrollRun) (payslips : List PayslipRow) : List PayslipRow :=
  payslips.filter (fun s => s.payRun ∈ runs)

/-- **The payslips of a quarter** are those of the year, of the quarter's months. -/
theorem payslipsOfRuns_quarter {organisation : OrganisationId} {fiscalYear : String}
    {quarter : TDSQuarter} {payRuns year ofQuarter : List PayrollRun} {months : List (ℤ × ℕ)}
    (hyear : finalizedRunsForFiscalYear organisation fiscalYear payRuns = .ok year)
    (hquarter : finalizedRunsForQuarter organisation fiscalYear quarter payRuns = .ok ofQuarter)
    (hmonths : quarterMonths fiscalYear quarter = .ok months) (payslips : List PayslipRow) :
    payslipsOfRuns ofQuarter payslips
      = (payslipsOfRuns year payslips).filter (fun s => s.month.isIn months) := by
  obtain ⟨bounds, hbounds, hyear⟩ := Transaction.bind_eq_ok_iff.mp hyear
  obtain rfl := Transaction.pure_eq_ok_iff.mp hyear
  obtain ⟨months', hmonths', hquarter⟩ := Transaction.bind_eq_ok_iff.mp hquarter
  obtain rfl := Transaction.pure_eq_ok_iff.mp hquarter
  obtain rfl := Except.ok.inj (hmonths'.symm.trans hmonths)
  unfold payslipsOfRuns
  rw [List.filter_filter]
  refine List.filter_congr (fun s _ => ?_)
  have hmonth : s.month = s.payRun.month := rfl
  have hwithin : s.payRun.month.isIn months' = true → s.payRun.month.isWithin bounds = true :=
    isWithin_of_isIn hbounds hmonths
  rw [Bool.eq_iff_iff]
  simp only [List.mem_filter, decide_eq_true_eq, Bool.and_eq_true, hmonth]
  tauto

/-! ### The payslips of a filing -/

section

variable (organisation : OrganisationId) (fiscalYear : String) (directory : EmployeeDirectory)
  (payRuns : List PayrollRun) (payslips : List PayslipRow)

/-- The payslips a statement of a quarter counts. -/
def payslipsOfQuarter (quarter : TDSQuarter) : Except String (List PayslipRow) := do
  let runs ← finalizedRunsForQuarter organisation fiscalYear quarter payRuns
  return effectivePayslipsForRuns directory (payslipsOfRuns runs payslips)

/-- The payslips the certificates of a year count. -/
def payslipsOfFiscalYear : Except String (List PayslipRow) := do
  let runs ← finalizedRunsForFiscalYear organisation fiscalYear payRuns
  return effectivePayslipsForRuns directory (payslipsOfRuns runs payslips)

end

section

variable {organisation : OrganisationId} {fiscalYear : String} {directory : EmployeeDirectory}
  {payRuns : List PayrollRun} {payslips counted : List PayslipRow} {s : PayslipRow}

theorem nodup_payslipsOfFiscalYear
    (hcounted : payslipsOfFiscalYear organisation fiscalYear directory payRuns payslips
      = .ok counted) : counted.Nodup := by
  obtain ⟨year, -, hcounted⟩ := Transaction.bind_eq_ok_iff.mp hcounted
  obtain rfl := Transaction.pure_eq_ok_iff.mp hcounted
  exact nodup_effective

theorem unique_payslipsOfFiscalYear
    (hcounted : payslipsOfFiscalYear organisation fiscalYear directory payRuns payslips
      = .ok counted) :
    ∀ s ∈ counted, ∀ s' ∈ counted, s.employee = s'.employee → s.month = s'.month → s = s' := by
  obtain ⟨year, -, hcounted⟩ := Transaction.bind_eq_ok_iff.mp hcounted
  obtain rfl := Transaction.pure_eq_ok_iff.mp hcounted
  exact fun s hs s' hs' => effective_unique hs hs'

/-- A label that has a year has its quarters. -/
theorem exists_quarterMonths
    (hcounted : payslipsOfFiscalYear organisation fiscalYear directory payRuns payslips
      = .ok counted) (quarter : TDSQuarter) :
    ∃ months, quarterMonths fiscalYear quarter = .ok months := by
  obtain ⟨year, hyear, -⟩ := Transaction.bind_eq_ok_iff.mp hcounted
  obtain ⟨bounds, hbounds, -⟩ := Transaction.bind_eq_ok_iff.mp hyear
  obtain ⟨⟨startYear, endYear⟩, hparts, -⟩ := Transaction.bind_eq_ok_iff.mp hbounds
  unfold quarterMonths
  rw [hparts]
  cases quarter <;> exact ⟨_, rfl⟩

/-- **The payslips of a quarter** are the year's, of its months. -/
theorem mem_payslipsOfQuarter {quarter : TDSQuarter} {months : List (ℤ × ℕ)}
    {ofQuarter : List PayslipRow}
    (hcounted : payslipsOfFiscalYear organisation fiscalYear directory payRuns payslips
      = .ok counted)
    (hquarter : payslipsOfQuarter organisation fiscalYear directory payRuns payslips quarter
      = .ok ofQuarter)
    (hmonths : quarterMonths fiscalYear quarter = .ok months) :
    s ∈ ofQuarter ↔ s ∈ counted ∧ s.month.isIn months = true := by
  obtain ⟨year, hyear, hcounted⟩ := Transaction.bind_eq_ok_iff.mp hcounted
  obtain rfl := Transaction.pure_eq_ok_iff.mp hcounted
  obtain ⟨runs, hruns, hquarter⟩ := Transaction.bind_eq_ok_iff.mp hquarter
  obtain rfl := Transaction.pure_eq_ok_iff.mp hquarter
  rw [payslipsOfRuns_quarter hyear hruns hmonths]
  exact mem_effective_filter (fun key => key.2.isIn months)

end

/-! ## Challans -/

/-- **A challan**, the deposit of the tax of a month. It can be saved with the
quarter of its month only. -/
structure PayrollTDSChallan where
  organisation : OrganisationId
  fiscalYear : String
  periodYear : ℕ
  periodMonth : ℕ
  bsrCode : String
  challanSerialNumber : String
  depositDate : Date
  taxDeposited : ℚ
  interestAmount : ℚ
  feeAmount : ℚ
  statementReceiptNumber : String
  onPaise : OnPaise taxDeposited
deriving DecidableEq

namespace PayrollTDSChallan

def quarter (challan : PayrollTDSChallan) : TDSQuarter := tdsQuarterForMonth challan.periodMonth

def month (challan : PayrollTDSChallan) : Month := (challan.periodYear, challan.periodMonth)

end PayrollTDSChallan

/-- The challans by month. -/
def challanMap (challans : List PayrollTDSChallan) : List (Month × PayrollTDSChallan) :=
  Dict.collect PayrollTDSChallan.month (fun _ c => c) challans []

/-- The challan of a month. -/
theorem get_challanMap (challans : List PayrollTDSChallan) (month : Month) :
    Dict.get month (challanMap challans)
      = (challans.filter (fun c => c.month = month)).getLast? := by
  rw [challanMap, Dict.get_collect, foldl_latest, Dict.get_nil, Option.or_none]

theorem mem_of_get_challanMap {challans : List PayrollTDSChallan} {month : Month}
    {challan : PayrollTDSChallan} (h : Dict.get month (challanMap challans) = some challan) :
    challan ∈ challans ∧ challan.month = month := by
  rw [get_challanMap] at h
  obtain ⟨hmem, hmonth⟩ := List.mem_filter.mp (List.mem_of_getLast? h)
  exact ⟨hmem, of_decide_eq_true hmonth⟩

theorem exists_get_challanMap {challans : List PayrollTDSChallan} {challan : PayrollTDSChallan}
    (h : challan ∈ challans) : ∃ c, Dict.get challan.month (challanMap challans) = some c := by
  have hmem : challan ∈ challans.filter (fun c => c.month = challan.month) :=
    List.mem_filter.mpr ⟨h, decide_eq_true rfl⟩
  rw [get_challanMap]
  exact ⟨_, List.getLast?_eq_some_getLast (List.ne_nil_of_mem hmem)⟩

/-! ## Texts -/

/-- A month in a message. -/
def periodLabel (month : Month) : String := s!"{month.1}-{twoDigits month.2}"

/-- An amount, with two places. -/
def decimalToString (x : ℚ) : String :=
  let paise := Decimal.roundHalfEven (x * 100)
  let sign := if paise < 0 then "-" else ""
  s!"{sign}{paise.natAbs / 100}.{twoDigits (paise.natAbs % 100)}"

example : decimalToString (-1234567 / 1000) = "-1234.57" := by decide +kernel

/-! ## Concrete rows

Employees 1 and 2 of organisation 1, and payslips of April 2024. -/

namespace Sample

def filingOrganisation : FilingOrganisation :=
  { id := 1, entityType := "PRIVATE_LIMITED", tanNumber := "PNEA01234B",
    panNumber := "AAACA1234A" }

def filers (id : EmployeeId) : FilingEmployee :=
  { employeeCode := s!"EMP-{id}", fullName := "", pan := "ABCDE1234F" }

def aprilPeriod : PayPeriod := april

def payRunOf (id : PayrollRunId) (runType : PayrollRunType) : PayrollRun :=
  { id := id, organisation := 1, periodYear := 2024, periodMonth := 4, runType := runType,
    useAttendanceInputs := false, status := .finalized, approvalRun := none }

/-- The payslip of a calculation that succeeds. -/
def payslipRow (id : PayslipId) (payRun : PayrollRun) (inp : ItemInputs)
    (hyear : inp.period.year = payRun.periodYear) (hmonth : inp.period.month = payRun.periodMonth)
    (h : calculateItem inp = .ok (.ready (item inp).1 (item inp).2)) : PayslipRow where
  id := id
  createdAt := id
  payRun := payRun
  finalizedAt := payRun.id
  item :=
    { id := id, payRun := payRun.id, employee := inp.employee.id, status := .ready,
      amounts := (item inp).1, snapshot := (item inp).2, message := "" }
  taxRegime := inp.assignment.taxRegime
  calculated := ⟨inp, rfl, hyear, hmonth, h⟩

/-- The payslip for April, of run 1, of an employee with a basic pay. -/
def april2024 (id : PayslipId) (employeeId : EmployeeId) (basic : ℚ)
    (h : calculateItem (inputs aprilPeriod { employee with id := employeeId } (assignment basic))
      = .ok (.ready
        (item (inputs aprilPeriod { employee with id := employeeId } (assignment basic))).1
        (item (inputs aprilPeriod { employee with id := employeeId } (assignment basic))).2)) :
    PayslipRow :=
  payslipRow id (payRunOf 1 .regular) _ rfl rfl h

theorem aprilOf20000_ready :
    calculateItem (inputs aprilPeriod { employee with id := 1 } (assignment 20000))
      = .ok (.ready
        (item (inputs aprilPeriod { employee with id := 1 } (assignment 20000))).1
        (item (inputs aprilPeriod { employee with id := 1 } (assignment 20000))).2) := by
  decide +kernel

/-- The challan of April with a deposit in paise. -/
def aprilChallan (paise : ℤ) : PayrollTDSChallan where
  organisation := 1
  fiscalYear := "2024-2025"
  periodYear := 2024
  periodMonth := 4
  bsrCode := "0123456"
  challanSerialNumber := "00001"
  depositDate := ⟨2024, 5, 7, by decide⟩
  taxDeposited := paise * (1 / 100)
  interestAmount := 0
  feeAmount := 0
  statementReceiptNumber := ""
  onPaise := ⟨paise, rfl⟩

end Sample

end Payroll
