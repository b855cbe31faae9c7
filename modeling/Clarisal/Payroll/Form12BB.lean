import Clarisal.Payroll.Filings
import Clarisal.Payroll.FiscalYearLabels

/-!
# Form 12BB

Form 12BB states what an employee declares for a fiscal year: house rent, leave travel, a
home loan, and the deductions of chapter VI-A. The declarations are put into buckets by their
sections, and the buckets into four lists of rows; a section without a bucket is among the
others. Nothing is lost or doubled on the way (`rows_perm`).

The declarations of the year are those stored under the label the form is asked for, letter
for letter. The tax working finds them by the aliases of the year. So a form that is asked
for as `2024-25` has none of the declarations stored as `2024-2025`, which are deducted all
the same (`short_label_misses`). The form agrees with the tax working exactly where all
declarations of the year are stored under the spelling asked for (`form12bb_agrees_iff`).
-/

open Approvals

namespace Payroll

/-! ## Declarations -/

/-- A declaration. The section is one of the choices or what else fits the column. -/
structure InvestmentDeclaration where
  employee : EmployeeId
  fiscalYear : String
  section_ : String
  description : String
  declaredAmount : ℚ
  proofFileKey : Option String
deriving DecidableEq, Repr

/-- The stored value of a section. -/
def InvestmentSection.value : InvestmentSection → String
  | .section80C => "80C"
  | .section80D => "80D"
  | .section80TTA => "80TTA"
  | .section80G => "80G"
  | .hra => "HRA"
  | .lta => "LTA"

/-! ## What the tax working deducts -/

/-- `_fiscal_year_query`: stored under an alias of the year. -/
def fiscalYearQuery (fiscalYear : String) (stored : String) : Bool :=
  match fiscalYearLabelAliases fiscalYear with
  | [] => stored = normalizeFiscalYearLabel fiscalYear
  | aliases => stored ∈ aliases

section

variable (employee : EmployeeId) (fiscalYear : String) (declarations : List InvestmentDeclaration)

/-- The declarations of an employee that are added up for a section. -/
def declarationsOf (section_ : InvestmentSection) : List InvestmentDeclaration :=
  declarations.filter (fun d => d.employee = employee
    ∧ fiscalYearQuery fiscalYear d.fiscalYear = true ∧ d.section_ = section_.value)

/-- `calculate_taxable_income_with_investments`. -/
def taxableIncomeWithInvestments (annualGross : ℚ) (taxRegime : TaxRegime) : ℚ :=
  match taxRegime with
  | .new => calculateTaxableIncomeAfterStandardDeduction annualGross
  | .old => normalizeDecimal (max 0
      (calculateTaxableIncomeAfterStandardDeduction annualGross
        - (sectionLimits.map (fun s => min (normalizeDecimal
            ((declarationsOf employee fiscalYear declarations s.1).map
              InvestmentDeclaration.declaredAmount).sum) s.2)).sum))

/-- The item of an employee is calculated with it. -/
theorem calculateTaxableIncomeWithInvestments_eq (inp : ItemInputs) (annualGross : ℚ)
    (hdeclared : inp.declaredTotals = fun section_ =>
      ((declarationsOf employee fiscalYear declarations section_).map
        InvestmentDeclaration.declaredAmount).sum) :
    inp.calculateTaxableIncomeWithInvestments annualGross
      = taxableIncomeWithInvestments employee fiscalYear declarations annualGross
          inp.assignment.taxRegime := by
  unfold ItemInputs.calculateTaxableIncomeWithInvestments taxableIncomeWithInvestments
    ItemInputs.totalDeclaredDeductions
  cases inp.assignment.taxRegime with
  | new => rfl
  | old => simp only [hdeclared]

/-- **Deducted in the old regime**: added up for a section that has a limit. -/
def IsDeducted (d : InvestmentDeclaration) : Prop :=
  ∃ s ∈ sectionLimits, d ∈ declarationsOf employee fiscalYear declarations s.1

instance (d : InvestmentDeclaration) :
    Decidable (IsDeducted employee fiscalYear declarations d) :=
  inferInstanceAs (Decidable (∃ s ∈ sectionLimits, _))

end

/-! ## The form -/

/-- A row of the form. What the other columns of a row have is empty. -/
structure Form12BBSectionRow where
  section_ : String
  description : String
  amount : ℚ
  proofAttached : String
deriving DecidableEq, Repr

/-- **The figures of the form.** -/
structure Form12BBData where
  fiscalYear : String
  employeeName : String
  hraRows : List Form12BBSectionRow
  ltaRows : List Form12BBSectionRow
  homeLoanRows : List Form12BBSectionRow
  chapterViaRows : List Form12BBSectionRow
deriving DecidableEq, Repr

namespace Form12BBData

variable (data : Form12BBData)

/-- The assessment year, or the failure of reading the label. -/
def assessmentYear : Except String (ℤ × ℤ) :=
  match parseInt (data.fiscalYear.toList.takeWhile (· ≠ '-')) with
  | some fyStart => .ok (fyStart + 1, fyStart + 2)
  | none => .error "invalid literal for int() with base 10"

def total (rows : List Form12BBSectionRow) : ℚ := (rows.map Form12BBSectionRow.amount).sum

def grandTotal : ℚ :=
  total data.hraRows + total data.ltaRows + total data.homeLoanRows + total data.chapterViaRows

/-- All rows of the form. -/
def rows : List Form12BBSectionRow :=
  data.hraRows ++ data.ltaRows ++ data.homeLoanRows ++ data.chapterViaRows

/-- The grand total is that of the rows. -/
theorem grandTotal_eq : data.grandTotal = (data.rows.map Form12BBSectionRow.amount).sum := by
  simp [grandTotal, rows, total, add_assoc]

end Form12BBData

/-- The row of a declaration. -/
def InvestmentDeclaration.row (d : InvestmentDeclaration) : Form12BBSectionRow where
  section_ := d.section_
  description := d.description
  amount := d.declaredAmount
  proofAttached := if d.proofFileKey.getD "" = "" then "No" else "Yes"

/-- The bucket of a section. -/
def bucketOf (section_ : String) : String :=
  if section_ = "HRA" then "HRA"
  else if section_ = "LTA" then "LTA"
  else if section_ ∈ ["80C", "80D", "80TTA", "80G", "OTHER"] then section_
  else "OTHER"

/-- The buckets before anything is in them. -/
def emptyBuckets : List (String × List Form12BBSectionRow) :=
  ["HRA", "LTA", "HOME_LOAN", "80C", "80D", "80G", "80E", "80TTA", "OTHER"].map (fun k => (k, []))

/-- The sections of chapter VI-A, in the order of their rows. -/
def chapterViaSections : List String := ["80C", "80D", "80TTA", "80G", "OTHER"]

section

variable (employee : EmployeeId) (fiscalYear : String) (declarations : List InvestmentDeclaration)

/-- The declarations of the form: stored under the label itself, ordered by section. -/
def declarationsOnForm : List InvestmentDeclaration :=
  (declarations.filter (fun d => d.employee = employee ∧ d.fiscalYear = fiscalYear)).insertionSort
    (fun d d' => d.section_ ≤ d'.section_)

/-- `_collect_declarations`. -/
def collectDeclarations : List (String × List Form12BBSectionRow) :=
  Dict.collect (fun d : InvestmentDeclaration => bucketOf d.section_)
    (fun rows d => rows.getD [] ++ [d.row])
    (declarationsOnForm employee fiscalYear declarations) emptyBuckets

/-- The rows of a bucket. -/
def rowsOf (key : String) : List Form12BBSectionRow :=
  (Dict.get key (collectDeclarations employee fiscalYear declarations)).getD []

/-- `_build_form12bb_data`, as far as the declarations go. -/
def buildForm12BBData (employeeName : String) : Form12BBData where
  fiscalYear := fiscalYear
  employeeName := employeeName
  hraRows := rowsOf employee fiscalYear declarations "HRA"
  ltaRows := rowsOf employee fiscalYear declarations "LTA"
  homeLoanRows := rowsOf employee fiscalYear declarations "HOME_LOAN"
  chapterViaRows := chapterViaSections.flatMap (rowsOf employee fiscalYear declarations)

/-- A generated form: its figures, and what keeps it from being printed. -/
structure Form12BB where
  data : Form12BBData
  assessmentYear : ℤ × ℤ
  declarationCount : ℕ
  validationErrors : List String
deriving DecidableEq, Repr

/-- **`generate_form12bb_pdf`.** -/
def generateForm12BBPdf (employeeName : String) : Except String Form12BB := do
  let blockers :=
    (if employeeName = "" then ["Employee name is not available."] else [])
      ++ (if declarationsOnForm employee fiscalYear declarations = [] then
        ["No investment declarations found for FY " ++ fiscalYear ++ "."] else [])
  let data := buildForm12BBData employee fiscalYear declarations employeeName
  let assessmentYear ← data.assessmentYear
  return { data := data, assessmentYear := assessmentYear,
           declarationCount := data.rows.length, validationErrors := blockers }

end

/-! ### Every declaration has its row -/

section

variable {employee : EmployeeId} {fiscalYear : String} {declarations : List InvestmentDeclaration}

/-- A bucket has the rows of the sections that are put into it. -/
theorem rowsOf_eq {key : String} (hkey : key ∈ Dict.keys emptyBuckets) :
    rowsOf employee fiscalYear declarations key
      = ((declarationsOnForm employee fiscalYear declarations).filter
          (fun d => bucketOf d.section_ = key)).map InvestmentDeclaration.row := by
  have hempty : Dict.get key emptyBuckets = some [] := by
    have hkeys : ∀ key ∈ Dict.keys emptyBuckets, Dict.get key emptyBuckets = some [] := by decide
    exact hkeys key hkey
  have hloop : ∀ (ds : List InvestmentDeclaration) (rows : List Form12BBSectionRow),
      ds.foldl (fun (rows : Option (List Form12BBSectionRow)) d =>
        some (rows.getD [] ++ [d.row])) (some rows)
        = some (rows ++ ds.map InvestmentDeclaration.row) := by
    intro ds
    induction ds with
    | nil => intro rows; simp
    | cons d ds ih =>
      intro rows
      rw [List.foldl_cons, Option.getD_some, ih, List.map_cons, List.append_assoc,
        List.singleton_append]
  rw [rowsOf, collectDeclarations, Dict.get_collect, hempty, hloop, List.nil_append]
  rfl

/-- The buckets that are printed, in the order of the rows. -/
def printedBuckets : List String := "HRA" :: "LTA" :: "HOME_LOAN" :: chapterViaSections

theorem bucketOf_mem (section_ : String) : bucketOf section_ ∈ printedBuckets := by
  unfold bucketOf
  split_ifs with hhra hlta hown
  · simp [printedBuckets]
  · simp [printedBuckets]
  · exact List.mem_cons_of_mem _ (List.mem_cons_of_mem _ (List.mem_cons_of_mem _ hown))
  · simp [printedBuckets, chapterViaSections]

/-- **The rows of the form** are those of its declarations, each once. -/
theorem rows_perm (employee : EmployeeId) (fiscalYear : String)
    (declarations : List InvestmentDeclaration) (employeeName : String) :
    (buildForm12BBData employee fiscalYear declarations employeeName).rows.Perm
      ((declarations.filter (fun d => d.employee = employee ∧ d.fiscalYear = fiscalYear)).map
        InvestmentDeclaration.row) := by
  have hrows : (buildForm12BBData employee fiscalYear declarations employeeName).rows
      = (printedBuckets.flatMap (fun key =>
          (declarationsOnForm employee fiscalYear declarations).filter
            (fun d => bucketOf d.section_ = key))).map InvestmentDeclaration.row := by
    have hkeys : ∀ key ∈ printedBuckets, key ∈ Dict.keys emptyBuckets := by decide
    rw [List.map_flatMap, ← List.flatMap_congr fun key hkey => rowsOf_eq (hkeys key hkey)]
    simp [Form12BBData.rows, buildForm12BBData, printedBuckets, List.append_assoc]
  have hbuckets : (printedBuckets.flatMap (fun key =>
      (declarationsOnForm employee fiscalYear declarations).filter
        (fun d => bucketOf d.section_ = key))).Perm
          (declarationsOnForm employee fiscalYear declarations) :=
    Dict.perm_flatMap_filter (by decide) (fun d _ => bucketOf_mem d.section_)
  rw [hrows]
  exact (hbuckets.trans (List.perm_insertionSort _ _)).map _

end

/-! ## The labels of a fiscal year -/

section

variable {y : ℕ} {requested : String}

/-- The short form of a year has the normal form of the year. -/
theorem normalize_shortLabel (hy : 1000 ≤ y ∧ y + 1 < 10000) :
    normalizeFiscalYearLabel (shortLabel y (y + 1)) = s!"{y}-{y + 1}" := by
  have hplain : ∀ c ∈ (shortLabel y (y + 1)).toList, isSpace c = false ∧ c ≠ '/' := by
    rw [toList_shortLabel]
    exact plain_append_hyphen (plain_toDigits y) (plain_zeroPad 2 _)
  have hread : fiscalYears (labelText (shortLabel y (y + 1))) = some (y, y + 1) := by
    have hfour := (length_toDigits_eq_four y).mpr ⟨hy.1, by omega⟩
    have htwo : (zeroPad 2 ((y + 1) % 100)).length = 2 :=
      length_zeroPad (by decide) (Nat.mod_lt _ (by decide))
    have hcentury : completed y ((y + 1) % 100) = y + 1 := by
      unfold completed
      split <;> omega
    rw [labelText_eq_toList hplain, toList_shortLabel,
      fiscalYears_append_hyphen (decimalNumber_toDigits y) (decimalNumber_zeroPad 2 _),
      if_pos ⟨hfour, htwo⟩, hcentury]
  rw [normalizeFiscalYearLabel_eq, hread]

/-- **An alias of a fiscal year**: the label itself, or the short form. -/
theorem mem_aliases_label (h : requested ∈ fiscalYearLabelAliases s!"{y}-{y + 1}") :
    requested = s!"{y}-{y + 1}"
      ∨ (1000 ≤ y ∧ y + 1 < 10000) ∧ requested = shortLabel y (y + 1) := by
  have htext : labelText s!"{y}-{y + 1}" = Nat.toDigits 10 y ++ '-' :: Nat.toDigits 10 (y + 1) :=
    labelText_label y (y + 1)
  rcases fiscalYears_label y with hnone | hsome
  · -- not read as years, the label has no other form
    unfold fiscalYearLabelAliases at h
    rw [normalizeFiscalYearLabel_label] at h
    dsimp only at h
    rw [toList_label, hnone] at h
    split at h
    · cases h
    · rw [if_neg (by simp), List.mem_singleton] at h
      exact Or.inl h
  · rw [← htext] at hsome
    obtain ⟨A, hyears⟩ := YearLabel.of_fiscalYears hsome
    obtain ⟨hstart, hend⟩ := Prod.mk.inj hyears
    rw [mem_fiscalYearLabelAliases A, hstart, hend] at h
    exact h.imp_right fun hshort => ⟨⟨hshort.1.1, hshort.1.2.2⟩, hshort.2⟩

/-- All aliases of a fiscal year have its normal form. -/
theorem normalize_of_mem_aliases (h : requested ∈ fiscalYearLabelAliases s!"{y}-{y + 1}") :
    normalizeFiscalYearLabel requested = s!"{y}-{y + 1}" := by
  rcases mem_aliases_label h with rfl | ⟨hy, rfl⟩
  · exact normalizeFiscalYearLabel_label y
  · exact normalize_shortLabel hy

/-- **The query of an alias** finds labels of the year's normal form only. -/
theorem normalize_of_fiscalYearQuery (h : requested ∈ fiscalYearLabelAliases s!"{y}-{y + 1}")
    {stored : String} (hstored : fiscalYearQuery requested stored = true) :
    normalizeFiscalYearLabel stored = normalizeFiscalYearLabel requested := by
  have hnormal := normalize_of_mem_aliases h
  have haliases : fiscalYearLabelAliases requested = fiscalYearLabelAliases s!"{y}-{y + 1}" := by
    unfold fiscalYearLabelAliases
    rw [hnormal, normalizeFiscalYearLabel_label]
  have hmem : stored ∈ fiscalYearLabelAliases s!"{y}-{y + 1}" := by
    unfold fiscalYearQuery at hstored
    rw [haliases] at hstored
    split at hstored
    · next hnil =>
      rw [hnil] at h
      cases h
    · exact of_decide_eq_true hstored
  rw [normalize_of_mem_aliases hmem, hnormal]

/-- The assessment year of an alias. -/
theorem parseInt_alias (h : requested ∈ fiscalYearLabelAliases s!"{y}-{y + 1}") :
    parseInt (requested.toList.takeWhile (· ≠ '-')) = some (y : ℤ) := by
  have hstart : ∃ rest, requested.toList = Nat.toDigits 10 y ++ '-' :: rest := by
    rcases mem_aliases_label h with rfl | ⟨-, rfl⟩
    · exact ⟨_, toList_label y (y + 1)⟩
    · exact ⟨_, toList_shortLabel y (y + 1)⟩
  obtain ⟨rest, htext⟩ := hstart
  have hspan := span_label y rest
  rw [List.span_eq_takeWhile_dropWhile] at hspan
  rw [htext, (Prod.mk.inj hspan).1, parseInt_toDigits]

end

/-! ## The form and the tax working -/

/-- The declarations of the year: their labels have the normal form of the requested one. -/
def declarationsOfYear (employee : EmployeeId) (requested : String)
    (declarations : List InvestmentDeclaration) : List InvestmentDeclaration :=
  declarations.filter (fun d => d.employee = employee
    ∧ normalizeFiscalYearLabel d.fiscalYear = normalizeFiscalYearLabel requested)

/-- **The form agrees with the tax working**: its rows are the declarations of the year, each
once, the grand total is theirs, and every declaration that is deducted has a row. -/
structure FormAgrees (employee : EmployeeId) (requested : String)
    (declarations : List InvestmentDeclaration) (form : Form12BB) : Prop where
  rows : form.data.rows.Perm ((declarationsOfYear employee requested declarations).map
    InvestmentDeclaration.row)
  grandTotal : form.data.grandTotal = ((declarationsOfYear employee requested declarations).map
    InvestmentDeclaration.declaredAmount).sum
  deducted : ((declarations.filter (fun d =>
    IsDeducted employee requested declarations d)).map InvestmentDeclaration.row).Subperm
      form.data.rows

/-- **The form agrees with the tax working** exactly when all declarations of the year are
stored under the label it is asked for. -/
theorem form12bb_agrees_iff {y : ℕ} {requested : String}
    (hrequested : requested ∈ fiscalYearLabelAliases s!"{y}-{y + 1}") (employee : EmployeeId)
    (employeeName : String) (declarations : List InvestmentDeclaration) :
    ∃ form, generateForm12BBPdf employee requested declarations employeeName = .ok form
      ∧ (FormAgrees employee requested declarations form
        ↔ ∀ d ∈ declarationsOfYear employee requested declarations, d.fiscalYear = requested) := by
  have hyear : (buildForm12BBData employee requested declarations employeeName).assessmentYear
      = .ok ((y : ℤ) + 1, (y : ℤ) + 2) := by
    unfold Form12BBData.assessmentYear
    rw [show (buildForm12BBData employee requested declarations employeeName).fiscalYear
      = requested from rfl, parseInt_alias hrequested]
  refine ⟨_, Transaction.bind_eq_ok_iff.mpr ⟨_, hyear, rfl⟩, ?_⟩
  have hrows := rows_perm employee requested declarations employeeName
  -- the declarations on the form are those of the year that are spelt as requested
  have hexact : declarations.filter (fun d => d.employee = employee ∧ d.fiscalYear = requested)
      = (declarationsOfYear employee requested declarations).filter
          (fun d => d.fiscalYear = requested) := by
    rw [declarationsOfYear, List.filter_filter]
    refine List.filter_congr fun d _ => ?_
    rw [Bool.eq_iff_iff]
    simp only [Bool.and_eq_true, decide_eq_true_eq]
    constructor
    · rintro ⟨hemployee, rfl⟩
      exact ⟨rfl, hemployee, rfl⟩
    · rintro ⟨hlabel, hemployee, -⟩
      exact ⟨hemployee, hlabel⟩
  rw [hexact] at hrows
  constructor
  · rintro ⟨hagrees, -, -⟩
    have hlength := (hrows.symm.trans hagrees).length_eq
    rw [List.length_map, List.length_map] at hlength
    exact fun d hd => of_decide_eq_true (List.length_filter_eq_length_iff.mp hlength d hd)
  · intro hspelt
    have hall : (declarationsOfYear employee requested declarations).filter
        (fun d => d.fiscalYear = requested) = declarationsOfYear employee requested declarations :=
      List.filter_eq_self.mpr fun d hd => decide_eq_true (hspelt d hd)
    rw [hall] at hrows
    refine ⟨hrows, ?_, ?_⟩
    · show Form12BBData.grandTotal _ = _
      rw [Form12BBData.grandTotal_eq, (hrows.map Form12BBSectionRow.amount).sum_eq, List.map_map]
      rfl
    · refine (List.Sublist.subperm (List.Sublist.map _ ?_)).trans hrows.symm.subperm
      refine List.monotone_filter_right _ fun d hd => ?_
      obtain ⟨s, -, hs⟩ := of_decide_eq_true hd
      obtain ⟨hemployee, hquery, -⟩ := of_decide_eq_true (List.mem_filter.mp hs).2
      exact decide_eq_true ⟨hemployee, normalize_of_fiscalYearQuery hrequested hquery⟩

/-! ## A declaration of 2024-2025

Employee 1 declares 150000 of savings, and the declaration is stored in normal form. -/

namespace Sample

def savings : InvestmentDeclaration :=
  { employee := 1, fiscalYear := "2024-2025", section_ := "80C", description := "Provident fund",
    declaredAmount := 150000, proofFileKey := none }

/-- The form without declarations. -/
def emptyForm : Form12BB where
  data :=
    { fiscalYear := "2024-25", employeeName := "Asha", hraRows := [], ltaRows := []
      homeLoanRows := [], chapterViaRows := [] }
  assessmentYear := (2025, 2026)
  declarationCount := 0
  validationErrors := ["No investment declarations found for FY 2024-25."]

end Sample

/-- Asked for by the short label, the form has no rows, and the declaration is deducted. -/
theorem short_label_misses :
    ¬ ∀ (y : ℕ) (requested : String) (employee : EmployeeId) (employeeName : String)
      (declarations : List InvestmentDeclaration) (form : Form12BB),
      requested ∈ fiscalYearLabelAliases s!"{y}-{y + 1}" →
      generateForm12BBPdf employee requested declarations employeeName = .ok form →
      FormAgrees employee requested declarations form := by
  intro h
  have hform : generateForm12BBPdf 1 "2024-25" [Sample.savings] "Asha"
      = .ok Sample.emptyForm := by
    decide +kernel
  have hrequested : "2024-25" ∈ fiscalYearLabelAliases s!"{2024}-{2024 + 1}" := by
    show "2024-25" ∈ fiscalYearLabelAliases "2024-2025"
    rw [aliases_2024_2025]
    decide
  have hdeducted := (h 2024 "2024-25" 1 "Asha" [Sample.savings] _ hrequested hform).deducted
  have hlength := hdeducted.length_le
  revert hlength
  decide +kernel

/-- The form asked for by the label of the declarations. -/
theorem form12bb_agrees_iff_sample :
    ∃ form, generateForm12BBPdf 1 "2024-2025" [Sample.savings] "Asha" = .ok form
      ∧ FormAgrees 1 "2024-2025" [Sample.savings] form := by
  have hrequested : "2024-2025" ∈ fiscalYearLabelAliases s!"{2024}-{2024 + 1}" := by
    show "2024-2025" ∈ fiscalYearLabelAliases "2024-2025"
    rw [aliases_2024_2025]
    decide
  obtain ⟨form, hform, hiff⟩ := form12bb_agrees_iff hrequested 1 "Asha" [Sample.savings]
  exact ⟨form, hform, hiff.mpr (by decide +kernel)⟩

end Payroll
