import Clarisal.Lib.Anniversary
import Clarisal.Payroll.Filings
import Clarisal.Payroll.SlabTax

/-!
# Tax masters

The slabs an employee is taxed by are those of a master: a slab set of a fiscal year, a
regime and a taxpayer category. The category follows from the age at the start of the year,
counted in days and divided by 365. Leap days make this early: whoever turns 60 or 80 within
about two, or three, weeks after 1 April is a senior already
(`taxCategoryForFiscalYear_iff`).

A calculation that finds no active master of the new regime creates one. It is refused when
an inactive one exists (`activeTaxSlabSet`).
-/

open Calendar Approvals

namespace Payroll

/-- The age-based category, in the order of the texts. -/
inductive TaxCategory
  | individual | seniorCitizen | superSeniorCitizen
deriving DecidableEq, Repr

/-! ## The category of an employee -/

/-- **The category by days**: the age at the start of the fiscal year, in years of 365. -/
def taxCategoryForFiscalYear (dateOfBirth : Option Date) (fiscalYear : String) :
    Except String TaxCategory :=
  match parseInt (fiscalYear.toList.takeWhile (· ≠ '-')) with
  | none => .ok .individual
  | some startYear =>
    match dateOfBirth with
    | none => .ok .individual
    | some dob =>
      match Date.ofYMD startYear.toNat 4 1 with
      | none => .error s!"year {startYear} is out of range"
      | some fyStart =>
        let ageAtFyStart := ((fyStart.toordinal : ℤ) - dob.toordinal) / 365
        if 80 ≤ ageAtFyStart then .ok .superSeniorCitizen
        else if 60 ≤ ageAtFyStart then .ok .seniorCitizen
        else .ok .individual

/-- **The category by birthdays**: the 80th or the 60th is not after the start of the year. -/
def categoryByBirthday (dob fyStart : Date) : TaxCategory :=
  if Date.Reached 80 dob fyStart then .superSeniorCitizen
  else if Date.Reached 60 dob fyStart then .seniorCitizen
  else .individual

/-- **The birthday falls just after 1 April**: by no more days than there were leap years. -/
def BirthdayJustAfter (n : ℕ) (dob fyStart : Date) : Prop :=
  dob.year + n = fyStart.year ∧ dob.month = 4 ∧ 1 < dob.day
    ∧ dob.day ≤ 1 + leapYears fyStart.year n

instance (n : ℕ) (dob fyStart : Date) : Decidable (BirthdayJustAfter n dob fyStart) :=
  inferInstanceAs (Decidable (_ ∧ _))

section

variable {dob fyStart : Date} {n : ℕ}

/-- The first of April some years earlier. -/
theorem exists_firstOfApril (hstart : fyStart.month = 4 ∧ fyStart.day = 1)
    (hn : n < fyStart.year) : ∃ x : Date, x.year + n = fyStart.year ∧ x.month = 4 ∧ x.day = 1
      ∧ fyStart.toordinal = x.toordinal + 365 * n + leapYears fyStart.year n := by
  have hyear := fyStart.valid.2.1
  refine ⟨⟨fyStart.year - n, 4, 1, by omega, by omega, by omega, by omega, by omega,
    le_trans (by omega) (one_le_daysInMonth _ _)⟩, by dsimp only; omega, rfl, rfl, ?_⟩
  exact Date.toordinal_of_sameDay (by dsimp only; omega) hstart.1 hstart.2 (by dsimp only; omega)

/-- **Days against birthdays**, when the leap days do not reach into May. -/
theorem days_iff (hstart : fyStart.month = 4 ∧ fyStart.day = 1) (hn : n < fyStart.year)
    (hleap : leapYears fyStart.year n ≤ 29) :
    dob.toordinal + 365 * n ≤ fyStart.toordinal
      ↔ Date.Reached n dob fyStart ∨ BirthdayJustAfter n dob fyStart := by
  obtain ⟨x, hyear, hmonth, hday, hordinal⟩ := exists_firstOfApril hstart hn
  have hreached : Date.Reached n dob fyStart ↔ dob ≤ x := by
    rw [Date.le_iff_fields, Date.Reached, Date.DayLe]
    omega
  have hbirth := dob.valid
  rw [hreached, Date.le_iff, hordinal]
  constructor
  · intro hdays
    rw [or_iff_not_imp_left, not_le]
    intro hafter
    -- after 1 April and before 1 May
    obtain ⟨may, hmayYear, hmayMonth, hmayDay, hmay⟩ : ∃ may : Date, may.year = x.year
        ∧ may.month = 5 ∧ may.day = 1 ∧ may.toordinal = x.toordinal + 30 := by
      refine ⟨⟨x.year, 5, 1, x.valid.1, x.valid.2.1, by omega, by omega, by omega,
        le_trans (by omega) (one_le_daysInMonth _ _)⟩, rfl, rfl, rfl, ?_⟩
      have hapril : daysBeforeMonth x.year 5 = daysBeforeMonth x.year 4 + 30 :=
        daysBeforeMonth_succ x.year (by omega)
      have hx : x.toordinal = daysBeforeYear x.year + daysBeforeMonth x.year 4 + 1 := by
        rw [Date.toordinal, hmonth, hday]
      show daysBeforeYear x.year + daysBeforeMonth x.year 5 + 1 = x.toordinal + 30
      omega
    have hlow : ¬ dob ≤ x := not_le.mpr hafter
    have hhigh : ¬ may ≤ dob := by
      rw [Date.le_iff]
      omega
    rw [Date.le_iff_fields] at hlow hhigh
    have hdobYear : dob.year = x.year := by omega
    have hdobMonth : dob.month = 4 := by omega
    have hsame : dob.toordinal + 1 = x.toordinal + dob.day := by
      rw [Date.toordinal, Date.toordinal, hdobYear, hdobMonth, hmonth, hday]
      omega
    exact ⟨by omega, hdobMonth, by omega, by omega⟩
  · rintro (hle | ⟨hdobYear, hdobMonth, hlow, hhigh⟩)
    · omega
    · have hsame : dob.toordinal + 1 = x.toordinal + dob.day := by
        rw [Date.toordinal, Date.toordinal, show dob.year = x.year by omega,
          hdobMonth.trans hmonth.symm, hday]
        omega
      omega

/-- **Years of 365 days**: from so many on, the birthday is reached, or just after. -/
theorem age_iff (hstart : fyStart.month = 4 ∧ fyStart.day = 1) (hn : n ≤ 100) :
    (n : ℤ) ≤ ((fyStart.toordinal : ℤ) - dob.toordinal) / 365
      ↔ Date.Reached n dob fyStart ∨ BirthdayJustAfter n dob fyStart := by
  have hdays : (n : ℤ) ≤ ((fyStart.toordinal : ℤ) - dob.toordinal) / 365
      ↔ dob.toordinal + 365 * n ≤ fyStart.toordinal := by omega
  rw [hdays]
  by_cases hyear : n < fyStart.year
  · have hleap := leapYears_le hyear
    exact days_iff hstart hyear (by omega)
  · -- the calendar is too young
    have hbirth := dob.valid.1
    refine iff_of_false ?_ ?_
    · have hordinal : fyStart.toordinal = daysBeforeYear fyStart.year
          + daysBeforeMonth 1 4 + (isLeap fyStart.year).toNat + 1 := by
        rw [Date.toordinal, hstart.1, hstart.2, daysBeforeMonth_eq _ (by omega)]
        omega
      have hmonths : daysBeforeMonth 1 4 = 90 := by decide
      have hleap : (isLeap fyStart.year).toNat ≤ 1 := Bool.toNat_le _
      have hfirst := fyStart.valid.1
      have hday : 1 ≤ dob.toordinal := by
        have := dob.valid.2.2.2.2.1
        unfold Date.toordinal
        omega
      unfold daysBeforeYear at hordinal
      omega
    · rintro (hreached | ⟨hjust, -⟩)
      · unfold Date.Reached at hreached
        omega
      · omega

/-- The birthdays just after differ in their years. -/
theorem not_reached_of_justAfter (hstart : fyStart.month = 4 ∧ fyStart.day = 1)
    (h : BirthdayJustAfter n dob fyStart) : ¬ Date.Reached n dob fyStart := by
  obtain ⟨hyear, hmonth, hday, -⟩ := h
  unfold Date.Reached Date.DayLe
  omega

end

/-- **When the category is that of the birthdays**: neither the 60th nor the 80th falls just
after the start of the year. -/
theorem taxCategoryForFiscalYear_iff (dob : Date) {fiscalYear : String} {startYear : ℤ}
    (hyear : parseInt (fiscalYear.toList.takeWhile (· ≠ '-')) = some startYear) {fyStart : Date}
    (hstart : Date.ofYMD startYear.toNat 4 1 = some fyStart) :
    taxCategoryForFiscalYear (some dob) fiscalYear = .ok (categoryByBirthday dob fyStart)
      ↔ ¬ BirthdayJustAfter 60 dob fyStart ∧ ¬ BirthdayJustAfter 80 dob fyStart := by
  obtain ⟨-, hmonth, hday⟩ := Date.ofYMD_eq_some.mp hstart
  have h60 : (60 : ℤ) ≤ ((fyStart.toordinal : ℤ) - dob.toordinal) / 365
      ↔ Date.Reached 60 dob fyStart ∨ BirthdayJustAfter 60 dob fyStart :=
    age_iff (n := 60) ⟨hmonth, hday⟩ (by omega)
  have h80 : (80 : ℤ) ≤ ((fyStart.toordinal : ℤ) - dob.toordinal) / 365
      ↔ Date.Reached 80 dob fyStart ∨ BirthdayJustAfter 80 dob fyStart :=
    age_iff (n := 80) ⟨hmonth, hday⟩ (by omega)
  have hnot60 : BirthdayJustAfter 60 dob fyStart → ¬ Date.Reached 60 dob fyStart :=
    not_reached_of_justAfter ⟨hmonth, hday⟩
  have hnot80 : BirthdayJustAfter 80 dob fyStart → ¬ Date.Reached 80 dob fyStart :=
    not_reached_of_justAfter ⟨hmonth, hday⟩
  -- who is 80 just after was 60 before
  have hsenior : BirthdayJustAfter 80 dob fyStart → Date.Reached 60 dob fyStart := by
    rintro ⟨hdobYear, -⟩
    exact Or.inl (by omega)
  have hsuper : Date.Reached 80 dob fyStart → Date.Reached 60 dob fyStart := by
    unfold Date.Reached
    omega
  unfold taxCategoryForFiscalYear categoryByBirthday
  rw [hyear]
  dsimp only
  rw [hstart]
  dsimp only
  by_cases hj80 : BirthdayJustAfter 80 dob fyStart
  · rw [if_pos (h80.mpr (Or.inr hj80))]
    simp [hj80, hnot80 hj80, hsenior hj80]
  · rw [if_congr (h80.trans (or_iff_left hj80)) rfl rfl]
    by_cases hj60 : BirthdayJustAfter 60 dob fyStart
    · have hr80 : ¬ Date.Reached 80 dob fyStart := fun h => hnot60 hj60 (hsuper h)
      rw [if_pos (h60.mpr (Or.inr hj60))]
      simp [hj60, hr80, hnot60 hj60]
    · rw [if_congr (h60.trans (or_iff_left hj60)) rfl rfl]
      refine iff_of_true ?_ ⟨hj60, hj80⟩
      split_ifs <;> rfl

/-- Turning 60 on the day the year starts. -/
theorem taxCategoryForFiscalYear_iff_sample :
    taxCategoryForFiscalYear (some ⟨1965, 4, 1, by decide⟩) "2025-2026"
      = .ok (categoryByBirthday ⟨1965, 4, 1, by decide⟩ ⟨2025, 4, 1, by decide⟩) :=
  (taxCategoryForFiscalYear_iff ⟨1965, 4, 1, by decide⟩
    (by decide +kernel : parseInt ("2025-2026".toList.takeWhile (· ≠ '-')) = some 2025)
    rfl).mpr (by decide +kernel)

/-- **Turning 60 two weeks later**: a senior citizen already. -/
theorem category_too_early :
    ¬ ∀ (dob : Date) (fiscalYear : String) (startYear : ℤ) (fyStart : Date),
      parseInt (fiscalYear.toList.takeWhile (· ≠ '-')) = some startYear →
      Date.ofYMD startYear.toNat 4 1 = some fyStart →
      taxCategoryForFiscalYear (some dob) fiscalYear = .ok (categoryByBirthday dob fyStart) := by
  intro h
  have hcategory := h ⟨1965, 4, 16, by decide⟩ "2025-2026" 2025 ⟨2025, 4, 1, by decide⟩
    (by decide +kernel) rfl
  revert hcategory
  decide +kernel

/-! ## The masters -/

abbrev TaxSlabSetId := ℕ

/-- The header of a slab set; that of a system master belongs to no organisation. -/
structure PayrollTaxSlabSetRow where
  id : TaxSlabSetId
  organisation : Option OrganisationId
  name : String
  countryCode : String
  fiscalYear : String
  isActive : Bool
  isSystemMaster : Bool
  isOldRegime : Bool
  taxCategory : TaxCategory
deriving DecidableEq, Repr

/-- A slab of a set. -/
structure PayrollTaxSlabRow extends PayrollTaxSlab where
  id : ℕ
  slabSet : TaxSlabSetId
deriving DecidableEq, Repr

/-- The slab sets and their slabs, in the order they were created. -/
structure TaxMasterTables where
  slabSets : List PayrollTaxSlabSetRow
  slabs : List PayrollTaxSlabRow
  nextId : ℕ
deriving DecidableEq, Repr

namespace TaxMasterTables

variable (t : TaxMasterTables)

/-- `slab_set.slabs`. -/
def slabsOf (id : TaxSlabSetId) : List PayrollTaxSlabRow := t.slabs.filter (fun s => s.slabSet = id)

/-- The slabs of a set as a calculation reads them. -/
def slabSetOf (row : PayrollTaxSlabSetRow) : PayrollTaxSlabSet :=
  .ofCreated ((t.slabsOf row.id).map PayrollTaxSlabRow.toPayrollTaxSlab)

end TaxMasterTables

/-- The category's place in the order of the texts. -/
def TaxCategory.rank : TaxCategory → ℕ
  | .individual => 0
  | .seniorCitizen => 1
  | .superSeniorCitizen => 2

/-- A year and its short form. -/
def fiscalYearLabelAliases (fiscalYear : String) : List String :=
  let normalized := normalizeFiscalYearLabel fiscalYear
  let value := normalized.toList
  if normalized = "" then []
  else if value.length = 9 ∧ (fiscalYears value).isSome then
    [normalized, String.ofList (value.take 5 ++ value.drop 7)]
  else [normalized]

/-- `_fiscal_year_query`. -/
def ofFiscalYear (fiscalYear : String) (row : PayrollTaxSlabSetRow) : Bool :=
  match fiscalYearLabelAliases fiscalYear with
  | [] => row.fiscalYear = normalizeFiscalYearLabel fiscalYear
  | aliases => row.fiscalYear ∈ aliases

/-- The first row of a query in the order of its key. -/
def firstBy {α : Type} (le : α → α → Bool) (rows : List α) : Option α :=
  (rows.insertionSort (fun r r' => le r r' = true)).head?

/-- **The set in force** for a year, regime and category: the master, that of the
organisation, or a master of another category. -/
def getActiveTaxSlabSet (t : TaxMasterTables) (fiscalYear : String)
    (organisation : OrganisationId) (taxRegime : TaxRegime) (taxCategory : TaxCategory) :
    Option PayrollTaxSlabSetRow :=
  let active := t.slabSets.filter (fun r => r.countryCode = "IN" ∧ r.isActive = true
    ∧ r.isOldRegime = (taxRegime == .old) ∧ ofFiscalYear (normalizeFiscalYearLabel fiscalYear) r)
  let masters := active.filter (fun r => r.organisation = none ∧ r.isSystemMaster = true)
  let byYear := fun r r' : PayrollTaxSlabSetRow => decide (r.fiscalYear ≤ r'.fiscalYear)
  (firstBy byYear (masters.filter (fun r => r.taxCategory = taxCategory))).or
    ((firstBy byYear (active.filter (fun r =>
        r.organisation = some organisation ∧ r.taxCategory = taxCategory))).or
      (firstBy (fun r r' => decide (r.taxCategory.rank ≤ r'.taxCategory.rank)) masters))

/-- `DEFAULT_TAX_SLABS`: the new regime of 2024. -/
def defaultTaxSlabs : List PayrollTaxSlab :=
  [{ minIncome := 0, maxIncome := some 300000, ratePercent := 0 },
    { minIncome := 300000, maxIncome := some 700000, ratePercent := 5 },
    { minIncome := 700000, maxIncome := some 1000000, ratePercent := 10 },
    { minIncome := 1000000, maxIncome := some 1200000, ratePercent := 15 },
    { minIncome := 1200000, maxIncome := some 1500000, ratePercent := 20 },
    { minIncome := 1500000, maxIncome := none, ratePercent := 30 }]

/-- The name of a category in a message. -/
def TaxCategory.label : TaxCategory → String
  | .individual => "Individual (age < 60)"
  | .seniorCitizen => "Senior Citizen (age 60–79)"
  | .superSeniorCitizen => "Super Senior Citizen (age ≥ 80)"

/-- **Create a slab set.** A master is refused when there is one of its kind, active or not. -/
def createTaxSlabSet (fiscalYear name countryCode : String) (slabs : List PayrollTaxSlab)
    (organisation : Option OrganisationId) (isActive isOldRegime : Bool)
    (taxCategory : TaxCategory) (t : TaxMasterTables) :
    Except String (PayrollTaxSlabSetRow × TaxMasterTables) :=
  let normalizedFiscalYear := normalizeFiscalYearLabel fiscalYear
  let regimeLabel := if isOldRegime then "Old Regime" else "New Regime"
  let categoryLabel := taxCategory.label
  if slabs = [] then .error "At least one tax slab is required."
  else if organisation = none ∧ t.slabSets.any (fun r => r.organisation = none
      ∧ r.countryCode = countryCode ∧ r.isOldRegime = isOldRegime ∧ r.taxCategory = taxCategory
      ∧ ofFiscalYear normalizedFiscalYear r) then
    .error (s!"A master already exists for {normalizedFiscalYear} {regimeLabel} — {categoryLabel}. "
      ++ "Edit or delete the existing master instead.")
  else if t.slabSets.any (fun r => organisation ≠ none ∧ r.organisation = organisation
      ∧ r.name = name ∧ r.fiscalYear = normalizedFiscalYear) then
    .error "unique_payroll_tax_slab_set_per_org_and_year"
  else
    let row : PayrollTaxSlabSetRow :=
      { id := t.nextId, organisation := organisation, name := name, countryCode := countryCode,
        fiscalYear := normalizedFiscalYear, isActive := isActive,
        isSystemMaster := organisation = none, isOldRegime := isOldRegime,
        taxCategory := taxCategory }
    .ok (row,
      { slabSets := t.slabSets ++ [row]
        slabs := t.slabs ++ slabs.mapIdx (fun k slab =>
          { slab with id := t.nextId + 1 + k, slabSet := t.nextId
                      minIncome := normalizeDecimal slab.minIncome
                      maxIncome := slab.maxIncome.map normalizeDecimal
                      ratePercent := normalizeDecimal slab.ratePercent })
        nextId := t.nextId + 1 + slabs.length })

/-- **The fallback master** of a year: the active one, or a new one. -/
def ensureGlobalDefaultTaxMaster (fiscalYear : String) (t : TaxMasterTables) :
    Except String TaxMasterTables :=
  let targetFiscalYear := normalizeFiscalYearLabel fiscalYear
  if t.slabSets.any (fun r => r.organisation = none ∧ r.isSystemMaster = true ∧ r.isActive = true
      ∧ r.countryCode = "IN" ∧ r.fiscalYear = targetFiscalYear ∧ r.isOldRegime = false
      ∧ r.taxCategory = .individual) then .ok t
  else
    (createTaxSlabSet targetFiscalYear "Default India New Regime (Individual)" "IN"
      defaultTaxSlabs none true false .individual t).map Prod.snd

/-- **The slabs of an employee**: those in force, or those of the fallback master of the new
regime. -/
def activeTaxSlabSet (t : TaxMasterTables) (fiscalYear : String)
    (dateOfBirth : EmployeeId → Option Date) (employee : Employee) (taxRegime : TaxRegime) :
    Except String (Option PayrollTaxSlabSet) := do
  let taxCategory ← taxCategoryForFiscalYear (dateOfBirth employee.id) fiscalYear
  match getActiveTaxSlabSet t fiscalYear employee.organisation taxRegime taxCategory with
  | some row => return some (t.slabSetOf row)
  | none =>
    if taxRegime = .new then
      let t ← ensureGlobalDefaultTaxMaster fiscalYear t
      return (getActiveTaxSlabSet t fiscalYear employee.organisation taxRegime taxCategory).map
        t.slabSetOf
    else return none

/-- The masters once the employee's slabs were looked up. -/
def mastersInUse (t : TaxMasterTables) (fiscalYear : String)
    (dateOfBirth : EmployeeId → Option Date) (employee : Employee) (taxRegime : TaxRegime) :
    TaxMasterTables :=
  match taxCategoryForFiscalYear (dateOfBirth employee.id) fiscalYear with
  | .error _ => t
  | .ok taxCategory =>
    match getActiveTaxSlabSet t fiscalYear employee.organisation taxRegime taxCategory with
    | some _ => t
    | none =>
      if taxRegime = .new then
        match ensureGlobalDefaultTaxMaster fiscalYear t with
        | .error _ => t
        | .ok t => t
      else t

section

variable {t t' : TaxMasterTables} {fiscalYear : String}

/-- A fallback master that was created is there. -/
theorem ensureGlobalDefaultTaxMaster_idem
    (hlabel : normalizeFiscalYearLabel fiscalYear = fiscalYear)
    (h : ensureGlobalDefaultTaxMaster fiscalYear t = .ok t') :
    ensureGlobalDefaultTaxMaster fiscalYear t' = .ok t' := by
  unfold ensureGlobalDefaultTaxMaster at h
  rw [hlabel] at h
  dsimp only at h
  split at h
  · next hany =>
    obtain rfl := Except.ok.inj h
    unfold ensureGlobalDefaultTaxMaster
    rw [hlabel]
    exact if_pos hany
  · unfold createTaxSlabSet at h
    simp only [hlabel] at h
    split_ifs at h <;> cases h
    unfold ensureGlobalDefaultTaxMaster
    rw [hlabel]
    refine if_pos ?_
    rw [List.any_append]
    simp

/-- **A second lookup** finds what the first one found or created. -/
theorem activeTaxSlabSet_mastersInUse (hlabel : normalizeFiscalYearLabel fiscalYear = fiscalYear)
    (t : TaxMasterTables) (dateOfBirth : EmployeeId → Option Date) (employee : Employee)
    (taxRegime : TaxRegime) :
    activeTaxSlabSet (mastersInUse t fiscalYear dateOfBirth employee taxRegime) fiscalYear
        dateOfBirth employee taxRegime
      = activeTaxSlabSet t fiscalYear dateOfBirth employee taxRegime := by
  unfold mastersInUse
  split
  · rfl
  · next taxCategory hcategory =>
    split
    · rfl
    · next hnone =>
      split_ifs with hregime
      · cases hensure : ensureGlobalDefaultTaxMaster fiscalYear t with
        | error message => rfl
        | ok t' =>
          have hagain := ensureGlobalDefaultTaxMaster_idem hlabel hensure
          unfold activeTaxSlabSet
          rw [hcategory]
          show (match getActiveTaxSlabSet t' fiscalYear employee.organisation taxRegime
              taxCategory with | some row => _ | none => _)
            = match getActiveTaxSlabSet t fiscalYear employee.organisation taxRegime
                taxCategory with | some row => _ | none => _
          rw [hnone, if_pos hregime, if_pos hregime, hensure, hagain]
          cases hlookup : getActiveTaxSlabSet t' fiscalYear employee.organisation taxRegime
            taxCategory with
          | some row =>
            show _ = Except.ok (Option.map _ (getActiveTaxSlabSet t' _ _ _ _))
            rw [hlookup]
            rfl
          | none => rfl
      · rfl

/-- A second lookup creates nothing. -/
theorem mastersInUse_idem (hlabel : normalizeFiscalYearLabel fiscalYear = fiscalYear)
    (t : TaxMasterTables) (dateOfBirth : EmployeeId → Option Date) (employee : Employee)
    (taxRegime : TaxRegime) :
    mastersInUse (mastersInUse t fiscalYear dateOfBirth employee taxRegime) fiscalYear
        dateOfBirth employee taxRegime
      = mastersInUse t fiscalYear dateOfBirth employee taxRegime := by
  cases hcategory : taxCategoryForFiscalYear (dateOfBirth employee.id) fiscalYear with
  | error message => simp only [mastersInUse, hcategory]
  | ok taxCategory =>
    simp only [mastersInUse, hcategory]
    cases hlookup : getActiveTaxSlabSet t fiscalYear employee.organisation taxRegime
      taxCategory with
    | some row => simp only [hlookup]
    | none =>
      by_cases hregime : taxRegime = .new
      · simp only [if_pos hregime]
        cases hensure : ensureGlobalDefaultTaxMaster fiscalYear t with
        | error message => simp only [hlookup, hensure]
        | ok t' =>
          have hagain := ensureGlobalDefaultTaxMaster_idem hlabel hensure
          simp only [hagain]
          split <;> rfl
      · simp only [hlookup, if_neg hregime]

end

end Payroll
