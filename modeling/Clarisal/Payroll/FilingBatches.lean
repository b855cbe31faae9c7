import Clarisal.Approvals.Models
import Clarisal.Lib.Run
import Clarisal.Lib.Transaction
import Clarisal.Payroll.FiscalYear

/-!
# Statutory filing batches

Generating a filing stores a batch and supersedes the live batches of its
scope. Superseding compares the fiscal year as it was typed. As long as the
live batches of a year are labelled with one text, each scope has at most one
live batch and it is the one generated last (`oneLive_of_labelsAgree`); two
spellings of a year leave two (`spellings_leave_two`).
-/

open Approvals Transaction

namespace Payroll

abbrev StatutoryFilingBatchId := ℕ

inductive StatutoryFilingType
  | pfEcr | esiMonthly | form24Q | professionalTax | form16
deriving DecidableEq, Repr

inductive StatutoryFilingStatus
  | ready | blocked | generated | superseded | cancelled
deriving DecidableEq, Repr

inductive StatutoryFilingArtifactFormat
  | csv | json | xml | pdf | text
deriving DecidableEq, Repr

inductive TDSQuarter
  | q1 | q2 | q3 | q4
deriving DecidableEq, Repr

def TDSQuarter.value : TDSQuarter → String
  | .q1 => "Q1"
  | .q2 => "Q2"
  | .q3 => "Q3"
  | .q4 => "Q4"

/-- What a batch is for. A field that does not apply is empty. -/
structure FilingScope where
  filingType : StatutoryFilingType
  periodYear : Option ℕ := none
  periodMonth : Option ℕ := none
  fiscalYear : String := ""
  quarter : Option TDSQuarter := none
  artifactFormat : StatutoryFilingArtifactFormat
deriving DecidableEq, Repr

structure StatutoryFilingBatch where
  id : StatutoryFilingBatchId
  organisation : OrganisationId
  scope : FilingScope
  status : StatutoryFilingStatus
  validationErrors : List String
deriving DecidableEq, Repr

structure FilingTables where
  batches : List StatutoryFilingBatch
  nextId : ℕ
deriving DecidableEq, Repr

/-! ## Generating -/

/-- What a request asks for. A filing type that is not one of the known ones is
`none`, and so is a field that is not given. -/
structure FilingRequest where
  filingType : Option StatutoryFilingType
  periodYear : Option ℕ := none
  periodMonth : Option ℕ := none
  fiscalYear : String := ""
  quarter : Option TDSQuarter := none
  artifactFormat : Option StatutoryFilingArtifactFormat := none
deriving DecidableEq, Repr

/-- What the exporter of a filing found: whether the period has finalized runs,
and what it reports. -/
structure FilingExport where
  hasRuns : Bool
  validationErrors : List String
deriving DecidableEq, Repr

/-- A month in two digits. -/
def twoDigits (n : ℕ) : String := if n < 10 then "0" ++ toString n else toString n

/-- A month's filing. Its format is CSV, except that a month without runs keeps
the format that was asked for. -/
def monthlyScope (filingType : StatutoryFilingType) (request : FilingRequest) (hasRuns : Bool) :
    Except String (FilingScope × String) :=
  let month := request.periodMonth.getD 0
  let year := request.periodYear.getD 0
  if year = 0 ∨ month = 0 then
    .error "period_year and period_month are required for monthly filing exports."
  else
    let period := twoDigits month
    .ok ({ filingType := filingType, periodYear := some year, periodMonth := some month,
           artifactFormat := if hasRuns then .csv else request.artifactFormat.getD .csv },
      s!"No finalized payroll runs found for {period}/{year}.")

/-- The scope a request is stored under, and the error of a scope without
runs. -/
def FilingRequest.scope (request : FilingRequest) (hasRuns : Bool) :
    Except String (FilingScope × String) :=
  let fiscalYear := request.fiscalYear
  match request.filingType with
  | some .pfEcr => monthlyScope .pfEcr request hasRuns
  | some .esiMonthly => monthlyScope .esiMonthly request hasRuns
  | some .professionalTax => monthlyScope .professionalTax request hasRuns
  | some .form24Q =>
    match request.quarter with
    | none => .error "fiscal_year and quarter are required for Form 24Q exports."
    | some quarter =>
      if fiscalYear = "" then .error "fiscal_year and quarter are required for Form 24Q exports."
      else
        let name := quarter.value
        .ok ({ filingType := .form24Q, fiscalYear := fiscalYear, quarter := some quarter,
               artifactFormat := .xml },
          s!"No finalized payroll runs found for {name} of {fiscalYear}.")
  | some .form16 =>
    if fiscalYear = "" then .error "fiscal_year is required for Form 16 exports."
    else
      .ok ({ filingType := .form16, fiscalYear := fiscalYear,
             artifactFormat := if request.artifactFormat = some .xml then .xml else .pdf },
        s!"No finalized payroll runs found for fiscal year {fiscalYear}.")
  | none => .error "Unsupported statutory filing type."

/-- Ready, blocked or generated. -/
def StatutoryFilingBatch.Live (b : StatutoryFilingBatch) : Prop :=
  b.status = .ready ∨ b.status = .blocked ∨ b.status = .generated

instance : DecidablePred StatutoryFilingBatch.Live := fun _ =>
  inferInstanceAs (Decidable (_ ∨ _ ∨ _))

/-- **Store a batch and supersede** the live ones of its scope, as
`_filing_scope_filter` selects them. -/
def applyFilingBatchResult (organisation : OrganisationId) (scope : FilingScope)
    (validationErrors : List String) (t : FilingTables) : FilingTables :=
  let batch : StatutoryFilingBatch :=
    { id := t.nextId, organisation := organisation, scope := scope,
      status := if validationErrors = [] then .generated else .blocked,
      validationErrors := validationErrors }
  { batches := Table.update
      (fun b => b.organisation = organisation ∧ b.Live ∧ b.scope = scope ∧ b.id ≠ batch.id)
      (fun b => { b with status := .superseded }) (t.batches ++ [batch])
    nextId := t.nextId + 1 }

/-- **Generate**. `export` is what reading the period and exporting it gives,
or raises. -/
def generateStatutoryFilingBatch (organisation : OrganisationId) (request : FilingRequest)
    (result : Except String FilingExport) (t : FilingTables) : Except String FilingTables := do
  -- a request that lacks a field is refused before anything is read
  let _ ← request.scope true
  let result ← result
  let (scope, noRuns) ← request.scope result.hasRuns
  let validationErrors := result.validationErrors ++ if result.hasRuns then [] else [noRuns]
  return applyFilingBatchResult organisation scope validationErrors t

/-- A batch's own scope, asked for again. -/
def FilingScope.request (scope : FilingScope) : FilingRequest :=
  { filingType := some scope.filingType, periodYear := scope.periodYear,
    periodMonth := scope.periodMonth, fiscalYear := scope.fiscalYear, quarter := scope.quarter,
    artifactFormat := some scope.artifactFormat }

def regenerateStatutoryFilingBatch (batch : StatutoryFilingBatch)
    (result : Except String FilingExport) (t : FilingTables) : Except String FilingTables :=
  generateStatutoryFilingBatch batch.organisation batch.scope.request result t

/-- A cancelled batch is left as it is. -/
def cancelStatutoryFilingBatch (batch : StatutoryFilingBatch) (t : FilingTables) :
    FilingTables :=
  if batch.status = .cancelled then t
  else
    { t with
      batches := Table.save StatutoryFilingBatch.id { batch with status := .cancelled }
        t.batches }

/-! ## The system -/

inductive FilingOp
  | generate (organisation : OrganisationId) (request : FilingRequest)
      (result : Except String FilingExport)
  | regenerate (batch : StatutoryFilingBatchId) (result : Except String FilingExport)
  | cancel (batch : StatutoryFilingBatchId)

/-- The organisation and request a generation is for. -/
def FilingOp.generates (t : FilingTables) :
    FilingOp → Option (OrganisationId × FilingRequest × Except String FilingExport)
  | .generate organisation request result => some (organisation, request, result)
  | .regenerate id result =>
    (Table.find StatutoryFilingBatch.id id t.batches).map
      (fun b => (b.organisation, b.scope.request, result))
  | .cancel _ => none

/-- **One request**: a refused one changes nothing. -/
def filingStep (t : FilingTables) : FilingOp → FilingTables
  | .generate organisation request result =>
    settle t (generateStatutoryFilingBatch organisation request result t)
  | .regenerate id result =>
    match Table.find StatutoryFilingBatch.id id t.batches with
    | none => t
    | some batch => settle t (regenerateStatutoryFilingBatch batch result t)
  | .cancel id =>
    match Table.find StatutoryFilingBatch.id id t.batches with
    | none => t
    | some batch => cancelStatutoryFilingBatch batch t

def FilingTables.initial : FilingTables := ⟨[], 0⟩

/-! ## One live batch -/

/-- The same filing, its fiscal year in its normal form. -/
def FilingScope.Same (a b : FilingScope) : Prop :=
  a.filingType = b.filingType ∧ a.periodYear = b.periodYear ∧ a.periodMonth = b.periodMonth
    ∧ normalizeFiscalYearLabel a.fiscalYear = normalizeFiscalYearLabel b.fiscalYear
    ∧ a.quarter = b.quarter ∧ a.artifactFormat = b.artifactFormat

instance : DecidableRel FilingScope.Same := fun _ _ => inferInstanceAs (Decidable (_ ∧ _))

theorem FilingScope.Same.eq_of_label {a b : FilingScope} (h : a.Same b)
    (hlabel : a.fiscalYear = b.fiscalYear) : a = b := by
  obtain ⟨htype, hyear, hmonth, -, hquarter, hformat⟩ := h
  cases a
  cases b
  simp_all

/-- Two batches of one organisation and filing. -/
def StatutoryFilingBatch.SameScope (b c : StatutoryFilingBatch) : Prop :=
  b.organisation = c.organisation ∧ b.scope.Same c.scope

instance : DecidableRel StatutoryFilingBatch.SameScope := fun _ _ =>
  inferInstanceAs (Decidable (_ ∧ _))

/-- **One live batch a scope**, the one generated last. Batches are numbered as
they are generated. -/
structure OneLive (t : FilingTables) : Prop where
  unique : ∀ b ∈ t.batches, ∀ c ∈ t.batches, b.SameScope c → b.Live → c.Live → b = c
  latest : ∀ b ∈ t.batches, b.Live → ∀ c ∈ t.batches, b.SameScope c → c.id ≤ b.id

instance (t : FilingTables) : Decidable (OneLive t) :=
  decidable_of_iff
    ((∀ b ∈ t.batches, ∀ c ∈ t.batches, b.SameScope c → b.Live → c.Live → b = c)
      ∧ ∀ b ∈ t.batches, b.Live → ∀ c ∈ t.batches, b.SameScope c → c.id ≤ b.id)
    ⟨fun h => ⟨h.1, h.2⟩, fun h => ⟨h.unique, h.latest⟩⟩

/-- **One text a year**: a live batch of the scope that is generated has its
label. -/
def LabelsAgree (t : FilingTables) (op : FilingOp) : Prop :=
  ∀ g ∈ op.generates t, ∀ r ∈ g.2.2.toOption, ∀ s ∈ (g.2.1.scope r.hasRuns).toOption,
    ∀ b ∈ t.batches, b.organisation = g.1 → b.Live → b.scope.Same s.1 →
      b.scope.fiscalYear = s.1.fiscalYear

instance (t : FilingTables) (op : FilingOp) : Decidable (LabelsAgree t op) :=
  inferInstanceAs (Decidable (∀ g ∈ op.generates t, ∀ r ∈ g.2.2.toOption,
    ∀ s ∈ (g.2.1.scope r.hasRuns).toOption, ∀ b ∈ t.batches, _ → _ → _ → _))

/-- **The invariant**: a batch that has a later one of its scope is not live. -/
structure FilingsOrdered (t : FilingTables) : Prop where
  keys : Table.Unique StatutoryFilingBatch.id t.batches
  known : ∀ b ∈ t.batches, b.id < t.nextId
  superseded : ∀ b ∈ t.batches, ∀ c ∈ t.batches, b.id < c.id → b.SameScope c → ¬ b.Live

/-- A batch whose status may have changed, but not to a live one. -/
structure Retired (b b' : StatutoryFilingBatch) : Prop where
  id : b'.id = b.id
  organisation : b'.organisation = b.organisation
  scope : b'.scope = b.scope
  live : b'.Live → b.Live

section

variable {t t' : FilingTables} {b c : StatutoryFilingBatch}

theorem Retired.refl (b : StatutoryFilingBatch) : Retired b b := ⟨rfl, rfl, rfl, fun h => h⟩

theorem not_live_superseded (b : StatutoryFilingBatch) :
    ¬ { b with status := .superseded }.Live := by
  simp [StatutoryFilingBatch.Live]

theorem not_live_cancelled (b : StatutoryFilingBatch) :
    ¬ { b with status := .cancelled }.Live := by
  simp [StatutoryFilingBatch.Live]

theorem StatutoryFilingBatch.SameScope.symm (h : b.SameScope c) : c.SameScope b := by
  obtain ⟨horg, htype, hyear, hmonth, hlabel, hquarter, hformat⟩ := h
  exact ⟨horg.symm, htype.symm, hyear.symm, hmonth.symm, hlabel.symm, hquarter.symm,
    hformat.symm⟩

theorem FilingsOrdered.oneLive (h : FilingsOrdered t) : OneLive t := by
  have hlatest : ∀ b ∈ t.batches, b.Live → ∀ c ∈ t.batches, b.SameScope c → c.id ≤ b.id :=
    fun b hb hlive c hc hscope =>
      not_lt.mp (fun hlt => h.superseded b hb c hc hlt hscope hlive)
  refine ⟨fun b hb c hc hscope hbl hcl => ?_, hlatest⟩
  have hid : b.id = c.id :=
    le_antisymm (hlatest c hc hcl b hb hscope.symm) (hlatest b hb hbl c hc hscope)
  exact h.keys.eq_of_key hb hc hid

/-- Retiring batches keeps what is superseded superseded. -/
theorem superseded_of_retired {batches batches' : List StatutoryFilingBatch}
    (h : ∀ b ∈ batches, ∀ c ∈ batches, b.id < c.id → b.SameScope c → ¬ b.Live)
    (hr : ∀ b' ∈ batches', ∃ b ∈ batches, Retired b b') :
    ∀ b ∈ batches', ∀ c ∈ batches', b.id < c.id → b.SameScope c → ¬ b.Live := by
  intro b' hb' c' hc' hlt hscope hlive
  obtain ⟨b, hb, hbr⟩ := hr b' hb'
  obtain ⟨c, hc, hcr⟩ := hr c' hc'
  refine h b hb c hc ?_ ?_ (hbr.live hlive)
  · rwa [hbr.id, hcr.id] at hlt
  · rwa [StatutoryFilingBatch.SameScope, hbr.organisation, hcr.organisation, hbr.scope,
      hcr.scope] at hscope

theorem FilingsOrdered.cancelStatutoryFilingBatch (h : FilingsOrdered t) (hb : b ∈ t.batches) :
    FilingsOrdered (cancelStatutoryFilingBatch b t) := by
  unfold Payroll.cancelStatutoryFilingBatch
  split
  · exact h
  · have hretired : ∀ b' ∈ Table.save StatutoryFilingBatch.id { b with status := .cancelled }
        t.batches, ∃ c ∈ t.batches, Retired c b' := by
      intro b' hb'
      rcases Table.mem_save hb' with rfl | ⟨hb', -⟩
      · exact ⟨b, hb, rfl, rfl, rfl, fun hlive => absurd hlive (not_live_cancelled b)⟩
      · exact ⟨b', hb', .refl b'⟩
    refine ⟨h.keys.save _, ?_, superseded_of_retired h.superseded hretired⟩
    intro b' hb'
    obtain ⟨c, hc, hcr⟩ := hretired b' hb'
    rw [hcr.id]
    exact h.known c hc

/-- **A batch after another was stored**: an old one, not live any more if it was
selected, or the new one. -/
theorem mem_applyFilingBatchResult {organisation : OrganisationId} {scope : FilingScope}
    {validationErrors : List String} {b' : StatutoryFilingBatch}
    (hb' : b' ∈ (applyFilingBatchResult organisation scope validationErrors t).batches) :
    (∃ b ∈ t.batches, Retired b b' ∧
      (b.organisation = organisation ∧ b.Live ∧ b.scope = scope ∧ b.id ≠ t.nextId → ¬ b'.Live))
    ∨ (b'.id = t.nextId ∧ b'.organisation = organisation ∧ b'.scope = scope) := by
  rcases Table.mem_update_iff.mp hb' with ⟨b, hb, hsel, rfl⟩ | ⟨hb', hsel⟩
  · rcases List.mem_append.mp hb with hb | hb
    · exact Or.inl ⟨b, hb, ⟨rfl, rfl, rfl, fun hl => absurd hl (not_live_superseded b)⟩,
        fun _ => not_live_superseded b⟩
    · -- the new batch is excluded from the ones selected
      rw [List.mem_singleton.mp hb] at hsel
      simp at hsel
  · rcases List.mem_append.mp hb' with hb | hb
    · exact Or.inl ⟨b', hb, .refl b', fun hs => absurd hs (of_decide_eq_false hsel)⟩
    · rw [List.mem_singleton.mp hb]
      exact Or.inr ⟨rfl, rfl, rfl⟩

/-- **A new batch supersedes its scope**, when the live batches of the scope
have its label. -/
theorem FilingsOrdered.applyFilingBatchResult (h : FilingsOrdered t)
    {organisation : OrganisationId} {scope : FilingScope} {validationErrors : List String}
    (hlabels : ∀ b ∈ t.batches, b.organisation = organisation → b.Live → b.scope.Same scope →
      b.scope.fiscalYear = scope.fiscalYear) :
    FilingsOrdered (applyFilingBatchResult organisation scope validationErrors t) := by
  refine ⟨?_, ?_, ?_⟩
  · exact (h.keys.append_one (fun b hb => (h.known b hb).ne)).update (fun _ => rfl)
  · intro b' hb'
    rcases mem_applyFilingBatchResult hb' with ⟨b, hb, hr, -⟩ | ⟨hid, -⟩
    · rw [hr.id]
      exact Nat.lt_succ_of_lt (h.known b hb)
    · rw [hid]
      exact Nat.lt_succ_self _
  · intro b' hb' c' hc' hlt hscope hlive
    rcases mem_applyFilingBatchResult hb' with ⟨b, hb, hbr, hbsel⟩ | ⟨hbid, -⟩
    · rcases mem_applyFilingBatchResult hc' with ⟨c, hc, hcr, -⟩ | ⟨-, horganisation, hnew⟩
      · refine h.superseded b hb c hc ?_ ?_ (hbr.live hlive)
        · rwa [hbr.id, hcr.id] at hlt
        · rwa [StatutoryFilingBatch.SameScope, hbr.organisation, hcr.organisation, hbr.scope,
            hcr.scope] at hscope
      · -- a live batch of the new batch's scope was selected
        rw [StatutoryFilingBatch.SameScope, hbr.organisation, hbr.scope, horganisation, hnew]
          at hscope
        have heq : b.scope = scope :=
          hscope.2.eq_of_label (hlabels b hb hscope.1 (hbr.live hlive) hscope.2)
        exact hbsel ⟨hscope.1, hbr.live hlive, heq, (h.known b hb).ne⟩ hlive
    · rcases mem_applyFilingBatchResult hc' with ⟨c, hc, hcr, -⟩ | ⟨hcid, -⟩
      · rw [hbid, hcr.id] at hlt
        exact absurd hlt (h.known c hc).asymm
      · rw [hbid, hcid] at hlt
        exact absurd hlt (lt_irrefl _)

theorem FilingsOrdered.generate (h : FilingsOrdered t) {organisation : OrganisationId}
    {request : FilingRequest} {result : Except String FilingExport}
    (hlabels : ∀ r ∈ result.toOption, ∀ s ∈ (request.scope r.hasRuns).toOption,
      ∀ b ∈ t.batches, b.organisation = organisation → b.Live → b.scope.Same s.1 →
        b.scope.fiscalYear = s.1.fiscalYear) :
    FilingsOrdered (settle t (generateStatutoryFilingBatch organisation request result t)) := by
  refine settle_induction h (fun t' hok => ?_)
  obtain ⟨_, -, hok⟩ := bind_eq_ok_iff.mp hok
  obtain ⟨r, hr, hok⟩ := bind_eq_ok_iff.mp hok
  obtain ⟨s, hs, hok⟩ := bind_eq_ok_iff.mp hok
  cases hok
  exact h.applyFilingBatchResult (hlabels r (by rw [hr]; rfl) s (by rw [hs]; rfl))

/-- **Every step keeps the invariant**, when labels agree. -/
theorem FilingsOrdered.step (t : FilingTables) (op : FilingOp) (h : FilingsOrdered t)
    (hop : LabelsAgree t op) : FilingsOrdered (filingStep t op) := by
  cases op with
  | generate organisation request result =>
    exact h.generate (hop (organisation, request, result) rfl)
  | regenerate id result =>
    show FilingsOrdered (match Table.find StatutoryFilingBatch.id id t.batches with
      | none => t
      | some batch => settle t (regenerateStatutoryFilingBatch batch result t))
    split
    · exact h
    · next batch hfind =>
      refine h.generate (hop (batch.organisation, batch.scope.request, result) ?_)
      show Option.map _ (Table.find StatutoryFilingBatch.id id t.batches) = _
      rw [hfind]
      rfl
  | cancel id =>
    show FilingsOrdered (match Table.find StatutoryFilingBatch.id id t.batches with
      | none => t
      | some batch => Payroll.cancelStatutoryFilingBatch batch t)
    split
    · exact h
    · next batch hfind => exact h.cancelStatutoryFilingBatch (Table.find_mem hfind)

theorem filingsOrdered_initial : FilingsOrdered .initial :=
  ⟨List.nodup_nil, by simp [FilingTables.initial], by simp [FilingTables.initial]⟩

end

/-- **One live filing a scope**, in every run that labels the live batches of a
year with one text. -/
theorem oneLive_of_labelsAgree (ops : List FilingOp)
    (hops : Run.Along filingStep LabelsAgree .initial ops) :
    OneLive (Run.exec filingStep .initial ops) :=
  (Run.invariant_of_along FilingsOrdered.step filingsOrdered_initial hops).oneLive

namespace Sample

/-- Form 24Q of the first quarter, under a label. -/
def form24Q (fiscalYear : String) : FilingOp :=
  .generate 1 { filingType := some .form24Q, fiscalYear := fiscalYear, quarter := some .q1 }
    (.ok { hasRuns := true, validationErrors := [] })

end Sample

theorem oneLive_of_labelsAgree_sample :
    OneLive (Run.exec filingStep .initial
      [Sample.form24Q "2024-2025", Sample.form24Q "2024-2025", .cancel 1,
        Sample.form24Q "2024-25"]) :=
  oneLive_of_labelsAgree _ (by decide +kernel)

/-- **Two spellings of a year leave two live batches.** -/
theorem spellings_leave_two :
    ¬ OneLive (Run.exec filingStep .initial
      [Sample.form24Q "2024-2025", Sample.form24Q "2024-25"]) := by
  decide +kernel

end Payroll
