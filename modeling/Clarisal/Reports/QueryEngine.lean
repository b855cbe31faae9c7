import Clarisal.AccessControl.Scopes
import Clarisal.Lib.Query
import Clarisal.Lib.Transaction
import Clarisal.Payroll.FiscalYear

/-!
# Report previews

A report template names the fields it shows and the fields it filters by. A field
may require a permission. Columns are checked for it, by a call that passes a
keyword-only argument by position and so always fails: no template with such a
column can be previewed (`gross_pay_column_raises`). Filters are not checked at
all, so they select records by values that the user may not read.

A preview tells nothing of protected values, and serves every template that the
user may read, exactly when the readable templates have no column with a
permission and filters that are accepted, and when the filters and the name column
of a template that runs do not depend on protected values (`noninterference_iff`).
-/

open Transaction

namespace Reports

open Approvals (OrganisationId EmployeeId)
open AccessControl (AccessTables User hasPermission scopeEmployeeQueryset)

/-- A value of a column: no value, a text, or another value, as it prints. -/
inductive Value
  | null
  | text (s : String)
  | other (printed : String)
deriving DecidableEq, Repr

/-- The value in a formatted text. -/
def Value.str : Value → String
  | null => "None"
  | text s => s
  | other printed => printed

structure ReportField where
  code : String
  label : String
  path : String
  dataType : String
  isFilterable : Bool
  permissionCode : String
  isActive : Bool
deriving DecidableEq, Repr

/-- The dataset of a report; the last three are about its model. -/
structure ReportDataset where
  code : String
  fields : List ReportField
  hasOrganisation : Bool
  hasEmployee : Bool
  hasPayRun : Bool
deriving DecidableEq, Repr

variable {φ : Type}

/-- A filter; what it does not say is missing from it. The values are of any type. -/
structure FilterPayload (φ : Type) where
  field : Option String
  operator : Option String
  value : Option φ

structure ReportTemplate (φ : Type) where
  dataset : ReportDataset
  columns : List String
  filters : List (FilterPayload φ)

/-- A record of a dataset: whom it belongs to, and the value under every path. An
employee's own record is of this employee. -/
structure Item where
  organisation : Option OrganisationId
  employee : Option EmployeeId
  employeeOrganisation : Option OrganisationId
  payRunOrganisation : Option OrganisationId
  value : String → Value

inductive ReportError
  /-- `ReportValidationError`. -/
  | validation (message : String)
  | keyError (key : String)
  | typeError (message : String)
  /-- A lookup that the database interface refuses. -/
  | lookup (message : String)
deriving DecidableEq, Repr

/-- **How the database interface resolves a lookup**: a path, the suffix of an operator
and a value, to a test of the value under the path. -/
abbrev Resolve (φ : Type) := String → String → Option φ → Except String (Value → Bool)

/-! ## Fields and filters -/

/-- `FILTER_LOOKUPS`. -/
def filterLookups : List (String × String) :=
  [("eq", ""), ("neq", ""), ("contains", "__icontains"), ("gte", "__gte"), ("lte", "__lte"),
    ("in", "__in"), ("isnull", "__isnull")]

/-- `_field_map`. -/
def ReportDataset.fieldMap (dataset : ReportDataset) : List ReportField :=
  dataset.fields.filter (fun f => f.isActive)

def validateField (fieldMap : List ReportField) (fieldCode : String) :
    Except ReportError ReportField :=
  match Table.find ReportField.code fieldCode fieldMap with
  | none => .error (.validation ("Unknown report field: " ++ fieldCode))
  | some field => .ok field

/-- An entry that a filter must have. -/
def required (key : String) : Option String → Except ReportError String
  | none => .error (.keyError key)
  | some text => .ok text

/-- A condition of the query. -/
structure Q (φ : Type) where
  path : String
  suffix : String
  value : Option φ
  negated : Bool

def filterQ (fieldMap : List ReportField) (payload : FilterPayload φ) :
    Except ReportError (Q φ) := do
  let fieldCode ← required "field" payload.field
  let field ← validateField fieldMap fieldCode
  if field.isFilterable = false then
    .error (.validation ("Field is not filterable: " ++ field.code))
  else
    let operator ← required "operator" payload.operator
    match Dict.get operator filterLookups with
    | none => .error (.validation ("Unsupported filter operator: " ++ operator))
    | some suffix => .ok {
        path := field.path
        suffix := suffix
        value := payload.value
        negated := operator = "neq" }

/-- The test of a record that a condition becomes. -/
def Q.test (resolve : Resolve φ) (q : Q φ) : Except ReportError (Item → Bool) :=
  match resolve q.path q.suffix q.value with
  | .error message => .error (.lookup message)
  | .ok test => .ok (fun i => if q.negated then !test (i.value q.path) else test (i.value q.path))

/-! ## The query -/

/-- `_organisation_filter`. -/
def organisationFilter (dataset : ReportDataset) (organisation : OrganisationId) (i : Item) :
    Bool :=
  if dataset.hasOrganisation then i.organisation = some organisation
  else if dataset.hasEmployee then i.employeeOrganisation = some organisation
  else if dataset.hasPayRun then i.payRunOrganisation = some organisation
  else true

/-- The record is of an employee that the user gets. -/
def scopeFilter (t : AccessTables) (dataset : ReportDataset) (user : User)
    (organisation : OrganisationId) (i : Item) : Bool :=
  if dataset.code = "employees" ∨ dataset.hasEmployee then
    i.employee.any (fun e => e ∈ (scopeEmployeeQueryset t t.employees user organisation none).map
      AccessControl.Employee.id)
  else true

/-- `has_permission(user, field.permission_code, organisation)`: the organisation is
keyword-only, so the call itself fails. -/
def hasFieldPermission : Except ReportError Bool :=
  .error (.typeError "has_permission() takes 2 positional arguments but 3 were given")

def checkColumn (fieldMap : List ReportField) (fieldCode : String) : Except ReportError Unit := do
  let field ← validateField fieldMap fieldCode
  if field.permissionCode = "" then .ok ()
  else
    let held ← hasFieldPermission
    if held then .ok ()
    else .error (.validation ("Missing permission for field: " ++ field.code))

def checkDataset (t : AccessTables) (dataset : ReportDataset) (user : User)
    (organisation : OrganisationId) : Except ReportError Unit :=
  if dataset.code = "payroll_runs"
      ∧ hasPermission t user "org.payroll.read" (some organisation) none = false then
    .error (.validation ("Missing permission for dataset: " ++ dataset.code))
  else .ok ()

def buildReportQueryset (resolve : Resolve φ) (t : AccessTables) (template : ReportTemplate φ)
    (user : User) (organisation : OrganisationId) (items : List Item) :
    Except ReportError (List Item × List ReportField) := do
  let dataset := template.dataset
  let queryset := (items.filter (organisationFilter dataset organisation)).filter
    (scopeFilter t dataset user organisation)
  let fieldMap := dataset.fieldMap
  checkDataset t dataset user organisation
  let _ ← template.columns.mapM (checkColumn fieldMap)
  let combinedQ ← template.filters.mapM (filterQ fieldMap)
  let tests ← combinedQ.mapM (Q.test resolve)
  return (queryset.filter (fun i => tests.all (fun test => test i)), fieldMap)

/-! ## The preview -/

/-- The paths that a name is made of. -/
def namePath (f : ReportField) (column : String) : String :=
  if "employee__".toList.isPrefixOf f.path.toList then "employee__user__" ++ column
  else "user__" ++ column

/-- `_row_value`. -/
def rowValue (i : Item) (f : ReportField) : Value :=
  if f.code = "employee.full_name" then
    let firstName := (i.value (namePath f "first_name")).str
    let lastName := (i.value (namePath f "last_name")).str
    let fullName := Payroll.strip (firstName ++ " " ++ lastName).toList
    if fullName = [] then i.value (namePath f "email") else .text (String.ofList fullName)
  else i.value f.path

/-- A row, by field code. -/
def reportRow (fields : List ReportField) (i : Item) : List (String × Value) :=
  Dict.collect ReportField.code (fun _ f => rowValue i f) fields []

structure ReportColumn where
  code : String
  label : String
  dataType : String
deriving DecidableEq, Repr

structure Preview where
  columns : List ReportColumn
  rows : List (List (String × Value))
  truncated : Bool
deriving DecidableEq, Repr

def previewReport (resolve : Resolve φ) (t : AccessTables) (template : ReportTemplate φ)
    (user : User) (organisation : OrganisationId) (limit : ℕ) (items : List Item) :
    Except ReportError Preview := do
  let (queryset, fieldMap) ← buildReportQueryset resolve t template user organisation items
  let selectedFields ← template.columns.mapM (validateField fieldMap)
  return {
    columns := selectedFields.map (fun f =>
      { code := f.code, label := f.label, dataType := f.dataType })
    rows := (queryset.take limit).map (reportRow selectedFields)
    truncated := limit < queryset.length }

/-! ## Protected values -/

section

variable (t : AccessTables) (user : User) (organisation : OrganisationId)

/-- The user may read the field. -/
def Readable (f : ReportField) : Prop :=
  f.permissionCode = "" ∨ hasPermission t user f.permissionCode (some organisation) none = true

/-- **A protected path**: of fields of the dataset, none of which the user may read. -/
def Protected (dataset : ReportDataset) (path : String) : Prop :=
  (∃ f ∈ dataset.fieldMap, f.path = path)
    ∧ ∀ f ∈ dataset.fieldMap, f.path = path → ¬ Readable t user organisation f

/-- **Two records that differ in protected values alone.** -/
structure SameOutside (dataset : ReportDataset) (i i' : Item) : Prop where
  sameOrganisation : i.organisation = i'.organisation
  sameEmployee : i.employee = i'.employee
  sameEmployeeOrganisation : i.employeeOrganisation = i'.employeeOrganisation
  samePayRunOrganisation : i.payRunOrganisation = i'.payRunOrganisation
  sameValue : ∀ path, ¬ Protected t user organisation dataset path → i.value path = i'.value path

/-- **A template that the user may read**: its columns and filters use known fields that
the user may read, and the filters filterable ones. -/
structure Authorised (template : ReportTemplate φ) : Prop where
  dataset : template.dataset.code = "payroll_runs" →
    hasPermission t user "org.payroll.read" (some organisation) none = true
  columns : ∀ code ∈ template.columns, ∃ f,
    validateField template.dataset.fieldMap code = .ok f ∧ Readable t user organisation f
  filters : ∀ payload ∈ template.filters, ∃ code f, payload.field = some code
    ∧ validateField template.dataset.fieldMap code = .ok f ∧ f.isFilterable = true
    ∧ Readable t user organisation f

/-- **No column has a permission.** -/
def Unguarded (template : ReportTemplate φ) : Prop :=
  ∀ code ∈ template.columns, ∃ f,
    validateField template.dataset.fieldMap code = .ok f ∧ f.permissionCode = ""

/-- **A filter that is accepted**, and the test it becomes. -/
def Accepts (resolve : Resolve φ) (template : ReportTemplate φ) (payload : FilterPayload φ)
    (test : Item → Bool) : Prop :=
  ∃ q, filterQ template.dataset.fieldMap payload = .ok q ∧ q.test resolve = .ok test

/-- **A template whose preview runs.** -/
structure Runs (resolve : Resolve φ) (template : ReportTemplate φ) : Prop where
  dataset : template.dataset.code = "payroll_runs" →
    hasPermission t user "org.payroll.read" (some organisation) none = true
  columns : Unguarded template
  filters : ∀ payload ∈ template.filters, ∃ test, Accepts resolve template payload test

/-- The record passes the filters of the template. -/
def Passes (resolve : Resolve φ) (template : ReportTemplate φ) (i : Item) : Prop :=
  ∀ payload ∈ template.filters, ∀ test, Accepts resolve template payload test → test i = true

/-- **The filters and the name column do not depend on protected values**, in the
records that the user gets. -/
def Blind (resolve : Resolve φ) (template : ReportTemplate φ) (limit : ℕ) : Prop :=
  ∀ i i', SameOutside t user organisation template.dataset i i' →
    organisationFilter template.dataset organisation i = true →
    scopeFilter t template.dataset user organisation i = true →
    (Passes resolve template i ↔ Passes resolve template i')
    ∧ (Passes resolve template i → 0 < limit → ∀ f,
      validateField template.dataset.fieldMap "employee.full_name" = .ok f →
      "employee.full_name" ∈ template.columns → rowValue i f = rowValue i' f)

/-- **The preview tells nothing of protected values**: it is the same of any two tables
of records that differ in these alone. -/
def NonInterfering (resolve : Resolve φ) (template : ReportTemplate φ) (limit : ℕ) : Prop :=
  ∀ items items', List.Forall₂ (SameOutside t user organisation template.dataset) items items' →
    previewReport resolve t template user organisation limit items
      = previewReport resolve t template user organisation limit items'

end

section

variable {t : AccessTables} {user : User} {organisation : OrganisationId} {resolve : Resolve φ}
  {template : ReportTemplate φ} {fieldMap fields : List ReportField} {code : String}
  {f : ReportField} {limit : ℕ}

/-! ## Before a record is read -/

/-- What a preview decides before it reads a record: an error, or the tests of the
filters. -/
def planReport (resolve : Resolve φ) (t : AccessTables) (template : ReportTemplate φ)
    (user : User) (organisation : OrganisationId) : Except ReportError (List (Item → Bool)) := do
  checkDataset t template.dataset user organisation
  let _ ← template.columns.mapM (checkColumn template.dataset.fieldMap)
  let combinedQ ← template.filters.mapM (filterQ template.dataset.fieldMap)
  combinedQ.mapM (Q.test resolve)

/-- The records of a report. -/
def selects (t : AccessTables) (template : ReportTemplate φ) (user : User)
    (organisation : OrganisationId) (tests : List (Item → Bool)) (i : Item) : Bool :=
  organisationFilter template.dataset organisation i
    && (scopeFilter t template.dataset user organisation i && tests.all (fun test => test i))

theorem buildReportQueryset_eq (items : List Item) :
    buildReportQueryset resolve t template user organisation items
      = (planReport resolve t template user organisation).map (fun tests => (items.filter
        (selects t template user organisation tests), template.dataset.fieldMap)) := by
  unfold buildReportQueryset planReport
  dsimp only
  cases checkDataset t template.dataset user organisation with
  | error e => rfl
  | ok _ =>
    cases template.columns.mapM (checkColumn template.dataset.fieldMap) with
    | error e => rfl
    | ok _ =>
      cases template.filters.mapM (filterQ template.dataset.fieldMap) with
      | error e => rfl
      | ok combinedQ =>
        show (combinedQ.mapM (Q.test resolve) >>= _)
          = Except.map _ (combinedQ.mapM (Q.test resolve))
        cases combinedQ.mapM (Q.test resolve) with
        | error e => rfl
        | ok tests =>
          show Except.ok _ = Except.ok _
          rw [List.filter_filter, List.filter_filter]
          refine congrArg (fun rows => Except.ok (rows, _)) (List.filter_congr (fun i _ => ?_))
          unfold selects
          rw [Bool.and_comm, Bool.and_comm (scopeFilter t _ _ _ i)]

theorem validateField_eq_ok (h : validateField fieldMap code = .ok f) :
    f ∈ fieldMap ∧ f.code = code := by
  unfold validateField at h
  split at h
  · cases h
  · next hfound =>
    obtain rfl := Except.ok.inj h
    exact ⟨Table.find_mem hfound, Table.find_key hfound⟩

/-- **A column passes** when it has no permission: the call that checks one fails. -/
theorem checkColumn_eq_ok_iff :
    (∃ u, checkColumn fieldMap code = .ok u)
      ↔ ∃ f, validateField fieldMap code = .ok f ∧ f.permissionCode = "" := by
  constructor
  · rintro ⟨u, h⟩
    obtain ⟨f, hf, h⟩ := bind_eq_ok_iff.mp h
    refine ⟨f, hf, ?_⟩
    by_contra hpermission
    rw [if_neg hpermission] at h
    obtain ⟨held, hheld, -⟩ := bind_eq_ok_iff.mp h
    cases hheld
  · rintro ⟨f, hf, hpermission⟩
    exact ⟨(), bind_eq_ok_iff.mpr ⟨f, hf, if_pos hpermission⟩⟩

theorem checkDataset_eq_ok_iff {dataset : ReportDataset} :
    checkDataset t dataset user organisation = .ok () ↔ (dataset.code = "payroll_runs" →
      hasPermission t user "org.payroll.read" (some organisation) none = true) := by
  unfold checkDataset
  split
  · next h =>
    refine iff_of_false (fun hok => by cases hok) (fun hheld => ?_)
    have := hheld h.1
    rw [h.2] at this
    cases this
  · next h =>
    refine iff_of_true rfl (fun hcode => ?_)
    by_contra hheld
    exact h ⟨hcode, Bool.eq_false_iff.mpr hheld⟩

/-- **A plan is made** for the templates that run. -/
theorem exists_planReport_iff :
    (∃ tests, planReport resolve t template user organisation = .ok tests)
      ↔ Runs t user organisation resolve template := by
  constructor
  · rintro ⟨tests, h⟩
    obtain ⟨⟨⟩, hdataset, h⟩ := bind_eq_ok_iff.mp h
    obtain ⟨us, hcolumns, h⟩ := bind_eq_ok_iff.mp h
    obtain ⟨combinedQ, hfilters, htests⟩ := bind_eq_ok_iff.mp h
    refine ⟨checkDataset_eq_ok_iff.mp hdataset, fun code hcode => ?_, fun payload hpayload => ?_⟩
    · exact checkColumn_eq_ok_iff.mp (exists_mapM_eq_ok_iff.mp ⟨us, hcolumns⟩ code hcode)
    · obtain ⟨q, hq⟩ := exists_mapM_eq_ok_iff.mp ⟨combinedQ, hfilters⟩ payload hpayload
      have hmem : q ∈ combinedQ := (mem_of_mapM hfilters).mpr ⟨payload, hpayload, hq⟩
      obtain ⟨test, htest⟩ := exists_mapM_eq_ok_iff.mp ⟨tests, htests⟩ q hmem
      exact ⟨test, q, hq, htest⟩
  · intro h
    obtain ⟨us, hcolumns⟩ := exists_mapM_eq_ok_iff.mpr
      (fun code hcode => checkColumn_eq_ok_iff.mpr (h.columns code hcode))
    obtain ⟨combinedQ, hfilters⟩ := exists_mapM_eq_ok_iff.mpr (fun payload hpayload => by
      obtain ⟨test, q, hq, -⟩ := h.filters payload hpayload
      exact ⟨q, hq⟩)
    obtain ⟨tests, htests⟩ := exists_mapM_eq_ok_iff.mpr (fun q hq => by
      obtain ⟨payload, hpayload, hfilter⟩ := (mem_of_mapM hfilters).mp hq
      obtain ⟨test, q', hq', htest⟩ := h.filters payload hpayload
      obtain rfl : q' = q := Except.ok.inj (hq'.symm.trans hfilter)
      exact ⟨test, htest⟩)
    exact ⟨tests, bind_eq_ok_iff.mpr ⟨(), checkDataset_eq_ok_iff.mpr h.dataset,
      bind_eq_ok_iff.mpr ⟨us, hcolumns, bind_eq_ok_iff.mpr ⟨combinedQ, hfilters, htests⟩⟩⟩⟩

/-- The tests of a plan are those of the filters. -/
theorem passes_iff {tests : List (Item → Bool)}
    (h : planReport resolve t template user organisation = .ok tests) (i : Item) :
    tests.all (fun test => test i) = true ↔ Passes resolve template i := by
  obtain ⟨⟨⟩, -, h⟩ := bind_eq_ok_iff.mp h
  obtain ⟨us, -, h⟩ := bind_eq_ok_iff.mp h
  obtain ⟨combinedQ, hfilters, htests⟩ := bind_eq_ok_iff.mp h
  rw [List.all_eq_true]
  constructor
  · rintro hall payload hpayload test ⟨q, hq, htest⟩
    exact hall test ((mem_of_mapM htests).mpr
      ⟨q, (mem_of_mapM hfilters).mpr ⟨payload, hpayload, hq⟩, htest⟩)
  · intro hpasses test hmem
    obtain ⟨q, hq, htest⟩ := (mem_of_mapM htests).mp hmem
    obtain ⟨payload, hpayload, hfilter⟩ := (mem_of_mapM hfilters).mp hq
    exact hpasses payload hpayload test ⟨q, hfilter, htest⟩

/-! ## The records of a report -/

/-- **A preview without a plan** is the same error of every table. -/
theorem previewReport_of_error {e : ReportError}
    (h : planReport resolve t template user organisation = .error e) (items : List Item) :
    previewReport resolve t template user organisation limit items = .error e := by
  unfold previewReport
  rw [buildReportQueryset_eq, h]
  rfl

/-- **A preview with a plan** is a page of the records it selects. -/
theorem previewReport_of_plan (limit : ℕ) {tests : List (Item → Bool)}
    (h : planReport resolve t template user organisation = .ok tests) :
    ∃ fields, (∀ f, f ∈ fields ↔ ∃ code ∈ template.columns,
        validateField template.dataset.fieldMap code = .ok f)
      ∧ ∀ items, previewReport resolve t template user organisation limit items = .ok {
        columns := fields.map (fun f =>
          { code := f.code, label := f.label, dataType := f.dataType })
        rows :=
          (page (selects t template user organisation tests) (reportRow fields) limit items).1
        truncated :=
          (page (selects t template user organisation tests) (reportRow fields) limit items).2 } := by
  have hruns : Runs t user organisation resolve template := exists_planReport_iff.mp ⟨tests, h⟩
  obtain ⟨fields, hfields⟩ := exists_mapM_eq_ok_iff.mpr (fun code hcode => by
    obtain ⟨f, hf, -⟩ := hruns.columns code hcode
    exact ⟨f, hf⟩ : ∀ code ∈ template.columns, ∃ f,
      validateField template.dataset.fieldMap code = .ok f)
  refine ⟨fields, fun f => mem_of_mapM hfields, fun items => ?_⟩
  unfold previewReport
  rw [buildReportQueryset_eq, h]
  exact bind_eq_ok_iff.mpr ⟨_, rfl, bind_eq_ok_iff.mpr ⟨fields, hfields, rfl⟩⟩

/-- **Rows are equal when their values are**, where a code has one field. -/
theorem reportRow_eq_iff (hcode : ∀ f ∈ fields, ∀ g ∈ fields, f.code = g.code → f = g)
    (i i' : Item) :
    reportRow fields i = reportRow fields i' ↔ ∀ f ∈ fields, rowValue i f = rowValue i' f := by
  constructor
  · intro h f hf
    have hget : ∀ i, Dict.get f.code (reportRow fields i) = some (rowValue i f) := by
      intro i
      unfold reportRow
      rw [Dict.get_collect, Dict.get_nil]
      have hall : ∀ g ∈ fields.filter (fun g => g.code = f.code), g = f := fun g hg =>
        hcode g (List.mem_of_mem_filter hg) f hf (by simpa using (List.mem_filter.mp hg).2)
      have hmem : f ∈ fields.filter (fun g => g.code = f.code) :=
        List.mem_filter.mpr ⟨hf, decide_eq_true rfl⟩
      obtain ⟨gs, hgs⟩ : ∃ gs, fields.filter (fun g => g.code = f.code) = gs := ⟨_, rfl⟩
      rw [hgs] at hall hmem ⊢
      -- every element sets the same value
      have hfold : ∀ (gs : List ReportField) (a : Option Value), (∀ g ∈ gs, g = f) → gs ≠ [] →
          gs.foldl (fun _ g => some (rowValue i g)) a = some (rowValue i f) := by
        intro gs
        induction gs with
        | nil => exact fun _ _ h => absurd rfl h
        | cons g gs ih =>
          intro a hall _
          rw [List.foldl_cons, hall g List.mem_cons_self]
          cases gs with
          | nil => rfl
          | cons g' gs => exact ih _ (fun x hx => hall x (List.mem_cons_of_mem g hx)) (by simp)
      exact hfold gs none hall (List.ne_nil_of_mem hmem)
    exact Option.some.inj ((hget i).symm.trans ((congrArg (Dict.get f.code) h).trans (hget i')))
  · intro h
    unfold reportRow Dict.collect
    refine List.foldl_ext _ _ _ (fun d f hf => ?_)
    exact congrArg (fun v => Dict.alter f.code (fun _ => v) d) (h f hf)

/-- A column without a permission shows no protected value, unless it is the name. -/
theorem rowValue_eq_of_readable {i i' : Item}
    (hsame : SameOutside t user organisation template.dataset i i')
    (hf : f ∈ template.dataset.fieldMap) (hpermission : f.permissionCode = "")
    (hname : f.code ≠ "employee.full_name") : rowValue i f = rowValue i' f := by
  unfold rowValue
  rw [if_neg hname, if_neg hname]
  exact hsame.sameValue f.path (fun hprotected => hprotected.2 f hf rfl (Or.inl hpermission))

theorem organisationFilter_eq {i i' : Item}
    (h : SameOutside t user organisation template.dataset i i') :
    organisationFilter template.dataset organisation i
      = organisationFilter template.dataset organisation i' := by
  unfold organisationFilter
  rw [h.sameOrganisation, h.sameEmployeeOrganisation, h.samePayRunOrganisation]

theorem scopeFilter_eq {i i' : Item}
    (h : SameOutside t user organisation template.dataset i i') :
    scopeFilter t template.dataset user organisation i
      = scopeFilter t template.dataset user organisation i' := by
  unfold scopeFilter
  rw [h.sameEmployee]

/-- **A template that runs** tells nothing of protected values exactly when its filters
and its name column do not depend on them. -/
theorem nonInterfering_iff_blind (hruns : Runs t user organisation resolve template) :
    NonInterfering t user organisation resolve template limit
      ↔ Blind t user organisation resolve template limit := by
  obtain ⟨tests, htests⟩ := exists_planReport_iff.mpr hruns
  obtain ⟨fields, hfields, hpreview⟩ := previewReport_of_plan limit htests
  have hcode : ∀ f ∈ fields, ∀ g ∈ fields, f.code = g.code → f = g := by
    intro f hf g hg hsame
    obtain ⟨c, -, hf⟩ := (hfields f).mp hf
    obtain ⟨c', -, hg⟩ := (hfields g).mp hg
    rw [(validateField_eq_ok hf).2, (validateField_eq_ok hg).2] at hsame
    exact Except.ok.inj (hf.symm.trans (hsame ▸ hg))
  have hpages : NonInterfering t user organisation resolve template limit ↔
      ∀ items items', List.Forall₂ (SameOutside t user organisation template.dataset) items items' →
        page (selects t template user organisation tests) (reportRow fields) limit items
          = page (selects t template user organisation tests) (reportRow fields) limit items' := by
    refine forall₂_congr (fun items items' => forall_congr' (fun _ => ?_))
    rw [hpreview items, hpreview items', Except.ok.injEq, Preview.mk.injEq]
    exact ⟨fun h => Prod.ext h.2.1 h.2.2, fun h => ⟨rfl, congrArg Prod.fst h, congrArg Prod.snd h⟩⟩
  rw [hpages, page_eq_iff]
  refine forall₂_congr (fun i i' => forall_congr' (fun hsame => ?_))
  have hselects : ∀ j, selects t template user organisation tests j = true ↔
      organisationFilter template.dataset organisation j = true
        ∧ scopeFilter t template.dataset user organisation j = true
        ∧ Passes resolve template j := by
    intro j
    unfold selects
    rw [Bool.and_eq_true, Bool.and_eq_true, passes_iff htests]
  have hrows : reportRow fields i = reportRow fields i' ↔ ∀ f,
      validateField template.dataset.fieldMap "employee.full_name" = .ok f →
      "employee.full_name" ∈ template.columns → rowValue i f = rowValue i' f := by
    rw [reportRow_eq_iff hcode]
    constructor
    · exact fun h f hf hname => h f ((hfields f).mpr ⟨_, hname, hf⟩)
    · intro h f hf
      obtain ⟨c, hc, hf⟩ := (hfields f).mp hf
      obtain ⟨hmem, hfcode⟩ := validateField_eq_ok hf
      by_cases hname : c = "employee.full_name"
      · exact h f (hname ▸ hf) (hname ▸ hc)
      · obtain ⟨f', hf', hpermission⟩ := hruns.columns c hc
        obtain rfl := Except.ok.inj (hf'.symm.trans hf)
        exact rowValue_eq_of_readable hsame hmem hpermission (hfcode ▸ hname)
  rw [Bool.eq_iff_iff, hselects, hselects, hrows, organisationFilter_eq hsame, scopeFilter_eq hsame]
  constructor
  · rintro ⟨hselected, hshown⟩ horganisation hscope
    refine ⟨?_, fun hpasses => hshown ⟨horganisation, hscope, hpasses⟩⟩
    exact ⟨fun h => (hselected.mp ⟨horganisation, hscope, h⟩).2.2,
      fun h => (hselected.mpr ⟨horganisation, hscope, h⟩).2.2⟩
  · intro h
    refine ⟨and_congr_right (fun horganisation => and_congr_right (fun hscope =>
      (h horganisation hscope).1)), ?_⟩
    rintro ⟨horganisation, hscope, hpasses⟩
    exact (h horganisation hscope).2 hpasses

/-- A template that is previewed of some table runs. -/
theorem exists_previewReport_iff (items : List Item) :
    (∃ p, previewReport resolve t template user organisation limit items = .ok p)
      ↔ Runs t user organisation resolve template := by
  rw [← exists_planReport_iff]
  cases hplan : planReport resolve t template user organisation with
  | error e =>
    rw [previewReport_of_error hplan]
    exact iff_of_false (fun ⟨_, h⟩ => by cases h) (fun ⟨_, h⟩ => by cases h)
  | ok tests =>
    obtain ⟨fields, -, hpreview⟩ := previewReport_of_plan limit hplan
    exact iff_of_true ⟨_, hpreview items⟩ ⟨tests, rfl⟩

end

/-- **A preview tells nothing of protected values, and serves whoever may read the
template**, exactly when the template has no column with a permission and its filters
are accepted, if the user may read it, and its filters and name column do not depend
on protected values, if it runs. -/
theorem noninterference_iff (resolve : Resolve φ) (t : AccessTables) (user : User)
    (organisation : OrganisationId) (template : ReportTemplate φ) (limit : ℕ) :
    (NonInterfering t user organisation resolve template limit
        ∧ (Authorised t user organisation template → ∀ items, ∃ p,
          previewReport resolve t template user organisation limit items = .ok p))
      ↔ (Authorised t user organisation template → Unguarded template
          ∧ ∀ payload ∈ template.filters, ∃ test, Accepts resolve template payload test)
        ∧ (Runs t user organisation resolve template →
          Blind t user organisation resolve template limit) := by
  have hserves : (Authorised t user organisation template → ∀ items, ∃ p,
        previewReport resolve t template user organisation limit items = .ok p)
      ↔ (Authorised t user organisation template → Unguarded template
          ∧ ∀ payload ∈ template.filters, ∃ test, Accepts resolve template payload test) := by
    refine forall_congr' (fun hauthorised => ?_)
    constructor
    · intro h
      have hruns := (exists_previewReport_iff []).mp (h [])
      exact ⟨hruns.columns, hruns.filters⟩
    · rintro ⟨hcolumns, hfilters⟩ items
      exact (exists_previewReport_iff items).mpr ⟨hauthorised.dataset, hcolumns, hfilters⟩
  have hblind : NonInterfering t user organisation resolve template limit ↔
      (Runs t user organisation resolve template →
        Blind t user organisation resolve template limit) := by
    by_cases hruns : Runs t user organisation resolve template
    · rw [nonInterfering_iff_blind hruns, imp_iff_right hruns]
    · refine iff_of_true (fun items items' _ => ?_) (fun h => absurd h hruns)
      cases hplan : planReport resolve t template user organisation with
      | error e => rw [previewReport_of_error hplan, previewReport_of_error hplan]
      | ok tests => exact absurd (exists_planReport_iff.mp ⟨tests, hplan⟩) hruns
  rw [hserves, hblind, and_comm]

/-! ## The gross pay column -/

namespace Sample

/-- A user who may read the payroll of organisation 1. -/
def tables : AccessTables where
  employees := []
  assignments :=
    [{ user := 10
       role := { code := "ORG_FINANCE_APPROVER", scope := .organisation, isActive := true,
                 permissionCodes := ["org.payroll.read"] }
       organisation := some 1
       isActive := true
       scopes := [] }]
  memberships := []
  departmentName _ := ""
  officeLocationName _ := ""
  organisationName _ := "Acme"
  fullName _ := ""
  seedPermissions _ := []

def grossPay : ReportField where
  code := "payroll.gross_pay"
  label := "Gross Pay"
  path := "gross_pay"
  dataType := "decimal"
  isFilterable := true
  permissionCode := "org.payroll.read"
  isActive := true

def payrollRuns : ReportDataset where
  code := "payroll_runs"
  fields := [grossPay]
  hasOrganisation := false
  hasEmployee := true
  hasPayRun := true

def payrollRegister : ReportTemplate String where
  dataset := payrollRuns
  columns := ["payroll.gross_pay"]
  filters := []

def reader : User := { id := 10, accountType := .workforce }

/-- The template has no filters, so nothing is looked up. -/
def noLookups : Resolve String := fun _ _ _ => .error "Unsupported lookup"

end Sample

open Sample in
/-- **A column with a permission raises**, for a user who holds it. -/
theorem gross_pay_column_raises :
    ¬ (NonInterfering tables reader 1 noLookups payrollRegister 100
      ∧ (Authorised tables reader 1 payrollRegister → ∀ items, ∃ p,
        previewReport noLookups tables payrollRegister reader 1 100 items = .ok p)) := by
  rintro ⟨-, hserves⟩
  have hheld : hasPermission tables reader "org.payroll.read" (some 1) none = true := by decide
  have hauthorised : Authorised tables reader 1 payrollRegister := by
    refine ⟨fun _ => hheld, fun code hcode => ⟨grossPay, ?_, Or.inr hheld⟩,
      fun _ h => absurd h List.not_mem_nil⟩
    rw [List.mem_singleton.mp hcode]
    rfl
  obtain ⟨p, hp⟩ := hserves hauthorised []
  have hraises : previewReport noLookups tables payrollRegister reader 1 100 []
      = .error (.typeError "has_permission() takes 2 positional arguments but 3 were given") := rfl
  rw [hraises] at hp
  cases hp

end Reports
