import Clarisal.Lib.Untransacted
import Clarisal.Payroll.TaxMasters
import Clarisal.Payroll.Templates

/-!
# Edits that fail

A compensation template and a tax slab set are edited the same way: the header is saved,
the lines or slabs are deleted, and those of the request are created one by one. There is no
transaction around this, so an edit that raises on a line keeps what came before: the new
header, the loss of the old lines, the new lines so far, and the pay components these have
written to.

Nothing is changed only when there was nothing to lose and the first line is refused
(`failedEdits_iff`).
-/

open Approvals

namespace Payroll

/-! ## What a request may say -/

/-- The value of a key with an amount. -/
inductive RawAmount
  | missing | null | malformed
  | decimal (x : ℚ)
deriving DecidableEq, Repr

namespace RawAmount

/-- `_normalize_decimal(payload.get(key))`. -/
def get : RawAmount → Except String (Option ℚ)
  | missing | null => .ok none
  | malformed => .error "InvalidOperation"
  | decimal x => .ok (some (normalizeDecimal x))

/-- `_normalize_decimal(payload[key])`. -/
def item (key : String) : RawAmount → Except String (Option ℚ)
  | missing => .error s!"KeyError: {key}"
  | amount => amount.get

/-- The amount fits a column with the bound. -/
def Fits (bound : ℚ) : RawAmount → Prop
  | decimal x => |normalizeDecimal x| < bound
  | _ => False

/-- The amount fits a column that takes null. -/
def FitsOrNull (bound : ℚ) : RawAmount → Prop
  | missing | null => True
  | malformed => False
  | decimal x => |normalizeDecimal x| < bound

end RawAmount

/-- A column that takes no null. -/
def storeRequired (column : String) (bound : ℚ) : Option ℚ → Except String ℚ
  | none => .error s!"null value in column {column}"
  | some x => if |x| < bound then .ok x else .error "numeric field overflow"

def storeOptional (bound : ℚ) : Option ℚ → Except String (Option ℚ)
  | none => .ok none
  | some x => if |x| < bound then .ok (some x) else .error "numeric field overflow"

/-- **What fits is stored**, under a key that has to be there. -/
theorem RawAmount.fits_iff (key column : String) (amount : RawAmount) (bound : ℚ) :
    amount.Fits bound ↔ ∃ x, (amount.item key >>= storeRequired column bound) = .ok x := by
  cases amount with
  | missing | null | malformed => exact iff_of_false id (fun ⟨_, h⟩ => by cases h)
  | decimal x =>
    show |normalizeDecimal x| < bound
      ↔ ∃ y, (if |normalizeDecimal x| < bound then Except.ok _ else _) = Except.ok y
    split_ifs with h
    · exact iff_of_true h ⟨_, rfl⟩
    · exact iff_of_false h (fun ⟨_, h⟩ => by cases h)

/-- What fits or is null is stored, where null is taken. -/
theorem RawAmount.fitsOrNull_iff (amount : RawAmount) (bound : ℚ) :
    amount.FitsOrNull bound ↔ ∃ x, (amount.get >>= storeOptional bound) = .ok x := by
  cases amount with
  | missing | null => exact iff_of_true trivial ⟨none, rfl⟩
  | malformed => exact iff_of_false id (fun ⟨_, h⟩ => by cases h)
  | decimal x =>
    show |normalizeDecimal x| < bound
      ↔ ∃ y, (if |normalizeDecimal x| < bound then Except.ok _ else _) = Except.ok y
    split_ifs with h
    · exact iff_of_true h ⟨_, rfl⟩
    · exact iff_of_false h (fun ⟨_, h⟩ => by cases h)

/-- A line as it is sent: a key may be missing. -/
structure RawLine where
  componentCode : Option String
  name : Option String
  componentType : Option String
  isTaxable : Option Bool
  costCentreId : Option CostCentreId
  monthlyAmount : RawAmount
deriving DecidableEq, Repr

structure RawSlab where
  minIncome : RawAmount
  maxIncome : RawAmount
  ratePercent : RawAmount
deriving DecidableEq, Repr

/-! ## Templates -/

/-- The pay components, shared by the templates of an organisation. -/
structure ComponentTable where
  components : List PayrollComponent
  nextId : ℕ
  unique : Table.Unique PayrollComponent.id components
  fresh : ∀ p ∈ components, p.id < nextId

structure TemplateStore where
  components : ComponentTable
  templates : List CompensationTemplate
  lines : Rows CompensationTemplateLine
  uniqueTemplate : Table.Unique CompensationTemplate.id templates

/-- `payload['component_code']`, `payload['name']` and `payload['component_type']`. -/
def RawLine.keys (line : RawLine) : Except String (String × String × String) :=
  match line.componentCode, line.name, line.componentType with
  | none, _, _ => .error "KeyError: component_code"
  | _, none, _ => .error "KeyError: name"
  | _, _, none => .error "KeyError: component_type"
  | some code, some name, some componentType => .ok (code, name, componentType)

namespace ComponentTable

def componentOf (c : ComponentTable) (organisation : OrganisationId) (code : String) :
    Option PayrollComponent :=
  c.components.find? (fun p => p.organisation = organisation ∧ p.code = code)

/-- A component that is not there yet. -/
def insertComponent (c : ComponentTable) (organisation : OrganisationId)
    (code name componentType : String) (isTaxable : Bool) : ComponentTable where
  components := c.components ++ [
    { id := c.nextId, organisation := organisation, code := code, name := name,
      componentType := componentType, isTaxable := isTaxable, isSystemDefault := false }]
  nextId := c.nextId + 1
  unique := c.unique.append_one (fun p hp => (c.fresh p hp).ne)
  fresh := by
    intro p hp
    rcases List.mem_append.mp hp with hp | hp
    · exact (c.fresh p hp).trans (Nat.lt_succ_self _)
    · rw [List.mem_singleton.mp hp]
      exact Nat.lt_succ_self _

/-- `component.save()`. -/
def saveComponent (c : ComponentTable) (component : PayrollComponent)
    (hid : component.id < c.nextId) : ComponentTable where
  components := Table.save PayrollComponent.id component c.components
  nextId := c.nextId
  unique := c.unique.save component
  fresh := by
    intro p hp
    rcases Table.mem_save hp with rfl | ⟨hp, -⟩
    · exact hid
    · exact c.fresh p hp

/-- The row a line asks of a component. -/
def expected (component : PayrollComponent) (name componentType : String)
    (isTaxable : Option Bool) : PayrollComponent :=
  { component with
    name := name
    componentType := componentType
    isTaxable := isTaxable.getD component.isTaxable }

/-- **`_get_or_create_component`**: a component is saved when it changes. -/
def getOrCreateComponent (c : ComponentTable) (organisation : OrganisationId)
    (code name componentType : String) (isTaxable : Option Bool) :
    PayrollComponentId × ComponentTable :=
  match hfind : c.componentOf organisation code with
  | none =>
    (c.nextId, c.insertComponent organisation code name componentType (isTaxable.getD true))
  | some component =>
    (component.id,
      if expected component name componentType isTaxable = component then c
      else c.saveComponent (expected component name componentType isTaxable)
        (c.fresh component (List.mem_of_find?_eq_some hfind)))

end ComponentTable

/-- **One line** of a template, with its place in the list. -/
def writeLine (organisation : OrganisationId) (activeCostCentres : List CostCentreId)
    (template : CompensationTemplateId) (entry : RawLine × ℕ) (c : ComponentTable) :
    Except String CompensationTemplateLine × ComponentTable :=
  let (line, index) := entry
  match line.keys with
  | .error message => (.error message, c)
  | .ok (code, name, componentType) =>
    let (component, c) := c.getOrCreateComponent organisation code name componentType line.isTaxable
    if ∃ id ∈ line.costCentreId, id ∉ activeCostCentres then
      (.error "Select an active cost centre from this organisation.", c)
    else
      match line.monthlyAmount.item "monthly_amount"
          >>= storeRequired "monthly_amount" (10 ^ 10) with
      | .error message => (.error message, c)
      | .ok amount =>
        (.ok
          { template := template, component := component, monthlyAmount := amount,
            sequence := index, costCentre := line.costCentreId }, c)

namespace TemplateStore

def nameFree (st : TemplateStore) (template : CompensationTemplate) : Bool :=
  !st.templates.any (fun p => p.organisation = template.organisation ∧ p.name = template.name
    ∧ p.id ≠ template.id)

def saveTemplate (st : TemplateStore) (template : CompensationTemplate) : TemplateStore :=
  { st with
    templates := Table.save CompensationTemplate.id template st.templates
    uniqueTemplate := st.uniqueTemplate.save template }

/-- **`update_compensation_template`**, with what it raises. -/
def updateCompensationTemplate (activeCostCentres : List CostCentreId)
    (template : CompensationTemplate) (name description : Option String)
    (lines : Option (List RawLine)) (st : TemplateStore) : Option String × TemplateStore :=
  let template := template.edited name description
  if st.nameFree template = false then (some "unique_compensation_template_name_per_org", st)
  else
    let st := st.saveTemplate template
    match lines with
    | none => (none, st)
    | some lines =>
      let (error, components, rows) := Rows.replace
        (writeLine template.organisation activeCostCentres template.id)
        (fun l => l.template = template.id) (lines.zipIdx 1) st.components st.lines
      (error, { st with components := components, lines := rows })

end TemplateStore

/-! ## Tax slab sets -/

structure SlabStore where
  slabSets : List PayrollTaxSlabSetRow
  slabs : Rows (TaxSlabSetId × PayrollTaxSlab)
  uniqueSlabSet : Table.Unique PayrollTaxSlabSetRow.id slabSets

/-- **One slab**: the values are read first, and stored together. -/
def RawSlab.store (slab : RawSlab) : Except String PayrollTaxSlab := do
  let minIncome ← slab.minIncome.item "min_income"
  let maxIncome ← slab.maxIncome.get
  let ratePercent ← slab.ratePercent.item "rate_percent"
  let minIncome ← storeRequired "min_income" (10 ^ 10) minIncome
  let maxIncome ← storeOptional (10 ^ 10) maxIncome
  let ratePercent ← storeRequired "rate_percent" 1000 ratePercent
  return { minIncome := minIncome, maxIncome := maxIncome, ratePercent := ratePercent }

/-- A slab is written to its table alone. -/
def writeSlab (slabSet : TaxSlabSetId) (slab : RawSlab) (u : Unit) :
    Except String (TaxSlabSetId × PayrollTaxSlab) × Unit :=
  ((slab.store).map (fun row => (slabSet, row)), u)

/-- What an edit of the header asks for. -/
structure SlabSetEdit where
  name : Option String
  fiscalYear : Option String
  isActive : Option Bool
  isOldRegime : Option Bool
  taxCategory : Option TaxCategory
deriving DecidableEq, Repr

def PayrollTaxSlabSetRow.edited (row : PayrollTaxSlabSetRow) (edit : SlabSetEdit) :
    PayrollTaxSlabSetRow :=
  { row with
    name := edit.name.getD row.name
    fiscalYear := (edit.fiscalYear.map normalizeFiscalYearLabel).getD row.fiscalYear
    isActive := edit.isActive.getD row.isActive
    isOldRegime := edit.isOldRegime.getD row.isOldRegime
    taxCategory := edit.taxCategory.getD row.taxCategory }

/-- Two rows break a constraint of the table: the name of an organisation's set, or the
kind of a master. -/
def PayrollTaxSlabSetRow.clashes (row r : PayrollTaxSlabSetRow) : Bool :=
  r.id ≠ row.id ∧ r.organisation = row.organisation ∧ r.fiscalYear = row.fiscalYear
    ∧ (if row.organisation = none then r.countryCode = row.countryCode
        ∧ r.isOldRegime = row.isOldRegime ∧ r.taxCategory = row.taxCategory
      else r.name = row.name)

/-- **`update_tax_slab_set`**, with what it raises. -/
def SlabStore.updateTaxSlabSet (row : PayrollTaxSlabSetRow) (edit : SlabSetEdit)
    (slabs : Option (List RawSlab)) (st : SlabStore) : Option String × SlabStore :=
  let row := row.edited edit
  if st.slabSets.any row.clashes then (some "duplicate key value", st)
  else
    let st : SlabStore :=
      { st with
        slabSets := Table.save PayrollTaxSlabSetRow.id row st.slabSets
        uniqueSlabSet := st.uniqueSlabSet.save row }
    match slabs with
    | none => (none, st)
    | some slabs =>
      let (error, _, rows) := Rows.replace (writeSlab row.id) (fun s => s.1 = row.id) slabs ()
        st.slabs
      (error, { st with slabs := rows })

/-! ## What a failed edit leaves -/

/-- A key of the component is missing. -/
def RawLine.KeyMissing (line : RawLine) : Prop :=
  line.componentCode = none ∨ line.name = none ∨ line.componentType = none

/-- A line that is refused: a key is missing, the cost centre is unknown, or the amount
does not fit. -/
def RawLine.Refused (activeCostCentres : List CostCentreId) (line : RawLine) : Prop :=
  line.KeyMissing ∨ (∃ id ∈ line.costCentreId, id ∉ activeCostCentres)
    ∨ ¬ line.monthlyAmount.Fits (10 ^ 10)

/-- **The component has what the line says**, or the line names none. -/
def RawLine.LeavesComponents (organisation : OrganisationId) (c : ComponentTable)
    (line : RawLine) : Prop :=
  ∀ code ∈ line.componentCode, ∀ name ∈ line.name, ∀ componentType ∈ line.componentType,
    ∃ component ∈ c.componentOf organisation code, component.name = name
      ∧ component.componentType = componentType ∧ ∀ b ∈ line.isTaxable, component.isTaxable = b

/-- A slab that is refused. -/
def RawSlab.Refused (slab : RawSlab) : Prop :=
  ¬ slab.minIncome.Fits (10 ^ 10) ∨ ¬ slab.maxIncome.FitsOrNull (10 ^ 10)
    ∨ ¬ slab.ratePercent.Fits 1000

/-- Components, templates and lines are as before. -/
structure TemplateStore.Unchanged (st st' : TemplateStore) : Prop where
  components : st'.components.components = st.components.components
  templates : st'.templates = st.templates
  lines : st'.lines.rows = st.lines.rows

/-- Slab sets and slabs are as before. -/
structure SlabStore.Unchanged (st st' : SlabStore) : Prop where
  slabSets : st'.slabSets = st.slabSets
  slabs : st'.slabs.rows = st.slabs.rows

section

variable {organisation : OrganisationId} {activeCostCentres : List CostCentreId}
  {template : CompensationTemplateId} {line : RawLine} {index : ℕ} {c : ComponentTable}

/-- The keys are read, or one of them is missing. -/
theorem keys_cases (line : RawLine) :
    (line.KeyMissing ∧ ∃ message, line.keys = .error message)
      ∨ ∃ code name componentType, line.componentCode = some code ∧ line.name = some name
        ∧ line.componentType = some componentType
        ∧ line.keys = .ok (code, name, componentType) := by
  unfold RawLine.KeyMissing RawLine.keys
  cases line.componentCode <;> cases line.name <;> cases line.componentType <;> simp

/-- **A line is written or refused.** -/
theorem writeLine_error_iff :
    (∃ message, (writeLine organisation activeCostCentres template (line, index) c).1
        = .error message) ↔ line.Refused activeCostCentres := by
  unfold writeLine RawLine.Refused
  dsimp only
  rcases keys_cases line with
    ⟨hmissing, message, hkeys⟩ | ⟨code, name, componentType, hcode, hname, htype, hkeys⟩
  · rw [hkeys]
    exact iff_of_true ⟨_, rfl⟩ (Or.inl hmissing)
  · have hthere : ¬ line.KeyMissing := by
      simp [RawLine.KeyMissing, hcode, hname, htype]
    rw [hkeys, or_iff_right hthere,
      RawAmount.fits_iff "monthly_amount" "monthly_amount" line.monthlyAmount (10 ^ 10)]
    dsimp only
    split_ifs with hcentre
    · exact iff_of_true ⟨_, rfl⟩ (Or.inl hcentre)
    · rw [or_iff_right hcentre]
      split
      · next message hstore =>
        exact iff_of_true ⟨_, rfl⟩ (by simp [hstore])
      · next amount hstore =>
        exact iff_of_false (fun ⟨_, h⟩ => by cases h) (not_not.mpr ⟨amount, hstore⟩)

/-- The components after a line. -/
theorem snd_writeLine {code name componentType : String}
    (hkeys : line.keys = .ok (code, name, componentType)) :
    (writeLine organisation activeCostCentres template (line, index) c).2
      = (c.getOrCreateComponent organisation code name componentType line.isTaxable).2 := by
  unfold writeLine
  dsimp only
  rw [hkeys]
  dsimp only
  split_ifs
  · rfl
  · split <;> rfl

/-- **A component stays** when it has what is said of it. -/
theorem getOrCreateComponent_unchanged_iff {code name componentType : String}
    {isTaxable : Option Bool} :
    (c.getOrCreateComponent organisation code name componentType isTaxable).2.components
        = c.components
      ↔ ∃ component ∈ c.componentOf organisation code, component.name = name
        ∧ component.componentType = componentType
        ∧ ∀ b ∈ isTaxable, component.isTaxable = b := by
  unfold ComponentTable.getOrCreateComponent
  split
  · next hfind =>
    rw [hfind]
    simp [ComponentTable.insertComponent]
  · next component hfind =>
    have hexpected : ComponentTable.expected component name componentType isTaxable = component
        ↔ component.name = name ∧ component.componentType = componentType
          ∧ ∀ b ∈ isTaxable, component.isTaxable = b := by
      unfold ComponentTable.expected
      constructor
      · intro h
        refine ⟨(congrArg PayrollComponent.name h).symm,
          (congrArg PayrollComponent.componentType h).symm, ?_⟩
        rintro b ⟨⟩
        exact (congrArg PayrollComponent.isTaxable h).symm
      · rintro ⟨rfl, rfl, htaxable⟩
        cases isTaxable with
        | none => rfl
        | some b => rw [← htaxable b rfl, Option.getD_some]
    have hkept : (if ComponentTable.expected component name componentType isTaxable = component
        then c else c.saveComponent (ComponentTable.expected component name componentType isTaxable)
          (c.fresh component (List.mem_of_find?_eq_some hfind))).components = c.components
        ↔ ComponentTable.expected component name componentType isTaxable = component := by
      split_ifs with hsame
      · exact iff_of_true rfl hsame
      · exact c.unique.save_eq_iff (List.mem_of_find?_eq_some hfind) rfl
    refine hkept.trans (hexpected.trans ⟨fun hsays => ⟨component, hfind, hsays⟩, ?_⟩)
    rintro ⟨component', hfind', hsays⟩
    obtain rfl := Option.some.inj (hfind.symm.trans hfind')
    exact hsays

/-- **A line leaves the components alone** when it names none, or what it says of one is
so. -/
theorem writeLine_unchanged_iff :
    (writeLine organisation activeCostCentres template (line, index) c).2.components
        = c.components ↔ line.LeavesComponents organisation c := by
  unfold RawLine.LeavesComponents
  rcases keys_cases line with
    ⟨hmissing, message, hkeys⟩ | ⟨code, name, componentType, hcode, hname, htype, hkeys⟩
  · have hrefused : writeLine organisation activeCostCentres template (line, index) c
        = (.error message, c) := by
      unfold writeLine
      dsimp only
      rw [hkeys]
    rw [hrefused]
    refine iff_of_true rfl (fun code hcode name hname componentType htype => ?_)
    unfold RawLine.KeyMissing at hmissing
    rw [Option.mem_def.mp hcode, Option.mem_def.mp hname, Option.mem_def.mp htype] at hmissing
    simp at hmissing
  · rw [snd_writeLine hkeys, getOrCreateComponent_unchanged_iff, hcode, hname, htype]
    simp

/-- A slab is stored when its values fit. -/
theorem store_eq_ok_iff (slab : RawSlab) : (∃ row, slab.store = .ok row)
    ↔ slab.minIncome.Fits (10 ^ 10) ∧ slab.maxIncome.FitsOrNull (10 ^ 10)
      ∧ slab.ratePercent.Fits 1000 := by
  rw [RawAmount.fits_iff "min_income" "min_income", RawAmount.fitsOrNull_iff,
    RawAmount.fits_iff "rate_percent" "rate_percent"]
  simp only [RawSlab.store, Transaction.bind_eq_ok_iff, Transaction.pure_eq_ok_iff]
  constructor
  · rintro ⟨_, v, hv, w, hw, r, hr, x, hx, y, hy, z, hz, -⟩
    exact ⟨⟨x, v, hv, hx⟩, ⟨y, w, hw, hy⟩, z, r, hr, hz⟩
  · rintro ⟨⟨x, v, hv, hx⟩, ⟨y, w, hw, hy⟩, z, r, hr, hz⟩
    exact ⟨_, v, hv, w, hw, r, hr, x, hx, y, hy, z, hz, rfl⟩

/-- **A slab is stored or refused.** -/
theorem writeSlab_error_iff {slabSet : TaxSlabSetId} {slab : RawSlab} :
    (∃ message, (writeSlab slabSet slab ()).1 = .error message) ↔ slab.Refused := by
  have hrefused : slab.Refused ↔ ¬ ∃ row, slab.store = .ok row := by
    rw [store_eq_ok_iff, RawSlab.Refused]
    tauto
  rw [hrefused]
  unfold writeSlab
  cases slab.store with
  | error message => exact iff_of_true ⟨message, rfl⟩ (fun ⟨_, h⟩ => by cases h)
  | ok row => exact iff_of_false (fun ⟨_, h⟩ => by cases h) (not_not.mpr ⟨row, rfl⟩)

/-- **When a failed edit of a template changes nothing.** -/
theorem updateCompensationTemplate_unchanged_iff {st : TemplateStore}
    {row : CompensationTemplate} (hrow : row ∈ st.templates) (name description : Option String)
    (lines : Option (List RawLine)) {message : String}
    (hraises : (st.updateCompensationTemplate activeCostCentres row name description lines).1
      = some message) :
    st.Unchanged (st.updateCompensationTemplate activeCostCentres row name description lines).2
      ↔ st.nameFree (row.edited name description) = false
        ∨ (row.edited name description = row ∧ (∀ l ∈ st.lines.rows, l.2.template ≠ row.id)
          ∧ ∃ line rest, lines = some (line :: rest) ∧ line.Refused activeCostCentres
            ∧ line.LeavesComponents row.organisation st.components) := by
  unfold TemplateStore.updateCompensationTemplate at hraises ⊢
  dsimp only at hraises ⊢
  by_cases hfree : st.nameFree (row.edited name description) = false
  · rw [if_pos hfree]
    exact iff_of_true ⟨rfl, rfl, rfl⟩ (Or.inl hfree)
  rw [if_neg hfree] at hraises ⊢
  rw [or_iff_right hfree]
  cases lines with
  | none => cases hraises
  | some lines =>
    have hreplace := Rows.replace_unchanged_iff ComponentTable.components hraises
    have hsave := Table.Unique.save_eq_iff st.uniqueTemplate hrow
      (b := row.edited name description) rfl
    constructor
    · rintro ⟨hcomponents, htemplates, hlines⟩
      obtain ⟨hnone, entry, after, message', s', hentry, herror, hview⟩ :=
        hreplace.mp ⟨hcomponents, hlines⟩
      cases lines with
      | nil => cases hentry
      | cons line rest =>
        obtain ⟨rfl, -⟩ := List.cons.inj hentry
        have hkept : (writeLine row.organisation activeCostCentres row.id (line, 1)
            st.components).2.components = st.components.components :=
          (congrArg (fun r => r.2.components) herror).trans hview
        exact ⟨hsave.mp htemplates, fun l hl => of_decide_eq_false (hnone l hl), line, rest, rfl,
          writeLine_error_iff.mp ⟨message', congrArg Prod.fst herror⟩,
          writeLine_unchanged_iff.mp hkept⟩
    · rintro ⟨hedited, hnone, line, rest, hlines, hrefused, hleaves⟩
      obtain rfl := Option.some.inj hlines
      obtain ⟨message', herror⟩ := writeLine_error_iff.mpr hrefused
      obtain ⟨hcomponents, hrows⟩ := hreplace.mpr ⟨fun l hl => decide_eq_false (hnone l hl),
        (line, 1), rest.zipIdx 2, message', _, rfl, Prod.ext herror rfl,
        writeLine_unchanged_iff.mpr hleaves⟩
      exact ⟨hcomponents, hsave.mpr hedited, hrows⟩

/-- **When a failed edit of a slab set changes nothing.** -/
theorem updateTaxSlabSet_unchanged_iff {st : SlabStore} {row : PayrollTaxSlabSetRow}
    (hrow : row ∈ st.slabSets) (edit : SlabSetEdit) (slabs : Option (List RawSlab))
    {message : String} (hraises : (st.updateTaxSlabSet row edit slabs).1 = some message) :
    st.Unchanged (st.updateTaxSlabSet row edit slabs).2
      ↔ st.slabSets.any (row.edited edit).clashes = true
        ∨ (row.edited edit = row ∧ (∀ s ∈ st.slabs.rows, s.2.1 ≠ row.id)
          ∧ ∃ slab rest, slabs = some (slab :: rest) ∧ slab.Refused) := by
  unfold SlabStore.updateTaxSlabSet at hraises ⊢
  dsimp only at hraises ⊢
  by_cases hclash : st.slabSets.any (row.edited edit).clashes = true
  · rw [if_pos hclash]
    exact iff_of_true ⟨rfl, rfl⟩ (Or.inl hclash)
  rw [if_neg hclash] at hraises ⊢
  rw [or_iff_right hclash]
  cases slabs with
  | none => cases hraises
  | some slabs =>
    have hreplace := Rows.replace_unchanged_iff id hraises
    have hsave := Table.Unique.save_eq_iff st.uniqueSlabSet hrow (b := row.edited edit) rfl
    constructor
    · rintro ⟨hsets, hslabs⟩
      obtain ⟨hnone, slab, rest, message', s', hslab, herror, -⟩ := hreplace.mp ⟨rfl, hslabs⟩
      exact ⟨hsave.mp hsets, fun s hs => of_decide_eq_false (hnone s hs), slab, rest,
        congrArg some hslab, writeSlab_error_iff.mp ⟨message', congrArg Prod.fst herror⟩⟩
    · rintro ⟨hedited, hnone, slab, rest, hslabs, hrefused⟩
      obtain rfl := Option.some.inj hslabs
      obtain ⟨message', herror⟩ := writeSlab_error_iff.mpr hrefused
      obtain ⟨-, hrows⟩ := hreplace.mpr ⟨fun s hs => decide_eq_false (hnone s hs), slab, rest,
        message', (), rfl, Prod.ext herror rfl, rfl⟩
      exact ⟨hsave.mpr hedited, hrows⟩

end

/-! ## Edits of well-formed lines -/

/-- A line with all its keys. -/
def LinePayload.raw (payload : LinePayload) : RawLine :=
  { componentCode := some payload.componentCode
    name := some payload.name
    componentType := some payload.componentType
    isTaxable := payload.isTaxable
    costCentreId := payload.costCentre
    monthlyAmount := .decimal payload.monthlyAmount }

/-- The tables with the components and lines of a store. -/
def ComponentTable.tables (c : ComponentTable) (templates : List CompensationTemplate)
    (lines : Rows CompensationTemplateLine) : TemplateTables :=
  { components := c.components
    templates := templates
    lines := lines.rows.map Prod.snd
    nextId := c.nextId }

def TemplateStore.tables (st : TemplateStore) : TemplateTables :=
  st.components.tables st.templates st.lines

section

variable {organisation : OrganisationId} {activeCostCentres : List CostCentreId}
  {template : CompensationTemplateId} {templates : List CompensationTemplate}

/-- The component of a line is the one that the edit of a template finds or creates. -/
theorem getOrCreateComponent_tables (c : ComponentTable) (payload : LinePayload)
    (lines : Rows CompensationTemplateLine) :
    Payroll.getOrCreateComponent organisation payload (c.tables templates lines)
      = ((c.getOrCreateComponent organisation payload.componentCode payload.name
          payload.componentType payload.isTaxable).1,
        (c.getOrCreateComponent organisation payload.componentCode payload.name
          payload.componentType payload.isTaxable).2.tables templates lines) := by
  unfold Payroll.getOrCreateComponent ComponentTable.getOrCreateComponent
  have hsame : (c.tables templates lines).componentOf organisation payload.componentCode
      = c.componentOf organisation payload.componentCode := rfl
  rw [hsame]
  split
  · next hnone =>
    split
    · rfl
    · next component hfind =>
      rw [hnone] at hfind
      cases hfind
  · next component hfind =>
    split
    · next hnone =>
      rw [hnone] at hfind
      cases hfind
    · next component' hfind' =>
      obtain rfl := Option.some.inj (hfind.symm.trans hfind')
      dsimp only
      split_ifs with hexpected
      · have hsame : Table.save PayrollComponent.id (ComponentTable.expected component payload.name
            payload.componentType payload.isTaxable) c.components = c.components :=
          (c.unique.save_eq_iff (List.mem_of_find?_eq_some hfind)
            (b := ComponentTable.expected component _ _ _) rfl).mpr hexpected
        show (component.id, ({ c.tables templates lines with
            components := Table.save PayrollComponent.id (ComponentTable.expected component
              payload.name payload.componentType payload.isTaxable) c.components } :
                TemplateTables)) = _
        rw [hsame]
        rfl
      · rfl

/-- A well-formed line is the line of the templates' model. -/
theorem addLine_tables (c : ComponentTable) (payload : LinePayload)
    (hfit : |normalizeDecimal payload.monthlyAmount| < 10 ^ 10) (index : ℕ)
    (lines : Rows CompensationTemplateLine) :
    addLine organisation activeCostCentres template index payload (c.tables templates lines)
      = match writeLine organisation activeCostCentres template (payload.raw, index) c with
        | (.error message, c) => (some message, c.tables templates lines)
        | (.ok line, c) => (none, c.tables templates (lines.insert line)) := by
  have hstore : (payload.raw.monthlyAmount.item "monthly_amount"
      >>= storeRequired "monthly_amount" (10 ^ 10))
        = .ok (normalizeDecimal payload.monthlyAmount) := if_pos hfit
  have hkeys : payload.raw.keys
      = .ok (payload.componentCode, payload.name, payload.componentType) := rfl
  unfold addLine writeLine
  rw [getOrCreateComponent_tables]
  dsimp only
  rw [hkeys, hstore]
  dsimp only
  rw [show payload.raw.costCentreId = payload.costCentre from rfl,
    show payload.raw.isTaxable = payload.isTaxable from rfl]
  by_cases hcentre : ∃ id ∈ payload.costCentre, id ∉ activeCostCentres
  · simp only [if_pos hcentre]
  · simp only [if_neg hcentre]
    unfold ComponentTable.tables Rows.insert
    simp

/-- **Line by line**, a well-formed edit is the one of the templates' model. -/
theorem addLines_tables (payloads : List LinePayload)
    (hfits : ∀ payload ∈ payloads, |normalizeDecimal payload.monthlyAmount| < 10 ^ 10) (index : ℕ)
    (c : ComponentTable) (lines : Rows CompensationTemplateLine) :
    addLines organisation activeCostCentres template index payloads (c.tables templates lines)
      = ((Rows.recreate (writeLine organisation activeCostCentres template)
          ((payloads.map LinePayload.raw).zipIdx index) c lines).1,
        (Rows.recreate (writeLine organisation activeCostCentres template)
          ((payloads.map LinePayload.raw).zipIdx index) c lines).2.1.tables templates
          (Rows.recreate (writeLine organisation activeCostCentres template)
            ((payloads.map LinePayload.raw).zipIdx index) c lines).2.2) := by
  induction payloads generalizing index c lines with
  | nil => rfl
  | cons payload payloads ih =>
    have hline : addLine organisation activeCostCentres template index payload
        (c.tables templates lines) = _ :=
      addLine_tables c payload (hfits payload List.mem_cons_self) index lines
    rw [List.map_cons, List.zipIdx_cons, addLines, hline, Rows.recreate]
    cases hwrite : writeLine organisation activeCostCentres template (payload.raw, index) c with
    | mk result c' =>
      cases result with
      | error message => rfl
      | ok line =>
        exact ih (fun p hp => hfits p (List.mem_cons_of_mem _ hp)) (index + 1) c'
          (lines.insert line)

/-- **A well-formed edit** is the edit of the templates' model. -/
theorem updateCompensationTemplate_tables (st : TemplateStore) (row : CompensationTemplate)
    (name description : Option String) (payloads : Option (List LinePayload))
    (hfits : ∀ ps ∈ payloads, ∀ payload ∈ ps, |normalizeDecimal payload.monthlyAmount| < 10 ^ 10) :
    Payroll.updateCompensationTemplate activeCostCentres row name description payloads st.tables
      = (st.updateCompensationTemplate activeCostCentres row name description
        (payloads.map (List.map LinePayload.raw))).2.tables := by
  unfold Payroll.updateCompensationTemplate TemplateStore.updateCompensationTemplate
  have hfree : st.tables.nameFree (row.edited name description).organisation
      (row.edited name description).name (row.edited name description).id
      = st.nameFree (row.edited name description) := rfl
  dsimp only
  rw [hfree]
  split_ifs with hname
  · rfl
  · cases payloads with
    | none => rfl
    | some payloads =>
      have hdeleted : (st.lines.rows.map Prod.snd).filter (fun l => l.template ≠ row.id)
          = (st.lines.delete (fun l => l.template = row.id)).rows.map Prod.snd := by
        rw [List.filter_map]
        refine congrArg (List.map Prod.snd) (List.filter_congr (fun l _ => ?_))
        show decide (l.2.template ≠ row.id) = !decide (l.2.template = row.id)
        exact decide_not
      have hstart : ({ st.tables.saveTemplate (row.edited name description) with
            lines := (st.lines.rows.map Prod.snd).filter (fun l => l.template ≠ row.id) } :
              TemplateTables)
          = st.components.tables (st.saveTemplate (row.edited name description)).templates
            (st.lines.delete (fun l => l.template = row.id)) := by
        rw [hdeleted]
        rfl
      refine (congrArg (fun t => (addLines _ activeCostCentres _ 1 payloads t).2) hstart).trans ?_
      rw [addLines_tables payloads (hfits payloads rfl) 1]
      rfl

end

/-! ## The edits that change nothing -/

/-- **A failed edit changes nothing** exactly when its header is refused, or is as it was,
there are no lines or slabs to lose, and the first one sent is refused without having
changed a component. -/
theorem failedEdits_iff (st : TemplateStore) (row : CompensationTemplate)
    (activeCostCentres : List CostCentreId) (name description : Option String)
    (lines : Option (List RawLine)) (slabStore : SlabStore) (slabSet : PayrollTaxSlabSetRow)
    (edit : SlabSetEdit) (slabs : Option (List RawSlab)) (message : String) :
    (row ∈ st.templates →
      (st.updateCompensationTemplate activeCostCentres row name description lines).1
        = some message →
      (st.Unchanged (st.updateCompensationTemplate activeCostCentres row name description lines).2
        ↔ st.nameFree (row.edited name description) = false
          ∨ (row.edited name description = row ∧ (∀ l ∈ st.lines.rows, l.2.template ≠ row.id)
            ∧ ∃ line rest, lines = some (line :: rest) ∧ line.Refused activeCostCentres
              ∧ line.LeavesComponents row.organisation st.components)))
    ∧ (slabSet ∈ slabStore.slabSets →
      (slabStore.updateTaxSlabSet slabSet edit slabs).1 = some message →
      (slabStore.Unchanged (slabStore.updateTaxSlabSet slabSet edit slabs).2
        ↔ slabStore.slabSets.any (slabSet.edited edit).clashes = true
          ∨ (slabSet.edited edit = slabSet ∧ (∀ s ∈ slabStore.slabs.rows, s.2.1 ≠ slabSet.id)
            ∧ ∃ slab rest, slabs = some (slab :: rest) ∧ slab.Refused))) :=
  ⟨fun hrow hraises =>
      updateCompensationTemplate_unchanged_iff hrow name description lines hraises,
    fun hrow hraises => updateTaxSlabSet_unchanged_iff hrow edit slabs hraises⟩

namespace Sample

/-- A template, and the pay component of its line. -/
def salaried : CompensationTemplate :=
  { id := 1, organisation := 1, name := "Staff", description := "", status := .draft,
    approvalRun := none }

def basicPayComponent : PayrollComponent :=
  { id := 0, organisation := 1, code := "BASIC", name := "Basic Pay", componentType := "EARNING",
    isTaxable := true, isSystemDefault := true }

/-- The template with some lines. -/
def templateStore (lines : Rows CompensationTemplateLine) : TemplateStore where
  components := { components := [basicPayComponent], nextId := 2, unique := by decide, fresh := by decide }
  templates := [salaried]
  lines := lines
  uniqueTemplate := by decide

def noLines : Rows CompensationTemplateLine := ⟨[], 0, by decide⟩

def storedLine : Rows CompensationTemplateLine :=
  noLines.insert
    { template := 1, component := 0, monthlyAmount := 50000, sequence := 1, costCentre := none }

/-- A line for basic pay whose amount is no number. -/
def malformedLine : RawLine :=
  { componentCode := some "BASIC", name := some "Basic Pay", componentType := some "EARNING",
    isTaxable := none, costCentreId := none, monthlyAmount := .malformed }

def slabSet : PayrollTaxSlabSetRow :=
  { id := 1, organisation := some 1, name := "Own", countryCode := "IN",
    fiscalYear := "2024-2025", isActive := true, isSystemMaster := false, isOldRegime := false,
    taxCategory := .individual }

def slabStore (slabs : Rows (TaxSlabSetId × PayrollTaxSlab)) : SlabStore where
  slabSets := [slabSet]
  slabs := slabs
  uniqueSlabSet := by decide

def noSlabs : Rows (TaxSlabSetId × PayrollTaxSlab) := ⟨[], 0, by decide⟩

def flatSlab : Rows (TaxSlabSetId × PayrollTaxSlab) :=
  noSlabs.insert (1, { minIncome := 0, maxIncome := none, ratePercent := 10 })

/-- A slab without a rate. -/
def withoutRate : RawSlab :=
  { minIncome := .decimal 0, maxIncome := .null, ratePercent := .missing }

def noEdit : SlabSetEdit := ⟨none, none, none, none, none⟩

end Sample

open Sample

/-- A template and a slab set without lines and slabs, and a first line that is refused. -/
theorem failedEdits_iff_sample :
    (templateStore noLines).Unchanged ((templateStore noLines).updateCompensationTemplate []
        salaried none none (some [malformedLine])).2
      ∧ (slabStore noSlabs).Unchanged
        ((slabStore noSlabs).updateTaxSlabSet slabSet noEdit (some [withoutRate])).2 := by
  have hedits := failedEdits_iff (templateStore noLines) salaried [] none none
    (some [malformedLine]) (slabStore noSlabs) slabSet noEdit (some [withoutRate])
  refine ⟨((hedits "InvalidOperation").1 (by decide) rfl).mpr
      (Or.inr ⟨rfl, by decide, _, _, rfl, ?_, ?_⟩),
    ((hedits "KeyError: rate_percent").2 (by decide) (by decide +kernel)).mpr
      (Or.inr ⟨rfl, by decide, _, _, rfl, Or.inr (Or.inr id)⟩)⟩
  · exact Or.inr (Or.inr id)
  · rintro _ ⟨⟩ _ ⟨⟩ _ ⟨⟩
    exact ⟨basicPayComponent, rfl, rfl, rfl, by rintro _ ⟨⟩⟩

/-- **A malformed amount** and **a missing rate**: the stored line and the stored slab are
lost. -/
theorem failed_edits_lose_rows :
    (¬ ∀ (st : TemplateStore) (row : CompensationTemplate) (activeCostCentres : List CostCentreId)
        (name description : Option String) (lines : Option (List RawLine)) (message : String),
      row ∈ st.templates →
      (st.updateCompensationTemplate activeCostCentres row name description lines).1
        = some message →
      st.Unchanged (st.updateCompensationTemplate activeCostCentres row name description lines).2)
    ∧ ¬ ∀ (st : SlabStore) (row : PayrollTaxSlabSetRow) (edit : SlabSetEdit)
        (slabs : Option (List RawSlab)) (message : String),
      row ∈ st.slabSets → (st.updateTaxSlabSet row edit slabs).1 = some message →
      st.Unchanged (st.updateTaxSlabSet row edit slabs).2 := by
  constructor
  · intro h
    have hlines := (h (templateStore storedLine) salaried [] none none (some [malformedLine])
      "InvalidOperation" (by decide) rfl).lines
    cases hlines
  · intro h
    have hslabs := (h (slabStore flatSlab) slabSet noEdit (some [withoutRate])
      "KeyError: rate_percent" (by decide) (by decide +kernel)).slabs
    cases hslabs

end Payroll
