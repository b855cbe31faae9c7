import Clarisal.Approvals.Quorum
import Clarisal.Payroll.Templates

/-!
# An approved template has the lines that were approved

A template under approval, or approved, keeps its lines as long as it is not
edited while it is under approval and no request writes another type or
taxability to a component its lines use. Then every approved template has the
lines it had when its approval was created (`approvedIntact_of_undisturbed`).
An edit during the approval (`edit_during_approval`), or of another template
(`shared_component_changes`), breaks it.
-/

open Approvals

namespace Payroll

open Transaction

/-- Under approval, or approved. -/
def CompensationTemplate.IsSubmitted (p : CompensationTemplate) : Prop :=
  p.status = .pendingApproval ∨ p.status = .approved

instance : DecidablePred CompensationTemplate.IsSubmitted := fun _ =>
  inferInstanceAs (Decidable (_ ∨ _))

/-- **What a line says of its component**, and whose it is. -/
def PayrollComponent.key (c : PayrollComponent) : OrganisationId × String × String × Bool :=
  (c.organisation, c.code, c.componentType, c.isTaxable)

/-- The components of the submitted templates other than one. -/
def TemplateTables.Shielded (t : TemplateTables) (id : CompensationTemplateId)
    (c : PayrollComponentId) : Prop :=
  ∃ p ∈ t.templates, p.IsSubmitted ∧ p.id ≠ id ∧ ∃ l ∈ t.templateLines p.id, l.component = c

instance (t : TemplateTables) (id : CompensationTemplateId) :
    DecidablePred (t.Shielded id) := fun _ =>
  inferInstanceAs (Decidable (∃ p ∈ t.templates, _ ∧ _ ∧ ∃ l ∈ t.templateLines p.id, _))

/-- **No payload writes another type or taxability** to a component of a
submitted template other than one. -/
def KeepsComponents (t : TemplateTables) (organisation : OrganisationId)
    (payloads : List LinePayload) (id : CompensationTemplateId) : Prop :=
  ∀ payload ∈ payloads, ∀ c ∈ t.components, t.Shielded id c.id →
    c.organisation = organisation → c.code = payload.componentCode →
      payload.componentType = c.componentType ∧ payload.isTaxable.getD c.isTaxable = c.isTaxable

instance (t : TemplateTables) (organisation : OrganisationId) (payloads : List LinePayload)
    (id : CompensationTemplateId) : Decidable (KeepsComponents t organisation payloads id) :=
  inferInstanceAs (Decidable (∀ payload ∈ payloads, ∀ c ∈ t.components, _ → _ → _ → _))

/-- **Submitted templates are not disturbed**: lines are not edited under
approval, and no line that is saved changes what a submitted template says. -/
def Undisturbed (st : TemplateState) : TemplateOp → Prop
  | .create organisation _ _ _ payloads =>
    KeepsComponents st.subjects organisation payloads st.subjects.nextId
  | .update _ id _ _ (some payloads) => ∀ p ∈ st.subjects.getTemplate id,
    p.status ≠ .pendingApproval ∧ KeepsComponents st.subjects p.organisation payloads id
  | _ => True

instance (st : TemplateState) : ∀ op : TemplateOp, Decidable (Undisturbed st op)
  | .create organisation _ _ _ payloads => inferInstanceAs (Decidable
      (KeepsComponents st.subjects organisation payloads st.subjects.nextId))
  | .update _ id _ _ (some payloads) => inferInstanceAs (Decidable
      (∀ p ∈ st.subjects.getTemplate id,
        p.status ≠ .pendingApproval ∧ KeepsComponents st.subjects p.organisation payloads id))
  | .update _ _ _ _ none | .submit _ _ | .approveAction .. | .rejectAction ..
  | .processPendingActionEscalations _ _ => instDecidableTrue

/-! ## Saving lines -/

/-- **What saving the lines of a template keeps**: the other templates' lines,
and what the shielded components say. -/
structure KeepsOthers (shielded : PayrollComponentId → Prop) (id : CompensationTemplateId)
    (t t' : TemplateTables) : Prop where
  componentKeys : Table.Unique PayrollComponent.id t'.components
  componentsKnown : ∀ c ∈ t'.components, c.id < t'.nextId
  linesKnown : ∀ l ∈ t'.lines, l.component < t'.nextId
  next : t.nextId ≤ t'.nextId
  lines : ∀ i, i ≠ id → t'.templateLines i = t.templateLines i
  kept : ∀ c, shielded c →
    (t'.getComponent c).map PayrollComponent.key = (t.getComponent c).map PayrollComponent.key

section

variable {shielded : PayrollComponentId → Prop} {id : CompensationTemplateId}
  {t t' : TemplateTables} {organisation : OrganisationId} {payload : LinePayload}
  {payloads : List LinePayload} {activeCostCentres : List CostCentreId} {sequence : ℕ}

theorem view_eq_of_key {l : CompensationTemplateLine} {x y : Option PayrollComponent}
    (h : x.map PayrollComponent.key = y.map PayrollComponent.key) :
    x.map l.view = y.map l.view := by
  cases x with
  | none =>
    cases y with
    | none => rfl
    | some d => cases h
  | some c =>
    cases y with
    | none => cases h
    | some d =>
      have hkey : c.key = d.key := Option.some.inj h
      simp only [PayrollComponent.key, Prod.mk.injEq] at hkey
      obtain ⟨-, hcode, htype, htaxable⟩ := hkey
      simp [CompensationTemplateLine.view, hcode, htype, htaxable]

/-- **The lines of another template say what they said.** -/
theorem KeepsOthers.lineViews (h : KeepsOthers shielded id t t') {i : CompensationTemplateId}
    (hi : i ≠ id) (hshielded : ∀ l ∈ t.templateLines i, shielded l.component) :
    t'.lineViews i = t.lineViews i := by
  rw [TemplateTables.lineViews, TemplateTables.lineViews, h.lines i hi]
  refine List.filterMap_congr (fun l hl => ?_)
  exact view_eq_of_key (h.kept l.component (hshielded l hl))

theorem componentOf_eq_some {c : PayrollComponent} {code : String}
    (h : t.componentOf organisation code = some c) :
    c ∈ t.components ∧ c.organisation = organisation ∧ c.code = code :=
  ⟨List.mem_of_find?_eq_some h, by simpa using List.find?_some h⟩

/-- A new component is none of the shielded ones. -/
theorem KeepsOthers.insertComponent (h : KeepsOthers shielded id t t')
    (hshielded : ∀ c, shielded c → c < t.nextId) (code name componentType : String)
    (isTaxable isSystemDefault : Bool) :
    KeepsOthers shielded id t
      (t'.insertComponent organisation code name componentType isTaxable isSystemDefault) where
  componentKeys := h.componentKeys.append_one (fun c hc => (h.componentsKnown c hc).ne)
  componentsKnown := by
    intro c hc
    rcases List.mem_append.mp hc with hc | hc
    · exact Nat.lt_succ_of_lt (h.componentsKnown c hc)
    · rw [List.mem_singleton.mp hc]
      exact Nat.lt_succ_self _
  linesKnown l hl := Nat.lt_succ_of_lt (h.linesKnown l hl)
  next := Nat.le_succ_of_le h.next
  lines := h.lines
  kept := by
    intro c hc
    rw [← h.kept c hc]
    have hne : t'.nextId ≠ c := fun heq =>
      absurd (hshielded c hc) (not_lt.mpr (heq ▸ h.next))
    exact congrArg (Option.map PayrollComponent.key) (Table.find_append_of_ne hne)

/-- **Taking the component of a line** keeps the shielded ones, when the line
says of them what they say. -/
theorem KeepsOthers.getOrCreateComponent (h : KeepsOthers shielded id t t')
    (hshielded : ∀ c, shielded c → c < t.nextId)
    (hpayload : ∀ c ∈ t.components, shielded c.id → c.organisation = organisation →
      c.code = payload.componentCode →
        payload.componentType = c.componentType
          ∧ payload.isTaxable.getD c.isTaxable = c.isTaxable) :
    KeepsOthers shielded id t (getOrCreateComponent organisation payload t').2
      ∧ (getOrCreateComponent organisation payload t').1
        < (getOrCreateComponent organisation payload t').2.nextId := by
  unfold Payroll.getOrCreateComponent
  split
  · exact ⟨h.insertComponent hshielded _ _ _ _ _, Nat.lt_succ_self _⟩
  · next component hfind =>
    obtain ⟨hmem, horg, hcode⟩ := componentOf_eq_some hfind
    have hget : t'.getComponent component.id = some component :=
      (Table.find_eq_some_iff h.componentKeys).mpr ⟨hmem, rfl⟩
    refine ⟨⟨h.componentKeys.save _, ?_, h.linesKnown, h.next, h.lines, ?_⟩,
      h.componentsKnown component hmem⟩
    · intro c hc
      rcases Table.mem_save hc with rfl | ⟨hc, -⟩
      · exact h.componentsKnown component hmem
      · exact h.componentsKnown c hc
    · intro c hc
      rw [← h.kept c hc]
      by_cases hid : c = component.id
      · subst hid
        -- the component at the start said what it says now
        have hkept := h.kept component.id hc
        rw [hget] at hkept
        obtain ⟨c₀, hc₀, hkey⟩ := Option.map_eq_some_iff.mp hkept.symm
        simp only [PayrollComponent.key, Prod.mk.injEq] at hkey
        obtain ⟨horg₀, hcode₀, htype₀, htaxable₀⟩ := hkey
        have hid₀ : c₀.id = component.id := Table.find_key hc₀
        obtain ⟨htype, htaxable⟩ := hpayload c₀ (Table.find_mem hc₀) (hid₀ ▸ hc)
          (horg₀.trans horg) (hcode₀.trans hcode)
        set edited : PayrollComponent := { component with
          name := payload.name
          componentType := payload.componentType
          isTaxable := payload.isTaxable.getD component.isTaxable } with hedited
        have hsaved : Table.find PayrollComponent.id component.id
            (Table.save PayrollComponent.id edited t'.components) = some edited :=
          Table.find_save_self (a := edited) hget
        rw [hget]
        refine (congrArg (Option.map PayrollComponent.key) hsaved).trans ?_
        rw [htaxable₀] at htaxable
        simp [PayrollComponent.key, hedited, htype, htype₀, htaxable]
      · exact congrArg _ (Table.find_save_of_ne hid)

theorem KeepsOthers.addLine (h : KeepsOthers shielded id t t')
    (activeCostCentres : List CostCentreId) (sequence : ℕ)
    (hshielded : ∀ c, shielded c → c < t.nextId)
    (hpayload : ∀ c ∈ t.components, shielded c.id → c.organisation = organisation →
      c.code = payload.componentCode →
        payload.componentType = c.componentType
          ∧ payload.isTaxable.getD c.isTaxable = c.isTaxable) :
    KeepsOthers shielded id t
      (addLine organisation activeCostCentres id sequence payload t').2 := by
  obtain ⟨hcomponent, hknown⟩ := h.getOrCreateComponent hshielded hpayload
  unfold Payroll.addLine
  dsimp only
  split
  · exact hcomponent
  · refine ⟨hcomponent.componentKeys, hcomponent.componentsKnown, ?_, hcomponent.next, ?_,
      hcomponent.kept⟩
    · intro l hl
      rcases List.mem_append.mp hl with hl | hl
      · exact hcomponent.linesKnown l hl
      · rw [List.mem_singleton.mp hl]
        exact hknown
    · intro i hi
      rw [← hcomponent.lines i hi]
      simp [TemplateTables.templateLines, List.filter_append, hi.symm]

/-- **Saving the lines of a template keeps the others**, up to an error and
beyond. -/
theorem KeepsOthers.addLines (h : KeepsOthers shielded id t t')
    (organisation : OrganisationId) (activeCostCentres : List CostCentreId) (sequence : ℕ)
    (payloads : List LinePayload) (hshielded : ∀ c, shielded c → c < t.nextId)
    (hpayloads : ∀ payload ∈ payloads, ∀ c ∈ t.components, shielded c.id →
      c.organisation = organisation → c.code = payload.componentCode →
        payload.componentType = c.componentType
          ∧ payload.isTaxable.getD c.isTaxable = c.isTaxable) :
    KeepsOthers shielded id t
      (addLines organisation activeCostCentres id sequence payloads t').2 := by
  induction payloads generalizing t' sequence with
  | nil => exact h
  | cons payload payloads ih =>
    have hline := h.addLine activeCostCentres sequence hshielded
      (hpayloads payload List.mem_cons_self)
    unfold Payroll.addLines
    split
    · next heq => rwa [heq] at hline
    · next heq =>
      rw [heq] at hline
      exact ih hline _ (fun p hp => hpayloads p (List.mem_cons_of_mem _ hp))

/-! ## The templates themselves -/

theorem getOrCreateComponent_templates :
    (getOrCreateComponent organisation payload t).2.templates = t.templates := by
  unfold getOrCreateComponent
  split <;> rfl

theorem addLine_templates (organisation : OrganisationId)
    (activeCostCentres : List CostCentreId) (id : CompensationTemplateId) (sequence : ℕ)
    (payload : LinePayload) (t : TemplateTables) :
    (addLine organisation activeCostCentres id sequence payload t).2.templates = t.templates := by
  unfold addLine
  dsimp only
  split <;> exact getOrCreateComponent_templates

theorem addLines_templates (organisation : OrganisationId)
    (activeCostCentres : List CostCentreId) (id : CompensationTemplateId) (sequence : ℕ)
    (payloads : List LinePayload) (t : TemplateTables) :
    (addLines organisation activeCostCentres id sequence payloads t).2.templates
      = t.templates := by
  induction payloads generalizing t sequence with
  | nil => rfl
  | cons payload payloads ih =>
    have hline := addLine_templates organisation activeCostCentres id sequence payload t
    unfold addLines
    split
    · next heq => rwa [heq] at hline
    · next heq =>
      rw [heq] at hline
      exact (ih _ _).trans hline

theorem ensureOrgPayrollSetup_templates (organisation : OrganisationId) (t : TemplateTables) :
    (ensureOrgPayrollSetup organisation t).templates = t.templates := by
  refine List.foldlRecOn (motive := fun t' : TemplateTables => t'.templates = t.templates)
    defaultComponents _ rfl (fun t' ht' d _ => ?_)
  dsimp only
  split
  · exact ht'
  · exact ht'

theorem KeepsOthers.ensureOrgPayrollSetup (h : KeepsOthers shielded id t t)
    (organisation : OrganisationId) (hshielded : ∀ c, shielded c → c < t.nextId) :
    KeepsOthers shielded id t (ensureOrgPayrollSetup organisation t) := by
  refine List.foldlRecOn (motive := fun t' : TemplateTables => KeepsOthers shielded id t t')
    defaultComponents _ h (fun t' ht' d _ => ?_)
  dsimp only
  split
  · exact ht'
  · exact ht'.insertComponent hshielded _ _ _ _ _

end

/-! ## The invariant -/

/-- Keys are unique and known. -/
structure TemplateKeys (t : TemplateTables) : Prop where
  templateKeys : Table.Unique CompensationTemplate.id t.templates
  templatesKnown : ∀ p ∈ t.templates, p.id < t.nextId
  componentKeys : Table.Unique PayrollComponent.id t.components
  componentsKnown : ∀ c ∈ t.components, c.id < t.nextId
  linesKnown : ∀ l ∈ t.lines, l.component < t.nextId

/-- **The invariant**: a pending approval is the one its template points to, and
a submitted template points to an approval of its own. -/
structure TemplateInv (st : TemplateState) : Prop where
  engine : st.db.Inv
  keys : TemplateKeys st.subjects
  runs : ∀ o ∈ st.db.outline, ∃ p ∈ st.subjects.templates, o.subject = templateSubject p.id
  pending : ∀ o ∈ st.db.outline, o.status = .pending → ∀ p ∈ st.subjects.templates,
    o.subject = templateSubject p.id → p.status = .pendingApproval ∧ p.approvalRun = some o.id
  submitted : ∀ p ∈ st.subjects.templates, p.IsSubmitted → ∃ o ∈ st.db.outline,
    p.approvalRun = some o.id ∧ o.subject = templateSubject p.id
      ∧ (p.status = .approved → o.status = .approved)

/-- An approval that was not there before. -/
def RunCreated (r : RunId) (db db' : ApprovalDb) : Prop :=
  (∀ o ∈ db.outline, o.id ≠ r) ∧ ∃ o ∈ db'.outline, o.id = r

instance (r : RunId) (db db' : ApprovalDb) : Decidable (RunCreated r db db') :=
  inferInstanceAs (Decidable (_ ∧ _))

/-- **What a request keeps**: a submitted template was submitted with the lines
it has, or is being submitted. -/
structure TemplatePasses (st st' : TemplateState) : Prop where
  inv : TemplateInv st'
  held : ∀ p' ∈ st'.subjects.templates, p'.IsSubmitted →
    (∃ p ∈ st.subjects.templates, p.id = p'.id ∧ p.IsSubmitted ∧ p.approvalRun = p'.approvalRun
      ∧ st'.subjects.lineViews p'.id = st.subjects.lineViews p'.id)
    ∨ ∃ r, p'.approvalRun = some r ∧ RunCreated r st.db st'.db

/-- **Tables in which no submitted template was disturbed.** -/
structure Spared (t t' : TemplateTables) : Prop where
  keys : TemplateKeys t'
  stay : ∀ p ∈ t.templates, ∃ p' ∈ t'.templates, p'.id = p.id
  rows : ∀ p' ∈ t'.templates,
    (∃ p ∈ t.templates, p'.id = p.id ∧ p'.approvalRun = p.approvalRun
      ∧ (p'.status = p.status ∨ (p.status = .approved ∧ p'.status = .draft)))
    ∨ (t.nextId ≤ p'.id ∧ p'.status = .draft)
  views : ∀ p' ∈ t'.templates, p'.IsSubmitted → t'.lineViews p'.id = t.lineViews p'.id

section

variable {st st' : TemplateState} {t t' : TemplateTables} {organisation : OrganisationId}
  {payloads : List LinePayload} {activeCostCentres : List CostCentreId}
  {p : CompensationTemplate}

theorem not_isSubmitted_draft (h : p.status = .draft) : ¬ p.IsSubmitted := by
  simp [CompensationTemplate.IsSubmitted, h]

theorem templateSubject_injective {i j : CompensationTemplateId}
    (h : templateSubject i = templateSubject j) : i = j :=
  congrArg ContentObject.objectId h

theorem TemplateKeys.keepsOthers (h : TemplateKeys t) (shielded : PayrollComponentId → Prop)
    (id : CompensationTemplateId) : KeepsOthers shielded id t t :=
  ⟨h.componentKeys, h.componentsKnown, h.linesKnown, le_rfl, fun _ _ => rfl, fun _ _ => rfl⟩

theorem TemplateKeys.shielded_known (h : TemplateKeys t) {id : CompensationTemplateId}
    {c : PayrollComponentId} (hc : t.Shielded id c) : c < t.nextId := by
  obtain ⟨p, -, -, -, l, hl, rfl⟩ := hc
  exact h.linesKnown l (List.mem_of_mem_filter hl)

/-- The lines of a submitted template are shielded. -/
theorem shielded_templateLines {id : CompensationTemplateId} (hp : p ∈ t.templates)
    (hsubmitted : p.IsSubmitted) (hne : p.id ≠ id) :
    ∀ l ∈ t.templateLines p.id, t.Shielded id l.component :=
  fun l hl => ⟨p, hp, hsubmitted, hne, l, hl, rfl⟩

/-- **A request about tables alone.** -/
theorem passes_of_spared (h : TemplateInv st) (hspared : Spared st.subjects t') :
    TemplatePasses st { st with subjects := t' } := by
  have hold : ∀ p' ∈ t'.templates, p'.IsSubmitted → ∃ p ∈ st.subjects.templates,
      p'.id = p.id ∧ p'.approvalRun = p.approvalRun ∧ p'.status = p.status := by
    intro p' hp' hsubmitted
    rcases hspared.rows p' hp' with ⟨p, hp, hid, hrun, hstatus | ⟨-, hdraft⟩⟩ | ⟨-, hdraft⟩
    · exact ⟨p, hp, hid, hrun, hstatus⟩
    · exact absurd hsubmitted (not_isSubmitted_draft hdraft)
    · exact absurd hsubmitted (not_isSubmitted_draft hdraft)
  refine ⟨⟨h.engine, hspared.keys, ?_, ?_, ?_⟩, ?_⟩
  · intro o ho
    obtain ⟨p, hp, hsubject⟩ := h.runs o ho
    obtain ⟨p', hp', hid⟩ := hspared.stay p hp
    exact ⟨p', hp', hid ▸ hsubject⟩
  · intro o ho hpending p' hp' hsubject
    rcases hspared.rows p' hp' with ⟨p, hp, hid, hrun, hstatus⟩ | ⟨hnew, -⟩
    · obtain ⟨hp₁, hp₂⟩ := h.pending o ho hpending p hp (hid ▸ hsubject)
      rcases hstatus with hstatus | ⟨happroved, -⟩
      · exact ⟨hstatus.trans hp₁, hrun.trans hp₂⟩
      · rw [happroved] at hp₁
        cases hp₁
    · -- a new template has no approval
      obtain ⟨p, hp, hsubject'⟩ := h.runs o ho
      have hid : p'.id = p.id := templateSubject_injective (hsubject.symm.trans hsubject')
      exact absurd (h.keys.templatesKnown p hp) (not_lt.mpr (hid ▸ hnew))
  · intro p' hp' hsubmitted
    obtain ⟨p, hp, hid, hrun, hstatus⟩ := hold p' hp' hsubmitted
    rw [CompensationTemplate.IsSubmitted, hstatus] at hsubmitted
    obtain ⟨o, ho, hpo, hsubject, happroved⟩ := h.submitted p hp hsubmitted
    exact ⟨o, ho, hrun.trans hpo, hid ▸ hsubject, fun hs => happroved (hstatus ▸ hs)⟩
  · intro p' hp' hsubmitted
    obtain ⟨p, hp, hid, hrun, hstatus⟩ := hold p' hp' hsubmitted
    refine Or.inl ⟨p, hp, hid.symm, ?_, hrun.symm, hspared.views p' hp' hsubmitted⟩
    rwa [CompensationTemplate.IsSubmitted, hstatus] at hsubmitted

/-! ## Creating -/

theorem spared_ensureOrgPayrollSetup (h : TemplateKeys t) (organisation : OrganisationId) :
    Spared t (ensureOrgPayrollSetup organisation t) := by
  have hkeeps := (h.keepsOthers (t.Shielded t.nextId) t.nextId).ensureOrgPayrollSetup
    organisation (fun c hc => h.shielded_known hc)
  have htemplates := ensureOrgPayrollSetup_templates organisation t
  refine ⟨⟨?_, ?_, hkeeps.componentKeys, hkeeps.componentsKnown, hkeeps.linesKnown⟩, ?_, ?_, ?_⟩ <;>
    rw [htemplates]
  · exact h.templateKeys
  · exact fun p hp => (h.templatesKnown p hp).trans_le hkeeps.next
  · exact fun p hp => ⟨p, hp, rfl⟩
  · exact fun p hp => Or.inl ⟨p, hp, rfl, rfl, Or.inl rfl⟩
  · intro p hp hsubmitted
    have hne : p.id ≠ t.nextId := (h.templatesKnown p hp).ne
    exact hkeeps.lineViews hne (shielded_templateLines hp hsubmitted hne)

theorem KeepsOthers.forget {shielded : PayrollComponentId → Prop} {id : CompensationTemplateId}
    (h : KeepsOthers shielded id t t') : KeepsOthers (fun _ => False) id t' t' :=
  ⟨h.componentKeys, h.componentsKnown, h.linesKnown, le_rfl, fun _ _ => rfl, fun _ _ => rfl⟩

/-- What saving lines keeps when it begins with a template of its own. -/
theorem KeepsOthers.insertTemplate {shielded : PayrollComponentId → Prop}
    {id : CompensationTemplateId} (h : KeepsOthers shielded id t t') (p : CompensationTemplate) :
    KeepsOthers shielded id t
      { t' with templates := t'.templates ++ [p], nextId := t'.nextId + 1 } :=
  ⟨h.componentKeys, fun c hc => Nat.lt_succ_of_lt (h.componentsKnown c hc),
    fun l hl => Nat.lt_succ_of_lt (h.linesKnown l hl), Nat.le_succ_of_le h.next, h.lines, h.kept⟩

/-- **The transaction that creates a template**, after the default components were
added, disturbs no submitted one. -/
theorem spared_createTemplateWrites {e : TemplateTables} (h : TemplateKeys t)
    (hkeeps : KeepsOthers (t.Shielded t.nextId) e.nextId t e)
    (htemplates : e.templates = t.templates) {name description : String}
    (hkeep : KeepsComponents t organisation payloads t.nextId)
    (hok : createTemplateWrites organisation activeCostCentres name description payloads e
      = .ok t') : Spared t t' := by
  unfold createTemplateWrites at hok
  split_ifs at hok
  dsimp only at hok
  split at hok
  · cases hok
  · next t₁ heq =>
    obtain rfl := Except.ok.inj hok
    set template : CompensationTemplate :=
      { id := e.nextId, organisation := organisation, name := name, description := description,
        status := .draft, approvalRun := none } with htemplate
    have hinserted := hkeeps.insertTemplate template
    have hlines := hinserted.addLines organisation activeCostCentres 1 payloads
      (fun c hc => h.shielded_known hc) hkeep
    have hnext := (hinserted.forget.addLines organisation activeCostCentres 1 payloads
      (fun _ => False.elim) (fun _ _ _ _ => False.elim)).next
    have hrows := addLines_templates organisation activeCostCentres e.nextId 1 payloads
      { e with templates := e.templates ++ [template], nextId := e.nextId + 1 }
    rw [heq] at hlines hnext hrows
    have hnew : e.nextId < t₁.nextId := hnext
    have hrows : t₁.templates = t.templates ++ [template] :=
      hrows.trans (congrArg (· ++ [template]) htemplates)
    have hknown : ∀ p ∈ t.templates, p.id < e.nextId := fun p hp =>
      (h.templatesKnown p hp).trans_le hkeeps.next
    refine ⟨⟨?_, ?_, hlines.componentKeys, hlines.componentsKnown, hlines.linesKnown⟩, ?_, ?_, ?_⟩
      <;> rw [hrows]
    · exact h.templateKeys.append_one (fun p hp => (hknown p hp).ne)
    · intro p hp
      rcases List.mem_append.mp hp with hp | hp
      · exact (hknown p hp).trans hnew
      · exact List.mem_singleton.mp hp ▸ hnew
    · exact fun p hp => ⟨p, List.mem_append_left _ hp, rfl⟩
    · intro p hp
      rcases List.mem_append.mp hp with hp | hp
      · exact Or.inl ⟨p, hp, rfl, rfl, Or.inl rfl⟩
      · rw [List.mem_singleton.mp hp]
        exact Or.inr ⟨hkeeps.next, rfl⟩
    · intro p hp hsubmitted
      rcases List.mem_append.mp hp with hp | hp
      · exact hlines.lineViews (hknown p hp).ne
          (shielded_templateLines hp hsubmitted (h.templatesKnown p hp).ne)
      · exact absurd hsubmitted (not_isSubmitted_draft (List.mem_singleton.mp hp ▸ rfl))

/-- **Creating a template** disturbs no submitted one. -/
theorem spared_createCompensationTemplate (h : TemplateKeys t) {name description : String}
    (hkeep : KeepsComponents t organisation payloads t.nextId) :
    Spared t (createCompensationTemplate organisation activeCostCentres name description
      payloads t) := by
  have hkeeps : KeepsOthers (t.Shielded t.nextId) (ensureOrgPayrollSetup organisation t).nextId t
      (ensureOrgPayrollSetup organisation t) :=
    (h.keepsOthers (t.Shielded t.nextId) _).ensureOrgPayrollSetup organisation
      (fun c hc => h.shielded_known hc)
  exact settle_induction (spared_ensureOrgPayrollSetup h organisation) (fun t' hok =>
    spared_createTemplateWrites h hkeeps (ensureOrgPayrollSetup_templates organisation t) hkeep hok)

/-! ## Editing -/

theorem saveTemplate_templateKeys (h : TemplateKeys t) (hp : p ∈ t.templates)
    {q : CompensationTemplate} (hid : q.id = p.id) : TemplateKeys (t.saveTemplate q) := by
  refine ⟨h.templateKeys.save q, ?_, h.componentKeys, h.componentsKnown, h.linesKnown⟩
  intro r hr
  rcases Table.mem_save hr with rfl | ⟨hr, -⟩
  · exact hid ▸ h.templatesKnown p hp
  · exact h.templatesKnown r hr

/-- The rows an edit leaves. -/
theorem rows_edited (hp : p ∈ t.templates) (name description : Option String) :
    ∀ p' ∈ (t.saveTemplate (p.edited name description)).templates,
      ∃ q ∈ t.templates, p'.id = q.id ∧ p'.approvalRun = q.approvalRun
        ∧ (p'.status = q.status ∨ (q.status = .approved ∧ p'.status = .draft)) := by
  intro p' hp'
  rcases Table.mem_save hp' with rfl | ⟨hp', -⟩
  · refine ⟨p, hp, rfl, rfl, ?_⟩
    by_cases happroved : p.status = .approved
    · exact Or.inr ⟨happroved, by simp [CompensationTemplate.edited, happroved]⟩
    · exact Or.inl (by simp [CompensationTemplate.edited, happroved])
  · exact ⟨p', hp', rfl, rfl, Or.inl rfl⟩

theorem stay_saveTemplate (q : CompensationTemplate) :
    ∀ r ∈ t.templates, ∃ r' ∈ (t.saveTemplate q).templates, r'.id = r.id := by
  intro r hr
  by_cases hrq : r.id = q.id
  · exact ⟨q, Table.mem_save_self hr hrq, hrq.symm⟩
  · exact ⟨r, Table.mem_save_of_ne hr hrq, rfl⟩

/-- **Editing a template** that is not under approval disturbs no submitted
one. -/
theorem spared_updateCompensationTemplate (h : TemplateKeys t) (hp : p ∈ t.templates)
    {name description : Option String} {payloads : Option (List LinePayload)}
    (hkeep : ∀ l ∈ payloads,
      p.status ≠ .pendingApproval ∧ KeepsComponents t p.organisation l p.id) :
    Spared t (updateCompensationTemplate activeCostCentres p name description payloads t) := by
  have hrefl : Spared t t := ⟨h, fun p hp => ⟨p, hp, rfl⟩,
    fun p hp => Or.inl ⟨p, hp, rfl, rfl, Or.inl rfl⟩, fun _ _ _ => rfl⟩
  set edited := p.edited name description with hedited
  have hkeys : TemplateKeys (t.saveTemplate edited) := saveTemplate_templateKeys h hp rfl
  have hstay := stay_saveTemplate (t := t) edited
  have hrows := rows_edited hp name description
  unfold updateCompensationTemplate
  dsimp only
  split
  · exact hrefl
  · cases payloads with
    | none => exact ⟨hkeys, hstay, fun p' hp' => Or.inl (hrows p' hp'), fun _ _ _ => rfl⟩
    | some payloads =>
      obtain ⟨hpending, hkeep⟩ := hkeep payloads rfl
      set cleared : TemplateTables := { t.saveTemplate edited with
        lines := (t.saveTemplate edited).lines.filter (fun l => l.template ≠ edited.id) }
        with hcleared
      have hstart : KeepsOthers (t.Shielded p.id) p.id t cleared := by
        refine ⟨h.componentKeys, h.componentsKnown,
          fun l hl => h.linesKnown l (List.mem_of_mem_filter hl), le_rfl, fun i hi => ?_,
          fun _ _ => rfl⟩
        have hi : i ≠ edited.id := hi
        simp only [TemplateTables.templateLines, hcleared, List.filter_filter]
        refine List.filter_congr (fun l _ => ?_)
        by_cases hl : l.template = i <;> simp [hl, hi]
      have hlines := hstart.addLines p.organisation activeCostCentres 1 payloads
        (fun c hc => h.shielded_known hc) hkeep
      have htemplates := addLines_templates p.organisation activeCostCentres p.id 1 payloads
        cleared
      refine ⟨⟨?_, ?_, hlines.componentKeys, hlines.componentsKnown, hlines.linesKnown⟩, ?_, ?_, ?_⟩
      · exact htemplates ▸ hkeys.templateKeys
      · exact fun q hq => (hkeys.templatesKnown q (htemplates ▸ hq)).trans_le hlines.next
      · exact htemplates ▸ hstay
      · exact fun p' hp' => Or.inl (hrows p' (htemplates ▸ hp'))
      · intro p' hp' hsubmitted
        rcases Table.mem_save (htemplates ▸ hp') with rfl | ⟨hp', hne⟩
        · -- the edited row is neither under approval nor approved
          rcases hsubmitted with hs | hs <;>
          · simp only [hedited, CompensationTemplate.edited] at hs
            split_ifs at hs
            all_goals simp_all
        · exact hlines.lineViews hne (shielded_templateLines hp' hsubmitted hne)

/-! ## Approving -/

theorem passes_refl (h : TemplateInv st) : TemplatePasses st st :=
  ⟨h, fun p hp hsubmitted => Or.inl ⟨p, hp, rfl, hsubmitted, rfl, rfl⟩⟩

/-- Deciding a pending run leaves the approvals of the submitted templates. -/
theorem submitted_setOutline (h : TemplateInv st) {run : RunOutline} (hrun : run ∈ st.db.outline)
    (hpending : run.status = .pending) (status : ApprovalRunStatus)
    (hp : p ∈ st.subjects.templates) (hsubmitted : p.IsSubmitted) :
    ∃ o ∈ setOutline run.id status st.db.outline, p.approvalRun = some o.id
      ∧ o.subject = templateSubject p.id ∧ (p.status = .approved → o.status = .approved) := by
  obtain ⟨o, ho, hpo, hsubject, happroved⟩ := h.submitted p hp hsubmitted
  by_cases hid : o.id = run.id
  · have hor : o = run := (uniqueOutline h.engine.toKeys).eq_of_key ho hrun hid
    refine ⟨_, mem_setOutline.mpr (Or.inl ⟨o, ho, hid, rfl⟩), hpo, hsubject, fun hs => ?_⟩
    have hs := happroved hs
    rw [hor, hpending] at hs
    cases hs
  · exact ⟨o, mem_setOutline.mpr (Or.inr ⟨ho, hid⟩), hpo, hsubject, happroved⟩

theorem runs_setOutline (h : TemplateInv st) {r : RunId} {status : ApprovalRunStatus} :
    ∀ o ∈ setOutline r status st.db.outline, ∃ p ∈ st.subjects.templates,
      o.subject = templateSubject p.id := by
  intro o ho
  obtain ⟨o₀, ho₀, -, hsubject⟩ := exists_of_mem_setOutline ho
  obtain ⟨p, hp, hp₀⟩ := h.runs o₀ ho₀
  exact ⟨p, hp, hsubject ▸ hp₀⟩

/-- **A decision** the templates are not told of. -/
theorem templatePasses_dropped (h : TemplateInv st) (hinv : st'.db.Inv) {run : RunOutline}
    (hrun : run ∈ st.db.outline) (hpending : run.status = .pending)
    {status : ApprovalRunStatus} (hstatus : status ≠ .pending)
    (houtline : st'.db.outline = setOutline run.id status st.db.outline)
    (hsubjects : st'.subjects = st.subjects) : TemplatePasses st st' := by
  refine ⟨⟨hinv, hsubjects ▸ h.keys, ?_, ?_, ?_⟩, ?_⟩
  · rw [houtline, hsubjects]
    exact runs_setOutline h
  · intro o ho hop
    rw [hsubjects]
    exact h.pending o (pending_of_mem_setOutline hstatus (houtline ▸ ho) hop).1 hop
  · rw [houtline, hsubjects]
    exact fun p hp hsubmitted => submitted_setOutline h hrun hpending status hp hsubmitted
  · rw [hsubjects]
    exact fun p hp hsubmitted => Or.inl ⟨p, hp, rfl, hsubmitted, rfl, rfl⟩

theorem TemplateKeys.updateTemplates {t : TemplateTables} (h : TemplateKeys t)
    {q : CompensationTemplate → Bool} {f : CompensationTemplate → CompensationTemplate}
    (hf : ∀ p, (f p).id = p.id) :
    TemplateKeys { t with templates := Table.update q f t.templates } where
  templateKeys := h.templateKeys.update hf
  templatesKnown p' hp' := by
    rcases Table.mem_update_iff.mp hp' with ⟨p, hp, -, rfl⟩ | ⟨hp', -⟩
    · rw [hf]
      exact h.templatesKnown p hp
    · exact h.templatesKnown p' hp'
  componentKeys := h.componentKeys
  componentsKnown := h.componentsKnown
  linesKnown := h.linesKnown

section

variable {run : RunOutline} {decision : SubjectStatus} {id : CompensationTemplateId}

/-- A template after a decision waited for it and took it over, or is as it was. -/
theorem mem_templates_decided (h : TemplateInv st) (hrun : run ∈ st.db.outline)
    (hpending : run.status = .pending) (hsubject : run.subject = templateSubject id)
    (hsubjects : st'.subjects = { st.subjects with
      templates := Table.update (fun p => p.id = id)
        (fun p => { p with status := templateStatus decision }) st.subjects.templates })
    {p' : CompensationTemplate} (hp' : p' ∈ st'.subjects.templates) :
    (∃ p ∈ st.subjects.templates, p.id = id ∧ p.status = .pendingApproval
      ∧ p.approvalRun = some run.id ∧ p' = { p with status := templateStatus decision })
    ∨ (p' ∈ st.subjects.templates ∧ p'.id ≠ id) := by
  rw [hsubjects] at hp'
  rcases Table.mem_update_iff.mp hp' with ⟨p, hp, hid, rfl⟩ | ⟨hp', hne⟩
  · have hid : p.id = id := of_decide_eq_true hid
    obtain ⟨hstatus, hwaits⟩ := h.pending run hrun hpending p hp (hid ▸ hsubject)
    exact Or.inl ⟨p, hp, hid, hstatus, hwaits, rfl⟩
  · exact Or.inr ⟨hp', of_decide_eq_false hne⟩

/-- A template that is submitted by a decision was approved by it. -/
theorem approved_of_isSubmitted {p : CompensationTemplate}
    (h : ({ p with status := templateStatus decision } : CompensationTemplate).IsSubmitted) :
    decision.runStatus = .approved := by
  cases decision <;>
    simp_all [CompensationTemplate.IsSubmitted, templateStatus, SubjectStatus.runStatus]

theorem templateInv_decided (h : TemplateInv st) (hinv : st'.db.Inv) (hrun : run ∈ st.db.outline)
    (hpending : run.status = .pending)
    (houtline : st'.db.outline = setOutline run.id decision.runStatus st.db.outline)
    (hsubject : run.subject = templateSubject id)
    (hsubjects : st'.subjects = { st.subjects with
      templates := Table.update (fun p => p.id = id)
        (fun p => { p with status := templateStatus decision }) st.subjects.templates }) :
    TemplateInv st' := by
  have hrow : ∀ {p' : CompensationTemplate}, p' ∈ st'.subjects.templates → _ :=
    mem_templates_decided h hrun hpending hsubject hsubjects
  refine ⟨hinv, ?_, fun o ho => ?_, fun o ho hop p' hp' hsub => ?_, fun p' hp' hsubmitted => ?_⟩
  · rw [hsubjects]
    exact h.keys.updateTemplates (fun _ => rfl)
  · obtain ⟨p, hp, hpsubject⟩ := runs_setOutline h o (houtline ▸ ho)
    rw [hsubjects]
    by_cases hid : p.id = id
    · exact ⟨_, Table.mem_update_iff.mpr (Or.inl ⟨p, hp, decide_eq_true hid, rfl⟩), hpsubject⟩
    · exact ⟨p, Table.mem_update_iff.mpr (Or.inr ⟨hp, decide_eq_false hid⟩), hpsubject⟩
  · obtain ⟨ho, hne⟩ :=
      pending_of_mem_setOutline decision.runStatus_ne_pending (houtline ▸ ho) hop
    rcases hrow hp' with ⟨p, hp, -, -, hwaits, rfl⟩ | ⟨hp', -⟩
    · -- the template waits for one approval only
      have hother := (h.pending o ho hop p hp hsub).2
      rw [hwaits] at hother
      exact absurd (Option.some.inj hother).symm hne
    · exact h.pending o ho hop p' hp' hsub
  · rw [houtline]
    rcases hrow hp' with ⟨p, hp, hid, -, hwaits, rfl⟩ | ⟨hp', -⟩
    · exact ⟨_, mem_setOutline.mpr (Or.inl ⟨run, hrun, rfl, rfl⟩), hwaits, hid ▸ hsubject,
        fun _ => approved_of_isSubmitted hsubmitted⟩
    · exact submitted_setOutline h hrun hpending _ hp' hsubmitted

/-- **A decision** its template takes over. -/
theorem templatePasses_decided (h : TemplateInv st) (hinv : st'.db.Inv)
    (hrun : run ∈ st.db.outline) (hpending : run.status = .pending)
    (houtline : st'.db.outline = setOutline run.id decision.runStatus st.db.outline)
    (hsubject : run.subject = templateSubject id)
    (hsubjects : st'.subjects = { st.subjects with
      templates := Table.update (fun p => p.id = id)
        (fun p => { p with status := templateStatus decision }) st.subjects.templates }) :
    TemplatePasses st st' := by
  have hviews : ∀ i, st'.subjects.lineViews i = st.subjects.lineViews i := fun i => by
    rw [hsubjects]
    rfl
  refine ⟨templateInv_decided h hinv hrun hpending houtline hsubject hsubjects, ?_⟩
  intro p' hp' hsubmitted
  refine Or.inl ?_
  rcases mem_templates_decided h hrun hpending hsubject hsubjects hp' with
    ⟨p, hp, hid, hstatus, -, rfl⟩ | ⟨hp', -⟩
  · exact ⟨p, hp, rfl, Or.inl hstatus, rfl, hviews _⟩
  · exact ⟨p', hp', rfl, hsubmitted, rfl, hviews _⟩

end

theorem templatePasses_of_outcome (h : TemplateInv st) (hinv : st'.db.Inv)
    (houtcome : Outcome templateHandler st st') : TemplatePasses st st' := by
  cases houtcome with
  | quiet houtline hsubjects =>
    refine ⟨⟨hinv, hsubjects ▸ h.keys, ?_, ?_, ?_⟩, ?_⟩ <;> rw [hsubjects]
    · exact houtline ▸ h.runs
    · exact houtline ▸ h.pending
    · exact houtline ▸ h.submitted
    · exact fun p hp hsubmitted => Or.inl ⟨p, hp, rfl, hsubmitted, rfl, rfl⟩
  | dropped run hrun hpending houtline hsubjects =>
    exact templatePasses_dropped h hinv hrun hpending (by simp) houtline hsubjects
  | decided run decision reason hrun hpending houtline hsubjects =>
    obtain ⟨p, -, hsubject⟩ := h.runs run hrun
    have hsubjects := (Except.ok.inj hsubjects).symm
    rw [hsubject] at hsubjects
    exact templatePasses_decided h hinv hrun hpending houtline hsubject hsubjects

/-- **A submission**: the template waits for the approval created. -/
theorem passes_submitCompensationTemplateForApproval (h : TemplateInv st)
    (hp : p ∈ st.subjects.templates) {submission : Submission}
    (hok : submitCompensationTemplateForApproval submission p st = .ok st') :
    TemplatePasses st st' := by
  unfold submitCompensationTemplateForApproval at hok
  split_ifs at hok with hstatus
  have hopen : ¬ p.status = .pendingApproval := fun hs => hstatus (by simp [hs])
  split at hok
  · cases hok
  · obtain ⟨⟨r, db⟩, hcreate, hret⟩ := bind_eq_ok_iff.mp hok
    obtain rfl := pure_eq_ok_iff.mp hret
    obtain ⟨hr, houtline⟩ := outline_createApprovalRun hcreate
    set submitted : CompensationTemplate :=
      { p with approvalRun := some r, status := .pendingApproval } with hsubmitted
    have hrow : ∀ {p' : CompensationTemplate}, p' ∈ (st.subjects.saveTemplate submitted).templates →
        p' = submitted ∨ (p' ∈ st.subjects.templates ∧ p'.id ≠ p.id) := Table.mem_save
    refine ⟨⟨(kept_createApprovalRun h.engine hcreate).1, saveTemplate_templateKeys h.keys hp rfl,
      ?_, ?_, ?_⟩, ?_⟩
    · intro o ho
      dsimp only at ho ⊢
      rw [houtline] at ho
      rcases List.mem_append.mp ho with ho | ho
      · obtain ⟨q, hq, hsubject⟩ := h.runs o ho
        obtain ⟨q', hq', hid⟩ := stay_saveTemplate submitted q hq
        exact ⟨q', hq', hid ▸ hsubject⟩
      · exact ⟨submitted, Table.mem_save_self hp rfl, List.mem_singleton.mp ho ▸ rfl⟩
    · intro o ho hop q hq hsub
      dsimp only at ho
      rw [houtline] at ho
      rcases List.mem_append.mp ho with ho | ho <;> rcases hrow hq with rfl | ⟨hq, hne⟩
      · exact absurd (h.pending o ho hop p hp hsub).1 hopen
      · exact h.pending o ho hop q hq hsub
      · exact ⟨rfl, List.mem_singleton.mp ho ▸ rfl⟩
      · rw [List.mem_singleton.mp ho] at hsub
        exact absurd (templateSubject_injective hsub).symm hne
    · intro q hq hqsubmitted
      dsimp only
      rw [houtline]
      rcases hrow hq with rfl | ⟨hq, -⟩
      · exact ⟨_, List.mem_append_right _ (List.mem_singleton_self _), rfl, rfl, fun hs => by
          simp [hsubmitted] at hs⟩
      · obtain ⟨o, ho, hrest⟩ := h.submitted q hq hqsubmitted
        exact ⟨o, List.mem_append_left _ ho, hrest⟩
    · intro q hq hqsubmitted
      rcases hrow hq with rfl | ⟨hq, -⟩
      · refine Or.inr ⟨r, rfl, fun o ho hor => ?_, ?_⟩
        · rw [hr] at hor
          exact (freshOutline h.engine.toKeys ho).ne hor
        · exact ⟨_, houtline ▸ List.mem_append_right _ (List.mem_singleton_self _), rfl⟩
      · exact Or.inl ⟨q, hq, rfl, hqsubmitted, rfl, rfl⟩

/-- **Every request that disturbs no submitted template.** -/
theorem passes_templateStep (h : TemplateInv st) {op : TemplateOp} (hop : Undisturbed st op) :
    TemplatePasses st (templateStep st op) := by
  cases op with
  | create organisation activeCostCentres name description payloads =>
    exact passes_of_spared h (spared_createCompensationTemplate h.keys hop)
  | update activeCostCentres id name description payloads =>
    unfold templateStep
    dsimp only
    split
    · exact passes_refl h
    · next template hget =>
      obtain ⟨hmem, rfl⟩ := (Table.find_eq_some_iff h.keys.templateKeys).mp hget
      refine passes_of_spared h (spared_updateCompensationTemplate h.keys hmem ?_)
      rintro payloads rfl
      exact hop template hget
  | submit submission id =>
    unfold templateStep
    dsimp only
    split
    · exact passes_refl h
    · next template hget =>
      refine settle_induction (passes_refl h) (fun st' hok => ?_)
      exact passes_submitCompensationTemplateForApproval h (Table.find_mem hget) hok
  | approveAction user dir action actor comment =>
    refine settle_induction (passes_refl h) (fun st' hok => ?_)
    exact templatePasses_of_outcome h (kept_approveAction h.engine hok).1
      (outcome_approveAction h.engine hok)
  | rejectAction dir action actor comment =>
    refine settle_induction (passes_refl h) (fun st' hok => ?_)
    exact templatePasses_of_outcome h (kept_rejectAction h.engine hok).1
      (outcome_rejectAction h.engine hok)
  | processPendingActionEscalations user dir =>
    exact templatePasses_of_outcome h (kept_processPendingActionEscalations h.engine).1
      (.quiet outline_processPendingActionEscalations rfl)

end

/-! ## Runs -/

/-- The state reached from no templates by a list of requests. -/
def templatesReached (stages : StageTable) (ops : List TemplateOp) : TemplateState :=
  Run.exec templateStep (EngineState.initial stages .initial) ops

/-- The lines of a template when the approval was created were the given ones. -/
def ApprovedWith (stages : StageTable) (ops : List TemplateOp) (r : RunId)
    (id : CompensationTemplateId) (lines : List LineView) : Prop :=
  ∃ n < ops.length, RunCreated r (templatesReached stages (ops.take n)).db
      (templatesReached stages (ops.take (n + 1))).db
    ∧ (templatesReached stages (ops.take (n + 1))).subjects.lineViews id = lines

instance (stages : StageTable) (ops : List TemplateOp) (r : RunId) (id : CompensationTemplateId)
    (lines : List LineView) : Decidable (ApprovedWith stages ops r id lines) :=
  inferInstanceAs (Decidable (∃ n < ops.length, _ ∧ _))

/-- **Approved templates are intact**: an approved template was approved by the
approval it points to, and has the lines it had when that one was created. -/
def ApprovedIntact (stages : StageTable) (ops : List TemplateOp) : Prop :=
  ∀ p ∈ (templatesReached stages ops).subjects.templates, p.status = .approved →
    ∃ r ∈ (templatesReached stages ops).db.runs, p.approvalRun = some r.id
      ∧ r.contentObject = templateSubject p.id ∧ r.status = .approved
      ∧ ApprovedWith stages ops r.id p.id
        ((templatesReached stages ops).subjects.lineViews p.id)

instance (stages : StageTable) (ops : List TemplateOp) : Decidable (ApprovedIntact stages ops) :=
  inferInstanceAs (Decidable (∀ p ∈ (templatesReached stages ops).subjects.templates, _ → _))

section

variable {stages : StageTable}

theorem templateInv_initial : TemplateInv (EngineState.initial stages .initial) where
  engine := inv_initial _ _
  keys := ⟨List.nodup_nil, fun _ hp => absurd hp List.not_mem_nil, List.nodup_nil,
    fun _ hc => absurd hc List.not_mem_nil, fun _ hl => absurd hl List.not_mem_nil⟩
  runs _ ho := absurd ho List.not_mem_nil
  pending _ ho := absurd ho List.not_mem_nil
  submitted _ hp := absurd hp List.not_mem_nil

/-- **Where a submitted template comes from**: the request that created its
approval, which found the lines it has. -/
theorem approvedWith_of_submitted {ops : List TemplateOp}
    (hops : Run.Along templateStep Undisturbed (EngineState.initial stages .initial) ops)
    {p : CompensationTemplate} {r : RunId}
    (hp : p ∈ (templatesReached stages ops).subjects.templates) (hsubmitted : p.IsSubmitted)
    (hr : p.approvalRun = some r) :
    ApprovedWith stages ops r p.id ((templatesReached stages ops).subjects.lineViews p.id) := by
  set id := p.id with hid
  set lines := (templatesReached stages ops).subjects.lineViews id with hlines
  obtain ⟨before, op, after, rfl, hcreated, hviews⟩ := Run.exists_origin (I := TemplateInv)
    (G := Undisturbed)
    (Q := fun st : TemplateState => (∃ q ∈ st.subjects.templates, q.id = id ∧ q.IsSubmitted
      ∧ q.approvalRun = some r) ∧ st.subjects.lineViews id = lines)
    (E := fun st st' : TemplateState =>
      RunCreated r st.db st'.db ∧ st'.subjects.lineViews id = lines)
    (fun st op h hop => (passes_templateStep h hop).inv)
    (fun st op h hop => by
      rintro ⟨⟨q, hq, hqid, hqsubmitted, hqr⟩, hqlines⟩
      rcases (passes_templateStep h hop).held q hq hqsubmitted with
        ⟨q₀, hq₀, hid₀, hsubmitted₀, hr₀, hviews⟩ | ⟨r', hr', hnew⟩
      · rw [hqid] at hviews
        exact Or.inl ⟨⟨q₀, hq₀, hid₀.trans hqid, hsubmitted₀, hr₀.trans hqr⟩, hviews ▸ hqlines⟩
      · obtain rfl := Option.some.inj (hqr.symm.trans hr')
        exact Or.inr ⟨hnew, hqlines⟩)
    templateInv_initial (fun ⟨⟨_, hq, _⟩, _⟩ => absurd hq List.not_mem_nil) hops
    ⟨⟨p, hp, rfl, hsubmitted, hr⟩, rfl⟩
  have hbefore : (before ++ op :: after).take before.length = before := List.take_left
  have hafter : (before ++ op :: after).take (before.length + 1) = before ++ [op] := by
    rw [List.take_append]
    simp
  refine ⟨before.length, by simp, ?_⟩
  rw [hbefore, hafter]
  exact ⟨hcreated, hviews⟩

end

/-- **Approved templates are intact** along every run that disturbs no submitted
template. -/
theorem approvedIntact_of_undisturbed (stages : StageTable) (ops : List TemplateOp)
    (hops : Run.Along templateStep Undisturbed (EngineState.initial stages .initial) ops) :
    ApprovedIntact stages ops := by
  intro p hp happroved
  have hinv : TemplateInv (templatesReached stages ops) :=
    Run.invariant_of_along (I := TemplateInv) (fun _ _ h hop => (passes_templateStep h hop).inv)
      templateInv_initial hops
  obtain ⟨o, ho, hpo, hsubject, hstatus⟩ := hinv.submitted p hp (Or.inr happroved)
  obtain ⟨r, hr, rfl⟩ := mem_outline.mp ho
  exact ⟨r, hr, hpo, hsubject, hstatus happroved,
    approvedWith_of_submitted hops hp (Or.inr happroved) hpo⟩

/-! ## Two ways to change an approved template

A template of basic pay is submitted and approved, by employees 2 and 3 and
then by employee 4. -/

namespace Sample

def templateSubmission : Submission :=
  { user := Approvals.Sample.user, dir := Approvals.Sample.directory 0, workflow := some 1,
    requester := none }

def basicLine (componentType : String) (monthlyAmount : ℚ) : LinePayload :=
  { componentCode := "BASIC", name := "Basic Pay", componentType := componentType,
    monthlyAmount := monthlyAmount }

/-- Template 10, under approval. -/
def submittedTemplate : List TemplateOp :=
  [.create 1 [] "Staff" "" [basicLine "EARNING" 50000], .submit templateSubmission 10]

def approvals : List TemplateOp :=
  [(1, 102), (2, 103), (3, 104)].map (fun (action, actor) =>
    .approveAction Approvals.Sample.user (Approvals.Sample.directory 0) action actor "")

end Sample

/-- An approved template beside a second one with the same component. -/
theorem approvedIntact_of_undisturbed_sample :
    ApprovedIntact Approvals.Sample.stages (Sample.submittedTemplate ++ Sample.approvals
      ++ [.create 1 [] "Interns" "" [Sample.basicLine "EARNING" 20000]]) :=
  approvedIntact_of_undisturbed _ _ (by decide +kernel)

/-- **An edit during the approval**: what is approved in the end is not what
was submitted. -/
theorem edit_during_approval :
    ¬ ApprovedIntact Approvals.Sample.stages (Sample.submittedTemplate
      ++ [.update [] 10 none none (some [Sample.basicLine "EARNING" 90000])]
      ++ Sample.approvals) := by
  decide +kernel

/-- **A shared component**: another template's line turns an approved earning
into a deduction. -/
theorem shared_component_changes :
    ¬ ApprovedIntact Approvals.Sample.stages (Sample.submittedTemplate ++ Sample.approvals
      ++ [.create 1 [] "Recovery" "" [Sample.basicLine "EMPLOYEE_DEDUCTION" 500]]) := by
  decide +kernel

end Payroll
