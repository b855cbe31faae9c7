import Clarisal.Organisations.AddressRecords

/-!
# Organisations and their addresses, in every run

Between requests an organisation has its legal identifier, one active registered address and
one active billing address (`Sound`), and every run keeps this. `organisations_sound` is what
follows for the addresses and their registrations. `identity_permanent` is what follows for
the legal identifier, which the first request writes and nothing changes: an organisation that
moves away from it can do nothing with its addresses until it is back.
-/

namespace Addresses

open Approvals (OrganisationId)

variable {rules : CountryRules} {t t' : AddressTables} {o : Organisation} {a : Address}
  {payload : AddressFields} {organisation : OrganisationId} {addressType : AddressType}

/-! ## The addresses that an organisation has once -/

/-- The active addresses of a type. -/
def actives (organisation : OrganisationId) (addressType : AddressType) (as : List Address) :
    List Address :=
  as.filter (Address.isThe organisation addressType)

theorem isThe_iff : a.isThe organisation addressType = true ↔ a.organisation = organisation
    ∧ a.fields.addressType = addressType ∧ a.fields.isActive = true :=
  decide_eq_true_iff

/-- What the constraints say of an address that is written. -/
theorem not_isTaken (h : ¬ isTaken a t = true) (hmandatory : addressType.isMandatory = true)
    (ha : a.isThe organisation addressType = true) :
    ∀ b ∈ t.addresses, b.isThe organisation addressType = true → b.id = a.id := by
  obtain ⟨rfl, rfl, hactive⟩ := isThe_iff.mp ha
  intro b hb hthe
  by_contra hid
  refine h (decide_eq_true ⟨hmandatory, hactive, ?_⟩)
  exact List.any_eq_true.mpr ⟨b, hb, decide_eq_true ⟨hid, hthe⟩⟩

/-- A new address takes no place that is taken. -/
theorem length_actives_append (organisation : OrganisationId) (ht : Kept t)
    (ha : a.id = t.nextId) (h : ¬ isTaken a t = true)
    (hmandatory : addressType.isMandatory = true) :
    (actives organisation addressType (t.addresses ++ [a])).length
        = (actives organisation addressType t.addresses).length
          + (if a.isThe organisation addressType then 1 else 0)
      ∧ (a.isThe organisation addressType = true →
        actives organisation addressType t.addresses = []) := by
  constructor
  · rw [actives, List.filter_append, List.length_append, List.filter_singleton]
    cases a.isThe organisation addressType <;> rfl
  · intro hthe
    refine List.filter_eq_nil_iff.mpr fun b hb hbthe => ?_
    exact ht.addresses.ne_of_mem hb
      ((not_isTaken h hmandatory hthe b hb hbthe).trans ha)

/-- An edited address keeps its place, and takes no other. -/
theorem length_actives_save (ht : Kept t) (ha : a ∈ t.addresses) {a' : Address}
    (hid : a'.id = a.id) (horganisation : a'.organisation = a.organisation)
    (h : ¬ isTaken a' t = true) (hmandatory : addressType.isMandatory = true)
    (hone : a.organisation = organisation →
      (actives organisation addressType t.addresses).length = 1)
    (hkeeps : a.fields.addressType = addressType → a'.fields.addressType = addressType
      ∧ (a.fields.isActive = true → a'.fields.isActive = true)) :
    (actives organisation addressType (Table.save Address.id a' t.addresses)).length
      = (actives organisation addressType t.addresses).length := by
  refine Table.length_filter_save ht.addresses.unique ha hid.symm (Bool.eq_iff_iff.mpr ⟨?_, ?_⟩)
  · intro hthe
    obtain ⟨horg, htype, hactive⟩ := isThe_iff.mp hthe
    obtain ⟨htype', hactive'⟩ := hkeeps htype
    exact isThe_iff.mpr ⟨horganisation.trans horg, htype', hactive' hactive⟩
  · intro hthe
    -- the one that has the place is the edited one
    have horg : a.organisation = organisation :=
      horganisation.symm.trans (isThe_iff.mp hthe).1
    obtain ⟨b, hb⟩ := List.length_eq_one_iff.mp (hone horg)
    have hmem : b ∈ actives organisation addressType t.addresses := by
      rw [hb]
      exact List.mem_singleton_self b
    obtain ⟨hbmem, hbthe⟩ := List.mem_filter.mp hmem
    have hbid := not_isTaken h hmandatory hthe b hbmem hbthe
    rwa [ht.addresses.unique.eq_of_key hbmem ha (hbid.trans hid)] at hbthe

theorem switchOff_eq_save (ht : Kept t) (ha : a ∈ t.addresses) :
    switchOff a t = .ok { t with
      addresses := Table.save Address.id { a with fields := { a.fields with isActive := false } }
        t.addresses } := by
  have hsame : Table.update (fun b => b.id = a.id)
      (fun b => { b with fields := { b.fields with isActive := false } }) t.addresses
        = Table.save Address.id { a with fields := { a.fields with isActive := false } }
          t.addresses := by
    refine List.map_congr_left fun b hb => ?_
    by_cases hid : b.id = a.id
    · rw [ht.addresses.unique.eq_of_key hb ha hid]
    · simp [hid]
  rw [switchOff, hsame]

/-! ## What holds between requests -/

/-- **What every request keeps**: an organisation has its legal identifier, and one active
address of each type that it has once. -/
structure Sound (t : AddressTables) : Prop where
  kept : Kept t
  identified : ∀ o ∈ t.organisations, ∃ l ∈ t.legalIdentifiers, l.organisation = o.id
  one : ∀ o ∈ t.organisations, ∀ addressType : AddressType, addressType.isMandatory = true →
    (actives o.id addressType t.addresses).length = 1

theorem Sound.empty : Sound empty where
  kept := Kept.empty
  identified _ ho := absurd ho List.not_mem_nil
  one _ ho := absurd ho List.not_mem_nil

/-- Legal identifiers are never taken back. -/
def Grows (t t' : AddressTables) : Prop := t.legalIdentifiers <+: t'.legalIdentifiers

theorem Grows.of_eq (h : t'.legalIdentifiers = t.legalIdentifiers) : Grows t t' :=
  show t.legalIdentifiers <+: t'.legalIdentifiers from h ▸ List.prefix_rfl

/-- **Where a request leaves the places of addresses**, and the organisations. -/
structure Keeps (t t' : AddressTables) : Prop where
  kept : Kept t'
  grows : Grows t t'
  organisations : t'.organisations.map Organisation.id = t.organisations.map Organisation.id
  actives : ∀ o ∈ t.organisations, ∀ addressType : AddressType, addressType.isMandatory = true →
    (actives o.id addressType t'.addresses).length = (actives o.id addressType t.addresses).length

theorem Keeps.refl (ht : Kept t) : Keeps t t :=
  ⟨ht, List.prefix_rfl, rfl, fun _ _ _ _ => rfl⟩

theorem Keeps.exists_organisation (h : Keeps t t') {o' : Organisation}
    (ho' : o' ∈ t'.organisations) : ∃ o ∈ t.organisations, o.id = o'.id := by
  have hmem : o'.id ∈ t'.organisations.map Organisation.id := List.mem_map_of_mem ho'
  rw [h.organisations] at hmem
  exact List.mem_map.mp hmem

theorem Keeps.trans {t'' : AddressTables} (h : Keeps t t') (h' : Keeps t' t'') : Keeps t t'' where
  kept := h'.kept
  grows := h.grows.trans h'.grows
  organisations := h'.organisations.trans h.organisations
  actives o ho addressType hmandatory := by
    have hmem : o.id ∈ t.organisations.map Organisation.id := List.mem_map_of_mem ho
    rw [← h.organisations] at hmem
    obtain ⟨o', ho', hid⟩ := List.mem_map.mp hmem
    rw [← hid, h'.actives o' ho' addressType hmandatory, hid,
      h.actives o ho addressType hmandatory]

theorem Sound.of_keeps (ht : Sound t) (h : Keeps t t') : Sound t' where
  kept := h.kept
  identified o' ho' := by
    obtain ⟨o, ho, hid⟩ := h.exists_organisation ho'
    obtain ⟨l, hl, horganisation⟩ := ht.identified o ho
    exact ⟨l, h.grows.subset hl, horganisation.trans hid⟩
  one o' ho' addressType hmandatory := by
    obtain ⟨o, ho, hid⟩ := h.exists_organisation ho'
    rw [← hid, h.actives o ho addressType hmandatory, ht.one o ho addressType hmandatory]

/-- A statement that leaves organisations and addresses. -/
theorem Keeps.of_leaves (ht' : Kept t') (hleaves : Leaves t t') (hgrows : Grows t t') :
    Keeps t t' :=
  ⟨ht', hgrows, by rw [hleaves.organisations], fun _ _ _ _ => by rw [hleaves.addresses]⟩

theorem Keeps.of_locations {ls : List OfficeLocation} {n : ℕ}
    (ht' : Kept { t with locations := ls, nextId := n }) :
    Keeps t { t with locations := ls, nextId := n } :=
  ⟨ht', List.prefix_rfl, rfl, fun _ _ _ _ => rfl⟩

/-! ## Addresses that are written -/

theorem upsert_grows (hrules : rules.Lawful) (ht : Kept t) (ho : IsPan o.panNumber)
    (h : upsertPrimaryLegalIdentifier rules o t = .ok t') : Grows t t' := by
  rcases upsert_cases hrules ht ho h with ⟨rfl, -⟩ | ⟨-, rfl⟩
  · exact List.prefix_rfl
  · exact List.prefix_append _ _

theorem ensure_identifiers (h : ensureTaxRegistration rules o payload t = .ok t') :
    t'.legalIdentifiers = t.legalIdentifiers := by
  rcases ensure_cases h with ⟨-, rfl, -⟩ | ⟨r, f, -, -, rfl, -⟩ | ⟨r, -, -, -, -, -, -, rfl⟩
  · rfl
  · rfl
  · rfl

theorem set_identifiers (h : setPrimaryBilling rules payload t = .ok t') :
    t'.legalIdentifiers = t.legalIdentifiers := by
  unfold setPrimaryBilling at h
  split at h
  · rw [← Except.ok.inj h]
  split at h
  · cases h
  · obtain rfl := Except.ok.inj h
    rfl

/-- **The statements on registrations** leave the places of addresses. -/
theorem keeps_sync (hrules : rules.Lawful) (ht : Kept t) (ho : o ∈ t.organisations)
    (hpayload : Checked o.panNumber payload) :
    Keeps t (Autocommit.execute (syncAddressTaxRegistration rules o payload) t).2 := by
  have hstep : ∀ f ∈ syncAddressTaxRegistration rules o payload, ∀ t₁ t₂,
      Keeps t t₁ ∧ Leaves t t₁ → f t₁ = .ok t₂ → Keeps t t₂ ∧ Leaves t t₂ := by
    rintro f hf t₁ t₂ ⟨hkeeps, hleaves⟩ h
    have ho₁ : o ∈ t₁.organisations := hleaves.organisations ▸ ho
    obtain ⟨ht₂, hleaves'⟩ :=
      Kept.sync_statement hrules hpayload f hf t₁ t₂ ⟨hkeeps.kept, ho₁⟩ h
    refine ⟨hkeeps.trans (Keeps.of_leaves ht₂ hleaves' ?_), hleaves.trans hleaves'⟩
    rcases List.mem_append.mp hf with hf | hf
    · rcases List.mem_append.mp hf with hf | hf
      · split at hf
        · cases hf
        · obtain rfl := List.mem_singleton.mp hf
          exact upsert_grows hrules hkeeps.kept (hkeeps.kept.pan o ho₁) h
      · obtain rfl := List.mem_singleton.mp hf
        exact Grows.of_eq (ensure_identifiers h)
    · split at hf
      · rcases List.mem_cons.mp hf with rfl | hf
        · obtain rfl := Except.ok.inj h
          exact List.prefix_rfl
        · obtain rfl := List.mem_singleton.mp hf
          exact Grows.of_eq (set_identifiers h)
      · cases hf
  exact (Autocommit.execute_invariant (I := fun t₁ => Keeps t t₁ ∧ Leaves t t₁) hstep
    ⟨Keeps.refl ht, Leaves.refl t⟩).1

theorem ensureDefaultLocation_rest (a : Address) (t : AddressTables) :
    (ensureDefaultLocation a t).organisations = t.organisations
      ∧ (ensureDefaultLocation a t).addresses = t.addresses
      ∧ (ensureDefaultLocation a t).legalIdentifiers = t.legalIdentifiers
      ∧ (ensureDefaultLocation a t).taxRegistrations = t.taxRegistrations := by
  unfold ensureDefaultLocation
  split
  · exact ⟨rfl, rfl, rfl, rfl⟩
  · exact ⟨rfl, rfl, rfl, rfl⟩

/-- The tables that a new address leaves. -/
theorem insertAddress_rest {autoCreateLocation : Bool}
    (h : insertAddress rules o payload autoCreateLocation t = .ok t') :
    ¬ isTaken (addressRow rules t.nextId o.id payload t) t = true
      ∧ t'.addresses = t.addresses ++ [addressRow rules t.nextId o.id payload t]
      ∧ t'.organisations = t.organisations ∧ t'.legalIdentifiers = t.legalIdentifiers
      ∧ t'.taxRegistrations = t.taxRegistrations := by
  obtain ⟨htaken, rfl | ⟨-, rfl⟩⟩ := insertAddress_cases h
  · exact ⟨htaken, rfl, rfl, rfl, rfl⟩
  · obtain ⟨horganisations, haddresses, hidentifiers, hregistrations⟩ :=
      ensureDefaultLocation_rest (addressRow rules t.nextId o.id payload t) { t with
        addresses := t.addresses ++ [addressRow rules t.nextId o.id payload t]
        nextId := t.nextId + 1 }
    exact ⟨htaken, haddresses, horganisations, hidentifiers, hregistrations⟩

/-- **A new address of an organisation** whose places are taken takes none. -/
theorem keeps_createAddress (hrules : rules.Lawful) (ht : Sound t) (ho : o ∈ t.organisations)
    (payload : AddressFields) (autoCreateLocation : Bool) :
    Keeps t (Autocommit.execute
      (createOrganisationAddress rules o payload autoCreateLocation) t).2 := by
  unfold createOrganisationAddress
  rw [if_neg (ht.kept.pan o ho).ne_empty]
  unfold checked
  split
  · exact Keeps.refl ht.kept
  next payload' hpayload =>
  obtain ⟨hchecked, -, -⟩ := normalizeAddressPayload_spec hrules (ht.kept.pan o ho) hpayload
  have hsync := keeps_sync hrules ht.kept ho hchecked
  refine after_sync hrules ht.kept ho hchecked hsync fun t₁ t₂ ht₁ hleaves hensured hdone h => ?_
  rw [hdone] at hsync
  refine hsync.trans ?_
  have ho₁ : o ∈ t₁.organisations := hleaves.organisations ▸ ho
  obtain ⟨htaken, haddresses, horganisations, hidentifiers, -⟩ := insertAddress_rest h
  refine ⟨ht₁.insertAddress hrules ho₁ hensured hchecked h, Grows.of_eq hidentifiers,
    by rw [horganisations], fun x hx addressType hmandatory => ?_⟩
  obtain ⟨hlength, hnone⟩ := length_actives_append x.id ht₁
    (rfl : (addressRow rules t₁.nextId o.id payload' t₁).id = _) htaken hmandatory
  rw [haddresses, hlength]
  split
  · next hthe =>
    -- the place is taken
    have hone := ht.one x (hleaves.organisations ▸ hx) addressType hmandatory
    rw [← hleaves.addresses, hnone hthe] at hone
    cases hone
  · rfl

/-- What the checks of an edited address leave. -/
theorem editedPayload_spec (hrules : rules.Lawful) (hpan : IsPan o.panNumber)
    {changes : AddressChanges} (h : editedPayload rules o a changes t = .ok payload) :
    Checked o.panNumber payload
      ∧ payload.isActive = changes.isActive.getD a.fields.isActive
      ∧ payload.addressType = changes.addressType.getD a.fields.addressType
      ∧ (a.fields.addressType.isMandatory = true → changes.isActive ≠ some false
        ∧ payload.addressType = a.fields.addressType) := by
  unfold editedPayload at h
  obtain ⟨panNumber, hpanNumber, h⟩ := Transaction.bind_eq_ok_iff.mp h
  obtain rfl : o.panNumber = panNumber :=
    Except.ok.inj ((hpan.normalizePanNumber hrules).symm.trans hpanNumber)
  dsimp only at h
  rw [if_neg (fun hne => hne.2 rfl)] at h
  obtain ⟨payload', hpayload, h⟩ := Transaction.bind_eq_ok_iff.mp h
  rw [firstNonempty, if_neg hpan.ne_empty] at hpayload
  obtain ⟨hchecked, htype, hactive⟩ := normalizeAddressPayload_spec hrules hpan hpayload
  split at h
  · cases h
  next hdeactivated =>
  split at h
  · cases h
  next hretyped =>
  obtain rfl := Transaction.pure_eq_ok_iff.mp h
  refine ⟨hchecked, hactive, htype, fun hmandatory => ⟨fun hfalse => ?_, ?_⟩⟩
  · exact hdeactivated ⟨hmandatory, hfalse⟩
  · by_contra hne
    exact hretyped ⟨hmandatory, hne⟩

/-- **An edited address** keeps its place, and takes none. -/
theorem keeps_updateAddress (hrules : rules.Lawful) (ht : Sound t) (ho : o ∈ t.organisations)
    (ha : a ∈ t.addresses) (hao : a.organisation = o.id) (changes : AddressChanges) :
    Keeps t (Autocommit.execute (updateOrganisationAddress rules o a changes t) t).2 := by
  unfold updateOrganisationAddress checked
  split
  · exact Keeps.refl ht.kept
  next payload hpayload =>
  obtain ⟨hchecked, hactive, -, hmandatoryType⟩ :=
    editedPayload_spec hrules (ht.kept.pan o ho) hpayload
  have hsync := keeps_sync hrules ht.kept ho hchecked
  refine after_sync hrules ht.kept ho hchecked hsync fun t₁ t₂ ht₁ hleaves hensured hdone h => ?_
  rw [hdone] at hsync
  refine hsync.trans ?_
  have ha₁ : a ∈ t₁.addresses := hleaves.addresses ▸ ha
  have hkept := ht₁.saveAddress hrules ha₁ hao hensured hchecked h
  obtain ⟨htaken, rfl⟩ := saveAddress_cases h
  refine ⟨hkept, List.prefix_rfl, rfl, fun x hx addressType hmandatory => ?_⟩
  refine length_actives_save ht₁ ha₁ rfl rfl htaken hmandatory (fun _ => ?_) fun htype => ?_
  · rw [hleaves.addresses]
    exact ht.one x (hleaves.organisations ▸ hx) addressType hmandatory
  · obtain ⟨hnot, htype'⟩ := hmandatoryType (htype ▸ hmandatory)
    refine ⟨htype'.trans htype, fun hisActive => ?_⟩
    show payload.isActive = true
    rw [hactive, hisActive]
    cases hchange : changes.isActive with
    | none => rfl
    | some b =>
      cases b with
      | true => rfl
      | false => exact absurd hchange hnot

/-- **A deactivated address** has no place to lose. -/
theorem keeps_deactivateAddress (ht : Sound t) (ha : a ∈ t.addresses) :
    Keeps t (Autocommit.execute (deactivateOrganisationAddress a t) t).2 := by
  unfold deactivateOrganisationAddress
  split
  · exact Keeps.refl ht.kept
  next hnot =>
  split
  · exact Keeps.refl ht.kept
  have hoff := switchOff_eq_save ht.kept ha
  rw [Autocommit.execute_cons_ok hoff]
  refine ⟨ht.kept.switchOff hoff, List.prefix_rfl, rfl, fun x _ addressType hmandatory => ?_⟩
  have hid : a.id = ({ a with fields := { a.fields with isActive := false } } : Address).id := rfl
  refine Table.length_filter_save ht.kept.addresses.unique ha hid ?_
  have hother : a.fields.addressType ≠ addressType := by
    rintro rfl
    exact hnot hmandatory
  rw [Bool.eq_iff_iff, isThe_iff, isThe_iff]
  exact ⟨fun h => absurd h.2.1 hother, fun h => absurd h.2.1 hother⟩

/-! ## The profile and the creation of an organisation -/

/-- The profile is saved before its identifier is written. -/
theorem keeps_saveOrganisation (ht : Kept t) {o' : Organisation} (ho : o ∈ t.organisations)
    (hid : o'.id = o.id) (hpan : IsPan o'.panNumber)
    (hregistrations : ∀ r ∈ t.taxRegistrations, r.organisation = o.id → r.countryCode = "IN" →
      panOf r.identifier = o'.panNumber) :
    Keeps t { t with organisations := Table.save Organisation.id o' t.organisations } :=
  ⟨ht.saveOrganisation ho hid hpan hregistrations rfl, List.prefix_rfl,
    Table.map_key_save o' t.organisations, fun _ _ _ _ => rfl⟩

/-- **An edited profile** leaves the places of addresses. -/
theorem keeps_updateProfile (hrules : rules.Lawful) (ht : Kept t) (ho : o ∈ t.organisations)
    (panNumber countryCode : Option String) :
    Keeps t (Autocommit.execute
      (updateOrganisationProfile rules o panNumber countryCode t) t).2 := by
  unfold updateOrganisationProfile checked
  split
  · exact Keeps.refl ht
  next o' hprofile =>
  obtain ⟨hid, hpan, hregistrations⟩ := editedProfile_spec hrules ht ho hprofile
  have hsaved := keeps_saveOrganisation ht ho hid hpan hregistrations
  have ho' : o' ∈ Table.save Organisation.id o' t.organisations :=
    Table.mem_save_self ho hid.symm
  have hsave : saveOrganisation o' t = .ok
      { t with organisations := Table.save Organisation.id o' t.organisations } := rfl
  dsimp only
  rw [List.cons_append, Autocommit.execute_cons_ok hsave]
  refine hsaved.trans (Autocommit.execute_invariant
    (I := fun t₂ => Keeps { t with organisations := Table.save Organisation.id o' t.organisations }
      t₂ ∧ o' ∈ t₂.organisations) ?_ ⟨Keeps.refl hsaved.kept, ho'⟩).1
  rintro f hf t₁ t₂ ⟨hkeeps, ho₁⟩ h
  rcases List.mem_append.mp hf with hf | hf
  · obtain rfl := List.mem_singleton.mp hf
    have hleaves := upsert_leaves h
    refine ⟨hkeeps.trans (Keeps.of_leaves (hkeeps.kept.upsert hrules ho₁ h) hleaves
      (upsert_grows hrules hkeeps.kept (hkeeps.kept.pan o' ho₁) h)), ?_⟩
    rwa [hleaves.organisations]
  · split at hf
    · obtain rfl := List.mem_singleton.mp hf
      have hkept := hkeeps.kept.link h
      obtain rfl := Except.ok.inj h
      exact ⟨hkeeps.trans (Keeps.of_leaves hkept ⟨rfl, rfl, rfl⟩ (Grows.of_eq rfl)), ho₁⟩
    · cases hf

/-- **What the addresses of a new organisation leave**: its places are taken as often as they
are asked for, and those of others as before. -/
structure Adds (o : Organisation) (addresses : List AddressFields) (t t' : AddressTables) :
    Prop where
  kept : Kept t'
  grows : Grows t t'
  organisations : t'.organisations = t.organisations
  actives : ∀ organisation, ∀ addressType : AddressType, addressType.isMandatory = true →
    (actives organisation addressType t'.addresses).length
      = (actives organisation addressType t.addresses).length
        + if organisation = o.id then (addresses.filter fun p =>
            p.addressType = addressType ∧ p.isActive).length
          else 0
  identified : addresses ≠ [] → ∃ l ∈ t'.legalIdentifiers, l.organisation = o.id

theorem Adds.nil (ht : Kept t) : Adds o [] t t :=
  ⟨ht, List.prefix_rfl, rfl, fun _ _ _ => by simp, fun h => absurd rfl h⟩

/-- After the synchronisation an organisation has its identifier. -/
theorem identified_of_sync (hrules : rules.Lawful) (ht : Kept t) (ho : o ∈ t.organisations)
    (h : Autocommit.execute (syncAddressTaxRegistration rules o payload) t = (none, t')) :
    ∃ l ∈ t'.legalIdentifiers, l.organisation = o.id := by
  obtain ⟨t₁, t₂, hupsert, hensure, hrest⟩ := sync_eq_ok (ht.pan o ho).ne_empty h
  have hfirst : ∃ l ∈ t₁.legalIdentifiers, l.organisation = o.id := by
    rcases upsert_cases hrules ht (ht.pan o ho) hupsert with ⟨rfl, l, hl, hlo, -⟩ | ⟨-, rfl⟩
    · exact ⟨l, hl, hlo⟩
    · exact ⟨_, List.mem_append_right _ (List.mem_singleton_self _), rfl⟩
  rw [← ensure_identifiers hensure] at hfirst
  rcases hrest with ⟨-, rfl⟩ | ⟨-, t₃, hclear, hset⟩
  · exact hfirst
  · obtain rfl := Except.ok.inj hclear
    rw [set_identifiers hset]
    exact hfirst

/-- What was done when a request for an address was accepted. -/
theorem createAddress_ok (hrules : rules.Lawful) (hpan : IsPan o.panNumber)
    {autoCreateLocation : Bool}
    (h : inTransaction (createOrganisationAddress rules o payload autoCreateLocation) t
      = .ok t') :
    ∃ payload' t₁, Checked o.panNumber payload' ∧ payload'.addressType = payload.addressType
      ∧ payload'.isActive = payload.isActive
      ∧ Autocommit.execute (syncAddressTaxRegistration rules o payload') t = (none, t₁)
      ∧ insertAddress rules o payload' autoCreateLocation t₁ = .ok t' := by
  have h := Autocommit.foldlM_eq_ok_iff.mp h
  unfold createOrganisationAddress at h
  rw [if_neg hpan.ne_empty] at h
  unfold checked at h
  split at h
  · cases h
  next payload' hpayload =>
  obtain ⟨hchecked, htype, hactive⟩ := normalizeAddressPayload_spec hrules hpan hpayload
  obtain ⟨t₁, hsync, hlast⟩ := Autocommit.execute_append_eq_none_iff.mp h
  obtain ⟨t₂, hinsert, hnil⟩ := Autocommit.execute_cons_eq_none_iff.mp hlast
  obtain rfl : t₂ = t' := congrArg Prod.snd hnil
  exact ⟨payload', t₁, hchecked, htype, hactive, hsync, hinsert⟩

/-- **One address of a new organisation.** -/
theorem adds_createAddress (hrules : rules.Lawful) (ht : Kept t) (ho : o ∈ t.organisations)
    {autoCreateLocation : Bool}
    (h : inTransaction (createOrganisationAddress rules o payload autoCreateLocation) t
      = .ok t') : Adds o [payload] t t' := by
  obtain ⟨payload', t₁, hchecked, htype, hactive, hsync, hinsert⟩ :=
    createAddress_ok hrules (ht.pan o ho) h
  have hkeeps := keeps_sync hrules ht ho hchecked
  obtain ⟨ht₁, hleaves⟩ := ht.sync hrules ho hchecked
  rw [hsync] at hkeeps ht₁ hleaves
  have ho₁ : o ∈ t₁.organisations := hleaves.organisations ▸ ho
  obtain ⟨htaken, haddresses, horganisations, hidentifiers, -⟩ := insertAddress_rest hinsert
  refine ⟨ht₁.insertAddress hrules ho₁ (ht.synced ho hsync) hchecked hinsert,
    hkeeps.grows.trans (Grows.of_eq hidentifiers),
    horganisations.trans hleaves.organisations, fun organisation addressType hmandatory => ?_,
    fun _ => ?_⟩
  · have hlength := (length_actives_append organisation ht₁
      (rfl : (addressRow rules t₁.nextId o.id payload' t₁).id = _) htaken hmandatory).1
    rw [haddresses, hlength, hleaves.addresses]
    refine congrArg _ ?_
    have hthe : (addressRow rules t₁.nextId o.id payload' t₁).isThe organisation addressType = true
        ↔ o.id = organisation ∧ payload.addressType = addressType ∧ payload.isActive = true := by
      rw [isThe_iff, ← htype, ← hactive]
      rfl
    by_cases horganisation : organisation = o.id
    · obtain rfl := horganisation
      rw [if_pos rfl, List.filter_singleton]
      by_cases hp : payload.addressType = addressType ∧ payload.isActive = true
      · rw [if_pos (hthe.mpr ⟨rfl, hp⟩), decide_eq_true hp]
        rfl
      · rw [if_neg (fun h => hp (hthe.mp h).2), decide_eq_false hp]
        rfl
    · rw [if_neg horganisation, if_neg (fun h => horganisation (hthe.mp h).1.symm)]
  · rw [hidentifiers]
    exact identified_of_sync hrules ht ho hsync

theorem Adds.cons {addresses : List AddressFields} {t'' : AddressTables}
    (h : Adds o [payload] t t') (h' : Adds o addresses t' t'') :
    Adds o (payload :: addresses) t t'' where
  kept := h'.kept
  grows := h.grows.trans h'.grows
  organisations := h'.organisations.trans h.organisations
  actives organisation addressType hmandatory := by
    rw [h'.actives organisation addressType hmandatory,
      h.actives organisation addressType hmandatory, add_assoc]
    refine congrArg _ ?_
    split
    · rw [← List.length_append, ← List.filter_append]
      rfl
    · rfl
  identified _ := by
    obtain ⟨l, hl, horganisation⟩ := h.identified (List.cons_ne_nil _ _)
    exact ⟨l, h'.grows.subset hl, horganisation⟩

theorem adds_createAddresses (hrules : rules.Lawful) {addresses : List AddressFields}
    (ht : Kept t) (ho : o ∈ t.organisations)
    (h : addresses.foldlM (fun t payload =>
      inTransaction (createOrganisationAddress rules o payload true) t) t = .ok t') :
    Adds o addresses t t' := by
  induction addresses generalizing t with
  | nil =>
    obtain rfl := Except.ok.inj (h : Except.ok t = .ok t')
    exact Adds.nil ht
  | cons payload addresses ih =>
    rw [List.foldlM_cons] at h
    obtain ⟨t₁, hfirst, h⟩ := Transaction.bind_eq_ok_iff.mp h
    have hadds := adds_createAddress hrules ht ho hfirst
    exact hadds.cons (ih hadds.kept (hadds.organisations ▸ ho) h)

/-- What `validate_address_collection` requires. -/
theorem validateAddressCollection_spec {panNumber : String}
    {addresses addresses' : List AddressFields}
    (h : validateAddressCollection rules addresses panNumber = .ok addresses')
    (addressType : AddressType) (hmandatory : addressType.isMandatory = true) :
    (addresses'.filter fun p => p.addressType = addressType ∧ p.isActive).length = 1 := by
  unfold validateAddressCollection at h
  dsimp only at h
  split at h
  · cases h
  obtain ⟨normalized, -, h⟩ := Transaction.bind_eq_ok_iff.mp h
  split at h
  · cases h
  next hcounts =>
  obtain rfl := Transaction.pure_eq_ok_iff.mp h
  rw [not_or, not_not, not_not] at hcounts
  cases addressType with
  | registered => exact hcounts.1
  | billing => exact hcounts.2
  | headquarters | warehouse | custom => cases hmandatory

/-- An organisation before its addresses. -/
theorem Kept.addOrganisation (ht : Kept t) (hid : o.id = t.nextId) (hpan : IsPan o.panNumber) :
    Kept { t with organisations := t.organisations ++ [o], nextId := t.nextId + 1 } := by
  have hexists {i : OrganisationId} (hi : ∃ o ∈ t.organisations, o.id = i) :
      ∃ x ∈ t.organisations ++ [o], x.id = i := by
    obtain ⟨x, hx, rfl⟩ := hi
    exact ⟨x, List.mem_append_left _ hx, rfl⟩
  exact { ht with
    organisations := ht.organisations.append_one hid
    taxRegistrations := ht.taxRegistrations.mono (Nat.le_succ _)
    addresses := ht.addresses.mono (Nat.le_succ _)
    locations := ht.locations.mono (Nat.le_succ _)
    pan := fun x hx => by
      rcases List.mem_append.mp hx with hx | hx
      · exact ht.pan x hx
      · rw [List.mem_singleton.mp hx]
        exact hpan
    identified := { ht.identified with
      owned := fun l hl => hexists (ht.identified.owned l hl) }
    registered := { ht.registered with
      owned := fun r hr => hexists (ht.registered.owned r hr)
      pan := fun r hr hcountry x hx horganisation => by
        rcases List.mem_append.mp hx with hx | hx
        · exact ht.registered.pan r hr hcountry x hx horganisation
        · -- no registration is of an organisation that is new
          obtain ⟨y, hy, hyid⟩ := ht.registered.owned r hr
          obtain rfl := List.mem_singleton.mp hx
          exact absurd (hyid.trans (horganisation.symm.trans hid))
            (ht.organisations.ne_of_mem hy) }
    owned := fun a ha => hexists (ht.owned a ha) }

theorem mapError_eq_ok {α : Type} {x : Except String α} {y : α}
    (h : x.mapError Failure.valueError = .ok y) : x = .ok y := by
  cases x with
  | error e => cases h
  | ok z => exact congrArg Except.ok (Except.ok.inj h)

/-- **A new organisation** has its identifier, and its places are taken once. -/
theorem Sound.createOrganisation (hrules : rules.Lawful) (ht : Sound t)
    {panNumber countryCode : String} {addresses : List AddressFields}
    (h : createOrganisation rules panNumber countryCode addresses t = .ok t') :
    Sound t' ∧ Grows t t' := by
  unfold Addresses.createOrganisation at h
  obtain ⟨pan, hpan, h⟩ := Transaction.bind_eq_ok_iff.mp h
  obtain ⟨addresses', haddresses, h⟩ := Transaction.bind_eq_ok_iff.mp h
  obtain ⟨country, -, h⟩ := Transaction.bind_eq_ok_iff.mp h
  have hcounts := validateAddressCollection_spec (mapError_eq_ok haddresses)
  have hisPan := IsPan.of_validatePanNumber hrules (mapError_eq_ok hpan)
  have hadds := adds_createAddresses hrules (ht.kept.addOrganisation rfl hisPan)
    (List.mem_append_right _ (List.mem_singleton_self _)) h
  have hne : addresses' ≠ [] := by
    rintro rfl
    exact absurd (hcounts .billing rfl) (by decide)
  have hgrows : Grows t t' := hadds.grows
  refine ⟨⟨hadds.kept, fun x hx => ?_, fun x hx addressType hmandatory => ?_⟩, hgrows⟩
  · rw [hadds.organisations] at hx
    rcases List.mem_append.mp hx with hx | hx
    · obtain ⟨l, hl, horganisation⟩ := ht.identified x hx
      exact ⟨l, hgrows.subset hl, horganisation⟩
    · rw [List.mem_singleton.mp hx]
      exact hadds.identified hne
  · rw [hadds.organisations] at hx
    rw [hadds.actives x.id addressType hmandatory]
    rcases List.mem_append.mp hx with hx | hx
    · rw [if_neg (ht.kept.organisations.ne_of_mem hx), add_zero]
      exact ht.one x hx addressType hmandatory
    · rw [List.mem_singleton.mp hx, if_pos rfl, hcounts addressType hmandatory]
      -- no address is of an organisation that is new
      have hnone : Addresses.actives t.nextId addressType t.addresses = [] := by
        refine List.filter_eq_nil_iff.mpr fun a ha hthe => ?_
        obtain ⟨y, hy, hyid⟩ := ht.kept.owned a ha
        exact ht.kept.organisations.ne_of_mem hy (hyid.trans (isThe_iff.mp hthe).1)
      exact congrArg (·.length + 1) hnone

/-! ## Runs -/

/-- The row that a request names is in its table. -/
theorem execute_withRow {α : Type} {row : Option α} {next : α → List Statement}
    {P : AddressTables → Prop} (hsame : P t)
    (hnext : ∀ a, row = some a → P (Autocommit.execute (next a) t).2) :
    P (Autocommit.execute (withRow row next) t).2 := by
  cases row with
  | none => exact hsame
  | some a => exact hnext a rfl

/-- One statement. -/
theorem execute_one {f : Statement} {P : AddressTables → Prop} (hsame : P t)
    (hf : ∀ t', f t = .ok t' → P t') : P (Autocommit.execute [f] t).2 := by
  cases h : f t with
  | error e =>
    rw [Autocommit.execute_cons_error h]
    exact hsame
  | ok t' =>
    rw [Autocommit.execute_cons_ok h]
    exact hf t' h

theorem serve_createAddress (ht : Kept t) (ho : o ∈ t.organisations) (payload : AddressFields)
    (autoCreateLocation : Bool) :
    serve rules t (.createAddress o.id payload autoCreateLocation)
      = Autocommit.execute (createOrganisationAddress rules o payload autoCreateLocation) t := by
  show Autocommit.execute (withRow (Table.find Organisation.id o.id t.organisations) fun o =>
    createOrganisationAddress rules o payload autoCreateLocation) t = _
  rw [(Table.find_eq_some_iff ht.organisations.unique).mpr ⟨ho, rfl⟩]
  rfl

theorem serve_updateAddress (ht : Kept t) (ha : a ∈ t.addresses) (ho : o ∈ t.organisations)
    (hao : a.organisation = o.id) (changes : AddressChanges) :
    serve rules t (.updateAddress a.id changes)
      = Autocommit.execute (updateOrganisationAddress rules o a changes t) t := by
  show Autocommit.execute (withRow (Table.find Address.id a.id t.addresses) fun a =>
    withRow (Table.find Organisation.id a.organisation t.organisations) fun o =>
      updateOrganisationAddress rules o a changes t) t = _
  rw [(Table.find_eq_some_iff ht.addresses.unique).mpr ⟨ha, rfl⟩]
  show Autocommit.execute (withRow (Table.find Organisation.id a.organisation t.organisations)
    fun o => updateOrganisationAddress rules o a changes t) t = _
  rw [(Table.find_eq_some_iff ht.organisations.unique).mpr ⟨ho, hao.symm⟩]
  rfl

/-- **What a request keeps**, other than the creation of an organisation. -/
theorem keeps_step (hrules : rules.Lawful) (ht : Sound t) (request : Request)
    (hrequest : ∀ panNumber countryCode addresses,
      request ≠ .createOrganisation panNumber countryCode addresses) :
    Keeps t (step rules t request) := by
  have hsame := Keeps.refl ht.kept
  unfold step serve
  cases request with
  | createOrganisation panNumber countryCode addresses =>
    exact absurd rfl (hrequest panNumber countryCode addresses)
  | updateProfile organisation panNumber countryCode =>
    exact execute_withRow hsame fun o ho =>
      keeps_updateProfile hrules ht.kept (Table.find_mem ho) panNumber countryCode
  | createAddress organisation payload autoCreateLocation =>
    exact execute_withRow hsame fun o ho =>
      keeps_createAddress hrules ht (Table.find_mem ho) payload autoCreateLocation
  | updateAddress address changes =>
    refine execute_withRow hsame fun a ha => execute_withRow hsame fun o ho => ?_
    exact keeps_updateAddress hrules ht (Table.find_mem ho) (Table.find_mem ha)
      (Table.find_key ho).symm changes
  | deactivateAddress address =>
    exact execute_withRow hsame fun a ha => keeps_deactivateAddress ht (Table.find_mem ha)
  | createLocation organisation name address isRemote =>
    refine execute_one hsame fun t' h => ?_
    have hkept := ht.kept.createLocation h
    obtain ⟨ls, n, rfl⟩ := createLocation_cases h
    exact Keeps.of_locations hkept
  | updateLocation location changes =>
    refine execute_withRow hsame fun l hl => execute_one hsame fun t' h => ?_
    have hkept := ht.kept.updateLocation (Table.find_mem hl) h
    obtain ⟨l', -, -, -, -, -, rfl⟩ := updateLocation_cases h
    exact Keeps.of_locations hkept
  | deactivateLocation location hasEmployees =>
    refine execute_withRow hsame fun l _ => execute_one hsame fun t' h => ?_
    have hkept := ht.kept.deactivateLocation h
    obtain ⟨ls, rfl⟩ := deactivateLocation_cases h
    exact Keeps.of_locations hkept

theorem Sound.step (hrules : rules.Lawful) (ht : Sound t) (request : Request) :
    Sound (step rules t request) ∧ Grows t (step rules t request) := by
  cases hrequest : request with
  | createOrganisation panNumber countryCode addresses =>
    exact execute_one (P := fun t' => Sound t' ∧ Grows t t') ⟨ht, List.prefix_rfl⟩
      fun t' h => ht.createOrganisation hrules h
  | _ =>
    have hkeeps := keeps_step hrules ht request (by rw [hrequest]; exact fun _ _ _ => nofun)
    rw [hrequest] at hkeeps
    exact ⟨ht.of_keeps hkeeps, hkeeps.grows⟩

theorem Sound.exec (hrules : rules.Lawful) (ht : Sound t) (requests : List Request) :
    Sound (Run.exec (Addresses.step rules) t requests)
      ∧ Grows t (Run.exec (Addresses.step rules) t requests) :=
  Run.invariant (I := fun t' => Sound t' ∧ Grows t t')
    (fun _ request h => ⟨(h.1.step hrules request).1, h.2.trans (h.1.step hrules request).2⟩)
    ⟨ht, List.prefix_rfl⟩ requests

/-- The one address that takes a place. -/
theorem Sound.exists_the (ht : Sound t) (ho : o ∈ t.organisations) (addressType : AddressType)
    (hmandatory : addressType.isMandatory = true) :
    ∃ a ∈ t.addresses, ∀ b ∈ t.addresses, b.isThe o.id addressType = true ↔ b = a := by
  obtain ⟨a, ha⟩ := List.length_eq_one_iff.mp (ht.one o ho addressType hmandatory)
  have hmem {b : Address} :
      b ∈ t.addresses ∧ b.isThe o.id addressType = true ↔ b = a := by
    rw [← List.mem_filter]
    show b ∈ actives o.id addressType t.addresses ↔ _
    rw [ha, List.mem_singleton]
  refine ⟨a, (hmem.mpr rfl).1, fun b hb => ⟨fun hthe => hmem.mp ⟨hb, hthe⟩, ?_⟩⟩
  rintro rfl
  exact (hmem.mpr rfl).2

/-- **In every run**, an organisation has one active registered address and one active address
that is billed. In India this names a tax registration of the organisation itself, and that
contains its PAN. -/
theorem organisations_sound (hrules : rules.Lawful) (requests : List Request) :
    let t := Run.exec (step rules) empty requests
    ∀ o ∈ t.organisations,
      (∃ a ∈ t.addresses, ∀ b ∈ t.addresses, b.isThe o.id .registered = true ↔ b = a)
      ∧ ∃ a ∈ t.addresses, (∀ b ∈ t.addresses, b.isThe o.id .billing = true ↔ b = a)
        ∧ (a.fields.countryCode = "IN" → ∃ r ∈ t.taxRegistrations,
          a.taxRegistration = some r.id ∧ a.fields.gstin = some r.identifier
            ∧ (∀ r' ∈ t.taxRegistrations, r'.key = r.key → r'.organisation = o.id)
            ∧ panOf r.identifier = o.panNumber) := by
  intro t o ho
  have ht : Sound t := (Sound.empty.exec hrules requests).1
  refine ⟨ht.exists_the ho .registered rfl, ?_⟩
  obtain ⟨a, ha, hone⟩ := ht.exists_the ho .billing rfl
  refine ⟨a, ha, hone, fun hcountry => ?_⟩
  obtain ⟨horganisation, htype, -⟩ := isThe_iff.mp ((hone a ha).mpr rfl)
  have hnames := ht.kept.names a ha
  unfold Names at hnames
  split at hnames
  · exact absurd ⟨htype, hcountry⟩ hnames.2
  · next i hi =>
    obtain ⟨r, hr, rfl, hro, hgstin, hcountry'⟩ := hnames
    refine ⟨r, hr, hi, hgstin, fun r' hr' hkey => ?_, ?_⟩
    · rw [ht.kept.registered.unique.eq_of_key hr' hr hkey, hro, horganisation]
    · exact ht.kept.registered.pan r hr (hcountry'.symm.trans hcountry) o ho
        (horganisation.symm.trans hro.symm)

theorem organisations_sound_sample :
    ∃ o ∈ Sample.created.organisations, ∃ r ∈ Sample.created.taxRegistrations,
      panOf r.identifier = o.panNumber := by
  have hsound := organisations_sound Sample.rules_lawful [Sample.creation]
  rw [Run.exec_cons, Sample.step_creation] at hsound
  obtain ⟨-, a, ha, -, hbilling⟩ := hsound ⟨0, "ABCDE1234F", "IN"⟩ (by decide)
  have hcountry : ∀ a ∈ Sample.created.addresses, a.fields.countryCode = "IN" := by decide
  obtain ⟨r, hr, -, -, -, hpan⟩ := hbilling (hcountry a ha)
  exact ⟨_, List.mem_singleton_self _, r, hr, hpan⟩

/-! ## The identity of an organisation -/

/-- A request on addresses starts with the identifier. -/
theorem sync_stopped (hrules : rules.Lawful) (ht : Sound t) (ho : o ∈ t.organisations)
    {l : LegalIdentifier} (hl : l ∈ t.legalIdentifiers) (hlo : l.organisation = o.id)
    (hne : (o.countryCode, o.panNumber) ≠ l.key) (rest : List Statement) :
    (Autocommit.execute (syncAddressTaxRegistration rules o payload ++ rest) t).2 = t := by
  have hpan := ht.kept.pan o ho
  cases h : upsertPrimaryLegalIdentifier rules o t with
  | error e =>
    unfold syncAddressTaxRegistration
    rw [if_neg hpan.ne_empty, List.append_assoc, List.append_assoc, List.singleton_append,
      Autocommit.execute_cons_error h]
  | ok t' =>
    rcases upsert_cases hrules ht.kept hpan h with ⟨-, l', hl', hlo', hkey⟩ | ⟨hnew, -⟩
    · rw [ht.kept.identified.one.eq_of_key hl' hl (hlo'.trans hlo.symm)] at hkey
      exact absurd hkey.symm hne
    · exact absurd hlo (hnew l hl).2

/-- **The identity of an organisation is permanent.** Whatever is asked for later, it has the
one legal identifier that it was created with; and while its country and its PAN are not those
of this identifier, every request to add or to edit an address of it leaves all tables as they
are. -/
theorem identity_permanent (hrules : rules.Lawful) (requests later : List Request) :
    let t := Run.exec (step rules) empty requests
    let t' := Run.exec (step rules) t later
    ∀ o ∈ t.organisations, ∃ l ∈ t.legalIdentifiers,
      (∀ l' ∈ t'.legalIdentifiers, l'.organisation = o.id ↔ l' = l)
      ∧ ∀ o' ∈ t'.organisations, o'.id = o.id → (o'.countryCode, o'.panNumber) ≠ l.key →
        (∀ payload autoCreateLocation,
          step rules t' (.createAddress o.id payload autoCreateLocation) = t')
        ∧ ∀ a ∈ t'.addresses, a.organisation = o.id → ∀ changes,
          step rules t' (.updateAddress a.id changes) = t' := by
  intro t t' o ho
  have ht : Sound t := (Sound.empty.exec hrules requests).1
  obtain ⟨ht', hgrows⟩ := ht.exec hrules later
  change Sound t' at ht'
  obtain ⟨l, hl, hlo⟩ := ht.identified o ho
  have hl' : l ∈ t'.legalIdentifiers := hgrows.subset hl
  refine ⟨l, hl, fun l' hmem => ⟨fun h => ?_, ?_⟩, fun o' ho' hid hne => ?_⟩
  · exact ht'.kept.identified.one.eq_of_key hmem hl' (h.trans hlo.symm)
  · rintro rfl
    exact hlo
  have hlo' : l.organisation = o'.id := hlo.trans hid.symm
  constructor
  · intro payload autoCreateLocation
    rw [← hid, step, serve_createAddress ht'.kept ho']
    unfold createOrganisationAddress checked
    split
    · rfl
    split
    · rfl
    · exact sync_stopped hrules ht' ho' hl' hlo' hne _
  · intro a ha hao changes
    rw [step, serve_updateAddress ht'.kept ha ho' (hao.trans hid.symm)]
    unfold updateOrganisationAddress checked
    split
    · rfl
    · exact sync_stopped hrules ht' ho' hl' hlo' hne _

/-- An organisation that has moved to another country. -/
theorem identity_permanent_sample :
    step Sample.rules (step Sample.rules Sample.created (.updateProfile 0 none (some "US")))
        (.createAddress 0 (Sample.payload .warehouse) true)
      = step Sample.rules Sample.created (.updateProfile 0 none (some "US")) := by
  have hpermanent := identity_permanent Sample.rules_lawful [Sample.creation]
    [.updateProfile 0 none (some "US")]
  rw [Run.exec_cons, Sample.step_creation] at hpermanent
  obtain ⟨l, hl, -, hstopped⟩ := hpermanent ⟨0, "ABCDE1234F", "IN"⟩ (by decide)
  refine (hstopped ⟨0, "ABCDE1234F", "US"⟩ (by decide +kernel) rfl ?_).1 _ _
  rw [List.mem_singleton.mp hl]
  decide

end Addresses
