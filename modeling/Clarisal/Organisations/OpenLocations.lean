import Clarisal.Organisations.AddressRuns

/-!
# Where the open locations are

An office location copies the text of its address, and follows it when this is edited. It is
open while it is active. To deactivate an address is refused while a location at it is open;
to edit its `is_active` is not, unless the organisation needs the address. The locations that
are open are therefore at addresses in use exactly as long as no such edit is accepted.
-/

namespace Addresses

open Approvals (OrganisationId)

variable {rules : CountryRules} {t t' : AddressTables} {o : Organisation} {a : Address}
  {l : OfficeLocation} {payload : AddressFields}

/-- **The open locations are at addresses in use.** -/
def Open (t : AddressTables) : Prop :=
  ∀ l ∈ t.locations, l.isActive = true → ∀ a ∈ t.addresses, l.organisationAddress = some a.id →
    a.fields.isActive = true

theorem Open.of_leaves (h : Open t) (hleaves : Leaves t t') : Open t' := by
  unfold Open
  rw [hleaves.locations, hleaves.addresses]
  exact h

/-- An address that is written while its locations are closed, or that is in use. -/
theorem Open.save (h : Open t) {a' : Address} (hid : a'.id = a.id)
    (hactive : a'.fields.isActive = true
      ∨ ∀ l ∈ t.locations, l.organisationAddress = some a.id → l.isActive = false) :
    Open { t with addresses := Table.save Address.id a' t.addresses } := by
  intro l hl hopen b hb hat
  rcases Table.mem_save hb with rfl | ⟨hb, -⟩
  · rcases hactive with hactive | hclosed
    · exact hactive
    · rw [hid] at hat
      rw [hclosed l hl hat] at hopen
      cases hopen
  · exact h l hl hopen b hb hat

/-- A location that is written at an address in use, or that stays where it was. -/
theorem Open.saveLocation (ht : Kept t) (h : Open t) (hlocation :
      (∃ a ∈ t.addresses, IsAt l a ∧ a.fields.isActive = true)
        ∨ ∃ l' ∈ t.locations, l'.isActive = l.isActive
          ∧ l'.organisationAddress = l.organisationAddress) :
    ∀ ls : List OfficeLocation, (∀ x ∈ ls, x ∈ t.locations ∨ x = l) → ∀ n,
      Open { t with locations := ls, nextId := n } := by
  intro ls hls n x hx hopen b hb hat
  rcases hls x hx with hx | rfl
  · exact h x hx hopen b hb hat
  · rcases hlocation with ⟨a, ha, hxa, hactive⟩ | ⟨l', hl', hactive', haddress⟩
    · rw [hxa.organisationAddress] at hat
      rwa [ht.addresses.unique.eq_of_key hb ha (Option.some.inj hat).symm]
    · exact h l' hl' (hactive'.trans hopen) b hb (haddress.trans hat)

/-- A default location is at its address. -/
theorem Open.ensureDefaultLocation (ht : Kept t) (h : Open t) (ha : a ∈ t.addresses)
    (hactive : a.fields.isActive = true) : Open (ensureDefaultLocation a t) := by
  unfold Addresses.ensureDefaultLocation
  split
  · next l hfind =>
    have horganisation : l.organisation = a.organisation := by
      have := List.find?_some hfind
      rw [decide_eq_true_eq] at this
      exact this.1
    have hat : IsAt { l.at a with isActive := true, isRemote := false } a :=
      ⟨horganisation, rfl⟩
    refine h.saveLocation ht (Or.inl ⟨a, ha, hat, hactive⟩) _ ?_ t.nextId
    exact fun x hx => (Table.mem_save hx).elim Or.inr fun hx => Or.inl hx.1
  · refine h.saveLocation ht (Or.inl ⟨a, ha, isAt_at ?_, hactive⟩) _ (fun x hx =>
      (List.mem_append.mp hx).imp_right List.mem_singleton.mp) (t.nextId + 1)
    rfl

/-- A new address has no location yet. -/
theorem Open.insertAddress (hrules : rules.Lawful) (ht : Kept t) (ho : o ∈ t.organisations)
    (hensured : Ensured rules o payload t) (hpayload : Checked o.panNumber payload)
    (hopen : Open t) {autoCreateLocation : Bool}
    (h : insertAddress rules o payload autoCreateLocation t = .ok t') : Open t' := by
  have hadded : Open { t with
      addresses := t.addresses ++ [addressRow rules t.nextId o.id payload t]
      nextId := t.nextId + 1 } := by
    intro l hl hactive b hb hat
    rcases List.mem_append.mp hb with hb | hb
    · exact hopen l hl hactive b hb hat
    · obtain ⟨c, hc, hlc⟩ := ht.located.placed l hl
      rw [List.mem_singleton.mp hb, hlc.organisationAddress] at hat
      exact absurd (Option.some.inj hat) (ht.addresses.ne_of_mem hc)
  rcases (insertAddress_cases h).2 with rfl | ⟨hactive, rfl⟩
  · exact hadded
  · exact hadded.ensureDefaultLocation (ht.addAddress hrules ho hensured hpayload)
      (List.mem_append_right _ (List.mem_singleton_self _)) hactive

/-! ## The requests that keep them so -/

/-- **An edit that closes an address** is not accepted while a location at it is open. -/
def KeepsOpen (rules : CountryRules) (t : AddressTables) : Request → Prop
  | .updateAddress address changes =>
    changes.isActive = some false → (serve rules t (.updateAddress address changes)).1 = none →
      ∀ l ∈ t.locations, l.organisationAddress = some address → l.isActive = false
  | _ => True

theorem open_createAddress (hrules : rules.Lawful) (ht : Kept t) (ho : o ∈ t.organisations)
    (hopen : Open t) (payload : AddressFields) (autoCreateLocation : Bool) :
    Open (Autocommit.execute
      (createOrganisationAddress rules o payload autoCreateLocation) t).2 := by
  unfold createOrganisationAddress checked
  split
  · exact hopen
  split
  · exact hopen
  next payload' hpayload =>
  obtain ⟨hchecked, -, -⟩ := normalizeAddressPayload_spec hrules (ht.pan o ho) hpayload
  refine after_sync hrules ht ho hchecked (hopen.of_leaves (ht.sync hrules ho hchecked).2)
    fun t₁ t₂ ht₁ hleaves hensured _ h => ?_
  exact (hopen.of_leaves hleaves).insertAddress hrules ht₁ (hleaves.organisations ▸ ho) hensured
    hchecked h

/-- A location that moves with its address stays open or closed. -/
theorem Open.saveAddress (ha : a ∈ t.addresses) (hopen : Open t)
    (h : saveAddress rules a payload t = .ok t')
    (hactive : a.fields.isActive = true → payload.isActive = true
      ∨ ∀ l ∈ t.locations, l.organisationAddress = some a.id → l.isActive = false) : Open t' := by
  obtain ⟨-, rfl⟩ := saveAddress_cases h
  intro l hl hlactive b hb hat
  obtain ⟨l', hl', rfl⟩ := Table.mem_update.mp hl
  by_cases hthere : l'.organisationAddress = some a.id
  · rw [if_pos (decide_eq_true hthere)] at hlactive hat
    have hbid : a.id = b.id := Option.some.inj hat
    have hb' : b = addressRow rules a.id a.organisation payload t := by
      rcases Table.mem_save hb with rfl | ⟨-, hne⟩
      · rfl
      · exact absurd hbid.symm hne
    rw [hb']
    rcases hactive (hopen l' hl' hlactive a ha hthere) with hactive | hclosed
    · exact hactive
    · exact absurd ((hclosed l' hl' hthere).symm.trans hlactive) Bool.false_ne_true
  · rw [if_neg (by simpa using hthere)] at hlactive hat
    rcases Table.mem_save hb with rfl | ⟨hb, -⟩
    · exact absurd hat hthere
    · exact hopen l' hl' hlactive b hb hat

theorem open_updateAddress (hrules : rules.Lawful) (ht : Kept t) (ho : o ∈ t.organisations)
    (ha : a ∈ t.addresses) (hopen : Open t) {changes : AddressChanges}
    (hguard : changes.isActive = some false →
      (Autocommit.execute (updateOrganisationAddress rules o a changes t) t).1 = none →
        ∀ l ∈ t.locations, l.organisationAddress = some a.id → l.isActive = false) :
    Open (Autocommit.execute (updateOrganisationAddress rules o a changes t) t).2 := by
  unfold updateOrganisationAddress checked at hguard ⊢
  cases hpayload : editedPayload rules o a changes t with
  | error message => exact hopen
  | ok payload =>
    rw [hpayload] at hguard
    dsimp only at hguard ⊢
    obtain ⟨hchecked, hactive, -, -⟩ := editedPayload_spec hrules (ht.pan o ho) hpayload
    refine after_sync hrules ht ho hchecked (hopen.of_leaves (ht.sync hrules ho hchecked).2)
      fun t₁ t₂ _ hleaves _ hdone h => ?_
    have hend : Autocommit.execute [saveAddress rules a payload] t₁ = (none, t₂) :=
      Autocommit.execute_cons_ok h
    have heq := Autocommit.execute_append_eq_none_iff.mpr ⟨t₁, hdone, hend⟩
    refine (hopen.of_leaves hleaves).saveAddress (hleaves.addresses ▸ ha) h fun hused => ?_
    rw [hleaves.locations, hactive, hused]
    cases hchange : changes.isActive with
    | none => exact Or.inl rfl
    | some b =>
      cases b with
      | true => exact Or.inl rfl
      | false => exact Or.inr (hguard hchange (congrArg Prod.fst heq))

/-- **An edit that is accepted closes the address**, and leaves its locations open. -/
theorem not_open_updateAddress (hrules : rules.Lawful) (ht : Kept t) (ho : o ∈ t.organisations)
    (ha : a ∈ t.addresses) {changes : AddressChanges} (hfalse : changes.isActive = some false)
    (haccepted : Autocommit.execute (updateOrganisationAddress rules o a changes t) t = (none, t'))
    (hl : l ∈ t.locations) (hat : l.organisationAddress = some a.id)
    (hactive : l.isActive = true) : ¬ Open t' := by
  unfold updateOrganisationAddress checked at haccepted
  split at haccepted
  · cases haccepted
  next payload hpayload =>
  obtain ⟨hchecked, hisActive, -, -⟩ := editedPayload_spec hrules (ht.pan o ho) hpayload
  obtain ⟨-, hleaves⟩ := ht.sync hrules ho hchecked
  obtain ⟨t₁, hsync, hlast⟩ := Autocommit.execute_append_eq_none_iff.mp haccepted
  obtain ⟨t₂, hsave, hnil⟩ := Autocommit.execute_cons_eq_none_iff.mp hlast
  obtain rfl : t₂ = t' := congrArg Prod.snd hnil
  rw [hsync] at hleaves
  obtain ⟨-, rfl⟩ := saveAddress_cases hsave
  have ha₁ : a ∈ t₁.addresses := hleaves.addresses ▸ ha
  intro hopen
  have hmoved : l.at (addressRow rules a.id a.organisation payload t₁)
      ∈ Table.update (fun l => l.organisationAddress = some a.id)
        (·.at (addressRow rules a.id a.organisation payload t₁)) t₁.locations :=
    Table.mem_update.mpr ⟨l, hleaves.locations ▸ hl, if_pos (decide_eq_true hat)⟩
  have hused := hopen _ hmoved hactive _ (Table.mem_save_self ha₁ rfl) rfl
  have hclosed : payload.isActive = false := by
    rw [hisActive, hfalse]
    rfl
  exact absurd (hclosed.symm.trans hused) Bool.false_ne_true

/-- A closed address has no open location: `deactivate_organisation_address` checks it. -/
theorem open_deactivateAddress (ht : Kept t) (ha : a ∈ t.addresses) (hopen : Open t) :
    Open (Autocommit.execute (deactivateOrganisationAddress a t) t).2 := by
  unfold deactivateOrganisationAddress
  split
  · exact hopen
  split
  · exact hopen
  next hnone =>
  rw [Autocommit.execute_cons_ok (switchOff_eq_save ht ha)]
  have hid : ({ a with fields := { a.fields with isActive := false } } : Address).id = a.id := rfl
  refine hopen.save hid (Or.inr fun l hl hat => ?_)
  by_contra hactive
  exact hnone (List.any_eq_true.mpr
    ⟨l, hl, decide_eq_true ⟨hat, by simpa using hactive⟩⟩)

theorem open_createAddresses (hrules : rules.Lawful) {addresses : List AddressFields}
    (ht : Kept t) (ho : o ∈ t.organisations) (hopen : Open t)
    (h : addresses.foldlM (fun t payload =>
      inTransaction (createOrganisationAddress rules o payload true) t) t = .ok t') : Open t' := by
  induction addresses generalizing t with
  | nil => exact Except.ok.inj (h : Except.ok t = .ok t') ▸ hopen
  | cons payload addresses ih =>
    rw [List.foldlM_cons] at h
    obtain ⟨t₁, hfirst, h⟩ := Transaction.bind_eq_ok_iff.mp h
    have hadds := adds_createAddress hrules ht ho hfirst
    have hopen₁ := open_createAddress hrules ht ho hopen payload true
    rw [Autocommit.foldlM_eq_ok_iff.mp hfirst] at hopen₁
    exact ih hadds.kept (hadds.organisations ▸ ho) hopen₁ h

theorem open_updateProfile (hopen : Open t) (panNumber countryCode : Option String) :
    Open (Autocommit.execute
      (updateOrganisationProfile rules o panNumber countryCode t) t).2 := by
  unfold updateOrganisationProfile checked
  split
  · exact hopen
  next o' _ =>
  refine Autocommit.execute_invariant (fun f hf t₁ t₂ hopen h => ?_) hopen
  rcases List.mem_append.mp hf with hf | hf
  · rcases List.mem_cons.mp hf with rfl | hf
    · obtain rfl := Except.ok.inj h
      exact hopen
    · obtain rfl := List.mem_singleton.mp hf
      exact hopen.of_leaves (upsert_leaves h)
  · split at hf
    · obtain rfl := List.mem_singleton.mp hf
      obtain rfl := Except.ok.inj h
      exact hopen
    · cases hf

theorem Open.createLocation (ht : Kept t) (hopen : Open t) {organisation : OrganisationId}
    {name : String} {address : AddressId} {isRemote : Bool}
    (h : createLocation organisation name address isRemote t = .ok t') : Open t' := by
  unfold Addresses.createLocation at h
  split at h
  · cases h
  next a hactive =>
  obtain ⟨ha, horganisation, -, hused⟩ := activeAddress_spec hactive
  dsimp only at h
  split at h
  · cases h
  obtain rfl := Except.ok.inj h
  refine hopen.saveLocation ht (Or.inl ⟨a, ha, isAt_at ?_, hused⟩) _
    (fun x hx => (List.mem_append.mp hx).imp_right List.mem_singleton.mp) _
  exact horganisation.symm

theorem Open.updateLocation (ht : Kept t) (hopen : Open t) (hl : l ∈ t.locations)
    {changes : LocationChanges} (h : updateLocation l changes t = .ok t') : Open t' := by
  obtain ⟨l', -, -, hactive, hat, -, rfl⟩ := updateLocation_cases h
  refine hopen.saveLocation (l := l') ht ?_ _ ?_ t.nextId
  · rcases hat with hat | hat
    · obtain ⟨a, -, hla⟩ := ht.located.placed l hl
      exact Or.inr ⟨l, hl, hactive.symm, hla.organisationAddress.trans
        (hat a hla).organisationAddress.symm⟩
    · exact Or.inl hat
  · exact fun x hx => (Table.mem_save hx).elim Or.inr fun hx => Or.inl hx.1

theorem Open.deactivateLocation (hopen : Open t) {hasEmployees : Bool}
    (h : deactivateLocation l hasEmployees t = .ok t') : Open t' := by
  unfold Addresses.deactivateLocation at h
  split at h
  · cases h
  obtain rfl := Except.ok.inj h
  intro x hx hactive
  rcases Table.mem_update_iff.mp hx with ⟨y, -, -, rfl⟩ | ⟨hx, -⟩
  · cases hactive
  · exact hopen x hx hactive

/-- **What a request leaves open.** -/
theorem open_step_iff (hrules : rules.Lawful) (ht : Sound t) (hopen : Open t)
    (request : Request) : Open (step rules t request) ↔ KeepsOpen rules t request := by
  unfold step
  cases request with
  | updateAddress address changes =>
    cases hfind : Table.find Address.id address t.addresses with
    | none =>
      have hserve : serve rules t (.updateAddress address changes) = (some .notFound, t) := by
        show Autocommit.execute (withRow (Table.find Address.id address t.addresses) _) t = _
        rw [hfind]
        rfl
      rw [KeepsOpen, hserve]
      exact ⟨fun _ _ h => (by cases h), fun _ => hopen⟩
    | some a =>
      have ha := Table.find_mem hfind
      obtain rfl := Table.find_key hfind
      obtain ⟨o, ho, hid⟩ := ht.kept.owned a ha
      rw [KeepsOpen, serve_updateAddress ht.kept ha ho hid.symm]
      refine ⟨fun hstill hfalse haccepted l hl hat => ?_, fun hguard =>
        open_updateAddress hrules ht.kept ho ha hopen hguard⟩
      by_contra hactive
      exact not_open_updateAddress hrules ht.kept ho ha hfalse
        (Prod.ext haccepted rfl) hl hat (by simpa using hactive) hstill
  | createOrganisation panNumber countryCode addresses =>
    refine iff_of_true (execute_one hopen fun t' h => ?_) trivial
    unfold createOrganisation at h
    obtain ⟨pan, hpan, h⟩ := Transaction.bind_eq_ok_iff.mp h
    obtain ⟨addresses', -, h⟩ := Transaction.bind_eq_ok_iff.mp h
    obtain ⟨country, -, h⟩ := Transaction.bind_eq_ok_iff.mp h
    have hisPan := IsPan.of_validatePanNumber hrules (mapError_eq_ok hpan)
    exact open_createAddresses hrules (ht.kept.addOrganisation rfl hisPan)
      (List.mem_append_right _ (List.mem_singleton_self _)) hopen h
  | updateProfile organisation panNumber countryCode =>
    exact iff_of_true (execute_withRow hopen fun o _ =>
      open_updateProfile hopen panNumber countryCode) trivial
  | createAddress organisation payload autoCreateLocation =>
    exact iff_of_true (execute_withRow hopen fun o ho => open_createAddress hrules ht.kept
      (Table.find_mem ho) hopen payload autoCreateLocation) trivial
  | deactivateAddress address =>
    exact iff_of_true (execute_withRow hopen fun a ha =>
      open_deactivateAddress ht.kept (Table.find_mem ha) hopen) trivial
  | createLocation organisation name address isRemote =>
    exact iff_of_true (execute_one hopen fun t' h => hopen.createLocation ht.kept h) trivial
  | updateLocation location changes =>
    exact iff_of_true (execute_withRow hopen fun l hl => execute_one hopen fun t' h =>
      hopen.updateLocation ht.kept (Table.find_mem hl) h) trivial
  | deactivateLocation location hasEmployees =>
    exact iff_of_true (execute_withRow hopen fun l _ => execute_one hopen fun t' h =>
      hopen.deactivateLocation h) trivial

/-- **A location has the text of an address of its organisation**, in every run. The open ones
are at addresses in use, in every state of a run, exactly if no edit that is accepted in it
closes an address with an open location. -/
theorem locations_exact (hrules : rules.Lawful) (requests : List Request) :
    (∀ l ∈ (Run.exec (step rules) empty requests).locations,
      ∃ a ∈ (Run.exec (step rules) empty requests).addresses,
        a.organisation = l.organisation ∧ l.organisationAddress = some a.id
          ∧ l.address = a.fields.line1 ∧ l.city = a.fields.city ∧ l.state = a.fields.state
          ∧ l.country = a.fields.country ∧ l.pincode = a.fields.pincode)
      ∧ ((∀ n, Open (Run.exec (step rules) empty (requests.take n)))
        ↔ Run.Along (step rules) (KeepsOpen rules) empty requests) := by
  refine ⟨fun l hl => ?_, ?_⟩
  · obtain ⟨a, ha, horganisation, hat⟩ :=
      (Sound.empty.exec hrules requests).1.kept.located.placed l hl
    refine ⟨a, ha, horganisation.symm, ?_⟩
    rw [← hat]
    exact ⟨rfl, rfl, rfl, rfl, rfl, rfl⟩
  · exact Run.forall_take_iff_along (I := Sound) (fun _ request ht => (ht.step hrules request).1)
      (fun _ request ht hopen => open_step_iff hrules ht hopen request) Sound.empty
      (fun _ hl => absurd hl List.not_mem_nil) requests

/-- An address that is edited to be out of use, with its location. -/
theorem locations_exact_sample :
    ¬ Run.Along (step Sample.rules) (KeepsOpen Sample.rules) empty
      [Sample.creation, .createAddress 0 (Sample.payload .warehouse) true,
        .updateAddress 7 { isActive := some false }] := by
  intro halong
  have hopen := (locations_exact Sample.rules_lawful _).2.mpr halong 3
  rw [List.take_succ_cons, Run.exec_cons, Sample.step_creation] at hopen
  revert hopen
  unfold Open
  decide +kernel

end Addresses
