import Clarisal.Lib.Numbered
import Clarisal.Lib.Transaction
import Clarisal.Organisations.Addresses

/-!
# What the requests on addresses keep

Each statement of a request keeps what the tables are to each other (`Kept`): a legal
identifier and a tax registration are of one organisation, the Indian registrations contain
its PAN, an address says of its registration what there is, and a location has the text of its
address. There is one lemma for each statement.
-/

namespace Addresses

open Approvals (OrganisationId)

/-- **What the capitals of a text are relied on for**: a text of capitals and digits is its
own, and only the empty text has none. -/
structure CountryRules.Lawful (rules : CountryRules) : Prop where
  upper_plain : ∀ s, (∀ c ∈ s.toList, c.isUpper ∨ c.isDigit) → rules.upper s = s
  upper_eq_empty : ∀ s, rules.upper s = "" → s = ""

theorem toNat_of_plain {c : Char} (hc : c.isUpper ∨ c.isDigit) :
    48 ≤ c.toNat ∧ c.toNat ≤ 57 ∨ 65 ≤ c.toNat ∧ c.toNat ≤ 90 := by
  rcases hc with hc | hc
  · exact Or.inr (of_decide_eq_true hc)
  · obtain ⟨hfrom, hto⟩ := Bool.and_eq_true_iff.mp hc
    exact Or.inl ⟨of_decide_eq_true hfrom, of_decide_eq_true hto⟩

theorem Sample.rules_lawful : Sample.rules.Lawful where
  upper_plain s hs := by
    have hmap : s.toList.map Char.toUpper = s.toList := by
      refine (List.map_congr_left fun c hc => ?_).trans (List.map_id _)
      have hrange := toNat_of_plain (hs c hc)
      refine dif_neg fun hlower => ?_
      have hfrom : 97 ≤ c.toNat := hlower.1
      omega
    show Sample.upper s = s
    rw [Sample.upper, hmap, String.ofList_toList]
  upper_eq_empty s hs := by
    have hnil : s.toList.map Char.toUpper = [] := String.ofList_eq_empty_iff.mp hs
    rw [← String.ofList_toList (s := s), List.map_eq_nil_iff.mp hnil]

variable {rules : CountryRules} {t t' : AddressTables} {o : Organisation}
  {payload payload' : AddressFields} {s : String}

/-! ## Texts -/

/-- A text of capitals and digits. -/
def Plain (s : String) : Prop := ∀ c ∈ s.toList, c.isUpper ∨ c.isDigit

def IsPan (s : String) : Prop := matchesClasses panPattern s.toList = true

def IsGstin (s : String) : Prop := matchesClasses gstinPattern s.toList = true

theorem plain_of_matchesClasses {classes : List (Char → Bool)}
    (hclasses : ∀ p ∈ classes, ∀ c, p c = true → c.isUpper ∨ c.isDigit)
    (h : matchesClasses classes s.toList = true) : Plain s := by
  obtain ⟨hlength, hall⟩ := of_decide_eq_true h
  intro c hc
  obtain ⟨i, hi, rfl⟩ := List.getElem_of_mem hc
  have hi' : i < classes.length := by omega
  have hzip : (classes[i], s.toList[i]) ∈ classes.zip s.toList := by
    rw [← List.getElem_zip (h := by simpa using ⟨hi', hi⟩)]
    exact List.getElem_mem _
  exact hclasses _ (List.getElem_mem hi') _ (List.all_eq_true.mp hall _ hzip)

theorem panPattern_plain {p : Char → Bool} (hp : p ∈ panPattern) (c : Char) (hc : p c = true) :
    c.isUpper ∨ c.isDigit := by
  simp only [panPattern, List.mem_append, List.mem_replicate, List.mem_singleton] at hp
  rcases hp with (⟨-, rfl⟩ | ⟨-, rfl⟩) | rfl
  · exact Or.inl hc
  · exact Or.inr hc
  · exact Or.inl hc

theorem gstinPattern_plain {p : Char → Bool} (hp : p ∈ gstinPattern) (c : Char)
    (hc : p c = true) : c.isUpper ∨ c.isDigit := by
  simp only [gstinPattern, List.mem_append, List.mem_replicate, List.mem_cons, List.not_mem_nil,
    or_false] at hp
  rcases hp with (⟨-, rfl⟩ | hp) | rfl | rfl | rfl
  · exact Or.inr hc
  · exact panPattern_plain hp c hc
  · simp only [Bool.or_eq_true, Bool.and_eq_true] at hc
    exact hc.imp_right And.left
  · rw [beq_iff_eq.mp hc]
    decide
  · simpa using hc

theorem IsPan.plain (h : IsPan s) : Plain s :=
  plain_of_matchesClasses (fun _ hp => panPattern_plain hp) h

theorem IsGstin.plain (h : IsGstin s) : Plain s :=
  plain_of_matchesClasses (fun _ hp => gstinPattern_plain hp) h

theorem ne_empty_of_length {classes : List (Char → Bool)} (hne : classes ≠ [])
    (h : matchesClasses classes s.toList = true) : s ≠ "" := by
  rintro rfl
  obtain ⟨hlength, -⟩ := of_decide_eq_true h
  exact hne (List.eq_nil_of_length_eq_zero hlength.symm)

theorem IsPan.ne_empty (h : IsPan s) : s ≠ "" := ne_empty_of_length (by simp [panPattern]) h

theorem IsGstin.ne_empty (h : IsGstin s) : s ≠ "" :=
  ne_empty_of_length (by simp [gstinPattern]) h

theorem not_isSpace_of_plain {c : Char} (hc : c.isUpper ∨ c.isDigit) :
    Payroll.isSpace c = false := by
  unfold Payroll.isSpace
  refine decide_eq_false fun hmem => ?_
  have hrange := toNat_of_plain hc
  simp only [List.mem_cons, List.not_mem_nil, or_false] at hmem
  omega

theorem Plain.normalIdentifier (h : Plain s) (hrules : rules.Lawful) :
    normalIdentifier rules s = s := by
  have hstrip : strip s = s := by
    unfold strip
    rw [Payroll.strip_of_not_isSpace (fun c hc => not_isSpace_of_plain (h c hc)),
      String.ofList_toList]
  rw [Addresses.normalIdentifier, hstrip, hrules.upper_plain s h]

theorem Plain.compact (h : Plain s) (hrules : rules.Lawful) : compact rules s = s := by
  have hfilter : s.toList.filter (· ≠ ' ') = s.toList :=
    List.filter_eq_self.mpr fun c hc => decide_eq_true fun hspace => by
      have := h c hc
      rw [hspace] at this
      revert this
      decide
  rw [Addresses.compact, hfilter, String.ofList_toList, hrules.upper_plain s h]

/-- A PAN that is accepted is empty or of its pattern. -/
theorem normalizePanNumber_cases {value : String} (h : normalizePanNumber rules value = .ok s) :
    compact rules value = "" ∧ s = "" ∨ IsPan s := by
  dsimp only [normalizePanNumber] at h
  split at h
  · next hempty => exact Or.inl ⟨hempty, (Except.ok.inj h).symm⟩
  · split at h
    · next hmatch =>
      obtain rfl := Except.ok.inj h
      exact Or.inr hmatch
    · cases h

theorem IsPan.normalizePanNumber (h : IsPan s) (hrules : rules.Lawful) :
    normalizePanNumber rules s = .ok s := by
  dsimp only [Addresses.normalizePanNumber]
  rw [h.plain.compact hrules, if_neg h.ne_empty]
  exact if_pos h

/-- Blanks alone are stripped. -/
theorem exists_not_isSpace {text : List Char} (h : Payroll.strip text ≠ []) :
    ∃ c ∈ Payroll.strip text, Payroll.isSpace c = false := by
  have hrev : (text.dropWhile Payroll.isSpace).reverse.dropWhile Payroll.isSpace ≠ [] := by
    simpa [Payroll.strip] using h
  refine ⟨_, ?_, List.head_dropWhile_not Payroll.isSpace hrev⟩
  rw [Payroll.strip, List.mem_reverse]
  exact List.head_mem hrev

/-- What the serializers accept is a PAN. -/
theorem IsPan.of_validatePanNumber (hrules : rules.Lawful) {value : String}
    (h : validatePanNumber rules value = .ok s) : IsPan s := by
  unfold validatePanNumber at h
  split at h
  · cases h
  · next hblank =>
    rcases normalizePanNumber_cases h with ⟨hempty, -⟩ | hpan
    · have hne : Payroll.strip value.toList ≠ [] := by
        intro hnil
        exact hblank (by rw [strip, hnil])
      obtain ⟨c, hc, hspace⟩ := exists_not_isSpace hne
      have hfilter := hrules.upper_eq_empty _ hempty
      rw [String.ofList_eq_empty_iff, List.filter_eq_nil_iff] at hfilter
      have hblank := hfilter c (by rw [strip, String.toList_ofList]; exact hc)
      have : c = ' ' := by simpa using hblank
      rw [this] at hspace
      exact absurd hspace (by decide)
    · exact hpan

/-! ## The payload of an address -/

/-- What an Indian tax identifier that is accepted is. -/
theorem isGstin_of_validate (hrules : rules.Lawful) {addressType : AddressType}
    {identifier : Option String} {panNumber stateCode g : String} (hpan : IsPan panNumber)
    (h : validateBillingTaxIdentifier rules "IN" addressType identifier panNumber stateCode
      = .ok (some g)) : IsGstin g ∧ panOf g = panNumber := by
  dsimp only [validateBillingTaxIdentifier] at h
  split at h
  · split at h <;> simp at h
  · split at h
    · next hcountry => exact absurd rfl hcountry
    · split at h
      · cases h
      · next hmatch =>
        split at h
        · cases h
        · next hpanOf =>
          rw [hpan.plain.compact hrules] at hpanOf
          have hpanOf : panOf (compact rules (identifier.getD "")) = panNumber := by
            by_contra hne
            exact hpanOf ⟨hpan.ne_empty, hne⟩
          have hg : compact rules (identifier.getD "") = g := by
            split at h
            · exact Option.some.inj (Except.ok.inj h)
            · split at h
              · cases h
              · exact Option.some.inj (Except.ok.inj h)
          rw [hg] at hmatch hpanOf
          exact ⟨not_not.mp hmatch, hpanOf⟩

/-- India bills nobody without one. -/
theorem isSome_of_validate {identifier : Option String} {panNumber stateCode : String}
    {gstin : Option String}
    (h : validateBillingTaxIdentifier rules "IN" .billing identifier panNumber stateCode
      = .ok gstin) : gstin.isSome := by
  dsimp only [validateBillingTaxIdentifier] at h
  split at h
  · rw [if_pos ⟨rfl, rfl⟩] at h
    cases h
  · split at h
    · next hcountry => exact absurd rfl hcountry
    · split at h
      · cases h
      · split at h
        · cases h
        · split at h
          · rw [← Except.ok.inj h]
            rfl
          · split at h
            · cases h
            · rw [← Except.ok.inj h]
              rfl

/-- **A payload that was checked** against the PAN of an organisation. -/
structure Checked (panNumber : String) (payload : AddressFields) : Prop where
  gstin : payload.countryCode = "IN" → ∀ g, payload.gstin = some g →
    IsGstin g ∧ panOf g = panNumber
  billing : payload.countryCode = "IN" → payload.addressType = .billing →
    payload.gstin.isSome

/-- **What the checks of a payload leave.** -/
theorem normalizeAddressPayload_spec (hrules : rules.Lawful) {panNumber : String}
    (hpan : IsPan panNumber)
    (h : normalizeAddressPayload rules payload panNumber = .ok payload') :
    Checked panNumber payload' ∧ payload'.addressType = payload.addressType
      ∧ payload'.isActive = payload.isActive := by
  unfold normalizeAddressPayload at h
  obtain ⟨countryCode, -, h⟩ := Transaction.bind_eq_ok_iff.mp h
  obtain ⟨⟨stateCode, state⟩, -, h⟩ := Transaction.bind_eq_ok_iff.mp h
  obtain ⟨pincode, -, h⟩ := Transaction.bind_eq_ok_iff.mp h
  dsimp only at h
  split at h
  · cases h
  split at h
  · cases h
  obtain ⟨gstin, hgstin, h⟩ := Transaction.bind_eq_ok_iff.mp h
  obtain rfl := Transaction.pure_eq_ok_iff.mp h
  refine ⟨⟨fun hcountry g hg => ?_, fun hcountry htype => ?_⟩, rfl, rfl⟩
  · obtain rfl : countryCode = "IN" := hcountry
    obtain rfl : gstin = some g := hg
    exact isGstin_of_validate hrules hpan hgstin
  · obtain rfl : countryCode = "IN" := hcountry
    have htype : payload.addressType = .billing := htype
    rw [htype] at hgstin
    exact isSome_of_validate hgstin

/-! ## What every statement keeps -/

/-- The legal identifiers: each is primary, and its organisation has no other. -/
structure Identified (os : List Organisation) (ls : List LegalIdentifier) : Prop where
  primary : ∀ l ∈ ls, l.isPrimary = true
  owned : ∀ l ∈ ls, ∃ o ∈ os, o.id = l.organisation
  unique : Table.Unique LegalIdentifier.key ls
  one : Table.Unique LegalIdentifier.organisation ls

/-- The tax registrations: each is of one organisation, whose PAN is in the Indian ones. -/
structure Registered (os : List Organisation) (rs : List TaxRegistration) : Prop where
  owned : ∀ r ∈ rs, ∃ o ∈ os, o.id = r.organisation
  unique : Table.Unique TaxRegistration.key rs
  type : ∀ r ∈ rs, r.registrationType = registrationTypeForCountry r.countryCode
  pan : ∀ r ∈ rs, r.countryCode = "IN" →
    ∀ o ∈ os, o.id = r.organisation → panOf r.identifier = o.panNumber
  billed : ∀ r ∈ rs, ∀ r' ∈ rs, r.organisation = r'.organisation →
    r.isPrimaryBilling = true → r'.isPrimaryBilling = true → r.id = r'.id

/-- What an address says of its registration. -/
def Names (rs : List TaxRegistration) (a : Address) : Prop :=
  match a.taxRegistration with
  | none => a.fields.gstin = none
    ∧ ¬ (a.fields.addressType = .billing ∧ a.fields.countryCode = "IN")
  | some i => ∃ r ∈ rs, r.id = i ∧ r.organisation = a.organisation
    ∧ a.fields.gstin = some r.identifier ∧ a.fields.countryCode = r.countryCode

/-- The text of a location is that of its address. -/
def IsAt (l : OfficeLocation) (a : Address) : Prop :=
  l.organisation = a.organisation ∧ l.at a = l

structure Located (as : List Address) (ls : List OfficeLocation) : Prop where
  placed : ∀ l ∈ ls, ∃ a ∈ as, IsAt l a
  named : ∀ l ∈ ls, ∀ l' ∈ ls, l.organisation = l'.organisation → l.name = l'.name → l.id = l'.id

/-- **What every statement keeps.** -/
structure Kept (t : AddressTables) : Prop where
  organisations : Numbered Organisation.id t.nextId t.organisations
  taxRegistrations : Numbered TaxRegistration.id t.nextId t.taxRegistrations
  addresses : Numbered Address.id t.nextId t.addresses
  locations : Numbered OfficeLocation.id t.nextId t.locations
  pan : ∀ o ∈ t.organisations, IsPan o.panNumber
  identified : Identified t.organisations t.legalIdentifiers
  registered : Registered t.organisations t.taxRegistrations
  owned : ∀ a ∈ t.addresses, ∃ o ∈ t.organisations, o.id = a.organisation
  names : ∀ a ∈ t.addresses, Names t.taxRegistrations a
  located : Located t.addresses t.locations

theorem Kept.empty : Kept empty where
  organisations := Numbered.nil
  taxRegistrations := Numbered.nil
  addresses := Numbered.nil
  locations := Numbered.nil
  pan _ ho := absurd ho List.not_mem_nil
  identified := ⟨fun _ hl => absurd hl List.not_mem_nil, fun _ hl => absurd hl List.not_mem_nil,
    List.nodup_nil, List.nodup_nil⟩
  registered := ⟨fun _ hr => absurd hr List.not_mem_nil, List.nodup_nil,
    fun _ hr => absurd hr List.not_mem_nil, fun _ hr => absurd hr List.not_mem_nil,
    fun _ hr => absurd hr List.not_mem_nil⟩
  owned _ ha := absurd ha List.not_mem_nil
  names _ ha := absurd ha List.not_mem_nil
  located := ⟨fun _ hl => absurd hl List.not_mem_nil, fun _ hl => absurd hl List.not_mem_nil⟩

/-! ### The legal identifier -/

/-- **What `upsert_primary_legal_identifier` does**: it finds the one identifier of the
organisation as it is, or writes it. -/
theorem upsert_cases (hrules : rules.Lawful) (ht : Kept t) (ho : IsPan o.panNumber)
    (h : upsertPrimaryLegalIdentifier rules o t = .ok t') :
    t' = t ∧ (∃ l ∈ t.legalIdentifiers, l.organisation = o.id
        ∧ l.key = (o.countryCode, o.panNumber))
      ∨ (∀ l ∈ t.legalIdentifiers, l.key ≠ (o.countryCode, o.panNumber) ∧ l.organisation ≠ o.id)
        ∧ t' = { t with
          legalIdentifiers := t.legalIdentifiers ++ [
            { id := t.nextId, organisation := o.id, countryCode := o.countryCode
              identifier := o.panNumber, isPrimary := true }]
          nextId := t.nextId + 1 } := by
  dsimp only [upsertPrimaryLegalIdentifier] at h
  rw [ho.plain.normalIdentifier hrules, if_neg ho.ne_empty] at h
  split at h
  · next l hfind =>
    split at h
    · cases h
    next horganisation =>
    split at h
    · cases h
    refine Or.inl ⟨?_, l, Table.find_mem hfind, not_not.mp horganisation, Table.find_key hfind⟩
    rw [← Except.ok.inj h, Table.update_eq_self]
    intro l' hl' _
    rw [← ht.identified.primary l' hl']
  · next hfind =>
    split at h
    · cases h
    next hother =>
    refine Or.inr ⟨fun l hl => ⟨Table.find_eq_none_iff.mp hfind l hl, fun hl' => hother ?_⟩,
      (Except.ok.inj h).symm⟩
    refine List.any_eq_true.mpr ⟨l, hl, decide_eq_true ⟨hl', ht.identified.primary l hl, ?_⟩⟩
    simp

theorem Kept.upsert (hrules : rules.Lawful) (ht : Kept t) (ho : o ∈ t.organisations)
    (h : upsertPrimaryLegalIdentifier rules o t = .ok t') : Kept t' := by
  rcases upsert_cases hrules ht (ht.pan o ho) h with ⟨rfl, -⟩ | ⟨hnew, rfl⟩
  · exact ht
  · exact { ht with
      organisations := ht.organisations.mono (Nat.le_succ _)
      taxRegistrations := ht.taxRegistrations.mono (Nat.le_succ _)
      addresses := ht.addresses.mono (Nat.le_succ _)
      locations := ht.locations.mono (Nat.le_succ _)
      identified := {
        primary := fun l hl => by
          rcases List.mem_append.mp hl with hl | hl
          · exact ht.identified.primary l hl
          · rw [List.mem_singleton.mp hl]
        owned := fun l hl => by
          rcases List.mem_append.mp hl with hl | hl
          · exact ht.identified.owned l hl
          · rw [List.mem_singleton.mp hl]
            exact ⟨o, ho, rfl⟩
        unique := ht.identified.unique.append_one fun l hl => (hnew l hl).1
        one := ht.identified.one.append_one fun l hl => (hnew l hl).2 } }

/-! ### The tax registrations -/

/-- Registrations that stand for those of before. -/
def Stands (rs rs' : List TaxRegistration) : Prop :=
  ∀ r ∈ rs, ∃ r' ∈ rs', r'.id = r.id ∧ r'.organisation = r.organisation ∧ r'.key = r.key

theorem Names.mono {rs rs' : List TaxRegistration} (hrs : Stands rs rs') {a : Address}
    (h : Names rs a) : Names rs' a := by
  unfold Names at h ⊢
  split at h
  · exact h
  · obtain ⟨r, hr, hid, horganisation, hgstin, hcountry⟩ := h
    obtain ⟨r', hr', hid', horganisation', hkey⟩ := hrs r hr
    obtain ⟨hcountry', -, hidentifier⟩ : r'.countryCode = r.countryCode
        ∧ r'.registrationType = r.registrationType ∧ r'.identifier = r.identifier := by
      simpa [TaxRegistration.key] using hkey
    exact ⟨r', hr', hid'.trans hid, horganisation'.trans horganisation,
      hgstin.trans (congrArg some hidentifier.symm), hcountry.trans hcountry'.symm⟩

/-- A write on registrations that leaves what they are. -/
structure IsWrite (f : TaxRegistration → TaxRegistration) : Prop where
  id : ∀ r, (f r).id = r.id
  organisation : ∀ r, (f r).organisation = r.organisation
  key : ∀ r, (f r).key = r.key

theorem isWrite_billed (b : Bool) :
    IsWrite fun r : TaxRegistration => { r with isPrimaryBilling := b } :=
  ⟨fun _ => rfl, fun _ => rfl, fun _ => rfl⟩

theorem IsWrite.countryCode {f : TaxRegistration → TaxRegistration} (h : IsWrite f)
    (r : TaxRegistration) : (f r).countryCode = r.countryCode := congrArg Prod.fst (h.key r)

theorem IsWrite.identifier {f : TaxRegistration → TaxRegistration} (h : IsWrite f)
    (r : TaxRegistration) : (f r).identifier = r.identifier := congrArg (·.2.2) (h.key r)

theorem IsWrite.registrationType {f : TaxRegistration → TaxRegistration} (h : IsWrite f)
    (r : TaxRegistration) : (f r).registrationType = r.registrationType :=
  congrArg (·.2.1) (h.key r)

theorem IsWrite.stands {f : TaxRegistration → TaxRegistration} (h : IsWrite f)
    (p : TaxRegistration → Bool) (rs : List TaxRegistration) : Stands rs (Table.update p f rs) := by
  intro r hr
  refine ⟨_, Table.mem_update.mpr ⟨r, hr, rfl⟩, ?_⟩
  split
  · exact ⟨h.id r, h.organisation r, h.key r⟩
  · exact ⟨rfl, rfl, rfl⟩

/-- **A write on registrations** that bills no second one of an organisation. -/
theorem Kept.write (ht : Kept t) {f : TaxRegistration → TaxRegistration} (hf : IsWrite f)
    {p : TaxRegistration → Bool}
    (hbilled : ∀ r ∈ Table.update p f t.taxRegistrations,
      ∀ r' ∈ Table.update p f t.taxRegistrations, r.organisation = r'.organisation →
        r.isPrimaryBilling = true → r'.isPrimaryBilling = true → r.id = r'.id) :
    Kept { t with taxRegistrations := Table.update p f t.taxRegistrations } := by
  have hmem {r : TaxRegistration} (hr : r ∈ Table.update p f t.taxRegistrations) :
      ∃ r' ∈ t.taxRegistrations, r.organisation = r'.organisation
        ∧ r.countryCode = r'.countryCode ∧ r.identifier = r'.identifier
        ∧ r.registrationType = r'.registrationType := by
    obtain ⟨r', hr', rfl⟩ := Table.mem_update.mp hr
    refine ⟨r', hr', ?_⟩
    split
    · exact ⟨hf.organisation r', hf.countryCode r', hf.identifier r', hf.registrationType r'⟩
    · exact ⟨rfl, rfl, rfl, rfl⟩
  exact { ht with
    taxRegistrations := ht.taxRegistrations.update hf.id
    registered := {
      owned := fun r hr => by
        obtain ⟨r', hr', horganisation, -⟩ := hmem hr
        rw [horganisation]
        exact ht.registered.owned r' hr'
      unique := ht.registered.unique.update hf.key
      type := fun r hr => by
        obtain ⟨r', hr', -, hcountry, -, htype⟩ := hmem hr
        rw [htype, hcountry]
        exact ht.registered.type r' hr'
      pan := fun r hr hcountry o ho horganisation => by
        obtain ⟨r', hr', horganisation', hcountry', hidentifier, -⟩ := hmem hr
        rw [hidentifier]
        exact ht.registered.pan r' hr' (hcountry'.symm.trans hcountry) o ho
          (horganisation.trans horganisation')
      billed := hbilled }
    names := fun a ha => (ht.names a ha).mono (hf.stands p _) }

/-- A write that bills none. -/
theorem Kept.write_of_billed (ht : Kept t) {f : TaxRegistration → TaxRegistration}
    (hf : IsWrite f) (hbilled : ∀ r, (f r).isPrimaryBilling = true → r.isPrimaryBilling = true)
    (p : TaxRegistration → Bool) :
    Kept { t with taxRegistrations := Table.update p f t.taxRegistrations } := by
  refine ht.write hf fun r hr r' hr' horganisation hr₁ hr₂ => ?_
  have hmem {r : TaxRegistration} (hr : r ∈ Table.update p f t.taxRegistrations)
      (hprimary : r.isPrimaryBilling = true) :
      ∃ r' ∈ t.taxRegistrations, r.id = r'.id ∧ r.organisation = r'.organisation
        ∧ r'.isPrimaryBilling = true := by
    obtain ⟨r', hr', rfl⟩ := Table.mem_update.mp hr
    refine ⟨r', hr', ?_⟩
    split at hprimary
    · next hp =>
      rw [if_pos hp]
      exact ⟨hf.id r', hf.organisation r', hbilled r' hprimary⟩
    · next hp =>
      rw [if_neg hp]
      exact ⟨rfl, rfl, hprimary⟩
  obtain ⟨x, hx, hid, horg, hbill⟩ := hmem hr hr₁
  obtain ⟨x', hx', hid', horg', hbill'⟩ := hmem hr' hr₂
  rw [hid, hid']
  exact ht.registered.billed x hx x' hx' (horg.symm.trans (horganisation.trans horg')) hbill hbill'

/-- The identifier that a payload is registered under, in India. -/
theorem Checked.normalIdentifier (hrules : rules.Lawful) {panNumber : String}
    (h : Checked panNumber payload) (hcountry : payload.countryCode = "IN")
    (hne : normalIdentifier rules (payload.gstin.getD "") ≠ "") :
    panOf (normalIdentifier rules (payload.gstin.getD "")) = panNumber := by
  cases hgstin : payload.gstin with
  | none =>
    rw [hgstin] at hne
    have hplain : Plain "" := fun c hc => absurd hc List.not_mem_nil
    exact absurd (hplain.normalIdentifier hrules) hne
  | some g =>
    obtain ⟨hg, hpan⟩ := h.gstin hcountry g hgstin
    rw [Option.getD_some, hg.plain.normalIdentifier hrules, hpan]

theorem stands_append (rs : List TaxRegistration) (r : TaxRegistration) : Stands rs (rs ++ [r]) :=
  fun r' hr' => ⟨r', List.mem_append_left _ hr', rfl, rfl, rfl⟩

/-- **What `ensure_tax_registration` does**: nothing, a write on the registration it finds, or
a new one. -/
theorem ensure_cases (h : ensureTaxRegistration rules o payload t = .ok t') :
    (registrationOf rules payload t = none ∧ t' = t
        ∧ normalIdentifier rules (payload.gstin.getD "") = "")
      ∨ (∃ r f, registrationOf rules payload t = some r ∧ r.organisation = o.id
        ∧ t' = { t with
          taxRegistrations := Table.update (fun r' => r'.id = r.id) f t.taxRegistrations }
        ∧ IsWrite f ∧ ∀ r, (f r).isPrimaryBilling = r.isPrimaryBilling)
      ∨ ∃ r : TaxRegistration, (∀ r' ∈ t.taxRegistrations, r'.key ≠ r.key)
        ∧ r.id = t.nextId ∧ r.organisation = o.id ∧ r.key = registrationKey rules payload
        ∧ r.isPrimaryBilling = false ∧ normalIdentifier rules (payload.gstin.getD "") ≠ ""
        ∧ t' = { t with
          taxRegistrations := t.taxRegistrations ++ [r], nextId := t.nextId + 1 } := by
  unfold ensureTaxRegistration at h
  split at h
  · next hempty =>
    exact Or.inl ⟨by rw [registrationOf, if_pos hempty], (Except.ok.inj h).symm, hempty⟩
  next hne =>
  split at h
  · next r hfind =>
    split at h
    · cases h
    next horganisation =>
    refine Or.inr (Or.inl ⟨r, _, ?_, not_not.mp horganisation, (Except.ok.inj h).symm,
      ⟨fun _ => rfl, fun _ => rfl, fun _ => rfl⟩, fun _ => rfl⟩)
    rw [registrationOf, if_neg hne, hfind]
  · next hfind =>
    refine Or.inr (Or.inr ⟨_, ?_, rfl, rfl, rfl, rfl, hne, (Except.ok.inj h).symm⟩)
    exact fun r' hr' => Table.find_eq_none_iff.mp hfind r' hr'

theorem Kept.ensure (hrules : rules.Lawful) (ht : Kept t) (ho : o ∈ t.organisations)
    (hpayload : Checked o.panNumber payload)
    (h : ensureTaxRegistration rules o payload t = .ok t') : Kept t' := by
  rcases ensure_cases h with ⟨-, rfl, -⟩ | ⟨r, f, -, -, rfl, hf, hbilled⟩
    | ⟨r, hnew, hid, horganisation, hkey, hprimary, hne, rfl⟩
  · exact ht
  · exact ht.write_of_billed hf (fun r hr => (hbilled r).symm.trans hr) _
  · have hmem {r' : TaxRegistration} (hr' : r' ∈ t.taxRegistrations ++ [r]) :
        r' ∈ t.taxRegistrations ∨ r' = r :=
      (List.mem_append.mp hr').imp_right List.mem_singleton.mp
    exact { ht with
      organisations := ht.organisations.mono (Nat.le_succ _)
      taxRegistrations := ht.taxRegistrations.append_one hid
      addresses := ht.addresses.mono (Nat.le_succ _)
      locations := ht.locations.mono (Nat.le_succ _)
      registered := {
        owned := fun r' hr' => by
          rcases hmem hr' with hr' | rfl
          · exact ht.registered.owned r' hr'
          · exact ⟨o, ho, horganisation.symm⟩
        unique := ht.registered.unique.append_one hnew
        type := fun r' hr' => by
          rcases hmem hr' with hr' | rfl
          · exact ht.registered.type r' hr'
          · have hcountry : r'.countryCode = payload.countryCode := congrArg Prod.fst hkey
            rw [hcountry]
            exact congrArg (·.2.1) hkey
        pan := fun r' hr' hcountry o' ho' horganisation' => by
          rcases hmem hr' with hr' | rfl
          · exact ht.registered.pan r' hr' hcountry o' ho' horganisation'
          · have hpayloadCountry : payload.countryCode = "IN" :=
              (congrArg Prod.fst hkey).symm.trans hcountry
            have hidentifier : r'.identifier = normalIdentifier rules (payload.gstin.getD "") :=
              congrArg (·.2.2) hkey
            rw [hidentifier, hpayload.normalIdentifier hrules hpayloadCountry hne,
              ht.organisations.unique.eq_of_key ho ho' (horganisation.symm.trans
                horganisation'.symm)]
        billed := fun r' hr' r'' hr'' horg hbill hbill' => by
          rcases hmem hr' with hr' | rfl
          · rcases hmem hr'' with hr'' | rfl
            · exact ht.registered.billed r' hr' r'' hr'' horg hbill hbill'
            · rw [hprimary] at hbill'
              cases hbill'
          · rw [hprimary] at hbill
            cases hbill }
      names := fun a ha => (ht.names a ha).mono (stands_append _ r) }

theorem Kept.clear (ht : Kept t) (h : clearPrimaryBilling rules o payload t = .ok t') :
    Kept t' := by
  obtain rfl := Except.ok.inj h
  exact ht.write_of_billed (isWrite_billed false) (fun _ hr => absurd hr Bool.false_ne_true) _

theorem Kept.set (ht : Kept t) (h : setPrimaryBilling rules payload t = .ok t') : Kept t' := by
  unfold setPrimaryBilling at h
  split at h
  · exact Except.ok.inj h ▸ ht
  next r hr =>
  split at h
  · cases h
  next hnone =>
  obtain rfl := Except.ok.inj h
  have hfind : r ∈ t.taxRegistrations := by
    unfold registrationOf at hr
    split at hr
    · cases hr
    · exact Table.find_mem hr
  -- a billed registration of the organisation is the one that is written
  have hmem {x : TaxRegistration} (hx : x ∈ Table.update (fun r' => r'.id = r.id)
      (fun r' => { r' with isPrimaryBilling := true }) t.taxRegistrations)
      (hbill : x.isPrimaryBilling = true) :
      x.id = r.id ∧ x.organisation = r.organisation
        ∨ x ∈ t.taxRegistrations ∧ x.organisation ≠ r.organisation := by
    rcases Table.mem_update_iff.mp hx with ⟨y, hy, hid, rfl⟩ | ⟨hx, hid⟩
    · obtain rfl := ht.taxRegistrations.unique.eq_of_key hy hfind (of_decide_eq_true hid)
      exact Or.inl ⟨rfl, rfl⟩
    · refine Or.inr ⟨hx, fun horganisation => hnone (List.any_eq_true.mpr ⟨x, hx, ?_⟩)⟩
      exact decide_eq_true ⟨horganisation, hbill, of_decide_eq_false hid⟩
  refine ht.write (isWrite_billed true) fun x hx x' hx' horganisation hbill hbill' => ?_
  rcases hmem hx hbill with ⟨hid, horg⟩ | ⟨hx, horg⟩
  · rcases hmem hx' hbill' with ⟨hid', -⟩ | ⟨-, horg'⟩
    · exact hid.trans hid'.symm
    · exact absurd (horganisation.symm.trans horg) horg'
  · rcases hmem hx' hbill' with ⟨-, horg'⟩ | ⟨hx', -⟩
    · exact absurd (horganisation.trans horg') horg
    · exact ht.registered.billed x hx x' hx' horganisation hbill hbill'

theorem Kept.link (ht : Kept t) (h : linkRegistrations o t = .ok t') : Kept t' := by
  obtain rfl := Except.ok.inj h
  refine ht.write_of_billed ?_ ?_ _
  · exact ⟨fun _ => rfl, fun _ => rfl, fun _ => rfl⟩
  · exact fun _ hr => hr

/-! ### The registration of an address -/

/-- The tables that the statements on registrations leave. -/
structure Leaves (t t' : AddressTables) : Prop where
  organisations : t'.organisations = t.organisations
  addresses : t'.addresses = t.addresses
  locations : t'.locations = t.locations

theorem Leaves.refl (t : AddressTables) : Leaves t t := ⟨rfl, rfl, rfl⟩

theorem Leaves.trans {t'' : AddressTables} (h : Leaves t t') (h' : Leaves t' t'') :
    Leaves t t'' :=
  ⟨h'.organisations.trans h.organisations, h'.addresses.trans h.addresses,
    h'.locations.trans h.locations⟩

theorem upsert_leaves (h : upsertPrimaryLegalIdentifier rules o t = .ok t') : Leaves t t' := by
  dsimp only [upsertPrimaryLegalIdentifier] at h
  split at h
  · exact Except.ok.inj h ▸ Leaves.refl t
  split at h
  · split at h
    · cases h
    split at h
    · cases h
    · obtain rfl := Except.ok.inj h
      exact ⟨rfl, rfl, rfl⟩
  · split at h
    · cases h
    · obtain rfl := Except.ok.inj h
      exact ⟨rfl, rfl, rfl⟩

theorem ensure_leaves (h : ensureTaxRegistration rules o payload t = .ok t') : Leaves t t' := by
  rcases ensure_cases h with ⟨-, rfl, -⟩ | ⟨r, f, -, -, rfl, -⟩ | ⟨r, -, -, -, -, -, -, rfl⟩
  · exact Leaves.refl t'
  · exact ⟨rfl, rfl, rfl⟩
  · exact ⟨rfl, rfl, rfl⟩

theorem clear_leaves (h : clearPrimaryBilling rules o payload t = .ok t') : Leaves t t' := by
  obtain rfl := Except.ok.inj h
  exact ⟨rfl, rfl, rfl⟩

theorem set_leaves (h : setPrimaryBilling rules payload t = .ok t') : Leaves t t' := by
  unfold setPrimaryBilling at h
  split at h
  · exact Except.ok.inj h ▸ Leaves.refl t
  split at h
  · cases h
  · obtain rfl := Except.ok.inj h
    exact ⟨rfl, rfl, rfl⟩

/-- **The statements of `_sync_address_tax_registration`** keep what all keep, and leave the
other tables. -/
theorem Kept.sync_statement (hrules : rules.Lawful) (hpayload : Checked o.panNumber payload) :
    ∀ f ∈ syncAddressTaxRegistration rules o payload, ∀ t t',
      Kept t ∧ o ∈ t.organisations → f t = .ok t' → Kept t' ∧ Leaves t t' := by
  rintro f hf t t' ⟨ht, ho⟩ h
  rcases List.mem_append.mp hf with hf | hf
  · rcases List.mem_append.mp hf with hf | hf
    · split at hf
      · cases hf
      · obtain rfl := List.mem_singleton.mp hf
        exact ⟨ht.upsert hrules ho h, upsert_leaves h⟩
    · obtain rfl := List.mem_singleton.mp hf
      exact ⟨ht.ensure hrules ho hpayload h, ensure_leaves h⟩
  · split at hf
    · rcases List.mem_cons.mp hf with rfl | hf
      · exact ⟨ht.clear h, clear_leaves h⟩
      · obtain rfl := List.mem_singleton.mp hf
        exact ⟨ht.set h, set_leaves h⟩
    · cases hf

theorem Kept.sync (hrules : rules.Lawful) (ht : Kept t) (ho : o ∈ t.organisations)
    (hpayload : Checked o.panNumber payload) :
    Kept (Autocommit.execute (syncAddressTaxRegistration rules o payload) t).2
      ∧ Leaves t (Autocommit.execute (syncAddressTaxRegistration rules o payload) t).2 := by
  refine Autocommit.execute_invariant (I := fun t₁ => Kept t₁ ∧ Leaves t t₁) ?_
    ⟨ht, Leaves.refl t⟩
  rintro f hf t₁ t₂ ⟨ht₁, hleaves⟩ h
  have ho₁ : o ∈ t₁.organisations := hleaves.organisations ▸ ho
  obtain ⟨ht₂, hleaves'⟩ := Kept.sync_statement hrules hpayload f hf t₁ t₂ ⟨ht₁, ho₁⟩ h
  exact ⟨ht₂, hleaves.trans hleaves'⟩

/-- **The registration of a payload** is the organisation's own. -/
def Ensured (rules : CountryRules) (o : Organisation) (payload : AddressFields)
    (t : AddressTables) : Prop :=
  match registrationOf rules payload t with
  | none => normalIdentifier rules (payload.gstin.getD "") = ""
  | some r => r.organisation = o.id

theorem registrationOf_update {f : TaxRegistration → TaxRegistration} (hf : IsWrite f)
    (p : TaxRegistration → Bool) :
    registrationOf rules payload
        { t with taxRegistrations := Table.update p f t.taxRegistrations }
      = (registrationOf rules payload t).map fun r => if p r then f r else r := by
  unfold registrationOf
  split
  · rfl
  · exact Table.find_update hf.key

theorem Ensured.update (h : Ensured rules o payload t) {f : TaxRegistration → TaxRegistration}
    (hf : IsWrite f) (p : TaxRegistration → Bool) :
    Ensured rules o payload
      { t with taxRegistrations := Table.update p f t.taxRegistrations } := by
  unfold Ensured at h ⊢
  rw [registrationOf_update hf]
  cases hr : registrationOf rules payload t with
  | none =>
    rw [hr] at h
    exact h
  | some r =>
    rw [hr] at h
    show (if p r then f r else r).organisation = o.id
    split
    · exact (hf.organisation r).trans h
    · exact h

theorem Ensured.of_ensure (h : ensureTaxRegistration rules o payload t = .ok t') :
    Ensured rules o payload t' := by
  rcases ensure_cases h with ⟨hnone, rfl, hempty⟩ | ⟨r, f, hr, horganisation, rfl, hf, -⟩
    | ⟨r, hnew, -, horganisation, hkey, -, hne, rfl⟩
  · unfold Ensured
    rw [hnone]
    exact hempty
  · unfold Ensured
    rw [registrationOf_update hf, hr]
    show (if _ then f r else r).organisation = o.id
    split
    · exact (hf.organisation r).trans horganisation
    · exact horganisation
  · have hfind : Table.find TaxRegistration.key r.key t.taxRegistrations = none :=
      Table.find_eq_none_iff.mpr hnew
    unfold Ensured
    rw [registrationOf, if_neg hne, ← hkey, Table.find_append_self hfind]
    exact horganisation

/-- What was done when the registration of an address is synchronised. -/
theorem sync_eq_ok (hpan : o.panNumber ≠ "")
    (h : Autocommit.execute (syncAddressTaxRegistration rules o payload) t = (none, t')) :
    ∃ t₁ t₂, upsertPrimaryLegalIdentifier rules o t = .ok t₁
      ∧ ensureTaxRegistration rules o payload t₁ = .ok t₂
      ∧ (payload.addressType ≠ .billing ∧ t' = t₂
        ∨ payload.addressType = .billing ∧ ∃ t₃, clearPrimaryBilling rules o payload t₂ = .ok t₃
          ∧ setPrimaryBilling rules payload t₃ = .ok t') := by
  unfold syncAddressTaxRegistration at h
  rw [if_neg hpan, Autocommit.execute_append_eq_none_iff] at h
  obtain ⟨t₂, hfirst, h⟩ := h
  obtain ⟨t₁, hupsert, hfirst⟩ := Autocommit.execute_cons_eq_none_iff.mp hfirst
  obtain ⟨_, hensure, hnil⟩ := Autocommit.execute_cons_eq_none_iff.mp hfirst
  obtain rfl := congrArg Prod.snd hnil
  refine ⟨t₁, _, hupsert, hensure, ?_⟩
  split at h
  · next hbilling =>
    obtain ⟨t₃, hclear, h⟩ := Autocommit.execute_cons_eq_none_iff.mp h
    obtain ⟨_, hset, hnil⟩ := Autocommit.execute_cons_eq_none_iff.mp h
    obtain rfl := congrArg Prod.snd hnil
    exact Or.inr ⟨hbilling, t₃, hclear, hset⟩
  · next hbilling => exact Or.inl ⟨hbilling, (congrArg Prod.snd h).symm⟩

theorem Ensured.set (ht : Ensured rules o payload t)
    (h : setPrimaryBilling rules payload t = .ok t') : Ensured rules o payload t' := by
  unfold setPrimaryBilling at h
  split at h
  · exact Except.ok.inj h ▸ ht
  split at h
  · cases h
  · obtain rfl := Except.ok.inj h
    exact ht.update (isWrite_billed true) _

/-- **After the synchronisation**: the organisation has its identifier, and the registration of
the payload is its own. -/
theorem Kept.synced (ht : Kept t) (ho : o ∈ t.organisations)
    (h : Autocommit.execute (syncAddressTaxRegistration rules o payload) t = (none, t')) :
    Ensured rules o payload t' := by
  obtain ⟨t₁, t₂, -, hensure, ⟨-, rfl⟩ | ⟨-, t₃, hclear, hset⟩⟩ :=
    sync_eq_ok (ht.pan o ho).ne_empty h
  · exact Ensured.of_ensure hensure
  · refine Ensured.set ?_ hset
    obtain rfl := Except.ok.inj hclear
    exact (Ensured.of_ensure hensure).update (isWrite_billed false) _

/-- **A last statement after those on registrations** is executed once the registration of the
payload is ensured, or not at all. -/
theorem after_sync (hrules : rules.Lawful) (ht : Kept t) (ho : o ∈ t.organisations)
    (hpayload : Checked o.panNumber payload) {last : Statement} {P : AddressTables → Prop}
    (hsync : P (Autocommit.execute (syncAddressTaxRegistration rules o payload) t).2)
    (hlast : ∀ t₁ t₂, Kept t₁ → Leaves t t₁ → Ensured rules o payload t₁ →
      Autocommit.execute (syncAddressTaxRegistration rules o payload) t = (none, t₁) →
      last t₁ = .ok t₂ → P t₂) :
    P (Autocommit.execute (syncAddressTaxRegistration rules o payload ++ [last]) t).2 := by
  obtain ⟨ht₁, hleaves⟩ := ht.sync hrules ho hpayload
  rcases Autocommit.execute_concat_cases (syncAddressTaxRegistration rules o payload) last t
    with hsame | ⟨t₁, t₂, hdone, hlast', heq⟩
  · rwa [hsame]
  · rw [heq]
    rw [hdone] at ht₁ hleaves
    exact hlast t₁ t₂ ht₁ hleaves (ht.synced ho hdone) hdone hlast'

/-! ### Locations -/

variable {as : List Address} {ls : List OfficeLocation} {a : Address} {l : OfficeLocation}

theorem isAt_at (horganisation : l.organisation = a.organisation) : IsAt (l.at a) a :=
  ⟨horganisation, rfl⟩

theorem Located.append (h : Located as ls) (hplaced : ∃ a ∈ as, IsAt l a)
    (hnamed : ∀ l' ∈ ls, l'.organisation = l.organisation → l'.name ≠ l.name) :
    Located as (ls ++ [l]) := by
  have hmem {l' : OfficeLocation} (hl' : l' ∈ ls ++ [l]) : l' ∈ ls ∨ l' = l :=
    (List.mem_append.mp hl').imp_right List.mem_singleton.mp
  constructor
  · intro l' hl'
    rcases hmem hl' with hl' | rfl
    · exact h.placed l' hl'
    · exact hplaced
  · intro l₁ h₁ l₂ h₂ horganisation hname
    rcases hmem h₁ with hl₁ | rfl
    · rcases hmem h₂ with hl₂ | rfl
      · exact h.named l₁ hl₁ l₂ hl₂ horganisation hname
      · exact absurd hname (hnamed l₁ hl₁ horganisation)
    · rcases hmem h₂ with hl₂ | rfl
      · exact absurd hname.symm (hnamed l₂ hl₂ horganisation.symm)
      · rfl

theorem Located.save (h : Located as ls) (hplaced : ∃ a ∈ as, IsAt l a)
    (hnamed : ∀ l' ∈ ls, l'.organisation = l.organisation → l'.name = l.name → l'.id = l.id) :
    Located as (Table.save OfficeLocation.id l ls) := by
  constructor
  · intro l' hl'
    rcases Table.mem_save hl' with rfl | ⟨hl', -⟩
    · exact hplaced
    · exact h.placed l' hl'
  · intro l₁ h₁ l₂ h₂ horganisation hname
    rcases Table.mem_save h₁ with rfl | ⟨hl₁, -⟩
    · rcases Table.mem_save h₂ with rfl | ⟨hl₂, -⟩
      · rfl
      · exact (hnamed l₂ hl₂ horganisation.symm hname.symm).symm
    · rcases Table.mem_save h₂ with rfl | ⟨hl₂, -⟩
      · exact hnamed l₁ hl₁ horganisation hname
      · exact h.named l₁ hl₁ l₂ hl₂ horganisation hname

/-- A write on locations that leaves where they are, or moves them with their addresses. -/
theorem Located.update {as' : List Address} (h : Located as ls) {p : OfficeLocation → Bool}
    {f : OfficeLocation → OfficeLocation} (hid : ∀ l, (f l).id = l.id)
    (horganisation : ∀ l, (f l).organisation = l.organisation) (hname : ∀ l, (f l).name = l.name)
    (hplaced : ∀ l ∈ ls, ∀ a ∈ as, IsAt l a → ∃ a' ∈ as', IsAt (if p l then f l else l) a') :
    Located as' (Table.update p f ls) := by
  have hkeeps (l : OfficeLocation) : (if p l then f l else l).id = l.id
      ∧ (if p l then f l else l).organisation = l.organisation
      ∧ (if p l then f l else l).name = l.name := by
    split
    · exact ⟨hid l, horganisation l, hname l⟩
    · exact ⟨rfl, rfl, rfl⟩
  constructor
  · intro l hl
    obtain ⟨l', hl', rfl⟩ := Table.mem_update.mp hl
    obtain ⟨a, ha, hat⟩ := h.placed l' hl'
    exact hplaced l' hl' a ha hat
  · intro l₁ h₁ l₂ h₂ horg hnm
    obtain ⟨x, hx, rfl⟩ := Table.mem_update.mp h₁
    obtain ⟨y, hy, rfl⟩ := Table.mem_update.mp h₂
    obtain ⟨hxid, hxorg, hxname⟩ := hkeeps x
    obtain ⟨hyid, hyorg, hyname⟩ := hkeeps y
    rw [hxid, hyid]
    exact h.named x hx y hy (hxorg.symm.trans (horg.trans hyorg))
      (hxname.symm.trans (hnm.trans hyname))

/-- A table of locations that is written alone. -/
theorem Kept.locations_write (ht : Kept t) {n : ℕ} (hn : t.nextId ≤ n)
    (hnumbered : Numbered OfficeLocation.id n ls) (hlocated : Located t.addresses ls) :
    Kept { t with locations := ls, nextId := n } :=
  { ht with
    organisations := ht.organisations.mono hn
    taxRegistrations := ht.taxRegistrations.mono hn
    addresses := ht.addresses.mono hn
    locations := hnumbered
    located := hlocated }

theorem Kept.ensureDefaultLocation (ht : Kept t) (ha : a ∈ t.addresses) :
    Kept (ensureDefaultLocation a t) := by
  unfold Addresses.ensureDefaultLocation
  split
  · next l hfind =>
    have hl := List.mem_of_find?_eq_some hfind
    obtain ⟨horganisation, -⟩ : l.organisation = a.organisation ∧ l.name = a.fields.label := by
      simpa using List.find?_some hfind
    refine ht.locations_write le_rfl (ht.locations.save (ht.locations.below l hl)) ?_
    refine ht.located.save ⟨a, ha, horganisation, rfl⟩ fun l' hl' horg hnm => ?_
    exact ht.located.named l' hl' l hl horg hnm
  · next hfind =>
    refine ht.locations_write (Nat.le_succ _) (ht.locations.append_one rfl) ?_
    refine ht.located.append ⟨a, ha, rfl, rfl⟩ fun l' hl' horg hnm => ?_
    have hnone := List.find?_eq_none.mp hfind l' hl'
    exact hnone (decide_eq_true ⟨horg, hnm⟩)

theorem activeAddress_spec {organisation : OrganisationId} {address : AddressId}
    (h : activeAddress organisation address t = some a) :
    a ∈ t.addresses ∧ a.organisation = organisation ∧ a.id = address
      ∧ a.fields.isActive = true := by
  have ha := List.find?_some h
  rw [decide_eq_true_eq] at ha
  exact ⟨List.mem_of_find?_eq_some h, ha⟩

theorem not_isNamed (h : ¬ isNamed l t = true) :
    ∀ l' ∈ t.locations, l'.organisation = l.organisation → l'.name = l.name → l'.id = l.id := by
  intro l' hl' horganisation hname
  by_contra hid
  exact h (List.any_eq_true.mpr ⟨l', hl', decide_eq_true ⟨hid, horganisation, hname⟩⟩)

theorem Kept.createLocation (ht : Kept t) {organisation : OrganisationId} {name : String}
    {address : AddressId} {isRemote : Bool}
    (h : createLocation organisation name address isRemote t = .ok t') : Kept t' := by
  unfold Addresses.createLocation at h
  split at h
  · cases h
  next a hactive =>
  obtain ⟨ha, horganisation, -⟩ := activeAddress_spec hactive
  dsimp only at h
  split at h
  · cases h
  next hnamed =>
  obtain rfl := Except.ok.inj h
  refine ht.locations_write (Nat.le_succ _) (ht.locations.append_one rfl) ?_
  refine ht.located.append ⟨a, ha, isAt_at horganisation.symm⟩ fun l' hl' horg hnm => ?_
  exact ht.locations.ne_of_mem hl' (not_isNamed hnamed l' hl' horg hnm)

/-- A new location is all that is written. -/
theorem createLocation_cases {organisation : OrganisationId} {name : String}
    {address : AddressId} {isRemote : Bool}
    (h : createLocation organisation name address isRemote t = .ok t') :
    ∃ ls n, t' = { t with locations := ls, nextId := n } := by
  unfold createLocation at h
  split at h
  · cases h
  dsimp only at h
  split at h
  · cases h
  · exact ⟨_, _, (Except.ok.inj h).symm⟩

theorem deactivateLocation_cases {hasEmployees : Bool}
    (h : deactivateLocation l hasEmployees t = .ok t') :
    ∃ ls, t' = { t with locations := ls } := by
  unfold deactivateLocation at h
  split at h
  · cases h
  · exact ⟨_, (Except.ok.inj h).symm⟩

theorem IsAt.congr {l' : OfficeLocation} (h : IsAt l a)
    (horganisation : l'.organisation = l.organisation) (hat : l.at a = l → l'.at a = l') :
    IsAt l' a :=
  ⟨horganisation.trans h.1, hat h.2⟩

theorem moved_cases {address : Option AddressId} {l' : OfficeLocation}
    (h : moved l address t = .ok l') :
    l'.id = l.id ∧ l'.organisation = l.organisation ∧ l'.isActive = l.isActive
      ∧ (l' = l ∨ ∃ a ∈ t.addresses, IsAt l' a ∧ a.fields.isActive = true) := by
  unfold moved at h
  split at h
  · obtain rfl := Except.ok.inj h
    exact ⟨rfl, rfl, rfl, Or.inl rfl⟩
  · split at h
    · cases h
    · next a hactive =>
      obtain rfl := Except.ok.inj h
      obtain ⟨ha, horganisation, -, hisActive⟩ := activeAddress_spec hactive
      exact ⟨rfl, rfl, rfl, Or.inr ⟨a, ha, isAt_at horganisation.symm, hisActive⟩⟩

theorem IsAt.rename (h : IsAt l a) (name : String) (isRemote : Bool) :
    IsAt { l with name := name, isRemote := isRemote } a :=
  h.congr rfl (congrArg fun l : OfficeLocation => { l with name := name, isRemote := isRemote })

/-- **What `update_location` does**: the location is where it was, or at an active address. -/
theorem updateLocation_cases {changes : LocationChanges}
    (h : updateLocation l changes t = .ok t') :
    ∃ l', l'.id = l.id ∧ l'.organisation = l.organisation ∧ l'.isActive = l.isActive
      ∧ ((∀ a, IsAt l a → IsAt l' a)
        ∨ ∃ a ∈ t.addresses, IsAt l' a ∧ a.fields.isActive = true)
      ∧ ¬ isNamed l' t = true
      ∧ t' = { t with locations := Table.save OfficeLocation.id l' t.locations } := by
  unfold updateLocation at h
  obtain ⟨l₁, hl₁, h⟩ := Transaction.bind_eq_ok_iff.mp h
  dsimp only at h
  split at h
  · cases h
  next hnamed =>
  have hmoved := moved_cases hl₁
  refine ⟨{ l₁ with
    name := changes.name.getD l₁.name, isRemote := changes.isRemote.getD l₁.isRemote },
    hmoved.1, hmoved.2.1, hmoved.2.2.1, ?_, hnamed, (Except.ok.inj h).symm⟩
  rcases hmoved.2.2.2 with hl | ⟨a, ha, hat, hactive⟩
  · exact Or.inl fun a hat => IsAt.rename (hl ▸ hat) _ _
  · exact Or.inr ⟨a, ha, hat.rename _ _, hactive⟩

theorem Kept.updateLocation (ht : Kept t) (hl : l ∈ t.locations) {changes : LocationChanges}
    (h : updateLocation l changes t = .ok t') : Kept t' := by
  obtain ⟨l', hid, -, -, hat, hnamed, rfl⟩ := updateLocation_cases h
  have hbelow : l'.id < t.nextId := hid ▸ ht.locations.below l hl
  refine ht.locations_write le_rfl (ht.locations.save hbelow)
    (ht.located.save ?_ (not_isNamed hnamed))
  rcases hat with hat | ⟨a, ha, hat, -⟩
  · obtain ⟨a, ha, hla⟩ := ht.located.placed l hl
    exact ⟨a, ha, hat a hla⟩
  · exact ⟨a, ha, hat⟩

theorem Kept.deactivateLocation (ht : Kept t) {hasEmployees : Bool}
    (h : deactivateLocation l hasEmployees t = .ok t') : Kept t' := by
  unfold Addresses.deactivateLocation at h
  split at h
  · cases h
  obtain rfl := Except.ok.inj h
  refine ht.locations_write le_rfl ?_ (ht.located.update ?_ ?_ ?_ fun l' _ a ha hat => ?_)
  · exact ht.locations.update fun _ => rfl
  · exact fun _ => rfl
  · exact fun _ => rfl
  · exact fun _ => rfl
  · refine ⟨a, ha, hat.congr ?_ fun hat => ?_⟩
    · split <;> rfl
    · split
      · exact congrArg (fun l : OfficeLocation => { l with isActive := false }) hat
      · exact hat

/-! ### Addresses -/

theorem mem_of_registrationOf {r : TaxRegistration}
    (h : registrationOf rules payload t = some r) :
    r ∈ t.taxRegistrations ∧ r.key = registrationKey rules payload := by
  unfold registrationOf at h
  split at h
  · cases h
  · exact ⟨Table.find_mem h, Table.find_key h⟩

/-- The row of a payload says of its registration what there is. -/
theorem names_addressRow (hrules : rules.Lawful) (hensured : Ensured rules o payload t)
    (hpayload : Checked o.panNumber payload) (id : AddressId) :
    Names t.taxRegistrations (addressRow rules id o.id payload t) := by
  unfold Ensured at hensured
  unfold Names addressRow
  cases hr : registrationOf rules payload t with
  | none =>
    rw [hr] at hensured
    refine ⟨rfl, ?_⟩
    rintro ⟨htype, hcountry⟩
    obtain ⟨g, hg⟩ := Option.isSome_iff_exists.mp (hpayload.billing hcountry htype)
    have hgstin := (hpayload.gstin hcountry g hg).1
    have hempty : normalIdentifier rules (payload.gstin.getD "") = "" := hensured
    rw [hg, Option.getD_some, hgstin.plain.normalIdentifier hrules] at hempty
    exact hgstin.ne_empty hempty
  | some r =>
    rw [hr] at hensured
    obtain ⟨hmem, hkey⟩ := mem_of_registrationOf hr
    exact ⟨r, hmem, rfl, hensured, rfl, (congrArg Prod.fst hkey).symm⟩

theorem insertAddress_cases {autoCreateLocation : Bool}
    (h : insertAddress rules o payload autoCreateLocation t = .ok t') :
    ¬ isTaken (addressRow rules t.nextId o.id payload t) t = true
      ∧ (t' = { t with
          addresses := t.addresses ++ [addressRow rules t.nextId o.id payload t]
          nextId := t.nextId + 1 }
        ∨ payload.isActive = true
          ∧ t' = ensureDefaultLocation (addressRow rules t.nextId o.id payload t) { t with
            addresses := t.addresses ++ [addressRow rules t.nextId o.id payload t]
            nextId := t.nextId + 1 }) := by
  dsimp only [insertAddress] at h
  split at h
  · cases h
  next htaken =>
  refine ⟨htaken, ?_⟩
  rw [← Except.ok.inj h]
  split
  · next hcreates => exact Or.inr ⟨hcreates.2, rfl⟩
  · exact Or.inl rfl

/-- A new address, before its location. -/
theorem Kept.addAddress (hrules : rules.Lawful) (ht : Kept t) (ho : o ∈ t.organisations)
    (hensured : Ensured rules o payload t) (hpayload : Checked o.panNumber payload) :
    Kept { t with
      addresses := t.addresses ++ [addressRow rules t.nextId o.id payload t]
      nextId := t.nextId + 1 } :=
  { ht with
    organisations := ht.organisations.mono (Nat.le_succ _)
    taxRegistrations := ht.taxRegistrations.mono (Nat.le_succ _)
    addresses := ht.addresses.append_one rfl
    locations := ht.locations.mono (Nat.le_succ _)
    owned := fun a ha => by
      rcases List.mem_append.mp ha with ha | ha
      · exact ht.owned a ha
      · rw [List.mem_singleton.mp ha]
        exact ⟨o, ho, rfl⟩
    names := fun a ha => by
      rcases List.mem_append.mp ha with ha | ha
      · exact ht.names a ha
      · rw [List.mem_singleton.mp ha]
        exact names_addressRow hrules hensured hpayload _
    located := ⟨fun l hl => by
      obtain ⟨a, ha, hat⟩ := ht.located.placed l hl
      exact ⟨a, List.mem_append_left _ ha, hat⟩, ht.located.named⟩ }

theorem Kept.insertAddress (hrules : rules.Lawful) (ht : Kept t) (ho : o ∈ t.organisations)
    (hensured : Ensured rules o payload t) (hpayload : Checked o.panNumber payload)
    {autoCreateLocation : Bool}
    (h : insertAddress rules o payload autoCreateLocation t = .ok t') : Kept t' := by
  have hadded := ht.addAddress hrules ho hensured hpayload
  rcases (insertAddress_cases h).2 with rfl | ⟨-, rfl⟩
  · exact hadded
  · exact hadded.ensureDefaultLocation (List.mem_append_right _ (List.mem_singleton_self _))

/-- A location is at the address that it names. -/
theorem IsAt.organisationAddress (h : IsAt l a) : l.organisationAddress = some a.id := by
  rw [← h.2]
  rfl

theorem saveAddress_cases (h : saveAddress rules a payload t = .ok t') :
    ¬ isTaken (addressRow rules a.id a.organisation payload t) t = true
      ∧ t' = { t with
        addresses := Table.save Address.id (addressRow rules a.id a.organisation payload t)
          t.addresses
        locations := Table.update (fun l => l.organisationAddress = some a.id)
          (·.at (addressRow rules a.id a.organisation payload t)) t.locations } := by
  dsimp only [saveAddress] at h
  split at h
  · cases h
  next htaken => exact ⟨htaken, (Except.ok.inj h).symm⟩

theorem Kept.saveAddress (hrules : rules.Lawful) (ht : Kept t) (ha : a ∈ t.addresses)
    (hao : a.organisation = o.id) (hensured : Ensured rules o payload t)
    (hpayload : Checked o.panNumber payload)
    (h : saveAddress rules a payload t = .ok t') : Kept t' := by
  obtain ⟨-, rfl⟩ := saveAddress_cases h
  exact { ht with
    addresses := ht.addresses.save (ht.addresses.below a ha)
    locations := ht.locations.update fun _ => rfl
    owned := fun b hb => by
      rcases Table.mem_save hb with rfl | ⟨hb, -⟩
      · exact ht.owned a ha
      · exact ht.owned b hb
    names := fun b hb => by
      rcases Table.mem_save hb with rfl | ⟨hb, -⟩
      · rw [hao]
        exact names_addressRow hrules hensured hpayload a.id
      · exact ht.names b hb
    located := by
      refine ht.located.update ?_ ?_ ?_ fun l _ b hb hat => ?_
      · exact fun _ => rfl
      · exact fun _ => rfl
      · exact fun _ => rfl
      · by_cases hid : b.id = a.id
        · -- the location moves with its address
          obtain rfl := ht.addresses.unique.eq_of_key hb ha hid
          rw [if_pos (decide_eq_true hat.organisationAddress)]
          exact ⟨_, Table.mem_save_self ha rfl, isAt_at hat.1⟩
        · rw [if_neg]
          · exact ⟨b, Table.mem_save_of_ne hb hid, hat⟩
          · rw [hat.organisationAddress]
            simpa using hid }

theorem Kept.switchOff (ht : Kept t) (h : switchOff a t = .ok t') : Kept t' := by
  obtain rfl := Except.ok.inj h
  have hmem {b : Address} (hb : b ∈ Table.update (fun b => b.id = a.id)
      (fun b => { b with fields := { b.fields with isActive := false } }) t.addresses) :
      ∃ b' ∈ t.addresses, b'.organisation = b.organisation
        ∧ (Names t.taxRegistrations b' → Names t.taxRegistrations b) := by
    obtain ⟨b', hb', rfl⟩ := Table.mem_update.mp hb
    refine ⟨b', hb', ?_⟩
    split
    · exact ⟨rfl, id⟩
    · exact ⟨rfl, id⟩
  exact { ht with
    addresses := ht.addresses.update fun _ => rfl
    owned := fun b hb => by
      obtain ⟨b', hb', horganisation, -⟩ := hmem hb
      rw [← horganisation]
      exact ht.owned b' hb'
    names := fun b hb => by
      obtain ⟨b', hb', -, hnames⟩ := hmem hb
      exact hnames (ht.names b' hb')
    located := ⟨fun l hl => by
      obtain ⟨b, hb, hat⟩ := ht.located.placed l hl
      refine ⟨_, Table.mem_update.mpr ⟨b, hb, rfl⟩, ?_⟩
      split
      · exact hat
      · exact hat, ht.located.named⟩ }

/-! ### The organisation -/

theorem mapM_some_eq_ok {α β : Type} {f : α → Except String β} {a : α} {x : Option β}
    (h : (some a).mapM f = .ok x) : ∃ b, f a = .ok b ∧ x = some b := by
  obtain ⟨b, hb, hx⟩ := Transaction.map_eq_ok_iff.mp (h : some <$> f a = .ok x)
  exact ⟨b, hb, hx.symm⟩

theorem validateOrganisationPanChange_spec {panNumber : String}
    (h : validateOrganisationPanChange rules o panNumber t = .ok s) :
    normalizePanNumber rules panNumber = .ok s
      ∧ ∀ r ∈ t.taxRegistrations, r.organisation = o.id → r.countryCode = "IN" →
        r.registrationType = .gstin → panOf r.identifier = s := by
  unfold validateOrganisationPanChange at h
  obtain ⟨pan, hpan, h⟩ := Transaction.bind_eq_ok_iff.mp h
  split at h
  · cases h
  next hnone =>
  obtain rfl := Transaction.pure_eq_ok_iff.mp h
  refine ⟨hpan, fun r hr horganisation hcountry htype => ?_⟩
  by_contra hne
  exact hnone (List.any_eq_true.mpr
    ⟨r, hr, decide_eq_true ⟨horganisation, hcountry, htype, hne⟩⟩)

/-- **What the checks of a profile leave**: a PAN that is in the Indian registrations. -/
theorem editedProfile_spec (hrules : rules.Lawful) (ht : Kept t) (ho : o ∈ t.organisations)
    {panNumber countryCode : Option String} {o' : Organisation}
    (h : editedProfile rules o panNumber countryCode t = .ok o') :
    o'.id = o.id ∧ IsPan o'.panNumber ∧ ∀ r ∈ t.taxRegistrations, r.organisation = o.id →
      r.countryCode = "IN" → panOf r.identifier = o'.panNumber := by
  unfold editedProfile at h
  obtain ⟨pan, hpan, h⟩ := Transaction.bind_eq_ok_iff.mp h
  obtain ⟨country, -, h⟩ := Transaction.bind_eq_ok_iff.mp h
  obtain ⟨pan', hpan', h⟩ := Transaction.bind_eq_ok_iff.mp h
  obtain rfl := Transaction.pure_eq_ok_iff.mp h
  refine ⟨rfl, ?_⟩
  cases panNumber with
  | none =>
    obtain rfl : pan = none := (Except.ok.inj hpan).symm
    obtain rfl : pan' = none := (Except.ok.inj hpan').symm
    exact ⟨ht.pan o ho, fun r hr horganisation hcountry =>
      ht.registered.pan r hr hcountry o ho horganisation.symm⟩
  | some value =>
    obtain ⟨p, hp, rfl⟩ := mapM_some_eq_ok hpan
    obtain ⟨p', hp', rfl⟩ := mapM_some_eq_ok hpan'
    have hisPan := IsPan.of_validatePanNumber hrules hp
    obtain ⟨hnormal, hall⟩ := validateOrganisationPanChange_spec hp'
    refine ⟨?_, fun r hr horganisation hcountry => hall r hr horganisation hcountry ?_⟩
    · rcases normalizePanNumber_cases hnormal with ⟨hempty, -⟩ | hpan'
      · rw [hisPan.plain.compact hrules] at hempty
        exact absurd hempty hisPan.ne_empty
      · exact hpan'
    · rw [ht.registered.type r hr, hcountry]
      rfl

/-- **A saved profile** whose PAN is in the Indian registrations. -/
theorem Kept.saveOrganisation (ht : Kept t) {o' : Organisation} (ho : o ∈ t.organisations)
    (hid : o'.id = o.id) (hpan : IsPan o'.panNumber)
    (hregistrations : ∀ r ∈ t.taxRegistrations, r.organisation = o.id → r.countryCode = "IN" →
      panOf r.identifier = o'.panNumber)
    (h : saveOrganisation o' t = .ok t') : Kept t' := by
  obtain rfl := Except.ok.inj h
  have hexists {i : OrganisationId} (hi : ∃ o ∈ t.organisations, o.id = i) :
      ∃ o ∈ Table.save Organisation.id o' t.organisations, o.id = i := by
    obtain ⟨x, hx, rfl⟩ := hi
    by_cases hx' : x.id = o'.id
    · exact ⟨o', Table.mem_save_self hx hx', hx'.symm⟩
    · exact ⟨x, Table.mem_save_of_ne hx hx', rfl⟩
  exact { ht with
    organisations := ht.organisations.save (hid ▸ ht.organisations.below o ho)
    pan := fun x hx => by
      rcases Table.mem_save hx with rfl | ⟨hx, -⟩
      · exact hpan
      · exact ht.pan x hx
    identified := { ht.identified with
      owned := fun l hl => hexists (ht.identified.owned l hl) }
    registered := { ht.registered with
      owned := fun r hr => hexists (ht.registered.owned r hr)
      pan := fun r hr hcountry x hx horganisation => by
        rcases Table.mem_save hx with rfl | ⟨hx, -⟩
        · exact hregistrations r hr (horganisation.symm.trans hid) hcountry
        · exact ht.registered.pan r hr hcountry x hx horganisation }
    owned := fun a ha => hexists (ht.owned a ha) }

end Addresses
