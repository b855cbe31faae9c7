import Clarisal.Lib.Autocommit
import Clarisal.Lib.Run
import Clarisal.Lib.Table
import Clarisal.Payroll.FiscalYear
import Clarisal.Approvals.Models

/-!
# Addresses, registrations and locations

An organisation has addresses, among them the registered one and the one that is billed; tax
registrations, which addresses name; a legal identifier, which is its PAN; and office
locations at its addresses, of which they copy the text.

A request checks what it is given first. It then writes statement by statement: the legal
identifier, the tax registration, which of the registrations is billed, and the address, the
last of these in a transaction with the locations. An error ends the request and takes back
only what its own transaction has written. This module is the requests; what they keep is
proved in the one after it.
-/

namespace Addresses

open Approvals (OrganisationId)

abbrev AddressId := ℕ
abbrev LegalIdentifierId := ℕ
abbrev TaxRegistrationId := ℕ
abbrev LocationId := ℕ

inductive AddressType
  | registered | billing | headquarters | warehouse | custom
deriving DecidableEq, Repr

inductive RegistrationType
  | gstin | other
deriving DecidableEq, Repr

structure Organisation where
  id : OrganisationId
  panNumber : String
  countryCode : String
deriving DecidableEq, Repr

/-- A legal identifier; those that are written are all of the type PAN. -/
structure LegalIdentifier where
  id : LegalIdentifierId
  organisation : OrganisationId
  countryCode : String
  identifier : String
  isPrimary : Bool
deriving DecidableEq, Repr

structure TaxRegistration where
  id : TaxRegistrationId
  organisation : OrganisationId
  legalIdentifier : Option LegalIdentifierId
  countryCode : String
  registrationType : RegistrationType
  identifier : String
  stateCode : String
  isPrimaryBilling : Bool
deriving DecidableEq, Repr

/-- What an address says: the payload of a request, and the columns of a row. -/
structure AddressFields where
  addressType : AddressType
  label : String := ""
  line1 : String
  line2 : String := ""
  city : String
  state : String := ""
  stateCode : String := ""
  country : String := ""
  countryCode : String := "IN"
  pincode : String
  gstin : Option String := none
  isActive : Bool := true
deriving DecidableEq, Repr

structure Address where
  id : AddressId
  organisation : OrganisationId
  fields : AddressFields
  taxRegistration : Option TaxRegistrationId
deriving DecidableEq, Repr

structure OfficeLocation where
  id : LocationId
  organisation : OrganisationId
  name : String
  organisationAddress : Option AddressId
  address : String
  city : String
  state : String
  country : String
  pincode : String
  isRemote : Bool
  isActive : Bool
deriving DecidableEq, Repr

/-- The tables. All rows take their identifiers from one counter. -/
structure AddressTables where
  organisations : List Organisation
  legalIdentifiers : List LegalIdentifier
  taxRegistrations : List TaxRegistration
  addresses : List Address
  locations : List OfficeLocation
  nextId : ℕ
deriving DecidableEq, Repr

/-- An error: one of the service, a constraint of the database that nothing catches, or a row
that is not there. -/
inductive Failure
  | valueError (message : String)
  | integrityError (constraint : String)
  | notFound
deriving DecidableEq, Repr

/-- **What the code knows of countries**, and the capitals of a text. -/
structure CountryRules where
  upper : String → String
  resolveCountryCode : String → Except String String
  normalizeCountryCode : String → Except String String
  countryName : String → String
  normalizeSubdivision : String → String → String → Except String (String × String)
  validatePostalCode : String → String → Except String String
  /-- `tax_region_code` and the label of a subdivision. -/
  taxRegion : String → String → Option (String × String)

/-! ## Texts -/

/-- `re.match` of a pattern that is one class for each character. A request's texts are
trimmed, so none ends with a line break. -/
def matchesClasses (classes : List (Char → Bool)) (s : List Char) : Bool :=
  s.length = classes.length ∧ (classes.zip s).all fun (p, c) => p c

/-- `PAN_PATTERN`. -/
def panPattern : List (Char → Bool) :=
  List.replicate 5 Char.isUpper ++ List.replicate 4 Char.isDigit ++ [Char.isUpper]

/-- The `tax_pattern` of India. -/
def gstinPattern : List (Char → Bool) :=
  List.replicate 2 Char.isDigit ++ panPattern
    ++ [fun c => c.isUpper || (c.isDigit && c ≠ '0'), (· == 'Z'), fun c => c.isUpper || c.isDigit]

def strip (s : String) : String := String.ofList (Payroll.strip s.toList)

section

variable (rules : CountryRules)

/-- `value.replace(' ', '').upper()`. -/
def compact (s : String) : String := rules.upper (String.ofList (s.toList.filter (· ≠ ' ')))

/-- `(identifier or '').strip().upper()`. -/
def normalIdentifier (s : String) : String := rules.upper (strip s)

def normalizePanNumber (value : String) : Except String String :=
  let normalized := compact rules value
  if normalized = "" then .ok ""
  else if matchesClasses panPattern normalized.toList then .ok normalized
  else .error "PAN must be in the format AAAAA9999A."

/-- `identifier[2:12]`. -/
def panOf (identifier : String) : String := String.ofList ((identifier.toList.drop 2).take 10)

/-- `validate_billing_tax_identifier`. Only India has a pattern, and requires it. -/
def validateBillingTaxIdentifier (countryCode : String) (addressType : AddressType)
    (identifier : Option String) (panNumber stateCode : String) :
    Except String (Option String) :=
  let normalized := compact rules (identifier.getD "")
  if normalized = "" then
    if addressType = .billing ∧ countryCode = "IN" then
      .error "GSTIN is required for the billing address."
    else .ok none
  else if countryCode ≠ "IN" then .ok (some normalized)
  else if ¬ matchesClasses gstinPattern normalized.toList then
    .error ("Billing addresses in India must have a valid GSTIN that matches the "
      ++ "organisation PAN and state.")
  else
    let normalizedPan := compact rules panNumber
    if normalizedPan ≠ "" ∧ panOf normalized ≠ normalizedPan then
      .error "GSTIN must contain the organisation PAN number."
    else
      match rules.taxRegion countryCode stateCode with
      | none => .ok (some normalized)
      | some (code, label) =>
        if code ≠ "" ∧ String.ofList (normalized.toList.take 2) ≠ code then
          .error s!"GSTIN must start with {code} for {label}."
        else .ok (some normalized)

/-! ## The payload of an address -/

/-- `MANDATORY_ADDRESS_TYPES`. -/
def AddressType.isMandatory : AddressType → Bool
  | registered | billing => true
  | headquarters | warehouse | custom => false

/-- `_default_address_label`, and `get_address_type_display`. -/
def AddressType.defaultLabel : AddressType → String
  | registered => "Registered Office"
  | billing => "Billing Address"
  | headquarters => "Headquarters"
  | warehouse => "Warehouse"
  | custom => "Custom Address"

/-- The first text that is not empty. -/
def firstNonempty (s s' : String) : String := if s = "" then s' else s

/-- `_normalize_address_payload`. -/
def normalizeAddressPayload (payload : AddressFields) (panNumber : String) :
    Except String AddressFields := do
  let line1 := strip payload.line1
  let city := strip payload.city
  let countryCode ← rules.resolveCountryCode
    (firstNonempty payload.countryCode (firstNonempty payload.country "IN"))
  let (stateCode, state) ←
    rules.normalizeSubdivision countryCode payload.stateCode payload.state
  let pincode ← rules.validatePostalCode payload.pincode countryCode
  if line1 = "" ∨ city = "" ∨ pincode = "" ∨ firstNonempty state stateCode = "" then
    throw "Address line 1, city, state, and postal code are required."
  let label := strip payload.label
  if ¬ payload.addressType.isMandatory ∧ label = "" then
    throw "A label is required for headquarters, warehouse, and custom addresses."
  let gstin ← validateBillingTaxIdentifier rules countryCode payload.addressType payload.gstin
    panNumber stateCode
  return {
    addressType := payload.addressType
    label := if payload.addressType.isMandatory then payload.addressType.defaultLabel else label
    line1 := line1, line2 := strip payload.line2, city := city, state := state
    stateCode := stateCode, country := rules.countryName countryCode
    countryCode := countryCode, pincode := pincode, gstin := gstin
    isActive := payload.isActive }

/-- `validate_address_collection`. -/
def validateAddressCollection (addresses : List AddressFields) (panNumber : String) :
    Except String (List AddressFields) := do
  if addresses = [] then throw "At least one address is required."
  let normalized ← addresses.mapM (normalizeAddressPayload rules · panNumber)
  let activeCount := fun addressType =>
    (normalized.filter fun a => a.addressType = addressType ∧ a.isActive).length
  if activeCount .registered ≠ 1 ∨ activeCount .billing ≠ 1 then
    throw "Exactly one active registered address and one active billing address are required."
  return normalized

/-! ## The identifier and the registrations -/

abbrev Statement := AddressTables → Except Failure AddressTables

/-- The key of `unique_legal_identifier_globally`. -/
def LegalIdentifier.key (l : LegalIdentifier) : String × String := (l.countryCode, l.identifier)

/-- The key of `unique_tax_registration_globally`. -/
def TaxRegistration.key (r : TaxRegistration) : String × RegistrationType × String :=
  (r.countryCode, r.registrationType, r.identifier)

/-- `unique_primary_legal_identifier_per_org_type`. -/
def hasOtherPrimary (t : AddressTables) (organisation : OrganisationId)
    (except : Option LegalIdentifierId) : Bool :=
  t.legalIdentifiers.any fun l => l.organisation = organisation ∧ l.isPrimary ∧ some l.id ≠ except

/-- `upsert_primary_legal_identifier`, of the type PAN. -/
def upsertPrimaryLegalIdentifier (o : Organisation) : Statement := fun t =>
  let normalized := normalIdentifier rules o.panNumber
  if normalized = "" then .ok t
  else
    match Table.find LegalIdentifier.key (o.countryCode, normalized) t.legalIdentifiers with
    | some l =>
      if l.organisation ≠ o.id then
        .error (.valueError "PAN already belongs to another organisation.")
      else if hasOtherPrimary t o.id (some l.id) then
        .error (.integrityError "unique_primary_legal_identifier_per_org_type")
      else
        .ok { t with
          legalIdentifiers := Table.update (fun l' => l'.id = l.id)
            (fun l' => { l' with isPrimary := true }) t.legalIdentifiers }
    | none =>
      if hasOtherPrimary t o.id none then
        .error (.integrityError "unique_primary_legal_identifier_per_org_type")
      else
        .ok { t with
          legalIdentifiers := t.legalIdentifiers ++ [
            { id := t.nextId, organisation := o.id, countryCode := o.countryCode
              identifier := normalized, isPrimary := true }]
          nextId := t.nextId + 1 }

/-- `_registration_type_for_country`. -/
def registrationTypeForCountry (countryCode : String) : RegistrationType :=
  if countryCode = "IN" then .gstin else .other

/-- The key that the registration of a payload has. -/
def registrationKey (payload : AddressFields) : String × RegistrationType × String :=
  (payload.countryCode, registrationTypeForCountry payload.countryCode,
    normalIdentifier rules (payload.gstin.getD ""))

/-- The registration of a payload, once it is ensured. -/
def registrationOf (payload : AddressFields) (t : AddressTables) : Option TaxRegistration :=
  if normalIdentifier rules (payload.gstin.getD "") = "" then none
  else Table.find TaxRegistration.key (registrationKey rules payload) t.taxRegistrations

/-- The legal identifier that the registration of a payload belongs to: only India's. -/
def legalIdentifierOf (o : Organisation) (payload : AddressFields) (t : AddressTables) :
    Option LegalIdentifierId :=
  if payload.countryCode = "IN" ∧ o.panNumber ≠ "" then
    (Table.find LegalIdentifier.key (o.countryCode, normalIdentifier rules o.panNumber)
      t.legalIdentifiers).map LegalIdentifier.id
  else none

/-- `ensure_tax_registration`. -/
def ensureTaxRegistration (o : Organisation) (payload : AddressFields) : Statement := fun t =>
  if normalIdentifier rules (payload.gstin.getD "") = "" then .ok t
  else
    match Table.find TaxRegistration.key (registrationKey rules payload) t.taxRegistrations with
    | some r =>
      if r.organisation ≠ o.id then
        .error (.valueError (match r.registrationType with
          | .gstin => "GSTIN already belongs to another organisation."
          | .other => "OTHER already belongs to another organisation."))
      else
        .ok { t with
          taxRegistrations := Table.update (fun r' => r'.id = r.id)
            (fun r' => { r' with
              stateCode := payload.stateCode
              legalIdentifier := (legalIdentifierOf rules o payload t).or r'.legalIdentifier })
            t.taxRegistrations }
    | none =>
      .ok { t with
        taxRegistrations := t.taxRegistrations ++ [
          { id := t.nextId, organisation := o.id
            legalIdentifier := legalIdentifierOf rules o payload t
            countryCode := payload.countryCode
            registrationType := registrationTypeForCountry payload.countryCode
            identifier := normalIdentifier rules (payload.gstin.getD "")
            stateCode := payload.stateCode, isPrimaryBilling := false }]
        nextId := t.nextId + 1 }

/-- The registrations of the organisation, other than the one of the payload, are not billed. -/
def clearPrimaryBilling (o : Organisation) (payload : AddressFields) : Statement := fun t =>
  .ok { t with
    taxRegistrations := Table.update
      (fun r => r.organisation = o.id
        ∧ some r.id ≠ (registrationOf rules payload t).map TaxRegistration.id)
      (fun r => { r with isPrimaryBilling := false }) t.taxRegistrations }

/-- The registration of the payload is billed, under
`unique_primary_billing_tax_registration_per_org`. -/
def setPrimaryBilling (payload : AddressFields) : Statement := fun t =>
  match registrationOf rules payload t with
  | none => .ok t
  | some r =>
    if t.taxRegistrations.any fun r' =>
        r'.organisation = r.organisation ∧ r'.isPrimaryBilling ∧ r'.id ≠ r.id then
      .error (.integrityError "unique_primary_billing_tax_registration_per_org")
    else
      .ok { t with
        taxRegistrations := Table.update (fun r' => r'.id = r.id)
          (fun r' => { r' with isPrimaryBilling := true }) t.taxRegistrations }

/-- **`_sync_address_tax_registration`**, statement by statement. -/
def syncAddressTaxRegistration (o : Organisation) (payload : AddressFields) : List Statement :=
  (if o.panNumber = "" then [] else [upsertPrimaryLegalIdentifier rules o])
  ++ [ensureTaxRegistration rules o payload]
  ++ if payload.addressType = .billing then
    [clearPrimaryBilling rules o payload, setPrimaryBilling rules payload]
  else []

/-! ## Addresses and the locations at them -/

/-- `_sync_location_address_fields`. -/
def OfficeLocation.at (location : OfficeLocation) (a : Address) : OfficeLocation :=
  { location with
    organisationAddress := some a.id, address := a.fields.line1, city := a.fields.city
    state := a.fields.state, country := a.fields.country, pincode := a.fields.pincode }

/-- `_ensure_default_location_for_address`, which is not remote. -/
def ensureDefaultLocation (a : Address) (t : AddressTables) : AddressTables :=
  match t.locations.find? fun l => l.organisation = a.organisation ∧ l.name = a.fields.label with
  | some l =>
    { t with
      locations := Table.save OfficeLocation.id
        { l.at a with isActive := true, isRemote := false } t.locations }
  | none =>
    { t with
      locations := t.locations ++ [
        OfficeLocation.at
          { id := t.nextId, organisation := a.organisation, name := a.fields.label
            organisationAddress := none, address := "", city := "", state := "", country := ""
            pincode := "", isRemote := false, isActive := true } a]
      nextId := t.nextId + 1 }

/-- An active address of a type that an organisation has once. -/
def Address.isThe (organisation : OrganisationId) (addressType : AddressType) (a : Address) :
    Bool :=
  a.organisation = organisation ∧ a.fields.addressType = addressType ∧ a.fields.isActive

/-- `unique_active_registered_address_per_org` and `unique_active_billing_address_per_org`. -/
def isTaken (a : Address) (t : AddressTables) : Bool :=
  a.fields.addressType.isMandatory ∧ a.fields.isActive
    ∧ t.addresses.any fun b => b.id ≠ a.id ∧ b.isThe a.organisation a.fields.addressType

/-- What both writes of an address answer when a constraint stops them. -/
def takenError : Failure :=
  .valueError "GSTIN must be unique and required address types can only exist once."

/-- The columns of an address. -/
def addressRow (id : AddressId) (organisation : OrganisationId) (payload : AddressFields)
    (t : AddressTables) : Address where
  id := id
  organisation := organisation
  fields := { payload with
    gstin := (registrationOf rules payload t).map TaxRegistration.identifier }
  taxRegistration := (registrationOf rules payload t).map TaxRegistration.id

/-- The transaction of a new address. -/
def insertAddress (o : Organisation) (payload : AddressFields) (autoCreateLocation : Bool) :
    Statement := fun t =>
  let a := addressRow rules t.nextId o.id payload t
  if isTaken a t then .error takenError
  else
    let t' := { t with addresses := t.addresses ++ [a], nextId := t.nextId + 1 }
    .ok (if autoCreateLocation ∧ a.fields.isActive then ensureDefaultLocation a t' else t')

/-- The transaction of an edited address; the locations at it follow. -/
def saveAddress (a : Address) (payload : AddressFields) : Statement := fun t =>
  let a' := addressRow rules a.id a.organisation payload t
  if isTaken a' t then .error takenError
  else
    .ok { t with
      addresses := Table.save Address.id a' t.addresses
      locations := Table.update (fun l => l.organisationAddress = some a.id) (·.at a')
        t.locations }

/-- `address.save(update_fields=['is_active'])`. -/
def switchOff (a : Address) : Statement := fun t =>
  .ok { t with
    addresses := Table.update (fun b => b.id = a.id)
      (fun b => { b with fields := { b.fields with isActive := false } }) t.addresses }

/-! ## The requests -/

/-- One error, and no statement. -/
def refuse (message : String) : List Statement := [fun _ => .error (.valueError message)]

/-- Statements that are committed together. -/
def inTransaction (fs : List Statement) : Statement := fun t => fs.foldlM (fun t f => f t) t

/-- The statements that follow a check. -/
def checked {α : Type} (check : Except String α) (next : α → List Statement) : List Statement :=
  match check with
  | .error message => refuse message
  | .ok a => next a

/-- The statements on a row that a request names. -/
def withRow {α : Type} (row : Option α) (next : α → List Statement) : List Statement :=
  match row with
  | none => [fun _ => .error .notFound]
  | some a => next a

/-- **`create_organisation_address`**. -/
def createOrganisationAddress (o : Organisation) (payload : AddressFields)
    (autoCreateLocation : Bool) : List Statement :=
  if o.panNumber = "" then refuse "Organisation PAN must be set before adding addresses."
  else
    checked (normalizeAddressPayload rules payload o.panNumber) fun payload =>
      syncAddressTaxRegistration rules o payload
        ++ [insertAddress rules o payload autoCreateLocation]

/-- `validate_organisation_pan_change`. -/
def validateOrganisationPanChange (o : Organisation) (panNumber : String) (t : AddressTables) :
    Except String String := do
  let normalizedPan ← normalizePanNumber rules panNumber
  if t.taxRegistrations.any fun r => r.organisation = o.id ∧ r.countryCode = "IN"
      ∧ r.registrationType = .gstin ∧ panOf r.identifier ≠ normalizedPan then
    throw "PAN cannot be changed because one or more GSTINs do not match the new PAN."
  return normalizedPan

/-- The columns that a request changes. -/
structure AddressChanges where
  addressType : Option AddressType := none
  label : Option String := none
  line1 : Option String := none
  line2 : Option String := none
  city : Option String := none
  state : Option String := none
  stateCode : Option String := none
  country : Option String := none
  countryCode : Option String := none
  pincode : Option String := none
  gstin : Option (Option String) := none
  isActive : Option Bool := none
deriving DecidableEq, Repr

def AddressChanges.apply (changes : AddressChanges) (fields : AddressFields) :
    AddressFields where
  addressType := changes.addressType.getD fields.addressType
  label := changes.label.getD fields.label
  line1 := changes.line1.getD fields.line1
  line2 := changes.line2.getD fields.line2
  city := changes.city.getD fields.city
  state := changes.state.getD fields.state
  stateCode := changes.stateCode.getD fields.stateCode
  country := changes.country.getD fields.country
  countryCode := changes.countryCode.getD fields.countryCode
  pincode := changes.pincode.getD fields.pincode
  gstin := changes.gstin.getD fields.gstin
  isActive := changes.isActive.getD fields.isActive

/-- The checks of an edited address. -/
def editedPayload (o : Organisation) (a : Address) (changes : AddressChanges)
    (t : AddressTables) : Except String AddressFields := do
  let panNumber ← normalizePanNumber rules o.panNumber
  if panNumber ≠ "" ∧ panNumber ≠ o.panNumber then
    let _ ← validateOrganisationPanChange rules o panNumber t
  let payload ← normalizeAddressPayload rules (changes.apply a.fields)
    (firstNonempty o.panNumber panNumber)
  if a.fields.addressType.isMandatory ∧ changes.isActive = some false then
    throw s!"{a.fields.addressType.defaultLabel} cannot be deactivated."
  if a.fields.addressType.isMandatory ∧ payload.addressType ≠ a.fields.addressType then
    throw s!"{a.fields.addressType.defaultLabel} address type cannot be changed."
  return payload

/-- **`update_organisation_address`**. -/
def updateOrganisationAddress (o : Organisation) (a : Address) (changes : AddressChanges)
    (t : AddressTables) : List Statement :=
  checked (editedPayload rules o a changes t) fun payload =>
    syncAddressTaxRegistration rules o payload ++ [saveAddress rules a payload]

/-- **`deactivate_organisation_address`**. -/
def deactivateOrganisationAddress (a : Address) (t : AddressTables) : List Statement :=
  if a.fields.addressType.isMandatory then
    refuse s!"{a.fields.addressType.defaultLabel} cannot be deactivated."
  else if t.locations.any fun l => l.organisationAddress = some a.id ∧ l.isActive then
    refuse "Deactivate linked office locations before deactivating this address."
  else [switchOff a]

/-- `validate_pan_number` of the serializers; a text of blanks is none. -/
def validatePanNumber (value : String) : Except String String :=
  if strip value = "" then .error "This field may not be blank."
  else normalizePanNumber rules (strip value)

/-- **`create_organisation`**, in one transaction. -/
def createOrganisation (panNumber countryCode : String) (addresses : List AddressFields) :
    Statement := fun t => do
  let panNumber ← (validatePanNumber rules panNumber).mapError .valueError
  let addresses ← (validateAddressCollection rules addresses panNumber).mapError .valueError
  let countryCode ← (rules.normalizeCountryCode countryCode).mapError .valueError
  let o := { id := t.nextId, panNumber := panNumber, countryCode := countryCode }
  addresses.foldlM
    (fun t payload => inTransaction (createOrganisationAddress rules o payload true) t)
    { t with organisations := t.organisations ++ [o], nextId := t.nextId + 1 }

/-- The PAN and the country that a request leaves an organisation with. -/
def editedProfile (o : Organisation) (panNumber countryCode : Option String)
    (t : AddressTables) : Except String Organisation := do
  let panNumber ← panNumber.mapM (validatePanNumber rules)
  let countryCode ← countryCode.mapM rules.normalizeCountryCode
  let panNumber ← panNumber.mapM (validateOrganisationPanChange rules o · t)
  return { o with
    panNumber := panNumber.getD o.panNumber, countryCode := countryCode.getD o.countryCode }

def saveOrganisation (o : Organisation) : Statement := fun t =>
  .ok { t with organisations := Table.save Organisation.id o t.organisations }

/-- India's registrations are those of the primary identifier. -/
def linkRegistrations (o : Organisation) : Statement := fun t =>
  let primary := t.legalIdentifiers.find? fun l =>
    l.organisation = o.id ∧ l.countryCode = "IN" ∧ l.isPrimary
  .ok { t with
    taxRegistrations := Table.update
      (fun r => r.organisation = o.id ∧ r.countryCode = "IN" ∧ r.registrationType = .gstin)
      (fun r => { r with legalIdentifier := primary.map LegalIdentifier.id })
      t.taxRegistrations }

/-- **`update_organisation_profile`**. -/
def updateOrganisationProfile (o : Organisation) (panNumber countryCode : Option String)
    (t : AddressTables) : List Statement :=
  checked (editedProfile rules o panNumber countryCode t) fun o =>
    [saveOrganisation o, upsertPrimaryLegalIdentifier rules o]
    ++ if o.countryCode = "IN" then [linkRegistrations o] else []

/-- `_get_address`: an active one. -/
def activeAddress (organisation : OrganisationId) (address : AddressId) (t : AddressTables) :
    Option Address :=
  t.addresses.find? fun a => a.organisation = organisation ∧ a.id = address ∧ a.fields.isActive

def noAddressError : Failure :=
  .valueError "Office location must be linked to an active organisation address."

/-- The unique names of an organisation's locations. -/
def isNamed (l : OfficeLocation) (t : AddressTables) : Bool :=
  t.locations.any fun l' => l'.id ≠ l.id ∧ l'.organisation = l.organisation ∧ l'.name = l.name

def namedError : Failure := .valueError "A location with this name already exists."

/-- **`create_location`**. -/
def createLocation (organisation : OrganisationId) (name : String) (address : AddressId)
    (isRemote : Bool) : Statement := fun t =>
  match activeAddress organisation address t with
  | none => .error noAddressError
  | some a =>
    let l := OfficeLocation.at
      { id := t.nextId, organisation := organisation, name := name
        organisationAddress := none, address := "", city := "", state := "", country := ""
        pincode := "", isRemote := isRemote, isActive := true } a
    if isNamed l t then .error namedError
    else .ok { t with locations := t.locations ++ [l], nextId := t.nextId + 1 }

structure LocationChanges where
  name : Option String := none
  organisationAddress : Option AddressId := none
  isRemote : Option Bool := none
deriving DecidableEq, Repr

/-- The location at the address that a request names, if it names one. -/
def moved (l : OfficeLocation) (address : Option AddressId) (t : AddressTables) :
    Except Failure OfficeLocation :=
  match address with
  | none => .ok l
  | some address =>
    match activeAddress l.organisation address t with
    | none => .error noAddressError
    | some a => .ok (l.at a)

/-- **`update_location`**. -/
def updateLocation (l : OfficeLocation) (changes : LocationChanges) : Statement := fun t => do
  let l ← moved l changes.organisationAddress t
  let l := { l with
    name := changes.name.getD l.name, isRemote := changes.isRemote.getD l.isRemote }
  if isNamed l t then .error namedError
  else .ok { t with locations := Table.save OfficeLocation.id l t.locations }

/-- **`deactivate_location`**, which people who work there prevent. -/
def deactivateLocation (l : OfficeLocation) (hasEmployees : Bool) : Statement := fun t =>
  if hasEmployees then
    .error (.valueError ("Cannot deactivate an office location that still has invited, pending, "
      ++ "or active employees."))
  else
    .ok { t with
      locations := Table.update (fun l' => l'.id = l.id) (fun l' => { l' with isActive := false })
        t.locations }

/-! ## Runs -/

inductive Request
  | createOrganisation (panNumber countryCode : String) (addresses : List AddressFields)
  | updateProfile (organisation : OrganisationId) (panNumber countryCode : Option String)
  | createAddress (organisation : OrganisationId) (payload : AddressFields)
      (autoCreateLocation : Bool)
  | updateAddress (address : AddressId) (changes : AddressChanges)
  | deactivateAddress (address : AddressId)
  | createLocation (organisation : OrganisationId) (name : String) (address : AddressId)
      (isRemote : Bool)
  | updateLocation (location : LocationId) (changes : LocationChanges)
  | deactivateLocation (location : LocationId) (hasEmployees : Bool)
deriving DecidableEq, Repr

/-- The statements of a request that finds the tables as they are. -/
def statements (t : AddressTables) : Request → List Statement
  | .createOrganisation panNumber countryCode addresses =>
    [createOrganisation rules panNumber countryCode addresses]
  | .updateProfile organisation panNumber countryCode =>
    withRow (Table.find Organisation.id organisation t.organisations) fun o =>
      updateOrganisationProfile rules o panNumber countryCode t
  | .createAddress organisation payload autoCreateLocation =>
    withRow (Table.find Organisation.id organisation t.organisations) fun o =>
      createOrganisationAddress rules o payload autoCreateLocation
  | .updateAddress address changes =>
    withRow (Table.find Address.id address t.addresses) fun a =>
      withRow (Table.find Organisation.id a.organisation t.organisations) fun o =>
        updateOrganisationAddress rules o a changes t
  | .deactivateAddress address =>
    withRow (Table.find Address.id address t.addresses) fun a => deactivateOrganisationAddress a t
  | .createLocation organisation name address isRemote =>
    [Addresses.createLocation organisation name address isRemote]
  | .updateLocation location changes =>
    withRow (Table.find OfficeLocation.id location t.locations) fun l =>
      [Addresses.updateLocation l changes]
  | .deactivateLocation location hasEmployees =>
    withRow (Table.find OfficeLocation.id location t.locations) fun l =>
      [Addresses.deactivateLocation l hasEmployees]

/-- The error a request is answered with, if any, and the tables it leaves. -/
def serve (t : AddressTables) (request : Request) : Option Failure × AddressTables :=
  Autocommit.execute (statements rules t request) t

def step (t : AddressTables) (request : Request) : AddressTables := (serve rules t request).2

end

def empty : AddressTables where
  organisations := []
  legalIdentifiers := []
  taxRegistrations := []
  addresses := []
  locations := []
  nextId := 0

/-! ## A creation -/

namespace Sample

def upper (s : String) : String := String.ofList (s.toList.map Char.toUpper)

def countryCode (value : String) : Except String String :=
  if upper value = "IN" ∨ upper value = "US" then .ok (upper value)
  else .error "Select a valid country."

/-- Two countries, and one state that is taxed. -/
def rules : CountryRules where
  upper := upper
  resolveCountryCode := countryCode
  normalizeCountryCode := countryCode
  countryName code := if code = "IN" then "India" else "United States"
  normalizeSubdivision _ stateCode state := .ok (stateCode, state)
  validatePostalCode pincode _ := .ok pincode
  taxRegion _ stateCode := if stateCode = "KA" then some ("29", "Karnataka") else none

def payload (addressType : AddressType) : AddressFields where
  addressType := addressType
  label := "Plant"
  line1 := "1 MG Road"
  city := "Bengaluru"
  stateCode := "KA"
  pincode := "560001"
  gstin := some "29ABCDE1234F1Z5"

def creation : Request :=
  .createOrganisation "ABCDE1234F" "IN" [payload .registered, payload .billing]

/-- What is stored of an address. -/
def stored (addressType : AddressType) : AddressFields :=
  { payload addressType with label := addressType.defaultLabel, country := "India" }

def office (id : LocationId) (name : String) (address : AddressId) : OfficeLocation where
  id := id
  organisation := 0
  name := name
  organisationAddress := some address
  address := "1 MG Road"
  city := "Bengaluru"
  state := ""
  country := "India"
  pincode := "560001"
  isRemote := false
  isActive := true

def created : AddressTables where
  organisations := [⟨0, "ABCDE1234F", "IN"⟩]
  legalIdentifiers := [⟨1, 0, "IN", "ABCDE1234F", true⟩]
  taxRegistrations := [⟨2, 0, some 1, "IN", .gstin, "29ABCDE1234F1Z5", "KA", true⟩]
  addresses := [⟨3, 0, stored .registered, some 2⟩, ⟨5, 0, stored .billing, some 2⟩]
  locations := [office 4 "Registered Office" 3, office 6 "Billing Address" 5]
  nextId := 7

theorem step_creation : step rules empty creation = created := by decide +kernel

end Sample

end Addresses
