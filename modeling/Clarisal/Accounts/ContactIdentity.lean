import Clarisal.Lib.Run
import Clarisal.Accounts.ContactTables
import Clarisal.Payroll.FiscalYear

/-!
# The identity of contacts

A call resolves an e-mail address and a phone number to a person: the one that is given, or the
one they belong to, or a new one. Conflicts are found before anything is written, and then the
contacts are recorded, statement by statement, outside a transaction.

No contact moves to another person, and nobody has two primary contacts at any moment, whatever
the calls are. But the columns are not as wide as what can be asked for. A phone number that does
not fit is refused by the database after the e-mail address was recorded, or after a person was
created (`long_number_leaves_person`). A run keeps what is expected of it exactly when its calls
are refused before they write, or write what fits, or have nothing to write before what does not
(`identityKept_iff`).
-/

namespace Accounts

@[ext]
structure ContactTables where
  persons : List PersonId
  emailAddresses : List EmailAddress
  phoneNumbers : List PhoneNumber
deriving DecidableEq

/-- The arguments of `resolve_person_contacts`. -/
structure Call where
  email : String
  phone : String
  person : Option PersonId
  emailKind : ContactKind
  phoneKind : ContactKind

structure ResolvedContacts where
  person : PersonId
  emailAddress : Option EmailAddress
  phoneNumber : Option PhoneNumber
  normalizedEmail : String
  normalizedPhone : String

/-! ## The call -/

section

variable (lower : String → String)

def normalizeEmailAddress (value : String) : String :=
  lower (String.ofList (Payroll.strip value.toList))

def normalizePhoneNumber (value : String) : Except ContactError String :=
  let rawValue := Payroll.strip value.toList
  if rawValue = [] then .ok ""
  else
    let cleaned := rawValue.filter (fun c => !(Payroll.isSpace c || c ∈ ['-', '(', ')']))
    if cleaned.head? ≠ some '+' then
      .error (.valueError
        "Phone number must include the country dial code prefix, for example +91.")
    else if cleaned.tail = []
        ∨ cleaned.tail.all (fun c => (Payroll.decimalValue c).isSome) = false then
      .error (.valueError "Phone number must contain only digits after the + prefix.")
    else .ok (String.ofList cleaned)

/-- What is known of a call once it has passed the checks. -/
structure Admitted where
  normalizedEmail : String
  normalizedPhone : String
  emailRecord : Option EmailAddress
  phoneRecord : Option PhoneNumber
  /-- The person, unless one is to be created. -/
  person : Option PersonId

/-- The lookup of a contact; there is none for an empty key. -/
def lookup {φ : Type} (key : String) (rows : List (Contact φ)) : Option (Contact φ) :=
  if key = "" then none else Table.find Contact.key key rows

/-- **The checks**, all of them before the first write. PostgreSQL does not look for a text with
a NUL in it. -/
def checkCall (c : Call) (t : ContactTables) : Except ContactError Admitted :=
  let normalizedEmail := normalizeEmailAddress lower c.email
  match if c.phone = "" then .ok "" else normalizePhoneNumber c.phone with
  | .error e => .error e
  | .ok normalizedPhone =>
    let emailRecord := lookup normalizedEmail t.emailAddresses
    let phoneRecord := lookup normalizedPhone t.phoneNumbers
    if Char.ofNat 0 ∈ normalizedEmail.toList then .error .databaseError
    else if emailRecord.any (fun e => phoneRecord.any (fun p => e.person ≠ p.person)) then
      .error (.valueError "This email and phone number already belong to different people.")
    else if c.person.any (fun q => emailRecord.any (fun e => e.person ≠ q)) then
      .error (.valueError "This email address is already assigned to another person.")
    else if c.person.any (fun q => phoneRecord.any (fun p => p.person ≠ q)) then
      .error (.valueError "This phone number is already assigned to another person.")
    else .ok {
      normalizedEmail := normalizedEmail
      normalizedPhone := normalizedPhone
      emailRecord := emailRecord
      phoneRecord := phoneRecord
      person := (c.person.or (emailRecord.map Contact.person)).or (phoneRecord.map Contact.person) }

namespace Admitted

variable (a : Admitted) (c : Call) (t : ContactTables)

def resolvedPerson : PersonId := a.person.getD (fresh t.persons)

/-- The persons once there is the one of the call. -/
def persons : List PersonId :=
  if a.person = none then t.persons ++ [fresh t.persons] else t.persons

def askedEmail : EmailAddress where
  id := fresh (t.emailAddresses.map Contact.id)
  person := a.resolvedPerson t
  key := a.normalizedEmail
  text := a.normalizedEmail
  kind := c.emailKind
  isPrimary := true
  flags := true

def askedPhone : PhoneNumber where
  id := fresh (t.phoneNumbers.map Contact.id)
  person := a.resolvedPerson t
  key := a.normalizedPhone
  text := c.phone
  kind := c.phoneKind
  isPrimary := true
  flags := ()

end Admitted

def createPerson (t : ContactTables) : Except ContactError ContactTables :=
  .ok { t with persons := t.persons ++ [fresh t.persons] }

def onEmails : Write Bool → ContactTables → Except ContactError ContactTables :=
  Autocommit.onPart ContactTables.persons ContactTables.emailAddresses
    (fun t rows => { t with emailAddresses := rows })

def onPhones : Write Unit → ContactTables → Except ContactError ContactTables :=
  Autocommit.onPart ContactTables.persons ContactTables.phoneNumbers
    (fun t rows => { t with phoneNumbers := rows })

namespace Admitted

variable (a : Admitted) (c : Call) (t : ContactTables)

def emailWrites : List (Write Bool) :=
  recordAsked emailColumns "This email address is already assigned to another person."
    a.emailRecord (a.askedEmail c t)

def phoneWrites : List (Write Unit) :=
  recordAsked phoneColumns "This phone number is already assigned to another person."
    a.phoneRecord (a.askedPhone c t)

/-- **The statements of a call.** -/
def statements : List (ContactTables → Except ContactError ContactTables) :=
  (if a.person = none then [createPerson] else []) ++ ((a.emailWrites c t).map onEmails
    ++ (a.phoneWrites c t).map onPhones)

def resolved : ResolvedContacts where
  person := a.resolvedPerson t
  emailAddress := if a.normalizedEmail = "" then none
    else some (recorded a.emailRecord (a.askedEmail c t))
  phoneNumber := if a.normalizedPhone = "" then none
    else some (recorded a.phoneRecord (a.askedPhone c t))
  normalizedEmail := a.normalizedEmail
  normalizedPhone := a.normalizedPhone

end Admitted

def resolvePersonContacts (c : Call) (t : ContactTables) :
    Except ContactError ResolvedContacts × ContactTables :=
  match checkCall lower c t with
  | .error e => (.error e, t)
  | .ok a =>
    match Autocommit.execute (a.statements c t) t with
    | (some e, t') => (.error e, t')
    | (none, t') => (.ok (a.resolved c t), t')

/-- The states that the statements of a call lead through. -/
def moments (c : Call) (t : ContactTables) : List ContactTables :=
  match checkCall lower c t with
  | .error _ => []
  | .ok a => Autocommit.moments (a.statements c t) t

def step (t : ContactTables) (c : Call) : ContactTables := (resolvePersonContacts lower c t).2

/-- **Every moment of a run.** -/
def history : ContactTables → List Call → List ContactTables
  | t, [] => [t]
  | t, c :: calls => t :: (moments lower c t ++ history (step lower t c) calls)

end

/-! ## What is expected of it -/

/-- The database keeps to both tables. -/
structure ContactTables.Valid (t : ContactTables) : Prop where
  emails : Sound emailColumns t.persons t.emailAddresses
  phones : Sound phoneColumns t.persons t.phoneNumbers

/-- A key belongs to one person, and a person has one primary contact. -/
def OneOfEach {φ : Type} (rows : List (Contact φ)) : Prop :=
  (∀ r ∈ rows, ∀ r' ∈ rows, r.key = r'.key → r.person = r'.person)
    ∧ ∀ r ∈ rows, ∀ r' ∈ rows, r.isPrimary = true → r'.isPrimary = true → r.person = r'.person →
      r = r'

/-- No contact has moved to another person. -/
def ContactTables.Keeps (t t' : ContactTables) : Prop :=
  Accounts.Keeps t.emailAddresses t'.emailAddresses ∧ Accounts.Keeps t.phoneNumbers t'.phoneNumbers

/-- The contact that is returned is a primary one of the person, as it is in the table. -/
def ReturnsPrimary {φ : Type} (rows : List (Contact φ)) (person : PersonId) (key : String) :
    Option (Contact φ) → Prop
  | none => key = ""
  | some contact => contact.key = key ∧ contact.person = person ∧ contact.isPrimary = true
    ∧ ∃ r ∈ rows, r.id = contact.id ∧ r.key = key ∧ r.person = person ∧ r.isPrimary = true

section

variable (lower : String → String)

/-- **A call keeps its word**: it returns primary contacts of one person, or it has changed
nothing. -/
def CallKept (t : ContactTables) (c : Call) : Prop :=
  match resolvePersonContacts lower c t with
  | (.error _, t') => t' = t
  | (.ok result, t') =>
    result.normalizedEmail = normalizeEmailAddress lower c.email
      ∧ (if c.phone = "" then .ok "" else normalizePhoneNumber c.phone)
        = Except.ok (ε := ContactError) result.normalizedPhone
      ∧ ReturnsPrimary t'.emailAddresses result.person result.normalizedEmail result.emailAddress
      ∧ ReturnsPrimary t'.phoneNumbers result.person result.normalizedPhone result.phoneNumber

/-- **The identity of contacts** in a run. -/
def IdentityKept (t : ContactTables) (calls : List Call) : Prop :=
  (∀ m ∈ history lower t calls, OneOfEach m.emailAddresses ∧ OneOfEach m.phoneNumbers)
    ∧ (history lower t calls).Pairwise ContactTables.Keeps
    ∧ Run.Along (step lower) (CallKept lower) t calls

/-- **A call that leaves nothing behind when it fails**: what it writes fits, or there is nothing
to write before what does not. -/
def Undisturbed (t : ContactTables) (c : Call) : Prop :=
  ∀ a, checkCall lower c t = .ok a →
    (a.normalizedEmail ≠ "" → ¬ Fits emailColumns (a.persons t) (a.askedEmail c t) →
        a.person ≠ none ∧ Undemoted t.emailAddresses a.emailRecord (a.resolvedPerson t))
      ∧ ((a.normalizedEmail ≠ "" → Fits emailColumns (a.persons t) (a.askedEmail c t)) →
        a.normalizedPhone ≠ "" → ¬ Fits phoneColumns (a.persons t) (a.askedPhone c t) →
        a.person ≠ none
          ∧ (a.normalizedEmail = ""
            ∨ finalRow emailColumns a.emailRecord (a.askedEmail c t) ∈ t.emailAddresses)
          ∧ Undemoted t.phoneNumbers a.phoneRecord (a.resolvedPerson t))

end

/-! ## What the checks are worth -/

section

variable {lower : String → String} {c : Call} {t t' : ContactTables} {a : Admitted}

/-- **What the checks leave**: the contacts that were found are of the person. -/
structure Admits (lower : String → String) (c : Call) (t : ContactTables) (a : Admitted) :
    Prop where
  email : a.normalizedEmail = normalizeEmailAddress lower c.email
  phone : (if c.phone = "" then .ok "" else normalizePhoneNumber c.phone)
    = Except.ok (ε := ContactError) a.normalizedPhone
  emailRecord : a.emailRecord = lookup a.normalizedEmail t.emailAddresses
  phoneRecord : a.phoneRecord = lookup a.normalizedPhone t.phoneNumbers
  ofEmail : ∀ e, a.emailRecord = some e → a.person = some e.person
  ofPhone : ∀ p, a.phoneRecord = some p → a.person = some p.person

theorem admits_of_check (h : checkCall lower c t = .ok a) : Admits lower c t a := by
  unfold checkCall at h
  split at h
  · cases h
  · next normalizedPhone hphone =>
    dsimp only at h
    split_ifs at h with hnul hboth hemail hgiven
    obtain rfl := Except.ok.inj h
    refine ⟨rfl, hphone, rfl, rfl, fun e he => ?_, fun p hp => ?_⟩
    · replace he : lookup _ t.emailAddresses = some e := he
      rw [he] at hemail ⊢
      cases hperson : c.person with
      | none => rfl
      | some person =>
        have hsame : e.person = person := by simpa [hperson] using hemail
        rw [hsame]
        rfl
    · replace hp : lookup _ t.phoneNumbers = some p := hp
      rw [hp] at hboth hgiven ⊢
      cases hperson : c.person with
      | none =>
        cases he : lookup (normalizeEmailAddress lower c.email) t.emailAddresses with
        | none => rfl
        | some e => simpa [he] using hboth
      | some person =>
        have hsame : p.person = person := by simpa [hperson] using hgiven
        rw [hsame]
        rfl

theorem lookup_eq {φ : Type} {key : String} {rows : List (Contact φ)} (h : key ≠ "") :
    lookup key rows = Table.find Contact.key key rows := if_neg h

theorem fresh_ne {φ : Type} {rows : List (Contact φ)} {r : Contact φ} (hr : r ∈ rows) :
    r.id ≠ fresh (rows.map Contact.id) :=
  (lt_fresh (List.mem_map_of_mem hr)).ne

theorem resolvedPerson_eq {person : PersonId} (h : a.person = some person) :
    a.resolvedPerson t = person := by
  rw [Admitted.resolvedPerson, h]
  rfl

theorem subset_persons : t.persons ⊆ a.persons t := fun p hp => by
  unfold Admitted.persons
  split_ifs
  · exact List.mem_append_left _ hp
  · exact hp

theorem persons_eq_iff : a.persons t = t.persons ↔ a.person ≠ none := by
  unfold Admitted.persons
  split_ifs with hnone
  · simp [hnone]
  · simp [hnone]

theorem Sound.mono {φ : Type} {columns : Columns} {persons persons' : List PersonId}
    {rows : List (Contact φ)} (h : Sound columns persons rows) (hsub : persons ⊆ persons') :
    Sound columns persons' rows :=
  ⟨h.ids, h.keys, fun r hr => hsub (h.person r hr), h.primary, h.widths⟩

/-- **Ready to record** the e-mail address. -/
theorem Admits.readyEmail (h : Admits lower c t a) (ht : t.Valid) (hkey : a.normalizedEmail ≠ "") :
    Ready emailColumns (a.persons t) t.emailAddresses a.emailRecord (a.askedEmail c t) where
  sound := ht.emails.mono subset_persons
  lookup := h.emailRecord.trans (lookup_eq hkey)
  person r hr := (resolvedPerson_eq (h.ofEmail r hr)).symm
  id _ hr := fresh_ne hr
  primary := rfl

/-- **Ready to record** the phone number. -/
theorem Admits.readyPhone (h : Admits lower c t a) (ht : t.Valid) (hkey : a.normalizedPhone ≠ "") :
    Ready phoneColumns (a.persons t) t.phoneNumbers a.phoneRecord (a.askedPhone c t) where
  sound := ht.phones.mono subset_persons
  lookup := h.phoneRecord.trans (lookup_eq hkey)
  person r hr := (resolvedPerson_eq (h.ofPhone r hr)).symm
  id _ hr := fresh_ne hr
  primary := rfl

/-! ## How a call ends -/

theorem isPart_emails : Autocommit.IsPart ContactTables.persons ContactTables.emailAddresses
    (fun t rows => { t with emailAddresses := rows }) :=
  ⟨fun _ _ => rfl, fun _ _ => rfl, fun _ _ _ => rfl, fun _ => rfl⟩

theorem isPart_phones : Autocommit.IsPart ContactTables.persons ContactTables.phoneNumbers
    (fun t rows => { t with phoneNumbers := rows }) :=
  ⟨fun _ _ => rfl, fun _ _ => rfl, fun _ _ _ => rfl, fun _ => rfl⟩

/-- The person comes first. -/
theorem execute_statements : Autocommit.execute (a.statements c t) t
    = Autocommit.execute ((a.emailWrites c t).map onEmails ++ (a.phoneWrites c t).map onPhones)
        { t with persons := a.persons t } := by
  unfold Admitted.statements Admitted.persons
  split_ifs
  · exact Autocommit.execute_cons_ok rfl
  · rfl

theorem execute_emails {persons : List PersonId} {error : Option ContactError}
    {rows : List EmailAddress}
    (h : Autocommit.execute ((a.emailWrites c t).map (· persons)) t.emailAddresses
      = (error, rows)) :
    Autocommit.execute ((a.emailWrites c t).map onEmails) { t with persons := persons }
      = (error, { t with persons := persons, emailAddresses := rows }) := by
  unfold onEmails
  rw [Autocommit.execute_onPart isPart_emails]
  dsimp only
  rw [h]

theorem execute_phones {persons : List PersonId} {emails : List EmailAddress}
    {error : Option ContactError} {rows : List PhoneNumber}
    (h : Autocommit.execute ((a.phoneWrites c t).map (· persons)) t.phoneNumbers = (error, rows)) :
    Autocommit.execute ((a.phoneWrites c t).map onPhones)
        { t with persons := persons, emailAddresses := emails }
      = (error, ⟨persons, emails, rows⟩) := by
  unfold onPhones
  rw [Autocommit.execute_onPart isPart_phones]
  dsimp only
  rw [h]

theorem resolve_of_error {error : ContactError} (h : checkCall lower c t = .error error) :
    resolvePersonContacts lower c t = (.error error, t) := by
  unfold resolvePersonContacts
  simp only [h]

theorem resolve_of_execute (h : checkCall lower c t = .ok a) (error : Option ContactError)
    (hexecute : Autocommit.execute (a.statements c t) t = (error, t')) :
    resolvePersonContacts lower c t = (error.elim (.ok (a.resolved c t)) .error, t') := by
  unfold resolvePersonContacts
  cases error <;> simp only [h, hexecute, Option.elim]

/-- What a call leaves is what its statements leave. -/
theorem step_eq (h : checkCall lower c t = .ok a) :
    step lower t c = (Autocommit.execute (a.statements c t) t).2 := by
  unfold step
  rw [resolve_of_execute h _ rfl]

theorem moments_eq (h : checkCall lower c t = .ok a) :
    moments lower c t = Autocommit.moments (a.statements c t) t := by
  unfold moments
  rw [h]

/-- A call that is refused leaves everything as it is. -/
theorem refused {error : ContactError} (h : checkCall lower c t = .error error) :
    step lower t c = t ∧ moments lower c t = [] := by
  unfold step moments
  rw [resolve_of_error h, h]
  exact ⟨rfl, rfl⟩

/-- **An e-mail address that does not fit** ends the call after the person and the demotions. -/
theorem resolve_of_email (h : checkCall lower c t = .ok a) (ht : t.Valid)
    (hkey : a.normalizedEmail ≠ "")
    (hfits : ¬ Fits emailColumns (a.persons t) (a.askedEmail c t)) :
    ∃ rows, resolvePersonContacts lower c t
        = (.error .databaseError, ⟨a.persons t, rows, t.phoneNumbers⟩)
      ∧ (rows = t.emailAddresses
        ↔ Undemoted t.emailAddresses a.emailRecord (a.resolvedPerson t)) := by
  obtain ⟨rows, hrows, hsame⟩ := execute_recordAsked_error
    "This email address is already assigned to another person." (a.askedEmail c t) hkey
    ((admits_of_check h).readyEmail ht hkey) hfits
  refine ⟨rows, resolve_of_execute h (some _) ?_, hsame⟩
  rw [execute_statements]
  exact Autocommit.execute_append_error (execute_emails hrows)

/-- **A phone number that does not fit** ends the call after the e-mail address is recorded. -/
theorem resolve_of_phone (h : checkCall lower c t = .ok a) (ht : t.Valid)
    (hemail : a.normalizedEmail ≠ "" → Fits emailColumns (a.persons t) (a.askedEmail c t))
    (hkey : a.normalizedPhone ≠ "") (hfits : ¬ Fits phoneColumns (a.persons t) (a.askedPhone c t)) :
    ∃ emails phones, resolvePersonContacts lower c t
        = (.error .databaseError, ⟨a.persons t, emails, phones⟩)
      ∧ (emails = t.emailAddresses ↔ a.normalizedEmail = ""
        ∨ finalRow emailColumns a.emailRecord (a.askedEmail c t) ∈ t.emailAddresses)
      ∧ (phones = t.phoneNumbers
        ↔ Undemoted t.phoneNumbers a.phoneRecord (a.resolvedPerson t)) := by
  obtain ⟨emails, hemails, -, -, hsameEmails⟩ := execute_recordAsked
    "This email address is already assigned to another person." (a.askedEmail c t)
    (ht.emails.mono subset_persons) ((admits_of_check h).readyEmail ht) hemail
  obtain ⟨phones, hphones, hsamePhones⟩ := execute_recordAsked_error
    "This phone number is already assigned to another person." (a.askedPhone c t) hkey
    ((admits_of_check h).readyPhone ht hkey) hfits
  refine ⟨emails, phones, resolve_of_execute h (some _) ?_, hsameEmails, hsamePhones⟩
  rw [execute_statements, Autocommit.execute_append_ok (execute_emails hemails)]
  exact execute_phones hphones

/-- The contact that is returned. -/
theorem returnsPrimary_recorded {φ : Type} {columns : Columns} {persons : List PersonId}
    {rows rows' : List (Contact φ)} {found : Option (Contact φ)} {asked : Contact φ}
    (h : asked.key ≠ "" → Ready columns persons rows found asked)
    (hmem : asked.key ≠ "" → finalRow columns found asked ∈ rows') :
    ReturnsPrimary rows' asked.person asked.key
      (if asked.key = "" then none else some (recorded found asked)) := by
  split_ifs with hkey
  · exact hkey
  · have hready := h hkey
    have hrecorded : (recorded found asked).key = asked.key
        ∧ (recorded found asked).person = asked.person
        ∧ (recorded found asked).isPrimary = true := by
      cases found with
      | none => exact ⟨rfl, rfl, hready.primary⟩
      | some record =>
        have hrecord : record.key = asked.key := Table.find_key hready.lookup.symm
        exact ⟨hrecord, hready.person record rfl, rfl⟩
    exact ⟨hrecorded.1, hrecorded.2.1, hrecorded.2.2, _, hmem hkey, rfl, hrecorded⟩

/-- **What fits** is recorded and returned. -/
theorem resolve_of_fits (h : checkCall lower c t = .ok a) (ht : t.Valid)
    (hemail : a.normalizedEmail ≠ "" → Fits emailColumns (a.persons t) (a.askedEmail c t))
    (hphone : a.normalizedPhone ≠ "" → Fits phoneColumns (a.persons t) (a.askedPhone c t)) :
    ∃ emails phones, resolvePersonContacts lower c t
        = (.ok (a.resolved c t), ⟨a.persons t, emails, phones⟩)
      ∧ ReturnsPrimary emails (a.resolvedPerson t) a.normalizedEmail (a.resolved c t).emailAddress
      ∧ ReturnsPrimary phones (a.resolvedPerson t) a.normalizedPhone
        (a.resolved c t).phoneNumber := by
  have hadmits := admits_of_check h
  obtain ⟨emails, hemails, -, hmemEmails, -⟩ := execute_recordAsked
    "This email address is already assigned to another person." (a.askedEmail c t)
    (ht.emails.mono subset_persons) (hadmits.readyEmail ht) hemail
  obtain ⟨phones, hphones, -, hmemPhones, -⟩ := execute_recordAsked
    "This phone number is already assigned to another person." (a.askedPhone c t)
    (ht.phones.mono subset_persons) (hadmits.readyPhone ht) hphone
  refine ⟨emails, phones, ?_, returnsPrimary_recorded (hadmits.readyEmail ht) hmemEmails,
    returnsPrimary_recorded (hadmits.readyPhone ht) hmemPhones⟩
  refine resolve_of_execute h none ?_
  rw [execute_statements, Autocommit.execute_append_ok (execute_emails hemails)]
  exact execute_phones hphones

/-- **When a call keeps its word.** -/
theorem callKept_iff (ht : t.Valid) : CallKept lower t c ↔ Undisturbed lower t c := by
  cases h : checkCall lower c t with
  | error e =>
    unfold CallKept Undisturbed
    rw [resolve_of_error h]
    refine iff_of_true rfl fun a ha => ?_
    rw [h] at ha
    cases ha
  | ok a =>
    have hundisturbed {P : Admitted → Prop} : (∀ b, checkCall lower c t = .ok b → P b) ↔ P a :=
      ⟨fun hall => hall a h, fun ha b hb => Except.ok.inj (h.symm.trans hb) ▸ ha⟩
    unfold Undisturbed
    rw [hundisturbed]
    have hsame (emails : List EmailAddress) (phones : List PhoneNumber) :
        (⟨a.persons t, emails, phones⟩ : ContactTables) = t
          ↔ a.person ≠ none ∧ emails = t.emailAddresses ∧ phones = t.phoneNumbers := by
      rw [← persons_eq_iff]
      exact ContactTables.ext_iff
    by_cases hemail : a.normalizedEmail ≠ "" → Fits emailColumns (a.persons t) (a.askedEmail c t)
    · by_cases hphone : a.normalizedPhone ≠ "" → Fits phoneColumns (a.persons t) (a.askedPhone c t)
      · obtain ⟨emails, phones, hend, hreturns⟩ := resolve_of_fits h ht hemail hphone
        have hadmits := admits_of_check h
        unfold CallKept
        rw [hend]
        exact iff_of_true ⟨hadmits.email, hadmits.phone, hreturns⟩
          ⟨fun hkey hfits => absurd (hemail hkey) hfits,
            fun _ hkey hfits => absurd (hphone hkey) hfits⟩
      · obtain ⟨hkey, hfits⟩ := Classical.not_imp.mp hphone
        obtain ⟨emails, phones, hend, hemails, hphones⟩ := resolve_of_phone h ht hemail hkey hfits
        unfold CallKept
        rw [hend]
        dsimp only
        rw [hsame, hemails, hphones]
        exact ⟨fun hkept => ⟨fun hkey hfits => absurd (hemail hkey) hfits, fun _ _ _ => hkept⟩,
          fun hall => hall.2 hemail hkey hfits⟩
    · obtain ⟨hkey, hfits⟩ := Classical.not_imp.mp hemail
      obtain ⟨emails, hend, hemails⟩ := resolve_of_email h ht hkey hfits
      unfold CallKept
      rw [hend]
      dsimp only
      rw [hsame, hemails]
      exact ⟨fun hkept => ⟨fun _ _ => ⟨hkept.1, hkept.2.1⟩, fun hall => absurd hall hemail⟩,
        fun hall => ⟨(hall.1 hkey hfits).1, (hall.1 hkey hfits).2, rfl⟩⟩

/-! ## Every moment -/

namespace ContactTables

theorem Keeps.refl (t : ContactTables) : t.Keeps t := ⟨Accounts.Keeps.refl _, Accounts.Keeps.refl _⟩

theorem Keeps.trans {t₁ t₂ t₃ : ContactTables} (h : t₁.Keeps t₂) (h' : t₂.Keeps t₃) : t₁.Keeps t₃ :=
  ⟨h.1.trans h'.1, h.2.trans h'.2⟩

end ContactTables

/-- **What a statement of a call does.** -/
theorem of_mem_statements {f : ContactTables → Except ContactError ContactTables}
    (hf : f ∈ a.statements c t) {s s' : ContactTables} (h : f s = .ok s') :
    (s.Valid → s'.Valid) ∧ s.Keeps s' := by
  unfold Admitted.statements at hf
  rcases List.mem_append.mp hf with hf | hf
  · split_ifs at hf
    · rw [List.mem_singleton.mp hf] at h
      obtain rfl := Except.ok.inj h
      have hsub : s.persons ⊆ s.persons ++ [fresh s.persons] := List.subset_append_left _ _
      exact ⟨fun hs => ⟨hs.emails.mono hsub, hs.phones.mono hsub⟩,
        Accounts.Keeps.refl _, Accounts.Keeps.refl _⟩
    · cases hf
  · rcases List.mem_append.mp hf with hf | hf
    · obtain ⟨w, hw, rfl⟩ := List.mem_map.mp hf
      obtain ⟨rows, hrows, rfl⟩ := Autocommit.onPart_eq_ok_iff.mp h
      obtain ⟨hsound, hkeeps⟩ := isWrite_of_mem_recordAsked hw _ _ _ hrows
      exact ⟨fun hs => ⟨hsound, hs.phones⟩, hkeeps, Accounts.Keeps.refl _⟩
    · obtain ⟨w, hw, rfl⟩ := List.mem_map.mp hf
      obtain ⟨rows, hrows, rfl⟩ := Autocommit.onPart_eq_ok_iff.mp h
      obtain ⟨hsound, hkeeps⟩ := isWrite_of_mem_recordAsked hw _ _ _ hrows
      exact ⟨fun hs => ⟨hs.emails, hsound⟩, Accounts.Keeps.refl _, hkeeps⟩

/-- **The moments of a call**, and how they are related to what it leaves. -/
theorem pairwise_moments (lower : String → String) (t : ContactTables) (c : Call) :
    (t :: moments lower c t).Pairwise ContactTables.Keeps
      ∧ ∀ m ∈ t :: moments lower c t, m.Keeps (step lower t c) := by
  cases h : checkCall lower c t with
  | error e =>
    rw [(refused h).1, (refused h).2]
    exact ⟨List.pairwise_singleton _ t,
      List.forall_mem_singleton.mpr (ContactTables.Keeps.refl t)⟩
  | ok a =>
    have hstep : ∀ f ∈ a.statements c t, ∀ s s', f s = .ok s' → s.Keeps s' :=
      fun f hf s s' h => (of_mem_statements hf h).2
    rw [step_eq h, moments_eq h]
    exact ⟨Autocommit.pairwise_moments (fun _ _ _ => ContactTables.Keeps.trans) hstep,
      fun m hm => Autocommit.related_execute ContactTables.Keeps.refl
        (fun _ _ _ => ContactTables.Keeps.trans) hstep hm⟩

theorem valid_of_mem_moments (ht : t.Valid) {m : ContactTables} (hm : m ∈ moments lower c t) :
    m.Valid := by
  cases h : checkCall lower c t with
  | error e =>
    rw [(refused h).2] at hm
    cases hm
  | ok a =>
    rw [moments_eq h] at hm
    exact Autocommit.moments_invariant (fun f hf s s' hs h => (of_mem_statements hf h).1 hs) ht hm

theorem valid_step (ht : t.Valid) : (step lower t c).Valid := by
  cases h : checkCall lower c t with
  | error e =>
    rw [(refused h).1]
    exact ht
  | ok a =>
    rw [step_eq h]
    exact Autocommit.execute_invariant (fun f hf s s' hs h => (of_mem_statements hf h).1 hs) ht

/-- **Every moment of a run** is one the database can be in. -/
theorem valid_of_mem_history {calls : List Call} (ht : t.Valid) {m : ContactTables}
    (hm : m ∈ history lower t calls) : m.Valid := by
  induction calls generalizing t with
  | nil =>
    rw [List.mem_singleton.mp hm]
    exact ht
  | cons c calls ih =>
    rcases List.mem_cons.mp hm with rfl | hm
    · exact ht
    · rcases List.mem_append.mp hm with hm | hm
      · exact valid_of_mem_moments ht hm
      · exact ih (valid_step ht) hm

/-- **No contact moves** from one moment of a run to a later one. -/
theorem pairwise_history (lower : String → String) (t : ContactTables) (calls : List Call) :
    (history lower t calls).Pairwise ContactTables.Keeps
      ∧ ∀ m ∈ history lower t calls, t.Keeps m := by
  induction calls generalizing t with
  | nil =>
    exact ⟨List.pairwise_singleton _ t,
      List.forall_mem_singleton.mpr (ContactTables.Keeps.refl t)⟩
  | cons c calls ih =>
    obtain ⟨hpairwise, hstart⟩ := ih (step lower t c)
    obtain ⟨hcall, hafter⟩ := pairwise_moments lower t c
    have hlater : ∀ m ∈ t :: moments lower c t, ∀ m' ∈ history lower (step lower t c) calls,
        m.Keeps m' := fun m hm m' hm' => (hafter m hm).trans (hstart m' hm')
    refine ⟨?_, List.forall_mem_cons.mpr ⟨ContactTables.Keeps.refl t, fun m hm => ?_⟩⟩
    · exact List.pairwise_append.mpr ⟨hcall, hpairwise, hlater⟩
    · rcases List.mem_append.mp hm with hm | hm
      · exact List.rel_of_pairwise_cons hcall hm
      · exact hlater t List.mem_cons_self m hm

/-- What the database keeps to, said of the contacts. -/
theorem oneOfEach_of_sound {φ : Type} {columns : Columns} {persons : List PersonId}
    {rows : List (Contact φ)} (h : Sound columns persons rows) : OneOfEach rows := by
  refine ⟨fun r hr r' hr' hkey => ?_, fun r hr r' hr' hp hp' hperson => ?_⟩
  · rw [h.keys.eq_of_key hr hr' hkey]
  · exact h.ids.eq_of_key hr hr' (h.primary r hr r' hr' hp hp' hperson)

/-! ## Runs -/

/-- **The identity of contacts in every run** whose calls leave nothing behind when they fail. -/
theorem identityKept_iff (lower : String → String) {t : ContactTables} (ht : t.Valid)
    (calls : List Call) :
    IdentityKept lower t calls ↔ Run.Along (step lower) (Undisturbed lower) t calls := by
  have hcalls : Run.Along (step lower) (CallKept lower) t calls
      ↔ Run.Along (step lower) (Undisturbed lower) t calls :=
    Run.along_congr (fun _ _ hs _ => valid_step hs) (fun _ _ hs => callKept_iff hs) ht
  rw [IdentityKept, hcalls]
  refine ⟨fun h => h.2.2, fun h => ⟨fun m hm => ?_, (pairwise_history lower t calls).1, h⟩⟩
  have hm := valid_of_mem_history ht hm
  exact ⟨oneOfEach_of_sound hm.emails, oneOfEach_of_sound hm.phones⟩

end

/-! ## A number that is too long -/

namespace Sample

def empty : ContactTables := ⟨[], [], []⟩

theorem valid_empty : empty.Valid := ⟨by decide, by decide⟩

/-- A new e-mail address, and a phone number. -/
def newcomer (phone : String) : Call where
  email := "asha@example.com"
  phone := phone
  person := none
  emailKind := .work
  phoneKind := .work

/-- What a call leaves that asks for a number of 25 digits. -/
def orphaned : ContactTables where
  persons := [1]
  emailAddresses := [⟨1, 1, "asha@example.com", "asha@example.com", .work, true, true⟩]
  phoneNumbers := []

end Sample

open Sample

theorem identityKept_newcomer : IdentityKept id empty [newcomer "+91 98765-43210"] := by
  refine (identityKept_iff id valid_empty [newcomer "+91 98765-43210"]).mpr ⟨?_, trivial⟩
  have hcheck : checkCall id (newcomer "+91 98765-43210") empty
      = .ok ⟨"asha@example.com", "+919876543210", none, none, none⟩ := rfl
  intro a ha
  obtain rfl := Except.ok.inj (hcheck.symm.trans ha)
  exact ⟨fun _ hfits => absurd (by decide) hfits, fun _ _ hfits => absurd (by decide) hfits⟩

/-- **A number that is too long** is refused after a person is there, with an e-mail address. -/
theorem long_number_leaves_person :
    ¬ IdentityKept id empty [newcomer "+9198765432109876543210987"] := by
  rintro ⟨-, -, hkept, -⟩
  have hend : resolvePersonContacts id (newcomer "+9198765432109876543210987") empty
      = (.error .databaseError, orphaned) := rfl
  unfold CallKept at hkept
  rw [hend] at hkept
  exact absurd hkept (by decide)

end Accounts
