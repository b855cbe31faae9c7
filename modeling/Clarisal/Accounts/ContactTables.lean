import Clarisal.Lib.Autocommit
import Clarisal.Lib.Table

/-!
# Contacts of persons

The e-mail addresses and the phone numbers are two tables of one shape: a contact belongs to a
person and has a key, the normal form that no two contacts share. At most one contact of a person
is the primary one. The database keeps to this, and to the widths of the columns: a statement
that would break it fails (`checked`).

A contact is recorded by a list of statements (`recordContact`): the primary contacts of the
person are demoted before the new one is written or the old one promoted, so none of the
statements meets two primary contacts. The only ones that can fail are those that write a text
that does not fit its column, or a person that is not there (`execute_recordContact`).
-/

namespace Accounts

abbrev PersonId := ℕ

inductive ContactKind
  | work | personal | legal | emergency | other
deriving DecidableEq, Repr

inductive ContactError
  | valueError (message : String)
  | databaseError
deriving DecidableEq, Repr

/-- A contact. The key is `normalized_email` or `e164_number`, the text `email` or
`display_number`; only e-mail addresses have a flag, `is_login`. -/
structure Contact (φ : Type) where
  id : ℕ
  person : PersonId
  key : String
  text : String
  kind : ContactKind
  isPrimary : Bool
  flags : φ
deriving DecidableEq

abbrev EmailAddress := Contact Bool

abbrev PhoneNumber := Contact Unit

/-- The widths of the columns. -/
structure Columns where
  key : ℕ
  text : ℕ

def emailColumns : Columns := ⟨254, 254⟩

def phoneColumns : Columns := ⟨20, 32⟩

/-- What is stored of a text: spaces that do not fit are cut off. -/
def stored (width : ℕ) (text : String) : String :=
  if (text.toList.drop width).all (· = ' ') then String.ofList (text.toList.take width) else text

/-- An identifier that is not in use. -/
def fresh (ids : List ℕ) : ℕ := ids.foldr max 0 + 1

section

variable {φ : Type}

/-- **What the database keeps to**: the keys, the foreign key, one primary contact of a person,
and the widths of the columns. -/
structure Sound (columns : Columns) (persons : List PersonId) (rows : List (Contact φ)) :
    Prop where
  ids : Table.Unique Contact.id rows
  keys : Table.Unique Contact.key rows
  person : ∀ r ∈ rows, r.person ∈ persons
  primary : ∀ r ∈ rows, ∀ r' ∈ rows, r.isPrimary = true → r'.isPrimary = true →
    r.person = r'.person → r.id = r'.id
  widths : ∀ r ∈ rows, r.key.length ≤ columns.key ∧ r.text.length ≤ columns.text

instance (columns : Columns) (persons : List PersonId) (rows : List (Contact φ)) :
    Decidable (Sound columns persons rows) :=
  decidable_of_iff (Table.Unique Contact.id rows ∧ Table.Unique Contact.key rows
      ∧ (∀ r ∈ rows, r.person ∈ persons)
      ∧ (∀ r ∈ rows, ∀ r' ∈ rows, r.isPrimary = true → r'.isPrimary = true →
        r.person = r'.person → r.id = r'.id)
      ∧ ∀ r ∈ rows, r.key.length ≤ columns.key ∧ r.text.length ≤ columns.text)
    ⟨fun ⟨h₁, h₂, h₃, h₄, h₅⟩ => ⟨h₁, h₂, h₃, h₄, h₅⟩,
      fun h => ⟨h.ids, h.keys, h.person, h.primary, h.widths⟩⟩

/-! ## Statements -/

/-- A statement that writes one of the tables; the persons are at hand. -/
abbrev Write (φ : Type) :=
  List PersonId → List (Contact φ) → Except ContactError (List (Contact φ))

/-- **A statement that the database checks.** -/
def checked (columns : Columns) (f : List (Contact φ) → List (Contact φ)) : Write φ :=
  fun persons rows => if Sound columns persons (f rows) then .ok (f rows) else .error .databaseError

/-- The primary contacts of a person are no longer so, one of them excepted. -/
def demote (person : PersonId) (exclude : Option ℕ) : List (Contact φ) → List (Contact φ) :=
  Table.update (fun r => r.person = person ∧ r.isPrimary = true ∧ some r.id ≠ exclude)
    (fun r => { r with isPrimary := false })

/-- A new row. -/
def create (row : Contact φ) (rows : List (Contact φ)) : List (Contact φ) := rows ++ [row]

/-- `record.save(update_fields=…)`. -/
def saveFields (id : ℕ) (f : Contact φ → Contact φ) : List (Contact φ) → List (Contact φ) :=
  Table.update (fun r => r.id = id) f

variable [DecidableEq φ]

/-- `_ensure_primary_email`, whose flag `is_login` is set as well, and `_ensure_primary_phone`. -/
def ensurePrimary (columns : Columns) (flags : φ) (person : PersonId) (record : Contact φ) :
    List (Write φ) :=
  checked columns (demote person (some record.id))
    :: if record.isPrimary = false ∨ record.flags ≠ flags then
        [checked columns (saveFields record.id
          (fun r => { r with isPrimary := true, flags := flags }))]
      else []

/-- **Record a contact** that was found or is new, as it is asked for. -/
def recordContact (columns : Columns) (message : String) (found : Option (Contact φ))
    (asked : Contact φ) : List (Write φ) :=
  let text := stored columns.text asked.text
  match found with
  | none =>
    [checked columns (demote asked.person none),
      checked columns (create { asked with text := text })]
      ++ ensurePrimary columns asked.flags asked.person asked
  | some record =>
    if record.person ≠ asked.person then [fun _ _ => .error (.valueError message)]
    else
      (if record.text ≠ asked.text ∨ record.kind ≠ asked.kind then
        [checked columns (saveFields record.id
          (fun r => { r with text := text, kind := asked.kind }))]
      else []) ++ ensurePrimary columns asked.flags asked.person record

/-- The contact that is returned. -/
def recorded (found : Option (Contact φ)) (asked : Contact φ) : Contact φ :=
  match found with
  | none => asked
  | some record => { record with text := asked.text, kind := asked.kind, isPrimary := true,
                                 flags := asked.flags }

end

/-! ## One statement -/

section

variable {φ : Type} {columns : Columns} {persons : List PersonId} {rows rows' : List (Contact φ)}
  {person : PersonId} {exclude : Option ℕ} {r r' : Contact φ} {f : Contact φ → Contact φ}

theorem lt_fresh {ids : List ℕ} {n : ℕ} (h : n ∈ ids) : n < fresh ids := by
  induction ids with
  | nil => cases h
  | cons a ids ih =>
    unfold fresh
    rw [List.foldr_cons]
    rcases List.mem_cons.mp h with rfl | h
    · omega
    · have := ih h
      unfold fresh at this
      omega

/-- What is stored of a text that fits is all of it. -/
theorem stored_of_le {width : ℕ} {text : String} (h : text.length ≤ width) :
    stored width text = text := by
  rw [← String.length_toList] at h
  unfold stored
  rw [List.drop_eq_nil_of_le h, List.take_of_length_le h, String.ofList_toList]
  exact ite_self _

/-- The contacts of before are there, and nobody else's. -/
def Keeps (rows rows' : List (Contact φ)) : Prop :=
  ∀ r ∈ rows, ∃ r' ∈ rows', r'.key = r.key ∧ r'.person = r.person

theorem Keeps.refl (rows : List (Contact φ)) : Keeps rows rows := fun r hr => ⟨r, hr, rfl, rfl⟩

theorem Keeps.trans {rows'' : List (Contact φ)} (h : Keeps rows rows') (h' : Keeps rows' rows'') :
    Keeps rows rows'' := fun r hr => by
  obtain ⟨r₁, hr₁, hkey₁, hperson₁⟩ := h r hr
  obtain ⟨r₂, hr₂, hkey₂, hperson₂⟩ := h' r₁ hr₁
  exact ⟨r₂, hr₂, hkey₂.trans hkey₁, hperson₂.trans hperson₁⟩

/-- An update that leaves the keys and the persons. -/
theorem keeps_update {p : Contact φ → Bool} (hkey : ∀ r, (f r).key = r.key)
    (hperson : ∀ r, (f r).person = r.person) (rows : List (Contact φ)) :
    Keeps rows (Table.update p f rows) := fun r hr => by
  refine ⟨_, Table.mem_update.mpr ⟨r, hr, rfl⟩, ?_⟩
  split
  · exact ⟨hkey r, hperson r⟩
  · exact ⟨rfl, rfl⟩

/-- **What a statement does** when it does not fail. -/
def IsWrite (columns : Columns) (w : Write φ) : Prop :=
  ∀ persons rows rows', w persons rows = .ok rows' → Sound columns persons rows' ∧ Keeps rows rows'

theorem checked_ok {g : List (Contact φ) → List (Contact φ)} (h : Sound columns persons (g rows)) :
    checked columns g persons rows = .ok (g rows) := if_pos h

theorem checked_error {g : List (Contact φ) → List (Contact φ)}
    (h : ¬ Sound columns persons (g rows)) :
    checked columns g persons rows = .error .databaseError := if_neg h

theorem isWrite_checked {g : List (Contact φ) → List (Contact φ)}
    (hg : ∀ rows, Keeps rows (g rows)) : IsWrite columns (checked columns g) := by
  intro persons rows rows' h
  unfold checked at h
  split_ifs at h with hsound
  obtain rfl := Except.ok.inj h
  exact ⟨hsound, hg rows⟩

theorem isWrite_save {id : ℕ} (hkey : ∀ r, (f r).key = r.key)
    (hperson : ∀ r, (f r).person = r.person) :
    IsWrite columns (checked columns (saveFields id f)) :=
  isWrite_checked (keeps_update hkey hperson)

theorem isWrite_demote :
    IsWrite columns (checked columns (demote person exclude) : Write φ) :=
  isWrite_checked (keeps_update (fun _ => rfl) (fun _ => rfl))

theorem isWrite_create : IsWrite columns (checked columns (create r)) :=
  isWrite_checked fun _ b hb => ⟨b, List.mem_append_left _ hb, rfl, rfl⟩

/-! ### Demoting -/

theorem mem_demote : r' ∈ demote person exclude rows ↔
    (∃ r ∈ rows, (r.person = person ∧ r.isPrimary = true ∧ some r.id ≠ exclude)
        ∧ { r with isPrimary := false } = r')
      ∨ (r' ∈ rows ∧ ¬ (r'.person = person ∧ r'.isPrimary = true ∧ some r'.id ≠ exclude)) := by
  rw [demote, Table.mem_update_iff]
  simp only [decide_eq_true_eq, decide_eq_false_iff_not]

/-- **After demoting**, only the excepted contact can be a primary one of the person. -/
theorem primary_of_mem_demote (h : r ∈ demote person exclude rows) (hprimary : r.isPrimary = true) :
    r ∈ rows ∧ (r.person = person → some r.id = exclude) := by
  rcases mem_demote.mp h with ⟨r₀, -, -, rfl⟩ | ⟨hr, hnot⟩
  · cases hprimary
  · exact ⟨hr, fun hperson => by_contra fun hid => hnot ⟨hperson, hprimary, hid⟩⟩

theorem Sound.demote (h : Sound columns persons rows) :
    Sound columns persons (demote person exclude rows) where
  ids := h.ids.update fun _ => rfl
  keys := h.keys.update fun _ => rfl
  person r hr := by
    rcases mem_demote.mp hr with ⟨r₀, hr₀, -, rfl⟩ | ⟨hr, -⟩
    · exact h.person r₀ hr₀
    · exact h.person r hr
  primary r hr r' hr' hp hp' :=
    h.primary r (primary_of_mem_demote hr hp).1 r' (primary_of_mem_demote hr' hp').1 hp hp'
  widths r hr := by
    rcases mem_demote.mp hr with ⟨r₀, hr₀, -, rfl⟩ | ⟨hr, -⟩
    · exact h.widths r₀ hr₀
    · exact h.widths r hr

theorem exists_of_mem_demote (h : r ∈ Accounts.demote person exclude rows) :
    ∃ r₀ ∈ rows, r₀.id = r.id ∧ r₀.key = r.key := by
  rcases mem_demote.mp h with ⟨r₀, hr₀, -, rfl⟩ | ⟨hr, -⟩
  · exact ⟨r₀, hr₀, rfl, rfl⟩
  · exact ⟨r, hr, rfl, rfl⟩

/-- Nothing to demote. -/
theorem demote_eq_self_iff : Accounts.demote person exclude rows = rows
    ↔ ∀ r ∈ rows, r.person = person → r.isPrimary = true → some r.id = exclude := by
  constructor
  · intro hsame r hr hperson hprimary
    have hmem : r ∈ Accounts.demote person exclude rows := by rwa [hsame]
    exact (primary_of_mem_demote hmem hprimary).2 hperson
  · intro hnone
    refine Table.update_eq_self fun r hr hp => ?_
    obtain ⟨hperson, hprimary, hid⟩ := of_decide_eq_true hp
    exact absurd (hnone r hr hperson hprimary) hid

/-! ### Writing one contact -/

/-- **A new contact** is taken when it is of a known person and fits. -/
theorem sound_append_iff (h : Sound columns persons rows) (hid : ∀ b ∈ rows, b.id ≠ r.id)
    (hkey : ∀ b ∈ rows, b.key ≠ r.key)
    (hnone : ∀ b ∈ rows, b.isPrimary = true → b.person ≠ r.person) :
    Sound columns persons (create r rows)
      ↔ r.person ∈ persons ∧ r.key.length ≤ columns.key ∧ r.text.length ≤ columns.text := by
  have hlast : r ∈ create r rows := List.mem_append_right _ (List.mem_singleton_self r)
  refine ⟨fun h => ⟨h.person r hlast, h.widths r hlast⟩, fun ⟨hperson, hwidths⟩ => ?_⟩
  have hforall {P : Contact φ → Prop} (hrows : ∀ b ∈ rows, P b) (hr : P r) :
      ∀ b ∈ create r rows, P b :=
    List.forall_mem_append.mpr ⟨hrows, List.forall_mem_singleton.mpr hr⟩
  refine ⟨h.ids.append_one hid, h.keys.append_one hkey, hforall h.person hperson, ?_,
    hforall h.widths hwidths⟩
  refine hforall (fun b hb => hforall (h.primary b hb) fun hp _ hsame => ?_)
    (hforall (fun b hb _ hp hsame => ?_) fun _ _ _ => rfl)
  · exact absurd hsame (hnone b hb hp)
  · exact absurd hsame.symm (hnone b hb hp)

/-- **A contact that is saved** with its key and its person is taken when its text fits, and
when it is the only primary one of the person, if it is. -/
theorem Sound.saveFields (h : Sound columns persons rows) (hr : r ∈ rows)
    (hid : ∀ b, (f b).id = b.id) (hkey : ∀ b, (f b).key = b.key)
    (hperson : ∀ b, (f b).person = b.person) (htext : (f r).text.length ≤ columns.text)
    (hprimary : (f r).isPrimary = true →
      ∀ b ∈ rows, b.isPrimary = true → b.person = r.person → b.id = r.id) :
    Sound columns persons (saveFields r.id f rows) := by
  have hmem {b : Contact φ} : b ∈ Accounts.saveFields r.id f rows
      ↔ b = f r ∨ (b ∈ rows ∧ b.id ≠ r.id) := h.ids.mem_update_key hr
  refine ⟨h.ids.update hid, h.keys.update hkey, ?_, ?_, ?_⟩
  · intro b hb
    rcases hmem.mp hb with rfl | ⟨hb, -⟩
    · exact hperson r ▸ h.person r hr
    · exact h.person b hb
  · intro b hb b' hb' hp hp' hsame
    rcases hmem.mp hb with rfl | ⟨hb, hne⟩
    · rcases hmem.mp hb' with rfl | ⟨hb', hne'⟩
      · rfl
      · rw [hperson] at hsame
        exact absurd (hprimary hp b' hb' hp' hsame.symm) hne'
    · rcases hmem.mp hb' with rfl | ⟨hb', hne'⟩
      · rw [hperson] at hsame
        exact absurd (hprimary hp' b hb hp hsame) hne
      · exact h.primary b hb b' hb' hp hp' hsame
  · intro b hb
    rcases hmem.mp hb with rfl | ⟨hb, -⟩
    · exact ⟨hkey r ▸ (h.widths r hr).1, htext⟩
    · exact h.widths b hb

end

/-! ## Recording a contact -/

section

variable {φ : Type} {columns : Columns} {persons : List PersonId}
  {rows : List (Contact φ)} {flags : φ} {message : String} {row record asked : Contact φ}
  {found : Option (Contact φ)}

/-- The row that stands for a contact in the end. -/
def finalRow (columns : Columns) (found : Option (Contact φ)) (asked : Contact φ) : Contact φ :=
  { recorded found asked with text := stored columns.text asked.text }

/-- The database takes it. -/
def Fits (columns : Columns) (persons : List PersonId) (asked : Contact φ) : Prop :=
  asked.person ∈ persons ∧ asked.key.length ≤ columns.key
    ∧ (stored columns.text asked.text).length ≤ columns.text

instance (columns : Columns) (persons : List PersonId) (asked : Contact φ) :
    Decidable (Fits columns persons asked) := inferInstanceAs (Decidable (_ ∧ _ ∧ _))

/-- **What is known when a contact is recorded**: it was looked up by its key, and the one that
was found is of the person. -/
structure Ready (columns : Columns) (persons : List PersonId) (rows : List (Contact φ))
    (found : Option (Contact φ)) (asked : Contact φ) : Prop where
  sound : Sound columns persons rows
  lookup : found = Table.find Contact.key asked.key rows
  person : ∀ r, found = some r → r.person = asked.person
  id : ∀ r ∈ rows, r.id ≠ asked.id
  primary : asked.isPrimary = true

/-- **A new contact** is taken after the others are demoted, exactly when it fits. -/
theorem Ready.sound_create_iff (h : Ready columns persons rows none asked) :
    Sound columns persons (create (finalRow columns none asked) (demote asked.person none rows))
      ↔ Fits columns persons asked := by
  have hnew := Table.find_eq_none_iff.mp h.lookup.symm
  refine sound_append_iff h.sound.demote (fun b hb => ?_) (fun b hb => ?_) fun b hb hp hsame => ?_
  · obtain ⟨r, hr, hid, -⟩ := exists_of_mem_demote hb
    exact hid ▸ h.id r hr
  · obtain ⟨r, hr, -, hkey⟩ := exists_of_mem_demote hb
    exact hkey ▸ hnew r hr
  · exact absurd ((primary_of_mem_demote hb hp).2 hsame) (Option.some_ne_none _)

/-- **The text and the kind** of a contact that was found. -/
theorem Ready.execute_changed (h : Ready columns persons rows (some record) asked)
    (hfits : Fits columns persons asked) :
    ∃ rows', Autocommit.execute ((if record.text ≠ asked.text ∨ record.kind ≠ asked.kind then
          [checked columns (saveFields record.id
            (fun r => { r with text := stored columns.text asked.text, kind := asked.kind }))]
        else []).map (· persons)) rows = (none, rows')
      ∧ Sound columns persons rows'
      ∧ { record with text := stored columns.text asked.text, kind := asked.kind } ∈ rows'
      ∧ (record.text = stored columns.text asked.text → record.kind = asked.kind →
          rows' = rows) := by
  obtain ⟨hrecord, -⟩ := (Table.find_eq_some_iff h.sound.keys).mp h.lookup.symm
  split_ifs with hchange
  · have hsave := h.sound.saveFields hrecord
      (f := fun r => { r with text := stored columns.text asked.text, kind := asked.kind })
      (fun _ => rfl) (fun _ => rfl) (fun _ => rfl) hfits.2.2 fun hp b hb hp' hsame =>
        h.sound.primary b hb record hrecord hp' hp hsame
    refine ⟨_, ?_, hsave, (h.sound.ids.mem_update_key hrecord).mpr (Or.inl rfl), ?_⟩
    · rw [List.map_singleton, Autocommit.execute_cons_ok (checked_ok hsave),
        Autocommit.execute_nil]
    · intro htext hkind
      refine Table.update_eq_self fun r hr hid => ?_
      rw [h.sound.ids.eq_of_key hr hrecord (of_decide_eq_true hid), ← htext, ← hkind]
  · obtain ⟨htext, hkind⟩ := not_or.mp hchange
    refine ⟨rows, rfl, h.sound, ?_, fun _ _ => rfl⟩
    rw [← not_not.mp htext, ← not_not.mp hkind, stored_of_le (h.sound.widths record hrecord).2]
    exact hrecord

variable [DecidableEq φ]

/-- **The contact becomes the primary one.** -/
theorem execute_ensurePrimary (h : Sound columns persons rows) (hrow : row ∈ rows) (flags : φ) :
    ∃ rows', Autocommit.execute ((ensurePrimary columns flags row.person row).map (· persons)) rows
        = (none, rows')
      ∧ Sound columns persons rows' ∧ { row with isPrimary := true, flags := flags } ∈ rows'
      ∧ (row.isPrimary = true → row.flags = flags → rows' = rows) := by
  have hdemote : Sound columns persons (demote row.person (some row.id) rows) := h.demote
  have hstays : row ∈ demote row.person (some row.id) rows :=
    mem_demote.mpr (Or.inr ⟨hrow, fun ⟨_, _, hne⟩ => hne rfl⟩)
  unfold ensurePrimary
  rw [List.map_cons, Autocommit.execute_cons_ok (checked_ok hdemote)]
  split_ifs with hchange
  · have hsave := hdemote.saveFields hstays
      (f := fun r => { r with isPrimary := true, flags := flags }) (fun _ => rfl) (fun _ => rfl)
      (fun _ => rfl) (h.widths row hrow).2 fun _ b hb hp hsame =>
        Option.some.inj ((primary_of_mem_demote hb hp).2 hsame)
    refine ⟨_, ?_, hsave, (hdemote.ids.mem_update_key hstays).mpr (Or.inl rfl), ?_⟩
    · rw [List.map_singleton, Autocommit.execute_cons_ok (checked_ok hsave),
        Autocommit.execute_nil]
    · intro hprimary hflags
      rcases hchange with hnot | hnot
      · rw [hprimary] at hnot
        cases hnot
      · exact absurd hflags hnot
  · have hprimary : row.isPrimary = true := by
      by_contra hnot
      exact hchange (Or.inl (Bool.eq_false_iff.mpr hnot))
    have hflags : row.flags = flags := by_contra fun hnot => hchange (Or.inr hnot)
    refine ⟨_, rfl, hdemote, ?_, fun _ _ => demote_eq_self_iff.mpr fun r hr hperson hp => ?_⟩
    · rw [← hprimary, ← hflags]
      exact hstays
    · rw [h.primary r hr row hrow hp hprimary hperson]

/-- It is the same whatever else is said of the contact. -/
theorem ensurePrimary_congr (row record : Contact φ) {person : PersonId} (hid : row.id = record.id)
    (hprimary : row.isPrimary = record.isPrimary) (hflags : row.flags = record.flags) :
    ensurePrimary columns flags person record = ensurePrimary columns flags person row := by
  unfold ensurePrimary
  rw [hid, hprimary, hflags]

theorem recordContact_none : recordContact columns message none asked
    = checked columns (demote asked.person none)
      :: checked columns (create (finalRow columns none asked))
      :: ensurePrimary columns asked.flags asked.person asked := rfl

theorem Ready.recordContact_some (h : Ready columns persons rows (some record) asked) :
    recordContact columns message (some record) asked
      = (if record.text ≠ asked.text ∨ record.kind ≠ asked.kind then
          [checked columns (saveFields record.id
            (fun r => { r with text := stored columns.text asked.text, kind := asked.kind }))]
        else []) ++ ensurePrimary columns asked.flags asked.person record :=
  if_neg (not_not.mpr (h.person record rfl))

/-- **A contact that fits** is recorded, and nothing changes when it was recorded so before. -/
theorem Ready.execute_recordContact (h : Ready columns persons rows found asked)
    (hfits : Fits columns persons asked) :
    ∃ rows', Autocommit.execute ((recordContact columns message found asked).map (· persons)) rows
        = (none, rows')
      ∧ Sound columns persons rows' ∧ finalRow columns found asked ∈ rows'
      ∧ (finalRow columns found asked ∈ rows → rows' = rows) := by
  cases found with
  | none =>
    have hinsert := h.sound_create_iff.mpr hfits
    obtain ⟨rows', hexecute, hsound, hmem, -⟩ := execute_ensurePrimary hinsert
      (List.mem_append_right _ (List.mem_singleton_self _)) asked.flags
    refine ⟨rows', ?_, hsound, ?_, fun hin => (h.id _ hin rfl).elim⟩
    · rw [recordContact_none, List.map_cons, List.map_cons,
        Autocommit.execute_cons_ok (checked_ok h.sound.demote),
        Autocommit.execute_cons_ok (checked_ok hinsert),
        ensurePrimary_congr (finalRow columns none asked) asked rfl rfl rfl]
      exact hexecute
    · have hprimary : asked.isPrimary = true := h.primary
      rw [← hprimary] at hmem
      exact hmem
  | some record =>
    obtain ⟨hrecord, -⟩ := (Table.find_eq_some_iff h.sound.keys).mp h.lookup.symm
    obtain ⟨rows₁, hchanged, hsound₁, hmem₁, hsame₁⟩ := h.execute_changed hfits
    obtain ⟨rows', hexecute, hsound, hmem, hsame⟩ :=
      execute_ensurePrimary hsound₁ hmem₁ asked.flags
    refine ⟨rows', ?_, hsound, hmem, fun hin => ?_⟩
    · rw [h.recordContact_some, List.map_append, Autocommit.execute_append_ok hchanged,
        ← h.person record rfl, ensurePrimary_congr _ record rfl rfl rfl]
      exact hexecute
    · have heq := h.sound.ids.eq_of_key hrecord hin rfl
      have hcolumn {β : Type} (column : Contact φ → β) :
          column record = column (finalRow columns (some record) asked) := congrArg column heq
      rw [hsame (hcolumn Contact.isPrimary) (hcolumn Contact.flags),
        hsame₁ (hcolumn Contact.text) (hcolumn Contact.kind)]

/-- **A contact that does not fit** is refused by the database: a new one after the others are
demoted, one that was found before anything is written. -/
theorem Ready.execute_recordContact_error (h : Ready columns persons rows found asked)
    (hfits : ¬ Fits columns persons asked) :
    Autocommit.execute ((recordContact columns message found asked).map (· persons)) rows
      = (some .databaseError, if found = none then demote asked.person none rows else rows) := by
  cases found with
  | none =>
    rw [recordContact_none, List.map_cons, List.map_cons,
      Autocommit.execute_cons_ok (checked_ok h.sound.demote), if_pos rfl]
    exact Autocommit.execute_cons_error (checked_error (mt h.sound_create_iff.mp hfits))
  | some record =>
    obtain ⟨hrecord, hkey⟩ := (Table.find_eq_some_iff h.sound.keys).mp h.lookup.symm
    have hperson := h.person record rfl
    have hwidths := h.sound.widths record hrecord
    have hlong : ¬ (stored columns.text asked.text).length ≤ columns.text := fun htext =>
      hfits ⟨hperson ▸ h.sound.person record hrecord, hkey ▸ hwidths.1, htext⟩
    have hchange : record.text ≠ asked.text := fun heq =>
      hlong (by rw [← heq, stored_of_le hwidths.2]; exact hwidths.2)
    have hbroken : ¬ Sound columns persons (saveFields record.id
        (fun r => { r with text := stored columns.text asked.text, kind := asked.kind }) rows) :=
      fun hsound => hlong (hsound.widths _ ((h.sound.ids.mem_update_key hrecord).mpr
        (Or.inl rfl))).2
    rw [h.recordContact_some, if_pos (Or.inl hchange), if_neg (Option.some_ne_none _)]
    exact Autocommit.execute_cons_error (checked_error hbroken)

/-! ### What is asked for -/

/-- **A contact that is asked for**, if its key is not empty. -/
def recordAsked (columns : Columns) (message : String) (found : Option (Contact φ))
    (asked : Contact φ) : List (Write φ) :=
  if asked.key = "" then [] else recordContact columns message found asked

/-- Nothing is demoted before a contact is written. -/
def Undemoted (rows : List (Contact φ)) (found : Option (Contact φ)) (person : PersonId) : Prop :=
  found = none → ∀ r ∈ rows, r.person = person → r.isPrimary = false

theorem execute_recordAsked (message : String) (asked : Contact φ)
    (hsound : Sound columns persons rows)
    (h : asked.key ≠ "" → Ready columns persons rows found asked)
    (hfits : asked.key ≠ "" → Fits columns persons asked) :
    ∃ rows', Autocommit.execute ((recordAsked columns message found asked).map (· persons)) rows
        = (none, rows')
      ∧ Sound columns persons rows' ∧ (asked.key ≠ "" → finalRow columns found asked ∈ rows')
      ∧ (rows' = rows ↔ asked.key = "" ∨ finalRow columns found asked ∈ rows) := by
  unfold recordAsked
  split_ifs with hkey
  · exact ⟨rows, rfl, hsound, fun hne => absurd hkey hne, iff_of_true rfl (Or.inl hkey)⟩
  · obtain ⟨rows', hexecute, hsound', hmem, hsame⟩ := (h hkey).execute_recordContact (hfits hkey)
    refine ⟨rows', hexecute, hsound', fun _ => hmem, ?_, ?_⟩
    · rintro rfl
      exact Or.inr hmem
    · exact fun hrecorded => hsame (hrecorded.resolve_left hkey)

theorem execute_recordAsked_error (message : String) (asked : Contact φ) (hkey : asked.key ≠ "")
    (h : Ready columns persons rows found asked) (hfits : ¬ Fits columns persons asked) :
    ∃ rows', Autocommit.execute ((recordAsked columns message found asked).map (· persons)) rows
        = (some .databaseError, rows')
      ∧ (rows' = rows ↔ Undemoted rows found asked.person) := by
  unfold recordAsked
  rw [if_neg hkey]
  refine ⟨_, h.execute_recordContact_error hfits, ?_⟩
  unfold Undemoted
  cases found with
  | none =>
    simp only [if_true, demote_eq_self_iff, reduceCtorEq, imp_false, Bool.not_eq_true, forall_const]
  | some record => simp

/-! ### Every statement -/

theorem isWrite_of_mem_ensurePrimary {person : PersonId} {w : Write φ}
    (hw : w ∈ ensurePrimary columns flags person record) : IsWrite columns w := by
  unfold ensurePrimary at hw
  rcases List.mem_cons.mp hw with rfl | hw
  · exact isWrite_demote
  · split_ifs at hw
    · rw [List.mem_singleton.mp hw]
      exact isWrite_save (fun _ => rfl) (fun _ => rfl)
    · cases hw

/-- **Every statement** leaves the contacts to the persons they belong to. -/
theorem isWrite_of_mem_recordContact {w : Write φ}
    (hw : w ∈ recordContact columns message found asked) : IsWrite columns w := by
  cases found with
  | none =>
    rw [recordContact_none] at hw
    rcases List.mem_cons.mp hw with rfl | hw
    · exact isWrite_demote
    · rcases List.mem_cons.mp hw with rfl | hw
      · exact isWrite_create
      · exact isWrite_of_mem_ensurePrimary hw
  | some record =>
    unfold recordContact at hw
    dsimp only at hw
    split_ifs at hw
    · rw [List.mem_singleton.mp hw]
      exact fun _ _ _ h => nomatch h
    · rcases List.mem_append.mp hw with hw | hw
      · rw [List.mem_singleton.mp hw]
        exact isWrite_save (fun _ => rfl) (fun _ => rfl)
      · exact isWrite_of_mem_ensurePrimary hw
    · exact isWrite_of_mem_ensurePrimary hw

theorem isWrite_of_mem_recordAsked {w : Write φ}
    (hw : w ∈ recordAsked columns message found asked) : IsWrite columns w := by
  unfold recordAsked at hw
  split_ifs at hw
  · cases hw
  · exact isWrite_of_mem_recordContact hw

end

end Accounts
