import Clarisal.Approvals.Models
import Clarisal.Lib.Forest
import Clarisal.Lib.TwoPhase

/-!
# Departments

A department may have a parent, which has to be active and of the same organisation.
Before a department is moved, the departments above the new parent are walked: the move
is refused when the department is among them. The walk ends because departments form no
cycle, and it refuses no other move (`resolveParentDepartment_exact`).

Every request checks first and saves later, a move the whole row. The departments stay a
forest of active departments under active ones in every interleaving in which each check
still holds when its request saves (`departments_sound`), hence when requests come one
after the other. Two moves that overlap can close a cycle, and no walk that gets
into it ends.
-/

open Relation

namespace Departments

open Approvals (OrganisationId DepartmentId)
open Worklist (Acyclic InsertEdge)

structure Department where
  id : DepartmentId
  organisation : OrganisationId
  parentDepartment : Option DepartmentId
  name : String
  description : String
  isActive : Bool
deriving DecidableEq, Repr

/-- The departments, and those that active employees belong to. -/
structure DepartmentTables where
  departments : List Department
  staffed : List DepartmentId
  nextId : ℕ
deriving DecidableEq, Repr

namespace DepartmentTables

def get (t : DepartmentTables) (id : DepartmentId) : Option Department :=
  Table.find Department.id id t.departments

/-- `get_object_or_404(Department, organisation=…, id=…)`. -/
def getOf (t : DepartmentTables) (organisation : OrganisationId) (id : DepartmentId) :
    Option Department :=
  t.departments.find? fun d => d.organisation = organisation ∧ d.id = id

/-- `unique_together = [('organisation', 'name')]`. -/
def taken (t : DepartmentTables) (organisation : OrganisationId) (name : String)
    (except : Option DepartmentId) : Bool :=
  t.departments.any fun d => d.organisation = organisation ∧ d.name = name ∧ some d.id ≠ except

end DepartmentTables

/-! ## Resolving a parent -/

/-- **The walk up** from a department: whether it meets the one that is moved, if any. It
has no answer when it does not end in so many rounds. -/
def walkUp (t : DepartmentTables) (moved : Option DepartmentId) : ℕ → Option Department →
    Option Bool
  | _, none => some false
  | 0, some _ => none
  | n + 1, some cursor =>
    if moved = some cursor.id then some true
    else walkUp t moved n (cursor.parentDepartment.bind t.get)

/-- `_resolve_parent_department`, in so many rounds of the walk. -/
def resolveParentDepartment (t : DepartmentTables) (rounds : ℕ) (organisation : OrganisationId)
    (parentDepartmentId : Option DepartmentId) (department : Option DepartmentId) :
    Option (Except String (Option DepartmentId)) :=
  match parentDepartmentId with
  | none => some (.ok none)
  | some id =>
    match t.departments.find? fun d => d.organisation = organisation ∧ d.id = id ∧ d.isActive with
    | none =>
      some (.error "Parent department must belong to the same organisation and be active.")
    | some parent =>
      if department = some parent.id then
        some (.error "A department cannot be its own parent.")
      else
        match walkUp t department rounds (some parent) with
        | none => none
        | some true => some (.error "Department hierarchy cannot contain cycles.")
        | some false => some (.ok (some parent.id))

/-! ## Requests in two phases -/

inductive DepartmentRequest
  | create (organisation : OrganisationId) (name description : String)
      (parentDepartmentId : Option DepartmentId)
  | update (organisation : OrganisationId) (id : DepartmentId) (name description : Option String)
      (parentDepartmentId : Option (Option DepartmentId))
  | deactivate (organisation : OrganisationId) (id : DepartmentId)
deriving DecidableEq, Repr

/-- What a request saves: a row to be inserted, a row with all its columns, or one
column of a row. -/
inductive Held
  | insert (organisation : OrganisationId) (name description : String)
      (parentDepartment : Option DepartmentId)
  | save (row : Department)
  | deactivate (id : DepartmentId)
deriving DecidableEq, Repr

/-- The rounds that a walk may take. -/
def DepartmentTables.rounds (t : DepartmentTables) : ℕ := t.departments.length

/-- **The checks of a request.** One that is refused, or does not end, saves nothing. -/
def readRequest (t : DepartmentTables) : DepartmentRequest → Option Held
  | .create organisation name description parentId => do
    let parent ← resolveParentDepartment t t.rounds organisation parentId none
    let parent ← parent.toOption
    return .insert organisation name description parent
  | .update organisation id name description parentId => do
    let row ← t.getOf organisation id
    let row := { row with
      name := name.getD row.name, description := description.getD row.description }
    match parentId with
    | none => return .save row
    | some parentId => do
      let parent ← resolveParentDepartment t t.rounds organisation parentId (some id)
      let parent ← parent.toOption
      return .save { row with parentDepartment := parent }
  | .deactivate organisation id => do
    let row ← t.getOf organisation id
    if t.departments.any (fun d => d.parentDepartment = some row.id ∧ d.isActive) then none
    else if row.id ∈ t.staffed then none
    else return .deactivate row.id

/-- **What a request saves**, unless the name is taken. -/
def saveRequest (t : DepartmentTables) : Held → DepartmentTables
  | .insert organisation name description parent =>
    if t.taken organisation name none then t
    else
      { t with
        departments := t.departments ++ [
          { id := t.nextId, organisation := organisation, parentDepartment := parent, name := name,
            description := description, isActive := true }]
        nextId := t.nextId + 1 }
  | .save row =>
    if t.taken row.organisation row.name (some row.id) then t
    else { t with departments := Table.save Department.id row t.departments }
  | .deactivate id =>
    { t with
      departments := Table.update (fun d => d.id = id) (fun d => { d with isActive := false })
        t.departments }

/-- **Departments**, changed in two phases. What is held is kept with its request. -/
def departmentRequests : Protocol DepartmentTables DepartmentRequest (DepartmentRequest × Held) Unit
    (List DepartmentId) where
  read t request := (readRequest t request).map fun held => (request, held)
  write t held _ := saveRequest t held.2
  -- who works where changes by other requests
  atomic t staffed := { t with staffed := staffed }

/-! ## What departments keep -/

/-- One department is the parent of another. -/
abbrev Up (t : DepartmentTables) : DepartmentId → DepartmentId → Prop :=
  Forest.Up t.departments Department.id Department.parentDepartment

/-- **The departments are sound**: names are unique in an organisation, parents are there
and of the same organisation, no department is above itself, and active departments have
active parents. -/
structure Sound (t : DepartmentTables) : Prop where
  unique : Table.Unique Department.id t.departments
  fresh : ∀ d ∈ t.departments, d.id < t.nextId
  names : ∀ d ∈ t.departments, ∀ e ∈ t.departments, d.organisation = e.organisation →
    d.name = e.name → d = e
  parents : ∀ d ∈ t.departments, ∀ p ∈ d.parentDepartment, ∃ e ∈ t.departments, e.id = p
    ∧ e.organisation = d.organisation ∧ (d.isActive = true → e.isActive = true)
  acyclic : Acyclic (Up t)

/-- **The check still holds** when the request saves. -/
def StillHolds (t : DepartmentTables) (held : DepartmentRequest × Held) : Prop :=
  readRequest t held.1 = some held.2

instance (t : DepartmentTables) (held : DepartmentRequest × Held) : Decidable (StillHolds t held) :=
  inferInstanceAs (Decidable (_ = _))

section

variable {t t' : DepartmentTables} {organisation : OrganisationId} {id : DepartmentId}
  {moved : Option DepartmentId} {d parent cursor : Department} {n : ℕ} {held : Held}

theorem mem_of_getOf (h : t.getOf organisation id = some d) :
    d ∈ t.departments ∧ d.organisation = organisation ∧ d.id = id := by
  have hfound := List.find?_some h
  simp only [decide_eq_true_eq] at hfound
  exact ⟨List.mem_of_find?_eq_some h, hfound⟩

/-- The next department of a walk. -/
theorem up_iff_get (h : Table.Unique Department.id t.departments) (hd : d ∈ t.departments)
    {b : DepartmentId} :
    Up t d.id b ↔ ∃ e, d.parentDepartment.bind t.get = some e ∧ e.id = b := by
  constructor
  · rintro ⟨d', hd', hid, hparent, hb⟩
    obtain rfl := h.eq_of_key hd' hd hid
    obtain ⟨e, he, rfl⟩ := List.mem_map.mp hb
    exact ⟨e, by rw [hparent]; exact (Table.find_eq_some_iff h).mpr ⟨he, rfl⟩, rfl⟩
  · rintro ⟨e, he, rfl⟩
    obtain ⟨p, hp, hget⟩ := Option.bind_eq_some_iff.mp he
    have hid : e.id = p := Table.find_key hget
    exact ⟨d, hd, rfl, hid ▸ hp, List.mem_map_of_mem (Table.find_mem hget)⟩

/-- **A walk that ends** has met the department that is moved exactly when it is above. -/
theorem walkUp_eq_some (h : Table.Unique Department.id t.departments)
    (hcursor : cursor ∈ t.departments) {met : Bool}
    (hwalk : walkUp t moved n (some cursor) = some met) :
    met = true ↔ ∃ m, moved = some m ∧ ReflTransGen (Up t) cursor.id m := by
  induction n generalizing cursor with
  | zero => cases hwalk
  | succ n ih =>
    rw [walkUp] at hwalk
    split at hwalk
    · next hmet =>
      rw [← Option.some.inj hwalk]
      exact iff_of_true rfl ⟨cursor.id, hmet, .refl⟩
    next hnot =>
    have hstep : (∃ m, moved = some m ∧ ReflTransGen (Up t) cursor.id m)
        ↔ ∃ e, cursor.parentDepartment.bind t.get = some e
          ∧ ∃ m, moved = some m ∧ ReflTransGen (Up t) e.id m := by
      constructor
      · rintro ⟨m, hm, hreach⟩
        rcases ReflTransGen.cases_head hreach with rfl | ⟨b, hup, hreach⟩
        · exact absurd hm hnot
        · obtain ⟨e, he, rfl⟩ := (up_iff_get h hcursor).mp hup
          exact ⟨e, he, m, hm, hreach⟩
      · rintro ⟨e, he, m, hm, hreach⟩
        exact ⟨m, hm, hreach.head ((up_iff_get h hcursor).mpr ⟨e, he, rfl⟩)⟩
    rw [hstep]
    cases hnext : cursor.parentDepartment.bind t.get with
    | none =>
      rw [hnext, walkUp] at hwalk
      rw [← Option.some.inj hwalk]
      simp
    | some e =>
      obtain ⟨p, -, hget⟩ := Option.bind_eq_some_iff.mp hnext
      rw [hnext] at hwalk
      rw [ih (Table.find_mem hget) hwalk]
      simp

/-- **Without a cycle every walk ends**, after as many rounds as there are departments. -/
theorem walkUp_isSome (h : Sound t) (hcursor : cursor ∈ t.departments)
    (hn : (reach (Up t) (t.departments.map Department.id).toFinset cursor.id).card ≤ n) :
    (walkUp t moved n (some cursor)).isSome = true := by
  have hmem : ∀ d ∈ t.departments, d.id ∈ (t.departments.map Department.id).toFinset :=
    fun d hd => List.mem_toFinset.mpr (List.mem_map_of_mem hd)
  induction n generalizing cursor with
  | zero =>
    have hself : cursor.id ∈ reach (Up t) (t.departments.map Department.id).toFinset cursor.id :=
      mem_reach.mpr ⟨hmem cursor hcursor, .refl⟩
    rw [Finset.card_eq_zero.mp (Nat.le_zero.mp hn)] at hself
    exact absurd hself (Finset.notMem_empty _)
  | succ n ih =>
    rw [walkUp]
    split
    · rfl
    · cases hnext : cursor.parentDepartment.bind t.get with
      | none => rw [walkUp]; rfl
      | some e =>
        obtain ⟨p, -, hget⟩ := Option.bind_eq_some_iff.mp hnext
        have hup : Up t cursor.id e.id := (up_iff_get h.unique hcursor).mpr ⟨e, hnext, rfl⟩
        have hback : ¬ ReflTransGen (Up t) e.id cursor.id := fun hreach =>
          h.acyclic cursor.id (TransGen.head' hup hreach)
        refine ih (Table.find_mem hget) ?_
        have hlt := card_reach_lt (hmem cursor hcursor) hup hback
        omega

theorem walkUp_rounds_isSome (h : Sound t) (moved : Option DepartmentId)
    (hcursor : cursor ∈ t.departments) :
    (walkUp t moved t.rounds (some cursor)).isSome = true := by
  refine walkUp_isSome h hcursor ((Finset.card_le_card reach_subset).trans ?_)
  rw [DepartmentTables.rounds, ← List.length_map (f := Department.id)]
  exact List.toFinset_card_le _

/-- **A parent may be given** to a department: it is active, of the organisation and not
below the department. -/
def MayBeParent (t : DepartmentTables) (organisation : OrganisationId)
    (moved : Option DepartmentId) (p : DepartmentId) : Prop :=
  (∃ e ∈ t.departments, e.id = p ∧ e.organisation = organisation ∧ e.isActive = true)
    ∧ ∀ m ∈ moved, ¬ ReflTransGen (Up t) p m

/-- **A resolved parent may be the parent**, whatever the tables. -/
theorem mayBeParent_of_resolve (h : Table.Unique Department.id t.departments) {p : DepartmentId}
    {resolved : Option DepartmentId}
    (hresolve : resolveParentDepartment t n organisation (some p) moved = some (.ok resolved)) :
    resolved = some p ∧ MayBeParent t organisation moved p := by
  unfold resolveParentDepartment at hresolve
  dsimp only at hresolve
  split at hresolve
  · cases hresolve
  next parent hfind =>
  have hparent := List.find?_some hfind
  simp only [decide_eq_true_eq] at hparent
  obtain ⟨horganisation, rfl, hactive⟩ := hparent
  have hmem := List.mem_of_find?_eq_some hfind
  split at hresolve
  · cases hresolve
  split at hresolve
  · cases hresolve
  · cases hresolve
  · next hwalk =>
    refine ⟨(Except.ok.inj (Option.some.inj hresolve)).symm,
      ⟨parent, hmem, rfl, horganisation, hactive⟩, fun m hm hreach => ?_⟩
    exact absurd ((walkUp_eq_some h hmem hwalk).mpr ⟨m, hm, hreach⟩) Bool.false_ne_true

/-- **The check of a parent, exactly**: among sound departments its walk ends, and it
accepts every parent that may be one and no other. -/
theorem resolveParentDepartment_exact (t : DepartmentTables) (h : Sound t)
    (organisation : OrganisationId) (p : DepartmentId) (moved : Option DepartmentId) :
    (resolveParentDepartment t t.rounds organisation (some p) moved).isSome = true
      ∧ (resolveParentDepartment t t.rounds organisation (some p) moved = some (.ok (some p))
        ↔ MayBeParent t organisation moved p) := by
  refine ⟨?_, fun hresolve => (mayBeParent_of_resolve h.unique hresolve).2, ?_⟩
  · unfold resolveParentDepartment
    dsimp only
    split
    · rfl
    next parent hfind =>
    split
    · rfl
    obtain ⟨met, hwalk⟩ := Option.isSome_iff_exists.mp
      (walkUp_rounds_isSome h moved (List.mem_of_find?_eq_some hfind))
    rw [hwalk]
    cases met <;> rfl
  · rintro ⟨⟨e, he, rfl, horganisation, hactive⟩, hbelow⟩
    unfold resolveParentDepartment
    dsimp only
    have hfind : t.departments.find? (fun d => d.organisation = organisation ∧ d.id = e.id
        ∧ d.isActive) = some e := by
      cases hfound : t.departments.find? (fun d => d.organisation = organisation ∧ d.id = e.id
          ∧ d.isActive) with
      | none =>
        exact absurd (List.find?_eq_none.mp hfound e he) (by simp [horganisation, hactive])
      | some e' =>
        have hkey := List.find?_some hfound
        simp only [decide_eq_true_eq] at hkey
        exact congrArg some
          (h.unique.eq_of_key (List.mem_of_find?_eq_some hfound) he hkey.2.1)
    rw [hfind]
    dsimp only
    have hself : moved ≠ some e.id := fun hself => hbelow e.id hself .refl
    rw [if_neg hself]
    obtain ⟨met, hwalk⟩ := Option.isSome_iff_exists.mp
      (walkUp_rounds_isSome h moved he)
    rw [hwalk]
    cases met with
    | false => rfl
    | true =>
      obtain ⟨m, hm, hreach⟩ := (walkUp_eq_some h.unique he hwalk).mp rfl
      exact absurd hreach (hbelow m hm)

/-! ## What a request saves -/

/-- **A department is added.** -/
theorem Sound.insert (h : Sound t) {name description : String} {p : Option DepartmentId}
    (htaken : t.taken organisation name none = false)
    (hparent : ∀ p' ∈ p, ∃ e ∈ t.departments, e.id = p' ∧ e.organisation = organisation
      ∧ e.isActive = true) :
    Sound { t with
      departments := t.departments ++ [
        { id := t.nextId, organisation := organisation, parentDepartment := p, name := name,
          description := description, isActive := true }]
      nextId := t.nextId + 1 } := by
  have hname : ∀ d ∈ t.departments, d.organisation = organisation → d.name ≠ name := by
    intro d hd horg heq
    have := List.any_eq_false.mp htaken d hd
    simp [horg, heq] at this
  refine ⟨?_, ?_, ?_, ?_, ?_⟩
  · exact h.unique.append_one fun d hd => (h.fresh d hd).ne
  · intro d hd
    rcases List.mem_append.mp hd with hd | hd
    · exact Nat.lt_succ_of_lt (h.fresh d hd)
    · rw [List.mem_singleton.mp hd]
      exact Nat.lt_succ_self _
  · intro d hd e he horg hsame
    rcases List.mem_append.mp hd with hd | hd <;> rcases List.mem_append.mp he with he | he
    · exact h.names d hd e he horg hsame
    · rw [List.mem_singleton.mp he] at horg hsame
      exact absurd hsame (hname d hd horg)
    · rw [List.mem_singleton.mp hd] at horg hsame
      exact absurd hsame.symm (hname e he horg.symm)
    · rw [List.mem_singleton.mp hd, List.mem_singleton.mp he]
  · intro d hd p' hp'
    rcases List.mem_append.mp hd with hd | hd
    · obtain ⟨e, he, hrest⟩ := h.parents d hd p' hp'
      exact ⟨e, List.mem_append_left _ he, hrest⟩
    · rw [List.mem_singleton.mp hd] at hp' ⊢
      obtain ⟨e, he, hid, horg, hactive⟩ := hparent p' hp'
      exact ⟨e, List.mem_append_left _ he, hid, horg, fun _ => hactive⟩
  · -- nothing is below the new department
    have hnew : ∀ a b, Up t a b → b ≠ t.nextId := by
      rintro a b ⟨d, hd, -, -, hb⟩
      obtain ⟨e, he, rfl⟩ := List.mem_map.mp hb
      exact (h.fresh e he).ne
    have hreach : ∀ p', p' ≠ t.nextId → ¬ ReflTransGen (Up t) p' t.nextId := by
      intro p' hp' hreach
      rcases ReflTransGen.cases_tail hreach with heq | ⟨c, -, hup⟩
      · exact hp' heq.symm
      · exact hnew _ _ hup rfl
    have hedge : ∀ a b, Forest.Up (t.departments ++ [
        { id := t.nextId, organisation := organisation, parentDepartment := p, name := name,
          description := description, isActive := true }]) Department.id
          Department.parentDepartment a b → Up t a b ∨ (a = t.nextId ∧ p = some b) := by
      rintro a b ⟨d, hd, rfl, hdp, -⟩
      rcases List.mem_append.mp hd with hd | hd
      · obtain ⟨e, he, rfl, -⟩ := h.parents d hd b hdp
        exact Or.inl ⟨d, hd, rfl, hdp, List.mem_map_of_mem he⟩
      · rw [List.mem_singleton.mp hd] at hdp ⊢
        exact Or.inr ⟨rfl, hdp⟩
    cases p with
    | none =>
      exact h.acyclic.mono fun a b hab => (hedge a b hab).resolve_right fun h => by cases h.2
    | some p' =>
      obtain ⟨e, he, rfl, -⟩ := hparent p' rfl
      refine (h.acyclic.insert (hreach e.id (h.fresh e he).ne)).mono fun a b hab => ?_
      exact (hedge a b hab).imp_right fun h => ⟨h.1, (Option.some.inj h.2).symm⟩

/-- **A department is saved**: its parent is as it was, or may be its parent. -/
theorem Sound.save (h : Sound t) {row : Department}
    (htaken : t.taken row.organisation row.name (some row.id) = false) (hd : d ∈ t.departments)
    (hid : row.id = d.id) (horg : row.organisation = d.organisation)
    (hactive : row.isActive = d.isActive)
    (hparent : row.parentDepartment = d.parentDepartment
      ∨ ∀ p ∈ row.parentDepartment, MayBeParent t d.organisation (some d.id) p) :
    Sound { t with departments := Table.save Department.id row t.departments } := by
  have hrow : row ∈ Table.save Department.id row t.departments :=
    Table.mem_save_self hd hid.symm
  have hname : ∀ e ∈ t.departments, e.organisation = row.organisation → e.name = row.name →
      e.id = row.id := by
    intro e he heorg hename
    have := List.any_eq_false.mp htaken e he
    simpa [heorg, hename] using this
  -- the rows are the same but for the saved one, which keeps its place and its state
  have hkept : ∀ e ∈ t.departments, ∃ e' ∈ Table.save Department.id row t.departments,
      e'.id = e.id ∧ e'.organisation = e.organisation ∧ e'.isActive = e.isActive := by
    intro e he
    by_cases heid : e.id = row.id
    · obtain rfl := h.unique.eq_of_key he hd (heid.trans hid)
      exact ⟨row, hrow, hid, horg, hactive⟩
    · exact ⟨e, Table.mem_save_of_ne he heid, rfl, rfl, rfl⟩
  have hfound : ∀ e ∈ t.departments, ∀ p ∈ e.parentDepartment,
      ∃ e' ∈ Table.save Department.id row t.departments, e'.id = p
        ∧ e'.organisation = e.organisation ∧ (e.isActive = true → e'.isActive = true) := by
    intro e he p hp
    obtain ⟨a, ha, rfl, haorg, haactive⟩ := h.parents e he p hp
    obtain ⟨a', ha', hid', horg', hactive'⟩ := hkept a ha
    exact ⟨a', ha', hid', horg'.trans haorg, fun hact => hactive'.trans (haactive hact)⟩
  refine ⟨h.unique.save row, ?_, ?_, ?_, ?_⟩
  · intro e he
    rcases Table.mem_save he with rfl | ⟨he, -⟩
    · rw [hid]
      exact h.fresh d hd
    · exact h.fresh e he
  · intro a ha b hb haborg habname
    rcases Table.mem_save ha with rfl | ⟨ha', hane⟩ <;>
      rcases Table.mem_save hb with rfl | ⟨hb', hbne⟩
    · rfl
    · exact absurd (hname b hb' haborg.symm habname.symm) hbne
    · exact absurd (hname a ha' haborg habname) hane
    · exact h.names a ha' b hb' haborg habname
  · intro e he p hp
    rcases Table.mem_save he with rfl | ⟨he, -⟩
    · rcases hparent with hsame | hmay
      · obtain ⟨a, ha, haid, haorg, haactive⟩ := hfound d hd p (hsame ▸ hp)
        exact ⟨a, ha, haid, haorg.trans horg.symm, fun hact => haactive (hactive ▸ hact)⟩
      · obtain ⟨⟨a, ha, haid, haorg, haactive⟩, -⟩ := hmay p hp
        obtain ⟨a', ha', hid', horg', hactive'⟩ := hkept a ha
        exact ⟨a', ha', hid'.trans haid, (horg'.trans haorg).trans horg.symm,
          fun _ => hactive'.trans haactive⟩
    · exact hfound e he p hp
  · have hedge : ∀ a b, Forest.Up (Table.save Department.id row t.departments) Department.id
        Department.parentDepartment a b →
        Up t a b ∨ (a = d.id ∧ row.parentDepartment = some b) := by
      rintro a b ⟨e, he, rfl, hp, hb⟩
      rw [Table.map_key_save] at hb
      rcases Table.mem_save he with rfl | ⟨he, -⟩
      · exact Or.inr ⟨hid, hp⟩
      · exact Or.inl ⟨e, he, rfl, hp, hb⟩
    have hsame : row.parentDepartment = d.parentDepartment →
        Acyclic (Forest.Up (Table.save Department.id row t.departments) Department.id
          Department.parentDepartment) := by
      intro hsame
      refine h.acyclic.mono fun a b hab => ?_
      rcases hedge a b hab with hup | ⟨rfl, hp⟩
      · exact hup
      · obtain ⟨e, he, heid, -⟩ := h.parents d hd b (hsame ▸ hp)
        exact ⟨d, hd, rfl, hsame ▸ hp, heid ▸ List.mem_map_of_mem he⟩
    rcases hparent with hsame' | hmay
    · exact hsame hsame'
    cases hp : row.parentDepartment with
    | none =>
      refine h.acyclic.mono fun a b hab => (hedge a b hab).resolve_right fun h => ?_
      rw [hp] at h
      cases h.2
    | some p =>
      refine (h.acyclic.insert ((hmay p hp).2 d.id rfl)).mono fun a b hab => ?_
      refine (hedge a b hab).imp_right fun h => ⟨h.1, ?_⟩
      rw [hp] at h
      exact (Option.some.inj h.2).symm

/-- **A department without active children is deactivated.** -/
theorem Sound.deactivate (h : Sound t)
    (hchildren : ∀ d ∈ t.departments, d.parentDepartment = some id → d.isActive = false) :
    Sound { t with
      departments := Table.update (fun d => d.id = id) (fun d => { d with isActive := false })
        t.departments } := by
  have hrows : ∀ e ∈ Table.update (fun d => d.id = id) (fun d => { d with isActive := false })
      t.departments, ∃ d ∈ t.departments, e.id = d.id ∧ e.organisation = d.organisation
        ∧ e.name = d.name ∧ e.parentDepartment = d.parentDepartment
        ∧ (e.isActive = true → d.isActive = true) := by
    intro e he
    rcases Table.mem_update_iff.mp he with ⟨d, hd, -, rfl⟩ | ⟨he, -⟩
    · exact ⟨d, hd, rfl, rfl, rfl, rfl, fun hact => by cases hact⟩
    · exact ⟨e, he, rfl, rfl, rfl, rfl, fun hact => hact⟩
  have hids : (Table.update (fun d => d.id = id) (fun d => { d with isActive := false })
      t.departments).map Department.id = t.departments.map Department.id :=
    Table.map_update (f := fun d => { d with isActive := false }) (g := Department.id)
      (fun _ => rfl) _
  have hunique : Table.Unique Department.id (Table.update (fun d => d.id = id)
      (fun d => { d with isActive := false }) t.departments) :=
    h.unique.update fun _ => rfl
  refine ⟨hunique, ?_, ?_, ?_, ?_⟩
  · intro e he
    obtain ⟨d, hd, hid, -⟩ := hrows e he
    exact hid ▸ h.fresh d hd
  · intro a ha b hb horg hname
    obtain ⟨a', ha', haid, haorg, haname, -⟩ := hrows a ha
    obtain ⟨b', hb', hbid, hborg, hbname, -⟩ := hrows b hb
    have hsame := h.names a' ha' b' hb' (haorg.symm.trans (horg.trans hborg))
      (haname.symm.trans (hname.trans hbname))
    exact hunique.eq_of_key ha hb
      (haid.trans ((congrArg Department.id hsame).trans hbid.symm))
  · intro e he p hp
    obtain ⟨d, hd, -, horg, -, hparent, hactive⟩ := hrows e he
    obtain ⟨a, ha, haid, haorg, haactive⟩ := h.parents d hd p (hparent ▸ hp)
    by_cases hsel : a.id = id
    · refine ⟨{ a with isActive := false }, Table.mem_update_iff.mpr
        (Or.inl ⟨a, ha, by simpa using hsel, rfl⟩), haid, haorg.trans horg.symm, fun hact => ?_⟩
      have hinactive := hchildren d hd (hparent ▸ hsel ▸ haid ▸ hp)
      rw [hactive hact] at hinactive
      cases hinactive
    · exact ⟨a, Table.mem_update_iff.mpr (Or.inr ⟨ha, by simpa using hsel⟩), haid,
        haorg.trans horg.symm, fun hact => haactive (hactive hact)⟩
  · refine h.acyclic.mono fun a b hab => ?_
    obtain ⟨e, he, rfl, hp, hb⟩ := hab
    obtain ⟨d, hd, hid, -, -, hparent, -⟩ := hrows e he
    exact ⟨d, hd, hid.symm, hparent ▸ hp, hids ▸ hb⟩

/-! ## Requests, one by one and interleaved -/

/-- **A move that is checked** keeps the row but for what it changes. -/
theorem saved_of_read (h : Table.Unique Department.id t.departments)
    {name description : Option String} {parentId : Option (Option DepartmentId)}
    (hread : readRequest t (.update organisation id name description parentId) = some held) :
    ∃ d ∈ t.departments, ∃ row, held = .save row ∧ row.id = d.id
      ∧ row.organisation = d.organisation ∧ row.isActive = d.isActive
      ∧ (row.parentDepartment = d.parentDepartment
        ∨ ∀ p ∈ row.parentDepartment, MayBeParent t d.organisation (some d.id) p) := by
  simp only [readRequest, Option.bind_eq_bind, Option.bind_eq_some_iff] at hread
  obtain ⟨d, hget, hread⟩ := hread
  obtain ⟨hd, rfl, rfl⟩ := mem_of_getOf hget
  refine ⟨d, hd, ?_⟩
  split at hread
  · obtain rfl := Option.some.inj hread
    exact ⟨_, rfl, rfl, rfl, rfl, Or.inl rfl⟩
  · next newParent =>
    simp only [Option.bind_eq_some_iff] at hread
    obtain ⟨result, hresolve, resolved, hok, hread⟩ := hread
    obtain rfl := Option.some.inj hread
    refine ⟨_, rfl, rfl, rfl, rfl, Or.inr fun p hp => ?_⟩
    cases result with
    | error message => cases hok
    | ok parent =>
      obtain rfl := Option.some.inj hok
      cases newParent with
      | none =>
        obtain rfl := Except.ok.inj (Option.some.inj hresolve)
        cases hp
      | some q =>
        obtain ⟨hparent, hmay⟩ := mayBeParent_of_resolve h hresolve
        obtain rfl := Option.some.inj (hparent.symm.trans hp)
        exact hmay

/-- **What is saved while its check holds** keeps the departments sound. -/
theorem Sound.request (h : Sound t) {request : DepartmentRequest}
    (hread : readRequest t request = some held) : Sound (saveRequest t held) := by
  cases request with
  | create org name description parentId =>
    simp only [readRequest, Option.bind_eq_bind, Option.bind_eq_some_iff] at hread
    obtain ⟨result, hresolve, parent, hok, hread⟩ := hread
    obtain rfl := Option.some.inj hread
    rw [saveRequest]
    split
    · exact h
    · next htaken =>
      refine h.insert (Bool.eq_false_iff.mpr htaken) fun p hp => ?_
      cases result with
      | error message => cases hok
      | ok resolved =>
        obtain rfl := Option.some.inj hok
        cases parentId with
        | none =>
          obtain rfl := Except.ok.inj (Option.some.inj hresolve)
          cases hp
        | some q =>
          obtain ⟨hparent, hmay, -⟩ := mayBeParent_of_resolve h.unique hresolve
          obtain rfl := Option.some.inj (hparent.symm.trans hp)
          exact hmay
  | update org id name description parentId =>
    obtain ⟨d, hd, row, rfl, hid, horg, hactive, hparent⟩ := saved_of_read h.unique hread
    rw [saveRequest]
    split
    · exact h
    · next htaken =>
      exact h.save (Bool.eq_false_iff.mpr htaken) hd hid horg hactive hparent
  | deactivate org id =>
    simp only [readRequest, Option.bind_eq_bind, Option.bind_eq_some_iff] at hread
    obtain ⟨d, hget, hread⟩ := hread
    split at hread
    · cases hread
    next hchildren =>
    split at hread
    · cases hread
    obtain rfl := Option.some.inj hread
    refine h.deactivate fun e he hparent => ?_
    by_contra hactive
    exact hchildren (List.any_eq_true.mpr ⟨e, he, by simp [hparent, hactive]⟩)

/-- A request that meets no other. -/
def serve (t : DepartmentTables) (request : DepartmentRequest) : DepartmentTables :=
  (readRequest t request).elim t (saveRequest t)

/-- **One after the other, requests keep the departments sound.** -/
theorem Sound.run (h : Sound t) (requests : List DepartmentRequest) :
    Sound (Run.exec serve t requests) := by
  refine Run.invariant (fun t request ht => ?_) h requests
  unfold serve
  cases hread : readRequest t request with
  | none => exact ht
  | some held => exact ht.request hread

end

/-! ## Samples -/

namespace Sample

def noDepartments : DepartmentTables := { departments := [], staffed := [], nextId := 1 }

theorem noDepartments_sound : Sound noDepartments where
  unique := List.nodup_nil
  fresh _ hd := absurd hd List.not_mem_nil
  names _ hd := absurd hd List.not_mem_nil
  parents _ hd := absurd hd List.not_mem_nil
  acyclic a hup := by
    obtain ⟨b, ⟨d, hd, -⟩, -⟩ := TransGen.head'_iff.mp hup
    exact absurd hd List.not_mem_nil

/-- Two departments, and a third under the first. -/
def tables : DepartmentTables :=
  Run.exec serve noDepartments [.create 1 "Engineering" "" none, .create 1 "Finance" "" none,
    .create 1 "Platform" "" (some 1)]

theorem tables_sound : Sound tables := noDepartments_sound.run _

/-- The first department is moved under the second while the third is renamed. -/
def moves : List (Protocol.Event DepartmentRequest Unit (List DepartmentId)) :=
  [.begin (.update 1 1 none none (some (some 2))), .begin (.update 1 3 (some "Infra") none none),
    .commit 1 (), .commit 0 (), .atomic [3]]

/-- The first two departments are each moved under the other. -/
def crossed : List (Protocol.Event DepartmentRequest Unit (List DepartmentId)) :=
  [.begin (.update 1 1 none none (some (some 2))), .begin (.update 1 2 none none (some (some 1))),
    .commit 0 (), .commit 0 ()]

end Sample

theorem resolveParentDepartment_exact_sample :
    (resolveParentDepartment Sample.tables Sample.tables.rounds 1 (some 3) (some 1)).isSome = true
      ∧ (resolveParentDepartment Sample.tables Sample.tables.rounds 1 (some 3) (some 1)
          = some (.ok (some 3))
        ↔ MayBeParent Sample.tables 1 (some 1) 3) :=
  resolveParentDepartment_exact Sample.tables Sample.tables_sound 1 3 (some 1)

/-- Two moves whose checks overlap close a cycle, and a walk that gets into it does not
end in any of the rounds there are departments for. -/
example :
    let t := (Run.exec departmentRequests.step { shared := Sample.tables, inFlight := [] }
      Sample.crossed).shared
    t.departments.map (fun d => (d.id, d.parentDepartment))
        = [(1, some 2), (2, some 1), (3, some 1)]
      ∧ resolveParentDepartment t t.rounds 1 (some 1) (some 3) = none := by
  decide

end Departments
