import Clarisal.Approvals.Models
import Clarisal.Lib.Calendar
import Clarisal.Lib.Run
import Clarisal.Lib.Table
import Clarisal.Lib.Transaction

/-!
# The custody of assets

An asset is assigned when it has an active assignment, and its lifecycle
status says so. Assigning, returning and losing an asset move the two in one
transaction. Incidents and maintenance write the status alone: the theft of
an asset that an employee holds marks it lost, and the last maintenance that
is completed makes it available, whoever holds it (`completed_in_custody`).

So the two stay in step exactly when no theft or loss is reported, and no
last maintenance completed, while an asset is held (`custody_iff_notHeld`).
That an asset is assigned twice is ruled out by the check on assignments, in
every run.
-/

open Calendar Transaction

namespace Assets

open Approvals (OrganisationId EmployeeId)

abbrev AssetId := ℕ
abbrev AssetAssignmentId := ℕ
abbrev AssetMaintenanceId := ℕ

inductive AssetCondition
  | new | good | fair | poor | damaged
deriving DecidableEq, Repr

inductive AssetLifecycleStatus
  | available | assigned | inMaintenance | retired | lost | returned
deriving DecidableEq, Repr

def AssetLifecycleStatus.value : AssetLifecycleStatus → String
  | available => "AVAILABLE"
  | assigned => "ASSIGNED"
  | inMaintenance => "IN_MAINTENANCE"
  | retired => "RETIRED"
  | lost => "LOST"
  | returned => "RETURNED"

inductive AssetAssignmentStatus
  | active | returned | lost
deriving DecidableEq, Repr

def AssetAssignmentStatus.value : AssetAssignmentStatus → String
  | active => "ACTIVE"
  | returned => "RETURNED"
  | lost => "LOST"

inductive AssetIncidentType
  | damage | loss | theft | other
deriving DecidableEq, Repr

structure AssetItem where
  id : AssetId
  organisation : OrganisationId
  condition : AssetCondition
  lifecycleStatus : AssetLifecycleStatus
deriving DecidableEq, Repr

structure AssetAssignment where
  id : AssetAssignmentId
  asset : AssetId
  employee : EmployeeId
  conditionOnIssue : AssetCondition
  conditionOnReturn : Option AssetCondition
  status : AssetAssignmentStatus
deriving DecidableEq, Repr

structure AssetMaintenance where
  id : AssetMaintenanceId
  asset : AssetId
  maintenanceType : String
  scheduledDate : Date
  completedDate : Option Date
deriving DecidableEq, Repr

structure AssetIncident where
  asset : AssetId
  employee : Option EmployeeId
  incidentType : AssetIncidentType
deriving DecidableEq, Repr

structure AssetTables where
  items : List AssetItem
  assignments : List AssetAssignment
  maintenance : List AssetMaintenance
  incidents : List AssetIncident
deriving DecidableEq, Repr

namespace AssetTables

def getItem (t : AssetTables) (id : AssetId) : Option AssetItem :=
  Table.find AssetItem.id id t.items

def getAssignment (t : AssetTables) (id : AssetAssignmentId) : Option AssetAssignment :=
  Table.find AssetAssignment.id id t.assignments

def getMaintenance (t : AssetTables) (id : AssetMaintenanceId) : Option AssetMaintenance :=
  Table.find AssetMaintenance.id id t.maintenance

/-- The rows of the assignments that an asset is held by. -/
def activeAssignments (t : AssetTables) (asset : AssetId) : List AssetAssignment :=
  t.assignments.filter (fun a => a.asset = asset ∧ a.status = .active)

/-- The maintenance of an asset that has not been completed. -/
def openMaintenance (t : AssetTables) (asset : AssetId) : List AssetMaintenance :=
  t.maintenance.filter (fun m => m.asset = asset ∧ m.completedDate = none)

/-- `asset.save(update_fields=['lifecycle_status', …])`. -/
def setLifecycleStatus (t : AssetTables) (asset : AssetId) (status : AssetLifecycleStatus) :
    AssetTables :=
  { t with
    items := Table.update (fun i => i.id = asset) (fun i => { i with lifecycleStatus := status })
      t.items }

def setCondition (t : AssetTables) (asset : AssetId) (condition : Option AssetCondition) :
    AssetTables :=
  { t with
    items := Table.update (fun i => i.id = asset)
      (fun i => { i with condition := condition.getD i.condition }) t.items }

def saveAssignment (t : AssetTables) (assignment : AssetAssignment) : AssetTables :=
  { t with assignments := Table.save AssetAssignment.id assignment t.assignments }

def saveMaintenance (t : AssetTables) (maintenance : AssetMaintenance) : AssetTables :=
  { t with maintenance := Table.save AssetMaintenance.id maintenance t.maintenance }

end AssetTables

/-! ## Operations -/

/-- The row of an assignment. -/
def newAssignment (asset : AssetItem) (employee : EmployeeId)
    (conditionOnIssue : Option AssetCondition) (t : AssetTables) : AssetAssignment where
  id := t.assignments.length
  asset := asset.id
  employee := employee
  conditionOnIssue := conditionOnIssue.getD asset.condition
  conditionOnReturn := none
  status := .active

def assignAssetToEmployee (asset : AssetItem) (employee : EmployeeId)
    (conditionOnIssue : Option AssetCondition) (t : AssetTables) : Except String AssetTables :=
  if asset.lifecycleStatus ≠ .available then
    .error ("Asset is not available. Current status: " ++ asset.lifecycleStatus.value)
  else if t.activeAssignments asset.id ≠ [] then
    .error "Asset is already assigned to an employee"
  else
    let t' : AssetTables :=
      { t with assignments := t.assignments ++ [newAssignment asset employee conditionOnIssue t] }
    .ok (t'.setLifecycleStatus asset.id .assigned)

/-- An assignment that ends must be active. -/
def checkActive (assignment : AssetAssignment) : Except String Unit :=
  if assignment.status ≠ .active then
    .error ("Assignment is not active. Current status: " ++ assignment.status.value)
  else .ok ()

def returnAsset (assignment : AssetAssignment) (conditionOnReturn : Option AssetCondition)
    (t : AssetTables) : Except String AssetTables := do
  checkActive assignment
  let needsMaintenance := conditionOnReturn = some .poor ∨ conditionOnReturn = some .damaged
  return (((t.saveAssignment { assignment with
      status := .returned, conditionOnReturn := conditionOnReturn }).setLifecycleStatus
        assignment.asset (if needsMaintenance then .inMaintenance else .available)).setCondition
          assignment.asset conditionOnReturn)

def markAssetAsLost (assignment : AssetAssignment) (t : AssetTables) :
    Except String AssetTables := do
  checkActive assignment
  return (t.saveAssignment { assignment with status := .lost }).setLifecycleStatus
    assignment.asset .lost

def createAssetIncident (asset : AssetItem) (incidentType : AssetIncidentType)
    (employee : Option EmployeeId) (t : AssetTables) : AssetTables :=
  let t' := { t with
    incidents := t.incidents ++ [
      { asset := asset.id, employee := employee, incidentType := incidentType }] }
  if incidentType = .loss ∨ incidentType = .theft then t'.setLifecycleStatus asset.id .lost
  else t'

/-- The row of maintenance. -/
def newMaintenance (asset : AssetItem) (maintenanceType : String) (scheduledDate : Date)
    (t : AssetTables) : AssetMaintenance where
  id := t.maintenance.length
  asset := asset.id
  maintenanceType := maintenanceType
  scheduledDate := scheduledDate
  completedDate := none

/-- New maintenance takes an asset that is available. -/
def addMaintenance (asset : AssetItem) (maintenanceType : String) (scheduledDate : Date)
    (t : AssetTables) : AssetTables :=
  let t' : AssetTables :=
    { t with maintenance :=
        t.maintenance ++ [newMaintenance asset maintenanceType scheduledDate t] }
  if asset.lifecycleStatus = .available then t'.setLifecycleStatus asset.id .inMaintenance
  else t'

def scheduleAssetMaintenance (asset : AssetItem) (maintenanceType : String)
    (scheduledDate : Date) (t : AssetTables) : AssetTables :=
  addMaintenance asset maintenanceType scheduledDate t

def createAssetMaintenance (asset : AssetItem) (maintenanceType : String)
    (scheduledDate : Option Date) (today : Date) (t : AssetTables) : AssetTables :=
  addMaintenance asset maintenanceType (scheduledDate.getD today) t

/-- The last maintenance makes an asset available. -/
def completeAssetMaintenance (maintenance : AssetMaintenance) (completedDate : Option Date)
    (today : Date) (t : AssetTables) : AssetTables :=
  let t' := t.saveMaintenance { maintenance with
    completedDate := some (completedDate.getD today) }
  if t'.openMaintenance maintenance.asset = [] then
    t'.setLifecycleStatus maintenance.asset .available
  else t'

/-- The operations, on rows that are read from the tables. -/
inductive Op
  | assignAssetToEmployee (asset : AssetId) (employee : EmployeeId)
      (conditionOnIssue : Option AssetCondition)
  | returnAsset (assignment : AssetAssignmentId) (conditionOnReturn : Option AssetCondition)
  | markAssetAsLost (assignment : AssetAssignmentId)
  | createAssetIncident (asset : AssetId) (incidentType : AssetIncidentType)
      (employee : Option EmployeeId)
  | scheduleAssetMaintenance (asset : AssetId) (maintenanceType : String) (scheduledDate : Date)
  | createAssetMaintenance (asset : AssetId) (maintenanceType : String)
      (scheduledDate : Option Date) (today : Date)
  | completeAssetMaintenance (maintenance : AssetMaintenanceId) (completedDate : Option Date)
      (today : Date)
deriving DecidableEq, Repr

/-- What an operation writes, if it is not refused. -/
def perform (t : AssetTables) : Op → Except String AssetTables
  | .assignAssetToEmployee asset employee conditionOnIssue =>
    match t.getItem asset with
    | none => .ok t
    | some item => assignAssetToEmployee item employee conditionOnIssue t
  | .returnAsset assignment conditionOnReturn =>
    match t.getAssignment assignment with
    | none => .ok t
    | some a => returnAsset a conditionOnReturn t
  | .markAssetAsLost assignment =>
    match t.getAssignment assignment with
    | none => .ok t
    | some a => markAssetAsLost a t
  | .createAssetIncident asset incidentType employee =>
    .ok ((t.getItem asset).elim t (fun i => createAssetIncident i incidentType employee t))
  | .scheduleAssetMaintenance asset maintenanceType scheduledDate =>
    .ok ((t.getItem asset).elim t (fun i =>
      scheduleAssetMaintenance i maintenanceType scheduledDate t))
  | .createAssetMaintenance asset maintenanceType scheduledDate today =>
    .ok ((t.getItem asset).elim t (fun i =>
      createAssetMaintenance i maintenanceType scheduledDate today t))
  | .completeAssetMaintenance maintenance completedDate today =>
    .ok ((t.getMaintenance maintenance).elim t (fun m =>
      completeAssetMaintenance m completedDate today t))

/-- An operation that is refused leaves the tables as they are. -/
def step (t : AssetTables) (op : Op) : AssetTables := settle t (perform t op)

/-! ## Custody -/

/-- Newly created assets. -/
structure AssetTables.NewlyCreated (t : AssetTables) : Prop where
  unique : Table.Unique AssetItem.id t.items
  available : ∀ i ∈ t.items, i.lifecycleStatus = .available
  assignments : t.assignments = []
  maintenance : t.maintenance = []

/-- **Custody**: an asset is held once at most, and is assigned when it is held. -/
structure Custody (t : AssetTables) : Prop where
  once : ∀ asset, (t.activeAssignments asset).length ≤ 1
  inStep : ∀ i ∈ t.items, i.lifecycleStatus = .assigned ↔ t.activeAssignments i.id ≠ []

/-- **The asset is not held** when it is reported lost or stolen, and when the
last of its open maintenance is completed. -/
def NotHeld (t : AssetTables) : Op → Prop
  | .createAssetIncident asset incidentType _ =>
    incidentType = .loss ∨ incidentType = .theft → t.activeAssignments asset = []
  | .completeAssetMaintenance maintenance _ _ => ∀ m, t.getMaintenance maintenance = some m →
    (∀ other ∈ t.openMaintenance m.asset, other.id = m.id) → t.activeAssignments m.asset = []
  | _ => True

/-- The rows that the tables refer to. -/
structure AssetTables.Known (t : AssetTables) : Prop where
  unique : Table.Unique AssetItem.id t.items
  uniqueAssignments : Table.Unique AssetAssignment.id t.assignments
  fresh : ∀ a ∈ t.assignments, a.id < t.assignments.length
  held : ∀ a ∈ t.assignments, ∃ i ∈ t.items, i.id = a.asset
  maintained : ∀ m ∈ t.maintenance, ∃ i ∈ t.items, i.id = m.asset

section

variable {t t' : AssetTables} {asset : AssetId} {item i : AssetItem} {a : AssetAssignment}
  {m : AssetMaintenance} {status : AssetLifecycleStatus} {condition : Option AssetCondition}

theorem mem_setLifecycleStatus : i ∈ (t.setLifecycleStatus asset status).items
    ↔ (∃ j ∈ t.items, j.id = asset ∧ { j with lifecycleStatus := status } = i)
      ∨ (i ∈ t.items ∧ i.id ≠ asset) := by
  refine Table.mem_update_iff.trans ?_
  simp only [decide_eq_true_eq, decide_eq_false_iff_not, ne_eq]

/-- **A status is set**, after what it is about has changed for one asset: custody
is kept exactly when the status agrees with the assignments of that asset. -/
theorem Custody.setLifecycleStatus_iff (h : Custody t) (hitems : t'.items = t.items)
    (hothers : ∀ id ≠ asset, t'.activeAssignments id = t.activeAssignments id)
    (hitem : ∃ i ∈ t.items, i.id = asset) :
    Custody (t'.setLifecycleStatus asset status)
      ↔ (t'.activeAssignments asset).length ≤ 1
        ∧ (status = .assigned ↔ t'.activeAssignments asset ≠ []) := by
  constructor
  · intro h'
    obtain ⟨i, hi, hid⟩ := hitem
    refine ⟨h'.once asset, ?_⟩
    have hstatus := h'.inStep { i with lifecycleStatus := status }
      (mem_setLifecycleStatus.mpr (Or.inl ⟨i, hitems ▸ hi, hid, rfl⟩))
    exact hid ▸ hstatus
  · rintro ⟨honce, hstatus⟩
    refine ⟨fun id => ?_, fun i hi => ?_⟩
    · show (t'.activeAssignments id).length ≤ 1
      by_cases hid : id = asset
      · exact hid ▸ honce
      · exact hothers id hid ▸ h.once id
    · rcases mem_setLifecycleStatus.mp hi with ⟨j, _, hid, rfl⟩ | ⟨hi, hid⟩
      · exact hid ▸ hstatus
      · show i.lifecycleStatus = .assigned ↔ t'.activeAssignments i.id ≠ []
        rw [hothers i.id hid]
        exact h.inStep i (hitems ▸ hi)

/-- **An assignment that ends** leaves its asset, and no other. -/
theorem activeAssignments_saveAssignment (h : Custody t) (hknown : t.Known)
    (ha : a ∈ t.assignments) (hactive : a.status = .active) {ended : AssetAssignment}
    (hid : ended.id = a.id) (hended : ended.status ≠ .active) :
    (t.saveAssignment ended).activeAssignments a.asset = []
      ∧ ∀ id ≠ a.asset, (t.saveAssignment ended).activeAssignments id
        = t.activeAssignments id := by
  have hsave : ∀ id, (t.saveAssignment ended).activeAssignments id
      = t.assignments.filter (fun b => decide (b.asset = id ∧ b.status = .active)
        && decide (b.id ≠ ended.id)) :=
    fun id => Table.filter_save_of_neg (by simp [hended])
  constructor
  · rw [hsave, List.filter_eq_nil_iff]
    intro b hb hselected
    simp only [Bool.and_eq_true, decide_eq_true_eq] at hselected
    have hother : b ∈ t.activeAssignments a.asset := by
      unfold AssetTables.activeAssignments
      simpa using ⟨hb, hselected.1⟩
    have hself : a ∈ t.activeAssignments a.asset := by
      unfold AssetTables.activeAssignments
      simpa using ⟨ha, hactive⟩
    -- the asset is held once, so the two are one row
    have hsame : b = a := by
      match hlist : t.activeAssignments a.asset with
      | [] => exact absurd (hlist ▸ hself) List.not_mem_nil
      | [c] =>
        rw [hlist, List.mem_singleton] at hother hself
        exact hother.trans hself.symm
      | c :: d :: rest =>
        have := h.once a.asset
        rw [hlist] at this
        simp at this
    exact hselected.2 (hsame ▸ hid.symm)
  · intro id hne
    rw [hsave]
    refine List.filter_congr (fun b hb => ?_)
    by_cases hb' : b.asset = id ∧ b.status = .active
    · have : b.id ≠ ended.id := fun heq => hne (by
        rw [← hb'.1, hknown.uniqueAssignments.eq_of_key hb ha (heq.trans hid)])
      simp [hb', this]
    · simp [hb']

theorem getItem_eq_some (h : t.getItem asset = some item) :
    item ∈ t.items ∧ item.id = asset := ⟨Table.find_mem h, Table.find_key h⟩

/-- Nothing but conditions, incidents and completed maintenance is written. -/
theorem Custody.congr (h : Custody t) (hitems : t'.items.map (fun i => (i.id, i.lifecycleStatus))
      = t.items.map (fun i => (i.id, i.lifecycleStatus)))
    (hassignments : t'.assignments = t.assignments) : Custody t' where
  once asset := by
    show (t'.assignments.filter _).length ≤ 1
    rw [hassignments]
    exact h.once asset
  inStep i hi := by
    have hpair : (i.id, i.lifecycleStatus) ∈ t.items.map (fun i => (i.id, i.lifecycleStatus)) :=
      hitems ▸ List.mem_map_of_mem hi
    obtain ⟨j, hj, heq⟩ := List.mem_map.mp hpair
    obtain ⟨hid, hstatus⟩ := Prod.mk.inj heq
    show i.lifecycleStatus = .assigned ↔ t'.assignments.filter _ ≠ []
    rw [hassignments, ← hid, ← hstatus]
    exact h.inStep j hj

/-! ## What the operations keep -/

/-- **An asset that is available** can be assigned. -/
theorem Custody.assignAssetToEmployee {employee : EmployeeId}
    (h : Custody t) (hitem : item ∈ t.items)
    (hassign : assignAssetToEmployee item employee condition t = .ok t') : Custody t' := by
  unfold Assets.assignAssetToEmployee at hassign
  split_ifs at hassign with _ hfree
  have hfree : t.activeAssignments item.id = [] := not_not.mp hfree
  obtain rfl := (Except.ok.inj hassign).symm
  let added := newAssignment item employee condition t
  have happend : ∀ id, AssetTables.activeAssignments { t with
      assignments := t.assignments ++ [added] } id
      = t.activeAssignments id ++ (if item.id = id then [added] else []) := by
    intro id
    show List.filter _ (t.assignments ++ [added]) = _
    rw [List.filter_append]
    by_cases hid : item.id = id
    · simp [hid, added, newAssignment, AssetTables.activeAssignments]
    · simp [hid, added, newAssignment, AssetTables.activeAssignments]
  refine (h.setLifecycleStatus_iff ?_ (fun id hid => ?_) ⟨item, hitem, rfl⟩).mpr ?_
  · rfl
  · rw [happend, if_neg (Ne.symm hid), List.append_nil]
  · rw [happend, hfree, if_pos rfl]
    simp

/-- **An asset that comes back** or gets lost is not assigned any more. -/
theorem Custody.endAssignment (h : Custody t) (hknown : t.Known) (ha : a ∈ t.assignments)
    (hactive : a.status = .active) {ended : AssetAssignment} (hid : ended.id = a.id)
    (hended : ended.status ≠ .active) (hstatus : status ≠ .assigned) :
    Custody ((t.saveAssignment ended).setLifecycleStatus a.asset status) := by
  obtain ⟨hnone, hothers⟩ := activeAssignments_saveAssignment h hknown ha hactive hid hended
  refine (h.setLifecycleStatus_iff ?_ hothers (hknown.held a ha)).mpr ?_
  · rfl
  · rw [hnone]
    simp [hstatus]

theorem checkActive_eq_ok (h : checkActive a = .ok ()) : a.status = .active := by
  unfold checkActive at h
  split_ifs at h with hactive
  exact not_not.mp hactive

theorem Custody.returnAsset (h : Custody t) (hknown : t.Known) (ha : a ∈ t.assignments)
    (hreturn : returnAsset a condition t = .ok t') : Custody t' := by
  obtain ⟨_, hactive, hret⟩ := bind_eq_ok_iff.mp hreturn
  obtain rfl := pure_eq_ok_iff.mp hret
  have hended : Custody ((t.saveAssignment { a with
      status := .returned, conditionOnReturn := condition }).setLifecycleStatus a.asset
        (if condition = some .poor ∨ condition = some .damaged then .inMaintenance
          else .available)) :=
    h.endAssignment hknown ha (checkActive_eq_ok hactive) rfl (by simp) (by split <;> simp)
  refine hended.congr ?_ rfl
  unfold AssetTables.setCondition
  refine Table.map_update ?_ _
  exact fun _ => rfl

theorem Custody.markAssetAsLost (h : Custody t) (hknown : t.Known) (ha : a ∈ t.assignments)
    (hlost : markAssetAsLost a t = .ok t') : Custody t' := by
  obtain ⟨_, hactive, hret⟩ := bind_eq_ok_iff.mp hlost
  obtain rfl := pure_eq_ok_iff.mp hret
  exact h.endAssignment hknown ha (checkActive_eq_ok hactive) rfl (by simp) (by simp)

/-- **An incident** keeps custody, unless an asset that is held is lost or stolen. -/
theorem Custody.createAssetIncident_iff (h : Custody t) (hitem : item ∈ t.items)
    (incidentType : AssetIncidentType) (employee : Option EmployeeId) :
    Custody (createAssetIncident item incidentType employee t)
      ↔ (incidentType = .loss ∨ incidentType = .theft → t.activeAssignments item.id = []) := by
  unfold createAssetIncident
  dsimp only
  by_cases hgone : incidentType = .loss ∨ incidentType = .theft
  · rw [if_pos hgone]
    refine (h.setLifecycleStatus_iff ?_ ?_ ⟨item, hitem, rfl⟩).trans ?_
    · rfl
    · exact fun _ _ => rfl
    show (t.activeAssignments item.id).length ≤ 1
      ∧ (AssetLifecycleStatus.lost = .assigned ↔ t.activeAssignments item.id ≠ []) ↔ _
    simp [h.once item.id, hgone]
  · rw [if_neg hgone]
    exact iff_of_true (h.congr rfl rfl) (fun hgone' => absurd hgone' hgone)

/-- New maintenance keeps custody: it takes only what is available. -/
theorem Custody.addMaintenance (h : Custody t) (hitem : item ∈ t.items)
    (maintenanceType : String) (scheduledDate : Date) :
    Custody (addMaintenance item maintenanceType scheduledDate t) := by
  unfold Assets.addMaintenance
  dsimp only
  by_cases havailable : item.lifecycleStatus = .available
  · rw [if_pos havailable]
    refine (h.setLifecycleStatus_iff ?_ ?_ ⟨item, hitem, rfl⟩).mpr ?_
    · rfl
    · exact fun _ _ => rfl
    show (t.activeAssignments item.id).length ≤ 1
      ∧ (AssetLifecycleStatus.inMaintenance = .assigned ↔ t.activeAssignments item.id ≠ [])
    have hfree := h.inStep item hitem
    rw [havailable] at hfree
    exact ⟨h.once item.id, by simpa using hfree⟩
  · rw [if_neg havailable]
    exact h.congr rfl rfl

/-- **Completed maintenance** keeps custody, unless it is the last of an asset that
is held. -/
theorem Custody.completeAssetMaintenance_iff (h : Custody t) (hknown : t.Known)
    (hm : m ∈ t.maintenance) (completedDate : Option Date) (today : Date) :
    Custody (completeAssetMaintenance m completedDate today t)
      ↔ ((∀ other ∈ t.openMaintenance m.asset, other.id = m.id)
        → t.activeAssignments m.asset = []) := by
  have hlast : (t.saveMaintenance { m with
      completedDate := some (completedDate.getD today) }).openMaintenance m.asset = []
      ↔ ∀ other ∈ t.openMaintenance m.asset, other.id = m.id := by
    show (Table.save _ _ _).filter _ = [] ↔ _
    rw [Table.filter_save_of_neg (by simp), List.filter_eq_nil_iff]
    simp [AssetTables.openMaintenance]
  unfold completeAssetMaintenance
  dsimp only
  by_cases hnone : ∀ other ∈ t.openMaintenance m.asset, other.id = m.id
  · rw [if_pos (hlast.mpr hnone)]
    refine ((h.setLifecycleStatus_iff ?_ ?_ (hknown.maintained m hm)).trans ?_).trans
      (imp_iff_right hnone).symm
    · rfl
    · exact fun _ _ => rfl
    show (t.activeAssignments m.asset).length ≤ 1
      ∧ (AssetLifecycleStatus.available = .assigned ↔ t.activeAssignments m.asset ≠ []) ↔ _
    simp [h.once m.asset]
  · rw [if_neg (fun hopen => hnone (hlast.mp hopen))]
    exact iff_of_true (h.congr rfl rfl) (fun hall => absurd hall hnone)

/-! ## Rows -/

/-- Items are rewritten under their ids. -/
theorem AssetTables.Known.updateItems (h : t.Known) {p : AssetItem → Bool}
    {f : AssetItem → AssetItem} (hf : ∀ i, (f i).id = i.id) :
    AssetTables.Known { t with items := Table.update p f t.items } := by
  have hids : (Table.update p f t.items).map AssetItem.id = t.items.map AssetItem.id :=
    Table.map_update hf _
  have hkept : ∀ id, (∃ i ∈ t.items, i.id = id) → ∃ i ∈ Table.update p f t.items, i.id = id := by
    intro id hid
    exact List.mem_map.mp (hids ▸ List.mem_map.mpr hid)
  exact { h with
    unique := h.unique.update hf
    held := fun a ha => hkept _ (h.held a ha)
    maintained := fun m hm => hkept _ (h.maintained m hm) }

theorem AssetTables.Known.saveAssignment (h : t.Known) (ha : a ∈ t.assignments)
    {ended : AssetAssignment} (hid : ended.id = a.id) (hasset : ended.asset = a.asset) :
    (t.saveAssignment ended).Known := by
  have hlength : (Table.save AssetAssignment.id ended t.assignments).length
      = t.assignments.length := List.length_map _
  exact { h with
    uniqueAssignments := h.uniqueAssignments.save ended
    fresh := fun b hb => by
      show b.id < (Table.save AssetAssignment.id ended t.assignments).length
      rcases Table.mem_save hb with rfl | ⟨hb, _⟩
      · exact hlength ▸ hid ▸ h.fresh a ha
      · exact hlength ▸ h.fresh b hb
    held := fun b hb => by
      rcases Table.mem_save hb with rfl | ⟨hb, _⟩
      · exact hasset ▸ h.held a ha
      · exact h.held b hb }

theorem AssetTables.Known.appendAssignment (h : t.Known) (hid : a.id = t.assignments.length)
    (hasset : ∃ i ∈ t.items, i.id = a.asset) :
    AssetTables.Known { t with assignments := t.assignments ++ [a] } :=
  { h with
    uniqueAssignments := h.uniqueAssignments.append_one
      (fun b hb heq => absurd (h.fresh b hb) (by rw [heq, hid]; exact lt_irrefl _))
    fresh := fun b hb => by
      show b.id < (t.assignments ++ [a]).length
      rw [List.length_append, List.length_singleton]
      rcases List.mem_append.mp hb with hb | hb
      · exact Nat.lt_succ_of_lt (h.fresh b hb)
      · rw [List.mem_singleton.mp hb, hid]
        exact Nat.lt_succ_self _
    held := fun b hb => by
      rcases List.mem_append.mp hb with hb | hb
      · exact h.held b hb
      · exact List.mem_singleton.mp hb ▸ hasset }

/-- Maintenance of assets that exist. -/
theorem AssetTables.Known.withMaintenance (h : t.Known) {maintenance : List AssetMaintenance}
    (hm : ∀ m ∈ maintenance, ∃ i ∈ t.items, i.id = m.asset) :
    AssetTables.Known { t with maintenance := maintenance } := { h with maintained := hm }

theorem AssetTables.Known.setLifecycleStatus (h : t.Known) (asset : AssetId)
    (status : AssetLifecycleStatus) : (t.setLifecycleStatus asset status).Known :=
  h.updateItems (fun _ => rfl)

theorem AssetTables.Known.addMaintenance (h : t.Known) (hitem : item ∈ t.items)
    (maintenanceType : String) (scheduledDate : Date) :
    (addMaintenance item maintenanceType scheduledDate t).Known := by
  unfold Assets.addMaintenance
  dsimp only
  have hadded : ∀ m ∈ t.maintenance ++ [newMaintenance item maintenanceType scheduledDate t],
      ∃ i ∈ t.items, i.id = m.asset := by
    intro m hm
    rcases List.mem_append.mp hm with hm | hm
    · exact h.maintained m hm
    · exact List.mem_singleton.mp hm ▸ ⟨item, hitem, rfl⟩
  have happended := h.withMaintenance hadded
  split
  · exact happended.setLifecycleStatus _ _
  · exact happended

theorem AssetTables.Known.completeAssetMaintenance (h : t.Known) (hm : m ∈ t.maintenance)
    (completedDate : Option Date) (today : Date) :
    (completeAssetMaintenance m completedDate today t).Known := by
  have hsaved : (t.saveMaintenance { m with
      completedDate := some (completedDate.getD today) }).Known :=
    h.withMaintenance (fun other hother => by
      rcases Table.mem_save hother with rfl | ⟨hother, _⟩
      · exact h.maintained m hm
      · exact h.maintained other hother)
  unfold Assets.completeAssetMaintenance
  dsimp only
  split
  · exact hsaved.setLifecycleStatus _ _
  · exact hsaved

/-- **An operation that is performed**, on the row that it names. -/
def Performed (t : AssetTables) : Op → AssetTables → Prop
  | .assignAssetToEmployee asset employee condition, t' => ∃ item, t.getItem asset = some item
    ∧ assignAssetToEmployee item employee condition t = .ok t'
  | .returnAsset assignment condition, t' => ∃ a, t.getAssignment assignment = some a
    ∧ returnAsset a condition t = .ok t'
  | .markAssetAsLost assignment, t' => ∃ a, t.getAssignment assignment = some a
    ∧ markAssetAsLost a t = .ok t'
  | .createAssetIncident asset incidentType employee, t' => ∃ item, t.getItem asset = some item
    ∧ createAssetIncident item incidentType employee t = t'
  | .scheduleAssetMaintenance asset maintenanceType scheduledDate, t' =>
    ∃ item, t.getItem asset = some item
      ∧ scheduleAssetMaintenance item maintenanceType scheduledDate t = t'
  | .createAssetMaintenance asset maintenanceType scheduledDate today, t' =>
    ∃ item, t.getItem asset = some item
      ∧ createAssetMaintenance item maintenanceType scheduledDate today t = t'
  | .completeAssetMaintenance maintenance completedDate today, t' =>
    ∃ m, t.getMaintenance maintenance = some m
      ∧ completeAssetMaintenance m completedDate today t = t'

/-- **What a step does**: nothing, or the operation is performed. -/
theorem step_cases (t : AssetTables) (op : Op) :
    Assets.step t op = t ∨ Performed t op (Assets.step t op) := by
  refine settle_induction (P := fun t' => t' = t ∨ Performed t op t') (Or.inl rfl)
    (fun t' ht' => ?_)
  cases op with
  | assignAssetToEmployee =>
    simp only [perform] at ht'
    split at ht'
    · exact Or.inl (Except.ok.inj ht').symm
    · next item hitem => exact Or.inr ⟨item, hitem, ht'⟩
  | returnAsset | markAssetAsLost =>
    simp only [perform] at ht'
    split at ht'
    · exact Or.inl (Except.ok.inj ht').symm
    · next a ha => exact Or.inr ⟨a, ha, ht'⟩
  | createAssetIncident asset | scheduleAssetMaintenance asset | createAssetMaintenance asset =>
    obtain rfl := (Except.ok.inj ht').symm
    cases hitem : t.getItem asset with
    | none => exact Or.inl rfl
    | some item => exact Or.inr ⟨item, hitem, rfl⟩
  | completeAssetMaintenance maintenance =>
    obtain rfl := (Except.ok.inj ht').symm
    cases hm : t.getMaintenance maintenance with
    | none => exact Or.inl rfl
    | some m => exact Or.inr ⟨m, hm, rfl⟩

/-- **The rows stay known** through every operation. -/
theorem AssetTables.Known.step (h : t.Known) (op : Op) : (Assets.step t op).Known := by
  rcases step_cases t op with hsame | hdone
  · rwa [hsame]
  generalize Assets.step t op = t' at hdone ⊢
  cases op with
  | assignAssetToEmployee asset employee condition =>
    obtain ⟨item, hitem, hok⟩ := hdone
    unfold Assets.assignAssetToEmployee at hok
    split_ifs at hok
    obtain rfl := (Except.ok.inj hok).symm
    refine AssetTables.Known.setLifecycleStatus ?_ _ _
    exact h.appendAssignment rfl ⟨item, (getItem_eq_some hitem).1, rfl⟩
  | returnAsset assignment condition =>
    obtain ⟨a, ha, hok⟩ := hdone
    obtain ⟨_, _, hret⟩ := bind_eq_ok_iff.mp hok
    obtain rfl := pure_eq_ok_iff.mp hret
    refine AssetTables.Known.updateItems ?_ ?_
    · refine AssetTables.Known.setLifecycleStatus ?_ _ _
      refine h.saveAssignment (Table.find_mem ha) ?_ ?_ <;> rfl
    · exact fun _ => rfl
  | markAssetAsLost assignment =>
    obtain ⟨a, ha, hok⟩ := hdone
    obtain ⟨_, _, hret⟩ := bind_eq_ok_iff.mp hok
    obtain rfl := pure_eq_ok_iff.mp hret
    refine AssetTables.Known.setLifecycleStatus ?_ _ _
    refine h.saveAssignment (Table.find_mem ha) ?_ ?_ <;> rfl
  | createAssetIncident asset incidentType employee =>
    obtain ⟨item, -, rfl⟩ := hdone
    have hadded : AssetTables.Known { t with incidents := t.incidents ++ [
        { asset := item.id, employee := employee, incidentType := incidentType }] } := { h with }
    unfold createAssetIncident
    dsimp only
    split
    · exact hadded.setLifecycleStatus _ _
    · exact hadded
  | scheduleAssetMaintenance asset maintenanceType scheduledDate =>
    obtain ⟨item, hitem, rfl⟩ := hdone
    exact h.addMaintenance (getItem_eq_some hitem).1 maintenanceType scheduledDate
  | createAssetMaintenance asset maintenanceType scheduledDate today =>
    obtain ⟨item, hitem, rfl⟩ := hdone
    exact h.addMaintenance (getItem_eq_some hitem).1 maintenanceType _
  | completeAssetMaintenance maintenance completedDate today =>
    obtain ⟨m, hm, rfl⟩ := hdone
    exact h.completeAssetMaintenance (Table.find_mem hm) completedDate today

/-- **Custody is kept by a step** exactly when the asset is not held. -/
theorem Custody.step_iff (h : Custody t) (hknown : t.Known) (op : Op) :
    Custody (Assets.step t op) ↔ NotHeld t op := by
  cases op with
  | assignAssetToEmployee asset employee condition =>
    refine iff_of_true (settle_induction h (fun t' ht' => ?_)) trivial
    simp only [perform] at ht'
    split at ht'
    · exact Except.ok.inj ht' ▸ h
    · next item hitem => exact h.assignAssetToEmployee (getItem_eq_some hitem).1 ht'
  | returnAsset assignment condition =>
    refine iff_of_true (settle_induction h (fun t' ht' => ?_)) trivial
    simp only [perform] at ht'
    split at ht'
    · exact Except.ok.inj ht' ▸ h
    · next a ha => exact h.returnAsset hknown (Table.find_mem ha) ht'
  | markAssetAsLost assignment =>
    refine iff_of_true (settle_induction h (fun t' ht' => ?_)) trivial
    simp only [perform] at ht'
    split at ht'
    · exact Except.ok.inj ht' ▸ h
    · next a ha => exact h.markAssetAsLost hknown (Table.find_mem ha) ht'
  | createAssetIncident asset incidentType employee =>
    show Custody ((t.getItem asset).elim t _) ↔ (_ → _)
    cases hitem : t.getItem asset with
    | none =>
      refine iff_of_true h (fun _ => ?_)
      -- no assignment is of an asset that does not exist
      refine List.filter_eq_nil_iff.mpr (fun a ha hselected => ?_)
      obtain ⟨i, hi, hid⟩ := hknown.held a ha
      exact Table.find_eq_none_iff.mp hitem i hi (hid.trans (of_decide_eq_true hselected).1)
    | some item =>
      obtain ⟨hmem, rfl⟩ := getItem_eq_some hitem
      exact h.createAssetIncident_iff hmem incidentType employee
  | scheduleAssetMaintenance asset maintenanceType scheduledDate =>
    refine iff_of_true ?_ trivial
    show Custody ((t.getItem asset).elim t _)
    cases hitem : t.getItem asset with
    | none => exact h
    | some item => exact h.addMaintenance (getItem_eq_some hitem).1 maintenanceType scheduledDate
  | createAssetMaintenance asset maintenanceType scheduledDate today =>
    refine iff_of_true ?_ trivial
    show Custody ((t.getItem asset).elim t _)
    cases hitem : t.getItem asset with
    | none => exact h
    | some item => exact h.addMaintenance (getItem_eq_some hitem).1 maintenanceType _
  | completeAssetMaintenance maintenance completedDate today =>
    show Custody ((t.getMaintenance maintenance).elim t _) ↔ ∀ m, _ → _ → _
    cases hm : t.getMaintenance maintenance with
    | none => exact iff_of_true h (fun m hm' => by cases hm')
    | some m =>
      refine (h.completeAssetMaintenance_iff hknown (Table.find_mem hm) completedDate
        today).trans ?_
      exact ⟨fun hnone m' hm' => Option.some.inj hm' ▸ hnone, fun hall => hall m rfl⟩

theorem AssetTables.NewlyCreated.known (h : t.NewlyCreated) : t.Known where
  unique := h.unique
  uniqueAssignments := by
    rw [h.assignments]
    exact List.nodup_nil
  fresh a ha := by
    rw [h.assignments] at ha
    cases ha
  held a ha := by
    rw [h.assignments] at ha
    cases ha
  maintained m hm := by
    rw [h.maintenance] at hm
    cases hm

theorem AssetTables.NewlyCreated.custody (h : t.NewlyCreated) : Custody t := by
  have hnone : ∀ asset, t.activeAssignments asset = [] := by
    intro asset
    unfold AssetTables.activeAssignments
    rw [h.assignments, List.filter_nil]
  constructor
  · intro asset
    rw [hnone]
    exact Nat.zero_le _
  · intro i hi
    rw [h.available i hi, hnone]
    simp

/-! ## Held once -/

theorem length_activeAssignments_saveAssignment (hended : a.status ≠ .active) (asset : AssetId) :
    ((t.saveAssignment a).activeAssignments asset).length
      ≤ (t.activeAssignments asset).length := by
  show ((Table.save _ a _).filter _).length ≤ _
  rw [Table.filter_save_of_neg (by simp [hended]), ← List.countP_eq_length_filter,
    AssetTables.activeAssignments, ← List.countP_eq_length_filter]
  refine List.countP_mono_left (fun b _ hb => ?_)
  exact (Bool.and_eq_true_iff.mp hb).1

/-- **An operation assigns an asset** when it is not refused. -/
def Assigns (t : AssetTables) (employee : EmployeeId) : Op → Prop
  | .assignAssetToEmployee asset recipient _ => recipient = employee
    ∧ ∃ item ∈ t.getItem asset, item.lifecycleStatus = .available
      ∧ t.activeAssignments item.id = []
  | _ => False

instance (t : AssetTables) (employee : EmployeeId) : ∀ op, Decidable (Assigns t employee op)
  | .assignAssetToEmployee asset recipient _ => inferInstanceAs (Decidable (recipient = employee
      ∧ ∃ item ∈ t.getItem asset, _))
  | .returnAsset .. | .markAssetAsLost .. | .createAssetIncident .. | .scheduleAssetMaintenance ..
  | .createAssetMaintenance .. | .completeAssetMaintenance .. => instDecidableFalse

theorem assignments_addMaintenance {maintenanceType : String} {scheduledDate : Date} :
    (addMaintenance item maintenanceType scheduledDate t).assignments = t.assignments := by
  unfold addMaintenance
  dsimp only
  split <;> rfl

/-- **What an operation does to the assignments**: nothing, it ends one, or it assigns an
asset that nobody holds. -/
theorem assignments_step (op : Op) :
    (step t op).assignments = t.assignments
      ∨ (∃ a, a.status ≠ .active ∧ (step t op).assignments = (t.saveAssignment a).assignments)
      ∨ ∃ employee item condition, Assigns t employee op ∧ t.activeAssignments item.id = []
        ∧ (step t op).assignments
          = t.assignments ++ [newAssignment item employee condition t] := by
  rcases step_cases t op with hsame | hdone
  · exact Or.inl (congrArg AssetTables.assignments hsame)
  generalize step t op = t' at hdone ⊢
  cases op with
  | assignAssetToEmployee asset employee condition =>
    obtain ⟨item, hitem, hok⟩ := hdone
    unfold assignAssetToEmployee at hok
    split_ifs at hok with hstatus hfree
    obtain rfl := Except.ok.inj hok
    exact Or.inr (Or.inr ⟨employee, item, condition,
      ⟨rfl, item, hitem, not_not.mp hstatus, not_not.mp hfree⟩, not_not.mp hfree, rfl⟩)
  | returnAsset assignment condition =>
    obtain ⟨a, -, hok⟩ := hdone
    obtain ⟨_, _, hret⟩ := bind_eq_ok_iff.mp hok
    obtain rfl := pure_eq_ok_iff.mp hret
    exact Or.inr (Or.inl ⟨_, by simp, rfl⟩)
  | markAssetAsLost assignment =>
    obtain ⟨a, -, hok⟩ := hdone
    obtain ⟨_, _, hret⟩ := bind_eq_ok_iff.mp hok
    obtain rfl := pure_eq_ok_iff.mp hret
    exact Or.inr (Or.inl ⟨_, by simp, rfl⟩)
  | createAssetIncident asset incidentType employee =>
    obtain ⟨item, -, rfl⟩ := hdone
    refine Or.inl ?_
    unfold createAssetIncident
    split <;> rfl
  | scheduleAssetMaintenance asset maintenanceType scheduledDate =>
    obtain ⟨item, -, rfl⟩ := hdone
    exact Or.inl assignments_addMaintenance
  | createAssetMaintenance asset maintenanceType scheduledDate today =>
    obtain ⟨item, -, rfl⟩ := hdone
    exact Or.inl assignments_addMaintenance
  | completeAssetMaintenance maintenance completedDate today =>
    obtain ⟨m, -, rfl⟩ := hdone
    refine Or.inl ?_
    unfold completeAssetMaintenance
    dsimp only
    split <;> rfl

/-- An asset that is assigned is held by its employee. -/
theorem exists_active_of_assigns {employee : EmployeeId} {op : Op} (h : Assigns t employee op) :
    ∃ a ∈ (step t op).assignments, a.employee = employee ∧ a.status = .active := by
  cases op with
  | assignAssetToEmployee id recipient condition =>
    obtain ⟨rfl, item, hitem, havailable, hfree⟩ := h
    refine ⟨newAssignment item recipient condition t, ?_, rfl, rfl⟩
    have hperform : perform t (.assignAssetToEmployee id recipient condition)
        = assignAssetToEmployee item recipient condition t := by
      simp only [perform, Option.mem_def.mp hitem]
    rw [step, hperform, assignAssetToEmployee, if_neg (not_not.mpr havailable),
      if_neg (not_not.mpr hfree), settle_ok]
    exact List.mem_append_right _ (List.mem_singleton_self _)
  | returnAsset | markAssetAsLost | createAssetIncident | scheduleAssetMaintenance
  | createAssetMaintenance | completeAssetMaintenance => exact h.elim

/-- An asset that is held is not assigned again. -/
theorem once_step (h : ∀ asset, (t.activeAssignments asset).length ≤ 1) (op : Op)
    (asset : AssetId) :
    ((step t op).activeAssignments asset).length ≤ 1 := by
  obtain hsame | ⟨a, hended, hsaved⟩ | ⟨employee, item, condition, _, hfree, hadded⟩ :=
    assignments_step (t := t) op
  · unfold AssetTables.activeAssignments
    rw [hsame]
    exact h asset
  · refine le_trans ?_ (h asset)
    unfold AssetTables.activeAssignments
    rw [hsaved]
    exact length_activeAssignments_saveAssignment hended asset
  · unfold AssetTables.activeAssignments
    rw [hadded, List.filter_append, List.length_append]
    by_cases hid : item.id = asset
    · have hnone : t.assignments.filter (fun a => a.asset = asset ∧ a.status = .active) = [] :=
        hid ▸ hfree
      rw [hnone]
      exact (Nat.zero_add _).le.trans (List.length_filter_le _ _)
    · rw [List.filter_cons_of_neg (by simp [newAssignment, hid])]
      exact h asset

end

/-- **No asset is held twice**, in any run. -/
theorem once_reached (t : AssetTables) (hnew : t.NewlyCreated) (ops : List Op) (asset : AssetId) :
    ((Run.exec step t ops).activeAssignments asset).length ≤ 1 :=
  Run.invariant (I := fun s : AssetTables => ∀ id, (s.activeAssignments id).length ≤ 1)
    (fun _ op h => once_step h op) hnew.custody.once ops asset

/-- **Custody**, from newly created assets on, is kept by exactly the runs that
report no loss or theft, and complete no last maintenance, of an asset that is
held. -/
theorem custody_iff_notHeld (t : AssetTables) (hnew : t.NewlyCreated) (ops : List Op) :
    (∀ n, Custody (Run.exec step t (ops.take n))) ↔ Run.Along step NotHeld t ops :=
  Run.forall_take_iff_along (fun _ op hknown => hknown.step op)
    (fun _ op hknown h => h.step_iff hknown op) hnew.known hnew.custody ops

/-! ## A laptop that is serviced while it is assigned -/

namespace Sample

def laptop : AssetTables where
  items := [{ id := 1, organisation := 1, condition := .new, lifecycleStatus := .available }]
  assignments := []
  maintenance := []
  incidents := []

theorem laptop_newlyCreated : laptop.NewlyCreated where
  unique := by decide
  available := by decide
  assignments := rfl
  maintenance := rfl

def may : Date := ⟨2026, 5, 6, isDate_2026_05_06⟩

def assign (employee : EmployeeId) : Op := .assignAssetToEmployee 1 employee none

def serviced : List Op :=
  [assign 7, .createAssetMaintenance 1 "Battery" none may, .completeAssetMaintenance 0 none may]

end Sample

open Sample

theorem custody_iff_notHeld_sample :
    (∀ n, Custody (Run.exec step laptop ([assign 7, .returnAsset 0 none].take n)))
      ↔ Run.Along step NotHeld laptop [assign 7, .returnAsset 0 none] :=
  custody_iff_notHeld laptop laptop_newlyCreated [assign 7, .returnAsset 0 none]

/-- **Completed maintenance** makes the laptop available, which employee 7 still
has. -/
theorem completed_in_custody : ¬ ∀ n, Custody (Run.exec step laptop (serviced.take n)) := by
  intro h
  have hstatus := (h 3).inStep
    { id := 1, organisation := 1, condition := .new, lifecycleStatus := .available } (by decide)
  exact absurd hstatus (by decide)

end Assets
