import Clarisal.Attendance.StoredDays
import Clarisal.Lib.Watermark

/-!
# Pull sync

A pass of `sync_pull_devices` visits the devices that are asked for their events. It
asks a device for what happened since its watermark, hands every record over as a punch,
and then takes the clock for the next watermark. Events happen meanwhile. One that happens
after the request and before the clock is read is before the watermark, and no later pass
asks for it (`event_is_lost`).

Passes may overlap: a pass works on the rows that it loaded when it started. Nothing is
lost in the runs where every answer holds what the log has up to the next watermark
(`nothing_lost_of_guarded`).
-/

namespace Biometrics

open Approvals (OrganisationId)
open Attendance (AttendanceSetup AttendanceState DevicePunch)
open Watermark (Seen)

inductive BiometricProtocol
  | zkAdms | esslEbioserver | matrixCosec | supremaBiostar | hikvisionIsapi | mantraAebas
  | cpPlusExport
deriving DecidableEq, Repr

/-- The protocols whose devices are asked. -/
def pullSyncHandlers : List BiometricProtocol := [.matrixCosec, .supremaBiostar, .hikvisionIsapi]

/-- The bound that a request carries. -/
def BiometricProtocol.maxResults : BiometricProtocol → Option ℕ
  | .hikvisionIsapi => some 200
  | _ => none

structure BiometricDevice where
  id : ℕ
  organisation : OrganisationId
  protocol : BiometricProtocol
deriving DecidableEq, Repr

/-- An entry of a device's log, in the fields of the three protocols; a time is in
microseconds. -/
structure DeviceEvent where
  employeeCode : String
  time : ℤ
  minor : ℤ
  direction : String
  eventTypeId : String
deriving DecidableEq, Repr

/-- Rows of the devices as a pass loaded them. -/
abbrev Rows := List (BiometricDevice × Option ℤ)

/-- A device that a pass is at: the watermark it loaded and the start of its request. -/
structure Visit where
  device : BiometricDevice
  loaded : Option ℤ
  since : ℤ
deriving DecidableEq, Repr

/-- **Where a pass is**; `records` is the whole answer, `todo` what is still to hand over. -/
inductive Pass
  | idle
  | visiting (rows : Rows)
  | fetching (visit : Visit) (rows : Rows)
  | handing (visit : Visit) (records todo : List DeviceEvent) (rows : Rows)

/-- The rows that a pass still works on. -/
def Pass.rows : Pass → Rows
  | .idle => []
  | .visiting rows => rows
  | .fetching visit rows => (visit.device, visit.loaded) :: rows
  | .handing visit _ _ rows => (visit.device, visit.loaded) :: rows

/-- The devices, their logs and the passes. The history keeps when a pass first came to a
device and what was handed over of its log. -/
structure SyncState where
  isActive : BiometricDevice → Bool
  lastSyncAt : BiometricDevice → Option ℤ
  log : BiometricDevice → List DeviceEvent
  passes : ℕ → Pass
  attendance : AttendanceState
  firstPassAt : BiometricDevice → Option ℤ
  handed : BiometricDevice → List DeviceEvent

/-- `timedelta(days=1)`. -/
def day : ℤ := 86400000000

section

variable (setup : AttendanceSetup) (devices : List BiometricDevice)

/-! ## One device -/

/-- Hikvision passes over an event that names nobody. -/
def isRecord (protocol : BiometricProtocol) (e : DeviceEvent) : Bool :=
  protocol ≠ .hikvisionIsapi ∨ setup.strip e.employeeCode ≠ ""

/-- The first events from a time on, up to the bound, as the device has them now. -/
def answer (protocol : BiometricProtocol) (since : ℤ) (log : List DeviceEvent) :
    List DeviceEvent :=
  let events := log.filter (fun e => since ≤ e.time)
  match protocol.maxResults with
  | none => events
  | some limit => events.take limit

/-- `fetch_hikvision_events`, `fetch_cosec_attendance` and `fetch_biostar_attendance`. -/
def fetchEvents (protocol : BiometricProtocol) (since : ℤ) (log : List DeviceEvent) :
    List DeviceEvent :=
  (answer protocol since log).filter (isRecord setup protocol)

def directionOf (protocol : BiometricProtocol) (e : DeviceEvent) : String :=
  match protocol with
  | .hikvisionIsapi => if e.minor ∈ [76, 77] then "OUT" else "IN"
  | .matrixCosec => if setup.upper e.direction = "OUT" then "OUT" else "IN"
  | _ => if e.eventTypeId = "2" then "OUT" else "IN"

/-- A record as it is handed over. -/
def devicePunch (device : BiometricDevice) (e : DeviceEvent) : DevicePunch where
  employeeCode := setup.strip e.employeeCode
  punchTime := e.time
  organisation := device.organisation
  direction := directionOf setup device.protocol e
  source := some .device
  sourceConfig := none

/-- `device.last_sync_at or (timezone.now() - timedelta(days=1))`. -/
def sinceOf (loaded : Option ℤ) (now : ℤ) : ℤ := loaded.getD (now - day)

/-! ## Steps -/

/-- The active devices that have a handler. -/
def pullDevices (st : SyncState) : Rows :=
  (devices.filter (fun d => st.isActive d ∧ d.protocol ∈ pullSyncHandlers)).map
    (fun d => (d, st.lastSyncAt d))

namespace SyncState

def setPass (worker : ℕ) (p : Pass) (st : SyncState) : SyncState :=
  { st with passes := Function.update st.passes worker p }

def appendEvent (device : BiometricDevice) (e : DeviceEvent) (st : SyncState) : SyncState :=
  { st with log := Function.update st.log device (st.log device ++ [e]) }

def recordFirstPass (device : BiometricDevice) (now : ℤ) (st : SyncState) : SyncState :=
  { st with
    firstPassAt := Function.update st.firstPassAt device
      (some ((st.firstPassAt device).getD now)) }

def handOver (device : BiometricDevice) (e : DeviceEvent) (st : SyncState) : SyncState :=
  { st with
    attendance := Attendance.createPunchFromSource setup (devicePunch setup device e) st.attendance
    handed := Function.update st.handed device (st.handed device ++ [e]) }

def saveLastSync (device : BiometricDevice) (now : ℤ) (st : SyncState) : SyncState :=
  { st with lastSyncAt := Function.update st.lastSyncAt device (some now) }

end SyncState

/-- **What may happen**: a device logs an event, a device is switched on or off, and the
moves of a pass. A visit fails where the code raises; a pass may also stop. -/
inductive SyncOp
  | append (device : BiometricDevice) (event : DeviceEvent)
  | setActive (device : BiometricDevice) (isActive : Bool)
  | start (worker : ℕ)
  | visit (worker : ℕ) (now : ℤ)
  | fetch (worker : ℕ)
  | handOver (worker : ℕ)
  | finish (worker : ℕ) (now : ℤ)
  | fail (worker : ℕ)
  | stop (worker : ℕ)

/-- **One step.** A move that its pass is not at does nothing. -/
def syncStep (st : SyncState) : SyncOp → SyncState
  | .append device event => st.appendEvent device event
  | .setActive device isActive =>
    { st with isActive := Function.update st.isActive device isActive }
  | .start worker => match st.passes worker with
    | .idle => st.setPass worker (.visiting (pullDevices devices st))
    | _ => st
  | .visit worker now => match st.passes worker with
    | .visiting [] => st.setPass worker .idle
    | .visiting ((device, loaded) :: rows) => (st.recordFirstPass device now).setPass worker
        (.fetching ⟨device, loaded, sinceOf loaded now⟩ rows)
    | _ => st
  | .fetch worker => match st.passes worker with
    | .fetching visit rows =>
      let records := fetchEvents setup visit.device.protocol visit.since (st.log visit.device)
      st.setPass worker (.handing visit records records rows)
    | _ => st
  | .handOver worker => match st.passes worker with
    | .handing visit records (e :: todo) rows =>
      (st.handOver setup visit.device e).setPass worker (.handing visit records todo rows)
    | _ => st
  | .finish worker now => match st.passes worker with
    | .handing visit _ [] rows =>
      (st.saveLastSync visit.device now).setPass worker (.visiting rows)
    | _ => st
  | .fail worker => match st.passes worker with
    | .fetching _ rows => st.setPass worker (.visiting rows)
    | .handing _ _ _ rows => st.setPass worker (.visiting rows)
    | _ => st
  | .stop worker => st.setPass worker .idle

/-- The records of a device's log. -/
def recordsOf (st : SyncState) (device : BiometricDevice) : List DeviceEvent :=
  (st.log device).filter (isRecord setup device.protocol)

/-- **Nothing is lost**: what the log has before the watermark, and not older than a day
before the first pass, is handed over. -/
def NothingLost (st : SyncState) (device : BiometricDevice) : Prop :=
  ∀ watermark ∈ st.lastSyncAt device, ∀ first ∈ st.firstPassAt device,
    Seen DeviceEvent.time (recordsOf setup st device) (st.handed device) (first - day) watermark

/-- A watermark of the device, or one that a pass has loaded. -/
def IsMark (st : SyncState) (device : BiometricDevice) (m : ℤ) : Prop :=
  st.lastSyncAt device = some m ∨ ∃ worker, (device, some m) ∈ (st.passes worker).rows

/-- No watermark and no pass yet. -/
structure Fresh (st : SyncState) : Prop where
  lastSyncAt : ∀ device, st.lastSyncAt device = none
  firstPassAt : ∀ device, st.firstPassAt device = none
  passes : ∀ worker, st.passes worker = .idle

/-- **The guard of a step.** An event is not logged with a time before a watermark. At the
end of a visit the answer holds every record that the log has from the request's start to
the new watermark, and where the visit found no watermark, what is older was handed over
by an earlier pass. -/
def Guarded (st : SyncState) : SyncOp → Prop
  | .append device event => ∀ m, IsMark st device m → ∀ first ∈ st.firstPassAt device,
    ¬ (first - day ≤ event.time ∧ event.time < m)
  | .finish worker now => match st.passes worker with
    | .handing visit records [] _ =>
      Seen DeviceEvent.time (recordsOf setup st visit.device) records visit.since now
        ∧ (visit.loaded = none → ∀ first ∈ st.firstPassAt visit.device,
          Seen DeviceEvent.time (recordsOf setup st visit.device) (st.handed visit.device)
            (first - day) visit.since)
    | _ => True
  | _ => True

/-! ## The invariant -/

section

variable (firstPassAt : BiometricDevice → Option ℤ) (handed : BiometricDevice → List DeviceEvent)

/-- A visit that found a watermark asks from it on. -/
structure Visit.Sound (v : Visit) : Prop where
  first : (firstPassAt v.device).isSome
  since : ∀ m, v.loaded = some m → v.since = m

/-- **A record of an answer is handed over or still to hand over.** -/
def Pass.Sound : Pass → Prop
  | .fetching visit _ => visit.Sound firstPassAt
  | .handing visit records todo _ =>
    visit.Sound firstPassAt ∧ ∀ e ∈ records, e ∈ handed visit.device ∨ e ∈ todo
  | _ => True

end

/-- **What lies before a watermark is handed over**, before those that a pass has loaded
too. -/
structure Kept (st : SyncState) : Prop where
  first : ∀ device m, IsMark st device m → (st.firstPassAt device).isSome
  seen : ∀ device m, IsMark st device m → ∀ first ∈ st.firstPassAt device,
    Seen DeviceEvent.time (recordsOf setup st device) (st.handed device) (first - day) m
  passes : ∀ worker, (st.passes worker).Sound st.firstPassAt st.handed

variable {setup devices} {st : SyncState} {device : BiometricDevice} {worker : ℕ}

theorem Fresh.not_isMark (h : Fresh st) (m : ℤ) : ¬ IsMark st device m := by
  rintro (hlast | ⟨worker, hrow⟩)
  · rw [h.lastSyncAt] at hlast
    cases hlast
  · rw [h.passes] at hrow
    cases hrow

theorem Fresh.kept (h : Fresh st) : Kept setup st where
  first _ m hm := absurd hm (h.not_isMark m)
  seen _ m hm := absurd hm (h.not_isMark m)
  passes worker := h.passes worker ▸ trivial

/-- A pass that works on no more rows than before, or on rows as they are now. -/
theorem Kept.setPass {p : Pass} (h : Kept setup st) (hp : p.Sound st.firstPassAt st.handed)
    (hrows : ∀ row ∈ p.rows, row ∈ (st.passes worker).rows ∨ st.lastSyncAt row.1 = row.2) :
    Kept setup (st.setPass worker p) := by
  have hmark : ∀ device m, IsMark (st.setPass worker p) device m → IsMark st device m := by
    rintro device m (hlast | ⟨worker', hrow⟩)
    · exact .inl hlast
    · change (device, some m) ∈ (Function.update st.passes worker p worker').rows at hrow
      by_cases hworker : worker' = worker
      · subst hworker
        rw [Function.update_self] at hrow
        exact (hrows _ hrow).elim (fun hold => .inr ⟨worker', hold⟩) .inl
      · rw [Function.update_of_ne hworker] at hrow
        exact .inr ⟨worker', hrow⟩
  refine {
    first := fun device m hm => h.first device m (hmark device m hm)
    seen := fun device m hm => h.seen device m (hmark device m hm)
    passes := fun worker' => ?_ }
  show (Function.update st.passes worker p worker').Sound st.firstPassAt st.handed
  by_cases hworker : worker' = worker
  · subst hworker
    rwa [Function.update_self]
  · rw [Function.update_of_ne hworker]
    exact h.passes worker'

/-- An event that is before no watermark. -/
theorem Kept.appendEvent {e : DeviceEvent} (h : Kept setup st)
    (hnew : ∀ m, IsMark st device m → ∀ first ∈ st.firstPassAt device,
      ¬ (first - day ≤ e.time ∧ e.time < m)) : Kept setup (st.appendEvent device e) := by
  refine { first := h.first, seen := fun device' m hm first hfirst => ?_, passes := h.passes }
  have hold := h.seen device' m hm first hfirst
  show Seen DeviceEvent.time ((Function.update st.log device (st.log device ++ [e]) device').filter
    (isRecord setup device'.protocol)) (st.handed device') (first - day) m
  by_cases hdevice : device' = device
  · subst hdevice
    rw [Function.update_self, List.filter_append]
    refine hold.append fun e' he' => ?_
    obtain rfl : e' = e := List.mem_singleton.mp (List.mem_of_mem_filter he')
    exact hnew m hm first hfirst
  · rw [Function.update_of_ne hdevice]
    exact hold

/-- The first pass over a device comes before any watermark of it. -/
theorem Kept.recordFirstPass {now : ℤ} (h : Kept setup st) :
    Kept setup (st.recordFirstPass device now) := by
  have hsome : ∀ {device'}, (st.firstPassAt device').isSome →
      (st.recordFirstPass device now).firstPassAt device' = st.firstPassAt device' := by
    intro device' hfirst
    show Function.update st.firstPassAt device _ device' = _
    by_cases hdevice : device' = device
    · subst hdevice
      rw [Function.update_self]
      obtain ⟨first, hfirst⟩ := Option.isSome_iff_exists.mp hfirst
      rw [hfirst]
      rfl
    · rw [Function.update_of_ne hdevice]
  have hvisit : ∀ {v : Visit}, v.Sound st.firstPassAt →
      v.Sound (st.recordFirstPass device now).firstPassAt := fun hv =>
    { first := (hsome hv.first).symm ▸ hv.first, since := hv.since }
  refine {
    first := fun device' m hm => ?_
    seen := fun device' m hm first hfirst => ?_
    passes := fun worker => ?_ }
  · rw [hsome (h.first device' m hm)]
    exact h.first device' m hm
  · rw [hsome (h.first device' m hm)] at hfirst
    exact h.seen device' m hm first hfirst
  · have hold := h.passes worker
    show (st.passes worker).Sound _ st.handed
    cases hpass : st.passes worker with
    | idle => trivial
    | visiting rows => trivial
    | fetching visit rows =>
      rw [hpass] at hold
      exact hvisit hold
    | handing visit records todo rows =>
      rw [hpass] at hold
      exact ⟨hvisit hold.1, hold.2⟩

theorem mem_handed_handOver {device' : BiometricDevice} {e e' : DeviceEvent}
    (h : e ∈ st.handed device') : e ∈ (st.handOver setup device e').handed device' := by
  show e ∈ Function.update st.handed device _ device'
  by_cases hdevice : device' = device
  · subst hdevice
    rw [Function.update_self]
    exact List.mem_append_left _ h
  · rwa [Function.update_of_ne hdevice]

theorem Kept.handOver {e : DeviceEvent} (h : Kept setup st) :
    Kept setup (st.handOver setup device e) := by
  refine {
    first := h.first
    seen := fun device' m hm first hfirst =>
      (h.seen device' m hm first hfirst).mono fun _ => mem_handed_handOver
    passes := fun worker => ?_ }
  have hold := h.passes worker
  show (st.passes worker).Sound st.firstPassAt _
  cases hpass : st.passes worker with
  | idle => trivial
  | visiting rows => trivial
  | fetching visit rows =>
    rw [hpass] at hold
    exact hold
  | handing visit records todo rows =>
    rw [hpass] at hold
    exact ⟨hold.1, fun e' he' => (hold.2 e' he').imp_left mem_handed_handOver⟩

/-- A new watermark, before which everything is handed over. -/
theorem Kept.saveLastSync {now : ℤ} (h : Kept setup st) (hsome : (st.firstPassAt device).isSome)
    (hseen : ∀ first ∈ st.firstPassAt device,
      Seen DeviceEvent.time (recordsOf setup st device) (st.handed device) (first - day) now) :
    Kept setup (st.saveLastSync device now) := by
  have hmark : ∀ device' m, IsMark (st.saveLastSync device now) device' m →
      IsMark st device' m ∨ device' = device ∧ m = now := by
    rintro device' m (hlast | hrow)
    · change Function.update st.lastSyncAt device (some now) device' = some m at hlast
      by_cases hdevice : device' = device
      · subst hdevice
        rw [Function.update_self, Option.some_inj] at hlast
        exact .inr ⟨rfl, hlast.symm⟩
      · rw [Function.update_of_ne hdevice] at hlast
        exact .inl (.inl hlast)
    · exact .inl (.inr hrow)
  refine {
    first := fun device' m hm => ?_
    seen := fun device' m hm first hfirst => ?_
    passes := h.passes }
  · obtain hold | ⟨rfl, -⟩ := hmark device' m hm
    · exact h.first device' m hold
    · exact hsome
  · obtain hold | ⟨rfl, rfl⟩ := hmark device' m hm
    · exact h.seen device' m hold first hfirst
    · exact hseen first hfirst

/-- **When a pass ends**, all that is before its end is handed over: its answer, and what is
older than its request. -/
theorem Kept.seen_finish {worker : ℕ} {now : ℤ} {visit : Visit} {records : List DeviceEvent}
    {rows : Rows} (h : Kept setup st) (hpass : st.passes worker = .handing visit records [] rows)
    (hanswer : Seen DeviceEvent.time (recordsOf setup st visit.device) records visit.since now)
    (hbefore : visit.loaded = none → ∀ first ∈ st.firstPassAt visit.device,
      Seen DeviceEvent.time (recordsOf setup st visit.device) (st.handed visit.device)
        (first - day) visit.since) :
    ∀ first ∈ st.firstPassAt visit.device, Seen DeviceEvent.time (recordsOf setup st visit.device)
      (st.handed visit.device) (first - day) now := by
  have hold := h.passes worker
  rw [hpass] at hold
  intro first hfirst
  have hhanded : Seen DeviceEvent.time (recordsOf setup st visit.device)
      (st.handed visit.device) visit.since now :=
    hanswer.mono fun e he => (hold.2 e he).resolve_right List.not_mem_nil
  refine Seen.trans ?_ hhanded
  cases hloaded : visit.loaded with
  | none => exact hbefore hloaded first hfirst
  | some m =>
    rw [hold.1.since m hloaded]
    refine h.seen visit.device m (.inr ⟨worker, ?_⟩) first hfirst
    rw [hpass, ← hloaded]
    exact List.mem_cons_self

/-- **One guarded step.** -/
theorem syncStep_kept (h : Kept setup st) (op : SyncOp) (hguarded : Guarded setup st op) :
    Kept setup (syncStep setup devices st op) := by
  cases op with
  | append device event => exact h.appendEvent hguarded
  | setActive device isActive => exact { first := h.first, seen := h.seen, passes := h.passes }
  | stop worker => exact h.setPass trivial (fun _ hrow => absurd hrow List.not_mem_nil)
  | start worker =>
    dsimp only [syncStep]
    split
    · refine h.setPass trivial fun row hrow => .inr ?_
      obtain ⟨device, -, rfl⟩ := List.mem_map.mp hrow
      rfl
    · exact h
  | visit worker now =>
    dsimp only [syncStep]
    split
    · exact h.setPass trivial (fun _ hrow => absurd hrow List.not_mem_nil)
    · next device loaded rows hpass =>
      refine h.recordFirstPass.setPass ?_ fun row hrow => .inl ?_
      · refine { first := ?_, since := fun m hm => ?_ }
        · show (Function.update st.firstPassAt device _ device).isSome
          rw [Function.update_self]
          rfl
        · show sinceOf loaded now = m
          rw [show loaded = some m from hm]
          rfl
      · show row ∈ (st.passes worker).rows
        rw [hpass]
        exact hrow
    · exact h
  | fetch worker =>
    dsimp only [syncStep]
    split
    · next visit rows hpass =>
      have hold := h.passes worker
      rw [hpass] at hold
      exact h.setPass ⟨hold, fun _ he => .inr he⟩ (fun row hrow => .inl (hpass ▸ hrow))
    · exact h
  | handOver worker =>
    dsimp only [syncStep]
    split
    · next visit records e todo rows hpass =>
      have hold := h.passes worker
      rw [hpass] at hold
      refine h.handOver.setPass ⟨hold.1, fun e' he' => ?_⟩ (fun row hrow => .inl ?_)
      · show e' ∈ Function.update st.handed visit.device _ visit.device ∨ e' ∈ todo
        rw [Function.update_self, List.mem_append, List.mem_singleton, or_assoc, ← List.mem_cons]
        exact hold.2 e' he'
      · show row ∈ (st.passes worker).rows
        rw [hpass]
        exact hrow
    · exact h
  | finish worker now =>
    dsimp only [syncStep]
    split
    · next visit records rows hpass =>
      have hold := h.passes worker
      rw [hpass] at hold
      obtain ⟨hanswer, hbefore⟩ : Seen DeviceEvent.time (recordsOf setup st visit.device) records
          visit.since now ∧ (visit.loaded = none → ∀ first ∈ st.firstPassAt visit.device,
            Seen DeviceEvent.time (recordsOf setup st visit.device) (st.handed visit.device)
              (first - day) visit.since) := by
        simpa only [Guarded, hpass] using hguarded
      refine (h.saveLastSync hold.1.first (h.seen_finish hpass hanswer hbefore)).setPass trivial
        fun row hrow => .inl ?_
      show row ∈ (st.passes worker).rows
      rw [hpass]
      exact List.mem_cons_of_mem _ hrow
    · exact h
  | fail worker =>
    dsimp only [syncStep]
    split
    · next visit rows hpass =>
      exact h.setPass trivial (fun row hrow => .inl (hpass ▸ List.mem_cons_of_mem _ hrow))
    · next visit records todo rows hpass =>
      exact h.setPass trivial (fun row hrow => .inl (hpass ▸ List.mem_cons_of_mem _ hrow))
    · exact h

/-- **An answer that is not cut off** leaves out only what is logged after it. -/
theorem fetchEvents_seen {protocol : BiometricProtocol} {since hi : ℤ} {log : List DeviceEvent}
    (hlimit : ∀ limit ∈ protocol.maxResults,
      (log.filter (fun e => since ≤ e.time)).length ≤ limit) :
    Seen DeviceEvent.time (log.filter (isRecord setup protocol))
      (fetchEvents setup protocol since log) since hi := by
  intro e he hsince _
  obtain ⟨he, hrecord⟩ := List.mem_filter.mp he
  have hmem : e ∈ log.filter (fun e => since ≤ e.time) :=
    List.mem_filter.mpr ⟨he, decide_eq_true hsince⟩
  refine List.mem_filter.mpr ⟨?_, hrecord⟩
  unfold answer
  cases hmax : protocol.maxResults with
  | none => exact hmem
  | some limit =>
    show e ∈ (log.filter (fun e => since ≤ e.time)).take limit
    rwa [List.take_of_length_le (hlimit limit hmax)]

end

/-- **Nothing is lost** in a run of guarded steps. -/
theorem nothing_lost_of_guarded (setup : AttendanceSetup) (devices : List BiometricDevice)
    {st : SyncState} (hfresh : Fresh st) {ops : List SyncOp}
    (hops : Run.Along (syncStep setup devices) (Guarded setup) st ops) (n : ℕ)
    (device : BiometricDevice) :
    NothingLost setup (Run.exec (syncStep setup devices) st (ops.take n)) device := by
  rw [← List.take_append_drop n ops, Run.along_append] at hops
  have hkept := Run.invariant_of_along (I := fun s : SyncState => Kept setup s)
    (fun _ op h hguarded => syncStep_kept h op hguarded) hfresh.kept hops.1
  exact fun watermark hwatermark first hfirst =>
    hkept.seen device watermark (.inl hwatermark) first hfirst

/-! ## An event during a pass -/

namespace Sample

def door : BiometricDevice where
  id := 1
  organisation := 1
  protocol := .hikvisionIsapi

/-- An event of employee 1, so many seconds into the third day. -/
def event (seconds : ℤ) : DeviceEvent where
  employeeCode := "EMP001"
  time := 2 * day + 1000000 * seconds
  minor := 75
  direction := ""
  eventTypeId := ""

def before : SyncState where
  isActive _ := true
  lastSyncAt _ := none
  log _ := []
  passes _ := .idle
  attendance := Attendance.Sample.noDays
  firstPassAt _ := none
  handed _ := []

/-- The event is there when the pass asks, and is handed over. -/
def caught : List SyncOp := [
  .append door (event 5), .start 0, .visit 0 (event 10).time, .fetch 0, .handOver 0,
  .finish 0 (event 12).time]

/-- The event happens between the answer and the end of the visit. -/
def missed : List SyncOp := [
  .start 0, .visit 0 (event 10).time, .fetch 0, .append door (event 11),
  .finish 0 (event 12).time]

theorem fresh_before : Fresh before where
  lastSyncAt _ := rfl
  firstPassAt _ := rfl
  passes _ := rfl

end Sample

open Sample

theorem nothing_lost_of_guarded_sample :
    NothingLost Attendance.Sample.setup
      (Run.exec (syncStep Attendance.Sample.setup [door]) before (caught.take 6)) door := by
  have hguarded : Run.Along (syncStep Attendance.Sample.setup [door])
      (Guarded Attendance.Sample.setup) before caught :=
    ⟨fun m hm => absurd hm (fresh_before.not_isMark m), trivial, trivial, trivial, trivial,
      ⟨by decide +kernel, by decide +kernel⟩, trivial⟩
  exact nothing_lost_of_guarded Attendance.Sample.setup [door] fresh_before hguarded 6 door

/-- **An event is lost**: it happens after the answer and before the clock is read. -/
theorem event_is_lost :
    ¬ NothingLost Attendance.Sample.setup
      (Run.exec (syncStep Attendance.Sample.setup [door]) before missed) door := by
  intro h
  have hhanded := h (event 12).time (by decide +kernel) (event 10).time (by decide +kernel)
    (event 11) (by decide +kernel) (by decide +kernel) (by decide +kernel)
  exact absurd hhanded (by decide +kernel)

end Biometrics
