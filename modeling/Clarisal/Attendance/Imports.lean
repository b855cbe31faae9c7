import Clarisal.Attendance.StoredDays
import Clarisal.Lib.Transaction

/-!
# Attendance from a sheet

A sheet has a row for each employee and date. Every row is checked before any is posted, and
each leaves a row of the import job, with its times or with its error. The records are only
touched when the job has no error, and then the whole sheet is in them
(`importAttendanceSheet_all_or_nothing`).

A row is an error when it does not parse or when an earlier row has its employee and date;
so the job has none exactly when the rows parse to distinct keys (`ImportPass.Of`).
-/

open Calendar

namespace Attendance

open Approvals (OrganisationId EmployeeId)

/-! ## Sheets -/

/-- **A cell.** Any other value, such as a number, is shown as a text, and may be a false one. -/
inductive Cell
  | empty
  | text (text : String)
  | date (date : Date)
  | datetime (date : Date) (time : TimeOfDay)
  | time (time : TimeOfDay)
  | other (shown : String) (truthy : Bool)

/-- How Python shows a cell, lowers a text and reads a time of a format. -/
structure Formats where
  str : Cell → String
  lower : String → String
  strptime : String → String → Option (Date × TimeOfDay)

/-- What is uploaded; `rows` are those of the first sheet. -/
structure UploadedFile where
  name : String
  rows : Except String (List (List Cell))

/-- A row under the headers. -/
structure SheetRow where
  rowNumber : ℕ
  employeeCode : Cell
  date : Cell
  checkIn : Cell
  checkOut : Cell

/-- A cell that a row may have without being one. -/
def Cell.isBlank : Cell → Bool
  | .empty => true
  | .text s => s = ""
  | _ => false

def attendanceHeaders : List String := ["employee_code", "date", "check_in", "check_out"]

section

variable (setup : AttendanceSetup) (formats : Formats)

/-- `_strip_string`. -/
def stripString (value : Cell) : String :=
  setup.strip (match value with
    | .empty => ""
    | .text s => s
    | .other shown truthy => if truthy then shown else ""
    | value => formats.str value)

/-- `_normalize_header`. -/
def normalizeHeader (value : Cell) : String :=
  (formats.lower (stripString setup formats value)).map (fun c => if c = ' ' then '_' else c)

def ensureXlsx (file : UploadedFile) : Except String Unit :=
  if (formats.lower file.name).endsWith ".xlsx" then .ok ()
  else .error "Only Excel .xlsx files are supported for attendance import."

/-- The rows below the headers, from the second on, without the blank ones. -/
def sheetRows (rows : List (List Cell)) : List SheetRow :=
  (rows.zipIdx 2).filterMap (fun (row, number) =>
    if (row.take attendanceHeaders.length).all Cell.isBlank then none
    else some {
      rowNumber := number
      employeeCode := row.getD 0 .empty
      date := row.getD 1 .empty
      checkIn := row.getD 2 .empty
      checkOut := row.getD 3 .empty })

/-- `_load_sheet_rows`. -/
def loadSheetRows (file : UploadedFile) : Except String (List SheetRow) := do
  match ← file.rows with
  | [] => .error "The uploaded workbook is empty."
  | headers :: rows =>
    if (headers.map (normalizeHeader setup formats)).take attendanceHeaders.length
        ≠ attendanceHeaders then
      .error ("The workbook must contain these columns in order: "
        ++ ", ".intercalate attendanceHeaders ++ ".")
    else .ok (sheetRows rows)

def dateFormats : List String := ["%Y-%m-%d", "%d-%m-%Y", "%d/%m/%Y", "%Y/%m/%d"]

/-- `_parse_date`. -/
def parseDate (value : Cell) : Except String Date :=
  if value.isBlank then .error "Date is required."
  else match value with
    | .datetime date _ => .ok date
    | .date date => .ok date
    | value =>
      match dateFormats.findSome? (formats.strptime (stripString setup formats value)) with
      | some (date, _) => .ok date
      | none => .error "Date must be a valid Excel date or YYYY-MM-DD style value."

def timeFormats : List String :=
  ["%H:%M", "%H:%M:%S", "%I:%M %p", "%I:%M:%S %p", "%Y-%m-%d %H:%M", "%Y-%m-%d %H:%M:%S",
    "%d-%m-%Y %H:%M", "%d-%m-%Y %H:%M:%S", "%Y-%m-%dT%H:%M", "%Y-%m-%dT%H:%M:%S"]

/-- `_parse_time_value`. -/
def parseTimeValue (value : Cell) (label : String) : Except String TimeOfDay :=
  if value.isBlank then .error (label ++ " is required.")
  else match value with
    | .datetime _ time => .ok time
    | .time time => .ok time
    | value =>
      match timeFormats.findSome? (formats.strptime (stripString setup formats value)) with
      | some (_, time) => .ok time
      | none => .error (label ++ " must be a valid Excel time or time-like value.")

/-! ## Checking the rows -/

/-- A row that has been read: what is posted. -/
structure ParsedRow where
  employeeCode : String
  employee : EmployeeId
  attendanceDate : Date
  checkInAt : ℤ
  checkOutAt : ℤ
deriving DecidableEq

def ParsedRow.key (p : ParsedRow) : EmployeeId × Date := (p.employee, p.attendanceDate)

/-- The code of a row, as it is looked up. -/
def SheetRow.code (row : SheetRow) : String :=
  setup.upper (stripString setup formats row.employeeCode)

variable (organisation : OrganisationId)

/-- A row on its own. The times have one zone, whose clocks compare them. -/
def parseRow (row : SheetRow) : Except String ParsedRow := do
  let employee ← resolveEmployee setup organisation (row.code setup formats)
  let date ← parseDate setup formats row.date
  let checkIn ← parseTimeValue setup formats row.checkIn "Check in"
  let checkOut ← parseTimeValue setup formats row.checkOut "Check out"
  if combine date checkOut < combine date checkIn then
    .error "Check out cannot be earlier than check in."
  else .ok {
    employeeCode := setup.upper (setup.strip (row.code setup formats))
    employee := employee
    attendanceDate := date
    checkInAt := (setup.policy organisation).timezone.utc (combine date checkIn)
    checkOutAt := (setup.policy organisation).timezone.utc (combine date checkOut) }

inductive AttendanceImportRowStatus
  | valid | error | incomplete | posted
deriving DecidableEq, Repr

structure AttendanceImportRow where
  rowNumber : ℕ
  employeeCode : String
  employee : Option EmployeeId
  attendanceDate : Option Date
  checkInAt : Option ℤ
  checkOutAt : Option ℤ
  status : AttendanceImportRowStatus
  errorMessage : String

/-- Why an import raises: a refusal, or the text of a code that its column has no room for. -/
inductive ImportError
  | valueError (message : String)
  | dataError
deriving DecidableEq

/-- `AttendanceImportRow.objects.create`: a code has twenty characters. -/
def createRow (row : AttendanceImportRow) : Except ImportError AttendanceImportRow :=
  if row.employeeCode.length ≤ 20 then .ok row else .error .dataError

/-- The rows checked so far. -/
structure ImportPass where
  seenKeys : List (EmployeeId × Date)
  validRows : List ParsedRow
  rows : List AttendanceImportRow

/-- **Check a row**: a second one of an employee and date is an error. -/
def checkRow (pass : ImportPass) (row : SheetRow) : Except String ParsedRow := do
  let parsed ← parseRow setup formats organisation row
  if parsed.key ∈ pass.seenKeys then
    .error "Only one attendance row per employee and date is allowed in the same upload."
  else .ok parsed

def importRow (pass : ImportPass) (row : SheetRow) : Except ImportError ImportPass :=
  match checkRow setup formats organisation pass row with
  | .ok parsed => do
    let created ← createRow {
      rowNumber := row.rowNumber
      employeeCode := parsed.employeeCode
      employee := some parsed.employee
      attendanceDate := some parsed.attendanceDate
      checkInAt := some parsed.checkInAt
      checkOutAt := some parsed.checkOutAt
      status := .valid
      errorMessage := "" }
    .ok {
      seenKeys := pass.seenKeys ++ [parsed.key]
      validRows := pass.validRows ++ [parsed]
      rows := pass.rows ++ [created] }
  | .error message => do
    let created ← createRow {
      rowNumber := row.rowNumber
      employeeCode := row.code setup formats
      employee := none
      attendanceDate := none
      checkInAt := none
      checkOutAt := none
      status := .error
      errorMessage := message }
    .ok { pass with rows := pass.rows ++ [created] }

/-! ## Posting them -/

inductive AttendanceImportStatus
  | failed | posted
deriving DecidableEq, Repr

inductive AttendanceImportMode
  | attendanceSheet | punchSheet
deriving DecidableEq, Repr

structure AttendanceImportJob where
  id : ℕ
  organisation : OrganisationId
  mode : AttendanceImportMode
  originalFilename : String
  status : AttendanceImportStatus
  totalRows : ℕ
  validRows : ℕ
  errorRows : ℕ
  postedRows : ℕ
  rows : List AttendanceImportRow

/-- What a record has besides its employee and date. -/
structure RecordValues where
  checkInAt : ℤ
  checkOutAt : Option ℤ
  source : AttendanceRecordSource
  importJob : Option ℕ
deriving DecidableEq

/-- **The tables of an import**: an employee has one record of a date. -/
structure ImportState extends AttendanceState where
  records : List ((EmployeeId × Date) × RecordValues)
  unique : (Dict.keys records).Nodup
  jobs : List AttendanceImportJob

/-- The setup with the stored records. -/
def withRecords (records : List ((EmployeeId × Date) × RecordValues)) : AttendanceSetup :=
  { setup with
    records := records.map (fun e => {
      employee := e.1.1
      attendanceDate := e.1.2
      checkInAt := e.2.checkInAt
      checkOutAt := e.2.checkOutAt
      source := e.2.source }) }

/-- The record that a row makes. -/
def ParsedRow.values (job : ℕ) (p : ParsedRow) : RecordValues where
  checkInAt := p.checkInAt
  checkOutAt := some p.checkOutAt
  source := .excelImport
  importJob := some job

/-- `AttendanceRecord.objects.update_or_create`, and the day computed again. -/
def postRow (job : ℕ) (st : ImportState) (p : ParsedRow) : ImportState :=
  let records := Dict.alter p.key (fun _ => p.values job) st.records
  { st with
    toAttendanceState := recalculateAttendanceDay (withRecords setup records) p.employee
      p.attendanceDate st.toAttendanceState
    records := records
    unique := Dict.nodup_alter st.unique }

def AttendanceImportRow.isError (row : AttendanceImportRow) : Bool := row.status = .error

/-- `import_attendance_sheet`. The job is given its id by the database. -/
def importAttendanceSheet (id : ℕ) (file : UploadedFile) (st : ImportState) :
    Except ImportError (AttendanceImportJob × ImportState) := do
  let rows ← (do
    ensureXlsx formats file
    let rows ← loadSheetRows setup formats file
    if rows = [] then .error "The workbook does not contain any attendance rows."
    else .ok rows).mapError .valueError
  let pass ← rows.foldlM (importRow setup formats organisation) ⟨[], [], []⟩
  let job := {
    id := id
    organisation := organisation
    mode := .attendanceSheet
    originalFilename := file.name
    status := .failed
    totalRows := rows.length
    validRows := pass.validRows.length
    errorRows := pass.rows.countP AttendanceImportRow.isError
    postedRows := 0
    rows := pass.rows }
  if job.errorRows ≠ 0 then .ok (job, { st with jobs := st.jobs ++ [job] })
  else
    let st := pass.validRows.foldl (postRow setup id) st
    let job := { job with
      status := .posted
      postedRows := pass.validRows.length
      rows := pass.rows.map (fun row =>
        if row.status = .valid then { row with status := .posted } else row) }
    .ok (job, { st with jobs := st.jobs ++ [job] })

/-- The tables after an import: one that raises is rolled back. -/
def afterImport (id : ℕ) (file : UploadedFile) (st : ImportState) : ImportState :=
  Transaction.settle st (Prod.snd <$> importAttendanceSheet setup formats organisation id file st)

/-- **What a pass has found in the rows**: each is valid or an error, and none is an error exactly
when the rows parse to distinct keys. -/
structure ImportPass.Of (done : List SheetRow) (pass : ImportPass) : Prop where
  seen : pass.seenKeys = pass.validRows.map ParsedRow.key
  distinct : (pass.validRows.map ParsedRow.key).Nodup
  total : pass.validRows.length + pass.rows.countP AttendanceImportRow.isError = done.length
  status : ∀ r ∈ pass.rows, r.status = .valid ∨ r.status = .error
  parsed : pass.rows.countP AttendanceImportRow.isError = 0 →
    done.map (parseRow setup formats organisation) = pass.validRows.map .ok
  clean : ∀ ps : List ParsedRow, done.map (parseRow setup formats organisation) = ps.map .ok →
    (ps.map ParsedRow.key).Nodup → pass.rows.countP AttendanceImportRow.isError = 0

/-- **The rows of a sheet are posted**: each once, with its times, and no record besides. -/
structure Posted (rows : List SheetRow) (st : ImportState) (job : AttendanceImportJob)
    (st' : ImportState) (parsed : List ParsedRow) : Prop where
  parse : rows.map (parseRow setup formats organisation) = parsed.map .ok
  once : (parsed.map ParsedRow.key).Nodup
  records : ∀ k v, (k, v) ∈ st'.records ↔ (∃ p ∈ parsed, p.key = k ∧ p.values job.id = v)
    ∨ (k ∉ parsed.map ParsedRow.key ∧ (k, v) ∈ st.records)
  postedRows : job.postedRows = rows.length
  status : ∀ r ∈ job.rows, r.status = .posted

/-- **An import is all or nothing.** -/
structure Imported (rows : List SheetRow) (st : ImportState) (job : AttendanceImportJob)
    (st' : ImportState) : Prop where
  totalRows : job.totalRows = rows.length
  counted : job.errorRows = job.rows.countP AttendanceImportRow.isError
  total : job.totalRows = job.validRows + job.errorRows
  clean : ∀ ps : List ParsedRow, rows.map (parseRow setup formats organisation) = ps.map .ok →
    (ps.map ParsedRow.key).Nodup → job.errorRows = 0
  nothing : job.errorRows ≠ 0 → st'.records = st.records
  all : job.errorRows = 0 → ∃ parsed, Posted setup formats organisation rows st job st' parsed

variable {setup formats organisation} {row : SheetRow} {done rows : List SheetRow}
  {pass pass' : ImportPass} {st : ImportState}

theorem createRow_eq_ok {r r' : AttendanceImportRow} (h : createRow r = .ok r') : r' = r := by
  unfold createRow at h
  split at h
  · exact (Except.ok.inj h).symm
  · cases h

theorem checkRow_eq_ok_iff {p : ParsedRow} :
    checkRow setup formats organisation pass row = .ok p
      ↔ parseRow setup formats organisation row = .ok p ∧ p.key ∉ pass.seenKeys := by
  unfold checkRow
  rw [Transaction.bind_eq_ok_iff]
  constructor
  · rintro ⟨q, hq, h⟩
    split at h
    · cases h
    · next hnew =>
      obtain rfl := Except.ok.inj h
      exact ⟨hq, hnew⟩
  · rintro ⟨hp, hnew⟩
    exact ⟨p, hp, if_neg hnew⟩

/-- **A row that is checked** is valid with a new key, or an error. -/
theorem importRow_cases (h : importRow setup formats organisation pass row = .ok pass') :
    (∃ p created, parseRow setup formats organisation row = .ok p ∧ p.key ∉ pass.seenKeys
        ∧ created.status = .valid
        ∧ pass' = { seenKeys := pass.seenKeys ++ [p.key], validRows := pass.validRows ++ [p],
                    rows := pass.rows ++ [created] })
      ∨ ∃ created, (∀ p, parseRow setup formats organisation row = .ok p → p.key ∈ pass.seenKeys)
        ∧ created.status = .error ∧ pass' = { pass with rows := pass.rows ++ [created] } := by
  unfold importRow at h
  split at h
  · next p hp =>
    obtain ⟨created, hcreated, h⟩ := Transaction.bind_eq_ok_iff.mp h
    obtain rfl := createRow_eq_ok hcreated
    obtain ⟨hparsed, hnew⟩ := checkRow_eq_ok_iff.mp hp
    exact Or.inl ⟨p, _, hparsed, hnew, rfl, (Except.ok.inj h).symm⟩
  · next message herror =>
    obtain ⟨created, hcreated, h⟩ := Transaction.bind_eq_ok_iff.mp h
    obtain rfl := createRow_eq_ok hcreated
    refine Or.inr ⟨_, fun p hp => ?_, rfl, (Except.ok.inj h).symm⟩
    by_contra hnew
    cases herror.symm.trans (checkRow_eq_ok_iff.mpr ⟨hp, hnew⟩)

/-- The last of the rows that parse. -/
theorem map_concat_eq_map_ok {f : SheetRow → Except String ParsedRow} {ps : List ParsedRow}
    (h : (done ++ [row]).map f = ps.map .ok) :
    ∃ init p, ps = init ++ [p] ∧ done.map f = init.map .ok ∧ f row = .ok p := by
  rw [List.map_append, List.map_singleton] at h
  obtain ⟨init, last, rfl, hinit, hlast⟩ := List.map_eq_append_iff.mp h.symm
  obtain ⟨p, rfl, hp⟩ := List.map_eq_singleton_iff.mp hlast
  exact ⟨init, p, rfl, hinit.symm, hp.symm⟩

/-- **One more row.** -/
theorem ImportPass.Of.concat (h : ImportPass.Of setup formats organisation done pass)
    (hrow : importRow setup formats organisation pass row = .ok pass') :
    ImportPass.Of setup formats organisation (done ++ [row]) pass' := by
  obtain ⟨p, created, hparsed, hnew, hstatus, rfl⟩ | ⟨created, hseen, hstatus, rfl⟩ :=
    importRow_cases hrow
  · have hcount : (pass.rows ++ [created]).countP AttendanceImportRow.isError
        = pass.rows.countP AttendanceImportRow.isError := by
      rw [List.countP_append, List.countP_singleton, if_neg]
      · rfl
      · simp [AttendanceImportRow.isError, hstatus]
    refine ⟨?_, ?_, ?_, ?_, ?_, ?_⟩
    · rw [List.map_append, h.seen]
      rfl
    · rw [List.map_append]
      refine h.distinct.append (List.nodup_singleton _) ?_
      rw [List.map_singleton, List.disjoint_singleton, ← h.seen]
      exact hnew
    · rw [hcount, List.length_append, List.length_append, ← h.total, Nat.add_right_comm]
      rfl
    · rw [List.forall_mem_append, List.forall_mem_singleton]
      exact ⟨h.status, Or.inl hstatus⟩
    · intro hzero
      rw [List.map_append, List.map_append, h.parsed (hcount ▸ hzero), List.map_singleton, hparsed]
      rfl
    · intro ps hps hdistinct
      obtain ⟨init, q, rfl, hinit, -⟩ := map_concat_eq_map_ok hps
      rw [List.map_append] at hdistinct
      rw [hcount]
      exact h.clean init hinit hdistinct.of_append_left
  · have hcount : (pass.rows ++ [created]).countP AttendanceImportRow.isError
        = pass.rows.countP AttendanceImportRow.isError + 1 := by
      rw [List.countP_append, List.countP_singleton, if_pos]
      simp [AttendanceImportRow.isError, hstatus]
    refine ⟨h.seen, h.distinct, ?_, ?_, ?_, ?_⟩
    · rw [hcount, List.length_append, ← h.total]
      rfl
    · rw [List.forall_mem_append, List.forall_mem_singleton]
      exact ⟨h.status, Or.inr hstatus⟩
    · intro hzero
      exact absurd (hcount.symm.trans hzero) (Nat.succ_ne_zero _)
    · intro ps hps hdistinct
      -- an earlier row has the key, so the keys are not distinct
      obtain ⟨init, p, rfl, hinit, hp⟩ := map_concat_eq_map_ok hps
      rw [List.map_append, List.map_singleton] at hdistinct
      have hvalid := h.parsed (h.clean init hinit hdistinct.of_append_left)
      obtain rfl : init = pass.validRows :=
        List.map_injective_iff.mpr (fun _ _ => Except.ok.inj) (hinit.symm.trans hvalid)
      exact absurd (h.seen ▸ hseen p hp)
        (List.disjoint_singleton.mp (List.disjoint_of_nodup_append hdistinct))

/-- **The pass over a sheet.** -/
theorem ImportPass.Of.foldlM (h : ImportPass.Of setup formats organisation done pass)
    (hrows : rows.foldlM (importRow setup formats organisation) pass = .ok pass') :
    ImportPass.Of setup formats organisation (done ++ rows) pass' := by
  induction rows generalizing done pass with
  | nil =>
    obtain rfl := Transaction.pure_eq_ok_iff.mp hrows
    rwa [List.append_nil]
  | cons row rows ih =>
    rw [List.foldlM_cons, Transaction.bind_eq_ok_iff] at hrows
    obtain ⟨mid, hrow, hrest⟩ := hrows
    rw [List.append_cons]
    exact ih (h.concat hrow) hrest

theorem ImportPass.of_nil : ImportPass.Of setup formats organisation [] ⟨[], [], []⟩ where
  seen := rfl
  distinct := List.nodup_nil
  total := rfl
  status := by simp
  parsed _ := rfl
  clean _ _ _ := rfl

theorem records_foldl_postRow (id : ℕ) (ps : List ParsedRow) :
    (ps.foldl (postRow setup id) st).records
      = Dict.collect ParsedRow.key (fun _ p => p.values id) ps st.records := by
  induction ps generalizing st with
  | nil => rfl
  | cons p ps ih => exact ih

/-- **The records of posted rows** are theirs, once each, and the others are as before. -/
theorem mem_records_posted (id : ℕ) {ps : List ParsedRow} (hps : (ps.map ParsedRow.key).Nodup)
    (k : EmployeeId × Date) (v : RecordValues) :
    (k, v) ∈ (ps.foldl (postRow setup id) st).records
      ↔ (∃ p ∈ ps, p.key = k ∧ p.values id = v)
        ∨ (k ∉ ps.map ParsedRow.key ∧ (k, v) ∈ st.records) := by
  rw [← Dict.get_eq_some_iff (ps.foldl (postRow setup id) st).unique,
    ← Dict.get_eq_some_iff st.unique, records_foldl_postRow, Dict.get_collect]
  have hunique : Table.Unique ParsedRow.key ps := hps
  obtain hnone | ⟨p, hp, rfl, hone⟩ := hunique.filter_cases k
  · have hk : ∀ p ∈ ps, p.key ≠ k := by simpa using List.filter_eq_nil_iff.mp hnone
    rw [hnone, List.foldl_nil, or_iff_right (fun ⟨p, hp, hkey, _⟩ => hk p hp hkey)]
    refine (and_iff_right fun hmem => ?_).symm
    obtain ⟨p, hp, hkey⟩ := List.mem_map.mp hmem
    exact hk p hp hkey
  · rw [hone, List.foldl_cons, List.foldl_nil, Option.some_inj,
      or_iff_left (fun h => h.1 (List.mem_map_of_mem hp))]
    constructor
    · intro hv
      exact ⟨p, hp, rfl, hv⟩
    · rintro ⟨q, hq, hkey, rfl⟩
      rw [hunique.eq_of_key hq hp hkey]

theorem mapError_eq_ok_iff {ε ε' α : Type} {f : ε → ε'} {x : Except ε α} {a : α} :
    x.mapError f = .ok a ↔ x = .ok a := by
  cases x <;> simp [Except.mapError]

/-- **What an import that returns has found.** -/
theorem imported_of_eq_ok {id : ℕ} {file : UploadedFile} {job : AttendanceImportJob}
    {st' : ImportState}
    (h : importAttendanceSheet setup formats organisation id file st = .ok (job, st')) :
    ∃ rows, loadSheetRows setup formats file = .ok rows
      ∧ Imported setup formats organisation rows st job st' := by
  unfold importAttendanceSheet at h
  obtain ⟨rows, hrows, h⟩ := Transaction.bind_eq_ok_iff.mp h
  rw [mapError_eq_ok_iff, Transaction.bind_eq_ok_iff] at hrows
  obtain ⟨-, -, hrows⟩ := hrows
  obtain ⟨rows', hload, hrows⟩ := Transaction.bind_eq_ok_iff.mp hrows
  obtain rfl : rows' = rows := by
    split at hrows
    · cases hrows
    · exact Except.ok.inj hrows
  obtain ⟨pass, hpass, h⟩ := Transaction.bind_eq_ok_iff.mp h
  have hof := ImportPass.of_nil.foldlM hpass
  rw [List.nil_append] at hof
  refine ⟨rows', hload, ?_⟩
  dsimp only at h
  split at h
  · next herror =>
    obtain ⟨rfl, rfl⟩ := Prod.mk.inj (Except.ok.inj h)
    exact ⟨rfl, rfl, hof.total.symm, hof.clean, fun _ => rfl, fun hzero => absurd hzero herror⟩
  · next herror =>
    obtain ⟨rfl, rfl⟩ := Prod.mk.inj (Except.ok.inj h)
    have hzero := not_not.mp herror
    have hstatus : ∀ r ∈ pass.rows, r.status = .valid := by
      intro r hr
      refine (hof.status r hr).resolve_right fun hr' => ?_
      exact List.countP_eq_zero.mp hzero r hr (decide_eq_true hr')
    have hposted : ∀ r ∈ pass.rows.map (fun row =>
        if row.status = .valid then { row with status := .posted } else row),
        r.status = .posted := by
      rw [List.forall_mem_map]
      intro r hr
      rw [if_pos (hstatus r hr)]
    refine ⟨rfl, ?_, hof.total.symm, hof.clean, fun hne => absurd hzero hne,
      fun _ => ⟨pass.validRows, ?_⟩⟩
    · refine hzero.trans (List.countP_eq_zero.mpr fun r hr => ?_).symm
      simp [AttendanceImportRow.isError, hposted r hr]
    · exact {
        parse := hof.parsed hzero
        once := hof.distinct
        records := mem_records_posted id hof.distinct
        postedRows := by rw [← hof.total, hzero, Nat.add_zero]
        status := hposted }

end

/-- **An import is all or nothing**: it raises and the tables stay, or it returns a job that
counts each row once; a job with an error has touched no record, and one without has the whole
sheet posted. -/
theorem importAttendanceSheet_all_or_nothing (setup : AttendanceSetup) (formats : Formats)
    (organisation : OrganisationId) (id : ℕ) (file : UploadedFile) (st : ImportState) :
    (∃ e, importAttendanceSheet setup formats organisation id file st = .error e
        ∧ afterImport setup formats organisation id file st = st)
      ∨ ∃ job st' rows, importAttendanceSheet setup formats organisation id file st = .ok (job, st')
        ∧ afterImport setup formats organisation id file st = st'
        ∧ loadSheetRows setup formats file = .ok rows
        ∧ Imported setup formats organisation rows st job st' := by
  unfold afterImport
  cases himport : importAttendanceSheet setup formats organisation id file st with
  | error e => exact Or.inl ⟨e, rfl, rfl⟩
  | ok result =>
    obtain ⟨job, st'⟩ := result
    obtain ⟨rows, hrows, himported⟩ := imported_of_eq_ok himport
    exact Or.inr ⟨job, st', rows, rfl, rfl, hrows, himported⟩

namespace Sample

/-- A reader of no format: the sheets have dates and times. -/
def formats : Formats where
  str _ := ""
  lower := id
  strptime _ _ := none

/-- A row of employee 1 on the sixth of May, with the hours of the check-in and the check-out. -/
def sheetOf (times : List (TimeOfDay × TimeOfDay)) : UploadedFile where
  name := "may.xlsx"
  rows := .ok (attendanceHeaders.map Cell.text :: times.map (fun (checkIn, checkOut) =>
    [.text "EMP001", .date sixth, .time checkIn, .time checkOut]))

def noRecords : ImportState where
  punches := []
  days := []
  records := []
  unique := List.nodup_nil
  jobs := []

end Sample

open Sample in
example : (afterImport setup formats 1 7 (sheetOf [(.ofHours 9, .ofHours 17)]) noRecords).records
    = [((1, sixth), ⟨kolkata.utc (combine sixth (.ofHours 9)),
        some (kolkata.utc (combine sixth (.ofHours 17))), .excelImport, some 7⟩)] := by
  decide +kernel

open Sample in
/-- The second row is one of the same date. -/
example : (afterImport setup formats 1 7
    (sheetOf [(.ofHours 9, .ofHours 17), (.ofHours 10, .ofHours 12)]) noRecords).records = [] := by
  decide +kernel

end Attendance
