import Clarisal.Biometrics.PullSync
import Clarisal.Lib.Lines
import Clarisal.Payroll.FiscalYear

/-!
# Pushes of ADMS devices

A device pushes a body of lines, each with five fields between tabs: who, when, in or out,
how it was verified, and a work code. A line is read by itself, so a body does what its
lines do one by one (`handleAdmsPush_line_by_line`), and every line that is not blank is
processed, skipped or an error (`total_handleAdmsPush`).

A line is stripped before it is cut, and the tab before an empty work code with it. So a
line is read back exactly when its work code is not empty (`attlog_read_back_iff`).
-/

namespace Biometrics

open Approvals (OrganisationId)
open Attendance (AttendanceSetup AttendanceState DevicePunch StoredPunch acceptDevicePunch
  createPunchFromSource)
open Payroll (isSpace strip)

/-! ## A line -/

structure AttlogLine where
  pin : String
  datetimeStr : String
  status : String
  verify : String
  workCode : String
deriving DecidableEq, Repr

def parseAttlogLine (line : String) : Option AttlogLine :=
  match ((strip line.toList).splitOn '\t').map (fun part => String.ofList (strip part)) with
  | pin :: datetimeStr :: status :: verify :: workCode :: _ =>
    some
      { pin := pin, datetimeStr := datetimeStr, status := status, verify := verify
        workCode := workCode }
  | _ => none

def parsePunchDirection (status : String) : String :=
  if String.ofList (strip status.toList) ∈ ["1", "5"] then "OUT" else "IN"

/-! ## A push -/

/-- What a punch keeps of the push and of its line. -/
structure PunchMetadata where
  deviceId : String
  protocol : BiometricProtocol
  verify : String
  workCode : String
  statusCode : String
deriving DecidableEq, Repr

/-- The attendance, and what the punches of the pushes keep, in their order. -/
structure AdmsState where
  attendance : AttendanceState
  metadata : List PunchMetadata

structure AdmsResult where
  processed : ℕ
  skipped : ℕ
  errors : List String
deriving DecidableEq, Repr

/-- Where a push comes from; `strptime` is the time of a text of the format
`%Y-%m-%d %H:%M:%S`, on the default clocks. -/
structure AdmsPush where
  setup : AttendanceSetup
  strptime : String → Option ℤ
  organisation : OrganisationId
  deviceSerial : String

inductive LineOutcome
  | processed
  | skipped
  | error (message : String)
deriving DecidableEq, Repr

def AdmsResult.count (r : AdmsResult) : LineOutcome → AdmsResult
  | .processed => { r with processed := r.processed + 1 }
  | .skipped => { r with skipped := r.skipped + 1 }
  | .error message => { r with errors := r.errors ++ [message] }

section

variable (push : AdmsPush)

/-- The punch of a line at a time. -/
def AdmsPush.devicePunch (parsed : AttlogLine) (punchDt : ℤ) : DevicePunch where
  employeeCode := parsed.pin
  punchTime := punchDt
  organisation := push.organisation
  direction := parsePunchDirection parsed.status
  source := some .device
  sourceConfig := none

def AdmsPush.metadata (parsed : AttlogLine) : PunchMetadata where
  deviceId := push.deviceSerial
  protocol := .zkAdms
  verify := parsed.verify
  workCode := parsed.workCode
  statusCode := parsed.status

/-- The loop's body. -/
def handleLine (line : String) (st : AdmsState) : LineOutcome × AdmsState :=
  match parseAttlogLine line with
  | none => (.skipped, st)
  | some parsed =>
    match push.strptime parsed.datetimeStr with
    | none => (.error ("Bad datetime: " ++ parsed.datetimeStr), st)
    | some punchDt =>
      let punch := push.devicePunch parsed punchDt
      match acceptDevicePunch push.setup punch st.attendance with
      | none => (.skipped, st)
      | some _ => (.processed, {
          attendance := createPunchFromSource push.setup punch st.attendance
          metadata := st.metadata ++ [push.metadata parsed] })

/-- The lines of a text. -/
def splitlines (text : String) : List String :=
  (Lines.splitlines text.toList).map String.ofList

def isBlank (line : String) : Bool := strip line.toList = []

/-- **`handle_adms_push`** -/
def handleAdmsPush (body : String) (st : AdmsState) : AdmsResult × AdmsState :=
  let lines := (splitlines (String.ofList (strip body.toList))).filter (fun line => !isBlank line)
  lines.foldl
    (fun acc line =>
      ((acc.1.count (handleLine push line acc.2).1), (handleLine push line acc.2).2))
    (⟨0, 0, []⟩, st)

/-! ## What is asked of a push -/

/-- Every line that is not blank is counted once. -/
def CountsLines (body : String) (st : AdmsState) : Prop :=
  let result := (handleAdmsPush push body st).1
  result.processed + result.skipped + result.errors.length
    = ((splitlines body).filter (fun line => !isBlank line)).length

/-- **A body does what its lines do**, each in a body of its own. -/
def LineByLine (body : String) (st : AdmsState) : Prop :=
  (handleAdmsPush push body st).2
    = (splitlines body).foldl (fun st line => (handleAdmsPush push line st).2) st

end

namespace AttlogLine

variable (line : AttlogLine)

def fields : List String :=
  [line.pin, line.datetimeStr, line.status, line.verify, line.workCode]

/-- The fields between tabs. -/
def text : String := String.intercalate "\t" line.fields

/-- **The line is read back** from its text. -/
def ReadBack : Prop := parseAttlogLine line.text = some line

end AttlogLine

/-- A field without tabs, line breaks and blanks around it. -/
structure Plain (field : String) : Prop where
  noTab : '\t' ∉ field.toList
  noBreak : ∀ c ∈ field.toList, Lines.isLineBreak c = false
  stripped : strip field.toList = field.toList

/-- **A line of plain fields**, of which the first is not empty. -/
structure PlainLine extends AttlogLine where
  plain : ∀ field ∈ toAttlogLine.fields, Plain field
  pin_ne : toAttlogLine.pin ≠ ""

/-! ## Reading a line back -/

/-- The letters of texts with a separator between them. -/
theorem toList_intercalate (sep : String) (texts : List String) :
    (sep.intercalate texts).toList = sep.toList.intercalate (texts.map String.toList) := by
  induction texts with
  | nil => rfl
  | cons text texts ih =>
    cases texts with
    | nil => rw [String.intercalate_singleton, List.map_singleton, List.intercalate_singleton]
    | cons next texts =>
      rw [String.intercalate_cons_cons, String.toList_append, String.toList_append, ih]
      simp only [List.map_cons, List.intercalate_cons_cons]

/-- The parts of a text: those up to the last that is not empty. -/
theorem PlainLine.splitOn_text (line : PlainLine) :
    (strip line.text.toList).splitOn '\t'
      = (line.fields.map String.toList).rdropWhile List.isEmpty := by
  have hplain : ∀ g ∈ line.fields.map String.toList, '\t' ∉ g ∧ strip g = g := by
    intro g hg
    obtain ⟨field, hfield, rfl⟩ := List.mem_map.mp hg
    exact ⟨(line.plain field hfield).noTab, (line.plain field hfield).stripped⟩
  rw [AttlogLine.text, toList_intercalate]
  exact Lines.splitOn_strip_intercalate (by decide)
    (fun h => line.pin_ne (String.toList_eq_nil_iff.mp h))
    (fun g hg => (hplain g hg).2) (fun g hg => (hplain g hg).1)

/-- A line of fewer than five parts is not read. -/
theorem parseAttlogLine_of_short {line : String}
    (h : ((strip line.toList).splitOn '\t').length < 5) : parseAttlogLine line = none := by
  unfold parseAttlogLine
  generalize (strip line.toList).splitOn '\t' = parts at h ⊢
  rcases parts with _ | ⟨a, _ | ⟨b, _ | ⟨c, _ | ⟨d, _ | ⟨e, rest⟩⟩⟩⟩⟩
  · rfl
  · rfl
  · rfl
  · rfl
  · rfl
  · simp only [List.length_cons] at h
    omega

/-- **A plain line** is read back, unless its work code is empty. -/
theorem PlainLine.parse_text (line : PlainLine) :
    parseAttlogLine line.text
      = if line.workCode = "" then none else some line.toAttlogLine := by
  have hparts := line.splitOn_text
  have hfields : line.fields.map String.toList
      = [line.pin, line.datetimeStr, line.status, line.verify].map String.toList
        ++ [line.workCode.toList] := rfl
  by_cases hempty : line.workCode = ""
  · rw [if_pos hempty]
    refine parseAttlogLine_of_short ?_
    rw [hparts, hfields, hempty, List.rdropWhile_concat_pos _ _ _ rfl]
    exact ((List.rdropWhile_prefix _ _).length_le).trans_lt (Nat.lt_succ_self 4)
  · have hlast : ¬ line.workCode.toList.isEmpty = true := by
      rw [List.isEmpty_iff, String.toList_eq_nil_iff]
      exact hempty
    have hstripped : ∀ field ∈ line.fields, String.ofList (strip field.toList) = field := by
      intro field hfield
      rw [(line.plain field hfield).stripped, String.ofList_toList]
    have hread : ((strip line.text.toList).splitOn '\t').map
        (fun part => String.ofList (strip part)) = line.fields := by
      rw [hparts, hfields, List.rdropWhile_concat_neg _ _ _ hlast, ← hfields, List.map_map]
      exact (List.map_congr_left hstripped).trans (List.map_id _)
    rw [if_neg hempty, parseAttlogLine, hread]
    rfl

theorem PlainLine.readBack_iff (line : PlainLine) :
    line.ReadBack ↔ line.workCode ≠ "" := by
  unfold AttlogLine.ReadBack
  rw [line.parse_text]
  split
  · next hempty => exact iff_of_false (fun h => by cases h) (not_not.mpr hempty)
  · next hne => exact iff_of_true rfl hne

/-! ## Line by line -/

section

variable {push : AdmsPush} {st : AdmsState} {line : String}

/-- A line is read as it is without the blanks around it. -/
theorem parseAttlogLine_strip (line : String) :
    parseAttlogLine (String.ofList (strip line.toList)) = parseAttlogLine line := by
  unfold parseAttlogLine
  rw [String.toList_ofList, show strip (strip line.toList) = strip line.toList from
    Lines.strip_strip isSpace line.toList]

theorem handleLine_strip (push : AdmsPush) (line : String) (st : AdmsState) :
    handleLine push (String.ofList (strip line.toList)) st = handleLine push line st := by
  unfold handleLine
  rw [parseAttlogLine_strip]

/-- The lines of a push, without the blank ones. -/
def linesOf (body : String) : List String :=
  (splitlines (String.ofList (strip body.toList))).filter (fun line => !isBlank line)

/-- **The loop**: it counts every line, and passes the state on from line to line. -/
theorem handleLines_spec (push : AdmsPush) (lines : List String) (r : AdmsResult)
    (st : AdmsState) :
    let after := lines.foldl (fun acc line =>
      ((acc.1.count (handleLine push line acc.2).1), (handleLine push line acc.2).2)) (r, st)
    after.1.processed + after.1.skipped + after.1.errors.length
        = r.processed + r.skipped + r.errors.length + lines.length
      ∧ after.2 = lines.foldl (fun st line => (handleLine push line st).2) st := by
  induction lines generalizing r st with
  | nil => exact ⟨rfl, rfl⟩
  | cons line lines ih =>
    have hrest := ih (r.count (handleLine push line st).1) (handleLine push line st).2
    refine ⟨hrest.1.trans ?_, hrest.2⟩
    rw [List.length_cons]
    unfold AdmsResult.count
    split <;> simp <;> omega

/-- **What a body says**: its lines, stripped, without the blank ones. -/
def contentsOf (body : String) : List String :=
  (Lines.contents isSpace body.toList).map String.ofList

/-- The lines of a text that are not blank say what the text says. -/
theorem map_strip_filter (text : String) :
    ((splitlines text).filter (fun line => !isBlank line)).map
      (fun line => String.ofList (strip line.toList)) = contentsOf text := by
  have hkept : ∀ line : List Char,
      (!isBlank (String.ofList line)) = decide (Lines.strip isSpace line ≠ []) := by
    intro line
    rw [isBlank, String.toList_ofList, decide_not]
    rfl
  unfold contentsOf splitlines
  rw [Lines.contents_eq_map_filter, List.filter_map, List.map_map, List.map_map]
  refine congrArg₂ List.map (funext fun line => ?_) (List.filter_congr fun line _ => hkept line)
  exact congrArg (fun text => String.ofList (strip text)) String.toList_ofList

/-- A body says what it says without the blanks around it. -/
theorem map_strip_linesOf (body : String) :
    (linesOf body).map (fun line => String.ofList (strip line.toList)) = contentsOf body := by
  unfold linesOf
  rw [map_strip_filter, contentsOf, String.toList_ofList]
  exact congrArg (List.map String.ofList) (Lines.contents_strip isSpace body.toList)

/-- **The state after a push**: that of what its body says, line by line. -/
theorem handleAdmsPush_snd (push : AdmsPush) (body : String) (st : AdmsState) :
    (handleAdmsPush push body st).2
      = (contentsOf body).foldl (fun st line => (handleLine push line st).2) st := by
  rw [← map_strip_linesOf, List.foldl_map]
  refine ((handleLines_spec push (linesOf body) ⟨0, 0, []⟩ st).2).trans ?_
  exact congrArg (List.foldl · st (linesOf body))
    (funext₂ fun st line => by rw [handleLine_strip])

/-- A body does what its lines do. -/
theorem handleAdmsPush_line_by_line (push : AdmsPush) (body : String) (st : AdmsState) :
    LineByLine push body st := by
  have hlines : contentsOf body = (splitlines body).flatMap contentsOf := by
    unfold contentsOf splitlines
    rw [← Lines.flatMap_contents_splitlines, List.map_flatMap, List.flatMap_map]
    exact List.flatMap_congr fun line _ => by rw [String.toList_ofList]
  unfold LineByLine
  rw [handleAdmsPush_snd, hlines, List.foldl_flatMap]
  exact congrArg (List.foldl · st (splitlines body))
    (funext₂ fun st line => (handleAdmsPush_snd push line st).symm)

/-- Every line that is not blank is counted. -/
theorem total_handleAdmsPush (push : AdmsPush) (body : String) (st : AdmsState) :
    CountsLines push body st := by
  have hlength : (linesOf body).length
      = ((splitlines body).filter (fun line => !isBlank line)).length := by
    have hmap := congrArg List.length ((map_strip_linesOf body).trans (map_strip_filter body).symm)
    rwa [List.length_map, List.length_map] at hmap
  have hcount := (handleLines_spec push (linesOf body) ⟨0, 0, []⟩ st).1
  dsimp only at hcount
  rw [hlength, List.length_nil, Nat.zero_add] at hcount
  unfold CountsLines handleAdmsPush
  dsimp only
  rw [← linesOf]
  exact hcount

end

namespace Sample

/-- A check-in with no work code. -/
def noWorkCode : PlainLine where
  pin := "7"
  datetimeStr := "2026-05-06 09:00:00"
  status := "0"
  verify := "1"
  workCode := ""
  plain field hfield := by
    have hall : ∀ field ∈ ["7", "2026-05-06 09:00:00", "0", "1", ""],
        field.toList.all (fun c => c ≠ '\t' ∧ Lines.isLineBreak c = false) = true
          ∧ strip field.toList = field.toList := by decide
    obtain ⟨hletters, hstripped⟩ := hall field hfield
    have hletter := fun c hc => of_decide_eq_true (List.all_eq_true.mp hletters c hc)
    exact ⟨fun htab => (hletter _ htab).1 rfl, fun c hc => (hletter c hc).2, hstripped⟩
  pin_ne := by decide

end Sample

end Biometrics
