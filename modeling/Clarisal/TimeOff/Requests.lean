import Clarisal.Approvals.Outcome
import Clarisal.TimeOff.Balance
import Clarisal.TimeOff.CompOff

/-!
# Leave requests

Creating and withdrawing leave requests, over the leave tables and the
approval engine. Neither is one transaction: each write is committed by
itself, so a call that fails half way leaves what it wrote. The two therefore
return their outcome together with the state they end in.
-/

open Calendar

namespace TimeOff

open Approvals Transaction

abbrev State := EngineState LeaveTables

/-- The subject of a leave request's approval. -/
def leaveSubject (id : LeaveRequestId) : ContentObject :=
  { contentType := .leaveRequest, objectId := id }

/-! ## Decisions -/

/-- The status of a request whose approval is decided. -/
def leaveRequestStatus : SubjectStatus → LeaveRequestStatus
  | .approved => .approved
  | .rejected => .rejected
  | .cancelled => .cancelled
  | .withdrawn => .withdrawn

namespace LeaveTables

def updateRequest (t : LeaveTables) (id : LeaveRequestId) (f : LeaveRequest → LeaveRequest) :
    LeaveTables :=
  { t with requests := Table.update (fun r => r.id = id) f t.requests }

/-- `sync_comp_off_redemptions_for_leave_request`. -/
def syncRequest (m : Masters) (t : LeaveTables) (request : LeaveRequest)
    (status : LeaveRequestStatus) : LeaveTables :=
  if (m.leaveType request.leaveType).isCompOff then t.syncCompOffRedemptions request.id status
  else t

end LeaveTables

/-- **A decision reaches its request**, with the rejection reason when there is
one; the balance is not recomputed. -/
def leaveHandler (m : Masters) : SubjectHandler LeaveTables where
  applySubjectStatus subject status reason t :=
    match subject.contentType with
    | .leaveRequest =>
      match t.getRequest subject.objectId with
      | none => .ok t
      | some request =>
        .ok ((t.updateRequest subject.objectId (fun r => { r with
          status := leaveRequestStatus status
          rejectionReason := if reason = "" then r.rejectionReason else reason })).syncRequest m
            request (leaveRequestStatus status))
    | _ => .ok t

/-! ## Creating -/

/-- The half of a day a request of one day takes. -/
def singleDayHalfSession (startDate endDate : Date) (startSession endSession : DaySession) :
    Option DaySession :=
  if startDate = endDate ∧ startSession = endSession ∧ startSession ≠ .fullDay then
    some startSession
  else none

/-- What a request asks for. -/
structure LeaveSpan where
  startDate : Date
  endDate : Date
  startSession : DaySession
  endSession : DaySession
deriving DecidableEq, Repr

def LeaveRequest.span (r : LeaveRequest) : LeaveSpan :=
  { startDate := r.startDate, endDate := r.endDate, startSession := r.startSession,
    endSession := r.endSession }

def LeaveSpan.halfSession (s : LeaveSpan) : Option DaySession :=
  singleDayHalfSession s.startDate s.endDate s.startSession s.endSession

def LeaveSpan.units (s : LeaveSpan) : ℚ :=
  leaveRequestUnits s.startDate s.endDate s.startSession s.endSession

/-- Two requests of overlapping dates exclude each other, unless they are the
two halves of one day. -/
def leaveRequestsOverlap (existing : LeaveRequest) (span : LeaveSpan) : Bool :=
  match span.halfSession, existing.span.halfSession with
  | some half, some existingHalf =>
    ¬ (span.startDate = span.endDate ∧ span.endDate = existing.startDate
      ∧ existing.startDate = existing.endDate ∧ half ≠ existingHalf)
  | _, _ => true

/-- The dates of a request, and that they are free. -/
def checkDates (employee : EmployeeId) (span : LeaveSpan) (t : LeaveTables) :
    Except String Unit :=
  if span.endDate < span.startDate then .error "End date cannot be before start date."
  else if t.requests.any (fun r => r.employee = employee
      ∧ (r.status = .pending ∨ r.status = .approved)
      ∧ r.startDate ≤ span.endDate ∧ span.startDate ≤ r.endDate
      ∧ leaveRequestsOverlap r span) then
    .error "A leave request already exists for the selected dates."
  else .ok ()

def compOffMessage (available requested : ℚ) : String :=
  "Insufficient comp off balance. Available: " ++ decimalText available ++ " days, Requested: "
    ++ decimalText requested ++ " days."

/-- Enough units for a request, of the balance or of the accruals. -/
def validateUnits (m : Masters) (employee : EmployeeId) (leaveType : LeaveTypeId)
    (span : LeaveSpan) (t : LeaveTables) : Except String Unit × LeaveTables :=
  if (m.leaveType leaveType).isCompOff then
    let available := t.getAvailableCompOffUnits employee
    if available < decimal span.units then (.error (compOffMessage available span.units), t)
    else (.ok (), t)
  else validateLeaveBalance m employee leaveType span.units span.startDate t

/-- A request as it is created. -/
def LeaveTables.newRequest (t : LeaveTables) (employee : EmployeeId) (leaveType : LeaveTypeId)
    (span : LeaveSpan) (reason : String) : LeaveRequest :=
  { id := t.nextRequest, employee := employee, leaveType := leaveType,
    startDate := span.startDate, endDate := span.endDate, startSession := span.startSession,
    endSession := span.endSession, totalUnits := span.units, reason := reason,
    status := .pending, rejectionReason := "" }

/-- A request with its reservations. -/
def LeaveTables.insertRequest (m : Masters) (t : LeaveTables) (employee : EmployeeId)
    (leaveType : LeaveTypeId) (span : LeaveSpan) (reason : String) :
    Except String Unit × LeaveTables :=
  let request := t.newRequest employee leaveType span reason
  let t := { t with requests := t.requests ++ [request], nextRequest := t.nextRequest + 1 }
  if (m.leaveType leaveType).isCompOff then
    match t.reserveCompOffRedemption request with
    | (missing, t) =>
      if 0 < missing then
        (.error (compOffMessage (t.getAvailableCompOffUnits employee) span.units), t)
      else (.ok (), t)
  else (.ok (), t)

/-- Who is asked, and the workflow the request is resolved to. -/
structure Submission where
  user : EmployeeId → UserId
  dir : Directory
  workflow : Option WorkflowId

/-- The approval of a request, in a transaction of its own. -/
def requestApproval (submission : Submission) (employee : Employee) (id : LeaveRequestId)
    (st : State) : Except String State :=
  match submission.workflow with
  | none => .error "No active default approval workflow is configured for leave requests."
  | some workflow => do
    let (_, db) ← createApprovalRun submission.user submission.dir workflow .leave
      employee.organisation (some employee.id) (leaveSubject id) st.db
    return { st with db := db }

/-- The balance of the cycle of today, recomputed. -/
def refreshToday (m : Masters) (employee : EmployeeId) (leaveType : LeaveTypeId) (st : State) :
    Except String Unit × State :=
  if (m.leaveType leaveType).isCompOff then (.ok (), st)
  else
    match getOrCreateLeaveBalance m employee leaveType st.subjects.today st.subjects with
    | .error message => (.error message, st)
    | .ok (_, t) => (.ok (), { st with subjects := t })

/-- **Create a leave request.** -/
def createLeaveRequest (m : Masters) (submission : Submission) (employee : EmployeeId)
    (leaveType : LeaveTypeId) (span : LeaveSpan) (reason : String) (st : State) :
    Except String Unit × State :=
  match checkDates employee span st.subjects with
  | .error message => (.error message, st)
  | .ok () =>
    match validateUnits m employee leaveType span st.subjects with
    | (.error message, t) => (.error message, { st with subjects := t })
    | (.ok (), t) =>
      match t.insertRequest m employee leaveType span reason with
      -- the request and the reservations made so far stay
      | (.error message, t') => (.error message, { st with subjects := t' })
      | (.ok (), t') =>
        match requestApproval submission (m.employee employee) t.nextRequest
            { st with subjects := t' } with
        -- a request without an approval stays pending, and charged
        | .error message => (.error message, { st with subjects := t' })
        | .ok st => refreshToday m employee leaveType st

/-! ## Withdrawing -/

/-- The newest run about a subject. -/
def newestRunOf (db : ApprovalDb) (subject : ContentObject) : Option ApprovalRun :=
  db.runs.reverse.find? (fun r => r.contentObject = subject)

/-- The run of a withdrawn request is cancelled, if it is pending. -/
def cancelRequestApproval (m : Masters) (now : Time) (id : LeaveRequestId) (st : State) :
    Except String State :=
  match newestRunOf st.db (leaveSubject id) with
  | none => .ok st
  | some run => cancelApprovalRun (leaveHandler m) now run.id (some .withdrawn) st

/-- **Withdraw a leave request.** -/
def withdrawLeaveRequest (m : Masters) (now : Time) (id : LeaveRequestId) (st : State) :
    Except String Unit × State :=
  match st.subjects.getRequest id with
  | none => (.error "Not found.", st)
  | some request =>
    if request.status ≠ .pending ∧ request.status ≠ .approved then
      (.error "Only pending or approved leave requests can be withdrawn.", st)
    else
      let st := { st with
        subjects := st.subjects.updateRequest id (fun r => { r with status := .withdrawn }) }
      -- the decided approval of an approved request keeps its decision
      match cancelRequestApproval m now id st with
      | .error message => (.error message, st)
      | .ok st =>
        refreshToday m request.employee request.leaveType
          { st with subjects := st.subjects.syncRequest m request .withdrawn }

/-! ## The leave module as a system -/

/-- **The requests about leave**, and the passing of days. -/
inductive Op
  | createLeaveRequest (submission : Submission) (employee : EmployeeId)
      (leaveType : LeaveTypeId) (span : LeaveSpan) (reason : String)
  | withdrawLeaveRequest (now : Time) (request : LeaveRequestId)
  | approveAction (user : EmployeeId → UserId) (dir : Directory) (action : ActionId)
      (actor : UserId) (comment : String)
  | rejectAction (dir : Directory) (action : ActionId) (actor : UserId) (comment : String)
  | processPendingActionEscalations (user : EmployeeId → UserId) (dir : Directory)
  | getOrCreateLeaveBalance (employee : EmployeeId) (leaveType : LeaveTypeId) (asOf : Date)
  | dateChanges (date : Date)

/-- **One step**, in the state it ends in. -/
def step (m : Masters) (st : State) : Op → State
  | .createLeaveRequest submission employee leaveType span reason =>
    (createLeaveRequest m submission employee leaveType span reason st).2
  | .withdrawLeaveRequest now request => (withdrawLeaveRequest m now request st).2
  | .approveAction user dir action actor comment =>
    settle st (approveAction (leaveHandler m) user dir action actor comment st)
  | .rejectAction dir action actor comment =>
    settle st (rejectAction (leaveHandler m) dir action actor comment st)
  | .processPendingActionEscalations user dir =>
    { st with db := processPendingActionEscalations user dir st.db }
  | .getOrCreateLeaveBalance employee leaveType asOf =>
    settle st do
      let (_, t) ← getOrCreateLeaveBalance m employee leaveType asOf st.subjects
      return { st with subjects := t }
  | .dateChanges date =>
    { st with subjects := { st.subjects with today := max st.subjects.today date } }

end TimeOff
