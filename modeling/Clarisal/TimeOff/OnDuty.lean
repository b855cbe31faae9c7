import Clarisal.Attendance.DaySummary
import Clarisal.TimeOff.Requests

/-!
# On-duty requests

Creating an on-duty request checks its dates and times, inserts it and then asks for approval.
As with leave, the row is committed before the approval is asked for. Its units are those of
one day, or of half a day, however many days it is for.
-/

open Calendar

namespace TimeOff

open Approvals
open Attendance (OnDutyDurationType RequestStatus TimeOfDay)

abbrev OnDutyPolicyId := ℕ
abbrev OnDutyRequestId := ℕ

/-- What an on-duty request asks for. -/
structure OnDutyForm where
  policy : OnDutyPolicyId
  startDate : Date
  endDate : Date
  durationType : OnDutyDurationType
  startTime : Option TimeOfDay
  endTime : Option TimeOfDay
  purpose : String
  destination : String

structure OnDutyRequest extends OnDutyForm where
  id : OnDutyRequestId
  employee : EmployeeId
  totalUnits : ℚ
  status : RequestStatus

structure OnDutyTables where
  requests : List OnDutyRequest
  nextRequest : OnDutyRequestId

/-- The times of a request: two of a range, and none of anything else. -/
def checkTimes (durationType : OnDutyDurationType) (startTime endTime : Option TimeOfDay) :
    Except String Unit :=
  if durationType = .timeRange then
    match startTime, endTime with
    | some startTime, some endTime =>
      if endTime.micros ≤ startTime.micros then
        .error "Start time must be earlier than end time for time-range on-duty requests."
      else .ok ()
    | _, _ => .error "Start and end time are required for time-range on-duty requests."
  else if startTime.isSome ∨ endTime.isSome then
    .error "Start and end time can only be provided for time-range on-duty requests."
  else .ok ()

/-- The dates and times of a request. -/
def OnDutyForm.check (form : OnDutyForm) : Except String Unit :=
  if form.endDate < form.startDate then .error "End date cannot be before start date."
  else checkTimes form.durationType form.startTime form.endTime

def OnDutyForm.totalUnits (form : OnDutyForm) : ℚ :=
  if form.durationType = .firstHalf ∨ form.durationType = .secondHalf then 1 / 2 else 1

/-- A request is inserted. -/
def OnDutyTables.insertRequest (t : OnDutyTables) (employee : EmployeeId) (form : OnDutyForm) :
    OnDutyTables where
  requests := t.requests ++ [
    { form with
      id := t.nextRequest, employee := employee, totalUnits := form.totalUnits,
      status := .pending }]
  nextRequest := t.nextRequest + 1

/-- The subject of an on-duty request's approval. -/
def onDutySubject (id : OnDutyRequestId) : ContentObject :=
  { contentType := .onDutyRequest, objectId := id }

/-- The approval of a request, in a transaction of its own. -/
def requestOnDutyApproval (submission : Submission) (employee : Employee) (id : OnDutyRequestId)
    (st : EngineState OnDutyTables) : Except String (EngineState OnDutyTables) :=
  match submission.workflow with
  | none => .error "No active default approval workflow is configured for on duty requests."
  | some workflow => do
    let (_, db) ← createApprovalRun submission.user submission.dir workflow .onDuty
      employee.organisation (some employee.id) (onDutySubject id) st.db
    return { st with db := db }

/-- **Create an on-duty request.** -/
def createOnDutyRequest (submission : Submission) (employee : Employee) (form : OnDutyForm)
    (st : EngineState OnDutyTables) : Except String Unit × EngineState OnDutyTables :=
  match form.check with
  | .error message => (.error message, st)
  | .ok () =>
    let inserted := { st with subjects := st.subjects.insertRequest employee.id form }
    match requestOnDutyApproval submission employee st.subjects.nextRequest inserted with
    -- a request without an approval stays pending
    | .error message => (.error message, inserted)
    | .ok st => (.ok (), st)

end TimeOff
