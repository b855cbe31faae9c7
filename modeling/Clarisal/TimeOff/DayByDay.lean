import Clarisal.Payroll.AttendanceLoss

/-!
# Units, day by day

Time off charges a request by counting its days and taking halves off at the two ends.
Attendance looks at one date at a time and decides whether the request takes all of it, or
half. The two come to the same: what attendance takes of the dates of a request adds up to
its units (`units_day_by_day`), and so it does for every request ever created
(`totalUnits_reached`).
-/

open Calendar Date

namespace TimeOff

open Approvals

variable {r : LeaveRequest} {x y : Date}

/-- **A request over the dates of a range** that it lies in takes its units. -/
theorem sum_fractionOn (hdates : r.startDate ≤ r.endDate) (hx : x ≤ r.startDate)
    (hy : r.endDate ≤ y) : ((datesBetween x y).map r.fractionOn).sum = r.span.units := by
  have hrange : x.toordinal ≤ y.toordinal + 1 :=
    (Date.le_iff.mp (hx.trans (hdates.trans hy))).trans (Nat.le_succ _)
  rw [sum_datesBetween (fractionOn_eq_sub hdates) hrange,
    takenBefore_of_lt hdates (Nat.lt_succ_of_le (Date.le_iff.mp hy)),
    takenBefore_of_le (Date.le_iff.mp hx), sub_zero]

/-- What attendance takes of the dates of a range. -/
def attendedUnits (startDate endDate : Date) (startSession endSession : DaySession)
    (dates : List Date) : ℚ :=
  (dates.map (fun date => Attendance.requestDayFraction startDate endDate date
    startSession.forAttendance endSession.forAttendance)).sum

theorem attendedUnits_eq (r : LeaveRequest) (dates : List Date) :
    attendedUnits r.startDate r.endDate r.startSession r.endSession dates
      = (dates.map r.fractionOn).sum :=
  congrArg List.sum (List.map_congr_left (fun date _ => requestDayFraction_forAttendance r date))

/-- **Units agree day by day**: over the dates from the first to the last, attendance takes what
time off charges. Dates in the other order are no range, and are refused before anything is
charged. -/
theorem units_day_by_day (startDate endDate : Date) (startSession endSession : DaySession) :
    (startDate ≤ endDate →
      attendedUnits startDate endDate startSession endSession (datesBetween startDate endDate)
        = leaveRequestUnits startDate endDate startSession endSession)
    ∧ (endDate < startDate → ∀ (employee : EmployeeId) (t : LeaveTables),
      checkDates employee
          { startDate := startDate, endDate := endDate, startSession := startSession,
            endSession := endSession } t
        = .error "End date cannot be before start date.") := by
  refine ⟨fun hdates => ?_, fun horder employee t => if_pos horder⟩
  let request : LeaveRequest :=
    { id := 0, employee := 0, leaveType := 0, startDate := startDate, endDate := endDate,
      startSession := startSession, endSession := endSession, totalUnits := 0, reason := "",
      status := .pending, rejectionReason := "" }
  calc attendedUnits startDate endDate startSession endSession (datesBetween startDate endDate)
      = ((datesBetween startDate endDate).map request.fractionOn).sum :=
        attendedUnits_eq request _
    _ = leaveRequestUnits startDate endDate startSession endSession :=
        sum_fractionOn (r := request) hdates le_rfl le_rfl

/-! ## Every request ever created -/

/-- **The units of a request are those of its dates.** -/
def LeaveTables.Measured (t : LeaveTables) : Prop :=
  ∀ r ∈ t.requests, r.startDate ≤ r.endDate ∧ r.totalUnits = r.span.units

section

variable {m : Masters} {partially : Prop} {t t' : LeaveTables}

theorem LeaveTables.Measured.of_requests (h : t.Measured) (hrequests : t'.requests = t.requests) :
    t'.Measured := by
  unfold LeaveTables.Measured
  rwa [hrequests]

/-- A request that changes its status alone keeps its units. -/
theorem LeaveTables.Measured.ease (h : t.Measured) {f : LeaveRequest → LeaveRequest}
    (hrequests : t'.requests = t.requests.map f) (hf : ∀ r ∈ t.requests, SameCharge r (f r)) :
    t'.Measured := by
  intro r' hr'
  rw [hrequests] at hr'
  obtain ⟨r, hr, rfl⟩ := List.mem_map.mp hr'
  have hsame := hf r hr
  have hstart : (f r).startDate = r.startDate := congrArg LeaveSpan.startDate hsame.span
  have hend : (f r).endDate = r.endDate := congrArg LeaveSpan.endDate hsame.span
  rw [hstart, hend, hsame.totalUnits, hsame.span]
  exact h r hr

/-- **Every move keeps it.** -/
theorem LeaveTables.Measured.move (h : t.Measured) (hmove : Move m partially t t') :
    t'.Measured := by
  cases hmove with
  | recompute hok =>
    obtain ⟨row, -, -, -, hrow⟩ := getOrCreateLeaveBalance_eq_ok hok
    exact h.of_requests hrow.requests
  | @insert e l span reason hdates _ =>
    obtain ⟨redemptions, hframe⟩ := insertRequest_frame (m := m) e l span reason t
    rw [hframe]
    intro r hr
    rcases List.mem_append.mp hr with hr | hr
    · exact h r hr
    · rw [List.mem_singleton.mp hr]
      refine ⟨not_lt.mp (fun horder : span.endDate < span.startDate => ?_), rfl⟩
      unfold checkDates at hdates
      rw [if_pos horder] at hdates
      cases hdates
  | @decide _ subject decision reason hpending hok =>
    obtain ⟨t'', hok', hset⟩ := leaveHandler_eq_ok m subject decision reason t
    obtain rfl := Except.ok.inj (hok.symm.trans hok')
    obtain ⟨-, -, -, f, hrequests, hf⟩ := hset.eases (fun r hr hsubject =>
      Or.inl (Or.inl (hpending r hr (of_decide_eq_true hsubject))))
    exact h.ease hrequests (fun r hr => (hf r hr).1)
  | @withdraw request _ _ =>
    obtain ⟨redemptions, hframe⟩ := syncRequest_frame m
      (t.updateRequest request.id (fun r => { r with status := .withdrawn })) request .withdrawn
    rw [hframe]
    refine h.ease (f := fun r => if r.id = request.id then { r with status := .withdrawn } else r)
      (List.map_congr_left (fun r _ => by simp)) (fun r _ => ?_)
    split
    · exact ⟨rfl, rfl, rfl, rfl, rfl⟩
    · exact ⟨rfl, rfl, rfl, rfl, rfl⟩
  | laterDay _ => exact h

end

/-- **The units of every request** in every state reached are what attendance takes of its
dates. -/
theorem totalUnits_reached (m : Masters) (stages : StageTable) (tables : LeaveTables)
    (htables : tables.requests = []) (ops : List Op) :
    ∀ r ∈ (reached m stages tables ops).subjects.requests,
      attendedUnits r.startDate r.endDate r.startSession r.endSession
          (datesBetween r.startDate r.endDate) = r.totalUnits := by
  have hmeasured : (reached m stages tables ops).subjects.Measured := by
    refine invariant_of_moves (fun _ op hst => step_moves hst op)
      (fun _ _ h hmove => LeaveTables.Measured.move h hmove) htables ?_ ops
    intro r hr
    rw [htables] at hr
    exact absurd hr List.not_mem_nil
  intro r hr
  obtain ⟨hdates, hunits⟩ := hmeasured r hr
  rw [attendedUnits_eq, sum_fractionOn hdates le_rfl le_rfl, hunits]

end TimeOff
