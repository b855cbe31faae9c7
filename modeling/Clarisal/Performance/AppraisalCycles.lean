import Clarisal.Approvals.Models
import Clarisal.Lib.Calendar
import Clarisal.Lib.Run
import Clarisal.Lib.Table
import Clarisal.Lib.Transaction
import Clarisal.Payroll.Models

/-!
# Appraisal cycles

Activating a cycle creates the reviews it needs: a self review of every active
employee and, where the review type has a manager phase, a review by the manager
of each who has one. The later phases check that the reviews there are have been
submitted, so they rest on the full set having been there from the start.

An employee who opens their self-assessment creates it when it is missing. In a
draft, that also makes the cycle active, with one review in it
(`activated_by_one_employee`); after the self-assessments are closed, it adds
one that nobody waits for. The cycles are complete in exactly the runs where no
self-assessment is opened so (`complete_iff_guarded`).
-/

open Calendar Transaction

namespace Performance

open Approvals (OrganisationId EmployeeId DepartmentId Time)
open Payroll (EmployeeStatus)

abbrev GoalCycleId := ℕ
abbrev AppraisalCycleId := ℕ
abbrev AppraisalReviewId := ℕ

inductive CycleStatus
  | draft | active | selfAssessment | peerReview | managerReview | calibration | completed | closed
deriving DecidableEq, Repr

def CycleStatus.value : CycleStatus → String
  | draft => "DRAFT"
  | active => "ACTIVE"
  | selfAssessment => "SELF_ASSESSMENT"
  | peerReview => "PEER_REVIEW"
  | managerReview => "MANAGER_REVIEW"
  | calibration => "CALIBRATION"
  | completed => "COMPLETED"
  | closed => "CLOSED"

inductive ReviewType
  | self | manager | review360
deriving DecidableEq, Repr

/-- `MANAGER_PHASE_REVIEW_TYPES`. -/
def ReviewType.HasManagerPhase (r : ReviewType) : Prop := r = .manager ∨ r = .review360

instance (r : ReviewType) : Decidable r.HasManagerPhase :=
  inferInstanceAs (Decidable (_ ∨ _))

inductive ReviewRelationship
  | self | manager | peer | skipLevel | directReport
deriving DecidableEq, Repr

inductive ReviewStatus
  | pending | inProgress | submitted | acknowledged
deriving DecidableEq, Repr

inductive FeedbackStatus
  | requested | submitted | declined
deriving DecidableEq, Repr

/-- An employee, as appraisals see one. -/
structure Employee where
  id : EmployeeId
  organisation : OrganisationId
  status : EmployeeStatus
  reportingTo : Option EmployeeId
  department : Option DepartmentId
deriving DecidableEq, Repr

structure GoalCycle where
  id : GoalCycleId
  organisation : OrganisationId
  name : String
  endDate : Date
  autoCreateReviewCycle : Bool
deriving DecidableEq, Repr

/-- What a cycle is created with. -/
structure AppraisalCycleFields where
  organisation : OrganisationId
  goalCycle : Option GoalCycleId
  name : String
  reviewType : ReviewType
  startDate : Date
  endDate : Date
  selfAssessmentDeadline : Option Date
  peerReviewDeadline : Option Date
  managerReviewDeadline : Option Date
  calibrationDeadline : Option Date
deriving DecidableEq, Repr

structure AppraisalCycle extends AppraisalCycleFields where
  id : AppraisalCycleId
  status : CycleStatus
deriving DecidableEq, Repr

/-- What a review is unique by. -/
structure ReviewKey where
  cycle : AppraisalCycleId
  employee : EmployeeId
  reviewer : EmployeeId
  relationship : ReviewRelationship
deriving DecidableEq, Repr

structure AppraisalReview where
  id : AppraisalReviewId
  key : ReviewKey
  status : ReviewStatus
deriving DecidableEq, Repr

structure FeedbackRequest where
  cycle : AppraisalCycleId
  employee : EmployeeId
  requestedFrom : EmployeeId
  status : FeedbackStatus
  dueDate : Option Date
deriving DecidableEq, Repr

/-- A cycle has one session at most. -/
structure CalibrationSession where
  cycle : AppraisalCycleId
  lockedAt : Option Time
deriving DecidableEq, Repr

structure PerformanceTables where
  employees : List Employee
  goalCycles : List GoalCycle
  cycles : List AppraisalCycle
  reviews : List AppraisalReview
  feedbackRequests : List FeedbackRequest
  sessions : List CalibrationSession
  nextId : ℕ
deriving DecidableEq, Repr

namespace PerformanceTables

def getEmployee (t : PerformanceTables) (id : EmployeeId) : Option Employee :=
  Table.find Employee.id id t.employees

def getCycle (t : PerformanceTables) (id : AppraisalCycleId) : Option AppraisalCycle :=
  Table.find AppraisalCycle.id id t.cycles

def getReview (t : PerformanceTables) (id : AppraisalReviewId) : Option AppraisalReview :=
  Table.find AppraisalReview.id id t.reviews

def getSession (t : PerformanceTables) (cycle : AppraisalCycleId) : Option CalibrationSession :=
  Table.find CalibrationSession.cycle cycle t.sessions

/-- `_active_employees_for_org`. -/
def activeEmployees (t : PerformanceTables) (organisation : OrganisationId) : List Employee :=
  t.employees.filter (fun e => e.organisation = organisation ∧ e.status = .active)

/-- `cycle.save(update_fields=['status', …])`. -/
def setCycleStatus (t : PerformanceTables) (cycle : AppraisalCycleId) (status : CycleStatus) :
    PerformanceTables :=
  { t with
    cycles := Table.update (fun c => c.id = cycle) (fun c => { c with status := status })
      t.cycles }

def setReviewStatus (t : PerformanceTables) (review : AppraisalReviewId) (status : ReviewStatus) :
    PerformanceTables :=
  { t with
    reviews := Table.update (fun r => r.id = review) (fun r => { r with status := status })
      t.reviews }

def HasReview (t : PerformanceTables) (key : ReviewKey) : Prop :=
  ∃ r ∈ t.reviews, r.key = key

instance (t : PerformanceTables) (key : ReviewKey) : Decidable (t.HasReview key) :=
  inferInstanceAs (Decidable (∃ r ∈ t.reviews, _))

end PerformanceTables

/-! ## Creating and activating -/

def createAppraisalCycle (fields : AppraisalCycleFields) (t : PerformanceTables) :
    PerformanceTables :=
  { t with
    cycles := t.cycles ++ [{ fields with id := t.nextId, status := .draft }]
    nextId := t.nextId + 1 }

/-- `AppraisalReview.objects.get_or_create`. -/
def getOrCreateReview (key : ReviewKey) (t : PerformanceTables) : PerformanceTables :=
  if t.HasReview key then t
  else { t with
    reviews := t.reviews ++ [{ id := t.nextId, key := key, status := .pending }]
    nextId := t.nextId + 1 }

/-- `FeedbackRequest.objects.get_or_create`. -/
def getOrCreateFeedbackRequest (cycle : AppraisalCycle) (employee : Employee) (reviewer : Employee)
    (t : PerformanceTables) : PerformanceTables :=
  if ∃ f ∈ t.feedbackRequests,
      f.cycle = cycle.id ∧ f.employee = employee.id ∧ f.requestedFrom = reviewer.id then t
  else { t with
    feedbackRequests := t.feedbackRequests ++
      [{ cycle := cycle.id
         employee := employee.id
         requestedFrom := reviewer.id
         status := .requested
         dueDate := cycle.peerReviewDeadline }] }

def pickFeedbackReviewers (employee : Employee) (employees : List Employee) : List Employee :=
  let candidates := employees.filter (fun peer =>
    peer.id ≠ employee.id ∧ some peer.id ≠ employee.reportingTo)
  let sameDepartment := candidates.filter (fun peer =>
    employee.department.isSome ∧ peer.department = employee.department)
  let candidates := if sameDepartment = [] then candidates
    else sameDepartment ++ candidates.filter (fun peer => peer.department ≠ employee.department)
  candidates.take 2

def selfKey (cycle : AppraisalCycleId) (employee : EmployeeId) : ReviewKey where
  cycle := cycle
  employee := employee
  reviewer := employee
  relationship := .self

def managerKey (cycle : AppraisalCycleId) (employee manager : EmployeeId) : ReviewKey where
  cycle := cycle
  employee := employee
  reviewer := manager
  relationship := .manager

/-- The rows one employee has in a cycle that is activated. -/
def openReviews (cycle : AppraisalCycle) (employees : List Employee) (employee : Employee)
    (t : PerformanceTables) : PerformanceTables :=
  let t := getOrCreateReview (selfKey cycle.id employee.id) t
  let t := if cycle.reviewType.HasManagerPhase then
      employee.reportingTo.elim t (fun manager =>
        getOrCreateReview (managerKey cycle.id employee.id manager) t)
    else t
  if cycle.reviewType = .review360 then
    (pickFeedbackReviewers employee employees).foldl
      (fun t reviewer => getOrCreateFeedbackRequest cycle employee reviewer t) t
  else t

def activateAppraisalCycle (cycle : AppraisalCycle) (t : PerformanceTables) :
    Except String PerformanceTables :=
  if cycle.status ≠ .draft then
    .error ("Cannot activate a cycle in status " ++ cycle.status.value ++ ".")
  else
    let employees := t.activeEmployees cycle.organisation
    .ok ((employees.foldl (fun t employee => openReviews cycle employees employee t)
      t).setCycleStatus cycle.id .active)

/-! ## The phases -/

def ensureReviewsSubmitted (cycle : AppraisalCycle) (relationship : ReviewRelationship)
    (errorMessage : String) (t : PerformanceTables) : Except String Unit :=
  if ∃ r ∈ t.reviews, r.key.cycle = cycle.id ∧ r.key.relationship = relationship
      ∧ r.status ≠ .submitted then
    .error errorMessage
  else .ok ()

def ensureFeedbackSubmitted (cycle : AppraisalCycle) (t : PerformanceTables) :
    Except String Unit :=
  if ∃ f ∈ t.feedbackRequests, f.cycle = cycle.id ∧ f.status ≠ .submitted then
    .error "All requested 360 feedback must be submitted before advancing."
  else .ok ()

/-- The status a cycle advances to. -/
def nextStatus (cycle : AppraisalCycle) (t : PerformanceTables) : Except String CycleStatus :=
  match cycle.status with
  | .active => .ok .selfAssessment
  | .selfAssessment => do
    ensureReviewsSubmitted cycle .self
      "All self-assessments must be submitted before advancing." t
    return match cycle.reviewType with
      | .review360 => .peerReview
      | .manager => .managerReview
      | .self => .completed
  | .peerReview => do
    ensureFeedbackSubmitted cycle t
    return .managerReview
  | .managerReview =>
    if cycle.reviewType.HasManagerPhase then do
      ensureReviewsSubmitted cycle .manager
        "All manager reviews must be submitted before advancing." t
      return .calibration
    else .ok .calibration
  | status => .error ("Cannot advance a cycle in status " ++ status.value ++ ".")

def advanceAppraisalCyclePhase (cycle : AppraisalCycle) (t : PerformanceTables) :
    Except String PerformanceTables := do
  let status ← nextStatus cycle t
  return t.setCycleStatus cycle.id status

def submitAppraisalReview (review : AppraisalReview) (t : PerformanceTables) :
    Except String PerformanceTables :=
  if review.status = .submitted then .error "Submitted reviews cannot be edited."
  else .ok (t.setReviewStatus review.id .submitted)

/-- **Open a self-assessment**, which in a draft makes the cycle active. -/
def getOrCreateSelfAssessment (cycle : AppraisalCycle) (employee : Employee)
    (t : PerformanceTables) : PerformanceTables :=
  let key := selfKey cycle.id employee.id
  if ¬ t.HasReview key ∧ cycle.status = .draft then
    (getOrCreateReview key t).setCycleStatus cycle.id .active
  else getOrCreateReview key t

/-! ## The scheduled task -/

/-- The review cycle of a goal cycle; a deadline past the end of the calendar is
an error. -/
def reviewCycleFields (g : GoalCycle) : Option AppraisalCycleFields := do
  let startDate ← g.endDate.addDays 1
  let selfAssessmentDeadline ← g.endDate.addDays 7
  let peerReviewDeadline ← g.endDate.addDays 14
  let managerReviewDeadline ← g.endDate.addDays 21
  let calibrationDeadline ← g.endDate.addDays 28
  return {
    organisation := g.organisation
    goalCycle := some g.id
    name := "Review - " ++ g.name
    reviewType := .review360
    startDate := startDate
    endDate := calibrationDeadline
    selfAssessmentDeadline := selfAssessmentDeadline
    peerReviewDeadline := peerReviewDeadline
    managerReviewDeadline := managerReviewDeadline
    calibrationDeadline := calibrationDeadline }

def triggerReviewFromGoalCycle (g : GoalCycle) (t : PerformanceTables) :
    Except String PerformanceTables :=
  if g.autoCreateReviewCycle = false then .ok t
  else if ∃ c ∈ t.cycles, c.goalCycle = some g.id then .ok t
  else match reviewCycleFields g with
    | none => .error "date value out of range"
    | some fields => .ok (createAppraisalCycle fields t)

/-- The review cycles of the goal cycles that are due; an error ends the task, and
what it created stays. -/
def triggerDueReviews : List GoalCycle → PerformanceTables →
    Except PerformanceTables PerformanceTables
  | [], t => .ok t
  | g :: gs, t =>
    match triggerReviewFromGoalCycle g t with
    | .error _ => .error t
    | .ok t' => triggerDueReviews gs t'

/-- `deadline_map`. -/
def AppraisalCycle.deadline (c : AppraisalCycle) : Option Date :=
  match c.status with
  | .active => c.selfAssessmentDeadline
  | .selfAssessment => c.peerReviewDeadline
  | .peerReview => c.managerReviewDeadline
  | .managerReview => c.calibrationDeadline
  | _ => none

/-- Advance a cycle whose deadline has come, when its phase lets it. -/
def advanceWhenDue (today : Date) (t : PerformanceTables) (cycle : AppraisalCycle) :
    PerformanceTables :=
  if cycle.deadline.any (fun deadline => deadline ≤ today) then
    settle t (advanceAppraisalCyclePhase cycle t)
  else t

def autoAdvanceReviewCycles (today : Date) (t : PerformanceTables) : PerformanceTables :=
  let due := t.goalCycles.filter (fun g => g.autoCreateReviewCycle ∧ g.endDate ≤ today)
  match triggerDueReviews due t with
  | .error t' => t'
  | .ok t' =>
    (t'.cycles.filter (fun c => c.status ∉
        [CycleStatus.draft, .calibration, .completed, .closed])).foldl (advanceWhenDue today) t'

/-! ## Calibration -/

def createCalibrationSession (cycle : AppraisalCycle) (t : PerformanceTables) :
    Except String PerformanceTables :=
  if cycle.status ≠ .calibration then
    .error "Calibration can only start once the cycle reaches the calibration phase."
  else if (t.getSession cycle.id).isSome then .ok t
  else .ok { t with sessions := t.sessions ++ [{ cycle := cycle.id, lockedAt := none }] }

def lockCalibrationSession (session : CalibrationSession) (now : Time) (t : PerformanceTables) :
    Except String PerformanceTables :=
  if session.lockedAt ≠ none then .error "This calibration session is locked."
  else
    let t := { t with
      sessions := Table.save CalibrationSession.cycle { session with lockedAt := some now }
        t.sessions }
    .ok (t.setCycleStatus session.cycle .completed)

/-! ## Runs -/

/-- **The requests about appraisal cycles**, and the scheduled task. -/
inductive PerformanceOp
  | createAppraisalCycle (fields : AppraisalCycleFields)
  | activateAppraisalCycle (cycle : AppraisalCycleId)
  | getOrCreateSelfAssessment (cycle : AppraisalCycleId) (employee : EmployeeId)
  | submitAppraisalReview (review : AppraisalReviewId)
  | advanceAppraisalCyclePhase (cycle : AppraisalCycleId)
  | autoAdvanceReviewCycles (today : Date)
  | createCalibrationSession (cycle : AppraisalCycleId)
  | lockCalibrationSession (cycle : AppraisalCycleId) (now : Time)
deriving DecidableEq, Repr

/-- **One request**: a refused one changes nothing. An employee opens the
self-assessments of their own organisation. -/
def performanceStep (t : PerformanceTables) : PerformanceOp → PerformanceTables
  | .createAppraisalCycle fields => Performance.createAppraisalCycle fields t
  | .activateAppraisalCycle cycle =>
    (t.getCycle cycle).elim t (fun c => settle t (Performance.activateAppraisalCycle c t))
  | .getOrCreateSelfAssessment cycle employee =>
    (t.getEmployee employee).elim t (fun e => (t.getCycle cycle).elim t (fun c =>
      if c.organisation = e.organisation then Performance.getOrCreateSelfAssessment c e t else t))
  | .submitAppraisalReview review =>
    (t.getReview review).elim t (fun r => settle t (Performance.submitAppraisalReview r t))
  | .advanceAppraisalCyclePhase cycle =>
    (t.getCycle cycle).elim t (fun c => settle t (Performance.advanceAppraisalCyclePhase c t))
  | .autoAdvanceReviewCycles today => Performance.autoAdvanceReviewCycles today t
  | .createCalibrationSession cycle =>
    (t.getCycle cycle).elim t (fun c => settle t (Performance.createCalibrationSession c t))
  | .lockCalibrationSession cycle now =>
    (t.getSession cycle).elim t (fun s => settle t (Performance.lockCalibrationSession s now t))

/-- Tables before the first cycle. -/
def PerformanceTables.initial (employees : List Employee) (goalCycles : List GoalCycle) :
    PerformanceTables where
  employees := employees
  goalCycles := goalCycles
  cycles := []
  reviews := []
  feedbackRequests := []
  sessions := []
  nextId := 0

/-! ## Complete cycles -/

def CycleStatus.PastSelfAssessment (s : CycleStatus) : Prop :=
  s = .peerReview ∨ s = .managerReview ∨ s = .calibration ∨ s = .completed ∨ s = .closed

instance (s : CycleStatus) : Decidable s.PastSelfAssessment :=
  inferInstanceAs (Decidable (_ ∨ _))

/-- **A cycle has the reviews of its phase.** -/
structure CompleteFor (t : PerformanceTables) (c : AppraisalCycle) : Prop where
  self : c.status ≠ .draft → ∀ e ∈ t.activeEmployees c.organisation,
    t.HasReview (selfKey c.id e.id)
  manager : c.status ≠ .draft → c.reviewType.HasManagerPhase →
    ∀ e ∈ t.activeEmployees c.organisation, ∀ m, e.reportingTo = some m →
      t.HasReview (managerKey c.id e.id m)
  submitted : c.status.PastSelfAssessment → ∀ r ∈ t.reviews,
    r.key.cycle = c.id → r.key.relationship = .self → r.status = .submitted

/-- **Every cycle is complete.** -/
def Complete (t : PerformanceTables) : Prop := ∀ c ∈ t.cycles, CompleteFor t c

/-- A self-assessment that is there already, or that leaves its cycle complete: in a
draft, it is that of the only active employee, whom nobody manages; and the
self-assessments are not closed. -/
def OpensSafely (t : PerformanceTables) (c : AppraisalCycle) (e : Employee) : Prop :=
  t.HasReview (selfKey c.id e.id) ∨
    (c.status = .draft → ∀ e' ∈ t.activeEmployees c.organisation,
      e'.id = e.id ∧ (c.reviewType.HasManagerPhase → e'.reportingTo = none))
    ∧ ¬ c.status.PastSelfAssessment

/-- **The guard of a request**: only opening a self-assessment has one. -/
def Guarded (t : PerformanceTables) : PerformanceOp → Prop
  | .getOrCreateSelfAssessment cycle employee =>
    ∀ e, t.getEmployee employee = some e → ∀ c, t.getCycle cycle = some c →
      c.organisation = e.organisation → OpensSafely t c e
  | _ => True

/-! ## Opening reviews -/

section

variable {t t' t'' : PerformanceTables} {c : AppraisalCycle} {id : AppraisalCycleId}
  {key : ReviewKey} {s : CycleStatus}

/-- **What opening reviews of a cycle does**: it adds reviews of this cycle. -/
structure OpensReviews (cycle : AppraisalCycleId) (t t' : PerformanceTables) : Prop where
  employees : t'.employees = t.employees
  cycles : t'.cycles = t.cycles
  sessions : t'.sessions = t.sessions
  nextId : t.nextId ≤ t'.nextId
  reviews : ∃ new, t'.reviews = t.reviews ++ new ∧ ∀ r ∈ new, r.key.cycle = cycle

theorem OpensReviews.refl (t : PerformanceTables) : OpensReviews id t t :=
  ⟨rfl, rfl, rfl, le_rfl, [], (List.append_nil _).symm, fun _ h => absurd h List.not_mem_nil⟩

theorem OpensReviews.trans (h : OpensReviews id t t') (h' : OpensReviews id t' t'') :
    OpensReviews id t t'' := by
  obtain ⟨new, hnew, hcycle⟩ := h.reviews
  obtain ⟨new', hnew', hcycle'⟩ := h'.reviews
  refine ⟨h'.employees.trans h.employees, h'.cycles.trans h.cycles, h'.sessions.trans h.sessions,
    h.nextId.trans h'.nextId, new ++ new', ?_, fun r hr => ?_⟩
  · rw [hnew', hnew, List.append_assoc]
  · rcases List.mem_append.mp hr with hr | hr
    · exact hcycle r hr
    · exact hcycle' r hr

theorem OpensReviews.mem (h : OpensReviews id t t') {r : AppraisalReview} (hr : r ∈ t.reviews) :
    r ∈ t'.reviews := by
  obtain ⟨new, hnew, -⟩ := h.reviews
  exact hnew ▸ List.mem_append_left new hr

theorem OpensReviews.hasReview (h : OpensReviews id t t') (hkey : t.HasReview key) :
    t'.HasReview key := by
  obtain ⟨r, hr, hrkey⟩ := hkey
  exact ⟨r, h.mem hr, hrkey⟩

/-- The reviews of another cycle are those from before. -/
theorem OpensReviews.mem_of_ne (h : OpensReviews id t t') {r : AppraisalReview}
    (hr : r ∈ t'.reviews) (hne : r.key.cycle ≠ id) : r ∈ t.reviews := by
  obtain ⟨new, hnew, hcycle⟩ := h.reviews
  rcases List.mem_append.mp (hnew ▸ hr) with hr | hr
  · exact hr
  · exact absurd (hcycle r hr) hne

theorem OpensReviews.activeEmployees (h : OpensReviews id t t') (organisation : OrganisationId) :
    t'.activeEmployees organisation = t.activeEmployees organisation := by
  show t'.employees.filter _ = t.employees.filter _
  rw [h.employees]

theorem opensReviews_getOrCreateReview (hkey : key.cycle = id) :
    OpensReviews id t (getOrCreateReview key t) := by
  unfold getOrCreateReview
  split
  · exact .refl t
  · refine ⟨rfl, rfl, rfl, Nat.le_succ _, _, rfl, fun r hr => ?_⟩
    rw [List.mem_singleton.mp hr]
    exact hkey

theorem hasReview_getOrCreateReview : (getOrCreateReview key t).HasReview key := by
  unfold getOrCreateReview
  split
  · next h => exact h
  · exact ⟨_, List.mem_append_right _ (List.mem_singleton_self _), rfl⟩

theorem opensReviews_getOrCreateFeedbackRequest (employee reviewer : Employee) :
    OpensReviews id t (getOrCreateFeedbackRequest c employee reviewer t) := by
  unfold getOrCreateFeedbackRequest
  split
  · exact .refl t
  · exact ⟨rfl, rfl, rfl, le_rfl, [], (List.append_nil _).symm,
      fun _ h => absurd h List.not_mem_nil⟩

/-- A loop of openings. -/
theorem opensReviews_foldl {ι : Type} {f : PerformanceTables → ι → PerformanceTables}
    (hstep : ∀ t i, OpensReviews id t (f t i)) (is : List ι) (t : PerformanceTables) :
    OpensReviews id t (is.foldl f t) := by
  induction is generalizing t with
  | nil => exact .refl t
  | cons i is ih => exact (hstep t i).trans (ih (f t i))

/-- **The rows of one employee**: a self review, and one by the manager where the
review type has a manager phase. -/
theorem openReviews_spec (c : AppraisalCycle) (employees : List Employee) (e : Employee)
    (t : PerformanceTables) :
    OpensReviews c.id t (openReviews c employees e t)
      ∧ (openReviews c employees e t).HasReview (selfKey c.id e.id)
      ∧ (c.reviewType.HasManagerPhase → ∀ m, e.reportingTo = some m →
        (openReviews c employees e t).HasReview (managerKey c.id e.id m)) := by
  obtain ⟨t₁, ht₁⟩ : ∃ t₁, getOrCreateReview (selfKey c.id e.id) t = t₁ := ⟨_, rfl⟩
  obtain ⟨t₂, ht₂⟩ : ∃ t₂, (if c.reviewType.HasManagerPhase then
      e.reportingTo.elim t₁ (fun m => getOrCreateReview (managerKey c.id e.id m) t₁)
    else t₁) = t₂ := ⟨_, rfl⟩
  have hself : OpensReviews c.id t t₁ := ht₁ ▸ opensReviews_getOrCreateReview rfl
  have hmanager : OpensReviews c.id t₁ t₂ := by
    rw [← ht₂]
    split
    · cases e.reportingTo with
      | none => exact .refl t₁
      | some m => exact opensReviews_getOrCreateReview rfl
    · exact .refl t₁
  have hfeedback : OpensReviews c.id t₂ (openReviews c employees e t) := by
    unfold openReviews
    rw [ht₁]
    dsimp only
    rw [ht₂]
    split
    · exact opensReviews_foldl
        (fun t reviewer => opensReviews_getOrCreateFeedbackRequest e reviewer) _ t₂
    · exact .refl t₂
  refine ⟨hself.trans (hmanager.trans hfeedback), ?_, fun hphase m hm => ?_⟩
  · have hhas : t₁.HasReview (selfKey c.id e.id) := ht₁ ▸ hasReview_getOrCreateReview
    exact (hmanager.trans hfeedback).hasReview hhas
  · have hhas : t₂.HasReview (managerKey c.id e.id m) := by
      rw [← ht₂, if_pos hphase, hm]
      exact hasReview_getOrCreateReview
    exact hfeedback.hasReview hhas

/-- The rows of all employees of a list. -/
theorem openReviews_foldl_spec (c : AppraisalCycle) (all employees : List Employee)
    (t : PerformanceTables) :
    OpensReviews c.id t (employees.foldl (fun t e => openReviews c all e t) t)
      ∧ ∀ e ∈ employees,
        (employees.foldl (fun t e => openReviews c all e t) t).HasReview (selfKey c.id e.id)
        ∧ (c.reviewType.HasManagerPhase → ∀ m, e.reportingTo = some m →
          (employees.foldl (fun t e => openReviews c all e t) t).HasReview
            (managerKey c.id e.id m)) := by
  induction employees generalizing t with
  | nil => exact ⟨.refl t, fun _ h => absurd h List.not_mem_nil⟩
  | cons e employees ih =>
    obtain ⟨hopens, hself, hmanager⟩ := openReviews_spec c all e t
    obtain ⟨hrest, hothers⟩ := ih (openReviews c all e t)
    refine ⟨hopens.trans hrest, fun e' he' => ?_⟩
    rcases List.mem_cons.mp he' with rfl | he'
    · exact ⟨hrest.hasReview hself, fun hphase m hm => hrest.hasReview (hmanager hphase m hm)⟩
    · exact hothers e' he'

/-! ## The invariant -/

def CycleStatus.Calibrated (s : CycleStatus) : Prop := s = .calibration ∨ s = .completed

instance (s : CycleStatus) : Decidable s.Calibrated :=
  inferInstanceAs (Decidable (_ ∨ _))

theorem not_past_draft : ¬ CycleStatus.PastSelfAssessment .draft := by decide

theorem not_past_active : ¬ CycleStatus.PastSelfAssessment .active := by decide

/-- **What every request keeps.** -/
structure PerformanceInv (t : PerformanceTables) : Prop where
  unique : Table.Unique AppraisalCycle.id t.cycles
  fresh : ∀ c ∈ t.cycles, c.id < t.nextId
  /-- A review is one of a cycle that is no draft. -/
  opened : ∀ r ∈ t.reviews, ∃ c ∈ t.cycles, c.id = r.key.cycle ∧ c.status ≠ .draft
  /-- A session is one of a cycle that has come to its calibration. -/
  calibrated : ∀ x ∈ t.sessions, ∃ c ∈ t.cycles, c.id = x.cycle ∧ c.status.Calibrated

/-- A row of the cycles after a status is written. -/
theorem mem_setCycleStatus {c' : AppraisalCycle} :
    c' ∈ (t.setCycleStatus id s).cycles
      ↔ (∃ c ∈ t.cycles, c.id = id ∧ { c with status := s } = c') ∨ c' ∈ t.cycles ∧ c'.id ≠ id := by
  simp [PerformanceTables.setCycleStatus, Table.mem_update_iff]

/-- Writing the status a cycle has changes nothing. -/
theorem PerformanceInv.setCycleStatus_self (h : PerformanceInv t) (hc : c ∈ t.cycles) :
    t.setCycleStatus c.id c.status = t := by
  have hsame : (t.setCycleStatus c.id c.status).cycles = t.cycles := by
    refine Table.update_eq_self (fun c' hc' hid => ?_)
    obtain rfl := h.unique.eq_of_key hc' hc (of_decide_eq_true hid)
    rfl
  show { t with cycles := (t.setCycleStatus c.id c.status).cycles } = t
  rw [hsame]

/-- **Open reviews of a cycle and write its status**: no draft any more. -/
theorem PerformanceInv.write (h : PerformanceInv t) (hopens : OpensReviews c.id t t')
    (hc : c ∈ t.cycles) (hdraft : s ≠ .draft) (hcalibrated : c.status.Calibrated → s.Calibrated) :
    PerformanceInv (t'.setCycleStatus c.id s) := by
  have hcycles : t'.cycles = t.cycles := hopens.cycles
  have hwritten : { c with status := s } ∈ (t'.setCycleStatus c.id s).cycles :=
    mem_setCycleStatus.mpr (Or.inl ⟨c, hcycles ▸ hc, rfl, rfl⟩)
  -- a cycle with a property keeps it, or has the written status
  have hkept : ∀ {P : CycleStatus → Prop}, (P c.status → P s) → ∀ {id : AppraisalCycleId},
      (∃ c' ∈ t.cycles, c'.id = id ∧ P c'.status) →
      ∃ c' ∈ (t'.setCycleStatus c.id s).cycles, c'.id = id ∧ P c'.status := by
    rintro P hP id ⟨c', hc', hid, hstatus⟩
    by_cases hsame : c'.id = c.id
    · obtain rfl := h.unique.eq_of_key hc' hc hsame
      exact ⟨_, hwritten, hid, hP hstatus⟩
    · exact ⟨c', mem_setCycleStatus.mpr (Or.inr ⟨hcycles ▸ hc', hsame⟩), hid, hstatus⟩
  refine ⟨?_, fun c' hc' => ?_, fun r hr => ?_, fun x hx => ?_⟩
  · show Table.Unique AppraisalCycle.id (Table.update _ _ t'.cycles)
    rw [hcycles]
    exact h.unique.update (fun _ => rfl)
  · rcases mem_setCycleStatus.mp hc' with ⟨c'', hc'', -, rfl⟩ | ⟨hc', -⟩
    · exact (h.fresh c'' (hcycles ▸ hc'')).trans_le hopens.nextId
    · exact (h.fresh c' (hcycles ▸ hc')).trans_le hopens.nextId
  · by_cases hid : r.key.cycle = c.id
    · exact ⟨_, hwritten, hid.symm, hdraft⟩
    · exact hkept (P := fun status => status ≠ .draft) (fun _ => hdraft)
        (h.opened r (hopens.mem_of_ne hr hid))
  · have hx' : x ∈ t.sessions := hopens.sessions ▸ hx
    exact hkept (P := CycleStatus.Calibrated) hcalibrated (h.calibrated x hx')

/-- What a cycle needs is in its own reviews. -/
theorem CompleteFor.of_opensReviews (h : CompleteFor t c) (hopens : OpensReviews id t t')
    (hne : c.id ≠ id) : CompleteFor t' c where
  self hstatus e he :=
    hopens.hasReview (h.self hstatus e (hopens.activeEmployees c.organisation ▸ he))
  manager hstatus hphase e he m hm := hopens.hasReview
    (h.manager hstatus hphase e (hopens.activeEmployees c.organisation ▸ he) m hm)
  submitted hpast r hr hcycle hself :=
    h.submitted hpast r (hopens.mem_of_ne hr (hcycle ▸ hne)) hcycle hself

/-- **The others stay complete**: the cycles are complete after a write exactly
when the written one is. -/
theorem complete_write_iff (hinv : PerformanceInv t) (h : Complete t)
    (hopens : OpensReviews c.id t t') (hc : c ∈ t.cycles) :
    Complete (t'.setCycleStatus c.id s) ↔ CompleteFor t' { c with status := s } := by
  have hcycles : t'.cycles = t.cycles := hopens.cycles
  have hstatus : ∀ c', CompleteFor (t'.setCycleStatus c.id s) c' ↔ CompleteFor t' c' :=
    fun c' => ⟨fun h => ⟨h.self, h.manager, h.submitted⟩, fun h => ⟨h.self, h.manager, h.submitted⟩⟩
  constructor
  · intro hall
    exact (hstatus _).mp
      (hall _ (mem_setCycleStatus.mpr (Or.inl ⟨c, hcycles ▸ hc, rfl, rfl⟩)))
  · intro hwritten c' hc'
    refine (hstatus c').mpr ?_
    rcases mem_setCycleStatus.mp hc' with ⟨c'', hc'', hid, rfl⟩ | ⟨hc', hne⟩
    · obtain rfl := hinv.unique.eq_of_key (hcycles ▸ hc'') hc hid
      exact hwritten
    · exact (h c' (hcycles ▸ hc')).of_opensReviews hopens hne

/-! ## What every request keeps -/

/-- **Both invariants**, from one state to another. -/
def Preserves (t t' : PerformanceTables) : Prop :=
  PerformanceInv t → PerformanceInv t' ∧ (Complete t → Complete t')

theorem Preserves.refl (t : PerformanceTables) : Preserves t t := fun h => ⟨h, id⟩

theorem Preserves.trans (h : Preserves t t') (h' : Preserves t' t'') : Preserves t t'' :=
  fun hinv => ⟨(h' (h hinv).1).1, fun hcomplete => (h' (h hinv).1).2 ((h hinv).2 hcomplete)⟩

/-- A new cycle is a draft. -/
theorem createAppraisalCycle_preserves (fields : AppraisalCycleFields) (t : PerformanceTables) :
    Preserves t (createAppraisalCycle fields t) := by
  intro hinv
  refine ⟨⟨?_, fun c hc => ?_, fun r hr => ?_, fun x hx => ?_⟩, fun hcomplete c hc => ?_⟩
  · exact hinv.unique.append_one (fun c hc => (hinv.fresh c hc).ne)
  · rcases List.mem_append.mp hc with hc | hc
    · exact Nat.lt_succ_of_lt (hinv.fresh c hc)
    · rw [List.mem_singleton.mp hc]
      exact Nat.lt_succ_self _
  · obtain ⟨c, hc, hkept⟩ := hinv.opened r hr
    exact ⟨c, List.mem_append_left _ hc, hkept⟩
  · obtain ⟨c, hc, hkept⟩ := hinv.calibrated x hx
    exact ⟨c, List.mem_append_left _ hc, hkept⟩
  · rcases List.mem_append.mp hc with hc | hc
    · exact ⟨(hcomplete c hc).self, (hcomplete c hc).manager, (hcomplete c hc).submitted⟩
    · rw [List.mem_singleton.mp hc]
      exact ⟨fun h => absurd rfl h, fun h => absurd rfl h, fun h => absurd h not_past_draft⟩

/-- **A cycle that is activated** has a review for everyone. -/
theorem activateAppraisalCycle_preserves (hc : c ∈ t.cycles)
    (hok : activateAppraisalCycle c t = .ok t') : Preserves t t' := by
  intro hinv
  unfold activateAppraisalCycle at hok
  split at hok
  · cases hok
  · next hdraft =>
    have hdraft : c.status = .draft := not_not.mp hdraft
    obtain ⟨hopens, hreviews⟩ := openReviews_foldl_spec c (t.activeEmployees c.organisation)
      (t.activeEmployees c.organisation) t
    obtain rfl := Except.ok.inj hok
    refine ⟨hinv.write hopens hc (by decide) (fun h => absurd h (by rw [hdraft]; decide)),
      fun hcomplete => (complete_write_iff hinv hcomplete hopens hc).mpr ⟨?_, ?_, ?_⟩⟩
    · intro _ e he
      rw [hopens.activeEmployees] at he
      exact (hreviews e he).1
    · intro _ hphase e he m hm
      rw [hopens.activeEmployees] at he
      exact (hreviews e he).2 hphase m hm
    · exact fun h => absurd h not_past_active

/-- **What a phase leads to**: a later one, past the self-assessments only when
they are submitted or were past. -/
theorem nextStatus_eq_ok (h : nextStatus c t = .ok s) :
    c.status ≠ .draft ∧ s ≠ .draft ∧ ¬ c.status.Calibrated
      ∧ (s.PastSelfAssessment → c.status.PastSelfAssessment
        ∨ ∀ r ∈ t.reviews, r.key.cycle = c.id → r.key.relationship = .self →
          r.status = .submitted) := by
  unfold nextStatus at h
  split at h
  · next hstatus =>
    obtain rfl := Except.ok.inj h
    rw [hstatus]
    exact ⟨by decide, by decide, by decide, fun h => absurd h (by decide)⟩
  · next hstatus =>
    obtain ⟨⟨⟩, hchecked, h⟩ := bind_eq_ok_iff.mp h
    have hsubmitted : ∀ r ∈ t.reviews, r.key.cycle = c.id → r.key.relationship = .self →
        r.status = .submitted := by
      unfold ensureReviewsSubmitted at hchecked
      split at hchecked
      · cases hchecked
      · next hnone =>
        intro r hr hcycle hself
        by_contra hstatus
        exact hnone ⟨r, hr, hcycle, hself, hstatus⟩
    have hdraft : s ≠ .draft := by
      rw [← pure_eq_ok_iff.mp h]
      cases c.reviewType <;> decide
    rw [hstatus]
    exact ⟨by decide, hdraft, by decide, fun _ => Or.inr hsubmitted⟩
  · next hstatus =>
    obtain ⟨-, -, h⟩ := bind_eq_ok_iff.mp h
    rw [← pure_eq_ok_iff.mp h, hstatus]
    exact ⟨by decide, by decide, by decide, fun _ => Or.inl (by decide)⟩
  · next hstatus =>
    have hs : s = .calibration := by
      split at h
      · obtain ⟨-, -, h⟩ := bind_eq_ok_iff.mp h
        exact (pure_eq_ok_iff.mp h).symm
      · exact (Except.ok.inj h).symm
    rw [hs, hstatus]
    exact ⟨by decide, by decide, by decide, fun _ => Or.inl (by decide)⟩
  · cases h

/-- **A cycle that advances** stays complete. -/
theorem advanceAppraisalCyclePhase_preserves (hc : c ∈ t.cycles)
    (hok : advanceAppraisalCyclePhase c t = .ok t') : Preserves t t' := by
  intro hinv
  obtain ⟨s, hs, hok⟩ := bind_eq_ok_iff.mp hok
  obtain rfl := pure_eq_ok_iff.mp hok
  obtain ⟨hopen, hdraft, hcalibrated, hpast⟩ := nextStatus_eq_ok hs
  refine ⟨hinv.write (.refl t) hc hdraft (fun h => absurd h hcalibrated), fun hcomplete =>
    (complete_write_iff hinv hcomplete (.refl t) hc).mpr ⟨fun _ => (hcomplete c hc).self hopen,
      fun _ => (hcomplete c hc).manager hopen, fun hpast' => ?_⟩⟩
  rcases hpast hpast' with hwas | hsubmitted
  · exact (hcomplete c hc).submitted hwas
  · exact hsubmitted

/-- A review that is submitted. -/
theorem submitAppraisalReview_preserves {r : AppraisalReview}
    (hok : submitAppraisalReview r t = .ok t') : Preserves t t' := by
  intro hinv
  unfold submitAppraisalReview at hok
  split at hok
  · cases hok
  · obtain rfl := Except.ok.inj hok
    have hold : ∀ r' ∈ (t.setReviewStatus r.id .submitted).reviews, ∃ r'' ∈ t.reviews,
        r''.key = r'.key ∧ (r''.status = .submitted → r'.status = .submitted) := by
      intro r' hr'
      rcases Table.mem_update_iff.mp hr' with ⟨r'', hr'', -, rfl⟩ | ⟨hr', -⟩
      · exact ⟨r'', hr'', rfl, fun _ => rfl⟩
      · exact ⟨r', hr', rfl, id⟩
    have hnew : ∀ key, t.HasReview key → (t.setReviewStatus r.id .submitted).HasReview key := by
      rintro key ⟨r', hr', hkey⟩
      by_cases hid : r'.id = r.id
      · exact ⟨_, Table.mem_update_iff.mpr (Or.inl ⟨r', hr', decide_eq_true hid, rfl⟩), hkey⟩
      · exact ⟨r', Table.mem_update_iff.mpr (Or.inr ⟨hr', decide_eq_false hid⟩), hkey⟩
    refine ⟨⟨hinv.unique, hinv.fresh, fun r' hr' => ?_, hinv.calibrated⟩, fun hcomplete c hc =>
      ⟨fun h e he => hnew _ ((hcomplete c hc).self h e he),
        fun h hphase e he m hm => hnew _ ((hcomplete c hc).manager h hphase e he m hm),
        fun h r' hr' hcycle hself => ?_⟩⟩
    · obtain ⟨r'', hr'', hkey, -⟩ := hold r' hr'
      exact hkey ▸ hinv.opened r'' hr''
    · obtain ⟨r'', hr'', hkey, hsubmitted⟩ := hold r' hr'
      rw [← hkey] at hcycle hself
      exact hsubmitted ((hcomplete c hc).submitted h r'' hr'' hcycle hself)

/-- A session is opened for a cycle in its calibration. -/
theorem createCalibrationSession_preserves (hc : c ∈ t.cycles)
    (hok : createCalibrationSession c t = .ok t') : Preserves t t' := by
  intro hinv
  unfold createCalibrationSession at hok
  split at hok
  · cases hok
  · next hstatus =>
    split at hok
    · obtain rfl := Except.ok.inj hok
      exact ⟨hinv, id⟩
    · obtain rfl := Except.ok.inj hok
      refine ⟨⟨hinv.unique, hinv.fresh, hinv.opened, fun x hx => ?_⟩, fun hcomplete c' hc' =>
        ⟨(hcomplete c' hc').self, (hcomplete c' hc').manager, (hcomplete c' hc').submitted⟩⟩
      rcases List.mem_append.mp hx with hx | hx
      · exact hinv.calibrated x hx
      · rw [List.mem_singleton.mp hx]
        exact ⟨c, hc, rfl, Or.inl (not_not.mp hstatus)⟩

/-- **A session that is locked** completes its cycle, which was past the
self-assessments. -/
theorem lockCalibrationSession_preserves {x : CalibrationSession} {now : Time}
    (hx : x ∈ t.sessions) (hok : lockCalibrationSession x now t = .ok t') : Preserves t t' := by
  intro hinv
  unfold lockCalibrationSession at hok
  split at hok
  · cases hok
  · obtain rfl := Except.ok.inj hok
    obtain ⟨t₁, ht₁⟩ : ∃ t₁, { t with
      sessions := Table.save CalibrationSession.cycle { x with lockedAt := some now }
        t.sessions } = t₁ := ⟨_, rfl⟩
    have hinv₁ : PerformanceInv t₁ := by
      subst ht₁
      refine ⟨hinv.unique, hinv.fresh, hinv.opened, fun x' hx' => ?_⟩
      rcases Table.mem_save hx' with rfl | ⟨hx', -⟩
      · exact hinv.calibrated x hx
      · exact hinv.calibrated x' hx'
    obtain ⟨c, hc, hid, hcalibrated⟩ := hinv.calibrated x hx
    have hc₁ : c ∈ t₁.cycles := ht₁ ▸ hc
    have hopen : c.status ≠ .draft := by
      rcases hcalibrated with h | h <;> rw [h] <;> decide
    have hpast : c.status.PastSelfAssessment := by
      rcases hcalibrated with h | h <;> rw [h] <;> decide
    show PerformanceInv (PerformanceTables.setCycleStatus _ x.cycle .completed)
      ∧ (_ → Complete (PerformanceTables.setCycleStatus _ x.cycle .completed))
    rw [ht₁, ← hid]
    refine ⟨hinv₁.write (.refl t₁) hc₁ (by decide) (fun _ => Or.inr rfl), fun hcomplete => ?_⟩
    have hcomplete₁ : Complete t₁ := by
      subst ht₁
      exact fun c' hc' =>
        ⟨(hcomplete c' hc').self, (hcomplete c' hc').manager, (hcomplete c' hc').submitted⟩
    exact (complete_write_iff hinv₁ hcomplete₁ (.refl t₁) hc₁).mpr
      ⟨fun _ => (hcomplete₁ c hc₁).self hopen, fun _ => (hcomplete₁ c hc₁).manager hopen,
        fun _ => (hcomplete₁ c hc₁).submitted hpast⟩

/-! ## The scheduled task -/

theorem triggerReviewFromGoalCycle_preserves {g : GoalCycle}
    (hok : triggerReviewFromGoalCycle g t = .ok t') : Preserves t t' := by
  unfold triggerReviewFromGoalCycle at hok
  split at hok
  · exact Except.ok.inj hok ▸ .refl t
  · split at hok
    · exact Except.ok.inj hok ▸ .refl t
    · split at hok
      · cases hok
      · exact Except.ok.inj hok ▸ createAppraisalCycle_preserves _ t

/-- The task creates cycles, to its end or until an error. -/
theorem triggerDueReviews_preserves (gs : List GoalCycle) (t : PerformanceTables) :
    (∀ t', triggerDueReviews gs t = .ok t' → Preserves t t')
      ∧ ∀ t', triggerDueReviews gs t = .error t' → Preserves t t' := by
  induction gs generalizing t with
  | nil => exact ⟨fun t' hok => Except.ok.inj hok ▸ .refl t, fun t' herror => by cases herror⟩
  | cons g gs ih =>
    simp only [triggerDueReviews]
    cases hok : triggerReviewFromGoalCycle g t with
    | error message =>
      exact ⟨fun t' hok => (by cases hok), fun t' herror => Except.error.inj herror ▸ .refl t⟩
    | ok t₁ =>
      have hfirst := triggerReviewFromGoalCycle_preserves hok
      exact ⟨fun t' hok => hfirst.trans ((ih t₁).1 t' hok),
        fun t' herror => hfirst.trans ((ih t₁).2 t' herror)⟩

/-- **The task advances cycles** one by one, and leaves the rows of the others. -/
theorem advanceWhenDue_foldl_preserves (today : Date) (cs : List AppraisalCycle)
    (hunique : Table.Unique AppraisalCycle.id cs) (t : PerformanceTables)
    (hcs : ∀ c ∈ cs, c ∈ t.cycles) : Preserves t (cs.foldl (advanceWhenDue today) t) := by
  induction cs generalizing t with
  | nil => exact .refl t
  | cons c cs ih =>
    obtain ⟨hnew, hrest⟩ := List.nodup_cons.mp hunique
    have hc : c ∈ t.cycles := hcs c List.mem_cons_self
    have hnext : Preserves t (advanceWhenDue today t c)
        ∧ ∀ c' ∈ cs, c' ∈ (advanceWhenDue today t c).cycles := by
      have hsame : Preserves t t ∧ ∀ c' ∈ cs, c' ∈ t.cycles :=
        ⟨.refl t, fun c' hc' => hcs c' (List.mem_cons_of_mem c hc')⟩
      unfold advanceWhenDue
      split
      · cases hok : advanceAppraisalCyclePhase c t with
        | error message => exact hsame
        | ok t' =>
          refine ⟨advanceAppraisalCyclePhase_preserves hc hok, fun c' hc' => ?_⟩
          obtain ⟨s, -, hok⟩ := bind_eq_ok_iff.mp hok
          have hne : c'.id ≠ c.id := fun hid => hnew (hid ▸ List.mem_map_of_mem hc')
          rw [settle_ok, ← pure_eq_ok_iff.mp hok]
          exact mem_setCycleStatus.mpr (Or.inr ⟨hsame.2 c' hc', hne⟩)
      · exact hsame
    exact hnext.1.trans (ih hrest _ hnext.2)

theorem autoAdvanceReviewCycles_preserves (today : Date) (t : PerformanceTables) :
    Preserves t (autoAdvanceReviewCycles today t) := by
  unfold autoAdvanceReviewCycles
  dsimp only
  cases hok : triggerDueReviews
      (t.goalCycles.filter (fun g => g.autoCreateReviewCycle ∧ g.endDate ≤ today)) t with
  | error t' => exact (triggerDueReviews_preserves _ t).2 t' hok
  | ok t' =>
    have hcreated : Preserves t t' := (triggerDueReviews_preserves _ t).1 t' hok
    intro hinv
    have hadvanced := advanceWhenDue_foldl_preserves today
      (t'.cycles.filter (fun c => c.status ∉
        [CycleStatus.draft, .calibration, .completed, .closed]))
      ((hcreated hinv).1.unique.filter _) t' (fun c hc => List.mem_of_mem_filter hc)
    exact (hcreated.trans hadvanced) hinv

/-! ## Opening a self-assessment -/

/-- A self-assessment that is missing is created, in a cycle that is no draft
afterwards. -/
theorem getOrCreateSelfAssessment_eq_write (hinv : PerformanceInv t) (hc : c ∈ t.cycles)
    (e : Employee) :
    getOrCreateSelfAssessment c e t
      = (getOrCreateReview (selfKey c.id e.id) t).setCycleStatus c.id
        (if c.status = .draft then .active else c.status) := by
  unfold getOrCreateSelfAssessment
  dsimp only
  by_cases hkey : t.HasReview (selfKey c.id e.id)
  · -- a draft has no reviews
    have hdraft : c.status ≠ .draft := by
      obtain ⟨r, hr, hrkey⟩ := hkey
      obtain ⟨c', hc', hid, hstatus⟩ := hinv.opened r hr
      rw [hrkey] at hid
      exact hinv.unique.eq_of_key hc' hc hid ▸ hstatus
    have hsame : getOrCreateReview (selfKey c.id e.id) t = t := if_pos hkey
    rw [if_neg (fun h => h.1 hkey), if_neg hdraft, hsame, hinv.setCycleStatus_self hc]
  · by_cases hdraft : c.status = .draft
    · rw [if_pos ⟨hkey, hdraft⟩, if_pos hdraft]
    · rw [if_neg (fun h => hdraft h.2), if_neg hdraft]
      have hopens : OpensReviews c.id t (getOrCreateReview (selfKey c.id e.id) t) :=
        opensReviews_getOrCreateReview rfl
      have hsame : (getOrCreateReview (selfKey c.id e.id) t).setCycleStatus c.id c.status
          = getOrCreateReview (selfKey c.id e.id) t := by
        have hcycles : ((getOrCreateReview (selfKey c.id e.id) t).setCycleStatus
            c.id c.status).cycles = (t.setCycleStatus c.id c.status).cycles := by
          show Table.update _ _ (getOrCreateReview (selfKey c.id e.id) t).cycles = _
          rw [hopens.cycles]
          rfl
        rw [hinv.setCycleStatus_self hc, ← hopens.cycles] at hcycles
        show { getOrCreateReview (selfKey c.id e.id) t with
          cycles := ((getOrCreateReview (selfKey c.id e.id) t).setCycleStatus
            c.id c.status).cycles } = _
        rw [hcycles]
      exact hsame.symm

/-- The reviews of a draft are only the one that was opened. -/
theorem hasReview_of_draft (hinv : PerformanceInv t) (hc : c ∈ t.cycles)
    (hdraft : c.status = .draft) (hcycle : key.cycle = c.id) : ¬ t.HasReview key := by
  rintro ⟨r, hr, hrkey⟩
  obtain ⟨c', hc', hid, hstatus⟩ := hinv.opened r hr
  rw [hrkey, hcycle] at hid
  exact hstatus (hinv.unique.eq_of_key hc' hc hid ▸ hdraft)

/-- A review there is after one was created is this one or an old one. -/
theorem hasReview_getOrCreateReview_iff {key' : ReviewKey} :
    (getOrCreateReview key t).HasReview key' ↔ key' = key ∨ t.HasReview key' := by
  constructor
  · rintro ⟨r, hr, hrkey⟩
    unfold getOrCreateReview at hr
    split at hr
    · exact Or.inr ⟨r, hr, hrkey⟩
    · rcases List.mem_append.mp hr with hr | hr
      · exact Or.inr ⟨r, hr, hrkey⟩
      · rw [List.mem_singleton.mp hr] at hrkey
        exact Or.inl hrkey.symm
  · rintro (rfl | hkey')
    · exact hasReview_getOrCreateReview
    · exact (opensReviews_getOrCreateReview rfl).hasReview hkey'

/-- **A self-assessment of a draft** activates it, and leaves it complete exactly when it is
the only review to open. -/
theorem completeFor_selfAssessment_of_draft (hinv : PerformanceInv t) (hc : c ∈ t.cycles)
    (e : Employee) (hdraft : c.status = .draft) :
    CompleteFor (getOrCreateReview (selfKey c.id e.id) t) { c with status := .active }
      ↔ ∀ e' ∈ t.activeEmployees c.organisation,
        e'.id = e.id ∧ (c.reviewType.HasManagerPhase → e'.reportingTo = none) := by
  have hopens : OpensReviews c.id t (getOrCreateReview (selfKey c.id e.id) t) :=
    opensReviews_getOrCreateReview rfl
  constructor
  · intro h e' he'
    have hactive : CycleStatus.active ≠ .draft := by decide
    rw [← hopens.activeEmployees] at he'
    constructor
    · rcases hasReview_getOrCreateReview_iff.mp (h.self hactive e' he') with hsame | hold
      · exact congrArg ReviewKey.employee hsame
      · exact absurd hold (hasReview_of_draft hinv hc hdraft rfl)
    · intro hphase
      cases hm : e'.reportingTo with
      | none => rfl
      | some m =>
        rcases hasReview_getOrCreateReview_iff.mp
          (h.manager hactive hphase e' he' m hm) with hsame | hold
        · exact absurd (congrArg ReviewKey.relationship hsame)
            (show ReviewRelationship.manager ≠ .self by decide)
        · exact absurd hold (hasReview_of_draft hinv hc hdraft rfl)
  · intro honly
    refine ⟨fun _ e' he' => ?_, fun _ hphase e' he' m hm => ?_,
      fun hpast => absurd hpast not_past_active⟩
    · rw [hopens.activeEmployees] at he'
      rw [(honly e' he').1]
      exact hasReview_getOrCreateReview
    · rw [hopens.activeEmployees] at he'
      rw [(honly e' he').2 hphase] at hm
      cases hm

/-- **A new self-assessment of an open cycle** leaves it complete exactly when its
self-assessments are not past. -/
theorem completeFor_selfAssessment_of_open (hcomplete : Complete t) (hc : c ∈ t.cycles)
    {e : Employee} (hkey : ¬ t.HasReview (selfKey c.id e.id)) :
    CompleteFor (getOrCreateReview (selfKey c.id e.id) t) c ↔ ¬ c.status.PastSelfAssessment := by
  have hopens : OpensReviews c.id t (getOrCreateReview (selfKey c.id e.id) t) :=
    opensReviews_getOrCreateReview rfl
  have hadded : ∀ r ∈ (getOrCreateReview (selfKey c.id e.id) t).reviews,
      r ∈ t.reviews ∨ r.status = .pending := by
    intro r hr
    unfold getOrCreateReview at hr
    rw [if_neg hkey] at hr
    rcases List.mem_append.mp hr with hr | hr
    · exact Or.inl hr
    · rw [List.mem_singleton.mp hr]
      exact Or.inr rfl
  constructor
  · intro h hpast
    obtain ⟨r, hr, hrkey⟩ : (getOrCreateReview (selfKey c.id e.id) t).HasReview
        (selfKey c.id e.id) := hasReview_getOrCreateReview
    have hsubmitted : r.status = .submitted :=
      h.submitted hpast r hr (by rw [hrkey]; rfl) (by rw [hrkey]; rfl)
    rcases hadded r hr with hr | hpending
    · exact hkey ⟨r, hr, hrkey⟩
    · rw [hpending] at hsubmitted
      cases hsubmitted
  · intro hpast
    refine ⟨fun h e' he' => ?_, fun h hphase e' he' m hm => ?_, fun h => absurd h hpast⟩
    · rw [hopens.activeEmployees] at he'
      exact hopens.hasReview ((hcomplete c hc).self h e' he')
    · rw [hopens.activeEmployees] at he'
      exact hopens.hasReview ((hcomplete c hc).manager h hphase e' he' m hm)

/-- **A self-assessment that is opened** leaves its cycle complete exactly when it
is opened safely. -/
theorem completeFor_selfAssessment_iff (hinv : PerformanceInv t) (hcomplete : Complete t)
    (hc : c ∈ t.cycles) (e : Employee) :
    CompleteFor (getOrCreateReview (selfKey c.id e.id) t)
        { c with status := if c.status = .draft then .active else c.status }
      ↔ OpensSafely t c e := by
  by_cases hkey : t.HasReview (selfKey c.id e.id)
  · have hdraft : c.status ≠ .draft :=
      fun hdraft => hasReview_of_draft hinv hc hdraft rfl hkey
    have hsame : getOrCreateReview (selfKey c.id e.id) t = t := if_pos hkey
    rw [if_neg hdraft, hsame]
    exact ⟨fun _ => Or.inl hkey, fun _ => hcomplete c hc⟩
  · have hiff : OpensSafely t c e ↔
        (c.status = .draft → ∀ e' ∈ t.activeEmployees c.organisation,
          e'.id = e.id ∧ (c.reviewType.HasManagerPhase → e'.reportingTo = none))
        ∧ ¬ c.status.PastSelfAssessment := or_iff_right hkey
    rw [hiff]
    by_cases hdraft : c.status = .draft
    · rw [if_pos hdraft, completeFor_selfAssessment_of_draft hinv hc e hdraft]
      exact ⟨fun honly => ⟨fun _ => honly, fun hpast => not_past_draft (hdraft ▸ hpast)⟩,
        fun h => h.1 hdraft⟩
    · rw [if_neg hdraft]
      exact (completeFor_selfAssessment_of_open hcomplete hc hkey).trans
        (and_iff_right (fun h => absurd h hdraft)).symm

/-- **Open a self-assessment**: the invariant stays, and the cycles are complete
afterwards exactly when it is opened safely. -/
theorem getOrCreateSelfAssessment_complete_iff (hinv : PerformanceInv t) (hc : c ∈ t.cycles)
    (e : Employee) :
    PerformanceInv (getOrCreateSelfAssessment c e t)
      ∧ (Complete t → (Complete (getOrCreateSelfAssessment c e t) ↔ OpensSafely t c e)) := by
  have hopens : OpensReviews c.id t (getOrCreateReview (selfKey c.id e.id) t) :=
    opensReviews_getOrCreateReview rfl
  rw [getOrCreateSelfAssessment_eq_write hinv hc e]
  refine ⟨hinv.write hopens hc ?_ (fun hcalibrated => ?_), fun hcomplete => ?_⟩
  · split
    · decide
    · assumption
  · split
    · next hdraft => exact absurd hcalibrated (by rw [hdraft]; decide)
    · exact hcalibrated
  · rw [complete_write_iff hinv hcomplete hopens hc]
    exact completeFor_selfAssessment_iff hinv hcomplete hc e

/-! ## Every run -/

/-- A request without a guard. -/
theorem Preserves.complete_iff (h : Preserves t t') (hinv : PerformanceInv t) :
    PerformanceInv t' ∧ (Complete t → (Complete t' ↔ True)) :=
  ⟨(h hinv).1, fun hcomplete => iff_true_intro ((h hinv).2 hcomplete)⟩

/-- **One request**: the invariant stays, and the cycles stay complete exactly when
the request is guarded. -/
theorem performanceStep_complete_iff (hinv : PerformanceInv t) (op : PerformanceOp) :
    PerformanceInv (performanceStep t op)
      ∧ (Complete t → (Complete (performanceStep t op) ↔ Guarded t op)) := by
  -- a request about a row that is not there, or that is refused
  have hquiet : Preserves t t := .refl t
  have hsettle : ∀ {x : Except String PerformanceTables},
      (∀ t', x = .ok t' → Preserves t t') → Preserves t (settle t x) :=
    fun h => settle_induction (P := fun t' : PerformanceTables => Preserves t t') hquiet h
  cases op with
  | createAppraisalCycle fields =>
    exact (createAppraisalCycle_preserves fields t).complete_iff hinv
  | activateAppraisalCycle cycle =>
    refine Preserves.complete_iff ?_ hinv
    simp only [performanceStep]
    cases hcycle : t.getCycle cycle with
    | none => exact hquiet
    | some c =>
      exact hsettle (fun t' hok => activateAppraisalCycle_preserves (Table.find_mem hcycle) hok)
  | getOrCreateSelfAssessment cycle employee =>
    simp only [performanceStep, Guarded]
    cases hemployee : t.getEmployee employee with
    | none => exact ⟨hinv, fun h => iff_of_true h (fun _ h => by cases h)⟩
    | some e =>
      cases hcycle : t.getCycle cycle with
      | none => exact ⟨hinv, fun h => iff_of_true h (fun _ _ _ h => by cases h)⟩
      | some c =>
        show PerformanceInv (if c.organisation = e.organisation then _ else t)
          ∧ (_ → (Complete (if c.organisation = e.organisation then _ else t) ↔ _))
        split
        · next horganisation =>
          obtain ⟨hinv', hiff⟩ :=
            getOrCreateSelfAssessment_complete_iff hinv (Table.find_mem hcycle) e
          refine ⟨hinv', fun hcomplete => (hiff hcomplete).trans ⟨?_, ?_⟩⟩
          · rintro hsafe _ ⟨⟩ _ ⟨⟩ -
            exact hsafe
          · exact fun h => h e rfl c rfl horganisation
        · next horganisation =>
          refine ⟨hinv, fun hcomplete => iff_of_true hcomplete ?_⟩
          rintro _ ⟨⟩ _ ⟨⟩ hsame
          exact absurd hsame horganisation
  | submitAppraisalReview review =>
    refine Preserves.complete_iff ?_ hinv
    simp only [performanceStep]
    cases hreview : t.getReview review with
    | none => exact hquiet
    | some r => exact hsettle (fun t' hok => submitAppraisalReview_preserves hok)
  | advanceAppraisalCyclePhase cycle =>
    refine Preserves.complete_iff ?_ hinv
    simp only [performanceStep]
    cases hcycle : t.getCycle cycle with
    | none => exact hquiet
    | some c =>
      exact hsettle (fun t' hok =>
        advanceAppraisalCyclePhase_preserves (Table.find_mem hcycle) hok)
  | autoAdvanceReviewCycles today =>
    exact (autoAdvanceReviewCycles_preserves today t).complete_iff hinv
  | createCalibrationSession cycle =>
    refine Preserves.complete_iff ?_ hinv
    simp only [performanceStep]
    cases hcycle : t.getCycle cycle with
    | none => exact hquiet
    | some c =>
      exact hsettle (fun t' hok => createCalibrationSession_preserves (Table.find_mem hcycle) hok)
  | lockCalibrationSession cycle now =>
    refine Preserves.complete_iff ?_ hinv
    simp only [performanceStep]
    cases hsession : t.getSession cycle with
    | none => exact hquiet
    | some x =>
      exact hsettle (fun t' hok => lockCalibrationSession_preserves (Table.find_mem hsession) hok)

end

theorem performanceInv_initial (employees : List Employee) (goalCycles : List GoalCycle) :
    PerformanceInv (.initial employees goalCycles) where
  unique := List.nodup_nil
  fresh _ hc := absurd hc List.not_mem_nil
  opened _ hr := absurd hr List.not_mem_nil
  calibrated _ hx := absurd hx List.not_mem_nil

/-- **The cycles are complete in every state of a run** exactly when the run opens
every self-assessment safely. -/
theorem complete_iff_guarded (employees : List Employee) (goalCycles : List GoalCycle)
    (ops : List PerformanceOp) :
    (∀ n, Complete (Run.exec performanceStep (.initial employees goalCycles) (ops.take n)))
      ↔ Run.Along performanceStep Guarded (.initial employees goalCycles) ops :=
  Run.forall_take_iff_along (I := fun t : PerformanceTables => PerformanceInv t)
    (fun _ op hinv => (performanceStep_complete_iff hinv op).1)
    (fun _ op hinv hcomplete => (performanceStep_complete_iff hinv op).2 hcomplete)
    (performanceInv_initial employees goalCycles) (fun _ hc => absurd hc List.not_mem_nil) ops

/-! ## A draft that an employee opens -/

namespace Sample

def employee (id : EmployeeId) : Employee where
  id := id
  organisation := 1
  status := .active
  reportingTo := none
  department := none

def yearly : AppraisalCycleFields where
  organisation := 1
  goalCycle := none
  name := "Yearly"
  reviewType := .self
  startDate := ⟨2026, 4, 1, isDate_2026_04_01⟩
  endDate := ⟨2026, 4, 30, by decide⟩
  selfAssessmentDeadline := none
  peerReviewDeadline := none
  managerReviewDeadline := none
  calibrationDeadline := none

/-- The administrator drafts a cycle, and employee 1 opens their self-assessment. -/
def opened : PerformanceTables :=
  Run.exec performanceStep (.initial [employee 1, employee 2] [])
    [.createAppraisalCycle yearly, .getOrCreateSelfAssessment 0 1]

end Sample

open Sample in
/-- **One employee activates a cycle**: it is active, and the other has no review in
it. -/
theorem activated_by_one_employee : ¬ Complete opened := by
  intro h
  have hcycle : { yearly with id := 0, status := .active } ∈ opened.cycles := by decide
  have hreview : opened.HasReview (selfKey 0 2) :=
    (h _ hcycle).self (by decide) (employee 2) (by decide)
  exact absurd hreview (by decide)

end Performance
