import Clarisal.Employees.Invitations
import Clarisal.Lib.Run

/-!
# Hiring

A candidate applies to job postings, an application gets an offer, and accepting the offer
hires the candidate: the application reaches its stage, the candidate is converted to an
employee, and the offer names the employee.

Two operations do not look at what they write. Scheduling an interview puts the
application back into interviews, whatever its stage (`interview_after_hiring`). Accepting
an offer of a candidate who is converted already, for another application, names the same
employee in a second offer, and an employee is named in one offer only
(`second_offer_conflicts`).

So hiring keeps its integrity exactly when no interview is scheduled for an application
that is closed, and no open offer is accepted for a candidate who is converted
(`hiringIntegrity_iff_orderly`).
-/

open Calendar Approvals Transaction

namespace Recruitment

open Employees (StaffTables InviteRequest)

abbrev CandidateId := ℕ
abbrev JobPostingId := ℕ
abbrev ApplicationId := ℕ
abbrev OfferLetterId := ℕ

inductive ApplicationStage
  | applied | screening | interview | offer | hired | rejected | withdrawn
deriving DecidableEq, Repr

def ApplicationStage.value : ApplicationStage → String
  | applied => "APPLIED"
  | screening => "SCREENING"
  | interview => "INTERVIEW"
  | offer => "OFFER"
  | hired => "HIRED"
  | rejected => "REJECTED"
  | withdrawn => "WITHDRAWN"

def terminalStages : List ApplicationStage := [.hired, .rejected, .withdrawn]

inductive OfferStatus
  | draft | sent | accepted | declined | expired | revoked
deriving DecidableEq, Repr

structure JobPosting where
  id : JobPostingId
  organisation : OrganisationId
  title : String
  department : Option ℕ
  location : Option ℕ
deriving DecidableEq, Repr

/-- The e-mail address is as user accounts store it. -/
structure Candidate where
  id : CandidateId
  organisation : OrganisationId
  email : String
  convertedToEmployee : Option EmployeeId
deriving DecidableEq, Repr

structure Application where
  id : ApplicationId
  candidate : CandidateId
  jobPosting : JobPostingId
  stage : ApplicationStage
deriving DecidableEq, Repr

structure OfferLetter where
  id : OfferLetterId
  application : ApplicationId
  ctcAnnual : ℚ
  joiningDate : Option Date
  status : OfferStatus
  onboardedEmployee : Option EmployeeId
deriving DecidableEq, Repr

structure HiringTables where
  postings : List JobPosting
  candidates : List Candidate
  applications : List Application
  offers : List OfferLetter
  staff : StaffTables
deriving DecidableEq, Repr

namespace HiringTables

def getPosting (t : HiringTables) (id : JobPostingId) : Option JobPosting :=
  Table.find JobPosting.id id t.postings

def getCandidate (t : HiringTables) (id : CandidateId) : Option Candidate :=
  Table.find Candidate.id id t.candidates

def getApplication (t : HiringTables) (id : ApplicationId) : Option Application :=
  Table.find Application.id id t.applications

def getOffer (t : HiringTables) (id : OfferLetterId) : Option OfferLetter :=
  Table.find OfferLetter.id id t.offers

/-- An offer with its application, and the candidate and the posting of that. -/
def offerRows (t : HiringTables) (id : OfferLetterId) :
    Option (OfferLetter × Application × Candidate × JobPosting) := do
  let offer ← t.getOffer id
  let application ← t.getApplication offer.application
  let candidate ← t.getCandidate application.candidate
  let posting ← t.getPosting application.jobPosting
  return (offer, application, candidate, posting)

/-- `application.save(update_fields=['stage', …])`. -/
def setStage (t : HiringTables) (application : ApplicationId) (stage : ApplicationStage) :
    HiringTables :=
  { t with
    applications := Table.update (fun a => a.id = application) (fun a => { a with stage := stage })
      t.applications }

/-- `candidate.save(update_fields=['converted_to_employee', …])`. -/
def setConverted (t : HiringTables) (candidate : CandidateId) (employee : EmployeeId) :
    HiringTables :=
  { t with
    candidates := Table.update (fun c => c.id = candidate)
      (fun c => { c with convertedToEmployee := some employee }) t.candidates }

/-- `offer.save(update_fields=['status', …])`. -/
def setOfferStatus (t : HiringTables) (offer : OfferLetterId) (status : OfferStatus) :
    HiringTables :=
  { t with
    offers := Table.update (fun o => o.id = offer) (fun o => { o with status := status })
      t.offers }

end HiringTables

/-! ## Operations -/

/-- Why a request fails: a check, something it calls, or one of the two one-to-one
constraints of an offer. -/
inductive HiringError
  | valueError (message : String)
  | offerPerApplication
  | offerPerEmployee
deriving DecidableEq, Repr

/-- **A request that fails**, with the tables it leaves: it may have written before. -/
abbrev Failure := HiringError × HiringTables

/-- **A transaction** writes nothing when it fails. -/
def atomic {α : Type} (t : HiringTables) : Except Failure α → Except Failure α
  | .ok result => .ok result
  | .error (e, _) => .error (e, t)

def advanceApplicationStage (application : Application) (newStage : ApplicationStage)
    (t : HiringTables) : Except Failure HiringTables :=
  if application.stage ∈ terminalStages then
    .error (.valueError ("Cannot advance a " ++ application.stage.value ++ " application."), t)
  else .ok (t.setStage application.id newStage)

/-- `OrgInterviewListCreateView.post`, with data that is valid. -/
def scheduleInterview (application : Application) (t : HiringTables) : HiringTables :=
  if application.stage ≠ .interview then t.setStage application.id .interview else t

/-- The row of an offer. -/
def newOffer (application : Application) (ctcAnnual : ℚ) (joiningDate : Option Date)
    (t : HiringTables) : OfferLetter where
  id := t.offers.length
  application := application.id
  ctcAnnual := ctcAnnual
  joiningDate := joiningDate
  status := .draft
  onboardedEmployee := none

def createOfferLetter (application : Application) (ctcAnnual : ℚ) (joiningDate : Option Date)
    (t : HiringTables) : Except Failure (OfferLetter × HiringTables) :=
  if t.offers.any (fun o => o.application = application.id) then
    .error (.offerPerApplication, t)
  else
    let offer := newOffer application ctcAnnual joiningDate t
    .ok (offer, { t with offers := t.offers ++ [offer] })

/-- `offer.save(update_fields=['onboarded_employee', …])`. -/
def saveOnboarded (offer : OfferLetterId) (employee : EmployeeId) (t : HiringTables) :
    Except Failure HiringTables :=
  if t.offers.any (fun o => o.id ≠ offer ∧ o.onboardedEmployee = some employee) then
    .error (.offerPerEmployee, t)
  else .ok { t with
    offers := Table.update (fun o => o.id = offer)
      (fun o => { o with onboardedEmployee := some employee }) t.offers }

/-- An offer names its employee, if it does not yet. -/
def nameEmployee (offer : OfferLetter) (employee : EmployeeId) (t : HiringTables) :
    Except Failure HiringTables :=
  if offer.onboardedEmployee ≠ some employee then saveOnboarded offer.id employee t else .ok t

/-- An application is hired, if it is not yet. -/
def hireApplication (application : Application) (t : HiringTables) : Except Failure HiringTables :=
  if application.stage ≠ .hired then advanceApplicationStage application .hired t else .ok t

/-- **What the calls of an onboarding raise**, if anything: looking up the department and
the office, inviting the employee, and setting up the compensation. -/
structure OnboardingRaises where
  lookup : Option String := none
  invitation : Option String := none
  compensation : Option String := none
deriving DecidableEq, Repr

/-- The invitation of an employee, checks and writes. It returns the employee. -/
def inviteEmployee (request : InviteRequest) (raises : Option String) (staff : StaffTables) :
    Except String (EmployeeId × StaffTables) := do
  Employees.checkInvitable staff request
  let staff' ← Employees.inviteWrites request raises staff
  return (((staff.getEmployee request.companyEmail request.organisation).map
    Employees.Employee.id).getD staff.nextId, staff')

/-- What an offer invites its candidate with. -/
def offerInvitation (posting : JobPosting) (candidate : Candidate) (offer : OfferLetter)
    (lookupError : Option String) : InviteRequest where
  organisation := posting.organisation
  companyEmail := candidate.email
  job := {
    designation := posting.title
    employmentType := .fullTime
    dateOfJoining := offer.joiningDate
    department := posting.department
    officeLocation := posting.location }
  lookupError := lookupError

/-- The employee stays invited when the compensation fails. -/
def createEmployeeFromOffer (raises : OnboardingRaises) (posting : JobPosting)
    (candidate : Candidate) (offer : OfferLetter) (t : HiringTables) :
    Except Failure (EmployeeId × HiringTables) :=
  match inviteEmployee (offerInvitation posting candidate offer raises.lookup)
    raises.invitation t.staff with
  | .error e => .error (.valueError e, t)
  | .ok (employee, staff) =>
    match raises.compensation with
    | some e => .error (.valueError e, { t with staff := staff })
    | none => .ok (employee, { t with staff := staff })

def convertCandidateToEmployee (raises : OnboardingRaises) (posting : JobPosting)
    (application : Application) (candidate : Candidate) (offer : OfferLetter)
    (t : HiringTables) : Except Failure (EmployeeId × HiringTables) :=
  if application.candidate ≠ candidate.id then
    .error (.valueError "Offer does not belong to this candidate.", t)
  else if offer.status ≠ .accepted then
    .error (.valueError "Only accepted offers can be converted.", t)
  else if candidate.convertedToEmployee.isSome then
    .error (.valueError "Candidate has already been converted to an employee.", t)
  else do
    let t ← hireApplication application t
    let (employee, t) ← createEmployeeFromOffer raises posting candidate offer t
    let t ← nameEmployee offer employee (t.setConverted candidate.id employee)
    return (employee, t)

def acceptOfferAndOnboard (raises : OnboardingRaises) (posting : JobPosting)
    (application : Application) (candidate : Candidate) (offer : OfferLetter)
    (t : HiringTables) : Except Failure (EmployeeId × HiringTables) :=
  match (if offer.status = .accepted then offer.onboardedEmployee else none) with
  | some employee =>
    if candidate.convertedToEmployee ≠ some employee then
      .ok (employee, t.setConverted candidate.id employee)
    else .ok (employee, t)
  | none =>
    if offer.status ∉ [.draft, .sent, .accepted] then
      .error (.valueError "Only draft or sent offers can be accepted.", t)
    else atomic t <|
      let t := t.setOfferStatus offer.id .accepted
      match candidate.convertedToEmployee with
      | some employee => (nameEmployee offer employee t).map (fun t => (employee, t))
      | none => convertCandidateToEmployee raises posting application candidate
          { offer with status := .accepted } t

/-- **The operations**, on rows that are read from the tables. -/
inductive HiringOp
  | advanceApplicationStage (application : ApplicationId) (newStage : ApplicationStage)
  | scheduleInterview (application : ApplicationId)
  | createOfferLetter (application : ApplicationId) (ctcAnnual : ℚ) (joiningDate : Option Date)
  | acceptOfferAndOnboard (offer : OfferLetterId) (raises : OnboardingRaises)
  | convertCandidateToEmployee (candidate : CandidateId) (offer : OfferLetterId)
      (raises : OnboardingRaises)
deriving DecidableEq, Repr

/-- What an operation returns is left out here. A row that does not exist ends it. -/
def perform (t : HiringTables) : HiringOp → Except Failure HiringTables
  | .advanceApplicationStage application newStage =>
    match t.getApplication application with
    | none => .ok t
    | some a => advanceApplicationStage a newStage t
  | .scheduleInterview application =>
    .ok ((t.getApplication application).elim t (fun a => scheduleInterview a t))
  | .createOfferLetter application ctcAnnual joiningDate =>
    match t.getApplication application with
    | none => .ok t
    | some a => (createOfferLetter a ctcAnnual joiningDate t).map Prod.snd
  | .acceptOfferAndOnboard offer raises =>
    match t.offerRows offer with
    | none => .ok t
    | some (o, a, c, p) => (acceptOfferAndOnboard raises p a c o t).map Prod.snd
  | .convertCandidateToEmployee candidate offer raises =>
    match t.getCandidate candidate, t.offerRows offer with
    | some c, some (o, a, _, p) => (convertCandidateToEmployee raises p a c o t).map Prod.snd
    | _, _ => .ok t

/-- **One operation**, on the rows as they stand. -/
def hiringStep (t : HiringTables) (op : HiringOp) : HiringTables :=
  match perform t op with
  | .ok t' => t'
  | .error (_, t') => t'

/-! ## Integrity -/

/-- **What is settled stays**: the stage of a closed application, and the employee that a
candidate is converted to. -/
structure StaysSettled (t t' : HiringTables) : Prop where
  closed : ∀ a ∈ t.applications, a.stage ∈ terminalStages → a ∈ t'.applications
  converted : ∀ c ∈ t.candidates, c.convertedToEmployee.isSome → c ∈ t'.candidates

/-- **Accepted offers are of applications that are hired.** -/
def AcceptedHired (t : HiringTables) : Prop :=
  ∀ o ∈ t.offers, o.status = .accepted →
    ∃ a ∈ t.applications, a.id = o.application ∧ a.stage = .hired

/-- No second offer names the employee of another. -/
def NoConflict (t : HiringTables) (op : HiringOp) : Prop :=
  ∀ t', perform t op ≠ .error (.offerPerEmployee, t')

/-- **No interview for a closed application**, and no open offer is accepted for a
candidate who is converted. -/
def Orderly (t : HiringTables) : HiringOp → Prop
  | .scheduleInterview application => ∀ a ∈ t.getApplication application,
    a.stage ∉ terminalStages
  | .acceptOfferAndOnboard offer _ => ∀ rows ∈ t.offerRows offer,
    rows.1.status ∈ [OfferStatus.draft, .sent] → rows.2.2.1.convertedToEmployee = none
  | _ => True

instance (t : HiringTables) : ∀ op, Decidable (Orderly t op)
  | .scheduleInterview application =>
    inferInstanceAs (Decidable (∀ a ∈ t.getApplication application, _))
  | .acceptOfferAndOnboard offer _ =>
    inferInstanceAs (Decidable (∀ rows ∈ t.offerRows offer, _ → _))
  | .advanceApplicationStage .. | .createOfferLetter .. | .convertCandidateToEmployee .. =>
    instDecidableTrue

/-- **The rows of recruitment**: what they refer to, and that no two candidates of an
organisation share an e-mail address. -/
structure HiringTables.Known (t : HiringTables) : Prop where
  uniqueCandidates : Table.Unique Candidate.id t.candidates
  uniqueApplications : Table.Unique Application.id t.applications
  freshOffers : ∀ o ∈ t.offers, o.id < t.offers.length
  uniqueOffers : Table.Unique OfferLetter.id t.offers
  oneEmail : ∀ c ∈ t.candidates, ∀ c' ∈ t.candidates, c.organisation = c'.organisation →
    c.email = c'.email → c = c'
  posted : ∀ a ∈ t.applications, ∀ c ∈ t.candidates, c.id = a.candidate → ∀ p ∈ t.postings,
    p.id = a.jobPosting → p.organisation = c.organisation
  staff : t.staff.Known

/-- **Offers, candidates and employees are linked**: an accepted offer is of an application
that is hired, and names the employee its candidate is converted to; an employee who is
converted to is named, and has the candidate's address. -/
structure HiringTables.Linked (t : HiringTables) : Prop extends t.Known where
  accepted : ∀ o ∈ t.offers, o.status = .accepted → ∃ a ∈ t.applications, a.id = o.application
    ∧ a.stage = .hired ∧ ∃ c ∈ t.candidates, c.id = a.candidate
      ∧ ∃ e, c.convertedToEmployee = some e ∧ o.onboardedEmployee = some e
  named : ∀ o ∈ t.offers, o.onboardedEmployee ≠ none → o.status = .accepted
  converted : ∀ c ∈ t.candidates, ∀ e, c.convertedToEmployee = some e →
    (∃ o ∈ t.offers, o.onboardedEmployee = some e)
      ∧ ∃ x ∈ t.staff.employees, x.id = e ∧ x.user = c.email ∧ x.organisation = c.organisation

/-- **An invitation keeps who the employees are**, and its employee has the address. -/
structure Invites (email : String) (organisation : OrganisationId) (e : EmployeeId)
    (staff staff' : StaffTables) : Prop where
  known : staff'.Known
  invited : ∃ x ∈ staff'.employees, x.id = e ∧ x.user = email ∧ x.organisation = organisation
  kept : ∀ x ∈ staff.employees, ∃ x' ∈ staff'.employees, x'.id = x.id ∧ x'.user = x.user
    ∧ x'.organisation = x.organisation
  own : ∀ x ∈ staff.employees, x.id = e → x.user = email ∧ x.organisation = organisation

/-- **What accepting an open offer writes.** -/
structure Onboards (o : OfferLetter) (a : Application) (c : Candidate) (e : EmployeeId)
    (t t' : HiringTables) : Prop where
  postings : t'.postings = t.postings
  candidates : t'.candidates = (t.setConverted c.id e).candidates
  applications : (a.stage = .hired ∧ t'.applications = t.applications)
    ∨ (a.stage ∉ terminalStages ∧ t'.applications = (t.setStage a.id .hired).applications)
  offers : t'.offers = Table.update (fun r => r.id = o.id)
    (fun r => { r with status := .accepted, onboardedEmployee := some e }) t.offers
  staff : Invites c.email c.organisation e t.staff t'.staff

section

variable {t t' : HiringTables} {o : OfferLetter} {a : Application} {c : Candidate}
  {p : JobPosting} {e : EmployeeId} {raises : OnboardingRaises} {staff staff' : StaffTables}
  {request : InviteRequest}

/-! ### Onboarding -/

theorem inviteEmployee_invites (hknown : staff.Known) {raised : Option String}
    (h : inviteEmployee request raised staff = .ok (e, staff')) :
    Invites request.companyEmail request.organisation e staff staff' := by
  obtain ⟨_, -, h⟩ := bind_eq_ok_iff.mp h
  obtain ⟨written, hwrites, h⟩ := bind_eq_ok_iff.mp h
  obtain ⟨rfl, rfl⟩ := Prod.mk.inj (pure_eq_ok_iff.mp h)
  have hknown' := (Employees.allocated_of_inviteWrites request.organisation hknown hwrites).1
  obtain ⟨-, ⟨x, hx, -, rfl⟩ | ⟨hx, rfl⟩⟩ := Employees.inviteWrites_eq_ok hwrites
  · have hmem := Employees.getEmployee_eq_some hx
    have hsame : x.user = request.companyEmail ∧ x.organisation = request.organisation := by
      simpa using List.find?_some hx
    rw [hx]
    refine ⟨hknown', ⟨x.invited request.job, Table.mem_save_self hmem rfl, rfl, hsame⟩,
      fun y hy => ?_, fun y hy hid => ?_⟩
    · by_cases hid : y.id = x.id
      · obtain rfl := hknown.keys.eq_of_key hy hmem hid
        exact ⟨y.invited request.job, Table.mem_save_self hmem rfl, rfl, rfl, rfl⟩
      · exact ⟨y, Table.mem_save_of_ne hy hid, rfl, rfl, rfl⟩
    · obtain rfl := hknown.keys.eq_of_key hy hmem hid
      exact hsame
  · rw [hx]
    refine ⟨hknown', ⟨_, List.mem_append_right _ (List.mem_singleton_self _), rfl, rfl, rfl⟩,
      fun y hy => ⟨y, List.mem_append_left _ hy, rfl, rfl, rfl⟩, fun y hy hid => ?_⟩
    exact absurd hid (hknown.fresh y hy).ne

/-- **An employee who is named in an offer** is the one that a candidate of the same
address is converted to. -/
theorem HiringTables.Linked.converted_of_named (h : t.Linked) (hc : c ∈ t.candidates)
    (hinvites : Invites c.email c.organisation e t.staff staff') (ho : o ∈ t.offers)
    (hnamed : o.onboardedEmployee = some e) : c.convertedToEmployee = some e := by
  have hstatus := h.named o ho (by simp [hnamed])
  obtain ⟨_, _, _, _, c', hc', _, e', hconverted, hnamed'⟩ := h.accepted o ho hstatus
  obtain rfl : e' = e := Option.some.inj (hnamed'.symm.trans hnamed)
  obtain ⟨-, x, hx, hid, huser, horg⟩ := h.converted c' hc' e' hconverted
  obtain ⟨huser', horg'⟩ := hinvites.own x hx hid
  rwa [h.oneEmail c hc c' hc' (horg'.symm.trans horg) (huser'.symm.trans huser)]

theorem hireApplication_cases (a : Application) (t : HiringTables) :
    (∃ message, hireApplication a t = .error (.valueError message, t))
      ∨ ∃ applications, hireApplication a t = .ok { t with applications := applications }
        ∧ ((a.stage = .hired ∧ applications = t.applications)
          ∨ (a.stage ∉ terminalStages
            ∧ applications = (t.setStage a.id .hired).applications)) := by
  unfold hireApplication advanceApplicationStage
  split
  · split
    · exact Or.inl ⟨_, rfl⟩
    · next hterminal => exact Or.inr ⟨_, rfl, Or.inr ⟨hterminal, rfl⟩⟩
  · next hhired => exact Or.inr ⟨t.applications, rfl, Or.inl ⟨not_not.mp hhired, rfl⟩⟩

theorem createEmployeeFromOffer_cases (raises : OnboardingRaises) (hknown : t.staff.Known)
    (horganisation : p.organisation = c.organisation) :
    (∃ message t', createEmployeeFromOffer raises p c o t = .error (.valueError message, t'))
      ∨ ∃ e staff, createEmployeeFromOffer raises p c o t = .ok (e, { t with staff := staff })
        ∧ Invites c.email c.organisation e t.staff staff := by
  unfold createEmployeeFromOffer
  split
  · exact Or.inl ⟨_, _, rfl⟩
  · next e staff hinvite =>
    split
    · exact Or.inl ⟨_, _, rfl⟩
    · exact Or.inr ⟨e, staff, rfl, horganisation ▸ inviteEmployee_invites hknown hinvite⟩

/-- The offer of a candidate who is not converted names an employee whom no other offer
names. -/
theorem nameEmployee_eq_ok (hopen : o.onboardedEmployee = none)
    (hnew : ∀ r ∈ t.offers, r.onboardedEmployee ≠ some e) :
    nameEmployee o e t = .ok { t with
      offers := Table.update (fun r => r.id = o.id)
        (fun r => { r with onboardedEmployee := some e }) t.offers } := by
  unfold nameEmployee saveOnboarded
  rw [if_pos (by simp [hopen]), if_neg]
  intro hany
  obtain ⟨r, hr, hsame⟩ := List.any_eq_true.mp hany
  exact hnew r hr (of_decide_eq_true hsame).2

/-- **Converting the candidate of an offer that is being accepted**: it fails on a check
or on what it calls, or it onboards. -/
theorem convert_cases (raises : OnboardingRaises) (h : t.Linked) (hc : c ∈ t.candidates)
    (horganisation : p.organisation = c.organisation) (hac : a.candidate = c.id)
    (hopen : o.onboardedEmployee = none) (hunconverted : c.convertedToEmployee = none) :
    (∃ message t', convertCandidateToEmployee raises p a c { o with status := .accepted }
        (t.setOfferStatus o.id .accepted) = .error (.valueError message, t'))
      ∨ ∃ e t', convertCandidateToEmployee raises p a c { o with status := .accepted }
          (t.setOfferStatus o.id .accepted) = .ok (e, t') ∧ Onboards o a c e t t' := by
  unfold convertCandidateToEmployee
  rw [if_neg (not_not.mpr hac), if_neg (not_not.mpr rfl), hunconverted, if_neg (by simp)]
  obtain ⟨message, hhire⟩ | ⟨applications, hhire, happlications⟩ :=
    hireApplication_cases a (t.setOfferStatus o.id .accepted)
  · rw [hhire]
    exact Or.inl ⟨message, _, rfl⟩
  · rw [hhire]
    show (∃ message t', (createEmployeeFromOffer raises p c { o with status := .accepted }
      { t.setOfferStatus o.id .accepted with applications := applications } >>= _) = _) ∨ _
    obtain ⟨message, t', hcreate⟩ | ⟨e, staff, hcreate, hinvites⟩ :=
      createEmployeeFromOffer_cases raises (o := { o with status := .accepted })
        (t := { t.setOfferStatus o.id .accepted with applications := applications }) h.staff
        horganisation
    · rw [hcreate]
      exact Or.inl ⟨message, t', rfl⟩
    · -- nobody else is named, or the candidate would be converted
      have hnew : ∀ r ∈ (t.setOfferStatus o.id .accepted).offers,
          r.onboardedEmployee ≠ some e := by
        intro r hr hnamed
        obtain ⟨old, hold, rfl⟩ := Table.mem_update.mp hr
        have hold' : old.onboardedEmployee = some e := by
          rw [← hnamed]
          split <;> rfl
        have hconverted := h.converted_of_named hc hinvites hold hold'
        rw [hunconverted] at hconverted
        cases hconverted
      have hname := nameEmployee_eq_ok (o := { o with status := .accepted })
        (t := HiringTables.setConverted { t.setOfferStatus o.id .accepted with
          applications := applications, staff := staff } c.id e) hopen hnew
      refine Or.inr ⟨e, _, bind_eq_ok_iff.mpr ⟨_, rfl, bind_eq_ok_iff.mpr ⟨_, hcreate,
        bind_eq_ok_iff.mpr ⟨_, hname, rfl⟩⟩⟩, rfl, rfl, happlications, ?_, hinvites⟩
      refine Table.update_update_comp (fun _ => ?_) t.offers
      rfl

/-- An open offer names nobody, and is not accepted. -/
theorem HiringTables.Linked.open_offer (h : t.Linked) (ho : o ∈ t.offers)
    (hstatus : o.status ∈ [OfferStatus.draft, .sent]) :
    o.status ≠ .accepted ∧ o.status ∈ [OfferStatus.draft, .sent, .accepted]
      ∧ o.onboardedEmployee = none := by
  have hnot : o.status ≠ .accepted := by
    intro haccepted
    rw [haccepted] at hstatus
    exact absurd hstatus (by decide)
  refine ⟨hnot, ?_, ?_⟩
  · simp only [List.mem_cons] at hstatus ⊢
    tauto
  · by_contra hnamed
    exact hnot (h.named o ho hnamed)

/-- **Accepting an open offer** of a candidate who is not converted. -/
theorem accept_cases (h : t.Linked) (hc : c ∈ t.candidates) (ho : o ∈ t.offers)
    (horganisation : p.organisation = c.organisation) (hac : a.candidate = c.id)
    (hstatus : o.status ∈ [OfferStatus.draft, .sent])
    (hunconverted : c.convertedToEmployee = none) :
    (∃ message, acceptOfferAndOnboard raises p a c o t = .error (.valueError message, t))
      ∨ ∃ e t', acceptOfferAndOnboard raises p a c o t = .ok (e, t') ∧ Onboards o a c e t t' := by
  obtain ⟨hnot, hmem, hopen⟩ := h.open_offer ho hstatus
  unfold acceptOfferAndOnboard
  simp only [if_neg hnot, hmem, not_true_eq_false, if_false, hunconverted]
  obtain ⟨message, t', hconvert⟩ | ⟨e, t', hconvert, honboards⟩ :=
    convert_cases raises h hc horganisation hac hopen hunconverted
  · rw [hconvert]
    exact Or.inl ⟨message, rfl⟩
  · rw [hconvert]
    exact Or.inr ⟨e, t', rfl, honboards⟩

/-- **Accepting an open offer of a candidate who is converted** names the employee in a
second offer. -/
theorem accept_conflict (h : t.Linked) (hc : c ∈ t.candidates) (ho : o ∈ t.offers)
    (hstatus : o.status ∈ [OfferStatus.draft, .sent])
    (hconverted : c.convertedToEmployee = some e) :
    acceptOfferAndOnboard raises p a c o t = .error (.offerPerEmployee, t) := by
  obtain ⟨hnot, hmem, hopen⟩ := h.open_offer ho hstatus
  obtain ⟨⟨first, hfirst, hnamed⟩, -⟩ := h.converted c hc e hconverted
  have hother : first.id ≠ o.id := by
    intro hsame
    rw [h.uniqueOffers.eq_of_key hfirst ho hsame, hopen] at hnamed
    cases hnamed
  have hany : (t.setOfferStatus o.id .accepted).offers.any
      (fun r => r.id ≠ o.id ∧ r.onboardedEmployee = some e) = true :=
    List.any_eq_true.mpr ⟨first, Table.mem_update_iff.mpr (Or.inr ⟨hfirst, by simpa using hother⟩),
      decide_eq_true ⟨hother, hnamed⟩⟩
  unfold acceptOfferAndOnboard
  simp only [if_neg hnot, hmem, not_true_eq_false, if_false, hconverted]
  unfold nameEmployee saveOnboarded
  rw [if_pos (by simp [hopen]), if_pos hany]
  rfl

/-- An offer that is accepted already is accepted again without any effect. -/
theorem accept_again (hstatus : o.status = .accepted) (hnamed : o.onboardedEmployee = some e)
    (hconverted : c.convertedToEmployee = some e) :
    acceptOfferAndOnboard raises p a c o t = .ok (e, t) := by
  unfold acceptOfferAndOnboard
  simp only [if_pos hstatus, hnamed, hconverted, ne_eq, not_true_eq_false, if_false]

/-- An offer that is neither open nor accepted is refused. -/
theorem accept_refused (hstatus : o.status ∉ [OfferStatus.draft, .sent, .accepted]) :
    ∃ message, acceptOfferAndOnboard raises p a c o t = .error (.valueError message, t) := by
  have hnot : o.status ≠ .accepted := fun haccepted => hstatus (by simp [haccepted])
  unfold acceptOfferAndOnboard
  simp only [if_neg hnot, hstatus, not_false_eq_true, if_true]
  exact ⟨_, rfl⟩

/-- **Converting a candidate by hand** never passes the checks: the candidate of an accepted
offer is converted. -/
theorem convert_refused (p : JobPosting) (raises : OnboardingRaises) (h : t.Linked)
    (ha : a ∈ t.applications) (hc : c ∈ t.candidates) (ho : o ∈ t.offers)
    (hoa : a.id = o.application) :
    ∃ message, convertCandidateToEmployee raises p a c o t = .error (.valueError message, t) := by
  unfold convertCandidateToEmployee
  split
  · exact ⟨_, rfl⟩
  · next hac =>
    split
    · exact ⟨_, rfl⟩
    · next hstatus =>
      obtain ⟨a', ha', hoa', -, c', hc', hac', e, hconverted, -⟩ :=
        h.accepted o ho (not_not.mp hstatus)
      obtain rfl := h.uniqueApplications.eq_of_key ha' ha (hoa'.trans hoa.symm)
      obtain rfl := h.uniqueCandidates.eq_of_key hc' hc (hac'.trans (not_not.mp hac))
      rw [if_pos (by simp [hconverted])]
      exact ⟨_, rfl⟩

/-! ### What the operations keep -/

theorem StaysSettled.refl (t : HiringTables) : StaysSettled t t :=
  ⟨fun _ ha _ => ha, fun _ hc _ => hc⟩

theorem StaysSettled.trans {t₁ t₂ t₃ : HiringTables} (h : StaysSettled t₁ t₂)
    (h' : StaysSettled t₂ t₃) : StaysSettled t₁ t₃ :=
  ⟨fun a ha hclosed => h'.closed a (h.closed a ha hclosed) hclosed,
    fun c hc hconverted => h'.converted c (h.converted c hc hconverted) hconverted⟩

theorem HiringTables.Linked.acceptedHired (h : t.Linked) : AcceptedHired t := by
  intro o ho hstatus
  obtain ⟨a, ha, hoa, hstage, -⟩ := h.accepted o ho hstatus
  exact ⟨a, ha, hoa, hstage⟩

/-- **The stage of an open application** is written. -/
theorem HiringTables.Linked.setStage (h : t.Linked) (ha : a ∈ t.applications)
    (hopen : a.stage ∉ terminalStages) (stage : ApplicationStage) :
    (t.setStage a.id stage).Linked ∧ StaysSettled t (t.setStage a.id stage) := by
  have hkept (b : Application) (hb : b ∈ t.applications) (hclosed : b.stage ∈ terminalStages) :
      b ∈ (t.setStage a.id stage).applications := by
    refine Table.mem_update_iff.mpr (Or.inr ⟨hb, decide_eq_false fun hid => ?_⟩)
    rw [h.uniqueApplications.eq_of_key hb ha hid] at hclosed
    exact hopen hclosed
  refine ⟨⟨⟨h.uniqueCandidates, h.uniqueApplications.update (fun _ => rfl), h.freshOffers,
    h.uniqueOffers, h.oneEmail, ?_, h.staff⟩, ?_, h.named, h.converted⟩,
    ⟨hkept, fun _ hc _ => hc⟩⟩
  · intro b hb
    obtain ⟨b', hb', rfl⟩ := Table.mem_update.mp hb
    split
    · exact h.posted b' hb'
    · exact h.posted b' hb'
  · intro o ho hstatus
    obtain ⟨b, hb, hob, hhired, hcandidate⟩ := h.accepted o ho hstatus
    exact ⟨b, hkept b hb (by simp [hhired, terminalStages]), hob, hhired, hcandidate⟩

/-- The candidates after an onboarding. -/
theorem Onboards.mem_candidates_iff (h : t.Known) (honboards : Onboards o a c e t t')
    (hc : c ∈ t.candidates) {r : Candidate} :
    r ∈ t'.candidates
      ↔ r = { c with convertedToEmployee := some e } ∨ (r ∈ t.candidates ∧ r.id ≠ c.id) := by
  rw [honboards.candidates]
  exact h.uniqueCandidates.mem_update_key hc

/-- The offers after an onboarding. -/
theorem Onboards.mem_offers_iff (h : t.Known) (honboards : Onboards o a c e t t')
    (ho : o ∈ t.offers) {r : OfferLetter} :
    r ∈ t'.offers ↔ r = { o with status := .accepted, onboardedEmployee := some e }
      ∨ (r ∈ t.offers ∧ r.id ≠ o.id) := by
  rw [honboards.offers]
  exact h.uniqueOffers.mem_update_key ho

/-- **The applications after an onboarding**: the one of the offer is hired, and the closed
ones are as they were. -/
theorem Onboards.applications_spec (h : t.Linked) (honboards : Onboards o a c e t t')
    (ha : a ∈ t.applications) :
    Table.Unique Application.id t'.applications
      ∧ { a with stage := .hired } ∈ t'.applications
      ∧ (∀ b ∈ t.applications, b.stage ∈ terminalStages → b ∈ t'.applications)
      ∧ ∀ b ∈ t'.applications, ∃ b' ∈ t.applications, b'.id = b.id ∧ b'.candidate = b.candidate
        ∧ b'.jobPosting = b.jobPosting := by
  obtain ⟨hhired, happlications⟩ | ⟨hopen, happlications⟩ := honboards.applications
  · rw [happlications]
    exact ⟨h.uniqueApplications, hhired ▸ ha, fun b hb _ => hb,
      fun b hb => ⟨b, hb, rfl, rfl, rfl⟩⟩
  · rw [happlications]
    obtain ⟨hlinked, hsettled⟩ := h.setStage ha hopen .hired
    refine ⟨hlinked.uniqueApplications, Table.mem_update_iff.mpr
      (Or.inl ⟨a, ha, decide_eq_true rfl, rfl⟩), hsettled.closed, fun b hb => ?_⟩
    obtain ⟨b', hb', rfl⟩ := Table.mem_update.mp hb
    refine ⟨b', hb', ?_⟩
    split <;> exact ⟨rfl, rfl, rfl⟩

/-- The rows that are referred to stay known. -/
theorem Onboards.known (h : t.Linked) (honboards : Onboards o a c e t t')
    (ha : a ∈ t.applications) (hc : c ∈ t.candidates) (ho : o ∈ t.offers) : t'.Known := by
  obtain ⟨hunique, -, -, hrows⟩ := honboards.applications_spec h ha
  have hcandidates : Table.Unique Candidate.id t'.candidates := by
    rw [honboards.candidates]
    exact h.uniqueCandidates.update (fun _ => rfl)
  have hsame (r : Candidate) (hr : r ∈ t'.candidates) : ∃ r' ∈ t.candidates,
      r'.id = r.id ∧ r'.organisation = r.organisation ∧ r'.email = r.email := by
    obtain rfl | ⟨hr, -⟩ := (honboards.mem_candidates_iff h.toKnown hc).mp hr
    · exact ⟨c, hc, rfl, rfl, rfl⟩
    · exact ⟨r, hr, rfl, rfl, rfl⟩
  refine ⟨hcandidates, hunique, fun r hr => ?_, ?_, fun r hr s hs horg hemail => ?_,
    fun b hb r hr hrb q hq hqb => ?_, honboards.staff.known⟩
  · have hlength : t'.offers.length = t.offers.length := by
      rw [honboards.offers, Table.update, List.length_map]
    rw [hlength]
    obtain rfl | ⟨hr, -⟩ := (honboards.mem_offers_iff h.toKnown ho).mp hr
    · exact h.freshOffers o ho
    · exact h.freshOffers r hr
  · rw [honboards.offers]
    exact h.uniqueOffers.update (fun _ => rfl)
  · obtain ⟨r', hr', hid, horg', hemail'⟩ := hsame r hr
    obtain ⟨s', hs', hid', horg'', hemail''⟩ := hsame s hs
    have heq : r' = s' := h.oneEmail r' hr' s' hs' (horg'.trans (horg.trans horg''.symm))
      (hemail'.trans (hemail.trans hemail''.symm))
    exact hcandidates.eq_of_key hr hs (hid.symm.trans ((congrArg Candidate.id heq).trans hid'))
  · obtain ⟨b', hb', -, hcandidate, hposting⟩ := hrows b hb
    obtain ⟨r', hr', hid, horg, -⟩ := hsame r hr
    rw [honboards.postings] at hq
    exact (h.posted b' hb' r' hr' (hid.trans (hrb.trans hcandidate.symm)) q hq
      (hqb.trans hposting.symm)).trans horg

/-- **Onboarding** links the offer, the candidate and the employee. -/
theorem Onboards.linked (h : t.Linked) (honboards : Onboards o a c e t t')
    (ha : a ∈ t.applications) (hc : c ∈ t.candidates) (ho : o ∈ t.offers)
    (hoa : a.id = o.application) (hac : a.candidate = c.id)
    (hopen : o.onboardedEmployee = none) (hunconverted : c.convertedToEmployee = none) :
    t'.Linked ∧ StaysSettled t t' := by
  obtain ⟨-, hhired, hclosed, -⟩ := honboards.applications_spec h ha
  have hconverted (r : Candidate) (hr : r ∈ t.candidates) (hsome : r.convertedToEmployee ≠ none) :
      r ∈ t'.candidates := by
    refine (honboards.mem_candidates_iff h.toKnown hc).mpr (Or.inr ⟨hr, fun hid => hsome ?_⟩)
    rw [h.uniqueCandidates.eq_of_key hr hc hid]
    exact hunconverted
  have hofferMem := (honboards.mem_offers_iff h.toKnown ho).mpr (Or.inl rfl)
  refine ⟨⟨honboards.known h ha hc ho, fun r hr hstatus => ?_, fun r hr hnamed => ?_,
    fun r hr e' hsome => ?_⟩, hclosed, fun r hr hsome => hconverted r hr (by
      simpa [Option.isSome_iff_ne_none] using hsome)⟩
  · obtain rfl | ⟨hr, -⟩ := (honboards.mem_offers_iff h.toKnown ho).mp hr
    · exact ⟨_, hhired, hoa, rfl, _, (honboards.mem_candidates_iff h.toKnown hc).mpr (Or.inl rfl),
        hac.symm, e, rfl, rfl⟩
    · obtain ⟨b, hb, hrb, hstage, r', hr', hbr, e', hsome, hnamed⟩ := h.accepted r hr hstatus
      exact ⟨b, hclosed b hb (by simp [hstage, terminalStages]), hrb, hstage, r',
        hconverted r' hr' (by simp [hsome]), hbr, e', hsome, hnamed⟩
  · obtain rfl | ⟨hr, -⟩ := (honboards.mem_offers_iff h.toKnown ho).mp hr
    · rfl
    · exact h.named r hr hnamed
  · obtain rfl | ⟨hr, -⟩ := (honboards.mem_candidates_iff h.toKnown hc).mp hr
    · obtain rfl : e = e' := Option.some.inj hsome
      exact ⟨⟨_, hofferMem, rfl⟩, honboards.staff.invited⟩
    · obtain ⟨⟨r', hr', hnamed⟩, x, hx, hid, huser, horg⟩ := h.converted r hr e' hsome
      refine ⟨⟨r', (honboards.mem_offers_iff h.toKnown ho).mpr (Or.inr ⟨hr', fun hsame => ?_⟩),
        hnamed⟩, ?_⟩
      · rw [h.uniqueOffers.eq_of_key hr' ho hsame, hopen] at hnamed
        cases hnamed
      · obtain ⟨x', hx', hid', huser', horg'⟩ := honboards.staff.kept x hx
        exact ⟨x', hx', hid'.trans hid, huser'.trans huser, horg'.trans horg⟩

/-- A new offer. -/
theorem HiringTables.Linked.createOfferLetter (h : t.Linked) (ctcAnnual : ℚ)
    (joiningDate : Option Date) :
    HiringTables.Linked { t with
      offers := t.offers ++ [newOffer a ctcAnnual joiningDate t] } := by
  refine ⟨⟨h.uniqueCandidates, h.uniqueApplications, fun r hr => ?_,
    h.uniqueOffers.append_one (fun r hr => (h.freshOffers r hr).ne), h.oneEmail, h.posted,
    h.staff⟩, fun r hr hstatus => ?_, fun r hr hnamed => ?_, fun r hr e' hsome => ?_⟩
  · show r.id < (t.offers ++ [_]).length
    rw [List.length_append]
    rcases List.mem_append.mp hr with hr | hr
    · exact (h.freshOffers r hr).trans (Nat.lt_succ_self _)
    · obtain rfl := List.mem_singleton.mp hr
      exact Nat.lt_succ_self _
  · rcases List.mem_append.mp hr with hr | hr
    · exact h.accepted r hr hstatus
    · obtain rfl := List.mem_singleton.mp hr
      cases hstatus
  · rcases List.mem_append.mp hr with hr | hr
    · exact h.named r hr hnamed
    · obtain rfl := List.mem_singleton.mp hr
      exact absurd rfl hnamed
  · obtain ⟨⟨r', hr', hnamed⟩, hstaff⟩ := h.converted r hr e' hsome
    exact ⟨⟨r', List.mem_append_left _ hr', hnamed⟩, hstaff⟩

/-! ### One operation -/

theorem offerRows_eq_some {id : OfferLetterId} (hrows : t.offerRows id = some (o, a, c, p)) :
    o ∈ t.offers ∧ (a ∈ t.applications ∧ a.id = o.application)
      ∧ (c ∈ t.candidates ∧ c.id = a.candidate) ∧ p ∈ t.postings ∧ p.id = a.jobPosting := by
  obtain ⟨o', ho, hrows⟩ := Option.bind_eq_some_iff.mp hrows
  obtain ⟨a', ha, hrows⟩ := Option.bind_eq_some_iff.mp hrows
  obtain ⟨c', hc, hrows⟩ := Option.bind_eq_some_iff.mp hrows
  obtain ⟨p', hp, hrows⟩ := Option.bind_eq_some_iff.mp hrows
  cases hrows
  exact ⟨Table.find_mem ho, ⟨Table.find_mem ha, Table.find_key ha⟩,
    ⟨Table.find_mem hc, Table.find_key hc⟩, Table.find_mem hp, Table.find_key hp⟩

/-- A check that fails writes nothing, and what is written keeps the links. -/
theorem spec_of_perform (h : t.Linked) {op : HiringOp}
    (hperform : (∃ error, error ≠ .offerPerEmployee ∧ perform t op = .error (error, t))
      ∨ ∃ t', perform t op = .ok t' ∧ t'.Linked ∧ StaysSettled t t') :
    (hiringStep t op).Linked ∧ StaysSettled t (hiringStep t op) ∧ NoConflict t op := by
  unfold hiringStep NoConflict
  obtain ⟨error, hne, hperform⟩ | ⟨t', hperform, hlinked, hsettled⟩ := hperform
  · rw [hperform]
    exact ⟨h, StaysSettled.refl t, fun t' heq => hne (congrArg Prod.fst (Except.error.inj heq))⟩
  · rw [hperform]
    exact ⟨hlinked, hsettled, fun t' heq => nomatch heq⟩

/-- **Accepting an offer in order**: it is refused, or keeps the links. -/
theorem accept_orderly (raises : OnboardingRaises) (h : t.Linked) (ho : o ∈ t.offers)
    (ha : a ∈ t.applications) (hoa : a.id = o.application) (hc : c ∈ t.candidates)
    (hca : c.id = a.candidate) (hp : p ∈ t.postings) (hpa : p.id = a.jobPosting)
    (horderly : o.status ∈ [OfferStatus.draft, .sent] → c.convertedToEmployee = none) :
    (∃ message, acceptOfferAndOnboard raises p a c o t = .error (.valueError message, t))
      ∨ ∃ e t', acceptOfferAndOnboard raises p a c o t = .ok (e, t')
        ∧ t'.Linked ∧ StaysSettled t t' := by
  by_cases hstatus : o.status ∈ [OfferStatus.draft, .sent]
  · have hunconverted := horderly hstatus
    refine (accept_cases h hc ho (h.posted a ha c hc hca p hp hpa) hca.symm hstatus
      hunconverted).imp_right ?_
    rintro ⟨e, t', haccept, honboards⟩
    exact ⟨e, t', haccept, honboards.linked h ha hc ho hoa hca.symm (h.open_offer ho hstatus).2.2
      hunconverted⟩
  · by_cases haccepted : o.status = .accepted
    · obtain ⟨a', ha', hoa', -, c', hc', hca', e, hconverted, hnamed⟩ := h.accepted o ho haccepted
      obtain rfl := h.uniqueApplications.eq_of_key ha' ha (hoa'.trans hoa.symm)
      obtain rfl := h.uniqueCandidates.eq_of_key hc' hc (hca'.trans hca.symm)
      exact Or.inr ⟨e, t, accept_again haccepted hnamed hconverted, h, StaysSettled.refl t⟩
    · refine Or.inl (accept_refused fun hmem => ?_)
      simp only [List.mem_cons] at hstatus hmem
      tauto

/-- **An orderly operation** keeps the links and what is settled, and names nobody twice. -/
theorem orderly_step (h : t.Linked) (op : HiringOp) (horderly : Orderly t op) :
    (hiringStep t op).Linked ∧ StaysSettled t (hiringStep t op) ∧ NoConflict t op := by
  refine spec_of_perform h ?_
  cases op with
  | advanceApplicationStage application newStage =>
    simp only [perform]
    split
    · exact Or.inr ⟨t, rfl, h, StaysSettled.refl t⟩
    · next a ha =>
      unfold advanceApplicationStage
      split
      · exact Or.inl ⟨_, by simp, rfl⟩
      · next hopen => exact Or.inr ⟨_, rfl, h.setStage (Table.find_mem ha) hopen newStage⟩
  | scheduleInterview application =>
    refine Or.inr ⟨_, rfl, ?_⟩
    cases ha : t.getApplication application with
    | none => exact ⟨h, StaysSettled.refl t⟩
    | some a =>
      show (scheduleInterview a t).Linked ∧ StaysSettled t (scheduleInterview a t)
      unfold scheduleInterview
      split
      · exact h.setStage (Table.find_mem ha) (horderly a ha) .interview
      · exact ⟨h, StaysSettled.refl t⟩
  | createOfferLetter application ctcAnnual joiningDate =>
    simp only [perform]
    split
    · exact Or.inr ⟨t, rfl, h, StaysSettled.refl t⟩
    · next a ha =>
      unfold createOfferLetter
      split
      · exact Or.inl ⟨_, by simp, rfl⟩
      · exact Or.inr ⟨_, rfl, h.createOfferLetter ctcAnnual joiningDate,
          fun _ hb _ => hb, fun _ hr _ => hr⟩
  | acceptOfferAndOnboard offer raises =>
    simp only [perform]
    split
    · exact Or.inr ⟨t, rfl, h, StaysSettled.refl t⟩
    · next o a c p hrows =>
      obtain ⟨ho, ⟨ha, hoa⟩, ⟨hc, hca⟩, hp, hpa⟩ := offerRows_eq_some hrows
      obtain ⟨message, haccept⟩ | ⟨e, t', haccept, hkept⟩ := accept_orderly raises h ho
        ha hoa hc hca hp hpa (horderly (o, a, c, p) hrows)
      · rw [haccept]
        exact Or.inl ⟨_, by simp, rfl⟩
      · rw [haccept]
        exact Or.inr ⟨t', rfl, hkept⟩
  | convertCandidateToEmployee candidate offer raises =>
    simp only [perform]
    split
    · next c o a _ p hc hrows =>
      obtain ⟨ho, ⟨ha, hoa⟩, -⟩ := offerRows_eq_some hrows
      obtain ⟨message, hconvert⟩ :=
        convert_refused p raises h ha (Table.find_mem hc) ho hoa
      rw [hconvert]
      exact Or.inl ⟨_, by simp, rfl⟩
    · exact Or.inr ⟨t, rfl, h, StaysSettled.refl t⟩

/-- **A disorderly operation** moves a closed application, or names an employee twice. -/
theorem disorderly_step (h : t.Linked) (op : HiringOp) (hdisorder : ¬ Orderly t op) :
    ¬ (StaysSettled t (hiringStep t op) ∧ NoConflict t op) := by
  rintro ⟨hsettled, hconflict⟩
  cases op with
  | advanceApplicationStage application newStage => exact hdisorder trivial
  | createOfferLetter application ctcAnnual joiningDate => exact hdisorder trivial
  | convertCandidateToEmployee candidate offer raises => exact hdisorder trivial
  | scheduleInterview application =>
    refine hdisorder fun a ha hclosed => ?_
    have hne : a.stage ≠ .interview := fun hstage => absurd hclosed (by rw [hstage]; decide)
    have hstep : hiringStep t (.scheduleInterview application) = t.setStage a.id .interview := by
      show (t.getApplication application).elim t (fun a => scheduleInterview a t) = _
      rw [Option.mem_def.mp ha]
      exact if_pos hne
    have hmem := hsettled.closed a (Table.find_mem ha) hclosed
    rw [hstep] at hmem
    obtain ⟨b, _, hb⟩ := Table.mem_update.mp hmem
    split at hb
    · exact hne (congrArg Application.stage hb).symm
    · next hid =>
      rw [hb] at hid
      exact hid (decide_eq_true rfl)
  | acceptOfferAndOnboard offer raises =>
    refine hdisorder fun ⟨o, a, c, p⟩ hrows hstatus => ?_
    obtain ⟨ho, -, ⟨hc, -⟩, -⟩ := offerRows_eq_some hrows
    by_contra hsome
    obtain ⟨e, hconverted⟩ := Option.ne_none_iff_exists'.mp hsome
    refine hconflict t ?_
    simp only [perform, Option.mem_def.mp hrows, accept_conflict h hc ho hstatus hconverted]
    rfl

/-- **One operation keeps the integrity** exactly when it is orderly. -/
theorem integrity_step_iff (h : t.Linked) (op : HiringOp) :
    (StaysSettled t (hiringStep t op) ∧ AcceptedHired (hiringStep t op) ∧ NoConflict t op)
      ↔ Orderly t op := by
  constructor
  · rintro ⟨hsettled, -, hconflict⟩
    by_contra hdisorder
    exact disorderly_step h op hdisorder ⟨hsettled, hconflict⟩
  · intro horderly
    obtain ⟨hlinked, hsettled, hconflict⟩ := orderly_step h op horderly
    exact ⟨hsettled, hlinked.acceptedHired, hconflict⟩

end

/-- **Candidates who apply**: there is no offer yet, and nobody is converted. -/
structure HiringTables.Applying (t : HiringTables) : Prop extends t.Known where
  noOffers : t.offers = []
  unconverted : ∀ c ∈ t.candidates, c.convertedToEmployee = none

theorem HiringTables.Applying.linked {t : HiringTables} (h : t.Applying) : t.Linked where
  toKnown := h.toKnown
  accepted o ho := by
    rw [h.noOffers] at ho
    cases ho
  named o ho := by
    rw [h.noOffers] at ho
    cases ho
  converted c hc e hsome := by
    rw [h.unconverted c hc] at hsome
    cases hsome

/-- **Hiring keeps its integrity**, from applications on, in exactly the runs that schedule
no interview for a closed application and accept no open offer of a candidate who is
converted: closed applications and conversions stay as they are, accepted offers are of
applications that are hired, and no employee is named in two offers. -/
theorem hiringIntegrity_iff_orderly {t : HiringTables} (h : t.Applying) (ops : List HiringOp) :
    ((∀ i j, i ≤ j → StaysSettled (Run.exec hiringStep t (ops.take i))
          (Run.exec hiringStep t (ops.take j)))
        ∧ (∀ n, AcceptedHired (Run.exec hiringStep t (ops.take n)))
        ∧ Run.Along hiringStep NoConflict t ops)
      ↔ Run.Along hiringStep Orderly t ops :=
  Run.related_take_and_along_iff (I := HiringTables.Linked) StaysSettled.refl
    (fun _ _ _ => StaysSettled.trans) (fun _ op hlinked ho => (orderly_step hlinked op ho).1)
    (fun _ => HiringTables.Linked.acceptedHired) (fun _ op hlinked => integrity_step_iff hlinked op)
    h.linked ops

/-! ## A candidate with two applications -/

namespace Sample

/-- A candidate applies to two postings. -/
def twoApplications : HiringTables where
  postings := [⟨0, 1, "Engineer", none, none⟩, ⟨1, 1, "Analyst", none, none⟩]
  candidates := [⟨0, 1, "a@example.com", none⟩]
  applications := [⟨0, 0, 0, .applied⟩, ⟨1, 0, 1, .applied⟩]
  offers := []
  staff := Employees.Sample.oneSeat

theorem twoApplications_applying : twoApplications.Applying where
  uniqueCandidates := by decide
  uniqueApplications := by decide
  freshOffers := by decide
  uniqueOffers := by decide
  oneEmail := by decide
  posted := by decide
  staff := ⟨by decide, by decide⟩
  noOffers := rfl
  unconverted := by decide

/-- The first application gets an offer, which is accepted. -/
def hires : List HiringOp := [.createOfferLetter 0 600000 none, .acceptOfferAndOnboard 0 {}]

/-- An interview is scheduled for it afterwards. -/
def hiresThenInterviews : List HiringOp := hires ++ [.scheduleInterview 0]

/-- The second application gets an offer, too. -/
def hiresThenOffers : List HiringOp := hires ++ [.createOfferLetter 1 700000 none]

end Sample

open Sample

theorem hiringIntegrity_iff_orderly_sample :
    ((∀ i j, i ≤ j → StaysSettled (Run.exec hiringStep twoApplications (hires.take i))
          (Run.exec hiringStep twoApplications (hires.take j)))
        ∧ (∀ n, AcceptedHired (Run.exec hiringStep twoApplications (hires.take n)))
        ∧ Run.Along hiringStep NoConflict twoApplications hires)
      ∧ (Run.exec hiringStep twoApplications hires).candidates
        = [⟨0, 1, "a@example.com", some 0⟩] :=
  ⟨(hiringIntegrity_iff_orderly twoApplications_applying hires).mpr (by decide +kernel),
    by decide +kernel⟩

/-- **An interview is scheduled** for the application that was hired, which is in interviews
again. -/
theorem interview_after_hiring :
    ¬ ((∀ i j, i ≤ j → StaysSettled
            (Run.exec hiringStep twoApplications (hiresThenInterviews.take i))
            (Run.exec hiringStep twoApplications (hiresThenInterviews.take j)))
        ∧ (∀ n, AcceptedHired
            (Run.exec hiringStep twoApplications (hiresThenInterviews.take n)))
        ∧ Run.Along hiringStep NoConflict twoApplications hiresThenInterviews) := by
  rintro ⟨hsettled, -, -⟩
  have hmem := (hsettled 2 3 (by decide)).closed ⟨0, 0, 0, .hired⟩ (by decide +kernel) (by decide)
  exact absurd hmem (by decide +kernel)

/-- **The second offer is accepted** as well, which fails on the constraint. -/
theorem second_offer_conflicts :
    ¬ NoConflict (Run.exec hiringStep twoApplications hiresThenOffers)
      (.acceptOfferAndOnboard 1 {}) := by
  intro hconflict
  exact hconflict (Run.exec hiringStep twoApplications hiresThenOffers) rfl

end Recruitment
