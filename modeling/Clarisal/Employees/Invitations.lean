import Clarisal.Lib.TwoPhase
import Clarisal.Organisations.Licences
import Clarisal.Payroll.Models

/-!
# Licence seats

Inviting an employee reads the licence summary, checks that a seat is
available, and takes the seat later, in a transaction that does not read the
summary again. Invitations that overlap can all take the last seat
(`lastSeat_taken_twice`).

With a seat left at every write that adds an employee, the seats taken never
rise above the seats paid for, and they do rise with the first such write that
finds none (`seatsKept_iff_seatLeft`).
-/

open Calendar Approvals Organisations
open Payroll (EmployeeStatus)

namespace Employees

inductive EmploymentType
  | fullTime | partTime | contract | intern
deriving DecidableEq, Repr

inductive EmployeeOnboardingStatus
  | notStarted | basicDetailsPending | documentsPending | complete
deriving DecidableEq, Repr

/-- What an invitation says about the job. -/
structure JobDetails where
  designation : String := ""
  employmentType : EmploymentType := .fullTime
  dateOfJoining : Option Date := none
  department : Option ℕ := none
  officeLocation : Option ℕ := none
deriving DecidableEq, Repr

/-- An employee; the user is known by the e-mail address. -/
structure Employee where
  id : ℕ
  user : String
  organisation : OrganisationId
  job : JobDetails
  status : EmployeeStatus
  onboardingStatus : EmployeeOnboardingStatus
deriving DecidableEq, Repr

/-- What an invitation reads and writes. The date and the batches are those of
one day. -/
structure StaffTables where
  today : Date
  batches : List OrganisationLicenceBatch
  /-- The organisations with a default workflow for every kind of request. -/
  configured : List OrganisationId
  employees : List Employee
  nextId : ℕ
deriving DecidableEq, Repr

/-! ## The licence summary -/

/-- `LICENCE_CONSUMING_EMPLOYEE_STATUSES`. -/
def licenceConsumingStatuses : List EmployeeStatus := [.invited, .pending, .active]

/-- The employee takes a seat of the organisation. -/
def Employee.consumes (org : OrganisationId) (e : Employee) : Bool :=
  e.organisation = org ∧ e.status ∈ licenceConsumingStatuses

def getActiveLicenceBatches (t : StaffTables) (org : OrganisationId) :
    List OrganisationLicenceBatch :=
  t.batches.filter (fun b => b.organisation = org ∧ b.paymentStatus = .paid
    ∧ b.startDate ≤ t.today ∧ t.today ≤ b.endDate)

structure LicenceSummary where
  activePaidQuantity : ℕ
  allocated : ℕ
  available : ℕ
  overage : ℕ
  hasOverage : Bool
deriving DecidableEq, Repr

def getOrgLicenceSummary (t : StaffTables) (org : OrganisationId) : LicenceSummary :=
  let activePaidQuantity :=
    ((getActiveLicenceBatches t org).map OrganisationLicenceBatch.quantity).sum
  let used := (t.employees.filter (Employee.consumes org)).length
  -- differences of natural numbers stop at zero
  { activePaidQuantity := activePaidQuantity, allocated := used,
    available := activePaidQuantity - used, overage := used - activePaidQuantity,
    hasOverage := activePaidQuantity < used }

/-! ## Inviting in two phases -/

structure InviteRequest where
  organisation : OrganisationId
  companyEmail : String
  job : JobDetails
  /-- What looking up the department or the office raises, if anything. -/
  lookupError : Option String := none
deriving DecidableEq, Repr

/-- What is checked before the transaction. -/
def checkInvitable (t : StaffTables) (request : InviteRequest) : Except String Unit :=
  if request.organisation ∉ t.configured then
    .error ("Create and activate a default approval workflow for each request type before "
      ++ "inviting employees.")
  else if (getOrgLicenceSummary t request.organisation).available ≤ 0 then
    .error "No licences are available for this organisation."
  else
    match request.lookupError with
    | some e => .error e
    | none => .ok ()

def StaffTables.getEmployee (t : StaffTables) (user : String) (organisation : OrganisationId) :
    Option Employee :=
  t.employees.find? (fun e => e.user = user ∧ e.organisation = organisation)

/-- The row of an employee who is invited. -/
def Employee.invited (e : Employee) (job : JobDetails) : Employee :=
  { e with job := job, status := .invited, onboardingStatus := .notStarted }

/-- The row of the invited employee: a new one, or that of an employee who has
not joined yet. -/
def saveInvited (request : InviteRequest) (t : StaffTables) : Except String StaffTables :=
  match t.getEmployee request.companyEmail request.organisation with
  | some e =>
    if e.status ∉ [.invited, .pending] then
      .error "This user already exists in the organisation and cannot be reinvited."
    else .ok { t with employees := Table.save Employee.id (e.invited request.job) t.employees }
  | none =>
    .ok { t with
      employees := t.employees ++ [
        { id := t.nextId, user := request.companyEmail, organisation := request.organisation,
          job := request.job, status := .invited, onboardingStatus := .notStarted }],
      nextId := t.nextId + 1 }

/-- **The transaction of an invitation.** `raises` is what requesting the
documents, sending the invitation or logging raises, if anything. -/
def inviteWrites (request : InviteRequest) (raises : Option String) (t : StaffTables) :
    Except String StaffTables :=
  match raises with
  | some e => (saveInvited request t).bind (fun _ => .error e)
  | none => saveInvited request t

/-- The first phase. -/
def readInvite (t : StaffTables) (request : InviteRequest) : Option InviteRequest :=
  match checkInvitable t request with
  | .error _ => none
  | .ok () => some request

/-- **Invitations in two phases.** -/
def invitations : Protocol StaffTables InviteRequest InviteRequest (Option String) Empty where
  read := readInvite
  write t request raises := Transaction.settle t (inviteWrites request raises t)
  atomic _ request := request.elim

/-- The seats of an organisation that are taken. -/
def StaffTables.allocated (t : StaffTables) (org : OrganisationId) : ℕ :=
  (getOrgLicenceSummary t org).allocated

def StaffTables.activePaidQuantity (t : StaffTables) (org : OrganisationId) : ℕ :=
  (getOrgLicenceSummary t org).activePaidQuantity

/-- The write adds an employee to the organisation. -/
def Adds (org : OrganisationId) (t : StaffTables) (request : InviteRequest)
    (raises : Option String) : Prop :=
  request.organisation = org ∧ raises = none
    ∧ t.getEmployee request.companyEmail request.organisation = none

instance (org : OrganisationId) (t : StaffTables) (request : InviteRequest)
    (raises : Option String) : Decidable (Adds org t request raises) :=
  inferInstanceAs (Decidable (_ ∧ _ ∧ _))

/-- **A seat is left** when the write adds an employee. -/
def SeatLeft (org : OrganisationId) (t : StaffTables) (request : InviteRequest)
    (raises : Option String) : Prop :=
  Adds org t request raises → 0 < (getOrgLicenceSummary t org).available

instance (org : OrganisationId) (t : StaffTables) (request : InviteRequest)
    (raises : Option String) : Decidable (SeatLeft org t request raises) :=
  inferInstanceAs (Decidable (_ → _))

/-- Keys are unique, and new ones are fresh. -/
structure StaffTables.Known (t : StaffTables) : Prop where
  keys : Table.Unique Employee.id t.employees
  fresh : ∀ e ∈ t.employees, e.id < t.nextId

section

variable {t t' : StaffTables} {request : InviteRequest} {raises : Option String}
  {org : OrganisationId}

/-! ## What a write does -/

theorem getEmployee_eq_some {e : Employee} {user : String}
    (h : t.getEmployee user org = some e) : e ∈ t.employees :=
  List.mem_of_find?_eq_some h

/-- **An invitation that commits** rewrites the row of an invited employee, or
adds one. -/
theorem inviteWrites_eq_ok (h : inviteWrites request raises t = .ok t') :
    raises = none
      ∧ ((∃ e, t.getEmployee request.companyEmail request.organisation = some e
          ∧ (e.status = .invited ∨ e.status = .pending)
          ∧ t' = { t with
            employees := Table.save Employee.id (e.invited request.job) t.employees })
        ∨ (t.getEmployee request.companyEmail request.organisation = none
          ∧ t' = { t with
            employees := t.employees ++ [
              { id := t.nextId, user := request.companyEmail,
                organisation := request.organisation, job := request.job, status := .invited,
                onboardingStatus := .notStarted }],
            nextId := t.nextId + 1 })) := by
  cases raises with
  | some e =>
    obtain ⟨s, -, h⟩ := Transaction.bind_eq_ok_iff.mp h
    cases h
  | none =>
    have h : saveInvited request t = .ok t' := h
    refine ⟨rfl, ?_⟩
    unfold saveInvited at h
    split at h
    · next e he =>
      split at h
      · cases h
      · next hstatus =>
        cases h
        exact Or.inl ⟨e, he, by simpa [or_iff_not_imp_left] using hstatus, rfl⟩
    · next he =>
      cases h
      exact Or.inr ⟨he, rfl⟩

variable (org) in
/-- **An invitation takes a seat** when it adds an employee, and no other. -/
theorem allocated_of_inviteWrites (hknown : t.Known)
    (h : inviteWrites request raises t = .ok t') :
    t'.Known ∧ t'.activePaidQuantity org = t.activePaidQuantity org
      ∧ t'.allocated org = t.allocated org + if Adds org t request raises then 1 else 0 := by
  obtain ⟨rfl, ⟨e, he, hstatus, rfl⟩ | ⟨he, rfl⟩⟩ := inviteWrites_eq_ok h
  · have hmem := getEmployee_eq_some he
    have hadds : ¬ Adds org t request none := by
      rintro ⟨-, -, hnone⟩
      rw [he] at hnone
      cases hnone
    refine ⟨⟨hknown.keys.save _, ?_⟩, rfl, ?_⟩
    · intro c hc
      rcases Table.mem_save hc with rfl | ⟨hc, -⟩
      · exact hknown.fresh e hmem
      · exact hknown.fresh c hc
    · rw [if_neg hadds, add_zero]
      refine Table.length_filter_save (a := e.invited request.job) (p := Employee.consumes org)
        hknown.keys hmem rfl ?_
      rcases hstatus with hs | hs <;>
        simp [Employee.consumes, Employee.invited, licenceConsumingStatuses, hs]
  · refine ⟨⟨hknown.keys.append_one (fun c hc => (hknown.fresh c hc).ne), ?_⟩, rfl, ?_⟩
    · intro c hc
      rcases List.mem_append.mp hc with hc | hc
      · exact Nat.lt_succ_of_lt (hknown.fresh c hc)
      · rw [List.mem_singleton.mp hc]
        exact Nat.lt_succ_self _
    · simp only [StaffTables.allocated, getOrgLicenceSummary, List.filter_append,
        List.length_append, Adds, he, and_true]
      by_cases horg : request.organisation = org <;>
        simp [Employee.consumes, licenceConsumingStatuses, horg]

/-- A request that is read found a seat. -/
theorem readInvite_eq_some {r : InviteRequest} (h : readInvite t request = some r) :
    t.allocated r.organisation < t.activePaidQuantity r.organisation := by
  unfold readInvite at h
  split at h
  · cases h
  · next hcheck =>
    cases h
    unfold checkInvitable at hcheck
    split at hcheck
    · cases hcheck
    · split at hcheck
      · cases hcheck
      · next hseat => exact Nat.lt_of_sub_pos (not_le.mp hseat)

/-! ## What an event does -/

theorem step_begin (st : Protocol.State StaffTables InviteRequest) (request : InviteRequest) :
    (invitations.step st (.begin request)).shared = st.shared := by
  rw [Protocol.step]
  split <;> rfl

variable (org) in
/-- **A commit takes a seat** when it adds an employee. -/
theorem step_commit {st : Protocol.State StaffTables InviteRequest} (hknown : st.shared.Known)
    (i : ℕ) (raises : Option String) :
    (invitations.step st (.commit i raises)).shared.Known
      ∧ (invitations.step st (.commit i raises)).shared.activePaidQuantity org
        = st.shared.activePaidQuantity org
      ∧ (invitations.step st (.commit i raises)).shared.allocated org
        = st.shared.allocated org
          + if ∃ r ∈ st.inFlight[i]?, Adds org st.shared r raises then 1 else 0 := by
  cases hr : st.inFlight[i]? with
  | none => simp [Protocol.step, hr, hknown]
  | some r =>
    have hstep : (invitations.step st (.commit i raises)).shared
        = Transaction.settle st.shared (inviteWrites r raises st.shared) := by
      rw [Protocol.step, hr]
      rfl
    rw [hstep]
    cases hwrite : inviteWrites r raises st.shared with
    | ok t' => simpa [hr] using allocated_of_inviteWrites org hknown hwrite
    | error e =>
      have hadds : ¬ Adds org st.shared r raises := by
        rintro ⟨-, rfl, hnone⟩
        have hwrite : saveInvited r st.shared = .error e := hwrite
        rw [saveInvited, hnone] at hwrite
        cases hwrite
      simp [hadds, hknown]

/-! ## Every interleaving -/

/-- The seats taken are within the seats paid for. -/
structure Within (org : OrganisationId) (quantity : ℕ) (t : StaffTables) : Prop where
  known : t.Known
  paid : t.activePaidQuantity org = quantity
  seats : t.allocated org ≤ quantity

/-- More seats are taken than paid for, and nobody is being invited. -/
structure Overrun (org : OrganisationId) (quantity taken : ℕ)
    (st : Protocol.State StaffTables InviteRequest) : Prop where
  known : st.shared.Known
  paid : st.shared.activePaidQuantity org = quantity
  seats : st.shared.allocated org = taken
  nobody : ∀ r ∈ st.inFlight, r.organisation ≠ org

variable {st : Protocol.State StaffTables InviteRequest} {quantity taken : ℕ}

/-- **Within the quantity**, an event keeps it exactly when it finds the seat it
takes. -/
theorem Within.step_iff (h : Within org quantity st.shared)
    (event : Protocol.Event InviteRequest (Option String) Empty) :
    (invitations.step st event).shared.allocated org ≤ quantity
      ↔ Protocol.WriteGuard (SeatLeft org) st event := by
  cases event with
  | begin request =>
    rw [step_begin]
    exact iff_of_true h.seats trivial
  | atomic request => exact request.elim
  | commit i raises =>
    rw [(step_commit org h.known i raises).2.2]
    have hseats := h.seats
    have havailable : (getOrgLicenceSummary st.shared org).available
        = quantity - st.shared.allocated org := by
      rw [← h.paid]
      rfl
    simp only [Protocol.WriteGuard, SeatLeft, havailable]
    split
    · next hadds =>
      obtain ⟨r, hr, hadds⟩ := hadds
      constructor
      · intro hle _ _ _
        omega
      · intro hguard
        have := hguard r hr hadds
        omega
    · next hnone => exact iff_of_true h.seats (fun r hr hadds => absurd ⟨r, hr, hadds⟩ hnone)

theorem Within.step (h : Within org quantity st.shared)
    {event : Protocol.Event InviteRequest (Option String) Empty}
    (hguard : Protocol.WriteGuard (SeatLeft org) st event) :
    Within org quantity (invitations.step st event).shared := by
  have hseats := (h.step_iff event).mpr hguard
  cases event with
  | begin request => rwa [step_begin]
  | atomic request => exact request.elim
  | commit i raises =>
    obtain ⟨hknown, hpaid, -⟩ := step_commit org h.known i raises
    exact ⟨hknown, hpaid.trans h.paid, hseats⟩

/-- **Beyond the quantity**, nobody is invited. -/
theorem Overrun.step (h : Overrun org quantity taken st) (hover : quantity < taken)
    (event : Protocol.Event InviteRequest (Option String) Empty) :
    Overrun org quantity taken (invitations.step st event)
      ∧ Protocol.WriteGuard (SeatLeft org) st event := by
  cases event with
  | atomic request => exact request.elim
  | begin request =>
    refine ⟨?_, trivial⟩
    rw [Protocol.step]
    split
    · exact h
    · next r hr =>
      refine ⟨h.known, h.paid, h.seats, fun r' hr' => ?_⟩
      rcases List.mem_append.mp hr' with hr' | hr'
      · exact h.nobody r' hr'
      · rw [List.mem_singleton.mp hr']
        rintro rfl
        have hseat := readInvite_eq_some hr
        rw [h.paid, h.seats] at hseat
        omega
  | commit i raises =>
    have hnone : ∀ r ∈ st.inFlight[i]?, ¬ Adds org st.shared r raises :=
      fun r hr hadds => h.nobody r (List.mem_of_getElem? hr) hadds.1
    obtain ⟨hknown, hpaid, hseats⟩ := step_commit org h.known i raises
    rw [if_neg (fun hadds => hadds.elim (fun r hr => hnone r hr.1 hr.2)), add_zero] at hseats
    refine ⟨⟨hknown, hpaid.trans h.paid, hseats.trans h.seats, fun r hr => ?_⟩,
      fun r hr hadds => absurd hadds (hnone r hr)⟩
    rw [Protocol.step] at hr
    split at hr
    · exact h.nobody r hr
    · exact h.nobody r (List.mem_of_mem_eraseIdx hr)

end

/-- **The seats taken never rise above the seats paid for** exactly when every
write that adds an employee finds a seat left. -/
theorem seatsKept_iff_seatLeft (org : OrganisationId) {t : StaffTables} (hknown : t.Known)
    (events : List (Protocol.Event InviteRequest (Option String) Empty)) :
    Run.Along invitations.step (fun st event => (invitations.step st event).shared.allocated org
        ≤ max (t.activePaidQuantity org) (t.allocated org)) ⟨t, []⟩ events
      ↔ Run.Along invitations.step (Protocol.WriteGuard (SeatLeft org)) ⟨t, []⟩ events := by
  rcases le_or_gt (t.allocated org) (t.activePaidQuantity org) with hle | hover
  · rw [max_eq_left hle]
    have hwithin : Within org (t.activePaidQuantity org) t := ⟨hknown, rfl, hle⟩
    exact Run.along_congr
      (I := fun st : Protocol.State StaffTables InviteRequest =>
        Within org (t.activePaidQuantity org) st.shared)
      (fun _ _ hst hguard => hst.step hguard) (fun _ event hst => hst.step_iff event) hwithin
  · rw [max_eq_right hover.le]
    have hoverrun : Overrun org (t.activePaidQuantity org) (t.allocated org) ⟨t, []⟩ :=
      ⟨hknown, rfl, rfl, by simp⟩
    refine Run.along_congr (I := Overrun org (t.activePaidQuantity org) (t.allocated org))
      (fun _ event hst _ => (hst.step hover event).1) (fun _ event hst => ?_) hoverrun
    obtain ⟨hst', hguard⟩ := hst.step hover event
    exact iff_of_true hst'.seats.le hguard

/-! ## The last seat

An organisation has paid for one seat, and two people are invited. -/

namespace Sample

def batch : OrganisationLicenceBatch where
  id := 0
  organisation := 1
  quantity := 1
  pricePerLicencePerMonth := 100
  startDate := ⟨2026, 5, 1, isDate_2026_05_01⟩
  endDate := ⟨2026, 5, 31, isDate_2026_05_31⟩
  billingMonths := 2
  totalAmount := 200
  paymentStatus := .paid
  paymentProvider := .manual
  paymentReference := ""
  invoiceReference := ""
  paidAt := some ⟨2026, 5, 1, isDate_2026_05_01⟩

def oneSeat : StaffTables where
  today := ⟨2026, 5, 2, isDate_2026_05_02⟩
  batches := [batch]
  configured := [1]
  employees := []
  nextId := 0

def invite (email : String) : InviteRequest where
  organisation := 1
  companyEmail := email
  job := {}

/-- Two invitations that read one after the other and then write. -/
def overlapping : List (Protocol.Event InviteRequest (Option String) Empty) :=
  [.begin (invite "a@example.com"), .begin (invite "b@example.com"), .commit 0 none,
    .commit 0 none]

/-- The second invitation reads when the first one has written. -/
def oneByOne : List (Protocol.Event InviteRequest (Option String) Empty) :=
  [.begin (invite "a@example.com"), .commit 0 none, .begin (invite "b@example.com"),
    .commit 0 none]

end Sample

theorem seatsKept_iff_seatLeft_sample :
    Run.Along invitations.step (fun st event => (invitations.step st event).shared.allocated 1
        ≤ max (Sample.oneSeat.activePaidQuantity 1) (Sample.oneSeat.allocated 1))
        ⟨Sample.oneSeat, []⟩ Sample.oneByOne
      ↔ Run.Along invitations.step (Protocol.WriteGuard (SeatLeft 1)) ⟨Sample.oneSeat, []⟩
        Sample.oneByOne :=
  seatsKept_iff_seatLeft 1 ⟨by decide, by decide⟩ _

/-- **Two invitations take the last seat.** -/
theorem lastSeat_taken_twice :
    Sample.oneSeat.allocated 1 ≤ Sample.oneSeat.activePaidQuantity 1
      ∧ Sample.oneSeat.activePaidQuantity 1
        < (Run.exec invitations.step ⟨Sample.oneSeat, []⟩ Sample.overlapping).shared.allocated 1 := by
  decide +kernel

end Employees
