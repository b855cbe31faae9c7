import Clarisal.Accounts.Workspaces
import Clarisal.Lib.Run
import Clarisal.Lib.Transaction

/-!
# Acting as an organisation

A Control Tower user starts an act-as session in a browser, which remembers the
session's id. Starting one ends the user's other sessions, and stopping ends the
one that the browser names; other browsers go on naming sessions that are over.

Requests come from any number of browsers, in any order, with users logging in
and out of them and memberships coming and going meanwhile. In every such run a
user acts in one browser at most (`acts_in_one_browser`), and one who has stopped
in some browser acts in none until starting anew (`acts_nowhere_of_stopped`).
-/

open Transaction

namespace Accounts

open Approvals (UserId OrganisationId Time)
open Invitations (User AccountType OrganisationMembership AdministeredOrganisation)

abbrev BrowserId := ℕ

/-- A browser, with the user who is logged in. -/
structure Browser where
  user : Option UserId := none
  session : Session := {}
deriving DecidableEq, Repr

structure World where
  tables : WorkspaceTables
  browsers : BrowserId → Browser

def WorkspaceTables.getUser (t : WorkspaceTables) (id : UserId) : Option User :=
  Table.find User.id id t.users

def WorkspaceTables.getOrganisation (t : WorkspaceTables) (id : OrganisationId) :
    Option AdministeredOrganisation :=
  Table.find (fun org => org.id) id t.organisations

/-! ## Logging in -/

variable (q : QueryOrder)

/-- `_complete_login`: a session of another user is flushed. -/
def completeLogin (t : WorkspaceTables) (user : User) (b : Browser) : Browser :=
  let session := if b.user = none ∨ b.user = some user.id then b.session else {}
  { user := some user.id
    session := match user.accountType with
      | .workforce => settle session (initializeWorkforceWorkspace q t user session)
      | .controlTower => session }

/-- The organisation has paid and is active. -/
def isOperating (t : WorkspaceTables) (organisation : OrganisationId) : Bool :=
  (t.getOrganisation organisation).any
    (fun org => org.billingStatus = .paid ∧ org.accessState = .active)

/-- `WorkforceLoginView.post`, for a user who has been authenticated. The
workspaces are selected before the organisation is looked at. -/
def workforceLogin (t : WorkspaceTables) (user : User) (b : Browser) : Browser :=
  let state := getWorkspaceState q t b.session user
  if state.adminMemberships = [] ∧ state.employeeRecords = [] then b
  else
    let session := settle b.session (initializeWorkforceWorkspace q t user b.session)
    let b := { b with session := session }
    let activeOrg := (getActiveAdminOrganisation q t session user).or
      ((getActiveEmployee q t session user).map fun e => e.organisation)
    if activeOrg.all (isOperating t) then completeLogin q t user b else b

def selectWorkspace (t : WorkspaceTables) (user : User) (kind : WorkspaceKind)
    (organisation : OrganisationId) (b : Browser) : Except String Browser :=
  if user.accountType ≠ .workforce then
    .error "Workspace switching is only available for workforce accounts."
  else
    let selected := match kind with
      | .admin => setActiveAdminOrganisation t user organisation b.session
      | .employee => setActiveEmployeeWorkspace t user organisation b.session
    (fun session => { b with session := session }) <$> selected

/-! ## Act-as sessions -/

def resolveActAsTargetOrgAdmin (t : WorkspaceTables) (org : AdministeredOrganisation)
    (target : Option UserId) : Except String (Option UserId) :=
  let active := t.memberships.filter
    (fun m => m.organisation = org.id ∧ m.isOrgAdmin ∧ m.status = .active)
  match target, org.primaryAdminUser with
  | some admin, _ =>
    if active.any (fun m => m.user = admin) then .ok (some admin)
    else
      .error ("Selected target admin does not have active org admin access to this "
        ++ "organisation.")
  | none, some primary => .ok (some primary)
  -- memberships stand in the order they were made in
  | none, none => .ok (active.head?.map fun m => m.user)

def endSessions (p : ActAsSession → Bool) (actor : UserId) (now : Time) (t : WorkspaceTables) :
    WorkspaceTables :=
  { t with
    actAsSessions := Table.update (fun s => p s ∧ s.isActive)
      (fun s => { s with endedAt := some now, endedBy := some actor }) t.actAsSessions }

/-- `start_act_as_session`; nothing is written when the target is refused. -/
def startActAsSession (strip : String → String) (org : AdministeredOrganisation) (actor : User)
    (reason : String) (target : Option UserId) (now : Time) (t : WorkspaceTables) :
    Except String (ActAsSession × WorkspaceTables) :=
  if actor.accountType ≠ .controlTower then
    .error "Only Control Tower users can start impersonation sessions."
  else do
    let t := endSessions (fun s => s.actor = actor.id) actor.id now t
    let admin ← resolveActAsTargetOrgAdmin t org target
    let session : ActAsSession :=
      { id := t.nextId, actor := actor.id, organisation := org.id, targetOrgAdmin := admin,
        reason := strip reason, startedAt := now, refreshedAt := now, endedAt := none,
        endedBy := none, revokedAt := none }
    return (session, { t with
      actAsSessions := t.actAsSessions ++ [session], nextId := t.nextId + 1 })

def stopActAsSession (session : ActAsSession) (actor : UserId) (now : Time)
    (t : WorkspaceTables) : WorkspaceTables :=
  endSessions (fun s => s.id = session.id) actor now t

def refreshActAsSession (session : ActAsSession) (now : Time) (t : WorkspaceTables) :
    Except String WorkspaceTables :=
  if ¬ session.isActive then .error "This impersonation session is no longer active."
  else
    .ok { t with
      actAsSessions := Table.update (fun s => s.id = session.id)
        (fun s => { s with refreshedAt := now }) t.actAsSessions }

/-! ## Requests -/

/-- A request of a browser to the act-as views. -/
inductive ActAsRequest
  | start (organisation : OrganisationId) (reason : String) (target : Option UserId)
  | current
  | refresh
  | stop
deriving DecidableEq, Repr

/-- What a request of a Control Tower user does to the tables and to the session of
the browser. -/
def serveActAs (strip : String → String) (user : User) (now : Time) (t : WorkspaceTables)
    (session : Session) : ActAsRequest → WorkspaceTables × Session
  | .start organisation reason target =>
    let session := clearImpersonation t user session
    match t.getOrganisation organisation with
    | none => (t, session)
    | some org =>
      match startActAsSession strip org user reason target now t with
      | .error _ => (t, session)
      | .ok (started, t) => (t, { session with ctActAsSessionId := some started.id })
  | .current => (t, clearImpersonation t user session)
  | .refresh =>
    match getActiveImpersonationSession t session user with
    | none => (t, clearImpersonation t user session)
    | some s => (settle t (refreshActAsSession s now t), session)
  | .stop =>
    match getActiveImpersonationSession t session user with
    | none => (t, clearImpersonation t user session)
    | some s => (stopActAsSession s user.id now t, { session with ctActAsSessionId := none })

inductive Event
  | workforceLogin (browser : BrowserId) (user : UserId)
  | controlTowerLogin (browser : BrowserId) (user : UserId)
  | logout (browser : BrowserId)
  | selectWorkspace (browser : BrowserId) (kind : WorkspaceKind) (organisation : OrganisationId)
  | actAs (browser : BrowserId) (now : Time) (request : ActAsRequest)
  /-- Whatever else writes organisations, users, memberships and employees. -/
  | administer (organisations : List AdministeredOrganisation) (users : List User)
      (memberships : List OrganisationMembership) (employees : List EmployeeRecord)

namespace World

def setBrowser (w : World) (id : BrowserId) (b : Browser) : World :=
  { w with browsers := Function.update w.browsers id b }

/-- The user whom a request of the browser comes from. -/
def requestUser (w : World) (id : BrowserId) : Option User :=
  (w.browsers id).user.bind w.tables.getUser

/-- The account of a login, of the type that the login is for. -/
def account (w : World) (user : UserId) (accountType : AccountType) : Option User :=
  (w.tables.getUser user).filter (fun u => u.accountType = accountType)

end World

/-- **One request**, or one change made elsewhere. A request that is refused
changes nothing. -/
def World.step (strip : String → String) (w : World) : Event → World
  | .workforceLogin browser user =>
    match w.account user .workforce with
    | none => w
    | some u => w.setBrowser browser (workforceLogin q w.tables u (w.browsers browser))
  | .controlTowerLogin browser user =>
    match w.account user .controlTower with
    | none => w
    | some u => w.setBrowser browser (completeLogin q w.tables u (w.browsers browser))
  | .logout browser => w.setBrowser browser {}
  | .selectWorkspace browser kind organisation =>
    match w.requestUser browser with
    | none => w
    | some u =>
      w.setBrowser browser (settle (w.browsers browser)
        (selectWorkspace w.tables u kind organisation (w.browsers browser)))
  | .actAs browser now request =>
    match (w.requestUser browser).filter (fun u => u.accountType = .controlTower) with
    | none => w
    | some u =>
      let served := serveActAs strip u now w.tables (w.browsers browser).session request
      ({ w with tables := served.1 } : World).setBrowser browser
        { w.browsers browser with session := served.2 }
  | .administer organisations users memberships employees =>
    { w with tables := { w.tables with
        organisations := organisations, users := users, memberships := memberships,
        employees := employees } }

/-! ## What stays apart -/

/-- The organisation that the requests of a browser act as. -/
def World.actsAs (w : World) (browser : BrowserId) : Option OrganisationId :=
  (w.requestUser browser).bind fun user =>
    (getActiveImpersonationSession w.tables (w.browsers browser).session user).map
      ActAsSession.organisation

/-- **Act-as sessions in order**: a user has one active session at most, and a
session is named by one browser at most. -/
structure World.Orderly (w : World) : Prop where
  fresh : ∀ s ∈ w.tables.actAsSessions, s.id < w.tables.nextId
  named : ∀ b id, (w.browsers b).session.ctActAsSessionId = some id → id < w.tables.nextId
  one : ∀ s ∈ w.tables.actAsSessions, ∀ s' ∈ w.tables.actAsSessions, s.isActive = true →
    s'.isActive = true → s.actor = s'.actor → s = s'
  apart : ∀ b b' id, (w.browsers b).session.ctActAsSessionId = some id →
    (w.browsers b').session.ctActAsSessionId = some id → b = b'

/-- No session that the user started is active. -/
def World.Stopped (user : UserId) (w : World) : Prop :=
  ∀ s ∈ w.tables.actAsSessions, s.actor = user → s.isActive = false

/-- The event starts a session of the user. -/
def Starts (user : UserId) (w : World) : Event → Prop
  | .actAs browser _ (.start ..) => (w.browsers browser).user = some user
  | _ => False

section

variable {q} {strip : String → String} {t t' : WorkspaceTables} {w : World} {user : User}
  {session session' : Session} {b b' : Browser} {browser : BrowserId} {now : Time}
  {organisation : OrganisationId} {event : Event} {request : ActAsRequest}

/-- The session names what it named before, or nothing. -/
def Names (session session' : Session) : Prop :=
  session'.ctActAsSessionId = session.ctActAsSessionId ∨ session'.ctActAsSessionId = none

theorem clearImpersonation_names : Names session (clearImpersonation t user session) := by
  unfold clearImpersonation
  split
  · exact Or.inr rfl
  · exact Or.inl rfl

theorem setActiveAdminOrganisation_names
    (h : setActiveAdminOrganisation t user organisation session = .ok session') :
    Names session session' := by
  unfold setActiveAdminOrganisation at h
  split at h
  · exact Except.ok.inj h ▸ Or.inl rfl
  · cases h

theorem setActiveEmployeeWorkspace_names
    (h : setActiveEmployeeWorkspace t user organisation session = .ok session') :
    Names session session' := by
  unfold setActiveEmployeeWorkspace at h
  split at h
  · exact Except.ok.inj h ▸ Or.inl rfl
  · cases h

theorem initializeWorkforceWorkspace_names :
    Names session (settle session (initializeWorkforceWorkspace q t user session)) := by
  refine settle_induction (Or.inl rfl) (fun session' h => ?_)
  unfold initializeWorkforceWorkspace at h
  dsimp only at h
  split at h
  · exact setActiveAdminOrganisation_names h
  · exact setActiveEmployeeWorkspace_names h
  · exact Except.ok.inj h ▸ Or.inl rfl

theorem Names.trans {session'' : Session} (h : Names session session')
    (h' : Names session' session'') : Names session session'' := by
  rcases h' with h' | h'
  · exact h.imp h'.trans h'.trans
  · exact Or.inr h'

theorem completeLogin_names : Names b.session (completeLogin q t user b).session := by
  have hflush : Names b.session
      (if b.user = none ∨ b.user = some user.id then b.session else {}) := by
    split
    · exact Or.inl rfl
    · exact Or.inr rfl
  unfold completeLogin
  dsimp only
  split
  · exact hflush.trans initializeWorkforceWorkspace_names
  · exact hflush

theorem workforceLogin_names : Names b.session (workforceLogin q t user b).session := by
  unfold workforceLogin
  dsimp only
  split
  · exact Or.inl rfl
  · split
    · exact initializeWorkforceWorkspace_names.trans completeLogin_names
    · exact initializeWorkforceWorkspace_names

theorem selectWorkspace_names {kind : WorkspaceKind} :
    Names b.session (settle b (selectWorkspace t user kind organisation b)).session := by
  refine settle_induction (P := fun b' : Browser => Names b.session b'.session)
    (Or.inl rfl) (fun b' h => ?_)
  unfold selectWorkspace at h
  split at h
  · cases h
  · obtain ⟨session', hset, rfl⟩ := map_eq_ok_iff.mp h
    cases kind with
    | admin => exact setActiveAdminOrganisation_names hset
    | employee => exact setActiveEmployeeWorkspace_names hset

/-! ### The sessions -/

/-- The sessions are rewritten, none of them becoming active. -/
def Quiet (t t' : WorkspaceTables) : Prop :=
  t'.nextId = t.nextId ∧ ∃ f : ActAsSession → ActAsSession,
    t'.actAsSessions = t.actAsSessions.map f
      ∧ ∀ s, (f s).id = s.id ∧ (f s).actor = s.actor ∧ ((f s).isActive = true → s.isActive = true)

theorem Quiet.refl (t : WorkspaceTables) : Quiet t t :=
  ⟨rfl, id, (List.map_id _).symm, fun _ => ⟨rfl, rfl, id⟩⟩

theorem quiet_update {p : ActAsSession → Bool} {f : ActAsSession → ActAsSession}
    (hf : ∀ s, (f s).id = s.id ∧ (f s).actor = s.actor
      ∧ ((f s).isActive = true → s.isActive = true)) :
    Quiet t { t with actAsSessions := Table.update p f t.actAsSessions } := by
  refine ⟨rfl, fun s => if p s then f s else s, rfl, fun s => ?_⟩
  dsimp only
  split
  · exact hf s
  · exact ⟨rfl, rfl, id⟩

theorem quiet_endSessions {p : ActAsSession → Bool} {actor : UserId} :
    Quiet t (endSessions p actor now t) :=
  quiet_update fun _ => ⟨rfl, rfl, fun h => by cases h⟩

theorem quiet_refreshActAsSession {s : ActAsSession} :
    Quiet t (settle t (refreshActAsSession s now t)) := by
  refine settle_induction (Quiet.refl t) (fun t' h => ?_)
  unfold refreshActAsSession at h
  split at h
  · cases h
  · rw [← Except.ok.inj h]
    exact quiet_update fun _ => ⟨rfl, rfl, id⟩

/-- The sessions that are selected end. -/
theorem isActive_of_mem_endSessions {p : ActAsSession → Bool} {actor : UserId}
    {s : ActAsSession} (hs : s ∈ (endSessions p actor now t).actAsSessions)
    (hsel : p s = true) : s.isActive = false := by
  rcases Table.mem_update_iff.mp hs with ⟨s', -, -, rfl⟩ | ⟨-, hnot⟩
  · rfl
  · simpa [hsel] using hnot

/-- **What starting a session does**: the user's sessions end, and a new one is
active. -/
theorem startActAsSession_eq_ok {org : AdministeredOrganisation} {reason : String}
    {target : Option UserId} {started : ActAsSession}
    (h : startActAsSession strip org user reason target now t = .ok (started, t')) :
    ∃ t₁, Quiet t t₁ ∧ (∀ s ∈ t₁.actAsSessions, s.actor = user.id → s.isActive = false)
      ∧ started.id = t.nextId ∧ started.actor = user.id
      ∧ t'.actAsSessions = t₁.actAsSessions ++ [started] ∧ t'.nextId = t.nextId + 1 := by
  unfold startActAsSession at h
  split at h
  · cases h
  · obtain ⟨admin, -, h⟩ := bind_eq_ok_iff.mp h
    obtain ⟨rfl, rfl⟩ := Prod.mk.inj (pure_eq_ok_iff.mp h)
    refine ⟨_, quiet_endSessions, fun s hs hactor => ?_, rfl, rfl, rfl, rfl⟩
    exact isActive_of_mem_endSessions hs (by simpa using hactor)

/-- **What a request to the act-as views does**: it starts a session that the
browser then names, or starts none. -/
theorem serveActAs_cases (strip : String → String) (user : User) (now : Time)
    (t : WorkspaceTables) (session : Session) (request : ActAsRequest) :
    (Quiet t (serveActAs strip user now t session request).1
        ∧ Names session (serveActAs strip user now t session request).2)
      ∨ ∃ organisation reason target t₁ started, request = .start organisation reason target
        ∧ Quiet t t₁ ∧ (∀ s ∈ t₁.actAsSessions, s.actor = user.id → s.isActive = false)
        ∧ started.id = t.nextId ∧ started.actor = user.id
        ∧ (serveActAs strip user now t session request).1.actAsSessions
          = t₁.actAsSessions ++ [started]
        ∧ (serveActAs strip user now t session request).1.nextId = t.nextId + 1
        ∧ (serveActAs strip user now t session request).2.ctActAsSessionId = some t.nextId := by
  cases request with
  | start organisation reason target =>
    rw [serveActAs]
    split
    · exact Or.inl ⟨Quiet.refl t, clearImpersonation_names⟩
    · split
      · exact Or.inl ⟨Quiet.refl t, clearImpersonation_names⟩
      · next started t' h =>
        obtain ⟨t₁, hquiet, hended, hid, hactor, hsessions, hnext⟩ := startActAsSession_eq_ok h
        exact Or.inr ⟨organisation, reason, target, t₁, started, rfl, hquiet, hended, hid, hactor,
          hsessions, hnext, congrArg some hid⟩
  | current => exact Or.inl ⟨Quiet.refl t, clearImpersonation_names⟩
  | refresh =>
    rw [serveActAs]
    split
    · exact Or.inl ⟨Quiet.refl t, clearImpersonation_names⟩
    · exact Or.inl ⟨quiet_refreshActAsSession, Or.inl rfl⟩
  | stop =>
    rw [serveActAs]
    split
    · exact Or.inl ⟨Quiet.refl t, clearImpersonation_names⟩
    · exact Or.inl ⟨quiet_endSessions, Or.inr rfl⟩

/-! ### One event -/

/-- What a browser names after an event it is the browser of, or not. -/
theorem names_setBrowser {w' : World} (hbrowsers : w'.browsers = w.browsers)
    (hnames : Names (w.browsers browser).session b.session) (c : BrowserId) :
    Names (w.browsers c).session ((w'.setBrowser browser b).browsers c).session := by
  unfold World.setBrowser
  dsimp only
  by_cases hc : c = browser
  · subst hc
    rw [Function.update_self]
    exact hnames
  · rw [Function.update_of_ne hc, hbrowsers]
    exact Or.inl rfl

/-- **What an event does** to sessions and browsers: it starts a session in a
browser, or starts none. -/
theorem step_cases (q : QueryOrder) (strip : String → String) (w : World) (event : Event) :
    (Quiet w.tables (w.step q strip event).tables
        ∧ ∀ c, Names (w.browsers c).session ((w.step q strip event).browsers c).session)
      ∨ ∃ browser user t₁ started, Starts user w event
        ∧ Quiet w.tables t₁ ∧ (∀ s ∈ t₁.actAsSessions, s.actor = user → s.isActive = false)
        ∧ started.id = w.tables.nextId ∧ started.actor = user
        ∧ (w.step q strip event).tables.actAsSessions = t₁.actAsSessions ++ [started]
        ∧ (w.step q strip event).tables.nextId = w.tables.nextId + 1
        ∧ ((w.step q strip event).browsers browser).session.ctActAsSessionId
          = some w.tables.nextId
        ∧ ∀ c, c ≠ browser → (w.step q strip event).browsers c = w.browsers c := by
  have hsame : Quiet w.tables w.tables ∧ ∀ c, Names (w.browsers c).session (w.browsers c).session :=
    ⟨Quiet.refl _, fun c => Or.inl rfl⟩
  cases event with
  | workforceLogin browser user =>
    rw [World.step]
    split
    · exact Or.inl hsame
    · exact Or.inl ⟨Quiet.refl _, names_setBrowser rfl workforceLogin_names⟩
  | controlTowerLogin browser user =>
    rw [World.step]
    split
    · exact Or.inl hsame
    · exact Or.inl ⟨Quiet.refl _, names_setBrowser rfl completeLogin_names⟩
  | logout browser => exact Or.inl ⟨Quiet.refl _, names_setBrowser rfl (Or.inr rfl)⟩
  | selectWorkspace browser kind organisation =>
    rw [World.step]
    split
    · exact Or.inl hsame
    · exact Or.inl ⟨Quiet.refl _, names_setBrowser rfl selectWorkspace_names⟩
  | actAs browser now request =>
    rw [World.step]
    split
    · exact Or.inl hsame
    · next u hu =>
      dsimp only
      rcases serveActAs_cases strip u now w.tables (w.browsers browser).session request with
        ⟨hquiet, hnames⟩ | ⟨organisation, reason, target, t₁, started, rfl, hquiet, hended, hid,
          hactor, hsessions, hnext, hnamed⟩
      · exact Or.inl ⟨hquiet, names_setBrowser rfl hnames⟩
      · refine Or.inr ⟨browser, u.id, t₁, started, ?_, hquiet, hended, hid, hactor, hsessions,
          hnext, ?_, fun c hc => Function.update_of_ne hc _ _⟩
        · obtain ⟨id, hid, hget⟩ := Option.bind_eq_some_iff.mp (Option.filter_eq_some_iff.mp hu).1
          have hkey : u.id = id := Table.find_key hget
          exact hkey ▸ hid
        · unfold World.setBrowser
          dsimp only
          rw [Function.update_self]
          exact hnamed
  | administer organisations users memberships employees =>
    exact Or.inl ⟨⟨rfl, id, (List.map_id _).symm, fun _ => ⟨rfl, rfl, id⟩⟩, fun c => Or.inl rfl⟩

/-! ### Whole runs -/

variable {w' : World}

theorem Names.eq_some {id : ActAsSessionId} (h : Names session session')
    (hid : session'.ctActAsSessionId = some id) : session.ctActAsSessionId = some id := by
  rcases h with h | h
  · exact h ▸ hid
  · rw [h] at hid
    cases hid

theorem World.Orderly.of_quiet (h : w.Orderly) (hquiet : Quiet w.tables w'.tables)
    (hnames : ∀ c, Names (w.browsers c).session (w'.browsers c).session) : w'.Orderly := by
  obtain ⟨hnext, f, hsessions, hf⟩ := hquiet
  refine ⟨?_, ?_, ?_, ?_⟩
  · intro s hs
    rw [hsessions] at hs
    obtain ⟨r, hr, rfl⟩ := List.mem_map.mp hs
    rw [(hf r).1, hnext]
    exact h.fresh r hr
  · intro b id hid
    rw [hnext]
    exact h.named b id ((hnames b).eq_some hid)
  · intro s hs s' hs' hactive hactive' hactor
    rw [hsessions] at hs hs'
    obtain ⟨r, hr, rfl⟩ := List.mem_map.mp hs
    obtain ⟨r', hr', rfl⟩ := List.mem_map.mp hs'
    rw [(hf r).2.1, (hf r').2.1] at hactor
    rw [h.one r hr r' hr' ((hf r).2.2 hactive) ((hf r').2.2 hactive') hactor]
  · exact fun b b' id hb hb' => h.apart b b' id ((hnames b).eq_some hb) ((hnames b').eq_some hb')

/-- **One event keeps act-as sessions in order.** -/
theorem World.Orderly.step (h : w.Orderly) (q : QueryOrder) (strip : String → String)
    (event : Event) : (w.step q strip event).Orderly := by
  rcases step_cases q strip w event with ⟨hquiet, hnames⟩ | ⟨browser, user, t₁, started, -, hquiet,
    hended, hid, hactor, hsessions, hnext, hnamed, hothers⟩
  · exact h.of_quiet hquiet hnames
  -- the sessions that were there stay in order, and the browsers go on naming them
  have hold : World.Orderly { w with tables := t₁ } := h.of_quiet hquiet (fun _ => Or.inl rfl)
  have hid₁ : started.id = t₁.nextId := hid.trans hquiet.1.symm
  have hothers' : ∀ c id, c ≠ browser →
      ((w.step q strip event).browsers c).session.ctActAsSessionId = some id →
      id < w.tables.nextId := by
    intro c id hc hcid
    rw [hothers c hc] at hcid
    exact h.named c id hcid
  refine ⟨?_, ?_, ?_, ?_⟩
  · intro s hs
    rw [hsessions, List.mem_append, List.mem_singleton] at hs
    rw [hnext]
    rcases hs with hs | rfl
    · exact Nat.lt_succ_of_lt (hquiet.1 ▸ hold.fresh s hs)
    · exact hid ▸ Nat.lt_succ_self _
  · intro c id hcid
    rw [hnext]
    by_cases hc : c = browser
    · subst hc
      rw [hnamed] at hcid
      exact Option.some.inj hcid ▸ Nat.lt_succ_self _
    · exact Nat.lt_succ_of_lt (hothers' c id hc hcid)
  · intro s hs s' hs' hactive hactive' hsame
    rw [hsessions, List.mem_append, List.mem_singleton] at hs hs'
    -- of the user who starts, only the new session is active
    have hnot : ∀ r ∈ t₁.actAsSessions, r.isActive = true → r.actor ≠ user := by
      intro r hr hract hruser
      rw [hended r hr hruser] at hract
      cases hract
    rcases hs with hs | rfl <;> rcases hs' with hs' | rfl
    · exact hold.one s hs s' hs' hactive hactive' hsame
    · exact absurd (hsame.trans hactor) (hnot s hs hactive)
    · exact absurd (hsame.symm.trans hactor) (hnot s' hs' hactive')
    · rfl
  · intro b b' id hb hb'
    by_cases hc : b = browser <;> by_cases hc' : b' = browser
    · rw [hc, hc']
    · subst hc
      rw [hnamed] at hb
      exact absurd (hothers' b' id hc' hb') (by rw [← Option.some.inj hb]; exact lt_irrefl _)
    · subst hc'
      rw [hnamed] at hb'
      exact absurd (hothers' b id hc hb) (by rw [← Option.some.inj hb']; exact lt_irrefl _)
    · rw [hothers b hc] at hb
      rw [hothers b' hc'] at hb'
      exact h.apart b b' id hb hb'

/-- **What a browser acts as** is the organisation of an active session that it
names, of the user who is logged in. -/
theorem actsAs_eq_some (h : w.actsAs browser = some organisation) :
    ∃ s ∈ w.tables.actAsSessions, (w.browsers browser).user = some s.actor
      ∧ (w.browsers browser).session.ctActAsSessionId = some s.id ∧ s.isActive = true
      ∧ s.organisation = organisation := by
  obtain ⟨user, huser, h⟩ := Option.bind_eq_some_iff.mp h
  obtain ⟨s, hs, rfl⟩ := Option.map_eq_some_iff.mp h
  obtain ⟨-, hmem, hid, hactor, hactive⟩ := getActiveImpersonationSession_eq_some hs
  obtain ⟨id, hlogged, hget⟩ := Option.bind_eq_some_iff.mp huser
  have hkey : user.id = id := Table.find_key hget
  exact ⟨s, hmem, by rw [hlogged, hactor, hkey], hid, hactive, rfl⟩

/-- A user whose sessions have ended acts in no browser. -/
theorem World.Stopped.actsAs {id : UserId} (h : w.Stopped id)
    (hbrowser : (w.browsers browser).user = some id) : w.actsAs browser = none := by
  rw [← Option.not_isSome_iff_eq_none, Option.isSome_iff_exists]
  rintro ⟨organisation, hacts⟩
  obtain ⟨s, hs, hlogged, -, hactive, -⟩ := actsAs_eq_some hacts
  rw [hbrowser] at hlogged
  rw [h s hs (Option.some.inj hlogged).symm] at hactive
  cases hactive

/-- Sessions that have ended stay so, until the user starts one. -/
theorem World.Stopped.step {id : UserId} (h : w.Stopped id) (q : QueryOrder)
    (strip : String → String) (event : Event) (hevent : ¬ Starts id w event) :
    (w.step q strip event).Stopped id := by
  have hquiet : ∀ {t}, Quiet w.tables t → ∀ s ∈ t.actAsSessions, s.actor = id →
      s.isActive = false := by
    rintro t ⟨-, f, hsessions, hf⟩ s hs hactor
    rw [hsessions] at hs
    obtain ⟨r, hr, rfl⟩ := List.mem_map.mp hs
    rw [(hf r).2.1] at hactor
    exact Bool.eq_false_iff.mpr (fun hactive => Bool.eq_false_iff.mp (h r hr hactor)
      ((hf r).2.2 hactive))
  rcases step_cases q strip w event with ⟨hq, -⟩ | ⟨browser, user, t₁, started, hstarts, hq, -, -,
    hactor, hsessions, -⟩
  · exact hquiet hq
  · intro s hs hid
    rw [hsessions, List.mem_append, List.mem_singleton] at hs
    rcases hs with hs | rfl
    · exact hquiet hq s hs hid
    · obtain rfl : user = id := hactor.symm.trans hid
      exact absurd hstarts hevent

/-- **Stopping leaves no session of the user active**, since there was one only. -/
theorem World.Orderly.stopped (h : w.Orderly) {id : UserId}
    (hbrowser : (w.browsers browser).user = some id) (hacts : (w.actsAs browser).isSome = true)
    (q : QueryOrder) (strip : String → String) (now : Time) :
    (w.step q strip (.actAs browser now .stop)).Stopped id := by
  obtain ⟨organisation, hacts⟩ := Option.isSome_iff_exists.mp hacts
  obtain ⟨user, huser, hfound⟩ := Option.bind_eq_some_iff.mp hacts
  obtain ⟨s, hs, -⟩ := Option.map_eq_some_iff.mp hfound
  obtain ⟨htype, hmem, -, hactor, hactive⟩ := getActiveImpersonationSession_eq_some hs
  have hkey : user.id = id := by
    obtain ⟨id', hlogged, hget⟩ := Option.bind_eq_some_iff.mp huser
    have hkey' : user.id = id' := Table.find_key hget
    exact hkey'.trans (Option.some.inj (hlogged.symm.trans hbrowser))
  have hrequest : (w.requestUser browser).filter (fun u => u.accountType = .controlTower)
      = some user := Option.filter_eq_some_iff.mpr ⟨huser, by simpa using htype⟩
  rw [World.step, hrequest]
  dsimp only
  rw [serveActAs, hs]
  intro r hr hrid
  rcases Table.mem_update_iff.mp hr with ⟨r', -, -, rfl⟩ | ⟨hr, hnot⟩
  · rfl
  · -- another active session of the user would be the one that ends
    cases hract : r.isActive with
    | false => rfl
    | true =>
      obtain rfl := h.one r hr s hmem hract hactive (by rw [hrid, hactor, hkey])
      simp [hract] at hnot

variable (q strip) in
/-- A run of events. -/
abbrev World.run (w : World) (events : List Event) : World :=
  Run.exec (World.step q strip) w events

theorem World.Orderly.run (h : w.Orderly) (q : QueryOrder) (strip : String → String)
    (events : List Event) : (w.run q strip events).Orderly :=
  Run.invariant (fun _ event hw => hw.step q strip event) h events

/-- **A user acts in one browser at most**, at every moment of every run. -/
theorem acts_in_one_browser (q : QueryOrder) (strip : String → String) (hw : w.Orderly)
    (events : List Event) {c c' : BrowserId} (hne : c ≠ c')
    (huser : ((w.run q strip events).browsers c).user
      = ((w.run q strip events).browsers c').user) :
    (w.run q strip events).actsAs c = none ∨ (w.run q strip events).actsAs c' = none := by
  have horderly := hw.run q strip events
  by_contra hboth
  obtain ⟨hc, hc'⟩ := not_or.mp hboth
  obtain ⟨o, ho⟩ := Option.ne_none_iff_exists'.mp hc
  obtain ⟨o', ho'⟩ := Option.ne_none_iff_exists'.mp hc'
  obtain ⟨s, hs, hlogged, hnamed, hactive, -⟩ := actsAs_eq_some ho
  obtain ⟨s', hs', hlogged', hnamed', hactive', -⟩ := actsAs_eq_some ho'
  have hactor : s.actor = s'.actor :=
    Option.some.inj (hlogged.symm.trans (huser.trans hlogged'))
  obtain rfl := horderly.one s hs s' hs' hactive hactive' hactor
  exact hne (horderly.apart c c' s.id hnamed hnamed')

/-- **A user who stops acts nowhere** until starting anew: not in another browser
either, whatever happens meanwhile. -/
theorem acts_nowhere_of_stopped (q : QueryOrder) (strip : String → String) (hw : w.Orderly)
    (before after : List Event) (browser : BrowserId) (id : UserId) (now : Time)
    (hbrowser : ((w.run q strip before).browsers browser).user = some id)
    (hacts : ((w.run q strip before).actsAs browser).isSome = true)
    (hafter : Run.Along (World.step q strip) (fun w event => ¬ Starts id w event)
      (w.run q strip (before ++ [.actAs browser now .stop])) after) {c : BrowserId}
    (hlogged : ((w.run q strip (before ++ .actAs browser now .stop :: after)).browsers c).user
      = some id) :
    (w.run q strip (before ++ .actAs browser now .stop :: after)).actsAs c = none := by
  have hstopped : (w.run q strip (before ++ [.actAs browser now .stop])).Stopped id := by
    rw [World.run, Run.exec_append]
    exact (hw.run q strip before).stopped hbrowser hacts q strip now
  have hend : (w.run q strip (before ++ .actAs browser now .stop :: after)).Stopped id := by
    rw [World.run, List.append_cons, Run.exec_append]
    exact Run.invariant_of_along (fun w event h hevent => h.step q strip event hevent) hstopped
      hafter
  exact hend.actsAs hlogged

end

/-! ## Two browsers of a support user -/

namespace Sample

def support : User :=
  { id := 7, email := "support@ct", accountType := .controlTower, role := .controlTower,
    isActive := true }

def acme : AdministeredOrganisation :=
  { id := 1, status := .active, billingStatus := .paid, accessState := .active,
    onboardingStage := .adminActivated, countryCode := "IN", billingGateway := none,
    bootstrapAdmin := none, primaryAdminUser := some 3, bootstrapEmail := "",
    bootstrapInvitedUser := none }

def tower : World where
  tables :=
    { organisationName := fun _ => "Acme", organisations := [acme], users := [support],
      memberships := [], employees := [], actAsSessions := [], nextId := 0 }
  browsers := fun _ => {}

theorem tower_orderly : tower.Orderly where
  fresh := by decide
  named := fun b id h => by cases h
  one := by decide
  apart := fun b b' id h => by cases h

def start (browser : BrowserId) (now : Time) : Event :=
  .actAs browser now (.start 1 "ticket" none)

/-- The user logs in to two browsers, and starts acting in both. -/
def startedTwice : List Event :=
  [.controlTowerLogin 0 7, .controlTowerLogin 1 7, start 0 10, start 1 20]

end Sample

open Sample

/-- The first browser has stopped acting, the second acts. -/
theorem acts_in_one_browser_sample :
    (tower.run .stable id startedTwice).actsAs 1 = some 1
      ∧ ((tower.run .stable id startedTwice).actsAs 0 = none
        ∨ (tower.run .stable id startedTwice).actsAs 1 = none) :=
  ⟨by decide, acts_in_one_browser .stable id tower_orderly startedTwice (by decide) (by decide)⟩

theorem acts_nowhere_of_stopped_sample :
    (tower.run .stable id (startedTwice ++ [.actAs 1 30 .stop, .actAs 0 40 .current])).actsAs 0
      = none :=
  acts_nowhere_of_stopped .stable id tower_orderly startedTwice [.actAs 0 40 .current] 1 7 30
    (by decide) (by decide) ⟨fun h => h, trivial⟩ (by decide)

end Accounts
