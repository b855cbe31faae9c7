import Clarisal.Invitations.Admins
import Clarisal.Lib.TwoPhase

/-!
# Resetting a password

Who has forgotten a password asks for a link. The link carries a secret, of which
the table keeps the hash. A new request deletes the links that have not been used;
confirming sets the password and marks the link used.

Confirming validates the link before its transaction begins, so that other requests
may come between the two. Whatever comes, a user has one unused link at most, and a
password is set only through a link that was made for its user and had not expired
(`reset_safe`). A link that two confirmations hold at once sets the password twice;
where no two of them overlap, every link sets it once at most (`reset_once_of_apart`).
Requests for a link come one at a time.
-/

namespace Accounts

open Approvals (UserId Time)
open Invitations (User AccountType)
open Transaction

abbrev ResetTokenId := ℕ

structure PasswordResetToken where
  id : ResetTokenId
  user : UserId
  tokenHash : String
  expiresAt : Time
  usedAt : Option Time
  requestedByIp : Option String
deriving DecidableEq, Repr

/-- A password that was set through a link, and when the link had been validated. -/
structure PasswordChange where
  token : ResetTokenId
  user : UserId
  validatedAt : Time
deriving DecidableEq, Repr

structure ResetTables where
  users : List User
  password : UserId → String
  tokens : List PasswordResetToken
  /-- What was logged as `auth.password_reset.confirmed`, with the link. -/
  changes : List PasswordChange
  nextId : ℕ

/-- The settings, and how Python lowers a text, hashes a token and makes a password. -/
structure ResetSettings where
  passwordResetTokenExpiryMinutes : ℕ := 30
  lower : String → String
  hashToken : String → String
  makePassword : String → String

def PasswordResetToken.isExpired (token : PasswordResetToken) (now : Time) : Prop :=
  token.expiresAt < now

def PasswordResetToken.isValid (token : PasswordResetToken) (now : Time) : Prop :=
  token.usedAt = none ∧ ¬ token.isExpired now

instance (token : PasswordResetToken) (now : Time) : Decidable (token.isExpired now) :=
  inferInstanceAs (Decidable (_ < _))

instance (token : PasswordResetToken) (now : Time) : Decidable (token.isValid now) :=
  inferInstanceAs (Decidable (_ ∧ _))

/-! ## Asking for a link -/

structure ResetRequest where
  email : String
  accountType : AccountType
  requestedByIp : Option String
  rawToken : String
  now : Time
deriving DecidableEq, Repr

/-- `User.objects.get(email__iexact=…)`; more than one account raises. -/
def getResetUser (cfg : ResetSettings) (request : ResetRequest) (t : ResetTables) :
    Option User :=
  match t.users.filter (fun u =>
      cfg.lower u.email = cfg.lower request.email ∧ u.accountType = request.accountType) with
  | [user] => some user
  | _ => none

/-- The row of a link. -/
def newToken (cfg : ResetSettings) (request : ResetRequest) (user : UserId) (t : ResetTables) :
    PasswordResetToken where
  id := t.nextId
  user := user
  tokenHash := cfg.hashToken request.rawToken
  expiresAt := request.now + 60 * cfg.passwordResetTokenExpiryMinutes
  usedAt := none
  requestedByIp := request.requestedByIp

/-- The links that are kept when the user asks for another one. -/
def keptTokens (user : UserId) (t : ResetTables) : List PasswordResetToken :=
  t.tokens.filter (fun token => ¬ (token.user = user ∧ token.usedAt = none))

/-- `create_password_reset_request`. Nobody is told whether there is an account. -/
def createPasswordResetRequest (cfg : ResetSettings) (request : ResetRequest)
    (t : ResetTables) : Except String ResetTables :=
  match getResetUser cfg request t with
  | none => .ok t
  | some user =>
    if ¬ user.isActive then .ok t
    else
      let token := newToken cfg request user.id t
      let kept := keptTokens user.id t
      -- `token_hash` is unique
      if kept.any (fun k => k.tokenHash = token.tokenHash) then
        .error "duplicate key value violates unique constraint"
      else .ok { t with tokens := kept ++ [token], nextId := t.nextId + 1 }

/-! ## Confirming in two phases -/

structure ConfirmRequest where
  rawToken : String
  password : String
  now : Time
deriving DecidableEq, Repr

/-- What a confirmation holds between its phases. -/
structure Held where
  token : PasswordResetToken
  password : String
  validatedAt : Time
deriving DecidableEq, Repr

/-- What a confirmation sets, and through which link. -/
def Held.change (held : Held) : PasswordChange where
  token := held.token.id
  user := held.token.user
  validatedAt := held.validatedAt

def validatePasswordResetToken (cfg : ResetSettings) (rawToken : String) (now : Time)
    (t : ResetTables) : Except String PasswordResetToken :=
  match Table.find PasswordResetToken.tokenHash (cfg.hashToken rawToken) t.tokens with
  | none => .error "Password reset link not found."
  | some token =>
    if ¬ token.isValid now then
      if token.isExpired now then .error "This password reset link has expired."
      else .error "This password reset link has already been used."
    else .ok token

/-- The first phase. -/
def readConfirm (cfg : ResetSettings) (t : ResetTables) (request : ConfirmRequest) :
    Option Held :=
  match validatePasswordResetToken cfg request.rawToken request.now t with
  | .error _ => none
  | .ok token => some { token := token, password := request.password, validatedAt := request.now }

/-- **The transaction of a confirmation.** Saving a link that is gone raises. -/
def confirmWrites (cfg : ResetSettings) (held : Held) (now : Time) (t : ResetTables) :
    Except String ResetTables :=
  if t.tokens.any (fun token => token.id = held.token.id) then
    .ok { t with
      password := Function.update t.password held.token.user (cfg.makePassword held.password),
      tokens := Table.update (fun token => token.id = held.token.id)
        (fun token => { token with usedAt := some now }) t.tokens,
      changes := t.changes ++ [held.change] }
  else .error "Save with update_fields did not affect any rows."

/-- **Password resets**, confirmed in two phases. -/
def passwordResets (cfg : ResetSettings) :
    Protocol ResetTables ConfirmRequest Held Time ResetRequest where
  read := readConfirm cfg
  write t held now := settle t (confirmWrites cfg held now t)
  atomic t request := settle t (createPasswordResetRequest cfg request t)

/-! ## What resets keep -/

/-- **The links in order**: ids are fresh, and a user has one unused link at most. -/
structure ResetTables.Orderly (t : ResetTables) : Prop where
  fresh : ∀ token ∈ t.tokens, token.id < t.nextId
  unique : Table.Unique PasswordResetToken.id t.tokens
  oneUnused : ∀ a ∈ t.tokens, ∀ b ∈ t.tokens, a.usedAt = none → b.usedAt = none →
    a.user = b.user → a = b

/-- **The change is backed** by a used link of its user, which had not expired when it
was validated. -/
def PasswordChange.Backed (t : ResetTables) (c : PasswordChange) : Prop :=
  ∃ token ∈ t.tokens, token.id = c.token ∧ token.user = c.user ∧ token.usedAt ≠ none
    ∧ ¬ token.isExpired c.validatedAt

/-- Links keep what they were made with. -/
structure Later (t t' : ResetTables) : Prop where
  nextId : t.nextId ≤ t'.nextId
  same : ∀ token' ∈ t'.tokens, token'.id < t.nextId → ∃ token ∈ t.tokens, token.id = token'.id
    ∧ token.user = token'.user ∧ token.expiresAt = token'.expiresAt

/-- What a confirmation relies on: its link had not expired, and is still the same link
if it is there. -/
structure Held.Sound (t : ResetTables) (held : Held) : Prop where
  known : held.token.id < t.nextId
  unexpired : ¬ held.token.isExpired held.validatedAt
  same : ∀ token ∈ t.tokens, token.id = held.token.id →
    token.user = held.token.user ∧ token.expiresAt = held.token.expiresAt

/-- **Resets are safe**: the links are in order, and every change is backed. -/
structure ResetTables.Safe (t : ResetTables) : Prop where
  orderly : t.Orderly
  backed : ∀ c ∈ t.changes, c.Backed t

section

variable {cfg : ResetSettings} {t t' t'' : ResetTables} {request : ResetRequest}
  {asked : ConfirmRequest} {held : Held} {now : Time} {user : UserId}

theorem Later.refl (t : ResetTables) : Later t t :=
  ⟨le_rfl, fun token h _ => ⟨token, h, rfl, rfl, rfl⟩⟩

theorem Later.trans (h : Later t t') (h' : Later t' t'') : Later t t'' := by
  refine ⟨h.nextId.trans h'.nextId, fun token'' hmem hlt => ?_⟩
  obtain ⟨token', hmem', hid', huser', hexp'⟩ := h'.same token'' hmem (hlt.trans_le h.nextId)
  obtain ⟨token, hmem, hid, huser, hexp⟩ := h.same token' hmem' (hid' ▸ hlt)
  exact ⟨token, hmem, hid.trans hid', huser.trans huser', hexp.trans hexp'⟩

theorem Held.Sound.later (h : held.Sound t) (hlater : Later t t') : held.Sound t' := by
  refine ⟨h.known.trans_le hlater.nextId, h.unexpired, fun token' hmem hid => ?_⟩
  obtain ⟨token, hmem, hid', huser, hexp⟩ := hlater.same token' hmem (hid ▸ h.known)
  obtain ⟨huser', hexp'⟩ := h.same token hmem (hid'.trans hid)
  exact ⟨huser.symm.trans huser', hexp.symm.trans hexp'⟩

/-- **A validated link** is in the table, unused and not expired. -/
theorem readConfirm_eq_some (h : readConfirm cfg t asked = some held) :
    held.token ∈ t.tokens ∧ held.token.usedAt = none
      ∧ ¬ held.token.isExpired held.validatedAt := by
  unfold readConfirm at h
  split at h
  · cases h
  · next token hvalidated =>
    obtain rfl := Option.some.inj h
    unfold validatePasswordResetToken at hvalidated
    split at hvalidated
    · cases hvalidated
    · next found hfound =>
      split at hvalidated
      · split at hvalidated <;> cases hvalidated
      · next hvalid =>
        obtain rfl := Except.ok.inj hvalidated
        obtain ⟨hunused, hexpired⟩ := not_not.mp hvalid
        exact ⟨Table.find_mem hfound, hunused, hexpired⟩

theorem sound_of_readConfirm (ht : t.Orderly) (h : readConfirm cfg t asked = some held) :
    held.Sound t := by
  obtain ⟨hmem, -, hexpired⟩ := readConfirm_eq_some h
  refine ⟨ht.fresh _ hmem, hexpired, fun token htoken hid => ?_⟩
  obtain rfl := ht.unique.eq_of_key htoken hmem hid
  exact ⟨rfl, rfl⟩

/-- **What a request writes**: nothing, or a new link in place of the unused ones. -/
theorem createPasswordResetRequest_eq_ok (h : createPasswordResetRequest cfg request t = .ok t') :
    t' = t ∨ ∃ user, t'.tokens = keptTokens user t ++ [newToken cfg request user t]
      ∧ t'.changes = t.changes ∧ t'.nextId = t.nextId + 1 := by
  unfold createPasswordResetRequest at h
  split at h
  · exact Or.inl (Except.ok.inj h).symm
  · next user _ =>
    split at h
    · exact Or.inl (Except.ok.inj h).symm
    · dsimp only at h
      split at h
      · cases h
      · rw [← Except.ok.inj h]
        exact Or.inr ⟨user.id, rfl, rfl, rfl⟩

theorem mem_keptTokens {token : PasswordResetToken} :
    token ∈ keptTokens user t
      ↔ token ∈ t.tokens ∧ (token.user = user → token.usedAt ≠ none) := by
  unfold keptTokens
  rw [List.mem_filter, decide_eq_true_eq, Classical.not_and_iff_not_or_not, ← imp_iff_not_or]

/-- A request keeps resets safe. -/
theorem ResetTables.Safe.create (h : t.Safe)
    (hcreate : createPasswordResetRequest cfg request t = .ok t') : t'.Safe ∧ Later t t' := by
  rcases createPasswordResetRequest_eq_ok hcreate with rfl | ⟨user, htokens, hchanges, hnext⟩
  · exact ⟨h, Later.refl _⟩
  have hcases : ∀ token ∈ t'.tokens, (token ∈ t.tokens ∧ (token.user = user → token.usedAt ≠ none))
      ∨ token = newToken cfg request user t := by
    intro token hmem
    rw [htokens, List.mem_append, List.mem_singleton, mem_keptTokens] at hmem
    exact hmem
  refine ⟨⟨⟨?_, ?_, ?_⟩, ?_⟩, by rw [hnext]; exact Nat.le_succ _, ?_⟩
  · intro token hmem
    rw [hnext]
    rcases hcases token hmem with ⟨hold, -⟩ | rfl
    · exact Nat.lt_succ_of_lt (h.orderly.fresh token hold)
    · exact Nat.lt_succ_self _
  · rw [htokens]
    refine (h.orderly.unique.filter _).append_one fun token hmem => ?_
    exact (h.orderly.fresh token (List.mem_of_mem_filter hmem)).ne
  · intro a ha b hb hau hbu hab
    rcases hcases a ha with ⟨haold, hause⟩ | rfl <;> rcases hcases b hb with ⟨hbold, hbuse⟩ | rfl
    · exact h.orderly.oneUnused a haold b hbold hau hbu hab
    · exact absurd hau (hause hab)
    · exact absurd hbu (hbuse hab.symm)
    · rfl
  · intro c hc
    rw [hchanges] at hc
    obtain ⟨token, hmem, hid, huser, hused, hexpired⟩ := h.backed c hc
    refine ⟨token, ?_, hid, huser, hused, hexpired⟩
    rw [htokens]
    exact List.mem_append_left _ (mem_keptTokens.mpr ⟨hmem, fun _ => hused⟩)
  · intro token hmem hlt
    rcases hcases token hmem with ⟨hold, -⟩ | rfl
    · exact ⟨token, hold, rfl, rfl, rfl⟩
    · exact absurd hlt (lt_irrefl _)

/-- **What a confirmation writes**: the link's row, and the change. -/
theorem confirmWrites_eq_ok (h : confirmWrites cfg held now t = .ok t') :
    t'.tokens = Table.update (fun token => token.id = held.token.id)
        (fun token => { token with usedAt := some now }) t.tokens
      ∧ t'.changes = t.changes ++ [held.change] := by
  unfold confirmWrites at h
  split at h
  · rw [← Except.ok.inj h]
    exact ⟨rfl, rfl⟩
  · cases h

/-- A confirmation that commits keeps resets safe. -/
theorem ResetTables.Safe.confirm (h : t.Safe) (hsound : held.Sound t)
    (hconfirm : confirmWrites cfg held now t = .ok t') : t'.Safe ∧ Later t t' := by
  unfold confirmWrites at hconfirm
  split at hconfirm
  · next hthere =>
    obtain rfl := Except.ok.inj hconfirm
    have hrows := @Table.mem_update_iff _ (fun token : PasswordResetToken => token.id = held.token.id)
      (fun token => { token with usedAt := some now }) t.tokens
    refine ⟨⟨⟨?_, h.orderly.unique.update fun _ => rfl, ?_⟩, ?_⟩, le_rfl, ?_⟩
    · intro token hmem
      rcases hrows.mp hmem with ⟨old, hold, -, rfl⟩ | ⟨hold, -⟩
      · exact h.orderly.fresh old hold
      · exact h.orderly.fresh token hold
    · intro a ha b hb hau hbu hab
      rcases hrows.mp ha with ⟨old, -, -, rfl⟩ | ⟨haold, -⟩
      · cases hau
      rcases hrows.mp hb with ⟨old, -, -, rfl⟩ | ⟨hbold, -⟩
      · cases hbu
      exact h.orderly.oneUnused a haold b hbold hau hbu hab
    · intro c hc
      rcases List.mem_append.mp hc with hc | hc
      · obtain ⟨token, hmem, hid, huser, hused, hexpired⟩ := h.backed c hc
        by_cases hsel : token.id = held.token.id
        · exact ⟨_, hrows.mpr (Or.inl ⟨token, hmem, by simpa using hsel, rfl⟩), hid, huser,
            Option.some_ne_none now, hexpired⟩
        · exact ⟨token, hrows.mpr (Or.inr ⟨hmem, by simpa using hsel⟩), hid, huser, hused, hexpired⟩
      · obtain rfl := List.mem_singleton.mp hc
        obtain ⟨token, hmem, hid⟩ := List.any_eq_true.mp hthere
        have hid : token.id = held.token.id := by simpa using hid
        obtain ⟨huser, hexp⟩ := hsound.same token hmem hid
        refine ⟨_, hrows.mpr (Or.inl ⟨token, hmem, by simpa using hid, rfl⟩), hid, huser,
          Option.some_ne_none now, ?_⟩
        have hunexpired := hsound.unexpired
        unfold PasswordResetToken.isExpired at hunexpired ⊢
        rwa [show ({ token with usedAt := some now } : PasswordResetToken).expiresAt
          = held.token.expiresAt from hexp]
    · intro token hmem _
      rcases hrows.mp hmem with ⟨old, hold, -, rfl⟩ | ⟨hold, -⟩
      · exact ⟨old, hold, rfl, rfl, rfl⟩
      · exact ⟨token, hold, rfl, rfl, rfl⟩
  · cases hconfirm

/-! ## Whole runs -/

/-- A shared state with the confirmations in flight. -/
abbrev ResetState := Protocol.State ResetTables Held

abbrev ResetEvent := Protocol.Event ConfirmRequest Time ResetRequest

/-- Any write may come at any time. -/
theorem along_true {st : ResetState} {events : List ResetEvent} :
    Run.Along (passwordResets cfg).step (Protocol.WriteGuard fun _ _ _ => True) st events := by
  induction events generalizing st with
  | nil => trivial
  | cons event events ih =>
    refine ⟨?_, ih⟩
    cases event with
    | begin request => trivial
    | commit i env => exact fun _ _ => trivial
    | atomic request => trivial

/-- **Resets are safe in every interleaving**: a user has one unused link at most, and
every password set through a link was set through a used one of its user, which
had not expired when it was validated. -/
theorem reset_safe (cfg : ResetSettings) (t : ResetTables) (ht : t.Safe)
    (events : List ResetEvent) :
    (Run.exec (passwordResets cfg).step { shared := t, inFlight := [] } events).shared.Safe := by
  refine (Protocol.safe_of_along (p := passwordResets cfg) (I := ResetTables.Safe)
    (J := fun t held => held.Sound t) (R := Later) Later.refl (fun _ _ _ => Later.trans)
    (fun t request held ht hread => sound_of_readConfirm ht.orderly hread)
    (fun t t' held hlater hsound => hsound.later hlater) ?_ ?_ ht
    (fun held hheld => absurd hheld List.not_mem_nil) along_true).1.1
  · intro t held now ht hsound _
    exact settle_induction (P := fun t' : ResetTables => t'.Safe ∧ Later t t') ⟨ht, Later.refl t⟩
      (fun t' h => ht.confirm hsound h)
  · intro t request ht
    exact settle_induction (P := fun t' : ResetTables => t'.Safe ∧ Later t t') ⟨ht, Later.refl t⟩
      (fun t' h => ht.create h)

/-! ## Links that are used once -/

/-- No confirmation begins with a link that another one holds. -/
def NoOverlap (cfg : ResetSettings) (st : ResetState) : ResetEvent → Prop
  | .begin request => ∀ held ∈ readConfirm cfg st.shared request,
    ∀ other ∈ st.inFlight, other.token.id ≠ held.token.id
  | .commit .. | .atomic _ => True

instance (cfg : ResetSettings) (st : ResetState) (event : ResetEvent) :
    Decidable (NoOverlap cfg st event) :=
  match event with
  | .begin request => inferInstanceAs (Decidable (∀ held ∈ readConfirm cfg st.shared request, _))
  | .commit .. => inferInstanceAs (Decidable True)
  | .atomic _ => inferInstanceAs (Decidable True)

/-- **Confirmations apart**: those in flight hold different links, which are unused, and
no link has been used twice. -/
structure Apart (st : ResetState) : Prop where
  safe : st.shared.Safe
  sound : ∀ held ∈ st.inFlight, held.Sound st.shared
  different : (st.inFlight.map fun held => held.token.id).Nodup
  unused : ∀ held ∈ st.inFlight, ∀ token ∈ st.shared.tokens, token.id = held.token.id →
    token.usedAt = none
  once : (st.shared.changes.map PasswordChange.token).Nodup

theorem Apart.begin {st : ResetState} (h : Apart st)
    (hguard : NoOverlap cfg st (.begin asked)) :
    Apart ((passwordResets cfg).step st (.begin asked)) := by
  rw [Protocol.step]
  split
  · exact h
  · next held hread =>
    have hread : readConfirm cfg st.shared asked = some held := hread
    obtain ⟨hmem, hunused, -⟩ := readConfirm_eq_some hread
    refine ⟨h.safe, ?_, ?_, ?_, h.once⟩
    · intro other hother
      rcases List.mem_append.mp hother with hother | hother
      · exact h.sound other hother
      · rw [List.mem_singleton.mp hother]
        exact sound_of_readConfirm h.safe.orderly hread
    · show ((st.inFlight ++ [held]).map fun held => held.token.id).Nodup
      rw [List.map_append, List.nodup_append]
      refine ⟨h.different, List.nodup_singleton _, ?_⟩
      intro id hid id' hid'
      obtain ⟨other, hother, rfl⟩ := List.mem_map.mp hid
      rw [List.map_singleton, List.mem_singleton] at hid'
      exact hid' ▸ hguard held hread other hother
    · intro other hother token htoken hid
      rcases List.mem_append.mp hother with hother | hother
      · exact h.unused other hother token htoken hid
      · rw [List.mem_singleton.mp hother] at hid
        obtain rfl := h.safe.orderly.unique.eq_of_key htoken hmem hid
        exact hunused

/-- Who writes leaves the others with other links. -/
theorem Apart.others {st : ResetState} (h : Apart st) {i : ℕ}
    (hi : st.inFlight[i]? = some held) {other : Held} (hother : other ∈ st.inFlight.eraseIdx i) :
    other ∈ st.inFlight ∧ other.token.id ≠ held.token.id := by
  refine ⟨List.mem_of_mem_eraseIdx hother, fun hid => ?_⟩
  obtain ⟨hlt, hget⟩ := List.getElem?_eq_some_iff.mp hi
  have hperm := (List.getElem_cons_eraseIdx_perm hlt).map fun held => held.token.id
  have hnodup := hperm.nodup_iff.mpr h.different
  rw [List.map_cons, List.nodup_cons, hget] at hnodup
  exact hnodup.1 (hid ▸ List.mem_map_of_mem hother)

/-- The commit of a confirmation: its link is used now, and was not before. -/
theorem Apart.commit {st : ResetState} (h : Apart st) (i : ℕ) (now : Time) :
    Apart ((passwordResets cfg).step st (.commit i now)) := by
  rw [Protocol.step]
  split
  · exact h
  next held hi =>
  have hheld : held ∈ st.inFlight := List.mem_of_getElem? hi
  have hothers : ∀ other ∈ st.inFlight.eraseIdx i,
      other ∈ st.inFlight ∧ other.token.id ≠ held.token.id := fun _ => h.others hi
  have hdifferent : ((st.inFlight.eraseIdx i).map fun held => held.token.id).Nodup :=
    h.different.sublist ((List.eraseIdx_sublist _ _).map _)
  show Apart ⟨settle st.shared (confirmWrites cfg held now st.shared), st.inFlight.eraseIdx i⟩
  cases hconfirm : confirmWrites cfg held now st.shared with
  | error message =>
    exact ⟨h.safe, fun other hother => h.sound other (hothers other hother).1, hdifferent,
      fun other hother => h.unused other (hothers other hother).1, h.once⟩
  | ok t' =>
    obtain ⟨hsafe, hlater⟩ := h.safe.confirm (h.sound held hheld) hconfirm
    obtain ⟨htokens, hchanges⟩ := confirmWrites_eq_ok hconfirm
    refine ⟨hsafe, fun other hother => (h.sound other (hothers other hother).1).later hlater,
      hdifferent, ?_, ?_⟩
    · intro other hother token htoken hid
      obtain ⟨hin, hne⟩ := hothers other hother
      rw [show (settle st.shared (.ok t') : ResetTables).tokens = _ from htokens] at htoken
      rcases Table.mem_update_iff.mp htoken with ⟨old, -, hsel, rfl⟩ | ⟨hold, -⟩
      · exact absurd (hid.symm.trans (of_decide_eq_true hsel)) hne
      · exact h.unused other hin token hold hid
    · show (t'.changes.map PasswordChange.token).Nodup
      rw [hchanges, List.map_append, List.nodup_append]
      refine ⟨h.once, List.nodup_singleton _, ?_⟩
      intro id hid id' hid'
      rw [List.map_singleton, List.mem_singleton] at hid'
      rintro rfl
      obtain ⟨c, hc, hcid⟩ := List.mem_map.mp hid
      obtain ⟨token, hmem, htoken, -, hused, -⟩ := h.safe.backed c hc
      exact hused (h.unused held hheld token hmem (htoken.trans (hcid.trans hid')))

/-- A request for a link: the new one is held by nobody. -/
theorem Apart.atomic {st : ResetState} (h : Apart st) (request : ResetRequest) :
    Apart ((passwordResets cfg).step st (.atomic request)) := by
  show Apart ⟨settle st.shared (createPasswordResetRequest cfg request st.shared), st.inFlight⟩
  cases hcreate : createPasswordResetRequest cfg request st.shared with
  | error message => exact h
  | ok t' =>
    obtain ⟨hsafe, hlater⟩ := h.safe.create hcreate
    rcases createPasswordResetRequest_eq_ok hcreate with rfl | ⟨user, htokens, hchanges, -⟩
    · exact h
    refine ⟨hsafe, fun held hheld => (h.sound held hheld).later hlater, h.different, ?_, ?_⟩
    · intro held hheld token htoken hid
      rw [show (settle st.shared (.ok t') : ResetTables).tokens = _ from htokens,
        List.mem_append, List.mem_singleton] at htoken
      rcases htoken with hold | rfl
      · exact h.unused held hheld token (mem_keptTokens.mp hold).1 hid
      · exact absurd hid (h.sound held hheld).known.ne'
    · show (t'.changes.map PasswordChange.token).Nodup
      rw [hchanges]
      exact h.once

/-- **A link sets the password once** where no two confirmations of it overlap. -/
theorem reset_once_of_apart (cfg : ResetSettings) (t : ResetTables) (ht : t.Safe)
    (hnone : t.changes = []) (events : List ResetEvent)
    (h : Run.Along (passwordResets cfg).step (NoOverlap cfg) { shared := t, inFlight := [] }
      events) :
    ((Run.exec (passwordResets cfg).step { shared := t, inFlight := [] } events).shared.changes.map
      PasswordChange.token).Nodup := by
  have hstep : ∀ st event, Apart st → NoOverlap cfg st event →
      Apart ((passwordResets cfg).step st event) := by
    intro st event hst hguard
    cases event with
    | begin request => exact hst.begin hguard
    | commit i now => exact hst.commit i now
    | atomic request => exact hst.atomic request
  have hstart : Apart { shared := t, inFlight := [] } :=
    ⟨ht, fun _ hheld => absurd hheld List.not_mem_nil, List.nodup_nil,
      fun _ hheld => absurd hheld List.not_mem_nil, by rw [hnone]; exact List.nodup_nil⟩
  exact (Run.invariant_of_along hstep hstart h).once

end

/-! ## One link, confirmed twice -/

namespace Sample

def resetSettings : ResetSettings :=
  { lower := id, hashToken := fun raw => "sha256$" ++ raw, makePassword := id }

def forgetful : User :=
  { id := 3, email := "asha@acme", accountType := .workforce, role := .employee,
    isActive := true }

def noResets : ResetTables :=
  { users := [forgetful], password := fun _ => "", tokens := [], changes := [], nextId := 0 }

theorem noResets_safe : noResets.Safe where
  orderly := ⟨by decide, by decide, by decide⟩
  backed := fun _ h => absurd h List.not_mem_nil

def askForLink : ResetEvent :=
  .atomic { email := "asha@acme", accountType := .workforce, requestedByIp := none,
            rawToken := "link", now := 0 }

def openLink (password : String) (now : Time) : ResetEvent :=
  .begin { rawToken := "link", password := password, now := now }

/-- The link is opened twice, and again after it has been used. -/
def oneAfterTheOther : List ResetEvent :=
  [askForLink, openLink "first" 10, .commit 0 11, openLink "second" 12, .commit 0 13]

end Sample

open Sample

/-- Both confirmations validate the link before either of them writes. -/
example : (Run.exec (passwordResets resetSettings).step { shared := noResets, inFlight := [] }
    [askForLink, openLink "first" 10, openLink "second" 11, .commit 0 12, .commit 0 13]
    ).shared.changes.map PasswordChange.token = [0, 0] := by decide

theorem reset_safe_sample :
    (Run.exec (passwordResets resetSettings).step { shared := noResets, inFlight := [] }
      oneAfterTheOther).shared.Safe :=
  reset_safe resetSettings noResets noResets_safe oneAfterTheOther

theorem reset_once_of_apart_sample :
    ((Run.exec (passwordResets resetSettings).step { shared := noResets, inFlight := [] }
      oneAfterTheOther).shared.changes.map PasswordChange.token).Nodup :=
  reset_once_of_apart resetSettings noResets noResets_safe rfl oneAfterTheOther (by decide)

end Accounts
