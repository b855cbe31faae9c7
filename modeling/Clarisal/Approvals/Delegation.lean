import Clarisal.Approvals.Models
import Clarisal.Lib.Run
import Clarisal.Lib.Transaction
import Clarisal.Lib.Worklist

/-!
# Delegations of approval authority

An organisation's active delegations are the edges of a graph on its
employees. Saving one first searches that graph, without the row that is
updated, for a way back from the delegate to the delegator. The search ends on
every table and finds a way exactly when there is one
(`validateDelegationLoop_eq_error_iff`), so no sequence of saves closes a
cycle (`acyclic_reached`).
-/

open Calendar Transaction Relation

namespace Approvals

abbrev DelegationId := ℕ

/-- A stored delegation. -/
structure DelegationRow extends ApprovalDelegation where
  id : DelegationId
deriving DecidableEq, Repr

structure DelegationTable where
  rows : List DelegationRow
  nextId : ℕ

/-- What a request to save a delegation sets. -/
structure DelegationPayload where
  delegatorEmployee : EmployeeId
  delegateEmployee : EmployeeId
  requestKinds : List ApprovalRequestKind
  startDate : Date
  endDate : Option Date
  isActive : Bool

/-- **The order a set is iterated in**: any list of its members. -/
structure SetOrder where
  order : List EmployeeId → List EmployeeId
  mem_order : ∀ l e, e ∈ order l ↔ e ∈ l

/-! ## The search for a loop -/

/-- The active delegations of an organisation other than one. -/
def otherDelegations (organisation : OrganisationId) (excludeId : Option DelegationId)
    (t : DelegationTable) : List DelegationRow :=
  t.rows.filter (fun d =>
    d.organisation = organisation ∧ d.isActive = true ∧ excludeId ≠ some d.id)

/-- The edges that are searched: the other delegations and the one to save. -/
def delegationEdges (organisation : OrganisationId) (delegator delegate : EmployeeId)
    (excludeId : Option DelegationId) (t : DelegationTable) : List (EmployeeId × EmployeeId) :=
  (otherDelegations organisation excludeId t).map
      (fun d => (d.delegatorEmployee, d.delegateEmployee)) ++ [(delegator, delegate)]

/-- `edges.get(current, set())`, as it is iterated. -/
def delegatesOf (iterate : SetOrder) (edges : List (EmployeeId × EmployeeId))
    (current : EmployeeId) : List EmployeeId :=
  iterate.order ((edges.filter (fun e => e.1 = current)).map Prod.snd)

/-- The loop of the search, run for a number of rounds: whether it meets the
delegator, once it has ended. -/
def searchDelegator (iterate : SetOrder) (edges : List (EmployeeId × EmployeeId))
    (delegator delegate : EmployeeId) (rounds : ℕ) : Option Bool :=
  Worklist.search (delegatesOf iterate edges) delegator rounds [delegate] ∅

/-- Whom the search can meet. -/
def searchedEmployees (edges : List (EmployeeId × EmployeeId)) (delegate : EmployeeId) :
    Finset EmployeeId :=
  insert delegate (edges.map Prod.snd).toFinset

/-- Rounds enough for the search to end. -/
def searchRounds (iterate : SetOrder) (edges : List (EmployeeId × EmployeeId))
    (delegate : EmployeeId) : ℕ :=
  Worklist.weight (delegatesOf iterate edges) (searchedEmployees edges delegate) [delegate] ∅ + 1

def validateDelegationLoop (iterate : SetOrder) (organisation : OrganisationId)
    (delegator delegate : EmployeeId) (excludeId : Option DelegationId) (t : DelegationTable) :
    Except String Unit :=
  if delegator = delegate then
    .error "An employee cannot delegate approval authority to themselves."
  else
    let edges := delegationEdges organisation delegator delegate excludeId t
    match searchDelegator iterate edges delegator delegate
      (searchRounds iterate edges delegate) with
    | some true => .error "This delegation would create a delegation loop."
    | some false | none => .ok ()

/-! ## Saving a delegation -/

/-- The row a payload is written to. -/
def DelegationPayload.setOn (payload : DelegationPayload) (row : DelegationRow) :
    DelegationRow :=
  { row with
    delegatorEmployee := payload.delegatorEmployee
    delegateEmployee := payload.delegateEmployee
    requestKinds := payload.requestKinds
    startDate := payload.startDate
    endDate := payload.endDate
    isActive := payload.isActive }

def DelegationPayload.newRow (payload : DelegationPayload) (organisation : OrganisationId)
    (now : Time) (id : DelegationId) : DelegationRow :=
  { id := id, organisation := organisation, delegatorEmployee := payload.delegatorEmployee,
    delegateEmployee := payload.delegateEmployee, requestKinds := payload.requestKinds,
    startDate := payload.startDate, endDate := payload.endDate, isActive := payload.isActive,
    createdAt := now }

/-- **Save a delegation**: a new one, or over the row that is given. The
organisation of an employee is a column of the employee's row. -/
def upsertApprovalDelegation (employeeOrganisation : EmployeeId → OrganisationId)
    (iterate : SetOrder) (organisation : OrganisationId) (payload : DelegationPayload)
    (now : Time) (delegation : Option DelegationRow) (t : DelegationTable) :
    Except String DelegationTable :=
  if employeeOrganisation payload.delegatorEmployee ≠ organisation
      ∨ employeeOrganisation payload.delegateEmployee ≠ organisation then
    .error "Delegation employees must belong to the active organisation."
  else do
    validateDelegationLoop iterate organisation payload.delegatorEmployee
      payload.delegateEmployee (delegation.map DelegationRow.id) t
    if payload.endDate.any (· < payload.startDate) then
      .error "Delegation end date must be on or after the start date."
    else
      match delegation with
      | none => .ok { rows := t.rows ++ [payload.newRow organisation now t.nextId],
                      nextId := t.nextId + 1 }
      | some row => .ok { t with rows := Table.save DelegationRow.id (payload.setOn row) t.rows }

/-- A request to create a delegation, or to update one of the organisation. -/
structure DelegationRequest where
  iterate : SetOrder
  organisation : OrganisationId
  payload : DelegationPayload
  now : Time
  delegation : Option DelegationId

/-- **One request**: a refused one changes nothing. -/
def delegationStep (employeeOrganisation : EmployeeId → OrganisationId) (t : DelegationTable)
    (request : DelegationRequest) : DelegationTable :=
  let upsert := upsertApprovalDelegation employeeOrganisation request.iterate
    request.organisation request.payload request.now
  settle t (match request.delegation with
    | none => upsert none t
    | some id =>
      match t.rows.find? (fun d => d.organisation = request.organisation ∧ d.id = id) with
      | none => .error "No ApprovalDelegation matches the given query."
      | some row => upsert (some row) t)

def DelegationTable.initial : DelegationTable := ⟨[], 0⟩

/-! ## The graph of delegations -/

/-- One employee delegates to another by an active row. -/
def Delegates (rows : List DelegationRow) (a b : EmployeeId) : Prop :=
  ∃ d ∈ rows, d.isActive = true ∧ d.delegatorEmployee = a ∧ d.delegateEmployee = b

section

variable {iterate : SetOrder} {organisation : OrganisationId} {delegator delegate : EmployeeId}
  {excludeId : Option DelegationId} {t : DelegationTable}
  {edges : List (EmployeeId × EmployeeId)}

theorem mem_delegatesOf {a b : EmployeeId} : b ∈ delegatesOf iterate edges a ↔ (a, b) ∈ edges := by
  unfold delegatesOf
  rw [iterate.mem_order]
  simp

/-- The searched graph is that of the other delegations and the new edge. -/
theorem edge_delegationEdges :
    Worklist.Edge (delegatesOf iterate
        (delegationEdges organisation delegator delegate excludeId t))
      = Worklist.InsertEdge (Delegates (otherDelegations organisation excludeId t))
        delegator delegate := by
  funext a b
  refine propext ?_
  show b ∈ delegatesOf _ _ a ↔ Delegates _ a b ∨ (a = delegator ∧ b = delegate)
  rw [mem_delegatesOf, delegationEdges, List.mem_append, List.mem_singleton, Prod.mk.injEq,
    List.mem_map]
  refine or_congr_left ⟨?_, ?_⟩
  · rintro ⟨d, hd, he⟩
    obtain ⟨ha, hb⟩ := Prod.mk.inj he
    have hactive : d.isActive = true := by
      simp only [otherDelegations, List.mem_filter, decide_eq_true_eq] at hd
      exact hd.2.2.1
    exact ⟨d, hd, hactive, ha, hb⟩
  · rintro ⟨d, hd, -, rfl, rfl⟩
    exact ⟨d, hd, rfl⟩

/-- **The search ends** on every table. -/
theorem searchDelegator_isSome (iterate : SetOrder) (edges : List (EmployeeId × EmployeeId))
    (delegator : EmployeeId) {delegate : EmployeeId} {rounds : ℕ}
    (h : searchRounds iterate edges delegate ≤ rounds) :
    (searchDelegator iterate edges delegator delegate rounds).isSome = true := by
  refine Worklist.search_isSome (searchedEmployees edges delegate) ?_ ?_ h
  · intro v _ w hw
    have hedge : (v, w) ∈ edges := mem_delegatesOf.mp hw
    exact Finset.mem_insert_of_mem (List.mem_toFinset.mpr (List.mem_map_of_mem hedge))
  · intro v hv
    rw [List.mem_singleton.mp hv]
    exact Finset.mem_insert_self _ _

/-- **A delegation is refused** exactly when its delegator is reachable from its
delegate along the other active delegations. -/
theorem validateDelegationLoop_eq_error_iff (iterate : SetOrder) :
    (∃ e, validateDelegationLoop iterate organisation delegator delegate excludeId t = .error e)
      ↔ ReflTransGen (Delegates (otherDelegations organisation excludeId t))
        delegate delegator := by
  unfold validateDelegationLoop
  split
  · next heq =>
    subst heq
    exact ⟨fun _ => .refl, fun _ => ⟨_, rfl⟩⟩
  · dsimp only
    obtain ⟨found, hfound⟩ := Option.isSome_iff_exists.mp (searchDelegator_isSome iterate
      (delegationEdges organisation delegator delegate excludeId t) delegator
      (@le_rfl _ _ (searchRounds iterate _ delegate)))
    have hreach := Worklist.search_eq_some_iff hfound
    rw [edge_delegationEdges] at hreach
    -- a path that uses the new edge has met the delegator before
    have hpath : ReflTransGen (Worklist.InsertEdge
          (Delegates (otherDelegations organisation excludeId t)) delegator delegate)
          delegate delegator
        ↔ ReflTransGen (Delegates (otherDelegations organisation excludeId t))
          delegate delegator :=
      ⟨fun h => (Worklist.reflTransGen_insertEdge h).elim id And.left,
        fun h => ReflTransGen.mono (fun _ _ => Or.inl) _ _ h⟩
    rw [hfound, ← hpath, ← hreach]
    cases found with
    | true => exact ⟨fun _ => rfl, fun _ => ⟨_, rfl⟩⟩
    | false => exact ⟨fun ⟨_, h⟩ => (by cases h), nofun⟩

/-! ## No cycle -/

/-- The rows an update leaves. -/
def remainingRows (excludeId : Option DelegationId) (rows : List DelegationRow) :
    List DelegationRow :=
  rows.filter (fun d => excludeId ≠ some d.id)

variable {employeeOrganisation : EmployeeId → OrganisationId}

/-- **The invariant**: a delegation's employees are of its organisation, and
the active delegations form no cycle. -/
structure DelegationsSound (employeeOrganisation : EmployeeId → OrganisationId)
    (t : DelegationTable) : Prop where
  employees : ∀ d ∈ t.rows, employeeOrganisation d.delegatorEmployee = d.organisation
    ∧ employeeOrganisation d.delegateEmployee = d.organisation
  acyclic : Worklist.Acyclic (Delegates t.rows)

theorem Delegates.mono {rows rows' : List DelegationRow} (h : rows ⊆ rows') {a b : EmployeeId}
    (hab : Delegates rows a b) : Delegates rows' a b :=
  hab.imp (fun _ hd => hd.imp_left (fun hmem => h hmem))

/-- A path of delegations stays in the organisation it starts in. -/
theorem DelegationsSound.reaches_in_organisation (h : DelegationsSound employeeOrganisation t)
    {a b : EmployeeId} (ha : employeeOrganisation a = organisation)
    (hab : ReflTransGen (Delegates (remainingRows excludeId t.rows)) a b) :
    employeeOrganisation b = organisation
      ∧ ReflTransGen (Delegates (otherDelegations organisation excludeId t)) a b := by
  induction hab with
  | refl => exact ⟨ha, .refl⟩
  | tail _ hedge ih =>
    obtain ⟨hb, hreach⟩ := ih
    obtain ⟨d, hd, hactive, rfl, rfl⟩ := hedge
    obtain ⟨hmem, hother⟩ := List.mem_filter.mp hd
    obtain ⟨hdelegator, hdelegate⟩ := h.employees d hmem
    have horganisation : d.organisation = organisation := hdelegator.symm.trans hb
    refine ⟨hdelegate.trans horganisation, hreach.tail ⟨d, ?_, hactive, rfl, rfl⟩⟩
    refine List.mem_filter.mpr ⟨hmem, ?_⟩
    simpa [horganisation, hactive] using hother

/-- **Saving keeps the invariant**, when the table afterwards has the rows that
remain and one row whose delegation passed the search. -/
theorem DelegationsSound.save (h : DelegationsSound employeeOrganisation t) (row : DelegationRow)
    {t' : DelegationTable} (hrows : ∀ d ∈ t'.rows, d = row ∨ d ∈ remainingRows excludeId t.rows)
    (hemployees : employeeOrganisation row.delegatorEmployee = row.organisation
      ∧ employeeOrganisation row.delegateEmployee = row.organisation)
    (hok : validateDelegationLoop iterate row.organisation row.delegatorEmployee
      row.delegateEmployee excludeId t = .ok ()) :
    DelegationsSound employeeOrganisation t' := by
  constructor
  · intro d hd
    rcases hrows d hd with rfl | hd
    · exact hemployees
    · exact h.employees d (List.mem_of_mem_filter hd)
  · have hback : ¬ ReflTransGen (Delegates (remainingRows excludeId t.rows))
        row.delegateEmployee row.delegatorEmployee := by
      intro hreach
      obtain ⟨e, he⟩ := (validateDelegationLoop_eq_error_iff iterate).mpr
        (h.reaches_in_organisation hemployees.2 hreach).2
      rw [hok] at he
      cases he
    have hremaining : Worklist.Acyclic (Delegates (remainingRows excludeId t.rows)) :=
      h.acyclic.mono (fun _ _ => Delegates.mono (fun _ hd => List.mem_of_mem_filter hd))
    refine (hremaining.insert hback).mono ?_
    rintro a b ⟨d, hd, hactive, rfl, rfl⟩
    rcases hrows d hd with rfl | hd
    · exact Or.inr ⟨rfl, rfl⟩
    · exact Or.inl ⟨d, hd, hactive, rfl, rfl⟩

/-- **A save that is accepted keeps the invariant.** -/
theorem DelegationsSound.upsertApprovalDelegation (h : DelegationsSound employeeOrganisation t)
    {payload : DelegationPayload} {now : Time} {delegation : Option DelegationRow}
    (hrow : ∀ row ∈ delegation, row.organisation = organisation) {t' : DelegationTable}
    (hok : upsertApprovalDelegation employeeOrganisation iterate organisation payload now
      delegation t = .ok t') : DelegationsSound employeeOrganisation t' := by
  unfold Approvals.upsertApprovalDelegation at hok
  split at hok
  · cases hok
  · next hscope =>
    obtain ⟨hdelegator, hdelegate⟩ := not_or.mp hscope
    obtain ⟨⟨⟩, hvalid, hok⟩ := bind_eq_ok_iff.mp hok
    split at hok
    · cases hok
    · cases delegation with
      | none =>
        cases hok
        refine h.save (payload.newRow organisation now t.nextId) ?_
          ⟨not_not.mp hdelegator, not_not.mp hdelegate⟩ hvalid
        intro d hd
        rcases List.mem_append.mp hd with hd | hd
        · exact Or.inr (List.mem_filter.mpr ⟨hd, by simp⟩)
        · exact Or.inl (List.mem_singleton.mp hd)
      | some row =>
        cases hok
        obtain rfl := hrow row rfl
        refine h.save (payload.setOn row) ?_
          ⟨not_not.mp hdelegator, not_not.mp hdelegate⟩ hvalid
        intro d hd
        rcases Table.mem_save hd with rfl | ⟨hd, hid⟩
        · exact Or.inl rfl
        · refine Or.inr (List.mem_filter.mpr ⟨hd, ?_⟩)
          have hid : d.id ≠ row.id := hid
          simpa using hid.symm

theorem DelegationsSound.step (h : DelegationsSound employeeOrganisation t)
    (request : DelegationRequest) :
    DelegationsSound employeeOrganisation (delegationStep employeeOrganisation t request) := by
  refine settle_induction h (fun t' hok => ?_)
  split at hok
  · exact h.upsertApprovalDelegation (fun _ hr => by cases hr) hok
  · split at hok
    · cases hok
    · next row hfind =>
      refine h.upsertApprovalDelegation (fun r hr => ?_) hok
      cases hr
      have := List.find?_some hfind
      simp only [decide_eq_true_eq] at this
      exact this.1

theorem delegationsSound_initial : DelegationsSound employeeOrganisation .initial := by
  refine ⟨by simp [DelegationTable.initial], fun v hv => ?_⟩
  obtain ⟨w, ⟨d, hd, -⟩, -⟩ := TransGen.head'_iff.mp hv
  exact List.not_mem_nil hd

end

/-- **Delegations stay acyclic**: after every sequence of requests the active
delegations form no cycle, and on every table the search for a loop ends and
refuses a delegation exactly when its delegator is reachable from its delegate
along the other active delegations of the organisation. -/
theorem delegations_acyclic (employeeOrganisation : EmployeeId → OrganisationId) :
    (∀ requests : List DelegationRequest, Worklist.Acyclic (Delegates
      (Run.exec (delegationStep employeeOrganisation) .initial requests).rows))
    ∧ ∀ (iterate : SetOrder) (organisation : OrganisationId) (delegator delegate : EmployeeId)
        (excludeId : Option DelegationId) (t : DelegationTable),
      (∃ rounds found, ∀ n, rounds ≤ n →
        searchDelegator iterate (delegationEdges organisation delegator delegate excludeId t)
          delegator delegate n = some found)
      ∧ ((∃ e, validateDelegationLoop iterate organisation delegator delegate excludeId t
            = .error e)
          ↔ ReflTransGen (Delegates (otherDelegations organisation excludeId t))
            delegate delegator) := by
  refine ⟨fun requests => ?_, fun iterate organisation delegator delegate excludeId t =>
    ⟨?_, validateDelegationLoop_eq_error_iff iterate⟩⟩
  · exact (Run.invariant (fun _ request h => h.step request) delegationsSound_initial
      requests).acyclic
  · obtain ⟨found, hfound⟩ := Option.isSome_iff_exists.mp
      (searchDelegator_isSome iterate
        (delegationEdges organisation delegator delegate excludeId t) delegator le_rfl)
    exact ⟨_, found, fun n hn => Worklist.search_mono hn hfound⟩

end Approvals
