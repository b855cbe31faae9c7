import Clarisal.Approvals.Services

/-!
# The invariant of the approval engine

`Inv` ties the actions of a run to its stage and status while the workflow is
not edited. The fields that carry the results are `live` (a pending action
belongs to the current stage of a pending run) and `passed` (every stage a run
has left, and every stage of an approved run, reached its quorum).

The engine's transactions are made of a few writes: actions rewritten in
place, a run moved or closed, a row inserted. Each has one lemma here, which
says under what condition the write keeps the invariant.
-/

namespace Approvals

/-- A rewriting of actions that moves none of them. -/
structure KeepsPlace (g : ApprovalAction → ApprovalAction) : Prop where
  id : ∀ a, (g a).id = a.id
  approvalRun : ∀ a, (g a).approvalRun = a.approvalRun
  stage : ∀ a, (g a).stage = a.stage
  approverUser : ∀ a, (g a).approverUser = a.approverUser

namespace KeepsPlace

variable {f g : ApprovalAction → ApprovalAction}

theorem refl : KeepsPlace (fun a => a) :=
  ⟨fun _ => rfl, fun _ => rfl, fun _ => rfl, fun _ => rfl⟩

theorem comp (hg : KeepsPlace g) (hf : KeepsPlace f) : KeepsPlace (g ∘ f) where
  id a := (hg.id _).trans (hf.id a)
  approvalRun a := (hg.approvalRun _).trans (hf.approvalRun a)
  stage a := (hg.stage _).trans (hf.stage a)
  approverUser a := (hg.approverUser _).trans (hf.approverUser a)

/-- Rewriting the selected rows only. -/
theorem select (hf : KeepsPlace f) (p : ApprovalAction → Bool) :
    KeepsPlace (fun a => if p a then f a else a) := by
  constructor <;> intro a <;> cases p a
  · rfl
  · exact hf.id a
  · rfl
  · exact hf.approvalRun a
  · rfl
  · exact hf.stage a
  · rfl
  · exact hf.approverUser a

theorem decide (status : ApprovalActionStatus) (comment : String) (now : Time) :
    KeepsPlace (ApprovalAction.decide status comment now) :=
  ⟨fun _ => rfl, fun _ => rfl, fun _ => rfl, fun _ => rfl⟩

theorem close (status : ApprovalActionStatus) (now : Time) :
    KeepsPlace (ApprovalAction.close status now) :=
  ⟨fun _ => rfl, fun _ => rfl, fun _ => rfl, fun _ => rfl⟩

theorem escalate (now : Time) : KeepsPlace (ApprovalAction.escalate now) :=
  ⟨fun _ => rfl, fun _ => rfl, fun _ => rfl, fun _ => rfl⟩

end KeepsPlace

namespace ApprovalDb

/-- A vote that does not stand in the way of its stage: an approval, or an
action whose escalation replaced it. -/
def Settled (a : ApprovalAction) : Prop :=
  a.status = .approved ∨ (a.status = .cancelled ∧ a.escalatedAt ≠ none)

/-- **The quorum of a stage in a run**: one approval, and under mode ALL no
action that is neither an approval nor replaced by escalation. -/
def QuorumReached (db : ApprovalDb) (r : RunId) (s : ApprovalStage) : Prop :=
  (∃ a ∈ db.actions, a.approvalRun = r ∧ a.stage = s.id ∧ a.status = .approved)
    ∧ (s.mode = .all →
        ∀ a ∈ db.actions, a.approvalRun = r → a.stage = s.id → Settled a)

/-- **The keys of the tables**: identifiers are unique and below the next one,
and every action has its run. -/
structure Keys (db : ApprovalDb) : Prop where
  uniqueRun : Table.Unique ApprovalRun.id db.runs
  uniqueAction : Table.Unique ApprovalAction.id db.actions
  freshRun : ∀ r ∈ db.runs, r.id < db.nextId
  freshAction : ∀ a ∈ db.actions, a.id < db.nextId
  hasRun : ∀ a ∈ db.actions, ∃ r ∈ db.runs, r.id = a.approvalRun

namespace Keys

variable {db : ApprovalDb}

theorem run_eq (h : db.Keys) {r r' : ApprovalRun} (hr : r ∈ db.runs) (hr' : r' ∈ db.runs)
    (hid : r.id = r'.id) : r = r' :=
  h.uniqueRun.eq_of_key hr hr' hid

theorem action_eq (h : db.Keys) {a b : ApprovalAction} (ha : a ∈ db.actions)
    (hb : b ∈ db.actions) (hid : a.id = b.id) : a = b :=
  h.uniqueAction.eq_of_key ha hb hid

/-- No action belongs to a run that is not there yet. -/
theorem run_ne_new (h : db.Keys) {n : RunId} (hn : n = db.nextId) {a : ApprovalAction}
    (ha : a ∈ db.actions) : a.approvalRun ≠ n := by
  obtain ⟨r, hr, hrun⟩ := h.hasRun a ha
  rw [← hrun, hn]
  exact (h.freshRun r hr).ne

theorem mapActions (h : db.Keys) {g : ApprovalAction → ApprovalAction} (hg : KeepsPlace g) :
    Keys { db with actions := db.actions.map g } where
  uniqueRun := h.uniqueRun
  uniqueAction := by
    have : (db.actions.map g).map ApprovalAction.id = db.actions.map ApprovalAction.id := by
      rw [List.map_map]
      exact List.map_congr_left (fun a _ => hg.id a)
    unfold Table.Unique
    rw [this]
    exact h.uniqueAction
  freshRun := h.freshRun
  freshAction := by
    intro b hb
    obtain ⟨a, ha, rfl⟩ := List.mem_map.mp hb
    rw [hg.id]
    exact h.freshAction a ha
  hasRun := by
    intro b hb
    obtain ⟨a, ha, rfl⟩ := List.mem_map.mp hb
    rw [hg.approvalRun]
    exact h.hasRun a ha

theorem updateActions (h : db.Keys) (p : ApprovalAction → Bool)
    {f : ApprovalAction → ApprovalAction} (hf : KeepsPlace f) :
    Keys (db.updateActions p f) :=
  h.mapActions (hf.select p)

theorem insertAction (h : db.Keys) {r : ApprovalRun} (hr : r ∈ db.runs) (now : Time)
    (s : StageId) (a : ApproverAssignment) (e : Option ActionId) :
    Keys (db.insertAction now r.id s a e) where
  uniqueRun := h.uniqueRun
  uniqueAction := h.uniqueAction.append_one (fun a ha => (h.freshAction a ha).ne)
  freshRun := fun r' hr' => (h.freshRun r' hr').trans (Nat.lt_succ_self _)
  freshAction := by
    intro a ha
    rcases List.mem_append.mp ha with ha | ha
    · exact (h.freshAction a ha).trans (Nat.lt_succ_self _)
    · rw [List.mem_singleton.mp ha]
      exact Nat.lt_succ_self _
  hasRun := by
    intro a ha
    rcases List.mem_append.mp ha with ha | ha
    · exact h.hasRun a ha
    · rw [List.mem_singleton.mp ha]
      exact ⟨r, hr, rfl⟩

theorem insertRun (h : db.Keys) {run : ApprovalRun} (hid : run.id = db.nextId) :
    Keys (db.insertRun run) where
  uniqueRun := h.uniqueRun.append_one (fun r hr => hid ▸ (h.freshRun r hr).ne)
  uniqueAction := h.uniqueAction
  freshRun := by
    intro r hr
    rcases List.mem_append.mp hr with hr | hr
    · exact (h.freshRun r hr).trans (Nat.lt_succ_self _)
    · rw [List.mem_singleton.mp hr, hid]
      exact Nat.lt_succ_self _
  freshAction := fun a ha => (h.freshAction a ha).trans (Nat.lt_succ_self _)
  hasRun := by
    intro a ha
    obtain ⟨r, hr, hrun⟩ := h.hasRun a ha
    exact ⟨r, List.mem_append_left _ hr, hrun⟩

theorem updateRun (h : db.Keys) (id : RunId) {f : ApprovalRun → ApprovalRun}
    (hf : ∀ r, (f r).id = r.id) : Keys (db.updateRun id f) where
  uniqueRun := h.uniqueRun.update hf
  uniqueAction := h.uniqueAction
  freshRun := by
    intro r hr
    rcases Table.mem_update_iff.mp hr with ⟨r₀, hr₀, -, rfl⟩ | ⟨hr, -⟩
    · rw [hf]
      exact h.freshRun r₀ hr₀
    · exact h.freshRun r hr
  freshAction := h.freshAction
  hasRun := by
    intro a ha
    obtain ⟨r, hr, hrun⟩ := h.hasRun a ha
    refine ⟨_, Table.mem_update.mpr ⟨r, hr, rfl⟩, ?_⟩
    split
    · exact (hf r).trans hrun
    · exact hrun

theorem setRunStatus (h : db.Keys) (id : RunId) (status : ApprovalRunStatus) :
    Keys (db.setRunStatus id status) :=
  h.updateRun id (fun _ => rfl)

theorem setCurrentStage (h : db.Keys) (id : RunId) (n : ℕ) :
    Keys (db.setCurrentStage id n) :=
  h.updateRun id (fun _ => rfl)

end Keys

/-- **The engine's invariant.** -/
structure Inv (db : ApprovalDb) : Prop extends Keys db where
  /-- Every action has its run and its stage, which the run has reached. -/
  placed : ∀ a ∈ db.actions, ∃ r ∈ db.runs, r.id = a.approvalRun ∧
    ∃ s ∈ db.stages.rows, s.id = a.stage ∧ s.workflow = r.workflow
      ∧ s.sequence ≤ r.currentStageSequence
  /-- A pending action is of the current stage of a pending run. -/
  live : ∀ a ∈ db.actions, a.status = .pending → ∀ r ∈ db.runs, r.id = a.approvalRun →
    r.status = .pending
      ∧ ∀ s ∈ db.stages.rows, s.id = a.stage → s.sequence = r.currentStageSequence
  /-- A stage that was left, or that an approved run has, reached its quorum. -/
  passed : ∀ r ∈ db.runs, ∀ s ∈ db.stages.rows, s.workflow = r.workflow →
    s.sequence < r.currentStageSequence ∨ r.status = .approved → db.QuorumReached r.id s
  /-- In a pending run only pending votes are open under mode ALL. -/
  votes : ∀ r ∈ db.runs, r.status = .pending → ∀ s ∈ db.stages.rows, s.mode = .all →
    ∀ a ∈ db.actions, a.approvalRun = r.id → a.stage = s.id →
      a.status = .pending ∨ Settled a

namespace Inv

variable {db : ApprovalDb}

/-- An action of a stage that was left, or of an approved run, is decided. -/
theorem decided_of_passed (h : db.Inv) {a : ApprovalAction} (ha : a ∈ db.actions)
    {r : ApprovalRun} (hr : r ∈ db.runs) (har : a.approvalRun = r.id)
    {s : ApprovalStage} (hs : s ∈ db.stages.rows) (has : a.stage = s.id)
    (hp : s.sequence < r.currentStageSequence ∨ r.status = .approved) :
    a.status ≠ .pending := by
  intro hpending
  obtain ⟨hrun, hstage⟩ := h.live a ha hpending r hr har.symm
  rcases hp with hlt | happroved
  · exact hlt.ne (hstage s hs has.symm)
  · rw [hrun] at happroved
    cases happroved

end Inv

/-- A quorum survives a rewriting that leaves the stage's decided actions
alone and opens none. -/
theorem QuorumReached.map {db db' : ApprovalDb} {r : RunId} {s : ApprovalStage}
    {g : ApprovalAction → ApprovalAction} (hg : KeepsPlace g)
    (hfix : ∀ a ∈ db.actions, a.approvalRun = r → a.stage = s.id → g a = a)
    (hactions : db'.actions = db.actions.map g) (h : db.QuorumReached r s) :
    db'.QuorumReached r s := by
  obtain ⟨⟨a, ha, har, has, happroved⟩, hall⟩ := h
  constructor
  · refine ⟨a, ?_, har, has, happroved⟩
    rw [hactions]
    exact List.mem_map.mpr ⟨a, ha, hfix a ha har has⟩
  · intro hmode b hb hbr hbs
    rw [hactions] at hb
    obtain ⟨c, hc, rfl⟩ := List.mem_map.mp hb
    have hcr : c.approvalRun = r := (hg.approvalRun c).symm.trans hbr
    have hcs : c.stage = s.id := (hg.stage c).symm.trans hbs
    rw [hfix c hc hcr hcs]
    exact hall hmode c hc hcr hcs

/-- A quorum survives a new action of another run or stage. -/
theorem QuorumReached.append {db db' : ApprovalDb} {r : RunId} {s : ApprovalStage}
    {new : ApprovalAction} (hnew : ¬ (new.approvalRun = r ∧ new.stage = s.id))
    (hactions : db'.actions = db.actions ++ [new]) (h : db.QuorumReached r s) :
    db'.QuorumReached r s := by
  obtain ⟨⟨a, ha, har, has, happroved⟩, hall⟩ := h
  constructor
  · exact ⟨a, by rw [hactions]; exact List.mem_append_left _ ha, har, has, happroved⟩
  · intro hmode b hb hbr hbs
    rw [hactions] at hb
    rcases List.mem_append.mp hb with hb | hb
    · exact hall hmode b hb hbr hbs
    · rw [List.mem_singleton.mp hb] at hbr hbs
      exact absurd ⟨hbr, hbs⟩ hnew

theorem QuorumReached.congr {db db' : ApprovalDb} {r : RunId} {s : ApprovalStage}
    (hactions : db'.actions = db.actions) (h : db.QuorumReached r s) :
    db'.QuorumReached r s := by
  unfold QuorumReached at *
  rwa [hactions]

namespace Inv

variable {db : ApprovalDb}

/-- **Rewriting pending actions** keeps the invariant when it casts no vote
that would block a stage of mode ALL. -/
theorem mapActions (h : db.Inv) {g : ApprovalAction → ApprovalAction} (hg : KeepsPlace g)
    (hfix : ∀ a ∈ db.actions, a.status ≠ .pending → g a = a)
    (hvote : ∀ a ∈ db.actions, a.status = .pending → ∀ s ∈ db.stages.rows, s.id = a.stage →
      s.mode = .all → (g a).status = .pending ∨ Settled (g a)) :
    Inv { db with actions := db.actions.map g } where
  toKeys := h.toKeys.mapActions hg
  placed := by
    intro b hb
    obtain ⟨a, ha, rfl⟩ := List.mem_map.mp hb
    rw [hg.approvalRun, hg.stage]
    exact h.placed a ha
  live := by
    intro b hb hpending
    obtain ⟨a, ha, rfl⟩ := List.mem_map.mp hb
    rw [hg.approvalRun, hg.stage]
    by_cases hap : a.status = .pending
    · exact h.live a ha hap
    · rw [hfix a ha hap] at hpending
      exact absurd hpending hap
  passed := by
    intro r hr s hs hw hp
    refine (h.passed r hr s hs hw hp).map hg (fun a ha har has => ?_) rfl
    exact hfix a ha (h.decided_of_passed ha hr har hs has hp)
  votes := by
    intro r hr hpending s hs hmode b hb hbr hbs
    obtain ⟨a, ha, rfl⟩ := List.mem_map.mp hb
    rw [hg.approvalRun] at hbr
    rw [hg.stage] at hbs
    by_cases hap : a.status = .pending
    · exact hvote a ha hap s hs hbs.symm hmode
    · rw [hfix a ha hap]
      exact h.votes r hr hpending s hs hmode a ha hbr hbs

/-- The rewriting as an update of selected pending rows. -/
theorem updateActions (h : db.Inv) {p : ApprovalAction → Bool}
    {f : ApprovalAction → ApprovalAction} (hf : KeepsPlace f)
    (hp : ∀ a ∈ db.actions, p a = true → a.status = .pending)
    (hvote : ∀ a ∈ db.actions, p a = true → ∀ s ∈ db.stages.rows, s.id = a.stage →
      s.mode = .all → Settled (f a)) :
    Inv (db.updateActions p f) := by
  refine h.mapActions (hf.select p) ?_ ?_
  · intro a ha hne
    exact if_neg (fun hpa => hne (hp a ha hpa))
  · intro a ha hpending s hs hsa hmode
    cases hpa : p a with
    | true => exact Or.inr (by simpa [hpa] using hvote a ha hpa s hs hsa hmode)
    | false => exact Or.inl (by simpa [hpa] using hpending)

/-- **Inserting an action** at the current stage of a pending run. -/
theorem insertAction (h : db.Inv) {r : ApprovalRun} (hr : r ∈ db.runs)
    (hpending : r.status = .pending) {s : ApprovalStage} (hs : s ∈ db.stages.rows)
    (hw : s.workflow = r.workflow) (hseq : s.sequence = r.currentStageSequence)
    (now : Time) (assignment : ApproverAssignment) (escalatedFrom : Option ActionId) :
    Inv (db.insertAction now r.id s.id assignment escalatedFrom) where
  toKeys := h.toKeys.insertAction hr _ _ _ _
  placed := by
    intro a ha
    rcases List.mem_append.mp ha with ha | ha
    · exact h.placed a ha
    · rw [List.mem_singleton.mp ha]
      exact ⟨r, hr, rfl, s, hs, rfl, hw, hseq.le⟩
  live := by
    intro a ha hap r' hr' hrun
    rcases List.mem_append.mp ha with ha | ha
    · exact h.live a ha hap r' hr' hrun
    · rw [List.mem_singleton.mp ha] at hrun ⊢
      rw [h.run_eq hr' hr hrun]
      refine ⟨hpending, fun s' hs' hsid => ?_⟩
      rw [db.stages.eq_of_id hs' hs hsid, hseq]
  passed := by
    intro r' hr' s' hs' hw' hp
    refine (h.passed r' hr' s' hs' hw' hp).append ?_ rfl
    rintro ⟨hrun, hstage⟩
    obtain rfl := h.run_eq hr hr' hrun
    obtain rfl := db.stages.eq_of_id hs hs' hstage
    rcases hp with hlt | happroved
    · exact hlt.ne hseq
    · rw [hpending] at happroved
      cases happroved
  votes := by
    intro r' hr' hp' s' hs' hmode a ha har has
    rcases List.mem_append.mp ha with ha | ha
    · exact h.votes r' hr' hp' s' hs' hmode a ha har has
    · rw [List.mem_singleton.mp ha]
      exact Or.inl rfl

/-- **Inserting a run** below every stage of its workflow. -/
theorem insertRun (h : db.Inv) {run : ApprovalRun} (hid : run.id = db.nextId)
    (hpending : run.status = .pending)
    (hfirst : ∀ s ∈ db.stages.rows, s.workflow = run.workflow →
      run.currentStageSequence ≤ s.sequence) :
    Inv (db.insertRun run) where
  toKeys := h.toKeys.insertRun hid
  placed := by
    intro a ha
    obtain ⟨r, hr, hplaced⟩ := h.placed a ha
    exact ⟨r, List.mem_append_left _ hr, hplaced⟩
  live := by
    intro a ha hap r hr hrun
    rcases List.mem_append.mp hr with hr | hr
    · exact h.live a ha hap r hr hrun
    · rw [List.mem_singleton.mp hr] at hrun
      exact absurd hrun.symm (h.run_ne_new hid ha)
  passed := by
    intro r hr s hs hw hp
    rcases List.mem_append.mp hr with hr | hr
    · exact (h.passed r hr s hs hw hp).congr rfl
    · rw [List.mem_singleton.mp hr] at hw hp
      rcases hp with hlt | happroved
      · exact absurd (hfirst s hs hw) (not_le.mpr hlt)
      · rw [hpending] at happroved
        cases happroved
  votes := by
    intro r hr hp s hs hmode a ha har has
    rcases List.mem_append.mp hr with hr | hr
    · exact h.votes r hr hp s hs hmode a ha har has
    · rw [List.mem_singleton.mp hr] at har
      exact absurd har (h.run_ne_new hid ha)

/-- The run `r` has no pending action. -/
def NoPending (db : ApprovalDb) (r : RunId) : Prop :=
  ∀ a ∈ db.actions, a.approvalRun = r → a.status ≠ .pending

/-- **Moving or closing a run**, together with rewriting its pending actions,
none of which stays pending: the stages it leaves behind must have reached
their quorum. A run that stays pending keeps its actions as they are. -/
theorem moveRun (h : db.Inv) {r : ApprovalRun} (hr : r ∈ db.runs)
    {f : ApprovalRun → ApprovalRun} {g : ApprovalAction → ApprovalAction}
    (hid : ∀ r, (f r).id = r.id) (hw : (f r).workflow = r.workflow)
    (hcur : r.currentStageSequence ≤ (f r).currentStageSequence)
    (hg : KeepsPlace g)
    (hfix : ∀ a ∈ db.actions, a.status ≠ .pending ∨ a.approvalRun ≠ r.id → g a = a)
    (hnone : ∀ a ∈ db.actions, a.approvalRun = r.id → (g a).status ≠ .pending)
    (hstatus : (f r).status = .pending →
      r.status = .pending ∧ ∀ a ∈ db.actions, g a = a)
    (hpassed : ∀ s ∈ db.stages.rows, s.workflow = r.workflow →
      s.sequence < (f r).currentStageSequence ∨ (f r).status = .approved →
      s.sequence < r.currentStageSequence ∨
        ((∀ a ∈ db.actions, g a = a) ∧ db.QuorumReached r.id s)) :
    Inv { db.updateRun r.id f with actions := db.actions.map g } := by
  have hrow : ∀ r' ∈ (db.updateRun r.id f).runs,
      r' = f r ∨ (r' ∈ db.runs ∧ r'.id ≠ r.id) := by
    intro r' hr'
    obtain ⟨r₀, hr₀, rfl⟩ := Table.mem_update.mp hr'
    by_cases heq : r₀.id = r.id
    · rw [h.run_eq hr₀ hr heq]
      exact Or.inl (by simp)
    · exact Or.inr (by simpa [heq] using hr₀)
  have hkeep : ∀ r₀ ∈ db.runs, r₀.id ≠ r.id → r₀ ∈ (db.updateRun r.id f).runs := by
    intro r₀ hr₀ hne
    exact Table.mem_update.mpr ⟨r₀, hr₀, by simp [hne]⟩
  have hself : f r ∈ (db.updateRun r.id f).runs :=
    Table.mem_update.mpr ⟨r, hr, by simp⟩
  have hquorum : ∀ r₀ ∈ db.runs, ∀ s ∈ db.stages.rows, s.workflow = r₀.workflow →
      s.sequence < r₀.currentStageSequence ∨ r₀.status = .approved →
      QuorumReached { db.updateRun r.id f with actions := db.actions.map g } r₀.id s := by
    intro r₀ hr₀ s hs hsw hp
    refine (h.passed r₀ hr₀ s hs hsw hp).map hg (fun a ha har has => ?_) rfl
    exact hfix a ha (Or.inl (h.decided_of_passed ha hr₀ har hs has hp))
  constructor
  case toKeys => exact (h.toKeys.updateRun r.id hid).mapActions hg
  case placed =>
    intro b hb
    obtain ⟨a, ha, rfl⟩ := List.mem_map.mp hb
    rw [hg.approvalRun, hg.stage]
    obtain ⟨r₀, hr₀, hrun, s, hs, hsid, hsw, hle⟩ := h.placed a ha
    by_cases heq : r₀.id = r.id
    · obtain rfl := h.run_eq hr₀ hr heq
      exact ⟨f r₀, hself, (hid r₀).trans hrun, s, hs, hsid, hsw.trans hw.symm, hle.trans hcur⟩
    · exact ⟨r₀, hkeep r₀ hr₀ heq, hrun, s, hs, hsid, hsw, hle⟩
  case live =>
    intro b hb hpending r' hr' hrun
    obtain ⟨a, ha, rfl⟩ := List.mem_map.mp hb
    rw [hg.approvalRun] at hrun
    rw [hg.stage]
    rcases hrow r' hr' with rfl | ⟨hr', hne⟩
    · exact absurd hpending (hnone a ha (hrun.symm.trans (hid r)))
    · rw [hfix a ha (Or.inr (hrun ▸ hne))] at hpending
      exact h.live a ha hpending r' hr' hrun
  case passed =>
    intro r' hr' s hs hsw hp
    rcases hrow r' hr' with rfl | ⟨hr', -⟩
    · rw [hid]
      rw [hw] at hsw
      rcases hpassed s hs hsw hp with hlt | ⟨hgid, hq⟩
      · exact hquorum r hr s hs hsw (Or.inl hlt)
      · exact hq.map hg (fun a ha _ _ => hgid a ha) rfl
    · exact hquorum r' hr' s hs hsw hp
  case votes =>
    intro r' hr' hpending s hs hmode b hb hbr hbs
    obtain ⟨a, ha, rfl⟩ := List.mem_map.mp hb
    rw [hg.approvalRun] at hbr
    rw [hg.stage] at hbs
    rcases hrow r' hr' with rfl | ⟨hr', hne⟩
    · obtain ⟨hrp, hgid⟩ := hstatus hpending
      rw [hgid a ha]
      exact h.votes r hr hrp s hs hmode a ha (hbr.trans (hid r)) hbs
    · rw [hfix a ha (Or.inr (hbr ▸ hne))]
      exact h.votes r' hr' hpending s hs hmode a ha hbr hbs

/-- **The run goes on to a later stage.** -/
theorem setCurrentStage (h : db.Inv) {r : ApprovalRun} (hr : r ∈ db.runs)
    (hpending : r.status = .pending) (hnone : NoPending db r.id) {n : ℕ}
    (hn : r.currentStageSequence ≤ n)
    (hpassed : ∀ s ∈ db.stages.rows, s.workflow = r.workflow → s.sequence < n →
      s.sequence < r.currentStageSequence ∨ db.QuorumReached r.id s) :
    Inv (db.setCurrentStage r.id n) := by
  have := h.moveRun hr (f := fun run => { run with currentStageSequence := n }) (g := fun a => a)
    (fun _ => rfl) rfl hn .refl (fun _ _ _ => rfl) hnone (fun _ => ⟨hpending, fun _ _ => rfl⟩)
    (by
      intro s hs hsw hp
      rcases hp with hlt | happroved
      · exact (hpassed s hs hsw hlt).imp_right (fun hq => ⟨fun _ _ => rfl, hq⟩)
      · rw [show r.status = .approved from happroved] at hpending
        cases hpending)
  rwa [List.map_id'] at this

/-- **The run is approved** after its last stage. -/
theorem setApproved (h : db.Inv) {r : ApprovalRun} (hr : r ∈ db.runs)
    (hnone : NoPending db r.id)
    (hpassed : ∀ s ∈ db.stages.rows, s.workflow = r.workflow →
      s.sequence < r.currentStageSequence ∨ db.QuorumReached r.id s) :
    Inv (db.setRunStatus r.id .approved) := by
  have := h.moveRun hr (f := fun run => { run with status := .approved }) (g := fun a => a)
    (fun _ => rfl) rfl le_rfl .refl (fun _ _ _ => rfl) hnone (fun hp => nomatch hp)
    (fun s hs hsw _ => (hpassed s hs hsw).imp_right (fun hq => ⟨fun _ _ => rfl, hq⟩))
  rwa [List.map_id'] at this

/-- **The run is closed without approval**, and its pending actions with it. -/
theorem close (h : db.Inv) {r : ApprovalRun} (hr : r ∈ db.runs)
    {status : ApprovalRunStatus} (hstatus : status = .rejected ∨ status = .cancelled)
    {g : ApprovalAction → ApprovalAction} (hg : KeepsPlace g)
    (hfix : ∀ a ∈ db.actions, a.status ≠ .pending ∨ a.approvalRun ≠ r.id → g a = a)
    (hnone : ∀ a ∈ db.actions, a.approvalRun = r.id → (g a).status ≠ .pending) :
    Inv { db.setRunStatus r.id status with actions := db.actions.map g } := by
  refine h.moveRun hr (f := fun run => { run with status := status }) (fun _ => rfl) rfl le_rfl
    hg hfix hnone ?_ ?_
  · intro hp
    rcases hstatus with rfl | rfl <;> cases hp
  · intro s _ _ hp
    rcases hp with hlt | happroved
    · exact Or.inl hlt
    · rcases hstatus with rfl | rfl <;> cases happroved

end Inv

end ApprovalDb

end Approvals
