import Clarisal.Performance.AppraisalCycles

/-!
# Deadlines of the phases

The scheduled task advances a cycle when a deadline has come and the items of its phase are
submitted. The deadline it looks at is that of the next phase: a cycle leaves its
self-assessments when the peer reviews are due, and is in the peer reviews from the day they
are due. So a phase whose own deadline has come goes on, and one may end before its deadline
(`overdue_goes_on`).

The task follows the deadlines exactly when, for every cycle whose items are submitted, the
two deadlines have both come or neither, and no cycle that is advanced is overdue in its next
phase (`followsDeadlines_iff_onTime`).
-/

open Calendar Transaction

namespace Performance

/-! ## Phases and their deadlines -/

/-- The phases with a deadline of their own. -/
def CycleStatus.IsReviewPhase (s : CycleStatus) : Prop :=
  s = .selfAssessment ∨ s = .peerReview ∨ s = .managerReview

instance (s : CycleStatus) : Decidable s.IsReviewPhase :=
  inferInstanceAs (Decidable (_ ∨ _))

/-- The deadline of the phase a cycle is in. -/
def AppraisalCycle.ownDeadline (c : AppraisalCycle) : Option Date :=
  match c.status with
  | .selfAssessment => c.selfAssessmentDeadline
  | .peerReview => c.peerReviewDeadline
  | .managerReview => c.managerReviewDeadline
  | _ => none

/-- **The items of the phase are submitted**: the self-assessments, the peer feedback, or the
manager reviews where the review type has them. -/
def Submitted (t : PerformanceTables) (c : AppraisalCycle) : Prop :=
  (c.status = .selfAssessment → ∀ r ∈ t.reviews, r.key.cycle = c.id →
      r.key.relationship = .self → r.status = .submitted)
    ∧ (c.status = .peerReview → ∀ f ∈ t.feedbackRequests, f.cycle = c.id →
      f.status = .submitted)
    ∧ (c.status = .managerReview → c.reviewType.HasManagerPhase → ∀ r ∈ t.reviews,
      r.key.cycle = c.id → r.key.relationship = .manager → r.status = .submitted)

instance (t : PerformanceTables) (c : AppraisalCycle) : Decidable (Submitted t c) :=
  inferInstanceAs (Decidable (_ ∧ _ ∧ _))

/-- The deadline is on the date or before it. -/
def HasCome (today : Date) (deadline : Option Date) : Prop := ∃ d ∈ deadline, d ≤ today

instance (today : Date) (deadline : Option Date) : Decidable (HasCome today deadline) :=
  inferInstanceAs (Decidable (∃ d ∈ deadline, _))

/-- **The phase is over**: its own deadline has come, and its items are submitted. -/
def Overdue (today : Date) (t : PerformanceTables) (c : AppraisalCycle) : Prop :=
  HasCome today c.ownDeadline ∧ Submitted t c

instance (today : Date) (t : PerformanceTables) (c : AppraisalCycle) :
    Decidable (Overdue today t c) :=
  inferInstanceAs (Decidable (_ ∧ _))

/-- **The task follows the deadlines**: it only ends phases that are over, and leaves none. -/
structure FollowsDeadlines (today : Date) (t : PerformanceTables) : Prop where
  sound : ∀ c ∈ t.cycles, c.status.IsReviewPhase →
    ∀ c' ∈ (autoAdvanceReviewCycles today t).cycles, c'.id = c.id → c'.status ≠ c.status →
      Overdue today t c
  complete : ∀ c ∈ (autoAdvanceReviewCycles today t).cycles,
    ¬ Overdue today (autoAdvanceReviewCycles today t) c

/-! ## When it does -/

/-- The goal cycles that are due. -/
def dueGoalCycles (today : Date) (t : PerformanceTables) : List GoalCycle :=
  t.goalCycles.filter (fun g => g.autoCreateReviewCycle ∧ g.endDate ≤ today)

/-- Every goal cycle that is due has its review cycle, or one can be created. -/
def CanTrigger (today : Date) (t : PerformanceTables) : Prop :=
  ∀ g ∈ dueGoalCycles today t,
    (∃ c ∈ t.cycles, c.goalCycle = some g.id) ∨ (reviewCycleFields g).isSome = true

instance (today : Date) (t : PerformanceTables) : Decidable (CanTrigger today t) :=
  inferInstanceAs (Decidable (∀ g ∈ _, _ ∨ _))

/-- **The cycle is on time**: once its items are submitted, the deadline that is looked at has
come when its own has; and where it is advanced, its next phase is not over as well. -/
structure OnTime (today : Date) (t : PerformanceTables) (c : AppraisalCycle) : Prop where
  agree : c.status.IsReviewPhase → Submitted t c →
    (HasCome today c.deadline ↔ HasCome today c.ownDeadline)
  next : HasCome today c.deadline → ∀ s, nextStatus c t = .ok s →
    ¬ Overdue today t { c with status := s }

/-- **Every cycle is on time.** When the task stops before it comes to the cycles, no phase
may be over. -/
def AllOnTime (today : Date) (t : PerformanceTables) : Prop :=
  if CanTrigger today t then ∀ c ∈ t.cycles, OnTime today t c
  else ∀ c ∈ t.cycles, ¬ Overdue today t c

/-- What the keys ensure: rows are told apart, and a new cycle has a new one. -/
structure CycleKeys (t : PerformanceTables) : Prop where
  unique : Table.Unique AppraisalCycle.id t.cycles
  fresh : ∀ c ∈ t.cycles, c.id < t.nextId
  goalCycles : Table.Unique GoalCycle.id t.goalCycles

variable {today : Date} {t t' : PerformanceTables} {c : AppraisalCycle} {s : CycleStatus}

/-! ### One phase -/

theorem ensureReviewsSubmitted_eq_ok_iff {relationship : ReviewRelationship} {message : String} :
    ensureReviewsSubmitted c relationship message t = .ok ()
      ↔ ∀ r ∈ t.reviews, r.key.cycle = c.id → r.key.relationship = relationship →
        r.status = .submitted := by
  unfold ensureReviewsSubmitted
  split
  · next hpending =>
    obtain ⟨r, hr, hcycle, hrelationship, hstatus⟩ := hpending
    exact iff_of_false (fun h => by cases h) (fun h => hstatus (h r hr hcycle hrelationship))
  · next hnone =>
    refine iff_of_true rfl (fun r hr hcycle hrelationship => ?_)
    by_contra hstatus
    exact hnone ⟨r, hr, hcycle, hrelationship, hstatus⟩

theorem ensureFeedbackSubmitted_eq_ok_iff :
    ensureFeedbackSubmitted c t = .ok ()
      ↔ ∀ f ∈ t.feedbackRequests, f.cycle = c.id → f.status = .submitted := by
  unfold ensureFeedbackSubmitted
  split
  · next hpending =>
    obtain ⟨f, hf, hcycle, hstatus⟩ := hpending
    exact iff_of_false (fun h => by cases h) (fun h => hstatus (h f hf hcycle))
  · next hnone =>
    refine iff_of_true rfl (fun f hf hcycle => ?_)
    by_contra hstatus
    exact hnone ⟨f, hf, hcycle, hstatus⟩

/-- A check followed by a value. -/
theorem exists_bind_pure_iff {ε α : Type} {check : Except ε Unit} {a : α} :
    (∃ s, (check >>= fun _ => pure a) = Except.ok s) ↔ check = .ok () := by
  cases check with
  | error e => exact iff_of_false (fun ⟨_, h⟩ => by cases h) (fun h => by cases h)
  | ok u => exact iff_of_true ⟨a, rfl⟩ rfl

/-- **A phase can be left** when its items are submitted. -/
theorem exists_nextStatus_iff (hphase : c.status.IsReviewPhase) :
    (∃ s, nextStatus c t = .ok s) ↔ Submitted t c := by
  unfold nextStatus Submitted
  rcases hphase with hstatus | hstatus | hstatus <;> rw [hstatus]
  · rw [exists_bind_pure_iff, ensureReviewsSubmitted_eq_ok_iff]
    simp
  · rw [exists_bind_pure_iff, ensureFeedbackSubmitted_eq_ok_iff]
    simp
  · dsimp only
    split
    · next hmanager =>
      rw [exists_bind_pure_iff, ensureReviewsSubmitted_eq_ok_iff]
      simp [hmanager]
    · next hmanager => simp [hmanager]

/-- A cycle that advances has another status. -/
theorem nextStatus_ne (h : nextStatus c t = .ok s) : s ≠ c.status := by
  unfold nextStatus at h
  split at h
  · next hstatus => exact Except.ok.inj h ▸ hstatus ▸ by decide
  · next hstatus =>
    obtain ⟨-, -, h⟩ := bind_eq_ok_iff.mp h
    rw [← pure_eq_ok_iff.mp h, hstatus]
    cases c.reviewType <;> decide
  · next hstatus =>
    obtain ⟨-, -, h⟩ := bind_eq_ok_iff.mp h
    rw [← pure_eq_ok_iff.mp h, hstatus]
    decide
  · next hstatus =>
    rw [hstatus]
    split at h
    · obtain ⟨-, -, h⟩ := bind_eq_ok_iff.mp h
      exact pure_eq_ok_iff.mp h ▸ by decide
    · exact Except.ok.inj h ▸ by decide
  · cases h

/-- A cycle that is overdue is in a phase with a deadline. -/
theorem Overdue.isReviewPhase (h : Overdue today t c) : c.status.IsReviewPhase := by
  obtain ⟨⟨d, hd, -⟩, -⟩ := h
  unfold AppraisalCycle.ownDeadline at hd
  unfold CycleStatus.IsReviewPhase
  cases hstatus : c.status <;> simp_all

/-! ### All cycles -/

/-- The items of the phases are the same. -/
structure SameItems (t t' : PerformanceTables) : Prop where
  reviews : t'.reviews = t.reviews
  feedbackRequests : t'.feedbackRequests = t.feedbackRequests

theorem SameItems.refl (t : PerformanceTables) : SameItems t t := ⟨rfl, rfl⟩

theorem SameItems.trans {t'' : PerformanceTables} (h : SameItems t t') (h' : SameItems t' t'') :
    SameItems t t'' :=
  ⟨h'.reviews.trans h.reviews, h'.feedbackRequests.trans h.feedbackRequests⟩

theorem SameItems.nextStatus_eq (h : SameItems t t') (c : AppraisalCycle) :
    nextStatus c t' = nextStatus c t := by
  unfold nextStatus ensureReviewsSubmitted ensureFeedbackSubmitted
  rw [h.reviews, h.feedbackRequests]

theorem SameItems.overdue_iff (h : SameItems t t') :
    Overdue today t' c ↔ Overdue today t c := by
  unfold Overdue Submitted
  rw [h.reviews, h.feedbackRequests]

theorem SameItems.onTime_iff (h : SameItems t t') : OnTime today t' c ↔ OnTime today t c := by
  have hsubmitted : Submitted t' c ↔ Submitted t c := by
    unfold Submitted
    rw [h.reviews, h.feedbackRequests]
  constructor
  · intro hc
    refine ⟨fun hphase hitems => hc.agree hphase (hsubmitted.mpr hitems), fun hcome s hs => ?_⟩
    rw [← h.overdue_iff]
    exact hc.next hcome s (by rwa [h.nextStatus_eq])
  · intro hc
    refine ⟨fun hphase hitems => hc.agree hphase (hsubmitted.mp hitems), fun hcome s hs => ?_⟩
    rw [h.overdue_iff]
    exact hc.next hcome s (by rwa [← h.nextStatus_eq])

/-- **A cycle after the task came to it.** -/
def advanced (today : Date) (t : PerformanceTables) (c : AppraisalCycle) : AppraisalCycle :=
  if HasCome today c.deadline then
    match nextStatus c t with
    | .error _ => c
    | .ok s => { c with status := s }
  else c

@[simp] theorem advanced_id : (advanced today t c).id = c.id := by
  unfold advanced
  split
  · split <;> rfl
  · rfl

theorem SameItems.advanced_eq (h : SameItems t t') (c : AppraisalCycle) :
    advanced today t' c = advanced today t c := by
  unfold advanced
  rw [h.nextStatus_eq]

/-- **What a cycle comes to**: the next status of a phase whose looked-at deadline has come,
or nothing else. -/
theorem advanced_cases (today : Date) (t : PerformanceTables) (c : AppraisalCycle) :
    (∃ s, HasCome today c.deadline ∧ nextStatus c t = .ok s
        ∧ advanced today t c = { c with status := s })
      ∨ advanced today t c = c ∧ ¬ (HasCome today c.deadline ∧ ∃ s, nextStatus c t = .ok s) := by
  unfold advanced
  split
  · next hcome =>
    split
    · next message herror =>
      refine Or.inr ⟨rfl, fun ⟨_, s, hs⟩ => ?_⟩
      rw [herror] at hs
      cases hs
    · next s hs => exact Or.inl ⟨s, hcome, hs, rfl⟩
  · next hnot => exact Or.inr ⟨rfl, fun h => hnot h.1⟩

variable (today) in
/-- **The task comes to one cycle**, and leaves the other rows. -/
theorem advanceWhenDue_spec (hunique : Table.Unique AppraisalCycle.id t.cycles)
    (hc : c ∈ t.cycles) :
    SameItems t (advanceWhenDue today t c)
      ∧ (advanceWhenDue today t c).cycles
        = t.cycles.map (fun x => if x.id = c.id then advanced today t x else x) := by
  have hself : ∀ f : AppraisalCycle → AppraisalCycle, f c = advanced today t c →
      t.cycles.map (fun x => if x.id = c.id then f x else x)
        = t.cycles.map (fun x => if x.id = c.id then advanced today t x else x) := by
    intro f hf
    refine List.map_congr_left fun x hx => ?_
    split
    · next hid => rw [hunique.eq_of_key hx hc hid, hf]
    · rfl
  have hstays : advanced today t c = c → advanceWhenDue today t c = t →
      SameItems t (advanceWhenDue today t c)
        ∧ (advanceWhenDue today t c).cycles
          = t.cycles.map (fun x => if x.id = c.id then advanced today t x else x) := by
    intro hsame hnot
    rw [hnot, ← hself id hsame.symm]
    exact ⟨.refl t, by simp⟩
  have hcome : (c.deadline.any (fun deadline => deadline ≤ today)) = true
      ↔ HasCome today c.deadline := by
    unfold HasCome
    cases c.deadline <;> simp
  by_cases hdue : HasCome today c.deadline
  · cases hnext : nextStatus c t with
    | error message =>
      refine hstays (by rw [advanced, if_pos hdue, hnext]) ?_
      unfold advanceWhenDue advanceAppraisalCyclePhase
      rw [if_pos (hcome.mpr hdue), hnext]
      rfl
    | ok s =>
      have hset : advanceWhenDue today t c = t.setCycleStatus c.id s := by
        unfold advanceWhenDue advanceAppraisalCyclePhase
        rw [if_pos (hcome.mpr hdue), hnext]
        rfl
      rw [hset]
      refine ⟨⟨rfl, rfl⟩, ?_⟩
      rw [← hself (fun x => { x with status := s }) (by rw [advanced, if_pos hdue, hnext])]
      exact List.map_congr_left fun x _ => by simp
  · refine hstays (by rw [advanced, if_neg hdue]) ?_
    unfold advanceWhenDue
    rw [if_neg (hcome.not.mpr hdue)]

variable (today) in
/-- **The task comes to some cycles**, one by one. -/
theorem advanceWhenDue_foldl_spec (cs : List AppraisalCycle)
    (hunique : Table.Unique AppraisalCycle.id t.cycles) (hcs : ∀ c ∈ cs, c ∈ t.cycles)
    (honce : Table.Unique AppraisalCycle.id cs) :
    SameItems t (cs.foldl (advanceWhenDue today) t)
      ∧ (cs.foldl (advanceWhenDue today) t).cycles = t.cycles.map (fun x =>
        if x.id ∈ cs.map AppraisalCycle.id then advanced today t x else x) := by
  induction cs generalizing t with
  | nil => exact ⟨.refl t, by simp⟩
  | cons c cs ih =>
    obtain ⟨hnew, hrest⟩ := List.nodup_cons.mp honce
    obtain ⟨hitems, hcycles⟩ := advanceWhenDue_spec today hunique
      (hcs c List.mem_cons_self)
    have hkeys : (advanceWhenDue today t c).cycles.map AppraisalCycle.id
        = t.cycles.map AppraisalCycle.id := by
      rw [hcycles, List.map_map]
      refine List.map_congr_left fun x _ => ?_
      simp only [Function.comp_apply]
      split <;> simp
    have hothers : ∀ c' ∈ cs, c' ∈ (advanceWhenDue today t c).cycles := by
      intro c' hc'
      have hne : c'.id ≠ c.id := fun hid => hnew (hid ▸ List.mem_map_of_mem hc')
      rw [hcycles]
      exact List.mem_map.mpr ⟨c', hcs c' (List.mem_cons_of_mem _ hc'), if_neg hne⟩
    obtain ⟨hitems', hcycles'⟩ := ih (t := advanceWhenDue today t c)
      (by unfold Table.Unique; rw [hkeys]; exact hunique) hothers hrest
    refine ⟨hitems.trans hitems', hcycles'.trans ?_⟩
    rw [hcycles, List.map_map]
    refine List.map_congr_left fun x hx => ?_
    simp only [Function.comp_apply, List.map_cons, List.mem_cons]
    by_cases hid : x.id = c.id
    · rw [if_pos hid, if_pos (Or.inl hid), advanced_id, if_neg (hid ▸ hnew)]
    · rw [if_neg hid, hitems.advanced_eq]
      exact if_congr (or_iff_right hid).symm rfl rfl

/-! ### The review cycles of goal cycles -/

/-- **Only drafts are new.** -/
structure AddsDrafts (t t' : PerformanceTables) : Prop where
  items : SameItems t t'
  cycles : ∃ new, t'.cycles = t.cycles ++ new ∧ ∀ c ∈ new, c.status = .draft
  unique : Table.Unique AppraisalCycle.id t.cycles → (∀ c ∈ t.cycles, c.id < t.nextId) →
    Table.Unique AppraisalCycle.id t'.cycles ∧ ∀ c ∈ t'.cycles, c.id < t'.nextId

theorem AddsDrafts.refl (t : PerformanceTables) : AddsDrafts t t :=
  ⟨.refl t, ⟨[], (List.append_nil _).symm, fun _ hc => absurd hc List.not_mem_nil⟩,
    fun hunique hfresh => ⟨hunique, hfresh⟩⟩

theorem AddsDrafts.trans {t'' : PerformanceTables} (h : AddsDrafts t t')
    (h' : AddsDrafts t' t'') : AddsDrafts t t'' := by
  obtain ⟨new, hcycles, hnew⟩ := h.cycles
  obtain ⟨new', hcycles', hnew'⟩ := h'.cycles
  refine ⟨h.items.trans h'.items, ⟨new ++ new', ?_, ?_⟩, fun hunique hfresh => ?_⟩
  · rw [hcycles', hcycles, List.append_assoc]
  · intro c hc
    exact (List.mem_append.mp hc).elim (hnew c) (hnew' c)
  · obtain ⟨hunique', hfresh'⟩ := h.unique hunique hfresh
    exact h'.unique hunique' hfresh'

theorem addsDrafts_createAppraisalCycle (fields : AppraisalCycleFields) (t : PerformanceTables) :
    AddsDrafts t (createAppraisalCycle fields t) where
  items := ⟨rfl, rfl⟩
  cycles := ⟨_, rfl, fun c hc => by rw [List.mem_singleton.mp hc]⟩
  unique hunique hfresh := by
    refine ⟨hunique.append_one fun c hc => (hfresh c hc).ne, fun c hc => ?_⟩
    rcases List.mem_append.mp hc with hc | hc
    · exact Nat.lt_succ_of_lt (hfresh c hc)
    · rw [List.mem_singleton.mp hc]
      exact Nat.lt_succ_self _

theorem goalCycle_of_reviewCycleFields {g : GoalCycle} {fields : AppraisalCycleFields}
    (h : reviewCycleFields g = some fields) : fields.goalCycle = some g.id := by
  unfold reviewCycleFields at h
  simp only [Option.bind_eq_bind, Option.bind_eq_some_iff] at h
  obtain ⟨_, -, _, -, _, -, _, -, _, -, h⟩ := h
  exact Option.some.inj h ▸ rfl

/-- **The task creates drafts**, and stops at a goal cycle whose review cycle would be past
the end of the calendar. -/
theorem triggerDueReviews_spec (gs : List GoalCycle) (t : PerformanceTables)
    (hauto : ∀ g ∈ gs, g.autoCreateReviewCycle = true)
    (hunique : Table.Unique GoalCycle.id gs) :
    (∃ t', triggerDueReviews gs t = .ok t' ∧ AddsDrafts t t'
        ∧ ∀ g ∈ gs, (∃ c ∈ t.cycles, c.goalCycle = some g.id)
          ∨ (reviewCycleFields g).isSome = true)
      ∨ ∃ t', triggerDueReviews gs t = .error t' ∧ AddsDrafts t t'
        ∧ ¬ ∀ g ∈ gs, (∃ c ∈ t.cycles, c.goalCycle = some g.id)
          ∨ (reviewCycleFields g).isSome = true := by
  induction gs generalizing t with
  | nil => exact Or.inl ⟨t, rfl, .refl t, fun _ hg => absurd hg List.not_mem_nil⟩
  | cons g gs ih =>
    obtain ⟨hnew, hrest⟩ := List.nodup_cons.mp hunique
    have hothers := fun g' hg' => hauto g' (List.mem_cons_of_mem g hg')
    unfold triggerDueReviews triggerReviewFromGoalCycle
    rw [if_neg (by rw [hauto g List.mem_cons_self]; decide)]
    by_cases hhas : ∃ c ∈ t.cycles, c.goalCycle = some g.id
    · rw [if_pos hhas]
      simp only [List.forall_mem_cons, hhas, true_or, true_and]
      exact ih t hothers hrest
    · rw [if_neg hhas]
      cases hfields : reviewCycleFields g with
      | none =>
        refine Or.inr ⟨t, rfl, .refl t, fun hall => ?_⟩
        rcases hall g List.mem_cons_self with h | h
        · exact hhas h
        · rw [hfields] at h
          cases h
      | some fields =>
        -- the new draft is of no other goal cycle
        have hsame : ∀ g' ∈ gs,
            ((∃ c ∈ (createAppraisalCycle fields t).cycles, c.goalCycle = some g'.id)
              ∨ (reviewCycleFields g').isSome = true)
            ↔ ((∃ c ∈ t.cycles, c.goalCycle = some g'.id)
              ∨ (reviewCycleFields g').isSome = true) := by
          intro g' hg'
          refine or_congr_left ⟨?_, ?_⟩
          · rintro ⟨c, hc, hgoal⟩
            rcases List.mem_append.mp hc with hc | hc
            · exact ⟨c, hc, hgoal⟩
            · rw [List.mem_singleton.mp hc] at hgoal
              have hid : g.id = g'.id := Option.some.inj
                ((goalCycle_of_reviewCycleFields hfields).symm.trans hgoal)
              exact absurd (hid ▸ List.mem_map_of_mem hg') hnew
          · rintro ⟨c, hc, hgoal⟩
            exact ⟨c, List.mem_append_left _ hc, hgoal⟩
        have hadds := addsDrafts_createAppraisalCycle fields t
        have hg : (∃ c ∈ t.cycles, c.goalCycle = some g.id)
            ∨ (reviewCycleFields g).isSome = true := Or.inr (by rw [hfields]; rfl)
        simp only [List.forall_mem_cons, hg, true_and]
        rcases ih (createAppraisalCycle fields t) hothers hrest with
          ⟨t', hok, hadds', hall⟩ | ⟨t', herror, hadds', hnot⟩
        · exact Or.inl ⟨t', hok, hadds.trans hadds',
            fun g' hg' => (hsame g' hg').mp (hall g' hg')⟩
        · exact Or.inr ⟨t', herror, hadds.trans hadds',
            fun hall => hnot (fun g' hg' => (hsame g' hg').mpr (hall g' hg'))⟩

/-! ### The task -/

/-- A cycle that the task does not come to has no deadline it looks at. -/
theorem advanced_of_status
    (h : c.status ∈ [CycleStatus.draft, .calibration, .completed, .closed]) :
    advanced today t c = c := by
  have hnone : c.deadline = none := by
    unfold AppraisalCycle.deadline
    cases hstatus : c.status <;> simp_all
  rw [advanced, hnone, if_neg]
  rintro ⟨d, hd, -⟩
  cases hd

/-- A draft is in no phase that can be over. -/
theorem not_overdue_of_draft (h : c.status = .draft) : ¬ Overdue today t c := by
  intro hover
  have hphase := hover.isReviewPhase
  rw [h] at hphase
  exact absurd hphase (by decide)

/-- **What the task does**: it adds drafts and, unless it stops there, comes to every cycle. -/
theorem autoAdvanceReviewCycles_spec (hkeys : CycleKeys t) (today : Date) :
    SameItems t (autoAdvanceReviewCycles today t)
      ∧ Table.Unique AppraisalCycle.id (autoAdvanceReviewCycles today t).cycles
      ∧ ∃ new, (∀ c ∈ new, c.status = .draft)
        ∧ (autoAdvanceReviewCycles today t).cycles
          = (if CanTrigger today t then t.cycles.map (advanced today t) else t.cycles) ++ new := by
  have hauto : ∀ g ∈ dueGoalCycles today t, g.autoCreateReviewCycle = true := by
    intro g hg
    exact (of_decide_eq_true (List.mem_filter.mp hg).2).1
  have htrigger := triggerDueReviews_spec (dueGoalCycles today t) t hauto
    (hkeys.goalCycles.filter _)
  unfold autoAdvanceReviewCycles
  dsimp only
  rw [← dueGoalCycles]
  rcases htrigger with ⟨t₁, hok, hadds, hcan⟩ | ⟨t₁, herror, hadds, hnot⟩
  · obtain ⟨hunique, -⟩ := hadds.unique hkeys.unique hkeys.fresh
    obtain ⟨new, hcycles, hnew⟩ := hadds.cycles
    have htriggers : CanTrigger today t := hcan
    rw [hok]
    obtain ⟨hitems, hadvanced⟩ := advanceWhenDue_foldl_spec today
      (t₁.cycles.filter (fun c => c.status ∉
        [CycleStatus.draft, .calibration, .completed, .closed])) hunique
      (fun c hc => List.mem_of_mem_filter hc) (hunique.filter _)
    have hall : (List.foldl (advanceWhenDue today) t₁ (t₁.cycles.filter (fun c => c.status ∉
        [CycleStatus.draft, .calibration, .completed, .closed]))).cycles
        = t₁.cycles.map (advanced today t) := by
      rw [hadvanced]
      refine List.map_congr_left fun x hx => ?_
      rw [hadds.items.advanced_eq]
      split
      · rfl
      · next hnone =>
        by_contra hne
        have hstatus : x.status ∉ [CycleStatus.draft, .calibration, .completed, .closed] :=
          fun hstatus => hne (advanced_of_status hstatus).symm
        exact hnone (List.mem_map_of_mem (List.mem_filter.mpr ⟨hx, decide_eq_true hstatus⟩))
    refine ⟨hadds.items.trans hitems, ?_, new, hnew, ?_⟩
    · dsimp only
      rw [hall, Table.Unique, List.map_map]
      have hid : AppraisalCycle.id ∘ advanced today t = AppraisalCycle.id :=
        funext fun _ => advanced_id
      rw [hid]
      exact hunique
    · have hdrafts : new.map (advanced today t) = new :=
        (List.map_congr_left fun c hc => advanced_of_status (by rw [hnew c hc]; decide)).trans
          (List.map_id new)
      dsimp only
      rw [hall, hcycles, List.map_append, hdrafts, if_pos htriggers]
  · obtain ⟨hunique, -⟩ := hadds.unique hkeys.unique hkeys.fresh
    obtain ⟨new, hcycles, hnew⟩ := hadds.cycles
    have hstops : ¬ CanTrigger today t := hnot
    rw [herror, if_neg hstops]
    exact ⟨hadds.items, hunique, new, hnew, hcycles⟩

/-- **One cycle is on time** exactly when it is advanced only if its phase is over, and is not
overdue afterwards. -/
theorem onTime_iff (today : Date) (t : PerformanceTables) (c : AppraisalCycle) :
    OnTime today t c
      ↔ (c.status.IsReviewPhase → (advanced today t c).status ≠ c.status → Overdue today t c)
        ∧ ¬ Overdue today t (advanced today t c) := by
  rcases advanced_cases today t c with ⟨s, hcome, hnext, heq⟩ | ⟨heq, hnot⟩
  · rw [heq]
    have hsubmitted : c.status.IsReviewPhase → Submitted t c :=
      fun hphase => (exists_nextStatus_iff hphase).mp ⟨s, hnext⟩
    constructor
    · intro h
      refine ⟨fun hphase _ => ⟨?_, hsubmitted hphase⟩, h.next hcome s hnext⟩
      exact (h.agree hphase (hsubmitted hphase)).mp hcome
    · rintro ⟨hsound, hcomplete⟩
      refine ⟨fun hphase _ => iff_of_true hcome (hsound hphase (nextStatus_ne hnext)).1, ?_⟩
      intro _ s' hs'
      obtain rfl := Except.ok.inj (hnext.symm.trans hs')
      exact hcomplete
  · rw [heq]
    constructor
    · intro h
      refine ⟨fun _ hne => absurd rfl hne, fun hover => hnot ?_⟩
      have hphase := hover.isReviewPhase
      exact ⟨(h.agree hphase hover.2).mpr hover.1, (exists_nextStatus_iff hphase).mpr hover.2⟩
    · rintro ⟨-, hcomplete⟩
      refine ⟨fun hphase hitems => iff_of_false (fun hcome => hnot ?_) (fun hown => ?_), ?_⟩
      · exact ⟨hcome, (exists_nextStatus_iff hphase).mpr hitems⟩
      · exact hcomplete ⟨hown, hitems⟩
      · exact fun hcome s hs => absurd ⟨hcome, s, hs⟩ hnot

/-- **The task follows the deadlines** exactly when every cycle is on time. -/
theorem followsDeadlines_iff_onTime (hkeys : CycleKeys t) (today : Date) :
    FollowsDeadlines today t ↔ AllOnTime today t := by
  obtain ⟨hitems, hunique, new, hnew, hcycles⟩ := autoAdvanceReviewCycles_spec hkeys today
  unfold AllOnTime
  by_cases hcan : CanTrigger today t
  · rw [if_pos hcan] at hcycles ⊢
    have hmem : ∀ c ∈ t.cycles, advanced today t c ∈ (autoAdvanceReviewCycles today t).cycles :=
      fun c hc => hcycles ▸ List.mem_append_left _ (List.mem_map_of_mem hc)
    constructor
    · intro h c hc
      refine (onTime_iff today t c).mpr ⟨fun hphase hne => ?_, ?_⟩
      · exact h.sound c hc hphase _ (hmem c hc) advanced_id hne
      · rw [← hitems.overdue_iff]
        exact h.complete _ (hmem c hc)
    · intro h
      refine ⟨fun c hc hphase c' hc' hid hne => ?_, fun c' hc' => ?_⟩
      · obtain rfl := hunique.eq_of_key hc' (hmem c hc) (hid.trans advanced_id.symm)
        exact ((onTime_iff today t c).mp (h c hc)).1 hphase hne
      · rw [hitems.overdue_iff]
        rw [hcycles] at hc'
        rcases List.mem_append.mp hc' with hc' | hc'
        · obtain ⟨c, hc, rfl⟩ := List.mem_map.mp hc'
          exact ((onTime_iff today t c).mp (h c hc)).2
        · exact not_overdue_of_draft (hnew c' hc')
  · rw [if_neg hcan] at hcycles ⊢
    have hmem : ∀ c ∈ t.cycles, c ∈ (autoAdvanceReviewCycles today t).cycles :=
      fun c hc => hcycles ▸ List.mem_append_left _ hc
    constructor
    · intro h c hc
      rw [← hitems.overdue_iff]
      exact h.complete c (hmem c hc)
    · intro h
      refine ⟨fun c hc _ c' hc' hid hne => ?_, fun c' hc' => ?_⟩
      · obtain rfl := hunique.eq_of_key hc' (hmem c hc) hid
        exact absurd rfl hne
      · rw [hitems.overdue_iff]
        rw [hcycles] at hc'
        rcases List.mem_append.mp hc' with hc' | hc'
        · exact h c' hc'
        · exact not_overdue_of_draft (hnew c' hc')

/-! ### A self-assessment that is due -/

namespace Sample

/-- The self-assessments are due on the first of May, and the peer reviews on the sixth. -/
def dated : AppraisalCycleFields :=
  { yearly with
    reviewType := .review360
    selfAssessmentDeadline := some ⟨2026, 5, 1, isDate_2026_05_01⟩
    peerReviewDeadline := some ⟨2026, 5, 6, isDate_2026_05_06⟩ }

/-- A cycle in its self-assessments, of which there is one. -/
def selfAssessment (status : ReviewStatus) : PerformanceTables :=
  { PerformanceTables.initial [employee 1] [] with
    cycles := [{ dated with id := 0, status := .selfAssessment }]
    reviews := [{ id := 1, key := selfKey 0 1, status := status }]
    nextId := 2 }

/-- The second of May. -/
def secondOfMay : Date := ⟨2026, 5, 2, isDate_2026_05_02⟩

theorem cycleKeys_selfAssessment (status : ReviewStatus) : CycleKeys (selfAssessment status) where
  unique := List.nodup_singleton _
  fresh c hc := by
    rw [List.mem_singleton.mp hc]
    exact Nat.zero_lt_two
  goalCycles := List.nodup_nil

end Sample

open Sample

/-- The task follows the deadlines while the self-assessment is pending. -/
theorem followsDeadlines_iff_onTime_sample :
    FollowsDeadlines secondOfMay (selfAssessment .pending) := by
  refine (followsDeadlines_iff_onTime (cycleKeys_selfAssessment .pending) secondOfMay).mpr ?_
  have htriggers : CanTrigger secondOfMay (selfAssessment .pending) := by decide
  unfold AllOnTime
  rw [if_pos htriggers]
  intro c hc
  obtain rfl := List.mem_singleton.mp hc
  exact ⟨fun _ hitems => absurd hitems (by decide), fun hcome => absurd hcome (by decide)⟩

/-- **A phase that is over goes on**: the self-assessments were due yesterday and are
submitted, but the peer reviews are not due yet. -/
theorem overdue_goes_on :
    ¬ ∀ (today : Date) (t : PerformanceTables), CycleKeys t → FollowsDeadlines today t := by
  intro h
  have hcomplete := (h secondOfMay (selfAssessment .submitted)
    (cycleKeys_selfAssessment .submitted)).complete
  exact hcomplete { dated with id := 0, status := .selfAssessment } (by decide) (by decide)

end Performance
