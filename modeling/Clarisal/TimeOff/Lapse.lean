import Clarisal.TimeOff.CycleEnd

/-!
# Lapsed leave stays lapsed

A lapse takes what is left of a cycle from the credited amount, which is what
every later recomputation writes from the policy: a request for a day of the
ended cycle brings the lapsed days back (`lapse_recomputed`). The lapse
itself stops short in two cases. The credited amount is not taken below zero,
so what the cycle started with stays when it is more than was taken; and a
cycle that lapsed once is not lapsed again.

The lapsed cycle has nothing available, in every state reached, exactly when
the lapse cleared it and no step recomputes it while less is taken of it than
the policy gives (`lapsed_iff_usedUp`).
-/

open Calendar

namespace TimeOff

open Approvals Transaction

/-- Nothing is available of a cycle. -/
def Lapsed (key : BalanceKey) (t : LeaveTables) : Prop :=
  ∀ b ∈ t.getBalance key, b.available ≤ 0

/-- The cycle of a date, for an employee and leave type. -/
def BalanceKey.IsCycleOf (m : Masters) (key : BalanceKey) (employee : EmployeeId)
    (leaveType : LeaveTypeId) (asOf : Date) : Prop :=
  key.employee = employee ∧ key.leaveType = leaveType
    ∧ getCycleWindow (m.leaveType leaveType).leaveCycle (m.employee employee) asOf
      = .ok (key.cycleStart, key.cycleEnd)

/-- What a step recomputes a balance for, on a date that it names. -/
def Op.backdates (m : Masters) (t : LeaveTables) : Op → Option (EmployeeId × LeaveTypeId × Date)
  | .createLeaveRequest _ employee leaveType span _ =>
    if (m.leaveType leaveType).isCompOff ∨ (m.leaveType leaveType).isLossOfPay
        ∨ checkDates employee span t ≠ .ok () then none
    else some (employee, leaveType, span.startDate)
  | .getOrCreateLeaveBalance employee leaveType asOf => some (employee, leaveType, asOf)
  | .withdrawLeaveRequest _ _ | .approveAction _ _ _ _ _ | .rejectAction _ _ _ _
  | .processPendingActionEscalations _ _ | .dateChanges _ => none

/-- A step recomputes the balance of an ended cycle. -/
def Op.Reopens (m : Masters) (t : LeaveTables) (key : BalanceKey) (op : Op) : Prop :=
  ∃ call ∈ op.backdates m t, key.IsCycleOf m call.1 call.2.1 call.2.2

/-- **A cycle is used up**: what its requests take is as much as it started
with and as the policy credits for it. A cap that is not positive credits
nothing. -/
def UsedUp (m : Masters) (t : LeaveTables) (b : LeaveBalance) : Prop :=
  let taken := takenUnits t.requests b.key
  let credited := computeCreditForPeriod t.today (m.employee b.key.employee)
    (m.leaveType b.key.leaveType) b.key.cycleStart b.key.cycleEnd
  match (m.leaveType b.key.leaveType).maxBalance with
  | none => b.total + credited ≤ taken
  | some maxBalance => b.total ≤ taken ∧ (b.total + credited ≤ taken ∨ maxBalance ≤ 0)

/-- **The lapse clears a balance**: nothing is left of it, or it has not lapsed
before and more was taken than it started with. -/
def LapseClears (b : LeaveBalance) (t : CycleEndTables) : Prop :=
  b.available ≤ 0 ∨ (t.hasExpiry b.key = false ∧ b.total ≤ b.usedAmount + b.pendingAmount)

instance (b : LeaveBalance) (t : CycleEndTables) : Decidable (LapseClears b t) :=
  inferInstanceAs (Decidable (_ ∨ _ ∧ _))

/-- A step that recomputes the balance of an ended cycle finds it used up. -/
def ReopensUsedUp (m : Masters) (key : BalanceKey) (st : State) (op : Op) : Prop :=
  op.Reopens m st.subjects key → ∀ b ∈ st.subjects.getBalance key, UsedUp m st.subjects b

instance (m : Masters) (key : BalanceKey) (e : EmployeeId) (l : LeaveTypeId) (asOf : Date) :
    Decidable (key.IsCycleOf m e l asOf) :=
  inferInstanceAs (Decidable (_ ∧ _ ∧ _))

instance (m : Masters) (t : LeaveTables) (key : BalanceKey) (op : Op) :
    Decidable (op.Reopens m t key) :=
  inferInstanceAs (Decidable (∃ call ∈ op.backdates m t, _))

instance (key : BalanceKey) (t : LeaveTables) : Decidable (Lapsed key t) :=
  inferInstanceAs (Decidable (∀ b ∈ t.getBalance key, _))

/-! ## The lapse -/

section

variable {m : CycleEndMasters} {t : CycleEndTables} {b : LeaveBalance}

/-- The row of an updated balance. -/
theorem CycleEndTables.getBalance_updateBalance {f : LeaveBalance → LeaveBalance}
    (hf : ∀ a, (f a).key = a.key) (hfound : t.leave.getBalance b.key = some b) :
    (t.updateBalance b.key f).leave.getBalance b.key = some (f b) := by
  refine (Table.find_update hf).trans ((congrArg (Option.map _) hfound).trans ?_)
  simp

/-- What is left after a lapse is what the cycle started with, less what was
taken of it. -/
theorem available_creditedLess (b : LeaveBalance) :
    (b.setCredited (b.creditedLess (decimal b.available))).available
      = max (b.total - b.usedAmount - b.pendingAmount) 0 := by
  have hdecimal : decimal (b.creditedAmount - decimal b.available)
      = b.usedAmount + b.pendingAmount - b.total := by
    rw [decimal_of_twoPlaces (twoPlaces_available b),
      decimal_of_twoPlaces (b.twoPlaces.2.2.1.sub (twoPlaces_available b))]
    unfold LeaveBalance.available LeaveBalance.total
    ring
  have hafter : (b.setCredited (b.creditedLess (decimal b.available))).available
      = b.total + max 0 (decimal (b.creditedAmount - decimal b.available))
        - b.usedAmount - b.pendingAmount := rfl
  rw [hafter, hdecimal]
  rcases le_total b.total (b.usedAmount + b.pendingAmount) with hle | hle
  · rw [max_eq_right (by linarith), max_eq_right (by linarith)]
    ring
  · rw [max_eq_left (by linarith), max_eq_left (by linarith)]
    ring

variable (m) in
/-- **What a lapse leaves** of a balance. -/
theorem processCycleEndLapse_getBalance (hfound : t.leave.getBalance b.key = some b) :
    (processCycleEndLapse m b t).leave.today = t.leave.today
      ∧ ∃ b', (processCycleEndLapse m b t).leave.getBalance b.key = some b'
        ∧ (b'.available ≤ 0 ↔ LapseClears b t) := by
  unfold processCycleEndLapse
  dsimp only
  split
  · next hnone => exact ⟨rfl, b, hfound, iff_of_true hnone (Or.inl hnone)⟩
  · next hleft =>
    split
    · next hbefore =>
      refine ⟨rfl, b, hfound, iff_of_false hleft ?_⟩
      rintro (hnone | ⟨hfirst, -⟩)
      · exact hleft hnone
      · exact Bool.false_ne_true (hfirst.symm.trans hbefore)
    · next hfirst =>
      have hclears : LapseClears b t ↔ b.total ≤ b.usedAmount + b.pendingAmount := by
        simp [LapseClears, hleft, hfirst]
      have hafter : (b.setCredited (b.creditedLess (decimal b.available))).available ≤ 0
          ↔ LapseClears b t := by
        rw [available_creditedLess, hclears, max_le_iff]
        constructor
        · rintro ⟨h, -⟩
          linarith
        · exact fun h => ⟨by linarith, le_rfl⟩
      split
      · refine ⟨rfl, _, CycleEndTables.getBalance_updateBalance ?_ hfound, hafter⟩
        exact fun _ => rfl
      · refine ⟨rfl, _, CycleEndTables.getBalance_updateBalance ?_ hfound, hafter⟩
        exact fun _ => rfl

end

/-! ## Recomputing -/

section

variable {m : Masters} {t t' : LeaveTables} {st st' : State} {key : BalanceKey}
  {row : LeaveBalance} {e : EmployeeId} {l : LeaveTypeId} {asOf : Date}

theorem twoPlaces_computeCreditForPeriod (today : Date) (employee : Employee)
    (leaveType : LeaveType) (cycleStart cycleEnd : Date) :
    TwoPlaces (computeCreditForPeriod today employee leaveType cycleStart cycleEnd) := by
  unfold computeCreditForPeriod
  cases leaveType.creditFrequency with
  | manual => exact Decimal.onGrid_zero
  | yearly => exact twoPlaces_decimal _
  | monthly => exact twoPlaces_decimal _
  | quarterly => exact twoPlaces_decimal _
  | halfYearly => exact twoPlaces_decimal _

/-- **A recomputed balance has nothing available** exactly when its cycle is
used up. -/
theorem available_refresh_nonpos_iff (m : Masters) (t : LeaveTables) (b : LeaveBalance) :
    (b.refresh m t).available ≤ 0 ↔ UsedUp m t b := by
  have havailable : (b.refresh m t).available
      = b.total + b.creditOf m t.today (takenUnits t.requests b.key)
        - takenUnits t.requests b.key := by
    unfold LeaveBalance.available LeaveBalance.total takenUnits
    exact sub_sub _ _ _
  rw [havailable]
  have htotal := twoPlaces_total b
  have htaken := twoPlaces_takenUnits t.requests b.key
  unfold UsedUp LeaveBalance.creditOf cappedCredit
  rw [decimal_of_twoPlaces (twoPlaces_computeCreditForPeriod _ _ _ _ _)]
  cases hmax : (m.leaveType b.key.leaveType).maxBalance with
  | none => exact sub_nonpos
  | some maxBalance =>
    have hgrid : TwoPlaces maxBalance := (m.leaveType b.key.leaveType).twoPlaces _ hmax
    dsimp only
    rw [decimal_of_twoPlaces ((hgrid.sub htotal).add htaken), sub_nonpos, ← le_sub_iff_add_le',
      max_le_iff, min_le_iff, sub_nonneg, le_sub_iff_add_le']
    refine and_congr_right (fun _ => or_congr_right ?_)
    constructor <;> intro h <;> linarith

/-- A date lies in its cycle. -/
theorem BalanceKey.IsCycleOf.le_cycleEnd (h : key.IsCycleOf m e l asOf) : asOf ≤ key.cycleEnd := by
  obtain ⟨-, -, hwindow⟩ := h
  unfold getCycleWindow at hwindow
  split at hwindow
  · cases hyear : yearFrom asOf with
    | none => simp [hyear] at hwindow
    | some w =>
      obtain ⟨anniversary, hanniversary, hyear'⟩ := Option.bind_eq_some_iff.mp hyear
      obtain ⟨finish, hfinish, hw⟩ := Option.bind_eq_some_iff.mp hyear'
      obtain rfl := Option.some.inj hw
      rw [hyear] at hwindow
      obtain ⟨-, rfl⟩ := Prod.mk.inj (Except.ok.inj hwindow)
      have hlater : asOf.year < anniversary.year := by
        have := (Date.ofYMD_eq_some.mp hanniversary).1
        omega
      exact (Date.le_prevDay_iff hfinish asOf).mpr (Date.toordinal_lt_of_year hlater)
  · next month day _ =>
    cases hyear : anniversaryWindow month day asOf with
    | none => simp [hyear] at hwindow
    | some w =>
      rw [hyear] at hwindow
      obtain rfl := Except.ok.inj hwindow
      exact (anniversaryWindow_mem hyear).2

/-- The tables after a recomputation; one that fails leaves them. -/
def recomputed (m : Masters) (t : LeaveTables) (e : EmployeeId) (l : LeaveTypeId)
    (asOf : Date) : LeaveTables :=
  match getOrCreateLeaveBalance m e l asOf t with
  | .error _ => t
  | .ok (_, t') => t'

variable (m e l asOf) in
/-- **A recomputation changes the balance of its cycle**, and no other. -/
theorem recomputed_getBalance (hrow : t.getBalance key = some row) :
    (recomputed m t e l asOf).today = t.today
      ∧ (recomputed m t e l asOf).getBalance key
        = some (if key.IsCycleOf m e l asOf then row.refresh m t else row) := by
  unfold recomputed
  cases hok : getOrCreateLeaveBalance m e l asOf t with
  | error message =>
    have hother : ¬ key.IsCycleOf m e l asOf := by
      rintro ⟨rfl, rfl, hwindow⟩
      unfold getOrCreateLeaveBalance at hok
      rw [hwindow] at hok
      simp only [bind, Except.bind, hrow] at hok
      cases hok
    rw [if_neg hother]
    exact ⟨rfl, hrow⟩
  | ok result =>
    obtain ⟨⟨cycleStart, cycleEnd⟩, hwindow, h⟩ := bind_eq_ok_iff.mp hok
    have hcycle : key.IsCycleOf m e l asOf ↔ key = ⟨e, l, cycleStart, cycleEnd⟩ := by
      unfold BalanceKey.IsCycleOf
      rw [hwindow, Except.ok.injEq, Prod.mk.injEq]
      cases key
      simp only [BalanceKey.mk.injEq]
      exact and_congr_right (fun _ => and_congr_right (fun _ => and_congr eq_comm eq_comm))
    dsimp only at h
    split at h
    · next found hfound =>
      obtain rfl := Except.ok.inj h
      refine ⟨rfl, ?_⟩
      have hfoundKey : found.key = ⟨e, l, cycleStart, cycleEnd⟩ := Table.find_key hfound
      rw [← hfoundKey] at hfound hcycle ⊢
      by_cases heq : key = found.key
      · rw [if_pos (hcycle.mpr heq)]
        subst heq
        obtain rfl := Option.some.inj (hrow.symm.trans hfound)
        exact Table.find_save_self (a := row.refresh m t) hrow
      · rw [if_neg (hcycle.not.mpr heq)]
        exact (Table.find_save_of_ne (a := found.refresh m t) heq).trans hrow
    · next hnone =>
      obtain rfl := Except.ok.inj h
      have hne : ¬ key = ⟨e, l, cycleStart, cycleEnd⟩ := by
        rintro rfl
        rw [hrow] at hnone
        cases hnone
      rw [if_neg (hcycle.not.mpr hne)]
      refine ⟨rfl, (Table.find_append_of_ne ?_).trans hrow⟩
      exact fun h => hne h.symm

/-! ## A step -/

/-- The balance of a key stays, and the day. -/
structure Untouched (key : BalanceKey) (t t' : LeaveTables) : Prop where
  balance : t'.getBalance key = t.getBalance key
  today : t'.today = t.today

theorem Untouched.of_eq (hbalances : t'.balances = t.balances) (htoday : t'.today = t.today) :
    Untouched key t t' := ⟨congrArg (Table.find LeaveBalance.key key) hbalances, htoday⟩

theorem Untouched.trans {t'' : LeaveTables} (h : Untouched key t t') (h' : Untouched key t' t'') :
    Untouched key t t'' := ⟨h'.balance.trans h.balance, h'.today.trans h.today⟩

theorem untouched_leaveHandler {subject : ContentObject} {decision : SubjectStatus}
    {reason : String}
    (hok : (leaveHandler m).applySubjectStatus subject decision reason t = .ok t') :
    Untouched key t t' := by
  obtain ⟨t'', hok', hset⟩ := leaveHandler_eq_ok m subject decision reason t
  obtain rfl := Except.ok.inj (hok.symm.trans hok')
  exact .of_eq hset.balances hset.today

variable (st) in
/-- An ended cycle is not the one of today. -/
theorem untouched_refreshToday (hrow : st.subjects.getBalance key = some row)
    (hended : key.cycleEnd < st.subjects.today) (e : EmployeeId) (l : LeaveTypeId) :
    Untouched key st.subjects (refreshToday m e l st).2.subjects := by
  unfold refreshToday
  split
  · exact .of_eq rfl rfl
  · obtain ⟨htoday, hbalance⟩ := recomputed_getBalance m e l st.subjects.today hrow
    rw [if_neg (fun h => absurd h.le_cycleEnd (not_le.mpr hended)), ← hrow] at hbalance
    unfold recomputed at htoday hbalance
    split
    · exact .of_eq rfl rfl
    · next balance t' hok =>
      rw [hok] at htoday hbalance
      exact ⟨hbalance, htoday⟩

theorem requestApproval_subjects {submission : Submission} {employee : Employee}
    {id : LeaveRequestId} (hok : requestApproval submission employee id st = .ok st') :
    st'.subjects = st.subjects := by
  unfold requestApproval at hok
  split at hok
  · cases hok
  · obtain ⟨⟨run, db⟩, -, hret⟩ := bind_eq_ok_iff.mp hok
    obtain rfl := pure_eq_ok_iff.mp hret
    rfl

theorem validateUnits_tables (e : EmployeeId) (l : LeaveTypeId) (span : LeaveSpan) :
    (validateUnits m e l span t).2
      = if (m.leaveType l).isCompOff ∨ (m.leaveType l).isLossOfPay then t
        else recomputed m t e l span.startDate := by
  unfold validateUnits validateLeaveBalance recomputed
  by_cases hcompOff : (m.leaveType l).isCompOff
  · rw [if_pos hcompOff, if_pos (Or.inl hcompOff)]
    dsimp only
    split <;> rfl
  · rw [if_neg hcompOff]
    by_cases hloss : (m.leaveType l).isLossOfPay
    · rw [if_pos hloss, if_pos (Or.inr hloss)]
    · rw [if_neg hloss, if_neg (not_or.mpr ⟨hcompOff, hloss⟩)]
      cases getOrCreateLeaveBalance m e l span.startDate t with
      | error message => rfl
      | ok result =>
        dsimp only
        split <;> rfl

/-- **A creation touches an ended cycle** in its validation only. -/
theorem createLeaveRequest_ended (hended : key.cycleEnd < st.subjects.today)
    (hrow : st.subjects.getBalance key = some row) (submission : Submission) (e : EmployeeId)
    (l : LeaveTypeId) (span : LeaveSpan) (reason : String) :
    Untouched key
      (if checkDates e span st.subjects = .ok () then (validateUnits m e l span st.subjects).2
        else st.subjects)
      (createLeaveRequest m submission e l span reason st).2.subjects := by
  have hvalidated : (validateUnits m e l span st.subjects).2.today = st.subjects.today
      ∧ ∃ row, (validateUnits m e l span st.subjects).2.getBalance key = some row := by
    rw [validateUnits_tables]
    split
    · exact ⟨rfl, row, hrow⟩
    · obtain ⟨htoday, hbalance⟩ := recomputed_getBalance m e l span.startDate hrow
      exact ⟨htoday, _, hbalance⟩
  unfold createLeaveRequest
  cases hdates : checkDates e span st.subjects with
  | error message =>
    rw [if_neg nofun]
    exact .of_eq rfl rfl
  | ok u =>
    rw [if_pos rfl]
    dsimp only
    split
    · next heq =>
      rw [heq]
      exact .of_eq rfl rfl
    · next t heq =>
      rw [heq] at hvalidated ⊢
      obtain ⟨htoday, row', hrow'⟩ := hvalidated
      obtain ⟨redemptions, hframe⟩ := insertRequest_frame (m := m) e l span reason t
      have hinserted : Untouched key t (t.insertRequest m e l span reason).2 := by
        rw [hframe]
        exact .of_eq rfl rfl
      split
      · next heq' =>
        rw [heq'] at hinserted
        exact hinserted
      · next t' heq' =>
        rw [heq'] at hinserted
        split
        · exact hinserted
        · next st₃ hok =>
          have hsubjects : st₃.subjects = t' := requestApproval_subjects hok
          rw [← hsubjects] at hinserted
          refine hinserted.trans (untouched_refreshToday st₃ (hinserted.balance.trans hrow') ?_ e l)
          exact hended.trans_eq (hinserted.today.trans htoday).symm

theorem untouched_withdrawLeaveRequest (hended : key.cycleEnd < st.subjects.today)
    (hrow : st.subjects.getBalance key = some row) (now : Time) (id : LeaveRequestId) :
    Untouched key st.subjects (withdrawLeaveRequest m now id st).2.subjects := by
  unfold withdrawLeaveRequest
  split
  · exact .of_eq rfl rfl
  · next request _ =>
    split
    · exact .of_eq rfl rfl
    · dsimp only
      split
      · exact .of_eq rfl rfl
      · next st₂ hok =>
        obtain ⟨redemptions, hframe⟩ := syncRequest_frame m st₂.subjects request .withdrawn
        have hcancelled : Untouched key st.subjects
            (st₂.subjects.syncRequest m request .withdrawn) := by
          rw [hframe]
          have hdecided : Untouched key (st.subjects.updateRequest id
              (fun r => { r with status := .withdrawn })) st₂.subjects := by
            unfold cancelRequestApproval at hok
            split at hok
            · obtain rfl := Except.ok.inj hok
              exact .of_eq rfl rfl
            · rcases cancelApprovalRun_eq_ok hok with rfl | ⟨run, -, -, -, hwrites⟩
              · exact .of_eq rfl rfl
              · exact untouched_leaveHandler (cancelApprovalRunWrites_eq_ok hwrites).2
          exact ⟨hdecided.balance, hdecided.today⟩
        exact hcancelled.trans (untouched_refreshToday
          { st₂ with subjects := st₂.subjects.syncRequest m request .withdrawn }
          (hcancelled.balance.trans hrow) (hended.trans_eq hcancelled.today.symm) _ _)

/-- **What a step does to the balance of an ended cycle**: it recomputes it, or
leaves it. -/
theorem step_ended (hended : key.cycleEnd < st.subjects.today)
    (hrow : st.subjects.getBalance key = some row) (op : Op) :
    key.cycleEnd < (step m st op).subjects.today
      ∧ (step m st op).subjects.getBalance key
        = some (if op.Reopens m st.subjects key then row.refresh m st.subjects else row) := by
  have hkept : ∀ {st' : State}, ¬ op.Reopens m st.subjects key →
      Untouched key st.subjects st'.subjects → key.cycleEnd < st'.subjects.today
        ∧ st'.subjects.getBalance key
          = some (if op.Reopens m st.subjects key then row.refresh m st.subjects else row) := by
    intro st' hnot huntouched
    rw [if_neg hnot]
    exact ⟨hended.trans_eq huntouched.today.symm, huntouched.balance.trans hrow⟩
  cases op with
  | createLeaveRequest submission e l span reason =>
    have huntouched := createLeaveRequest_ended (m := m) hended hrow submission e l span reason
    by_cases hcalls : (m.leaveType l).isCompOff ∨ (m.leaveType l).isLossOfPay
        ∨ checkDates e span st.subjects ≠ .ok ()
    · refine hkept ?_ ?_
      · rintro ⟨call, hcall, -⟩
        rw [Op.backdates, if_pos hcalls] at hcall
        cases hcall
      · rw [validateUnits_tables] at huntouched
        by_cases hdates : checkDates e span st.subjects = .ok ()
        · rw [if_pos hdates, if_pos (by simpa [hdates] using hcalls)] at huntouched
          exact huntouched
        · rw [if_neg hdates] at huntouched
          exact huntouched
    · have hreopens : Op.Reopens m st.subjects key
            (.createLeaveRequest submission e l span reason)
          ↔ key.IsCycleOf m e l span.startDate := by
        rw [Op.Reopens, Op.backdates, if_neg hcalls]
        simp
      obtain ⟨hcompOff, hloss, hdates⟩ := not_or.mp hcalls |>.imp_right not_or.mp
      rw [if_pos (not_not.mp hdates), validateUnits_tables, if_neg (not_or.mpr ⟨hcompOff, hloss⟩)]
        at huntouched
      obtain ⟨htoday, hbalance⟩ := recomputed_getBalance m e l span.startDate hrow
      refine ⟨hended.trans_eq (huntouched.today.trans htoday).symm, ?_⟩
      refine (huntouched.balance.trans hbalance).trans ?_
      simp only [hreopens]
  | withdrawLeaveRequest now request =>
    exact hkept nofun (untouched_withdrawLeaveRequest hended hrow now request)
  | approveAction user dir action actor comment =>
    refine hkept nofun (settle_induction
      (P := fun st' : State => Untouched key st.subjects st'.subjects) (.of_eq rfl rfl)
      (fun st' hok => ?_))
    rcases approveAction_subjects hok with hsame | ⟨subject, -, hdecided⟩
    · exact .of_eq (congrArg _ hsame) (congrArg _ hsame)
    · exact untouched_leaveHandler hdecided
  | rejectAction dir action actor comment =>
    refine hkept nofun (settle_induction
      (P := fun st' : State => Untouched key st.subjects st'.subjects) (.of_eq rfl rfl)
      (fun st' hok => ?_))
    obtain ⟨subject, hdecided⟩ := rejectAction_subjects hok
    exact untouched_leaveHandler hdecided
  | processPendingActionEscalations user dir => exact hkept nofun (.of_eq rfl rfl)
  | getOrCreateLeaveBalance e l asOf =>
    have hreopens : Op.Reopens m st.subjects key (.getOrCreateLeaveBalance e l asOf)
        ↔ key.IsCycleOf m e l asOf := by
      unfold Op.Reopens Op.backdates
      simp
    have hsubjects : (step m st (.getOrCreateLeaveBalance e l asOf)).subjects
        = recomputed m st.subjects e l asOf := by
      rw [step, recomputed]
      cases getOrCreateLeaveBalance m e l asOf st.subjects <;> rfl
    obtain ⟨htoday, hbalance⟩ := recomputed_getBalance m e l asOf hrow
    rw [hsubjects]
    refine ⟨hended.trans_eq htoday.symm, hbalance.trans ?_⟩
    simp only [hreopens]
  | dateChanges date =>
    have hnot : ¬ Op.Reopens m st.subjects key (.dateChanges date) := nofun
    rw [if_neg hnot]
    exact ⟨lt_max_of_lt_left hended, hrow⟩

/-- An ended cycle that has lapsed. -/
def EndedLapsed (key : BalanceKey) (st : State) : Prop :=
  key.cycleEnd < st.subjects.today
    ∧ ∃ b, st.subjects.getBalance key = some b ∧ b.available ≤ 0

theorem EndedLapsed.lapsed (h : EndedLapsed key st) : Lapsed key st.subjects := by
  obtain ⟨-, b, hb, hlapsed⟩ := h
  intro b' hb'
  obtain rfl := Option.some.inj (hb.symm.trans hb')
  exact hlapsed

/-- **A step keeps an ended cycle lapsed** exactly when it finds it used up, if
it recomputes it. -/
theorem EndedLapsed.step_iff (h : EndedLapsed key st) (op : Op) :
    Lapsed key (step m st op).subjects ↔ ReopensUsedUp m key st op := by
  obtain ⟨hended, b, hb, hlapsed⟩ := h
  obtain ⟨-, hafter⟩ := step_ended (m := m) hended hb op
  unfold Lapsed ReopensUsedUp
  rw [hafter, hb]
  simp only [Option.mem_some_iff, forall_eq']
  split
  · next hreopens => rw [available_refresh_nonpos_iff, forall_prop_of_true hreopens]
  · next hnot => exact iff_of_true hlapsed (fun hreopens => absurd hreopens hnot)

theorem EndedLapsed.step (h : EndedLapsed key st) {op : Op} (hop : ReopensUsedUp m key st op) :
    EndedLapsed key (TimeOff.step m st op) := by
  have hlapsed := (h.step_iff op).mpr hop
  obtain ⟨hended, b, hb, -⟩ := h
  obtain ⟨hended', hafter⟩ := step_ended (m := m) hended hb op
  exact ⟨hended', _, hafter, hlapsed _ hafter⟩

end

/-! ## Every run -/

/-- The state after a lapse. -/
def lapsedState (m : CycleEndMasters) (b : LeaveBalance) (db : ApprovalDb) (t : CycleEndTables) :
    State :=
  { db := db, subjects := (processCycleEndLapse m b t).leave }

/-- **Lapsed leave stays lapsed** exactly when the lapse cleared the balance,
and every step that recomputes its cycle finds it used up. -/
theorem lapsed_iff_usedUp (m : CycleEndMasters) (db : ApprovalDb) (t : CycleEndTables)
    (b : LeaveBalance) (hfound : t.leave.getBalance b.key = some b)
    (hended : b.key.cycleEnd < t.leave.today) (ops : List Op) :
    (Lapsed b.key (lapsedState m b db t).subjects
        ∧ Run.Along (step m.toMasters)
          (fun st op => Lapsed b.key (step m.toMasters st op).subjects)
          (lapsedState m b db t) ops)
      ↔ LapseClears b t
        ∧ Run.Along (step m.toMasters) (ReopensUsedUp m.toMasters b.key)
          (lapsedState m b db t) ops := by
  obtain ⟨htoday, b', hafter, hclears⟩ := processCycleEndLapse_getBalance m hfound
  have hlapsed : Lapsed b.key (lapsedState m b db t).subjects ↔ LapseClears b t := by
    unfold Lapsed lapsedState
    rw [hafter, ← hclears]
    simp
  rw [hlapsed]
  refine and_congr_right (fun hcleared => ?_)
  have hstart : EndedLapsed b.key (lapsedState m b db t) :=
    ⟨hended.trans_eq htoday.symm, b', hafter, hclears.mpr hcleared⟩
  exact Run.along_congr (fun _ _ h hop => h.step hop) (fun _ op h => h.step_iff op) hstart

namespace Sample

/-- Leave that does not outlive its year. -/
def lapsingMasters : CycleEndMasters where
  toMasters := masters
  carryForward _ :=
    { carryForwardMode := .none, carryForwardCap := none, twoPlaces := twoPlaces_of_none }
  isActive _ := true

/-- A balance of employee 1 with whole days, of which nothing was taken. -/
def untaken (cycleStart cycleEnd : Date) (opening credited : ℤ) : LeaveBalance where
  key := ⟨1, 0, cycleStart, cycleEnd⟩
  openingBalance := opening
  carriedForwardAmount := 0
  creditedAmount := credited
  usedAmount := 0
  pendingAmount := 0
  twoPlaces := ⟨⟨opening * 100, by push_cast; ring⟩, Decimal.onGrid_zero,
    ⟨credited * 100, by push_cast; ring⟩, Decimal.onGrid_zero, Decimal.onGrid_zero⟩

/-- The twelve days credited for 2026. -/
def ended2026 : LeaveBalance :=
  untaken ⟨2026, 1, 1, isDate_2026_01_01⟩ ⟨2026, 12, 31, isDate_2026_12_31⟩ 0 12

/-- The fourth of January 2027. -/
def newYear : CycleEndTables where
  leave := { tables with today := ⟨2027, 1, 4, isDate_2027_01_04⟩, balances := [ended2026] }
  lwpEntries := []

def lapsed2026 : State :=
  lapsedState lapsingMasters ended2026
    { stages := stages, runs := [], actions := [], nextId := 0 } newYear

/-- A balance is read on a date. -/
def readOn (date : Date) : Op := .getOrCreateLeaveBalance 1 0 date

end Sample

theorem lapsed_iff_usedUp_sample :
    (Lapsed Sample.ended2026.key Sample.lapsed2026.subjects
      ∧ Run.Along (step Sample.masters)
        (fun st op => Lapsed Sample.ended2026.key (step Sample.masters st op).subjects)
        Sample.lapsed2026 [Sample.readOn ⟨2027, 3, 1, by decide⟩])
      ↔ LapseClears Sample.ended2026 Sample.newYear
        ∧ Run.Along (step Sample.masters) (ReopensUsedUp Sample.masters Sample.ended2026.key)
          Sample.lapsed2026 [Sample.readOn ⟨2027, 3, 1, by decide⟩] :=
  lapsed_iff_usedUp Sample.lapsingMasters _ Sample.newYear Sample.ended2026 (by decide) (by decide)
    _

/-- **A day of the ended year brings it back**: the twelve days of 2026 lapse,
and are available again once the balance of 2026 is recomputed. -/
theorem lapse_recomputed :
    Lapsed Sample.ended2026.key Sample.lapsed2026.subjects
      ∧ ¬ Lapsed Sample.ended2026.key (step Sample.masters Sample.lapsed2026
        (Sample.readOn ⟨2026, 6, 1, by decide⟩)).subjects := by
  decide +kernel

/-- What a cycle started with does not lapse. -/
example : ¬ LapseClears
    (Sample.untaken ⟨2026, 1, 1, by decide⟩ ⟨2026, 12, 31, by decide⟩ 5 0) Sample.newYear := by
  decide +kernel

end TimeOff
