import Clarisal.Approvals.Quorum
import Clarisal.TimeOff.Subjects

/-!
# No leave is overdrawn by requests within their cycles

`Sound` joins the agreement of approvals and requests with the charges of one
employee and leave type. Every operation keeps it, when a request of that
employee and leave type ends within the cycle it starts in, so in every run of
such requests the days taken of a cycle stay within its balance
(`notOverdrawn_of_inCycle`).

A request that reaches over the end of a cycle is charged to no cycle, and its
days can be requested again (`spanning_request_overdraws`).
-/

open Calendar

namespace TimeOff

open Approvals Transaction

/-- **What the balances promise**: the days taken of a cycle are within its
balance, as last computed. -/
def NotOverdrawn (employee : EmployeeId) (leaveType : LeaveTypeId) (t : LeaveTables) : Prop :=
  ∀ b ∈ t.balances, b.key.IsOf employee leaveType →
    daysTaken t.requests b.key ≤ b.openingBalance + b.carriedForwardAmount + b.creditedAmount

instance (employee : EmployeeId) (leaveType : LeaveTypeId) (t : LeaveTables) :
    Decidable (NotOverdrawn employee leaveType t) :=
  inferInstanceAs (Decidable (∀ b ∈ t.balances, _ → _))

/-- A leave type with a balance: neither loss of pay nor compensatory. -/
structure LeaveType.IsOrdinary (leaveType : LeaveType) : Prop where
  isLossOfPay : leaveType.isLossOfPay = false
  isCompOff : leaveType.isCompOff = false

/-- Dates that end in the cycle they start in. -/
def LeaveSpan.endsInCycle (m : Masters) (employee : EmployeeId) (leaveType : LeaveTypeId)
    (span : LeaveSpan) : Bool :=
  match getCycleWindow (m.leaveType leaveType).leaveCycle (m.employee employee) span.startDate with
  | .ok (_, cycleEnd) => span.endDate ≤ cycleEnd
  | .error _ => true

/-- A request of the employee and leave type ends in the cycle it starts in. -/
def Op.InCycle (m : Masters) (employee : EmployeeId) (leaveType : LeaveTypeId) : Op → Prop
  | .createLeaveRequest _ e l span _ =>
    e = employee → l = leaveType → span.endsInCycle m employee leaveType = true
  | _ => True

instance (m : Masters) (employee : EmployeeId) (leaveType : LeaveTypeId) :
    ∀ op : Op, Decidable (op.InCycle m employee leaveType)
  | .createLeaveRequest _ _ _ _ _ => inferInstanceAs (Decidable (_ → _ → _))
  | .withdrawLeaveRequest _ _ | .approveAction _ _ _ _ _ | .rejectAction _ _ _ _
  | .processPendingActionEscalations _ _ | .getOrCreateLeaveBalance _ _ _ | .dateChanges _ =>
    instDecidableTrue

/-- **The invariant.** -/
structure Sound (m : Masters) (employee : EmployeeId) (leaveType : LeaveTypeId) (st : State) :
    Prop where
  linked : Linked st
  charged : Charged m employee leaveType st.subjects

section

variable {m : Masters} {employee : EmployeeId} {leaveType : LeaveTypeId} {st st' : State}
  {t t' : LeaveTables}

theorem checkDates_eq_ok {e : EmployeeId} {span : LeaveSpan} {u : Unit}
    (h : checkDates e span t = .ok u) : span.startDate ≤ span.endDate := by
  unfold checkDates at h
  split at h
  · cases h
  · next hdates => exact not_lt.mp hdates

/-- **Validation** recomputes the balance of the cycle a request starts in, and
passes when it has enough. -/
theorem validateUnits_cases (e : EmployeeId) (l : LeaveTypeId) (span : LeaveSpan)
    (t : LeaveTables) :
    ((validateUnits m e l span t).2 = t
        ∧ ((validateUnits m e l span t).1 = .ok () → ¬ (m.leaveType l).IsOrdinary))
      ∨ ∃ row : LeaveBalance, row.key.IsOf e l
        ∧ getCycleWindow (m.leaveType l).leaveCycle (m.employee e) span.startDate
          = .ok (row.key.cycleStart, row.key.cycleEnd)
        ∧ Recomputes m t (validateUnits m e l span t).2 row
        ∧ ((validateUnits m e l span t).1 = .ok () → span.units ≤ (row.refresh m t).available) := by
  unfold validateUnits
  split
  · next hcompOff =>
    left
    dsimp only
    split
    · exact ⟨rfl, fun h => by cases h⟩
    · exact ⟨rfl, fun _ hordinary => by simp [hordinary.isCompOff] at hcompOff⟩
  · unfold validateLeaveBalance
    split
    · next hloss =>
      exact Or.inl ⟨rfl, fun _ hordinary => by simp [hordinary.isLossOfPay] at hloss⟩
    · split
      · exact Or.inl ⟨rfl, fun h => by cases h⟩
      · next balance t₁ hok =>
        obtain ⟨row, rfl, hof, hwindow, hrow⟩ := getOrCreateLeaveBalance_eq_ok hok
        refine Or.inr ⟨row, hof, hwindow, ?_⟩
        split
        · exact ⟨hrow, fun h => by cases h⟩
        · next henough =>
          refine ⟨hrow, fun _ => ?_⟩
          rwa [decimal_of_twoPlaces (twoPlaces_available _), LeaveSpan.units,
            decimal_of_twoPlaces (twoPlaces_leaveRequestUnits _ _ _ _), not_lt] at henough

/-- **Inserting a request** changes nothing else but reservations. -/
theorem insertRequest_frame (e : EmployeeId) (l : LeaveTypeId) (span : LeaveSpan)
    (reason : String) (t : LeaveTables) :
    ∃ redemptions, (t.insertRequest m e l span reason).2 = { t with
      requests := t.requests ++ [t.newRequest e l span reason], redemptions := redemptions,
      nextRequest := t.nextRequest + 1 } := by
  unfold LeaveTables.insertRequest
  dsimp only
  split
  · obtain ⟨redemptions, hframe⟩ := LeaveTables.reserveCompOffRedemption_frame
      { t with
        requests := t.requests ++ [t.newRequest e l span reason]
        nextRequest := t.nextRequest + 1 } (t.newRequest e l span reason)
    exact ⟨redemptions, by split <;> exact hframe⟩
  · exact ⟨_, rfl⟩

variable (hgrows : (m.leaveType leaveType).CreditGrows)
  (hstart : ((m.leaveType leaveType).leaveCycle.startsOn (m.employee employee)).isSome)

include hgrows hstart in
theorem Sound.recompute (h : Sound m employee leaveType st) {e : EmployeeId} {l : LeaveTypeId}
    {asOf : Date} {row : LeaveBalance} (hof : row.key.IsOf e l)
    (hwindow : getCycleWindow (m.leaveType l).leaveCycle (m.employee e) asOf
      = .ok (row.key.cycleStart, row.key.cycleEnd)) (hrow : Recomputes m st.subjects t row) :
    Sound m employee leaveType { st with subjects := t } where
  linked := h.linked.of_requests hrow.requests hrow.nextRequest
  charged := by
    refine h.charged.recompute hgrows hstart (fun hof' => ⟨asOf, ?_⟩) hrow
    obtain rfl : e = employee := hof.1.symm.trans hof'.1
    obtain rfl : l = leaveType := hof.2.symm.trans hof'.2
    exact hwindow

include hgrows hstart in
theorem Sound.refreshToday (h : Sound m employee leaveType st) (e : EmployeeId) (l : LeaveTypeId) :
    Sound m employee leaveType (refreshToday m e l st).2 := by
  unfold TimeOff.refreshToday
  split
  · exact h
  · split
    · exact h
    · next hok =>
      obtain ⟨row, -, hof, hwindow, hrow⟩ := getOrCreateLeaveBalance_eq_ok hok
      exact h.recompute hgrows hstart hof hwindow hrow

include hgrows hstart in
theorem Sound.validateUnits (h : Sound m employee leaveType st) (e : EmployeeId) (l : LeaveTypeId)
    (span : LeaveSpan) :
    Sound m employee leaveType
      { st with subjects := (validateUnits m e l span st.subjects).2 } := by
  rcases validateUnits_cases (m := m) e l span st.subjects with
    ⟨hsame, -⟩ | ⟨row, hof, hwindow, hrow, -⟩
  · rw [hsame]
    exact h
  · exact h.recompute hgrows hstart hof hwindow hrow

include hstart in
/-- **A validated request is charged.** -/
theorem Charged.insertRequest (h : Charged m employee leaveType t') {e : EmployeeId}
    {l : LeaveTypeId} {span : LeaveSpan} {reason : String} (hdates : span.startDate ≤ span.endDate)
    (hroom : e = employee → l = leaveType → ∃ row : LeaveBalance, Recomputes m t t' row
      ∧ row.key.Holds (t'.newRequest e l span reason)
      ∧ span.units ≤ (row.refresh m t).available) :
    Charged m employee leaveType (t'.insertRequest m e l span reason).2 := by
  obtain ⟨redemptions, hframe⟩ := insertRequest_frame (m := m) e l span reason t'
  rw [hframe]
  refine h.insert (r := t'.newRequest e l span reason) ⟨hdates, rfl⟩ rfl rfl rfl
    (fun he hl => ?_) (fun b hb hof hholds => ?_)
  · obtain ⟨row, hrow, hholds, -⟩ := hroom he hl
    exact ⟨row.refresh m t, (hrow.balances _).mpr (Or.inl rfl), hholds⟩
  · have he : e = employee := hholds.1.trans hof.1
    have hl : l = leaveType := hholds.2.1.trans hof.2
    obtain ⟨row, hrow, hrowHolds, havailable⟩ := hroom he hl
    exact h.room_of_available (r := t'.newRequest e l span reason) hstart hrow
      ⟨hrowHolds.1.symm.trans he, hrowHolds.2.1.symm.trans hl⟩ hdates hrowHolds havailable hb hholds

theorem Linked.insertRequest (h : Linked st) (e : EmployeeId) (l : LeaveTypeId) (span : LeaveSpan)
    (reason : String) :
    Linked { st with subjects := (st.subjects.insertRequest m e l span reason).2 }
      ∧ (∀ o ∈ st.db.outline, o.subject ≠ leaveSubject st.subjects.nextRequest)
      ∧ st.subjects.nextRequest < (st.subjects.insertRequest m e l span reason).2.nextRequest
      ∧ ∀ r ∈ (st.subjects.insertRequest m e l span reason).2.requests,
        r.id = st.subjects.nextRequest → r.status = .pending := by
  obtain ⟨redemptions, hframe⟩ := insertRequest_frame (m := m) e l span reason st.subjects
  have hnone : ∀ o ∈ st.db.outline, o.subject ≠ leaveSubject st.subjects.nextRequest :=
    fun o ho hsubject => lt_irrefl _ (h.known o ho _ hsubject)
  rw [hframe]
  refine ⟨⟨h.engine, ?_, fun o ho id hsubject => Nat.lt_succ_of_lt (h.known o ho id hsubject),
    h.single, ?_⟩, hnone, Nat.lt_succ_self _, ?_⟩
  · intro r hr
    rcases List.mem_append.mp hr with hr | hr
    · exact Nat.lt_succ_of_lt (h.fresh r hr)
    · rw [List.mem_singleton.mp hr]
      exact Nat.lt_succ_self _
  · intro o ho hop r hr hsubject
    rcases List.mem_append.mp hr with hr | hr
    · exact h.pending o ho hop r hr hsubject
    · rw [List.mem_singleton.mp hr]
      rfl
  · intro r hr hid
    rcases List.mem_append.mp hr with hr | hr
    · exact absurd hid (h.fresh r hr).ne
    · rw [List.mem_singleton.mp hr]
      rfl

include hgrows hstart in
/-- **Creating a request**, within the cycle it starts in. -/
theorem Sound.createLeaveRequest (h : Sound m employee leaveType st)
    (hordinary : (m.leaveType leaveType).IsOrdinary) (submission : Submission) {e : EmployeeId}
    {l : LeaveTypeId} {span : LeaveSpan} (reason : String)
    (hcycle : e = employee → l = leaveType → span.endsInCycle m employee leaveType = true) :
    Sound m employee leaveType (createLeaveRequest m submission e l span reason st).2 := by
  have hvalidated := h.validateUnits hgrows hstart e l span
  have hcases := validateUnits_cases (m := m) e l span st.subjects
  unfold TimeOff.createLeaveRequest
  split
  · exact h
  · next hdates =>
    split
    · next heq =>
      rw [heq] at hvalidated
      exact hvalidated
    · next t heq =>
      rw [heq] at hvalidated hcases
      -- the row validated against is the cycle the request lies within
      have hinserted : Sound m employee leaveType
          { st with subjects := (t.insertRequest m e l span reason).2 } := by
        refine ⟨(hvalidated.linked.insertRequest e l span reason).1,
          hvalidated.charged.insertRequest (t := st.subjects) hstart (checkDates_eq_ok hdates) ?_⟩
        rintro rfl rfl
        rcases hcases with ⟨-, hnot⟩ | ⟨row, hof, hwindow, hrow, henough⟩
        · exact absurd hordinary (hnot rfl)
        · refine ⟨row, hrow, ⟨hof.1.symm, hof.2.symm, ?_, ?_⟩, henough rfl⟩
          · obtain ⟨⟨month, day⟩, hsome⟩ := Option.isSome_iff_exists.mp hstart
            exact (anniversaryWindow_mem ((getCycleWindow_eq_ok hsome).mp hwindow)).1
          · have hends := hcycle rfl rfl
            rw [LeaveSpan.endsInCycle, hwindow] at hends
            exact of_decide_eq_true hends
      obtain ⟨-, hnone, hid, hrows⟩ :=
        hvalidated.linked.insertRequest (m := m) e l span reason
      split
      · next heq' =>
        rw [heq'] at hinserted
        exact hinserted
      · next t' heq' =>
        rw [heq'] at hinserted hid hrows
        split
        · exact hinserted
        · next st₃ hok =>
          obtain ⟨hlinked, hsubjects⟩ := linked_requestApproval hinserted.linked hid hnone hrows hok
          exact Sound.refreshToday hgrows hstart
            ⟨hlinked, hsubjects ▸ hinserted.charged⟩ e l

include hgrows hstart in
/-- **Withdrawing a request** gives its units back. -/
theorem Sound.withdrawLeaveRequest (h : Sound m employee leaveType st) (now : Time)
    (id : LeaveRequestId) :
    Sound m employee leaveType (withdrawLeaveRequest m now id st).2 := by
  unfold TimeOff.withdrawLeaveRequest
  split
  · exact h
  · next request _ =>
    split
    · exact h
    · obtain ⟨st₂, hok, hlinked, hall⟩ := h.linked.cancelWithdrawn m now id
      have hcharged := h.charged.ease (hall.eases (fun _ _ _ => Or.inr ⟨by simp, by simp⟩))
      obtain ⟨redemptions, hsync⟩ := syncRequest_frame m st₂.subjects request .withdrawn
      have hsound : Sound m employee leaveType
          { st₂ with subjects := { st₂.subjects with redemptions := redemptions } } :=
        ⟨hlinked.of_requests rfl rfl, hcharged.units, hcharged.window, hcharged.charged,
          hcharged.stored, hcharged.current⟩
      dsimp only
      rw [hok]
      dsimp only
      rw [hsync]
      exact hsound.refreshToday hgrows hstart _ _

theorem Sound.outcome (h : Sound m employee leaveType st) (hinv : st'.db.Inv)
    (houtcome : Outcome (leaveHandler m) st st') : Sound m employee leaveType st' := by
  obtain ⟨hlinked, heases⟩ := linked_of_outcome h.linked hinv houtcome
  exact ⟨hlinked, h.charged.ease heases⟩

/-! ## Runs -/

include hgrows hstart in
/-- **Every operation keeps the invariant.** -/
theorem Sound.step (h : Sound m employee leaveType st)
    (hordinary : (m.leaveType leaveType).IsOrdinary) {op : Op}
    (hop : op.InCycle m employee leaveType) : Sound m employee leaveType (step m st op) := by
  cases op with
  | createLeaveRequest submission e l span reason =>
    exact h.createLeaveRequest hgrows hstart hordinary submission reason hop
  | withdrawLeaveRequest now request => exact h.withdrawLeaveRequest hgrows hstart now request
  | approveAction user dir action actor comment =>
    refine settle_induction h (fun st' hok => ?_)
    exact h.outcome (kept_approveAction h.linked.engine hok).1
      (outcome_approveAction h.linked.engine hok)
  | rejectAction dir action actor comment =>
    refine settle_induction h (fun st' hok => ?_)
    exact h.outcome (kept_rejectAction h.linked.engine hok).1
      (outcome_rejectAction h.linked.engine hok)
  | processPendingActionEscalations user dir =>
    exact h.outcome (kept_processPendingActionEscalations h.linked.engine).1
      (.quiet outline_processPendingActionEscalations rfl)
  | getOrCreateLeaveBalance e l asOf =>
    refine settle_induction h (fun st' hok => ?_)
    obtain ⟨⟨balance, t⟩, hbalance, hret⟩ := bind_eq_ok_iff.mp hok
    obtain rfl := pure_eq_ok_iff.mp hret
    obtain ⟨row, -, hof, hwindow, hrow⟩ := getOrCreateLeaveBalance_eq_ok hbalance
    exact h.recompute hgrows hstart hof hwindow hrow
  | dateChanges date =>
    exact ⟨h.linked.of_requests rfl rfl, h.charged.laterDay hgrows (le_max_left _ _)⟩

end

/-- **Tables without requests**: balances of the employee and leave type are of
cycles, and what they start with is not negative. -/
structure LeaveTables.Opening (m : Masters) (employee : EmployeeId) (leaveType : LeaveTypeId)
    (t : LeaveTables) : Prop where
  requests : t.requests = []
  window : ∀ b ∈ t.balances, b.key.IsOf employee leaveType → ∃ asOf,
    getCycleWindow (m.leaveType leaveType).leaveCycle (m.employee employee) asOf
      = .ok (b.key.cycleStart, b.key.cycleEnd)
  nonneg : ∀ b ∈ t.balances, b.key.IsOf employee leaveType → 0 ≤ b.total ∧ 0 ≤ b.creditedAmount

/-- The state reached from some tables by a list of requests. -/
def reached (m : Masters) (stages : StageTable) (tables : LeaveTables) (ops : List Op) : State :=
  Run.exec (step m) (EngineState.initial stages tables) ops

theorem sound_initial {m : Masters} {employee : EmployeeId} {leaveType : LeaveTypeId}
    {stages : StageTable} {tables : LeaveTables} (h : tables.Opening m employee leaveType)
    (hgrows : (m.leaveType leaveType).CreditGrows) :
    Sound m employee leaveType (EngineState.initial stages tables) := by
  have hnone : ∀ r, r ∉ tables.requests := fun r hr => by simp [h.requests] at hr
  have hzero : ∀ key, takenUnits tables.requests key = 0 := fun key => by
    rw [h.requests, takenUnits_eq (fun r hr => absurd hr List.not_mem_nil)]
    rfl
  refine ⟨⟨inv_initial _ _, fun r hr => absurd hr (hnone r), fun o ho => absurd ho List.not_mem_nil,
    fun o ho => absurd ho List.not_mem_nil, fun o ho => absurd ho List.not_mem_nil⟩,
    ⟨fun r hr => absurd hr (hnone r), h.window, fun r hr => absurd hr (hnone r), ?_, ?_⟩⟩
  · intro b hb hof
    obtain ⟨htotal, hcredited⟩ := h.nonneg b hb hof
    exact (hzero b.key).le.trans (add_nonneg htotal hcredited)
  · intro b hb hof
    refine (hzero b.key).le.trans (add_nonneg (h.nonneg b hb hof).1 ?_)
    unfold LeaveBalance.creditOf
    rw [hof.2]
    exact cappedCredit_nonneg hgrows

/-- **Requests within their cycles never overdraw**, when the cycles start on
a fixed day and credits are never taken back. -/
theorem notOverdrawn_of_inCycle (m : Masters) (employee : EmployeeId) (leaveType : LeaveTypeId)
    (hordinary : (m.leaveType leaveType).IsOrdinary)
    (hgrows : (m.leaveType leaveType).CreditGrows)
    (hstart : ((m.leaveType leaveType).leaveCycle.startsOn (m.employee employee)).isSome)
    (stages : StageTable) (tables : LeaveTables) (htables : tables.Opening m employee leaveType)
    (ops : List Op) (hops : ∀ op ∈ ops, op.InCycle m employee leaveType) :
    NotOverdrawn employee leaveType (reached m stages tables ops).subjects := by
  have hsound : Sound m employee leaveType (reached m stages tables ops) :=
    Run.invariant_of_along (G := fun (_ : State) (op : Op) => op.InCycle m employee leaveType)
      (fun _ _ h hop => h.step hgrows hstart hordinary hop) (sound_initial htables hgrows)
      (Run.along_of_forall hops)
  intro b hb hof
  rw [hsound.charged.daysTaken_eq hstart hb hof]
  exact hsound.charged.stored b hb hof

/-! ## Twelve days a year

Employee 1 has twelve days in each calendar year, and asks for them at the end
of 2026. -/

namespace Sample

def masters : Masters where
  employee e := { id := e, organisation := 1, dateOfJoining := none }
  leaveType _ :=
    { isCompOff := false, isLossOfPay := false, annualEntitlement := 12,
      creditFrequency := .yearly, prorateOnJoin := false, maxBalance := none,
      leaveCycle := { cycleType := .calendarYear, startMonth := 1, startDay := 1 },
      twoPlaces := twoPlaces_of_none }

def tables : LeaveTables where
  today := ⟨2026, 12, 1, by decide⟩
  requests := []
  balances := []
  ledgerEntries := []
  accruals := []
  redemptions := []
  nextRequest := 0

def stages : StageTable where
  rows := [Approvals.Sample.stage 1 1 .any [Approvals.Sample.employeeApprover 2]]
  uniqueId := by decide
  uniqueSequence := by decide

/-- Employee 1 asks for whole days. -/
def ask (startDate endDate : Date) : Op :=
  .createLeaveRequest
    { user := Approvals.Sample.user, dir := Approvals.Sample.directory 0, workflow := some 1 } 1 0
    { startDate := startDate, endDate := endDate, startSession := .fullDay,
      endSession := .fullDay } ""

/-- Employee 2 approves. -/
def approve (action : ActionId) : Op :=
  .approveAction Approvals.Sample.user (Approvals.Sample.directory 0) action 102 ""

/-- Six days in December and six in January, then twelve days in December. -/
def spanning : List Op :=
  [ask ⟨2026, 12, 26, by decide⟩ ⟨2027, 1, 6, by decide⟩, approve 1,
    ask ⟨2026, 12, 1, by decide⟩ ⟨2026, 12, 12, by decide⟩]

/-- Six days in each year, asked for separately, and six more. -/
def split : List Op :=
  [ask ⟨2026, 12, 26, by decide⟩ ⟨2026, 12, 31, isDate_2026_12_31⟩, approve 1,
    ask ⟨2027, 1, 1, by decide⟩ ⟨2027, 1, 6, by decide⟩,
    ask ⟨2026, 12, 1, by decide⟩ ⟨2026, 12, 6, by decide⟩]

end Sample

theorem notOverdrawn_of_inCycle_sample :
    NotOverdrawn 1 0 (reached Sample.masters Sample.stages Sample.tables Sample.split).subjects :=
  notOverdrawn_of_inCycle Sample.masters 1 0 ⟨rfl, rfl⟩ (Or.inl (by decide)) rfl Sample.stages
    Sample.tables ⟨rfl, by simp [Sample.tables], by simp [Sample.tables]⟩ Sample.split
    (by decide +kernel)

/-- **A request over the end of a year overdraws it**: eighteen of the twelve
days of 2026 are taken. -/
theorem spanning_request_overdraws :
    ¬ NotOverdrawn 1 0
      (reached Sample.masters Sample.stages Sample.tables Sample.spanning).subjects := by
  decide +kernel

end TimeOff
