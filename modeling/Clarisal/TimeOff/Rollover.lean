import Clarisal.Lib.Run
import Clarisal.TimeOff.CarryForward

/-!
# Running the cycle-end job again

What lapses of a cycle enters its ledger, and under NONE the job looks there
before it lapses anything. Under CAPPED it does not: it applies the cap to
what is available, again in every run. When the credited amount cannot be
lowered far enough, each run adds one more expiry (`expiry_again`). Nor do
cycles that have ended one after the other settle in one run, since a balance
is capped as it was fetched, before anything is carried into it.

The job is idempotent exactly when the capped balances, as writers, are
coherent and leave nothing above the caps, or when it had nothing to do
(`idempotent_iff`).
-/

open Calendar

namespace TimeOff

open Approvals Transaction

/-- **Running the job again changes nothing**, in whatever order the balances
are returned. -/
def Idempotent (m : CycleEndMasters) (t : CycleEndTables) : Prop :=
  ∀ (o : RowOrder) (os : List RowOrder),
    Run.exec (runLeaveLapseForAllActiveCycles m) t (o :: os)
      = runLeaveLapseForAllActiveCycles m t o

/-- What a balance rolls into the next cycle. -/
def rolledAmount (m : CycleEndMasters) (b : LeaveBalance) : Amount :=
  (m.carryForward b.key.leaveType).carried (max 0 (b.capped m).available)

/-- **An amount is carried into a cycle**, by its balance and by its ledger. -/
structure Carries (t : CycleEndTables) (key : BalanceKey) (amount : ℚ) : Prop where
  balance : ∃ b, t.leave.getBalance key = some b ∧ b.carriedForwardAmount = amount
  entered : t.carriedEntries key ≠ []
  amounts : ∀ e ∈ t.carriedEntries key, e.amount = amount

/-- **The job has nothing to do** for the capped balances: none is over its
cap, and what is left of each is carried into its next cycle. -/
def AtRest (m : CycleEndMasters) (t : CycleEndTables) : Prop :=
  ∀ b ∈ cappedBalances m t, ∀ next, Rolls m b next →
    b.excess m ≤ 0 ∧ Carries t next (max 0 b.available)

/-- **The capped balances roll over in one run**. Less what is over the cap,
and with what the cycle before rolls into it, a balance has left what it rolls
into the next cycle. -/
structure RollsOver (m : CycleEndMasters) (t : CycleEndTables) : Prop where
  continues : ∀ b ∈ cappedBalances m t, ∃ next, Rolls m b next
  settles : ∀ b ∈ cappedBalances m t, (∀ a ∈ cappedBalances m t, ¬ Rolls m a b.key) →
    max 0 (b.capped m).available = rolledAmount m b
  absorbs : ∀ a ∈ cappedBalances m t, ∀ b ∈ cappedBalances m t, Rolls m a b.key →
    max 0 ((b.capped m).setCarried (rolledAmount m a)).available = rolledAmount m b
  agrees : ∀ a ∈ cappedBalances m t, ∀ b ∈ cappedBalances m t, ∀ next,
    Rolls m a next → Rolls m b next → rolledAmount m a = rolledAmount m b
  /-- a cycle that the run inserts and that has ended itself finds the same
  amount carried into the cycle after it -/
  fills : ∀ b ∈ cappedBalances m t, ∀ next, Rolls m b next →
    next.cycleEnd < t.leave.today → t.leave.getBalance next = none →
    ∀ later, nextCycle m.toMasters next = .ok later →
      (∀ a ∈ cappedBalances m t, Rolls m a later → rolledAmount m a = rolledAmount m b)
      ∧ ((∃ a ∈ cappedBalances m t, Rolls m a later) ∨ Carries t later (rolledAmount m b))

section

variable {m : CycleEndMasters} {t s s' : CycleEndTables} {a b : LeaveBalance}
  {key next q : BalanceKey} {cap x : ℚ}

theorem Carries.carriedInto (h : Carries t key x) : (carriedInto t key : ℚ) = x := by
  obtain ⟨b, hb, hcarried⟩ := h.balance
  rw [carriedInto_of_some hb]
  exact hcarried

/-! ## A run that changes nothing -/

theorem carried_eq (hkey : key.IsCapped m)
    (hcap : (m.carryForward key.leaveType).carryForwardCap = some cap) (hx : TwoPlaces x) :
    ((m.carryForward key.leaveType).carried x : ℚ) = min x cap := by
  have hmode : (m.carryForward key.leaveType).carryForwardMode = .capped := hkey
  have hgrid := (m.carryForward key.leaveType).twoPlaces cap hcap
  unfold CarryForwardPolicy.carried
  split
  · next h => cases h.symm.trans hmode
  · next h => cases h.symm.trans hmode
  · show min (decimal x) (decimal ((m.carryForward key.leaveType).carryForwardCap.getD 0)) = _
    rw [hcap, Option.getD_some, decimal_of_twoPlaces hx, decimal_of_twoPlaces hgrid]

theorem capped_of_excess (h : b.excess m ≤ 0) : b.capped m = b := if_neg (not_lt.mpr h)

/-- What a balance within its cap rolls over is all that is available. -/
theorem carried_of_excess (hb : b ∈ cappedBalances m t) (h : b.excess m ≤ 0) :
    ((m.carryForward b.key.leaveType).carried (max 0 b.available) : ℚ) = max 0 b.available := by
  obtain ⟨-, -, hcapped, -, hcap⟩ := mem_cappedBalances.mp hb
  obtain ⟨cap, hcap⟩ := Option.isSome_iff_exists.mp hcap
  rw [excess_eq hcap] at h
  rw [carried_eq hcapped hcap (twoPlaces_zero_max (twoPlaces_available b))]
  exact min_eq_left (by linarith)

/-- **The last balance of a run that changes nothing** is at rest. -/
theorem RolledOver.atRest_last {done : List LeaveBalance} (h : RolledOver m s s (done ++ [b]))
    (hb : b ∈ cappedBalances m s) (hfound : s.leave.getBalance b.key = some b)
    (hrolls : Rolls m b next) : b.excess m ≤ 0 ∧ Carries s next (max 0 b.available) := by
  obtain ⟨-, -, hcapped, -, -⟩ := mem_cappedBalances.mp hb
  have hself : b ∈ done ++ [b] := by simp
  have hexcess : b.excess m ≤ 0 := by
    have hcount : (done ++ [b]).countP (fun b => 0 < b.excess m) = 0 := by
      have := h.expiries
      omega
    simpa using List.countP_eq_zero.mp hcount b hself
  have hoffer : carriedInto s next = (rollover m).offer (carriedInto s) b := by
    have hne : (rollover m).dst b ≠ (rollover m).src b := by
      rw [hrolls.dst]
      exact hrolls.ne
    have hnext : (rollover m).pass (carriedInto s) (done ++ [b]) ((rollover m).dst b)
        = carriedInto s ((rollover m).dst b) := by
      rw [hrolls.dst]
      exact (h.carried next (hrolls.isCapped hcapped)).symm
    have hfixed := Writers.eq_offer_of_fixed hne (h.carried b.key hcapped).symm hnext
    rwa [hrolls.dst] at hfixed
  have hcarried : (carriedInto s next : ℚ) = max 0 b.available := by
    have hown : (b.capped m).setCarried (carriedInto s b.key) = b := by
      rw [capped_of_excess hexcess, setCarried_carriedInto hfound]
    have hvalue : (rollover m).offer (carriedInto s) b
        = (m.carryForward b.key.leaveType).carried (max 0 b.available) := by
      show (m.carryForward b.key.leaveType).carried
        (max 0 ((b.capped m).setCarried (carriedInto s b.key)).available) = _
      rw [hown]
    rw [hoffer, hvalue]
    exact carried_of_excess hb hexcess
  obtain ⟨hentered, hamounts⟩ := h.entered b hself next hrolls
  refine ⟨hexcess, ?_, hentered, fun e he => (hamounts e he).trans hcarried⟩
  cases hrow : s.leave.getBalance next with
  | none =>
    have hinserted := h.inserted next (hrolls.isCapped hcapped) hrow ⟨b, hself, hrolls⟩
    cases hrow.symm.trans hinserted
  | some a =>
    refine ⟨a, rfl, ?_⟩
    rw [carriedInto_of_some hrow] at hcarried
    exact hcarried

/-- **A job that changes nothing**, in any order, had nothing to do. -/
theorem atRest_of_fixed (hunique : Table.Unique LeaveBalance.key s.leave.balances)
    (hfixed : ∀ o, runLeaveLapseForAllActiveCycles m s o = s) : AtRest m s := by
  intro b hb next hrolls
  have hfound := getBalance_of_mem hunique (mem_cappedBalances.mp hb).1
  have hlast : ∀ l : List LeaveBalance, l.Perm (cappedBalances m s) →
      RolledOver m s s (l.takeWhile (LeaveBalance.continues m)) := by
    intro l hl
    obtain ⟨o, rfl⟩ := exists_cappedOrder hl
    have hjob := rolledOver_job (m := m) hunique o
    rwa [hfixed o] at hjob
  obtain ⟨before, after, hsplit⟩ := List.append_of_mem hb
  by_cases hall : ∀ a ∈ before ++ after, a.continues m = true
  · -- every balance is rolled over, this one last
    have hperm : (before ++ after ++ [b]).Perm (cappedBalances m s) := by
      rw [hsplit]
      refine List.perm_append_comm.trans ?_
      rw [List.singleton_append]
      exact List.perm_middle.symm
    have hrolled := hlast _ hperm
    rw [List.takeWhile_eq_self_iff.mpr] at hrolled
    · exact hrolled.atRest_last hb hfound hrolls
    · intro a ha
      rcases List.mem_append.mp ha with ha | ha
      · exact hall a ha
      · rw [List.mem_singleton.mp ha]
        exact continues_iff.mpr ⟨next, hrolls⟩
  · -- a balance without a next cycle ends the run after this one
    push Not at hall
    obtain ⟨v, hv, hstops⟩ := hall
    obtain ⟨first, last, hsplit'⟩ := List.append_of_mem hv
    have hperm : (b :: v :: (first ++ last)).Perm (cappedBalances m s) := by
      rw [hsplit]
      refine List.Perm.trans (List.Perm.cons b ?_) List.perm_middle.symm
      rw [hsplit']
      exact List.perm_middle.symm
    have hrolled := hlast _ hperm
    rw [List.takeWhile_cons_of_pos (continues_iff.mpr ⟨next, hrolls⟩),
      List.takeWhile_cons_of_neg hstops] at hrolled
    have hlone : RolledOver m s s ([] ++ [b]) := hrolled
    exact hlone.atRest_last hb hfound hrolls

/-- **A balance at rest** is left as it is. -/
theorem processCycleEndCap_atRest (hunique : Table.Unique LeaveBalance.key s.leave.balances)
    (hb : b ∈ cappedBalances m s) (hrolls : Rolls m b next) (hexcess : b.excess m ≤ 0)
    (hcarries : Carries s next (max 0 b.available)) : processCycleEndCap m b s = .ok s := by
  obtain ⟨hmem, -, -, -, hcap⟩ := mem_cappedBalances.mp hb
  obtain ⟨row, hrow, hcarried⟩ := hcarries.balance
  have happly : s.applyCap m b = s := if_neg (not_lt.mpr hexcess)
  rw [processCycleEndCap_eq hcap hrolls, happly]
  refine congrArg Except.ok ?_
  unfold processCycleEndCarryForward
  rw [getBalance_of_mem hunique hmem]
  dsimp only
  have hamount := carried_of_excess hb hexcess
  set amount := (m.carryForward b.key.leaveType).carried (max 0 b.available)
  have hget : s.getOrCreateBalance next = s := by rw [CycleEndTables.getOrCreateBalance, hrow]
  have hupdate : s.updateBalance next (fun a => a.setCarried amount) = s := by
    have hrows : Table.update (fun a : LeaveBalance => a.key = next)
        (fun a => a.setCarried amount) s.leave.balances = s.leave.balances := by
      refine Table.update_eq_self (fun a ha hkey => ?_)
      have hfound := getBalance_of_mem hunique ha
      rw [of_decide_eq_true hkey, hrow] at hfound
      obtain rfl := Option.some.inj hfound
      have hsame : amount = ⟨row.carriedForwardAmount, row.twoPlaces.2.1⟩ :=
        Subtype.ext (hamount.trans hcarried.symm)
      rw [hsame]
      rfl
    rw [CycleEndTables.updateBalance, hrows]
  have hledger : s.updateOrCreateCarryForward next amount = s := by
    have hany : s.leave.ledgerEntries.any (LeaveBalanceLedgerEntry.isCarriedInto next) = true := by
      obtain ⟨e, he⟩ := List.exists_mem_of_ne_nil _ hcarries.entered
      exact List.any_eq_true.mpr ⟨e, List.mem_filter.mp he⟩
    have hentries : Table.update (LeaveBalanceLedgerEntry.isCarriedInto next)
        (fun e => { e with amount := amount }) s.leave.ledgerEntries = s.leave.ledgerEntries := by
      refine Table.update_eq_self (fun e he hentry => ?_)
      rw [hamount, ← hcarries.amounts e (List.mem_filter.mpr ⟨he, hentry⟩)]
    rw [CycleEndTables.updateOrCreateCarryForward, if_pos hany, hentries]
  rw [hget, hupdate, hledger]

theorem capAll_atRest (hunique : Table.Unique LeaveBalance.key s.leave.balances)
    (hrest : AtRest m s) {l : List LeaveBalance} (hl : ∀ b ∈ l, b ∈ cappedBalances m s) :
    capAll m l s = s := by
  induction l with
  | nil => rfl
  | cons b l ih =>
    have hb := hl b List.mem_cons_self
    cases hnext : nextCycle m.toMasters b.key with
    | error message =>
      rw [capAll, processCycleEndCap_error (mem_cappedBalances.mp hb).2.2.2.2 hnext]
    | ok next =>
      obtain ⟨hexcess, hcarries⟩ := hrest b hb next hnext
      rw [capAll, processCycleEndCap_atRest hunique hb hnext hexcess hcarries]
      exact ih (fun a ha => hl a (List.mem_cons_of_mem _ ha))

/-- **A job that has nothing to do** changes nothing. -/
theorem fixed_of_atRest (hunique : Table.Unique LeaveBalance.key s.leave.balances)
    (hsettled : LapseSettled m s) (hrest : AtRest m s) (o : RowOrder) :
    runLeaveLapseForAllActiveCycles m s o = s := by
  have hfirst : lapseAll m (o.order (endedBalances m .none s)) s = s := by
    refine lapseAll_settled (fun b hb => ?_)
    obtain ⟨hmem, hended, hmode, hactive⟩ := mem_endedBalances.mp ((o.perm _).mem_iff.mp hb)
    exact hsettled b.key b (getBalance_of_mem hunique hmem) hended hmode hactive
  rw [job_eq hunique, hfirst]
  exact capAll_atRest hunique hrest (fun b hb => (cappedOrder_perm o).mem_iff.mp hb)

/-- **Idempotence is rest** after the first run. -/
theorem idempotent_iff_atRest (hunique : Table.Unique LeaveBalance.key t.leave.balances) :
    Idempotent m t ↔ ∀ o, AtRest m (runLeaveLapseForAllActiveCycles m t o) := by
  constructor
  · intro h o
    exact atRest_of_fixed (rolledOver_job hunique o).unique (fun o' => h o [o'])
  · intro h o os
    have hjob := rolledOver_job (m := m) hunique o
    show Run.exec (runLeaveLapseForAllActiveCycles m) (runLeaveLapseForAllActiveCycles m t o) os
      = runLeaveLapseForAllActiveCycles m t o
    induction os with
    | nil => rfl
    | cons o' os ih => rwa [Run.exec_cons, fixed_of_atRest hjob.unique hjob.settled (h o)]

/-! ## What the first run leaves -/

/-- The capped balances after a pass: those of before, and those it inserted. -/
theorem RolledOver.mem_cappedBalances {done : List LeaveBalance} (h : RolledOver m t s done)
    (ha : a ∈ cappedBalances m s) :
    (∃ b ∈ cappedBalances m t,
        a = (if b ∈ done then b.capped m else b).setCarried (carriedInto s b.key))
      ∨ (t.leave.getBalance a.key = none ∧ (∃ b ∈ done, Rolls m b a.key)
        ∧ a = (LeaveBalance.new a.key).setCarried (carriedInto s a.key)) := by
  obtain ⟨hmem, hended, hcapped, hactive, hcap⟩ := TimeOff.mem_cappedBalances.mp ha
  have hfound := getBalance_of_mem h.unique hmem
  cases hrow : t.leave.getBalance a.key with
  | none =>
    refine Or.inr ⟨rfl, ?_⟩
    by_cases hby : ∃ b ∈ done, Rolls m b a.key
    · exact ⟨hby, Option.some.inj (hfound.symm.trans (h.inserted _ hcapped hrow hby))⟩
    · have habsent := h.absent _ hcapped hrow (fun b hb hroll => hby ⟨b, hb, hroll⟩)
      cases hfound.symm.trans habsent
  | some b =>
    have hkey : b.key = a.key := Table.find_key hrow
    refine Or.inl ⟨b, TimeOff.mem_cappedBalances.mpr ⟨Table.find_mem hrow, ?_⟩, ?_⟩
    · rw [hkey]
      exact ⟨hended.trans_eq h.today, hcapped, hactive, hcap⟩
    · rw [hkey]
      exact Option.some.inj (hfound.symm.trans (h.rows _ hcapped b hrow))

/-- What is carried into a cycle is in its balance and in its ledger. -/
theorem RolledOver.carries {done : List LeaveBalance} (h : RolledOver m t s done)
    (hb : b ∈ done) (hrolls : Rolls m b next) (hcapped : next.IsCapped m) :
    Carries s next (carriedInto s next) := by
  obtain ⟨hentered, hamounts⟩ := h.entered b hb next hrolls
  refine ⟨?_, hentered, hamounts⟩
  have hrow : ∃ a, s.leave.getBalance next = some a := by
    cases hfound : t.leave.getBalance next with
    | none => exact ⟨_, h.inserted next hcapped hfound ⟨b, hb, hrolls⟩⟩
    | some a => exact ⟨_, h.rows next hcapped a hfound⟩
  obtain ⟨a, ha⟩ := hrow
  refine ⟨a, ha, ?_⟩
  rw [carriedInto_of_some ha]

/-- What nothing is carried into. -/
theorem RolledOver.carriedInto_kept {done : List LeaveBalance} (h : RolledOver m t s done)
    (hall : ∀ b ∈ done, ∃ next, Rolls m b next) (hq : q.IsCapped m)
    (hnot : ∀ b ∈ done, ¬ Rolls m b q) : carriedInto s q = carriedInto t q := by
  refine (h.carried q hq).trans (Writers.pass_of_ne (fun b hb hdst => ?_))
  obtain ⟨next, hrolls⟩ := hall b hb
  rw [hrolls.dst] at hdst
  exact hnot b hb (hdst ▸ hrolls)

theorem RolledOver.carries_kept {done : List LeaveBalance} (h : RolledOver m t s done)
    (hall : ∀ b ∈ done, ∃ next, Rolls m b next) (hq : q.IsCapped m)
    (hnot : ∀ b ∈ done, ¬ Rolls m b q) : Carries s q x ↔ Carries t q x := by
  have hinto := h.carriedInto_kept hall hq hnot
  have hentries := h.kept q hnot
  constructor
  · intro hcarries
    refine ⟨?_, hentries ▸ hcarries.entered, hentries ▸ hcarries.amounts⟩
    obtain ⟨a, ha, -⟩ := hcarries.balance
    cases hrow : t.leave.getBalance q with
    | none => cases ha.symm.trans (h.absent q hq hrow hnot)
    | some b =>
      refine ⟨b, rfl, ?_⟩
      rw [← hcarries.carriedInto, hinto, carriedInto_of_some hrow]
  · intro hcarries
    refine ⟨?_, hentries.symm ▸ hcarries.entered, hentries.symm ▸ hcarries.amounts⟩
    obtain ⟨b, hb, -⟩ := hcarries.balance
    refine ⟨_, h.rows q hq b hb, ?_⟩
    rw [← hcarries.carriedInto, ← hinto]
    rfl

/-! ## Rolling over in one run -/

/-- A cap leaves what was carried into a balance. -/
theorem capped_carried (hfound : t.leave.getBalance b.key = some b) :
    (b.capped m).setCarried (carriedInto t b.key) = b.capped m := by
  rw [carriedInto_of_some hfound]
  unfold LeaveBalance.capped
  split <;> rfl

/-- **What a capped balance offers** is what it rolls over. -/
theorem offer_eq (hfound : t.leave.getBalance b.key = some b) :
    (rollover m).offer (carriedInto t) b = rolledAmount m b := by
  show (m.carryForward b.key.leaveType).carried
    (max 0 ((b.capped m).setCarried (carriedInto t b.key)).available) = _
  rw [capped_carried hfound]
  rfl

/-- What is rolled over is within the cap. -/
theorem rolledAmount_le (hb : b ∈ cappedBalances m t)
    (hcap : (m.carryForward b.key.leaveType).carryForwardCap = some cap) :
    (rolledAmount m b : ℚ) ≤ cap := by
  obtain ⟨-, -, hcapped, -, -⟩ := mem_cappedBalances.mp hb
  unfold rolledAmount
  rw [carried_eq hcapped hcap (twoPlaces_zero_max (twoPlaces_available _))]
  exact min_le_right _ _

/-- Rolled over again, it stays the same. -/
theorem carried_rolledAmount (hb : b ∈ cappedBalances m t) :
    (m.carryForward b.key.leaveType).carried (rolledAmount m b) = rolledAmount m b := by
  obtain ⟨-, -, hcapped, -, hcap⟩ := mem_cappedBalances.mp hb
  obtain ⟨cap, hcap⟩ := Option.isSome_iff_exists.mp hcap
  refine Subtype.ext ?_
  rw [carried_eq hcapped hcap (rolledAmount m b).2]
  exact min_eq_left (rolledAmount_le hb hcap)

theorem RollsOver.coherent (h : RollsOver m t)
    (hunique : Table.Unique LeaveBalance.key t.leave.balances) :
    (rollover m).Coherent (carriedInto t) (cappedBalances m t) := by
  have hoffer : ∀ b ∈ cappedBalances m t,
      (rollover m).offer (carriedInto t) b = rolledAmount m b :=
    fun b hb => offer_eq (getBalance_of_mem hunique (mem_cappedBalances.mp hb).1)
  constructor
  · intro a ha b hb hdst
    obtain ⟨next, hrolls⟩ := h.continues a ha
    obtain ⟨next', hrolls'⟩ := h.continues b hb
    rw [hrolls.dst, hrolls'.dst] at hdst
    subst hdst
    rw [hoffer a ha, hoffer b hb]
    exact h.agrees a ha b hb next hrolls hrolls'
  · intro a ha b hb hdst
    obtain ⟨next, hrolls⟩ := h.continues a ha
    rw [hrolls.dst] at hdst
    obtain rfl : next = b.key := hdst
    rw [hoffer a ha, hoffer b hb]
    show (m.carryForward b.key.leaveType).carried
      (max 0 ((b.capped m).setCarried (rolledAmount m a)).available) = _
    rw [h.absorbs a ha b hb hrolls]
    exact carried_rolledAmount hb

/-- What is rolled over of a balance is not negative. -/
theorem RollsOver.nonneg (h : RollsOver m t) (hb : b ∈ cappedBalances m t) :
    0 ≤ (rolledAmount m b : ℚ) := by
  by_cases hbefore : ∃ a ∈ cappedBalances m t, Rolls m a b.key
  · obtain ⟨a, ha, hrolls⟩ := hbefore
    rw [← h.absorbs a ha b hb hrolls]
    exact le_max_left _ _
  · rw [← h.settles b hb (fun a ha hrolls => hbefore ⟨a, ha, hrolls⟩)]
    exact le_max_left _ _

/-- A cycle with nothing but what was carried into it. -/
theorem available_new (key : BalanceKey) (carried : Amount) :
    ((LeaveBalance.new key).setCarried carried).available = carried := by
  show (0 : ℚ) + carried + 0 - 0 - 0 = carried
  ring

/-- **Balances that roll over in one run** are at rest after it. -/
theorem RollsOver.atRest (h : RollsOver m t)
    (hunique : Table.Unique LeaveBalance.key t.leave.balances) (o : RowOrder) :
    AtRest m (runLeaveLapseForAllActiveCycles m t o) := by
  have hperm := cappedOrder_perm (m := m) (t := t) o
  have hall : ∀ b ∈ cappedOrder m t o, ∃ next, Rolls m b next :=
    fun b hb => h.continues b (hperm.mem_iff.mp hb)
  have hjob := rolledOver_job (m := m) hunique o
  rw [List.takeWhile_eq_self_iff.mpr (fun b hb => continues_iff.mpr (hall b hb))] at hjob
  set s := runLeaveLapseForAllActiveCycles m t o
  -- what the run carries into the next cycle of a balance
  have hinto : ∀ b ∈ cappedBalances m t, ∀ next, Rolls m b next →
      Carries s next (rolledAmount m b) := by
    intro b hb next hrolls
    obtain ⟨hmem, -, hcapped, -, -⟩ := mem_cappedBalances.mp hb
    have hnext := hrolls.isCapped hcapped
    have hpass := (h.coherent hunique).pass_eq hperm hb
    rw [hrolls.dst, ← hjob.carried next hnext, offer_eq (getBalance_of_mem hunique hmem)] at hpass
    exact hpass ▸ hjob.carries (hperm.mem_iff.mpr hb) hrolls hnext
  have hexcess : ∀ a b : LeaveBalance, b ∈ cappedBalances m t → a.key.leaveType = b.key.leaveType →
      max 0 a.available = rolledAmount m b → a.excess m ≤ 0 := by
    intro a b hb htype havailable
    obtain ⟨cap, hcap⟩ := Option.isSome_iff_exists.mp (mem_cappedBalances.mp hb).2.2.2.2
    rw [excess_eq (htype ▸ hcap), havailable]
    exact sub_nonpos.mpr (rolledAmount_le hb hcap)
  intro a ha next hrolls
  rcases hjob.mem_cappedBalances ha with ⟨b, hb, rfl⟩ | ⟨hnone, ⟨b, hb, hinserted⟩, heq⟩
  · rw [if_pos (hperm.mem_iff.mpr hb)] at hrolls ⊢
    have hkey : ((b.capped m).setCarried (carriedInto s b.key)).key = b.key := by
      unfold LeaveBalance.capped
      split <;> rfl
    have hleft : max 0 ((b.capped m).setCarried (carriedInto s b.key)).available
        = rolledAmount m b := by
      obtain ⟨hmem, -, hcapped, -, -⟩ := mem_cappedBalances.mp hb
      by_cases hbefore : ∃ a ∈ cappedBalances m t, Rolls m a b.key
      · obtain ⟨a, ha, hrolls'⟩ := hbefore
        have hcarried : carriedInto s b.key = rolledAmount m a :=
          Subtype.ext (hinto a ha b.key hrolls').carriedInto
        rw [hcarried]
        exact h.absorbs a ha b hb hrolls'
      · have hbefore : ∀ a ∈ cappedBalances m t, ¬ Rolls m a b.key :=
          fun a ha hrolls' => hbefore ⟨a, ha, hrolls'⟩
        rw [hjob.carriedInto_kept hall hcapped (fun a ha => hbefore a (hperm.mem_iff.mp ha)),
          capped_carried (getBalance_of_mem hunique hmem)]
        exact h.settles b hb hbefore
    refine ⟨hexcess _ b hb (congrArg _ hkey) hleft, ?_⟩
    rw [hleft]
    unfold Rolls at hrolls
    rw [hkey] at hrolls
    exact hinto b hb next hrolls
  · have hb := hperm.mem_iff.mp hb
    obtain ⟨-, -, hcapped, -, -⟩ := mem_cappedBalances.mp hb
    have hcarried : carriedInto s a.key = rolledAmount m b :=
      Subtype.ext (hinto b hb a.key hinserted).carriedInto
    have hleft : max 0 a.available = rolledAmount m b := by
      rw [heq, hcarried, available_new]
      exact max_eq_right (h.nonneg hb)
    have hended : a.key.cycleEnd < t.leave.today :=
      (mem_cappedBalances.mp ha).2.1.trans_eq hjob.today
    refine ⟨hexcess a b hb hinserted.leaveType hleft, ?_⟩
    rw [hleft]
    obtain ⟨hagrees, hfilled⟩ := h.fills b hb a.key hinserted hended hnone next hrolls
    by_cases hby : ∃ c ∈ cappedBalances m t, Rolls m c next
    · obtain ⟨c, hc, hrolls'⟩ := hby
      exact hagrees c hc hrolls' ▸ hinto c hc next hrolls'
    · have hnext : next.IsCapped m := hrolls.isCapped (hinserted.isCapped hcapped)
      refine (hjob.carries_kept hall hnext (fun c hc hrolls' => ?_)).mpr (hfilled.resolve_left hby)
      exact hby ⟨c, hperm.mem_iff.mp hc, hrolls'⟩

/-- What is left of a balance is what was carried into the next cycle, after a
run that leaves all at rest. -/
theorem RolledOver.left_eq {done : List LeaveBalance} (h : RolledOver m t s done)
    (hrest : AtRest m s) (hunique : Table.Unique LeaveBalance.key t.leave.balances)
    (hb : b ∈ cappedBalances m t) (hdone : b ∈ done) (hrolls : Rolls m b next) :
    max 0 ((b.capped m).setCarried (carriedInto s b.key)).available = carriedInto s next := by
  obtain ⟨hmem, hended, hcapped, hactive, hcap⟩ := TimeOff.mem_cappedBalances.mp hb
  have hrow := h.rows b.key hcapped b (getBalance_of_mem hunique hmem)
  rw [if_pos hdone] at hrow
  have hkey : ((b.capped m).setCarried (carriedInto s b.key)).key = b.key := Table.find_key hrow
  have hafter : (b.capped m).setCarried (carriedInto s b.key) ∈ cappedBalances m s := by
    refine TimeOff.mem_cappedBalances.mpr ⟨Table.find_mem hrow, ?_⟩
    rw [hkey]
    exact ⟨hended.trans_eq h.today.symm, hcapped, hactive, hcap⟩
  have hrolls' : Rolls m ((b.capped m).setCarried (carriedInto s b.key)) next := by
    unfold Rolls
    rw [hkey]
    exact hrolls
  exact (hrest _ hafter next hrolls').2.carriedInto.symm

/-! ## At rest after one run -/

/-- The balances that have been rolled over, at rest. -/
structure Rests (m : CycleEndMasters) (t s : CycleEndTables) : Prop where
  rolled : ∃ l : List LeaveBalance, l.Perm (cappedBalances m t) ∧ RolledOver m t s l
  rest : AtRest m s

/-- **Every run leaves the balances at rest.** -/
structure AlwaysRests (m : CycleEndMasters) (t : CycleEndTables) : Prop where
  unique : Table.Unique LeaveBalance.key t.leave.balances
  continues : ∀ b ∈ cappedBalances m t, ∃ next, Rolls m b next
  rest : ∀ o, AtRest m (runLeaveLapseForAllActiveCycles m t o)

namespace AlwaysRests

theorem found (h : AlwaysRests m t) (hb : b ∈ cappedBalances m t) :
    t.leave.getBalance b.key = some b :=
  getBalance_of_mem h.unique (mem_cappedBalances.mp hb).1

/-- The run in an order of the capped balances. -/
theorem exists_run (h : AlwaysRests m t) {l : List LeaveBalance}
    (hl : l.Perm (cappedBalances m t)) : ∃ s, RolledOver m t s l ∧ AtRest m s := by
  obtain ⟨o, rfl⟩ := exists_cappedOrder hl
  have hjob := rolledOver_job (m := m) h.unique o
  rw [List.takeWhile_eq_self_iff.mpr
    (fun b hb => continues_iff.mpr (h.continues b (hl.mem_iff.mp hb)))] at hjob
  exact ⟨_, hjob, h.rest o⟩

theorem dst_ne_src (hrolls : Rolls m b next) : (rollover m).dst b ≠ (rollover m).src b := by
  rw [hrolls.dst]
  exact hrolls.ne

/-- A run that carries what a balance rolls over. -/
theorem exists_run_one (h : AlwaysRests m t) (hb : b ∈ cappedBalances m t)
    (hrolls : Rolls m b next) : ∃ s, Rests m t s ∧ carriedInto s next = rolledAmount m b := by
  obtain ⟨l, hl, hoffer⟩ := Writers.exists_order hb (dst_ne_src hrolls) (carriedInto t)
  obtain ⟨s, hs, hrest⟩ := h.exists_run hl
  have hnext : next.IsCapped m := hrolls.isCapped (mem_cappedBalances.mp hb).2.2.1
  rw [hrolls.dst, ← hs.carried next hnext, offer_eq (h.found hb)] at hoffer
  exact ⟨s, ⟨⟨l, hl, hs⟩, hrest⟩, hoffer⟩

/-- A run that carries what two balances roll over, when the first does not roll
into the second. -/
theorem exists_run_two {next' : BalanceKey} (h : AlwaysRests m t) (ha : a ∈ cappedBalances m t)
    (hb : b ∈ cappedBalances m t) (hrolls : Rolls m a next) (hrolls' : Rolls m b next')
    (hne : next ≠ next') (hread : next ≠ b.key) :
    ∃ s, Rests m t s ∧ carriedInto s next = rolledAmount m a
      ∧ carriedInto s next' = rolledAmount m b := by
  obtain ⟨l, hl, hoffer, hoffer'⟩ := Writers.exists_order_pair ha hb (dst_ne_src hrolls)
    (dst_ne_src hrolls') (by rw [hrolls.dst, hrolls'.dst]; exact hne)
    (by rw [hrolls.dst]; exact hread) (carriedInto t)
  obtain ⟨s, hs, hrest⟩ := h.exists_run hl
  have hnext : next.IsCapped m := hrolls.isCapped (mem_cappedBalances.mp ha).2.2.1
  have hnext' : next'.IsCapped m := hrolls'.isCapped (mem_cappedBalances.mp hb).2.2.1
  rw [hrolls.dst, ← hs.carried next hnext, offer_eq (h.found ha)] at hoffer
  rw [hrolls'.dst, ← hs.carried next' hnext', offer_eq (h.found hb)] at hoffer'
  exact ⟨s, ⟨⟨l, hl, hs⟩, hrest⟩, hoffer, hoffer'⟩

/-- What is left of a balance is what was carried into the next cycle. -/
theorem left_eq (h : AlwaysRests m t) (hs : Rests m t s) (hb : b ∈ cappedBalances m t)
    (hrolls : Rolls m b next) :
    max 0 ((b.capped m).setCarried (carriedInto s b.key)).available = carriedInto s next := by
  obtain ⟨⟨l, hl, hrolled⟩, hrest⟩ := hs
  exact hrolled.left_eq hrest h.unique hb (hl.mem_iff.mpr hb) hrolls

/-- Nothing is carried into the first cycle. -/
theorem left_eq_of_first (h : AlwaysRests m t) (hs : Rests m t s) (hb : b ∈ cappedBalances m t)
    (hrolls : Rolls m b next) (hfirst : ∀ a ∈ cappedBalances m t, ¬ Rolls m a b.key) :
    max 0 (b.capped m).available = carriedInto s next := by
  have hleft := h.left_eq hs hb hrolls
  obtain ⟨⟨l, hl, hrolled⟩, -⟩ := hs
  rwa [hrolled.carriedInto_kept (fun a ha => h.continues a (hl.mem_iff.mp ha))
    (mem_cappedBalances.mp hb).2.2.1 (fun a ha => hfirst a (hl.mem_iff.mp ha)),
    capped_carried (h.found hb)] at hleft

theorem settles (h : AlwaysRests m t) (hb : b ∈ cappedBalances m t)
    (hfirst : ∀ a ∈ cappedBalances m t, ¬ Rolls m a b.key) :
    max 0 (b.capped m).available = rolledAmount m b := by
  obtain ⟨next, hrolls⟩ := h.continues b hb
  obtain ⟨s, hs, hnext⟩ := h.exists_run_one hb hrolls
  rw [h.left_eq_of_first hs hb hrolls hfirst, hnext]

/-- The next cycle is not the one before. -/
theorem next_ne_of_rolls (hrolls : Rolls m a b.key) (hrolls' : Rolls m b next) : next ≠ a.key := by
  rintro rfl
  exact lt_asymm hrolls.cycleEnd_lt hrolls'.cycleEnd_lt

theorem absorbs (h : AlwaysRests m t) (ha : a ∈ cappedBalances m t) (hb : b ∈ cappedBalances m t)
    (hrolls : Rolls m a b.key) :
    max 0 ((b.capped m).setCarried (rolledAmount m a)).available = rolledAmount m b := by
  obtain ⟨next, hrolls'⟩ := h.continues b hb
  obtain ⟨s, hs, hnext, hown⟩ :=
    h.exists_run_two hb ha hrolls' hrolls hrolls'.ne (next_ne_of_rolls hrolls hrolls')
  have hleft := h.left_eq hs hb hrolls'
  rwa [hown, hnext] at hleft

theorem agrees (h : AlwaysRests m t) (ha : a ∈ cappedBalances m t) (hb : b ∈ cappedBalances m t)
    (hrolls : Rolls m a next) (hrolls' : Rolls m b next) :
    rolledAmount m a = rolledAmount m b := by
  refine Subtype.ext ?_
  by_cases hbefore : ∃ c ∈ cappedBalances m t, Rolls m c a.key
  · obtain ⟨c, hc, hinto⟩ := hbefore
    obtain ⟨s, hs, hnext, hown⟩ :=
      h.exists_run_two hb hc hrolls' hinto hrolls.ne (next_ne_of_rolls hinto hrolls)
    rw [← h.absorbs hc ha hinto, ← hown, h.left_eq hs ha hrolls, hnext]
  · have hfirst : ∀ c ∈ cappedBalances m t, ¬ Rolls m c a.key :=
      fun c hc hinto => hbefore ⟨c, hc, hinto⟩
    obtain ⟨s, hs, hnext⟩ := h.exists_run_one hb hrolls'
    rw [← h.settles ha hfirst, h.left_eq_of_first hs ha hrolls hfirst, hnext]

theorem nonneg (h : AlwaysRests m t) (hb : b ∈ cappedBalances m t) :
    0 ≤ (rolledAmount m b : ℚ) := by
  obtain ⟨next, hrolls⟩ := h.continues b hb
  obtain ⟨s, hs, hnext⟩ := h.exists_run_one hb hrolls
  rw [← hnext, ← h.left_eq hs hb hrolls]
  exact le_max_left _ _

/-- **A cycle that a run inserts** and that has ended is at rest too. -/
theorem inserted_carries {later : BalanceKey} (h : AlwaysRests m t) (hs : Rests m t s)
    (hb : b ∈ cappedBalances m t) (hrolls : Rolls m b next)
    (hended : next.cycleEnd < t.leave.today) (hnone : t.leave.getBalance next = none)
    (hlater : nextCycle m.toMasters next = .ok later)
    (hnext : carriedInto s next = rolledAmount m b) : Carries s later (rolledAmount m b) := by
  obtain ⟨⟨l, hl, hrolled⟩, hrest⟩ := hs
  obtain ⟨-, -, hcapped, hactive, hcap⟩ := mem_cappedBalances.mp hb
  obtain ⟨hemployee, htype, -⟩ := nextCycle_eq_ok hrolls
  have hrow := hrolled.inserted next (hrolls.isCapped hcapped) hnone ⟨b, hl.mem_iff.mpr hb, hrolls⟩
  rw [hnext] at hrow
  have hafter : (LeaveBalance.new next).setCarried (rolledAmount m b) ∈ cappedBalances m s := by
    refine mem_cappedBalances.mpr ⟨Table.find_mem hrow, hended.trans_eq hrolled.today.symm,
      hrolls.isCapped hcapped, ?_, ?_⟩
    · exact hemployee ▸ hactive
    · exact htype ▸ hcap
  have hcarries := (hrest _ hafter later hlater).2
  rwa [available_new, max_eq_right (h.nonneg hb)] at hcarries

theorem fills {later : BalanceKey} (h : AlwaysRests m t) (hb : b ∈ cappedBalances m t)
    (hrolls : Rolls m b next) (hended : next.cycleEnd < t.leave.today)
    (hnone : t.leave.getBalance next = none) (hlater : nextCycle m.toMasters next = .ok later) :
    (∀ a ∈ cappedBalances m t, Rolls m a later → rolledAmount m a = rolledAmount m b)
      ∧ ((∃ a ∈ cappedBalances m t, Rolls m a later) ∨ Carries t later (rolledAmount m b)) := by
  have hend : next.cycleEnd < later.cycleEnd := (nextCycle_eq_ok hlater).2.2
  constructor
  · intro a ha hinto
    have hne : later ≠ next := fun heq => absurd hend (heq ▸ lt_irrefl _)
    have hread : later ≠ b.key := fun heq =>
      lt_asymm hrolls.cycleEnd_lt (heq ▸ hend)
    obtain ⟨s, hs, hcarried, hnext⟩ := h.exists_run_two ha hb hinto hrolls hne hread
    refine Subtype.ext ?_
    rw [← hcarried]
    exact (h.inserted_carries hs hb hrolls hended hnone hlater hnext).carriedInto
  · by_cases hby : ∃ a ∈ cappedBalances m t, Rolls m a later
    · exact Or.inl hby
    · obtain ⟨s, hs, hnext⟩ := h.exists_run_one hb hrolls
      have hcarries := h.inserted_carries hs hb hrolls hended hnone hlater hnext
      obtain ⟨⟨l, hl, hrolled⟩, -⟩ := hs
      have hcapped : later.IsCapped m :=
        Rolls.isCapped (b := LeaveBalance.new next) hlater
          (hrolls.isCapped (mem_cappedBalances.mp hb).2.2.1)
      refine Or.inr ((hrolled.carries_kept (fun a ha => h.continues a (hl.mem_iff.mp ha)) hcapped
        (fun a ha hinto => hby ⟨a, hl.mem_iff.mp ha, hinto⟩)).mp hcarries)

/-- **Balances that are always at rest after a run** roll over in one. -/
theorem rollsOver (h : AlwaysRests m t) : RollsOver m t where
  continues := h.continues
  settles _ hb hfirst := h.settles hb hfirst
  absorbs _ ha _ hb hrolls := h.absorbs ha hb hrolls
  agrees _ ha _ hb _ hrolls hrolls' := h.agrees ha hb hrolls hrolls'
  fills _ hb _ hrolls hended hnone _ hlater := h.fills hb hrolls hended hnone hlater

end AlwaysRests

/-! ## Idempotence -/

/-- The capped balances, and what is carried into them, stay while others lapse. -/
theorem OnlyLapsed.cappedBalances (h : OnlyLapsed m t s) :
    cappedBalances m s = cappedBalances m t := congrArg (List.filter _) h.ended

theorem OnlyLapsed.carries_iff (h : OnlyLapsed m t s) (hq : q.IsCapped m) :
    Carries s q x ↔ Carries t q x := by
  have hbalance := h.balances q hq
  have hentries := h.entries q
  constructor
  · exact fun hcarries => ⟨hbalance ▸ hcarries.balance, hentries ▸ hcarries.entered,
      hentries ▸ hcarries.amounts⟩
  · exact fun hcarries => ⟨hbalance.symm ▸ hcarries.balance, hentries.symm ▸ hcarries.entered,
      hentries.symm ▸ hcarries.amounts⟩

theorem OnlyLapsed.atRest_iff (h : OnlyLapsed m t s) : AtRest m s ↔ AtRest m t := by
  unfold AtRest
  rw [h.cappedBalances]
  refine forall₂_congr (fun b hb =>
    forall₂_congr (fun next hrolls => and_congr_right (fun _ => ?_)))
  exact h.carries_iff (hrolls.isCapped (mem_cappedBalances.mp hb).2.2.1)

/-- **The job is idempotent** exactly when it has nothing to do for the capped
balances, or these roll over in one run. -/
theorem idempotent_iff (m : CycleEndMasters) (t : CycleEndTables)
    (hunique : Table.Unique LeaveBalance.key t.leave.balances) :
    Idempotent m t ↔ AtRest m t ∨ RollsOver m t := by
  rw [idempotent_iff_atRest hunique]
  constructor
  · intro h
    by_cases hall : ∀ b ∈ cappedBalances m t, ∃ next, Rolls m b next
    · exact Or.inr (AlwaysRests.rollsOver ⟨hunique, hall, h⟩)
    · -- a balance without a next cycle may come first, and end the pass at once
      push Not at hall
      obtain ⟨b, hb, hstops⟩ := hall
      obtain ⟨before, after, hsplit⟩ := List.append_of_mem hb
      obtain ⟨o, ho⟩ := exists_cappedOrder (m := m) (t := t) (l := b :: (before ++ after))
        (hsplit ▸ List.perm_middle.symm)
      have hrest := h o
      obtain ⟨message, hmessage⟩ : ∃ message, nextCycle m.toMasters b.key = .error message := by
        cases hnext : nextCycle m.toMasters b.key with
        | error message => exact ⟨message, rfl⟩
        | ok next => exact absurd hnext (hstops next)
      rw [job_eq hunique, ho, capAll,
        processCycleEndCap_error (mem_cappedBalances.mp hb).2.2.2.2 hmessage] at hrest
      exact Or.inl ((firstPass hunique o).1.atRest_iff.mp hrest)
  · rintro (hrest | hrolls) o
    · have hlapsed := (firstPass (m := m) hunique o).1
      have hrest := hlapsed.atRest_iff.mpr hrest
      rw [job_eq hunique, capAll_atRest (hlapsed.unique hunique) hrest (fun b hb => ?_)]
      · exact hrest
      · rw [hlapsed.cappedBalances]
        exact (cappedOrder_perm o).mem_iff.mp hb
    · exact hrolls.atRest hunique o

end

namespace Sample

/-- Leave of which at most ten days outlive their year. -/
def cappedMasters : CycleEndMasters where
  toMasters := masters
  carryForward _ :=
    { carryForwardMode := .capped, carryForwardCap := some 10,
      twoPlaces := fun c hc => ⟨1000, by rw [← Option.some.inj hc]; norm_num⟩ }
  isActive _ := true

/-- The balance of 2026, with an opening balance and credited days, in the new
year. -/
def afterYear (opening credited : ℤ) : CycleEndTables where
  leave := { newYear.leave with
    balances := [untaken ⟨2026, 1, 1, isDate_2026_01_01⟩ ⟨2026, 12, 31, isDate_2026_12_31⟩ opening
      credited] }
  lwpEntries := []

/-- The order of the table. -/
def asStored : RowOrder where
  order := id
  perm _ := .rfl

end Sample

theorem idempotent_iff_sample :
    Idempotent Sample.cappedMasters (Sample.afterYear 0 15)
      ↔ AtRest Sample.cappedMasters (Sample.afterYear 0 15)
        ∨ RollsOver Sample.cappedMasters (Sample.afterYear 0 15) :=
  idempotent_iff Sample.cappedMasters (Sample.afterYear 0 15) (by decide)

/-- Of fifteen credited days five expire, once. -/
example : Run.exec (runLeaveLapseForAllActiveCycles Sample.cappedMasters) (Sample.afterYear 0 15)
      [Sample.asStored, Sample.asStored]
    = runLeaveLapseForAllActiveCycles Sample.cappedMasters (Sample.afterYear 0 15)
      Sample.asStored := by
  decide +kernel

/-- **An opening balance over the cap** expires again in every run. -/
theorem expiry_again : ¬ Idempotent Sample.cappedMasters (Sample.afterYear 15 0) := by
  intro h
  have htwice := h Sample.asStored [Sample.asStored]
  revert htwice
  decide +kernel

end TimeOff
