import Clarisal.Lib.Writers
import Clarisal.TimeOff.Lapse
import Mathlib.Data.List.TakeWhile

/-!
# Carrying forward at the end of a cycle

A capped balance loses what is over the cap, and what it has left is carried
into its next cycle, which the job inserts when it has none. A balance without
a next cycle ends the pass.

The capped balances are writers (`rollover`): each reads what was carried into
its cycle, and writes what is carried into the next one. A run of the job, in
whatever order the balances are returned, has lapsed what lapses, and has rolled
over the balances it came to (`rolledOver_job`).
-/

open Calendar

namespace TimeOff

open Approvals Transaction

/-- The ended balances that have a cap. -/
def cappedBalances (m : CycleEndMasters) (t : CycleEndTables) : List LeaveBalance :=
  (endedBalances m .capped t).filter
    (fun b => (m.carryForward b.key.leaveType).carryForwardCap.isSome)

/-- The next cycle of a balance. -/
def Rolls (m : CycleEndMasters) (b : LeaveBalance) (next : BalanceKey) : Prop :=
  nextCycle m.toMasters b.key = .ok next

/-- What is over the cap, of a balance. -/
def LeaveBalance.excess (m : CycleEndMasters) (b : LeaveBalance) : ℚ :=
  match (m.carryForward b.key.leaveType).carryForwardCap with
  | none => 0
  | some cap => max 0 b.available - cap

/-- A balance less what is over the cap. -/
def LeaveBalance.capped (m : CycleEndMasters) (b : LeaveBalance) : LeaveBalance :=
  if 0 < b.excess m then b.setCredited (b.creditedLess (b.excess m)) else b

/-- The ledger entries of what was carried into a cycle. -/
def CycleEndTables.carriedEntries (t : CycleEndTables) (key : BalanceKey) :
    List LeaveBalanceLedgerEntry :=
  t.leave.ledgerEntries.filter (LeaveBalanceLedgerEntry.isCarriedInto key)

/-! ## The next cycle -/

section

variable {m : CycleEndMasters} {t s s' : CycleEndTables} {a b : LeaveBalance}
  {key next q : BalanceKey} {cap x : ℚ}

/-- **The next cycle** ends later, and is of the same employee and leave type. -/
theorem nextCycle_eq_ok {m : Masters} (h : nextCycle m key = .ok next) :
    next.employee = key.employee ∧ next.leaveType = key.leaveType
      ∧ key.cycleEnd < next.cycleEnd := by
  unfold nextCycle at h
  split at h
  · cases h
  · next day hday =>
    obtain ⟨⟨cycleStart, cycleEnd⟩, hwindow, hret⟩ := bind_eq_ok_iff.mp h
    obtain rfl := pure_eq_ok_iff.mp hret
    refine ⟨rfl, rfl, ?_⟩
    have hcycle : BalanceKey.IsCycleOf m
        { key with cycleStart := cycleStart, cycleEnd := cycleEnd } key.employee key.leaveType day :=
      ⟨rfl, rfl, hwindow⟩
    exact (Date.nextDay_le_iff hday cycleEnd).mp hcycle.le_cycleEnd

theorem Rolls.leaveType (h : Rolls m b next) : next.leaveType = b.key.leaveType :=
  (nextCycle_eq_ok h).2.1

theorem Rolls.cycleEnd_lt (h : Rolls m b next) : b.key.cycleEnd < next.cycleEnd :=
  (nextCycle_eq_ok h).2.2

theorem Rolls.ne (h : Rolls m b next) : next ≠ b.key := fun heq =>
  absurd h.cycleEnd_lt (heq ▸ lt_irrefl _)

theorem Rolls.unique {next' : BalanceKey} (h : Rolls m b next) (h' : Rolls m b next') :
    next = next' := Except.ok.inj (h.symm.trans h')

/-! ## What a rollover writes -/

/-- The amount carried into a cycle; nothing when it has no balance. -/
def carriedInto (t : CycleEndTables) (key : BalanceKey) : Amount :=
  (t.leave.getBalance key).elim ⟨0, twoPlaces_zero⟩
    (fun b => ⟨b.carriedForwardAmount, b.twoPlaces.2.1⟩)

theorem carriedInto_of_some (h : t.leave.getBalance key = some b) :
    carriedInto t key = ⟨b.carriedForwardAmount, b.twoPlaces.2.1⟩ := by
  rw [carriedInto, h]
  rfl

/-- A balance is one that something is carried into. -/
theorem setCarried_carriedInto (h : t.leave.getBalance key = some b) :
    b.setCarried (carriedInto t key) = b := by
  rw [carriedInto_of_some h]
  rfl

theorem getBalance_updateBalance {f : LeaveBalance → LeaveBalance} (hf : ∀ a, (f a).key = a.key)
    (t : CycleEndTables) (key q : BalanceKey) :
    (t.updateBalance key f).leave.getBalance q
      = (t.leave.getBalance q).map (fun b => if q = key then f b else b) := by
  refine (Table.find_update hf).trans ?_
  show (t.leave.getBalance q).map _ = _
  cases hfound : t.leave.getBalance q with
  | none => rfl
  | some b =>
    have hkey : b.key = q := Table.find_key hfound
    simp [hkey]

theorem getBalance_getOrCreateBalance (t : CycleEndTables) (key q : BalanceKey) :
    (t.getOrCreateBalance key).leave.getBalance q
      = if q = key then some ((t.leave.getBalance key).getD (.new key))
        else t.leave.getBalance q := by
  unfold CycleEndTables.getOrCreateBalance
  split
  · next b hb =>
    split
    · next heq => rw [heq, hb, Option.getD_some]
    · rfl
  · next hnone =>
    rw [hnone, Option.getD_none]
    split
    · next heq =>
      subst heq
      show Table.find LeaveBalance.key q (t.leave.balances ++ [LeaveBalance.new q]) = _
      exact Table.find_append_self (a := LeaveBalance.new q) hnone
    · next hne => exact Table.find_append_of_ne (fun h => hne h.symm)

/-- **What is carried enters the ledger** of its cycle, and no other one. -/
theorem carriedEntries_updateOrCreateCarryForward (t : CycleEndTables) (key : BalanceKey) (x : ℚ) :
    ((t.updateOrCreateCarryForward key x).carriedEntries key ≠ []
        ∧ ∀ e ∈ (t.updateOrCreateCarryForward key x).carriedEntries key, e.amount = x)
      ∧ ∀ q, q ≠ key →
        (t.updateOrCreateCarryForward key x).carriedEntries q = t.carriedEntries q := by
  have hother : ∀ q ≠ key, ∀ e : LeaveBalanceLedgerEntry,
      e.isCarriedInto key = true → e.isCarriedInto q = false := by
    intro q hne e he
    have hkey : e.leaveBalance = key := (of_decide_eq_true he).1
    exact decide_eq_false (fun h => hne (h.1.symm.trans hkey))
  unfold CycleEndTables.updateOrCreateCarryForward CycleEndTables.carriedEntries
  dsimp only
  split
  · next hany =>
    have hkept : ∀ e : LeaveBalanceLedgerEntry,
        ({ e with amount := x } : LeaveBalanceLedgerEntry).isCarriedInto key
          = e.isCarriedInto key := fun _ => rfl
    rw [Table.filter_update_self hkept]
    refine ⟨⟨?_, fun e he => ?_⟩, fun q hne => ?_⟩
    · obtain ⟨e, he, hentry⟩ := List.any_eq_true.mp hany
      exact List.ne_nil_of_mem (List.mem_map_of_mem (List.mem_filter.mpr ⟨he, hentry⟩))
    · obtain ⟨e', -, rfl⟩ := List.mem_map.mp he
      rfl
    · refine Table.filter_update_of_disjoint ?_ _
      exact fun e he => ⟨hother q hne e he, hother q hne e he⟩
  · next hnone =>
    have hself : LeaveBalanceLedgerEntry.isCarriedInto key
        { leaveBalance := key, entryType := .carryForward, amount := x,
          effectiveDate := key.cycleStart } = true := decide_eq_true ⟨rfl, rfl, rfl⟩
    have hfirst : t.leave.ledgerEntries.filter (LeaveBalanceLedgerEntry.isCarriedInto key) = [] :=
      List.filter_eq_nil_iff.mpr (fun e he h => hnone (List.any_eq_true.mpr ⟨e, he, h⟩))
    rw [List.filter_append, hfirst, List.nil_append, List.filter_cons_of_pos hself]
    refine ⟨⟨List.cons_ne_nil _ _, fun e he => ?_⟩, fun q hne => ?_⟩
    · rw [List.filter_nil, List.mem_singleton] at he
      rw [he]
    · rw [List.filter_append, List.filter_cons_of_neg (by simp [hother q hne _ hself]),
        List.filter_nil, List.append_nil]

/-- The expiries of the capped leave types. -/
def expiries (m : CycleEndMasters) (t : CycleEndTables) : ℕ :=
  t.leave.ledgerEntries.countP (fun e => e.entryType = .expiry
    ∧ (m.carryForward e.leaveBalance.leaveType).carryForwardMode = .capped)

theorem expiries_updateOrCreateCarryForward (m : CycleEndMasters) (t : CycleEndTables)
    (key : BalanceKey) (x : ℚ) :
    expiries m (t.updateOrCreateCarryForward key x) = expiries m t := by
  unfold CycleEndTables.updateOrCreateCarryForward expiries
  dsimp only
  split
  · rw [Table.update, List.countP_map]
    refine List.countP_congr (fun e _ => ?_)
    simp only [Function.comp_apply]
    split <;> rfl
  · simp

theorem hasExpiry_updateOrCreateCarryForward (key : BalanceKey) (x : ℚ) (q : BalanceKey)
    (h : t.hasExpiry q = true) : (t.updateOrCreateCarryForward key x).hasExpiry q = true := by
  obtain ⟨e, he, hexpiry⟩ := List.any_eq_true.mp h
  unfold CycleEndTables.updateOrCreateCarryForward
  refine List.any_eq_true.mpr ?_
  dsimp only
  split
  · refine ⟨_, Table.mem_update.mpr ⟨e, he, rfl⟩, ?_⟩
    split
    · exact hexpiry
    · exact hexpiry
  · exact ⟨e, List.mem_append_left _ he, hexpiry⟩

theorem hasExpiry_append {entries : List LeaveBalanceLedgerEntry}
    (hledger : s.leave.ledgerEntries = t.leave.ledgerEntries ++ entries) (q : BalanceKey)
    (h : t.hasExpiry q = true) : s.hasExpiry q = true := by
  unfold CycleEndTables.hasExpiry at h ⊢
  rw [hledger, List.any_append, h, Bool.true_or]

/-- **Rolling a balance over**: what is carried of the old cycle is written to
the balance of the new one and to its ledger, and nothing else is. -/
structure RolledInto (m : CycleEndMasters) (t s : CycleEndTables) (next : BalanceKey)
    (amount : Amount) : Prop where
  today : s.leave.today = t.leave.today
  balance : s.leave.getBalance next
    = some (((t.leave.getBalance next).getD (.new next)).setCarried amount)
  other : ∀ q, q ≠ next → s.leave.getBalance q = t.leave.getBalance q
  entered : s.carriedEntries next ≠ [] ∧ ∀ e ∈ s.carriedEntries next, e.amount = amount
  entries : ∀ q, q ≠ next → s.carriedEntries q = t.carriedEntries q
  expiries : expiries m s = expiries m t
  expired : ∀ q, t.hasExpiry q = true → s.hasExpiry q = true
  unique : Table.Unique LeaveBalance.key t.leave.balances →
    Table.Unique LeaveBalance.key s.leave.balances

theorem unique_getOrCreateBalance (h : Table.Unique LeaveBalance.key t.leave.balances)
    (key : BalanceKey) :
    Table.Unique LeaveBalance.key (t.getOrCreateBalance key).leave.balances := by
  unfold CycleEndTables.getOrCreateBalance
  split
  · exact h
  · next hnone => exact h.append_one (Table.find_eq_none_iff.mp hnone)

variable (m) in
theorem rolledInto_processCycleEndCarryForward (hfound : t.leave.getBalance key = some b)
    (next : BalanceKey) :
    RolledInto m t (processCycleEndCarryForward m key next t) next
      ((m.carryForward key.leaveType).carried (max 0 b.available)) := by
  unfold processCycleEndCarryForward
  rw [hfound]
  dsimp only
  set amount := (m.carryForward key.leaveType).carried (max 0 b.available)
  have hkey : ∀ a : LeaveBalance, (a.setCarried amount).key = a.key := fun _ => rfl
  have hbalance : ∀ q, (((t.getOrCreateBalance next).updateBalance next
      (fun b => b.setCarried amount)).updateOrCreateCarryForward next amount).leave.getBalance q
        = if q = next then some (((t.leave.getBalance next).getD (.new next)).setCarried amount)
          else t.leave.getBalance q := by
    intro q
    refine (getBalance_updateBalance hkey _ next q).trans ?_
    rw [getBalance_getOrCreateBalance]
    split
    · rfl
    · cases t.leave.getBalance q <;> rfl
  have hledger : (t.getOrCreateBalance next).leave.ledgerEntries = t.leave.ledgerEntries := by
    unfold CycleEndTables.getOrCreateBalance
    split <;> rfl
  have hentries : ∀ q, ((t.getOrCreateBalance next).updateBalance next
      (fun b => b.setCarried amount)).carriedEntries q = t.carriedEntries q := by
    intro q
    exact congrArg (List.filter _) hledger
  obtain ⟨hentered, hother⟩ := carriedEntries_updateOrCreateCarryForward
    ((t.getOrCreateBalance next).updateBalance next (fun b => b.setCarried amount)) next amount
  refine ⟨?_, (hbalance next).trans (if_pos rfl), fun q hq => (hbalance q).trans (if_neg hq),
    hentered, fun q hq => (hother q hq).trans (hentries q), ?_, fun q hq => ?_,
    fun hunique => ?_⟩
  · show (t.getOrCreateBalance next).leave.today = t.leave.today
    unfold CycleEndTables.getOrCreateBalance
    split <;> rfl
  · rw [expiries_updateOrCreateCarryForward]
    exact congrArg (List.countP _) hledger
  · refine hasExpiry_updateOrCreateCarryForward next amount q ?_
    exact (congrArg (List.any · _) hledger).trans hq
  · exact (unique_getOrCreateBalance hunique next).update hkey

/-! ## Applying a cap -/

/-- A leave type that carries over up to a cap. -/
def BalanceKey.IsCapped (m : CycleEndMasters) (key : BalanceKey) : Prop :=
  (m.carryForward key.leaveType).carryForwardMode = .capped

theorem Rolls.isCapped (h : Rolls m b next) (hb : b.key.IsCapped m) : next.IsCapped m := by
  unfold BalanceKey.IsCapped
  rw [h.leaveType]
  exact hb

theorem mem_cappedBalances : b ∈ cappedBalances m t
    ↔ b ∈ t.leave.balances ∧ b.key.cycleEnd < t.leave.today ∧ b.key.IsCapped m
      ∧ m.isActive b.key.employee ∧ (m.carryForward b.key.leaveType).carryForwardCap.isSome := by
  simp only [cappedBalances, endedBalances, List.mem_filter, decide_eq_true_eq, BalanceKey.IsCapped]
  tauto

theorem twoPlaces_zero_max (hx : TwoPlaces x) : TwoPlaces (max 0 x) := by
  rcases max_choice 0 x with h | h <;> rw [h]
  · exact Decimal.onGrid_zero
  · exact hx

theorem excess_eq (hcap : (m.carryForward b.key.leaveType).carryForwardCap = some cap) :
    b.excess m = max 0 b.available - cap := by
  rw [LeaveBalance.excess, hcap]

variable (m) in
theorem twoPlaces_excess (b : LeaveBalance) : TwoPlaces (b.excess m) := by
  unfold LeaveBalance.excess
  split
  · exact Decimal.onGrid_zero
  · next cap hcap =>
    exact (twoPlaces_zero_max (twoPlaces_available b)).sub ((m.carryForward _).twoPlaces cap hcap)

/-- The excess of a balance expires. -/
def CycleEndTables.applyCap (m : CycleEndMasters) (t : CycleEndTables) (b : LeaveBalance) :
    CycleEndTables :=
  if 0 < b.excess m then
    (t.addExpiry b.key (b.excess m)).updateBalance b.key
      (fun a => a.setCredited (b.creditedLess (b.excess m)))
  else t

/-- **A capped balance** is capped, and rolled over. -/
theorem processCycleEndCap_eq (hcap : (m.carryForward b.key.leaveType).carryForwardCap.isSome)
    (hrolls : Rolls m b next) (t : CycleEndTables) :
    processCycleEndCap m b t
      = .ok (processCycleEndCarryForward m b.key next (t.applyCap m b)) := by
  obtain ⟨cap, hcap⟩ := Option.isSome_iff_exists.mp hcap
  have hexcess := excess_eq hcap
  have hgrid := twoPlaces_excess m b
  rw [hexcess] at hgrid
  have happly : (if cap < max 0 b.available then
        (t.addExpiry b.key (b.excess m)).updateBalance b.key
          (fun a => a.setCredited (b.creditedLess (b.excess m)))
      else t) = t.applyCap m b := by
    have hover : cap < max 0 b.available ↔ 0 < b.excess m := by rw [hexcess, sub_pos]
    simp only [hover, CycleEndTables.applyCap]
  unfold processCycleEndCap
  rw [hcap]
  dsimp only
  rw [decimal_of_twoPlaces ((m.carryForward _).twoPlaces cap hcap),
    decimal_of_twoPlaces (twoPlaces_zero_max (twoPlaces_available b)),
    decimal_of_twoPlaces hgrid, ← hexcess, happly]
  unfold Rolls at hrolls
  rw [hrolls]
  rfl

theorem processCycleEndCap_error {message : String}
    (hcap : (m.carryForward b.key.leaveType).carryForwardCap.isSome)
    (h : nextCycle m.toMasters b.key = .error message) (t : CycleEndTables) :
    processCycleEndCap m b t = .error message := by
  obtain ⟨cap, hcap⟩ := Option.isSome_iff_exists.mp hcap
  unfold processCycleEndCap
  rw [hcap]
  dsimp only
  rw [h]
  rfl

/-- **Applying a cap** takes the excess from its balance, and enters it. -/
structure CapApplied (m : CycleEndMasters) (t s : CycleEndTables) (b : LeaveBalance)
    (carried : Amount) : Prop where
  today : s.leave.today = t.leave.today
  balance : s.leave.getBalance b.key = some ((b.capped m).setCarried carried)
  other : ∀ q, q ≠ b.key → s.leave.getBalance q = t.leave.getBalance q
  entries : ∀ q, s.carriedEntries q = t.carriedEntries q
  expiries : expiries m s = expiries m t + if 0 < b.excess m then 1 else 0
  expired : ∀ q, t.hasExpiry q = true → s.hasExpiry q = true
  unique : Table.Unique LeaveBalance.key t.leave.balances →
    Table.Unique LeaveBalance.key s.leave.balances

theorem capApplied_applyCap {carried : Amount} (hb : b.key.IsCapped m)
    (hfound : t.leave.getBalance b.key = some (b.setCarried carried)) :
    CapApplied m t (t.applyCap m b) b carried := by
  unfold CycleEndTables.applyCap
  by_cases hover : 0 < b.excess m
  · rw [if_pos hover]
    have hkey : ∀ a : LeaveBalance,
        (a.setCredited (b.creditedLess (b.excess m))).key = a.key := fun _ => rfl
    have hbalance : ∀ q, ((t.addExpiry b.key (b.excess m)).updateBalance b.key
        (fun a => a.setCredited (b.creditedLess (b.excess m)))).leave.getBalance q
          = (t.leave.getBalance q).map (fun a =>
            if q = b.key then a.setCredited (b.creditedLess (b.excess m)) else a) :=
      fun q => getBalance_updateBalance hkey (t.addExpiry b.key (b.excess m)) b.key q
    refine ⟨rfl, ?_, fun q hq => ?_, fun q => ?_, ?_, hasExpiry_append rfl,
      fun hunique => hunique.update hkey⟩
    · rw [hbalance, hfound, LeaveBalance.capped, if_pos hover, Option.map_some, if_pos rfl]
      rfl
    · rw [hbalance]
      simp [hq]
    · show (t.leave.ledgerEntries ++ [_]).filter _ = t.leave.ledgerEntries.filter _
      simp [LeaveBalanceLedgerEntry.isCarriedInto]
    · show (t.leave.ledgerEntries ++ [_]).countP _ = t.leave.ledgerEntries.countP _ + _
      have hcapped : (m.carryForward b.key.leaveType).carryForwardMode = .capped := hb
      simp [hover, hcapped]
  · rw [if_neg hover]
    refine ⟨rfl, ?_, fun _ _ => rfl, fun _ => rfl, by rw [if_neg hover, add_zero],
      fun _ => id, id⟩
    rw [hfound, LeaveBalance.capped, if_neg hover]

/-! ## A pass over the capped balances -/

variable (m) in
/-- **The capped balances as writers**: each reads what was carried into its own
cycle, and writes what is carried into the next one. -/
def rollover : Writers LeaveBalance BalanceKey Amount where
  src b := b.key
  dst b := (nextCycle m.toMasters b.key).toOption.getD b.key
  val b carried := (m.carryForward b.key.leaveType).carried
    (max 0 ((b.capped m).setCarried carried).available)

theorem Rolls.dst (h : Rolls m b next) : (rollover m).dst b = next := by
  unfold Rolls at h
  simp [rollover, h, Except.toOption]

/-- **What lapses has lapsed**: nothing is available, or it expired before. -/
def LapseSettled (m : CycleEndMasters) (t : CycleEndTables) : Prop :=
  ∀ q b, t.leave.getBalance q = some b → q.cycleEnd < t.leave.today →
    (m.carryForward q.leaveType).carryForwardMode = .none → m.isActive q.employee →
    b.available ≤ 0 ∨ t.hasExpiry q = true

/-- What a pass over some capped balances has done. -/
structure RolledOver (m : CycleEndMasters) (t s : CycleEndTables) (done : List LeaveBalance) :
    Prop where
  today : s.leave.today = t.leave.today
  unique : Table.Unique LeaveBalance.key s.leave.balances
  rows : ∀ q, q.IsCapped m → ∀ b, t.leave.getBalance q = some b →
    s.leave.getBalance q
      = some ((if b ∈ done then b.capped m else b).setCarried (carriedInto s q))
  inserted : ∀ q, q.IsCapped m → t.leave.getBalance q = none → (∃ b ∈ done, Rolls m b q) →
    s.leave.getBalance q = some ((LeaveBalance.new q).setCarried (carriedInto s q))
  absent : ∀ q, q.IsCapped m → t.leave.getBalance q = none → (∀ b ∈ done, ¬ Rolls m b q) →
    s.leave.getBalance q = none
  carried : ∀ q, q.IsCapped m → carriedInto s q = (rollover m).pass (carriedInto t) done q
  entered : ∀ b ∈ done, ∀ next, Rolls m b next →
    s.carriedEntries next ≠ [] ∧ ∀ e ∈ s.carriedEntries next, e.amount = carriedInto s next
  kept : ∀ q, (∀ b ∈ done, ¬ Rolls m b q) → s.carriedEntries q = t.carriedEntries q
  expiries : expiries m s = expiries m t + done.countP (fun b => 0 < b.excess m)
  settled : LapseSettled m s

/-- **One more balance is rolled over.** -/
theorem RolledOver.step {done : List LeaveBalance} (h : RolledOver m t s done)
    (hb : b ∈ cappedBalances m t) (hfound : t.leave.getBalance b.key = some b)
    (hnew : b ∉ done) (hrolls : Rolls m b next) :
    ∃ s', processCycleEndCap m b s = .ok s' ∧ RolledOver m t s' (done ++ [b]) := by
  obtain ⟨-, -, hcapped, -, hcap⟩ := mem_cappedBalances.mp hb
  have hrow : s.leave.getBalance b.key = some (b.setCarried (carriedInto s b.key)) := by
    rw [h.rows b.key hcapped b hfound, if_neg hnew]
  have happlied := capApplied_applyCap hcapped hrow
  have hinto := rolledInto_processCycleEndCarryForward m happlied.balance next
  refine ⟨_, processCycleEndCap_eq hcap hrolls s, ?_⟩
  set s₁ := s.applyCap m b
  set s' := processCycleEndCarryForward m b.key next s₁
  set amount := (m.carryForward b.key.leaveType).carried
    (max 0 ((b.capped m).setCarried (carriedInto s b.key)).available) with hamount
  have hne : next ≠ b.key := hrolls.ne
  have hnext : carriedInto s' next = amount := carriedInto_of_some hinto.balance
  have hsame : ∀ q, q ≠ next → carriedInto s' q = carriedInto s q := by
    intro q hq
    by_cases hqb : q = b.key
    · subst hqb
      have hrow' := (hinto.other _ hq).trans happlied.balance
      rw [carriedInto_of_some hrow', carriedInto_of_some hrow]
      rfl
    · unfold carriedInto
      rw [hinto.other q hq, happlied.other q hqb]
  -- the balances that are not of this cycle are done or not as before
  have hmem : ∀ q a, t.leave.getBalance q = some a → q ≠ b.key → (a ∈ done ++ [b] ↔ a ∈ done) := by
    intro q a ha hq
    have hab : a ≠ b := fun hab => hq ((Table.find_key ha).symm.trans (congrArg _ hab))
    simp [hab]
  have hkept : ∀ q, q ≠ next → q ≠ b.key → s'.leave.getBalance q = s.leave.getBalance q :=
    fun q hq hqb => (hinto.other q hq).trans (happlied.other q hqb)
  have hlast : ∀ q, q ≠ next → ∀ a ∈ done ++ [b], Rolls m a q → a ∈ done := by
    intro q hq a ha hroll
    refine (List.mem_append.mp ha).resolve_right (fun hab => hq ?_)
    exact hroll.unique ((List.mem_singleton.mp hab) ▸ hrolls)
  have hself : b ∈ done ++ [b] := by simp
  exact {
    today := hinto.today.trans (happlied.today.trans h.today)
    unique := hinto.unique (happlied.unique h.unique)
    rows := by
      intro q hq a ha
      by_cases hqb : q = b.key
      · subst hqb
        obtain rfl := Option.some.inj (ha.symm.trans hfound)
        rw [if_pos hself, hsame _ hne.symm]
        exact (hinto.other _ hne.symm).trans happlied.balance
      · simp only [hmem q a ha hqb]
        by_cases hqn : q = next
        · subst hqn
          rw [hinto.balance, happlied.other q hqb, h.rows q hq a ha, hnext]
          rfl
        · rw [hkept q hqn hqb, hsame q hqn]
          exact h.rows q hq a ha
    inserted := by
      intro q hq hnone hby
      have hqb : q ≠ b.key := by
        rintro rfl
        cases hnone.symm.trans hfound
      by_cases hqn : q = next
      · subst hqn
        rw [hinto.balance, happlied.other q hqb, hnext]
        by_cases hbefore : ∃ a ∈ done, Rolls m a q
        · rw [h.inserted q hq hnone hbefore]
          rfl
        · rw [h.absent q hq hnone (fun a ha hroll => hbefore ⟨a, ha, hroll⟩)]
          rfl
      · obtain ⟨a, ha, hroll⟩ := hby
        rw [hkept q hqn hqb, hsame q hqn]
        exact h.inserted q hq hnone ⟨a, hlast q hqn a ha hroll, hroll⟩
    absent := by
      intro q hq hnone hby
      have hqb : q ≠ b.key := by
        rintro rfl
        cases hnone.symm.trans hfound
      have hqn : q ≠ next := by
        rintro rfl
        exact hby b hself hrolls
      rw [hkept q hqn hqb]
      exact h.absent q hq hnone (fun a ha => hby a (List.mem_append_left _ ha))
    carried := by
      intro q hq
      rw [Writers.pass_concat, Writers.write, hrolls.dst]
      by_cases hqn : q = next
      · rw [hqn, Function.update_self, hnext, hamount, h.carried b.key hcapped]
        rfl
      · rw [Function.update_of_ne hqn, hsame q hqn]
        exact h.carried q hq
    entered := by
      intro a ha later hlater
      by_cases hqn : later = next
      · subst hqn
        rw [hnext]
        exact hinto.entered
      · rw [hinto.entries later hqn, happlied.entries later, hsame later hqn]
        exact h.entered a (hlast later hqn a ha hlater) later hlater
    kept := by
      intro q hby
      have hqn : q ≠ next := by
        rintro rfl
        exact hby b hself hrolls
      rw [hinto.entries q hqn, happlied.entries q]
      exact h.kept q (fun a ha => hby a (List.mem_append_left _ ha))
    expiries := by
      rw [hinto.expiries, happlied.expiries, h.expiries, List.countP_append, List.countP_singleton,
        add_assoc]
      simp only [decide_eq_true_eq]
    settled := by
      intro q a ha hended hmode hactive
      have hnone : ∀ q', q'.IsCapped m → q ≠ q' := by
        rintro q' hq' rfl
        cases hmode.symm.trans hq'
      rw [hkept q (hnone _ (hrolls.isCapped hcapped)) (hnone _ hcapped)] at ha
      have htoday : s'.leave.today = s.leave.today := hinto.today.trans happlied.today
      exact (h.settled q a ha (hended.trans_eq htoday) hmode hactive).imp_right
        (fun hq => hinto.expired q (happlied.expired q hq)) }

variable (m) in
/-- A balance has a next cycle. -/
def LeaveBalance.continues (b : LeaveBalance) : Bool :=
  (nextCycle m.toMasters b.key).toOption.isSome

theorem continues_iff : b.continues m = true ↔ ∃ next, Rolls m b next := by
  unfold LeaveBalance.continues Rolls
  cases nextCycle m.toMasters b.key <;> simp [Except.toOption]

/-- **A pass rolls over** the balances up to the first one that has no next
cycle. -/
theorem RolledOver.run {done rest : List LeaveBalance} (h : RolledOver m t s done)
    (hnodup : (done ++ rest).Nodup)
    (hrest : ∀ b ∈ rest, b ∈ cappedBalances m t ∧ t.leave.getBalance b.key = some b) :
    RolledOver m t (capAll m rest s) (done ++ rest.takeWhile (LeaveBalance.continues m)) := by
  induction rest generalizing done s with
  | nil => rwa [List.takeWhile_nil, List.append_nil]
  | cons b rest ih =>
    obtain ⟨hb, hfound⟩ := hrest b List.mem_cons_self
    rw [List.append_cons] at hnodup
    have hnew : b ∉ done := fun hmem =>
      List.disjoint_of_nodup_append (List.Nodup.of_append_left hnodup) hmem List.mem_cons_self
    cases hnext : nextCycle m.toMasters b.key with
    | error message =>
      have hlast : ¬ b.continues m = true := by
        simp [LeaveBalance.continues, hnext, Except.toOption]
      rw [List.takeWhile_cons_of_neg hlast, List.append_nil, capAll,
        processCycleEndCap_error (mem_cappedBalances.mp hb).2.2.2.2 hnext]
      exact h
    | ok next =>
      obtain ⟨s', hs', hstep⟩ := h.step hb hfound hnew hnext
      rw [List.takeWhile_cons_of_pos (continues_iff.mpr ⟨next, hnext⟩), capAll, hs',
        List.append_cons]
      exact ih hstep hnodup (fun a ha => hrest a (List.mem_cons_of_mem _ ha))

/-- A balance without a cap is left. -/
theorem capAll_filter (l : List LeaveBalance) (s : CycleEndTables) :
    capAll m l s
      = capAll m
        (l.filter (fun b => (m.carryForward b.key.leaveType).carryForwardCap.isSome)) s := by
  induction l generalizing s with
  | nil => rfl
  | cons b l ih =>
    cases hcap : (m.carryForward b.key.leaveType).carryForwardCap with
    | none =>
      have hleft : processCycleEndCap m b s = .ok s := by
        rw [processCycleEndCap, hcap]
      rw [List.filter_cons_of_neg (by simp [hcap]), capAll, hleft]
      exact ih s
    | some cap =>
      rw [List.filter_cons_of_pos (by simp [hcap]), capAll, capAll]
      split
      · rfl
      · exact ih _

/-! ## The pass over what lapses -/

/-- What lapses is of other leave types than what is carried over. -/
structure OnlyLapsed (m : CycleEndMasters) (t s : CycleEndTables) : Prop where
  today : s.leave.today = t.leave.today
  balances : ∀ q, q.IsCapped m → s.leave.getBalance q = t.leave.getBalance q
  ended : endedBalances m .capped s = endedBalances m .capped t
  entries : ∀ q, s.carriedEntries q = t.carriedEntries q
  expiries : expiries m s = expiries m t
  expired : ∀ q, t.hasExpiry q = true → s.hasExpiry q = true
  unique : Table.Unique LeaveBalance.key t.leave.balances →
    Table.Unique LeaveBalance.key s.leave.balances

theorem OnlyLapsed.refl (t : CycleEndTables) : OnlyLapsed m t t :=
  ⟨rfl, fun _ _ => rfl, rfl, fun _ => rfl, rfl, fun _ => id, id⟩

theorem OnlyLapsed.trans (h : OnlyLapsed m t s) (h' : OnlyLapsed m s s') : OnlyLapsed m t s' where
  today := h'.today.trans h.today
  balances q hq := (h'.balances q hq).trans (h.balances q hq)
  ended := h'.ended.trans h.ended
  entries q := (h'.entries q).trans (h.entries q)
  expiries := h'.expiries.trans h.expiries
  expired q hq := h'.expired q (h.expired q hq)
  unique hunique := h'.unique (h.unique hunique)

/-- **A lapse** of a balance that lapses. -/
theorem onlyLapsed_processCycleEndLapse
    (hmode : (m.carryForward b.key.leaveType).carryForwardMode = .none) (t : CycleEndTables) :
    OnlyLapsed m t (processCycleEndLapse m b t)
      ∧ ∀ q, q ≠ b.key →
        (processCycleEndLapse m b t).leave.getBalance q = t.leave.getBalance q := by
  have hkey : ∀ a : LeaveBalance,
      (a.setCredited (b.creditedLess (decimal b.available))).key = a.key := fun _ => rfl
  have hbalance : ∀ (u : CycleEndTables) (q : BalanceKey), q ≠ b.key →
      (u.updateBalance b.key (fun a => a.setCredited
        (b.creditedLess (decimal b.available)))).leave.getBalance q = u.leave.getBalance q := by
    intro u q hq
    rw [getBalance_updateBalance hkey]
    simp [hq]
  have hcapped : ∀ q : BalanceKey, q.IsCapped m → q ≠ b.key := by
    rintro q hq rfl
    cases hmode.symm.trans hq
  -- loss of pay is entered in a table of its own
  have hwritten : ∀ u : CycleEndTables,
      u.leave = (t.addExpiry b.key (decimal b.available)).leave →
      OnlyLapsed m t (u.updateBalance b.key
          (fun a => a.setCredited (b.creditedLess (decimal b.available))))
        ∧ ∀ q, q ≠ b.key → (u.updateBalance b.key (fun a => a.setCredited
            (b.creditedLess (decimal b.available)))).leave.getBalance q
          = t.leave.getBalance q := by
    intro u hu
    have hother : ∀ q, q ≠ b.key → (u.updateBalance b.key (fun a => a.setCredited
        (b.creditedLess (decimal b.available)))).leave.getBalance q = t.leave.getBalance q :=
      fun q hq => (hbalance u q hq).trans (by rw [hu]; rfl)
    have hledger : u.leave.ledgerEntries = t.leave.ledgerEntries ++ [
        { leaveBalance := b.key, entryType := .expiry, amount := decimal b.available,
          effectiveDate := b.key.cycleEnd }] := by
      rw [hu]
      rfl
    have hrows : u.leave.balances = t.leave.balances := by
      rw [hu]
      rfl
    have htoday : u.leave.today = t.leave.today := by
      rw [hu]
      rfl
    refine ⟨⟨htoday, fun q hq => hother q (hcapped q hq), ?_, fun q => ?_, ?_,
      hasExpiry_append hledger, fun hunique => ?_⟩, hother⟩
    · unfold endedBalances CycleEndTables.updateBalance
      rw [hrows, htoday]
      refine Table.filter_update_of_disjoint (fun a ha => ?_) _
      have hak : a.key = b.key := of_decide_eq_true ha
      simp [LeaveBalance.setCredited, hak, hmode]
    · show u.leave.ledgerEntries.filter _ = t.leave.ledgerEntries.filter _
      rw [hledger]
      simp [LeaveBalanceLedgerEntry.isCarriedInto]
    · show u.leave.ledgerEntries.countP _ = t.leave.ledgerEntries.countP _
      rw [hledger]
      simp [hmode]
    · rw [← hrows] at hunique
      exact hunique.update hkey
  unfold processCycleEndLapse
  dsimp only
  split
  · exact ⟨.refl t, fun _ _ => rfl⟩
  · split
    · exact ⟨.refl t, fun _ _ => rfl⟩
    · split
      · exact hwritten _ rfl
      · exact hwritten _ rfl

/-- **A lapse settles** its balance. -/
theorem processCycleEndLapse_settles (hfound : t.leave.getBalance b.key = some b)
    (h : (processCycleEndLapse m b t).leave.getBalance b.key = some a) :
    a.available ≤ 0 ∨ (processCycleEndLapse m b t).hasExpiry b.key = true := by
  revert h
  unfold processCycleEndLapse
  dsimp only
  split
  · next hleft =>
    intro h
    obtain rfl := Option.some.inj (hfound.symm.trans h)
    exact Or.inl hleft
  · split
    · next hexpired => exact fun _ => Or.inr hexpired
    · refine fun _ => Or.inr ?_
      split <;>
        simp [CycleEndTables.hasExpiry, CycleEndTables.updateBalance, CycleEndTables.addLapse,
          CycleEndTables.addExpiry]

/-- A settled balance does not lapse again. -/
theorem processCycleEndLapse_settled (h : b.available ≤ 0 ∨ t.hasExpiry b.key = true) :
    processCycleEndLapse m b t = t := by
  unfold processCycleEndLapse
  dsimp only
  split
  · rfl
  · next hleft => rw [if_pos (h.resolve_left hleft)]

theorem onlyLapsed_lapseAll {l : List LeaveBalance}
    (hl : ∀ b ∈ l, (m.carryForward b.key.leaveType).carryForwardMode = .none)
    (t : CycleEndTables) : OnlyLapsed m t (lapseAll m l t) := by
  induction l generalizing t with
  | nil => exact .refl t
  | cons b l ih =>
    have hfirst := (onlyLapsed_processCycleEndLapse (hl b List.mem_cons_self) t).1
    exact hfirst.trans (ih (fun a ha => hl a (List.mem_cons_of_mem _ ha)) _)

/-- **The pass settles** what it goes through. -/
theorem lapseSettled_lapseAll {l : List LeaveBalance} (hunique : Table.Unique LeaveBalance.key l)
    (hl : ∀ b ∈ l, (m.carryForward b.key.leaveType).carryForwardMode = .none
      ∧ t.leave.getBalance b.key = some b)
    (hrest : ∀ q b, t.leave.getBalance q = some b → q.cycleEnd < t.leave.today →
      (m.carryForward q.leaveType).carryForwardMode = .none → m.isActive q.employee →
      b ∈ l ∨ b.available ≤ 0 ∨ t.hasExpiry q = true) : LapseSettled m (lapseAll m l t) := by
  induction l generalizing t with
  | nil =>
    exact fun q b hb hended hmode hactive =>
      (hrest q b hb hended hmode hactive).resolve_left List.not_mem_nil
  | cons c l ih =>
    obtain ⟨hc, hl'⟩ := List.nodup_cons.mp hunique
    obtain ⟨hmode, hfound⟩ := hl c List.mem_cons_self
    obtain ⟨hlapsed, hother⟩ := onlyLapsed_processCycleEndLapse hmode t
    refine ih hl' (fun b hb => ?_) (fun q b hb hended hmode' hactive => ?_)
    · obtain ⟨hmode', hb'⟩ := hl b (List.mem_cons_of_mem _ hb)
      have hne : b.key ≠ c.key := fun h => hc (h ▸ List.mem_map_of_mem hb)
      exact ⟨hmode', (hother _ hne).trans hb'⟩
    · by_cases hq : q = c.key
      · subst hq
        exact Or.inr (processCycleEndLapse_settles hfound hb)
      · rw [hother q hq] at hb
        rcases hrest q b hb (hended.trans_eq hlapsed.today) hmode' hactive with hmem | hdone
        · refine Or.inl ((List.mem_cons.mp hmem).resolve_left (fun hbc => hq ?_))
          rw [← hbc]
          exact (Table.find_key hb).symm
        · exact Or.inr (hdone.imp_right (hlapsed.expired q))

/-- A settled table stays as it is. -/
theorem lapseAll_settled {l : List LeaveBalance}
    (h : ∀ b ∈ l, b.available ≤ 0 ∨ t.hasExpiry b.key = true) : lapseAll m l t = t := by
  induction l with
  | nil => rfl
  | cons b l ih =>
    show lapseAll m l (processCycleEndLapse m b t) = t
    rw [processCycleEndLapse_settled (h b List.mem_cons_self)]
    exact ih (fun a ha => h a (List.mem_cons_of_mem _ ha))

theorem mem_endedBalances {mode : CarryForwardMode} : b ∈ endedBalances m mode t
    ↔ b ∈ t.leave.balances ∧ b.key.cycleEnd < t.leave.today
      ∧ (m.carryForward b.key.leaveType).carryForwardMode = mode ∧ m.isActive b.key.employee := by
  simp only [endedBalances, List.mem_filter, decide_eq_true_eq]

theorem getBalance_of_mem (hunique : Table.Unique LeaveBalance.key t.leave.balances)
    (hb : b ∈ t.leave.balances) : t.leave.getBalance b.key = some b :=
  (Table.find_eq_some_iff hunique).mpr ⟨hb, rfl⟩

/-- **The first pass of the job**, in any order. -/
theorem firstPass (hunique : Table.Unique LeaveBalance.key t.leave.balances) (o : RowOrder) :
    OnlyLapsed m t (lapseAll m (o.order (endedBalances m .none t)) t)
      ∧ LapseSettled m (lapseAll m (o.order (endedBalances m .none t)) t) := by
  have hperm := o.perm (endedBalances m .none t)
  have hmem : ∀ b, b ∈ o.order (endedBalances m .none t) ↔ b ∈ endedBalances m .none t :=
    fun b => hperm.mem_iff
  refine ⟨onlyLapsed_lapseAll (fun b hb => ?_) t, lapseSettled_lapseAll ?_ (fun b hb => ?_)
    (fun q b hb hended hmode hactive => ?_)⟩
  · exact (mem_endedBalances.mp ((hmem b).mp hb)).2.2.1
  · exact (hperm.map LeaveBalance.key).nodup_iff.mpr (hunique.filter _)
  · obtain ⟨hb, -, hmode, -⟩ := mem_endedBalances.mp ((hmem b).mp hb)
    exact ⟨hmode, getBalance_of_mem hunique hb⟩
  · obtain rfl : b.key = q := Table.find_key hb
    refine Or.inl ((hmem b).mpr (mem_endedBalances.mpr ⟨Table.find_mem hb, hended, hmode, hactive⟩))

/-! ## The job -/

/-- The capped balances in the order of a run. -/
def cappedOrder (m : CycleEndMasters) (t : CycleEndTables) (o : RowOrder) : List LeaveBalance :=
  (o.order (endedBalances m .capped t)).filter
    (fun b => (m.carryForward b.key.leaveType).carryForwardCap.isSome)

theorem cappedOrder_perm (o : RowOrder) : (cappedOrder m t o).Perm (cappedBalances m t) :=
  (o.perm _).filter _

/-- The rows of a table in an order of one's own. -/
def RowOrder.arrange (rows : List LeaveBalance) : RowOrder where
  order table := if rows.Perm table then rows else table
  perm table := by
    split
    · assumption
    · exact .rfl

/-- **Every order of the capped balances** is that of some run. -/
theorem exists_cappedOrder {l : List LeaveBalance} (hl : l.Perm (cappedBalances m t)) :
    ∃ o, cappedOrder m t o = l := by
  have hcap : ∀ b ∈ l, (m.carryForward b.key.leaveType).carryForwardCap.isSome = true :=
    fun b hb => (List.mem_filter.mp (hl.mem_iff.mp hb)).2
  refine ⟨.arrange (l ++ (endedBalances m .capped t).filter
    (fun b => ! (m.carryForward b.key.leaveType).carryForwardCap.isSome)), ?_⟩
  unfold cappedOrder RowOrder.arrange
  have hperm := (hl.append_right _).trans (List.filter_append_perm
    (fun b : LeaveBalance => (m.carryForward b.key.leaveType).carryForwardCap.isSome)
    (endedBalances m .capped t))
  dsimp only
  rw [if_pos hperm, List.filter_append, List.filter_filter, List.filter_eq_self.mpr hcap]
  simp only [List.append_right_eq_self, List.filter_eq_nil_iff]
  intro a _
  cases (m.carryForward a.key.leaveType).carryForwardCap.isSome <;> simp

theorem RolledOver.start (h : OnlyLapsed m t s) (hsettled : LapseSettled m s)
    (hunique : Table.Unique LeaveBalance.key t.leave.balances) : RolledOver m t s [] where
  today := h.today
  unique := h.unique hunique
  rows q hq b hb := by
    have hrow := (h.balances q hq).trans hb
    rw [if_neg List.not_mem_nil, setCarried_carriedInto hrow, hrow]
  inserted q _ _ hby := by
    obtain ⟨b, hb, -⟩ := hby
    cases hb
  absent q hq hnone _ := (h.balances q hq).trans hnone
  carried q hq := congrArg (fun row : Option LeaveBalance => row.elim _ _) (h.balances q hq)
  entered b hb := absurd hb List.not_mem_nil
  kept q _ := h.entries q
  expiries := h.expiries
  settled := hsettled

/-- The job in two passes. -/
theorem job_eq (hunique : Table.Unique LeaveBalance.key t.leave.balances) (o : RowOrder) :
    runLeaveLapseForAllActiveCycles m t o
      = capAll m (cappedOrder m t o) (lapseAll m (o.order (endedBalances m .none t)) t) := by
  unfold runLeaveLapseForAllActiveCycles
  dsimp only
  rw [(firstPass hunique o).1.ended, capAll_filter]
  rfl

/-- **What the job does**, in any order. -/
theorem rolledOver_job (hunique : Table.Unique LeaveBalance.key t.leave.balances) (o : RowOrder) :
    RolledOver m t (runLeaveLapseForAllActiveCycles m t o)
      ((cappedOrder m t o).takeWhile (LeaveBalance.continues m)) := by
  obtain ⟨hlapsed, hsettled⟩ := firstPass (m := m) hunique o
  have hmem : ∀ b ∈ cappedOrder m t o, b ∈ cappedBalances m t :=
    fun b hb => (cappedOrder_perm o).mem_iff.mp hb
  have hnodup : (cappedOrder m t o).Nodup := by
    refine (cappedOrder_perm o).nodup_iff.mpr (List.Nodup.of_map LeaveBalance.key ?_)
    exact (hunique.filter _).filter _
  rw [job_eq hunique]
  exact (RolledOver.start hlapsed hsettled hunique).run hnodup (fun b hb =>
    ⟨hmem b hb, getBalance_of_mem hunique (mem_cappedBalances.mp (hmem b hb)).1⟩)

end

end TimeOff
