import Clarisal.TimeOff.Moves

/-!
# The end of a leave cycle

When a cycle has ended, a nightly job expires what is left of it. Under the
carry-forward mode NONE everything left lapses; under CAPPED what is over the
cap lapses, and the rest is carried into the next cycle. What lapses is taken
from the credited amount of the balance, and enters its ledger.

The job works on rows it has fetched before its loops, in an order that the
database is free to choose among the rows of a leave type (`RowOrder`). A call
that raises ends it, and leaves what the calls before it have written.
-/

open Calendar

namespace TimeOff

open Approvals Transaction

inductive CarryForwardMode
  | none | capped | unlimited
deriving DecidableEq, Repr

inductive LeaveWithoutPayEntrySource
  | manual | attendance | leaveLapse | payroll
deriving DecidableEq, Repr

inductive LeaveWithoutPayEntryStatus
  | pending | approved | rejected | cancelled
deriving DecidableEq, Repr

/-- What a leave type says of the end of its cycles. -/
structure CarryForwardPolicy where
  carryForwardMode : CarryForwardMode
  carryForwardCap : Option ℚ
  twoPlaces : ∀ c ∈ carryForwardCap, TwoPlaces c

structure CycleEndMasters extends Masters where
  carryForward : LeaveTypeId → CarryForwardPolicy
  /-- the status of the employee is ACTIVE -/
  isActive : EmployeeId → Bool

structure LeaveWithoutPayEntry where
  employee : EmployeeId
  entryDate : Date
  units : ℚ
  source : LeaveWithoutPayEntrySource
  status : LeaveWithoutPayEntryStatus
deriving DecidableEq, Repr

/-- **The leave tables, with leave without pay.** -/
structure CycleEndTables where
  leave : LeaveTables
  lwpEntries : List LeaveWithoutPayEntry
deriving DecidableEq

/-- An amount as it is stored. -/
abbrev Amount := { x : ℚ // TwoPlaces x }

namespace LeaveBalance

/-- `save(update_fields=['credited_amount'])`. -/
def setCredited (b : LeaveBalance) (credited : Amount) : LeaveBalance :=
  { b with
    creditedAmount := credited
    twoPlaces := ⟨b.twoPlaces.1, b.twoPlaces.2.1, credited.2, b.twoPlaces.2.2.2⟩ }

/-- `save(update_fields=['carried_forward_amount'])`. -/
def setCarried (b : LeaveBalance) (carried : Amount) : LeaveBalance :=
  { b with
    carriedForwardAmount := carried
    twoPlaces := ⟨b.twoPlaces.1, carried.2, b.twoPlaces.2.2⟩ }

/-- The credited amount less what expires, and not below zero. -/
def creditedLess (b : LeaveBalance) (expired : ℚ) : Amount :=
  ⟨max 0 (decimal (b.creditedAmount - expired)), by
    rcases max_choice 0 (decimal (b.creditedAmount - expired)) with h | h <;> rw [h]
    · exact Decimal.onGrid_zero
    · exact twoPlaces_decimal _⟩

end LeaveBalance

/-- An entry of what was carried into a cycle. -/
def LeaveBalanceLedgerEntry.isCarriedInto (key : BalanceKey) (e : LeaveBalanceLedgerEntry) : Bool :=
  e.leaveBalance = key ∧ e.entryType = .carryForward ∧ e.effectiveDate = key.cycleStart

namespace CycleEndTables

def updateBalance (t : CycleEndTables) (key : BalanceKey) (f : LeaveBalance → LeaveBalance) :
    CycleEndTables :=
  { t with leave := { t.leave with
    balances := Table.update (fun b => b.key = key) f t.leave.balances } }

/-- What has expired of a balance enters its ledger. -/
def addExpiry (t : CycleEndTables) (key : BalanceKey) (amount : ℚ) : CycleEndTables :=
  { t with leave := { t.leave with
    ledgerEntries := t.leave.ledgerEntries ++ [
      { leaveBalance := key, entryType := .expiry, amount := amount,
        effectiveDate := key.cycleEnd }] } }

def hasExpiry (t : CycleEndTables) (key : BalanceKey) : Bool :=
  t.leave.ledgerEntries.any (fun e => e.leaveBalance = key ∧ e.entryType = .expiry)

/-- What is left of a cycle becomes leave without pay. -/
def addLapse (t : CycleEndTables) (key : BalanceKey) (units : ℚ) : CycleEndTables :=
  { t with lwpEntries := t.lwpEntries ++ [
    { employee := key.employee, entryDate := key.cycleEnd, units := units, source := .leaveLapse,
      status := .approved }] }

/-- The row of a balance, inserted when there is none. -/
def getOrCreateBalance (t : CycleEndTables) (key : BalanceKey) : CycleEndTables :=
  match t.leave.getBalance key with
  | some _ => t
  | none => { t with leave := { t.leave with
      balances := t.leave.balances ++ [LeaveBalance.new key] } }

/-- The ledger entry of an amount carried into a cycle; there is at most one,
since nothing else writes them. -/
def updateOrCreateCarryForward (t : CycleEndTables) (key : BalanceKey) (amount : ℚ) :
    CycleEndTables :=
  { t with leave := { t.leave with
    ledgerEntries :=
      if t.leave.ledgerEntries.any (LeaveBalanceLedgerEntry.isCarriedInto key) then
        Table.update (LeaveBalanceLedgerEntry.isCarriedInto key)
          (fun e => { e with amount := amount }) t.leave.ledgerEntries
      else t.leave.ledgerEntries ++ [
        { leaveBalance := key, entryType := .carryForward, amount := amount,
          effectiveDate := key.cycleStart }] } }

end CycleEndTables

/-! ## One balance -/

/-- **Lapse what is left of a balance**, once. -/
def processCycleEndLapse (m : CycleEndMasters) (balance : LeaveBalance) (t : CycleEndTables) :
    CycleEndTables :=
  let remaining := balance.available
  if remaining ≤ 0 then t
  else if t.hasExpiry balance.key then t
  else
    let t := t.addExpiry balance.key (decimal remaining)
    let t := if (m.leaveType balance.key.leaveType).isLossOfPay then
      t.addLapse balance.key (decimal remaining) else t
    t.updateBalance balance.key
      (fun b => b.setCredited (balance.creditedLess (decimal remaining)))

/-- What is carried of an available amount. -/
def CarryForwardPolicy.carried (policy : CarryForwardPolicy) (available : ℚ) : Amount :=
  match policy.carryForwardMode with
  | .none => ⟨0, Decimal.onGrid_zero⟩
  | .unlimited => ⟨decimal available, twoPlaces_decimal _⟩
  | .capped => ⟨min (decimal available) (decimal (policy.carryForwardCap.getD 0)), by
      rcases min_choice (decimal available) (decimal (policy.carryForwardCap.getD 0)) with h | h <;>
        rw [h] <;> exact twoPlaces_decimal _⟩

/-- **Carry what is available of a cycle into the next one.** -/
def processCycleEndCarryForward (m : CycleEndMasters) (old new : BalanceKey)
    (t : CycleEndTables) : CycleEndTables :=
  let availableToCarry := match t.leave.getBalance old with
    | none => 0
    | some balance => max 0 balance.available
  let amount := (m.carryForward old.leaveType).carried availableToCarry
  let t := (t.getOrCreateBalance new).updateBalance new (fun b => b.setCarried amount)
  t.updateOrCreateCarryForward new amount

/-- The balance of the cycle after a balance. -/
def nextCycle (m : Masters) (key : BalanceKey) : Except String BalanceKey :=
  match key.cycleEnd.nextDay with
  | none => .error "date value out of range"
  | some day => do
    let (cycleStart, cycleEnd) ←
      getCycleWindow (m.leaveType key.leaveType).leaveCycle (m.employee key.employee) day
    return { key with cycleStart := cycleStart, cycleEnd := cycleEnd }

/-- **Apply the cap of a leave type to a balance**, as it was fetched, and
carry the rest. -/
def processCycleEndCap (m : CycleEndMasters) (balance : LeaveBalance) (t : CycleEndTables) :
    Except String CycleEndTables :=
  match (m.carryForward balance.key.leaveType).carryForwardCap with
  | none => .ok t
  | some cap => do
    let cap := decimal cap
    let available := decimal (max 0 balance.available)
    let t :=
      if cap < available then
        (t.addExpiry balance.key (decimal (available - cap))).updateBalance balance.key
          (fun b => b.setCredited (balance.creditedLess (decimal (available - cap))))
      else t
    let next ← nextCycle m.toMasters balance.key
    return processCycleEndCarryForward m balance.key next t

/-! ## The job -/

/-- An order in which rows are returned. The order by the name of the leave type
leaves open how balances of one leave type follow each other, and balances of
different leave types do not touch each other: here any order will do. -/
structure RowOrder where
  order : List LeaveBalance → List LeaveBalance
  perm : ∀ rows, (order rows).Perm rows

/-- The ended balances of active employees under a carry-forward mode. -/
def endedBalances (m : CycleEndMasters) (mode : CarryForwardMode) (t : CycleEndTables) :
    List LeaveBalance :=
  t.leave.balances.filter (fun b => b.key.cycleEnd < t.leave.today
    ∧ (m.carryForward b.key.leaveType).carryForwardMode = mode ∧ m.isActive b.key.employee)

/-- The loop over the balances that lapse. -/
def lapseAll (m : CycleEndMasters) (balances : List LeaveBalance) (t : CycleEndTables) :
    CycleEndTables :=
  balances.foldl (fun t balance => processCycleEndLapse m balance t) t

/-- The loop over the capped balances. -/
def capAll (m : CycleEndMasters) : List LeaveBalance → CycleEndTables → CycleEndTables
  | [], t => t
  | balance :: balances, t =>
    match processCycleEndCap m balance t with
    | .error _ => t
    | .ok t => capAll m balances t

/-- **The nightly job.** -/
def runLeaveLapseForAllActiveCycles (m : CycleEndMasters) (t : CycleEndTables) (o : RowOrder) :
    CycleEndTables :=
  let t := lapseAll m (o.order (endedBalances m .none t)) t
  capAll m (o.order (endedBalances m .capped t)) t

end TimeOff
