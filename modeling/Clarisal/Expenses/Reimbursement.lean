import Clarisal.Expenses.Claims
import Clarisal.Payroll.Gate
import Clarisal.Payroll.Reconciliation

/-!
# Every approved claim is reimbursed once

A calculation takes the claims that wait for payroll, and its items list them;
a later calculation of the same run releases them first, and a finalization
pays them. The invariant `ClaimsInv` ties the two sides together: what an item
lists is taken by that item, and what is taken is listed. From it, every claim
is on one payslip at most, with its own total, and paid exactly when it is on
one (`reimbursedOnce_reached`).
-/

open Approvals Payroll

namespace Expenses

open Transaction PayrollTables

/-- The lines reimburse a claim. -/
def Reimburses (lines : List SnapshotLine) (claim : ExpenseClaimId) : Prop :=
  ∃ l ∈ lines, l.sourceId = some claim

instance (lines : List SnapshotLine) (claim : ExpenseClaimId) :
    Decidable (Reimburses lines claim) :=
  inferInstanceAs (Decidable (∃ l ∈ lines, _))

/-! ## The lines of an item -/

/-- **An item lists the claims it was calculated with**, each once and with its
total. -/
structure Lists (claims : List ExpenseClaim) (lines : List SnapshotLine) : Prop where
  sources : lines.filterMap SnapshotLine.sourceId = claims.map ExpenseClaim.id
  amounts : ∀ l ∈ lines, ∀ k, l.sourceId = some k →
    ∃ c ∈ claims, c.id = k ∧ l.monthlyAmount = c.totalAmount

section

variable {inp : ItemInputs} {claims : List ExpenseClaim} {lines : List SnapshotLine}

theorem Lists.reimburses_iff (h : Lists claims lines) {k : ExpenseClaimId} :
    Reimburses lines k ↔ ∃ c ∈ claims, c.id = k := by
  have hmem : k ∈ lines.filterMap SnapshotLine.sourceId ↔ k ∈ claims.map ExpenseClaim.id := by
    rw [h.sources]
  simpa [Reimburses] using hmem

theorem sourceId_listedLine (line : CompensationAssignmentLine) :
    (inp.listedLine line).sourceId = none := by
  unfold ItemInputs.listedLine replacePfLine CompensationAssignmentLine.snapshot
  split_ifs <;> rfl

theorem sourceId_computedLine {line : SnapshotLine} (hline : line ∈ inp.computedLines) :
    line.sourceId = none := by
  obtain ⟨code, type, amount, rfl, -, -⟩ := ItemInputs.autoLine_of_mem_computedLines hline
  rfl

/-- Only the reimbursements name a claim. -/
theorem lists_itemLines (inp : ItemInputs) : Lists inp.payableClaims inp.itemLines := by
  have hown : ∀ l ∈ inp.assignment.lines.map inp.listedLine ++ inp.computedLines,
      l.sourceId = none := by
    intro l hl
    rcases List.mem_append.mp hl with hl | hl
    · obtain ⟨line, -, rfl⟩ := List.mem_map.mp hl
      exact sourceId_listedLine line
    · exact sourceId_computedLine hl
  constructor
  · rw [ItemInputs.itemLines, List.filterMap_append, List.filterMap_eq_nil_iff.mpr hown,
      List.nil_append]
    show (inp.payableClaims.map _).filterMap _ = _
    rw [List.filterMap_map, ← List.filterMap_eq_map]
    exact List.filterMap_congr (fun c _ => rfl)
  · intro l hl k hk
    rcases List.mem_append.mp hl with hl | hl
    · rw [hown l hl] at hk
      cases hk
    · obtain ⟨c, hc, rfl⟩ := List.mem_map.mp hl
      exact ⟨c, hc, Option.some.inj hk, rfl⟩

/-- What the lines pay for a claim. -/
def amountFor (lines : List SnapshotLine) (claim : ExpenseClaimId) : ℚ :=
  ((lines.filter (fun l => l.sourceId = some claim)).map SnapshotLine.monthlyAmount).sum

/-- A claim listed once is paid by one line. -/
theorem amountFor_of_nodup {k : ExpenseClaimId} {amount : ℚ}
    (hnodup : (lines.filterMap SnapshotLine.sourceId).Nodup) (hk : Reimburses lines k)
    (hamount : ∀ l ∈ lines, l.sourceId = some k → l.monthlyAmount = amount) :
    amountFor lines k = amount := by
  induction lines with
  | nil =>
    obtain ⟨l, hl, -⟩ := hk
    cases hl
  | cons l lines ih =>
    unfold amountFor
    by_cases hl : l.sourceId = some k
    · rw [List.filterMap_cons_some hl] at hnodup
      have hrest : lines.filter (fun l => l.sourceId = some k) = [] := by
        refine List.filter_eq_nil_iff.mpr (fun l' hl' => ?_)
        simp only [decide_eq_true_eq]
        exact fun hk' => (List.nodup_cons.mp hnodup).1 (List.mem_filterMap.mpr ⟨l', hl', hk'⟩)
      simp [hl, hrest, hamount l List.mem_cons_self hl]
    · have hmem : Reimburses lines k := by
        obtain ⟨l', hl', hk'⟩ := hk
        rcases List.mem_cons.mp hl' with rfl | hl'
        · exact absurd hk' hl
        · exact ⟨l', hl', hk'⟩
      rw [List.filter_cons_of_neg (by simpa using hl)]
      exact ih (hnodup.sublist ((List.sublist_cons_self l lines).filterMap _)) hmem
        (fun l' hl' => hamount l' (List.mem_cons_of_mem l hl'))

end

/-! ## The invariant -/

/-- The claim points to the item, and is paid when the run of the item is
finalized. -/
structure TakenBy (t : PayrollTables) (claim : ExpenseClaim) (item : PayrollRunItem) : Prop where
  payRun : claim.reimbursementPayRun = some item.payRun
  payRunItem : claim.reimbursementPayRunItem = some item.id
  status : (claim.reimbursementStatus = .includedInPayroll ∧ ¬ Finalized t item.payRun)
    ∨ (claim.reimbursementStatus = .paid ∧ Finalized t item.payRun)

/-- The claim waits for nothing, or for payroll. -/
def Idle (claim : ExpenseClaim) : Prop :=
  claim.reimbursementStatus = .notReady ∨ claim.reimbursementStatus = .pendingPayroll

/-- **The invariant**: what an item lists is taken by the item, with its total,
and what is not idle is listed by an item. -/
structure ClaimsInv (t : PayrollTables) : Prop where
  unique : Table.Unique ExpenseClaim.id t.expenseClaims
  known : ∀ c ∈ t.expenseClaims, c.id < t.nextId
  amounts : ∀ c ∈ t.expenseClaims, 0 < c.totalAmount
  approved : ∀ c ∈ t.expenseClaims, c.reimbursementStatus ≠ .notReady → c.status = .approved
  idle : ∀ c ∈ t.expenseClaims, Idle c →
    c.reimbursementPayRun = none ∧ c.reimbursementPayRunItem = none
  listed : ∀ i ∈ t.items, ∀ l ∈ i.snapshot.lines, ∀ k, l.sourceId = some k →
    ∃ c ∈ t.expenseClaims, c.id = k ∧ l.monthlyAmount = c.totalAmount ∧ TakenBy t c i
  ready : ∀ i ∈ t.items, i.status ≠ .ready → i.snapshot.lines = []
  once : ∀ i ∈ t.items, (i.snapshot.lines.filterMap SnapshotLine.sourceId).Nodup
  taken : ∀ c ∈ t.expenseClaims, ¬ Idle c → ∃ i ∈ t.items, Reimburses i.snapshot.lines c.id

section

variable {t t' : PayrollTables} {c : ExpenseClaim} {i j : PayrollRunItem}

theorem TakenBy.not_idle (h : TakenBy t c i) : ¬ Idle c := by
  rintro (hidle | hidle) <;> rcases h.status with ⟨hs, -⟩ | ⟨hs, -⟩ <;>
    simp [hidle] at hs

theorem TakenBy.congr (h : TakenBy t c i) (hf : Finalized t' i.payRun ↔ Finalized t i.payRun) :
    TakenBy t' c i :=
  ⟨h.payRun, h.payRunItem, by rw [hf]; exact h.status⟩

/-- A claim is taken by one item. -/
theorem TakenBy.unique (hkeys : t.Keys) (hi : i ∈ t.items) (hj : j ∈ t.items)
    (h : TakenBy t c i) (h' : TakenBy t c j) : i = j :=
  hkeys.item_eq hi hj (Option.some.inj (h.payRunItem.symm.trans h'.payRunItem))

namespace ClaimsInv

/-- An item that reimburses a claim has taken it. -/
theorem takenBy (h : ClaimsInv t) (hc : c ∈ t.expenseClaims) (hi : i ∈ t.items)
    (hr : Reimburses i.snapshot.lines c.id) : TakenBy t c i := by
  obtain ⟨l, hl, hk⟩ := hr
  obtain ⟨c', hc', hid, -, htaken⟩ := h.listed i hi l hl c.id hk
  rwa [h.unique.eq_of_key hc' hc hid] at htaken

/-- **A claim that is not idle** was taken by an item that lists it. -/
theorem exists_takenBy (h : ClaimsInv t) (hc : c ∈ t.expenseClaims) (hidle : ¬ Idle c) :
    ∃ i ∈ t.items, Reimburses i.snapshot.lines c.id ∧ TakenBy t c i := by
  obtain ⟨i, hi, hr⟩ := h.taken c hc hidle
  exact ⟨i, hi, hr, h.takenBy hc hi hr⟩

/-- The claim an item points to is listed by it. -/
theorem reimburses_iff (h : ClaimsInv t) (hkeys : t.Keys) (hc : c ∈ t.expenseClaims)
    (hi : i ∈ t.items) :
    Reimburses i.snapshot.lines c.id ↔ c.reimbursementPayRunItem = some i.id := by
  constructor
  · exact fun hr => (h.takenBy hc hi hr).payRunItem
  · intro hitem
    have hidle : ¬ Idle c := by
      intro hidle
      rw [(h.idle c hc hidle).2] at hitem
      cases hitem
    obtain ⟨j, hj, hr, htaken⟩ := h.exists_takenBy hc hidle
    rw [htaken.payRunItem] at hitem
    rwa [hkeys.item_eq hj hi (Option.some.inj hitem)] at hr

/-- The claims and items do not change, nor does what is finalized. -/
theorem congr (h : ClaimsInv t) (hclaims : t'.expenseClaims = t.expenseClaims)
    (hitems : t'.items = t.items) (hnext : t.nextId ≤ t'.nextId)
    (hf : ∀ i ∈ t.items, (Finalized t' i.payRun ↔ Finalized t i.payRun)) : ClaimsInv t' where
  unique := hclaims ▸ h.unique
  known c hc := (h.known c (hclaims ▸ hc)).trans_le hnext
  amounts := hclaims ▸ h.amounts
  approved := hclaims ▸ h.approved
  idle := hclaims ▸ h.idle
  listed i hi l hl k hk := by
    rw [hitems] at hi
    obtain ⟨c, hc, hid, hamount, htaken⟩ := h.listed i hi l hl k hk
    exact ⟨c, hclaims ▸ hc, hid, hamount, htaken.congr (hf i hi)⟩
  ready := hitems ▸ h.ready
  once := hitems ▸ h.once
  taken := by
    rw [hclaims, hitems]
    exact h.taken

end ClaimsInv

/-! ## Releasing -/

/-- The claim as it waits for payroll again. -/
def released (claim : ExpenseClaim) : ExpenseClaim :=
  { claim with
    reimbursementStatus := .pendingPayroll, reimbursementPayRun := none,
    reimbursementPayRunItem := none }

variable {payRun : PayrollRun}

/-- **A run that is calculated again releases the claims its items list**, and
no other. -/
theorem clearRun_expenseClaims (h : ClaimsInv t) (hkeys : t.Keys)
    (hopen : ¬ Finalized t payRun.id) :
    (CalculationInputs.clearRun payRun t).expenseClaims
      = Table.update (fun c => ∃ i ∈ t.runItems payRun.id, Reimburses i.snapshot.lines c.id)
        released t.expenseClaims := by
  show Table.update _ _ (Table.update _ _ t.expenseClaims) = _
  rw [Table.update, Table.update, List.map_map, Table.update]
  refine List.map_congr_left (fun c hc => ?_)
  by_cases hlisted : ∃ i ∈ t.runItems payRun.id, Reimburses i.snapshot.lines c.id
  · -- it was taken by an item of the run, and is not paid
    obtain ⟨i, hi, hr⟩ := hlisted
    obtain ⟨himem, hirun⟩ := mem_runItems.mp hi
    have htaken := h.takenBy hc himem hr
    have hincluded : c.reimbursementPayRun = some payRun.id
        ∧ c.reimbursementStatus = .includedInPayroll := by
      refine ⟨hirun ▸ htaken.payRun, ?_⟩
      rcases htaken.status with ⟨hs, -⟩ | ⟨-, hf⟩
      · exact hs
      · exact absurd (hirun ▸ hf) hopen
    have hlisted : ∃ i ∈ t.runItems payRun.id, Reimburses i.snapshot.lines c.id := ⟨i, hi, hr⟩
    simp [hincluded, hlisted, released]
  · -- neither the run nor an item of it is what the claim points to
    have hrun : ¬ (c.reimbursementPayRun = some payRun.id
        ∧ c.reimbursementStatus = .includedInPayroll) := by
      rintro ⟨hrun, hs⟩
      obtain ⟨i, hi, hr, htaken⟩ := h.exists_takenBy hc (by simp [Idle, hs])
      refine hlisted ⟨i, mem_runItems.mpr ⟨hi, ?_⟩, hr⟩
      exact Option.some.inj (htaken.payRun.symm.trans hrun)
    have hitem : ¬ ∃ k ∈ c.reimbursementPayRunItem,
        k ∈ (t.runItems payRun.id).map PayrollRunItem.id := by
      rintro ⟨k, hk, hmem⟩
      obtain ⟨i, hi, rfl⟩ := List.mem_map.mp hmem
      obtain ⟨himem, hirun⟩ := mem_runItems.mp hi
      exact hlisted ⟨i, hi, (h.reimburses_iff hkeys hc himem).mpr hk⟩
    simp only [Function.comp_apply, decide_eq_false hrun, decide_eq_false hlisted]
    exact if_neg (fun hd => hitem (of_decide_eq_true hd))

theorem claimsInv_clearRun (h : ClaimsInv t) (hkeys : t.Keys)
    (hopen : ¬ Finalized t payRun.id) : ClaimsInv (CalculationInputs.clearRun payRun t) := by
  have hclaims := clearRun_expenseClaims h hkeys hopen
  have hitem : ∀ {i}, i ∈ (CalculationInputs.clearRun payRun t).items
      → i ∈ t.items ∧ i.payRun ≠ payRun.id :=
    fun hi => ⟨(List.mem_filter.mp hi).1, of_decide_eq_true (List.mem_filter.mp hi).2⟩
  have hmem : ∀ {c}, c ∈ (CalculationInputs.clearRun payRun t).expenseClaims →
      (∃ c₀ ∈ t.expenseClaims, (∃ i ∈ t.runItems payRun.id, Reimburses i.snapshot.lines c₀.id)
        ∧ released c₀ = c)
      ∨ (c ∈ t.expenseClaims ∧ ¬ ∃ i ∈ t.runItems payRun.id, Reimburses i.snapshot.lines c.id) := by
    intro c hc
    rw [hclaims, Table.mem_update_iff] at hc
    simpa using hc
  refine ⟨?_, fun c hc => ?_, fun c hc => ?_, fun c hc => ?_, fun c hc => ?_,
    fun i hi l hl k hk => ?_, fun i hi => h.ready i (hitem hi).1, fun i hi => h.once i (hitem hi).1,
    fun c hc hidle => ?_⟩
  · rw [hclaims]
    exact h.unique.update (fun _ => rfl)
  · rcases hmem hc with ⟨c₀, hc₀, -, rfl⟩ | ⟨hc, -⟩
    · exact h.known c₀ hc₀
    · exact h.known c hc
  · rcases hmem hc with ⟨c₀, hc₀, -, rfl⟩ | ⟨hc, -⟩
    · exact h.amounts c₀ hc₀
    · exact h.amounts c hc
  · rcases hmem hc with ⟨c₀, hc₀, ⟨i, hi, hr⟩, rfl⟩ | ⟨hc, -⟩
    · refine fun _ => h.approved c₀ hc₀ (fun hnot => ?_)
      exact (h.takenBy hc₀ (mem_runItems.mp hi).1 hr).not_idle (Or.inl hnot)
    · exact h.approved c hc
  · rcases hmem hc with ⟨c₀, hc₀, -, rfl⟩ | ⟨hc, -⟩
    · exact fun _ => ⟨rfl, rfl⟩
    · exact h.idle c hc
  · obtain ⟨hi, hne⟩ := hitem hi
    obtain ⟨c, hc, hid, hamount, htaken⟩ := h.listed i hi l hl k hk
    refine ⟨c, ?_, hid, hamount, htaken.congr Iff.rfl⟩
    rw [hclaims, Table.mem_update_iff]
    refine Or.inr ⟨hc, decide_eq_false ?_⟩
    rintro ⟨j, hj, hr⟩
    obtain ⟨hj, hjrun⟩ := mem_runItems.mp hj
    rw [htaken.unique hkeys hi hj (h.takenBy hc hj hr)] at hne
    exact hne hjrun
  · rcases hmem hc with ⟨c₀, -, -, rfl⟩ | ⟨hc, hnot⟩
    · exact absurd (Or.inr rfl) hidle
    · obtain ⟨i, hi, hr⟩ := h.taken c hc hidle
      refine ⟨i, List.mem_filter.mpr ⟨hi, decide_eq_true (fun hirun => hnot ?_)⟩, hr⟩
      exact ⟨i, mem_runItems.mpr ⟨hi, hirun⟩, hr⟩

/-! ## Taking -/

/-- The claim as an item takes it. -/
def takenInto (item : PayrollRunItem) (claim : ExpenseClaim) : ExpenseClaim :=
  { claim with
    reimbursementStatus := .includedInPayroll, reimbursementPayRun := some item.payRun,
    reimbursementPayRunItem := some item.id }

/-- The claims after some of them were taken. -/
theorem mem_take_iff {claims taken : List ExpenseClaim}
    (hunique : Table.Unique ExpenseClaim.id claims) (hsub : ∀ c ∈ taken, c ∈ claims) :
    c ∈ Table.update (fun c => c.id ∈ taken.map ExpenseClaim.id) (takenInto i) claims
      ↔ (∃ c₀ ∈ taken, takenInto i c₀ = c) ∨ (c ∈ claims ∧ c ∉ taken) := by
  have hmem : ∀ c ∈ claims, c.id ∈ taken.map ExpenseClaim.id ↔ c ∈ taken := by
    intro c hc
    refine ⟨fun hid => ?_, List.mem_map_of_mem⟩
    obtain ⟨c₁, hc₁, hid⟩ := List.mem_map.mp hid
    rwa [← hunique.eq_of_key (hsub c₁ hc₁) hc hid]
  rw [Table.mem_update_iff]
  constructor
  · rintro (⟨c₀, hc₀, hid, rfl⟩ | ⟨hc, hid⟩)
    · exact Or.inl ⟨c₀, (hmem c₀ hc₀).mp (of_decide_eq_true hid), rfl⟩
    · exact Or.inr ⟨hc, fun htaken => of_decide_eq_false hid ((hmem c hc).mpr htaken)⟩
  · rintro (⟨c₀, hc₀, rfl⟩ | ⟨hc, hnot⟩)
    · exact Or.inl ⟨c₀, hsub c₀ hc₀, decide_eq_true (List.mem_map_of_mem hc₀), rfl⟩
    · exact Or.inr ⟨hc, decide_eq_false (fun hid => hnot ((hmem c hc).mp hid))⟩

/-- **A new item takes the waiting claims it lists.** -/
theorem claimsInv_take {taken : List ExpenseClaim} (h : ClaimsInv t)
    (hopen : ¬ Finalized t i.payRun)
    (hwaiting : ∀ c ∈ taken, c ∈ t.expenseClaims ∧ c.reimbursementStatus = .pendingPayroll)
    (hlists : Lists taken i.snapshot.lines)
    (hnodup : (taken.map ExpenseClaim.id).Nodup)
    (hready : i.status ≠ .ready → i.snapshot.lines = [])
    (hruns : t'.payRuns = t.payRuns) (hitems : t'.items = t.items ++ [i])
    (hnext : t.nextId ≤ t'.nextId)
    (hclaims : t'.expenseClaims = Table.update (fun c => c.id ∈ taken.map ExpenseClaim.id)
      (takenInto i) t.expenseClaims) : ClaimsInv t' := by
  have hf : ∀ id, Finalized t' id ↔ Finalized t id := fun id => by rw [Finalized, hruns, Finalized]
  have hmem : ∀ {c}, c ∈ t'.expenseClaims
      ↔ (∃ c₀ ∈ taken, takenInto i c₀ = c) ∨ (c ∈ t.expenseClaims ∧ c ∉ taken) := fun {c} => by
    rw [hclaims, mem_take_iff h.unique (fun c hc => (hwaiting c hc).1)]
  refine ⟨?_, fun c hc => ?_, fun c hc => ?_, fun c hc => ?_, fun c hc hidle => ?_,
    fun j hj l hl k hk => ?_, fun j hj => ?_, fun j hj => ?_, fun c hc hidle => ?_⟩
  · rw [hclaims]
    exact h.unique.update (fun _ => rfl)
  · refine lt_of_lt_of_le ?_ hnext
    rcases hmem.mp hc with ⟨c₀, hc₀, rfl⟩ | ⟨hc, -⟩
    · exact h.known c₀ (hwaiting c₀ hc₀).1
    · exact h.known c hc
  · rcases hmem.mp hc with ⟨c₀, hc₀, rfl⟩ | ⟨hc, -⟩
    · exact h.amounts c₀ (hwaiting c₀ hc₀).1
    · exact h.amounts c hc
  · rcases hmem.mp hc with ⟨c₀, hc₀, rfl⟩ | ⟨hc, -⟩
    · exact fun _ => h.approved c₀ (hwaiting c₀ hc₀).1 (by simp [(hwaiting c₀ hc₀).2])
    · exact h.approved c hc
  · rcases hmem.mp hc with ⟨c₀, -, rfl⟩ | ⟨hc, -⟩
    · rcases hidle with hs | hs <;> cases hs
    · exact h.idle c hc hidle
  · rw [hitems] at hj
    rcases List.mem_append.mp hj with hj | hj
    · obtain ⟨c, hc, hid, hamount, htaken⟩ := h.listed j hj l hl k hk
      have hnot : c ∉ taken := fun hc' => htaken.not_idle (Or.inr (hwaiting c hc').2)
      exact ⟨c, hmem.mpr (Or.inr ⟨hc, hnot⟩), hid, hamount, htaken.congr (hf _)⟩
    · obtain rfl := List.mem_singleton.mp hj
      obtain ⟨c, hc, hid, hamount⟩ := hlists.amounts l hl k hk
      exact ⟨takenInto j c, hmem.mpr (Or.inl ⟨c, hc, rfl⟩), hid, hamount, rfl, rfl,
        Or.inl ⟨rfl, by rwa [hf]⟩⟩
  · rw [hitems] at hj
    rcases List.mem_append.mp hj with hj | hj
    · exact h.ready j hj
    · rwa [List.mem_singleton.mp hj]
  · rw [hitems] at hj
    rcases List.mem_append.mp hj with hj | hj
    · exact h.once j hj
    · rwa [List.mem_singleton.mp hj, hlists.sources]
  · rw [hitems]
    rcases hmem.mp hc with ⟨c₀, hc₀, rfl⟩ | ⟨hc, -⟩
    · exact ⟨i, List.mem_append_right _ (List.mem_singleton_self i),
        hlists.reimburses_iff.mpr ⟨c₀, hc₀, rfl⟩⟩
    · obtain ⟨j, hj, hr⟩ := h.taken c hc hidle
      exact ⟨j, List.mem_append_left _ hj, hr⟩

/-! ## Calculating -/

/-- **The loop over the employees**, which still has to take the waiting claims
of those without an item, and takes no others. -/
structure Taking (payRun : PayrollRun) (cleared : PayrollTables) (waiting : List ExpenseClaim)
    (t : PayrollTables) : Prop where
  claims : ClaimsInv t
  keys : t.Keys
  opened : ¬ Finalized t payRun.id
  waits : ∀ c ∈ waiting, c ∈ t.expenseClaims ∨ ∃ i ∈ t.runItems payRun.id, i.employee = c.employee
  kept : ∀ c ∈ cleared.expenseClaims, ¬ Idle c → c ∈ t.expenseClaims

variable {inputs : CalculationInputs} {period : PayPeriod} {waiting : List ExpenseClaim}
  {employee : Employee} {cleared : PayrollTables}

/-- **One round of the loop**: the item of the employee, and the claims it takes. -/
theorem calculateEmployee_takes
    (hok : inputs.calculateEmployee payRun period waiting t employee = .ok t') :
    (∀ i ∈ t.runItems payRun.id, i.employee ≠ employee.id)
    ∧ ∃ (i : PayrollRunItem) (taken : List ExpenseClaim),
      t'.items = t.items ++ [i] ∧ i.payRun = payRun.id ∧ i.employee = employee.id
      ∧ taken.Sublist (waiting.filter (fun c => c.employee = employee.id))
      ∧ (i.status ≠ .ready → i.snapshot.lines = [])
      ∧ ((∀ c ∈ waiting, 0 < c.totalAmount) → Lists taken i.snapshot.lines)
      ∧ t'.expenseClaims = Table.update (fun c => c.id ∈ taken.map ExpenseClaim.id)
        (takenInto i) t.expenseClaims := by
  obtain ⟨outcome, houtcome, hok⟩ := bind_eq_ok_iff.mp hok
  obtain ⟨t₁, hcreate, hok⟩ := bind_eq_ok_iff.mp hok
  unfold createItem at hcreate
  split at hcreate
  · cases hcreate
  · next hnone =>
    obtain rfl := Except.ok.inj hcreate
    refine ⟨fun i hi hemployee => hnone (List.any_eq_true.mpr ?_), ?_⟩
    · obtain ⟨hi, hrun⟩ := mem_runItems.mp hi
      exact ⟨i, hi, decide_eq_true ⟨hrun, hemployee⟩⟩
    cases outcome with
    | exception message =>
      obtain rfl := pure_eq_ok_iff.mp hok
      refine ⟨_, [], rfl, rfl, rfl, List.nil_sublist _, fun _ => rfl,
        fun _ => ⟨rfl, by simp [ItemOutcome.item]⟩, ?_⟩
      simp [Table.update]
    | ready amounts snapshot =>
      obtain rfl := pure_eq_ok_iff.mp hok
      refine ⟨_, waiting.filter (fun c => c.employee = employee.id), rfl, rfl, rfl,
        List.Sublist.refl _, fun h => absurd rfl h, fun hpos => ?_, rfl⟩
      obtain ⟨stateCode, assignment, taxSlabSet, hcalc⟩ := employeeOutcome_eq_ready houtcome
      have hlines : snapshot.lines = _ := (linesTotal_sub_total hcalc .earnings).1
      have hlists := lists_itemLines (inputs.itemInputs payRun period stateCode employee assignment
        taxSlabSet waiting t)
      have hall : ItemInputs.payableClaims (inputs.itemInputs payRun period stateCode employee
          assignment taxSlabSet waiting t) = waiting.filter (fun c => c.employee = employee.id) :=
        List.filter_eq_self.mpr
          (fun c hc => decide_eq_true (hpos c (List.mem_of_mem_filter hc)))
      rw [hall] at hlists
      show Lists _ snapshot.lines
      rwa [hlines]

theorem taking_calculateEmployee (hnodup : (waiting.map ExpenseClaim.id).Nodup)
    (hwaiting : ∀ c ∈ waiting, c.reimbursementStatus = .pendingPayroll ∧ 0 < c.totalAmount)
    (h : Taking payRun cleared waiting t)
    (hok : inputs.calculateEmployee payRun period waiting t employee = .ok t') :
    Taking payRun cleared waiting t' := by
  obtain ⟨hnone, i, taken, hitems, hrun, hemployee, hsub, hready, hlists, hclaims⟩ :=
    calculateEmployee_takes hok
  have hadds := addsItems_calculateEmployee hok
  have htaken : ∀ c ∈ taken, c ∈ waiting ∧ c.employee = employee.id := fun c hc => by
    simpa using List.mem_filter.mp (hsub.subset hc)
  -- the employee had no item, so its claims are as they were read
  have hfresh : ∀ c ∈ taken, c ∈ t.expenseClaims := by
    intro c hc
    obtain ⟨hc, hown⟩ := htaken c hc
    rcases h.waits c hc with hc | ⟨j, hj, hjown⟩
    · exact hc
    · exact absurd (hjown.trans hown) (hnone j hj)
  have hf : ∀ id, Finalized t' id ↔ Finalized t id := fun id => by
    rw [Finalized, hadds.payRuns, Finalized]
  -- a claim that no taken one is stays as it is
  have hkept : ∀ c ∈ t.expenseClaims, c ∉ taken → c ∈ t'.expenseClaims := by
    intro c hc hnot
    rw [hclaims, mem_take_iff h.claims.unique hfresh]
    exact Or.inr ⟨hc, hnot⟩
  refine ⟨?_, hadds.keys h.keys, fun hfinal => h.opened ((hf _).mp hfinal), fun c hc => ?_,
    fun c hc hidle => ?_⟩
  · refine claimsInv_take h.claims (hrun ▸ h.opened)
      (fun c hc => ⟨hfresh c hc, (hwaiting c (htaken c hc).1).1⟩)
      (hlists (fun c hc => (hwaiting c hc).2)) ?_ hready hadds.payRuns hitems hadds.nextId hclaims
    exact hnodup.sublist ((hsub.trans List.filter_sublist).map _)
  · by_cases hown : c.employee = employee.id
    · refine Or.inr ⟨i, mem_runItems.mpr ⟨?_, hrun⟩, hemployee.trans hown.symm⟩
      rw [hitems]
      exact List.mem_append_right _ (List.mem_singleton_self i)
    · rcases h.waits c hc with hc' | ⟨j, hj, hjown⟩
      · exact Or.inl (hkept c hc' (fun hmem => hown (htaken c hmem).2))
      · obtain ⟨hj, hjrun⟩ := mem_runItems.mp hj
        refine Or.inr ⟨j, mem_runItems.mpr ⟨?_, hjrun⟩, hjown⟩
        rw [hitems]
        exact List.mem_append_left _ hj
  · refine hkept c (h.kept c hc hidle) (fun hmem => hidle (Or.inr ?_))
    exact (hwaiting c (htaken c hmem).1).1

/-- The claims a run takes wait for payroll. -/
theorem mem_pendingExpenseClaims (hc : c ∈ t.pendingExpenseClaimsForPayRun payRun) :
    c ∈ t.expenseClaims ∧ c.reimbursementStatus = .pendingPayroll := by
  unfold pendingExpenseClaimsForPayRun at hc
  split at hc
  · cases hc
  · obtain ⟨hmem, hp⟩ := List.mem_filter.mp hc
    exact ⟨hmem, (of_decide_eq_true hp).2.2⟩

theorem sublist_pendingExpenseClaims :
    (t.pendingExpenseClaimsForPayRun payRun).Sublist t.expenseClaims := by
  unfold pendingExpenseClaimsForPayRun
  split
  · exact List.nil_sublist _
  · exact List.filter_sublist

/-- **A calculation keeps the invariant**, and the claims that other runs have
taken. -/
theorem claimsInv_calculateWrites (h : ClaimsInv t) (hkeys : t.Keys)
    (hopen : ¬ Finalized t payRun.id) (hok : inputs.calculateWrites payRun t = .ok t') :
    ClaimsInv t' ∧ ∀ c ∈ t.expenseClaims, ¬ Idle c →
      (∀ i ∈ t.runItems payRun.id, ¬ Reimburses i.snapshot.lines c.id) → c ∈ t'.expenseClaims := by
  unfold CalculationInputs.calculateWrites at hok
  split at hok
  · cases hok
  · next period _ =>
    obtain ⟨t₁, hloop, hok⟩ := bind_eq_ok_iff.mp hok
    obtain rfl := pure_eq_ok_iff.mp hok
    have hcleared := claimsInv_clearRun h hkeys hopen
    have hloop := foldlM_induction (P := Taking payRun (CalculationInputs.clearRun payRun t) _)
      (fun _ _ _ hP hstep => taking_calculateEmployee
        (hcleared.unique.sublist (sublist_pendingExpenseClaims.map _))
        (fun c hc => ⟨(mem_pendingExpenseClaims hc).2,
          hcleared.amounts c (mem_pendingExpenseClaims hc).1⟩) hP hstep)
      ⟨hcleared, hkeys.clearRun, hopen, fun c hc => Or.inl (mem_pendingExpenseClaims hc).1,
        fun _ hc _ => hc⟩ hloop
    refine ⟨hloop.claims.congr rfl rfl le_rfl (fun i _ => ?_), fun c hc hidle hnot => ?_⟩
    · -- the run calculated was not finalized, and is not
      exact finalized_updatePayRun hloop.opened (fun _ => by simp) i.payRun
    · refine hloop.kept c ?_ hidle
      rw [clearRun_expenseClaims h hkeys hopen, Table.mem_update_iff]
      exact Or.inr ⟨hc, decide_eq_false (fun ⟨i, hi, hr⟩ => hnot i hi hr)⟩

/-! ## Finalizing -/

/-- A claim after a finalization was paid by it, or is as it was. -/
theorem mem_finalizeWrites_claims {p : PayrollRun} (hok : finalizeWrites p t = .ok t')
    (hc : c ∈ t'.expenseClaims) :
    (∃ c₀ ∈ t.expenseClaims, c₀.reimbursementStatus = .includedInPayroll
      ∧ { c₀ with reimbursementStatus := .paid } = c) ∨ c ∈ t.expenseClaims := by
  rw [(finalizeWrites_arrears hok).2, Table.mem_update_iff] at hc
  rcases hc with ⟨c₀, hc₀, hmark, rfl⟩ | ⟨hc, -⟩
  · obtain ⟨i, -, -, hs⟩ := of_decide_eq_true hmark
    exact Or.inl ⟨c₀, hc₀, hs, rfl⟩
  · exact Or.inr hc

/-- **The claim an item lists** is still the item's after a finalization: paid if
the item is of the run finalized, as it was if not. -/
theorem listed_finalizeWrites (h : ClaimsInv t) (hkeys : t.Keys) {p : PayrollRun}
    (hp : p ∈ t.payRuns) (hopen : ¬ Finalized t p.id) (hok : finalizeWrites p t = .ok t')
    (hi : i ∈ t.items) (hc : c ∈ t.expenseClaims) (hr : Reimburses i.snapshot.lines c.id) :
    ∃ c' ∈ t'.expenseClaims, c'.id = c.id ∧ c'.totalAmount = c.totalAmount ∧ TakenBy t' c' i := by
  have hclaims := (finalizeWrites_arrears hok).2
  have hf := finalized_finalizeWrites hkeys hp hopen hok
  have htaken := h.takenBy hc hi hr
  by_cases hirun : i.payRun = p.id
  · have hs : c.reimbursementStatus = .includedInPayroll := by
      rcases htaken.status with ⟨hs, -⟩ | ⟨-, hfinal⟩
      · exact hs
      · exact absurd (hirun ▸ hfinal) hopen
    have hready : i.status = .ready := by
      by_contra hnot
      obtain ⟨l, hl, -⟩ := hr
      rw [h.ready i hi hnot] at hl
      cases hl
    refine ⟨{ c with reimbursementStatus := .paid }, ?_, rfl, rfl, htaken.payRun,
      htaken.payRunItem, Or.inr ⟨rfl, (hf _).mpr (Or.inr hirun)⟩⟩
    rw [hclaims, Table.mem_update_iff]
    exact Or.inl ⟨c, hc, decide_eq_true
      ⟨i, mem_readyItems.mpr ⟨hi, hirun, hready⟩, htaken.payRunItem, hs⟩, rfl⟩
  · refine ⟨c, ?_, rfl, rfl, htaken.congr ((hf _).trans (or_iff_left hirun))⟩
    rw [hclaims, Table.mem_update_iff]
    refine Or.inr ⟨hc, decide_eq_false ?_⟩
    rintro ⟨j, hj, hitem, -⟩
    obtain ⟨hjmem, hjrun, -⟩ := mem_readyItems.mp hj
    rw [htaken.payRunItem] at hitem
    rw [hkeys.item_eq hi hjmem (Option.some.inj hitem)] at hirun
    exact hirun hjrun

/-- **A finalization pays what its items list.** -/
theorem claimsInv_finalizeWrites (h : ClaimsInv t) (hkeys : t.Keys) {p : PayrollRun}
    (hp : p ∈ t.payRuns) (hopen : ¬ Finalized t p.id) (hok : finalizeWrites p t = .ok t') :
    ClaimsInv t' := by
  obtain ⟨t₁, hissues, ht'⟩ := finalizeWrites_eq_ok hkeys hok
  have hitems : t'.items = t.items := by
    rw [ht']
    exact hissues.items
  have hnext : t'.nextId = t.nextId := by
    rw [ht']
    exact hissues.nextId
  refine ⟨?_, fun c hc => ?_, fun c hc => ?_, fun c hc hnot => ?_, fun c hc hidle => ?_,
    fun i hi l hl k hk => ?_, fun i hi => h.ready i (hitems ▸ hi),
    fun i hi => h.once i (hitems ▸ hi), fun c hc hidle => ?_⟩
  · rw [(finalizeWrites_arrears hok).2]
    exact h.unique.update (fun _ => rfl)
  · rw [hnext]
    rcases mem_finalizeWrites_claims hok hc with ⟨c₀, hc₀, -, rfl⟩ | hc
    · exact h.known c₀ hc₀
    · exact h.known c hc
  · rcases mem_finalizeWrites_claims hok hc with ⟨c₀, hc₀, -, rfl⟩ | hc
    · exact h.amounts c₀ hc₀
    · exact h.amounts c hc
  · rcases mem_finalizeWrites_claims hok hc with ⟨c₀, hc₀, hs, rfl⟩ | hc
    · exact h.approved c₀ hc₀ (by simp [hs])
    · exact h.approved c hc hnot
  · rcases mem_finalizeWrites_claims hok hc with ⟨c₀, -, -, rfl⟩ | hc
    · rcases hidle with hs | hs <;> cases hs
    · exact h.idle c hc hidle
  · rw [hitems] at hi
    obtain ⟨c, hc, hid, hamount, -⟩ := h.listed i hi l hl k hk
    obtain ⟨c', hc', hid', htotal, htaken⟩ :=
      listed_finalizeWrites h hkeys hp hopen hok hi hc ⟨l, hl, hid ▸ hk⟩
    exact ⟨c', hc', hid'.trans hid, hamount.trans htotal.symm, htaken⟩
  · rw [hitems]
    rcases mem_finalizeWrites_claims hok hc with ⟨c₀, hc₀, hs, rfl⟩ | hc
    · exact h.taken c₀ hc₀ (by simp [Idle, hs])
    · exact h.taken c hc hidle

/-! ## Every request keeps the invariant -/

/-- No other change than a finalization makes a run finalized. -/
theorem claimsInv_of_change {st st' : State} {op : Payroll.Op} (hledger : Ledger st)
    (h : ClaimsInv st.subjects) (hc : Change st st' op) : ClaimsInv st'.subjects := by
  -- a run rewritten to a status other than finalized
  have hupdated : ∀ (id : PayrollRunId) (f : PayrollRun → PayrollRun),
      (∀ id', Finalized st.subjects id' → id' ≠ id) → (∀ p, (f p).status ≠ .finalized) →
      ClaimsInv (st.subjects.updatePayRun id f) := fun id f hne hstatus =>
    h.congr rfl rfl le_rfl
      (fun i _ => finalized_updatePayRun (fun hf => hne id hf rfl) hstatus i.payRun)
  have hopened : ∀ p ∈ st.subjects.payRuns, p.status ≠ .finalized →
      ¬ Finalized st.subjects p.id :=
    fun p hp hopen hfinal => hledger.ne_of_finalized hp hopen p.id hfinal rfl
  cases hc with
  | quiet hcloses hsubjects => exact hsubjects ▸ h
  | decided run decision id hrun hpending hsubject houtline hsubjects =>
    rw [hsubjects]
    exact hupdated id _ (hledger.ne_of_pending hrun hpending hsubject)
      (fun _ => by cases decision <;> simp [payrollRunStatus])
  | created organisation periodYear periodMonth runType useAttendanceInputs hdb hsubjects =>
    rw [hsubjects]
    refine h.congr rfl rfl (Nat.le_succ _) (fun i _ => ?_)
    constructor
    · rintro ⟨p, hp, hid, hfinal⟩
      rcases List.mem_append.mp hp with hp | hp
      · exact ⟨p, hp, hid, hfinal⟩
      · rw [List.mem_singleton.mp hp] at hfinal
        cases hfinal
    · rintro ⟨p, hp, hrest⟩
      exact ⟨p, List.mem_append_left _ hp, hrest⟩
  | arrears row hdb hsubjects =>
    rw [hsubjects]
    exact h.congr rfl rfl le_rfl (fun _ _ => Iff.rfl)
  | calculated inputs p approvalRun hp hopen hcloses hnone hok =>
    refine (claimsInv_calculateWrites h hledger.keys ?_ hok).1
    exact hopened p hp hopen.2
  | submitted submission p r hp hcalculated hfresh houtline hsubjects =>
    rw [hsubjects]
    exact hupdated p.id _ (hledger.ne_of_finalized hp (by simp [hcalculated])) (fun _ => by simp)
  | finalized p skipApproval hp hstatus hdb hok =>
    refine claimsInv_finalizeWrites h hledger.keys hp (hopened p hp ?_) hok
    rcases hstatus with hstatus | ⟨hstatus, -⟩ <;> simp [hstatus]

/-- The total of lines that were checked. -/
theorem totalAmount_pos {lines : List ℚ} {u : Unit} (h : checkLines lines = .ok u) :
    0 < normalizeDecimal (lines.map normalizeDecimal).sum := by
  unfold checkLines at h
  split at h
  · cases h
  · next hne =>
    split at h
    · cases h
    · next hpos =>
      have hpos : ∀ amount ∈ lines, 0 < normalizeDecimal amount := by simpa using hpos
      rw [normalizeDecimal_of_onPaise (Decimal.onGrid_sum (fun x hx => ?_))]
      · refine List.sum_pos _ (fun x hx => ?_) (by simpa using hne)
        obtain ⟨amount, hamount, rfl⟩ := List.mem_map.mp hx
        exact hpos amount hamount
      · obtain ⟨amount, -, rfl⟩ := List.mem_map.mp hx
        exact onPaise_normalizeDecimal amount

/-- **What a request about a claim does**: the claim was not approved yet, and
its number and reimbursement stay. -/
structure Edits (c c' : ExpenseClaim) : Prop where
  id : c'.id = c.id
  undecided : c.status ≠ .approved
  amount : 0 < c.totalAmount → 0 < c'.totalAmount
  approved : c.reimbursementStatus = .notReady → c'.reimbursementStatus ≠ .notReady →
    c'.status = .approved
  idle : c.reimbursementStatus = .notReady → Idle c'
  payRun : c'.reimbursementPayRun = c.reimbursementPayRun
  payRunItem : c'.reimbursementPayRunItem = c.reimbursementPayRunItem

theorem checkEditable_eq_ok {requester : EmployeeId} {verb participle : String} {u : Unit}
    (h : checkEditable c requester verb participle = .ok u) : c.status ≠ .approved := by
  unfold checkEditable at h
  split_ifs at h with howner hstatus
  intro hs
  exact hstatus (by simp [hs])

theorem edits_perform {request : ClaimRequest} {c c' : ExpenseClaim}
    (h : request.perform c = .ok c') : Edits c c' := by
  cases request with
  | updateExpenseClaim requester lines =>
    obtain ⟨_, hedit, h⟩ := bind_eq_ok_iff.mp h
    obtain ⟨_, hlines, h⟩ := bind_eq_ok_iff.mp h
    obtain rfl := pure_eq_ok_iff.mp h
    exact ⟨rfl, checkEditable_eq_ok hedit, fun _ => totalAmount_pos hlines,
      fun hs hnot => absurd hs hnot, Or.inl, rfl, rfl⟩
  | submitExpenseClaim requester =>
    obtain ⟨_, hedit, h⟩ := bind_eq_ok_iff.mp h
    split at h
    · cases h
    · obtain rfl := pure_eq_ok_iff.mp h
      exact ⟨rfl, checkEditable_eq_ok hedit, fun ha => ha, fun _ hnot => absurd rfl hnot,
        fun _ => Or.inl rfl, rfl, rfl⟩
  | cancelExpenseClaim requester =>
    have h : cancelExpenseClaim requester c = .ok c' := h
    unfold cancelExpenseClaim at h
    split_ifs at h with howner hstatus
    obtain rfl := Except.ok.inj h
    exact ⟨rfl, fun hs => hstatus (by simp [hs]), fun ha => ha, fun hs hnot => absurd hs hnot,
      Or.inl, rfl, rfl⟩
  | decideExpenseClaim status =>
    have h : decideExpenseClaim status c = .ok c' := h
    unfold decideExpenseClaim at h
    split_ifs at h with hsubmitted
    obtain rfl := Except.ok.inj h
    have hundecided : c.status ≠ .approved := by simp [hsubmitted]
    cases status with
    | approved =>
      exact ⟨rfl, hundecided, fun ha => ha, fun _ _ => rfl, fun _ => Or.inr rfl, rfl, rfl⟩
    | rejected =>
      exact ⟨rfl, hundecided, fun ha => ha, fun _ hnot => absurd rfl hnot, fun _ => Or.inl rfl, rfl,
        rfl⟩
    | cancelled =>
      exact ⟨rfl, hundecided, fun ha => ha, fun _ hnot => absurd rfl hnot, fun _ => Or.inl rfl, rfl,
        rfl⟩
    | withdrawn =>
      exact ⟨rfl, hundecided, fun ha => ha, fun hs hnot => absurd hs hnot, Or.inl, rfl, rfl⟩

/-- A claim that no item took is rewritten. -/
theorem claimsInv_save {c' : ExpenseClaim} (h : ClaimsInv t) (hc : c ∈ t.expenseClaims)
    (hedit : Edits c c') :
    ClaimsInv { t with expenseClaims := Table.save ExpenseClaim.id c' t.expenseClaims } := by
  have hnot : c.reimbursementStatus = .notReady := by
    by_contra hs
    exact hedit.undecided (h.approved c hc hs)
  have hnone := h.idle c hc (Or.inl hnot)
  have hmem : ∀ {b}, b ∈ Table.save ExpenseClaim.id c' t.expenseClaims →
      b = c' ∨ b ∈ t.expenseClaims := fun hb => (Table.mem_save hb).imp id And.left
  refine ⟨h.unique.save c', fun b hb => ?_, fun b hb => ?_, fun b hb hs => ?_, fun b hb hidle => ?_,
    fun i hi l hl k hk => ?_, h.ready, h.once, fun b hb hidle => ?_⟩
  · rcases hmem hb with rfl | hb
    · exact hedit.id ▸ h.known c hc
    · exact h.known b hb
  · rcases hmem hb with rfl | hb
    · exact hedit.amount (h.amounts c hc)
    · exact h.amounts b hb
  · rcases hmem hb with rfl | hb
    · exact hedit.approved hnot hs
    · exact h.approved b hb hs
  · rcases hmem hb with rfl | hb
    · rw [hedit.payRun, hedit.payRunItem]
      exact hnone
    · exact h.idle b hb hidle
  · obtain ⟨b, hb, hid, hamount, htaken⟩ := h.listed i hi l hl k hk
    refine ⟨b, Table.mem_save_of_ne hb (fun hbc => ?_), hid, hamount, htaken.congr Iff.rfl⟩
    rw [h.unique.eq_of_key hb hc (hbc.trans hedit.id)] at htaken
    exact htaken.not_idle (Or.inl hnot)
  · rcases hmem hb with rfl | hb
    · exact absurd (hedit.idle hnot) hidle
    · exact h.taken b hb hidle

/-- A claim in draft is added. -/
theorem claimsInv_createExpenseClaim {lines : List ℚ} (h : ClaimsInv t)
    (hok : createExpenseClaim employee lines t = .ok t') : ClaimsInv t' := by
  obtain ⟨_, hlines, hok⟩ := bind_eq_ok_iff.mp hok
  obtain rfl := pure_eq_ok_iff.mp hok
  have hmem : ∀ {c} (a : ExpenseClaim), c ∈ t.expenseClaims ++ [a] → c ∈ t.expenseClaims ∨ c = a :=
    fun a hc => (List.mem_append.mp hc).imp id List.mem_singleton.mp
  refine ⟨h.unique.append_one (fun c hc => (h.known c hc).ne), fun c hc => ?_, fun c hc => ?_,
    fun c hc hs => ?_, fun c hc hidle => ?_, fun i hi l hl k hk => ?_, h.ready, h.once,
    fun c hc hidle => ?_⟩
  · rcases hmem _ hc with hc | rfl
    · exact Nat.lt_succ_of_lt (h.known c hc)
    · exact Nat.lt_succ_self _
  · rcases hmem _ hc with hc | rfl
    · exact h.amounts c hc
    · exact totalAmount_pos hlines
  · rcases hmem _ hc with hc | rfl
    · exact h.approved c hc hs
    · exact absurd rfl hs
  · rcases hmem _ hc with hc | rfl
    · exact h.idle c hc hidle
    · exact ⟨rfl, rfl⟩
  · obtain ⟨c, hc, hid, hamount, htaken⟩ := h.listed i hi l hl k hk
    exact ⟨c, List.mem_append_left _ hc, hid, hamount, htaken.congr Iff.rfl⟩
  · rcases hmem _ hc with hc | rfl
    · exact h.taken c hc hidle
    · exact absurd (Or.inl rfl) hidle

/-! ## Every claim is reimbursed once -/

/-- **Reimbursed exactly once**: the payslips with a claim are of one run; a
claim is paid when exactly one item of a finalized run lists it; what an item or
a payslip pays for a claim is the claim's total; and calculating a run again
releases the claims it had taken, and leaves those of other runs alone. -/
structure ReimbursedOnce (t : PayrollTables) : Prop where
  once : ∀ c ∈ t.expenseClaims, ∀ s ∈ t.payslips, ∀ s' ∈ t.payslips,
    Reimburses s.snapshot.lines c.id → Reimburses s'.snapshot.lines c.id → s.payRun = s'.payRun
  paid : ∀ c ∈ t.expenseClaims, c.reimbursementStatus = .paid
    ↔ ∃! i, i ∈ t.items ∧ Finalized t i.payRun ∧ Reimburses i.snapshot.lines c.id
  amount : ∀ c ∈ t.expenseClaims, (∀ i ∈ t.items, Reimburses i.snapshot.lines c.id →
      amountFor i.snapshot.lines c.id = c.totalAmount)
    ∧ ∀ s ∈ t.payslips, Reimburses s.snapshot.lines c.id →
      amountFor s.snapshot.lines c.id = c.totalAmount
  released : ∀ p ∈ t.payRuns, p.status ≠ .finalized →
    (CalculationInputs.clearRun p t).expenseClaims
      = Table.update (fun c => ∃ i ∈ t.runItems p.id, Reimburses i.snapshot.lines c.id)
        released t.expenseClaims
  kept : ∀ p ∈ t.payRuns, p.status ≠ .finalized →
    ∀ (inputs : CalculationInputs) (t' : PayrollTables), inputs.calculateWrites p t = .ok t' →
      ∀ c ∈ t.expenseClaims, ¬ Idle c →
        (∀ i ∈ t.runItems p.id, ¬ Reimburses i.snapshot.lines c.id) → c ∈ t'.expenseClaims

theorem reimbursedOnce_of_inv {st : State} (hledger : Ledger st) (h : ClaimsInv st.subjects) :
    ReimbursedOnce st.subjects := by
  have hamount : ∀ c ∈ st.subjects.expenseClaims, ∀ i ∈ st.subjects.items,
      Reimburses i.snapshot.lines c.id → amountFor i.snapshot.lines c.id = c.totalAmount := by
    intro c hc i hi hr
    refine amountFor_of_nodup (h.once i hi) hr (fun l hl hk => ?_)
    obtain ⟨c', hc', hid, hamount, -⟩ := h.listed i hi l hl c.id hk
    rwa [h.unique.eq_of_key hc' hc hid] at hamount
  have hopened : ∀ p ∈ st.subjects.payRuns, p.status ≠ .finalized →
      ¬ Finalized st.subjects p.id :=
    fun p hp hopen hfinal => hledger.ne_of_finalized hp hopen p.id hfinal rfl
  refine ⟨fun c hc s hs s' hs' hr hr' => ?_, fun c hc => ⟨fun hpaid => ?_, ?_⟩,
    fun c hc => ⟨hamount c hc, fun s hs hr => ?_⟩,
    fun p hp hopen => clearRun_expenseClaims h hledger.keys (hopened p hp hopen),
    fun p hp hopen inputs t' hok =>
      (claimsInv_calculateWrites h hledger.keys (hopened p hp hopen) hok).2⟩
  · obtain ⟨p, -, -, i, hi, hirun, rfl⟩ := hledger.issued s hs
    obtain ⟨p', -, -, i', hi', hirun', rfl⟩ := hledger.issued s' hs'
    have hsame := (h.takenBy hc hi hr).unique hledger.keys hi hi' (h.takenBy hc hi' hr')
    rw [payslip_payRun, payslip_payRun, ← hirun, ← hirun', hsame]
  · obtain ⟨i, hi, hr, htaken⟩ := h.exists_takenBy hc (by simp [Idle, hpaid])
    have hfinal : Finalized st.subjects i.payRun := by
      rcases htaken.status with ⟨hs, -⟩ | ⟨-, hfinal⟩
      · rw [hpaid] at hs
        cases hs
      · exact hfinal
    refine ⟨i, ⟨hi, hfinal, hr⟩, ?_⟩
    rintro j ⟨hj, -, hr'⟩
    exact (h.takenBy hc hj hr').unique hledger.keys hj hi htaken
  · rintro ⟨i, ⟨hi, hfinal, hr⟩, -⟩
    rcases (h.takenBy hc hi hr).status with ⟨-, hopen⟩ | ⟨hs, -⟩
    · exact absurd hfinal hopen
    · exact hs
  · obtain ⟨p, -, -, i, hi, -, rfl⟩ := hledger.issued s hs
    exact hamount c hc i hi hr

/-- The claims are not part of the ledger. -/
theorem ledger_withClaims {st : State} (h : Ledger st) (claims : List ExpenseClaim) {n : ℕ}
    (hn : st.subjects.nextId ≤ n) :
    Ledger { st with
      subjects := { st.subjects with expenseClaims := claims, nextId := n } } where
  engine := h.engine
  keys := ⟨h.keys.uniqueRun, h.keys.uniqueItem, fun p hp => (h.keys.freshRun p hp).trans_le hn,
    fun i hi => (h.keys.freshItem i hi).trans_le hn⟩
  known o ho id hid := (h.known o ho id hid).trans_le hn
  pending := h.pending
  issued := h.issued

/-- **Every request keeps the invariant.** -/
theorem claimsInv_step {st : State} (h : Ledger st ∧ ClaimsInv st.subjects) (op : Op) :
    Ledger (step st op) ∧ ClaimsInv (step st op).subjects := by
  obtain ⟨hledger, h⟩ := h
  cases op with
  | payRun op =>
    exact ⟨ledger_step hledger op, claimsInv_of_change hledger h (change_step hledger op)⟩
  | createExpenseClaim employee lines =>
    refine settle_induction (P := fun t : PayrollTables =>
      Ledger { st with subjects := t } ∧ ClaimsInv t) ⟨hledger, h⟩ (fun t hok => ⟨?_, ?_⟩)
    · obtain ⟨_, -, hok⟩ := bind_eq_ok_iff.mp hok
      obtain rfl := pure_eq_ok_iff.mp hok
      exact ledger_withClaims hledger _ (Nat.le_succ _)
    · exact claimsInv_createExpenseClaim h hok
  | onClaim id request =>
    unfold step
    dsimp only
    split
    · exact ⟨hledger, h⟩
    · next c hfind =>
      refine settle_induction (P := fun st' : State => Ledger st' ∧ ClaimsInv st'.subjects)
        ⟨hledger, h⟩ (fun st' hok => ?_)
      obtain ⟨c', hperform, hok⟩ := bind_eq_ok_iff.mp hok
      obtain rfl := pure_eq_ok_iff.mp hok
      exact ⟨ledger_withClaims hledger _ le_rfl,
        claimsInv_save h (Table.find_mem hfind) (edits_perform hperform)⟩

theorem claimsInv_initial : ClaimsInv (.initial []) := by
  constructor <;> simp [PayrollTables.initial, Table.Unique]

/-- **Every claim is reimbursed once**, in every run of requests about claims
and pay runs. -/
theorem reimbursedOnce_reached (stages : StageTable) (ops : List Op) :
    ReimbursedOnce (reached stages ops).subjects := by
  obtain ⟨hledger, h⟩ := Run.invariant (I := fun st : State => Ledger st ∧ ClaimsInv st.subjects)
    (fun _ op h => claimsInv_step h op) ⟨ledger_initial stages [], claimsInv_initial⟩ ops
  exact reimbursedOnce_of_inv hledger h

end

/-- A claim of two lines, taken by a run that is calculated twice. -/
example : ((reached Payroll.Sample.stages [
    .createExpenseClaim Payroll.Sample.employee [100, 50],
    .onClaim 0 (.submitExpenseClaim 1), .onClaim 0 (.decideExpenseClaim .approved),
    .payRun (.createPayrollRun 1 2024 4 .regular false),
    .payRun (.calculatePayRun Payroll.Sample.calculation 1),
    .payRun (.calculatePayRun Payroll.Sample.calculation 1),
    .payRun (.finalizePayRun 1 true)]).subjects.expenseClaims.map
      (fun c => (c.totalAmount, c.reimbursementStatus))) = [(150, .paid)] := by decide +kernel

end Expenses
