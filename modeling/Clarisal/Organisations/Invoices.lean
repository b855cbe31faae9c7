import Clarisal.Lib.Numeral
import Clarisal.Lib.Run
import Clarisal.Organisations.Licences
import Clarisal.Payroll.Filings

/-!
# Invoice numbers

The next invoice number of a year is one more than the greatest one that the year has, and
the greatest is the one that comes last as a text. A request reads it and inserts its
invoice later, and holds only the lock of its own payment in between. Two requests that
overlap read the same number, and the second one to insert fails
(`overlapping_invoices_fail`). After a million invoices the greatest text is that of
`999999`, so that no further one can be issued.

So the invoices of every year are numbered one after the other and no request fails,
exactly when each request inserts its invoice before the next one of the year reads, and a
year has at most a million invoices (`invoicesInOrder_iff_undisturbed`).
-/

open Calendar Approvals

namespace Organisations

/-- Numbers are texts. -/
structure Invoice where
  organisation : OrganisationId
  payment : PaymentId
  invoiceNumber : List Char
  issueDate : Date
  dueDate : Date
  amount : ℚ
  gstAmount : ℚ
  totalAmount : ℚ
deriving DecidableEq, Repr

/-! ## Numbers -/

def invoicePrefix (year : ℕ) : List Char := "INV-".toList ++ (Nat.toDigits 10 year ++ ['-'])

/-- **The text of a number**: at least six digits. -/
def invoiceNumberOf (year sequence : ℕ) : List Char := invoicePrefix year ++ zeroPad 6 sequence

/-- `text.split('-')[-1]`. -/
def lastSegment (text : List Char) : List Char := (text.reverse.takeWhile (· ≠ '-')).reverse

def nextInvoiceNumber (invoices : List Invoice) (issueDate : Date) : List Char :=
  let numbers := (invoices.map Invoice.invoiceNumber).filter
    (fun number => (invoicePrefix issueDate.year).isPrefixOf number)
  -- the number that comes last in the order of texts
  match numbers.maximum with
  | none => invoiceNumberOf issueDate.year 1
  | some latest =>
    -- a segment has no minus sign, so that what is read is not negative
    match Payroll.parseInt (lastSegment latest) with
    | some n => invoiceNumberOf issueDate.year (n.toNat + 1)
    | none => invoiceNumberOf issueDate.year (numbers.length + 1)

section

variable {c : Char} {w n k l year year' : ℕ}

theorem mem_zeroPad (hc : c ∈ zeroPad w n) :
    Payroll.isSpace c = false ∧ c ≠ '-' ∧ c ≠ '+' ∧ c ≠ '_' := by
  rw [zeroPad_eq] at hc
  rcases List.mem_append.mp hc with hc | hc
  · rw [(List.mem_replicate.mp hc).2]
    decide
  · obtain ⟨hspace, -, hminus, hplus, hunderscore⟩ := Payroll.isSpace_of_mem_toDigits hc
    exact ⟨hspace, hminus, hplus, hunderscore⟩

theorem decimalNumber_zeroPad (w n : ℕ) : Payroll.decimalNumber (zeroPad w n) = some n := by
  have hzeros (m : ℕ) : (List.replicate m '0').foldlM
      (fun n c => (Payroll.decimalValue c).map (10 * n + ·)) 0 = some 0 := by
    induction m with
    | zero => rfl
    | succ m ih =>
      rw [List.replicate_succ, List.foldlM_cons]
      exact ih
  rw [zeroPad_eq, Payroll.decimalNumber, List.foldlM_append, hzeros]
  exact Payroll.decimalNumber_toDigits n

/-- **A padded numeral is read back.** -/
theorem parseInt_zeroPad (w n : ℕ) : Payroll.parseInt (zeroPad w n) = some (n : ℤ) := by
  refine Payroll.parseInt_of_digits (fun c hc => mem_zeroPad hc) ?_ (decimalNumber_zeroPad w n)
  rw [zeroPad_eq]
  simp

theorem lastSegment_invoiceNumberOf (year k : ℕ) :
    lastSegment (invoiceNumberOf year k) = zeroPad 6 k := by
  have hdigits : ∀ c ∈ (zeroPad 6 k).reverse, decide (c ≠ '-') = true := fun c hc =>
    decide_eq_true (mem_zeroPad (List.mem_reverse.mp hc)).2.1
  unfold lastSegment invoiceNumberOf invoicePrefix
  simp only [List.reverse_append, List.append_assoc]
  rw [List.takeWhile_append_of_pos hdigits]
  simp

/-- **The numbers of a year** are those that begin with its prefix. -/
theorem isPrefixOf_invoiceNumberOf :
    (invoicePrefix year).isPrefixOf (invoiceNumberOf year' k) = true ↔ year = year' := by
  rw [List.isPrefixOf_iff_prefix]
  constructor
  · rintro ⟨rest, h⟩
    -- the digits of the year are what comes before the second dash
    have hdigits (y : ℕ) : ∀ c ∈ Nat.toDigits 10 y, decide (c ≠ '-') = true := fun c hc =>
      decide_eq_true (Payroll.isSpace_of_mem_toDigits hc).2.2.1
    have hbefore (y : ℕ) (rest : List Char) :
        (Nat.toDigits 10 y ++ '-' :: rest).takeWhile (· ≠ '-') = Nat.toDigits 10 y := by
      rw [List.takeWhile_append_of_pos (hdigits y)]
      simp
    have hyears : Nat.toDigits 10 year ++ '-' :: rest
        = Nat.toDigits 10 year' ++ '-' :: zeroPad 6 k := by
      simpa [invoicePrefix, invoiceNumberOf] using h
    have hsame := congrArg (List.takeWhile (· ≠ '-')) hyears
    rw [hbefore, hbefore] at hsame
    have hnumbers := congrArg Payroll.decimalNumber hsame
    rw [Payroll.decimalNumber_toDigits, Payroll.decimalNumber_toDigits] at hnumbers
    exact Option.some.inj hnumbers
  · rintro rfl
    exact List.prefix_append _ _

/-- **No two numbers have one text.** -/
theorem invoiceNumberOf_inj (h : invoiceNumberOf year k = invoiceNumberOf year' l) :
    year = year' ∧ k = l := by
  have hprefix : (invoicePrefix year).isPrefixOf (invoiceNumberOf year k) = true :=
    isPrefixOf_invoiceNumberOf.mpr rfl
  refine ⟨isPrefixOf_invoiceNumberOf.mp (h ▸ hprefix), ?_⟩
  have hread := congrArg (fun text => Payroll.parseInt (lastSegment text)) h
  simp only [lastSegment_invoiceNumberOf, parseInt_zeroPad] at hread
  exact Int.ofNat.inj (Option.some.inj hread)

end

/-! ## Requests -/

/-- **A request in flight**: the invoice it is about to insert. `seen` counts the invoices
that the year had when the number was read. -/
structure InvoiceRequest where
  invoice : Invoice
  seen : ℕ
deriving DecidableEq, Repr

/-- The invoices are those committed, in order. A request that ends is in `finished`, and in
`failed` when its number was taken. -/
structure InvoicingState where
  payments : List Payment
  invoices : List Invoice
  inFlight : List InvoiceRequest
  finished : List PaymentId
  failed : List PaymentId
deriving DecidableEq, Repr

/-- The invoices of a year. -/
def InvoicingState.ofYear (st : InvoicingState) (year : ℕ) : List Invoice :=
  st.invoices.filter (fun i => i.issueDate.year = year)

/-- The row of an invoice. -/
def newInvoice (gstRate : ℚ) (payment : Payment) (issueDate : Date) (invoices : List Invoice) :
    Invoice where
  organisation := payment.organisation
  payment := payment.id
  invoiceNumber := nextInvoiceNumber invoices issueDate
  issueDate := issueDate
  dueDate := issueDate
  amount := payment.amount
  gstAmount := twoPlaces (payment.amount * gstRate)
  totalAmount := twoPlaces (payment.amount + twoPlaces (payment.amount * gstRate))

/-- **The events of `generate_invoice`**: a request gets the lock of its payment and reads the
number, and the `i`-th request in flight inserts its invoice. -/
inductive InvoicingEvent
  | lock (payment : PaymentId) (today : Date)
  | insert (i : ℕ)
deriving DecidableEq, Repr

/-- **A request gets the lock.** One whose payment is locked waits, and gets it later. -/
def lockPayment (gstRate : ℚ) (payment : Payment) (today : Date) (st : InvoicingState) :
    InvoicingState :=
  if payment.status ≠ .success then st
  else if st.inFlight.any (fun r => r.invoice.payment = payment.id) then st
  else if st.invoices.any (fun i => i.payment = payment.id) then
    { st with finished := st.finished ++ [payment.id] }
  else { st with
    inFlight := st.inFlight ++ [
      { invoice := newInvoice gstRate payment today st.invoices
        seen := (st.ofYear today.year).length }] }

/-- **A request inserts its invoice**, if the number is not taken. -/
def insertInvoice (r : InvoiceRequest) (st : InvoicingState) : InvoicingState :=
  let st := { st with finished := st.finished ++ [r.invoice.payment] }
  if st.invoices.any (fun i => i.invoiceNumber = r.invoice.invoiceNumber) then
    { st with failed := st.failed ++ [r.invoice.payment] }
  else { st with invoices := st.invoices ++ [r.invoice] }

/-- **One event.** -/
def invoicingStep (gstRate : ℚ) (st : InvoicingState) : InvoicingEvent → InvoicingState
  | .lock payment today =>
    (Table.find Payment.id payment st.payments).elim st
      (fun p => lockPayment gstRate p today st)
  | .insert i =>
    st.inFlight[i]?.elim st
      (fun r => insertInvoice r { st with inFlight := st.inFlight.eraseIdx i })

/-! ## In order -/

/-- **The invoices are issued in order**: no request fails, one that has ended has one
invoice, no two invoices share a number, and the numbers of a year are consecutive. -/
structure InvoicesInOrder (st : InvoicingState) : Prop where
  noFailure : st.failed = []
  once : ∀ payment ∈ st.finished, (st.invoices.filter (fun i => i.payment = payment)).length = 1
  unique : Table.Unique Invoice.invoiceNumber st.invoices
  consecutive : ∀ year, (st.ofYear year).map Invoice.invoiceNumber
    = (List.range (st.ofYear year).length).map (fun k => invoiceNumberOf year (k + 1))

/-- The most invoices of a year, the last one with seven digits. -/
def yearLimit : ℕ := 10 ^ 6

/-- **A request is undisturbed** when it inserts its invoice: no invoice of the year was
inserted since it read the number, and the year had less than a million. -/
def Undisturbed (st : InvoicingState) : InvoicingEvent → Prop
  | .lock .. => True
  | .insert i => ∀ r ∈ st.inFlight[i]?,
    (st.ofYear r.invoice.issueDate.year).length = r.seen ∧ r.seen < yearLimit

instance (st : InvoicingState) : ∀ event, Decidable (Undisturbed st event)
  | .lock .. => instDecidableTrue
  | .insert i => inferInstanceAs (Decidable (∀ r ∈ st.inFlight[i]?, _))

/-- **What holds whether requests fail or not.** -/
structure InvoicingState.Numbered (st : InvoicingState) : Prop where
  consecutive : ∀ year, (st.ofYear year).map Invoice.invoiceNumber
    = (List.range (st.ofYear year).length).map (fun k => invoiceNumberOf year (k + 1))
  bounded : ∀ year, (st.ofYear year).length ≤ yearLimit
  unique : Table.Unique Invoice.invoiceNumber st.invoices
  once : Table.Unique Invoice.payment st.invoices
  read : ∀ r ∈ st.inFlight, r.seen ≤ (st.ofYear r.invoice.issueDate.year).length
    ∧ r.invoice.invoiceNumber
      = invoiceNumberOf r.invoice.issueDate.year (min (r.seen + 1) yearLimit)
  locked : (st.inFlight.map (fun r => r.invoice.payment)).Nodup
  awaiting : ∀ r ∈ st.inFlight, ∀ i ∈ st.invoices, i.payment ≠ r.invoice.payment
  ended : ∀ payment ∈ st.finished, payment ∈ st.failed ∨ ∃ i ∈ st.invoices, i.payment = payment

section

variable {st st' : InvoicingState} {r : InvoiceRequest} {i : Invoice} {year : ℕ}

/-! ### What is read -/

/-- The number of an invoice is one of those of its year. -/
theorem InvoicingState.Numbered.exists_sequence (h : st.Numbered) (hi : i ∈ st.invoices) :
    ∃ k < (st.ofYear i.issueDate.year).length,
      i.invoiceNumber = invoiceNumberOf i.issueDate.year (k + 1) := by
  have hmem : i.invoiceNumber ∈ (st.ofYear i.issueDate.year).map Invoice.invoiceNumber :=
    List.mem_map_of_mem (List.mem_filter.mpr ⟨hi, decide_eq_true rfl⟩)
  rw [h.consecutive] at hmem
  obtain ⟨k, hk, heq⟩ := List.mem_map.mp hmem
  exact ⟨k, List.mem_range.mp hk, heq.symm⟩

/-- The numbers of a year are taken up to how many there are. -/
theorem InvoicingState.Numbered.taken_iff (h : st.Numbered) {k : ℕ} :
    (∃ i ∈ st.invoices, i.invoiceNumber = invoiceNumberOf year (k + 1))
      ↔ k < (st.ofYear year).length := by
  constructor
  · rintro ⟨i, hi, hnumber⟩
    obtain ⟨l, hl, heq⟩ := h.exists_sequence hi
    obtain ⟨rfl, hkl⟩ := invoiceNumberOf_inj (heq.symm.trans hnumber)
    exact Nat.succ.inj hkl ▸ hl
  · intro hk
    have hmem : invoiceNumberOf year (k + 1) ∈ (st.ofYear year).map Invoice.invoiceNumber := by
      rw [h.consecutive]
      exact List.mem_map.mpr ⟨k, List.mem_range.mpr hk, rfl⟩
    obtain ⟨i, hi, hnumber⟩ := List.mem_map.mp hmem
    exact ⟨i, List.mem_of_mem_filter hi, hnumber⟩

/-- The numbers that begin with the prefix of a year. -/
theorem InvoicingState.Numbered.numbers_eq (h : st.Numbered) (year : ℕ) :
    (st.invoices.map Invoice.invoiceNumber).filter
        (fun number => (invoicePrefix year).isPrefixOf number)
      = (List.range (st.ofYear year).length).map (fun k => invoiceNumberOf year (k + 1)) := by
  rw [← h.consecutive, List.filter_map]
  refine congrArg _ (List.filter_congr fun i hi => ?_)
  obtain ⟨k, -, heq⟩ := h.exists_sequence hi
  show (invoicePrefix year).isPrefixOf i.invoiceNumber = decide (i.issueDate.year = year)
  rw [heq, Bool.eq_iff_iff, isPrefixOf_invoiceNumberOf, decide_eq_true_iff, eq_comm]

/-- The greatest of some texts. -/
theorem maximum_texts {texts : List (List Char)} {m : List Char} (hm : m ∈ texts)
    (hle : ∀ text ∈ texts, text ≤ m) : texts.maximum = (m : WithBot (List Char)) := by
  convert (List.maximum_eq_coe_iff (α := List Char)).mpr ⟨hm, hle⟩

/-- **The greatest text** of the numbers of a year is that of the greatest number, and that
of `999999` when there is one more. -/
theorem maximum_numbers {n : ℕ} (hn : 0 < n) (hlimit : n ≤ yearLimit) :
    ((List.range n).map (fun k => invoiceNumberOf year (k + 1))).maximum
      = (invoiceNumberOf year (min n (yearLimit - 1)) : WithBot (List Char)) := by
  refine maximum_texts ?_ fun number hnumber => ?_
  · refine List.mem_map.mpr ⟨min n (yearLimit - 1) - 1, List.mem_range.mpr ?_, ?_⟩
    · unfold yearLimit
      omega
    · refine congrArg _ (Nat.sub_add_cancel ?_)
      unfold yearLimit
      omega
  · obtain ⟨k, hk, rfl⟩ := List.mem_map.mp hnumber
    have hk := List.mem_range.mp hk
    have horder : zeroPad 6 (k + 1) ≤ zeroPad 6 (min n (yearLimit - 1)) := by
      rcases (Nat.succ_le_of_lt (hk.trans_le hlimit)).lt_or_eq with hlt | heq
      · refine zeroPad_le_zeroPad (by decide) (le_min hk (Nat.le_pred_of_lt hlt)) ?_
        exact (min_le_right _ _).trans_lt (by decide)
      · -- the number with seven digits comes before those with six
        have hlast : n = yearLimit := le_antisymm hlimit (heq ▸ hk)
        rw [show k + 1 = yearLimit from heq, hlast]
        decide
    rcases horder.lt_or_eq with hlt | heq
    · exact (List.append_left_lt hlt).le
    · exact (congrArg (invoicePrefix year ++ ·) heq).le

/-- **The next number** is one more than there are, as long as that has six digits. -/
theorem InvoicingState.Numbered.nextInvoiceNumber_eq (h : st.Numbered) (today : Date) :
    nextInvoiceNumber st.invoices today
      = invoiceNumberOf today.year (min ((st.ofYear today.year).length + 1) yearLimit) := by
  unfold nextInvoiceNumber
  rw [h.numbers_eq]
  rcases Nat.eq_zero_or_pos (st.ofYear today.year).length with hzero | hpos
  · rw [hzero]
    rfl
  · have hlimit := h.bounded today.year
    have hlatest : ((List.range (st.ofYear today.year).length).map
          (fun k => invoiceNumberOf today.year (k + 1))).maximum
        = some (invoiceNumberOf today.year
          (min (st.ofYear today.year).length (yearLimit - 1))) := maximum_numbers hpos hlimit
    dsimp only
    rw [hlatest]
    dsimp only
    rw [lastSegment_invoiceNumberOf, parseInt_zeroPad]
    refine congrArg (invoiceNumberOf today.year) ?_
    rw [Int.toNat_natCast]
    unfold yearLimit at *
    omega

/-! ### Getting the lock -/

theorem InvoicingState.Numbered.lockPayment (h : st.Numbered) (gstRate : ℚ) (payment : Payment)
    (today : Date) : (lockPayment gstRate payment today st).Numbered := by
  unfold Organisations.lockPayment
  split_ifs with hstatus hlocked hinvoiced
  · exact h
  · exact h
  · refine { h with ended := fun p hp => ?_ }
    rcases List.mem_append.mp hp with hp | hp
    · exact h.ended p hp
    · obtain rfl := List.mem_singleton.mp hp
      obtain ⟨i, hi, hsame⟩ := List.any_eq_true.mp hinvoiced
      exact Or.inr ⟨i, hi, of_decide_eq_true hsame⟩
  · refine { h with read := fun r hr => ?_, locked := ?_, awaiting := fun r hr i hi => ?_ }
    · rcases List.mem_append.mp hr with hr | hr
      · exact h.read r hr
      · obtain rfl := List.mem_singleton.mp hr
        exact ⟨le_rfl, h.nextInvoiceNumber_eq today⟩
    · rw [List.map_append, List.nodup_append]
      refine ⟨h.locked, List.nodup_singleton _, fun p hp q hq => ?_⟩
      obtain rfl := List.mem_singleton.mp hq
      obtain ⟨r, hr, rfl⟩ := List.mem_map.mp hp
      exact fun hsame => hlocked (List.any_eq_true.mpr ⟨r, hr, decide_eq_true hsame⟩)
    · rcases List.mem_append.mp hr with hr | hr
      · exact h.awaiting r hr i hi
      · obtain rfl := List.mem_singleton.mp hr
        exact fun hsame => hinvoiced (List.any_eq_true.mpr ⟨i, hi, decide_eq_true hsame⟩)

/-! ### Inserting the invoice -/

/-- **The number of a request is taken** exactly when the request was disturbed. -/
theorem InvoicingState.Numbered.taken_iff_disturbed (h : st.Numbered) (hr : r ∈ st.inFlight) :
    (∃ i ∈ st.invoices, i.invoiceNumber = r.invoice.invoiceNumber)
      ↔ ¬ ((st.ofYear r.invoice.issueDate.year).length = r.seen ∧ r.seen < yearLimit) := by
  obtain ⟨hseen, hnumber⟩ := h.read r hr
  have hbounded := h.bounded r.invoice.issueDate.year
  have hsequence : min (r.seen + 1) yearLimit = min r.seen (yearLimit - 1) + 1 := by
    unfold yearLimit
    omega
  rw [hnumber, hsequence, h.taken_iff]
  unfold yearLimit at *
  omega

/-- A request that ends leaves the others with payments of their own. -/
theorem InvoicingState.Numbered.other_payment (h : st.Numbered) {n : ℕ}
    (hr : st.inFlight[n]? = some r) :
    ((st.inFlight.eraseIdx n).map (fun r => r.invoice.payment)).Nodup
      ∧ ∀ r' ∈ st.inFlight.eraseIdx n, r.invoice.payment ≠ r'.invoice.payment := by
  obtain ⟨hn, rfl⟩ := List.getElem?_eq_some_iff.mp hr
  have hperm := (List.getElem_cons_eraseIdx_perm hn).map (fun r => r.invoice.payment)
  obtain ⟨hnot, hnodup⟩ := List.nodup_cons.mp (hperm.nodup_iff.mpr h.locked)
  exact ⟨hnodup, fun r' hr' hsame => hnot (List.mem_map.mpr ⟨r', hr', hsame.symm⟩)⟩

/-- The invoices of a year when one is appended. -/
theorem ofYear_append (i : Invoice) (year : ℕ) :
    InvoicingState.ofYear { st with invoices := st.invoices ++ [i] } year
      = if i.issueDate.year = year then st.ofYear year ++ [i] else st.ofYear year := by
  show (st.invoices ++ [i]).filter (fun i => i.issueDate.year = year) = _
  rw [List.filter_append]
  split <;> next hyear => simp [hyear, InvoicingState.ofYear]

theorem length_ofYear_append (i : Invoice) (year : ℕ) :
    (InvoicingState.ofYear { st with invoices := st.invoices ++ [i] } year).length
      = (st.ofYear year).length + if i.issueDate.year = year then 1 else 0 := by
  rw [ofYear_append]
  split
  · exact List.length_append
  · rfl

/-- A request whose number is taken fails. -/
theorem InvoicingState.Numbered.failInvoice (h : st.Numbered) {n : ℕ}
    (hr : st.inFlight[n]? = some r) :
    InvoicingState.Numbered { st with
      inFlight := st.inFlight.eraseIdx n
      finished := st.finished ++ [r.invoice.payment]
      failed := st.failed ++ [r.invoice.payment] } where
  consecutive := h.consecutive
  bounded := h.bounded
  unique := h.unique
  once := h.once
  read := fun r' hr' => h.read r' (List.mem_of_mem_eraseIdx hr')
  locked := (h.other_payment hr).1
  awaiting := fun r' hr' => h.awaiting r' (List.mem_of_mem_eraseIdx hr')
  ended := by
    intro p hp
    rcases List.mem_append.mp hp with hp | hp
    · exact (h.ended p hp).imp_left (List.mem_append_left _)
    · exact Or.inl (List.mem_append_right _ hp)

/-- **A request whose number is free** adds the next invoice of its year. -/
theorem InvoicingState.Numbered.addInvoice (h : st.Numbered) {n : ℕ}
    (hr : st.inFlight[n]? = some r)
    (hfree : ¬ ∃ i ∈ st.invoices, i.invoiceNumber = r.invoice.invoiceNumber) :
    InvoicingState.Numbered { st with
      inFlight := st.inFlight.eraseIdx n
      finished := st.finished ++ [r.invoice.payment]
      invoices := st.invoices ++ [r.invoice] } := by
  have hmem := List.mem_of_getElem? hr
  obtain ⟨hcount, hlimit⟩ := not_not.mp ((h.taken_iff_disturbed hmem).not.mp hfree)
  have hnumber := (h.read r hmem).2
  rw [min_eq_left (Nat.succ_le_of_lt hlimit), ← hcount] at hnumber
  exact {
    consecutive := by
      intro year
      show (InvoicingState.ofYear { st with invoices := st.invoices ++ [r.invoice] } year).map _
        = (List.range (InvoicingState.ofYear { st with
            invoices := st.invoices ++ [r.invoice] } year).length).map _
      rw [ofYear_append]
      split
      · next hyear =>
        rw [List.map_append, h.consecutive, List.length_append, List.length_singleton,
          List.range_succ, List.map_append, List.map_singleton, List.map_singleton, hnumber, hyear]
      · exact h.consecutive year
    bounded := by
      intro year
      refine (length_ofYear_append r.invoice year).trans_le ?_
      split
      · next hyear => exact hyear ▸ hcount ▸ hlimit
      · exact h.bounded year
    unique := h.unique.append_one fun i hi hsame => hfree ⟨i, hi, hsame⟩
    once := h.once.append_one (h.awaiting r hmem)
    read := by
      intro r' hr'
      obtain ⟨hseen, hread⟩ := h.read r' (List.mem_of_mem_eraseIdx hr')
      refine ⟨hseen.trans ?_, hread⟩
      exact (Nat.le_add_right _ _).trans_eq (length_ofYear_append r.invoice _).symm
    locked := (h.other_payment hr).1
    awaiting := by
      intro r' hr' i hi
      rcases List.mem_append.mp hi with hi | hi
      · exact h.awaiting r' (List.mem_of_mem_eraseIdx hr') i hi
      · obtain rfl := List.mem_singleton.mp hi
        exact (h.other_payment hr).2 r' hr'
    ended := by
      intro p hp
      rcases List.mem_append.mp hp with hp | hp
      · exact (h.ended p hp).imp_right fun ⟨i, hi, hsame⟩ => ⟨i, List.mem_append_left _ hi, hsame⟩
      · obtain rfl := List.mem_singleton.mp hp
        exact Or.inr ⟨r.invoice, List.mem_append_right _ (List.mem_singleton_self _), rfl⟩ }

theorem InvoicingState.Numbered.insertInvoice (h : st.Numbered) {n : ℕ}
    (hr : st.inFlight[n]? = some r) :
    (insertInvoice r { st with inFlight := st.inFlight.eraseIdx n }).Numbered := by
  unfold Organisations.insertInvoice
  dsimp only
  split_ifs with htaken
  · exact h.failInvoice hr
  · exact h.addInvoice hr (by simpa using htaken)

/-! ### One event -/

/-- **Every event** keeps the invoices numbered. -/
theorem numbered_step (gstRate : ℚ) (st : InvoicingState) (event : InvoicingEvent)
    (h : st.Numbered) : (invoicingStep gstRate st event).Numbered := by
  cases event with
  | lock payment today =>
    show ((Table.find Payment.id payment st.payments).elim st _).Numbered
    cases Table.find Payment.id payment st.payments with
    | none => exact h
    | some p => exact h.lockPayment gstRate p today
  | insert n =>
    show (st.inFlight[n]?.elim st _).Numbered
    cases hr : st.inFlight[n]? with
    | none => exact h
    | some r => exact h.insertInvoice hr

/-- Numbered invoices are in order as long as no request failed. -/
theorem InvoicingState.Numbered.inOrder_iff (h : st.Numbered) :
    InvoicesInOrder st ↔ st.failed = [] := by
  refine ⟨InvoicesInOrder.noFailure, fun hfailed => ⟨hfailed, fun payment hpayment => ?_,
    h.unique, h.consecutive⟩⟩
  obtain hfailed' | ⟨i, hi, hsame⟩ := h.ended payment hpayment
  · rw [hfailed] at hfailed'
    cases hfailed'
  · obtain hnone | ⟨j, _, _, hone⟩ := h.once.filter_cases payment
    · exact absurd (decide_eq_true hsame) (List.filter_eq_nil_iff.mp hnone i hi)
    · rw [hone]
      rfl

theorem lockPayment_failed (gstRate : ℚ) (payment : Payment) (today : Date)
    (st : InvoicingState) : (lockPayment gstRate payment today st).failed = st.failed := by
  unfold lockPayment
  split_ifs <;> rfl

/-- **One event keeps the order** exactly when it is undisturbed. -/
theorem inOrder_step_iff (gstRate : ℚ) (st : InvoicingState) (event : InvoicingEvent)
    (h : st.Numbered) (horder : InvoicesInOrder st) :
    InvoicesInOrder (invoicingStep gstRate st event) ↔ Undisturbed st event := by
  rw [(numbered_step gstRate st event h).inOrder_iff]
  have hfailed := horder.noFailure
  cases event with
  | lock payment today =>
    refine iff_of_true ?_ trivial
    show ((Table.find Payment.id payment st.payments).elim st _).failed = []
    cases Table.find Payment.id payment st.payments with
    | none => exact hfailed
    | some p => exact (lockPayment_failed gstRate p today st).trans hfailed
  | insert n =>
    show (st.inFlight[n]?.elim st _).failed = [] ↔ ∀ r ∈ st.inFlight[n]?, _
    cases hr : st.inFlight[n]? with
    | none => exact iff_of_true hfailed (fun r hr => nomatch hr)
    | some r =>
      have htaken := h.taken_iff_disturbed (List.mem_of_getElem? hr)
      show (insertInvoice r { st with inFlight := st.inFlight.eraseIdx n }).failed = [] ↔ _
      unfold insertInvoice
      dsimp only
      split_ifs with hany
      · have hdisturbed := htaken.mp (by simpa using hany)
        refine iff_of_false (by simp) fun hguard => hdisturbed (hguard r rfl)
      · refine iff_of_true hfailed fun r' hr' => ?_
        obtain rfl := Option.mem_some_iff.mp hr'
        by_contra hdisturbed
        exact hany (by simpa using htaken.mpr hdisturbed)

end

/-- **Invoices are issued in order** in a run exactly when every request inserts its invoice
before another one of its year is inserted, and while the year has less than a million. -/
theorem invoicesInOrder_iff_undisturbed (gstRate : ℚ) {st : InvoicingState} (h : st.Numbered)
    (horder : InvoicesInOrder st) (events : List InvoicingEvent) :
    (∀ n, InvoicesInOrder (Run.exec (invoicingStep gstRate) st (events.take n)))
      ↔ Run.Along (invoicingStep gstRate) Undisturbed st events :=
  Run.forall_take_iff_along (numbered_step gstRate) (inOrder_step_iff gstRate) h horder events

/-! ## Two payments -/

namespace Sample

def paid (id : PaymentId) : Payment where
  id := id
  organisation := 1
  licenceBatch := id
  amount := 1000
  gateway := .razorpay
  gatewayOrderId := ""
  gatewayPaymentId := none
  status := .success

/-- Two payments succeeded, and there is no invoice yet. -/
def twoPaid : InvoicingState := ⟨[paid 1, paid 2], [], [], [], []⟩

def issueDate : Date := ⟨2026, 5, 2, isDate_2026_05_02⟩

theorem twoPaid_numbered : twoPaid.Numbered where
  consecutive _ := rfl
  bounded _ := Nat.zero_le _
  unique := List.nodup_nil
  once := List.nodup_nil
  read _ hr := nomatch hr
  locked := List.nodup_nil
  awaiting _ hr := nomatch hr
  ended _ hpayment := nomatch hpayment

theorem twoPaid_inOrder : InvoicesInOrder twoPaid where
  noFailure := rfl
  once _ hpayment := nomatch hpayment
  unique := List.nodup_nil
  consecutive _ := rfl

end Sample

open Sample

theorem invoicesInOrder_iff_undisturbed_sample :
    InvoicesInOrder (Run.exec (invoicingStep (18 / 100)) twoPaid
      [.lock 1 issueDate, .insert 0, .lock 2 issueDate, .insert 0]) :=
  (invoicesInOrder_iff_undisturbed _ twoPaid_numbered twoPaid_inOrder
    [.lock 1 issueDate, .insert 0, .lock 2 issueDate, .insert 0]).mpr (by decide +kernel) 4

/-- **Two requests that overlap** read the same number, and the second one fails. -/
theorem overlapping_invoices_fail :
    ¬ ∀ n, InvoicesInOrder (Run.exec (invoicingStep (18 / 100)) twoPaid
      (([.lock 1 issueDate, .lock 2 issueDate, .insert 0, .insert 0] :
        List InvoicingEvent).take n)) :=
  fun h => absurd (h 4).noFailure (by decide +kernel)

end Organisations
