import Clarisal.TimeOff.Moves
import Mathlib.Algebra.BigOperators.Ring.Finset
import Mathlib.Data.Finset.Card

/-!
# No day is booked twice

A request takes a whole day, or half of one, of each date it covers. The
overlap test of new requests compares ranges, and lets two requests of one date
stand together when they are the two halves of it. In terms of the halves a
request takes of a date (`LeaveSpan.halvesOn`) it keeps those of the active
requests of an employee disjoint (`Booked`), whatever the ranges and sessions,
and a date has two halves. So the active requests of an employee never take
more than a day of any date (`notDoubleBooked`).
-/

open Calendar

namespace TimeOff

open Approvals Transaction

/-- `_request_day_fraction`: what a request takes of a date. -/
def requestDayFraction (startDate endDate attendanceDate : Date)
    (startSession endSession : DaySession) : ℚ :=
  if attendanceDate < startDate ∨ endDate < attendanceDate then 0
  else if startDate = endDate ∧ endDate = attendanceDate then
    if startSession ≠ .fullDay ∨ endSession ≠ .fullDay then 1 / 2 else 1
  else if attendanceDate = startDate ∧ startSession ≠ .fullDay then 1 / 2
  else if attendanceDate = endDate ∧ endSession ≠ .fullDay then 1 / 2
  else 1

def LeaveRequest.fractionOn (r : LeaveRequest) (date : Date) : ℚ :=
  requestDayFraction r.startDate r.endDate date r.startSession r.endSession

/-- What the active requests of an employee take of a date. -/
def bookedFraction (t : LeaveTables) (employee : EmployeeId) (date : Date) : ℚ :=
  ((t.requests.filter (fun r => r.employee = employee ∧ r.IsActive)).map
    (fun r => r.fractionOn date)).sum

/-- `_get_leave_fraction`: what the approved requests take of a date, a day at
most. -/
def getLeaveFraction (t : LeaveTables) (employee : EmployeeId) (date : Date) : ℚ :=
  min ((t.requests.filter (fun r => r.employee = employee ∧ r.status = .approved
    ∧ r.startDate ≤ date ∧ date ≤ r.endDate)).map (fun r => r.fractionOn date)).sum 1

/-- **No date is booked for more than a day.** -/
def NotDoubleBooked (t : LeaveTables) : Prop :=
  ∀ employee date, bookedFraction t employee date ≤ 1

/-! ## Halves of days -/

/-- The two halves of a day. -/
def halves : Finset DaySession := {.firstHalf, .secondHalf}

/-- **The halves a request takes of a date.** A range that starts or ends with
a half day keeps its other half from others. -/
def LeaveSpan.halvesOn (s : LeaveSpan) (date : Date) : Finset DaySession :=
  if date < s.startDate ∨ s.endDate < date then ∅
  else
    match s.halfSession with
    | some half => {half}
    | none => halves

/-- Disjoint selections from a set are no larger together. -/
theorem sum_card_le_of_pairwise_disjoint {ι α : Type*} [DecidableEq α] {f : ι → Finset α}
    {l : List ι} (h : l.Pairwise (fun a b => Disjoint (f a) (f b))) {s : Finset α}
    (hs : ∀ a ∈ l, f a ⊆ s) : (l.map (fun a => (f a).card)).sum ≤ s.card := by
  induction l generalizing s with
  | nil => exact Nat.zero_le _
  | cons a l ih =>
    obtain ⟨ha, hl⟩ := List.pairwise_cons.mp h
    -- the others select from what the first one leaves
    have hrest : ∀ b ∈ l, f b ⊆ s \ f a := fun b hb =>
      Finset.subset_sdiff.mpr ⟨hs b (List.mem_cons_of_mem _ hb), (ha b hb).symm⟩
    have hle := ih hl hrest
    have hsub : f a ⊆ s := hs a List.mem_cons_self
    have hcard := Finset.card_sdiff_add_card_eq_card hsub
    rw [List.map_cons, List.sum_cons]
    omega

section

variable {s s' : LeaveSpan} {date : Date}

theorem halfSession_eq_some {half : DaySession} (h : s.halfSession = some half) :
    s.startDate = s.endDate ∧ s.startSession = half ∧ s.endSession = half ∧ half ≠ .fullDay := by
  unfold LeaveSpan.halfSession singleDayHalfSession at h
  split at h
  · next hsame =>
    obtain rfl := Option.some.inj h
    exact ⟨hsame.1, rfl, hsame.2.1.symm, hsame.2.2⟩
  · cases h

theorem mem_halves {session : DaySession} : session ∈ halves ↔ session ≠ .fullDay := by
  cases session <;> decide

theorem halvesOn_subset (s : LeaveSpan) (date : Date) : s.halvesOn date ⊆ halves := by
  unfold LeaveSpan.halvesOn
  split
  · exact Finset.empty_subset _
  · split
    · next half hhalf =>
      exact Finset.singleton_subset_iff.mpr (mem_halves.mpr (halfSession_eq_some hhalf).2.2.2)
    · exact subset_rfl

theorem requestDayFraction_nonneg (s : LeaveSpan) (date : Date) :
    0 ≤ requestDayFraction s.startDate s.endDate date s.startSession s.endSession := by
  unfold requestDayFraction
  split_ifs <;> norm_num

/-- **A request takes of a date at most the halves it takes.** -/
theorem requestDayFraction_le (s : LeaveSpan) (date : Date) :
    requestDayFraction s.startDate s.endDate date s.startSession s.endSession
      ≤ (s.halvesOn date).card / 2 := by
  unfold requestDayFraction LeaveSpan.halvesOn
  by_cases hcovered : date < s.startDate ∨ s.endDate < date
  · simp [hcovered]
  · rw [if_neg hcovered, if_neg hcovered]
    cases hhalf : s.halfSession with
    | some half =>
      obtain ⟨hday, hstart, -, hne⟩ := halfSession_eq_some hhalf
      have hdate : s.endDate = date := by
        rw [not_or, not_lt, not_lt, hday] at hcovered
        exact le_antisymm hcovered.1 hcovered.2
      rw [if_pos ⟨hday, hdate⟩, if_pos (Or.inl (hstart ▸ hne))]
      simp
    | none =>
      have htwo : halves.card = 2 := rfl
      rw [htwo]
      split_ifs <;> norm_num

/-- **Dates that are apart, or opposite halves of one date**, share no half. -/
theorem halvesOn_disjoint
    (h : s'.startDate ≤ s.endDate → s.startDate ≤ s'.endDate →
      ∃ half half', s.halfSession = some half ∧ s'.halfSession = some half' ∧ half ≠ half') :
    Disjoint (s.halvesOn date) (s'.halvesOn date) := by
  unfold LeaveSpan.halvesOn
  by_cases hcovered : date < s.startDate ∨ s.endDate < date
  · rw [if_pos hcovered]
    exact Finset.disjoint_empty_left _
  · by_cases hcovered' : date < s'.startDate ∨ s'.endDate < date
    · rw [if_pos hcovered']
      exact Finset.disjoint_empty_right _
    · rw [if_neg hcovered, if_neg hcovered']
      rw [not_or, not_lt, not_lt] at hcovered hcovered'
      obtain ⟨half, half', hhalf, hhalf', hne⟩ :=
        h (hcovered'.1.trans hcovered.2) (hcovered.1.trans hcovered'.2)
      rw [hhalf, hhalf']
      exact Finset.disjoint_singleton.mpr hne

end

/-! ## The invariant -/

/-- Two requests that take no half of a date both, if both are active. -/
def LeaveRequest.Apart (r r' : LeaveRequest) : Prop :=
  r.employee = r'.employee → r.IsActive → r'.IsActive →
    ∀ date, Disjoint (r.span.halvesOn date) (r'.span.halvesOn date)

/-- **The active requests of an employee share no half of a date.** -/
def Booked (t : LeaveTables) : Prop := t.requests.Pairwise LeaveRequest.Apart

section

variable {m : Masters} {partially : Prop} {t t' : LeaveTables}

/-- A new request is apart from the ones it was checked against. -/
theorem apart_of_checkDates {e : EmployeeId} {span : LeaveSpan}
    (h : checkDates e span t = .ok ()) {r r' : LeaveRequest} (hr : r ∈ t.requests)
    (hemployee : r'.employee = e) (hspan : r'.span = span) : r.Apart r' := by
  intro he hactive _ date
  rw [hspan]
  unfold checkDates at h
  split at h
  · cases h
  · split at h
    · cases h
    · next hfree =>
      refine halvesOn_disjoint (fun hafter hbefore => ?_)
      have hnot : leaveRequestsOverlap r span = false := by
        simp only [List.any_eq_true, not_exists, decide_eq_true_eq] at hfree
        rw [← Bool.not_eq_true]
        exact fun hoverlap =>
          hfree r ⟨hr, he.trans hemployee, hactive, hbefore, hafter, hoverlap⟩
      unfold leaveRequestsOverlap at hnot
      split at hnot
      · next half existingHalf hhalf hexisting =>
        refine ⟨existingHalf, half, hexisting, hhalf, ?_⟩
        have hopposite := of_not_not (of_decide_eq_false hnot)
        exact hopposite.2.2.2.symm
      · cases hnot

/-- Requests that only cease to be active stay apart. -/
theorem Booked.ease (h : Booked t) {f : LeaveRequest → LeaveRequest}
    (hrequests : t'.requests = t.requests.map f)
    (hf : ∀ r ∈ t.requests, SameCharge r (f r) ∧ ((f r).IsActive → r.IsActive)) : Booked t' := by
  unfold Booked
  rw [hrequests, List.pairwise_map]
  refine List.Pairwise.imp_of_mem (fun {r r'} hr hr' hapart => ?_) h
  obtain ⟨hsame, hactive⟩ := hf r hr
  obtain ⟨hsame', hactive'⟩ := hf r' hr'
  intro he ha ha' date
  rw [hsame.span, hsame'.span]
  exact hapart (hsame.employee.symm.trans (he.trans hsame'.employee)) (hactive ha) (hactive' ha')
    date

theorem Booked.of_requests (h : Booked t) (hrequests : t'.requests = t.requests) : Booked t' := by
  unfold Booked
  rwa [hrequests]

/-- **Every move keeps it.** -/
theorem Booked.move (h : Booked t) (hmove : Move m partially t t') : Booked t' := by
  cases hmove with
  | recompute hok =>
    obtain ⟨row, -, -, -, hrow⟩ := getOrCreateLeaveBalance_eq_ok hok
    exact h.of_requests hrow.requests
  | @insert e l span reason hdates _ =>
    obtain ⟨redemptions, hframe⟩ := insertRequest_frame (m := m) e l span reason t
    rw [hframe]
    refine List.pairwise_append.mpr ⟨h, List.pairwise_singleton _ _, fun r hr r' hr' => ?_⟩
    rw [List.mem_singleton.mp hr']
    exact apart_of_checkDates hdates hr rfl rfl
  | @decide _ subject decision reason hpending hok =>
    obtain ⟨t'', hok', hset⟩ := leaveHandler_eq_ok m subject decision reason t
    obtain rfl := Except.ok.inj (hok.symm.trans hok')
    obtain ⟨-, -, -, f, hrequests, hf⟩ := hset.eases (fun r hr hsubject =>
      Or.inl (Or.inl (hpending r hr (of_decide_eq_true hsubject))))
    exact h.ease hrequests hf
  | @withdraw request _ _ =>
    obtain ⟨redemptions, hframe⟩ := syncRequest_frame m
      (t.updateRequest request.id (fun r => { r with status := .withdrawn })) request .withdrawn
    rw [hframe]
    refine h.ease (f := fun r => if r.id = request.id then { r with status := .withdrawn } else r)
      (List.map_congr_left (fun r _ => by simp)) (fun r _ => ?_)
    split
    · exact ⟨⟨rfl, rfl, rfl, rfl, rfl⟩, fun hactive => by simp [LeaveRequest.IsActive] at hactive⟩
    · exact ⟨.refl r, id⟩
  | laterDay _ => exact h

/-- **Two halves make a day.** -/
theorem Booked.bookedFraction_le (h : Booked t) (employee : EmployeeId) (date : Date) :
    bookedFraction t employee date ≤ 1 := by
  let booked := t.requests.filter (fun r => r.employee = employee ∧ r.IsActive)
  have hbooked : ∀ r ∈ booked, r.employee = employee ∧ r.IsActive := fun r hr =>
    of_decide_eq_true (List.mem_filter.mp hr).2
  have hdisjoint : booked.Pairwise
      (fun r r' => Disjoint (r.span.halvesOn date) (r'.span.halvesOn date)) := by
    refine List.Pairwise.imp_of_mem (fun {r r'} hr hr' hapart => ?_) (h.filter _)
    obtain ⟨he, hactive⟩ := hbooked r hr
    obtain ⟨he', hactive'⟩ := hbooked r' hr'
    exact hapart (he.trans he'.symm) hactive hactive' date
  have hcard := sum_card_le_of_pairwise_disjoint hdisjoint
    (fun r _ => halvesOn_subset r.span date)
  calc bookedFraction t employee date
      ≤ (booked.map (fun r => ((r.span.halvesOn date).card : ℚ) / 2)).sum :=
        List.sum_le_sum (fun r _ => requestDayFraction_le r.span date)
    _ = ((booked.map (fun r => (r.span.halvesOn date).card)).sum : ℕ) / 2 := by
        simp only [div_eq_mul_inv]
        rw [List.sum_map_mul_right, Nat.cast_list_sum, List.map_map]
        rfl
    _ ≤ (halves.card : ℕ) / 2 := by gcongr
    _ = 1 := by norm_num [show halves.card = 2 from rfl]

end

/-- **No date is booked for more than a day**, in every run from tables without
requests. -/
theorem notDoubleBooked (m : Masters) (stages : StageTable) (tables : LeaveTables)
    (htables : tables.requests = []) (ops : List Op) :
    NotDoubleBooked (reached m stages tables ops).subjects := by
  have hbooked : Booked (reached m stages tables ops).subjects := by
    refine invariant_of_moves (fun _ op hst => step_moves hst op)
      (fun _ _ h hmove => h.move hmove) htables ?_ ops
    rw [Booked, htables]
    exact List.Pairwise.nil
  exact hbooked.bookedFraction_le

/-- The cap of `_get_leave_fraction` is never reached. -/
theorem getLeaveFraction_eq {t : LeaveTables} (h : NotDoubleBooked t) (employee : EmployeeId)
    (date : Date) :
    getLeaveFraction t employee date
      = ((t.requests.filter (fun r => r.employee = employee ∧ r.status = .approved
        ∧ r.startDate ≤ date ∧ date ≤ r.endDate)).map (fun r => r.fractionOn date)).sum := by
  refine min_eq_left (le_trans ?_ (h employee date))
  rw [bookedFraction, sum_map_filter, sum_map_filter]
  refine List.sum_le_sum (fun r _ => ?_)
  have hpos := requestDayFraction_nonneg r.span date
  by_cases happroved : r.employee = employee ∧ r.status = .approved
    ∧ r.startDate ≤ date ∧ date ≤ r.endDate
  · have hactive : r.employee = employee ∧ r.IsActive := ⟨happroved.1, Or.inr happroved.2.1⟩
    simp [happroved, hactive]
  · simp only [happroved, decide_false, Bool.false_eq_true, if_false]
    split
    · exact hpos
    · exact le_rfl

/-! ## Two halves of a day -/

namespace Sample

/-- Employee 1 asks for a half day. -/
def askHalf (date : Date) (session : DaySession) : Op :=
  .createLeaveRequest
    { user := Approvals.Sample.user, dir := Approvals.Sample.directory 0, workflow := some 1 } 1 0
    { startDate := date, endDate := date, startSession := session, endSession := session } ""

/-- Both halves of a day, one of them a second time, and the whole day. -/
def halfDays : List Op :=
  [askHalf ⟨2026, 12, 7, isDate_2026_12_07⟩ .firstHalf, approve 1,
    askHalf ⟨2026, 12, 7, isDate_2026_12_07⟩ .secondHalf,
    askHalf ⟨2026, 12, 7, isDate_2026_12_07⟩ .firstHalf,
    ask ⟨2026, 12, 7, isDate_2026_12_07⟩ ⟨2026, 12, 7, isDate_2026_12_07⟩]

end Sample

theorem notDoubleBooked_sample :
    NotDoubleBooked (reached Sample.masters Sample.stages Sample.tables Sample.halfDays).subjects :=
  notDoubleBooked Sample.masters Sample.stages Sample.tables rfl Sample.halfDays

example : bookedFraction (reached Sample.masters Sample.stages Sample.tables
    Sample.halfDays).subjects 1 ⟨2026, 12, 7, by decide⟩ = 1 := by
  decide +kernel

end TimeOff
