import Mathlib.Data.List.Basic

/-!
# Sweeps

A sweep selects rows first and then goes through them one by one, while other sweeps and
everything else go on. What it was started with, its job, stays the same; the rows that
it has not met yet get fewer.

`Sweeps.next?` is what the `i`-th sweep meets next and `Sweeps.advance` lets it go on. Whatever
waits for a sweep is what it meets next or goes on waiting (`Sweeps.waits_advance`), so
what waited for a sweep has been met when nothing waits any more.
-/

variable {κ ι : Type*}

/-- A sweep with the rows it has not met yet. -/
structure Sweep (κ ι : Type*) where
  job : κ
  pending : List ι
deriving DecidableEq, Repr

namespace Sweeps

/-- What the `i`-th sweep meets next. -/
def next? (i : ℕ) (sweeps : List (Sweep κ ι)) : Option (κ × ι) :=
  sweeps[i]?.bind fun s => s.pending.head?.map fun id => (s.job, id)

/-- **The `i`-th sweep goes on**, or ends when there is nothing left. -/
def advance (i : ℕ) (sweeps : List (Sweep κ ι)) : List (Sweep κ ι) :=
  match sweeps[i]? with
  | none => sweeps
  | some s =>
    match s.pending with
    | [] => sweeps.eraseIdx i
    | _ :: rest => sweeps.set i { s with pending := rest }

/-- A sweep is about to meet a row. -/
def Waits (sweeps : List (Sweep κ ι)) (job : κ) (id : ι) : Prop :=
  ∃ s ∈ sweeps, s.job = job ∧ id ∈ s.pending

variable {i : ℕ} {sweeps : List (Sweep κ ι)} {s : Sweep κ ι} {job : κ} {id : ι}

theorem waits_of_next? (h : next? i sweeps = some (job, id)) : Waits sweeps job id := by
  obtain ⟨s, hs, hhead⟩ := Option.bind_eq_some_iff.mp h
  obtain ⟨id', hid, hpair⟩ := Option.map_eq_some_iff.mp hhead
  obtain ⟨rfl, rfl⟩ := Prod.mk.inj hpair
  exact ⟨s, List.mem_of_getElem? hs, rfl, List.mem_of_mem_head? hid⟩

/-- A sweep that goes on has met some of its rows. -/
theorem mem_advance (h : s ∈ advance i sweeps) :
    ∃ s' ∈ sweeps, s'.job = s.job ∧ s.pending ⊆ s'.pending := by
  unfold advance at h
  split at h
  · exact ⟨s, h, rfl, List.Subset.refl _⟩
  next found hfound =>
  split at h
  · exact ⟨s, List.mem_of_mem_eraseIdx h, rfl, List.Subset.refl _⟩
  next first rest hpending =>
  rcases List.mem_or_eq_of_mem_set h with h | rfl
  · exact ⟨s, h, rfl, List.Subset.refl _⟩
  · exact ⟨found, List.mem_of_getElem? hfound, rfl, hpending ▸ List.subset_cons_self _ _⟩

theorem waits_of_advance (h : Waits (advance i sweeps) job id) : Waits sweeps job id := by
  obtain ⟨s, hs, rfl, hid⟩ := h
  obtain ⟨s', hs', hjob, hsub⟩ := mem_advance hs
  exact ⟨s', hs', hjob, hsub hid⟩

/-- **A row that waits is met next, or goes on waiting** for the same sweep. -/
theorem met_or_mem_advance (i : ℕ) (hs : s ∈ sweeps) (hid : id ∈ s.pending) :
    next? i sweeps = some (s.job, id)
      ∨ ∃ s' ∈ advance i sweeps, s'.job = s.job ∧ s'.pending ⊆ s.pending ∧ id ∈ s'.pending := by
  obtain ⟨j, hj⟩ := List.mem_iff_getElem?.mp hs
  unfold advance
  split
  · exact Or.inr ⟨s, hs, rfl, List.Subset.refl _, hid⟩
  next found hfound =>
  by_cases hij : i = j
  · subst hij
    obtain rfl := Option.some.inj (hj.symm.trans hfound)
    split
    · next hpending =>
      rw [hpending] at hid
      cases hid
    · next first rest hpending =>
      by_cases hfirst : id = first
      · refine Or.inl ?_
        rw [next?, hj, Option.bind_some, hpending, hfirst]
        rfl
      · refine Or.inr ⟨{ s with pending := rest },
          List.mem_set (List.getElem?_eq_some_iff.mp hj).1 _, rfl,
          hpending ▸ List.subset_cons_self _ _, ?_⟩
        rw [hpending] at hid
        exact (List.mem_cons.mp hid).resolve_left hfirst
  · refine Or.inr ⟨s, ?_, rfl, List.Subset.refl _, hid⟩
    split
    · exact List.mem_eraseIdx_iff_getElem?.mpr ⟨j, Ne.symm hij, hj⟩
    · exact List.mem_iff_getElem?.mpr ⟨j, by rw [List.getElem?_set_ne hij, hj]⟩

/-- **What waits is met, or waits.** -/
theorem waits_advance (h : Waits sweeps job id) (hnot : next? i sweeps ≠ some (job, id)) :
    Waits (advance i sweeps) job id := by
  obtain ⟨s, hs, rfl, hid⟩ := h
  obtain ⟨s', hs', hjob, -, hid'⟩ := (met_or_mem_advance i hs hid).resolve_left hnot
  exact ⟨s', hs', hjob, hid'⟩

/-! ## Sweeps that break off -/

theorem waits_of_eraseIdx (h : Waits (sweeps.eraseIdx i) job id) : Waits sweeps job id := by
  obtain ⟨s, hs, hrest⟩ := h
  exact ⟨s, List.mem_of_mem_eraseIdx hs, hrest⟩

/-- A sweep breaks off at a row, and the sweeps without the row go on. -/
theorem mem_eraseIdx_of_not_mem (h : next? i sweeps = some (job, id)) (hs : s ∈ sweeps)
    (hnot : id ∉ s.pending) : s ∈ sweeps.eraseIdx i := by
  obtain ⟨j, hj⟩ := List.mem_iff_getElem?.mp hs
  refine List.mem_eraseIdx_iff_getElem?.mpr ⟨j, ?_, hj⟩
  rintro rfl
  obtain ⟨found, hfound, hhead⟩ := Option.bind_eq_some_iff.mp h
  obtain rfl := Option.some.inj (hj.symm.trans hfound)
  obtain ⟨first, hfirst, hpair⟩ := Option.map_eq_some_iff.mp hhead
  exact hnot ((Prod.mk.inj hpair).2 ▸ List.mem_of_mem_head? hfirst)

end Sweeps
