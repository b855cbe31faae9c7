import Mathlib.Data.List.Basic

/-!
# Replacing rows without a transaction

The rows of an owner are deleted and new ones written one by one. A write may change a
state that is shared, and it may fail: the loop stops there, and nothing is taken back.
What stands afterwards is told by how far the loop came. The owner's rows are gone, and
those written before the failure are there (`Rows.replace_of_error`).

A new row has a new identifier. So a replacement that failed has changed nothing exactly
when there was no row to delete and the first write failed, leaving the shared state alone
(`Rows.replace_unchanged_iff`).

A loop that only looks things up may write the shared state as well. When no write changes
what another lookup finds, it finds what could be read off the state at once
(`Untransacted.collect_eq_mapM`).
-/

variable {α β σ ε γ : Type*}

/-- **Rows with identifiers from a counter.** -/
structure Rows (β : Type*) where
  rows : List (ℕ × β)
  next : ℕ
  fresh : ∀ r ∈ rows, r.1 < next

namespace Rows

/-- A new row. -/
def insert (t : Rows β) (b : β) : Rows β where
  rows := t.rows ++ [(t.next, b)]
  next := t.next + 1
  fresh := by
    intro r hr
    rcases List.mem_append.mp hr with hr | hr
    · exact Nat.lt_succ_of_lt (t.fresh r hr)
    · rw [List.mem_singleton.mp hr]
      exact Nat.lt_succ_self _

/-- The rows without those of an owner. -/
def delete (owned : β → Bool) (t : Rows β) : Rows β where
  rows := t.rows.filter (fun r => !owned r.2)
  next := t.next
  fresh := fun r hr => t.fresh r (List.mem_of_mem_filter hr)

def insertAll (t : Rows β) (bs : List β) : Rows β := bs.foldl insert t

/-- **The loop**: each element is written with the shared state, up to the first error. -/
def recreate (write : α → σ → Except ε β × σ) : List α → σ → Rows β → Option ε × σ × Rows β
  | [], s, t => (none, s, t)
  | a :: as, s, t =>
    match write a s with
    | (.error e, s) => (some e, s, t)
    | (.ok b, s) => recreate write as s (t.insert b)

/-- **Delete and recreate**: the owner's rows are gone before the first is written. -/
def replace (write : α → σ → Except ε β × σ) (owned : β → Bool) (as : List α) (s : σ)
    (t : Rows β) : Option ε × σ × Rows β :=
  recreate write as s (t.delete owned)

section

variable {write : α → σ → Except ε β × σ} {owned : β → Bool} {a : α} {as : List α} {s : σ}
  {t : Rows β} {e : ε}

/-- Inserted rows stand behind the others, and have new identifiers. -/
theorem rows_insertAll (t : Rows β) (bs : List β) : ∃ new : List (ℕ × β),
    (t.insertAll bs).rows = t.rows ++ new ∧ new.map Prod.snd = bs ∧ ∀ r ∈ new, t.next ≤ r.1 := by
  induction bs generalizing t with
  | nil => exact ⟨[], (List.append_nil _).symm, rfl, fun r hr => absurd hr List.not_mem_nil⟩
  | cons b bs ih =>
    obtain ⟨new, hrows, hnew, hnext⟩ := ih (t.insert b)
    refine ⟨(t.next, b) :: new, ?_, by rw [List.map_cons, hnew], ?_⟩
    · show ((t.insert b).insertAll bs).rows = _
      rw [hrows]
      exact List.append_assoc t.rows [(t.next, b)] new
    · intro r hr
      rcases List.mem_cons.mp hr with rfl | hr
      · exact Nat.le_refl _
      · exact Nat.le_trans (Nat.le_succ _) (hnext r hr)

/-- **How far the loop came.** -/
theorem recreate_of_error (h : (recreate write as s t).1 = some e) :
    ∃ before a after bs s₁ s₂, as = before ++ a :: after
      ∧ recreate write before s t = (none, s₁, t.insertAll bs) ∧ bs.length = before.length
      ∧ write a s₁ = (.error e, s₂)
      ∧ recreate write as s t = (some e, s₂, t.insertAll bs) := by
  induction as generalizing s t with
  | nil => cases h
  | cons a as ih =>
    cases hwrite : write a s with
    | mk result s' =>
      cases result with
      | error e' =>
        have hstop : recreate write (a :: as) s t = (some e', s', t) := by
          rw [recreate, hwrite]
        rw [hstop] at h ⊢
        obtain rfl := Option.some.inj h
        exact ⟨[], a, as, [], s, s', rfl, rfl, rfl, hwrite, rfl⟩
      | ok b =>
        have hnext : ∀ as', recreate write (a :: as') s t = recreate write as' s' (t.insert b) := by
          intro as'
          rw [recreate, hwrite]
        rw [hnext] at h ⊢
        obtain ⟨before, a', after, bs, s₁, s₂, rfl, hbefore, hlength, herror, hresult⟩ := ih h
        refine ⟨a :: before, a', after, b :: bs, s₁, s₂, rfl, ?_, ?_, herror, hresult⟩
        · rw [hnext, hbefore]
          rfl
        · rw [List.length_cons, List.length_cons, hlength]

/-- **What a failed replacement leaves**: the rows of others, and those written before the
failure. -/
theorem replace_of_error (h : (replace write owned as s t).1 = some e) :
    ∃ before a after s₁ s₂ new, as = before ++ a :: after ∧ new.length = before.length
      ∧ (before = [] → s₁ = s) ∧ write a s₁ = (.error e, s₂)
      ∧ (replace write owned as s t).2.1 = s₂
      ∧ (replace write owned as s t).2.2.rows = t.rows.filter (fun r => !owned r.2) ++ new
      ∧ ∀ r ∈ new, t.next ≤ r.1 := by
  obtain ⟨before, a, after, bs, s₁, s₂, has, hbefore, hlength, herror, hresult⟩ :=
    recreate_of_error h
  obtain ⟨new, hrows, hnew, hnext⟩ := rows_insertAll (t.delete owned) bs
  refine ⟨before, a, after, s₁, s₂, new, has, ?_, ?_, herror, ?_, ?_, hnext⟩
  · rw [← hlength, ← hnew, List.length_map]
  · rintro rfl
    exact (congrArg (fun r => r.2.1) hbefore).symm
  · exact congrArg (fun r => r.2.1) hresult
  · exact (congrArg (fun r => r.2.2.rows) hresult).trans hrows

/-- A replacement whose first write fails only deletes. -/
theorem replace_cons_of_error {s' : σ} (h : write a s = (.error e, s')) :
    replace write owned (a :: as) s t = (some e, s', t.delete owned) := by
  rw [replace, recreate, h]

/-- **A failed replacement changes nothing** exactly when the owner had no rows and the
first write failed without a trace. -/
theorem replace_unchanged_iff (view : σ → γ) (h : (replace write owned as s t).1 = some e) :
    (view (replace write owned as s t).2.1 = view s
        ∧ (replace write owned as s t).2.2.rows = t.rows)
      ↔ (∀ r ∈ t.rows, owned r.2 = false)
        ∧ ∃ a after e s', as = a :: after ∧ write a s = (.error e, s') ∧ view s' = view s := by
  constructor
  · rintro ⟨hview, hsame⟩
    obtain ⟨before, a, after, s₁, s₂, new, rfl, hlength, hfirst, herror, hshared, hrows, hnext⟩ :=
      replace_of_error h
    rw [hrows] at hsame
    -- a new row is none of the old ones
    have hnone : new = [] := by
      refine List.eq_nil_iff_forall_not_mem.mpr (fun r hr => ?_)
      have hold : r ∈ t.rows := hsame ▸ List.mem_append_right _ hr
      exact absurd (t.fresh r hold) (Nat.not_lt.mpr (hnext r hr))
    subst hnone
    rw [List.append_nil, List.filter_eq_self] at hsame
    obtain rfl := List.length_eq_zero_iff.mp hlength.symm
    rw [hfirst rfl] at herror
    refine ⟨fun r hr => by simpa using hsame r hr, a, after, e, s₂, rfl, herror, ?_⟩
    rwa [hshared] at hview
  · rintro ⟨hnone, a, after, e', s', rfl, herror, hview⟩
    rw [replace_cons_of_error herror]
    exact ⟨hview, List.filter_eq_self.mpr (fun r hr => by simpa using hnone r hr)⟩

end

end Rows

/-! ## Looking up -/

namespace Untransacted

/-- **The results of lookups** that write the shared state, up to the first error. -/
def collect (lookup : α → σ → Except ε β × σ) : List α → σ → Except ε (List β) × σ
  | [], s => (.ok [], s)
  | a :: as, s =>
    match lookup a s with
    | (.error e, s) => (.error e, s)
    | (.ok b, s) => ((collect lookup as s).1.map (b :: ·), (collect lookup as s).2)

variable {lookup : α → σ → Except ε β × σ} {value : α → σ → Except ε β}

/-- **Lookups that do not disturb each other** find what stands in the state before them. -/
theorem collect_eq_mapM (hvalue : ∀ a s, (lookup a s).1 = value a s)
    (hkept : ∀ a a' s, value a' (lookup a s).2 = value a' s) (as : List α) (s : σ) :
    (collect lookup as s).1 = as.mapM (fun a => value a s) := by
  induction as generalizing s with
  | nil => rfl
  | cons a as ih =>
    have hrest : (collect lookup as (lookup a s).2).1 = as.mapM (fun a => value a s) := by
      rw [ih]
      exact congrArg (List.mapM · as) (funext fun a' => hkept a a' s)
    rw [collect, List.mapM_cons, ← hvalue a s, ← hrest]
    obtain ⟨outcome, s'⟩ := lookup a s
    cases outcome with
    | error e => rfl
    | ok b =>
      dsimp only
      cases (collect lookup as s').1 <;> rfl

/-- Results are found for all of a list when they are for each. -/
theorem exists_mapM_eq_ok_iff {f : α → Except ε β} {as : List α} :
    (∃ bs, as.mapM f = .ok bs) ↔ ∀ a ∈ as, ∃ b, f a = .ok b := by
  induction as with
  | nil => exact iff_of_true ⟨[], rfl⟩ (fun a ha => absurd ha List.not_mem_nil)
  | cons a as ih =>
    rw [List.forall_mem_cons, ← ih, List.mapM_cons]
    constructor
    · rintro ⟨bs, hbs⟩
      cases ha : f a with
      | error e =>
        rw [ha] at hbs
        cases hbs
      | ok b =>
        cases has : as.mapM f with
        | error e =>
          rw [ha, has] at hbs
          cases hbs
        | ok bs => exact ⟨⟨b, rfl⟩, bs, rfl⟩
    · rintro ⟨⟨b, hb⟩, bs, hbs⟩
      rw [hb, hbs]
      exact ⟨b :: bs, rfl⟩

end Untransacted
