import Mathlib.Tactic.Common

/-!
# Transactions

A transaction is a value of `Except ε σ`: the state it commits, or the error
that rolls it back. `Transaction.settle` is the state afterwards, the one
before when it failed.

Proofs take a transaction apart from its end: `bind_eq_ok_iff` splits a
sequence that committed, and `foldlM_induction` carries an invariant through a
loop that committed.
-/

variable {ε σ α β : Type}

namespace Transaction

/-- **The state after a transaction**: a failed one leaves the state. -/
def settle (s : σ) : Except ε σ → σ
  | .ok s' => s'
  | .error _ => s

@[simp] theorem settle_ok (s s' : σ) : settle s (.ok s' : Except ε σ) = s' := rfl

@[simp] theorem settle_error (s : σ) (e : ε) : settle s (.error e) = s := rfl

/-- What holds before and of every committed state holds afterwards. -/
theorem settle_induction {P : σ → Prop} {s : σ} {t : Except ε σ} (hs : P s)
    (ht : ∀ s', t = .ok s' → P s') : P (settle s t) := by
  cases t with
  | error e => exact hs
  | ok s' => exact ht s' rfl

/-- **A sequence commits when both its parts do.** -/
theorem bind_eq_ok_iff {x : Except ε α} {f : α → Except ε β} {b : β} :
    x >>= f = .ok b ↔ ∃ a, x = .ok a ∧ f a = .ok b := by
  constructor
  · intro h
    cases x with
    | error e => cases h
    | ok a => exact ⟨a, rfl, h⟩
  · rintro ⟨a, rfl, hf⟩
    exact hf

theorem pure_eq_ok_iff {a b : α} : (pure a : Except ε α) = .ok b ↔ a = b :=
  ⟨Except.ok.inj, congrArg _⟩

theorem map_eq_ok_iff {x : Except ε α} {f : α → β} {b : β} :
    f <$> x = .ok b ↔ ∃ a, x = .ok a ∧ f a = b := by
  cases x with
  | error e => simp
  | ok a => simp

/-- The results of a loop that commits. -/
theorem mem_of_mapM {f : α → Except ε β} {l : List α} {l' : List β} (h : l.mapM f = .ok l')
    {b : β} : b ∈ l' ↔ ∃ a ∈ l, f a = .ok b := by
  induction l generalizing l' with
  | nil =>
    obtain rfl := pure_eq_ok_iff.mp h
    simp
  | cons a l ih =>
    rw [List.mapM_cons] at h
    obtain ⟨b', hb', h⟩ := bind_eq_ok_iff.mp h
    obtain ⟨l'', hl'', h⟩ := bind_eq_ok_iff.mp h
    obtain rfl := pure_eq_ok_iff.mp h
    simp only [List.mem_cons, exists_eq_or_imp, ih hl'', hb', Except.ok.injEq]
    exact or_congr_left eq_comm

/-- What is read off the results of a loop is read off its elements. -/
theorem map_eq_of_mapM {γ : Type} {f : α → Except ε β} {g : β → γ} {g' : α → γ}
    (hg : ∀ a b, f a = .ok b → g b = g' a) {l : List α} {l' : List β} (h : l.mapM f = .ok l') :
    l'.map g = l.map g' := by
  induction l generalizing l' with
  | nil =>
    obtain rfl := pure_eq_ok_iff.mp h
    rfl
  | cons a l ih =>
    rw [List.mapM_cons] at h
    obtain ⟨b, hb, h⟩ := bind_eq_ok_iff.mp h
    obtain ⟨l'', hl'', h⟩ := bind_eq_ok_iff.mp h
    obtain rfl := pure_eq_ok_iff.mp h
    rw [List.map_cons, List.map_cons, hg a b hb, ih hl'']

/-- A loop commits when each of its rounds does. -/
theorem exists_mapM_eq_ok_iff {f : α → Except ε β} {l : List α} :
    (∃ l', l.mapM f = .ok l') ↔ ∀ a ∈ l, ∃ b, f a = .ok b := by
  induction l with
  | nil => exact ⟨fun _ a ha => absurd ha List.not_mem_nil, fun _ => ⟨[], rfl⟩⟩
  | cons a l ih =>
    rw [List.forall_mem_cons, ← ih]
    constructor
    · rintro ⟨l', h⟩
      rw [List.mapM_cons] at h
      obtain ⟨b, hb, h⟩ := bind_eq_ok_iff.mp h
      obtain ⟨l'', hl'', -⟩ := bind_eq_ok_iff.mp h
      exact ⟨⟨b, hb⟩, l'', hl''⟩
    · rintro ⟨⟨b, hb⟩, l', hl'⟩
      refine ⟨b :: l', ?_⟩
      rw [List.mapM_cons, hb, hl']
      rfl

/-- **A loop that commits keeps what each round keeps.** -/
theorem foldlM_induction {f : σ → α → Except ε σ} {P : σ → Prop}
    (hstep : ∀ s a s', P s → f s a = .ok s' → P s') {l : List α} {s s' : σ}
    (hs : P s) (h : l.foldlM f s = .ok s') : P s' := by
  induction l generalizing s with
  | nil =>
    cases h
    exact hs
  | cons a l ih =>
    rw [List.foldlM_cons, bind_eq_ok_iff] at h
    obtain ⟨t, ht, h⟩ := h
    exact ih (hstep s a t hs ht) h

/-- The same of a loop whose rounds keep it for the elements of the list. -/
theorem foldlM_induction_of_mem {f : σ → α → Except ε σ} {P : σ → Prop} {l : List α}
    (hstep : ∀ s, ∀ a ∈ l, ∀ s', P s → f s a = .ok s' → P s') {s s' : σ}
    (hs : P s) (h : l.foldlM f s = .ok s') : P s' := by
  induction l generalizing s with
  | nil =>
    cases h
    exact hs
  | cons a l ih =>
    rw [List.foldlM_cons, bind_eq_ok_iff] at h
    obtain ⟨t, ht, h⟩ := h
    exact ih (fun s b hb => hstep s b (List.mem_cons_of_mem _ hb))
      (hstep s a List.mem_cons_self t hs ht) h

end Transaction
