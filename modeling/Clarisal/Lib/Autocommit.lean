import Mathlib.Data.List.Basic

/-!
# Statements that are committed one by one

Outside a transaction a call is a list of statements. Each is committed by itself or fails, and
a failure ends the call: what was written before it stays. `Autocommit.execute` is what the call
leaves, `Autocommit.moments` the states that others may see on the way.

What every statement keeps holds at every moment (`moments_invariant`), and what every statement
does to a state, all of them do (`pairwise_moments`). Statements that read and write one part of
the state, with the rest of it at hand, are executed on that part alone (`execute_onPart`).
-/

variable {σ τ γ ε : Type*}

namespace Autocommit

/-- **What statements leave**: the error that ended them, if any, and the state. -/
def execute : List (σ → Except ε σ) → σ → Option ε × σ
  | [], s => (none, s)
  | f :: fs, s =>
    match f s with
    | .error e => (some e, s)
    | .ok s' => execute fs s'

/-- The states after the statements that were committed. -/
def moments : List (σ → Except ε σ) → σ → List σ
  | [], _ => []
  | f :: fs, s =>
    match f s with
    | .error _ => []
    | .ok s' => s' :: moments fs s'

variable {fs gs : List (σ → Except ε σ)} {f : σ → Except ε σ} {s s' : σ} {e : ε}

@[simp] theorem execute_nil : execute ([] : List (σ → Except ε σ)) s = (none, s) := rfl

theorem execute_cons_ok (h : f s = .ok s') : execute (f :: fs) s = execute fs s' := by
  rw [execute, h]

theorem execute_cons_error (h : f s = .error e) : execute (f :: fs) s = (some e, s) := by
  rw [execute, h]

/-- Statements go on where others have ended well. -/
theorem execute_append_ok (h : execute fs s = (none, s')) :
    execute (fs ++ gs) s = execute gs s' := by
  induction fs generalizing s with
  | nil =>
    obtain rfl := congrArg Prod.snd h
    rfl
  | cons f fs ih =>
    rw [List.cons_append]
    cases hf : f s with
    | error e =>
      rw [execute_cons_error hf] at h
      cases h
    | ok s₁ =>
      rw [execute_cons_ok hf] at h ⊢
      exact ih h

/-- An error ends what follows as well. -/
theorem execute_append_error (h : execute fs s = (some e, s')) :
    execute (fs ++ gs) s = (some e, s') := by
  induction fs generalizing s with
  | nil => cases h
  | cons f fs ih =>
    rw [List.cons_append]
    cases hf : f s with
    | error e' => rwa [execute_cons_error hf] at h ⊢
    | ok s₁ =>
      rw [execute_cons_ok hf] at h ⊢
      exact ih h

theorem execute_cons_eq_none_iff :
    execute (f :: fs) s = (none, s') ↔ ∃ s₁, f s = .ok s₁ ∧ execute fs s₁ = (none, s') := by
  cases hf : f s with
  | error e =>
    rw [execute_cons_error hf]
    simp
  | ok s₁ =>
    rw [execute_cons_ok hf]
    simp

theorem execute_append_eq_none_iff :
    execute (fs ++ gs) s = (none, s')
      ↔ ∃ s₁, execute fs s = (none, s₁) ∧ execute gs s₁ = (none, s') := by
  rcases hfs : execute fs s with ⟨_ | e, s₁⟩
  · rw [execute_append_ok hfs]
    simp
  · rw [execute_append_error hfs]
    simp

/-- **A last statement**: it is executed after the others, or nothing is done by it. -/
theorem execute_concat_cases (fs : List (σ → Except ε σ)) (f : σ → Except ε σ) (s : σ) :
    (execute (fs ++ [f]) s).2 = (execute fs s).2
      ∨ ∃ s₁ s₂, execute fs s = (none, s₁) ∧ f s₁ = .ok s₂
        ∧ execute (fs ++ [f]) s = (none, s₂) := by
  rcases hfs : execute fs s with ⟨_ | e, s₁⟩
  · rw [execute_append_ok hfs]
    cases hf : f s₁ with
    | error e =>
      rw [execute_cons_error hf]
      exact Or.inl rfl
    | ok s₂ =>
      rw [execute_cons_ok hf]
      exact Or.inr ⟨s₁, s₂, rfl, hf, rfl⟩
  · rw [execute_append_error hfs]
    exact Or.inl rfl

/-- Statements that are committed together, all or none. -/
theorem foldlM_eq_ok_iff :
    fs.foldlM (fun s f => f s) s = .ok s' ↔ execute fs s = (none, s') := by
  induction fs generalizing s with
  | nil =>
    show Except.ok s = Except.ok s' ↔ (none, s) = (none, s')
    simp
  | cons f fs ih =>
    rw [List.foldlM_cons, execute_cons_eq_none_iff]
    cases f s with
    | error e =>
      show Except.error e = Except.ok s' ↔ _
      simp
    | ok s₁ =>
      show fs.foldlM (fun s f => f s) s₁ = .ok s' ↔ _
      rw [ih]
      simp

/-- The state that is left is the last one of the moments. -/
theorem execute_eq_or_mem (fs : List (σ → Except ε σ)) (s : σ) :
    (execute fs s).2 = s ∨ (execute fs s).2 ∈ moments fs s := by
  induction fs generalizing s with
  | nil => exact Or.inl rfl
  | cons f fs ih =>
    rw [execute, moments]
    cases f s with
    | error e => exact Or.inl rfl
    | ok s' =>
      refine Or.inr (?_ : (execute fs s').2 ∈ s' :: moments fs s')
      rcases ih s' with heq | hmem
      · rw [heq]
        exact List.mem_cons_self
      · exact List.mem_cons_of_mem _ hmem

/-! ## What holds at every moment -/

/-- **What every statement keeps** holds at every moment. -/
theorem moments_invariant {I : σ → Prop} (hstep : ∀ f ∈ fs, ∀ s s', I s → f s = .ok s' → I s')
    (hs : I s) {m : σ} (hm : m ∈ moments fs s) : I m := by
  induction fs generalizing s with
  | nil => cases hm
  | cons f fs ih =>
    cases hf : f s with
    | error e =>
      rw [moments, hf] at hm
      cases hm
    | ok s' =>
      have hs' := hstep f List.mem_cons_self s s' hs hf
      rw [moments, hf] at hm
      rcases List.mem_cons.mp hm with rfl | hm
      · exact hs'
      · exact ih (fun g hg => hstep g (List.mem_cons_of_mem _ hg)) hs' hm

theorem execute_invariant {I : σ → Prop} (hstep : ∀ f ∈ fs, ∀ s s', I s → f s = .ok s' → I s')
    (hs : I s) : I (execute fs s).2 := by
  rcases execute_eq_or_mem fs s with heq | hmem
  · rwa [heq]
  · exact moments_invariant hstep hs hmem

/-- **How a later moment is related to an earlier one.** -/
theorem pairwise_moments {R : σ → σ → Prop} (htrans : ∀ a b c, R a b → R b c → R a c)
    (hstep : ∀ f ∈ fs, ∀ s s', f s = .ok s' → R s s') :
    (s :: moments fs s).Pairwise R := by
  induction fs generalizing s with
  | nil => exact List.pairwise_singleton R s
  | cons f fs ih =>
    rw [moments]
    cases hf : f s with
    | error e => exact List.pairwise_singleton R s
    | ok s' =>
      have hrest := ih (s := s') fun g hg => hstep g (List.mem_cons_of_mem _ hg)
      have hfirst := hstep f List.mem_cons_self s s' hf
      refine List.pairwise_cons.mpr ⟨fun m hm => ?_, hrest⟩
      rcases List.mem_cons.mp hm with rfl | hm
      · exact hfirst
      · exact htrans s s' m hfirst (List.rel_of_pairwise_cons hrest hm)

/-- How what is left is related to every moment. -/
theorem related_execute {R : σ → σ → Prop} (hrefl : ∀ a, R a a)
    (htrans : ∀ a b c, R a b → R b c → R a c) (hstep : ∀ f ∈ fs, ∀ s s', f s = .ok s' → R s s')
    {m : σ} (hm : m ∈ s :: moments fs s) : R m (execute fs s).2 := by
  induction fs generalizing s m with
  | nil =>
    rw [List.mem_singleton.mp hm]
    exact hrefl s
  | cons f fs ih =>
    rw [moments] at hm
    rw [execute]
    cases hf : f s with
    | error e =>
      rw [hf] at hm
      rw [List.mem_singleton.mp hm]
      exact hrefl s
    | ok s' =>
      rw [hf] at hm
      have hrest {m : σ} (hm : m ∈ s' :: moments fs s') : R m (execute fs s').2 :=
        ih (fun g hg => hstep g (List.mem_cons_of_mem _ hg)) hm
      rcases List.mem_cons.mp hm with rfl | hm
      · exact htrans m s' _ (hstep f List.mem_cons_self m s' hf) (hrest List.mem_cons_self)
      · exact hrest hm

/-! ## A part of the state -/

section

variable {rest : σ → γ} {get : σ → τ} {set : σ → τ → σ}

/-- A statement on a part of the state, which reads the rest. -/
def onPart (rest : σ → γ) (get : σ → τ) (set : σ → τ → σ) (part : γ → τ → Except ε τ) (s : σ) :
    Except ε σ :=
  (part (rest s) (get s)).map (set s)

/-- The part can be written, and the rest is not touched by it. -/
structure IsPart (rest : σ → γ) (get : σ → τ) (set : σ → τ → σ) : Prop where
  rest_set : ∀ s x, rest (set s x) = rest s
  get_set : ∀ s x, get (set s x) = x
  set_set : ∀ s x y, set (set s x) y = set s y
  set_get : ∀ s, set s (get s) = s

theorem onPart_eq_ok_iff {part : γ → τ → Except ε τ} :
    onPart rest get set part s = .ok s' ↔ ∃ x, part (rest s) (get s) = .ok x ∧ set s x = s' := by
  unfold onPart
  cases part (rest s) (get s) <;> simp [Except.map]

/-- **Statements on a part** are executed on it alone. -/
theorem execute_onPart (h : IsPart rest get set) (parts : List (γ → τ → Except ε τ)) (s : σ) :
    execute (parts.map (onPart rest get set)) s
      = ((execute (parts.map (· (rest s))) (get s)).1,
        set s (execute (parts.map (· (rest s))) (get s)).2) := by
  induction parts generalizing s with
  | nil => rw [List.map_nil, List.map_nil, execute_nil, execute_nil, h.set_get]
  | cons part parts ih =>
    rw [List.map_cons, List.map_cons]
    cases hpart : part (rest s) (get s) with
    | error e =>
      have hs : onPart rest get set part s = .error e := by
        rw [onPart, hpart]
        rfl
      rw [execute_cons_error hs, execute_cons_error hpart, h.set_get]
    | ok x =>
      rw [execute_cons_ok (onPart_eq_ok_iff.mpr ⟨x, hpart, rfl⟩), execute_cons_ok hpart, ih,
        h.rest_set, h.get_set, h.set_set]

end

end Autocommit
