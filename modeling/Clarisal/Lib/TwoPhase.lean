import Clarisal.Lib.Run

/-!
# Requests that read first and write later

A request of two phases reads the state and checks what it read, and later
writes in one transaction, from what it read then. Between the two phases
other requests may do both. A `Protocol` gives the two phases, and requests
of one phase besides; its states are the shared state and the requests in
flight, each with what it read.

The rule for these systems is `Protocol.safe_of_along`: an invariant of the
shared state, a promise each reader takes away from it, and a relation that
no write breaks and that keeps every promise.
-/

/-- **A protocol of two-phase requests**: `α` are the requests, `ρ` what a
request holds between its phases, `ε` the environment of a write and `β` the
requests that do both at once. -/
structure Protocol (σ α ρ ε β : Type) where
  read : σ → α → Option ρ
  write : σ → ρ → ε → σ
  atomic : σ → β → σ

namespace Protocol

variable {σ α ρ ε β : Type}

/-- The shared state with the requests in flight. -/
structure State (σ ρ : Type) where
  shared : σ
  inFlight : List ρ

inductive Event (α ε β : Type)
  | begin (request : α)
  | commit (i : ℕ) (env : ε)
  | atomic (request : β)

/-- A request starts, the `i`-th in flight writes, or one does both. -/
def step (p : Protocol σ α ρ ε β) (st : State σ ρ) : Event α ε β → State σ ρ
  | .begin request =>
    match p.read st.shared request with
    | none => st
    | some r => { st with inFlight := st.inFlight ++ [r] }
  | .commit i env =>
    match st.inFlight[i]? with
    | none => st
    | some r => { shared := p.write st.shared r env, inFlight := st.inFlight.eraseIdx i }
  | .atomic request => { st with shared := p.atomic st.shared request }

/-- The condition on a write, put on the event that commits it. -/
def WriteGuard (guard : σ → ρ → ε → Prop) (st : State σ ρ) : Event α ε β → Prop
  | .begin _ => True
  | .commit i env => ∀ r ∈ st.inFlight[i]?, guard st.shared r env
  | .atomic _ => True

instance (guard : σ → ρ → ε → Prop) [∀ s r e, Decidable (guard s r e)] (st : State σ ρ)
    (event : Event α ε β) : Decidable (WriteGuard guard st event) :=
  match event with
  | .begin _ => inferInstanceAs (Decidable True)
  | .commit i env =>
    inferInstanceAs (Decidable (∀ r ∈ st.inFlight[i]?, guard st.shared r env))
  | .atomic _ => inferInstanceAs (Decidable True)

variable {p : Protocol σ α ρ ε β} {G : σ → ρ → ε → Prop} {I : σ → Prop}
  {J : σ → ρ → Prop} {R : σ → σ → Prop}

/-- **The rule of two-phase requests.** `I` holds of the shared state, `J` is
what a reader may still rely on when it writes, and `R` relates the shared
state to every later one. -/
theorem safe_of_along (hrefl : ∀ s, R s s) (htrans : ∀ s t u, R s t → R t u → R s u)
    (hread : ∀ s a r, I s → p.read s a = some r → J s r)
    (hkeep : ∀ s s' r, R s s' → J s r → J s' r)
    (hwrite : ∀ s r e, I s → J s r → G s r e → I (p.write s r e) ∧ R s (p.write s r e))
    (hatomic : ∀ s b, I s → I (p.atomic s b) ∧ R s (p.atomic s b))
    {st : State σ ρ} (hI : I st.shared) (hJ : ∀ r ∈ st.inFlight, J st.shared r)
    {events : List (Event α ε β)} (h : Run.Along p.step (WriteGuard G) st events) :
    (I (Run.exec p.step st events).shared
        ∧ ∀ r ∈ (Run.exec p.step st events).inFlight, J (Run.exec p.step st events).shared r)
      ∧ R st.shared (Run.exec p.step st events).shared := by
  let Good : State σ ρ → Prop := fun st => I st.shared ∧ ∀ r ∈ st.inFlight, J st.shared r
  have hstep : ∀ st event, Good st → WriteGuard G st event →
      Good (p.step st event) ∧ R st.shared (p.step st event).shared := by
    rintro st event ⟨hI, hJ⟩ hguard
    cases event with
    | begin request =>
      rw [step]
      split
      · exact ⟨⟨hI, hJ⟩, hrefl _⟩
      · next r hr =>
        refine ⟨⟨hI, fun r' hr' => ?_⟩, hrefl _⟩
        rcases List.mem_append.mp hr' with hr' | hr'
        · exact hJ r' hr'
        · rw [List.mem_singleton.mp hr']
          exact hread _ _ _ hI hr
    | commit i env =>
      rw [step]
      split
      · exact ⟨⟨hI, hJ⟩, hrefl _⟩
      · next r hr =>
        obtain ⟨hI', hR⟩ := hwrite _ r env hI (hJ r (List.mem_of_getElem? hr)) (hguard r hr)
        exact ⟨⟨hI', fun r' hr' => hkeep _ _ r' hR (hJ r' (List.mem_of_mem_eraseIdx hr'))⟩, hR⟩
    | atomic request =>
      obtain ⟨hI', hR⟩ := hatomic _ request hI
      exact ⟨⟨hI', fun r hr => hkeep _ _ r hR (hJ r hr)⟩, hR⟩
  exact ⟨Run.invariant_of_along (I := Good) (fun st e hg hw => (hstep st e hg hw).1) ⟨hI, hJ⟩ h,
    Run.related_of_along (I := Good) (R := fun a b => R a.shared b.shared)
      (fun _ => hrefl _) (fun _ _ _ => htrans _ _ _) hstep ⟨hI, hJ⟩ h⟩

end Protocol
