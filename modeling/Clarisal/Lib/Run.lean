import Mathlib.Data.List.Basic
import Mathlib.Logic.Function.Basic

/-!
# Runs of a deterministic system

A system is a step function `step : σ → α → σ` from a state and an operation
to the next state: an operation that is refused leaves the state as it is, so
the step is total. A run is a list of operations, read left to right.

Two rules carry every theorem about runs. `Run.invariant` turns "one step
keeps it" into "every run keeps it". `Run.invariant_of_along` does the same
when only the operations that meet a guard, each in the state it finds, are
known to keep it.
-/

variable {σ α : Type*}

namespace Run

/-- **The state a run reaches.** -/
def exec (step : σ → α → σ) (s : σ) (ops : List α) : σ := ops.foldl step s

/-- **Every operation meets the guard in the state it finds.** -/
def Along (step : σ → α → σ) (guard : σ → α → Prop) : σ → List α → Prop
  | _, [] => True
  | s, a :: ops => guard s a ∧ Along step guard (step s a) ops

instance decidableAlong (step : σ → α → σ) (guard : σ → α → Prop)
    [∀ s a, Decidable (guard s a)] :
    ∀ (s : σ) (ops : List α), Decidable (Along step guard s ops)
  | _, [] => instDecidableTrue
  | s, a :: ops =>
    have := decidableAlong step guard (step s a) ops
    inferInstanceAs (Decidable (guard s a ∧ _))

variable {step : σ → α → σ} {G : σ → α → Prop} {I : σ → Prop}

@[simp] theorem exec_nil (s : σ) : exec step s [] = s := rfl

@[simp] theorem exec_cons (s : σ) (a : α) (ops : List α) :
    exec step s (a :: ops) = exec step (step s a) ops := rfl

theorem exec_append (s : σ) (xs ys : List α) :
    exec step s (xs ++ ys) = exec step (exec step s xs) ys :=
  List.foldl_append

/-- Operations that each leave the state leave it together. -/
theorem exec_eq_self {s : σ} {ops : List α} (h : ∀ a ∈ ops, step s a = s) :
    exec step s ops = s := by
  induction ops with
  | nil => rfl
  | cons a ops ih =>
    rw [exec_cons, h a List.mem_cons_self]
    exact ih (fun b hb => h b (List.mem_cons_of_mem _ hb))

@[simp] theorem along_nil (s : σ) : Along step G s [] := trivial

@[simp] theorem along_cons (s : σ) (a : α) (ops : List α) :
    Along step G s (a :: ops)
      ↔ G s a ∧ Along step G (step s a) ops := Iff.rfl

/-- A guarded run splits at every point. -/
theorem along_append (s : σ) (xs ys : List α) :
    Along step G s (xs ++ ys)
      ↔ Along step G s xs ∧ Along step G (exec step s xs) ys := by
  induction xs generalizing s with
  | nil => simp
  | cons a xs ih =>
    rw [List.cons_append, along_cons, along_cons, exec_cons, ih, and_assoc]

/-- A condition on the operations alone. -/
theorem along_of_forall {P : α → Prop} {s : σ} {ops : List α} (h : ∀ a ∈ ops, P a) :
    Along step (fun _ a => P a) s ops := by
  induction ops generalizing s with
  | nil => trivial
  | cons a ops ih =>
    exact ⟨h a List.mem_cons_self, ih (fun b hb => h b (List.mem_cons_of_mem _ hb))⟩

/-- A weaker guard is met along the same run. -/
theorem Along.mono {G' : σ → α → Prop} (h : ∀ s a, G s a → G' s a) :
    ∀ {s : σ} {ops : List α}, Along step G s ops → Along step G' s ops
  | _, [], _ => trivial
  | _, _ :: _, ⟨ha, hops⟩ => ⟨h _ _ ha, Along.mono h hops⟩

/-- Two guards met along the same run. -/
theorem Along.and {G' : σ → α → Prop} : ∀ {s : σ} {ops : List α},
    Along step G s ops → Along step G' s ops → Along step (fun s a => G s a ∧ G' s a) s ops
  | _, [], _, _ => trivial
  | _, _ :: _, ⟨ha, hops⟩, ⟨ha', hops'⟩ => ⟨⟨ha, ha'⟩, hops.and hops'⟩

/-- **What holds of every step from an invariant state** holds along every run
whose guarded steps keep the invariant. -/
theorem Along.of_invariant {P : σ → α → Prop} (hstep : ∀ s a, I s → G s a → I (step s a))
    (hP : ∀ s a, I s → G s a → P s a) {s : σ} (hs : I s) {ops : List α}
    (hops : Along step G s ops) : Along step P s ops := by
  induction ops generalizing s with
  | nil => trivial
  | cons a ops ih => exact ⟨hP s a hs hops.1, ih (hstep s a hs hops.1) hops.2⟩

/-- **Two guards that agree in the states of an invariant**, on the operations
of a run, are both met by the run or neither. -/
theorem along_congr_of_mem {P : σ → α → Prop} {ops : List α}
    (hstep : ∀ s, ∀ a ∈ ops, I s → G s a → I (step s a))
    (hiff : ∀ s, ∀ a ∈ ops, I s → (P s a ↔ G s a)) {s : σ} (hs : I s) :
    Along step P s ops ↔ Along step G s ops := by
  induction ops generalizing s with
  | nil => rfl
  | cons a ops ih =>
    rw [along_cons, along_cons, hiff s a List.mem_cons_self hs]
    exact and_congr_right (fun ha => ih (fun s b hb => hstep s b (List.mem_cons_of_mem _ hb))
      (fun s b hb => hiff s b (List.mem_cons_of_mem _ hb)) (hstep s a List.mem_cons_self hs ha))

/-- Two guards that agree in the states of an invariant are met by the same
runs. -/
theorem along_congr {P : σ → α → Prop} (hstep : ∀ s a, I s → G s a → I (step s a))
    (hiff : ∀ s a, I s → (P s a ↔ G s a)) {s : σ} (hs : I s) {ops : List α} :
    Along step P s ops ↔ Along step G s ops :=
  along_congr_of_mem (fun s a _ => hstep s a) (fun s a _ => hiff s a) hs

/-- **What every guarded step keeps, every guarded run keeps.** -/
theorem invariant_of_along (hstep : ∀ s a, I s → G s a → I (step s a))
    {s : σ} (hs : I s) {ops : List α} (hops : Along step G s ops) :
    I (exec step s ops) := by
  induction ops generalizing s with
  | nil => exact hs
  | cons a ops ih => exact ih (hstep s a hs hops.1) hops.2

/-- **What every step keeps, every run keeps.** -/
theorem invariant (hstep : ∀ s a, I s → I (step s a)) {s : σ} (hs : I s)
    (ops : List α) : I (exec step s ops) := by
  induction ops generalizing s with
  | nil => exact hs
  | cons a ops ih => exact ih (hstep s a hs)

/-- **A property that one guard keeps**, among the operations that meet another,
holds in every state of a run of these exactly when the run meets the guard. -/
theorem forall_take_iff_along_of_along {P : σ → Prop} {H : σ → α → Prop}
    (hstep : ∀ s a, I s → I (step s a))
    (hguard : ∀ s a, I s → H s a → P s → (P (step s a) ↔ G s a)) {s : σ} (hs : I s) (hp : P s)
    {ops : List α} (hops : Along step H s ops) :
    (∀ n, P (exec step s (ops.take n))) ↔ Along step G s ops := by
  induction ops generalizing s with
  | nil => exact ⟨fun _ => trivial, fun _ n => by rwa [List.take_nil]⟩
  | cons a ops ih =>
    constructor
    · intro h
      have hnext : P (step s a) := h 1
      exact ⟨(hguard s a hs hops.1 hp).mp hnext,
        (ih (hstep s a hs) hnext hops.2).mp (fun n => h (n + 1))⟩
    · intro h n
      have hnext : P (step s a) := (hguard s a hs hops.1 hp).mpr h.1
      cases n with
      | zero => exact hp
      | succ n => exact (ih (hstep s a hs) hnext hops.2).mpr h.2 n

/-- A property that one guard keeps, and nothing else keeps, holds in every
state of a run exactly when the run meets the guard. -/
theorem forall_take_iff_along {P : σ → Prop} (hstep : ∀ s a, I s → I (step s a))
    (hguard : ∀ s a, I s → P s → (P (step s a) ↔ G s a)) {s : σ} (hs : I s) (hp : P s)
    (ops : List α) : (∀ n, P (exec step s (ops.take n))) ↔ Along step G s ops :=
  forall_take_iff_along_of_along (H := fun _ _ => True) hstep (fun s a hI _ => hguard s a hI)
    hs hp (along_of_forall (fun _ _ => trivial))

/-- **Where a state comes from**: what did not hold at the start, and at every
step held before it or comes from an event, comes from an event of the run. -/
theorem exists_origin {Q : σ → Prop} {E : σ → σ → Prop}
    (hstep : ∀ s a, I s → G s a → I (step s a))
    (horigin : ∀ s a, I s → G s a → Q (step s a) → Q s ∨ E s (step s a))
    {s : σ} (hs : I s) (hq : ¬ Q s) {ops : List α} (hops : Along step G s ops)
    (h : Q (exec step s ops)) :
    ∃ before a after, ops = before ++ a :: after
      ∧ E (exec step s before) (exec step s (before ++ [a])) := by
  induction ops generalizing s with
  | nil => exact absurd h hq
  | cons a ops ih =>
    by_cases hqa : Q (step s a)
    · exact ⟨[], a, ops, rfl, (horigin s a hs hops.1 hqa).resolve_left hq⟩
    · obtain ⟨before, b, after, rfl, he⟩ := ih (hstep s a hs hops.1) hqa hops.2 h
      exact ⟨a :: before, b, after, rfl, he⟩

/-- **A relation to the start, kept by steps from invariant states**: a
reflexive and transitive relation that holds across every step from a state
of the invariant holds across every run from one. -/
theorem related {R : σ → σ → Prop} (hrefl : ∀ s, R s s)
    (htrans : ∀ s t u, R s t → R t u → R s u)
    (hstep : ∀ s a, I s → I (step s a) ∧ R s (step s a))
    {s : σ} (hs : I s) (ops : List α) : R s (exec step s ops) := by
  induction ops generalizing s with
  | nil => exact hrefl s
  | cons a ops ih =>
    exact htrans _ _ _ (hstep s a hs).2 (ih (hstep s a hs).1)

/-- The relational rule for guarded runs. -/
theorem related_of_along {R : σ → σ → Prop} (hrefl : ∀ s, R s s)
    (htrans : ∀ s t u, R s t → R t u → R s u)
    (hstep : ∀ s a, I s → G s a → I (step s a) ∧ R s (step s a))
    {s : σ} (hs : I s) {ops : List α} (hops : Along step G s ops) :
    R s (exec step s ops) := by
  induction ops generalizing s with
  | nil => exact hrefl s
  | cons a ops ih =>
    exact htrans _ _ _ (hstep s a hs hops.1).2 (ih (hstep s a hs hops.1).1 hops.2)

/-- **A relation between any two states of a run**, the later on the right, holds
across each of its steps. -/
theorem along_of_forall_take {R : σ → σ → Prop} {s : σ} {ops : List α}
    (h : ∀ i j, i ≤ j → R (exec step s (ops.take i)) (exec step s (ops.take j))) :
    Along step (fun t a => R t (step t a)) s ops := by
  induction ops generalizing s with
  | nil => trivial
  | cons a ops ih =>
    exact ⟨h 0 1 (Nat.zero_le 1), ih (fun i j hij => h (i + 1) (j + 1) (Nat.succ_le_succ hij))⟩

/-- **A relation kept by guarded steps** holds between any two states of a guarded
run. -/
theorem related_take {R : σ → σ → Prop} (hrefl : ∀ s, R s s)
    (htrans : ∀ s t u, R s t → R t u → R s u)
    (hstep : ∀ s a, I s → G s a → I (step s a) ∧ R s (step s a))
    {s : σ} (hs : I s) {ops : List α} (hops : Along step G s ops) {i j : ℕ} (hij : i ≤ j) :
    R (exec step s (ops.take i)) (exec step s (ops.take j)) := by
  induction ops generalizing s i j with
  | nil => rw [List.take_nil, List.take_nil]; exact hrefl s
  | cons a ops ih =>
    obtain ⟨hnext, hrel⟩ := hstep s a hs hops.1
    cases j with
    | zero =>
      obtain rfl := Nat.le_zero.mp hij
      exact hrefl s
    | succ j =>
      cases i with
      | zero => exact htrans _ _ _ hrel (ih hnext hops.2 (Nat.zero_le j))
      | succ i => exact ih hnext hops.2 (Nat.le_of_succ_le_succ hij)

/-- **What a run keeps, reaches and meets**: a relation between its states, a property of
each of them and one of its steps hold together exactly along the runs that meet a guard,
when they do at each step from the invariant's states. -/
theorem related_take_and_along_iff {P : σ → Prop} {Q : σ → α → Prop} {R : σ → σ → Prop}
    (hrefl : ∀ s, R s s) (htrans : ∀ s t u, R s t → R t u → R s u)
    (hstep : ∀ s a, I s → G s a → I (step s a)) (hP : ∀ s, I s → P s)
    (hguard : ∀ s a, I s → (R s (step s a) ∧ P (step s a) ∧ Q s a ↔ G s a)) {s : σ} (hs : I s)
    (ops : List α) :
    ((∀ i j, i ≤ j → R (exec step s (ops.take i)) (exec step s (ops.take j)))
        ∧ (∀ n, P (exec step s (ops.take n))) ∧ Along step Q s ops)
      ↔ Along step G s ops := by
  constructor
  · rintro ⟨hR, hP', hQ⟩
    have hrelated := along_of_forall_take hR
    clear hR
    induction ops generalizing s with
    | nil => trivial
    | cons a ops ih =>
      have hG := (hguard s a hs).mp ⟨hrelated.1, hP' 1, hQ.1⟩
      exact ⟨hG, ih (hstep s a hs hG) (fun n => hP' (n + 1)) hQ.2 hrelated.2⟩
  · intro hG
    refine ⟨fun i j hij => related_take hrefl htrans (fun s a hI ha =>
      ⟨hstep s a hI ha, ((hguard s a hI).mpr ha).1⟩) hs hG hij, fun n => hP _ ?_,
      hG.of_invariant hstep (fun s a hI ha => ((hguard s a hI).mpr ha).2.2) hs⟩
    refine invariant_of_along hstep hs (G := G) ?_
    rw [← List.take_append_drop n ops, along_append] at hG
    exact hG.1

end Run
