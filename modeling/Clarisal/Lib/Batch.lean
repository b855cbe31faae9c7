import Mathlib.Data.List.Basic
import Mathlib.Tactic.Common

/-!
# A batch that stops at its first error

A job goes through a list of items, each of which may change the state and may raise. The
state is kept either way, and an error ends the batch: the items after it are not reached.

Whether a batch ends well is a question about every item in the state it is reached in.
`run_eq_none_iff` makes it one about the first state, for a condition that the items before
do not change, and `run_done` says that a batch that ends well has done every item, for a
mark that the items after do not remove.
-/

variable {σ α ε : Type*}

namespace Batch

/-- **The batch**: the items in order, up to the first error. -/
def run (step : σ → α → σ × Option ε) : σ → List α → σ × Option ε
  | s, [] => (s, none)
  | s, x :: xs =>
    match step s x with
    | (s', some e) => (s', some e)
    | (s', none) => run step s' xs

variable {step : σ → α → σ × Option ε} {s : σ} {x : α} {xs : List α}

theorem run_cons_of_none (h : (step s x).2 = none) :
    run step s (x :: xs) = run step (step s x).1 xs := by
  rw [run]
  split
  · next heq => rw [heq] at h; cases h
  · next heq => rw [heq]

theorem run_cons_of_some {e : ε} (h : (step s x).2 = some e) :
    run step s (x :: xs) = ((step s x).1, some e) := by
  rw [run]
  split
  · next heq => rw [heq] at h ⊢; rw [← h]
  · next heq => rw [heq] at h; cases h

/-- **What every item keeps, the batch keeps**, error or not. `I` is what holds of a state and
the items that are left. -/
theorem run_invariant {I : σ → List α → Prop}
    (hstep : ∀ s x xs, I s (x :: xs) → I (step s x).1 xs) (h : I s xs) :
    ∃ rest, I (run step s xs).1 rest := by
  induction xs generalizing s with
  | nil => exact ⟨[], h⟩
  | cons x xs ih =>
    have hx := hstep s x xs h
    cases herror : (step s x).2 with
    | some e =>
      rw [run_cons_of_some herror]
      exact ⟨xs, hx⟩
    | none =>
      rw [run_cons_of_none herror]
      exact ih hx

section

variable {I : σ → List α → Prop}
  (hinv : ∀ s x xs, I s (x :: xs) → (step s x).2 = none → I (step s x).1 xs)

include hinv

/-- **A batch ends well** when each item may be done in the first state. -/
theorem run_eq_none_iff {P : σ → α → Prop}
    (hok : ∀ s x xs, I s (x :: xs) → ((step s x).2 = none ↔ P s x))
    (hstable : ∀ s x xs, I s (x :: xs) → (step s x).2 = none →
      ∀ y ∈ xs, P (step s x).1 y ↔ P s y)
    (h : I s xs) : (run step s xs).2 = none ↔ ∀ x ∈ xs, P s x := by
  induction xs generalizing s with
  | nil => exact iff_of_true rfl (fun x hx => absurd hx List.not_mem_nil)
  | cons x xs ih =>
    rw [List.forall_mem_cons, ← hok s x xs h]
    cases herror : (step s x).2 with
    | some e =>
      rw [run_cons_of_some herror]
      exact iff_of_false (Option.some_ne_none e) fun h => Option.some_ne_none e h.1
    | none =>
      rw [run_cons_of_none herror, ih (hinv s x xs h herror), and_iff_right rfl]
      exact forall₂_congr fun y hy => hstable s x xs h herror y hy

/-- A mark that no item removes from another is there when the batch ends well. -/
theorem run_kept {D : σ → α → Prop}
    (hkept : ∀ s x xs, I s (x :: xs) → (step s x).2 = none →
      ∀ y, y ≠ x → D s y → D (step s x).1 y)
    (h : I s xs) (hnone : (run step s xs).2 = none) {y : α} (hy : y ∉ xs) (hdone : D s y) :
    D (run step s xs).1 y := by
  induction xs generalizing s with
  | nil => exact hdone
  | cons x xs ih =>
    rw [List.mem_cons, not_or] at hy
    cases herror : (step s x).2 with
    | some e =>
      rw [run_cons_of_some herror] at hnone
      cases hnone
    | none =>
      rw [run_cons_of_none herror] at hnone ⊢
      exact ih (hinv s x xs h herror) hnone hy.2 (hkept s x xs h herror y hy.1 hdone)

/-- **A batch that ends well has done every item.** -/
theorem run_done {D : σ → α → Prop}
    (hnodup : ∀ s x xs, I s (x :: xs) → x ∉ xs)
    (hdone : ∀ s x xs, I s (x :: xs) → (step s x).2 = none → D (step s x).1 x)
    (hkept : ∀ s x xs, I s (x :: xs) → (step s x).2 = none →
      ∀ y, y ≠ x → D s y → D (step s x).1 y)
    (h : I s xs) (hnone : (run step s xs).2 = none) : ∀ x ∈ xs, D (run step s xs).1 x := by
  induction xs generalizing s with
  | nil => exact fun x hx => absurd hx List.not_mem_nil
  | cons x xs ih =>
    cases herror : (step s x).2 with
    | some e =>
      rw [run_cons_of_some herror] at hnone
      cases hnone
    | none =>
      rw [run_cons_of_none herror] at hnone ⊢
      have hrest := hinv s x xs h herror
      intro y hy
      rcases List.mem_cons.mp hy with rfl | hy
      · exact run_kept hinv hkept hrest hnone (hnodup s y xs h) (hdone s y xs h herror)
      · exact ih hrest hnone y hy

end

end Batch
