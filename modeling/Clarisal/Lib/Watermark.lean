import Mathlib.Data.List.Basic
import Mathlib.Order.Lattice

/-!
# Watermarks

A reader follows a log that grows. It keeps a time, its watermark, and reads on from
there, so what lies before a watermark has to be seen already. `Watermark.Seen` says so
of a stretch of time. Two stretches that meet make one (`Seen.trans`), and a log may grow
outside of a stretch (`Seen.append`).
-/

variable {ε τ : Type*} [LinearOrder τ]

namespace Watermark

variable (time : ε → τ)

/-- **Every event of the log from `lo` to before `hi` is seen.** -/
def Seen (log seen : List ε) (lo hi : τ) : Prop :=
  ∀ e ∈ log, lo ≤ time e → time e < hi → e ∈ seen

instance [DecidableEq ε] (log seen : List ε) (lo hi : τ) : Decidable (Seen time log seen lo hi) :=
  inferInstanceAs (Decidable (∀ e ∈ log, _))

variable {time} {log log' seen seen' : List ε} {lo mid hi : τ}

theorem Seen.mono (h : Seen time log seen lo hi) (hseen : seen ⊆ seen') :
    Seen time log seen' lo hi :=
  fun e he hlo hhi => hseen (h e he hlo hhi)

/-- The log grows by events of other times. -/
theorem Seen.append (h : Seen time log seen lo hi)
    (hnew : ∀ e ∈ log', ¬ (lo ≤ time e ∧ time e < hi)) : Seen time (log ++ log') seen lo hi := by
  intro e he hlo hhi
  cases List.mem_append.mp he with
  | inl hold => exact h e hold hlo hhi
  | inr hmem => exact absurd ⟨hlo, hhi⟩ (hnew e hmem)

/-- **Two stretches that meet.** -/
theorem Seen.trans (h : Seen time log seen lo mid) (h' : Seen time log seen mid hi) :
    Seen time log seen lo hi := by
  intro e he hlo hhi
  cases lt_or_ge (time e) mid with
  | inl hlt => exact h e he hlo hlt
  | inr hge => exact h' e he hge hhi

end Watermark
