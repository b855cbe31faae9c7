import Mathlib.Data.List.Induction
import Mathlib.Data.List.Perm.Basic
import Mathlib.Logic.Function.Basic

/-!
# Passes of writers

A writer reads one cell and writes another one. In a pass the writers write
one after the other, so that a writer may read what another one has just
written, and the cells after a pass depend on the order of the writers.

They do not when the writers are coherent: writers of one cell offer the same,
and a writer offers the same after its own cell is written
(`Coherent.pass_eq`). Conversely, what two writers of different cells offer
stands in the cells after a pass in some order (`exists_order_pair`), unless
the first of them writes what the second one reads.
-/

variable {ι κ ν : Type*}

/-- **Writers**: the cell each of them reads, the cell it writes, and what it
writes there. -/
structure Writers (ι κ ν : Type*) where
  src : ι → κ
  dst : ι → κ
  val : ι → ν → ν

namespace Writers

variable [DecidableEq κ] (W : Writers ι κ ν)

/-- What a writer writes, reading the cells as they are. -/
def offer (c : κ → ν) (p : ι) : ν := W.val p (c (W.src p))

def write (c : κ → ν) (p : ι) : κ → ν := Function.update c (W.dst p) (W.offer c p)

/-- **A pass**: the writers write in turn. -/
def pass (c : κ → ν) (ps : List ι) : κ → ν := ps.foldl W.write c

variable {W} {c : κ → ν} {ps : List ι} {p q : ι} {k : κ}

theorem pass_append (c : κ → ν) (ps qs : List ι) :
    W.pass c (ps ++ qs) = W.pass (W.pass c ps) qs := List.foldl_append

theorem pass_concat (c : κ → ν) (ps : List ι) (p : ι) :
    W.pass c (ps ++ [p]) = W.write (W.pass c ps) p := pass_append c ps [p]

/-- A cell that no writer writes. -/
theorem pass_of_ne (h : ∀ p ∈ ps, W.dst p ≠ k) : W.pass c ps k = c k := by
  induction ps generalizing c with
  | nil => rfl
  | cons p ps ih =>
    refine (ih (fun q hq => h q (List.mem_cons_of_mem _ hq))).trans ?_
    exact Function.update_of_ne (h p List.mem_cons_self).symm _ _

/-- **The last writer of a cell**, when nobody before it wrote what it reads. -/
theorem pass_last {before after : List ι} (hsrc : ∀ q ∈ before, W.dst q ≠ W.src p)
    (hdst : ∀ q ∈ after, W.dst q ≠ W.dst p) :
    W.pass c (before ++ p :: after) (W.dst p) = W.offer c p := by
  rw [pass_append]
  refine (pass_of_ne hdst).trans ((Function.update_self _ _ _).trans ?_)
  exact congrArg (W.val p) (pass_of_ne hsrc)

/-- **The last writer of a pass** that leaves its two cells as they were. -/
theorem eq_offer_of_fixed (hself : W.dst p ≠ W.src p)
    (hsrc : W.pass c (ps ++ [p]) (W.src p) = c (W.src p))
    (hdst : W.pass c (ps ++ [p]) (W.dst p) = c (W.dst p)) : c (W.dst p) = W.offer c p := by
  rw [pass_concat, write] at hsrc hdst
  rw [Function.update_of_ne hself.symm] at hsrc
  rw [← hdst, Function.update_self]
  exact congrArg (W.val p) hsrc

/-! ## Coherent writers -/

variable (W) in
/-- **Coherent writers**: those of one cell offer the same, and what a writer
offers stays the same when its own cell is written. -/
structure Coherent (c : κ → ν) (ps : List ι) : Prop where
  agree : ∀ p ∈ ps, ∀ q ∈ ps, W.dst p = W.dst q → W.offer c p = W.offer c q
  absorb : ∀ p ∈ ps, ∀ q ∈ ps, W.dst p = W.src q → W.val q (W.offer c p) = W.offer c q

/-- What coherent writers leave in a cell of their own. -/
theorem Coherent.pass_eq_of_subset (h : W.Coherent c ps) {qs : List ι} (hqs : qs ⊆ ps) :
    ∀ p ∈ qs, W.pass c qs (W.dst p) = W.offer c p := by
  induction qs using List.reverseRecOn with
  | nil => exact fun p hp => absurd hp List.not_mem_nil
  | append_singleton qs q ih =>
    have hq : q ∈ ps := hqs (by simp)
    have ih := ih (fun p hp => hqs (List.mem_append_left _ hp))
    -- the last writer reads its own cell as it was, or as an earlier one left it
    have hlast : W.offer (W.pass c qs) q = W.offer c q := by
      by_cases hread : ∃ p ∈ qs, W.dst p = W.src q
      · obtain ⟨p, hp, hdst⟩ := hread
        refine Eq.trans ?_ (h.absorb p (hqs (List.mem_append_left _ hp)) q hq hdst)
        exact congrArg (W.val q) (hdst ▸ ih p hp)
      · exact congrArg (W.val q) (pass_of_ne (fun p hp hdst => hread ⟨p, hp, hdst⟩))
    intro p hp
    rw [pass_concat, write, hlast]
    by_cases hdst : W.dst p = W.dst q
    · rw [hdst, Function.update_self]
      exact h.agree q hq p (hqs hp) hdst.symm
    · rw [Function.update_of_ne hdst]
      refine ih p ((List.mem_append.mp hp).resolve_right (fun hpq => hdst ?_))
      rw [List.mem_singleton.mp hpq]

/-- **Coherent writers leave the same in every order**: what they offer at
first. -/
theorem Coherent.pass_eq (h : W.Coherent c ps) {qs : List ι} (hqs : qs.Perm ps) (hp : p ∈ ps) :
    W.pass c qs (W.dst p) = W.offer c p :=
  h.pass_eq_of_subset hqs.subset p (hqs.mem_iff.mpr hp)

/-! ## Orders that show what is offered -/

/-- The writers of a cell first, then one writer, then the others. -/
theorem perm_around (k : κ) (before after : List ι) (p : ι) :
    ((before ++ after).filter (W.dst · = k)
      ++ p :: (before ++ after).filter (¬ W.dst · = k)).Perm (before ++ p :: after) := by
  refine List.perm_middle.trans ((List.Perm.cons p ?_).trans List.perm_middle.symm)
  simpa using List.filter_append_perm (fun q => decide (W.dst q = k)) (before ++ after)

/-- **What a writer offers** stands in its cell after a pass in some order. -/
theorem exists_order (hp : p ∈ ps) (hself : W.dst p ≠ W.src p) (c : κ → ν) :
    ∃ qs : List ι, qs.Perm ps ∧ W.pass c qs (W.dst p) = W.offer c p := by
  obtain ⟨before, after, rfl⟩ := List.append_of_mem hp
  refine ⟨(before ++ after).filter (W.dst · = W.dst p)
    ++ p :: (before ++ after).filter (¬ W.dst · = W.dst p), perm_around _ _ _ _,
    pass_last ?_ ?_⟩
  · intro q hq
    rw [of_decide_eq_true (List.mem_filter.mp hq).2]
    exact hself
  · exact fun q hq => of_decide_eq_true (List.mem_filter.mp hq).2

/-- **What two writers offer** stands in their cells after a pass in some
order, when the first does not write what the second reads. -/
theorem exists_order_pair (hp : p ∈ ps) (hq : q ∈ ps) (hp' : W.dst p ≠ W.src p)
    (hq' : W.dst q ≠ W.src q) (hne : W.dst p ≠ W.dst q) (hread : W.dst p ≠ W.src q)
    (c : κ → ν) :
    ∃ qs : List ι, qs.Perm ps ∧ W.pass c qs (W.dst p) = W.offer c p
      ∧ W.pass c qs (W.dst q) = W.offer c q := by
  obtain ⟨before, after, rfl⟩ := List.append_of_mem hp
  -- the writers of the first cell, then those of the second, then the others
  have hlater : q ∈ (before ++ after).filter (¬ W.dst · = W.dst p) := by
    refine List.mem_filter.mpr ⟨?_, by simpa using hne.symm⟩
    have hpq : q ≠ p := fun h => hne (congrArg W.dst h).symm
    simpa [hpq] using hq
  set first := (before ++ after).filter (W.dst · = W.dst p) with hfirst
  have hdst : ∀ r ∈ first ++ [p], W.dst r = W.dst p := by
    intro r hr
    rcases List.mem_append.mp hr with hr | hr
    · exact of_decide_eq_true (List.mem_filter.mp hr).2
    · rw [List.mem_singleton.mp hr]
  obtain ⟨later, hperm, hwritten⟩ := exists_order hlater hq' (W.pass c (first ++ [p]))
  refine ⟨(first ++ [p]) ++ later, ?_, ?_, ?_⟩
  · refine (hperm.append_left _).trans ?_
    rw [List.append_assoc, List.singleton_append]
    exact perm_around _ _ _ _
  · rw [List.append_assoc, List.singleton_append]
    refine pass_last (fun r hr => ?_) (fun r hr => ?_)
    · rw [hdst r (List.mem_append_left _ hr)]
      exact hp'
    · exact of_decide_eq_true (List.mem_filter.mp (hperm.subset hr)).2
  · rw [pass_append, hwritten]
    exact congrArg (W.val q) (pass_of_ne (fun r hr => hdst r hr ▸ hread))

end Writers
