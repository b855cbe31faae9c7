import Clarisal.Lib.Run

/-!
# Thinning

Items come one by one, and each is kept unless one that is kept already is near it. Which
items are kept depends on their order, since an item that is kept decides on its neighbours.

What holds in every order: no two that were kept are near each other
(`pairwise_thin`), and every item has a kept one near it (`exists_near_thin`). So nothing
more is kept when the items come again (`thin_thin`).
-/

variable {α : Type*}

namespace Thinning

section

variable (near : α → α → Prop) [DecidableRel near]

/-- **Keep an item**, unless one near it is kept. -/
def keep (kept : List α) (a : α) : List α :=
  if ∃ b ∈ kept, near b a then kept else kept ++ [a]

/-- **What is kept** of some items, besides what was kept before. -/
def thin (kept as : List α) : List α := Run.exec (keep near) kept as

end

variable {near : α → α → Prop} [DecidableRel near] {kept as bs : List α} {a b : α}

theorem keep_of_near (h : ∃ b ∈ kept, near b a) : keep near kept a = kept := if_pos h

theorem mem_keep_of_mem (hb : b ∈ kept) (a : α) : b ∈ keep near kept a := by
  unfold keep
  split
  · exact hb
  · exact List.mem_append_left _ hb

/-- What is kept stays. -/
theorem mem_thin_of_mem (hb : b ∈ kept) (as : List α) : b ∈ thin near kept as :=
  Run.invariant (I := fun kept => b ∈ kept) (fun _ a hb => mem_keep_of_mem hb a) hb as

theorem thin_append (kept as bs : List α) :
    thin near kept (as ++ bs) = thin near (thin near kept as) bs :=
  Run.exec_append kept as bs

/-- An item that comes is kept, or one near it is. -/
theorem exists_near_keep (kept : List α) (hrefl : near a a) : ∃ b ∈ keep near kept a, near b a := by
  by_cases h : ∃ b ∈ kept, near b a
  · rwa [keep_of_near h]
  · rw [keep, if_neg h]
    exact ⟨a, List.mem_append_right _ List.mem_cons_self, hrefl⟩

/-- **Every item has a kept one near it.** -/
theorem exists_near_thin (kept : List α) (hrefl : ∀ a, near a a) (ha : a ∈ as) :
    ∃ b ∈ thin near kept as, near b a := by
  obtain ⟨before, after, rfl⟩ := List.append_of_mem ha
  obtain ⟨b, hb, hnear⟩ := exists_near_keep (thin near kept before) (hrefl a)
  refine ⟨b, ?_, hnear⟩
  rw [thin_append]
  exact mem_thin_of_mem hb after

/-- Items that all have a kept one near them change nothing. -/
theorem thin_eq_self (h : ∀ a ∈ as, ∃ b ∈ kept, near b a) : thin near kept as = kept :=
  Run.exec_eq_self (fun a ha => keep_of_near (h a ha))

/-- **The same items again** change nothing. -/
theorem thin_thin (hrefl : ∀ a, near a a) (kept as : List α) :
    thin near (thin near kept as) as = thin near kept as :=
  thin_eq_self (fun _ ha => exists_near_thin kept hrefl ha)

/-- **No two that are kept are near each other**, if none were before. -/
theorem pairwise_thin (h : kept.Pairwise (fun a b => ¬ near a b)) (as : List α) :
    (thin near kept as).Pairwise (fun a b => ¬ near a b) := by
  refine Run.invariant (I := List.Pairwise (fun a b => ¬ near a b)) (fun kept a hkept => ?_) h as
  unfold keep
  split
  · exact hkept
  · next hnone =>
    refine List.pairwise_append.mpr ⟨hkept, List.pairwise_singleton _ _, fun b hb a' ha' => ?_⟩
    rw [List.mem_singleton.mp ha']
    exact fun hnear => hnone ⟨b, hb, hnear⟩

end Thinning
