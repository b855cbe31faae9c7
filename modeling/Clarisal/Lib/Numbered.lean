import Clarisal.Lib.Table

/-!
# Rows numbered by a counter

Rows take their keys from a counter that only grows. A key is then below the counter and no
two rows share one, so the next key is new.
-/

variable {α : Type*} {key : α → ℕ} {n m : ℕ} {t : List α} {a : α}

/-- **Rows whose keys a counter has given out.** -/
structure Numbered (key : α → ℕ) (n : ℕ) (t : List α) : Prop where
  unique : Table.Unique key t
  below : ∀ a ∈ t, key a < n

namespace Numbered

theorem nil : Numbered key n [] :=
  ⟨List.nodup_nil, fun _ ha => absurd ha List.not_mem_nil⟩

theorem mono (h : Numbered key n t) (hn : n ≤ m) : Numbered key m t :=
  ⟨h.unique, fun a ha => (h.below a ha).trans_le hn⟩

/-- The next row. -/
theorem append_one (h : Numbered key n t) (ha : key a = n) :
    Numbered key (n + 1) (t ++ [a]) where
  unique := h.unique.append_one fun b hb hkey => by
    have hlt := h.below b hb
    omega
  below b hb := by
    rcases List.mem_append.mp hb with hb | hb
    · exact (h.below b hb).trans (Nat.lt_succ_self n)
    · rw [List.mem_singleton.mp hb]
      omega

theorem update {p : α → Bool} {f : α → α} (h : Numbered key n t) (hf : ∀ a, key (f a) = key a) :
    Numbered key n (Table.update p f t) where
  unique := h.unique.update hf
  below b hb := by
    obtain ⟨a, ha, rfl⟩ := Table.mem_update.mp hb
    split
    · rw [hf]
      exact h.below a ha
    · exact h.below a ha

/-- A row that replaces one of the table. -/
theorem save (h : Numbered key n t) (ha : key a < n) : Numbered key n (Table.save key a t) where
  unique := h.unique.save a
  below b hb := by
    rcases Table.mem_save hb with rfl | ⟨hb, -⟩
    · exact ha
    · exact h.below b hb

/-- The counter is no key. -/
theorem ne_of_mem (h : Numbered key n t) (ha : a ∈ t) : key a ≠ n :=
  (h.below a ha).ne

end Numbered
