import Clarisal.Lib.Dict

/-!
# Stored views

A view keeps, under some keys, what was computed of a log when the key was last
refreshed. It is current when every entry still is what the log makes of its key,
as far as a reader can tell.

Refreshing a key keeps a view current. When the log grows, refreshing one key is
enough exactly as far as the new event changes no other key that the view holds
(`Current.append`).
-/

variable {κ ν ε : Type*} [DecidableEq κ]

namespace View

variable (compute : List ε → κ → ν) (same : ν → ν → Prop)

/-- **Every entry is what the log makes of its key.** -/
def Current (log : List ε) (view : List (κ × ν)) : Prop :=
  ∀ k v, Dict.get k view = some v → same v (compute log k)

/-- Compute a key again. -/
def refresh (log : List ε) (k : κ) (view : List (κ × ν)) : List (κ × ν) :=
  Dict.alter k (fun _ => compute log k) view

variable {compute same} {log : List ε} {view : List (κ × ν)} {k : κ} {e : ε}

theorem current_nil : Current compute same log [] := fun _ _ h => by cases h

/-- Refreshing a key keeps a view current. -/
theorem Current.refresh (hrefl : ∀ v, same v v) (h : Current compute same log view) (k : κ) :
    Current compute same log (refresh compute log k view) := by
  intro k' v hv
  unfold View.refresh at hv
  by_cases hk : k' = k
  · subst hk
    rw [Dict.get_alter_self, Option.some_inj] at hv
    exact hv ▸ hrefl _
  · rw [Dict.get_alter_of_ne hk] at hv
    exact h k' v hv

/-- **One event and one refresh**: the view stays current when the event changes no
other key that it holds. -/
theorem Current.append (hrefl : ∀ v, same v v) (htrans : ∀ u v w, same u v → same v w → same u w)
    (h : Current compute same log view)
    (hother : ∀ k', k' ≠ k → (∃ v, Dict.get k' view = some v) →
      same (compute log k') (compute (log ++ [e]) k')) :
    Current compute same (log ++ [e]) (View.refresh compute (log ++ [e]) k view) := by
  intro k' v hv
  unfold View.refresh at hv
  by_cases hk : k' = k
  · subst hk
    rw [Dict.get_alter_self, Option.some_inj] at hv
    exact hv ▸ hrefl _
  · rw [Dict.get_alter_of_ne hk] at hv
    exact htrans _ _ _ (h k' v hv) (hother k' hk ⟨v, hv⟩)

end View
