import Clarisal.Lib.Calendar
import Mathlib.Algebra.BigOperators.Group.List.Basic

/-!
# Ranges of dates

The dates of a range, day by day. A sum over a range is read off a running total: what
each day adds is the difference of the total before the day and after it, so the sum over
the range is the difference at its two ends (`sum_datesBetween`). The days that two ranges
share are again a range (`length_filter_datesBetween`).
-/

namespace Calendar

namespace Date

/-- A date and the ones after it. -/
def daysFrom : ℕ → Date → List Date
  | 0, _ => []
  | n + 1, x => x :: (nextDay x).elim [] (daysFrom n)

/-- **The dates from one to another**, both included. -/
def datesBetween (x y : Date) : List Date := daysFrom (y.toordinal + 1 - x.toordinal) x

variable {x y : Date}

/-- The first date, and those from the next day on. -/
theorem datesBetween_cons {e : Date} (h : x < y) (he : nextDay x = some e) :
    datesBetween x y = x :: datesBetween e y := by
  have hnext := toordinal_nextDay he
  have hlt := lt_iff.mp h
  unfold datesBetween
  rw [show y.toordinal + 1 - x.toordinal = (y.toordinal + 1 - e.toordinal) + 1 by omega,
    daysFrom, he]
  rfl

theorem datesBetween_self (x : Date) : datesBetween x x = [x] := by
  unfold datesBetween
  rw [show x.toordinal + 1 - x.toordinal = 1 by omega, daysFrom]
  cases nextDay x <;> rfl

theorem datesBetween_of_lt (h : y < x) : datesBetween x y = [] := by
  have hlt := lt_iff.mp h
  unfold datesBetween
  rw [show y.toordinal + 1 - x.toordinal = 0 by omega, daysFrom]

/-- **Induction over a range**: an empty one, and one with a first day. -/
theorem datesBetween_induction {P : Date → Prop} {y : Date} (hempty : ∀ x, y < x → P x)
    (hself : P y) (hcons : ∀ x e, x < y → nextDay x = some e → P e → P x) (x : Date) : P x := by
  rcases lt_trichotomy y x with h | rfl | h
  · exact hempty x h
  · exact hself
  · obtain ⟨n, hn⟩ : ∃ n, y.toordinal - x.toordinal = n := ⟨_, rfl⟩
    induction n generalizing x with
    | zero =>
      have hlt := lt_iff.mp h
      omega
    | succ n ih =>
      obtain ⟨e, he⟩ := exists_nextDay h
      have hnext := toordinal_nextDay he
      refine hcons x e h he ?_
      rcases (le_iff.mpr (by rw [hnext]; exact lt_iff.mp h) : e ≤ y).eq_or_lt with rfl | hlt
      · exact hself
      · exact ih e hlt (by omega)

/-- **A sum over a range** is the difference of a running total that each day adds to. -/
theorem sum_datesBetween {M : Type*} [AddCommGroup M] {f : Date → M} {F : ℕ → M}
    (hF : ∀ d, f d = F (d.toordinal + 1) - F d.toordinal) (h : x.toordinal ≤ y.toordinal + 1) :
    ((datesBetween x y).map f).sum = F (y.toordinal + 1) - F x.toordinal := by
  induction x using datesBetween_induction (y := y) with
  | hempty x hlt =>
    have hend : x.toordinal = y.toordinal + 1 := le_antisymm h (lt_iff.mp hlt)
    rw [datesBetween_of_lt hlt, hend, sub_self]
    rfl
  | hself =>
    rw [datesBetween_self, List.map_singleton, List.sum_singleton, hF]
  | hcons x e hlt he ih =>
    have hnext := toordinal_nextDay he
    have hle : e.toordinal ≤ y.toordinal + 1 := by
      have := lt_iff.mp hlt
      omega
    rw [datesBetween_cons hlt he, List.map_cons, List.sum_cons, ih hle, hF, hnext,
      sub_add_sub_cancel']

/-- A date of a range is one between its two ends. -/
theorem mem_datesBetween {d : Date} : d ∈ datesBetween x y ↔ x ≤ d ∧ d ≤ y := by
  induction x using datesBetween_induction (y := y) with
  | hempty x hlt =>
    rw [datesBetween_of_lt hlt]
    refine ⟨fun hmem => absurd hmem List.not_mem_nil, fun hd => ?_⟩
    exact absurd (hd.1.trans hd.2) (not_le_of_gt hlt)
  | hself => rw [datesBetween_self, List.mem_singleton, le_antisymm_iff, and_comm]
  | hcons x e hlt he ih =>
    rw [datesBetween_cons hlt he, List.mem_cons, ih, nextDay_le_iff he d]
    constructor
    · rintro (rfl | ⟨hd, hy⟩)
      · exact ⟨le_rfl, hlt.le⟩
      · exact ⟨hd.le, hy⟩
    · rintro ⟨hd, hy⟩
      exact hd.eq_or_lt.imp Eq.symm fun hd => ⟨hd, hy⟩

/-- **The dates of a range between two days** are counted by the later start and the earlier
end. -/
theorem length_filter_datesBetween (x y : Date) (first last : ℕ) :
    ((datesBetween x y).filter (fun d => first ≤ d.toordinal ∧ d.toordinal ≤ last)).length
      = min y.toordinal last + 1 - max x.toordinal first := by
  induction x using datesBetween_induction (y := y) with
  | hempty x hlt =>
    have hend := lt_iff.mp hlt
    rw [datesBetween_of_lt hlt, List.filter_nil, List.length_nil]
    omega
  | hself =>
    rw [datesBetween_self, List.filter_singleton, Bool.cond_eq_ite]
    split
    · next hday =>
      obtain ⟨hfirst, hlast⟩ := of_decide_eq_true hday
      rw [List.length_singleton]
      omega
    · next hday =>
      have hout := of_decide_eq_false (Bool.eq_false_of_not_eq_true hday)
      rw [List.length_nil]
      omega
  | hcons x e hlt he ih =>
    have hnext := toordinal_nextDay he
    have hend := lt_iff.mp hlt
    rw [datesBetween_cons hlt he, List.filter_cons]
    split
    · next hday =>
      obtain ⟨hfirst, hlast⟩ := of_decide_eq_true hday
      rw [List.length_cons, ih]
      omega
    · next hday =>
      have hout := of_decide_eq_false (Bool.eq_false_of_not_eq_true hday)
      rw [ih]
      omega

end Date

end Calendar
