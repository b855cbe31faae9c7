import Clarisal.Lib.Forest
import Mathlib.Data.List.Cycle

/-!
# Loops of a graph with one successor

Where every vertex leads to one vertex at most, a walk is determined by its start. A loop is a
cycle of distinct vertices, each of which leads to the next; where it begins does not matter, so
it is a `Cycle`. Two loops with a vertex in common are the same (`IsLoop.eq_of_mem`), and nothing
leads out of one (`IsLoop.mem_of_reach`).

A walk that follows the graph and returns to a vertex of its own has found a loop
(`isLoop_of_return`). That one is then the only loop that the walk has met
(`mem_return_of_cycle`); a walk that stops elsewhere has met none.
-/

open Relation

variable {V : Type*}

namespace Loops

/-- One vertex leads to another. -/
def Leads (next : V → Option V) (a b : V) : Prop := next a = some b

/-- **A loop**: distinct vertices, each leading to the next and the last to the first. -/
structure IsLoop (next : V → Option V) (c : Cycle V) : Prop where
  nonempty : c ≠ Cycle.nil
  nodup : c.Nodup
  chain : c.Chain (Leads next)

section

variable {next : V → Option V} {a b v z : V} {l l' p : List V} {c c' : Cycle V}

theorem leads_rightUnique (next : V → Option V) : Relator.RightUnique (Leads next) :=
  fun _ _ _ hb hc => Option.some.inj (Eq.trans (Eq.symm hb) hc)

/-- A walk from one vertex to another. -/
theorem transGen_of_isChain (h : List.IsChain (Leads next) (a :: (l ++ [z]))) :
    TransGen (Leads next) a z := by
  induction l generalizing a with
  | nil => exact .single (List.isChain_cons_cons.mp h).1
  | cons b l ih =>
    obtain ⟨hedge, hrest⟩ := List.isChain_cons_cons.mp h
    exact TransGen.head hedge (ih hrest)

/-- **A walk to the first return** is determined by its start. -/
theorem eq_of_isChain (h : List.IsChain (Leads next) (a :: (l ++ [z])))
    (h' : List.IsChain (Leads next) (a :: (l' ++ [z]))) (hz : z ∉ l) (hz' : z ∉ l') : l = l' := by
  induction l generalizing a l' with
  | nil =>
    cases l' with
    | nil => rfl
    | cons b l' =>
      have hb := leads_rightUnique next (List.isChain_cons_cons.mp h).1
        (List.isChain_cons_cons.mp h').1
      exact absurd (hb ▸ List.mem_cons_self) hz'
  | cons b l ih =>
    obtain ⟨hedge, hrest⟩ := List.isChain_cons_cons.mp h
    cases l' with
    | nil =>
      have hb := leads_rightUnique next hedge (List.isChain_cons_cons.mp h').1
      exact absurd (hb ▸ List.mem_cons_self) hz
    | cons b' l' =>
      obtain ⟨hedge', hrest'⟩ := List.isChain_cons_cons.mp h'
      obtain rfl := leads_rightUnique next hedge hedge'
      rw [ih hrest hrest' (fun hmem => hz (List.mem_cons_of_mem _ hmem))
        (fun hmem => hz' (List.mem_cons_of_mem _ hmem))]

/-- A cycle may begin with any of its elements. -/
theorem exists_cons_of_mem (h : a ∈ c) : ∃ l : List V, c = ((a :: l : List V) : Cycle V) := by
  induction c using Quotient.inductionOn' with
  | h l =>
    obtain ⟨init, rest, rfl⟩ := List.append_of_mem (Cycle.mem_coe_iff.mp h)
    exact ⟨rest ++ init, Cycle.coe_eq_coe.mpr List.isRotated_append⟩

/-- A loop from one of its vertices on. -/
theorem IsLoop.exists_cons (h : IsLoop next c) (ha : a ∈ c) :
    ∃ l : List V, c = ((a :: l : List V) : Cycle V) ∧ a ∉ l
      ∧ List.IsChain (Leads next) (a :: (l ++ [a])) := by
  obtain ⟨l, rfl⟩ := exists_cons_of_mem ha
  exact ⟨l, rfl, (List.nodup_cons.mp (Cycle.nodup_coe_iff.mp h.nodup)).1,
    (Cycle.chain_coe_cons _ _ _).mp h.chain⟩

/-- **Two loops with a vertex in common are the same.** -/
theorem IsLoop.eq_of_mem (h : IsLoop next c) (h' : IsLoop next c') (ha : a ∈ c) (ha' : a ∈ c') :
    c = c' := by
  obtain ⟨l, rfl, hl, hchain⟩ := h.exists_cons ha
  obtain ⟨l', rfl, hl', hchain'⟩ := h'.exists_cons ha'
  rw [eq_of_isChain hchain hchain' hl hl']

theorem IsLoop.exists_mem (h : IsLoop next c) : ∃ a, a ∈ c := by
  induction c using Cycle.induction_on with
  | nil => exact absurd rfl h.nonempty
  | cons a l => exact ⟨a, Cycle.mem_coe_iff.mpr List.mem_cons_self⟩

/-- A vertex of a loop is on a cycle. -/
theorem IsLoop.transGen (h : IsLoop next c) (ha : a ∈ c) : TransGen (Leads next) a a := by
  obtain ⟨l, -, -, hchain⟩ := h.exists_cons ha
  exact transGen_of_isChain hchain

/-- **Nothing leads out of a loop.** -/
theorem IsLoop.mem_of_reach (h : IsLoop next c) (ha : a ∈ c)
    (hreach : ReflTransGen (Leads next) a b) : b ∈ c := by
  induction hreach with
  | refl => exact ha
  | @tail x y _ hedge ih =>
    obtain ⟨l, rfl, -, hchain⟩ := h.exists_cons ih
    cases l with
    | nil =>
      obtain rfl := leads_rightUnique next hedge (List.isChain_cons_cons.mp hchain).1
      exact ih
    | cons d l =>
      obtain rfl := leads_rightUnique next hedge (List.isChain_cons_cons.mp hchain).1
      exact Cycle.mem_coe_iff.mpr (List.mem_cons_of_mem _ List.mem_cons_self)

/-! ## A walk -/

/-- The end of a walk is reached from all of it. -/
theorem reach_of_isChain (h : List.IsChain (Leads next) (p ++ [v])) (ha : a ∈ p) :
    TransGen (Leads next) a v := by
  obtain ⟨init, rest, rfl⟩ := List.append_of_mem ha
  rw [List.append_assoc] at h
  exact transGen_of_isChain h.right_of_append

/-- **A walk that returns** to one of its vertices has found a loop. -/
theorem isLoop_of_return (h : List.IsChain (Leads next) (p ++ v :: l ++ [v]))
    (hnodup : (p ++ v :: l).Nodup) : IsLoop next ((v :: l : List V) : Cycle V) where
  nonempty := by simp
  nodup := Cycle.nodup_coe_iff.mpr hnodup.of_append_right
  chain := by
    rw [List.append_assoc] at h
    exact (Cycle.chain_coe_cons _ _ _).mpr h.right_of_append

/-- That loop is the only one it has met. -/
theorem mem_return_of_cycle (h : List.IsChain (Leads next) (p ++ v :: l ++ [v]))
    (hnodup : (p ++ v :: l).Nodup) (ha : a ∈ p ++ v :: l) (hcycle : TransGen (Leads next) a a) :
    a ∈ ((v :: l : List V) : Cycle V) :=
  (isLoop_of_return h hnodup).mem_of_reach (Cycle.mem_coe_iff.mpr List.mem_cons_self)
    ((reach_of_isChain h ha).to_reflTransGen.back_of_cycle (leads_rightUnique next) hcycle)

end

end Loops
