import Mathlib.Algebra.Order.BigOperators.Group.Finset
import Mathlib.Data.Finset.Basic
import Mathlib.Logic.Relation

/-!
# Worklist search

A search for a target in a directed graph, with a stack of vertices still to
visit and the set of those already visited. `Worklist.search` runs a number of
rounds and answers when the search has ended.

It always ends (`search_isSome`): each round takes from a measure that bounds
the rounds left. What it answers is reachability
(`search_eq_some_iff`), in whatever order the successors of a vertex are
listed, and an edge to where the target is not reachable back from keeps a
graph without cycles (`Acyclic.insert`).

With a queue in place of the stack, and no target, `Worklist.collect` finds
what can be reached from a vertex by one edge or more (`mem_collect_iff`).
-/

open Relation

variable {V : Type*}

namespace Worklist

/-- The edges a successor function lists. -/
def Edge (succ : V → List V) (a b : V) : Prop := b ∈ succ a

section Search

variable [DecidableEq V]

/-- **The search**, run for a number of rounds. The stack is kept top first.
Each round takes its top: the target ends the search, a visited vertex is
skipped, and any other is visited and its successors are pushed. An empty
stack ends the search too. -/
def search (succ : V → List V) (target : V) : ℕ → List V → Finset V → Option Bool
  | 0, _, _ => none
  | _ + 1, [], _ => some false
  | n + 1, current :: stack, seen =>
    if current = target then some true
    else if current ∈ seen then search succ target n stack seen
    else search succ target n ((succ current).reverse ++ stack) (insert current seen)

variable {succ : V → List V} {target : V}

/-- More rounds do not change an answer. -/
theorem search_mono {n m : ℕ} (h : n ≤ m) {stack : List V} {seen : Finset V} {b : Bool}
    (hs : search succ target n stack seen = some b) :
    search succ target m stack seen = some b := by
  induction n generalizing m stack seen with
  | zero => cases hs
  | succ n ih =>
    obtain ⟨m, rfl⟩ : ∃ k, m = k + 1 := ⟨m - 1, by omega⟩
    have hnm : n ≤ m := by omega
    cases stack with
    | nil => exact hs
    | cons current stack =>
      unfold search at hs ⊢
      split
      · next htarget => rwa [if_pos htarget] at hs
      · next htarget =>
        rw [if_neg htarget] at hs
        split
        · next hseen =>
          rw [if_pos hseen] at hs
          exact ih hnm hs
        · next hseen =>
          rw [if_neg hseen] at hs
          exact ih hnm hs

/-! ## It ends -/

/-- The rounds that can be left: one for each vertex on the stack, and for each
vertex not visited one and one for each of its successors. -/
def weight (succ : V → List V) (vertices : Finset V) (stack : List V) (seen : Finset V) : ℕ :=
  ∑ v ∈ vertices \ seen, ((succ v).length + 1) + stack.length

/-- Visiting a vertex takes its share from the weight. -/
theorem weight_visit (succ : V → List V) {vertices seen : Finset V} {current : V}
    (hv : current ∈ vertices) (hs : current ∉ seen) (stack : List V) :
    weight succ vertices ((succ current).reverse ++ stack) (insert current seen) + 2
      = weight succ vertices (current :: stack) seen := by
  have hmem : current ∈ vertices \ seen := Finset.mem_sdiff.mpr ⟨hv, hs⟩
  have hsum := Finset.add_sum_erase _ (fun v => (succ v).length + 1) hmem
  have herase : (vertices \ seen).erase current = vertices \ insert current seen := by
    rw [Finset.sdiff_insert]
  rw [herase] at hsum
  simp only [weight, List.length_append, List.length_reverse, List.length_cons]
  omega

/-- **The search ends** within the weight of its stack, when the vertices it
can meet are finitely many. -/
theorem search_isSome (vertices : Finset V) (hclosed : ∀ v ∈ vertices, ∀ w ∈ succ v, w ∈ vertices)
    {n : ℕ} {stack : List V} {seen : Finset V} (hstack : ∀ v ∈ stack, v ∈ vertices)
    (hn : weight succ vertices stack seen < n) :
    (search succ target n stack seen).isSome = true := by
  induction n generalizing stack seen with
  | zero => omega
  | succ n ih =>
    cases stack with
    | nil => rfl
    | cons current stack =>
      have hcurrent := hstack current List.mem_cons_self
      have hrest : ∀ v ∈ stack, v ∈ vertices :=
        fun v hv => hstack v (List.mem_cons_of_mem _ hv)
      unfold search
      split
      · rfl
      · split
        · refine ih hrest ?_
          simp only [weight, List.length_cons] at hn ⊢
          omega
        · next hseen =>
          refine ih ?_ ?_
          · intro v hv
            rcases List.mem_append.mp hv with hv | hv
            · exact hclosed current hcurrent v (List.mem_reverse.mp hv)
            · exact hrest v hv
          · have := weight_visit succ hcurrent hseen stack
            omega

/-! ## What it answers -/

/-- A search that finds the target reached it from the stack. -/
theorem reachable_of_search {n : ℕ} {stack : List V} {seen : Finset V}
    (h : search succ target n stack seen = some true) :
    ∃ v ∈ stack, ReflTransGen (Edge succ) v target := by
  induction n generalizing stack seen with
  | zero => cases h
  | succ n ih =>
    cases stack with
    | nil => cases h
    | cons current stack =>
      unfold search at h
      split at h
      · next htarget => exact ⟨current, List.mem_cons_self, htarget ▸ ReflTransGen.refl⟩
      · split at h
        · obtain ⟨v, hv, hreach⟩ := ih h
          exact ⟨v, List.mem_cons_of_mem _ hv, hreach⟩
        · obtain ⟨v, hv, hreach⟩ := ih h
          rcases List.mem_append.mp hv with hv | hv
          · exact ⟨current, List.mem_cons_self,
              ReflTransGen.head (List.mem_reverse.mp hv) hreach⟩
          · exact ⟨v, List.mem_cons_of_mem _ hv, hreach⟩

/-- A search that ends without the target has visited a set of vertices that is
closed under successors, holds the stack and avoids the target. The successors
of what was visited before are visited or on the stack: that is the invariant. -/
theorem closed_of_search {n : ℕ} {stack : List V} {seen : Finset V}
    (hinv : ∀ v ∈ seen, v ≠ target ∧ ∀ w ∈ succ v, w ∈ seen ∨ w ∈ stack)
    (h : search succ target n stack seen = some false) :
    ∃ visited : Finset V, seen ⊆ visited ∧ (∀ v ∈ stack, v ∈ visited)
      ∧ ∀ v ∈ visited, v ≠ target ∧ ∀ w ∈ succ v, w ∈ visited := by
  induction n generalizing stack seen with
  | zero => cases h
  | succ n ih =>
    cases stack with
    | nil =>
      refine ⟨seen, Finset.Subset.refl _, by simp, fun v hv => ?_⟩
      obtain ⟨hne, hsucc⟩ := hinv v hv
      exact ⟨hne, fun w hw => (hsucc w hw).resolve_right List.not_mem_nil⟩
    | cons current stack =>
      unfold search at h
      split at h
      · cases h
      · next htarget =>
        split at h
        · next hseen =>
          obtain ⟨visited, hsub, hstack, hclosed⟩ := ih (fun v hv => by
            obtain ⟨hne, hsucc⟩ := hinv v hv
            refine ⟨hne, fun w hw => ?_⟩
            rcases hsucc w hw with hw | hw
            · exact Or.inl hw
            · rcases List.mem_cons.mp hw with rfl | hw
              · exact Or.inl hseen
              · exact Or.inr hw) h
          refine ⟨visited, hsub, fun v hv => ?_, hclosed⟩
          rcases List.mem_cons.mp hv with rfl | hv
          · exact hsub hseen
          · exact hstack v hv
        · obtain ⟨visited, hsub, hstack, hclosed⟩ := ih (fun v hv => by
            rcases Finset.mem_insert.mp hv with rfl | hv
            · exact ⟨htarget, fun w hw =>
                Or.inr (List.mem_append_left _ (List.mem_reverse.mpr hw))⟩
            · obtain ⟨hne, hsucc⟩ := hinv v hv
              refine ⟨hne, fun w hw => ?_⟩
              rcases hsucc w hw with hw | hw
              · exact Or.inl (Finset.mem_insert_of_mem hw)
              · rcases List.mem_cons.mp hw with rfl | hw
                · exact Or.inl (Finset.mem_insert_self _ _)
                · exact Or.inr (List.mem_append_right _ hw)) h
          refine ⟨visited, fun v hv => hsub (Finset.mem_insert_of_mem hv), fun v hv => ?_, hclosed⟩
          rcases List.mem_cons.mp hv with rfl | hv
          · exact hsub (Finset.mem_insert_self _ _)
          · exact hstack v (List.mem_append_right _ hv)

omit [DecidableEq V] in
/-- A set closed under successors holds what is reachable from it. -/
theorem mem_of_reachable {visited : Finset V} (hclosed : ∀ v ∈ visited, ∀ w ∈ succ v, w ∈ visited)
    {a b : V} (ha : a ∈ visited) (h : ReflTransGen (Edge succ) a b) : b ∈ visited := by
  induction h with
  | refl => exact ha
  | tail _ hedge ih => exact hclosed _ ih _ hedge

/-- **The search answers reachability.** -/
theorem search_eq_some_iff {n : ℕ} {start : V} {b : Bool}
    (h : search succ target n [start] ∅ = some b) :
    b = true ↔ ReflTransGen (Edge succ) start target := by
  cases b with
  | true =>
    obtain ⟨v, hv, hreach⟩ := reachable_of_search h
    rw [List.mem_singleton.mp hv] at hreach
    exact ⟨fun _ => hreach, fun _ => rfl⟩
  | false =>
    obtain ⟨visited, -, hstart, hclosed⟩ := closed_of_search (by simp) h
    refine ⟨nofun, fun hreach => ?_⟩
    -- everything reachable from the start was visited, the target never was
    have hvisited : target ∈ visited :=
      mem_of_reachable (fun v hv => (hclosed v hv).2) (hstart start List.mem_cons_self) hreach
    exact absurd rfl (hclosed target hvisited).1

end Search

/-! ## Collecting -/

section Collect

variable [DecidableEq V] {ρ : Type*} (key : ρ → V)

/-- Put a row in the queue and among those found, unless one with its key was
found. -/
def enqueue (state : List V × List ρ) (r : ρ) : List V × List ρ :=
  if key r ∈ state.2.map key then state else (state.1 ++ [key r], state.2 ++ [r])

/-- **Breadth-first collection**, run for a number of rounds: each takes a vertex from
the queue and finds the rows of its successors. An empty queue ends it. -/
def collect (succ : V → List ρ) : ℕ → List V → List ρ → Option (List ρ)
  | 0, _, _ => none
  | _ + 1, [], found => some found
  | n + 1, v :: queue, found =>
    let next := (succ v).foldl (enqueue key) (queue, found)
    collect succ n next.1 next.2

variable {key} {succ : V → List ρ} {start : V} {queue : List V} {found found' : List ρ} {n : ℕ}

/-- **One round** finds the successors that were not found yet, and queues them. -/
theorem foldl_enqueue_spec (key : ρ → V) (rs : List ρ) (queue : List V) (found : List ρ) :
    ∃ new, rs.foldl (enqueue key) (queue, found) = (queue ++ new.map key, found ++ new)
      ∧ (∀ r ∈ new, r ∈ rs) ∧ (∀ r ∈ rs, key r ∈ (found ++ new).map key)
      ∧ ((found.map key).Nodup → ((found ++ new).map key).Nodup) := by
  induction rs generalizing queue found with
  | nil => exact ⟨[], by simp, by simp, by simp, by simp⟩
  | cons r rs ih =>
    rw [List.foldl_cons]
    by_cases hr : key r ∈ found.map key
    · rw [show enqueue key (queue, found) r = (queue, found) from if_pos hr]
      obtain ⟨new, hnext, hnew, hall, hnodup⟩ := ih queue found
      refine ⟨new, hnext, fun x hx => List.mem_cons_of_mem r (hnew x hx), fun x hx => ?_, hnodup⟩
      rcases List.mem_cons.mp hx with rfl | hx
      · rw [List.map_append]
        exact List.mem_append_left _ hr
      · exact hall x hx
    · rw [show enqueue key (queue, found) r = (queue ++ [key r], found ++ [r]) from if_neg hr]
      obtain ⟨new, hnext, hnew, hall, hnodup⟩ := ih (queue ++ [key r]) (found ++ [r])
      have happend : found ++ [r] ++ new = found ++ r :: new := by simp
      rw [happend] at hnext hall hnodup
      refine ⟨r :: new, hnext.trans (by simp), fun x hx => ?_, fun x hx => ?_, fun h => hnodup ?_⟩
      · rcases List.mem_cons.mp hx with rfl | hx
        · exact List.mem_cons_self
        · exact List.mem_cons_of_mem r (hnew x hx)
      · rcases List.mem_cons.mp hx with rfl | hx
        · exact List.mem_map_of_mem (List.mem_append_right found List.mem_cons_self)
        · exact hall x hx
      · rw [List.map_append, List.nodup_append]
        refine ⟨h, List.nodup_singleton _, fun a ha b hb => ?_⟩
        rw [List.map_singleton, List.mem_singleton] at hb
        exact fun heq => hr (hb ▸ heq ▸ ha)

/-- **The collection ends**, when the keys it can find are finitely many: every round
takes one vertex from the queue, and every key is queued once. -/
theorem collect_isSome (vertices : Finset V) (hsucc : ∀ v, ∀ r ∈ succ v, key r ∈ vertices)
    (hnodup : (found.map key).Nodup) (hfound : ∀ r ∈ found, key r ∈ vertices)
    (hn : queue.length + (vertices.card - found.length) < n) :
    (collect key succ n queue found).isSome = true := by
  induction n generalizing queue found with
  | zero => omega
  | succ n ih =>
    cases queue with
    | nil => rfl
    | cons v queue =>
      obtain ⟨new, hnext, hnew, -, hnodup'⟩ := foldl_enqueue_spec key (succ v) queue found
      simp only [collect, hnext]
      have hfound' : ∀ r ∈ found ++ new, key r ∈ vertices := by
        intro r hr
        rcases List.mem_append.mp hr with hr | hr
        · exact hfound r hr
        · exact hsucc v r (hnew r hr)
      refine ih (hnodup' hnodup) hfound' ?_
      have hcard : (found ++ new).length ≤ vertices.card := by
        have hsub : ((found ++ new).map key).toFinset ⊆ vertices := by
          intro w hw
          obtain ⟨r, hr, rfl⟩ := List.mem_map.mp (List.mem_toFinset.mp hw)
          exact hfound' r hr
        have hle := Finset.card_le_card hsub
        rwa [List.toFinset_card_of_nodup (hnodup' hnodup), List.length_map] at hle
      simp only [List.length_cons, List.length_append, List.length_map] at hn hcard ⊢
      omega

/-- What is collected are successors, no two with one key. -/
theorem collect_spec (hnodup : (found.map key).Nodup)
    (h : collect key succ n queue found = some found') :
    (found'.map key).Nodup ∧ ∀ r ∈ found', r ∈ found ∨ ∃ v, r ∈ succ v := by
  induction n generalizing queue found with
  | zero => cases h
  | succ n ih =>
    cases queue with
    | nil => exact Option.some.inj h ▸ ⟨hnodup, fun r hr => Or.inl hr⟩
    | cons v queue =>
      obtain ⟨new, hnext, hnew, -, hnodup'⟩ := foldl_enqueue_spec key (succ v) queue found
      simp only [collect, hnext] at h
      obtain ⟨hfound, hmem⟩ := ih (hnodup' hnodup) h
      refine ⟨hfound, fun r hr => ?_⟩
      rcases hmem r hr with hr | hr
      · exact (List.mem_append.mp hr).imp_right fun hr => ⟨v, hnew r hr⟩
      · exact Or.inr hr

/-- What is collected is reached from the start by one edge or more. -/
theorem reachable_of_collect
    (hqueue : ∀ v ∈ queue, ReflTransGen (Edge (fun v => (succ v).map key)) start v)
    (hfound : ∀ r ∈ found, TransGen (Edge (fun v => (succ v).map key)) start (key r))
    (h : collect key succ n queue found = some found') :
    ∀ r ∈ found', TransGen (Edge (fun v => (succ v).map key)) start (key r) := by
  induction n generalizing queue found with
  | zero => cases h
  | succ n ih =>
    cases queue with
    | nil => exact Option.some.inj h ▸ hfound
    | cons v queue =>
      obtain ⟨new, hnext, hnew, -, -⟩ := foldl_enqueue_spec key (succ v) queue found
      simp only [collect, hnext] at h
      have hreached : ∀ r ∈ new, TransGen (Edge (fun v => (succ v).map key)) start (key r) :=
        fun r hr => TransGen.tail' (hqueue v List.mem_cons_self)
          (List.mem_map_of_mem (hnew r hr))
      refine ih (fun w hw => ?_) (fun r hr => ?_) h
      · rcases List.mem_append.mp hw with hw | hw
        · exact hqueue w (List.mem_cons_of_mem v hw)
        · obtain ⟨r, hr, rfl⟩ := List.mem_map.mp hw
          exact (hreached r hr).to_reflTransGen
      · rcases List.mem_append.mp hr with hr | hr
        · exact hfound r hr
        · exact hreached r hr

/-- What is collected holds the successors of the start and of its own rows: those
of what was found before are found, or wait in the queue. -/
theorem closed_of_collect
    (hinv : ∀ v, v = start ∨ v ∈ found.map key →
      v ∈ queue ∨ ∀ r ∈ succ v, key r ∈ found.map key)
    (h : collect key succ n queue found = some found') :
    ∀ v, v = start ∨ v ∈ found'.map key → ∀ r ∈ succ v, key r ∈ found'.map key := by
  induction n generalizing queue found with
  | zero => cases h
  | succ n ih =>
    cases queue with
    | nil =>
      obtain rfl := Option.some.inj h
      exact fun v hv => (hinv v hv).resolve_left List.not_mem_nil
    | cons v queue =>
      obtain ⟨new, hnext, -, hall, -⟩ := foldl_enqueue_spec key (succ v) queue found
      simp only [collect, hnext] at h
      have hmore : ∀ {w}, w ∈ found.map key → w ∈ (found ++ new).map key := by
        intro w hw
        rw [List.map_append]
        exact List.mem_append_left _ hw
      refine ih (fun w hw => ?_) h
      have hcases : (w = start ∨ w ∈ found.map key) ∨ w ∈ new.map key := by
        rw [List.map_append, List.mem_append] at hw
        exact or_assoc.mpr hw
      rcases hcases with hold | hnew
      · rcases hinv w hold with hqueued | hfound
        · rcases List.mem_cons.mp hqueued with rfl | hqueued
          · exact Or.inr hall
          · exact Or.inl (List.mem_append_left _ hqueued)
        · exact Or.inr (fun r hr => hmore (hfound r hr))
      · exact Or.inl (List.mem_append_right _ hnew)

/-- **The collection is what the start reaches** by one edge or more. -/
theorem mem_collect_iff (h : collect key succ n [start] [] = some found) {v : V} :
    v ∈ found.map key ↔ TransGen (Edge (fun v => (succ v).map key)) start v := by
  constructor
  · intro hv
    obtain ⟨r, hr, rfl⟩ := List.mem_map.mp hv
    refine reachable_of_collect (fun w hw => ?_) (by simp) h r hr
    rw [List.mem_singleton.mp hw]
  · intro hreach
    have hclosed := closed_of_collect (fun w hw => by
      rcases hw with rfl | hw
      · exact Or.inl (List.mem_singleton_self _)
      · cases hw) h
    induction hreach with
    | single hedge =>
      obtain ⟨r, hr, rfl⟩ := List.mem_map.mp hedge
      exact hclosed start (Or.inl rfl) r hr
    | tail _ hedge ih =>
      obtain ⟨r, hr, rfl⟩ := List.mem_map.mp hedge
      exact hclosed _ (Or.inr ih) r hr

end Collect

/-! ## Graphs without cycles -/

/-- **No cycle**: no vertex reaches itself by one edge or more. -/
def Acyclic (r : V → V → Prop) : Prop := ∀ v, ¬ TransGen r v v

theorem Acyclic.mono {r s : V → V → Prop} (h : Acyclic r) (hs : ∀ a b, s a b → r a b) :
    Acyclic s :=
  fun v hv => h v (TransGen.mono hs v v hv)

/-- A graph and one edge more. -/
def InsertEdge (r : V → V → Prop) (u v : V) (a b : V) : Prop := r a b ∨ (a = u ∧ b = v)

/-- A path that may use a new edge avoids it, or reaches its tail and leaves
from its head without it. -/
theorem reflTransGen_insertEdge {r : V → V → Prop} {u v a b : V}
    (h : ReflTransGen (InsertEdge r u v) a b) :
    ReflTransGen r a b ∨ (ReflTransGen r a u ∧ ReflTransGen r v b) := by
  induction h with
  | refl => exact Or.inl .refl
  | tail _ hedge ih =>
    rcases hedge with hedge | ⟨rfl, rfl⟩
    · exact ih.imp (·.tail hedge) (fun h => ⟨h.1, h.2.tail hedge⟩)
    · exact Or.inr ⟨ih.elim id And.left, .refl⟩

/-- **A new edge closes no cycle** when its tail is not reachable from its
head. -/
theorem Acyclic.insert {r : V → V → Prop} (h : Acyclic r) {u v : V}
    (huv : ¬ ReflTransGen r v u) : Acyclic (InsertEdge r u v) := by
  intro x hx
  obtain ⟨y, hxy, hyx⟩ := TransGen.head'_iff.mp hx
  rcases hxy with hxy | ⟨rfl, rfl⟩
  · rcases reflTransGen_insertEdge hyx with hyx | ⟨hyu, hvx⟩
    · exact h x (TransGen.head' hxy hyx)
    · exact huv (hvx.trans (.head hxy hyu))
  · exact huv ((reflTransGen_insertEdge hyx).elim id And.left)

end Worklist
