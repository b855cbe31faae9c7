import Clarisal.Lib.Table
import Mathlib.Algebra.BigOperators.Group.List.Basic
import Mathlib.Data.List.Perm.Basic
import Mathlib.Data.List.Sort

/-!
# Dictionaries

A dictionary is the list of its entries, in the order their keys were first
set: a table whose key is the first component. `Dict.alter` sets a key from the
value it had.

A loop that alters one entry for each element of a list is `Dict.collect`. What
it leaves under a key is what the same loop makes of the elements with that key
alone (`get_collect`), so several such loops over one list agree, key by key,
on the elements they have seen. `Dict.group` collects the elements themselves,
and loses none (`perm_group`).
-/

variable {κ α β : Type*} [DecidableEq κ]

namespace Dict

/-- The value of a key. -/
def get (k : κ) (d : List (κ × α)) : Option α := (Table.find Prod.fst k d).map Prod.snd

/-- **Set a key** from the value it had. A key that is set again keeps its
place. -/
def alter (k : κ) (f : Option α → α) : List (κ × α) → List (κ × α)
  | [] => [(k, f none)]
  | e :: d => if e.1 = k then (k, f (some e.2)) :: d else e :: alter k f d

/-- The keys, in the order they were set. -/
def keys (d : List (κ × α)) : List κ := d.map Prod.fst

section

variable {k k' : κ} {a : α} {f : Option α → α} {d : List (κ × α)}

omit [DecidableEq κ] in
@[simp] theorem keys_nil : keys ([] : List (κ × α)) = [] := rfl

@[simp] theorem get_nil : get k ([] : List (κ × α)) = none := rfl

theorem get_cons (e : κ × α) : get k (e :: d) = if e.1 = k then some e.2 else get k d := by
  unfold get Table.find
  by_cases h : e.1 = k <;> simp [h]

@[simp] theorem get_alter_self : get k (alter k f d) = some (f (get k d)) := by
  induction d with
  | nil => simp [alter, get_cons]
  | cons e d ih =>
    rw [alter]
    by_cases h : e.1 = k <;> simp [h, get_cons, ih]

theorem get_alter_of_ne (hne : k' ≠ k) : get k' (alter k f d) = get k' d := by
  induction d with
  | nil => simp [alter, get_cons, hne.symm]
  | cons e d ih =>
    rw [alter]
    by_cases h : e.1 = k
    · simp [h, get_cons, hne.symm]
    · simp [h, get_cons, ih]

theorem keys_alter : keys (alter k f d) = if k ∈ keys d then keys d else keys d ++ [k] := by
  induction d with
  | nil => rfl
  | cons e d ih =>
    rw [alter]
    by_cases h : e.1 = k
    · simp [h, keys]
    · rw [if_neg h]
      show e.1 :: keys (alter k f d) = _
      have hmem : k ∈ keys (e :: d) ↔ k ∈ keys d := by
        rw [show keys (e :: d) = e.1 :: keys d from rfl, List.mem_cons, or_iff_right (Ne.symm h)]
      rw [ih]
      by_cases hk : k ∈ keys d
      · rw [if_pos hk, if_pos (hmem.mpr hk)]
        rfl
      · rw [if_neg hk, if_neg (mt hmem.mp hk)]
        rfl

theorem mem_keys_alter : k' ∈ keys (alter k f d) ↔ k' = k ∨ k' ∈ keys d := by
  rw [keys_alter]
  split
  · next h => exact ⟨Or.inr, fun h' => h'.elim (· ▸ h) id⟩
  · rw [List.mem_append, List.mem_singleton, or_comm]

/-- Another entry was there before. -/
theorem mem_of_mem_alter {e : κ × α} (he : e ∈ alter k f d) (hne : e.1 ≠ k) : e ∈ d := by
  induction d with
  | nil => exact absurd (congrArg Prod.fst (List.mem_singleton.mp he)) hne
  | cons e' d ih =>
    rw [alter] at he
    split at he
    · rcases List.mem_cons.mp he with rfl | he
      · exact absurd rfl hne
      · exact List.mem_cons_of_mem e' he
    · rcases List.mem_cons.mp he with rfl | he
      · exact List.mem_cons_self
      · exact List.mem_cons_of_mem e' (ih he)

theorem nodup_alter (h : (keys d).Nodup) : (keys (alter k f d)).Nodup := by
  rw [keys_alter]
  split
  · exact h
  · next hk => exact h.append (List.nodup_singleton k) (by simpa using hk)

/-- **An entry is what its key has.** -/
theorem get_eq_some_iff (h : (keys d).Nodup) : get k d = some a ↔ (k, a) ∈ d := by
  unfold get
  rw [Option.map_eq_some_iff]
  constructor
  · rintro ⟨e, he, rfl⟩
    obtain ⟨hmem, rfl⟩ := (Table.find_eq_some_iff h).mp he
    exact hmem
  · exact fun hmem => ⟨(k, a), (Table.find_eq_some_iff h).mpr ⟨hmem, rfl⟩, rfl⟩

end

/-! ## Loops over a list -/

/-- **A loop that alters one entry for each element.** -/
def collect (key : β → κ) (f : Option α → β → α) (xs : List β) (d : List (κ × α)) :
    List (κ × α) :=
  xs.foldl (fun d x => alter (key x) (fun a => f a x) d) d

section

variable {key : β → κ} {f : Option α → β → α} {xs : List β} {d : List (κ × α)} {k : κ} {a : α}

/-- **What the loop leaves under a key** comes from the elements with that key. -/
theorem get_collect : get k (collect key f xs d)
    = (xs.filter (fun x => key x = k)).foldl (fun a x => some (f a x)) (get k d) := by
  induction xs generalizing d with
  | nil => rfl
  | cons x xs ih =>
    show get k (collect key f xs _) = _
    rw [ih]
    by_cases h : key x = k
    · subst h
      simp
    · rw [get_alter_of_ne (Ne.symm h), List.filter_cons_of_neg (by simpa using h)]

theorem mem_keys_collect : k ∈ keys (collect key f xs d) ↔ (∃ x ∈ xs, key x = k) ∨ k ∈ keys d := by
  induction xs generalizing d with
  | nil => simp [collect]
  | cons x xs ih =>
    show k ∈ keys (collect key f xs _) ↔ _
    rw [ih, mem_keys_alter, List.exists_mem_cons_iff, eq_comm (a := k), or_assoc, or_left_comm]

theorem nodup_keys_collect (h : (keys d).Nodup) : (keys (collect key f xs d)).Nodup := by
  induction xs generalizing d with
  | nil => exact h
  | cons x xs ih => exact ih (nodup_alter h)

theorem mem_collect : (k, a) ∈ collect key f xs []
    ↔ (xs.filter (fun x => key x = k)).foldl (fun a x => some (f a x)) none = some a := by
  have hnodup : (keys (collect key f xs [])).Nodup := nodup_keys_collect (by simp)
  rw [← get_eq_some_iff hnodup, get_collect, get_nil]

end

/-! ## Totals -/

section

variable {M : Type*} [AddCommMonoid M]

/-- A running total that starts at zero. -/
theorem foldl_total (g : β → M) (xs : List β) (a : Option M) :
    (xs.foldl (fun a x => some (a.getD 0 + g x)) a).getD 0 = a.getD 0 + (xs.map g).sum := by
  induction xs generalizing a with
  | nil => simp
  | cons x xs ih =>
    rw [List.foldl_cons, ih, List.map_cons, List.sum_cons, ← add_assoc]
    rfl

omit [DecidableEq κ] in
/-- Elements that add nothing need not be selected. -/
theorem sum_filter_of_zero {p : β → Bool} {g : β → M} {xs : List β}
    (h : ∀ x ∈ xs, p x = false → g x = 0) : ((xs.filter p).map g).sum = (xs.map g).sum := by
  induction xs with
  | nil => rfl
  | cons x xs ih =>
    obtain ⟨hx, hxs⟩ := List.forall_mem_cons.mp h
    rw [List.map_cons, List.sum_cons, ← ih hxs]
    cases hp : p x with
    | true => simp [hp]
    | false => simp [hp, hx hp]

/-- **The total under a key.** -/
theorem get_totals (key : β → κ) (g : β → M) (xs : List β) (k : κ) :
    (get k (collect key (fun a x => a.getD 0 + g x) xs [])).getD 0
      = ((xs.filter (fun x => key x = k)).map g).sum := by
  rw [get_collect, foldl_total]
  simp

end

/-! ## Groups -/

/-- **Every element, under its key**, in the order they come. -/
def group (key : β → κ) (xs : List β) : List (κ × List β) :=
  collect key (fun a x => a.getD [] ++ [x]) xs []

section

variable {key : β → κ} {xs : List β} {k : κ}

/-- The groups of keys that cover a list are the list. -/
theorem perm_flatMap_filter {ks : List κ} (hks : ks.Nodup) (h : ∀ x ∈ xs, key x ∈ ks) :
    (ks.flatMap (fun k => xs.filter (fun x => key x = k))).Perm xs := by
  induction ks generalizing xs with
  | nil =>
    have hnil : xs = [] := List.eq_nil_iff_forall_not_mem.mpr (fun x hx => by simpa using h x hx)
    rw [hnil]
    rfl
  | cons k ks ih =>
    obtain ⟨hk, hks⟩ := List.nodup_cons.mp hks
    rw [List.flatMap_cons]
    -- the other keys only see the elements without the first one
    have hrest : ∀ k' ∈ ks, xs.filter (fun x => key x = k')
        = (xs.filter (fun x => ¬ key x = k)).filter (fun x => key x = k') := by
      intro k' hk'
      rw [List.filter_filter]
      refine List.filter_congr (fun x _ => ?_)
      by_cases hx : key x = k'
      · have hne : k' ≠ k := fun he => hk (he ▸ hk')
        simp [hx, hne]
      · simp [hx]
    rw [List.flatMap_congr hrest]
    refine (List.Perm.append_left _ (ih hks (fun x hx => ?_))).trans ?_
    · obtain ⟨hx, hne⟩ := List.mem_filter.mp hx
      exact (List.mem_cons.mp (h x hx)).resolve_left (by simpa using hne)
    · simpa using List.filter_append_perm (fun x => decide (key x = k)) xs

/-- The elements of a group are those with its key. -/
theorem mem_group {ys : List β} : (k, ys) ∈ group key xs
    ↔ ys = xs.filter (fun x => key x = k) ∧ ys ≠ [] := by
  have hfold : ∀ (xs : List β) (a : Option (List β)),
      xs.foldl (fun a x => some (a.getD [] ++ [x])) a
        = if xs = [] then a else some (a.getD [] ++ xs) := by
    intro xs
    induction xs with
    | nil => simp
    | cons x xs ih =>
      intro a
      rw [List.foldl_cons, ih]
      by_cases hxs : xs = [] <;> simp [hxs]
  rw [group, mem_collect, hfold]
  split
  · next hnil => simp [hnil]
  · next hne =>
    constructor
    · intro h
      obtain rfl := Option.some.inj h
      exact ⟨rfl, hne⟩
    · rintro ⟨rfl, -⟩
      rfl

theorem nodup_keys_group : (keys (group key xs)).Nodup :=
  nodup_keys_collect (by simp)

theorem mem_keys_group : k ∈ keys (group key xs) ↔ ∃ x ∈ xs, key x = k := by
  simp [group, mem_keys_collect]

/-- **No element is lost**, and none is in two groups. -/
theorem perm_group : ((group key xs).flatMap Prod.snd).Perm xs := by
  have hgroup : (group key xs).flatMap Prod.snd
      = (keys (group key xs)).flatMap (fun k => xs.filter (fun x => key x = k)) := by
    rw [keys, List.flatMap_map]
    exact List.flatMap_congr (fun e he => (mem_group.mp he).1)
  rw [hgroup]
  exact perm_flatMap_filter nodup_keys_group (fun x hx => mem_keys_group.mpr ⟨x, hx, rfl⟩)

end

end Dict
