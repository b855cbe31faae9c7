import Mathlib.Algebra.BigOperators.Group.List.Basic
import Mathlib.Data.List.Nodup
import Mathlib.Data.List.Sort

/-!
# Tables

A table is a list of rows. `Table.update` is SQL's `UPDATE … SET … WHERE …`
and `Table.find` a lookup by key. A key is unique when its column has no
duplicate (`Table.Unique`), which is what makes a lookup agree with
membership (`Table.find_eq_some_iff`) and what every update that leaves the
key alone preserves.
-/

variable {α κ : Type*}

namespace Table

/-- **Update where**: the rows the predicate selects are rewritten, the others
stay, and no row moves. -/
def update (p : α → Bool) (f : α → α) (t : List α) : List α :=
  t.map (fun a => if p a then f a else a)

/-- The first row carrying a key. -/
def find [DecidableEq κ] (key : α → κ) (k : κ) (t : List α) : Option α :=
  t.find? (fun a => decide (key a = k))

/-- **A key column without duplicates.** -/
def Unique (key : α → κ) (t : List α) : Prop := (t.map key).Nodup

instance [DecidableEq κ] (key : α → κ) (t : List α) : Decidable (Unique key t) :=
  inferInstanceAs (Decidable (t.map key).Nodup)

theorem mem_update {p : α → Bool} {f : α → α} {t : List α} {b : α} :
    b ∈ update p f t ↔ ∃ a ∈ t, (if p a then f a else a) = b :=
  List.mem_map

/-- A row of the updated table is a rewritten selected row or an old row that
was not selected. -/
theorem mem_update_iff {p : α → Bool} {f : α → α} {t : List α} {b : α} :
    b ∈ update p f t
      ↔ (∃ a ∈ t, p a = true ∧ f a = b) ∨ (b ∈ t ∧ p b = false) := by
  rw [mem_update]
  constructor
  · rintro ⟨a, ha, rfl⟩
    cases hp : p a with
    | true => exact Or.inl ⟨a, ha, hp, by simp⟩
    | false => exact Or.inr ⟨by simpa using ha, by simpa using hp⟩
  · rintro (⟨a, ha, hp, rfl⟩ | ⟨hb, hp⟩)
    · exact ⟨a, ha, by simp [hp]⟩
    · exact ⟨b, hb, by simp [hp]⟩

/-- A column the rewriting leaves alone is unchanged by the update. -/
theorem map_update {β : Type*} {p : α → Bool} {f : α → α} {g : α → β}
    (hg : ∀ a, g (f a) = g a) (t : List α) :
    (update p f t).map g = t.map g := by
  rw [update, List.map_map]
  refine List.map_congr_left (fun a _ => ?_)
  simp only [Function.comp_apply]
  split
  · exact hg a
  · rfl

theorem Unique.update {key : α → κ} {p : α → Bool} {f : α → α} {t : List α}
    (h : Unique key t) (hf : ∀ a, key (f a) = key a) :
    Unique key (Table.update p f t) := by
  unfold Unique
  rwa [map_update hf]

/-- **Two updates that write the same** are one, of the rows that either
selects. -/
theorem update_update {p q : α → Bool} {f : α → α} (hf : ∀ a, f (f a) = f a) (t : List α) :
    update q f (update p f t) = update (fun a => p a || q a) f t := by
  rw [update, update, List.map_map, update]
  refine List.map_congr_left (fun a _ => ?_)
  cases hp : p a <;> simp [hp, hf]

/-- Two updates of the same rows, one after the other. -/
theorem update_update_comp {p : α → Bool} {f g : α → α} (hp : ∀ a, p (f a) = p a) (t : List α) :
    update p g (update p f t) = update p (fun a => g (f a)) t := by
  rw [update, update, List.map_map, update]
  refine List.map_congr_left (fun a _ => ?_)
  cases h : p a <;> simp [h, hp]

/-- An update made twice. -/
theorem update_idem {p : α → Bool} {f : α → α} (hf : ∀ a, f (f a) = f a) (t : List α) :
    update p f (update p f t) = update p f t := by
  rw [update_update hf]
  simp

/-- An update whose predicate selects the same rows. -/
theorem update_congr {p q : α → Bool} {f : α → α} {t : List α} (h : ∀ a ∈ t, p a = q a) :
    update p f t = update q f t :=
  List.map_congr_left (fun a ha => by rw [h a ha])

/-- An update that moves no row in or out of a selection. -/
theorem filter_update {p q : α → Bool} {f : α → α} (hq : ∀ a, q (f a) = q a) (t : List α) :
    (update p f t).filter q = update p f (t.filter q) := by
  rw [update, List.filter_map, update]
  refine congrArg _ (congrArg (List.filter · t) (funext fun a => ?_))
  show q (if p a = true then f a else a) = q a
  split
  · exact hq a
  · rfl

/-- The updated rows. -/
theorem filter_update_self {p : α → Bool} {f : α → α} (hf : ∀ a, p (f a) = p a) (t : List α) :
    (update p f t).filter p = (t.filter p).map f := by
  rw [filter_update hf]
  exact List.map_congr_left (fun a ha => if_pos (List.of_mem_filter ha))

/-- An update of rows that a selection leaves out. -/
theorem filter_update_of_disjoint {p q : α → Bool} {f : α → α}
    (h : ∀ a, p a = true → q a = false ∧ q (f a) = false) (t : List α) :
    (update p f t).filter q = t.filter q := by
  induction t with
  | nil => rfl
  | cons a t ih =>
    rw [update, List.map_cons]
    cases hp : p a with
    | false =>
      rw [if_neg Bool.false_ne_true, List.filter_cons, List.filter_cons]
      exact congrArg (fun rest => if q a then a :: rest else rest) ih
    | true =>
      obtain ⟨hq, hq'⟩ := h a hp
      rw [if_pos rfl, List.filter_cons_of_neg (by simp [hq']),
        List.filter_cons_of_neg (by simp [hq])]
      exact ih

/-- An update that rewrites no row. -/
theorem update_eq_self {p : α → Bool} {f : α → α} {t : List α}
    (h : ∀ a ∈ t, p a = true → f a = a) : update p f t = t := by
  refine (List.map_congr_left (fun a ha => ?_)).trans (List.map_id t)
  show (if p a = true then f a else a) = a
  split
  · next hp => exact h a ha hp
  · rfl

theorem Unique.filter {key : α → κ} {t : List α} (h : Unique key t)
    (p : α → Bool) : Unique key (t.filter p) :=
  h.sublist (List.filter_sublist.map key)

/-- Appending a row with an unused key keeps the key unique. -/
theorem Unique.append_one {key : α → κ} {t : List α} (h : Unique key t) {a : α}
    (ha : ∀ b ∈ t, key b ≠ key a) : Unique key (t ++ [a]) := by
  unfold Unique
  rw [List.map_append, List.nodup_append]
  refine ⟨h, List.nodup_singleton _, ?_⟩
  intro x hx y hy
  obtain ⟨b, hb, rfl⟩ := List.mem_map.mp hx
  rw [List.mem_singleton.mp hy]
  exact ha b hb

/-- Two rows with the same unique key are the same row. -/
theorem Unique.eq_of_key {key : α → κ} {t : List α} (h : Unique key t)
    {a b : α} (ha : a ∈ t) (hb : b ∈ t) (hk : key a = key b) : a = b :=
  List.inj_on_of_nodup_map h ha hb hk

/-- **One row is rewritten**: the updated table holds it and the others. -/
theorem Unique.mem_update_key [DecidableEq κ] {key : α → κ} {t : List α} (h : Unique key t)
    {a : α} (ha : a ∈ t) {f : α → α} {b : α} :
    b ∈ Table.update (fun r => key r = key a) f t ↔ b = f a ∨ (b ∈ t ∧ key b ≠ key a) := by
  rw [mem_update_iff]
  simp only [decide_eq_true_eq, decide_eq_false_iff_not]
  refine or_congr_left ⟨?_, fun hb => ⟨a, ha, rfl, hb.symm⟩⟩
  rintro ⟨c, hc, hk, rfl⟩
  rw [h.eq_of_key hc ha hk]

/-- **The rows of a unique key**: none or one. -/
theorem Unique.filter_cases [DecidableEq κ] {key : α → κ} {t : List α} (h : Unique key t) (k : κ) :
    t.filter (fun a => key a = k) = []
      ∨ ∃ a ∈ t, key a = k ∧ t.filter (fun a => key a = k) = [a] := by
  induction t with
  | nil => exact Or.inl rfl
  | cons c t ih =>
    obtain ⟨hc, ht⟩ := List.nodup_cons.mp h
    by_cases hk : key c = k
    · refine Or.inr ⟨c, List.mem_cons_self, hk, ?_⟩
      rw [List.filter_cons_of_pos (by simpa using hk)]
      refine congrArg (c :: ·) (List.filter_eq_nil_iff.mpr fun a ha hak => hc ?_)
      rw [hk, ← of_decide_eq_true hak]
      exact List.mem_map_of_mem ha
    · rw [List.filter_cons_of_neg (by simpa using hk)]
      exact (ih ht).imp_right fun ⟨a, ha, hrest⟩ => ⟨a, List.mem_cons_of_mem _ ha, hrest⟩

/-- **A sum over the rows** when one of them counts for something else. -/
theorem Unique.sum_map_change {M : Type*} [AddCommMonoid M] {key : α → κ} {t : List α}
    (h : Unique key t) {a : α} (ha : a ∈ t) {f g : α → M}
    (hfg : ∀ b ∈ t, key b ≠ key a → g b = f b) :
    (t.map g).sum + f a = (t.map f).sum + g a := by
  induction t with
  | nil => cases ha
  | cons c t ih =>
    obtain ⟨hc, ht⟩ := List.nodup_cons.mp h
    have hother : ∀ b ∈ t, key b ≠ key c := fun b hb hk => hc (hk ▸ List.mem_map_of_mem hb)
    rw [List.map_cons, List.map_cons, List.sum_cons, List.sum_cons]
    rcases List.mem_cons.mp ha with rfl | ha
    · rw [List.map_congr_left (fun b hb => hfg b (List.mem_cons_of_mem _ hb) (hother b hb)),
        add_right_comm, add_comm (g a), add_right_comm]
    · have hrest := ih ht ha (fun b hb => hfg b (List.mem_cons_of_mem _ hb))
      rw [hfg c List.mem_cons_self (hother a ha).symm, add_assoc, hrest, add_assoc]

/-- Rows that are selected by one of two conditions, and never by both. -/
theorem sum_filter_or {β M : Type*} [AddCommMonoid M] {p q : β → Bool} {g : β → M} {xs : List β}
    (h : ∀ x, p x = true → q x = false) :
    ((xs.filter p).map g).sum + ((xs.filter q).map g).sum
      = ((xs.filter (fun x => p x || q x)).map g).sum := by
  induction xs with
  | nil => simp
  | cons x xs ih =>
    cases hp : p x with
    | true => simp [hp, h x hp, ← ih, add_assoc]
    | false =>
      cases hq : q x with
      | true => simp [hp, hq, ← ih, add_left_comm]
      | false => simp [hp, hq, ih]

/-- **Rows and the rows they own**: what each row of a unique key owns adds up
to what is owned by one of them. -/
theorem Unique.sum_children {β M : Type*} [AddCommMonoid M] [DecidableEq κ] {key : α → κ}
    {t : List α} (h : Unique key t) (parent : β → κ) (g : β → M) (xs : List β) :
    (t.map (fun a => ((xs.filter (fun x => parent x = key a)).map g).sum)).sum
      = ((xs.filter (fun x => ∃ a ∈ t, parent x = key a)).map g).sum := by
  induction t with
  | nil => simp
  | cons a t ih =>
    obtain ⟨hnew, hrest⟩ := List.nodup_cons.mp h
    rw [List.map_cons, List.sum_cons, ih hrest, sum_filter_or]
    · refine congrArg (fun p => ((xs.filter p).map g).sum) (funext fun x => ?_)
      simp
    · intro x hx
      refine decide_eq_false (fun ⟨b, hb, hkey⟩ => hnew ?_)
      exact List.mem_map.mpr ⟨b, hb, hkey.symm.trans (of_decide_eq_true hx)⟩

section Find

variable [DecidableEq κ] {key : α → κ} {k : κ} {t : List α} {a : α}

theorem find_mem (h : find key k t = some a) : a ∈ t := List.mem_of_find?_eq_some h

theorem find_key (h : find key k t = some a) : key a = k := by
  simpa using List.find?_some h

/-- **A lookup by a unique key is membership.** -/
theorem find_eq_some_iff (h : Unique key t) :
    find key k t = some a ↔ a ∈ t ∧ key a = k := by
  constructor
  · exact fun hf => ⟨find_mem hf, find_key hf⟩
  · rintro ⟨ha, rfl⟩
    cases hf : find key (key a) t with
    | none =>
      have := List.find?_eq_none.mp hf a ha
      simp at this
    | some b => rw [h.eq_of_key (find_mem hf) ha (find_key hf)]

theorem find_eq_none_iff : find key k t = none ↔ ∀ b ∈ t, key b ≠ k := by
  unfold find
  rw [List.find?_eq_none]
  simp

/-- The lookup in an updated table, when the update keeps the key. -/
theorem find_update {p : α → Bool} {f : α → α} (hf : ∀ a, key (f a) = key a) :
    find key k (update p f t) = (find key k t).map (fun a => if p a then f a else a) := by
  rw [find, update, List.find?_map]
  refine congrArg (Option.map _) (congrArg (List.find? · t) (funext (fun a => ?_)))
  simp only [Function.comp_apply]
  split <;> simp [hf]

/-- A row appended with a new key is found. -/
theorem find_append_self (h : find key (key a) t = none) :
    find key (key a) (t ++ [a]) = some a := by
  unfold find at h ⊢
  rw [List.find?_append, h, Option.none_or, List.find?_cons_of_pos (by simp)]

/-- A row appended with another key is not found. -/
theorem find_append_of_ne (h : key a ≠ k) : find key k (t ++ [a]) = find key k t := by
  rw [find, List.find?_append, List.find?_cons_of_neg (by simpa using h), List.find?_nil,
    Option.or_none]
  rfl

end Find

/-! ## Saving one row -/

section Save

variable [DecidableEq κ] {key : α → κ} {k : κ} {t : List α} {a b : α}

/-- **Save a row**: it replaces the row with its key. -/
def save (key : α → κ) (a : α) (t : List α) : List α :=
  update (fun b => key b = key a) (fun _ => a) t

/-- A row of the saved table is the saved one or an old one with another key. -/
theorem mem_save (h : b ∈ save key a t) : b = a ∨ (b ∈ t ∧ key b ≠ key a) := by
  rcases mem_update_iff.mp h with ⟨c, _, _, rfl⟩ | ⟨hb, hk⟩
  · exact Or.inl rfl
  · exact Or.inr ⟨hb, by simpa using hk⟩

/-- A row with another key stays. -/
theorem mem_save_of_ne (hb : b ∈ t) (hk : key b ≠ key a) : b ∈ save key a t :=
  mem_update_iff.mpr (Or.inr ⟨hb, by simpa using hk⟩)

/-- A row that replaces one is in the table. -/
theorem mem_save_self (hb : b ∈ t) (hk : key b = key a) : a ∈ save key a t :=
  mem_update_iff.mpr (Or.inl ⟨b, hb, by simpa using hk, rfl⟩)

/-- Saving moves no key. -/
theorem map_key_save (a : α) (t : List α) : (save key a t).map key = t.map key := by
  rw [save, update, List.map_map]
  refine List.map_congr_left (fun b _ => ?_)
  show key (if decide (key b = key a) = true then a else b) = key b
  split
  · next h => exact (of_decide_eq_true h).symm
  · rfl

theorem Unique.save (h : Unique key t) (a : α) : Unique key (Table.save key a t) := by
  unfold Unique
  rwa [map_key_save]

/-- A saved row that a selection leaves out, replaces the row it selected. -/
theorem filter_save_of_neg {p : α → Bool} (ha : p a = false) :
    (save key a t).filter p = t.filter (fun b => p b && decide (key b ≠ key a)) := by
  induction t with
  | nil => rfl
  | cons b t ih =>
    show ((if decide (key b = key a) = true then a else b) :: save key a t).filter p = _
    by_cases hk : key b = key a
    · rw [if_pos (decide_eq_true hk), List.filter_cons_of_neg (by simp [ha]),
        List.filter_cons_of_neg (by simp [hk]), ih]
    · rw [if_neg (by simp [hk]), List.filter_cons, List.filter_cons, ih]
      simp [hk]

/-- Saving a row as it is changes nothing. -/
theorem save_eq_self (h : Unique key t) (ha : a ∈ t) : save key a t = t := by
  rw [save, update, List.map_congr_left (g := id), List.map_id]
  intro b hb
  by_cases hk : key b = key a
  · simpa [hk] using (h.eq_of_key hb ha hk).symm
  · simp [hk]

/-- **Saving changes nothing** exactly when the saved row is the stored one. -/
theorem Unique.save_eq_iff (h : Unique key t) (ha : a ∈ t) (hk : key b = key a) :
    Table.save key b t = t ↔ b = a := by
  constructor
  · intro hsame
    exact h.eq_of_key (hsame ▸ mem_save_self ha hk.symm) ha hk
  · rintro rfl
    exact save_eq_self h ha

/-- Saving a row moves it in or out of a selection, or neither. -/
theorem length_filter_save (h : Unique key t) (hb : b ∈ t) (hk : key b = key a) {p : α → Bool}
    (hp : p b = p a) : ((save key a t).filter p).length = (t.filter p).length := by
  rw [← List.countP_eq_length_filter, ← List.countP_eq_length_filter, save, update,
    List.countP_map]
  refine List.countP_congr (fun c hc => ?_)
  by_cases hck : key c = key a
  · rw [h.eq_of_key hc hb (hck.trans hk.symm)]
    simp [hk, hp]
  · simp [hck]

/-- The lookup of the saved row. -/
theorem find_save_self (hf : find key (key a) t = some b) :
    find key (key a) (save key a t) = some a := by
  induction t with
  | nil => cases hf
  | cons c t ih =>
    show ((if decide (key c = key a) = true then a else c) :: save key a t).find? _ = some a
    by_cases hc : key c = key a
    · simp [hc]
    · have hf' : find key (key a) t = some b := by
        simpa [find, List.find?_cons, hc] using hf
      simpa [find, hc] using ih hf'

/-- The lookup of another row. -/
theorem find_save_of_ne (hk : k ≠ key a) : find key k (save key a t) = find key k t := by
  induction t with
  | nil => rfl
  | cons c t ih =>
    show ((if decide (key c = key a) = true then a else c) :: save key a t).find? _ = _
    by_cases hc : key c = key a
    · simpa [find, List.find?_cons, hc, hk.symm] using ih
    · by_cases hck : key c = k
      · simp [find, hck, hk]
      · simpa [find, List.find?_cons, hc, hck] using ih

/-- The lookup by another column of a row that was saved with the same value
there. -/
theorem find_save_other {ι : Type*} [DecidableEq ι] {key' : α → ι} {i : ι}
    (hf : find key' i t = some b) (hk : key a = key b) (hi : key' a = i) :
    find key' i (save key a t) = some a := by
  induction t with
  | nil => cases hf
  | cons c t ih =>
    show ((if decide (key c = key a) = true then a else c) :: save key a t).find? _ = some a
    by_cases hc : key c = key a
    · simp [hc, hi]
    · have hci : key' c ≠ i := by
        intro hci
        -- the first row that carries `i` is the one that is saved
        have hcb : c = b := by simpa [find, List.find?_cons, hci] using hf
        exact hc (hcb ▸ hk.symm)
      have hf' : find key' i t = some b := by
        simpa [find, List.find?_cons, hci] using hf
      simpa [find, hc, hci] using ih hf'

end Save

/-! ## Ordering rows -/

section Order

variable {r : α → α → Prop} [DecidableRel r] [Std.Total r] [IsTrans α r]

omit [Std.Total r] in
/-- A selected row is inserted among the selected rows. -/
theorem filter_orderedInsert (p : α → Bool) {a : α} {t : List α} (ht : t.Pairwise r) :
    (t.orderedInsert r a).filter p
      = if p a then (t.filter p).orderedInsert r a else t.filter p := by
  induction t with
  | nil => cases hp : p a <;> simp [hp]
  | cons b t ih =>
    obtain ⟨hb, ht⟩ := List.pairwise_cons.mp ht
    rw [List.orderedInsert_cons]
    by_cases hab : r a b
    · rw [if_pos hab]
      cases hp : p a with
      | false => simp [hp]
      | true =>
        -- the first selected row is the one met, or comes after it
        have hfirst : ∀ c ∈ (b :: t).filter p, r a c := by
          intro c hc
          rcases List.mem_cons.mp (List.mem_of_mem_filter hc) with rfl | hc
          · exact hab
          · exact IsTrans.trans a b c hab (hb c hc)
        rw [List.filter_cons_of_pos hp, if_pos rfl]
        cases hsel : (b :: t).filter p with
        | nil => rfl
        | cons c _ => rw [List.orderedInsert_cons, if_pos (hfirst c (by simp [hsel]))]
    · rw [if_neg hab]
      cases hpb : p b with
      | false =>
        rw [List.filter_cons_of_neg (by simp [hpb]), List.filter_cons_of_neg (by simp [hpb]), ih ht]
      | true =>
        rw [List.filter_cons_of_pos hpb, List.filter_cons_of_pos hpb, ih ht]
        cases hp : p a with
        | false => rfl
        | true => rw [if_pos rfl, if_pos rfl, List.orderedInsert_cons, if_neg hab]

/-- **Ordering the selected rows** selects from the ordered ones. -/
theorem insertionSort_filter (p : α → Bool) (t : List α) :
    (t.filter p).insertionSort r = (t.insertionSort r).filter p := by
  induction t with
  | nil => rfl
  | cons a t ih =>
    rw [List.insertionSort_cons, filter_orderedInsert p (List.pairwise_insertionSort r t), ← ih]
    cases hp : p a <;> simp [hp]

end Order

end Table
