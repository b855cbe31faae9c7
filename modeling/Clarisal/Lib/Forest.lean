import Clarisal.Lib.Table
import Clarisal.Lib.Worklist
import Mathlib.Data.List.Forall2
import Mathlib.Data.List.Flatten

/-!
# Forests of a table

The rows of a table name a parent each, which may be none, a key that the table does not have,
or part of a cycle. `Forest.forest` grows a tree from every row without a listed parent: from
such a root no cycle is reached, so the trees always end (`forest_isSome`).

A row is in the forest when it is below a root (`mem_forest_iff`), and then once. So the forest
is the whole table exactly when no row is below itself (`perm_forest_iff`).
-/

open Relation

variable {V ρ α β : Type*}

/-! ## Relations with one successor -/

namespace Relation

section

variable {r : α → α → Prop} {a b : α}

/-- What a cycle reaches, reaches it. -/
theorem ReflTransGen.back_of_cycle (hr : Relator.RightUnique r) (h : ReflTransGen r a b)
    (ha : TransGen r a a) : ReflTransGen r b a := by
  induction h with
  | refl => exact .refl
  | @tail b c _ hedge ih =>
    obtain ⟨d, hd, hda⟩ : ∃ d, r b d ∧ ReflTransGen r d a := by
      rcases ReflTransGen.cases_head ih with rfl | hhead
      · exact TransGen.head'_iff.mp ha
      · exact hhead
    exact hr hd hedge ▸ hda

/-- Nothing that reaches an end is on a cycle. -/
theorem ReflTransGen.not_cycle_of_end (hr : Relator.RightUnique r) (h : ReflTransGen r a b)
    (hend : ∀ c, ¬ r b c) : ¬ TransGen r a a := by
  intro ha
  rcases ReflTransGen.cases_head (h.back_of_cycle hr ha) with rfl | ⟨c, hc, -⟩
  · obtain ⟨c, hc, -⟩ := TransGen.head'_iff.mp ha
    exact hend c hc
  · exact hend c hc

open Classical in
/-- What is reached inside a set. -/
noncomputable def reach (r : α → α → Prop) (s : Finset α) (a : α) : Finset α :=
  s.filter (ReflTransGen r a)

@[simp] theorem mem_reach {s : Finset α} : b ∈ reach r s a ↔ b ∈ s ∧ ReflTransGen r a b := by
  classical
  exact Finset.mem_filter

theorem reach_subset {s : Finset α} : reach r s a ⊆ s := fun _ hb => (mem_reach.mp hb).1

/-- **A step that does not lead back** reaches less. -/
theorem card_reach_lt {s : Finset α} (ha : a ∈ s) (h : r a b) (hback : ¬ ReflTransGen r b a) :
    (reach r s b).card < (reach r s a).card := by
  refine Finset.card_lt_card ((Finset.ssubset_iff_of_subset ?_).mpr ⟨a, ?_, ?_⟩)
  · intro c hc
    obtain ⟨hcs, hbc⟩ := mem_reach.mp hc
    exact mem_reach.mpr ⟨hcs, hbc.head h⟩
  · exact mem_reach.mpr ⟨ha, .refl⟩
  · exact fun hmem => hback (mem_reach.mp hmem).2

/-- **Without a cycle every walk in a finite set ends.** -/
theorem exists_end_of_acyclic {s : Finset α} (hacyclic : Worklist.Acyclic r)
    (hs : ∀ a b, r a b → b ∈ s) (ha : a ∈ s) : ∃ b ∈ s, ReflTransGen r a b ∧ ∀ c, ¬ r b c := by
  induction hn : (reach r s a).card using Nat.strong_induction_on generalizing a with
  | _ n ih =>
    by_cases hend : ∃ b, r a b
    · obtain ⟨b, hb⟩ := hend
      have hback : ¬ ReflTransGen r b a := fun h => hacyclic a (TransGen.head' hb h)
      obtain ⟨c, hc, hbc, hcend⟩ := ih _ (hn ▸ card_reach_lt ha hb hback) (hs a b hb) rfl
      exact ⟨c, hc, hbc.head hb, hcend⟩
    · exact ⟨a, ha, .refl, not_exists.mp hend⟩

end

end Relation

/-! ## Trees -/

namespace Forest

/-- A row and the trees below it. -/
inductive Tree (ρ : Type*)
  | node (row : ρ) (children : List (Tree ρ))

mutual

/-- **The rows of a tree**, from the root on. -/
def Tree.preorder : Tree ρ → List ρ
  | .node row children => row :: preorders children

/-- The rows of trees. -/
def preorders : List (Tree ρ) → List ρ
  | [] => []
  | t :: ts => t.preorder ++ preorders ts

end

theorem preorders_eq_flatMap (ts : List (Tree ρ)) : preorders ts = ts.flatMap Tree.preorder := by
  induction ts with
  | nil => rfl
  | cons t ts ih => rw [preorders, ih, List.flatMap_cons]

section

variable {f : α → Option β} {as : List α} {bs : List β}

theorem mapM_eq_some_iff : as.mapM f = some bs ↔ as.map f = bs.map some := by
  induction as generalizing bs with
  | nil => cases bs <;> simp
  | cons a as ih =>
    rw [List.mapM_cons]
    simp only [Option.bind_eq_bind, Option.bind_eq_some_iff, Option.pure_def, Option.some_inj, ih,
      List.map_cons]
    constructor
    · rintro ⟨b, hb, bs, hbs, rfl⟩
      rw [List.map_cons, hb, hbs]
    · intro h
      obtain ⟨b, bs, rfl, hb, hbs⟩ := List.map_eq_cons_iff.mp h.symm
      exact ⟨b, hb.symm, bs, hbs.symm, rfl⟩

theorem mem_of_mapM (h : as.mapM f = some bs) {b : β} : b ∈ bs ↔ ∃ a ∈ as, f a = some b := by
  rw [← List.mem_map, mapM_eq_some_iff.mp h, List.mem_map_of_injective (Option.some_injective β)]

theorem mapM_isSome (h : ∀ a ∈ as, (f a).isSome = true) : (as.mapM f).isSome = true := by
  induction as with
  | nil => rfl
  | cons a as ih =>
    obtain ⟨ha, has⟩ := List.forall_mem_cons.mp h
    obtain ⟨b, hb⟩ := Option.isSome_iff_exists.mp ha
    obtain ⟨bs, hbs⟩ := Option.isSome_iff_exists.mp (ih has)
    rw [List.mapM_cons, hb, hbs]
    rfl

/-- What holds of the results of two elements. -/
theorem pairwise_of_mapM {R : β → β → Prop} (h : as.mapM f = some bs)
    (hR : as.Pairwise (fun a a' => ∀ b b', f a = some b → f a' = some b' → R b b')) :
    bs.Pairwise R := by
  have hsome : (bs.map some).Pairwise (fun o o' => ∀ b b', o = some b → o' = some b' → R b b') := by
    rw [← mapM_eq_some_iff.mp h, List.pairwise_map]
    exact hR
  rw [List.pairwise_map] at hsome
  exact hsome.imp fun hbb' => hbb' _ _ rfl rfl

end

section

variable [DecidableEq V] (rows : List ρ) (key : ρ → V) (parent : ρ → Option V)
  (sort : List ρ → List ρ)

/-- The rows that name a key, sorted. -/
def children (k : V) : List ρ := sort (rows.filter (fun r => parent r = some k))

/-- The rows that name no key of the table, sorted. -/
def roots : List ρ := sort (rows.filter (fun r => ∀ k ∈ parent r, k ∉ rows.map key))

/-- The tree below a row, if it has no more levels than there is fuel. -/
def build : ℕ → ρ → Option (Tree ρ)
  | 0, _ => none
  | n + 1, r => ((children rows parent sort (key r)).mapM (build n)).map (.node r)

/-- **The forest of a table.** -/
def forest : Option (List (Tree ρ)) :=
  (roots rows key parent sort).mapM (build rows key parent sort rows.length)

/-- A row names another. -/
def Up (a b : V) : Prop := ∃ r ∈ rows, key r = a ∧ parent r = some b ∧ b ∈ rows.map key

variable {rows key parent sort} {n : ℕ} {r x : ρ} {t : Tree ρ} {ts : List (Tree ρ)}

omit [DecidableEq V] in
theorem up_rightUnique (hkeys : Table.Unique key rows) :
    Relator.RightUnique (Up rows key parent) := by
  rintro a b c ⟨r, hr, rfl, hb, -⟩ ⟨r', hr', hkey, hc, -⟩
  obtain rfl := hkeys.eq_of_key hr' hr hkey
  exact Option.some.inj (hb.symm.trans hc)

omit [DecidableEq V] in
theorem up_mem_right {a b : V} (h : Up rows key parent a b) : b ∈ rows.map key := by
  obtain ⟨-, -, -, -, hb⟩ := h
  exact hb

section

variable (hsort : ∀ l, (sort l).Perm l)

include hsort

theorem mem_children {k : V} :
    x ∈ children rows parent sort k ↔ x ∈ rows ∧ parent x = some k := by
  unfold children
  rw [(hsort _).mem_iff, List.mem_filter, decide_eq_true_iff]

theorem up_of_mem_children (hr : r ∈ rows) (hx : x ∈ children rows parent sort (key r)) :
    Up rows key parent (key x) (key r) := by
  obtain ⟨hx, hparent⟩ := (mem_children hsort).mp hx
  exact ⟨x, hx, rfl, hparent, List.mem_map_of_mem hr⟩

/-- **A root is a row that nothing is above.** -/
theorem mem_roots :
    r ∈ roots rows key parent sort ↔ r ∈ rows ∧ ∀ k ∈ parent r, k ∉ rows.map key := by
  unfold roots
  rw [(hsort _).mem_iff, List.mem_filter, decide_eq_true_iff]

theorem not_up_of_mem_roots (hkeys : Table.Unique key rows)
    (hr : r ∈ roots rows key parent sort) (k : V) : ¬ Up rows key parent (key r) k := by
  rintro ⟨r', hr', hkey, hparent, hk⟩
  obtain ⟨hr, hnone⟩ := (mem_roots hsort).mp hr
  obtain rfl := hkeys.eq_of_key hr' hr hkey
  exact hnone k hparent hk

/-- **The rows of a tree** are those below its root. -/
theorem mem_preorder_iff (hkeys : Table.Unique key rows) (hr : r ∈ rows)
    (h : build rows key parent sort n r = some t) :
    x ∈ t.preorder ↔ x ∈ rows ∧ ReflTransGen (Up rows key parent) (key x) (key r) := by
  induction n generalizing r t with
  | zero => cases h
  | succ n ih =>
    obtain ⟨ts, hts, rfl⟩ := Option.map_eq_some_iff.mp h
    rw [Tree.preorder, preorders_eq_flatMap, List.mem_cons, List.mem_flatMap]
    constructor
    · rintro (rfl | ⟨t, ht, hx⟩)
      · exact ⟨hr, .refl⟩
      · obtain ⟨c, hc, hbuild⟩ := (mem_of_mapM hts).mp ht
        obtain ⟨hx, hbelow⟩ := (ih ((mem_children hsort).mp hc).1 hbuild).mp hx
        exact ⟨hx, hbelow.tail (up_of_mem_children hsort hr hc)⟩
    · rintro ⟨hx, hbelow⟩
      rcases hbelow.cases_tail with hkey | ⟨k, hbelow, c, hc, rfl, hparent, -⟩
      · exact Or.inl (hkeys.eq_of_key hx hr hkey.symm)
      · have hchild := (mem_children hsort).mpr ⟨hc, hparent⟩
        obtain ⟨t, ht⟩ : ∃ t, build rows key parent sort n c = some t := by
          have hmem := List.mem_map_of_mem (f := build rows key parent sort n) hchild
          rw [mapM_eq_some_iff.mp hts, List.mem_map] at hmem
          obtain ⟨t, -, ht⟩ := hmem
          exact ⟨t, ht.symm⟩
        exact Or.inr ⟨t, (mem_of_mapM hts).mpr ⟨c, hchild, ht⟩, (ih hc ht).mpr ⟨hx, hbelow⟩⟩

/-- Two rows of one level have nothing below both of them. -/
theorem disjoint_preorder (hkeys : Table.Unique key rows) {c c' : ρ} {t t' : Tree ρ} {k : V}
    (hk : ¬ TransGen (Up rows key parent) k k) (hc : Up rows key parent (key c) k)
    (hc' : Up rows key parent (key c') k) (hne : key c ≠ key c') (hcmem : c ∈ rows)
    (hcmem' : c' ∈ rows) (ht : build rows key parent sort n c = some t)
    (ht' : build rows key parent sort n c' = some t') : t.preorder.Disjoint t'.preorder := by
  -- one of the two would be below the other, and so the row above them below itself
  have hnot : ∀ {a b : V}, Up rows key parent a k → Up rows key parent b k → a ≠ b →
      ¬ ReflTransGen (Up rows key parent) a b := by
    intro a b ha hb hab h
    rcases h.cases_head with rfl | ⟨d, hd, hdb⟩
    · exact hab rfl
    · obtain rfl := up_rightUnique hkeys ha hd
      exact hk (TransGen.tail' hdb hb)
  intro x hx hx'
  obtain ⟨-, hbelow⟩ := (mem_preorder_iff hsort hkeys hcmem ht).mp hx
  obtain ⟨-, hbelow'⟩ := (mem_preorder_iff hsort hkeys hcmem' ht').mp hx'
  rcases ReflTransGen.total_of_right_unique (up_rightUnique hkeys) hbelow hbelow' with h | h
  · exact hnot hc hc' hne h
  · exact hnot hc' hc hne.symm h

theorem nodup_children (hkeys : Table.Unique key rows) (k : V) :
    ((children rows parent sort k).map key).Nodup := by
  unfold children
  exact ((hsort _).map key).nodup_iff.mpr (hkeys.filter _)

/-- **No row is in a tree twice**, below a row that nothing on a cycle is below. -/
theorem nodup_preorder (hkeys : Table.Unique key rows) (hr : r ∈ rows)
    (hacyclic : ∀ k, ReflTransGen (Up rows key parent) k (key r) →
      ¬ TransGen (Up rows key parent) k k)
    (h : build rows key parent sort n r = some t) : t.preorder.Nodup := by
  induction n generalizing r t with
  | zero => cases h
  | succ n ih =>
    obtain ⟨ts, hts, rfl⟩ := Option.map_eq_some_iff.mp h
    have hup : ∀ {c}, c ∈ children rows parent sort (key r) →
        c ∈ rows ∧ Up rows key parent (key c) (key r) := fun hc =>
      ⟨((mem_children hsort).mp hc).1, up_of_mem_children hsort hr hc⟩
    rw [Tree.preorder, preorders_eq_flatMap, List.nodup_cons, List.nodup_flatMap]
    refine ⟨?_, ?_, ?_⟩
    · intro hmem
      obtain ⟨t, ht, hmem⟩ := List.mem_flatMap.mp hmem
      obtain ⟨c, hc, hbuild⟩ := (mem_of_mapM hts).mp ht
      obtain ⟨-, hbelow⟩ := (mem_preorder_iff hsort hkeys (hup hc).1 hbuild).mp hmem
      exact hacyclic (key r) .refl (TransGen.tail' hbelow (hup hc).2)
    · intro t ht
      obtain ⟨c, hc, hbuild⟩ := (mem_of_mapM hts).mp ht
      exact ih (hup hc).1 (fun k hk => hacyclic k (hk.tail (hup hc).2)) hbuild
    · refine pairwise_of_mapM hts ?_
      have hnodup : ((children rows parent sort (key r)).map key).Nodup :=
        nodup_children hsort hkeys _
      refine (List.pairwise_map.mp hnodup).imp_of_mem fun hc hc' hne t t' ht ht' => ?_
      exact disjoint_preorder hsort hkeys (hacyclic _ .refl) (hup hc).2 (hup hc').2 hne (hup hc).1
        (hup hc').1 ht ht'

/-- **A tree ends** below a row that nothing on a cycle is below. -/
theorem build_isSome (hr : r ∈ rows)
    (hacyclic : ∀ k, ReflTransGen (Up rows key parent) k (key r) →
      ¬ TransGen (Up rows key parent) k k)
    (hn : (reach (Function.swap (Up rows key parent)) (rows.map key).toFinset (key r)).card ≤ n) :
    (build rows key parent sort n r).isSome = true := by
  induction n generalizing r with
  | zero =>
    have hmem : key r
        ∈ reach (Function.swap (Up rows key parent)) (rows.map key).toFinset (key r) :=
      mem_reach.mpr ⟨List.mem_toFinset.mpr (List.mem_map_of_mem hr), .refl⟩
    exact absurd (Finset.card_pos.mpr ⟨_, hmem⟩) (by omega)
  | succ n ih =>
    unfold build
    rw [Option.isSome_map]
    refine mapM_isSome fun c hc => ?_
    have hup := up_of_mem_children hsort hr hc
    refine ih ((mem_children hsort).mp hc).1 (fun k hk => hacyclic k (hk.tail hup)) ?_
    have hlt := card_reach_lt (List.mem_toFinset.mpr (List.mem_map_of_mem hr)) hup
      (fun hback => hacyclic (key r) .refl (TransGen.tail' (reflTransGen_swap.mp hback) hup))
    omega

/-! ## The forest -/

theorem not_cycle_below_root (hkeys : Table.Unique key rows)
    (hr : r ∈ roots rows key parent sort) {k : V}
    (hk : ReflTransGen (Up rows key parent) k (key r)) : ¬ TransGen (Up rows key parent) k k :=
  hk.not_cycle_of_end (up_rightUnique hkeys) (not_up_of_mem_roots hsort hkeys hr)

/-- **The forest is always found.** -/
theorem forest_isSome (hkeys : Table.Unique key rows) :
    (forest rows key parent sort).isSome = true := by
  refine mapM_isSome fun r hr => ?_
  refine build_isSome hsort ((mem_roots hsort).mp hr).1
    (fun k hk => not_cycle_below_root hsort hkeys hr hk) ?_
  calc (reach _ (rows.map key).toFinset (key r)).card
      ≤ (rows.map key).toFinset.card := Finset.card_le_card reach_subset
    _ ≤ (rows.map key).length := List.toFinset_card_le _
    _ = rows.length := List.length_map key

/-- **The rows of the forest** are those below a root. -/
theorem mem_forest_iff (hkeys : Table.Unique key rows)
    (h : forest rows key parent sort = some ts) :
    x ∈ preorders ts ↔ x ∈ rows ∧ ∃ r ∈ roots rows key parent sort,
      ReflTransGen (Up rows key parent) (key x) (key r) := by
  rw [preorders_eq_flatMap, List.mem_flatMap]
  constructor
  · rintro ⟨t, ht, hx⟩
    obtain ⟨r, hr, hbuild⟩ := (mem_of_mapM h).mp ht
    obtain ⟨hx, hbelow⟩ :=
      (mem_preorder_iff hsort hkeys ((mem_roots hsort).mp hr).1 hbuild).mp hx
    exact ⟨hx, r, hr, hbelow⟩
  · rintro ⟨hx, r, hr, hbelow⟩
    have hmem := List.mem_map_of_mem (f := build rows key parent sort rows.length) hr
    rw [mapM_eq_some_iff.mp h, List.mem_map] at hmem
    obtain ⟨t, ht, hbuild⟩ := hmem
    exact ⟨t, ht, (mem_preorder_iff hsort hkeys ((mem_roots hsort).mp hr).1 hbuild.symm).mpr
      ⟨hx, hbelow⟩⟩

/-- **No row is in the forest twice.** -/
theorem nodup_forest (hkeys : Table.Unique key rows)
    (h : forest rows key parent sort = some ts) : (preorders ts).Nodup := by
  rw [preorders_eq_flatMap, List.nodup_flatMap]
  constructor
  · intro t ht
    obtain ⟨r, hr, hbuild⟩ := (mem_of_mapM h).mp ht
    exact nodup_preorder hsort hkeys ((mem_roots hsort).mp hr).1
      (fun k hk => not_cycle_below_root hsort hkeys hr hk) hbuild
  · refine pairwise_of_mapM h ?_
    have hnodup : ((roots rows key parent sort).map key).Nodup := by
      unfold roots
      exact ((hsort _).map key).nodup_iff.mpr (hkeys.filter _)
    refine (List.pairwise_map.mp hnodup).imp_of_mem fun hr hr' hne t t' ht ht' x hx hx' => ?_
    -- nothing is above a root, so neither of the two is below the other
    have hnot : ∀ {a b : V}, (∀ c, ¬ Up rows key parent a c) → a ≠ b →
        ¬ ReflTransGen (Up rows key parent) a b := by
      intro a b hend hab hreach
      rcases hreach.cases_head with rfl | ⟨c, hc, -⟩
      · exact hab rfl
      · exact hend c hc
    obtain ⟨-, hbelow⟩ := (mem_preorder_iff hsort hkeys ((mem_roots hsort).mp hr).1 ht).mp hx
    obtain ⟨-, hbelow'⟩ := (mem_preorder_iff hsort hkeys ((mem_roots hsort).mp hr').1 ht').mp hx'
    rcases ReflTransGen.total_of_right_unique (up_rightUnique hkeys) hbelow hbelow' with hup | hup
    · exact hnot (not_up_of_mem_roots hsort hkeys hr) hne hup
    · exact hnot (not_up_of_mem_roots hsort hkeys hr') hne.symm hup

/-- **The forest is the whole table** exactly when no row is below itself. -/
theorem perm_forest_iff (hkeys : Table.Unique key rows)
    (h : forest rows key parent sort = some ts) :
    (preorders ts).Perm rows ↔ Worklist.Acyclic (Up rows key parent) := by
  constructor
  · intro hperm k hk
    obtain ⟨c, ⟨x, hx, rfl, -, -⟩, -⟩ := TransGen.head'_iff.mp hk
    obtain ⟨-, r, hr, hbelow⟩ := (mem_forest_iff hsort hkeys h).mp (hperm.mem_iff.mpr hx)
    exact not_cycle_below_root hsort hkeys hr hbelow hk
  · intro hacyclic
    refine (List.perm_ext_iff_of_nodup (nodup_forest hsort hkeys h)
      (List.Nodup.of_map key hkeys)).mpr fun x => ?_
    rw [mem_forest_iff hsort hkeys h]
    refine and_iff_left_of_imp fun hx => ?_
    obtain ⟨b, hb, hreach, hend⟩ := exists_end_of_acyclic (s := (rows.map key).toFinset) hacyclic
      (fun a b hab => List.mem_toFinset.mpr (up_mem_right hab))
      (List.mem_toFinset.mpr (List.mem_map_of_mem hx))
    obtain ⟨r, hr, rfl⟩ := List.mem_map.mp (List.mem_toFinset.mp hb)
    refine ⟨r, (mem_roots hsort).mpr ⟨hr, fun k hk hmem => ?_⟩, hreach⟩
    exact hend k ⟨r, hr, rfl, hk, hmem⟩

end

end

end Forest
