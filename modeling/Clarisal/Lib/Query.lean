import Clarisal.Lib.Dict
import Mathlib.Data.Prod.Lex

/-!
# Ordered queries

A database orders the rows of a query by a key, and rows that tie on the key
as it likes. `QueryOrder` is any such order.

One query over many groups, ordered within each, answers every query about one
group (`filter_orderBy`) as long as no two rows of the group tie. So a
dictionary that keeps the first row it meets of each group holds what a query
for the first row of that group returns.

A page of a query is the rows it selects up to a limit, and whether there are
more. It tells nothing about what a relation between rows leaves open exactly
when no single row does (`page_eq_iff`).
-/

/-- **How a database orders rows by a key.** -/
structure QueryOrder where
  orderBy {α β : Type} [LinearOrder β] (key : α → β) (rows : List α) : List α
  perm {α β : Type} [LinearOrder β] (key : α → β) (rows : List α) :
    (orderBy key rows).Perm rows
  ordered {α β : Type} [LinearOrder β] (key : α → β) (rows : List α) :
    (orderBy key rows).Pairwise (fun a b => key a ≤ key b)

/-- **No two rows tie.** -/
def NoTies {α β : Type} (key : α → β) (rows : List α) : Prop :=
  ∀ a ∈ rows, ∀ b ∈ rows, key a = key b → a = b

instance {α β : Type} [DecidableEq α] [DecidableEq β] (key : α → β) (rows : List α) :
    Decidable (NoTies key rows) :=
  inferInstanceAs (Decidable (∀ a ∈ rows, ∀ b ∈ rows, _))

namespace QueryOrder

/-- Ties as they stand in the table. -/
def stable : QueryOrder where
  orderBy key rows := rows.insertionSort (fun a b => key a ≤ key b)
  perm _ rows := List.perm_insertionSort _ rows
  ordered key rows := by
    have : Std.Total (fun a b => key a ≤ key b) := ⟨fun a b => le_total (key a) (key b)⟩
    have : IsTrans _ (fun a b => key a ≤ key b) := ⟨fun _ _ _ => le_trans⟩
    exact List.pairwise_insertionSort _ rows

variable {α β γ : Type} [LinearOrder β] [LinearOrder γ] {key : α → β} {key' : α → γ}
  {rows rows' : List α} {p : α → Bool}

theorem mem_orderBy (q : QueryOrder) {a : α} : a ∈ q.orderBy key rows ↔ a ∈ rows :=
  (q.perm key rows).mem_iff

/-- **The rows of one group** of a query over many are those of the query for the
group, in its order. -/
theorem filter_orderBy (q : QueryOrder) (hrows : rows.filter p = rows')
    (hrefines : ∀ a ∈ rows', ∀ b ∈ rows', key' a ≤ key' b → key a ≤ key b)
    (hties : NoTies key rows') : (q.orderBy key' rows).filter p = q.orderBy key rows' := by
  subst hrows
  have hperm : ((q.orderBy key' rows).filter p).Perm (rows.filter p) := (q.perm key' rows).filter p
  have hordered : ((q.orderBy key' rows).filter p).Pairwise (fun a b => key a ≤ key b) := by
    have hpairs : ((q.orderBy key' rows).filter p).Pairwise (fun a b => key' a ≤ key' b) :=
      (q.ordered key' rows).sublist List.filter_sublist
    exact hpairs.imp_of_mem (fun ha hb hle =>
      hrefines _ (hperm.mem_iff.mp ha) _ (hperm.mem_iff.mp hb) hle)
  refine List.Perm.eq_of_pairwise (fun a b ha hb hab hba => ?_) hordered
    (q.ordered key _) (hperm.trans (q.perm key _).symm)
  exact hties a (hperm.mem_iff.mp ha) b (q.mem_orderBy.mp hb) (le_antisymm hab hba)

end QueryOrder

/-! ## The first row of each group -/

namespace Dict

variable {κ ρ : Type*} [DecidableEq κ] {key : ρ → κ} {xs : List ρ} {k : κ}

/-- **`setdefault`** keeps the first row of every key. -/
theorem get_setdefault (d : List (κ × ρ)) :
    get k (collect key (fun found x => found.getD x) xs d)
      = (get k d).or (xs.filter (fun x => key x = k)).head? := by
  rw [get_collect]
  generalize xs.filter (fun x => key x = k) = ys
  generalize get k d = found
  induction ys generalizing found with
  | nil => exact (Option.or_none).symm
  | cons y ys ih =>
    rw [List.foldl_cons, ih, List.head?_cons]
    cases found <;> rfl

/-- **A key without a row takes the first one**: the dictionary starts with no
row for the keys it is about. -/
theorem get_firstRow (d : List (κ × Option ρ)) :
    (get k (collect key (fun found x => found.join.or (some x)) xs d)).join
      = (get k d).join.or (xs.filter (fun x => key x = k)).head? := by
  rw [get_collect]
  generalize xs.filter (fun x => key x = k) = ys
  generalize get k d = found
  induction ys generalizing found with
  | nil => exact (Option.or_none).symm
  | cons y ys ih =>
    rw [List.foldl_cons, ih, List.head?_cons]
    cases found.join <;> rfl

end Dict

/-! ## Pages -/

section Page

variable {ρ β : Type*} {selects : ρ → Bool} {shows : ρ → β} {limit : ℕ} {R : ρ → ρ → Prop}

/-- **A page of a query**: the first rows it selects, as they are shown, and whether
there are more. -/
def page (selects : ρ → Bool) (shows : ρ → β) (limit : ℕ) (rows : List ρ) : List β × Bool :=
  let selected := rows.filter selects
  ((selected.take limit).map shows, decide (limit < selected.length))

/-- A selection that agrees on related rows keeps them related. -/
theorem forall₂_filter {rows rows' : List ρ}
    (hselects : ∀ r r', R r r' → selects r = selects r') (h : List.Forall₂ R rows rows') :
    List.Forall₂ (fun r r' => R r r' ∧ selects r = true) (rows.filter selects)
      (rows'.filter selects) := by
  induction h with
  | nil => exact .nil
  | @cons r r' rows rows' hr _ ih =>
    cases hs : selects r with
    | false => simpa [hs, ← hselects r r' hr] using ih
    | true => simpa [hs, ← hselects r r' hr] using List.Forall₂.cons ⟨hr, hs⟩ ih

/-- **Pages of related tables are the same** exactly when related rows are selected
together and, as far as the page shows any, shown alike. -/
theorem page_eq_iff :
    (∀ rows rows', List.Forall₂ R rows rows' →
        page selects shows limit rows = page selects shows limit rows')
      ↔ ∀ r r', R r r' → selects r = selects r'
        ∧ (selects r = true → 0 < limit → shows r = shows r') := by
  constructor
  · intro h r r' hr
    have hpage : page selects shows limit [r] = page selects shows limit [r'] :=
      h [r] [r'] (.cons hr .nil)
    obtain ⟨hrows, hmore⟩ := Prod.mk.inj hpage
    cases limit with
    | zero =>
      have hsame : selects r = selects r' := by
        cases hs : selects r <;> cases hs' : selects r' <;> simp [hs, hs'] at hmore ⊢
      exact ⟨hsame, fun _ h => absurd h (lt_irrefl 0)⟩
    | succ limit =>
      cases hs : selects r <;> cases hs' : selects r' <;> simp [hs, hs'] at hrows ⊢
      exact hrows
  · intro h rows rows' hrelated
    have hselected := forall₂_filter (fun r r' hr => (h r r' hr).1) hrelated
    have hlength := hselected.length_eq
    refine Prod.ext ?_ ?_
    · show ((rows.filter selects).take limit).map shows
        = ((rows'.filter selects).take limit).map shows
      cases limit with
      | zero => rfl
      | succ limit =>
        have hmap : (rows.filter selects).map shows = (rows'.filter selects).map shows := by
          refine List.forall₂_eq_eq_eq ▸ List.forall₂_map_left_iff.mpr
            (List.forall₂_map_right_iff.mpr (hselected.imp (fun r r' hr => ?_)))
          exact (h r r' hr.1).2 hr.2 (Nat.succ_pos limit)
        rw [List.map_take, List.map_take, hmap]
    · show decide (limit < (rows.filter selects).length)
        = decide (limit < (rows'.filter selects).length)
      rw [hlength]

end Page
