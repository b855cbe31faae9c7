import Clarisal.Lib.Dict

/-!
# Redacting a tree of values

A value is a scalar, a sequence or a dictionary; a sequence has a tag, for the kind of
sequence it is. A path goes down by keys and indices.

Redacting puts a mask in the place of every value whose key is to be hidden, at any
depth, and gives all sequences one tag. What it leaves at a path is known for every
path: where no key of the path is hidden, what was there, redacted (`get?_redact_of_open`);
under the first hidden key the mask, and nothing below it (`get?_redact_of_hidden`).
Redacting twice is redacting once (`redact_redact`).
-/

inductive Json (κ ρ α : Type)
  | scalar (a : α)
  | array (tag : ρ) (elements : List (Json κ ρ α))
  | object (entries : List (κ × Json κ ρ α))

namespace Json

/-- A step of a path. -/
inductive Step (κ : Type)
  | key (k : κ)
  | index (i : ℕ)
deriving DecidableEq, Repr

variable {κ ρ α : Type}

/-- The value at a path. -/
def get? [DecidableEq κ] : Json κ ρ α → List (Step κ) → Option (Json κ ρ α)
  | x, [] => some x
  | .object entries, .key k :: path => (Dict.get k entries).bind fun x => get? x path
  | .array _ elements, .index i :: path => elements[i]?.bind fun x => get? x path
  | _, _ :: _ => none

mutual

/-- **Redact** a value: hidden keys keep the mask. -/
def redact (hide : κ → Bool) (mask : α) (tag : ρ) : Json κ ρ α → Json κ ρ α
  | .scalar a => .scalar a
  | .array _ elements => .array tag (redactElements hide mask tag elements)
  | .object entries => .object (redactEntries hide mask tag entries)

def redactElements (hide : κ → Bool) (mask : α) (tag : ρ) :
    List (Json κ ρ α) → List (Json κ ρ α)
  | [] => []
  | x :: elements => redact hide mask tag x :: redactElements hide mask tag elements

def redactEntries (hide : κ → Bool) (mask : α) (tag : ρ) :
    List (κ × Json κ ρ α) → List (κ × Json κ ρ α)
  | [] => []
  | (k, x) :: entries =>
    (k, if hide k then .scalar mask else redact hide mask tag x)
      :: redactEntries hide mask tag entries

end

/-- A step by a hidden key. -/
def Step.Hidden (hide : κ → Bool) : Step κ → Prop
  | .key k => hide k = true
  | .index _ => False

/-- **No key of the path is hidden.** -/
def Open (hide : κ → Bool) (path : List (Step κ)) : Prop := ∀ step ∈ path, ¬ step.Hidden hide

variable {hide : κ → Bool} {mask : α} {tag : ρ} {x : Json κ ρ α} {path rest : List (Step κ)}
  {k : κ}

theorem redactElements_eq_map (elements : List (Json κ ρ α)) :
    redactElements hide mask tag elements = elements.map (redact hide mask tag) := by
  induction elements with
  | nil => rw [redactElements, List.map_nil]
  | cons x elements ih => rw [redactElements, List.map_cons, ih]

mutual

/-- **Redacting again** changes nothing. -/
theorem redact_redact : ∀ x : Json κ ρ α,
    redact hide mask tag (redact hide mask tag x) = redact hide mask tag x
  | .scalar a => by rw [redact, redact]
  | .array _ elements => by rw [redact, redact, redactElements_redactElements elements]
  | .object entries => by rw [redact, redact, redactEntries_redactEntries entries]

theorem redactElements_redactElements : ∀ elements : List (Json κ ρ α),
    redactElements hide mask tag (redactElements hide mask tag elements)
      = redactElements hide mask tag elements
  | [] => by rw [redactElements, redactElements]
  | x :: elements => by
    rw [redactElements, redactElements, redact_redact x, redactElements_redactElements elements]

theorem redactEntries_redactEntries : ∀ entries : List (κ × Json κ ρ α),
    redactEntries hide mask tag (redactEntries hide mask tag entries)
      = redactEntries hide mask tag entries
  | [] => by rw [redactEntries, redactEntries]
  | (k, x) :: entries => by
    rw [redactEntries, redactEntries, redactEntries_redactEntries entries]
    cases hide k
    · rw [if_neg Bool.false_ne_true, if_neg Bool.false_ne_true, redact_redact x]
    · rw [if_pos rfl, if_pos rfl]

end

section

variable [DecidableEq κ]

/-- **A path of two parts** goes down one and then the other. -/
theorem get?_append (x : Json κ ρ α) (path rest : List (Step κ)) :
    x.get? (path ++ rest) = (x.get? path).bind fun y => y.get? rest := by
  induction path generalizing x with
  | nil => simp [get?]
  | cons step path ih =>
    cases x <;> cases step <;> simp only [List.cons_append, get?, Option.bind_none,
      Option.bind_assoc, ih]

/-- What redacting leaves under a key. -/
theorem get_redactEntries (k : κ) (entries : List (κ × Json κ ρ α)) :
    Dict.get k (redactEntries hide mask tag entries)
      = (Dict.get k entries).map fun x =>
        if hide k then .scalar mask else redact hide mask tag x := by
  induction entries with
  | nil => rw [redactEntries, Dict.get_nil, Option.map_none]
  | cons e entries ih =>
    obtain ⟨k', x⟩ := e
    rw [redactEntries, Dict.get_cons, Dict.get_cons, ih]
    by_cases h : k' = k
    · subst h
      rw [if_pos rfl, if_pos rfl, Option.map_some]
    · rw [if_neg h, if_neg h]

/-- **Where no key is hidden**, redacting leaves what was there, redacted. -/
theorem get?_redact_of_open (h : Open hide path) :
    (redact hide mask tag x).get? path = (x.get? path).map (redact hide mask tag) := by
  induction path generalizing x with
  | nil => rw [get?, get?, Option.map_some]
  | cons step path ih =>
    have hpath : Open hide path := fun s hs => h s (List.mem_cons_of_mem _ hs)
    have hstep : ¬ step.Hidden hide := h step List.mem_cons_self
    cases x with
    | scalar a =>
      rw [redact]
      cases step <;> rfl
    | array _ elements =>
      rw [redact]
      cases step with
      | key k => rfl
      | index i =>
        simp only [get?, redactElements_eq_map, List.getElem?_map, Option.map_bind,
          Option.bind_map, Function.comp_def, ih hpath]
    | object entries =>
      rw [redact]
      cases step with
      | index i => rfl
      | key k =>
        have hk : hide k = false := Bool.eq_false_iff.mpr hstep
        simp only [get?, get_redactEntries, hk, Bool.false_eq_true, ↓reduceIte, Option.map_bind,
          Option.bind_map, Function.comp_def, ih hpath]

/-- **Under a hidden key** there is the mask, and nothing below it. -/
theorem get?_redact_of_hidden (h : Open hide path) (hk : hide k = true) :
    (redact hide mask tag x).get? (path ++ .key k :: rest)
      = if rest = [] then (x.get? (path ++ [.key k])).map fun _ => .scalar mask else none := by
  have hmask : ∀ rest : List (Step κ), (scalar mask : Json κ ρ α).get? rest
      = if rest = [] then some (scalar mask) else none := by
    intro rest
    cases rest with
    | nil => rfl
    | cons step rest => cases step <;> rfl
  have hone : ∀ y : Json κ ρ α, (redact hide mask tag y).get? (.key k :: rest)
      = if rest = [] then (y.get? [.key k]).map fun _ => .scalar mask else none := by
    intro y
    cases y with
    | scalar a =>
      rw [redact]
      cases rest <;> rfl
    | array _ elements =>
      rw [redact]
      cases rest <;> rfl
    | object entries =>
      rw [redact]
      simp only [get?, get_redactEntries, hk, ↓reduceIte, Option.bind_map, Function.comp_def,
        hmask, Option.map_bind]
      split
      · cases Dict.get k entries <;> rfl
      · cases Dict.get k entries <;> rfl
  rw [get?_append, get?_append, get?_redact_of_open h]
  simp only [Option.bind_map, Function.comp_def, hone, Option.map_bind]
  split
  · rfl
  · cases x.get? path <;> rfl

end

end Json
