import Mathlib.Data.List.DropRight
import Mathlib.Tactic.Common

/-!
# Lines and fields of a text

A text is cut into lines at its line breaks, and a line into fields at a separator. Texts,
lines and fields are stripped of the spaces around them, which interacts with both.

What a text says, when blank lines are left out and the others stripped, does not change
when the text is stripped first (`contents_strip`), and is what its lines say one by one
(`flatMap_contents_splitlines`). A line of stripped fields that is stripped loses its last
fields when they are empty, and no others (`splitOn_strip_intercalate`).
-/

namespace Lines

/-! ## Stripping -/

section

variable (space : Char → Bool)

/-- A text without the spaces around it. -/
def strip (text : List Char) : List Char := (text.dropWhile space).rdropWhile space

variable {space} {text f x : List Char} {c : Char}

@[simp] theorem strip_nil : strip space [] = [] := rfl

/-- **A stripped text has nothing to strip.** -/
theorem strip_strip (space : Char → Bool) (text : List Char) :
    strip space (strip space text) = strip space text := by
  unfold strip
  generalize hu : text.dropWhile space = u
  have hhead : u.dropWhile space = u := hu ▸ List.dropWhile_idempotent space text
  -- the head of what is left is the head of `u`
  have hkept : (u.rdropWhile space).dropWhile space = u.rdropWhile space := by
    cases hv : u.rdropWhile space with
    | nil => rfl
    | cons c v =>
      obtain ⟨rest, hrest⟩ := List.rdropWhile_prefix space (l := u)
      rw [hv, List.cons_append] at hrest
      rw [← hrest, List.dropWhile_eq_self_iff] at hhead
      exact List.dropWhile_cons_of_neg (hhead (Nat.succ_pos _))
  rw [hkept, List.rdropWhile_idempotent]

/-- A space in front is stripped. -/
theorem strip_cons (hc : space c = true) (text : List Char) :
    strip space (c :: text) = strip space text := by
  rw [strip, List.dropWhile_cons_of_pos hc, strip]

/-- A space at the end is stripped. -/
theorem strip_concat (hc : space c = true) (text : List Char) :
    strip space (text ++ [c]) = strip space text := by
  unfold strip
  rw [List.dropWhile_append]
  split
  · next hblank =>
    rw [List.isEmpty_iff.mp hblank, List.dropWhile_cons_of_pos hc]
    rfl
  · rw [List.rdropWhile_concat_pos _ _ _ hc]

/-- A text that is stripped neither begins nor ends with a space. -/
theorem dropWhile_of_strip_eq_self (hf : strip space f = f) :
    f.dropWhile space = f ∧ f.rdropWhile space = f := by
  have hlength := congrArg List.length hf
  have hleft := (List.dropWhile_suffix (l := f) space).length_le
  have hright := (List.rdropWhile_prefix space (l := f.dropWhile space)).length_le
  have hdrop : f.dropWhile space = f :=
    (List.dropWhile_suffix (l := f) space).eq_of_length (by unfold strip at hlength; omega)
  refine ⟨hdrop, ?_⟩
  rwa [strip, hdrop] at hf

theorem dropWhile_append_of_strip_eq_self (hf : strip space f = f) (hne : f ≠ [])
    (x : List Char) : (f ++ x).dropWhile space = f ++ x := by
  rw [List.dropWhile_append, (dropWhile_of_strip_eq_self hf).1, if_neg (by simpa using hne)]

theorem rdropWhile_append_of_strip_eq_self (hf : strip space f = f) (hne : f ≠ [])
    (x : List Char) : (x ++ f).rdropWhile space = x ++ f := by
  have hlast := (dropWhile_of_strip_eq_self hf).2
  rw [List.rdropWhile_eq_self_iff] at hlast ⊢
  intro h
  rw [List.getLast_append_of_ne_nil h hne]
  exact hlast hne

/-! ## Fields -/

/-- A field more at the end of a line. -/
theorem intercalate_concat {fields : List (List Char)} (hne : fields ≠ []) (sep f : List Char) :
    sep.intercalate (fields ++ [f]) = sep.intercalate fields ++ sep ++ f := by
  induction fields with
  | nil => exact absurd rfl hne
  | cons g fields ih =>
    rw [List.cons_append, List.intercalate_cons_of_ne_nil (by simp)]
    by_cases hfields : fields = []
    · subst hfields
      rw [List.nil_append, List.intercalate_singleton, List.intercalate_singleton]
    · rw [ih hfields, List.intercalate_cons_of_ne_nil hfields]
      simp only [List.append_assoc]

/-- **A line of stripped fields loses its last fields when they are empty.** The separator is
a space, and the first field is not empty. -/
theorem strip_intercalate {sep : Char} (hsep : space sep = true) (hne : f ≠ [])
    {rest : List (List Char)} (h : ∀ g ∈ f :: rest, strip space g = g) :
    strip space ([sep].intercalate (f :: rest))
      = [sep].intercalate ((f :: rest).rdropWhile List.isEmpty) := by
  have hhead : ([sep].intercalate (f :: rest)).dropWhile space
      = [sep].intercalate (f :: rest) := by
    by_cases hrest : rest = []
    · subst hrest
      rw [List.intercalate_singleton]
      exact (dropWhile_of_strip_eq_self (h f List.mem_cons_self)).1
    · rw [List.intercalate_cons_of_ne_nil hrest, List.append_assoc]
      exact dropWhile_append_of_strip_eq_self (h f List.mem_cons_self) hne _
  rw [strip, hhead]
  clear hhead
  induction rest using List.reverseRecOn with
  | nil =>
    rw [List.rdropWhile_singleton, if_neg (by simpa using hne), List.intercalate_singleton]
    exact (dropWhile_of_strip_eq_self (h f List.mem_cons_self)).2
  | append_singleton rest g ih =>
    rw [← List.cons_append, intercalate_concat (List.cons_ne_nil f rest)]
    by_cases hg : g = []
    · subst hg
      rw [List.append_nil, List.rdropWhile_concat_pos _ _ _ hsep,
        List.rdropWhile_concat_pos _ _ _ rfl]
      exact ih (fun g hg => h g (by simpa using Or.imp_right Or.inl (List.mem_cons.mp hg)))
    · rw [List.rdropWhile_concat_neg _ _ _ (by simpa using hg),
        intercalate_concat (List.cons_ne_nil f rest)]
      exact rdropWhile_append_of_strip_eq_self (h g (by simp)) hg _

/-- **The fields of a stripped line** are those up to the last that is not empty. -/
theorem splitOn_strip_intercalate {sep : Char} (hsep : space sep = true) (hne : f ≠ [])
    {rest : List (List Char)} (h : ∀ g ∈ f :: rest, strip space g = g)
    (hnone : ∀ g ∈ f :: rest, sep ∉ g) :
    (strip space ([sep].intercalate (f :: rest))).splitOn sep
      = (f :: rest).rdropWhile List.isEmpty := by
  rw [strip_intercalate hsep hne h]
  refine List.splitOn_intercalate sep (fun g hg => hnone g ?_) ?_
  · exact (List.rdropWhile_prefix _ _).subset hg
  · rw [Ne, List.rdropWhile_eq_nil_iff]
    exact fun hall => hne (by simpa using hall f List.mem_cons_self)

end

/-! ## Lines -/

/-- Line boundaries; a carriage return with the line feed behind it is one. -/
def isLineBreak (c : Char) : Bool :=
  c.toNat ∈ [0xa, 0xb, 0xc, 0xd, 0x1c, 0x1d, 0x1e, 0x85, 0x2028, 0x2029]

/-- **The lines of a text**, without their ends. A text that ends with a break has no empty
line behind it. -/
def splitlines : List Char → List (List Char)
  | [] => []
  | '\r' :: '\n' :: text => [] :: splitlines text
  | c :: text =>
    if isLineBreak c then [] :: splitlines text
    else match splitlines text with
      | [] => [[c]]
      | line :: lines => (c :: line) :: lines

section

variable (space : Char → Bool)

/-- What a line says: nothing when it is blank. -/
def content (line : List Char) : List (List Char) :=
  if strip space line = [] then [] else [strip space line]

/-- **What a text says**: its lines, stripped, without the blank ones. -/
def contents (text : List Char) : List (List Char) := (splitlines text).flatMap (content space)

/-- What a text says behind the beginning of its first line, letter by letter. -/
def contentsFrom (line : List Char) : List Char → List (List Char)
  | [] => content space line
  | c :: text =>
    if isLineBreak c then content space line ++ contentsFrom [] text
    else contentsFrom (line ++ [c]) text

variable {space} {text line : List Char} {c : Char}

@[simp] theorem content_nil : content space [] = [] := rfl

theorem content_cons (hc : space c = true) (line : List Char) :
    content space (c :: line) = content space line := by
  unfold content
  rw [strip_cons hc]

theorem content_concat (hc : space c = true) (line : List Char) :
    content space (line ++ [c]) = content space line := by
  unfold content
  rw [strip_concat hc]

/-- The lines that are not blank, stripped. -/
theorem contents_eq_map_filter (space : Char → Bool) (text : List Char) :
    contents space text
      = ((splitlines text).filter (fun line => strip space line ≠ [])).map (strip space) := by
  unfold contents
  induction splitlines text with
  | nil => rfl
  | cons line lines ih =>
    rw [List.flatMap_cons, ih, content]
    by_cases hblank : strip space line = []
    · rw [if_pos hblank, List.filter_cons_of_neg (by simpa using hblank), List.nil_append]
    · rw [if_neg hblank, List.filter_cons_of_pos (by simpa using hblank), List.map_cons]
      rfl

/-- Letter by letter, a text says what its lines say. -/
theorem contentsFrom_eq (space : Char → Bool) (line text : List Char) :
    contentsFrom space line text
      = content space (line ++ (splitlines text).headD [])
        ++ (splitlines text).tail.flatMap (content space) := by
  have hnil : ∀ lines : List (List Char),
      content space ([] ++ lines.headD []) ++ lines.tail.flatMap (content space)
        = lines.flatMap (content space) := by
    intro lines
    cases lines <;> rfl
  fun_induction splitlines text generalizing line with
  | case1 => simp [contentsFrom]
  | case2 text ih =>
    have hrest : contentsFrom space [] text = (splitlines text).flatMap (content space) :=
      (ih []).trans (hnil _)
    show content space line ++ (content space [] ++ contentsFrom space [] text) = _
    rw [hrest]
    simp
  | case3 c text hne hbreak ih =>
    have hrest : contentsFrom space [] text = (splitlines text).flatMap (content space) :=
      (ih []).trans (hnil _)
    rw [contentsFrom, if_pos hbreak, hrest]
    simp
  | case4 c text hne hbreak hlines ih =>
    rw [contentsFrom, if_neg hbreak, ih, hlines]
    simp
  | case5 c text hne hbreak first lines hlines ih =>
    rw [contentsFrom, if_neg hbreak, ih, hlines]
    simp

theorem contents_eq_contentsFrom (space : Char → Bool) (text : List Char) :
    contents space text = contentsFrom space [] text := by
  rw [contentsFrom_eq, contents]
  cases splitlines text <;> rfl

/-- A space before the first line says nothing. -/
theorem contentsFrom_cons_line (hc : space c = true) (line text : List Char) :
    contentsFrom space (c :: line) text = contentsFrom space line text := by
  induction text generalizing line with
  | nil => exact content_cons hc line
  | cons d text ih =>
    rw [contentsFrom, contentsFrom, content_cons hc]
    exact if_congr Iff.rfl rfl (ih (line ++ [d]))

/-- A space behind the last line says nothing. -/
theorem contentsFrom_concat (hc : space c = true) (line text : List Char) :
    contentsFrom space line (text ++ [c]) = contentsFrom space line text := by
  induction text generalizing line with
  | nil =>
    show (if isLineBreak c then content space line ++ content space []
      else content space (line ++ [c])) = content space line
    rw [content_nil, List.append_nil, content_concat hc, ite_self]
  | cons d text ih =>
    rw [List.cons_append, contentsFrom, contentsFrom, ih, ih]

theorem contents_cons (hc : space c = true) (text : List Char) :
    contents space (c :: text) = contents space text := by
  rw [contents_eq_contentsFrom, contents_eq_contentsFrom, contentsFrom, content_nil,
    List.nil_append, List.nil_append, contentsFrom_cons_line hc, ite_self]

theorem contents_concat (hc : space c = true) (text : List Char) :
    contents space (text ++ [c]) = contents space text := by
  rw [contents_eq_contentsFrom, contents_eq_contentsFrom, contentsFrom_concat hc]

/-- **Stripping a text** does not change what it says. -/
theorem contents_strip (space : Char → Bool) (text : List Char) :
    contents space (strip space text) = contents space text := by
  have hleft : ∀ text, contents space (text.dropWhile space) = contents space text := by
    intro text
    induction text with
    | nil => rfl
    | cons c text ih =>
      by_cases hc : space c = true
      · rw [List.dropWhile_cons_of_pos hc, ih, contents_cons hc]
      · rw [List.dropWhile_cons_of_neg hc]
  have hright : ∀ text, contents space (text.rdropWhile space) = contents space text := by
    intro text
    induction text using List.reverseRecOn with
    | nil => rfl
    | append_singleton text c ih =>
      by_cases hc : space c = true
      · rw [List.rdropWhile_concat_pos _ _ _ hc, ih, contents_concat hc]
      · rw [List.rdropWhile_concat_neg _ _ _ hc]
  rw [strip, hright, hleft]

/-! ### One line at a time -/

/-- There is no break within a line. -/
theorem isLineBreak_of_mem_splitlines (h : line ∈ splitlines text) :
    ∀ c ∈ line, isLineBreak c = false := by
  fun_induction splitlines text generalizing line with
  | case1 => cases h
  | case2 text ih =>
    rcases List.mem_cons.mp h with rfl | h
    · exact fun c hc => absurd hc List.not_mem_nil
    · exact ih h
  | case3 c text hne hbreak ih =>
    rcases List.mem_cons.mp h with rfl | h
    · exact fun c hc => absurd hc List.not_mem_nil
    · exact ih h
  | case4 c text hne hbreak hlines ih =>
    obtain rfl := List.mem_singleton.mp h
    intro d hd
    obtain rfl := List.mem_singleton.mp hd
    simpa using hbreak
  | case5 c text hne hbreak first lines hlines ih =>
    rcases List.mem_cons.mp h with rfl | h
    · intro d hd
      rcases List.mem_cons.mp hd with rfl | hd
      · simpa using hbreak
      · exact ih (hlines ▸ List.mem_cons_self) d hd
    · exact ih (hlines ▸ List.mem_cons_of_mem _ h)

/-- A text without breaks says what its one line says. -/
theorem contents_of_line (h : ∀ c ∈ line, isLineBreak c = false) :
    contents space line = content space line := by
  have hfrom : ∀ before, contentsFrom space before line = content space (before ++ line) := by
    induction line with
    | nil => exact fun before => (congrArg _ (List.append_nil before)).symm
    | cons c line ih =>
      intro before
      rw [contentsFrom, if_neg (by rw [h c List.mem_cons_self]; exact Bool.false_ne_true),
        ih (fun d hd => h d (List.mem_cons_of_mem _ hd)), List.append_assoc]
      rfl
  rw [contents_eq_contentsFrom]
  exact hfrom []

/-- **A text says what its lines say**, each taken as a text of its own. -/
theorem flatMap_contents_splitlines (space : Char → Bool) (text : List Char) :
    (splitlines text).flatMap (contents space) = contents space text := by
  refine List.flatMap_congr fun line hline => ?_
  exact contents_of_line (isLineBreak_of_mem_splitlines hline)

end

end Lines
