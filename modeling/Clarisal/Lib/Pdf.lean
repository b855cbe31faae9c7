import Clarisal.Lib.Numeral
import Mathlib.Data.List.Infix
import Mathlib.Logic.Function.Iterate

/-!
# Files of numbered objects

A PDF file is read from its end: the last line but one is the offset of the
cross-reference table, the table gives the offset of each numbered object, and the
trailer after it names the root. This module has such a reader, and a writer of
objects numbered from one. What is written is read back: `object_file`, `size_file` and
`root_file`.

The reader takes the lines of the table one after the other, so that nothing depends on
how many digits an offset has.
-/

namespace Pdf

abbrev Bytes := List UInt8

/-! ## Text and bytes -/

/-- The bytes of characters below 256. -/
def encode (text : List Char) : Bytes := text.map (fun c => c.toNat.toUInt8)

def decode (bytes : Bytes) : List Char := bytes.map (fun b => Char.ofNat b.toNat)

abbrev latin1 (text : String) : Bytes := encode text.toList

@[simp] theorem encode_append (s t : List Char) : encode (s ++ t) = encode s ++ encode t :=
  List.map_append

theorem latin1_append (s t : String) : latin1 (s ++ t) = latin1 s ++ latin1 t := by
  simp [latin1]

theorem decode_encode {text : List Char} (h : ∀ c ∈ text, c.toNat < 256) :
    decode (encode text) = text := by
  unfold decode encode
  rw [List.map_map]
  refine (List.map_congr_left fun c hc => ?_).trans (List.map_id text)
  show Char.ofNat (c.toNat.toUInt8).toNat = c
  rw [show (c.toNat.toUInt8).toNat = c.toNat from Nat.mod_eq_of_lt (h c hc), Char.ofNat_toNat]

/-! ## Numbers -/

def isDigit (b : UInt8) : Bool := 48 ≤ b.toNat ∧ b.toNat ≤ 57

/-- The number at the front of a text. -/
def number (bytes : Bytes) : ℕ := Nat.ofDigitChars 10 (decode (bytes.takeWhile isDigit)) 0

/-- The bytes of a number. -/
abbrev digits (n : ℕ) : Bytes := encode (Nat.toDigits 10 n)

theorem latin1_toString (n : ℕ) : latin1 (toString n) = digits n := by
  simp [latin1]

theorem toNat_of_mem_toDigits {n : ℕ} {c : Char} (h : c ∈ Nat.toDigits 10 n) :
    48 ≤ c.toNat ∧ c.toNat ≤ 57 := by
  have hdigit := Nat.isDigit_of_mem_toDigits (by decide) (by decide) h
  simpa [Char.isDigit, UInt32.le_iff_toNat_le] using hdigit

theorem toNat_of_mem_zeroPad {w n : ℕ} {c : Char} (h : c ∈ zeroPad w n) :
    48 ≤ c.toNat ∧ c.toNat ≤ 57 := by
  rw [zeroPad_eq] at h
  cases List.mem_append.mp h with
  | inl hzero =>
    rw [(List.mem_replicate.mp hzero).2]
    decide
  | inr hdigit => exact toNat_of_mem_toDigits hdigit

theorem isDigit_of_mem_encode {text : List Char}
    (h : ∀ c ∈ text, 48 ≤ c.toNat ∧ c.toNat ≤ 57) {b : UInt8} (hb : b ∈ encode text) :
    isDigit b = true := by
  obtain ⟨c, hc, rfl⟩ := List.mem_map.mp hb
  have hc := h c hc
  unfold isDigit
  rw [show (c.toNat.toUInt8).toNat = c.toNat from Nat.mod_eq_of_lt (by omega)]
  exact decide_eq_true hc

theorem isDigit_of_mem_digits {n : ℕ} {b : UInt8} (hb : b ∈ digits n) : isDigit b = true :=
  isDigit_of_mem_encode (fun _ => toNat_of_mem_toDigits) hb

/-- The number at the front of digits and of what is not a digit. -/
theorem number_encode {text : List Char} (h : ∀ c ∈ text, 48 ≤ c.toNat ∧ c.toNat ≤ 57)
    {rest : Bytes} (hrest : rest.takeWhile isDigit = []) :
    number (encode text ++ rest) = Nat.ofDigitChars 10 text 0 := by
  unfold number
  rw [List.takeWhile_append_of_pos (fun b hb => isDigit_of_mem_encode h hb), hrest,
    List.append_nil, decode_encode fun c hc => by have := h c hc; omega]

theorem number_digits (n : ℕ) {rest : Bytes} (hrest : rest.takeWhile isDigit = []) :
    number (digits n ++ rest) = n := by
  rw [number_encode (fun _ => toNat_of_mem_toDigits) hrest, Nat.ofDigitChars_ten_toDigits]

theorem number_zeroPad (w n : ℕ) {rest : Bytes} (hrest : rest.takeWhile isDigit = []) :
    number (encode (zeroPad w n) ++ rest) = n := by
  rw [number_encode (fun _ => toNat_of_mem_zeroPad) hrest, zeroPad_eq, Nat.ofDigitChars_append,
    Nat.ofDigitChars_replicate_zero, Nat.mul_zero, Nat.ofDigitChars_ten_toDigits]

/-! ## Keys -/

/-- What follows the first occurrence of a key. -/
def after (key : Bytes) : Bytes → Option Bytes
  | [] => none
  | b :: bytes =>
    match (b :: bytes).dropPrefix? key with
    | some rest => some rest
    | none => after key bytes

/-- No occurrence of the key begins in the text, whatever follows it. -/
def Clear (key text : Bytes) : Prop :=
  ∀ t ∈ text.tails, t ≠ [] → ¬ key <+: t ∧ ¬ t <+: key

instance (key text : Bytes) : Decidable (Clear key text) :=
  inferInstanceAs (Decidable (∀ t ∈ text.tails, t ≠ [] → ¬ key <+: t ∧ ¬ t <+: key))

theorem dropPrefix?_append (text rest : Bytes) : (text ++ rest).dropPrefix? text = some rest :=
  List.dropPrefix?_append_of_beq rest (beq_self_eq_true text)

theorem dropPrefix?_eq_none {key text : Bytes} (h : ¬ key <+: text) :
    text.dropPrefix? key = none := by
  refine Option.eq_none_iff_forall_not_mem.mpr fun rest hrest => h ?_
  obtain ⟨p, rfl, hp⟩ := List.dropPrefix?_eq_some_iff.mp hrest
  exact ⟨rest, by rw [eq_of_beq hp]⟩

theorem after_append {key text : Bytes} (h : Clear key text) (rest : Bytes) :
    after key (text ++ rest) = after key rest := by
  induction text with
  | nil => rfl
  | cons b text ih =>
    have hhead := h (b :: text) (by simp) (by simp)
    have hnot : ¬ key <+: b :: text ++ rest := fun hprefix =>
      (List.prefix_or_prefix_of_prefix hprefix (List.prefix_append _ rest)).elim hhead.1 hhead.2
    show after key (b :: (text ++ rest)) = _
    rw [after, show (b :: (text ++ rest)).dropPrefix? key = none from dropPrefix?_eq_none hnot]
    exact ih fun t ht => h t (by simp [ht])

theorem after_key {key : Bytes} (hne : key ≠ []) (rest : Bytes) :
    after key (key ++ rest) = some rest := by
  cases key with
  | nil => exact absurd rfl hne
  | cons k key =>
    show after (k :: key) (k :: (key ++ rest)) = _
    rw [after, show (k :: (key ++ rest)).dropPrefix? (k :: key) = some rest from
      dropPrefix?_append (k :: key) rest]

theorem clear_of_notMem {k : UInt8} {key text : Bytes} (h : k ∉ text) : Clear (k :: key) text := by
  intro t ht hne
  have hk : k ∉ t := fun hmem => h (((List.mem_tails t text).mp ht).subset hmem)
  refine ⟨fun hstarts => hk (hstarts.subset List.mem_cons_self), fun hstarts => ?_⟩
  cases t with
  | nil => exact hne rfl
  | cons b t => exact hk ((List.cons_prefix_cons.mp hstarts).1 ▸ List.mem_cons_self)

/-! ## Lines -/

def dropLine (bytes : Bytes) : Bytes := (bytes.dropWhile (· ≠ 10)).drop 1

/-- Each line with its line feed. -/
def unlines (lines : List Bytes) : Bytes := lines.flatMap (· ++ [10])

theorem unlines_cons (line : Bytes) (lines : List Bytes) (rest : Bytes) :
    unlines (line :: lines) ++ rest = line ++ 10 :: (unlines lines ++ rest) := by
  simp [unlines]

theorem dropLine_append {line : Bytes} (h : 10 ∉ line) (rest : Bytes) :
    dropLine (line ++ 10 :: rest) = rest := by
  unfold dropLine
  rw [List.dropWhile_append_of_pos fun b hb => by simpa using ne_of_mem_of_not_mem hb h]
  simp

/-- Dropping lines of a text drops them from its list. -/
theorem iterate_dropLine {lines : List Bytes} (h : ∀ line ∈ lines, 10 ∉ line) {k : ℕ}
    (hk : k ≤ lines.length) (rest : Bytes) :
    dropLine^[k] (unlines lines ++ rest) = unlines (lines.drop k) ++ rest := by
  induction lines generalizing k with
  | nil =>
    rw [Nat.le_zero.mp hk]
    rfl
  | cons line lines ih =>
    cases k with
    | zero => rfl
    | succ k =>
      rw [Function.iterate_succ_apply, unlines_cons, dropLine_append (h line List.mem_cons_self)]
      exact ih (fun l hl => h l (List.mem_cons_of_mem line hl)) (Nat.le_of_succ_le_succ hk)

/-! ## The reader -/

/-- The offset on the last line but one. -/
def startxref (pdf : Bytes) : Option ℕ :=
  (pdf.reverse.dropPrefix? (latin1 "\n%%EOF").reverse).map fun text =>
    number (text.takeWhile isDigit).reverse

/-- The cross-reference table, and what follows it. -/
def xrefTable (pdf : Bytes) : Option Bytes := do
  let offset ← startxref pdf
  (pdf.drop offset).dropPrefix? (latin1 "xref\n0 ")

/-- The number of entries, with the one of number zero. -/
def size (pdf : Bytes) : Option ℕ := (xrefTable pdf).map number

/-- The offset of the object with a number. -/
def xrefEntry (pdf : Bytes) (k : ℕ) : Option ℕ :=
  (xrefTable pdf).map fun table => number (dropLine^[k + 1] table)

/-- The number of the root. -/
def root (pdf : Bytes) : Option ℕ := do
  let table ← xrefTable pdf
  (after (latin1 "/Root ") table).map number

/-- **The object with a number**, and what follows it, if it begins at the offset that
the table gives. -/
def object (pdf : Bytes) (k : ℕ) : Option Bytes := do
  let offset ← xrefEntry pdf k
  (pdf.drop offset).dropPrefix? (latin1 s!"{k} 0 obj\n")

/-- The object is a dictionary of the type. -/
def HasType (type : String) (text : Bytes) : Prop := latin1 s!"<< /Type /{type} " <+: text

instance (type : String) (text : Bytes) : Decidable (HasType type text) :=
  inferInstanceAs (Decidable (latin1 s!"<< /Type /{type} " <+: text))

/-- The object a key refers to. -/
def reference (key : String) (text : Bytes) : Option ℕ :=
  (after (latin1 s!"/{key} ") text).map number

/-- The number that follows spaces. -/
def numberAfterSpaces (text : Bytes) : ℕ := number (text.dropWhile (· = 32))

/-- The objects that an array at the front refers to; each reference ends with an `R`. -/
def referenceNumbers (array : Bytes) : List ℕ :=
  ((array.takeWhile (· ≠ 93)).splitOn 82).dropLast.map numberAfterSpaces

def references (key : String) (text : Bytes) : Option (List ℕ) :=
  (after (latin1 s!"/{key} [ ") text).map referenceNumbers

/-! ## The writer -/

/-- An object between its number and its end. -/
def objectBytes (k : ℕ) (payload : Bytes) : Bytes :=
  latin1 s!"{k} 0 obj\n" ++ payload ++ latin1 "\nendobj\n"

/-- Objects under the numbers from `k` on. -/
def body : ℕ → List Bytes → Bytes
  | _, [] => []
  | k, payload :: payloads => objectBytes k payload ++ body (k + 1) payloads

/-- The offsets of objects that are written from an offset on. -/
def offsets : ℕ → ℕ → List Bytes → List ℕ
  | _, _, [] => []
  | start, k, payload :: payloads =>
    start :: offsets (start + (objectBytes k payload).length) (k + 1) payloads

def entry (offset : ℕ) : Bytes := encode (zeroPad 10 offset) ++ latin1 " 00000 n "

/-- The lines of the table. -/
def tableLines (start : ℕ) (payloads : List Bytes) : List Bytes :=
  digits (payloads.length + 1) :: latin1 "0000000000 65535 f "
    :: (offsets start 1 payloads).map entry

def trailer (size root offset : ℕ) : Bytes :=
  latin1 s!"trailer\n<< /Size {size} /Root {root} 0 R >>\nstartxref" ++ 10 :: digits offset
    ++ latin1 "\n%%EOF"

/-- **The file of objects** numbered from one, with a header. -/
def file (header : Bytes) (payloads : List Bytes) (root : ℕ) : Bytes :=
  header ++ body 1 payloads ++ latin1 "xref\n0 "
    ++ unlines (tableLines header.length payloads)
    ++ trailer (payloads.length + 1) root (header ++ body 1 payloads).length

/-! ## What is written is read back -/

section

variable (header : Bytes) (payloads : List Bytes) (rootId : ℕ)

theorem latin1_interpolate (s t : String) (n : ℕ) :
    latin1 (s ++ toString n ++ t) = latin1 s ++ digits n ++ latin1 t := by
  rw [latin1_append, latin1_append, latin1_toString]

theorem trailer_eq (size root offset : ℕ) :
    trailer size root offset
      = latin1 "trailer\n<< /Size " ++ digits size ++ latin1 " /Root " ++ digits root
        ++ latin1 " 0 R >>\nstartxref" ++ 10 :: digits offset ++ latin1 "\n%%EOF" := by
  unfold trailer
  show latin1 (toString "trailer\n<< /Size " ++ toString size ++ toString " /Root "
    ++ toString root ++ toString " 0 R >>\nstartxref") ++ _ ++ _ = _
  simp only [latin1_append, latin1_toString]
  rfl

/-- The number on the last line of a text. -/
theorem number_takeWhile_reverse (text : Bytes) (n : ℕ) :
    number ((text ++ 10 :: digits n).reverse.takeWhile isDigit).reverse = n := by
  rw [List.reverse_append, List.reverse_cons, List.append_assoc,
    List.takeWhile_append_of_pos fun b hb => isDigit_of_mem_digits (List.mem_reverse.mp hb)]
  show number ((digits n).reverse ++ []).reverse = n
  rw [List.append_nil, List.reverse_reverse, ← List.append_nil (digits n)]
  exact number_digits n rfl

theorem startxref_append (pdf : Bytes) (size root offset : ℕ) :
    startxref (pdf ++ trailer size root offset) = some offset := by
  unfold startxref
  rw [trailer_eq, ← List.append_assoc, List.reverse_append, dropPrefix?_append]
  show some (number _) = _
  rw [← List.append_assoc, number_takeWhile_reverse]

theorem xrefTable_file :
    xrefTable (file header payloads rootId)
      = some (unlines (tableLines header.length payloads)
        ++ trailer (payloads.length + 1) rootId (header ++ body 1 payloads).length) := by
  unfold xrefTable
  rw [file, startxref_append]
  generalize header ++ body 1 payloads = pdf
  show List.dropPrefix? (List.drop pdf.length _) _ = _
  rw [List.append_assoc, List.append_assoc, List.drop_left, dropPrefix?_append]

theorem size_file : size (file header payloads rootId) = some (payloads.length + 1) := by
  unfold size
  rw [xrefTable_file]
  show some (number _) = _
  rw [tableLines, unlines_cons, number_digits _ rfl]

theorem notMem_of_isDigit {text : Bytes} (h : ∀ b ∈ text, isDigit b = true) {b : UInt8}
    (hb : isDigit b = false) : b ∉ text := fun hmem => by
  rw [h b hmem] at hb
  cases hb

theorem notMem_digits {b : UInt8} (n : ℕ) (hb : isDigit b = false) : b ∉ digits n :=
  notMem_of_isDigit (fun _ => isDigit_of_mem_digits) hb

/-- An entry has neither a line feed nor a slash. -/
theorem notMem_entry (offset : ℕ) : 10 ∉ entry offset ∧ 47 ∉ entry offset := by
  have hpadded : ∀ b ∈ encode (zeroPad 10 offset), isDigit b = true :=
    fun _ => isDigit_of_mem_encode fun _ => toNat_of_mem_zeroPad
  exact ⟨List.not_mem_append (notMem_of_isDigit hpadded rfl) (by decide),
    List.not_mem_append (notMem_of_isDigit hpadded rfl) (by decide)⟩

theorem length_offsets (start k : ℕ) : (offsets start k payloads).length = payloads.length := by
  induction payloads generalizing start k with
  | nil => rfl
  | cons payload payloads ih =>
    show (offsets _ _ payloads).length + 1 = _
    rw [ih, List.length_cons]

theorem notMem_tableLines (start : ℕ) {line : Bytes} (h : line ∈ tableLines start payloads) :
    10 ∉ line ∧ 47 ∉ line := by
  unfold tableLines at h
  rw [List.mem_cons, List.mem_cons] at h
  obtain rfl | rfl | hentry := h
  · exact ⟨notMem_digits _ rfl, notMem_digits _ rfl⟩
  · decide
  · obtain ⟨offset, -, rfl⟩ := List.mem_map.mp hentry
    exact notMem_entry offset

theorem xrefEntry_file {k : ℕ} {offset : ℕ}
    (h : (offsets header.length 1 payloads)[k]? = some offset) :
    xrefEntry (file header payloads rootId) (k + 1) = some offset := by
  unfold xrefEntry
  rw [xrefTable_file]
  have hlt : k < payloads.length :=
    length_offsets payloads header.length 1 ▸ (List.getElem?_eq_some_iff.mp h).1
  show some (number (dropLine^[k + 2] _)) = _
  rw [iterate_dropLine (fun line hline => (notMem_tableLines payloads _ hline).1)
    (by simp [tableLines, length_offsets]; omega)]
  show some (number (unlines (((offsets header.length 1 payloads).map entry).drop k) ++ _)) = _
  rw [List.drop_eq_getElem_cons (by simpa [length_offsets] using hlt), List.getElem_map,
    (List.getElem?_eq_some_iff.mp h).2, unlines_cons, entry, List.append_assoc,
    number_zeroPad 10 offset rfl]

/-- An object stands at its offset. -/
theorem drop_body {k : ℕ} {payload : Bytes} (h : payloads[k]? = some payload) (first : ℕ)
    (rest : Bytes) :
    ∃ offset more, (offsets header.length first payloads)[k]? = some offset
      ∧ (header ++ body first payloads ++ rest).drop offset
        = objectBytes (first + k) payload ++ more := by
  induction payloads generalizing header first k with
  | nil => cases h
  | cons head payloads ih =>
    cases k with
    | zero =>
      obtain rfl := Option.some.inj h
      refine ⟨header.length, body (first + 1) payloads ++ rest, rfl, ?_⟩
      rw [List.append_assoc, List.drop_left]
      exact List.append_assoc _ _ _
    | succ k =>
      obtain ⟨offset, more, hoffset, hdrop⟩ :=
        ih (header ++ objectBytes first head) h (first + 1)
      refine ⟨offset, more, ?_, ?_⟩
      · rw [offsets, List.getElem?_cons_succ, ← List.length_append, hoffset]
      · rw [List.append_assoc header] at hdrop
        rw [body, hdrop, show first + 1 + k = first + (k + 1) by omega]

/-- **An object is found under its number.** -/
theorem object_file {k : ℕ} {payload : Bytes} (h : payloads[k]? = some payload) :
    ∃ more, object (file header payloads rootId) (k + 1)
      = some (payload ++ latin1 "\nendobj\n" ++ more) := by
  obtain ⟨offset, more, hoffset, hdrop⟩ := drop_body header payloads h 1
    (latin1 "xref\n0 " ++ (unlines (tableLines header.length payloads)
      ++ trailer (payloads.length + 1) rootId (header ++ body 1 payloads).length))
  refine ⟨more, ?_⟩
  unfold object
  rw [xrefEntry_file header payloads rootId hoffset]
  show List.dropPrefix? (List.drop offset (file header payloads rootId)) _ = _
  rw [file, List.append_assoc, List.append_assoc, hdrop, Nat.add_comm 1 k]
  show List.dropPrefix? (latin1 _ ++ payload ++ latin1 "\nendobj\n" ++ more) _ = _
  rw [List.append_assoc, List.append_assoc, dropPrefix?_append, List.append_assoc]

theorem notMem_unlines (start : ℕ) : 47 ∉ unlines (tableLines start payloads) := fun hmem => by
  obtain ⟨line, hline, hmem⟩ := List.mem_flatMap.mp hmem
  refine List.not_mem_append (notMem_tableLines payloads start hline).2 ?_ hmem
  decide

/-- The root of a file. -/
theorem root_file : root (file header payloads rootId) = some rootId := by
  unfold root
  rw [xrefTable_file]
  show Option.map number (after (latin1 "/Root ") _) = _
  rw [show latin1 "/Root " = 47 :: latin1 "Root " from rfl,
    after_append (clear_of_notMem (notMem_unlines payloads header.length)), trailer_eq]
  simp only [List.append_assoc]
  rw [after_append (by decide), after_append (clear_of_notMem (notMem_digits _ rfl)),
    show latin1 " /Root " = [32] ++ (47 :: latin1 "Root ") from rfl, List.append_assoc,
    after_append (by decide), after_key (List.cons_ne_nil 47 _)]
  show some (number _) = _
  rw [number_digits rootId rfl]

end

/-! ## Dictionaries -/

section

variable {type : String} {text : Bytes}

/-- The type of an object is decided by its front. -/
theorem hasType_append (h : (latin1 s!"<< /Type /{type} ").length ≤ text.length) (rest : Bytes) :
    HasType type (text ++ rest) ↔ HasType type text :=
  ⟨fun hprefix => List.prefix_of_prefix_length_le hprefix (List.prefix_append text rest) h,
    fun hprefix => hprefix.trans (List.prefix_append text rest)⟩

/-- References with a space between each two. -/
def refArray (ids : List ℕ) : Bytes := latin1 (" ".intercalate (ids.map fun id => s!"{id} 0 R"))

theorem refArray_singleton (id : ℕ) : refArray [id] = digits id ++ latin1 " 0 R" := by
  show latin1 (" ".intercalate [toString id ++ toString " 0 R"]) = _
  rw [String.intercalate_singleton, latin1_append, latin1_toString]
  rfl

theorem refArray_cons_cons (id next : ℕ) (ids : List ℕ) :
    refArray (id :: next :: ids)
      = digits id ++ latin1 " 0 R" ++ 32 :: refArray (next :: ids) := by
  show latin1 (" ".intercalate ((toString id ++ toString " 0 R") :: _ :: _)) = _
  rw [String.intercalate_cons_cons, latin1_append, latin1_append, latin1_append, latin1_toString,
    List.append_assoc _ (latin1 " ")]
  rfl

theorem notMem_refArray {b : UInt8} (hdigit : isDigit b = false) (hlit : b ∉ latin1 " 0 R")
    (ids : List ℕ) : b ∉ refArray ids := by
  have hspace : b ≠ 32 := fun h => hlit (h ▸ by decide)
  induction ids with
  | nil => exact List.not_mem_nil
  | cons id ids ih =>
    cases ids with
    | nil =>
      rw [refArray_singleton]
      exact List.not_mem_append (notMem_digits id hdigit) hlit
    | cons next ids =>
      rw [refArray_cons_cons]
      exact List.not_mem_append (List.not_mem_append (notMem_digits id hdigit) hlit)
        (List.not_mem_cons_of_ne_of_not_mem hspace ih)

theorem numberAfterSpaces_digits (k n : ℕ) {rest : Bytes} (hrest : rest.takeWhile isDigit = []) :
    numberAfterSpaces (List.replicate k 32 ++ (digits n ++ rest)) = n := by
  have hspace : (digits n ++ rest).dropWhile (· = 32) = digits n ++ rest := by
    cases hdigits : digits n with
    | nil => exact absurd (List.map_eq_nil_iff.mp hdigits) Nat.toDigits_ne_nil
    | cons b bytes =>
      have hb : isDigit b = true := isDigit_of_mem_digits (hdigits ▸ List.mem_cons_self)
      have hne : b ≠ 32 := fun heq => by
        rw [heq] at hb
        cases hb
      exact List.dropWhile_cons_of_neg (by simpa using hne)
  unfold numberAfterSpaces
  rw [List.dropWhile_append_of_pos fun b hb => by simpa using List.eq_of_mem_replicate hb, hspace,
    number_digits n hrest]

/-- A reference and what follows it, split after the reference. -/
theorem splitOn_reference (k id : ℕ) (rest : Bytes) :
    (List.replicate k 32 ++ (digits id ++ latin1 " 0 R" ++ rest)).splitOn 82
      = (List.replicate k 32 ++ (digits id ++ [32, 48, 32])) :: rest.splitOn 82 := by
  have hfront : 82 ∉ List.replicate k 32 ++ (digits id ++ [32, 48, 32]) :=
    List.not_mem_append (fun h => absurd (List.eq_of_mem_replicate h) (by decide))
      (List.not_mem_append (notMem_digits id rfl) (by decide))
  rw [← List.splitOn_append_cons_self_of_not_mem hfront]
  simp only [List.append_assoc]
  rfl

theorem splitOn_refArray {ids : List ℕ} (hne : ids ≠ []) (k : ℕ) :
    ((List.replicate k 32 ++ (refArray ids ++ [32])).splitOn 82).dropLast.map numberAfterSpaces
      = ids := by
  induction ids generalizing k with
  | nil => exact absurd rfl hne
  | cons id ids ih =>
    cases ids with
    | nil =>
      rw [refArray_singleton, splitOn_reference]
      show [numberAfterSpaces _] = _
      rw [numberAfterSpaces_digits k id rfl]
    | cons next ids =>
      have hih := ih (List.cons_ne_nil next ids) 1
      rw [refArray_cons_cons, List.append_assoc (digits id ++ _), splitOn_reference,
        List.dropLast_cons_of_ne_nil (List.splitOn_ne_nil 82 _), List.map_cons,
        numberAfterSpaces_digits k id rfl]
      exact congrArg (id :: ·) hih

/-- An array is read back, whatever follows it. -/
theorem referenceNumbers_refArray {ids : List ℕ} (hne : ids ≠ []) (rest : Bytes) :
    referenceNumbers (refArray ids ++ latin1 " ]" ++ rest) = ids := by
  have hinside : ∀ b ∈ refArray ids ++ [32], decide (b ≠ 93) = true := fun b hb =>
    decide_eq_true fun heq => List.not_mem_append
      (notMem_refArray (b := 93) rfl (by decide) ids) (by decide) (heq ▸ hb)
  unfold referenceNumbers
  rw [show refArray ids ++ latin1 " ]" ++ rest = (refArray ids ++ [32]) ++ 93 :: rest by
    simp only [List.append_assoc]; rfl, List.takeWhile_append_of_pos hinside]
  show List.map _ ((refArray ids ++ [32] ++ []).splitOn 82).dropLast = _
  rw [List.append_nil]
  exact splitOn_refArray hne 0

end

end Pdf
