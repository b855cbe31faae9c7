import Clarisal.Lib.Pdf

/-!
# Form 16 as a PDF

`renderSimplePdf` numbers its objects while it appends them: the font is object 1, the
streams of the pages follow it, then the pages. Only then the object of all pages is
put in, as object 2, and every stream and page moves up by one. The references that
were written before keep the old numbers.

So the table of offsets, the root and the parents are right for every text. The first
reference of `Kids` is a stream, and the contents of the first page are the object of
all pages: no text gives a file whose pages can be found.
-/

open Pdf

namespace Payroll

/-! ## The renderer -/

structure UnicodeEncodeError where
  character : Char
deriving DecidableEq

/-- `str.encode('latin-1')`. -/
def encodeLatin1 (text : String) : Except UnicodeEncodeError Bytes :=
  text.toList.mapM fun c => if c.toNat < 256 then .ok c.toNat.toUInt8 else .error ⟨c⟩

def replaceChar (c : Char) (new : List Char) (text : List Char) : List Char :=
  text.flatMap fun d => if d = c then new else [d]

def escapePdfText (value : String) : String :=
  let safeValue := value.toList.map fun c => if c.toNat < 256 then c else '?'
  String.ofList (replaceChar ')' ['\\', ')'] (replaceChar '(' ['\\', '(']
    (replaceChar '\\' ['\\', '\\'] safeValue)))

/-- The lines in pages of forty; a text without lines has one page. -/
def pageChunks (lines : List String) : List (List String) :=
  let chunks := (List.range ((lines.length + 39) / 40)).map fun i => (lines.drop (40 * i)).take 40
  if chunks = [] then [[]] else chunks

def pageStream (pageLines : List String) : String :=
  let textLines := ["BT", "/F1 11 Tf", "50 780 Td", "14 TL"]
  let textLines := match pageLines with
    | [] => textLines
    | first :: rest => textLines ++ [s!"({escapePdfText first}) Tj"]
        ++ rest.map fun line => s!"T* ({escapePdfText line}) Tj"
  "\n".intercalate (textLines ++ ["ET"])

/-- The new object's number is the number of objects there are with it. -/
def addObject (objects : List Bytes) (payload : String) :
    Except UnicodeEncodeError (ℕ × List Bytes) := do
  let bytes ← encodeLatin1 payload
  return (objects.length + 1, objects ++ [bytes])

def contentObject (length : ℕ) (stream : String) : String :=
  s!"<< /Length {length} >>\nstream\n{stream}\nendstream"

def pageObject (pagesId fontId contentId : ℕ) : String :=
  s!"<< /Type /Page /Parent {pagesId} 0 R /MediaBox [0 0 612 792] "
    ++ s!"/Resources << /Font << /F1 {fontId} 0 R >> >> /Contents {contentId} 0 R >>"

def pagesObject (pageIds : List ℕ) : String :=
  s!"<< /Type /Pages /Count {pageIds.length} /Kids [ "
    ++ " ".intercalate (pageIds.map fun pageId => s!"{pageId} 0 R") ++ " ] >>"

/-! The four loops of the renderer, one step each. -/

def addContent (found : List ℕ × List Bytes) (pageLines : List String) :
    Except UnicodeEncodeError (List ℕ × List Bytes) := do
  let stream := pageStream pageLines
  let length := (← encodeLatin1 stream).length
  let (contentId, objects) ← addObject found.2 (contentObject length stream)
  return (found.1 ++ [contentId], objects)

def addPage (pagesId fontId : ℕ) (found : List ℕ × List Bytes) (contentId : ℕ) :
    Except UnicodeEncodeError (List ℕ × List Bytes) := do
  let (pageId, objects) ← addObject found.2 (pageObject pagesId fontId contentId)
  return (found.1 ++ [pageId], objects)

def writeObject (written : Bytes × List ℕ) (object : Bytes × ℕ) :
    Except UnicodeEncodeError (Bytes × List ℕ) := do
  return (written.1 ++ (← encodeLatin1 s!"{object.2} 0 obj\n") ++ object.1
    ++ (← encodeLatin1 "\nendobj\n"), written.2 ++ [written.1.length])

def writeEntry (pdf : Bytes) (offset : ℕ) : Except UnicodeEncodeError Bytes := do
  return pdf ++ (← encodeLatin1 (String.ofList (zeroPad 10 offset) ++ " 00000 n \n"))

/-- The objects in the order they are written, and the number of the catalog. -/
def buildObjects (lines : List String) : Except UnicodeEncodeError (List Bytes × ℕ) := do
  let (fontId, objects) ← addObject [] "<< /Type /Font /Subtype /Type1 /BaseFont /Helvetica >>"
  let pagesId := objects.length + 1
  let (contentIds, objects) ← (pageChunks lines).foldlM addContent ([], objects)
  let (pageIds, objects) ← contentIds.foldlM (addPage pagesId fontId) ([], objects)
  -- every object from the second on gets a new number
  let objects := objects.insertIdx (pagesId - 1) (← encodeLatin1 (pagesObject pageIds))
  let catalogId := objects.length + 1
  let objects := objects ++ [← encodeLatin1 s!"<< /Type /Catalog /Pages {pagesId} 0 R >>"]
  return (objects, catalogId)

def writePdf (objects : List Bytes) (catalogId : ℕ) : Except UnicodeEncodeError Bytes := do
  let (pdf, offsets) ← (objects.zipIdx 1).foldlM writeObject (← encodeLatin1 "%PDF-1.4\n", [0])
  let xrefOffset := pdf.length
  let pdf := pdf ++ (← encodeLatin1 s!"xref\n0 {objects.length + 1}\n")
    ++ (← encodeLatin1 "0000000000 65535 f \n")
  let pdf ← (offsets.drop 1).foldlM writeEntry pdf
  return pdf ++ (← encodeLatin1 (s!"trailer\n<< /Size {objects.length + 1} "
    ++ s!"/Root {catalogId} 0 R >>\nstartxref\n{xrefOffset}\n%%EOF"))

def renderSimplePdf (lines : List String) : Except UnicodeEncodeError Bytes := do
  let (objects, catalogId) ← buildObjects lines
  writePdf objects catalogId

/-! ## What the file should be -/

/-- The object of all pages, as the root refers to it. -/
def pagesOf (pdf : Bytes) : Option Bytes := do
  let catalog ← object pdf (← root pdf)
  object pdf (← reference "Pages" catalog)

def kidsOf (pdf : Bytes) : Option (List ℕ) := do references "Kids" (← pagesOf pdf)

/-- A reference is to an object of a type. -/
def RefersTo (pdf : Bytes) (type : String) (id : ℕ) : Prop :=
  ∃ text ∈ object pdf id, HasType type text

instance (pdf : Bytes) (type : String) : DecidablePred (RefersTo pdf type) := fun id =>
  inferInstanceAs (Decidable (∃ text ∈ object pdf id, HasType type text))

/-- The numbers of the page objects. -/
def pageNumbers (pdf : Bytes) : List ℕ :=
  (List.range' 1 ((size pdf).getD 1 - 1)).filter fun k => RefersTo pdf "Page" k

/-- Every entry of the table is the offset of the object with that number. -/
def XrefExact (pdf : Bytes) : Prop :=
  ∃ n ∈ size pdf, ∀ k, 1 ≤ k → k < n → (object pdf k).isSome

def RootIsCatalog (pdf : Bytes) : Prop := ∃ id ∈ root pdf, RefersTo pdf "Catalog" id

def KidsArePages (pdf : Bytes) : Prop := ∃ ids ∈ kidsOf pdf, ∀ id ∈ ids, RefersTo pdf "Page" id

def ParentsArePages (pdf : Bytes) : Prop :=
  ∀ page ∈ pageNumbers pdf, ∃ text ∈ object pdf page, ∃ id ∈ reference "Parent" text,
    RefersTo pdf "Pages" id

/-- The object that a page's `Contents` names is the stream of the lines. -/
def ShowsLines (pdf : Bytes) (page : ℕ) (pageLines : List String) : Prop :=
  ∃ text ∈ object pdf page, ∃ id ∈ reference "Contents" text, ∃ stream ∈ object pdf id,
    latin1 (contentObject (latin1 (pageStream pageLines)).length (pageStream pageLines)) <+: stream

/-- **A well-formed file**: each reference is to what it names, and each page shows its
own forty lines. -/
structure WellFormed (lines : List String) (pdf : Bytes) : Prop where
  xref : XrefExact pdf
  root : RootIsCatalog pdf
  kids : KidsArePages pdf
  parents : ParentsArePages pdf
  contents : List.Forall₂ (ShowsLines pdf) (pageNumbers pdf) (pageChunks lines)

/-! ## Every text is encoded -/

def IsLatin1 (text : String) : Prop := ∀ c ∈ text.toList, c.toNat < 256

instance (text : String) : Decidable (IsLatin1 text) :=
  List.decidableBAll (fun c : Char => c.toNat < 256) text.toList

section

variable {s t : String}

theorem encodeLatin1_eq (h : IsLatin1 s) : encodeLatin1 s = .ok (latin1 s) := by
  unfold encodeLatin1 latin1
  unfold IsLatin1 at h
  generalize s.toList = text at h
  induction text with
  | nil => rfl
  | cons c text ih =>
    rw [List.mapM_cons, if_pos (h c List.mem_cons_self),
      ih fun d hd => h d (List.mem_cons_of_mem c hd)]
    rfl

theorem IsLatin1.append (hs : IsLatin1 s) (ht : IsLatin1 t) : IsLatin1 (s ++ t) := fun c hc => by
  rw [String.toList_append] at hc
  exact (List.mem_append.mp hc).elim (hs c) (ht c)

theorem isLatin1_toString (n : ℕ) : IsLatin1 (toString n) := fun c hc => by
  have hmem : c ∈ Nat.toDigits 10 n := by simpa using hc
  have := toNat_of_mem_toDigits hmem
  omega

theorem IsLatin1.intercalate {texts : List String} (hs : IsLatin1 s)
    (h : ∀ text ∈ texts, IsLatin1 text) : IsLatin1 (s.intercalate texts) := by
  induction texts with
  | nil =>
    rw [String.intercalate_nil]
    decide
  | cons text texts ih =>
    have hrest := ih fun t ht => h t (List.mem_cons_of_mem text ht)
    by_cases hnil : texts = []
    · rw [hnil, String.intercalate_singleton]
      exact h text List.mem_cons_self
    · rw [String.intercalate_cons_of_ne_nil hnil]
      exact ((h text List.mem_cons_self).append hs).append hrest

theorem replaceChar_lt {c : Char} {new text : List Char} (hnew : ∀ d ∈ new, d.toNat < 256)
    (htext : ∀ d ∈ text, d.toNat < 256) : ∀ d ∈ replaceChar c new text, d.toNat < 256 := by
  intro d hd
  obtain ⟨e, he, hd⟩ := List.mem_flatMap.mp hd
  split at hd
  · exact hnew d hd
  · exact List.mem_singleton.mp hd ▸ htext e he

theorem escaped_lt {c : Char} (hc : c.toNat < 256) : ∀ d ∈ ['\\', c], d.toNat < 256 :=
  List.forall_mem_cons.mpr ⟨by decide, List.forall_mem_singleton.mpr hc⟩

/-- What is escaped can be encoded, whatever was in it. -/
theorem isLatin1_escapePdfText (value : String) : IsLatin1 (escapePdfText value) := by
  unfold IsLatin1 escapePdfText
  rw [String.toList_ofList]
  refine replaceChar_lt (escaped_lt (by decide)) (replaceChar_lt (escaped_lt (by decide))
    (replaceChar_lt (escaped_lt (by decide)) ?_))
  intro d hd
  obtain ⟨c, -, rfl⟩ := List.mem_map.mp hd
  split
  · assumption
  · decide

theorem isLatin1_pageStream (pageLines : List String) : IsLatin1 (pageStream pageLines) := by
  have hoperators : ∀ text ∈ ["BT", "/F1 11 Tf", "50 780 Td", "14 TL"], IsLatin1 text := by decide
  have hshown (operator line : String) (h : IsLatin1 operator) :
      IsLatin1 (operator ++ escapePdfText line ++ ") Tj") :=
    (h.append (isLatin1_escapePdfText line)).append (by decide)
  unfold pageStream
  refine IsLatin1.intercalate (by decide) fun text htext => ?_
  cases List.mem_append.mp htext with
  | inr hend =>
    rw [List.mem_singleton.mp hend]
    decide
  | inl htext =>
    cases pageLines with
    | nil => exact hoperators text htext
    | cons first rest =>
      cases List.mem_append.mp htext with
      | inl htext =>
        cases List.mem_append.mp htext with
        | inl htext => exact hoperators text htext
        | inr hfirst =>
          rw [List.mem_singleton.mp hfirst]
          exact hshown "(" first (by decide)
      | inr hrest =>
        obtain ⟨line, -, rfl⟩ := List.mem_map.mp hrest
        exact hshown "T* (" line (by decide)

theorem isLatin1_contentObject (length : ℕ) (pageLines : List String) :
    IsLatin1 (contentObject length (pageStream pageLines)) := by
  unfold contentObject
  exact ((((IsLatin1.append (by decide) (isLatin1_toString length)).append (by decide)).append
    (isLatin1_pageStream pageLines)).append (by decide))

theorem isLatin1_interpolate (h : IsLatin1 s) (n : ℕ) (ht : IsLatin1 t) :
    IsLatin1 (s ++ toString n ++ t) :=
  (h.append (isLatin1_toString n)).append ht

theorem isLatin1_pageObject (pagesId fontId contentId : ℕ) :
    IsLatin1 (pageObject pagesId fontId contentId) := by
  unfold pageObject
  refine IsLatin1.append ?_ ?_
  · exact isLatin1_interpolate (by decide +kernel) pagesId (by decide +kernel)
  · refine isLatin1_interpolate ?_ contentId (by decide +kernel)
    exact isLatin1_interpolate (by decide +kernel) fontId (by decide +kernel)

theorem isLatin1_pagesObject (pageIds : List ℕ) : IsLatin1 (pagesObject pageIds) := by
  unfold pagesObject
  refine IsLatin1.append (IsLatin1.append ?_ (IsLatin1.intercalate (by decide) ?_)) (by decide)
  · exact isLatin1_interpolate (by decide +kernel) pageIds.length (by decide +kernel)
  · intro text htext
    obtain ⟨pageId, -, rfl⟩ := List.mem_map.mp htext
    exact (isLatin1_toString pageId).append (by decide)

theorem isLatin1_zeroPad (w n : ℕ) : IsLatin1 (String.ofList (zeroPad w n)) := fun c hc => by
  rw [String.toList_ofList] at hc
  have := toNat_of_mem_zeroPad hc
  omega

end

/-! ## The renderer writes a file -/

def streamObject (pageLines : List String) : Bytes :=
  latin1 (contentObject (latin1 (pageStream pageLines)).length (pageStream pageLines))

section

variable (objects : List Bytes) (found : List ℕ)

theorem addObject_eq {payload : String} (h : IsLatin1 payload) :
    addObject objects payload = .ok (objects.length + 1, objects ++ [latin1 payload]) := by
  unfold addObject
  rw [encodeLatin1_eq h]
  rfl

theorem ok_bind {α β : Type} (a : α) (f : α → Except UnicodeEncodeError β) :
    (Except.ok a >>= f) = f a := rfl

theorem addContent_eq (pageLines : List String) :
    addContent (found, objects) pageLines
      = .ok (found ++ [objects.length + 1], objects ++ [streamObject pageLines]) := by
  unfold addContent
  dsimp only
  rw [encodeLatin1_eq (isLatin1_pageStream pageLines), ok_bind,
    addObject_eq _ (isLatin1_contentObject _ pageLines), ok_bind]
  rfl

theorem addPage_eq (pagesId fontId contentId : ℕ) :
    addPage pagesId fontId (found, objects) contentId
      = .ok (found ++ [objects.length + 1],
        objects ++ [latin1 (pageObject pagesId fontId contentId)]) := by
  unfold addPage
  rw [addObject_eq _ (isLatin1_pageObject pagesId fontId contentId)]
  rfl

theorem writeObject_eq (pdf object : Bytes) (index : ℕ) :
    writeObject (pdf, found) (object, index)
      = .ok (pdf ++ objectBytes index object, found ++ [pdf.length]) := by
  unfold writeObject
  rw [encodeLatin1_eq ((isLatin1_toString index).append (by decide)),
    encodeLatin1_eq (by decide), objectBytes, ← List.append_assoc, ← List.append_assoc]
  rfl

theorem writeEntry_eq (pdf : Bytes) (offset : ℕ) :
    writeEntry pdf offset = .ok (pdf ++ (entry offset ++ [10])) := by
  unfold writeEntry
  rw [encodeLatin1_eq ((isLatin1_zeroPad 10 offset).append (by decide)), latin1_append]
  unfold latin1
  rw [String.toList_ofList, entry, List.append_assoc]
  rfl

/-- A loop that adds an object at each step numbers them one after the other. -/
theorem foldlM_addObject {α : Type} (payload : α → Bytes)
    {step : List ℕ × List Bytes → α → Except UnicodeEncodeError (List ℕ × List Bytes)}
    (hstep : ∀ objects found x,
      step (found, objects) x = .ok (found ++ [objects.length + 1], objects ++ [payload x]))
    (xs : List α) :
    xs.foldlM step (found, objects)
      = .ok (found ++ List.range' (objects.length + 1) xs.length, objects ++ xs.map payload) := by
  induction xs generalizing found objects with
  | nil => simp [pure, Except.pure]
  | cons x xs ih =>
    rw [List.foldlM_cons, hstep]
    show xs.foldlM step _ = _
    rw [ih, List.length_append, List.append_assoc, List.append_assoc]
    rfl

theorem foldlM_writeObject (first : ℕ) (pdf : Bytes) :
    (objects.zipIdx first).foldlM writeObject (pdf, found)
      = .ok (pdf ++ body first objects, found ++ offsets pdf.length first objects) := by
  induction objects generalizing first pdf found with
  | nil => simp [body, offsets, pure, Except.pure]
  | cons object objects ih =>
    rw [List.zipIdx_cons, List.foldlM_cons, writeObject_eq]
    show (objects.zipIdx (first + 1)).foldlM writeObject _ = _
    rw [ih, body, offsets, List.length_append, List.append_assoc, List.append_assoc]
    rfl

theorem foldlM_writeEntry (pdf : Bytes) :
    found.foldlM writeEntry pdf = .ok (pdf ++ unlines (found.map entry)) := by
  induction found generalizing pdf with
  | nil => simp [unlines, pure, Except.pure]
  | cons offset found ih =>
    rw [List.foldlM_cons, writeEntry_eq]
    show found.foldlM writeEntry _ = _
    rw [ih, List.append_assoc]
    rfl

end

/-- The objects of a text, in the order of their numbers. The references are those that
were written before the second object was put in. -/
def pdfObjects (lines : List String) : List Bytes :=
  latin1 "<< /Type /Font /Subtype /Type1 /BaseFont /Helvetica >>"
    :: latin1 (pagesObject (List.range' ((pageChunks lines).length + 2) (pageChunks lines).length))
    :: ((pageChunks lines).map streamObject
      ++ (List.range' 2 (pageChunks lines).length).map fun id => latin1 (pageObject 2 1 id))
    ++ [latin1 "<< /Type /Catalog /Pages 2 0 R >>"]

theorem buildObjects_eq (lines : List String) :
    buildObjects lines = .ok (pdfObjects lines, 2 * (pageChunks lines).length + 3) := by
  unfold buildObjects pdfObjects
  generalize pageChunks lines = chunks
  rw [addObject_eq [] (by decide +kernel), ok_bind]
  generalize latin1 "<< /Type /Font /Subtype /Type1 /BaseFont /Helvetica >>" = font
  dsimp only [List.nil_append, List.length_cons, List.length_nil, Nat.reduceAdd]
  rw [foldlM_addObject _ _ streamObject addContent_eq, ok_bind]
  dsimp only [List.nil_append, List.length_cons, List.length_nil, Nat.reduceAdd]
  rw [foldlM_addObject _ _ (fun id => latin1 (pageObject 2 1 id))
    (fun objects found => addPage_eq objects found 2 1), ok_bind]
  dsimp only [List.nil_append]
  rw [encodeLatin1_eq (isLatin1_pagesObject _), ok_bind,
    encodeLatin1_eq (isLatin1_interpolate (by decide +kernel) _ (by decide +kernel)), ok_bind]
  simp only [List.length_append, List.length_map, List.length_range', List.length_cons,
    List.cons_append, List.nil_append, Nat.add_one_sub_one, List.insertIdx_succ_cons,
    List.insertIdx_zero]
  rw [show chunks.length + chunks.length + 1 + 1 + 1 = 2 * chunks.length + 3 by omega]
  rfl

theorem latin1_trailer (size root offset : ℕ) :
    latin1 (s!"trailer\n<< /Size {size} " ++ s!"/Root {root} 0 R >>\nstartxref\n{offset}\n%%EOF")
      = trailer size root offset := by
  have hroot : latin1 " /Root " = latin1 (toString " ") ++ latin1 (toString "/Root ") := by decide
  have hline : latin1 (toString " 0 R >>\nstartxref\n") = latin1 " 0 R >>\nstartxref" ++ [10] := by
    decide
  rw [trailer_eq, hroot, latin1_append, latin1_interpolate, latin1_interpolate, latin1_append,
    latin1_append, latin1_toString, hline]
  simp only [List.append_assoc, List.singleton_append]
  rfl

theorem writePdf_eq (objects : List Bytes) (catalogId : ℕ) :
    writePdf objects catalogId = .ok (file (latin1 "%PDF-1.4\n") objects catalogId) := by
  unfold writePdf
  rw [encodeLatin1_eq (by decide), ok_bind, foldlM_writeObject, ok_bind]
  dsimp only
  rw [encodeLatin1_eq (isLatin1_interpolate (by decide) _ (by decide)), ok_bind,
    encodeLatin1_eq (by decide), ok_bind, List.singleton_append, List.drop_one, List.tail_cons,
    foldlM_writeEntry, ok_bind, encodeLatin1_eq, ok_bind, latin1_trailer]
  · have hfree : latin1 "0000000000 65535 f \n" = latin1 "0000000000 65535 f " ++ [10] := by decide
    rw [file, tableLines, latin1_interpolate, hfree]
    generalize trailer _ _ _ = rest
    simp only [unlines, List.flatMap_cons, List.append_assoc]
    rfl
  · refine IsLatin1.append (isLatin1_interpolate (by decide) _ (by decide)) ?_
    refine isLatin1_interpolate ?_ _ (by decide)
    exact isLatin1_interpolate (by decide) _ (by decide)

/-- **What the renderer writes**, for every text. -/
theorem renderSimplePdf_eq (lines : List String) :
    renderSimplePdf lines = .ok (file (latin1 "%PDF-1.4\n") (pdfObjects lines)
      (2 * (pageChunks lines).length + 3)) := by
  unfold renderSimplePdf
  rw [buildObjects_eq, ok_bind]
  dsimp only
  rw [writePdf_eq]

/-! ## What the references are to -/

section

variable (lines : List String)

/-- The file of a text. -/
def rendered : Bytes :=
  file (latin1 "%PDF-1.4\n") (pdfObjects lines) (2 * (pageChunks lines).length + 3)

theorem pageChunks_ne_nil : pageChunks lines ≠ [] := by
  unfold pageChunks
  dsimp only
  split
  · exact List.cons_ne_nil _ _
  · assumption

theorem length_pageChunks_pos : 0 < (pageChunks lines).length :=
  List.length_pos_iff.mpr (pageChunks_ne_nil lines)

theorem length_pdfObjects : (pdfObjects lines).length = 2 * (pageChunks lines).length + 3 := by
  simp [pdfObjects]
  omega

theorem getElem?_pdfObjects_stream {i : ℕ} (hi : i < (pageChunks lines).length) :
    (pdfObjects lines)[i + 2]? = some (streamObject ((pageChunks lines)[i])) := by
  simp [pdfObjects, List.getElem?_append, hi]

theorem getElem?_pdfObjects_page {j : ℕ} (hj : j < (pageChunks lines).length) :
    (pdfObjects lines)[(pageChunks lines).length + j + 2]?
      = some (latin1 (pageObject 2 1 (j + 2))) := by
  simp [pdfObjects, List.getElem?_append, hj, Nat.add_comm 2 j]

theorem getElem?_pdfObjects_catalog :
    (pdfObjects lines)[2 * (pageChunks lines).length + 2]?
      = some (latin1 "<< /Type /Catalog /Pages 2 0 R >>") := by
  simp [pdfObjects, two_mul]

/-! Each object and what follows it, as it is found in the file. -/

theorem object_rendered {k : ℕ} {payload : Bytes} (h : (pdfObjects lines)[k]? = some payload) :
    ∃ rest, object (rendered lines) (k + 1) = some (payload ++ rest) := by
  obtain ⟨more, hmore⟩ := object_file (latin1 "%PDF-1.4\n") (pdfObjects lines)
    (2 * (pageChunks lines).length + 3) h
  exact ⟨latin1 "\nendobj\n" ++ more, by rw [← List.append_assoc]; exact hmore⟩

theorem latin1_pageObject (id : ℕ) :
    latin1 (pageObject 2 1 id) = latin1 "<< /Type /Page /Parent " ++ (digits 2
      ++ (latin1 " 0 R /MediaBox [0 0 612 792] " ++ (latin1 "/Resources << /Font << /F1 "
      ++ (digits 1 ++ (latin1 " 0 R >> >> /Contents " ++ (digits id ++ latin1 " 0 R >>")))))) := by
  unfold pageObject
  simp only [latin1_append, latin1_toString, List.append_assoc]
  rfl

theorem latin1_pagesObject (ids : List ℕ) :
    latin1 (pagesObject ids) = latin1 "<< /Type /Pages /Count " ++ (digits ids.length
      ++ (latin1 " " ++ (latin1 "/Kids [ " ++ (refArray ids ++ latin1 " ]" ++ latin1 " >>")))) := by
  unfold pagesObject
  rw [latin1_append, latin1_append, latin1_interpolate]
  simp only [List.append_assoc]
  rfl

theorem prefix_streamObject (pageLines : List String) :
    latin1 "<< /Length " <+: streamObject pageLines := by
  unfold streamObject contentObject
  simp only [latin1_append, List.append_assoc]
  exact List.prefix_append _ _

/-- A stream is no page, whatever its text is. -/
theorem not_hasType_streamObject (pageLines : List String) (rest : Bytes) :
    ¬ HasType "Page" (streamObject pageLines ++ rest) := fun htype => by
  have hfront : latin1 "<< /Type /" <+: latin1 ("<< /Type /" ++ "Page" ++ " ") := by decide
  have hlength := (prefix_streamObject pageLines).trans (List.prefix_append _ rest)
  exact absurd (List.prefix_of_prefix_length_le (hfront.trans htype) hlength (by decide))
    (by decide)

theorem latin1_key (key : String) : latin1 s!"/{key} " = latin1 ("/" ++ key ++ " ") := rfl

theorem latin1_arrayKey (key : String) : latin1 s!"/{key} [ " = latin1 ("/" ++ key ++ " [ ") := rfl

theorem reference_parent (id : ℕ) (rest : Bytes) :
    reference "Parent" (latin1 (pageObject 2 1 id) ++ rest) = some 2 := by
  have hkey : latin1 "<< /Type /Page /Parent "
      = latin1 "<< /Type /Page " ++ latin1 ("/" ++ "Parent" ++ " ") := by
    decide
  unfold reference
  rw [latin1_key, latin1_pageObject, hkey]
  simp only [List.append_assoc]
  rw [after_append (by decide), after_key (by decide)]
  show some (number _) = _
  rw [number_digits 2 rfl]

theorem reference_contents (id : ℕ) (rest : Bytes) :
    reference "Contents" (latin1 (pageObject 2 1 id) ++ rest) = some id := by
  have hkey : latin1 " 0 R >> >> /Contents "
      = latin1 " 0 R >> >> " ++ latin1 ("/" ++ "Contents" ++ " ") := by
    decide
  unfold reference
  rw [latin1_key, latin1_pageObject, hkey]
  simp only [List.append_assoc]
  rw [after_append (by decide), after_append (by decide), after_append (by decide),
    after_append (by decide), after_append (by decide), after_append (by decide),
    after_key (by decide)]
  show some (number _) = _
  rw [number_digits id rfl]

theorem references_kids {ids : List ℕ} (hne : ids ≠ []) (rest : Bytes) :
    references "Kids" (latin1 (pagesObject ids) ++ rest) = some ids := by
  have hdigits : Clear (latin1 ("/" ++ "Kids" ++ " [ ")) (digits ids.length) :=
    clear_of_notMem (notMem_digits _ rfl)
  unfold references
  rw [latin1_arrayKey, latin1_pagesObject]
  simp only [List.append_assoc]
  rw [after_append (by decide), after_append hdigits, after_append (by decide),
    show latin1 "/Kids [ " = latin1 ("/" ++ "Kids" ++ " [ ") by decide, after_key (by decide)]
  show some (referenceNumbers _) = _
  rw [← List.append_assoc, referenceNumbers_refArray hne]

theorem reference_pages (rest : Bytes) :
    reference "Pages" (latin1 "<< /Type /Catalog /Pages 2 0 R >>" ++ rest) = some 2 := by
  have hkey : latin1 "<< /Type /Catalog /Pages 2 0 R >>" = latin1 "<< /Type /Catalog "
      ++ (latin1 ("/" ++ "Pages" ++ " ") ++ (digits 2 ++ latin1 " 0 R >>")) := by
    decide
  unfold reference
  rw [latin1_key, hkey]
  simp only [List.append_assoc]
  rw [after_append (by decide), after_key (by decide)]
  show some (number _) = _
  rw [number_digits 2 rfl]

/-! ## The table, the root and the parents are right -/

/-- **Every entry is the offset of its object.** -/
theorem xrefExact_rendered : XrefExact (rendered lines) := by
  refine ⟨_, size_file _ _ _, fun k hk hlt => ?_⟩
  obtain ⟨k, rfl⟩ := Nat.exists_eq_succ_of_ne_zero (by omega : k ≠ 0)
  obtain ⟨rest, hobject⟩ := object_rendered lines
    (List.getElem?_eq_getElem (show k < (pdfObjects lines).length by omega))
  rw [hobject]
  rfl

theorem object_catalog : ∃ rest, object (rendered lines) (2 * (pageChunks lines).length + 3)
    = some (latin1 "<< /Type /Catalog /Pages 2 0 R >>" ++ rest) :=
  object_rendered lines (getElem?_pdfObjects_catalog lines)

theorem root_rendered : root (rendered lines) = some (2 * (pageChunks lines).length + 3) :=
  root_file _ _ _

theorem rootIsCatalog_rendered : RootIsCatalog (rendered lines) := by
  obtain ⟨rest, hobject⟩ := object_catalog lines
  exact ⟨_, root_rendered lines, _, hobject, (hasType_append (by decide) rest).mpr (by decide)⟩

/-- The second object is the one of all pages. -/
theorem object_pages : ∃ rest, object (rendered lines) 2
    = some (latin1 (pagesObject (List.range' ((pageChunks lines).length + 2)
      (pageChunks lines).length)) ++ rest) :=
  object_rendered lines rfl

theorem refersTo_pages : RefersTo (rendered lines) "Pages" 2 := by
  obtain ⟨rest, hobject⟩ := object_pages lines
  refine ⟨_, hobject, ?_⟩
  rw [latin1_pagesObject, List.append_assoc]
  exact (hasType_append (by decide) _).mpr (by decide)

theorem pagesOf_eq {pdf rest : Bytes} {id : ℕ} (hroot : root pdf = some id)
    (hcatalog : object pdf id = some (latin1 "<< /Type /Catalog /Pages 2 0 R >>" ++ rest)) :
    pagesOf pdf = object pdf 2 := by
  unfold pagesOf
  simp only [hroot, Option.bind_eq_bind, Option.bind_some, hcatalog, reference_pages]

/-- The references of all pages are the numbers before the second object was put in. -/
theorem kidsOf_rendered : kidsOf (rendered lines)
    = some (List.range' ((pageChunks lines).length + 2) (pageChunks lines).length) := by
  obtain ⟨rest, hcatalog⟩ := object_catalog lines
  obtain ⟨more, hpages⟩ := object_pages lines
  unfold kidsOf
  rw [pagesOf_eq (root_rendered lines) hcatalog, hpages, Option.bind_eq_bind, Option.bind_some,
    references_kids (by simpa using pageChunks_ne_nil lines)]

theorem not_refersTo_page {k : ℕ} {payload : Bytes} (h : (pdfObjects lines)[k]? = some payload)
    (htype : ∀ rest, ¬ HasType "Page" (payload ++ rest)) :
    ¬ RefersTo (rendered lines) "Page" (k + 1) := by
  obtain ⟨rest, hobject⟩ := object_rendered lines h
  rintro ⟨text, htext, hpage⟩
  obtain rfl := Option.some.inj (hobject.symm.trans htext)
  exact htype rest hpage

theorem refersTo_page {j : ℕ} (hj : j < (pageChunks lines).length) :
    RefersTo (rendered lines) "Page" ((pageChunks lines).length + 3 + j) := by
  obtain ⟨rest, hobject⟩ := object_rendered lines (getElem?_pdfObjects_page lines hj)
  rw [show (pageChunks lines).length + 3 + j = (pageChunks lines).length + j + 2 + 1 by omega]
  refine ⟨_, hobject, ?_⟩
  rw [latin1_pageObject, List.append_assoc]
  exact (hasType_append (by decide) _).mpr (by decide)

/-- The streams are no pages: the first page has the number after theirs. -/
theorem not_refersTo_page_of_le {k : ℕ} (h : 1 ≤ k) (hk : k ≤ (pageChunks lines).length + 2) :
    ¬ RefersTo (rendered lines) "Page" k := by
  match k, h with
  | 1, _ =>
    exact not_refersTo_page lines (k := 0) rfl fun rest htype =>
      absurd ((hasType_append (by decide) rest).mp htype) (by decide)
  | 2, _ =>
    refine not_refersTo_page lines (k := 1) rfl fun rest htype => ?_
    rw [latin1_pagesObject, List.append_assoc] at htype
    exact absurd ((hasType_append (by decide) _).mp htype) (by decide)
  | k + 3, _ =>
    exact not_refersTo_page lines (getElem?_pdfObjects_stream lines (by omega : k < _))
      (not_hasType_streamObject _)

theorem not_refersTo_page_catalog :
    ¬ RefersTo (rendered lines) "Page" (2 * (pageChunks lines).length + 3) :=
  not_refersTo_page lines (getElem?_pdfObjects_catalog lines) fun rest htype =>
    absurd ((hasType_append (by decide) rest).mp htype) (by decide)

/-- The numbers of the objects: the first two and the streams, the pages, the catalog. -/
theorem range'_pages (n : ℕ) : List.range' 1 (2 * n + 3)
    = List.range' 1 (n + 2) ++ List.range' (n + 3) n ++ [2 * n + 3] := by
  have hpages : List.range' 1 (n + 2) ++ List.range' (1 + (n + 2)) n = List.range' 1 (n + 2 + n) :=
    List.range'_append_1
  have hcatalog : List.range' 1 (n + 2 + n) ++ List.range' (1 + (n + 2 + n)) 1
      = List.range' 1 (n + 2 + n + 1) := List.range'_append_1
  have hlast : List.range' (1 + (n + 2 + n)) 1 = [1 + (n + 2 + n)] := List.range'_one
  rw [show n + 3 = 1 + (n + 2) by omega, hpages, show 2 * n + 3 = 1 + (n + 2 + n) by omega,
    ← hlast, hcatalog, Nat.add_comm 1]

theorem pageNumbers_rendered : pageNumbers (rendered lines)
    = List.range' ((pageChunks lines).length + 3) (pageChunks lines).length := by
  have hsize : size (rendered lines) = some ((pdfObjects lines).length + 1) := size_file _ _ _
  have hfront : (List.range' 1 ((pageChunks lines).length + 2)).filter
      (fun k => RefersTo (rendered lines) "Page" k) = [] := by
    refine List.filter_eq_nil_iff.mpr fun k hk => ?_
    rw [List.mem_range'_1] at hk
    simpa using not_refersTo_page_of_le lines hk.1 (by omega)
  have hpages : (List.range' ((pageChunks lines).length + 3) (pageChunks lines).length).filter
      (fun k => RefersTo (rendered lines) "Page" k)
        = List.range' ((pageChunks lines).length + 3) (pageChunks lines).length := by
    refine List.filter_eq_self.mpr fun k hk => decide_eq_true ?_
    rw [List.mem_range'_1] at hk
    obtain ⟨j, rfl⟩ := Nat.exists_eq_add_of_le hk.1
    exact refersTo_page lines (by omega)
  have hcatalog : [2 * (pageChunks lines).length + 3].filter
      (fun k => RefersTo (rendered lines) "Page" k) = [] :=
    List.filter_cons_of_neg (by simpa using not_refersTo_page_catalog lines)
  unfold pageNumbers
  rw [hsize, Option.getD_some, Nat.add_sub_cancel, length_pdfObjects, range'_pages,
    List.filter_append,
    List.filter_append, hfront, hpages, hcatalog, List.nil_append, List.append_nil]

theorem object_page {j : ℕ} (hj : j < (pageChunks lines).length) :
    ∃ rest, object (rendered lines) ((pageChunks lines).length + 3 + j)
      = some (latin1 (pageObject 2 1 (j + 2)) ++ rest) := by
  rw [show (pageChunks lines).length + 3 + j = (pageChunks lines).length + j + 2 + 1 by omega]
  exact object_rendered lines (getElem?_pdfObjects_page lines hj)

theorem parentsArePages_rendered : ParentsArePages (rendered lines) := by
  unfold ParentsArePages
  rw [pageNumbers_rendered]
  intro page hpage
  rw [List.mem_range'_1] at hpage
  obtain ⟨j, rfl⟩ := Nat.exists_eq_add_of_le hpage.1
  obtain ⟨rest, hobject⟩ := object_page lines (j := j) (by omega)
  exact ⟨_, hobject, 2, reference_parent _ rest, refersTo_pages lines⟩

/-! ## The first reference to a page, and the one of its stream, are wrong -/

/-- The first of `Kids` is the last stream. -/
theorem not_kidsArePages : ¬ KidsArePages (rendered lines) := by
  rintro ⟨ids, hids, hpages⟩
  rw [kidsOf_rendered] at hids
  obtain rfl := Option.some.inj hids
  refine not_refersTo_page_of_le lines (by omega) le_rfl (hpages _ ?_)
  rw [List.mem_range'_1]
  have := length_pageChunks_pos lines
  omega

/-- The object of all pages is no stream. -/
theorem not_prefix_pagesObject (pageLines : List String) (ids : List ℕ) (rest : Bytes) :
    ¬ streamObject pageLines <+: latin1 (pagesObject ids) ++ rest := fun hprefix => by
  have hlength := (prefix_streamObject pageLines).trans hprefix
  rw [latin1_pagesObject, List.append_assoc] at hlength
  exact absurd (List.prefix_of_prefix_length_le hlength (List.prefix_append _ _) (by decide))
    (by decide)

theorem not_showsLines {pdf rest more : Bytes} {page : ℕ} {ids : List ℕ}
    (hpage : object pdf page = some (latin1 (pageObject 2 1 2) ++ rest))
    (hpages : object pdf 2 = some (latin1 (pagesObject ids) ++ more)) (pageLines : List String) :
    ¬ ShowsLines pdf page pageLines := by
  rintro ⟨text, htext, id, hid, stream, hstream, hprefix⟩
  rw [hpage] at htext
  obtain rfl := Option.some.inj htext
  rw [reference_contents] at hid
  obtain rfl := Option.some.inj hid
  rw [hpages] at hstream
  obtain rfl := Option.some.inj hstream
  exact not_prefix_pagesObject pageLines ids more hprefix

/-- The contents of the first page are the object of all pages. -/
theorem not_forall₂_showsLines :
    ¬ List.Forall₂ (ShowsLines (rendered lines)) (pageNumbers (rendered lines))
      (pageChunks lines) := by
  obtain ⟨rest, hpage⟩ := object_page lines (length_pageChunks_pos lines)
  obtain ⟨more, hpages⟩ := object_pages lines
  rw [pageNumbers_rendered]
  generalize rendered lines = pdf at hpage hpages ⊢
  intro h
  cases hchunks : pageChunks lines with
  | nil => exact pageChunks_ne_nil lines hchunks
  | cons pageLines chunks =>
    rw [hchunks] at h hpage
    exact not_showsLines hpage hpages pageLines (List.forall₂_cons.mp h).1

/-- **No text is rendered well-formed**, though the table, the root and the parents are
right for every text. -/
theorem renderSimplePdf_parts : ∃ pdf, renderSimplePdf lines = .ok pdf
    ∧ XrefExact pdf ∧ RootIsCatalog pdf ∧ ParentsArePages pdf
    ∧ ¬ KidsArePages pdf
    ∧ ¬ List.Forall₂ (ShowsLines pdf) (pageNumbers pdf) (pageChunks lines) :=
  ⟨rendered lines, renderSimplePdf_eq lines, xrefExact_rendered lines,
    rootIsCatalog_rendered lines, parentsArePages_rendered lines, not_kidsArePages lines,
    not_forall₂_showsLines lines⟩

theorem renderSimplePdf_not_wellFormed :
    ∃ pdf, renderSimplePdf lines = .ok pdf ∧ ¬ WellFormed lines pdf :=
  ⟨rendered lines, renderSimplePdf_eq lines, fun h => not_kidsArePages lines h.kids⟩

end

/-- A text of one line: `Kids` names object 3, which is the stream. -/
theorem one_line_not_wellFormed : ∃ pdf ∈ (renderSimplePdf ["Form 16"]).toOption,
    kidsOf pdf = some [3] ∧ ¬ WellFormed ["Form 16"] pdf := by
  have hread : ∃ pdf ∈ (renderSimplePdf ["Form 16"]).toOption,
      kidsOf pdf = some [3] ∧ ¬ RefersTo pdf "Page" 3 := by
    decide +kernel
  obtain ⟨pdf, hpdf, hkids, hstream⟩ := hread
  refine ⟨pdf, hpdf, hkids, fun h => hstream ?_⟩
  obtain ⟨ids, hids, hrefers⟩ := h.kids
  rw [Option.mem_def, hkids] at hids
  exact hrefers 3 (Option.some.inj hids ▸ List.mem_singleton_self 3)

end Payroll
