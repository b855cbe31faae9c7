import Clarisal.Approvals.Models
import Clarisal.Lib.Run
import Clarisal.Lib.Table
import Clarisal.Lib.Transaction

/-!
# Document requests

An employee answers a document request with submissions. Uploading one puts the request
under review; verifying or rejecting one writes its status to the request as well,
whichever of the submissions it is (`review_of_superseded`).

So a request reflects its latest submission exactly when each review is of the latest
submission, or gives it the status that the latest one has already
(`reflectsLatest_iff_reviewsLatest`). Where it does, the check of the required documents
passes no request whose latest submission is rejected.
-/

open Transaction

namespace Documents

open Approvals (UserId EmployeeId)

abbrev DocumentId := ℕ
abbrev DocumentRequestId := ℕ

inductive DocumentStatus
  | pending | verified | rejected
deriving DecidableEq, Repr

inductive EmployeeDocumentRequestStatus
  | requested | submitted | verified | rejected | waived
deriving DecidableEq, Repr

structure EmployeeDocumentRequest where
  id : DocumentRequestId
  employee : EmployeeId
  isRequired : Bool
  status : EmployeeDocumentRequestStatus
  rejectionNote : String
  verifiedBy : Option UserId
deriving DecidableEq, Repr

/-- `rejectionNote` is the entry of that name in the metadata. -/
structure Document where
  id : DocumentId
  employee : EmployeeId
  documentRequest : Option DocumentRequestId
  status : DocumentStatus
  uploadedBy : UserId
  version : ℕ
  reviewedBy : Option UserId
  rejectionNote : Option String
deriving DecidableEq, Repr

/-- The documents in the order of their creation. -/
structure DocumentTables where
  requests : List EmployeeDocumentRequest
  documents : List Document
deriving DecidableEq, Repr

namespace DocumentTables

def getRequest (t : DocumentTables) (id : DocumentRequestId) : Option EmployeeDocumentRequest :=
  Table.find EmployeeDocumentRequest.id id t.requests

def getDocument (t : DocumentTables) (id : DocumentId) : Option Document :=
  Table.find Document.id id t.documents

/-- The submissions of a request. -/
def submissions (t : DocumentTables) (request : DocumentRequestId) : List Document :=
  t.documents.filter (fun d => d.documentRequest = some request)

/-- **The most recent submission of a request.** -/
def latestSubmission (t : DocumentTables) (request : DocumentRequestId) : Option Document :=
  (t.submissions request).getLast?

def updateRequest (t : DocumentTables) (request : DocumentRequestId)
    (f : EmployeeDocumentRequest → EmployeeDocumentRequest) : DocumentTables :=
  { t with requests := Table.update (fun r => r.id = request) f t.requests }

def updateDocument (t : DocumentTables) (document : DocumentId) (f : Document → Document) :
    DocumentTables :=
  { t with documents := Table.update (fun d => d.id = document) f t.documents }

end DocumentTables

/-! ## Operations -/

/-- A file as it is uploaded: the extension of its name in lower case, its size, and the
bytes it starts with. -/
structure UploadedFile where
  extension : String
  size : ℕ
  header : List UInt8
deriving DecidableEq, Repr

def maxFileSize : ℕ := 5 * 1024 * 1024

/-- The allowed extensions, with the bytes their files start with. -/
def signaturesByExtension : List (String × List UInt8) :=
  [(".pdf", [0x25, 0x50, 0x44, 0x46, 0x2D]),
    (".png", [0x89, 0x50, 0x4E, 0x47, 0x0D, 0x0A, 0x1A, 0x0A]),
    (".jpg", [0xFF, 0xD8, 0xFF]), (".jpeg", [0xFF, 0xD8, 0xFF])]

def validateUpload (file : UploadedFile) : Except String Unit :=
  match signaturesByExtension.lookup file.extension with
  | none => .error "Only PDF, PNG, JPG, and JPEG files are allowed."
  | some signature =>
    if maxFileSize < file.size then .error "Files must be 5 MB or smaller."
    else if ¬ signature.isPrefixOf (file.header.take 16) then
      .error "The uploaded file content does not match the selected file type."
    else .ok ()

/-- The row of a submission. -/
def newSubmission (t : DocumentTables) (request : EmployeeDocumentRequest)
    (uploadedBy : UserId) : Document where
  id := t.documents.length
  employee := request.employee
  documentRequest := some request.id
  status := .pending
  uploadedBy := uploadedBy
  version := (t.submissions request.id).length + 1
  reviewedBy := none
  rejectionNote := none

def uploadDocumentRequest (request : EmployeeDocumentRequest) (file : UploadedFile)
    (uploadedBy : UserId) (t : DocumentTables) : Except String DocumentTables := do
  validateUpload file
  let t' : DocumentTables :=
    { t with documents := t.documents ++ [newSubmission t request uploadedBy] }
  return t'.updateRequest request.id (fun r =>
    { r with status := .submitted, rejectionNote := "", verifiedBy := none })

/-- A review writes the document and, if it answers a request, the request. -/
def saveReview (document : Document) (onDocument : Document → Document)
    (onRequest : EmployeeDocumentRequest → EmployeeDocumentRequest) (t : DocumentTables) :
    DocumentTables :=
  let t' := t.updateDocument document.id onDocument
  match document.documentRequest with
  | none => t'
  | some request => t'.updateRequest request onRequest

def verifyDocument (document : Document) (reviewedBy : UserId) (t : DocumentTables) :
    Except String DocumentTables :=
  if document.status = .verified then .error "Document is already verified."
  else .ok (saveReview document
    (fun d => { d with status := .verified, reviewedBy := some reviewedBy })
    (fun r => { r with status := .verified, verifiedBy := some reviewedBy, rejectionNote := "" })
    t)

def rejectDocument (document : Document) (reviewedBy : UserId) (note : String)
    (t : DocumentTables) : DocumentTables :=
  saveReview document
    (fun d => { d with
      status := .rejected, reviewedBy := some reviewedBy, rejectionNote := some note })
    (fun r => { r with status := .rejected, rejectionNote := note, verifiedBy := none })
    t

/-- The operations, on rows that are read from the tables. -/
inductive Op
  | uploadDocumentRequest (request : DocumentRequestId) (file : UploadedFile)
      (uploadedBy : UserId)
  | verifyDocument (document : DocumentId) (reviewedBy : UserId)
  | rejectDocument (document : DocumentId) (reviewedBy : UserId) (note : String)
deriving DecidableEq, Repr

/-- What an operation writes, if it is not refused. -/
def perform (t : DocumentTables) : Op → Except String DocumentTables
  | .uploadDocumentRequest request file uploadedBy =>
    match t.getRequest request with
    | none => .ok t
    | some r => uploadDocumentRequest r file uploadedBy t
  | .verifyDocument document reviewedBy =>
    match t.getDocument document with
    | none => .ok t
    | some d => verifyDocument d reviewedBy t
  | .rejectDocument document reviewedBy note =>
    .ok ((t.getDocument document).elim t (fun d => rejectDocument d reviewedBy note t))

/-- An operation that is refused leaves the tables as they are. -/
def step (t : DocumentTables) (op : Op) : DocumentTables := settle t (perform t op)

/-- The statuses that the check of the required documents accepts. -/
def onboardingCompleteDocumentStatuses : List EmployeeDocumentRequestStatus :=
  [.submitted, .verified, .waived]

def requiredDocumentsComplete (t : DocumentTables) (employee : EmployeeId) : Bool :=
  (t.requests.filter (fun r => r.employee = employee ∧ r.isRequired)).all
    (fun r => r.status ∈ onboardingCompleteDocumentStatuses)

/-! ## The latest submission -/

/-- A request is verified, or rejected, when a submission is. -/
def Agrees (request : EmployeeDocumentRequestStatus) (document : DocumentStatus) : Prop :=
  (request = .verified ↔ document = .verified) ∧ (request = .rejected ↔ document = .rejected)

instance (request : EmployeeDocumentRequestStatus) (document : DocumentStatus) :
    Decidable (Agrees request document) :=
  inferInstanceAs (Decidable (_ ∧ _))

/-- **A request reflects its latest submission.** -/
def ReflectsLatest (t : DocumentTables) : Prop :=
  ∀ r ∈ t.requests, ∀ d, t.latestSubmission r.id = some d → Agrees r.status d.status

/-- A review is of the latest submission, or gives the status that it has already. -/
def OfLatest (t : DocumentTables) (document : Document) (status : DocumentStatus) : Prop :=
  ∀ request, document.documentRequest = some request →
    ∀ d, t.latestSubmission request = some d → d.id = document.id ∨ d.status = status

/-- **No review of a superseded submission**, unless the latest one has that status. -/
def ReviewsLatest (t : DocumentTables) : Op → Prop
  | .uploadDocumentRequest .. => True
  | .verifyDocument document _ => ∀ d, t.getDocument document = some d →
    d.status ≠ .verified → OfLatest t d .verified
  | .rejectDocument document _ _ => ∀ d, t.getDocument document = some d →
    OfLatest t d .rejected

instance (t : DocumentTables) (document : Document) (status : DocumentStatus) :
    Decidable (OfLatest t document status) :=
  inferInstanceAs (Decidable (∀ request ∈ document.documentRequest,
    ∀ d ∈ t.latestSubmission request, _))

instance (t : DocumentTables) : ∀ op, Decidable (ReviewsLatest t op)
  | .uploadDocumentRequest .. => instDecidableTrue
  | .verifyDocument document _ => inferInstanceAs (Decidable (∀ d ∈ t.getDocument document, _ → _))
  | .rejectDocument document _ _ => inferInstanceAs (Decidable (∀ d ∈ t.getDocument document, _))

/-- The rows that the tables refer to. -/
structure DocumentTables.Known (t : DocumentTables) : Prop where
  unique : Table.Unique EmployeeDocumentRequest.id t.requests
  fresh : ∀ d ∈ t.documents, d.id < t.documents.length
  uniqueDocuments : Table.Unique Document.id t.documents
  answered : ∀ d ∈ t.documents, ∀ request, d.documentRequest = some request →
    ∃ r ∈ t.requests, r.id = request

section

variable {t : DocumentTables} {document d : Document} {request r : EmployeeDocumentRequest}
  {file : UploadedFile} {uploadedBy : UserId} {status : DocumentStatus}
  {reviewed : EmployeeDocumentRequestStatus} {onDocument : Document → Document}
  {onRequest : EmployeeDocumentRequest → EmployeeDocumentRequest}

theorem mem_of_latestSubmission {id : DocumentRequestId} (h : t.latestSubmission id = some d) :
    d ∈ t.documents ∧ d.documentRequest = some id := by
  obtain ⟨hd, hid⟩ := List.mem_filter.mp (List.mem_of_getLast? h)
  exact ⟨hd, of_decide_eq_true hid⟩

/-- The latest submission stays the latest when a document is written. -/
theorem latestSubmission_updateDocument {id : DocumentId} {requestId : DocumentRequestId}
    (hf : ∀ d, (onDocument d).documentRequest = d.documentRequest) :
    (t.updateDocument id onDocument).latestSubmission requestId
      = (t.latestSubmission requestId).map (fun d => if d.id = id then onDocument d else d) := by
  show ((Table.update (fun d => d.id = id) onDocument t.documents).filter
    (fun d => d.documentRequest = some requestId)).getLast? = _
  rw [Table.filter_update (fun d => by rw [hf]), Table.update, List.getLast?_map]
  simp only [decide_eq_true_eq]
  rfl

/-! ### Uploading -/

/-- A new submission is the latest of its request, and of no other. -/
theorem latestSubmission_append (id : DocumentRequestId) :
    DocumentTables.latestSubmission { t with documents := t.documents ++ [d] } id
      = if d.documentRequest = some id then some d else t.latestSubmission id := by
  show ((t.documents ++ [d]).filter (fun d => d.documentRequest = some id)).getLast? = _
  rw [List.filter_append]
  split
  · next h => simp [h]
  · next h =>
    simp only [List.filter_singleton, h, decide_false, cond_false, List.append_nil]
    rfl

theorem reflectsLatest_upload (h : ReflectsLatest t) {t' : DocumentTables}
    (ht : uploadDocumentRequest request file uploadedBy t = .ok t') : ReflectsLatest t' := by
  obtain ⟨_, -, ht⟩ := bind_eq_ok_iff.mp ht
  obtain rfl := pure_eq_ok_iff.mp ht
  intro r hr d hd
  have hd' : (if some request.id = some r.id then some (newSubmission t request uploadedBy)
      else t.latestSubmission r.id) = some d := (latestSubmission_append r.id).symm.trans hd
  rcases Table.mem_update_iff.mp hr with ⟨r, _, hid, rfl⟩ | ⟨hr, hid⟩
  · rw [if_pos (congrArg some (of_decide_eq_true hid).symm)] at hd'
    obtain rfl := Option.some.inj hd'
    show Agrees .submitted .pending
    decide
  · have hne : some request.id ≠ some r.id := fun h =>
      of_decide_eq_false hid (Option.some.inj h).symm
    rw [if_neg hne] at hd'
    exact h r hr d hd'

/-! ### Reviewing -/

/-- The requests after a review: the one that the document answers is written. -/
theorem mem_requests_saveReview :
    r ∈ (saveReview document onDocument onRequest t).requests
      ↔ (∃ r' ∈ t.requests, document.documentRequest = some r'.id ∧ onRequest r' = r)
        ∨ (r ∈ t.requests ∧ document.documentRequest ≠ some r.id) := by
  unfold saveReview
  cases document.documentRequest with
  | none =>
    show r ∈ t.requests ↔ _
    simp
  | some id =>
    refine Table.mem_update_iff.trans ?_
    show (∃ r' ∈ t.requests, _) ∨ (r ∈ t.requests ∧ _) ↔ _
    simp [eq_comm]

/-- The submissions that are the latest stay the latest. -/
theorem latestSubmission_saveReview
    (hkept : ∀ d, (onDocument d).documentRequest = d.documentRequest) (id : DocumentRequestId) :
    (saveReview document onDocument onRequest t).latestSubmission id
      = (t.latestSubmission id).map (fun d => if d.id = document.id then onDocument d else d) := by
  refine Eq.trans ?_ (latestSubmission_updateDocument hkept)
  unfold saveReview
  split <;> rfl

/-- The latest submission of a request that the document does not answer. -/
theorem latestSubmission_saveReview_of_ne (hknown : t.Known) (hdocument : document ∈ t.documents)
    (hkept : ∀ d, (onDocument d).documentRequest = d.documentRequest) {id : DocumentRequestId}
    (hne : document.documentRequest ≠ some id) :
    (saveReview document onDocument onRequest t).latestSubmission id = t.latestSubmission id := by
  rw [latestSubmission_saveReview hkept]
  cases hd : t.latestSubmission id with
  | none => rfl
  | some d =>
    obtain ⟨hmem, hreq⟩ := mem_of_latestSubmission hd
    refine congrArg some (if_neg fun hsame => hne ?_)
    rw [← hreq, hknown.uniqueDocuments.eq_of_key hdocument hmem hsame.symm]

/-- **A review keeps the requests in step** exactly when it is of the latest submission,
or gives the status that it has already. -/
theorem reflectsLatest_saveReview_iff (hknown : t.Known) (h : ReflectsLatest t)
    (hdocument : document ∈ t.documents)
    (hkept : ∀ d, (onDocument d).documentRequest = d.documentRequest)
    (hstatus : ∀ d, (onDocument d).status = status) (hid : ∀ r, (onRequest r).id = r.id)
    (hreviewed : ∀ r, (onRequest r).status = reviewed)
    (hagrees : ∀ s, Agrees reviewed s ↔ s = status) :
    ReflectsLatest (saveReview document onDocument onRequest t)
      ↔ OfLatest t document status := by
  -- the request that is written agrees with its latest submission when that has the status
  have hwritten (d : Document) :
      Agrees reviewed (if d.id = document.id then onDocument d else d).status
        ↔ d.id = document.id ∨ d.status = status := by
    rw [hagrees]
    by_cases hsame : d.id = document.id <;> simp [hsame, hstatus]
  constructor
  · intro h' id hreq d hd
    obtain ⟨r, hr, rfl⟩ := hknown.answered document hdocument id hreq
    have hr' : onRequest r ∈ (saveReview document onDocument onRequest t).requests :=
      mem_requests_saveReview.mpr (Or.inl ⟨r, hr, hreq, rfl⟩)
    have hlatest := h' _ hr' _ ((latestSubmission_saveReview hkept _).trans
      (congrArg _ ((congrArg t.latestSubmission (hid r)).trans hd)))
    rw [hreviewed] at hlatest
    exact (hwritten d).mp hlatest
  · intro hof r hr d hd
    obtain ⟨r, hr, hreq, rfl⟩ | ⟨hr, hne⟩ := mem_requests_saveReview.mp hr
    · rw [latestSubmission_saveReview hkept, hid] at hd
      obtain ⟨latest, hlatest, rfl⟩ := Option.map_eq_some_iff.mp hd
      rw [hreviewed]
      exact (hwritten latest).mpr (hof r.id hreq latest hlatest)
    · rw [latestSubmission_saveReview_of_ne hknown hdocument hkept hne] at hd
      exact h r hr d hd

theorem agrees_verified_iff (s : DocumentStatus) : Agrees .verified s ↔ s = .verified := by
  cases s <;> decide

theorem agrees_rejected_iff (s : DocumentStatus) : Agrees .rejected s ↔ s = .rejected := by
  cases s <;> decide

/-! ### One operation -/

/-- **One operation keeps the requests in step** exactly when it reviews no superseded
submission. -/
theorem reflectsLatest_step_iff (t : DocumentTables) (op : Op) (hknown : t.Known)
    (h : ReflectsLatest t) : ReflectsLatest (step t op) ↔ ReviewsLatest t op := by
  unfold step
  cases op with
  | uploadDocumentRequest request file uploadedBy =>
    refine iff_of_true ?_ trivial
    show ReflectsLatest (settle t (match t.getRequest request with
      | none => .ok t
      | some r => uploadDocumentRequest r file uploadedBy t))
    cases t.getRequest request with
    | none => exact h
    | some r =>
      exact settle_induction (P := ReflectsLatest) h fun t' ht => reflectsLatest_upload h ht
  | verifyDocument document reviewedBy =>
    show ReflectsLatest (settle t (match t.getDocument document with
      | none => .ok t
      | some d => verifyDocument d reviewedBy t)) ↔ ∀ d, t.getDocument document = some d → _
    cases hd : t.getDocument document with
    | none => exact iff_of_true h (fun d hd => nomatch hd)
    | some d =>
      rw [show (∀ d', some d = some d' → d'.status ≠ .verified → OfLatest t d' .verified)
        ↔ (d.status ≠ .verified → OfLatest t d .verified) from by simp]
      show ReflectsLatest (settle t (verifyDocument d reviewedBy t)) ↔ _
      unfold verifyDocument
      split
      · next hv => exact iff_of_true h (fun hne => absurd hv hne)
      · next hv =>
        rw [imp_iff_right hv]
        exact reflectsLatest_saveReview_iff hknown h (Table.find_mem hd) (fun _ => rfl)
          (fun _ => rfl) (fun _ => rfl) (fun _ => rfl) agrees_verified_iff
  | rejectDocument document reviewedBy note =>
    show ReflectsLatest ((t.getDocument document).elim t
      (fun d => rejectDocument d reviewedBy note t)) ↔ ∀ d, t.getDocument document = some d → _
    cases hd : t.getDocument document with
    | none => exact iff_of_true h (fun d hd => nomatch hd)
    | some d =>
      rw [show (∀ d', some d = some d' → OfLatest t d' .rejected) ↔ OfLatest t d .rejected
        from by simp]
      exact reflectsLatest_saveReview_iff hknown h (Table.find_mem hd) (fun _ => rfl)
        (fun _ => rfl) (fun _ => rfl) (fun _ => rfl) agrees_rejected_iff

/-! ### The rows stay known -/

theorem known_upload (hknown : t.Known) (hrequest : request ∈ t.requests) {t' : DocumentTables}
    (ht : uploadDocumentRequest request file uploadedBy t = .ok t') : t'.Known := by
  obtain ⟨_, -, ht⟩ := bind_eq_ok_iff.mp ht
  obtain rfl := pure_eq_ok_iff.mp ht
  have hids (id : DocumentRequestId) (hid : ∃ r ∈ t.requests, r.id = id) :
      ∃ r ∈ Table.update (fun r => r.id = request.id) (fun r => { r with
        status := .submitted, rejectionNote := "", verifiedBy := none }) t.requests,
        r.id = id := by
    obtain ⟨r, hr, rfl⟩ := hid
    refine ⟨_, Table.mem_update.mpr ⟨r, hr, rfl⟩, ?_⟩
    split <;> rfl
  refine ⟨hknown.unique.update (fun _ => rfl), fun d hd => ?_, ?_, fun d hd id hid => ?_⟩
  · show d.id < (t.documents ++ [newSubmission t request uploadedBy]).length
    rw [List.length_append]
    rcases List.mem_append.mp hd with hd | hd
    · exact (hknown.fresh d hd).trans (Nat.lt_succ_self _)
    · obtain rfl := List.mem_singleton.mp hd
      exact Nat.lt_succ_self _
  · exact hknown.uniqueDocuments.append_one (fun d hd => (hknown.fresh d hd).ne)
  · rcases List.mem_append.mp hd with hd | hd
    · exact hids id (hknown.answered d hd id hid)
    · obtain rfl := List.mem_singleton.mp hd
      exact hids id ⟨request, hrequest, Option.some.inj hid⟩

theorem known_saveReview (hknown : t.Known) (hdid : ∀ d, (onDocument d).id = d.id)
    (hkept : ∀ d, (onDocument d).documentRequest = d.documentRequest)
    (hid : ∀ r, (onRequest r).id = r.id) :
    (saveReview document onDocument onRequest t).Known := by
  have hdocuments : (saveReview document onDocument onRequest t).documents
      = Table.update (fun d => d.id = document.id) onDocument t.documents := by
    unfold saveReview
    split <;> rfl
  have hrequests : (saveReview document onDocument onRequest t).requests.map
      EmployeeDocumentRequest.id = t.requests.map EmployeeDocumentRequest.id := by
    unfold saveReview
    split
    · rfl
    · exact Table.map_update hid t.requests
  refine ⟨?_, fun d hd => ?_, ?_, fun d hd id hreq => ?_⟩
  · unfold Table.Unique
    rw [hrequests]
    exact hknown.unique
  · rw [hdocuments] at hd ⊢
    rw [Table.update, List.length_map]
    obtain ⟨d', hd', rfl⟩ := Table.mem_update.mp hd
    split
    · rw [hdid]
      exact hknown.fresh d' hd'
    · exact hknown.fresh d' hd'
  · rw [hdocuments]
    exact hknown.uniqueDocuments.update hdid
  · rw [hdocuments] at hd
    obtain ⟨d', hd', rfl⟩ := Table.mem_update.mp hd
    have hreq' : d'.documentRequest = some id := by
      split at hreq
      · exact (hkept d').symm.trans hreq
      · exact hreq
    obtain ⟨r, hr, rfl⟩ := hknown.answered d' hd' id hreq'
    exact List.mem_map.mp (hrequests.symm ▸ List.mem_map_of_mem hr)

/-- **One operation** refers to rows that are known. -/
theorem known_step (t : DocumentTables) (op : Op) (hknown : t.Known) : (step t op).Known := by
  refine settle_induction (P := DocumentTables.Known) hknown fun t' ht => ?_
  cases op with
  | uploadDocumentRequest request file uploadedBy =>
    simp only [perform] at ht
    split at ht
    · exact Except.ok.inj ht ▸ hknown
    · next r hr => exact known_upload hknown (Table.find_mem hr) ht
  | verifyDocument document reviewedBy =>
    simp only [perform, verifyDocument] at ht
    split at ht
    · exact Except.ok.inj ht ▸ hknown
    · split at ht
      · cases ht
      · obtain rfl := Except.ok.inj ht
        exact known_saveReview hknown (fun _ => rfl) (fun _ => rfl) (fun _ => rfl)
  | rejectDocument document reviewedBy note =>
    obtain rfl := Except.ok.inj ht
    cases t.getDocument document with
    | none => exact hknown
    | some d => exact known_saveReview hknown (fun _ => rfl) (fun _ => rfl) (fun _ => rfl)

end

/-- **Requests reflect their latest submissions** in a run exactly when each of its
reviews is of the latest submission, or gives it the status that it has. -/
theorem reflectsLatest_iff_reviewsLatest {t : DocumentTables} (hknown : t.Known)
    (h : ReflectsLatest t) (ops : List Op) :
    (∀ n, ReflectsLatest (Run.exec step t (ops.take n)))
      ↔ Run.Along step ReviewsLatest t ops :=
  Run.forall_take_iff_along known_step reflectsLatest_step_iff hknown h ops

/-- In such a run the check of the required documents passes no request whose latest
submission is rejected. -/
theorem latestSubmission_not_rejected {t : DocumentTables} (hknown : t.Known)
    (h : ReflectsLatest t) {ops : List Op} (hops : Run.Along step ReviewsLatest t ops)
    {employee : EmployeeId}
    (hcomplete : requiredDocumentsComplete (Run.exec step t ops) employee = true)
    {r : EmployeeDocumentRequest} (hr : r ∈ (Run.exec step t ops).requests)
    (hemployee : r.employee = employee) (hrequired : r.isRequired = true) {d : Document}
    (hd : (Run.exec step t ops).latestSubmission r.id = some d) : d.status ≠ .rejected := by
  have hreflects : ReflectsLatest (Run.exec step t ops) := by
    have hall := (reflectsLatest_iff_reviewsLatest hknown h ops).mpr hops ops.length
    rwa [List.take_length] at hall
  intro hrejected
  have hstatus := List.all_eq_true.mp hcomplete r
    (List.mem_filter.mpr ⟨hr, decide_eq_true ⟨hemployee, hrequired⟩⟩)
  rw [(hreflects r hr d hd).2.mpr hrejected] at hstatus
  exact absurd hstatus (by decide)

namespace Sample

/-- An employee who is asked for a document. -/
def asked : DocumentTables where
  requests := [⟨0, 7, true, .requested, "", none⟩]
  documents := []

def pdf : UploadedFile := ⟨".pdf", 1000, [0x25, 0x50, 0x44, 0x46, 0x2D, 0x31]⟩

/-- Two uploads. The second is rejected, and then the first is verified. -/
def supersededVerified : List Op :=
  [.uploadDocumentRequest 0 pdf 7, .uploadDocumentRequest 0 pdf 7, .rejectDocument 1 9 "Blurred",
    .verifyDocument 0 9]

theorem asked_known : asked.Known where
  unique := by decide
  fresh := by decide
  uniqueDocuments := by decide
  answered := by decide

end Sample

open Sample in
/-- **A superseded submission is verified**: the request is verified, though its latest
submission is rejected, and the check of the required documents passes. -/
theorem review_of_superseded :
    (¬ ∀ n, ReflectsLatest (Run.exec step asked (supersededVerified.take n)))
      ∧ ((Run.exec step asked supersededVerified).latestSubmission 0).map Document.status
        = some .rejected
      ∧ requiredDocumentsComplete (Run.exec step asked supersededVerified) 7 = true := by
  refine ⟨fun h => ?_, by decide, by decide⟩
  have hlast := h 4 ⟨0, 7, true, .verified, "", some 9⟩ (by decide)
    ⟨1, 7, some 0, .rejected, 7, 2, some 9, some "Blurred"⟩ (by decide)
  exact absurd hlast (by decide)

open Sample in
/-- Two uploads and reviews of the latest. -/
theorem reflectsLatest_sample :
    ReflectsLatest (Run.exec step asked [.uploadDocumentRequest 0 pdf 7,
      .rejectDocument 0 9 "Blurred", .uploadDocumentRequest 0 pdf 7, .verifyDocument 1 9]) :=
  (reflectsLatest_iff_reviewsLatest asked_known (fun _ _ _ hd => nomatch hd)
    [.uploadDocumentRequest 0 pdf 7, .rejectDocument 0 9 "Blurred",
      .uploadDocumentRequest 0 pdf 7, .verifyDocument 1 9]).mpr (by decide) 4

end Documents
