import Clarisal.Approvals.Services
import Clarisal.Documents.Requests
import Clarisal.Lib.Decimal
import Clarisal.Payroll.Models

/-!
# Expense policies

A category of a policy bounds what is claimed under it: an amount per claim, and whether a
line needs a receipt. The amount is checked line by line when a claim is written, and the
receipts when it is submitted, through the category that each line refers to.

Saving a policy deletes its categories and writes them anew, so the lines of the claims
that are open lose theirs, and with it the check of their receipts. Two lines may each be
within the limit that their sum exceeds, and a line may name a currency of its own
(`submitted_out_of_policy`).

Where a request does none of this, every claim that is submitted keeps the policy
(`submitsInPolicy_of_guarded`).
-/

open Approvals Transaction

namespace ExpensePolicies

open Documents (UploadedFile validateUpload)
open Payroll (ExpenseClaimStatus)

abbrev ExpensePolicyId := ℕ
abbrev ExpenseCategoryId := ℕ
abbrev ExpenseClaimId := ℕ
abbrev ExpenseClaimLineId := ℕ

structure ExpensePolicy where
  id : ExpensePolicyId
  organisation : OrganisationId
  currency : String
deriving DecidableEq, Repr

/-- A category as a save of its policy lists it. -/
structure CategoryPayload where
  code : String
  name : String
  perClaimLimit : Option ℚ
  requiresReceipt : Bool
  isActive : Bool
deriving DecidableEq, Repr

structure ExpenseCategory extends CategoryPayload where
  id : ExpenseCategoryId
  policy : ExpensePolicy
deriving DecidableEq, Repr

/-- `receipts` counts the receipts of the line. `enteredUnder` is no column: it is the
category that the line was written under, which the row forgets with the category. -/
structure ExpenseClaimLine where
  id : ExpenseClaimLineId
  category : Option ExpenseCategoryId
  categoryName : String
  amount : ℚ
  currency : String
  receipts : ℕ
  enteredUnder : Option CategoryPayload
deriving DecidableEq, Repr

structure ExpenseClaim where
  id : ExpenseClaimId
  organisation : OrganisationId
  employee : EmployeeId
  policy : Option ExpensePolicyId
  currency : String
  status : ExpenseClaimStatus
  lines : List ExpenseClaimLine
deriving DecidableEq, Repr

/-- `nextId` is above the keys of all rows. -/
structure ExpenseTables where
  categories : List ExpenseCategory
  claims : List ExpenseClaim
  nextId : ℕ
deriving DecidableEq, Repr

namespace ExpenseTables

def initial : ExpenseTables := { categories := [], claims := [], nextId := 0 }

def getCategory (t : ExpenseTables) (id : ExpenseCategoryId) : Option ExpenseCategory :=
  Table.find ExpenseCategory.id id t.categories

def getClaim (t : ExpenseTables) (id : ExpenseClaimId) : Option ExpenseClaim :=
  Table.find ExpenseClaim.id id t.claims

def saveClaim (t : ExpenseTables) (claim : ExpenseClaim) : ExpenseTables :=
  { t with claims := Table.save ExpenseClaim.id claim t.claims }

end ExpenseTables

/-! ## Saving a policy -/

/-- The categories of a list, with new keys. -/
def newCategories (policy : ExpensePolicy) (categories : List CategoryPayload) (nextId : ℕ) :
    List ExpenseCategory :=
  categories.mapIdx (fun i payload => { payload with id := nextId + i, policy := policy })

/-- The lines of deleted categories refer to none. -/
def ExpenseClaimLine.setNull (deleted : List ExpenseCategoryId) (line : ExpenseClaimLine) :
    ExpenseClaimLine :=
  { line with category := line.category.filter (fun id => id ∉ deleted) }

/-- The categories of a policy are deleted and those of the list are created. -/
def upsertPolicyCategories (policy : ExpensePolicy) (categories : List CategoryPayload)
    (t : ExpenseTables) : Except String ExpenseTables :=
  let deleted := (t.categories.filter (fun c => c.policy.id = policy.id)).map ExpenseCategory.id
  if (categories.map CategoryPayload.code).Nodup then
    .ok {
      categories := t.categories.filter (fun c => c.policy.id ≠ policy.id)
        ++ newCategories policy categories t.nextId
      claims := t.claims.map (fun claim =>
        { claim with lines := claim.lines.map (ExpenseClaimLine.setNull deleted) })
      nextId := t.nextId + categories.length }
  else .error "unique_expense_category_code_per_policy"

/-! ## Writing a claim -/

/-- A line as a request gives it. -/
structure LinePayload where
  category : Option ExpenseCategoryId
  categoryName : String
  amount : ℚ
  currency : Option String
deriving DecidableEq, Repr

def normalizeAmount (value : ℚ) : ℚ := Decimal.quantize (1 / 100) value

def resolveCategory (organisation : OrganisationId) (category : ExpenseCategoryId)
    (policy : Option ExpensePolicy) (t : ExpenseTables) : Except String ExpenseCategory :=
  match t.getCategory category with
  | none => .error "ExpenseCategory matching query does not exist."
  | some c =>
    if c.policy.organisation = organisation ∧ c.isActive
        ∧ policy.all (fun p => c.policy.id = p.id) then .ok c
    else .error "ExpenseCategory matching query does not exist."

/-- The category of a line, if it names one. -/
def lineCategory (organisation : OrganisationId) (policy : Option ExpensePolicy)
    (t : ExpenseTables) : Option ExpenseCategoryId → Except String (Option ExpenseCategory)
  | none => .ok none
  | some category => some <$> resolveCategory organisation category policy t

def validateLineAgainstPolicy (claimCurrency : String) (amount : ℚ) :
    Option ExpenseCategory → Except String Unit
  | none => .ok ()
  | some category =>
    if category.policy.currency ≠ "" ∧ category.policy.currency ≠ claimCurrency then
      .error "Expense line currency must match the selected policy currency."
    else if category.perClaimLimit.any (fun limit => limit < amount) then
      .error s!"Expense line exceeds the per-claim limit for {category.name}."
    else .ok ()

def checkAmount (amount : ℚ) : Except String Unit :=
  if amount ≤ 0 then .error "Expense line amount must be greater than zero." else .ok ()

/-- A line given with the key of its row. -/
def enterLine (organisation : OrganisationId) (policy : Option ExpensePolicy)
    (currency : String) (t : ExpenseTables) (payload : LinePayload × ExpenseClaimLineId) :
    Except String ExpenseClaimLine := do
  let category ← lineCategory organisation policy t payload.1.category
  let amount := normalizeAmount payload.1.amount
  checkAmount amount
  validateLineAgainstPolicy currency amount category
  return {
    id := payload.2
    category := category.map ExpenseCategory.id
    categoryName := if payload.1.categoryName ≠ "" then payload.1.categoryName
      else category.elim "Uncategorised" (fun c => c.name)
    amount := amount
    currency := payload.1.currency.getD currency
    receipts := 0
    enteredUnder := category.map ExpenseCategory.toCategoryPayload }

/-- The lines of a request. -/
def enterLines (organisation : OrganisationId) (policy : Option ExpensePolicy)
    (currency : String) (lines : List LinePayload) (nextId : ℕ) (t : ExpenseTables) :
    Except String (List ExpenseClaimLine) :=
  (lines.zipIdx nextId).mapM (enterLine organisation policy currency t)

def checkRequest (organisation : OrganisationId) (policy : Option ExpensePolicy)
    (currency : String) (lines : List LinePayload) : Except String Unit :=
  if lines = [] then .error "At least one expense line is required."
  else if policy.any (fun p => p.organisation ≠ organisation) then
    .error "Policy does not belong to this organisation."
  else if policy.any (fun p => p.currency ≠ currency) then
    .error "Claim currency must match the selected policy currency."
  else .ok ()

def createExpenseClaim (organisation : OrganisationId) (employee : EmployeeId)
    (policy : Option ExpensePolicy) (currency : String) (lines : List LinePayload)
    (t : ExpenseTables) : Except String ExpenseTables := do
  checkRequest organisation policy currency lines
  let entered ← enterLines organisation policy currency lines (t.nextId + 1) t
  let claim : ExpenseClaim := {
    id := t.nextId
    organisation := organisation
    employee := employee
    policy := policy.map ExpensePolicy.id
    currency := currency
    status := .draft
    lines := entered }
  return { t with
    claims := t.claims ++ [claim]
    nextId := t.nextId + 1 + lines.length }

/-- A claim that its owner can change. -/
def checkEditable (claim : ExpenseClaim) (requester : EmployeeId) (verb participle : String) :
    Except String Unit :=
  if claim.employee ≠ requester then
    .error s!"Only the claim owner can {verb} this expense claim."
  else if claim.status ≠ .draft ∧ claim.status ≠ .rejected then
    .error s!"Only draft or rejected expense claims can be {participle}."
  else .ok ()

/-- The lines of the claim are deleted and those of the request are created. -/
def updateExpenseClaim (claim : ExpenseClaim) (requester : EmployeeId)
    (policy : Option ExpensePolicy) (currency : String) (lines : List LinePayload)
    (t : ExpenseTables) : Except String ExpenseTables := do
  checkEditable claim requester "edit" "edited"
  checkRequest claim.organisation policy currency lines
  let entered ← enterLines claim.organisation policy currency lines t.nextId t
  let claim := { claim with
    policy := policy.map ExpensePolicy.id, currency := currency, lines := entered }
  return { t.saveClaim claim with nextId := t.nextId + lines.length }

/-! ## Receipts and submission -/

/-- The line with one more receipt. -/
def uploadExpenseReceipt (claim : ExpenseClaim) (requester : EmployeeId)
    (line : ExpenseClaimLineId) (file : UploadedFile) : Except String ExpenseClaim :=
  if claim.employee ≠ requester then .error "No ExpenseClaim matches the given query."
  else if claim.status ≠ .draft ∧ claim.status ≠ .rejected then
    .error "Receipts can only be uploaded while the claim is editable."
  else if ∀ l ∈ claim.lines, l.id ≠ line then
    .error "No ExpenseClaimLine matches the given query."
  else do
    validateUpload file
    return { claim with
      lines := Table.update (fun l => l.id = line) (fun l => { l with receipts := l.receipts + 1 })
        claim.lines }

/-- The category of the line wants a receipt that it does not have. -/
def lacksReceipt (t : ExpenseTables) (line : ExpenseClaimLine) : Bool :=
  (line.category.bind t.getCategory).any (fun c => c.requiresReceipt) && line.receipts = 0

def checkReceipts (claim : ExpenseClaim) (t : ExpenseTables) : Except String Unit :=
  match claim.lines.find? (lacksReceipt t) with
  | some line => .error s!"Receipt is required for {line.categoryName}."
  | none => .ok ()

/-- `approval` is how the creation of the approval run ends. -/
def submitExpenseClaim (claim : ExpenseClaim) (requester : EmployeeId)
    (approval : Except String Unit) (t : ExpenseTables) : Except String ExpenseClaim := do
  checkEditable claim requester "submit" "submitted"
  if claim.lines = [] then .error "At least one expense line is required."
  else do
    checkReceipts claim t
    approval
    return { claim with status := .submitted }

def handleApprovalStatusChange (status : SubjectStatus) (claim : ExpenseClaim) : ExpenseClaim :=
  match status with
  | .approved => { claim with status := .approved }
  | .rejected => { claim with status := .rejected }
  | .cancelled => { claim with status := .cancelled }
  | .withdrawn => claim

/-! ## The system -/

/-- The requests under one policy, and the decisions of approvals. -/
inductive Op
  | upsertPolicyCategories
  | createExpenseClaim (organisation : OrganisationId) (employee : EmployeeId)
      (currency : String) (lines : List LinePayload)
  | updateExpenseClaim (claim : ExpenseClaimId) (requester : EmployeeId) (currency : String)
      (lines : List LinePayload)
  | uploadExpenseReceipt (claim : ExpenseClaimId) (requester : EmployeeId)
      (line : ExpenseClaimLineId) (file : UploadedFile)
  | submitExpenseClaim (claim : ExpenseClaimId) (requester : EmployeeId)
      (approval : Except String Unit)
  | approvalStatusChange (claim : ExpenseClaimId) (status : SubjectStatus)

/-- A request about a claim, which is found first. -/
def onClaim (t : ExpenseTables) (claim : ExpenseClaimId)
    (request : ExpenseClaim → Except String ExpenseTables) : Except String ExpenseTables :=
  match t.getClaim claim with
  | none => .error "No ExpenseClaim matches the given query."
  | some claim => request claim

section

variable (policy : ExpensePolicy) (categories : List CategoryPayload)

/-- What a request writes, if it is not refused. The policy is always saved with the
same categories. -/
def perform (t : ExpenseTables) : Op → Except String ExpenseTables
  | .upsertPolicyCategories => ExpensePolicies.upsertPolicyCategories policy categories t
  | .createExpenseClaim organisation employee currency lines =>
    ExpensePolicies.createExpenseClaim organisation employee (some policy) currency lines t
  | .updateExpenseClaim claim requester currency lines => onClaim t claim fun claim =>
    ExpensePolicies.updateExpenseClaim claim requester (some policy) currency lines t
  | .uploadExpenseReceipt claim requester line file => onClaim t claim fun claim =>
    t.saveClaim <$> ExpensePolicies.uploadExpenseReceipt claim requester line file
  | .submitExpenseClaim claim requester approval => onClaim t claim fun claim =>
    t.saveClaim <$> ExpensePolicies.submitExpenseClaim claim requester approval t
  | .approvalStatusChange claim status => onClaim t claim fun claim =>
    .ok (t.saveClaim (handleApprovalStatusChange status claim))

/-- A request that is refused leaves the tables as they are. -/
def step (t : ExpenseTables) (op : Op) : ExpenseTables :=
  settle t (perform policy categories t op)

end

/-! ## Claims that keep their policy -/

/-- What the claim asks for under a category. -/
def ExpenseClaim.amountUnder (claim : ExpenseClaim) (category : CategoryPayload) : ℚ :=
  ((claim.lines.filter (fun l => l.enteredUnder = some category)).map ExpenseClaimLine.amount).sum

/-- The lines under categories that want receipts have them. -/
def HasReceipts (claim : ExpenseClaim) : Prop :=
  ∀ line ∈ claim.lines, ∀ category ∈ line.enteredUnder,
    category.requiresReceipt → line.receipts ≠ 0

def WithinLimits (categories : List CategoryPayload) (claim : ExpenseClaim) : Prop :=
  ∀ category ∈ categories, ∀ limit ∈ category.perClaimLimit, claim.amountUnder category ≤ limit

def OneCurrency (claim : ExpenseClaim) : Prop :=
  ∀ line ∈ claim.lines, line.currency = claim.currency

/-- **The claim keeps its policy.** -/
def InPolicy (categories : List CategoryPayload) (claim : ExpenseClaim) : Prop :=
  HasReceipts claim ∧ WithinLimits categories claim ∧ OneCurrency claim

instance (claim : ExpenseClaim) : Decidable (HasReceipts claim) :=
  inferInstanceAs (Decidable (∀ line ∈ claim.lines, ∀ category ∈ line.enteredUnder, _))

instance (categories : List CategoryPayload) (claim : ExpenseClaim) :
    Decidable (WithinLimits categories claim) :=
  inferInstanceAs (Decidable (∀ category ∈ categories, ∀ limit ∈ category.perClaimLimit, _))

instance (claim : ExpenseClaim) : Decidable (OneCurrency claim) :=
  inferInstanceAs (Decidable (∀ line ∈ claim.lines, _))

instance (categories : List CategoryPayload) (claim : ExpenseClaim) :
    Decidable (InPolicy categories claim) :=
  inferInstanceAs (Decidable (_ ∧ _))

/-- **A claim that is submitted keeps its policy**, if the request is not refused. -/
def SubmitsInPolicy (policy : ExpensePolicy) (categories : List CategoryPayload)
    (t : ExpenseTables) : Op → Prop
  | .submitExpenseClaim claim requester approval =>
    (perform policy categories t (.submitExpenseClaim claim requester approval)).isOk →
      ∀ c ∈ t.getClaim claim, InPolicy categories c
  | _ => True

/-- What the lines of a request ask for under a category. -/
def amountEntered (t : ExpenseTables) (lines : List LinePayload) (category : CategoryPayload) :
    ℚ :=
  ((lines.filter (fun l => (l.category.bind t.getCategory).map ExpenseCategory.toCategoryPayload
    = some category)).map (fun l => normalizeAmount l.amount)).sum

/-- The lines name no other currency than that of the claim, and together ask for no more
than the limits. -/
def Moderate (categories : List CategoryPayload) (currency : String) (lines : List LinePayload)
    (t : ExpenseTables) : Prop :=
  (∀ line ∈ lines, line.currency.getD currency = currency)
    ∧ ∀ category ∈ categories, ∀ limit ∈ category.perClaimLimit,
      amountEntered t lines category ≤ limit

/-- The lines whose category was deleted, and had wanted a receipt, have one. -/
def NoOrphan (claim : ExpenseClaim) : Prop :=
  ∀ line ∈ claim.lines, line.category = none → ∀ category ∈ line.enteredUnder,
    category.requiresReceipt → line.receipts ≠ 0

/-- **The requests that keep the policy**: claims are written in one currency and within
the limits of their categories, and submitted without an unreceipted line that lost its
category. -/
def Guarded (policy : ExpensePolicy) (categories : List CategoryPayload) (t : ExpenseTables)
    (op : Op) : Prop :=
  (perform policy categories t op).isOk →
    match op with
    | .createExpenseClaim _ _ currency lines => Moderate categories currency lines t
    | .updateExpenseClaim _ _ currency lines => Moderate categories currency lines t
    | .submitExpenseClaim claim _ _ => ∀ c ∈ t.getClaim claim, NoOrphan c
    | _ => True

instance (policy : ExpensePolicy) (categories : List CategoryPayload) (t : ExpenseTables) :
    ∀ op, Decidable (SubmitsInPolicy policy categories t op)
  | .submitExpenseClaim claim _ _ =>
    inferInstanceAs (Decidable (_ → ∀ c ∈ t.getClaim claim, InPolicy categories c))
  | .upsertPolicyCategories | .createExpenseClaim .. | .updateExpenseClaim ..
  | .uploadExpenseReceipt .. | .approvalStatusChange .. => instDecidableTrue

instance (categories : List CategoryPayload) (currency : String) (lines : List LinePayload)
    (t : ExpenseTables) : Decidable (Moderate categories currency lines t) :=
  inferInstanceAs (Decidable ((∀ line ∈ lines, _)
    ∧ ∀ category ∈ categories, ∀ limit ∈ category.perClaimLimit, _))

instance (claim : ExpenseClaim) : Decidable (NoOrphan claim) :=
  inferInstanceAs (Decidable (∀ line ∈ claim.lines, _ → ∀ category ∈ line.enteredUnder, _))

instance (policy : ExpensePolicy) (categories : List CategoryPayload) (t : ExpenseTables) :
    ∀ op, Decidable (Guarded policy categories t op)
  | .createExpenseClaim _ _ currency lines | .updateExpenseClaim _ _ currency lines =>
    inferInstanceAs (Decidable (_ → Moderate categories currency lines t))
  | .submitExpenseClaim claim _ _ =>
    inferInstanceAs (Decidable (_ → ∀ c ∈ t.getClaim claim, NoOrphan c))
  | .upsertPolicyCategories | .uploadExpenseReceipt .. | .approvalStatusChange .. =>
    inferInstanceAs (Decidable (_ → True))

/-! ## What the lines keep -/

/-- The category of a line is the one that it was entered under. -/
def Refers (rows : List ExpenseCategory) (line : ExpenseClaimLine) : Prop :=
  ∀ id, line.category = some id → ∃ c, Table.find ExpenseCategory.id id rows = some c
    ∧ line.enteredUnder = some c.toCategoryPayload

/-- A claim as the guarded requests write it. -/
structure Written (categories : List CategoryPayload) (rows : List ExpenseCategory)
    (claim : ExpenseClaim) : Prop where
  refers : ∀ line ∈ claim.lines, Refers rows line
  limits : WithinLimits categories claim
  currency : OneCurrency claim

/-- **The invariant of the guarded requests.** -/
structure Kept (policy : ExpensePolicy) (categories : List CategoryPayload)
    (t : ExpenseTables) : Prop where
  ofPolicy : ∀ c ∈ t.categories, c.policy = policy
  written : ∀ claim ∈ t.claims, Written categories t.categories claim

/-- The amounts of a category among the entries of a claim or a request. -/
def amountOf (category : CategoryPayload) (entries : List (Option CategoryPayload × ℚ)) : ℚ :=
  ((entries.filter (fun e => e.1 = some category)).map Prod.snd).sum

def ExpenseClaimLine.entry (line : ExpenseClaimLine) : Option CategoryPayload × ℚ :=
  (line.enteredUnder, line.amount)

/-- The entry that a line of a request will be. -/
def LinePayload.entry (t : ExpenseTables) (line : LinePayload) : Option CategoryPayload × ℚ :=
  ((line.category.bind t.getCategory).map ExpenseCategory.toCategoryPayload,
    normalizeAmount line.amount)

section

variable {policy : ExpensePolicy} {categories : List CategoryPayload} {t t' : ExpenseTables}
  {rows : List ExpenseCategory} {claim claim' : ExpenseClaim} {line : ExpenseClaimLine}
  {organisation : OrganisationId} {requester : EmployeeId} {currency : String}
  {lines : List LinePayload} {entered : List ExpenseClaimLine} {nextId : ℕ}

theorem amountUnder_eq_amountOf (claim : ExpenseClaim) (category : CategoryPayload) :
    claim.amountUnder category
      = amountOf category (claim.lines.map ExpenseClaimLine.entry) := by
  rw [amountOf, List.filter_map, List.map_map]
  rfl

theorem amountEntered_eq_amountOf (t : ExpenseTables) (lines : List LinePayload)
    (category : CategoryPayload) :
    amountEntered t lines category = amountOf category (lines.map (LinePayload.entry t)) := by
  rw [amountOf, List.filter_map, List.map_map]
  rfl

/-- The limits bound the entries. -/
theorem WithinLimits.congr (h : WithinLimits categories claim)
    (hlines : claim'.lines.map ExpenseClaimLine.entry = claim.lines.map ExpenseClaimLine.entry) :
    WithinLimits categories claim' := by
  intro category hcategory limit hlimit
  rw [amountUnder_eq_amountOf, hlines, ← amountUnder_eq_amountOf]
  exact h category hcategory limit hlimit

/-- A claim with other columns and the same lines. -/
theorem Written.congr (h : Written categories rows claim) (hlines : claim'.lines = claim.lines)
    (hcurrency : claim'.currency = claim.currency) : Written categories rows claim' where
  refers := hlines ▸ h.refers
  limits := h.limits.congr (by rw [hlines])
  currency := by
    intro line hline
    rw [hcurrency]
    exact h.currency line (hlines ▸ hline)

/-- The category of a line is the row it names. -/
theorem lineCategory_eq_ok {id : Option ExpenseCategoryId} {category : Option ExpenseCategory}
    {policy : Option ExpensePolicy} (h : lineCategory organisation policy t id = .ok category) :
    category = id.bind t.getCategory ∧ category.map ExpenseCategory.id = id := by
  cases id with
  | none =>
    obtain rfl := Except.ok.inj h
    exact ⟨rfl, rfl⟩
  | some id =>
    simp only [lineCategory, resolveCategory] at h
    split at h
    · cases h
    · next c hc =>
      split at h
      · obtain rfl := Except.ok.inj h
        exact ⟨hc.symm, congrArg some (Table.find_key hc)⟩
      · cases h

/-- **What a line of a request becomes.** -/
theorem enterLine_eq_ok {policy : Option ExpensePolicy} {payload : LinePayload × ℕ}
    (h : enterLine organisation policy currency t payload = .ok line) :
    line.entry = payload.1.entry t ∧ line.currency = payload.1.currency.getD currency
      ∧ Refers t.categories line := by
  obtain ⟨category, hcategory, h⟩ := bind_eq_ok_iff.mp h
  obtain ⟨-, -, h⟩ := bind_eq_ok_iff.mp h
  obtain ⟨-, -, h⟩ := bind_eq_ok_iff.mp h
  obtain rfl := pure_eq_ok_iff.mp h
  obtain ⟨hrow, hid⟩ := lineCategory_eq_ok hcategory
  refine ⟨by rw [hrow]; rfl, rfl, fun id hline => ?_⟩
  obtain ⟨c, rfl, rfl⟩ := Option.map_eq_some_iff.mp hline
  rw [← hid] at hrow
  exact ⟨c, hrow.symm, rfl⟩

/-- **The lines of a moderate request** make a claim that is written so. -/
theorem written_of_enterLines
    (h : enterLines organisation (some policy) currency lines nextId t = .ok entered)
    (hm : Moderate categories currency lines t) (hlines : claim.lines = entered)
    (hcurrency : claim.currency = currency) : Written categories t.categories claim := by
  have hentry : entered.map ExpenseClaimLine.entry = lines.map (LinePayload.entry t) := by
    rw [map_eq_of_mapM (fun _ _ hline => (enterLine_eq_ok hline).1) h]
    have hfst := congrArg (List.map (LinePayload.entry t)) (List.zipIdx_map_fst nextId lines)
    rwa [List.map_map] at hfst
  subst hlines
  refine ⟨fun line hline => ?_, fun category hcategory limit hlimit => ?_, fun line hline => ?_⟩
  · obtain ⟨payload, -, hpayload⟩ := (mem_of_mapM h).mp hline
    exact (enterLine_eq_ok hpayload).2.2
  · rw [amountUnder_eq_amountOf, hentry, ← amountEntered_eq_amountOf]
    exact hm.2 category hcategory limit hlimit
  · obtain ⟨payload, hmem, hpayload⟩ := (mem_of_mapM h).mp hline
    rw [(enterLine_eq_ok hpayload).2.1, hcurrency]
    exact hm.1 payload.1 (List.fst_mem_of_mem_zipIdx hmem)

/-! ## The steps -/

theorem Kept.saveClaim (h : Kept policy categories t)
    (hclaim : Written categories t.categories claim) :
    Kept policy categories (t.saveClaim claim) where
  ofPolicy := h.ofPolicy
  written := by
    intro other hother
    obtain rfl | ⟨hold, -⟩ := Table.mem_save hother
    · exact hclaim
    · exact h.written other hold

theorem onClaim_eq_ok {id : ExpenseClaimId} {request : ExpenseClaim → Except String ExpenseTables}
    (h : onClaim t id request = .ok t') :
    ∃ claim, t.getClaim id = some claim ∧ request claim = .ok t' := by
  unfold onClaim at h
  split at h
  · cases h
  · next claim hclaim => exact ⟨claim, hclaim, h⟩

theorem Kept.getClaim (h : Kept policy categories t) {id : ExpenseClaimId}
    (hclaim : t.getClaim id = some claim) : Written categories t.categories claim :=
  h.written claim (Table.find_mem hclaim)

/-- **A save of the policy** leaves no line a category, and every line its entry. -/
theorem Kept.upsertPolicyCategories (h : Kept policy categories t)
    (ht : upsertPolicyCategories policy categories t = .ok t') : Kept policy categories t' := by
  unfold ExpensePolicies.upsertPolicyCategories at ht
  split at ht
  · obtain rfl := Except.ok.inj ht
    refine ⟨fun c hc => ?_, fun claim hclaim => ?_⟩
    · rcases List.mem_append.mp hc with hc | hc
      · exact h.ofPolicy c (List.mem_of_mem_filter hc)
      · obtain ⟨i, hi, rfl⟩ := List.mem_mapIdx.mp hc
        rfl
    · obtain ⟨old, hold, rfl⟩ := List.mem_map.mp hclaim
      have hwritten := h.written old hold
      refine ⟨fun line hline id hid => ?_, hwritten.limits.congr ?_, fun line hline => ?_⟩
      · obtain ⟨l, hl, rfl⟩ := List.mem_map.mp hline
        obtain ⟨hlcategory, hkept⟩ := Option.filter_eq_some_iff.mp hid
        obtain ⟨c, hc, -⟩ := hwritten.refers l hl id hlcategory
        -- the row that the line refers to is of the policy, and deleted
        have hdeleted : id ∈ (t.categories.filter (fun c => c.policy.id = policy.id)).map
            ExpenseCategory.id :=
          List.mem_map.mpr ⟨c, List.mem_filter.mpr ⟨Table.find_mem hc,
            decide_eq_true (congrArg ExpensePolicy.id (h.ofPolicy c (Table.find_mem hc)))⟩,
            Table.find_key hc⟩
        exact absurd hdeleted (of_decide_eq_true hkept)
      · rw [List.map_map]
        rfl
      · obtain ⟨l, hl, rfl⟩ := List.mem_map.mp hline
        exact hwritten.currency l hl
  · cases ht

theorem Kept.createExpenseClaim (h : Kept policy categories t) {employee : EmployeeId}
    (hm : Moderate categories currency lines t)
    (ht : createExpenseClaim organisation employee (some policy) currency lines t = .ok t') :
    Kept policy categories t' := by
  obtain ⟨-, -, ht⟩ := bind_eq_ok_iff.mp ht
  obtain ⟨entered, hentered, ht⟩ := bind_eq_ok_iff.mp ht
  obtain rfl := pure_eq_ok_iff.mp ht
  refine ⟨h.ofPolicy, fun claim hclaim => ?_⟩
  rcases List.mem_append.mp hclaim with hclaim | hclaim
  · exact h.written claim hclaim
  · obtain rfl := List.mem_singleton.mp hclaim
    exact written_of_enterLines hentered hm rfl rfl

theorem Kept.updateExpenseClaim (h : Kept policy categories t)
    (hm : Moderate categories currency lines t)
    (ht : updateExpenseClaim claim requester (some policy) currency lines t = .ok t') :
    Kept policy categories t' := by
  obtain ⟨-, -, ht⟩ := bind_eq_ok_iff.mp ht
  obtain ⟨-, -, ht⟩ := bind_eq_ok_iff.mp ht
  obtain ⟨entered, hentered, ht⟩ := bind_eq_ok_iff.mp ht
  obtain rfl := pure_eq_ok_iff.mp ht
  have hwritten : Written categories t.categories { claim with
      policy := some policy.id, currency := currency, lines := entered } :=
    written_of_enterLines hentered hm rfl rfl
  have hsaved := h.saveClaim hwritten
  exact ⟨hsaved.ofPolicy, hsaved.written⟩

/-- A receipt changes no line otherwise. -/
theorem Written.uploadExpenseReceipt (h : Written categories rows claim)
    {id : ExpenseClaimLineId} {file : UploadedFile}
    (ht : uploadExpenseReceipt claim requester id file = .ok claim') :
    Written categories rows claim' := by
  unfold ExpensePolicies.uploadExpenseReceipt at ht
  split at ht
  · cases ht
  split at ht
  · cases ht
  split at ht
  · cases ht
  obtain ⟨-, -, ht⟩ := bind_eq_ok_iff.mp ht
  obtain rfl := pure_eq_ok_iff.mp ht
  refine ⟨fun line hline => ?_, h.limits.congr ?_,
    fun line hline => ?_⟩
  · rcases Table.mem_update_iff.mp hline with ⟨l, hl, -, rfl⟩ | ⟨hl, -⟩
    · exact h.refers l hl
    · exact h.refers line hl
  · refine Table.map_update (fun l => ?_) _
    rfl
  · rcases Table.mem_update_iff.mp hline with ⟨l, hl, -, rfl⟩ | ⟨hl, -⟩
    · exact h.currency l hl
    · exact h.currency line hl

/-- **What a submission checked.** -/
theorem submitExpenseClaim_eq_ok {approval : Except String Unit}
    (h : submitExpenseClaim claim requester approval t = .ok claim') :
    (∀ line ∈ claim.lines, lacksReceipt t line = false)
      ∧ claim' = { claim with status := .submitted } := by
  obtain ⟨-, -, h⟩ := bind_eq_ok_iff.mp h
  split at h
  · cases h
  obtain ⟨_, hreceipts, h⟩ := bind_eq_ok_iff.mp h
  obtain ⟨-, -, h⟩ := bind_eq_ok_iff.mp h
  obtain rfl := pure_eq_ok_iff.mp h
  refine ⟨fun line hline => ?_, rfl⟩
  unfold checkReceipts at hreceipts
  split at hreceipts
  · cases hreceipts
  · next hnone => exact Bool.eq_false_iff.mpr (List.find?_eq_none.mp hnone line hline)

/-- **One request keeps the invariant.** -/
theorem kept_step (h : Kept policy categories t) (op : Op) (hop : Guarded policy categories t op) :
    Kept policy categories (step policy categories t op) := by
  refine settle_induction (P := Kept policy categories) h (fun t' ht => ?_)
  have hguard := hop (by rw [ht]; rfl)
  cases op with
  | upsertPolicyCategories => exact h.upsertPolicyCategories ht
  | createExpenseClaim organisation employee currency lines => exact h.createExpenseClaim hguard ht
  | updateExpenseClaim claim requester currency lines =>
    obtain ⟨found, -, ht⟩ := onClaim_eq_ok ht
    exact h.updateExpenseClaim hguard ht
  | uploadExpenseReceipt claim requester line file =>
    obtain ⟨found, hfound, ht⟩ := onClaim_eq_ok ht
    obtain ⟨saved, hsaved, rfl⟩ := map_eq_ok_iff.mp ht
    exact h.saveClaim ((h.getClaim hfound).uploadExpenseReceipt hsaved)
  | submitExpenseClaim claim requester approval =>
    obtain ⟨found, hfound, ht⟩ := onClaim_eq_ok ht
    obtain ⟨saved, hsaved, rfl⟩ := map_eq_ok_iff.mp ht
    obtain ⟨-, rfl⟩ := submitExpenseClaim_eq_ok hsaved
    exact h.saveClaim ((h.getClaim hfound).congr rfl rfl)
  | approvalStatusChange claim status =>
    obtain ⟨found, hfound, ht⟩ := onClaim_eq_ok ht
    obtain rfl := Except.ok.inj ht
    exact h.saveClaim ((h.getClaim hfound).congr (by cases status <;> rfl)
      (by cases status <;> rfl))

/-- A claim that is written so, and submitted with no orphan, keeps its policy. -/
theorem Written.inPolicy (h : Written categories t.categories claim) (horphan : NoOrphan claim)
    (hchecked : ∀ line ∈ claim.lines, lacksReceipt t line = false) :
    InPolicy categories claim := by
  refine ⟨fun line hline category hcategory hrequires => ?_, h.limits, h.currency⟩
  cases hid : line.category with
  | none => exact horphan line hline hid category hcategory hrequires
  | some id =>
    obtain ⟨c, hc, hentered⟩ := h.refers line hline id hid
    obtain rfl := Option.some.inj (hentered.symm.trans hcategory)
    intro hreceipts
    have hlacks := hchecked line hline
    simp [lacksReceipt, hid, ExpenseTables.getCategory, hc, hrequires, hreceipts] at hlacks

/-- What the invariant and the guard give one request. -/
theorem Kept.submitsInPolicy (h : Kept policy categories t) (op : Op)
    (hop : Guarded policy categories t op) : SubmitsInPolicy policy categories t op := by
  cases op with
  | submitExpenseClaim id requester approval =>
    intro hok claim hclaim
    have horphan := hop hok claim hclaim
    obtain ⟨t', ht⟩ : ∃ t', perform policy categories t
        (.submitExpenseClaim id requester approval) = .ok t' := by
      cases hperform : perform policy categories t (.submitExpenseClaim id requester approval) with
      | error e => rw [hperform] at hok; cases hok
      | ok t' => exact ⟨t', rfl⟩
    obtain ⟨found, hfound, ht⟩ := onClaim_eq_ok ht
    obtain rfl := Option.some.inj (hfound.symm.trans hclaim)
    obtain ⟨saved, hsaved, -⟩ := map_eq_ok_iff.mp ht
    exact (h.getClaim hfound).inPolicy horphan (submitExpenseClaim_eq_ok hsaved).1
  | upsertPolicyCategories => trivial
  | createExpenseClaim => trivial
  | updateExpenseClaim => trivial
  | uploadExpenseReceipt => trivial
  | approvalStatusChange => trivial

end

/-- **Every claim that is submitted keeps the policy**, whatever saves of the policy with
the same categories come between, when the requests are guarded. -/
theorem submitsInPolicy_of_guarded (policy : ExpensePolicy) (categories : List CategoryPayload)
    (ops : List Op)
    (hops : Run.Along (step policy categories) (Guarded policy categories) .initial ops) :
    Run.Along (step policy categories) (SubmitsInPolicy policy categories) .initial ops := by
  have hinitial : Kept policy categories .initial :=
    ⟨fun _ hc => absurd hc List.not_mem_nil, fun _ hc => absurd hc List.not_mem_nil⟩
  exact Run.Along.of_invariant (I := Kept policy categories) (fun t op ht => kept_step ht op)
    (fun t op ht => ht.submitsInPolicy op) hinitial hops

/-! ## Sample requests -/

namespace Sample

def policy : ExpensePolicy := { id := 1, organisation := 1, currency := "USD" }

/-- A category with a limit, and one that wants receipts. -/
def categories : List CategoryPayload := [
  { code := "MEALS", name := "Meals", perClaimLimit := some 1000, requiresReceipt := false,
    isActive := true },
  { code := "TRAVEL", name := "Travel", perClaimLimit := none, requiresReceipt := true,
    isActive := true }]

def line (category : ExpenseCategoryId) (amount : ℚ) (currency : String) : LinePayload :=
  { category := some category, categoryName := "", amount := amount, currency := some currency }

def create (lines : List LinePayload) : Op := .createExpenseClaim 1 7 "USD" lines

def submit : Op := .submitExpenseClaim 2 7 (.ok ())

def receipt : UploadedFile :=
  { extension := ".pdf", size := 4, header := [0x25, 0x50, 0x44, 0x46, 0x2D] }

/-- Two saves of the policy around a claim whose line has its receipt. -/
def orderly : List Op :=
  [.upsertPolicyCategories, create [line 1 800 "USD", line 0 400 "USD"],
    .uploadExpenseReceipt 2 7 3 receipt, .upsertPolicyCategories, submit]

end Sample

open Sample in
theorem submitsInPolicy_sample :
    Run.Along (step policy categories) (SubmitsInPolicy policy categories) .initial orderly
      ∧ ((Run.exec (step policy categories) .initial orderly).getClaim 2).map
          ExpenseClaim.status = some .submitted :=
  ⟨submitsInPolicy_of_guarded policy categories orderly (by decide +kernel), by decide +kernel⟩

open Sample in
/-- A claim submitted without a receipt after the policy was saved again, one whose two
lines exceed the limit together, and one with a line in another currency. -/
theorem submitted_out_of_policy :
    ¬ Run.Along (step policy categories) (SubmitsInPolicy policy categories) .initial
        [.upsertPolicyCategories, create [line 1 800 "USD"], .upsertPolicyCategories, submit]
      ∧ ¬ Run.Along (step policy categories) (SubmitsInPolicy policy categories) .initial
        [.upsertPolicyCategories, create [line 0 600 "USD", line 0 600 "USD"], submit]
      ∧ ¬ Run.Along (step policy categories) (SubmitsInPolicy policy categories) .initial
        [.upsertPolicyCategories, create [line 0 600 "INR"], submit] := by
  decide +kernel

end ExpensePolicies
