import BlogOps.AppErrors
import BlogOps.EffectRules
import BlogOps.KeyedTables
import BlogOps.TransitionRuns
import Mathlib.Data.List.MinMax
import Mathlib.Data.Prod.Lex

/-!
# Approvals of repurposed variants

`approve_variant`, `export_variant` and `deliver_variant` on the variants of a
workspace.  What a gateway was asked to publish stays published when the
transaction around the call is rolled back.
-/

namespace BlogOps.Repurpose

open EffectRules KeyedTables TransitionRuns

inductive RepurposeApprovalDecision where
  | approve | reject | requestChanges
deriving DecidableEq, Repr

inductive RepurposeExportFormat where
  | csv | txt | markdown
deriving DecidableEq, Repr

inductive DeliveryState where
  | requested | succeeded | failed
deriving DecidableEq, Repr

structure RepurposeInputSnapshot where
  id : Uuid
  approvalPolicySnapshot : String
deriving DecidableEq, Repr

structure RepurposeVariant where
  id : Uuid
  snapshotId : Uuid
  /-- The canonical JSON of the blocks. -/
  document : String
  plainText : String
  sourceContentHash : String
  templateContentHash : String
  resultHash : String
deriving DecidableEq, Repr

structure RepurposeApproval where
  id : Uuid
  variantId : Uuid
  variantHash : String
  decision : RepurposeApprovalDecision
  reason : String
  policySnapshot : String
  decidedBy : Uuid
  createdAt : Int
deriving DecidableEq, Repr

structure RepurposeExportArtifact where
  id : Uuid
  variantId : Uuid
  approvalId : Uuid
  variantHash : String
  format : RepurposeExportFormat
  objectRef : String
  objectHash : String
  mediaType : String
  sizeBytes : Int
  manifest : List (String × String)
  createdBy : Uuid
deriving DecidableEq, Repr

structure RepurposeDeliveryRequest where
  id : Uuid
  variantId : Uuid
  approvalId : Uuid
  variantHash : String
  officialProvider : String
  connectionSecretRef : String
  destination : String
  requestedBy : Uuid
  idempotencyKey : String
  requestHash : String
  state : DeliveryState := .requested
  externalPostId : Option String := none
  responseMetadata : Option String := none
  errorCode : Option String := none
deriving DecidableEq, Repr

structure RepurposeDeliveryResult where
  id : Uuid
  deliveryRequestId : Uuid
  succeeded : Bool
  externalPostId : Option String
  responseMetadata : String
  errorCode : Option String
  resultHash : String
deriving DecidableEq, Repr

/-- A call of `gateway.publish`. -/
structure Publication where
  variantId : Uuid
  officialProvider : String
  secretRef : String
  destination : String
  text : String
  document : String
  idempotencyKey : String
deriving DecidableEq, Repr

structure VariantDesk where
  snapshots : List RepurposeInputSnapshot
  variants : List RepurposeVariant
  approvals : List RepurposeApproval := []
  artifacts : List RepurposeExportArtifact := []
  deliveries : List RepurposeDeliveryRequest := []
  results : List RepurposeDeliveryResult := []
  /-- The calls of the gateways so far, which no rollback takes back. -/
  published : List Publication := []
deriving DecidableEq, Repr

abbrev DeskM := EStateM Failure VariantDesk

structure StoredExport where
  objectRef : String
  objectHash : String
  mediaType : String
  sizeBytes : Int
deriving DecidableEq, Repr

/-- What `export_store.put` is given. -/
structure ExportUpload where
  objectName : String
  body : String
  mediaType : String
deriving DecidableEq, Repr

structure SocialDeliveryResult where
  externalPostId : String
  responseMetadata : String
deriving DecidableEq, Repr

structure RepurposeDeliveryCreate where
  approvalId : Uuid
  officialProvider : String
  connectionSecretRef : String
  destination : String
deriving DecidableEq, Repr

/-- `id`, `now` and `taken` are the new key, the time of the transaction, and whether the database
takes what the call writes. -/
structure ApprovalCall where
  id : Uuid
  now : Int
  subjectId : Uuid
  variantId : Uuid
  decision : RepurposeApprovalDecision
  reason : String
  taken : Bool := true

structure ExportCall where
  id : Uuid
  subjectId : Uuid
  variantId : Uuid
  format : RepurposeExportFormat
  exportStore : Option (ExportUpload → Except Failure StoredExport)
  taken : Bool := true

structure DeliveryCall where
  id : Uuid
  resultId : Uuid
  subjectId : Uuid
  variantId : Uuid
  data : RepurposeDeliveryCreate
  idempotencyKey : String
  /-- The registry has a gateway for the provider. -/
  configured : Bool := true
  requestTaken : Bool := true
  /-- What `publish` returns, or the name of the exception it raises. -/
  result : Except String SocialDeliveryResult
  resultTaken : Bool := true

inductive VariantCall where
  | approveVariant (call : ApprovalCall)
  | exportVariant (call : ExportCall)
  | deliverVariant (call : DeliveryCall)

inductive VariantAnswer where
  | approval (row : RepurposeApproval)
  | artifact (row : RepurposeExportArtifact)
  | delivery (row : RepurposeDeliveryRequest) (created : Bool)
deriving DecidableEq, Repr

def required {α : Type} (key : α → Uuid) (rows : List α) (rowId : Uuid) (code : String) :
    Except Failure α :=
  match rows.find? (fun row => key row = rowId) with
  | some row => .ok row
  | none => .error (.app {
      code := code ++ "_NOT_FOUND"
      message := "현재 워크스페이스에서 요청한 리퍼포징 리소스를 찾을 수 없습니다."
      statusCode := 404 })

section

variable {α : Type} {key : α → Uuid} {rows : List α} {row : α}

theorem required_ok {rowId : Uuid} {code : String} (h : required key rows rowId code = .ok row) :
    row ∈ rows ∧ key row = rowId := by
  unfold required at h
  split at h
  · rename_i found hfind
    cases h
    exact ⟨List.mem_of_find?_eq_some hfind, by simpa using List.find?_some hfind⟩
  · cases h

theorem required_of_mem (hkeyed : Keyed key rows) (hrow : row ∈ rows) (code : String) :
    required key rows (key row) code = .ok row := by
  unfold required
  rw [hkeyed.find?_eq hrow]

end

variable (desk : VariantDesk)

def snapshotOf (rowId : Uuid) : Except Failure RepurposeInputSnapshot :=
  match desk.snapshots.find? (fun row => row.id = rowId) with
  | some row => .ok row
  | none => .error (.app {
      code := "REPURPOSE_SNAPSHOT_NOT_FOUND"
      message := "입력 스냅샷이 없습니다."
      statusCode := 404 })

local instance approvalMoments : Preorder Int := Int.instLinearOrder.toPreorder

/-- `(created_at, id)`, by which the decisions are ordered. -/
def RepurposeApproval.order (row : RepurposeApproval) : Int ×ₗ Nat := toLex (row.createdAt, row.id)

variable (approvals : List RepurposeApproval)

def decisionsOn (variantId : Uuid) : List RepurposeApproval :=
  approvals.filter fun row => row.variantId = variantId

def latestApproval (variantId : Uuid) : Option RepurposeApproval :=
  (decisionsOn approvals variantId).argmax RepurposeApproval.order

def approvalRequired : Failure := .app {
  code := "REPURPOSE_APPROVAL_REQUIRED"
  message := "현재 변형 해시에 대한 승인이 필요합니다."
  statusCode := 409 }

def approvalInvalid : Failure := .app {
  code := "REPURPOSE_APPROVAL_INVALID"
  message := "현재 변형 해시에 대한 승인만 전달에 사용할 수 있습니다."
  statusCode := 409 }

variable (variant : RepurposeVariant)

def approvedVariant : Except Failure RepurposeApproval :=
  match latestApproval desk.approvals variant.id with
  | none => .error approvalRequired
  | some approval => do
      require (approval.decision = .approve ∧ approval.variantHash = variant.resultHash)
        approvalRequired
      .ok approval

/-- The approval that a delivery names, checked against the variant. -/
def namedApproval (approvalId : Uuid) : Except Failure RepurposeApproval := do
  let approval ← required RepurposeApproval.id desk.approvals approvalId "REPURPOSE_APPROVAL"
  require (approval.variantId = variant.id ∧ approval.variantHash = variant.resultHash ∧
    approval.decision = .approve) approvalInvalid
  .ok approval

def requireSameRequest (existingHash requestHash : String) : Except Failure Unit :=
  require (existingHash = requestHash) (.app {
    code := "IDEMPOTENCY_KEY_REUSED"
    message := "같은 멱등 키를 다른 리퍼포징 요청에 재사용할 수 없습니다."
    statusCode := 409 })

/-- The digests of canonical JSON and the text of an identifier. -/
class RepurposeHashes where
  deliveryHash : RepurposeDeliveryCreate → String
  failureHash : (requestHash exceptionType : String) → String
  successHash : (requestHash externalPostId responseMetadata : String) → String
  failureMetadata : (exceptionType : String) → String
  uuidText : Uuid → String

/-- A field as `csv.writer` writes it in a row of several. -/
def csvField (value : String) : String :=
  if value.toList.any (· ∈ ",\"\r\n".toList) then
    "\"" ++ String.ofList (value.toList.flatMap fun c =>
      if c ∈ "\"".toList then [c, c] else [c]) ++ "\""
  else value

def csvRow (fields : List String) : String := ",".intercalate (fields.map csvField) ++ "\r\n"

section Operations

variable [RepurposeHashes]

open RepurposeHashes

def newApproval (call : ApprovalCall) (variant : RepurposeVariant)
    (snapshot : RepurposeInputSnapshot) : RepurposeApproval where
  id := call.id
  variantId := variant.id
  variantHash := variant.resultHash
  decision := call.decision
  reason := call.reason
  policySnapshot := snapshot.approvalPolicySnapshot
  decidedBy := call.subjectId
  createdAt := call.now

/-- `session.add` and `session.flush`. -/
def insertApproval (row : RepurposeApproval) (taken : Bool) : DeskM Unit := do
  let desk ← get
  MonadExcept.ofExcept (require (taken = true ∧ ∀ other ∈ desk.approvals, other.id ≠ row.id)
    (.integrity "repurpose_approvals"))
  modify fun desk => { desk with approvals := desk.approvals ++ [row] }

def approveVariant (call : ApprovalCall) : DeskM RepurposeApproval := do
  let desk ← get
  let variant ← MonadExcept.ofExcept
    (required RepurposeVariant.id desk.variants call.variantId "REPURPOSE_VARIANT")
  let snapshot ← MonadExcept.ofExcept (snapshotOf desk variant.snapshotId)
  insertApproval (newApproval call variant snapshot) call.taken
  return newApproval call variant snapshot

/-- The body, the media type and the suffix of the object. -/
def serializeExport (variant : RepurposeVariant) : RepurposeExportFormat → String × String × String
  | .txt => (variant.plainText, "text/plain; charset=utf-8", "txt")
  | .markdown =>
      ("<!-- variant_hash: " ++ variant.resultHash ++ " -->\n\n" ++ variant.plainText ++ "\n",
        "text/markdown; charset=utf-8", "md")
  | .csv =>
      (csvRow ["variant_id", "variant_hash", "text"] ++
        csvRow [uuidText variant.id, variant.resultHash, variant.plainText],
        "text/csv; charset=utf-8", "csv")

def exportUpload (variant : RepurposeVariant) (format : RepurposeExportFormat) : ExportUpload :=
  let (body, mediaType, suffix) := serializeExport variant format
  { objectName := "repurpose/" ++ uuidText variant.id ++ "/" ++ variant.resultHash ++ "." ++ suffix
    body
    mediaType }

def newArtifact (call : ExportCall) (variant : RepurposeVariant) (approval : RepurposeApproval)
    (stored : StoredExport) : RepurposeExportArtifact where
  id := call.id
  variantId := variant.id
  approvalId := approval.id
  variantHash := variant.resultHash
  format := call.format
  objectRef := stored.objectRef
  objectHash := stored.objectHash
  mediaType := stored.mediaType
  sizeBytes := stored.sizeBytes
  manifest := [("source_content_hash", variant.sourceContentHash),
    ("template_content_hash", variant.templateContentHash), ("variant_hash", variant.resultHash),
    ("approval_id", uuidText approval.id)]
  createdBy := call.subjectId

def insertArtifact (row : RepurposeExportArtifact) (taken : Bool) : DeskM Unit := do
  let desk ← get
  MonadExcept.ofExcept (require
    (taken = true ∧ 0 ≤ row.sizeBytes ∧ ∀ other ∈ desk.artifacts, other.id ≠ row.id)
    (.integrity "repurpose_export_artifacts"))
  modify fun desk => { desk with artifacts := desk.artifacts ++ [row] }

def exportUnavailable : Failure := .app {
  code := "REPURPOSE_EXPORT_RUNTIME_UNAVAILABLE"
  message := "리퍼포징 내보내기 저장소가 구성되지 않았습니다."
  statusCode := 503 }

def exportVariant (call : ExportCall) : DeskM RepurposeExportArtifact := do
  match call.exportStore with
  | none => throw exportUnavailable
  | some put =>
      let desk ← get
      let variant ← MonadExcept.ofExcept
        (required RepurposeVariant.id desk.variants call.variantId "REPURPOSE_VARIANT")
      let approval ← MonadExcept.ofExcept (approvedVariant desk variant)
      match desk.artifacts.find? (fun row => row.variantId = variant.id ∧
          row.variantHash = variant.resultHash ∧ row.format = call.format) with
      | some existing => return existing
      | none =>
          let stored ← MonadExcept.ofExcept (put (exportUpload variant call.format))
          insertArtifact (newArtifact call variant approval stored) call.taken
          return newArtifact call variant approval stored

variable (call : DeliveryCall)

def newDelivery (variant : RepurposeVariant) (approval : RepurposeApproval) :
    RepurposeDeliveryRequest where
  id := call.id
  variantId := variant.id
  approvalId := approval.id
  variantHash := variant.resultHash
  officialProvider := call.data.officialProvider
  connectionSecretRef := call.data.connectionSecretRef
  destination := call.data.destination
  requestedBy := call.subjectId
  idempotencyKey := call.idempotencyKey
  requestHash := deliveryHash call.data

variable (row : RepurposeDeliveryRequest)

def insertDelivery (taken : Bool) : DeskM Unit := do
  let desk ← get
  MonadExcept.ofExcept (require (taken = true ∧ ∀ other ∈ desk.deliveries, other.id ≠ row.id)
    (.integrity "repurpose_delivery_requests"))
  modify fun desk => { desk with deliveries := desk.deliveries ++ [row] }

def publication (variant : RepurposeVariant) : Publication where
  variantId := variant.id
  officialProvider := call.data.officialProvider
  secretRef := call.data.connectionSecretRef
  destination := call.data.destination
  text := variant.plainText
  document := variant.document
  idempotencyKey := call.idempotencyKey

def publish (variant : RepurposeVariant) : DeskM Unit :=
  modify fun desk => { desk with published := desk.published ++ [publication call variant] }

/-- The row of the request as the answer of the gateway leaves it, and the row of the answer. -/
def deliveryOutcome : RepurposeDeliveryRequest × RepurposeDeliveryResult :=
  match call.result with
  | .error exceptionType =>
      ({ row with
          state := .failed
          errorCode := some "OFFICIAL_SOCIAL_DELIVERY_FAILED" },
        { id := call.resultId
          deliveryRequestId := row.id
          succeeded := false
          externalPostId := none
          responseMetadata := failureMetadata exceptionType
          errorCode := some "OFFICIAL_SOCIAL_DELIVERY_FAILED"
          resultHash := failureHash row.requestHash exceptionType })
  | .ok result =>
      ({ row with
          state := .succeeded
          externalPostId := some result.externalPostId
          responseMetadata := some result.responseMetadata },
        { id := call.resultId
          deliveryRequestId := row.id
          succeeded := true
          externalPostId := some result.externalPostId
          responseMetadata := result.responseMetadata
          errorCode := none
          resultHash := successHash row.requestHash result.externalPostId
            result.responseMetadata })

def settleDelivery (result : RepurposeDeliveryResult) (taken : Bool) : DeskM Unit := do
  let desk ← get
  MonadExcept.ofExcept (require (taken = true ∧ ∀ other ∈ desk.results, other.id ≠ result.id)
    (.integrity "repurpose_delivery_results"))
  modify fun desk => { desk with
    deliveries := updateRow (·.id) row.id (fun _ => row) desk.deliveries
    results := desk.results ++ [result] }

def socialUnavailable : Failure := .app {
  code := "OFFICIAL_SOCIAL_RUNTIME_UNAVAILABLE"
  message := "공식 SNS 전달 경계가 구성되지 않았습니다."
  statusCode := 503 }

def deliverVariant : DeskM (RepurposeDeliveryRequest × Bool) := do
  let desk ← get
  match desk.deliveries.find? (fun row => row.requestedBy = call.subjectId ∧
      row.idempotencyKey = call.idempotencyKey) with
  | some existing =>
      MonadExcept.ofExcept (requireSameRequest existing.requestHash (deliveryHash call.data))
      return (existing, false)
  | none =>
      let variant ← MonadExcept.ofExcept
        (required RepurposeVariant.id desk.variants call.variantId "REPURPOSE_VARIANT")
      let approval ← MonadExcept.ofExcept (namedApproval desk variant call.data.approvalId)
      MonadExcept.ofExcept (require (call.configured = true) socialUnavailable)
      insertDelivery (newDelivery call variant approval) call.requestTaken
      publish call variant
      let outcome := deliveryOutcome call (newDelivery call variant approval)
      settleDelivery outcome.1 outcome.2 call.resultTaken
      return (outcome.1, true)

def VariantCall.perform : VariantCall → DeskM VariantAnswer
  | .approveVariant call => do return .approval (← BlogOps.Repurpose.approveVariant call)
  | .exportVariant call => do return .artifact (← BlogOps.Repurpose.exportVariant call)
  | .deliverVariant call => do
      let (row, created) ← BlogOps.Repurpose.deliverVariant call
      return .delivery row created

/-- The call in its own transaction. -/
def answerCall (desk : VariantDesk) (call : VariantCall) : VariantDesk × Except Failure VariantAnswer :=
  match call.perform desk with
  | .ok answer after => (after, .ok answer)
  | .error failure after => ({ desk with published := after.published }, .error failure)

def stepDesk (desk : VariantDesk) (call : VariantCall) : VariantDesk := (answerCall desk call).1

end Operations

/-- No decision on the variant is later. -/
def IsLatest (row : RepurposeApproval) : Prop :=
  row ∈ approvals ∧ ∀ other ∈ approvals, other.variantId = row.variantId → other.order ≤ row.order

/-- The latest decision on the variant is an `APPROVE` for its result hash. -/
def CurrentlyApproved : Prop :=
  ∃ row, IsLatest desk.approvals row ∧ row.variantId = variant.id ∧ row.decision = .approve ∧
    row.variantHash = variant.resultHash

def ExportAccepts : Prop := ∃ approval, approvedVariant desk variant = .ok approval

def DeliveryAccepts : Prop :=
  ∃ approvalId approval, namedApproval desk variant approvalId = .ok approval

def SameExits : Prop :=
  ∀ variant ∈ desk.variants, ExportAccepts desk variant ↔ DeliveryAccepts desk variant

section Exits

variable [RepurposeHashes]

/-- The gateway calls that the call makes. -/
def newPublications (desk : VariantDesk) (call : VariantCall) : List Publication :=
  (stepDesk desk call).published.drop desk.published.length

/-- Only a currently approved variant leaves, and both exits are open to the same variants before
and after the call. -/
structure OnlyApprovedLeave (desk : VariantDesk) (call : VariantCall) : Prop where
  artifact : ∀ row, (answerCall desk call).2 = .ok (.artifact row) →
    ∃ variant ∈ desk.variants, variant.id = row.variantId ∧ CurrentlyApproved desk variant
  publication : ∀ sent ∈ newPublications desk call,
    ∃ variant ∈ desk.variants, variant.id = sent.variantId ∧ CurrentlyApproved desk variant
  before : SameExits desk
  after : SameExits (stepDesk desk call)

end Exits

def ApprovalCall.order (call : ApprovalCall) : Int ×ₗ Nat := toLex (call.now, call.id)

/-- The variant and its snapshot exist, and the database takes the row. -/
def ApprovalCall.Recordable (call : ApprovalCall) : Prop :=
  (∃ variant ∈ desk.variants, variant.id = call.variantId ∧
    ∃ snapshot ∈ desk.snapshots, snapshot.id = variant.snapshotId) ∧
  call.taken = true ∧ ∀ row ∈ desk.approvals, row.id ≠ call.id

def HasApproval (variantId : Uuid) : Prop :=
  ∃ row ∈ approvals, row.variantId = variantId ∧ row.decision = .approve

/-- A decision against a variant that has an approval comes before one of its approvals; a first
approval comes after every decision against. -/
def ApprovalCall.LeavesApproved (call : ApprovalCall) : Prop :=
  if call.decision = .approve then
    HasApproval desk.approvals call.variantId ∨
      ∀ row ∈ desk.approvals, row.variantId = call.variantId → row.order < call.order
  else
    HasApproval desk.approvals call.variantId →
      ∃ row ∈ desk.approvals, row.variantId = call.variantId ∧ row.decision = .approve ∧
        call.order < row.order

/-- A recorded decision does not take an approval back. -/
def NothingTakenBack : VariantCall → Prop
  | .approveVariant call => call.Recordable desk → call.LeavesApproved desk
  | _ => True

end BlogOps.Repurpose
