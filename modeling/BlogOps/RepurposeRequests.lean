import BlogOps.NewHolds
import BlogOps.RepurposeDeliveries

/-!
# Requests for repurposing jobs

`RepurposeService.create_job` with the billing adapter behind it, on the jobs of one
workspace and its credit books.  The hold of a job is asked for under the hash of the
payload and of the requester, the job itself under the idempotency key of the request.
-/

namespace BlogOps.RepurposeRequests

open Billing Jobs KeyedTables RepurposeJobs TransitionRuns

structure RepurposeItemCreate where
  contentId : Uuid
  contentVersionId : Uuid
  templateVersionId : Uuid
  variantCount : Nat := 1
  variantCount_pos : 0 < variantCount
  instructions : PolicyFields := []

inductive RepurposeJobOperation where
  | single | bulk
deriving DecidableEq, Repr

structure RepurposeJobCreate where
  operation : RepurposeJobOperation
  items : List RepurposeItemCreate
  items_nonempty : items ≠ []
  operation_matches_items : operation = .single → items.length = 1
  modelProvider : String
  modelName : String
  modelVersion : String
  model_fits : textFits 1 120 modelProvider ∧ textFits 1 160 modelName ∧ textFits 1 120 modelVersion
  generationConfig : PolicyFields
  estimatedCost : ℚ
  estimatedCost_nonneg : 0 ≤ estimatedCost
  budgetCurrency : String
  budgetCurrency_length : budgetCurrency.length = 3

/-- `canonical_json_hash` of the payload, `none` where it raises, and of the configuration, the
digest of `_budget_idempotency_key`, and how texts are read and written. -/
class RequestTexts where
  requestHash : RepurposeJobCreate → Option String
  configHash : PolicyFields → String
  budgetDigest : (actorId : Uuid) → (requestHash : String) → String
  str : PolicyValue → String
  truthy : PolicyValue → Bool
  lower : String → String
  upper : String → String

structure ContentItem where
  id : Uuid
  deleted : Bool := false

structure ContentVersion where
  id : Uuid
  contentId : Uuid

structure ChannelTemplate where
  id : Uuid
  currentVersionId : Option Uuid

inductive ChannelTemplateStatus where
  | draft | published | deprecated
deriving DecidableEq, Repr

structure ChannelTemplateVersion where
  id : Uuid
  templateId : Uuid
  status : ChannelTemplateStatus
  platformPolicy : PolicyFields
  modelPolicy : PolicyFields

/-- The rows of the workspace that a request refers to. -/
structure RepurposeCatalogue where
  contents : List ContentItem
  versions : List ContentVersion
  templates : List ChannelTemplate
  templateVersions : List ChannelTemplateVersion

/-- An item of the request with the rows it was checked against. -/
structure PreparedItem where
  position : Nat
  item : RepurposeItemCreate
  version : ContentVersion
  template : ChannelTemplate
  templateVersion : ChannelTemplateVersion

section Checks

variable [RequestTexts]

open RequestTexts

def credentialMarkers : List String :=
  ["password", "token", "api_key", "apikey", "secret", "credential"]

def namesCredential (key : String) : Bool :=
  let normalized := (lower key).toList.map fun c => if c = '-' then '_' else c
  credentialMarkers.any fun marker => marker.toList <:+: normalized

/-! The walk of `ensure_secret_free_config`: the path of the first key that names a credential. -/

mutual

def walkValue (path : String) : PolicyValue → Option String
  | .object fields => walkFields path fields
  | .list items => walkItems path 0 items
  | _ => none

def walkFields (path : String) : List (String × PolicyValue) → Option String
  | [] => none
  | (key, child) :: fields =>
    if namesCredential key then some (path ++ key)
    else (walkValue (path ++ key ++ ".") child).or (walkFields path fields)

def walkItems (path : String) (index : Nat) : List PolicyValue → Option String
  | [] => none
  | child :: items =>
    (walkValue (path ++ toString index ++ ".") child).or (walkItems path (index + 1) items)

end

def ensureSecretFreeConfig (config : PolicyFields) : Except Failure Unit :=
  match walkFields "" config with
  | none => .ok ()
  | some path =>
    .error (.app {
      code := "REPURPOSE_INLINE_CREDENTIAL_FORBIDDEN"
      message := "모델 자격 증명은 리퍼포징 요청에 포함할 수 없습니다."
      statusCode := 422
      fields := [⟨"model_config." ++ path, "server-side only"⟩] })

variable (catalogue : RepurposeCatalogue)

def contentVersion (contentId versionId : Uuid) : Except Failure ContentVersion := do
  let found := catalogue.versions.find? fun row => row.contentId = contentId ∧ row.id = versionId
  require (∃ content ∈ catalogue.contents, content.id = contentId ∧ content.deleted = false) missing
  ofOption missing found
where
  missing : Failure := .app {
    code := "CONTENT_VERSION_NOT_FOUND"
    message := "원문 콘텐츠 버전을 찾을 수 없습니다."
    statusCode := 404 }

def resourceMissing (code : String) : Failure := .app {
  code := code ++ "_NOT_FOUND"
  message := "현재 워크스페이스에서 요청한 리퍼포징 리소스를 찾을 수 없습니다."
  statusCode := 404 }

def templateVersion (rowId : Uuid) : Except Failure ChannelTemplateVersion :=
  ofOption (resourceMissing "REPURPOSE_TEMPLATE_VERSION") (catalogue.templateVersions.find? (·.id = rowId))

def template (rowId : Uuid) : Except Failure ChannelTemplate :=
  ofOption (resourceMissing "REPURPOSE_TEMPLATE") (catalogue.templates.find? (·.id = rowId))

variable (policy : PolicyFields)

/-- The required fields that the policy lacks, in sorted order. -/
def missingPolicyFields : List String :=
  ["constraints", "policy_version", "source"].filter fun key => (policy.lookup key).isNone

/-- `policy["constraints"]` once it is known to be a mapping. -/
def policyConstraints : Except Failure PolicyFields :=
  match missingPolicyFields policy, policy.get "constraints" with
  | [], .object constraints => .ok constraints
  | missing, _ => .error (.app {
      code := "PLATFORM_POLICY_INCOMPLETE"
      message := "플랫폼 제약은 출처와 버전이 있는 정책으로 제공되어야 합니다."
      statusCode := 422
      fields := missing.map fun item => ⟨item, "required"⟩ })

def validatePlatformPolicy : Except Failure Unit := do
  let constraints ← policyConstraints policy
  require (¬ (truthy (constraints.get "enforce_character_limit") ∧
      (constraints.lookup "max_characters").isNone)) (.app {
    code := "PLATFORM_CHARACTER_LIMIT_MISSING"
    message := "문자 수 제한을 적용하려면 정책이 최대 문자 수를 제공해야 합니다."
    statusCode := 422 })

/-- The entries that `for item in allowed` meets; a scalar cannot be iterated, and the characters
of a text or the keys of a mapping are no mappings. -/
def allowedModels : Except Failure (List PolicyValue) :=
  match policy.lookup "allowed_models" with
  | none | some (.text _) | some (.object _) => .ok []
  | some (.list items) => .ok items
  | _ => .error .validationError

variable (data : RepurposeJobCreate)

def allowsModel : PolicyValue → Bool
  | .object item =>
    [("provider", data.modelProvider), ("model", data.modelName),
      ("model_version", data.modelVersion)].all fun expected =>
        (item.lookup expected.1).elim "" str = expected.2
  | _ => false

def validateModelSelection : Except Failure Unit := do
  let allowed ← allowedModels policy
  require (allowed.any (allowsModel data)) (.app {
    code := "REPURPOSE_MODEL_NOT_ALLOWED"
    message := "템플릿 정책에 고정된 모델 공급자·모델·버전만 사용할 수 있습니다."
    statusCode := 422 })

def prepareItem (entry : RepurposeItemCreate × Nat) : Except Failure PreparedItem := do
  let version ← contentVersion catalogue entry.1.contentId entry.1.contentVersionId
  let templateVersion ← templateVersion catalogue entry.1.templateVersionId
  let template ← template catalogue templateVersion.templateId
  require (templateVersion.status = .published ∧ template.currentVersionId = some templateVersion.id) (.app {
    code := "PUBLISHED_REPURPOSE_TEMPLATE_REQUIRED"
    message := "현재 게시된 채널 템플릿 버전만 사용할 수 있습니다."
    statusCode := 409 })
  validatePlatformPolicy templateVersion.platformPolicy
  validateModelSelection templateVersion.modelPolicy data
  .ok ⟨entry.2, entry.1, version, template, templateVersion⟩

end Checks

/-- A row of `repurpose_jobs` with the columns of its request. -/
structure JobRequest where
  job : RepurposeJob
  operation : RepurposeJobOperation
  idempotencyKey : String
  requestHash : String
  itemCount : Nat
  variantCount : Nat
  estimatedCost : ℚ
deriving DecidableEq

structure RepurposeDesk where
  jobs : List JobRequest
  books : Books

/-- A call of `create_job`: the adapter reads the clock at `now`, `create_hold` at `ctx.now`. -/
structure RequestCall where
  ctx : CallContext
  now : Int
  jobId : Uuid
  data : RepurposeJobCreate
  idempotencyKey : String
  catalogue : RepurposeCatalogue
  /-- A budget gateway is configured. -/
  billed : Bool := true
  /-- What the database takes of the rows, as far as the columns decide it. -/
  takes : JobRequest → List PreparedItem → Bool

/-- The job was asked for in this operation by this user under this key. -/
def RequestCall.repeats (call : RequestCall) (row : JobRequest) : Bool :=
  row.job.requestedBy = call.ctx.actorId ∧ row.operation = call.data.operation ∧
    row.idempotencyKey = call.idempotencyKey

def idempotentJob (call : RequestCall) (jobs : List JobRequest) : Option JobRequest :=
  jobs.find? call.repeats

/-- What a commit stores of the row. -/
def JobRequest.stored (row : JobRequest) : JobRequest :=
  { row with
    job := { row.job with reservedCost := storedCost row.job.reservedCost }
    estimatedCost := storedCost row.estimatedCost }

def insertJob (row : JobRequest) (jobs : List JobRequest) : Except Failure (List JobRequest) :=
  if jobs.any (·.job.id = row.job.id) then .error (.integrity "pk_repurpose_jobs")
  else if jobs.any fun other => other.job.requestedBy = row.job.requestedBy ∧
      other.operation = row.operation ∧ other.idempotencyKey = row.idempotencyKey then
    .error (.integrity "repurpose_job_idempotency")
  else .ok (jobs ++ [row.stored])

def budgetRuntimeUnavailable : Failure := .app {
  code := "REPURPOSE_BUDGET_RUNTIME_UNAVAILABLE"
  message := "비용 예약 경계가 구성되지 않아 리퍼포징을 시작할 수 없습니다."
  statusCode := 503 }

def budgetInsufficient : Failure := .app {
  code := "REPURPOSE_BUDGET_INSUFFICIENT"
  message := "예약된 예산이 추정 비용보다 적습니다."
  statusCode := 402 }

section Requests

variable [RequestTexts]

open RequestTexts

/-- `_budget_idempotency_key("repurpose", actor_id, request_hash)`. -/
def budgetIdempotencyKey (actorId : Uuid) (requestHash : String) : String :=
  "repurpose:" ++ budgetDigest actorId requestHash

/-- What `BillingRepurposeBudgetAdapter.reserve` asks for. -/
def budgetRequest (call : RequestCall) (requestHash : String) : BudgetRequest where
  operationKind := "repurpose.generate"
  subjectType := "repurpose_job"
  subjectId := requestHash
  idempotencyKey := budgetIdempotencyKey call.ctx.actorId requestHash
  estimatedCost := .finite call.data.estimatedCost
  requestedMaximumCost := some (.finite call.data.estimatedCost)
  currency := upper call.data.budgetCurrency

def newRow (call : RequestCall) (requestHash : String) (hold : CreditHold)
    (authorization : BudgetAuthorization) : JobRequest where
  job := {
    id := call.jobId
    requestedBy := call.ctx.actorId
    budgetCurrency := upper authorization.currency
    reservedCost := authorization.authorizedCost
    budgetReservationRef := some hold.id
    modelProvider := call.data.modelProvider
    modelName := call.data.modelName
    modelVersion := call.data.modelVersion
    modelConfigHash := configHash call.data.generationConfig
    requestKeys := jobCreateKeys }
  operation := call.data.operation
  idempotencyKey := call.idempotencyKey
  requestHash := requestHash
  itemCount := call.data.items.length
  variantCount := (call.data.items.map (·.variantCount)).sum
  estimatedCost := call.data.estimatedCost

variable (readers : PolicyReaders)

variable (rows : BudgetPolicyRows)

/-- `create_job` from the look-up of the key on, for a key that has no job. -/
def requestJob (call : RequestCall) (requestHash : String) (s : RepurposeDesk) :
    Except Failure (JobRequest × RepurposeDesk) := do
  let prepared ← call.data.items.zipIdx.mapM (prepareItem call.catalogue call.data)
  require call.billed budgetRuntimeUnavailable
  let ((hold, authorization), books) ←
    reserve readers rows call.ctx call.now (budgetRequest call requestHash) s.books
  require (call.data.estimatedCost ≤ authorization.authorizedCost) budgetInsufficient
  let row := newRow call requestHash hold authorization
  require (call.takes row prepared) (.integrity "repurpose_jobs")
  let jobs ← insertJob row s.jobs
  .ok (row, { jobs := jobs, books := books })

/-- The job, whether it is new, and the workspace afterwards. -/
def createJob (call : RequestCall) (s : RepurposeDesk) :
    Except Failure ((JobRequest × Bool) × RepurposeDesk) := do
  let hash ← ofOption .validationError (requestHash call.data)
  ensureSecretFreeConfig call.data.generationConfig
  match idempotentJob call s.jobs with
  | some existing => do
    require (existing.requestHash = hash) idempotencyKeyReused
    .ok ((existing, false), s)
  | none => do
    let (row, after) ← requestJob readers rows call hash s
    .ok ((row, true), after)

/-- What deliveries and commands write of a job. -/
structure JobProgress where
  state : JobState
  actualCost : ℚ
  attempt : Nat
  errorCode : Option String
  errorDetail : Option String

def JobRequest.advance (progress : JobProgress) (row : JobRequest) : JobRequest :=
  { row with job := { row.job with
      state := progress.state
      actualCost := progress.actualCost
      attempt := progress.attempt
      errorCode := progress.errorCode
      errorDetail := progress.errorDetail } }

/-- A credit call of the workspace that places no hold for a repurposing job. -/
structure OtherCall where
  ctx : CallContext
  call : CreditCall
  foreign : ∀ data, call = .createHold data → data.subjectType ≠ "repurpose_job"

/-- What happens in a workspace: requests, the progress of jobs, and the other calls on its
credits, among them the settlements of jobs. -/
inductive DeskAction where
  | create (call : RequestCall)
  | progress (jobId : Uuid) (progress : JobProgress)
  | credits (other : OtherCall)

def stepDesk (s : RepurposeDesk) : DeskAction → RepurposeDesk
  | .create call =>
    match createJob readers rows call s with
    | .ok (_, after) => after
    | .error _ => s
  | .progress jobId progress =>
    { s with jobs := updateRow (·.job.id) jobId (JobRequest.advance progress) s.jobs }
  | .credits other => { s with books := transact s.books (other.ctx, other.call) }

end Requests

/-- No job was asked for yet, and no hold is one of a repurposing job. -/
structure NewDesk (s : RepurposeDesk) : Prop where
  jobs : s.jobs = []
  books : Reachable transact emptyBooks s.books
  holds : ∀ hold ∈ s.books.holds, hold.subjectType ≠ "repurpose_job"

end BlogOps.RepurposeRequests
