import BlogOps.BudgetReservations
import BlogOps.BulkMaterialization
import BlogOps.UsageRecords

/-!
# Creating a bulk job

`create_job` of the bulk service: an idempotent request of one user for one
operation, checked against the frozen input, mapping, template and campaign,
and paid for by a credit hold that the bulk budget adapter places.
-/

namespace BlogOps.Bulk

open Jobs KeyedTables Billing

structure BulkJobCreate where
  campaignId : Uuid
  inputFileId : Uuid
  mappingId : Uuid
  templateVersionId : Uuid
  operation : BulkOperation := .generateContent
  urgent : Bool := false
  estimatedCost : ℚ
  maximumCost : ℚ
  currency : String
  dryRun : Bool := false
  sampleSize : Option Nat := none
  maxRowAttempts : Nat := 3
  idempotencyKey : String
  estimated_nonneg : 0 ≤ estimatedCost
  maximum_pos : 0 < maximumCost
  estimated_le : estimatedCost ≤ maximumCost
  sample_pos : sampleSize.all (0 < ·)
  dry_run_sample : dryRun → sampleSize.isSome
  attempts_range : 1 ≤ maxRowAttempts ∧ maxRowAttempts ≤ 10

structure RegisteredInput where
  id : Uuid
  headers : List String
  malwareScanStatus : String
  contentHash : String
  rowCount : Nat

structure BulkMapping where
  id : Uuid
  snapshot : MappingSnapshot

structure TemplateVersion where
  id : Uuid
  published : Bool

structure CampaignPolicy where
  id : Uuid
  active : Bool
  /-- `_spam_policy_thresholds` of its quality policy. -/
  spamPolicy : Except Failure SpamPolicy

/-- The rows a request refers to. -/
structure BulkCatalogue where
  inputs : List RegisteredInput
  mappings : List BulkMapping
  templates : List TemplateVersion
  campaigns : List CampaignPolicy

/-- The jobs and credits of one workspace. -/
structure BulkStore where
  jobs : List BulkJob
  books : Books

/-- How a request and its policy values are read. -/
structure BulkReaders where
  policy : PolicyReaders
  requestHash : BulkJobCreate → String
  mappingHash : MappingSnapshot → String
  /-- `int(value)`, `none` where it raises. -/
  integer : PolicyValue → Option Int
  /-- `str.upper`. -/
  upper : String → String

/-- What a request reads besides the tables: who asks, the clock of the authorization, the
context of the credit call and the id of the new job. -/
structure BulkRequestEnv where
  principal : BulkPrincipal
  now : Int
  policyRows : BudgetPolicyRows
  ctx : CallContext
  jobId : Uuid

def notFound (code label : String) : Failure :=
  .app { code := code ++ "_NOT_FOUND", message := label ++ "을(를) 찾을 수 없습니다.", statusCode := 404 }

def found {α : Type} (row : Option α) (code label : String) : Except Failure α :=
  match row with
  | some row => .ok row
  | none => .error (notFound code label)

def validateMapping (availableColumns : List String) (mapping : MappingSnapshot) : List String :=
  let missingColumns := ((mapping.columnMapping.map Prod.fst).dedup.filter
    (· ∉ availableColumns)).insertionSort (· ≤ ·)
  let missingVariables := (mapping.requiredVariables.dedup.filter
    (· ∉ mapping.columnMapping.map Prod.snd)).insertionSort (· ≤ ·)
  missingColumns.map ("unknown_column:" ++ ·) ++ missingVariables.map ("missing_variable:" ++ ·)

/-- What the rows a request refers to come to. -/
structure BulkBasis where
  input : RegisteredInput
  mapping : MappingSnapshot
  spamPolicy : SpamPolicy

/-- The checks of a request before its budget is reserved. -/
def bulkBasis (catalogue : BulkCatalogue) (principal : BulkPrincipal) (data : BulkJobCreate) :
    Except Failure BulkBasis := do
  require (data.urgent → principal.managesBulk) (.app {
    code := "BULK_URGENT_PERMISSION_REQUIRED"
    message := "긴급 우선순위는 대량 작업 관리자만 선택할 수 있습니다."
    statusCode := 403 })
  let input ← found (catalogue.inputs.find? (·.id = data.inputFileId)) "BULK_INPUT" "대량 입력 Snapshot"
  let mapping ← found (catalogue.mappings.find? (·.id = data.mappingId)) "BULK_MAPPING" "대량 변수 Mapping"
  let template ← found (catalogue.templates.find? (·.id = data.templateVersionId)) "TEMPLATE_VERSION" "템플릿 버전"
  let campaign ← found (catalogue.campaigns.find? (·.id = data.campaignId)) "CAMPAIGN" "캠페인"
  require campaign.active (bulkConflict "BULK_CAMPAIGN_NOT_ACTIVE" "활성 캠페인의 서버 정책만 대량 작업에 사용할 수 있습니다.")
  require template.published (bulkConflict "BULK_TEMPLATE_NOT_PUBLISHED" "발행된 템플릿 버전만 대량 작업에 사용할 수 있습니다.")
  let problems := validateMapping input.headers mapping.snapshot
  require (problems = []) (.app {
    code := "BULK_INPUT_MAPPING_MISMATCH"
    message := "고정된 입력 Snapshot과 변수 Mapping이 일치하지 않습니다."
    statusCode := 409
    fields := problems.map fun problem => ⟨"mapping_id", problem⟩ })
  require (input.malwareScanStatus = "CLEAN" ∨ input.malwareScanStatus = "NOT_REQUIRED")
    (bulkConflict "BULK_INPUT_SCAN_REQUIRED" "악성코드 검사를 통과한 입력 Snapshot만 실행할 수 있습니다.")
  require (data.sampleSize.all (· ≤ input.rowCount)) (.app {
    code := "BULK_SAMPLE_TOO_LARGE"
    message := "샘플 수가 입력 행 수보다 큽니다."
    statusCode := 422 })
  let spamPolicy ← campaign.spamPolicy
  .ok ⟨input, mapping.snapshot, spamPolicy⟩

variable (readers : BulkReaders)

/-- `BillingBulkBudgetAdapter.reserve`: the hold is keyed by the key of the job alone. -/
def bulkBudgetRequest (data : BulkJobCreate) : BudgetRequest where
  operationKind := "bulk.generate"
  subjectType := "bulk_job"
  subjectId := data.idempotencyKey
  idempotencyKey := "bulk:" ++ data.idempotencyKey
  estimatedCost := .finite data.estimatedCost
  requestedMaximumCost := some (.finite data.maximumCost)
  currency := readers.upper data.currency

def validateRowCapacity (rowCount : Nat) (entitledLimit : Option Int) : Except Failure Unit := do
  require (1 ≤ rowCount) (.app {
    code := "BULK_INPUT_EMPTY"
    message := "대량 입력에는 하나 이상의 행이 필요합니다."
    statusCode := 422 })
  require (entitledLimit.all ((rowCount : Int) ≤ ·)) (.app {
    code := "BULK_ROW_ENTITLEMENT_EXCEEDED"
    message := "입력 행 수가 고정된 플랜 한도를 초과했습니다."
    statusCode := 402
    remediation := some [("row_count", .amount rowCount),
      ("entitled_limit", .amount (entitledLimit.getD 0))] })

/-- `int(entitled_limit_raw) if entitled_limit_raw is not None else None`. -/
def entitledLimit : PolicyValue → Except Failure (Option Int)
  | .null => .ok none
  | value =>
    match readers.integer value with
    | some limit => .ok (some limit)
    | none => .error .validationError

def requiredPositiveEntitlement (values : PolicyFields) (key : String) : Except Failure Int :=
  let parsed := match values.get key with
    | .bool _ => none
    | value => readers.integer value
  match parsed with
  | some limit => if limit < 1 then .error incomplete else .ok limit
  | none => .error incomplete
where
  incomplete : Failure := .app {
    code := "BULK_ENTITLEMENT_INCOMPLETE"
    message := "대량 작업 플랜 한도를 확인할 수 없습니다."
    statusCode := 503
    fields := [⟨"entitlements." ++ key, "required positive integer"⟩] }

def newBulkJob (env : BulkRequestEnv) (data : BulkJobCreate) (basis : BulkBasis) (holdId : Uuid)
    (authorizedCost : ℚ) : BulkJob where
  id := env.jobId
  requestedBy := env.principal.subjectId
  operation := data.operation
  state := .queued
  idempotencyKey := data.idempotencyKey
  requestHash := readers.requestHash data
  inputSnapshotHash := basis.input.contentHash
  mappingSnapshot := basis.mapping
  mappingSnapshotHash := readers.mappingHash basis.mapping
  spamPolicy := basis.spamPolicy
  dryRun := data.dryRun
  sampleSize := data.sampleSize
  totalRows := basis.input.rowCount
  estimatedCost := storedNumeric data.estimatedCost
  maximumCost := storedNumeric data.maximumCost
  authorizedCost := storedNumeric authorizedCost
  currency := readers.upper data.currency
  budgetReservationRef := some holdId
  maxRowAttempts := data.maxRowAttempts

/-- The limits of the plan that a reservation comes with. -/
def checkEntitlements (basis : BulkBasis) (authorization : BudgetAuthorization) : Except Failure Unit := do
  let limit ← entitledLimit readers (authorization.entitlements.get "max_rows_per_bulk_job")
  validateRowCapacity basis.input.rowCount limit
  let _ ← requiredPositiveEntitlement readers authorization.entitlements "max_bulk_concurrency"
  let _ ← requiredPositiveEntitlement readers authorization.entitlements "max_bulk_daily_rows"
  .ok ()

def recordedJob (requestedBy : Uuid) (data : BulkJobCreate) (jobs : List BulkJob) : Option BulkJob :=
  jobs.find? fun job => job.requestedBy = requestedBy ∧ job.operation = data.operation ∧
    job.idempotencyKey = data.idempotencyKey

def insertJob (job : BulkJob) (jobs : List BulkJob) : Except Failure (List BulkJob) :=
  if jobs.any (·.id = job.id) then .error (.integrity "bulk_job_workspace_id")
  else if job.maximumCost ≤ 0 then .error (.integrity "bulk_job_max_cost_positive")
  else if !(numericFits job.maximumCost && numericFits job.authorizedCost) then
    .error (.integrity "numeric")
  else .ok (jobs ++ [job])

/-- A request that is not a replay. -/
def createNewJob (catalogue : BulkCatalogue) (env : BulkRequestEnv) (data : BulkJobCreate)
    (s : BulkStore) : Except Failure (BulkJob × BulkStore) := do
  let basis ← bulkBasis catalogue env.principal data
  let ((hold, authorization), books) ← reserve readers.policy env.policyRows env.ctx env.now
    (bulkBudgetRequest readers data) s.books
  require (data.estimatedCost ≤ authorization.authorizedCost) (.app {
    code := "BULK_BUDGET_EXCEEDED"
    message := "대량 작업 비용 Hold가 부족합니다."
    statusCode := 402 })
  checkEntitlements readers basis authorization
  let job := newBulkJob readers env data basis hold.id authorization.authorizedCost
  let jobs ← insertJob job s.jobs
  .ok (job, ⟨jobs, books⟩)

def createJob (catalogue : BulkCatalogue) (env : BulkRequestEnv) (data : BulkJobCreate)
    (s : BulkStore) : Except Failure (BulkJob × BulkStore) :=
  match recordedJob env.principal.subjectId data s.jobs with
  | some existing =>
    if existing.requestHash ≠ readers.requestHash data then
      .error (bulkConflict "IDEMPOTENCY_KEY_REUSED" "같은 멱등키가 다른 대량 작업 요청에 사용되었습니다.")
    else .ok (existing, s)
  | none => createNewJob readers catalogue env data s

theorem storedNumeric_mono {value other : ℚ} (hnonneg : 0 ≤ value) (hle : value ≤ other) :
    storedNumeric value ≤ storedNumeric other := by
  unfold storedNumeric
  rw [if_pos hnonneg, if_pos (hnonneg.trans hle)]
  apply Int.floor_le_floor
  linarith

theorem storedNumeric_nonneg {value : ℚ} (hnonneg : 0 ≤ value) : 0 ≤ storedNumeric value := by
  unfold storedNumeric
  rw [if_pos hnonneg]
  apply Int.floor_nonneg.mpr
  linarith

/-- A job as `create_job` leaves it, with no rows yet. -/
def created (s : BulkSession) : Prop :=
  ∃ readers env data basis holdId authorizedCost, data.maximumCost ≤ authorizedCost ∧
    s = { job := newBulkJob readers env data basis holdId authorizedCost } ∧
    0 < s.job.maximumCost

section

variable {readers : BulkReaders} {catalogue : BulkCatalogue} {env : BulkRequestEnv}
    {data : BulkJobCreate} {s after : BulkStore} {job : BulkJob}
    (h : createNewJob readers catalogue env data s = .ok (job, after))

include h

theorem createNewJob_ok :
    ∃ basis hold authorization books, bulkBasis catalogue env.principal data = .ok basis ∧
      reserve readers.policy env.policyRows env.ctx env.now (bulkBudgetRequest readers data)
        s.books = .ok ((hold, authorization), books) ∧
      checkEntitlements readers basis authorization = .ok () ∧
      job = newBulkJob readers env data basis hold.id authorization.authorizedCost ∧
      0 < job.maximumCost ∧ after = ⟨s.jobs ++ [job], books⟩ := by
  obtain ⟨basis, hbasis, h⟩ := bind_ok h
  obtain ⟨⟨⟨hold, authorization⟩, books⟩, hreserve, h⟩ := bind_ok h
  obtain ⟨_, _, h⟩ := bind_ok h
  obtain ⟨_, hentitled, h⟩ := bind_ok h
  obtain ⟨jobs, hjobs, h⟩ := bind_ok h
  unfold insertJob at hjobs
  split_ifs at hjobs with _ hmaximum
  cases hjobs
  cases h
  exact ⟨basis, hold, authorization, books, hbasis, hreserve, hentitled, rfl, not_le.mp hmaximum, rfl⟩

theorem created_of_createNewJob : created { job := job } := by
  obtain ⟨basis, hold, authorization, books, -, hreserve, -, rfl, hpos, -⟩ := createNewJob_ok h
  obtain ⟨-, _, hdata, -⟩ := reserve_ok hreserve
  obtain ⟨_, _, hdata⟩ := bind_ok hdata
  obtain ⟨_, hmaximum, -⟩ := bind_ok hdata
  have hmaximum := require_ok hmaximum
  refine ⟨readers, env, data, basis, hold.id, authorization.authorizedCost, ?_, rfl, hpos⟩
  simpa [bulkBudgetRequest, DecimalValue.atMost] using hmaximum

end

def sampleBulkReaders : BulkReaders where
  policy := samplePolicyReaders
  requestHash data := data.idempotencyKey
  mappingHash _ := "mapping"
  integer
    | .int value => some value
    | _ => none
  upper text := text

def sampleBulkEnv : BulkRequestEnv where
  principal := { subjectId := 5 }
  now := 9
  policyRows := samplePolicyRows
  ctx := budgetContextAt 10
  jobId := 100

/-- Ten units of estimate, against a maximum that is given. -/
def sampleBulkCreate (maximumCost : ℕ) (h : 10 ≤ maximumCost) : BulkJobCreate where
  campaignId := 1
  inputFileId := 2
  mappingId := 3
  templateVersionId := 4
  estimatedCost := 10
  maximumCost := maximumCost
  currency := "KRW"
  idempotencyKey := "bulk-key"
  estimated_nonneg := by norm_num
  maximum_pos := by exact_mod_cast lt_of_lt_of_le (by norm_num) h
  estimated_le := by exact_mod_cast h
  sample_pos := rfl
  dry_run_sample h := absurd h (by decide)
  attempts_range := by decide

def sampleBasis (rowCount : Nat) : BulkBasis where
  input := {
    id := 2, headers := ["topic"], malwareScanStatus := "CLEAN", contentHash := "csv"
    rowCount := rowCount }
  mapping := sampleMapping
  spamPolicy := {
    maximumSimilarity := 1, minimumValue := 0, similarity_range := by norm_num
    value_range := by norm_num }

def sampleSession (rowCount maximumCost : ℕ) (h : 10 ≤ maximumCost) : BulkSession where
  job := newBulkJob sampleBulkReaders sampleBulkEnv (sampleBulkCreate maximumCost h)
    (sampleBasis rowCount) 1000 maximumCost

theorem created_sampleSession (rowCount maximumCost : ℕ) (h : 10 ≤ maximumCost) :
    created (sampleSession rowCount maximumCost h) := by
  refine ⟨sampleBulkReaders, sampleBulkEnv, sampleBulkCreate maximumCost h, sampleBasis rowCount,
    1000, maximumCost, le_rfl, rfl, ?_⟩
  have hlarge : (10 : ℚ) ≤ maximumCost := by exact_mod_cast h
  have hstored : storedNumeric 10 ≤ storedNumeric (maximumCost : ℚ) :=
    storedNumeric_mono (by norm_num) hlarge
  have hten : 0 < storedNumeric 10 := by decide +kernel
  exact hten.trans_le hstored

end BlogOps.Bulk
