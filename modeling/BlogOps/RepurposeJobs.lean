import BlogOps.EffectRules
import BlogOps.JobStates
import BlogOps.TerminalSettlements

/-!
# Repurposing jobs

`ApprovedModelRepurposeExecutor.execute` and the task `_run_job` around it, with the
commands on a job.  An exception of the executor is caught inside the transaction,
which keeps the variants that were recorded before it.
-/

namespace BlogOps.RepurposeJobs

open Billing EffectRules Jobs KeyedTables TransitionRuns

/-- A block of a document: its type as `str` makes it, and its canonical JSON. -/
structure DocumentBlock where
  blockType : String
  json : String
deriving DecidableEq, Repr

/-- A claim or a citation with the hash it is used under. -/
structure LineageEntry where
  id : String
  hash : String
deriving DecidableEq, Repr

/-- `actual_cost` of an output, any `Decimal`. -/
inductive OutputCost where
  | finite (value : ℚ)
  | infinite (negative : Bool)
  | nan
deriving DecidableEq

structure GeneratedVariant where
  document : List DocumentBlock
  plainText : String
  claimLineage : List LineageEntry
  citationLineage : List LineageEntry
  disclosureResult : PolicyFields
  safetyResult : PolicyFields
  piiResult : PolicyFields
  modelProvenance : List (String × String)
  rawObjectRef : Option String
  rawResponseHash : String
  actualCost : OutputCost

/-- The constraints of a platform policy; phrases and sections that are no list are `none`. -/
structure PlatformConstraints where
  maxCharacters : PolicyValue := .null
  minCharacters : PolicyValue := .null
  requiredPhrases : Option (List String) := some []
  requiredSections : Option (List String) := some []

structure RepurposeInputSnapshot where
  id : Uuid
  sourceContentHash : String
  templateContentHash : String
  claims : List LineageEntry
  citations : List LineageEntry
  constraints : PlatformConstraints

structure RepurposeJobItem where
  id : Uuid
  snapshot : RepurposeInputSnapshot
  variantCount : Nat
  state : StepState := .pending

/-- A recorded output.  Its cost is no column of the row; it is the one of the call that added
the row. -/
structure RepurposeVariant where
  jobItemId : Uuid
  snapshotId : Uuid
  variantNo : Nat
  generated : GeneratedVariant
  cost : ℚ
  resultHash : String

structure RepurposeJob where
  id : Uuid
  requestedBy : Uuid
  state : JobState := .queued
  budgetCurrency : String
  reservedCost : ℚ
  actualCost : ℚ := 0
  budgetReservationRef : Option Uuid
  modelProvider : String
  modelName : String
  modelVersion : String
  modelConfigHash : String
  /-- The keys of `request_snapshot`. -/
  requestKeys : List String
  attempt : Nat := 0
  errorCode : Option String := none
  errorDetail : Option String := none
deriving DecidableEq

inductive RepurposeCommandKind where
  | cancel | retry
deriving DecidableEq, Repr

structure RepurposeJobCommand where
  actorId : Uuid
  command : RepurposeCommandKind
  idempotencyKey : String
  requestHash : String
  fromState : JobState
  toState : JobState
  reason : Option String
deriving DecidableEq, Repr

/-- A job with its rows and the credits of its workspace, as a session holds them. -/
structure RepurposeSession where
  job : RepurposeJob
  items : List RepurposeJobItem
  variants : List RepurposeVariant := []
  commands : List RepurposeJobCommand := []
  books : MeteredBooks
  /-- A flush failed, and the session refuses every further query. -/
  broken : Bool := false

abbrev RepurposeM := EStateM Failure RepurposeSession

/-- `canonical_json_hash` of a result, `none` where it raises, and `repr` of a text. -/
class ResultHashes where
  resultHash : RepurposeInputSnapshot → GeneratedVariant → Option String
  textRepr : String → String

/-- What the database takes, as far as the columns decide it. -/
structure RepurposeDatabase where
  takesVariant : RepurposeVariant → Bool
  takesFailure : (code detail : String) → Bool

/-- The gateway that the registry has for the model, if there is one, and its answers. -/
structure RepurposeExecutor where
  generate : Option (RepurposeJobItem → Except Failure (List GeneratedVariant))

structure RepurposeDelivery where
  ctx : CallContext
  occurredAt : Int
  database : RepurposeDatabase
  executor : Option RepurposeExecutor

def unprocessable (code message : String) : Failure :=
  .app { code := code, message := message, statusCode := 422 }

def conflict (code message : String) : Failure :=
  .app { code := code, message := message, statusCode := 409 }

def ofOption {α : Type} (failure : Failure) : Option α → Except Failure α
  | some a => .ok a
  | none => .error failure

/-- Every entry is allowed, under its own hash. -/
def validateLineage (unsupported : Failure) (allowed lineage : List LineageEntry) : Except Failure Unit :=
  require (∀ entry ∈ lineage, entry.id ≠ "" ∧
    (allowed.find? (·.id = entry.id)).map (·.hash) = some entry.hash) unsupported

def validateClaimLineage (snapshot : RepurposeInputSnapshot) (lineage : List LineageEntry) :
    Except Failure Unit :=
  validateLineage (unprocessable "UNSUPPORTED_REPURPOSE_CLAIM"
    "원문 스냅샷에 없는 주장이나 변경된 주장 해시는 사용할 수 없습니다.") snapshot.claims lineage

def validateCitationLineage (snapshot : RepurposeInputSnapshot) (lineage : List LineageEntry) :
    Except Failure Unit :=
  validateLineage (unprocessable "UNSUPPORTED_REPURPOSE_CITATION"
    "원문 스냅샷에 없는 인용이나 변경된 증거 해시는 사용할 수 없습니다.") snapshot.citations lineage

def expectedModel (job : RepurposeJob) : List (String × String) :=
  [("provider", job.modelProvider), ("model", job.modelName),
    ("model_version", job.modelVersion), ("model_config_hash", job.modelConfigHash)]

def validateProvenance (job : RepurposeJob) (provenance : List (String × String)) : Except Failure Unit :=
  require (∀ expected ∈ expectedModel job, (provenance.lookup expected.1).getD "" = expected.2)
    (unprocessable "REPURPOSE_MODEL_PROVENANCE_MISMATCH" "결과 모델 출처가 작업에 고정된 공급자·모델·버전과 다릅니다.")

inductive VariantViolation where
  | maxCharacters (actual limit : Nat)
  | minCharacters (actual limit : Nat)
  | requiredPhrase (value : String)
  | requiredSection (value : String)
  | blocked (name : String)
deriving DecidableEq, Repr

def policyInteger (value : PolicyValue) (field : String) : Except Failure Nat :=
  match value with
  | .int (.ofNat n) => .ok n
  | _ => .error (.app {
      code := "PLATFORM_POLICY_INVALID"
      message := "플랫폼 제약의 문자 수 값이 올바르지 않습니다."
      statusCode := 422
      fields := [⟨"constraints." ++ field, "nonnegative integer"⟩] })

/-- A limit that the policy sets, if any. -/
def characterLimit (value : PolicyValue) (field : String) : Except Failure (Option Nat) :=
  match value with
  | .null => .ok none
  | value => (policyInteger value field).map some

def passed (result : PolicyFields) : Bool :=
  match result.get "passed" with
  | .bool true => true
  | _ => false

/-- The violations of `validate_variant`; an empty list is a passed validation. -/
def validateVariant (constraints : PlatformConstraints) (generated : GeneratedVariant) :
    Except Failure (List VariantViolation) := do
  let length := generated.plainText.length
  let maximum ← characterLimit constraints.maxCharacters "max_characters"
  let minimum ← characterLimit constraints.minCharacters "min_characters"
  let phrases ← ofOption .validationError constraints.requiredPhrases
  let sections ← ofOption .validationError constraints.requiredSections
  let checks := [("DISCLOSURE", generated.disclosureResult), ("SAFETY", generated.safetyResult),
    ("PII", generated.piiResult)]
  .ok (((maximum.filter (· < length)).toList.map (.maxCharacters length)) ++
    ((minimum.filter (length < ·)).toList.map (.minCharacters length)) ++
    ((phrases.filter fun phrase => ¬ phrase.toList <:+: generated.plainText.toList).map .requiredPhrase) ++
    ((sections.filter fun name => name ∉ generated.document.map (·.blockType)).map .requiredSection) ++
    ((checks.filter fun check => !passed check.2).map fun check => .blocked check.1))

def budgetExceeded : Failure := .app {
  code := "REPURPOSE_BUDGET_EXCEEDED"
  message := "리퍼포징 실제 비용이 예약 예산을 초과했습니다."
  statusCode := 402 }

/-- A comparison with a NaN raises. -/
def chargeableCost (job : RepurposeJob) : OutputCost → Except Failure ℚ
  | .nan => .error .decimalError
  | .infinite _ => .error budgetExceeded
  | .finite value =>
    (require (0 ≤ value ∧ job.actualCost + value ≤ job.reservedCost) budgetExceeded).map fun _ => value

def completedJobStates : List JobState := [.succeeded, .cancelled, .finalFailed, .retryableFailed]

/-- `_finalize_cancelled_job`, which only meets a job whose cancellation was requested. -/
def cancelJob (s : RepurposeSession) : RepurposeSession :=
  { s with
    job := { s.job with
      state := .cancelled
      errorCode := none
      errorDetail := none }
    items := s.items.map fun item =>
      if item.state = .succeeded then item else { item with state := .cancelled } }

def finalizeCancellation : RepurposeM Unit := do
  let s ← get
  if s.job.state = .cancelRequested then modify cancelJob

def RepurposeJobItem.start (item : RepurposeJobItem) : RepurposeJobItem :=
  if item.state = .pending then { item with state := .running } else item

def startJob (s : RepurposeSession) : RepurposeSession :=
  { s with
    job := { s.job with
      state := .generating
      attempt := s.job.attempt + 1 }
    items := s.items.map RepurposeJobItem.start }

def markGenerating : RepurposeM Unit := do
  let s ← get
  if s.job.state = .cancelRequested then modify cancelJob
  else if s.job.state = .queued then modify startJob

def RepurposeJobItem.fail (item : RepurposeJobItem) : RepurposeJobItem :=
  if item.state ∈ [StepState.succeeded, .cancelled] then item else { item with state := .failed }

def failJob (code detail : String) (retryable : Bool) (s : RepurposeSession) : RepurposeSession :=
  { s with
    job := { s.job with
      state := if retryable then .retryableFailed else .finalFailed
      errorCode := some code
      errorDetail := some detail }
    items := s.items.map RepurposeJobItem.fail }

variable (d : RepurposeDelivery)

def failRuntime (code detail : String) (retryable : Bool) : RepurposeM Unit := do
  let s ← get
  if s.broken then throw (.integrity "PendingRollbackError")
  else if s.job.state = .cancelRequested then modify cancelJob
  else if s.job.state ∈ completedJobStates then pure ()
  else if d.database.takesFailure code detail then modify (failJob code detail retryable)
  else throw (.integrity "repurpose_jobs")

def isRetryableRuntimeError : Failure → Bool
  | .app error => error.statusCode ∈ [408, 425, 429] || 500 ≤ error.statusCode
  | _ => true

def failureCode : Failure → String
  | .app error => error.code
  | _ => "REPURPOSE_MODEL_FAILED"

/-- `exc.message`, or the name of the class of the exception. -/
def failureDetail : Failure → String
  | .app error => error.message
  | .integrity _ => "IntegrityError"
  | .keyError => "KeyError"
  | .assertionError => "AssertionError"
  | .validationError => "ValueError"
  | .decimalError => "InvalidOperation"
  | .valueError => "ValueError"

def recordFailure (failure : Failure) : RepurposeM Unit :=
  failRuntime d (failureCode failure) (failureDetail failure) (isRetryableRuntimeError failure)

def recordMissingRuntime : RepurposeM Unit := failRuntime d "REPURPOSE_RUNTIME_UNAVAILABLE"
    "approved repurposing model runtime is not configured" true

structure CommandCall where
  actorId : Uuid
  command : RepurposeCommandKind
  reason : Option String
  requestHash : String
  idempotencyKey : String

def commandTarget : RepurposeCommandKind → JobState
  | .cancel => .cancelRequested
  | .retry => .queued

/-- `_reset_items_for_retry`. -/
def RepurposeJobItem.reset (item : RepurposeJobItem) : RepurposeJobItem :=
  if item.state = .succeeded then item else { item with state := .pending }

def moveJob (target : JobState) (s : RepurposeSession) : RepurposeSession :=
  if target = .queued then
    { s with
      job := { s.job with
        state := target
        errorCode := none
        errorDetail := none }
      items := s.items.map RepurposeJobItem.reset }
  else { s with job := { s.job with state := target } }

def idempotencyKeyReused : Failure := conflict "IDEMPOTENCY_KEY_REUSED" "같은 멱등 키를 다른 리퍼포징 요청에 재사용할 수 없습니다."

def commandRow (current : JobState) (call : CommandCall) : RepurposeJobCommand where
  actorId := call.actorId
  command := call.command
  idempotencyKey := call.idempotencyKey
  requestHash := call.requestHash
  fromState := current
  toState := commandTarget call.command
  reason := call.reason

def commandJob (s : RepurposeSession) (call : CommandCall) : Except Failure RepurposeSession :=
  match s.commands.find? (fun row => row.actorId = call.actorId ∧ row.command = call.command ∧
      row.idempotencyKey = call.idempotencyKey) with
  | some existing => do
      require (existing.requestHash = call.requestHash) idempotencyKeyReused
      .ok s
  | none => do
      (ensureJobTransition s.job.state (commandTarget call.command)).mapError .app
      .ok { moveJob (commandTarget call.command) s with
        commands := s.commands ++ [commandRow s.job.state call] }

def successSettlementStates : List JobState := [.waitingReview, .succeeded]

def releaseSettlementStates : List JobState := [.finalFailed, .cancelled, .expired]

def allSucceeded (items : List RepurposeJobItem) : Bool :=
  !items.isEmpty && items.all fun item => item.state = .succeeded

def costSettlementState (state : JobState) (items : List RepurposeJobItem) : JobState :=
  if state = .succeeded then .waitingReview
  else if state ∉ [JobState.cancelled, .expired] then state
  else if allSucceeded items then .waitingReview
  else state

/-- A decimal of at most six places, as the quantity of a usage record. -/
def meteredQuantity (cost : ℚ) : Option Int :=
  if (cost * 10 ^ 6).den = 1 then some (cost * 10 ^ 6).num else none

def settlementReason (job : RepurposeJob) (state : JobState) : String :=
  match job.errorCode with
  | some code => if code = "" then "REPURPOSE_" ++ state.value else code
  | none => "REPURPOSE_" ++ state.value

/-- What the gateway is told when the job is settled in a state. -/
def terminalEvent (job : RepurposeJob) (state : JobState) (quantity : Int) : TerminalEvent where
  completionEventId := "repurpose-job:" ++ toString job.id ++ ":" ++ state.value
  subjectType := "repurpose_job"
  actualCost := quantity
  currency := job.budgetCurrency
  failureClass := if state ∈ successSettlementStates then none else some state.value
  reasonCode := if state ∈ successSettlementStates then none else some (settlementReason job state)

def reservationMissing : Failure := conflict "REPURPOSE_BUDGET_RESERVATION_MISSING"
  "비용 Hold 참조가 없어 리퍼포징 작업을 종료하지 않았습니다."

/-- The settlement of a job in the state that its costs are settled in; a cost that is finer than
a usage record is refused by its schema. -/
def settleCost (job : RepurposeJob) (state : JobState) (books : MeteredBooks) :
    Except Failure MeteredBooks := do
  let holdId ← ofOption reservationMissing job.budgetReservationRef
  let quantity ← ofOption .validationError (meteredQuantity job.actualCost)
  let settled ← settleJob d.ctx holdId d.occurredAt (terminalEvent job state quantity) books
  .ok settled.2

def settledBooks (s : RepurposeSession) : Except Failure MeteredBooks :=
  if s.job.state ∉ successSettlementStates ++ releaseSettlementStates then .ok s.books
  else settleCost d s.job (costSettlementState s.job.state s.items) s.books

def liftResult {α : Type} : Except Failure α → RepurposeM α
  | .ok a => pure a
  | .error failure => throw failure

def settleTerminal : RepurposeM Unit := do
  let s ← get
  let books ← liftResult (settledBooks d s)
  modify fun s => { s with books := books }

/-- `complete_job`. -/
def completedState (items : List RepurposeJobItem) : JobState :=
  if allSucceeded items then .waitingReview
  else if items.any fun item => item.state = .succeeded then .partialSuccess
  else .finalFailed

def completeJob : RepurposeM Unit := do
  let s ← get
  if s.job.state = .cancelRequested then modify cancelJob
  else modify fun s => { s with job := { s.job with state := completedState s.items } }

section Outputs

variable [ResultHashes]

open ResultHashes

/-- `str` of the dictionary of a violation. -/
def VariantViolation.reason : VariantViolation → String
  | .maxCharacters actual limit => "\x7b'code': 'MAX_CHARACTERS', 'actual': " ++ toString actual ++
      ", 'limit': " ++ toString limit ++ "\x7d"
  | .minCharacters actual limit => "\x7b'code': 'MIN_CHARACTERS', 'actual': " ++ toString actual ++
      ", 'limit': " ++ toString limit ++ "\x7d"
  | .requiredPhrase value =>
      "\x7b'code': 'REQUIRED_PHRASE', 'value': " ++ textRepr value ++ "\x7d"
  | .requiredSection value =>
      "\x7b'code': 'REQUIRED_SECTION', 'value': " ++ textRepr value ++ "\x7d"
  | .blocked name => "\x7b'code': '" ++ name ++ "_BLOCKED'\x7d"

def requirePassedValidation (violations : List VariantViolation) : Except Failure Unit :=
  require (violations.isEmpty) (.app {
    code := "REPURPOSE_POLICY_BLOCKED"
    message := "플랫폼·공개·안전·개인정보 정책 검증을 통과하지 못했습니다."
    statusCode := 422
    fields := violations.map fun violation => ⟨"variant", violation.reason⟩ })

def variantNoInvalid : Failure := unprocessable "REPURPOSE_VARIANT_NO_INVALID" "변형 번호가 범위를 벗어났습니다."

/-- The checks of `record_variant` on an output, up to its hash. -/
def checkOutput (job : RepurposeJob) (item : RepurposeJobItem) (variantNo : Nat)
    (generated : GeneratedVariant) : Except Failure Unit := do
  require (1 ≤ variantNo ∧ variantNo ≤ item.variantCount) variantNoInvalid
  validateClaimLineage item.snapshot generated.claimLineage
  validateCitationLineage item.snapshot generated.citationLineage
  validateProvenance job generated.modelProvenance
  let violations ← validateVariant item.snapshot.constraints generated
  requirePassedValidation violations

def variantConflict : Failure := conflict "REPURPOSE_VARIANT_IDEMPOTENCY_CONFLICT"
  "같은 작업 변형 번호에 다른 결과를 기록할 수 없습니다."

def variantRow (item : RepurposeJobItem) (variantNo : Nat) (generated : GeneratedVariant)
    (cost : ℚ) (hash : String) : RepurposeVariant where
  jobItemId := item.id
  snapshotId := item.snapshot.id
  variantNo := variantNo
  generated := generated
  cost := cost
  resultHash := hash

def itemVariants (itemId : Uuid) (variants : List RepurposeVariant) : List RepurposeVariant :=
  variants.filter (·.jobItemId = itemId)

def RepurposeJobItem.succeed (item : RepurposeJobItem) : RepurposeJobItem :=
  { item with state := .succeeded }

/-- The row with its cost; the last row of an item completes it. -/
def addVariant (item : RepurposeJobItem) (row : RepurposeVariant) (s : RepurposeSession) : RepurposeSession :=
  { s with
    job := { s.job with actualCost := s.job.actualCost + row.cost }
    variants := s.variants ++ [row]
    items :=
      if item.variantCount ≤ (itemVariants item.id (s.variants ++ [row])).length then
        updateRow (·.id) item.id RepurposeJobItem.succeed s.items
      else s.items }

variable (d : RepurposeDelivery)

/-- A flush that fails leaves the session unusable. -/
def insertVariant (item : RepurposeJobItem) (row : RepurposeVariant) : RepurposeM Unit :=
  if d.database.takesVariant row then modify (addVariant item row)
  else do
    modify ({ · with broken := true })
    throw (.integrity "repurpose_variants")

def recordVariant (item : RepurposeJobItem) (variantNo : Nat) (generated : GeneratedVariant) :
    RepurposeM Unit := do
  let s ← get
  liftResult (checkOutput s.job item variantNo generated)
  let hash ← liftResult (ofOption .validationError (resultHash item.snapshot generated))
  match (itemVariants item.id s.variants).find? (·.variantNo = variantNo) with
  | some existing => liftResult (require (existing.resultHash = hash) variantConflict)
  | none =>
    let cost ← liftResult (chargeableCost s.job generated.actualCost)
    insertVariant d item (variantRow item variantNo generated cost hash)

/-- The loop over the outputs of an item, numbered from `variantNo`. -/
def recordVariants (d : RepurposeDelivery) (item : RepurposeJobItem) :
    Nat → List GeneratedVariant → RepurposeM Unit
  | _, [] => pure ()
  | variantNo, generated :: rest => do
    recordVariant d item variantNo generated
    recordVariants d item (variantNo + 1) rest

def countMismatch : Failure := .app {
  code := "REPURPOSE_VARIANT_COUNT_MISMATCH"
  message := "모델이 요청된 수와 다른 변형 수를 반환했습니다."
  statusCode := 502 }

/-- What the gateway returns for an item, if it is as many outputs as were asked for. -/
def requestedOutputs (generate : RepurposeJobItem → Except Failure (List GeneratedVariant))
    (item : RepurposeJobItem) : Except Failure (List GeneratedVariant) := do
  let outputs ← generate item
  require (outputs.length = item.variantCount) countMismatch
  .ok outputs

/-- The gateway is asked with `job.request_snapshot["model_config"]`. -/
def executeItem (generate : RepurposeJobItem → Except Failure (List GeneratedVariant))
    (item : RepurposeJobItem) : RepurposeM Unit :=
  if item.state = .succeeded then pure ()
  else do
    let s ← get
    liftResult (require ("model_config" ∈ s.job.requestKeys) .keyError)
    let outputs ← liftResult (requestedOutputs generate item)
    recordVariants d item 1 outputs

def executeItems (d : RepurposeDelivery)
    (generate : RepurposeJobItem → Except Failure (List GeneratedVariant)) :
    List RepurposeJobItem → RepurposeM Unit
  | [] => pure ()
  | item :: rest => do
    executeItem d generate item
    executeItems d generate rest

def runtimeUnavailable : Failure := .app {
  code := "REPURPOSE_RUNTIME_UNAVAILABLE"
  message := "승인된 리퍼포징 모델 런타임이 구성되지 않았습니다."
  statusCode := 503 }

def execute (executor : RepurposeExecutor) : RepurposeM Unit := do
  let s ← get
  let generate ← liftResult (ofOption runtimeUnavailable executor.generate)
  executeItems d generate s.items

/-- The executor, whose failure is recorded in the session as it leaves it; afterwards a requested
cancellation is carried out, or the job is completed. -/
def attempt (executor : RepurposeExecutor) : RepurposeM Unit := do
  let executed ← tryCatch (execute d executor >>= fun _ => pure true) fun failure =>
    recordFailure d failure >>= fun _ => pure false
  if executed then
    finalizeCancellation
    let s ← get
    if s.job.state ≠ .cancelled then completeJob

def generateJob (executor : RepurposeExecutor) : RepurposeM Unit := do
  markGenerating
  let s ← get
  if s.job.state ≠ .cancelled then attempt d executor

/-- Every way through the task ends with the settlement of the job as it is then. -/
def runJob : RepurposeM Unit := do
  finalizeCancellation
  let s ← get
  if s.job.state = .queued then
    match d.executor with
    | none => recordMissingRuntime d
    | some executor => generateJob d executor
  settleTerminal d

/-- What a `Numeric(19, 4)` column stores of a cost that is not negative: the nearest multiple of
`0.0001`, ties rounded up. -/
def storedCost (cost : ℚ) : ℚ := ⌊cost * 10 ^ 4 + 1 / 2⌋ / 10 ^ 4

def RepurposeSession.commit (s : RepurposeSession) : RepurposeSession :=
  { s with job := { s.job with actualCost := storedCost s.job.actualCost } }

/-- One delivery: what leaves the task is rolled back. -/
def deliverJob (s : RepurposeSession) (d : RepurposeDelivery) : RepurposeSession :=
  match runJob d s with
  | .ok _ after => after.commit
  | .error _ _ => s

/-- What happens to a job and to the credits of its workspace. -/
inductive RepurposeAction where
  | deliver (d : RepurposeDelivery)
  | command (call : CommandCall)
  | credits (call : CallContext × CreditCall)
  | meter (ctx : CallContext) (data : UsageRecordCreate)

def stepJob (s : RepurposeSession) : RepurposeAction → RepurposeSession
  | .deliver d => deliverJob s d
  | .command call => ((commandJob s call).toOption).getD s
  | .credits call => { s with books := ⟨transact s.books.books call, s.books.usage⟩ }
  | .meter ctx data =>
    match recordUsage ctx data s.books.usage with
    | .ok (_, usage) => { s with books := ⟨s.books.books, usage⟩ }
    | .error _ => s

end Outputs

/-- A job that no delivery has met yet, whatever its request snapshot has. -/
structure NewJob (s : RepurposeSession) : Prop where
  state : s.job.state = .queued
  cost : s.job.actualCost = 0
  reserved : 0 ≤ s.job.reservedCost ∧ ∃ n : Int, s.job.reservedCost = n / 10 ^ 4
  items : s.items ≠ []
  keyed : Keyed (·.id) s.items
  pending : ∀ item ∈ s.items, item.state = .pending ∧ 0 < item.variantCount
  variants : s.variants = []
  usable : s.broken = false
  books : Reachable transact emptyBooks s.books.books

/-- The keys of `data.model_dump(mode="json")`, which names `generation_config` by its field and
not by the alias `model_config`. -/
def jobCreateKeys : List String := ["operation", "items", "model_provider", "model_name",
  "model_version", "generation_config", "estimated_cost", "budget_currency"]

/-- A job as `create_job` leaves it. -/
structure CreatedJob (s : RepurposeSession) : Prop extends NewJob s where
  keys : s.job.requestKeys = jobCreateKeys

end BlogOps.RepurposeJobs
