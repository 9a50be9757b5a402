import BlogOps.EffectRules
import BlogOps.JobStates
import BlogOps.TransitionRuns
import Mathlib.Data.Rat.Init

/-!
# Analytics syncs

`record_provider_result`, `fail_sync_runtime` and the task `_run_sync` around
them, with the commands on the run.  An exception of the executor is caught inside
the transaction, which keeps what was flushed or added before it.
-/

namespace BlogOps.Analytics

open EffectRules Jobs

inductive MetricSubject where
  | content | channel | query | production | quality | cost
deriving DecidableEq, Repr

def MetricSubject.value : MetricSubject → String
  | .content => "CONTENT"
  | .channel => "CHANNEL"
  | .query => "QUERY"
  | .production => "PRODUCTION"
  | .quality => "QUALITY"
  | .cost => "COST"

/-- A value of a dimension; `other` carries what `str` makes of it. -/
inductive DimensionValue where
  | null
  | text (value : String)
  | other (str : String)
deriving DecidableEq, Repr

def DimensionValue.str : DimensionValue → String
  | .null => "None"
  | .text value => value
  | .other str => str

abbrev Dimensions := List (String × DimensionValue)

/-- The readers and hashes of the service; a text that is no UUID and a value that cannot be hashed
are `none`. -/
class SyncReaders where
  uuid : String → Option Uuid
  dimensionsHash : Dimensions → Option String
  queryHash : String → String
  evidenceHash : (rawResponseHash externalFactId : String) → String
  callRequestHash : (runId : Uuid) → (adapterName apiVersion requestHash : String) → String

structure MetricDefinitionSnapshot where
  id : Uuid
  sourceField : String
  subject : MetricSubject
  valueKind : String
deriving DecidableEq, Repr

structure AnalyticsSyncInputSnapshot where
  provider : String
  officialContract : String
  apiVersion : String
  metricDefinitions : List MetricDefinitionSnapshot
  requestHash : String
deriving DecidableEq, Repr

structure AnalyticsFactValue where
  subject : String
  externalFactId : String
  metricField : String
  factDate : Int
  value : ℚ
  dimensions : Dimensions
  observedAt : Int
deriving DecidableEq

structure AnalyticsFetchResult where
  adapterName : String
  adapterVersion : String
  officialContract : String
  apiVersion : String
  facts : List AnalyticsFactValue
  rawResponseHash : String
  startedAt : Int
  completedAt : Int
deriving DecidableEq

structure AnalyticsProviderCall where
  id : Uuid
  syncRunId : Uuid
  provider : String
  adapterName : String
  adapterVersion : String
  apiVersion : String
  requestHash : String
  rawResponseHash : String
  rowCount : Nat
  startedAt : Int
  completedAt : Int
deriving DecidableEq, Repr

/-- The columns by which the three tables of daily facts differ. -/
inductive FactTarget where
  | content (contentId : Uuid) (publishedPostId : Option Uuid)
  | channel (connectionId : Uuid) (channel : String)
  | query (contentId : Option Uuid) (queryText queryHash : String)
deriving DecidableEq, Repr

def FactTarget.subject : FactTarget → MetricSubject
  | .content .. => .content
  | .channel .. => .channel
  | .query .. => .query

structure MetricDailyFact where
  metricDefinitionId : Uuid
  providerCallId : Uuid
  target : FactTarget
  factDate : Int
  source : String
  externalFactId : String
  dimensions : Dimensions
  dimensionsHash : String
  value : ℚ
  valueKind : String
  observedAt : Int
  retrievedAt : Int
  evidenceHash : String
deriving DecidableEq

def MetricDailyFact.key (row : MetricDailyFact) : MetricSubject × String × String :=
  (row.target.subject, row.source, row.externalFactId)

structure SyncResult where
  providerCallId : Uuid
  rawResponseHash : String
  rowCount : Nat
deriving DecidableEq, Repr

structure AnalyticsSyncRun where
  id : Uuid
  connectionId : Uuid
  state : JobState := .queued
  attempt : Nat := 0
  rowCount : Nat := 0
  finishedAt : Option Int := none
  errorCode : Option String := none
  errorDetail : Option String := none
  result : Option SyncResult := none
deriving DecidableEq, Repr

inductive AnalyticsConnectionState where
  | pending | active | degraded | expired | disconnected
deriving DecidableEq, Repr

structure AnalyticsConnection where
  state : AnalyticsConnectionState := .pending
  lastSyncedAt : Option Int := none
  lastErrorCode : Option String := none
deriving DecidableEq, Repr

inductive AnalyticsCommandKind where
  | cancel | retry
deriving DecidableEq, Repr

structure AnalyticsJobCommand where
  actorId : Uuid
  command : AnalyticsCommandKind
  idempotencyKey : String
  requestHash : String
  fromState : JobState
  toState : JobState
  reason : Option String
deriving DecidableEq, Repr

/-- A run with its rows, as a session holds them; `pending` facts are added and not flushed. -/
structure SyncSession where
  snapshot : AnalyticsSyncInputSnapshot
  run : AnalyticsSyncRun
  connection : AnalyticsConnection := {}
  calls : List AnalyticsProviderCall := []
  facts : List MetricDailyFact := []
  pending : List MetricDailyFact := []
  commands : List AnalyticsJobCommand := []
  /-- A flush failed, and the session refuses every further query. -/
  broken : Bool := false

abbrev SyncM := EStateM Failure SyncSession

/-- What the database takes, as far as the rows of other runs and the columns decide it. -/
structure SyncDatabase where
  takesCall : AnalyticsProviderCall → Bool
  takesFact : MetricDailyFact → Bool

/-- The adapter of the provider has this contract, if there is one; credentials and the fetch may
raise. -/
structure SyncExecutor where
  adapterContract : Option String
  credentials : Except Failure Unit
  fetch : Except Failure AnalyticsFetchResult
  callId : Uuid

structure SyncDelivery where
  now : Int
  database : SyncDatabase
  executor : Option SyncExecutor

def unprocessable (code message : String) : Failure :=
  .app { code := code, message := message, statusCode := 422 }

def conflict (code message : String) : Failure :=
  .app { code := code, message := message, statusCode := 409 }

def undeclaredMetric : Failure := unprocessable "ANALYTICS_UNDECLARED_METRIC" "스냅샷에 없는 공급자 지표가 반환되었습니다."

def subjectMismatch : Failure := unprocessable "ANALYTICS_FACT_SUBJECT_MISMATCH" "공급자 사실 주체가 고정된 지표 정의와 다릅니다."

def subjectInvalid : Failure := unprocessable "ANALYTICS_FACT_SUBJECT_INVALID"
  "공식 공급자 fact 주체가 날짜별 fact 테이블과 맞지 않습니다."

/-- The exceptions of the interpreter: a missing key, and a value that cannot be read. -/
def ofOption {α : Type} (failure : Failure) : Option α → Except Failure α
  | some a => .ok a
  | none => .error failure

def liftResult {α : Type} : Except Failure α → SyncM α
  | .ok a => pure a
  | .error failure => throw failure

variable (database : SyncDatabase)

/-- The pending facts can be stored. -/
def storable (s : SyncSession) : Bool :=
  s.pending.all database.takesFact && decide ((s.facts ++ s.pending).map MetricDailyFact.key).Nodup

def SyncSession.store (s : SyncSession) : SyncSession :=
  { s with
    facts := s.facts ++ s.pending
    pending := [] }

/-- A flush that fails leaves the session unusable. -/
def flushSync : SyncM Unit := do
  let s ← get
  if storable database s then modify SyncSession.store
  else
    modify ({ · with broken := true })
    throw (.integrity "analytics_daily_facts")

variable (call : AnalyticsProviderCall)

/-- The database takes the call, and the run has none with its request hash. -/
def insertable (s : SyncSession) : Bool :=
  database.takesCall call && s.calls.all fun other =>
    other.id ≠ call.id && other.requestHash ≠ call.requestHash

def addCall : SyncM Unit := do
  let s ← get
  if insertable database call s then modify fun s => { s with calls := s.calls ++ [call] }
  else
    modify ({ · with broken := true })
    throw (.integrity "analytics_call_request")

def completedAttemptStates : List JobState := [.succeeded, .retryableFailed, .finalFailed, .cancelled]

/-- `_finalize_cancelled_run`, which only meets a run whose cancellation was requested. -/
def AnalyticsSyncRun.cancel (now : Int) (run : AnalyticsSyncRun) : AnalyticsSyncRun :=
  { run with
    state := .cancelled
    errorCode := none
    errorDetail := none
    finishedAt := some now }

def cancelRun (now : Int) (s : SyncSession) : SyncSession := { s with run := s.run.cancel now }

variable (d : SyncDelivery)

def finalizeSyncCancellation : SyncM Unit := do
  let s ← get
  if s.run.state = .cancelRequested then
    modify (cancelRun d.now)
    flushSync d.database

def contractMismatch : Failure := unprocessable "ANALYTICS_OFFICIAL_CONTRACT_MISMATCH"
  "공급자 응답의 공식 계약 또는 API 버전이 입력 스냅샷과 다릅니다."

def adapterMismatch : Failure := unprocessable "ANALYTICS_OFFICIAL_CONTRACT_MISMATCH"
  "공식 분석 어댑터 계약이 연결 스냅샷과 다릅니다."

def resultConflict : Failure := conflict "ANALYTICS_SYNC_RESULT_CONFLICT" "완료된 동기화 작업에 다른 공급자 결과를 기록할 수 없습니다."

def runtimeUnavailable (provider : String) : Failure := .app {
  code := "ANALYTICS_RUNTIME_UNAVAILABLE"
  message := "공식 분석 어댑터가 구성되지 않았습니다: " ++ provider
  statusCode := 503 }

def failRun (code detail : String) (retryable : Bool) (s : SyncSession) : SyncSession :=
  { s with run := { s.run with
      state := if retryable then .retryableFailed else .finalFailed
      errorCode := some code
      errorDetail := some detail
      finishedAt := some d.now } }

def failSyncRuntime (code detail : String) (retryable : Bool) : SyncM Unit := do
  let s ← get
  if s.broken then throw (.integrity "PendingRollbackError")
  else if s.run.state = .cancelRequested then
    modify (cancelRun d.now)
    flushSync d.database
  else if s.run.state ∈ completedAttemptStates then pure ()
  else
    modify (failRun d code detail retryable)
    flushSync d.database

def isRetryableRuntimeError : Failure → Bool
  | .app error => error.statusCode ∈ [408, 425, 429] || 500 ≤ error.statusCode
  | _ => true

def failureCode : Failure → String
  | .app error => error.code
  | _ => "ANALYTICS_PROVIDER_FAILED"

/-- `exc.message`, or the name of the class of the exception. -/
def failureDetail : Failure → String
  | .app error => error.message
  | .integrity _ => "IntegrityError"
  | .keyError => "KeyError"
  | .assertionError => "AssertionError"
  | .validationError => "ValueError"
  | .decimalError => "DecimalException"
  | .valueError => "ValueError"

def recordFailure (failure : Failure) : SyncM Unit :=
  failSyncRuntime d (failureCode failure) (failureDetail failure) (isRetryableRuntimeError failure)

def recordMissingRuntime : SyncM Unit := failSyncRuntime d "ANALYTICS_RUNTIME_UNAVAILABLE"
    "official analytics adapter runtime is not configured" true

structure CommandCall where
  actorId : Uuid
  command : AnalyticsCommandKind
  reason : Option String
  requestHash : String
  idempotencyKey : String

def commandTarget : AnalyticsCommandKind → JobState
  | .cancel => .cancelRequested
  | .retry => .queued

def AnalyticsSyncRun.move (target : JobState) (run : AnalyticsSyncRun) : AnalyticsSyncRun :=
  if target = .queued then
    { run with
      state := target
      errorCode := none
      errorDetail := none
      finishedAt := none
      attempt := run.attempt + 1 }
  else { run with state := target }

def idempotencyKeyReused : Failure := conflict "IDEMPOTENCY_KEY_REUSED" "같은 멱등 키를 다른 분석 요청에 재사용할 수 없습니다."

def commandSync (s : SyncSession) (call : CommandCall) : Except Failure SyncSession :=
  match s.commands.find? (fun row => row.actorId = call.actorId ∧ row.command = call.command ∧
      row.idempotencyKey = call.idempotencyKey) with
  | some existing => do
      require (existing.requestHash = call.requestHash) idempotencyKeyReused
      .ok s
  | none => do
      let target := commandTarget call.command
      (ensureJobTransition s.run.state target).mapError .app
      .ok { s with
        run := s.run.move target
        commands := s.commands ++ [{
          actorId := call.actorId
          command := call.command
          idempotencyKey := call.idempotencyKey
          requestHash := call.requestHash
          fromState := s.run.state
          toState := target
          reason := call.reason }] }

/-- What the adapter of the run returns. -/
def fetchResult (snapshot : AnalyticsSyncInputSnapshot) (executor : SyncExecutor) :
    Except Failure AnalyticsFetchResult := do
  let contract ← ofOption (runtimeUnavailable snapshot.provider) executor.adapterContract
  require (contract = snapshot.officialContract) adapterMismatch
  executor.credentials
  executor.fetch

def finishRun (result : AnalyticsFetchResult) (s : SyncSession) : SyncSession :=
  { s with
    run := { s.run with
      rowCount := result.facts.length
      result := some {
        providerCallId := call.id
        rawResponseHash := result.rawResponseHash
        rowCount := result.facts.length }
      state := .succeeded
      finishedAt := some result.completedAt }
    connection := {
      state := .active
      lastSyncedAt := some result.completedAt
      lastErrorCode := none } }

def checkContract (snapshot : AnalyticsSyncInputSnapshot) (result : AnalyticsFetchResult) :
    Except Failure Unit :=
  require (result.officialContract = snapshot.officialContract ∧
    result.apiVersion = snapshot.apiVersion) contractMismatch

section Facts

variable [SyncReaders]

open SyncReaders

def dimension (dimensions : Dimensions) (key : String) : Except Failure DimensionValue :=
  ofOption .keyError (dimensions.lookup key)

def readUuid (value : DimensionValue) : Except Failure Uuid :=
  ofOption .validationError (uuid value.str)

def optionalUuid : Option DimensionValue → Except Failure (Option Uuid)
  | none | some .null => .ok none
  | some value => (readUuid value).map some

def factTarget (connectionId : Uuid) (dimensions : Dimensions) : MetricSubject → Except Failure FactTarget
  | .content => do
      let contentId ← dimension dimensions "content_id" >>= readUuid
      let publishedPostId ← optionalUuid (dimensions.lookup "published_post_id")
      .ok (.content contentId publishedPostId)
  | .channel => do
      let channel ← dimension dimensions "channel"
      .ok (.channel connectionId channel.str)
  | .query => do
      let query ← dimension dimensions "query"
      let contentId ← optionalUuid (dimensions.lookup "content_id")
      .ok (.query contentId query.str (queryHash query.str))
  | .production | .quality | .cost => .error subjectInvalid

/-- `_append_provider_fact`, up to the row that it adds. -/
def providerFact (connectionId : Uuid) (call : AnalyticsProviderCall) (fact : AnalyticsFactValue)
    (definition : MetricDefinitionSnapshot) : Except Failure MetricDailyFact := do
  let dimensionsHash ← ofOption .validationError (dimensionsHash fact.dimensions)
  let target ← factTarget connectionId fact.dimensions definition.subject
  .ok {
    metricDefinitionId := definition.id
    providerCallId := call.id
    target := target
    factDate := fact.factDate
    source := call.provider
    externalFactId := fact.externalFactId
    dimensions := fact.dimensions
    dimensionsHash := dimensionsHash
    value := fact.value
    valueKind := definition.valueKind
    observedAt := fact.observedAt
    retrievedAt := call.completedAt
    evidenceHash := evidenceHash call.rawResponseHash fact.externalFactId }

/-- The last definition of a source field is the one that the dictionary keeps. -/
def AnalyticsSyncInputSnapshot.definitionOf (snapshot : AnalyticsSyncInputSnapshot)
    (field : String) : Option MetricDefinitionSnapshot :=
  snapshot.metricDefinitions.reverse.find? fun definition => definition.sourceField = field

/-- The row of a fact, if it passes the checks of the loop. -/
def checkFact (snapshot : AnalyticsSyncInputSnapshot) (connectionId : Uuid)
    (call : AnalyticsProviderCall) (fact : AnalyticsFactValue) : Except Failure MetricDailyFact := do
  let definition ← ofOption undeclaredMetric (snapshot.definitionOf fact.metricField)
  require (definition.subject.value = fact.subject) subjectMismatch
  providerFact connectionId call fact definition

variable (s : SyncSession)

def newCall (callId : Uuid) (result : AnalyticsFetchResult) : AnalyticsProviderCall where
  id := callId
  syncRunId := s.run.id
  provider := s.snapshot.provider
  adapterName := result.adapterName
  adapterVersion := result.adapterVersion
  apiVersion := result.apiVersion
  requestHash := callRequestHash s.run.id result.adapterName result.apiVersion s.snapshot.requestHash
  rawResponseHash := result.rawResponseHash
  rowCount := result.facts.length
  startedAt := result.startedAt
  completedAt := result.completedAt

/-- The loop over the facts: what passes is added, the first that does not raises. -/
def recordFacts (call : AnalyticsProviderCall) : List AnalyticsFactValue → SyncM Unit
  | [] => pure ()
  | fact :: rest => do
    let s ← get
    let row ← liftResult (checkFact s.snapshot s.run.connectionId call fact)
    modify fun s => { s with pending := s.pending ++ [row] }
    recordFacts call rest

variable (d : SyncDelivery)

def recordProviderResult (callId : Uuid) (result : AnalyticsFetchResult) : SyncM Unit := do
  let s ← get
  if s.run.state = .cancelRequested then
    modify (cancelRun d.now)
    flushSync d.database
  else if s.run.state = .succeeded then
    if s.run.result.any (fun recorded => recorded.rawResponseHash = result.rawResponseHash) then
      pure ()
    else throw resultConflict
  else
    liftResult (checkContract s.snapshot result)
    addCall d.database (newCall s callId result)
    recordFacts (newCall s callId result) result.facts
    modify (finishRun (newCall s callId result) result)
    flushSync d.database

def execute (executor : SyncExecutor) : SyncM Unit := do
  let s ← get
  let result ← liftResult (fetchResult s.snapshot executor)
  recordProviderResult d executor.callId result

/-- The executor, whose failure is recorded in the session as it leaves it; afterwards a requested
cancellation is carried out. -/
def attempt (executor : SyncExecutor) : SyncM Unit := do
  let recorded ← tryCatch (execute d executor >>= fun _ => pure true) fun failure =>
    recordFailure d failure >>= fun _ => pure false
  if recorded then finalizeSyncCancellation d

def runSync : SyncM Unit := do
  finalizeSyncCancellation d
  let s ← get
  if s.run.state ∈ completedAttemptStates then pure ()
  else
    match d.executor with
    | none => recordMissingRuntime d
    | some executor => attempt d executor

def Commits (d : SyncDelivery) : Prop := ∃ after, runSync d s = .ok () after

/-- One delivery: what leaves the task is rolled back. -/
def deliverSync (d : SyncDelivery) : SyncSession :=
  match runSync d s with
  | .ok _ after => after
  | .error _ _ => s

inductive SyncAction where
  | deliver (d : SyncDelivery)
  | command (call : CommandCall)

def stepSync : SyncAction → SyncSession
  | .deliver d => deliverSync s d
  | .command call => ((commandSync s call).toOption).getD s

end Facts

end BlogOps.Analytics
