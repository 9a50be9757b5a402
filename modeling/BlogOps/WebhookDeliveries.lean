import BlogOps.KeyedTables
import BlogOps.OutboundGuards
import BlogOps.SecurityRules
import BlogOps.TransitionRuns
import Mathlib.Data.Rat.Init

/-!
# Webhook deliveries

The deliveries to one endpoint: `execute_delivery` and `fail_delivery` inside the transaction of the
task, `replay_delivery`, and the creation of deliveries for an event.  A transaction that is rolled
back has still sent its request.
-/

namespace BlogOps.Developer

open EffectRules IpAddresses KeyedTables Outbound TransitionRuns

inductive WebhookEndpointState where
  | pendingVerification | active | disabled
deriving DecidableEq, Repr

inductive WebhookDeliveryState where
  | pending | retryWait | delivered | deadLettered | cancelled
deriving DecidableEq, Repr

inductive WebhookAttemptOutcome where
  | succeeded | retryableFailure | finalFailure
deriving DecidableEq, Repr

/-- The JSON texts of the values of a retry policy; the retryable statuses are the values that
iterating them gives. -/
structure RetryPolicy where
  baseDelaySeconds : Option String
  maxDelaySeconds : Option String
  jitterRatio : Option String
  successStatusMin : Option String
  successStatusMax : Option String
  retryableStatuses : Option (List String)
  retryableIsList : Bool
deriving DecidableEq, Repr

structure WebhookEndpoint where
  normalizedUrl : String
  hostname : String
  eventTypes : List String
  secretRef : String
  secretVersion : String
  state : WebhookEndpointState
  failureCount : Nat := 0
  failureDisableThreshold : Nat
  disabledAt : Option Int := none
  disabledReason : Option String := none
deriving DecidableEq, Repr

structure WebhookEvent where
  sourceEventId : String
  eventType : String
  schemaVersion : String
  payloadObjectRef : String
  payloadHash : String
deriving DecidableEq, Repr

structure WebhookDelivery where
  id : Uuid
  event : WebhookEvent
  state : WebhookDeliveryState := .pending
  retryPolicySnapshot : RetryPolicy
  attemptCount : Nat := 0
  cycleAttemptCount : Nat := 0
  maxAttempts : Nat
  manualReplayCount : Nat := 0
  manualReplayLimit : Nat
  nextAttemptAt : Int
  deliveredAt : Option Int := none
  deadLetteredAt : Option Int := none
  lastErrorCode : Option String := none
deriving DecidableEq, Repr

structure WebhookDeliveryAttempt where
  deliveryId : Uuid
  attemptNo : Nat
  deliveryCycle : Nat
  cycleAttemptNo : Nat
  eventExternalId : String
  destinationUrl : String
  resolvedAddresses : List String
  signatureVersion : String
  secretVersion : String
  requestTimestamp : Int
  outcome : WebhookAttemptOutcome
  responseStatus : Option Int
  responseHeadersMasked : List (String × String)
  responseBodyHash : Option String
  responseBodyPreviewMasked : Option String
  durationMs : Int
  errorCode : Option String
deriving DecidableEq, Repr

structure WebhookTransportRequest where
  url : String
  resolvedAddresses : List String
  headers : List (String × String)
  body : List UInt8
  allowRedirects : Bool
deriving DecidableEq, Repr

structure WebhookTransportResult where
  statusCode : Option Int
  headersMasked : List (String × String)
  bodyHash : Option String
  bodyPreviewMasked : Option String
  durationMs : Int
  transportErrorCode : Option String := none
deriving DecidableEq, Repr

/-- A call of the transport: for which delivery, in which replay cycle and when. -/
structure Send where
  deliveryId : Uuid
  cycle : Nat
  sentAt : Int
  request : WebhookTransportRequest
deriving DecidableEq, Repr

/-- Library functions on texts, hashes and the numbers of a policy; `none` is a raised exception. -/
structure WebhookTexts where
  urls : UrlTexts
  properties : MappedProperties
  sha256 : List UInt8 → String
  hmac : List UInt8 → Int → List UInt8 → String
  int : String → Option Int
  float : String → Option Rat
  /-- The first eight hexadecimal digits of a SHA-256. -/
  digest : String → Nat
  /-- `round(delay * (1 - ratio + 2 * ratio * unit))` in floating point. -/
  jittered : Int → Rat → Nat → Option Int

/-- What the worker finds and what its adapters answer. -/
structure WorkerEnvironment where
  now : Int
  resolved : Except Failure (List String)
  payload : Except Failure (List UInt8)
  secret : Except Failure (List UInt8)
  answer : Except Failure WebhookTransportResult

/-- The locked rows in a session with the attempts it added; no rollback takes back `sends`. -/
structure WebhookSession where
  delivery : WebhookDelivery
  endpoint : WebhookEndpoint
  added : List WebhookDeliveryAttempt := []
  sends : List Send
  broken : Bool := false

abbrev WebhookM := EStateM Failure WebhookSession

def maxInteger : Int := 2147483647

/-- The end of the year 9999, in microseconds. -/
def maxMoment : Int := 253402300799999999

def storableText (text : String) : Bool := Char.ofNat 0 ∉ text.toList

def storableAttempt (row : WebhookDeliveryAttempt) : Bool :=
  row.attemptNo ≤ maxInteger && row.requestTimestamp ≤ maxInteger && row.durationMs ≤ maxInteger &&
    row.resolvedAddresses.all storableText &&
    row.responseHeadersMasked.all (fun header => storableText header.1 && storableText header.2) &&
    row.responseBodyPreviewMasked.all storableText && row.errorCode.all storableText

/-- The other counts are bounded by columns, and the error code of a delivery is a constant or stands
in its attempt row. -/
def storableSession (s : WebhookSession) : Bool := s.added.all storableAttempt

def pendingRollback : Failure := .integrity "PendingRollbackError"

/-- A failed flush leaves a session that refuses every further query. -/
def flush : WebhookM Unit := do
  let s ← get
  if s.broken = true then throw pendingRollback
  else if storableSession s = true then pure ()
  else do
    set { s with broken := true }
    throw (.integrity "flush")

structure WebhookEventCreate where
  event : WebhookEvent
  maxAttempts : Nat
  manualReplayLimit : Nat
  retryPolicy : RetryPolicy
deriving DecidableEq, Repr

variable (texts : WebhookTexts)

/-- Reads one value of a policy. -/
def readInt (value : Option String) : Except Failure Int :=
  match value.bind texts.int with
  | some n => .ok n
  | none => .error .validationError

def readFloat (value : Option String) : Except Failure Rat :=
  match value.bind texts.float with
  | some x => .ok x
  | none => .error .validationError

variable (policy : RetryPolicy)

def completeRetryPolicy : Except Failure Unit := do
  require (policy.baseDelaySeconds.isSome = true ∧ policy.maxDelaySeconds.isSome = true ∧
    policy.jitterRatio.isSome = true ∧ policy.successStatusMin.isSome = true ∧
    policy.successStatusMax.isSome = true ∧ policy.retryableStatuses.isSome = true) .validationError
  let base ← readInt texts policy.baseDelaySeconds
  let maximum ← readInt texts policy.maxDelaySeconds
  let jitter ← readFloat texts policy.jitterRatio
  require (0 < base ∧ base ≤ maximum ∧ 0 ≤ jitter ∧ jitter ≤ 1) .validationError
  let minimumStatus ← readInt texts policy.successStatusMin
  let maximumStatus ← readInt texts policy.successStatusMax
  require (100 ≤ minimumStatus ∧ minimumStatus ≤ maximumStatus ∧ maximumStatus ≤ 599) .validationError
  require (policy.retryableIsList = true) .validationError

/-- The lengths of the texts are checked by columns as well and left to them. -/
def WebhookEventCreate.Accepted (data : WebhookEventCreate) : Prop :=
  0 < data.maxAttempts ∧ Security.isSha256Hex data.event.payloadHash = true ∧
    completeRetryPolicy texts data.retryPolicy = .ok ()

instance (texts : WebhookTexts) (data : WebhookEventCreate) : Decidable (data.Accepted texts) :=
  inferInstanceAs (Decidable (_ ∧ _ ∧ _))

def serverError (code message : String) (statusCode : Nat) : Failure :=
  .app { code, message, statusCode }

def secretInvalid : Failure := serverError "WEBHOOK_SECRET_INVALID" "Webhook 서명 비밀이 안전하지 않습니다." 503

def webhookSignature (secret : List UInt8) (timestamp : Int) (body : List UInt8) : Except Failure String := do
  require (32 ≤ secret.length) secretInvalid
  return "v1=" ++ texts.hmac secret timestamp body

def timestampOf (now : Int) : Int := now / 1000000

def requestHeaders (event : WebhookEvent) (timestamp : Int) (signature : String) : List (String × String) :=
  [("content-type", "application/json"), ("x-blogops-event-id", event.sourceEventId),
    ("x-blogops-event-type", event.eventType), ("x-blogops-schema-version", event.schemaVersion),
    ("x-blogops-timestamp", toString timestamp), ("x-blogops-signature", signature)]

def payloadMismatch : Failure :=
  serverError "WEBHOOK_PAYLOAD_HASH_MISMATCH" "Webhook Payload 무결성 검증에 실패했습니다." 500

variable (env : WorkerEnvironment)

variable (delivery : WebhookDelivery) (endpoint : WebhookEndpoint)

/-- Everything before the call of the transport. -/
def prepareRequest : Except Failure WebhookTransportRequest := do
  let addresses ← env.resolved
  let _ ← validateWebhookDestination texts.properties texts.urls endpoint.normalizedUrl addresses
  let body ← env.payload
  require (texts.sha256 body = delivery.event.payloadHash) payloadMismatch
  let secret ← env.secret
  let timestamp := timestampOf env.now
  let signature ← webhookSignature texts secret timestamp body
  return {
    url := endpoint.normalizedUrl
    resolvedAddresses := addresses
    headers := requestHeaders delivery.event timestamp signature
    body
    allowRedirects := false }

variable (result : WebhookTransportResult)

/-- The contract of the transport's answer; an answer of another type breaks it too. -/
def contractHolds : Bool :=
  0 ≤ result.durationMs && result.statusCode.all (fun status => 100 ≤ status && status ≤ 599) &&
    result.transportErrorCode.all (fun code => code ≠ "" && code.length ≤ 120) &&
    result.bodyHash.all Security.isSha256Hex

def resultInvalid : Failure := serverError "WEBHOOK_TRANSPORT_RESULT_INVALID"
    "Webhook 전송 결과가 안전한 계약과 일치하지 않습니다." 503

def executionFailed : String := "WEBHOOK_DELIVERY_EXECUTION_FAILED"

def cutCode (code : String) : String := String.ofList (code.toList.take 120)

def failureCode : Failure → String
  | .app error => error.code
  | _ => executionFailed

/-- The result that stands for a raised exception. -/
def failedResult (failure : Failure) : WebhookTransportResult where
  statusCode := none
  headersMasked := []
  bodyHash := none
  bodyPreviewMasked := none
  durationMs := 0
  transportErrorCode := some (cutCode (failureCode failure))

/-- The answer of the transport as the worker goes on with it. -/
def acceptedResult (answer : Except Failure WebhookTransportResult) : WebhookTransportResult :=
  match answer with
  | .error failure => failedResult failure
  | .ok result => if contractHolds result = true then result else failedResult resultInvalid

/-- The transport is called once the request is prepared. -/
def sendRequest (prepared : Except Failure WebhookTransportRequest) : WebhookM WebhookTransportResult :=
  match prepared with
  | .error failure => pure (failedResult failure)
  | .ok request => do
    modify fun s => { s with
      sends := s.sends ++ [⟨s.delivery.id, s.delivery.manualReplayCount, env.now, request⟩] }
    pure (acceptedResult env.answer)

def policyIncomplete : Failure :=
  serverError "WEBHOOK_RETRY_POLICY_INCOMPLETE" "Webhook 응답 정책이 불완전합니다." 503

/-- The status lies in the range of success. -/
def isSuccess (status : Option Int) : Except Failure Bool :=
  match status with
  | none => .ok false
  | some status => do
    let minimum ← readInt texts policy.successStatusMin
    if minimum ≤ status then
      (readInt texts policy.successStatusMax).map fun maximum => decide (status ≤ maximum)
    else .ok false

/-- `status in {int(value) for value in policy["retryable_statuses"]}`. -/
def isRetryableStatus (status : Option Int) : Except Failure Bool := do
  let statuses ← (policy.retryableStatuses.getD []).mapM fun value => readInt texts (some value)
  return status.any (· ∈ statuses)

def isRetryable : Except Failure Bool :=
  if result.transportErrorCode.isSome = true then .ok true
  else isRetryableStatus texts policy result.statusCode

/-- Whether the result is a success, and whether it may be retried. -/
def judgeResult : Except Failure (Bool × Bool) := do
  require (policy.successStatusMin.isSome = true ∧ policy.successStatusMax.isSome = true ∧
    policy.retryableStatuses.isSome = true) policyIncomplete
  let success ← isSuccess texts policy result.statusCode
  let retryable ← isRetryable texts policy result
  return (success, retryable)

def attemptOutcome (success retryable : Bool) (cycleAttemptNo maxAttempts : Nat) : WebhookAttemptOutcome :=
  if success = true then .succeeded
  else if retryable = true ∧ cycleAttemptNo < maxAttempts then .retryableFailure
  else .finalFailure

def cappedExponentialDelay (base maximum : Int) (exponent : Nat) : Int :=
  min maximum (base * (1 <<< exponent : Nat))

def deterministicJitteredDelay (base maximum : Int) (ratio : Rat) (attemptNo : Nat) (seed : String) :
    Except Failure Int :=
  let delay := cappedExponentialDelay base maximum (attemptNo - 1)
  match texts.jittered delay ratio (texts.digest (seed ++ ":" ++ toString attemptNo)) with
  | some seconds => .ok (max 1 seconds)
  | none => .error .decimalError

def retryPolicyIncomplete : Failure :=
  serverError "WEBHOOK_RETRY_POLICY_INCOMPLETE" "Webhook 재시도 정책이 불완전합니다." 503

def retryPolicyInvalid : Failure :=
  serverError "WEBHOOK_RETRY_POLICY_INVALID" "Webhook 재시도 정책이 올바르지 않습니다." 503

def retryDelay (attemptNo : Nat) (seed : String) : Except Failure Int := do
  require (policy.baseDelaySeconds.isSome = true ∧ policy.maxDelaySeconds.isSome = true ∧
    policy.jitterRatio.isSome = true) retryPolicyIncomplete
  let base ← readInt texts policy.baseDelaySeconds
  let maximum ← readInt texts policy.maxDelaySeconds
  let ratio ← readFloat texts policy.jitterRatio
  require (0 < base ∧ base ≤ maximum ∧ 0 ≤ ratio ∧ ratio ≤ 1) retryPolicyInvalid
  deterministicJitteredDelay texts base maximum ratio attemptNo seed

/-- `now + timedelta(seconds=seconds)`: no moment lies after the year 9999. -/
def momentAfter (now seconds : Int) : Except Failure Int :=
  if now + seconds * 1000000 ≤ maxMoment then .ok (now + seconds * 1000000)
  else .error .decimalError

def WebhookDelivery.seed : String := toString delivery.id ++ ":" ++ toString delivery.manualReplayCount

def nextAttempt (now : Int) (delivery : WebhookDelivery) (cycleAttemptNo : Nat) : Except Failure Int := do
  let seconds ← retryDelay texts delivery.retryPolicySnapshot cycleAttemptNo delivery.seed
  momentAfter now seconds

/-- `result.transport_error_code or f"HTTP_{result.status_code}"`. -/
def resultCode : String :=
  match result.transportErrorCode with
  | some code => if code = "" then "HTTP_" ++ statusText else code
  | none => "HTTP_" ++ statusText
where
  statusText : String := (result.statusCode.map toString).getD "None"

variable (outcome : WebhookAttemptOutcome)

def attemptRow : WebhookDeliveryAttempt where
  deliveryId := delivery.id
  attemptNo := delivery.attemptCount + 1
  deliveryCycle := delivery.manualReplayCount
  cycleAttemptNo := delivery.cycleAttemptCount + 1
  eventExternalId := delivery.event.sourceEventId
  destinationUrl := endpoint.normalizedUrl
  resolvedAddresses := env.resolved.toOption.getD []
  signatureVersion := "v1"
  secretVersion := endpoint.secretVersion
  requestTimestamp := timestampOf env.now
  outcome := outcome
  responseStatus := result.statusCode
  responseHeadersMasked := result.headersMasked
  responseBodyHash := result.bodyHash
  responseBodyPreviewMasked := result.bodyPreviewMasked
  durationMs := result.durationMs
  errorCode := result.transportErrorCode

def WebhookDelivery.count : WebhookDelivery :=
  { delivery with
    attemptCount := delivery.attemptCount + 1
    cycleAttemptCount := delivery.cycleAttemptCount + 1 }

def WebhookDelivery.deliver (now : Int) (delivery : WebhookDelivery) : WebhookDelivery :=
  { delivery with
    state := .delivered
    deliveredAt := some now
    lastErrorCode := none }

def WebhookDelivery.await (code : String) (delivery : WebhookDelivery) : WebhookDelivery :=
  { delivery with
    state := .retryWait
    lastErrorCode := some code }

def WebhookDelivery.schedule (next : Int) (delivery : WebhookDelivery) : WebhookDelivery :=
  { delivery with nextAttemptAt := next }

def WebhookDelivery.deadLetter (now : Int) (code : String) (delivery : WebhookDelivery) : WebhookDelivery :=
  { delivery with
    state := .deadLettered
    deadLetteredAt := some now
    lastErrorCode := some code }

def WebhookDelivery.cancel : WebhookDelivery :=
  { delivery with
    state := .cancelled
    lastErrorCode := some "WEBHOOK_ENDPOINT_DISABLED" }

def WebhookEndpoint.recover : WebhookEndpoint := { endpoint with failureCount := 0 }

def WebhookEndpoint.fail : WebhookEndpoint :=
  { endpoint with failureCount := endpoint.failureCount + 1 }

def WebhookEndpoint.disable (now : Int) (endpoint : WebhookEndpoint) : WebhookEndpoint :=
  { endpoint with
    state := .disabled
    disabledAt := some now
    disabledReason := some "CONSECUTIVE_DELIVERY_FAILURES" }

def WebhookSession.addAttempt (s : WebhookSession) : WebhookSession :=
  { s with
    added := s.added ++ [attemptRow env s.delivery s.endpoint result outcome]
    delivery := s.delivery.count }

def WebhookSession.change (f : WebhookDelivery → WebhookDelivery)
    (g : WebhookEndpoint → WebhookEndpoint) (s : WebhookSession) : WebhookSession :=
  { s with
    delivery := f s.delivery
    endpoint := g s.endpoint }

/-- A delay that cannot be computed raises between the two writes. -/
def awaitRetry : WebhookM Unit := do
  modify fun s => s.change (·.await (resultCode result)) id
  let s ← get
  let next ← MonadExcept.ofExcept (nextAttempt texts env.now s.delivery s.delivery.cycleAttemptCount)
  modify fun s => s.change (·.schedule next) (·.fail)

/-- The states after the attempt row. -/
def settleDelivery : WebhookAttemptOutcome → WebhookM Unit
  | .succeeded => modify fun s => s.change (·.deliver env.now) (·.recover)
  | .retryableFailure => awaitRetry texts env result
  | .finalFailure => modify fun s => s.change (·.deadLetter env.now (resultCode result)) (·.fail)

def closeEndpoint (now : Int) (endpoint : WebhookEndpoint) : WebhookEndpoint :=
  if endpoint.failureDisableThreshold ≤ endpoint.failureCount then endpoint.disable now
  else endpoint

/-- Every outbox row is flushed when it is added; the last flush stands for all of them. -/
def recordOutcome : WebhookM Unit := do
  modify fun s => s.addAttempt env result outcome
  settleDelivery texts env result outcome
  modify fun s => s.change id (closeEndpoint env.now)
  flush

def recordResult : WebhookM Unit := do
  let s ← get
  let judged ← MonadExcept.ofExcept (judgeResult texts s.delivery.retryPolicySnapshot result)
  recordOutcome texts env result (attemptOutcome judged.1 judged.2
    (s.delivery.cycleAttemptCount + 1) s.delivery.maxAttempts)

def openStates : List WebhookDeliveryState := [.pending, .retryWait]

def executeDelivery : WebhookM Unit := do
  let s ← get
  if s.delivery.state ∉ openStates then pure ()
  else if env.now < s.delivery.nextAttemptAt then pure ()
  else if s.endpoint.state ≠ .active then do
    modify fun s => s.change (·.cancel) id
    flush
  else do
    let result ← sendRequest env (prepareRequest texts env s.delivery s.endpoint)
    recordResult texts env result

/-- `error_code[:120] or "WEBHOOK_DELIVERY_FAILED"`. -/
def storedCode (code : String) : String := if code = "" then "WEBHOOK_DELIVERY_FAILED" else cutCode code

/-- `fail_delivery`: a broken session refuses its query.  The session flushes nothing by itself; what
the database does not take would fail with the commit, and fails with the first flush here. -/
def failDelivery (now : Int) (code : String) : WebhookM Unit := do
  flush
  let s ← get
  if s.delivery.state ∉ openStates then pure ()
  else do
    modify fun s => s.change (·.deadLetter now (storedCode code)) id
    flush

def runWebhookDelivery : WebhookM Unit :=
  tryCatch (executeDelivery texts env) fun failure => failDelivery env.now (failureCode failure)

structure WebhookDesk where
  endpoint : WebhookEndpoint
  deliveries : List WebhookDelivery := []
  attempts : List WebhookDeliveryAttempt := []
  sends : List Send := []

variable (s : WebhookDesk)

def WebhookDesk.session (delivery : WebhookDelivery) : WebhookSession where
  delivery := delivery
  endpoint := s.endpoint
  sends := s.sends

def WebhookDesk.commit (after : WebhookSession) : WebhookDesk where
  endpoint := after.endpoint
  deliveries := updateRow WebhookDelivery.id after.delivery.id (fun _ => after.delivery) s.deliveries
  attempts := s.attempts ++ after.added
  sends := after.sends

/-- What a rollback leaves: the rows as they were, and the requests that have been sent. -/
def WebhookDesk.rollBack (after : WebhookSession) : WebhookDesk := { s with sends := after.sends }

def WebhookDesk.find (s : WebhookDesk) (id : Uuid) : Option WebhookDelivery :=
  s.deliveries.find? (·.id = id)

def deliverWebhook (id : Uuid) (env : WorkerEnvironment) : WebhookDesk :=
  match s.find id with
  | none => s
  | some delivery =>
    match runWebhookDelivery texts env (s.session delivery) with
    | .ok _ after => s.commit after
    | .error _ after => s.rollBack after

def WebhookDelivery.replay (now : Int) (delivery : WebhookDelivery) : WebhookDelivery :=
  { delivery with
    manualReplayCount := delivery.manualReplayCount + 1
    cycleAttemptCount := 0
    state := .pending
    nextAttemptAt := now
    deliveredAt := none
    deadLetteredAt := none
    lastErrorCode := none }

def replayLimitExceeded : Failure :=
  serverError "WEBHOOK_REPLAY_LIMIT_EXCEEDED" "Webhook 수동 재전송 한도를 초과했습니다." 409

def endpointDisabled : Failure :=
  serverError "WEBHOOK_ENDPOINT_DISABLED" "비활성 Endpoint로 재전송할 수 없습니다." 409

def deliveryNotFound : Failure :=
  serverError "WEBHOOK_DELIVERY_NOT_FOUND" "Webhook 전달 작업을 찾을 수 없습니다." 404

def replayDelivery (id : Uuid) (now : Int) : Except Failure WebhookDesk :=
  match s.find id with
  | none => .error deliveryNotFound
  | some delivery => do
    require (delivery.manualReplayCount < delivery.manualReplayLimit) replayLimitExceeded
    require (s.endpoint.state = .active) endpointDisabled
    return { s with deliveries := updateRow WebhookDelivery.id id (·.replay now) s.deliveries }

def newDelivery (id : Uuid) (data : WebhookEventCreate) (now : Int) : WebhookDelivery where
  id := id
  event := data.event
  retryPolicySnapshot := data.retryPolicy
  maxAttempts := data.maxAttempts
  manualReplayLimit := data.manualReplayLimit
  nextAttemptAt := now

/-- The delivery that `create_webhook_event` adds for this endpoint, under a fresh id. -/
def createDelivery (id : Uuid) (data : WebhookEventCreate) (now : Int) : WebhookDesk :=
  if data.Accepted texts ∧ s.endpoint.state = .active ∧
      data.event.eventType ∈ s.endpoint.eventTypes ∧ s.find id = none then
    { s with deliveries := s.deliveries ++ [newDelivery id data now] }
  else s

inductive WebhookAction where
  | create (id : Uuid) (data : WebhookEventCreate) (now : Int)
  | deliver (id : Uuid) (env : WorkerEnvironment)
  | replay (id : Uuid) (now : Int)

def stepWebhook : WebhookAction → WebhookDesk
  | .create id data now => createDelivery texts s id data now
  | .deliver id env => deliverWebhook texts s id env
  | .replay id now => (replayDelivery s id now).toOption.getD s

/-- A registered endpoint before its first event. -/
structure Registered (s : WebhookDesk) : Prop where
  active : s.endpoint.state = .active
  failureCount : s.endpoint.failureCount = 0
  threshold : 0 < s.endpoint.failureDisableThreshold
  deliveries : s.deliveries = []
  attempts : s.attempts = []
  sends : s.sends = []

def sampleWebhookUrl : String := "https://hooks.example.com/in"

def sampleSplit : SplitResult where
  scheme := "https"
  netloc := "hooks.example.com"
  path := "/in"
  query := ""
  fragment := ""
  hostname := some "hooks.example.com"

def sampleDigest : String := String.ofList (List.replicate 64 'a')

/-- The library functions on the values of the sample. -/
def sampleWebhookTexts : WebhookTexts where
  urls :=
    { urlsplit := fun _ => some sampleSplit
      urlunsplit := fun _ _ _ _ _ => sampleWebhookUrl
      urljoin := fun _ location => location
      idna := some
      lower := id
      casefold := id
      parseQsl := fun _ => []
      urlencode := fun _ => "" }
  properties := ⟨false, false, false, false, false⟩
  sha256 _ := sampleDigest
  hmac _ _ _ := sampleDigest
  int text := [("5", 5), ("60", 60), ("200", 200), ("299", 299), ("500", 500)].lookup text
  float text := if text = "0" then some 0 else none
  digest _ := 0
  jittered delay _ _ := some delay

def samplePolicy : RetryPolicy where
  baseDelaySeconds := some "5"
  maxDelaySeconds := some "60"
  jitterRatio := some "0"
  successStatusMin := some "200"
  successStatusMax := some "299"
  retryableStatuses := some ["500"]
  retryableIsList := true

def sampleData : WebhookEventCreate where
  event := ⟨"event-1", "post.published", "1.0", "workspaces/1/webhooks/1", sampleDigest⟩
  maxAttempts := 1
  manualReplayLimit := 0
  retryPolicy := samplePolicy

def sampleWebhookDesk : WebhookDesk where
  endpoint := {
    normalizedUrl := sampleWebhookUrl
    hostname := "hooks.example.com"
    eventTypes := ["post.published"]
    secretRef := "vault://hooks"
    secretVersion := "v1"
    state := .active
    failureDisableThreshold := 3 }

theorem registered_sample : Registered sampleWebhookDesk := ⟨rfl, rfl, by decide, rfl, rfl, rfl⟩

/-- The worker of the sample, with the answer of the transport. -/
def sampleEnvironment (answer : WebhookTransportResult) : WorkerEnvironment where
  now := 0
  resolved := .ok ["8.8.8.8"]
  payload := .ok []
  secret := .ok (List.replicate 32 0)
  answer := .ok answer

/-- The endpoint answers with a status and a body of which a preview is taken. -/
def sampleAnswer (status : Int) (preview : String) : WebhookTransportResult where
  statusCode := some status
  headersMasked := []
  bodyHash := none
  bodyPreviewMasked := some preview
  durationMs := 12

end BlogOps.Developer
