import BlogOps.PublishRequests

/-!
# Connection jobs

`process_connection_job` diagnoses, refreshes, synchronises or disconnects a
connection; the monitor queues a diagnosis for every stale one.
-/

namespace BlogOps.Publishing

open Jobs KeyedTables

structure ConnectionEnv (ρ : Type) where
  now : Timestamp
  /-- The clock once the provider has answered. -/
  answeredAt : Timestamp
  requireProvider : PublishingProvider → String → Except AppError (CMSProvider ρ)
  resolveSecret : String → Except Exc SecretMaterial
  refreshSecret : String → Except Exc SecretMaterial
  revokeSecret : String → Except Exc Unit
  /-- `datetime.fromisoformat`. -/
  fromIsoFormat : String → Option LocalTime

structure ConnectionSession (ρ : Type) where
  connection : PublishingConnection
  job : PublishingConnectionJob
  tables : Tables
  nextId : Uuid
  remote : ρ

abbrev ConnectionRun (ρ α : Type) := EStateM Exc (ConnectionSession ρ) α

variable {ρ α : Type}

def modifyConnection (f : PublishingConnection → PublishingConnection) : ConnectionRun ρ Unit :=
  modify fun s => { s with connection := f s.connection }

def modifyConnectionJob (f : PublishingConnectionJob → PublishingConnectionJob) : ConnectionRun ρ Unit :=
  modify fun s => { s with job := f s.job }

def orFail (result : Except Exc α) : ConnectionRun ρ α :=
  match result with
  | .ok value => return value
  | .error e => throw e

def askProvider (method : RemoteCall ρ α) : ConnectionRun ρ (ProviderCall α) := do
  let s ← get
  let answer := method s.remote
  set { s with remote := answer.2 }
  orFail answer.1

def connectionAudit (action : String) : ConnectionRun ρ Unit :=
  modify fun s => { s with tables := { s.tables with
    auditLogs := s.tables.auditLogs ++ [{
      actorId := s.job.requestedBy
      action
      targetType := "publishing_connection_job"
      targetId := s.job.id }]
    outboxEvents := s.tables.outboxEvents ++ [{
      aggregateType := "publishing_connection_job"
      aggregateId := s.job.id
      eventType := action }] } }

def notifyOwner (now : Timestamp) (notificationType : String) : ConnectionRun ρ Unit :=
  modify fun s => { s with
    tables := { s.tables with notifications := s.tables.notifications ++ [{
      id := s.nextId
      recipientId := s.connection.createdBy
      publishJobId := none
      notificationType
      dueAt := now }] }
    nextId := s.nextId + 1 }

def credentialExpiryInvalid (detail : String) : ProviderFailure where
  code := "PUBLISH_CREDENTIAL_EXPIRY_INVALID"
  detail := detail
  retryClass := .final

def credentialExpired : ProviderFailure where
  code := "PUBLISH_CREDENTIAL_EXPIRED"
  detail := "게시 Credential이 만료되어 갱신 또는 재인증이 필요합니다."
  retryClass := .final

/-- `SecretMaterial.expires_at`. -/
def expiresAt (fromIsoFormat : String → Option LocalTime) (secret : SecretMaterial) :
    Except Exc (Option Timestamp) :=
  let value := (secret.values.lookup "expires_at").getD ""
  if value = "" then .ok none
  else match fromIsoFormat value with
    | none => .error (.provider (credentialExpiryInvalid "Credential 만료 시각 형식이 올바르지 않습니다."))
    | some parsed =>
      match parsed.offset with
      | none =>
        .error (.provider (credentialExpiryInvalid "Credential 만료 시각에는 시간대 정보가 필요합니다."))
      | some offset => .ok (some (parsed.clock - offset))

def criticalKeys : List String :=
  ["authentication", "oauth_scope", "api", "api_index", "blog", "timezone"]

def criticalFailed (checks : List DiagnosticCheck) : Bool :=
  checks.any fun item => item.key ∈ criticalKeys && !item.ok

def lifecycleCheck (key : String) (limit : Option Timestamp) (now : Timestamp) : List DiagnosticCheck :=
  match limit with
  | none => []
  | some limit => [⟨key, decide (now < limit)⟩]

def expiredBy (limit : Option Timestamp) (now : Timestamp) : Bool := limit.any (· ≤ now)

def diagnosticMethod (provider : CMSProvider ρ) : ConnectionOperation →
    ConnectionContext → SecretMaterial → RemoteCall ρ ProviderDiagnostic
  | .diagnose => provider.diagnose
  | .refresh => provider.refresh
  | _ => provider.syncSettings

variable (env : ConnectionEnv ρ)

def credentialWarning (credentialExpiresAt : Option Timestamp) : ConnectionRun ρ Unit := do
  let connection := (← get).connection
  match credentialExpiresAt with
  | none => modifyConnection fun connection =>
      { connection with credentialExpiryNotifiedFor := none }
  | some limit =>
    if limit ≤ env.answeredAt + 7 * 86400000000 ∧
        connection.credentialExpiryNotifiedFor ≠ some limit then do
      notifyOwner env.answeredAt "PUBLISHING_CREDENTIAL_EXPIRING"
      modifyConnection fun connection =>
        { connection with credentialExpiryNotifiedFor := some limit }
    else pure ()

def diagnosedState (apiExpired credentialExpired criticalFailed : Bool) : ConnectionState :=
  if apiExpired || credentialExpired then .expired
  else if criticalFailed then .degraded
  else .active

/-- What a diagnosis writes on the job and the connection. -/
def applyDiagnostic [CanonicalHash] (env : ConnectionEnv ρ) (credentialExpiresAt : Option Timestamp)
    (diagnostic : ProviderDiagnostic) : ConnectionRun ρ Unit := do
  let connection := (← get).connection
  let checks := diagnostic.checks ++
    lifecycleCheck "credential_lifecycle" credentialExpiresAt env.answeredAt ++
    lifecycleCheck "api_version_lifecycle" connection.apiDeprecationAt env.answeredAt
  let credentialExpired := expiredBy credentialExpiresAt env.answeredAt
  let apiExpired := expiredBy connection.apiDeprecationAt env.answeredAt
  modifyConnectionJob fun job => { job with checksJson := checks }
  modifyConnection fun connection => { connection with
    capabilities := diagnostic.capabilities
    siteSettingsSnapshot := diagnostic.siteSettings
    siteSettingsHash := some (canonicalHash (.siteSettings diagnostic.siteSettings))
    lastDiagnosedAt := some env.answeredAt
    lastSuccessAt := some env.answeredAt
    credentialExpiresAt := credentialExpiresAt }
  credentialWarning env credentialExpiresAt
  modifyConnection fun connection => { connection with
    lastErrorCode :=
      if credentialExpired then some "PUBLISH_CREDENTIAL_EXPIRED"
      else if criticalFailed checks then some "PUBLISH_DIAGNOSTIC_CRITICAL_CHECK_FAILED"
      else none
    state := diagnosedState apiExpired credentialExpired (criticalFailed checks) }

def disconnect : ConnectionRun ρ Unit := do
  let connection := (← get).connection
  orFail (env.revokeSecret connection.credentialSecretRef)
  modifyConnection fun connection => { connection with
    state := .disconnected
    disconnectedAt := some env.now
    lastErrorCode := none }
  modifyConnectionJob fun job => { job with
    checksJson := [⟨"credential_revocation", true⟩, ⟨"new_publish_disabled", true⟩] }

def secretFor (operation : ConnectionOperation) (secretRef : String) : Except Exc SecretMaterial :=
  if operation = .refresh then env.refreshSecret secretRef else env.resolveSecret secretRef

def diagnose [CanonicalHash] (env : ConnectionEnv ρ) (operation : ConnectionOperation) :
    ConnectionRun ρ Unit := do
  let connection := (← get).connection
  let provider ← orFail
    ((env.requireProvider connection.provider connection.officialContract).mapError Exc.app)
  let secret ← orFail (secretFor env operation connection.credentialSecretRef)
  let credentialExpiresAt ← orFail (expiresAt env.fromIsoFormat secret)
  modifyConnection fun connection => { connection with credentialExpiresAt := credentialExpiresAt }
  if expiredBy credentialExpiresAt env.now then throw (.provider credentialExpired)
  else do
    let call ← askProvider <| diagnosticMethod provider operation (connectionContext connection) secret
    applyDiagnostic env credentialExpiresAt call.value

def startConnectionJob (now : Timestamp) (job : PublishingConnectionJob) : PublishingConnectionJob :=
  { job with
    state := .validating
    startedAt := some (job.startedAt.getD now)
    attempt := job.attempt + 1
    errorCode := none
    errorDetail := none
    retryAfterSeconds := none }

def connectionRetryDelay (failure : ProviderFailure) (attempt : Nat) : Nat :=
  match failure.retryAfterSeconds with
  | some seconds => if seconds = 0 then min 3600 (5 * 2 ^ attempt) else seconds
  | none => min 3600 (5 * 2 ^ attempt)

def runConnectionOperation [CanonicalHash] (env : ConnectionEnv ρ)
    (operation : ConnectionOperation) : ConnectionRun ρ Unit :=
  if operation = .disconnect then disconnect env else diagnose env operation

def operateConnection [CanonicalHash] (env : ConnectionEnv ρ) : ConnectionRun ρ Unit := do
  let job := (← get).job
  runConnectionOperation env job.operation
  modifyConnectionJob fun job => { job with state := .succeeded, finishedAt := some env.now }
  connectionAudit "publishing.connection.job_succeeded"

def failConnection (code : String) (state : ConnectionState) : ConnectionRun ρ Unit :=
  modifyConnection fun connection =>
    { connection with lastErrorCode := some code, state := state }

def connectionJobFailed : Exc → ConnectionRun ρ Unit
  | .provider failure => do
    modifyConnectionJob fun job =>
      { job with errorCode := some failure.code, errorDetail := some failure.detail }
    failConnection failure.code (if failure.code = "PUBLISH_CREDENTIAL_EXPIRED" then .expired else .degraded)
    let job := (← get).job
    if failure.retryClass.retryable ∧ job.attempt < job.maxAttempts then do
      modifyConnectionJob fun job => { job with
        state := .retryableFailed
        retryAfterSeconds := some (connectionRetryDelay failure job.attempt) }
      connectionAudit "publishing.connection.job_retryable_failed"
    else do
      modifyConnectionJob fun job =>
        { job with state := .finalFailed, finishedAt := some env.now }
      connectionAudit "publishing.connection.job_final_failed"
  | .app error => do
    modifyConnectionJob fun job => { job with
      state := .finalFailed
      errorCode := some error.code
      errorDetail := some error.message
      finishedAt := some env.now }
    failConnection error.code .degraded
    connectionAudit "publishing.connection.job_final_failed"
  | .uncaught => throw .uncaught

/-- A redelivered connection job that has nothing left to do. -/
def connectionJobFinished (job : PublishingConnectionJob) : Bool :=
  job.state ∈ [.succeeded, .finalFailed]

def runConnectionJob [CanonicalHash] (env : ConnectionEnv ρ) : ConnectionRun ρ Unit := do
  let previousState := (← get).connection.state
  modifyConnectionJob (startConnectionJob env.now)
  tryCatch (operateConnection env) (connectionJobFailed env)
  let connection := (← get).connection
  if connection.state ≠ previousState then
    notifyOwner env.now "PUBLISHING_CONNECTION_STATE_CHANGED"
  else pure ()

def openConnectionSession (w : World ρ) (connection : PublishingConnection)
    (job : PublishingConnectionJob) : ConnectionSession ρ where
  connection := connection
  job := job
  tables := w.tables
  nextId := w.nextId
  remote := w.remote

def commitConnectionSession (w : World ρ) (s : ConnectionSession ρ) : World ρ :=
  { w with
    connections := updateRow (·.id) s.connection.id (fun _ => s.connection) w.connections
    connectionJobs := updateRow (·.id) s.job.id (fun _ => s.job) w.connectionJobs
    tables := s.tables
    nextId := s.nextId
    remote := s.remote }

/-- A run that raises, or whose commit fails, leaves nothing but what it did to
the remote side. -/
def settleConnectionRun (commits : Bool) (w : World ρ) :
    EStateM.Result Exc (ConnectionSession ρ) Unit → World ρ
  | .ok _ s => if commits then commitConnectionSession w s else { w with remote := s.remote }
  | .error _ s => { w with remote := s.remote }

def processConnectionJob [CanonicalHash] (env : ConnectionEnv ρ) (jobId : Uuid) (commits : Bool)
    (w : World ρ) : World ρ :=
  match w.connectionJobs.find? (·.id = jobId) with
  | none => w
  | some job =>
    if connectionJobFinished job then w
    else match w.connections.find? (·.id = job.connectionId) with
      | none => w
      | some connection =>
        settleConnectionRun commits w (runConnectionJob env (openConnectionSession w connection job))

def monitored (cutoff : Timestamp) (connection : PublishingConnection) : Bool :=
  connection.state ∈ [.active, .degraded, .expired] && connection.lastDiagnosedAt.all (· ≤ cutoff)

/-- `last_diagnosed_at ASC NULLS FIRST, id`. -/
def monitorOrder (a b : PublishingConnection) : Bool :=
  match a.lastDiagnosedAt, b.lastDiagnosedAt with
  | none, none => a.id ≤ b.id
  | none, some _ => true
  | some _, none => false
  | some s, some t => s < t ∨ s = t ∧ a.id ≤ b.id

def connectionJobActive (w : World ρ) (connectionId : Uuid) : Bool :=
  w.connectionJobs.any fun job =>
    job.connectionId = connectionId && job.state ∈ [.queued, .validating, .retryableFailed]

/-- The bucket of a monitor key; the source prints the minute with `strftime`. -/
def monitorKey (connectionId : Uuid) (now : Timestamp) : String :=
  "monitor:" ++ toString connectionId ++ ":" ++ toString (now / 60000000)

def monitorConnections [CanonicalHash] (env : RequestEnv) :
    List PublishingConnection → World ρ → Except Failure (World ρ)
  | [], w => .ok w
  | connection :: rest, w =>
    if connectionJobActive w connection.id then monitorConnections env rest w
    else do
      let (w, _) ← createConnectionJob { env with subjectId := connection.createdBy }
        connection.id .diagnose {
          expectedLockVersion := env.lockVersionOf connection.id
          idempotencyKey := monitorKey connection.id env.now } w
      monitorConnections env rest w

/-- `_schedule_connection_monitors`. -/
def scheduleMonitors [CanonicalHash] (env : RequestEnv) (staleMinutes : Int) (limit : Nat)
    (w : World ρ) : Except Failure (World ρ) :=
  let stale := w.connections.filter (monitored (env.now - staleMinutes * 60000000))
  monitorConnections env ((stale.insertionSort (monitorOrder · ·)).take limit) w

end BlogOps.Publishing
