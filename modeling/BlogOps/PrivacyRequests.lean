import BlogOps.EffectRules
import BlogOps.LegalHolds
import BlogOps.TransitionRuns

/-!
# Privacy requests

The life of one privacy request: its verification, its plan, the deliveries of
the task that processes it, and the calls that end it.  An action that fails is
recorded and the loop goes on; a flush that fails takes the whole delivery back,
but not what the executor has done.
-/

namespace BlogOps.Security

open EffectRules TransitionRuns

structure PrivacyRequest where
  id : Uuid
  workspaceId : Uuid
  requestedBy : Uuid
  kind : PrivacyRequestKind
  subjectLocatorRef : String
  subjectLocatorHash : String
  dataClasses : List String
  createdAt : Int
  state : PrivacyRequestState := .identityPending
  verifiedAt : Option Int := none
  processingStartedAt : Option Int := none
  completedAt : Option Int := none
  rejectionCode : Option String := none
  failureCode : Option String := none
deriving DecidableEq, Repr

structure PrivacyVerificationEvent where
  passed : Bool
  providerReference : String
  assuranceLevel : String
  evidenceHash : String
  failureCode : Option String
  verifiedAt : Option Int
deriving DecidableEq, Repr

structure PrivacyActionAttempt where
  attemptNo : Nat
  outcome : PrivacyActionState
  providerOperationRef : Option String := none
  resultManifestHash : Option String := none
  evidenceObjectRef : Option String := none
  errorCode : Option String := none
  errorClass : Option String := none
deriving DecidableEq, Repr

structure PrivacyAction where
  id : Uuid
  sequence : Int
  kind : String
  dataClasses : List String
  targetSystem : String
  targetLocatorRef : String
  planMetadata : String
  planHash : String
  idempotencyKey : String
  state : PrivacyActionState := .pending
  attemptCount : Nat := 0
  providerOperationRef : Option String := none
  affectedRecords : Option Int := none
  resultManifestHash : Option String := none
  evidenceObjectRef : Option String := none
  backupErasureDueAt : Option Int := none
  lastErrorCode : Option String := none
  startedAt : Option Int := none
  completedAt : Option Int := none
  /-- The rows of `PrivacyActionAttempt` with the id of this action. -/
  attempts : List PrivacyActionAttempt := []
deriving DecidableEq, Repr

structure PrivacyExportArtifact where
  id : Uuid
  objectRef : String
  contentHash : String
  sizeBytes : Int
  manifestHash : String
  maximumDownloads : Int
  expiresAt : Option Int
deriving DecidableEq, Repr

/-- One element of `system_results`. -/
structure SystemResult where
  actionId : Uuid
  kind : String
  targetSystem : String
  state : PrivacyActionState
  affectedRecords : Option Int
  resultManifestHash : Option String
deriving DecidableEq, Repr

structure DeletionCertificate where
  completedDataClasses : List String
  systemResults : List SystemResult
  manifestHash : String
  backupErasureDueAt : Option Int
deriving DecidableEq, Repr

/-- A call of `build_export` or `execute_action`. -/
structure PrivacyCall where
  actionId : Uuid
  kind : String
  calledAt : Int
deriving DecidableEq, Repr

/-- A request with its rows, as a session holds them; `calls` are the calls of the executor since
the request was made, which no rollback takes back. -/
structure PrivacySession where
  request : PrivacyRequest
  verifications : List PrivacyVerificationEvent := []
  actions : List PrivacyAction := []
  artifact : Option PrivacyExportArtifact := none
  certificates : List DeletionCertificate := []
  calls : List PrivacyCall := []
  /-- A flush failed, and the session refuses every further query. -/
  broken : Bool := false
deriving DecidableEq, Repr

abbrev PrivacyM := EStateM Failure PrivacySession

structure IdentityVerificationResult where
  passed : Bool
  providerReference : String
  assuranceLevel : String
  evidenceHash : String
  failureCode : Option String
  verifiedAt : Option Int
deriving DecidableEq, Repr

structure PrivacyActionExecutionResult where
  providerOperationRef : String
  affectedRecords : Int
  /-- The canonical JSON of the manifest, and whether it is an object. -/
  resultManifest : String
  manifestIsObject : Bool
  resultManifestHash : String
  evidenceObjectRef : String
  completedAt : Option Int
  /-- `none` for no datetime, and `some none` for a naive one. -/
  backupErasureDueAt : Option (Option Int)
deriving DecidableEq, Repr

structure ExportArtifactResult where
  objectRef : String
  contentHash : String
  sizeBytes : Int
  manifest : String
  manifestIsObject : Bool
  expiresAt : Option Int
deriving DecidableEq, Repr

/-- What the turn of one action meets: the holds of the workspace at `now`, the answers of the
ports, and whether the database takes each flush. -/
structure ActionTurn where
  holds : List LegalHold
  now : Int
  startedAt : Int
  calledAt : Int
  checkedAt : Int
  stored : Bool
  execution : Except Failure PrivacyActionExecutionResult
  exportResult : Except Failure ExportArtifactResult
  maximumDownloads : Except Failure Int
  artifactId : Uuid
  artifactStored : Bool
  /-- `type(exc).__name__` of what is not an `AppError`. -/
  errorClass : String
  /-- The holds are read before the executor is called. -/
  now_le : now ≤ calledAt

structure PrivacyDelivery where
  configured : Bool
  holds : List LegalHold
  now : Int
  turns : Uuid → ActionTurn
  finishedAt : Int
  concluded : Bool
  failureStored : Bool

structure VerificationCall where
  principal : PrivacyPrincipal
  answer : Except Failure IdentityVerificationResult
  now : Int
  stored : Bool

structure PlanningCall where
  principal : PrivacyPrincipal
  holds : List LegalHold
  now : Int
  planned : Except Failure (List PlannedPrivacyAction)
  /-- The id of the action of each sequence number. -/
  newId : Int → Uuid
  stored : Bool

inductive PrivacyStep where
  | verify (call : VerificationCall)
  | plan (call : PlanningCall)
  | process (delivery : PrivacyDelivery)
  | failRuntime (code : String) (stored : Bool)
  | cancel (principal : PrivacyPrincipal) (stored : Bool)
  | reject (principal : PrivacyPrincipal) (rejectionCode : String) (stored : Bool)

def validIdentity (createdAt now : Int) (result : IdentityVerificationResult) : Bool :=
  result.verifiedAt.any (fun verified => createdAt ≤ verified && verified ≤ now + fiveMinutes) &&
    result.providerReference ≠ "" && result.providerReference.length ≤ 500 &&
    result.assuranceLevel ≠ "" && result.assuranceLevel.length ≤ 80 &&
    isSha256Hex result.evidenceHash &&
    (if result.passed then result.failureCode.isNone
      else result.failureCode.any fun code => code ≠ "" && code.length ≤ 120)

def validExport (now : Int) (result : ExportArtifactResult) : Bool :=
  result.expiresAt.any (now < ·) && 0 ≤ result.sizeBytes && result.objectRef ≠ "" &&
    result.objectRef.length ≤ 1000 && result.manifestIsObject && isSha256Hex result.contentHash

def requestNotFound : Failure := .app {
  code := "PRIVACY_REQUEST_NOT_FOUND"
  message := "데이터 권리 요청을 찾을 수 없습니다."
  statusCode := 404 }

def requestAccessDenied (message : String) : Failure := .app {
  code := "PRIVACY_REQUEST_ACCESS_DENIED"
  message := message
  statusCode := 403 }

def verificationNotPending : Failure := securityConflict "PRIVACY_VERIFICATION_NOT_PENDING"
  "신원 확인 대기 중인 요청이 아닙니다."

def verificationEvidenceInvalid : Failure := contractBroken
  "PRIVACY_VERIFICATION_EVIDENCE_INVALID" "신원 확인 제공자의 증거가 올바르지 않습니다."

def requestNotPlannable : Failure := securityConflict "PRIVACY_REQUEST_NOT_PLANNABLE" "실행 계획을 만들 수 없는 상태입니다."

def actionSequenceInvalid : Failure := contractBroken "PRIVACY_ACTION_SEQUENCE_INVALID"
  "데이터 권리 실행 계획 순서가 연속적이지 않습니다."

def exportResultInvalid : Failure := contractBroken "PRIVACY_EXPORT_RESULT_INVALID"
  "내보내기 실행 결과가 보안 계약을 충족하지 않습니다."

def exportPolicyInvalid : Failure := contractBroken "PRIVACY_EXPORT_POLICY_INVALID" "내보내기 다운로드 정책이 올바르지 않습니다."

def actionResultInvalid : Failure := contractBroken "PRIVACY_ACTION_RESULT_INVALID"
  "데이터 권리 실행 결과의 증거가 올바르지 않습니다."

class PrivacyHashes extends SecurityHashes where
  /-- `redact_safe_metadata` on canonical JSON. -/
  redactMetadata : String → String
  planHash : PlannedPrivacyAction → String
  /-- `f"privacy:{id}:{sequence}:{hash[:16]}"`. -/
  idempotencyKey : Uuid → Int → String → String
  certificateHash : Uuid → List String → List SystemResult → Option Int → String

def failureCodeOf (otherwise : String) : Failure → String
  | .app error => error.code
  | _ => otherwise

def clip (text : String) : String := String.ofList (text.toList.take 120)

/-- The hold query of `_matching_legal_holds`. -/
def holdsMatching (request : PrivacyRequest) (now : Int) (holds : List LegalHold) : List LegalHold :=
  matchingLegalHolds now request.subjectLocatorHash request.dataClasses holds

def startAction (now : Int) (action : PrivacyAction) : PrivacyAction :=
  { action with
    state := .running
    startedAt := some now
    attemptCount := action.attemptCount + 1 }

def skippedAction (now : Int) (action : PrivacyAction) : PrivacyAction :=
  { action with
    state := .skippedLegalHold
    completedAt := some now
    attempts := action.attempts ++ [{
      attemptNo := action.attemptCount + 1
      outcome := .skippedLegalHold
      errorCode := some "LEGAL_HOLD_ACTIVE" }]
    attemptCount := action.attemptCount + 1 }

/-- `_fail_privacy_action`. -/
def failedAction (now : Int) (code errorClass : String) (action : PrivacyAction) : PrivacyAction :=
  { action with
    state := .failed
    lastErrorCode := some (clip code)
    completedAt := some now
    attempts := action.attempts ++ [{
      attemptNo := action.attemptCount
      outcome := .failed
      errorCode := some (clip code)
      errorClass := some (clip errorClass) }] }

/-- An action with its result, and the row of its attempt. -/
def succeededAction (providerOperationRef : String) (affectedRecords : Int)
    (resultManifestHash evidenceObjectRef : String) (backupErasureDueAt completedAt : Option Int)
    (action : PrivacyAction) : PrivacyAction :=
  { action with
    state := .succeeded
    providerOperationRef := some providerOperationRef
    affectedRecords := some affectedRecords
    resultManifestHash := some resultManifestHash
    evidenceObjectRef := some evidenceObjectRef
    backupErasureDueAt := backupErasureDueAt
    completedAt := completedAt
    attempts := action.attempts ++ [{
      attemptNo := action.attemptCount
      outcome := .succeeded
      providerOperationRef := some providerOperationRef
      resultManifestHash := some resultManifestHash
      evidenceObjectRef := some evidenceObjectRef }] }

/-- A failed or skipped action is due again. -/
def resetAction (action : PrivacyAction) : PrivacyAction :=
  if action.state = .failed ∨ action.state = .skippedLegalHold then
    { action with
      state := .pending
      lastErrorCode := none }
  else action

def systemResult (action : PrivacyAction) : SystemResult where
  actionId := action.id
  kind := action.kind
  targetSystem := action.targetSystem
  state := action.state
  affectedRecords := action.affectedRecords
  resultManifestHash := action.resultManifestHash

def flushPrivacy (stored : Bool) : PrivacyM Unit := do
  let s ← get
  if s.broken = false ∧ stored = true then pure ()
  else
    modify ({ · with broken := true })
    throw (.integrity "security_privacy")

def requestRow (workspaceId : Uuid) : PrivacyM PrivacyRequest := do
  let s ← get
  if s.broken then throw (.integrity "PendingRollbackError")
  else
    MonadExcept.ofExcept (require (s.request.workspaceId = workspaceId) requestNotFound)
    pure s.request

def updateRequest (change : PrivacyRequest → PrivacyRequest) : PrivacyM Unit :=
  modify fun s => { s with request := change s.request }

/-- A checked change of the state. -/
def moveRequest (target : PrivacyRequestState) : PrivacyM Unit := do
  let s ← get
  MonadExcept.ofExcept (ensurePrivacyTransition s.request.state target)
  updateRequest ({ · with state := target })

def verificationEvent (result : IdentityVerificationResult) : PrivacyVerificationEvent where
  passed := result.passed
  providerReference := result.providerReference
  assuranceLevel := result.assuranceLevel
  evidenceHash := result.evidenceHash
  failureCode := result.failureCode
  verifiedAt := result.verifiedAt

def applyVerification (result : IdentityVerificationResult) : PrivacyM Unit :=
  if result.passed then do
    moveRequest .verified
    updateRequest ({ · with verifiedAt := result.verifiedAt })
  else pure ()

def verifyPrivacyRequest (call : VerificationCall) : PrivacyM Unit := do
  let request ← requestRow call.principal.workspaceId
  MonadExcept.ofExcept (require (request.requestedBy = call.principal.subjectId ∨
    call.principal.managesPrivacy = true) (requestAccessDenied "요청을 확인할 권한이 없습니다."))
  MonadExcept.ofExcept (require (request.state = .identityPending) verificationNotPending)
  let result ← MonadExcept.ofExcept call.answer
  MonadExcept.ofExcept (require (validIdentity request.createdAt call.now result = true)
    verificationEvidenceInvalid)
  modify fun s => { s with verifications := s.verifications ++ [verificationEvent result] }
  applyVerification result
  flushPrivacy call.stored

def holdRequest : PrivacyM Unit := do
  let s ← get
  if s.request.state = .onHold then pure () else moveRequest .onHold

/-- The plan exists: what failed or was skipped is due again. -/
def requeueRequest : PrivacyM Unit := do
  let s ← get
  if s.request.state = .failed ∨ s.request.state = .partly ∨ s.request.state = .onHold then
    moveRequest .queued
    modify fun s => { s with actions := s.actions.map resetAction }
  else pure ()

def requireLocators : List PlannedPrivacyAction → Except Failure Unit
  | [] => .ok ()
  | item :: planned => do
    requireSecretReference item.targetLocatorRef "target_locator_ref"
    requireLocators planned

section Service

variable [PrivacyHashes]

def newAction (requestId : Uuid) (newId : Int → Uuid) (item : PlannedPrivacyAction) : PrivacyAction where
  id := newId item.sequence
  sequence := item.sequence
  kind := item.kind
  dataClasses := item.dataClasses
  targetSystem := item.targetSystem
  targetLocatorRef := item.targetLocatorRef
  planMetadata := PrivacyHashes.redactMetadata item.planMetadata
  planHash := PrivacyHashes.planHash item
  idempotencyKey := PrivacyHashes.idempotencyKey requestId item.sequence (PrivacyHashes.planHash item)

def consecutive (planned : List PlannedPrivacyAction) : Prop :=
  (planned.map (·.sequence)).insertionSort (· ≤ ·) = (List.range' 1 planned.length).map Int.ofNat

instance (planned : List PlannedPrivacyAction) : Decidable (consecutive planned) :=
  inferInstanceAs (Decidable (_ = _))

def planActions (call : PlanningCall) : PrivacyM Unit := do
  let s ← get
  let planned ← MonadExcept.ofExcept call.planned
  MonadExcept.ofExcept (validateActionPlan s.request.kind s.request.dataClasses planned)
  MonadExcept.ofExcept (require (consecutive planned) actionSequenceInvalid)
  MonadExcept.ofExcept (requireLocators planned)
  let actions := planned.map (newAction s.request.id call.newId)
  MonadExcept.ofExcept (require (actions.map (·.id)).Nodup (.integrity "security_privacy_actions"))
  modify fun s => { s with actions := actions }
  moveRequest .queued

def plannableStates : List PrivacyRequestState := [.verified, .onHold, .failed, .partly]

def holdOrPlan (call : PlanningCall) : PrivacyM Unit := do
  let s ← get
  if s.request.kind = .delete ∧ holdsMatching s.request call.now call.holds ≠ [] then holdRequest
  else if s.actions ≠ [] then requeueRequest
  else planActions call

def planPrivacyRequest (call : PlanningCall) : PrivacyM Unit := do
  let request ← requestRow call.principal.workspaceId
  MonadExcept.ofExcept (require (request.state ∈ plannableStates) requestNotPlannable)
  holdOrPlan call
  flushPrivacy call.stored

def callExecutorFor {α : Type} (call : PrivacyCall) (answer : Except Failure α) : PrivacyM α := do
  modify fun s => { s with calls := s.calls ++ [call] }
  MonadExcept.ofExcept answer

def artifactOf (id : Uuid) (maximumDownloads : Int) (result : ExportArtifactResult) :
    PrivacyExportArtifact where
  id := id
  objectRef := result.objectRef
  contentHash := result.contentHash
  sizeBytes := result.sizeBytes
  manifestHash := SecurityHashes.jsonHash result.manifest
  maximumDownloads := maximumDownloads
  expiresAt := result.expiresAt

variable (turn : ActionTurn) (action : PrivacyAction)

def buildExport : PrivacyM PrivacyExportArtifact := do
  let result ← callExecutorFor ⟨action.id, action.kind, turn.calledAt⟩ turn.exportResult
  MonadExcept.ofExcept (require (validExport turn.checkedAt result = true) exportResultInvalid)
  let maximumDownloads ← MonadExcept.ofExcept turn.maximumDownloads
  MonadExcept.ofExcept (require (0 < maximumDownloads) exportPolicyInvalid)
  let artifact := artifactOf turn.artifactId maximumDownloads result
  modify fun s => { s with artifact := some artifact }
  flushPrivacy turn.artifactStored
  pure artifact

/-- The artifact of the request, which is built once. -/
def exportArtifact : PrivacyM PrivacyExportArtifact := do
  let s ← get
  match s.artifact with
  | some artifact => pure artifact
  | none => buildExport turn action

def executeExportAction : PrivacyM PrivacyAction := do
  let artifact ← exportArtifact turn action
  pure (succeededAction ("export-artifact:" ++ toString artifact.id) 1 artifact.manifestHash
    artifact.objectRef action.backupErasureDueAt (some turn.checkedAt) action)

def validExecution (result : PrivacyActionExecutionResult) : Bool :=
  result.completedAt.any (fun completed => action.startedAt.any (· ≤ completed) &&
      result.backupErasureDueAt.all fun due => due.any (completed ≤ ·)) &&
    0 ≤ result.affectedRecords && result.providerOperationRef ≠ "" &&
    result.providerOperationRef.length ≤ 500 && result.manifestIsObject &&
    result.resultManifestHash = SecurityHashes.jsonHash result.resultManifest &&
    result.evidenceObjectRef ≠ "" && result.evidenceObjectRef.length ≤ 1000 &&
    (action.kind ≠ PrivacyActionKind.scheduleBackupErasure.value || result.backupErasureDueAt.isSome)

def executePrivacyAction : PrivacyM PrivacyAction := do
  let result ← callExecutorFor ⟨action.id, action.kind, turn.calledAt⟩ turn.execution
  MonadExcept.ofExcept (require (validExecution action result = true) actionResultInvalid)
  pure (succeededAction result.providerOperationRef result.affectedRecords
    result.resultManifestHash result.evidenceObjectRef (result.backupErasureDueAt.getD none)
    result.completedAt action)

def executeAction : PrivacyM PrivacyAction :=
  if action.kind = PrivacyActionKind.exportData.value then executeExportAction turn action
  else executePrivacyAction turn action

def errorClassOf : Failure → String
  | .app _ => "AppError"
  | _ => turn.errorClass

/-- The body of the loop of `process_privacy_request`: what it makes of one action.  The session
flushes nothing by itself, but a broken one refuses the query for the holds as it refuses the flush at
the start of the action, and one flush stands for both. -/
def takeTurn : PrivacyM PrivacyAction :=
  if action.state = .succeeded then pure action
  else do
    flushPrivacy turn.stored
    let s ← get
    if s.request.kind = .delete ∧ holdsMatching s.request turn.now turn.holds ≠ [] then
      pure (skippedAction turn.now action)
    else
      tryCatch (executeAction turn (startAction turn.startedAt action)) fun failure =>
        pure (failedAction turn.checkedAt
          (failureCodeOf "PRIVACY_ACTION_EXECUTION_FAILED" failure) (errorClassOf turn failure)
          (startAction turn.startedAt action))

def takeTurns (turns : Uuid → ActionTurn) : List PrivacyAction → PrivacyM (List PrivacyAction)
  | [] => pure []
  | action :: actions => do
    let done ← takeTurn (turns action.id) action
    let rest ← takeTurns turns actions
    pure (done :: rest)

def latest (dates : List Int) : Option Int := dates.max?

def issueDeletionCertificate (actions : List PrivacyAction) : PrivacyM Unit := do
  let s ← get
  if s.certificates = [] then
    let systemResults := actions.map systemResult
    let due := latest (actions.filterMap (·.backupErasureDueAt))
    modify fun s => { s with certificates := [{
      completedDataClasses := s.request.dataClasses
      systemResults := systemResults
      manifestHash := PrivacyHashes.certificateHash s.request.id s.request.dataClasses systemResults due
      backupErasureDueAt := due }] }
  else pure ()

/-- What the final state brings with it. -/
def closeRequest (finishedAt : Int) (actions : List PrivacyAction)
    (final : PrivacyRequestState) : PrivacyM Unit := do
  let s ← get
  if final = .completed then
    updateRequest ({ · with completedAt := some finishedAt })
    if s.request.kind = .delete then issueDeletionCertificate actions else pure ()
  else if final = .failed then
    updateRequest ({ · with failureCode := some "PRIVACY_ACTIONS_FAILED" })
  else pure ()

def concludeRequest (d : PrivacyDelivery) (actions : List PrivacyAction) : PrivacyM Unit := do
  modify fun s => { s with actions := actions }
  let final := privacyCompletionState (actions.map (·.state))
  moveRequest final
  closeRequest d.finishedAt actions final
  flushPrivacy d.concluded

/-- `ORDER BY sequence`. -/
def inSequence (actions : List PrivacyAction) : List PrivacyAction :=
  actions.insertionSort fun action other => action.sequence ≤ other.sequence

def processActions (d : PrivacyDelivery) : PrivacyM Unit := do
  moveRequest .processing
  updateRequest ({ · with processingStartedAt := some d.now })
  let s ← get
  let actions ← takeTurns d.turns (inSequence s.actions)
  concludeRequest d actions

def processPrivacyRequest (d : PrivacyDelivery) (workspaceId : Uuid) : PrivacyM Unit := do
  let request ← requestRow workspaceId
  if request.state ≠ .queued then pure ()
  else if request.kind = .delete ∧ holdsMatching request d.now d.holds ≠ [] then
    moveRequest .onHold
    flushPrivacy d.concluded
  else processActions d

end Service

/-- A queued request is taken into processing before it is failed. -/
def beginProcessing : PrivacyM Unit := do
  let s ← get
  if s.request.state = .queued then moveRequest .processing else pure ()

def endProcessing (code : String) : PrivacyM Unit := do
  let s ← get
  if s.request.state = .processing then
    moveRequest .failed
    updateRequest ({ · with failureCode := some (clip code) })
  else pure ()

def failPrivacyRuntime (workspaceId : Uuid) (code : String) (stored : Bool) : PrivacyM Unit := do
  let _ ← requestRow workspaceId
  beginProcessing
  endProcessing code
  flushPrivacy stored

def cancelPrivacyRequest (principal : PrivacyPrincipal) (stored : Bool) : PrivacyM Unit := do
  let request ← requestRow principal.workspaceId
  MonadExcept.ofExcept (require (request.requestedBy = principal.subjectId ∨
    principal.managesPrivacy = true) (requestAccessDenied "요청을 취소할 권한이 없습니다."))
  moveRequest .cancelled
  flushPrivacy stored

def rejectPrivacyRequest (principal : PrivacyPrincipal) (rejectionCode : String) (stored : Bool) :
    PrivacyM Unit := do
  let _ ← requestRow principal.workspaceId
  moveRequest .rejected
  updateRequest ({ · with rejectionCode := some rejectionCode })
  flushPrivacy stored

section Runs

variable [PrivacyHashes]

/-- `_run_privacy`, which knows the request by its own workspace. -/
def runPrivacy (d : PrivacyDelivery) : PrivacyM Unit := do
  let s ← get
  if d.configured then
    tryCatch (processPrivacyRequest d s.request.workspaceId) fun failure =>
      failPrivacyRuntime s.request.workspaceId
        (failureCodeOf "DATA_RIGHTS_EXECUTION_FAILED" failure) d.failureStored
  else failPrivacyRuntime s.request.workspaceId "DATA_RIGHTS_RUNTIME_UNAVAILABLE" d.failureStored

def performPrivacy : PrivacyStep → PrivacyM Unit
  | .verify call => verifyPrivacyRequest call
  | .plan call => planPrivacyRequest call
  | .process delivery => runPrivacy delivery
  | .failRuntime code stored => do
      let s ← get
      failPrivacyRuntime s.request.workspaceId code stored
  | .cancel principal stored => cancelPrivacyRequest principal stored
  | .reject principal rejectionCode stored => rejectPrivacyRequest principal rejectionCode stored

/-- One call in a transaction of its own: what leaves it is rolled back. -/
def stepPrivacy (s : PrivacySession) (step : PrivacyStep) : PrivacySession :=
  match performPrivacy step s with
  | .ok _ after => after
  | .error _ after => { s with calls := after.calls }

end Runs

end BlogOps.Security
