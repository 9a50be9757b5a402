import BlogOps.AppErrors

/-!
# Security rules

The data classes, the states of a privacy request and of its actions, and the
pure rules over them.  A data class, an action kind or a target that comes from
outside is a text.
-/

namespace BlogOps.Security

inductive DataClass where
  | account | content | knowledge | media | searchIndex | vector | analytics | credential | audit
  | billing | backup
deriving DecidableEq, Repr

def DataClass.value : DataClass → String
  | .account => "ACCOUNT"
  | .content => "CONTENT"
  | .knowledge => "KNOWLEDGE"
  | .media => "MEDIA"
  | .searchIndex => "SEARCH_INDEX"
  | .vector => "VECTOR"
  | .analytics => "ANALYTICS"
  | .credential => "CREDENTIAL"
  | .audit => "AUDIT"
  | .billing => "BILLING"
  | .backup => "BACKUP"

def DataClass.all : List DataClass :=
  [.account, .content, .knowledge, .media, .searchIndex, .vector, .analytics, .credential, .audit,
    .billing, .backup]

/-- `{item.value for item in DataClass}`. -/
def dataClassValues : List String := DataClass.all.map DataClass.value

def isSha256Hex (value : String) : Bool :=
  value.length = 64 && value.toList.all fun c => c ∈ "0123456789abcdef".toList

def securityConflict (code message : String) : Failure := .app { code, message, statusCode := 409 }

def unprocessable (code message : String) : Failure := .app { code, message, statusCode := 422 }

/-- What an external port delivered breaks its contract. -/
def contractBroken (code message : String) : Failure := .app { code, message, statusCode := 503 }

def fiveMinutes : Int := 5 * 60 * 1000000

/-- The database stores no text with a zero character. -/
def storableText (value : String) : Bool := Char.ofNat 0 ∉ value.toList

def isSecretReference (value : String) : Bool :=
  ["secret-manager://", "vault://", "kms-envelope://"].any fun scheme =>
    scheme.toList.isPrefixOf value.toList

def requireSecretReference (value path : String) : Except Failure Unit :=
  require (isSecretReference value = true) (.app {
    code := "SECURE_REFERENCE_REQUIRED"
    message := "민감 정보는 평문이 아닌 보안 저장소 참조로 전달해야 합니다."
    statusCode := 422
    fields := [⟨path, "secure reference required"⟩] })

structure PrivacyPrincipal where
  workspaceId : Uuid
  subjectId : Uuid
  /-- `"privacy:manage" in permissions`. -/
  managesPrivacy : Bool := false
deriving DecidableEq, Repr

inductive PrivacyRequestKind where
  | access | exportData | correct | delete | restrictProcessing
deriving DecidableEq, Repr

inductive PrivacyRequestState where
  | identityPending | verified | onHold | queued | processing | partly | completed | rejected
  | cancelled | failed
deriving DecidableEq, Repr

def PrivacyRequestState.value : PrivacyRequestState → String
  | .identityPending => "IDENTITY_PENDING"
  | .verified => "VERIFIED"
  | .onHold => "ON_HOLD"
  | .queued => "QUEUED"
  | .processing => "PROCESSING"
  | .partly => "PARTIAL"
  | .completed => "COMPLETED"
  | .rejected => "REJECTED"
  | .cancelled => "CANCELLED"
  | .failed => "FAILED"

def privacyTransitions : PrivacyRequestState → List PrivacyRequestState
  | .identityPending => [.verified, .rejected, .cancelled]
  | .verified => [.onHold, .queued, .rejected, .cancelled]
  | .onHold => [.queued, .cancelled]
  | .queued => [.onHold, .processing, .cancelled]
  | .processing => [.partly, .completed, .failed]
  | .partly => [.queued, .completed]
  | .completed | .rejected | .cancelled => []
  | .failed => [.queued]

def ensurePrivacyTransition (current target : PrivacyRequestState) : Except Failure Unit :=
  require (target ∈ privacyTransitions current) (.app {
    code := "PRIVACY_REQUEST_TRANSITION_INVALID"
    message := "데이터 권리 요청 상태를 해당 상태로 변경할 수 없습니다."
    statusCode := 409
    fields := [⟨"state", current.value ++ "->" ++ target.value⟩] })

inductive PrivacyActionKind where
  | exportData | correct | deleteDatabase | deleteSearch | deleteVector | deleteObjects
  | revokeCredentials | anonymizeAnalytics | restrictProcessing | scheduleBackupErasure
deriving DecidableEq, Repr

def PrivacyActionKind.value : PrivacyActionKind → String
  | .exportData => "EXPORT"
  | .correct => "CORRECT"
  | .deleteDatabase => "DELETE_DATABASE"
  | .deleteSearch => "DELETE_SEARCH"
  | .deleteVector => "DELETE_VECTOR"
  | .deleteObjects => "DELETE_OBJECTS"
  | .revokeCredentials => "REVOKE_CREDENTIALS"
  | .anonymizeAnalytics => "ANONYMIZE_ANALYTICS"
  | .restrictProcessing => "RESTRICT_PROCESSING"
  | .scheduleBackupErasure => "SCHEDULE_BACKUP_ERASURE"

def PrivacyActionKind.all : List PrivacyActionKind :=
  [.exportData, .correct, .deleteDatabase, .deleteSearch, .deleteVector, .deleteObjects,
    .revokeCredentials, .anonymizeAnalytics, .restrictProcessing, .scheduleBackupErasure]

/-- `PrivacyActionKind(value)`, `none` for a `ValueError`. -/
def PrivacyActionKind.ofValue (value : String) : Option PrivacyActionKind :=
  PrivacyActionKind.all.find? (·.value = value)

def requiredActionsForRequest : PrivacyRequestKind → List PrivacyActionKind
  | .access | .exportData => [.exportData]
  | .correct => [.correct]
  | .restrictProcessing => [.restrictProcessing]
  | .delete => [.deleteDatabase, .deleteSearch, .deleteVector, .deleteObjects,
      .revokeCredentials, .anonymizeAnalytics, .scheduleBackupErasure]

structure PlannedPrivacyAction where
  kind : String
  dataClasses : List String
  targetSystem : String
  targetLocatorRef : String
  sequence : Int
  /-- The canonical JSON of the metadata. -/
  planMetadata : String
deriving DecidableEq, Repr

/-- The checks that the loop of `validate_action_plan` makes of one action. -/
def validatePlannedAction (requestedDataClasses : List String) (action : PlannedPrivacyAction) :
    Except Failure PrivacyActionKind :=
  match PrivacyActionKind.ofValue action.kind with
  | none => .error (contractBroken "PRIVACY_ACTION_PLAN_INVALID"
      "실행 계획에 지원하지 않는 작업이 포함되어 있습니다.")
  | some kind => do
    require (action.dataClasses ≠ [] ∧ (∀ c ∈ action.dataClasses, c ∈ dataClassValues) ∧
      ∀ c ∈ action.dataClasses, c ∈ requestedDataClasses) (contractBroken
        "PRIVACY_ACTION_DATA_CLASS_INVALID" "실행 계획의 데이터 범위가 요청 범위를 벗어났습니다.")
    require (1 ≤ action.targetSystem.length ∧ action.targetSystem.length ≤ 120) (contractBroken
      "PRIVACY_ACTION_TARGET_INVALID" "실행 계획의 대상 시스템이 올바르지 않습니다.")
    .ok kind

def planIncomplete (missingKinds missingClasses : List String) : Failure := .app {
  code := "PRIVACY_ACTION_PLAN_INCOMPLETE"
  message := "실행 계획이 요청 유형 또는 데이터 범위를 완전히 다루지 않습니다."
  statusCode := 503
  fields := (missingKinds.mergeSort (· ≤ ·)).map (fun kind => ⟨"actions", "missing:" ++ kind⟩) ++
    (missingClasses.mergeSort (· ≤ ·)).map fun c => ⟨"data_classes", "uncovered:" ++ c⟩ }

def validateActionPlan (requestKind : PrivacyRequestKind) (requestedDataClasses : List String)
    (actions : List PlannedPrivacyAction) : Except Failure Unit := do
  require (actions ≠ []) (contractBroken "PRIVACY_ACTION_PLAN_EMPTY" "검증된 데이터 권리 실행 계획이 없습니다.")
  let plannedKinds ← actions.mapM (validatePlannedAction requestedDataClasses)
  let missingKinds := (requiredActionsForRequest requestKind).filter (· ∉ plannedKinds)
  let missingClasses := requestedDataClasses.filter (· ∉ actions.flatMap (·.dataClasses))
  require (missingKinds = [] ∧ missingClasses = [])
    (planIncomplete (missingKinds.map PrivacyActionKind.value) missingClasses)

inductive PrivacyActionState where
  | pending | running | succeeded | skippedLegalHold | failed
deriving DecidableEq, Repr

def privacyCompletionState (states : List PrivacyActionState) : PrivacyRequestState :=
  if states = [] then .failed
  else if .failed ∈ states then if .succeeded ∈ states then .partly else .failed
  else if ∀ state ∈ states, state = .succeeded ∨ state = .skippedLegalHold then
    if .skippedLegalHold ∈ states then .partly else .completed
  else .processing

end BlogOps.Security
