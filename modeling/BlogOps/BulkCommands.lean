import BlogOps.BulkRows

/-!
# Commands on a bulk job

`authorize_next_row`, `record_row_attempt`, `retry_rows`, `approve_rows` and
the pause, resume and cancel commands, as functions on the session of one
transaction.  The session does not flush on its own: a SELECT sees the rows as
they were last flushed, while a row that was loaded keeps its pending values.
-/

namespace BlogOps.Bulk

open Jobs KeyedTables Quality

/-- One bulk job as a session holds it; `stored` are its rows as of the last flush. -/
structure BulkSession where
  job : BulkJob
  rows : List BulkRow := []
  stored : List BulkRow := []
  attempts : List BulkRowAttempt := []
  commands : List BulkJobCommand := []
deriving DecidableEq, Repr

structure BulkPrincipal where
  subjectId : Uuid
  /-- `"bulk:manage" in permissions`. -/
  managesBulk : Bool := false
deriving DecidableEq, Repr

/-- The assessments and approval requests that a call finds. -/
structure Reviews where
  assessments : List QualityAssessment := []
  approvals : List ApprovalRequest := []

def flush (s : BulkSession) : BulkSession := { s with stored := s.rows }

/-- A session that is committed, as the next one reads it. -/
def committed (s : BulkSession) : BulkSession where
  job := s.job.stored
  rows := s.rows.map BulkRow.stored
  stored := s.rows.map BulkRow.stored
  attempts := s.attempts.map BulkRowAttempt.stored
  commands := s.commands

def bulkConflict (code message : String) : Failure := .app { code, message, statusCode := 409 }

def rowNotFound : Failure :=
  .app { code := "BULK_ROW_NOT_FOUND", message := "대량 작업 행을(를) 찾을 수 없습니다.", statusCode := 404 }

def rowOf (rowId : Uuid) (s : BulkSession) : Except Failure BulkRow :=
  match s.rows.find? (·.id = rowId) with
  | some row => .ok row
  | none => .error rowNotFound

def setRow (row : BulkRow) (s : BulkSession) : BulkSession :=
  { s with rows := updateRow (·.id) row.id (fun _ => row) s.rows }

def countStates (states : List BulkRowState) (rows : List BulkRow) : Nat :=
  rows.countP fun row => row.state ∈ states

/-- The counts of `_refresh_progress`, in the order of its columns. -/
structure ProgressCounts where
  processedRows : Nat
  succeededRows : Nat
  reviewRows : Nat
  failedRows : Nat
  cancelledRows : Nat
deriving DecidableEq, Repr

def progressOf (rows : List BulkRow) : ProgressCounts where
  processedRows := countStates processedRowStates rows
  succeededRows := countStates [.succeeded, .approved] rows
  reviewRows := countStates [.duplicate, .waitingReview, .qualityBlocked] rows
  failedRows := countStates [.invalid, .retryableFailed, .finalFailed] rows
  cancelledRows := countStates [.cancelled] rows

def BulkJob.counts (job : BulkJob) : ProgressCounts where
  processedRows := job.processedRows
  succeededRows := job.succeededRows
  reviewRows := job.reviewRows
  failedRows := job.failedRows
  cancelledRows := job.cancelledRows

def BulkJob.setCounts (counts : ProgressCounts) (job : BulkJob) : BulkJob :=
  { job with
    processedRows := counts.processedRows
    succeededRows := counts.succeededRows
    reviewRows := counts.reviewRows
    failedRows := counts.failedRows
    cancelledRows := counts.cancelledRows
    progressPercent := min 100
      (if job.targetRows = 0 then 0 else (counts.processedRows * 100 : ℚ) / job.targetRows) }

/-- `_refresh_progress`: the counting SELECT reads the flushed rows. -/
def refreshProgress (s : BulkSession) : BulkSession :=
  { s with job := s.job.setCounts (progressOf s.stored) }

structure BulkRowsCommand where
  rowIds : List Uuid
  reason : String
  idempotencyKey : String
  row_ids_nonempty : rowIds ≠ []
  row_ids_distinct : rowIds.Nodup

structure BulkCommandRequest where
  reason : String
  idempotencyKey : String
deriving DecidableEq, Repr

def recordedCommand (actorId : Uuid) (kind : BulkCommandKind) (idempotencyKey : String)
    (s : BulkSession) : Option BulkJobCommand :=
  s.commands.find? fun command =>
    command.actorId = actorId ∧ command.kind = kind ∧ command.idempotencyKey = idempotencyKey

def assertCommandMatches (command : BulkJobCommand) (reason : String) (rowIds : List Uuid) :
    Except Failure Unit :=
  require (command.reason = reason ∧ command.rowIds = rowIds)
    (bulkConflict "IDEMPOTENCY_KEY_REUSED" "같은 명령 멱등키가 다른 요청에 사용되었습니다.")

/-- `_append_command`; a new command is flushed, with everything else that is pending. -/
def appendCommand (actorId : Uuid) (kind : BulkCommandKind) (idempotencyKey reason : String)
    (rowIds : List Uuid) (s : BulkSession) : Except Failure BulkSession :=
  match recordedCommand actorId kind idempotencyKey s with
  | some existing => do
    assertCommandMatches existing reason rowIds
    .ok s
  | none => .ok (flush { s with
      commands := s.commands ++ [⟨actorId, kind, idempotencyKey, reason, rowIds⟩] })

variable (principal : BulkPrincipal)

def requireJobController (job : BulkJob) : Except Failure Unit :=
  require (job.requestedBy = principal.subjectId ∨ principal.managesBulk) (.app {
    code := "BULK_JOB_CONTROL_DENIED"
    message := "다른 사용자의 대량 작업을 제어할 권한이 없습니다."
    statusCode := 403 })

def commandableJob (job : BulkJob) : Except Failure Unit := do
  require (job.state ∉ terminalJobStates) (bulkConflict "BULK_JOB_TERMINAL" "완료된 대량 작업은 변경할 수 없습니다.")
  requireJobController principal job

def pauseJob (now : Int) (principal : BulkPrincipal) (data : BulkCommandRequest)
    (s : BulkSession) : Except Failure BulkSession := do
  commandableJob principal s.job
  let job := if s.job.pauseRequested then s.job else { s.job with
    pauseRequested := true
    pauseRequestedAt := some now
    pausedBy := some principal.subjectId }
  appendCommand principal.subjectId .pause data.idempotencyKey data.reason [] { s with job := job }

def resumeJob (data : BulkCommandRequest) (s : BulkSession) : Except Failure BulkSession := do
  commandableJob principal s.job
  require (s.job.budgetKillSwitchTriggered = false) (bulkConflict "BULK_BUDGET_KILL_ACTIVE"
    "예산 Kill Switch가 활성화된 작업은 재개할 수 없습니다.")
  appendCommand principal.subjectId .resume data.idempotencyKey data.reason [] { s with
    job := { s.job with pauseRequested := false, pauseRequestedAt := none, pausedBy := none } }

def cancelJob (now : Int) (principal : BulkPrincipal) (data : BulkCommandRequest)
    (s : BulkSession) : Except Failure BulkSession := do
  commandableJob principal s.job
  if s.job.state = .cancelRequested then
    appendCommand principal.subjectId .cancel data.idempotencyKey data.reason [] s
  else do
    (ensureJobTransition s.job.state .cancelRequested).mapError .app
    appendCommand principal.subjectId .cancel data.idempotencyKey data.reason [] { s with
      job := { s.job with
        state := .cancelRequested
        cancelRequestedAt := some now
        cancelledBy := some principal.subjectId
        pauseRequested := true } }

/-- The rows of a command, in the order of the table. -/
def rowsOf (rowIds : List Uuid) (s : BulkSession) : List BulkRow := s.rows.filter (·.id ∈ rowIds)

def checkRows (check : BulkRow → Except Failure Unit) : List BulkRow → Except Failure Unit
  | [] => .ok ()
  | row :: rows => do
    check row
    checkRows check rows

def changeRows (rowIds : List Uuid) (change : BulkRow → BulkRow) (s : BulkSession) : BulkSession :=
  { s with rows := s.rows.map fun row => if row.id ∈ rowIds then change row else row }

def checkRetry (job : BulkJob) (row : BulkRow) : Except Failure Unit := do
  require (row.state ≠ .approved ∧ row.approvedAt = none) (bulkConflict
    "BULK_APPROVED_ROW_PRESERVED" "승인된 행은 선택 재생성 또는 재시도 대상이 될 수 없습니다.")
  require (row.state ∈ retryableRowStates) (bulkConflict
    "BULK_ROW_NOT_RETRYABLE" "재시도 가능한 상태가 아닌 행이 포함되었습니다.")
  require (row.hardBlocked = false) (bulkConflict "BULK_ROW_HARD_BLOCKED" "정책 Hard Block 행은 재시도할 수 없습니다.")
  require (row.attempt < job.maxRowAttempts) (bulkConflict "BULK_RETRY_LIMIT_REACHED" "행별 최대 재시도 횟수에 도달했습니다.")

def retriedRow (regenerate : Bool) (row : BulkRow) : BulkRow :=
  let queued := { row with
    state := .queued
    nextRetryAt := none
    lastErrorCode := none
    lastErrorDetail := none }
  if regenerate then { queued with
    generationJobId := none
    contentId := none
    contentVersionId := none
    contentHash := none
    qualityAssessmentId := none
    qualityPassed := none
    approvalRequestId := none
    approvedContentHash := none }
  else queued

def retryKind (regenerate : Bool) : BulkCommandKind :=
  if regenerate then .regenerateRows else .retryRows

/-- A command that is not a replay. -/
def retryNewRows (data : BulkRowsCommand) (regenerate : Bool) (s : BulkSession) :
    Except Failure BulkSession := do
  require (s.job.state ∉ terminalJobStates ∧ s.job.pauseRequested = false ∧
    s.job.budgetKillSwitchTriggered = false) (bulkConflict
      "BULK_JOB_NOT_RETRYABLE" "현재 대량 작업에서 행을 재시도할 수 없습니다.")
  require ((rowsOf data.rowIds s).length = data.rowIds.length) rowNotFound
  checkRows (checkRetry s.job) (rowsOf data.rowIds s)
  appendCommand principal.subjectId (retryKind regenerate) data.idempotencyKey data.reason
    data.rowIds (changeRows data.rowIds (retriedRow regenerate) s)

def retryRows (data : BulkRowsCommand) (regenerate : Bool) (s : BulkSession) :
    Except Failure BulkSession := do
  requireJobController principal s.job
  match recordedCommand principal.subjectId (retryKind regenerate) data.idempotencyKey s with
  | some existing => do
    assertCommandMatches existing data.reason data.rowIds
    .ok s
  | none => retryNewRows principal data regenerate s

variable (reviews : Reviews)

def approvalOf (approvalRequestId : Option Uuid) : Option ApprovalRequest :=
  approvalRequestId.bind fun id => reviews.approvals.find? (·.id = id)

/-- The approval of a row stands for its present content. -/
def approvalCurrent (row : BulkRow) : Bool :=
  (approvalOf reviews row.approvalRequestId).any fun approval =>
    approval.status = .approved && approval.approvedContentHash = row.contentHash

def checkApproval (row : BulkRow) : Except Failure Unit := do
  require (row.hardBlocked = false ∧ row.qualityPassed = some true) (.app {
    code := "BULK_ROW_APPROVAL_BLOCKED"
    message := "정책 위험 또는 품질 미달 행은 일괄 승인에서 제외해야 합니다."
    statusCode := 409
    remediation := some [("row_id", .text (toString row.id))] })
  require (row.approvalRequestId.isSome ∧ row.contentHash.any (· ≠ "")) (bulkConflict
    "BULK_ROW_APPROVAL_EVIDENCE_MISSING" "행별 승인 요청과 정확한 콘텐츠 버전이 필요합니다.")
  require (approvalCurrent reviews row) (bulkConflict
    "BULK_ROW_APPROVAL_STALE" "승인 결과가 현재 행의 콘텐츠 Hash와 일치하지 않습니다.")

def approvedRow (now : Int) (principal : BulkPrincipal) (row : BulkRow) : BulkRow :=
  { row with
    state := .approved
    approvedContentHash := row.contentHash
    approvedBy := some principal.subjectId
    approvedAt := some now }

/-- A command that is not a replay; the state of the rows is not looked at. -/
def approveNewRows (now : Int) (principal : BulkPrincipal) (reviews : Reviews)
    (data : BulkRowsCommand) (s : BulkSession) : Except Failure BulkSession := do
  require ((rowsOf data.rowIds s).length = data.rowIds.length) rowNotFound
  checkRows (checkApproval reviews) (rowsOf data.rowIds s)
  let s ← appendCommand principal.subjectId .approveRows data.idempotencyKey data.reason
    data.rowIds (changeRows data.rowIds (approvedRow now principal) s)
  .ok (refreshProgress s)

def approveRows (now : Int) (principal : BulkPrincipal) (reviews : Reviews)
    (data : BulkRowsCommand) (s : BulkSession) : Except Failure BulkSession :=
  match recordedCommand principal.subjectId .approveRows data.idempotencyKey s with
  | some existing => do
    assertCommandMatches existing data.reason data.rowIds
    .ok s
  | none => approveNewRows now principal reviews data s

def stopJob (now : Int) (job : BulkJob) : BulkJob :=
  { job with
    budgetKillSwitchTriggered := true
    pauseRequested := true
    pauseRequestedAt := some now }

def authorizeNextRow (now : Int) (rowId : Uuid) (nextEstimatedCost : Int) (s : BulkSession) :
    Except Failure (Bool × BulkSession) := do
  let row ← rowOf rowId s
  require (nextEstimatedCost = row.estimatedCost) (bulkConflict "BULK_BUDGET_ESTIMATE_MISMATCH"
    "고정된 행별 예상 원가와 다른 Hold 금액은 사용할 수 없습니다.")
  if s.job.pauseRequested ∨ s.job.budgetKillSwitchTriggered then .ok (false, s)
  else if s.job.state ∈ terminalJobStates ∨ s.job.state = .cancelRequested then .ok (false, s)
  else
    let decision ← evaluateBudgetBoundary s.job.actualCost s.job.heldCost nextEstimatedCost
      s.job.effectiveMaximum
    if decision.killSwitch then
      .ok (false, { s with job := { stopJob now s.job with
        errorCode := some "BUDGET_KILL_SWITCH"
        errorDetail := decision.reason } })
    else if row.state ≠ .ready ∧ row.state ≠ .queued then .ok (false, s)
    else .ok (true, setRow { row with state := .processing } { s with
      job := { s.job with heldCost := s.job.heldCost + nextEstimatedCost } })

/-- The arguments of `record_row_attempt`.  A cost that is not finite is refused with nothing
recorded, so that it is left out. -/
structure RowAttempt where
  rowId : Uuid
  outcome : BulkAttemptOutcome
  actualCost : ℚ
  startedAt : Int
  completedAt : Int
  generationJobId : Option Uuid := none
  contentId : Option Uuid := none
  contentVersionId : Option Uuid := none
  contentHash : Option String := none
  qualityAssessmentId : Option Uuid := none
  qualityPassed : Option Bool := none
  approvalRequestId : Option Uuid := none
  spamSimilarityScore : Option ℚ := none
  valueScore : Option ℚ := none
  riskFindings : List RiskFinding := []
  hardBlocked : Bool := false
  qualitySnapshot : Option QualitySnapshot := none
  approvalSnapshot : Option ApprovalSnapshot := none
  errorCode : Option String := none
  errorDetail : Option String := none
  retryable : Bool := false
deriving DecidableEq, Repr

/-- What an attempt may say of its row. -/
def checkAttempt (job : BulkJob) (row : BulkRow) (a : RowAttempt) : Except Failure Unit := do
  require (0 ≤ a.actualCost) (.app {
    code := "BULK_COST_INVALID", message := "행 원가는 음수일 수 없습니다.", statusCode := 422 })
  require (row.approvedAt = none) (bulkConflict "BULK_APPROVED_ROW_PRESERVED" "승인된 행 결과는 변경할 수 없습니다.")
  require (row.attempt + 1 ≤ job.maxRowAttempts) (bulkConflict
    "BULK_RETRY_LIMIT_REACHED" "행별 최대 시도 횟수를 초과했습니다.")

variable (a : RowAttempt)

def RowAttempt.exactContent : Bool :=
  a.contentId.isSome && a.contentVersionId.isSome && a.contentHash.isSome

def RowAttempt.noContent : Bool :=
  a.contentId.isNone && a.contentVersionId.isNone && a.contentHash.isNone

/-- What the server makes of the quality of an attempt. -/
structure AttemptQuality where
  passed : Option Bool
  hardBlocked : Bool
  snapshot : Option QualitySnapshot
deriving DecidableEq, Repr

def serverQualityPassed (assessment : QualityAssessment) : Bool :=
  assessment.decision = .pass && assessment.blockingPolicyEventIds.isEmpty &&
    assessment.nonOverrideablePolicyEventIds.isEmpty

def attemptQuality : Except Failure AttemptQuality :=
  match a.qualityAssessmentId with
  | some assessmentId =>
    match reviews.assessments.find? fun assessment =>
        assessment.id = assessmentId ∧ some assessment.contentId = a.contentId ∧
          some assessment.contentVersionId = a.contentVersionId ∧
          some assessment.contentHash = a.contentHash with
    | none => .error (bulkConflict "BULK_QUALITY_EVIDENCE_INVALID"
        "품질 평가가 정확한 콘텐츠 버전과 일치하지 않습니다.")
    | some assessment => do
      require (a.qualityPassed.all (· = serverQualityPassed assessment)) (bulkConflict
        "BULK_QUALITY_DECISION_MISMATCH"
        "전달된 품질 결과가 서버의 품질 평가 증거와 일치하지 않습니다.")
      .ok {
        passed := some (serverQualityPassed assessment)
        hardBlocked := a.hardBlocked || !assessment.nonOverrideablePolicyEventIds.isEmpty
        snapshot := some {
          assessmentId := assessment.id
          assessmentHash := assessment.assessmentHash
          decision := assessment.decision
          totalScore := assessment.totalScore
          blockingPolicyEventIds := assessment.blockingPolicyEventIds
          nonOverrideablePolicyEventIds := assessment.nonOverrideablePolicyEventIds } }
  | none => do
    require (a.qualityPassed = none ∧ a.qualitySnapshot = none) (bulkConflict
      "BULK_QUALITY_EVIDENCE_UNTRUSTED" "품질 평가는 서버에 저장된 평가 ID로만 증명할 수 있습니다.")
    .ok { passed := none, hardBlocked := a.hardBlocked, snapshot := none }

def attemptApproval : Except Failure (Option ApprovalRequest) :=
  match a.approvalRequestId with
  | some approvalRequestId =>
    match reviews.approvals.find? fun approval =>
        approval.id = approvalRequestId ∧ some approval.contentId = a.contentId ∧
          some approval.contentVersionId = a.contentVersionId ∧
          some approval.contentHash = a.contentHash with
    | none => .error (bulkConflict "BULK_APPROVAL_EVIDENCE_INVALID"
        "승인 요청이 정확한 콘텐츠 버전의 유효한 상태가 아닙니다.")
    | some approval => do
      require (approval.status = .pending ∨ approval.status = .approved) (bulkConflict
        "BULK_APPROVAL_EVIDENCE_INVALID"
        "승인 요청이 정확한 콘텐츠 버전의 유효한 상태가 아닙니다.")
      require (approval.status = .approved → approval.approvedContentHash = a.contentHash)
        (bulkConflict "BULK_APPROVAL_HASH_MISMATCH" "승인된 콘텐츠 Hash가 행 결과와 일치하지 않습니다.")
      .ok (some approval)
  | none => do
    require (a.approvalSnapshot = none) (bulkConflict "BULK_APPROVAL_EVIDENCE_UNTRUSTED"
      "승인 결과는 서버에 저장된 승인 요청 ID로만 증명할 수 있습니다.")
    .ok none

def effectiveOutcome (quality : AttemptQuality) (spam : SpamGateDecision) :
    Except Failure BulkAttemptOutcome := do
  if a.outcome = .succeeded then
    require a.exactContent (bulkConflict "BULK_CONTENT_EVIDENCE_MISSING" "성공 결과에는 정확한 콘텐츠 버전이 필요합니다.")
    require (a.qualityAssessmentId.isSome ∧ a.approvalRequestId.isSome) (bulkConflict
      "BULK_REVIEW_EVIDENCE_MISSING" "성공 결과에는 품질 평가와 승인 요청이 필요합니다.")
  if quality.hardBlocked then .ok .qualityBlocked
  else if a.outcome = .succeeded ∧ (quality.passed ≠ some true ∨ !spam.autoPublishAllowed) then
    .ok .qualityBlocked
  else .ok a.outcome

def isApproved (approval : Option ApprovalRequest) : Bool := approval.any (·.status = .approved)

def attemptState (approval : Option ApprovalRequest) : BulkAttemptOutcome → BulkRowState
  | .succeeded => if isApproved approval then .approved else .waitingReview
  | .qualityBlocked => .qualityBlocked
  | .retryableFailed => .retryableFailed
  | .finalFailed => .finalFailed
  | .cancelled => .cancelled

def attemptRow (row : BulkRow) (a : RowAttempt) (quality : AttemptQuality)
    (approval : Option ApprovalRequest) (outcome : BulkAttemptOutcome) : BulkRowAttempt where
  rowId := row.id
  attemptNumber := row.attempt + 1
  inputHash := row.inputHash
  outcome := outcome
  generationJobId := a.generationJobId
  contentId := a.contentId
  contentVersionId := a.contentVersionId
  contentHash := a.contentHash
  qualitySnapshot := quality.snapshot
  approvalSnapshot := approval.map fun approval => {
    approvalRequestId := approval.id
    status := approval.status
    approvedContentHash := approval.approvedContentHash
    approvalStagesHash := approval.approvalStagesHash }
  actualCost := a.actualCost
  errorCode := a.errorCode
  errorDetail := a.errorDetail
  retryable := a.retryable
  startedAt := a.startedAt
  completedAt := a.completedAt

def recordedRow (row : BulkRow) (a : RowAttempt) (quality : AttemptQuality)
    (approval : Option ApprovalRequest) (spam : SpamGateDecision) (outcome : BulkAttemptOutcome) : BulkRow :=
  let state := attemptState approval outcome
  let recorded := { row with
    attempt := row.attempt + 1
    actualCost := row.actualCost + a.actualCost
    generationJobId := a.generationJobId
    contentId := a.contentId
    contentVersionId := a.contentVersionId
    contentHash := a.contentHash
    qualityAssessmentId := a.qualityAssessmentId
    qualityPassed := quality.passed
    approvalRequestId := a.approvalRequestId
    spamSimilarityScore := a.spamSimilarityScore
    valueScore := a.valueScore
    riskFindings := a.riskFindings ++ spam.reasons.map fun reason => ⟨"BULK_SPAM_GATE", reason⟩
    hardBlocked := quality.hardBlocked
    lastErrorCode := a.errorCode
    lastErrorDetail := a.errorDetail
    state := state }
  match approval with
  | some approval =>
    if state = .approved then { recorded with
      approvedContentHash := approval.approvedContentHash
      approvedBy := approval.approvedBy
      approvedAt := approval.approvedAt }
    else recorded
  | none => recorded

/-- The costs of an attempt: its own on the job, and the estimate of the row off the hold. -/
def chargeAttempt (now : Int) (row : BulkRow) (a : RowAttempt) (job : BulkJob) : BulkJob :=
  let charged : BulkJob := { job with
    actualCost := job.actualCost + a.actualCost
    heldCost := max 0 (job.heldCost - row.estimatedCost) }
  if charged.effectiveMaximum ≤ charged.actualCost + charged.heldCost then stopJob now charged
  else charged

def recordRowAttempt (now : Int) (reviews : Reviews) (a : RowAttempt) (s : BulkSession) :
    Except Failure BulkSession := do
  let row ← rowOf a.rowId s
  checkAttempt s.job row a
  require (a.exactContent ∨ a.noContent) (.app {
    code := "BULK_CONTENT_IDENTITY_INCOMPLETE"
    message := "콘텐츠 ID·버전·Hash는 함께 기록해야 합니다."
    statusCode := 422 })
  let spam := evaluateSpamGate a.spamSimilarityScore a.valueScore s.job.spamPolicy
  let quality ← attemptQuality reviews a
  let approval ← attemptApproval reviews a
  let outcome ← effectiveOutcome a quality spam
  let s := setRow (recordedRow row a quality approval spam outcome) { s with
    attempts := s.attempts ++ [attemptRow row a quality approval outcome]
    job := chargeAttempt now row a s.job }
  .ok (refreshProgress (flush s))

end BlogOps.Bulk
