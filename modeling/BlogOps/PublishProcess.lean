import BlogOps.PublishSaga

/-!
# `process_publish_job`

One worker run of a publish job: skip it, cancel it, refuse it, or run its
operation and complete it, with what happens to the job when that fails.
-/

namespace BlogOps.Publishing

open Jobs KeyedTables

variable {ρ : Type} [CanonicalHash]

/-- What a run returns to its task: the state and the delay of a retry. -/
abbrev RunResult := JobState × Option Nat

def runResult : Saga ρ RunResult := do
  let job ← getJob
  return (job.state, job.retryAfterSeconds)

variable (env : WorkerEnv ρ)

def completeJob (incomplete : Bool) : Saga ρ Unit := do
  setJobState (if incomplete then .partialSuccess else .succeeded)
  modifyJob fun job => { job with finishedAt := some env.now }
  notifyAndEmit env.now (if incomplete then "publishing.job.partial" else "publishing.job.succeeded")
  succeedLocalStep env.now .notify
  skipPendingSteps env.now

def finalFailure (code detail : String) : Saga ρ Unit := do
  setJobState .finalFailed
  modifyJob fun job => { job with
    errorCode := some code
    errorDetail := some (String.ofList (detail.toList.take 4000))
    finishedAt := some env.now }
  recordLocalFailure env.now code
  releaseUncompleted env.now

/-- The state that a provider failure leaves the job in: another attempt, or the end. -/
def retryOrGiveUp (failure : ProviderFailure) : Saga ρ Unit := do
  let job ← getJob
  if failure.retryClass.retryable ∧ job.attempt < job.maxAttempts then do
    setJobState .retryableFailed
    modifyJob fun job => { job with retryAfterSeconds := some (retryDelay failure job.attempt) }
  else do
    setJobState .finalFailed
    modifyJob fun job => { job with finishedAt := some env.now }
    skipPendingSteps env.now

def noteError (code detail : String) : Saga ρ Unit :=
  modifyJob fun job => { job with errorCode := some code, errorDetail := some detail }

def scheduleAlreadyEffective (endpointPath : String) : ProviderFailure where
  code := "PUBLISH_SCHEDULE_ALREADY_EFFECTIVE"
  detail := "원격 예약 시각이 지나 이미 발행된 게시물은 예약 취소할 수 없습니다."
  retryClass := .final
  statusCode := some 409
  method := "GET"
  endpointPath := endpointPath

variable (channel : Channel ρ)

/-- Takes a scheduled remote post off its schedule. -/
def unschedule (post : PublishedPost) : Saga ρ Unit := do
  let stepId ← runningStep env.now .cancelRemote
  let remoteCall ← callProvider stepId .getPost <|
    channel.provider.getPost channel.context channel.secret post.remoteId
  recordCall stepId remoteCall (some remoteCall.value.remoteId)
  let remoteState := casefold remoteCall.value.state
  if remoteState ∈ ["draft"] then do
    finishStep env.now stepId
    applyRemote env post.id remoteCall.value false
  else if remoteState ∈ ["scheduled", "future"] then do
    let call ← callProvider stepId .cancelScheduled <|
      channel.provider.cancelScheduled channel.context channel.secret remoteCall.value
    recordCall stepId call (some call.value.remoteId)
    finishStep env.now stepId
    applyRemote env post.id call.value false
  else raise (scheduleAlreadyEffective remoteCall.endpointPath)

/-- The remote part of `_cancel_job`; returns `schedule_released`. -/
def releaseSchedule : Saga ρ Bool := do
  let job ← getJob
  match job.targetPublishedPostId with
  | none => return false
  | some postId => do
    let post ← publishedPost postId
    if post.state = .scheduled then do
      unschedule env channel post
      return true
    else return false

/-- Cancels the job and gives its quota back. -/
def closeCancelled (scheduleReleased : Bool) : Saga ρ RunResult := do
  setJobState .cancelled
  modifyJob fun job => { job with cancelledAt := some env.now, finishedAt := some env.now }
  cancelPendingSteps
  releaseQuota env.now scheduleReleased
  notifyAndEmit env.now "publishing.job.cancelled"
  repoFlush "publish_job_cancellation"
  return (.cancelled, none)

def cancelJob : Saga ρ RunResult := do
  let scheduleReleased ← releaseSchedule env channel
  closeCancelled env scheduleReleased

def cancelLocalJob : Saga ρ RunResult := closeCancelled env false

def cancelFailed : Exc → Saga ρ RunResult
  | .provider failure => do
    emit (.handled failure)
    recordProviderFailure env.now failure
    retryOrGiveUp env failure
    noteError failure.code failure.detail
    let job ← getJob
    notifyAndEmit env.now
      (if job.state = .retryableFailed then "publishing.job.cancel_retryable_failed"
        else "publishing.job.cancel_final_failed")
    repoFlush "publish_job_cancellation"
    runResult
  | e => throw e

def startAttempt : Saga ρ Unit := modifyJob fun job => { job with attempt := job.attempt + 1 }

def processCancellation : Saga ρ RunResult := do
  startAttempt
  tryCatch (cancelJob env channel) (cancelFailed env)

variable (connection : PublishingConnection) (policy : PublicationPolicy)

def runOperation (channel : Channel ρ) : PublishOperation → Saga ρ Bool
  | .create => createRemote env connection policy channel
  | .update => updateRemote env connection policy channel
  | .delete => deleteRemote env channel
  | .reconcile => reconcileRemote env connection policy channel
  | .rollback => rollbackRemote env channel

def beginPublishing : Saga ρ Unit := do
  setJobState .publishing
  modifyJob fun job => { job with
    startedAt := some (job.startedAt.getD env.now)
    attempt := job.attempt + 1
    errorCode := none
    errorDetail := none
    retryAfterSeconds := none }

/-- A failure ends the job: its error is kept, and everybody is told. -/
def finallyFail (code detail : String) : Saga ρ Unit := do
  finalFailure env code detail
  notifyAndEmit env.now "publishing.job.final_failed"

def releaseWhenFinal : Saga ρ Unit := do
  let job ← getJob
  if job.state = .finalFailed then releaseUncompleted env.now else return ()

def publishFailed : Exc → Saga ρ Unit
  | .provider failure => do
    emit (.handled failure)
    recordProviderFailure env.now failure
    retryOrGiveUp env failure
    releaseWhenFinal env
    let job ← getJob
    noteError failure.code failure.detail
    notifyAndEmit env.now
      (if job.state = .retryableFailed then "publishing.job.retryable_failed"
        else "publishing.job.final_failed")
  | .app error => finallyFail env error.code error.message
  | .uncaught => throw .uncaught

/-- The operation of the job, and the completion of the job after it. -/
def publishAndComplete (channel : Channel ρ) : Saga ρ Unit := do
  let job ← getJob
  let incomplete ← runOperation env connection policy channel job.operation
  completeJob env incomplete

def processPublication (channel : Channel ρ) : Saga ρ RunResult := do
  beginPublishing env
  tryCatch (publishAndComplete env connection policy channel) (publishFailed env)
  repoFlush "publish_job"
  runResult

/-- Ends the job before anything was sent to the provider. -/
def refuseJob (code detail : String) : Saga ρ RunResult := do
  finallyFail env code detail
  repoFlush "publish_job"
  return (.finalFailed, none)

/-- A redelivered job that has nothing left to do. -/
def finished (job : PublishJob) : Bool := job.state ∈ [.partialSuccess, .finalFailed, .cancelled] ||
    (job.state = .succeeded && job.cancelRequestedAt.isNone)

/-- Cancelled before its first attempt. -/
def cancelledUnstarted (job : PublishJob) : Bool :=
  job.cancelRequestedAt.isSome && job.state = .cancelRequested && job.startedAt.isNone

def cancelling (job : PublishJob) : Bool :=
  job.cancelRequestedAt.isSome && job.state ∈ [.cancelRequested, .retryableFailed]

def snapshotMismatch (job : PublishJob) (policy : PublicationPolicy) : Bool :=
  canonicalHash (.policySnapshot policy.snapshotJson) ≠ policy.snapshotHash ||
    policy.snapshotHash ≠ job.policySnapshotHash ||
    job.policySnapshot ≠ policy.snapshotJson ||
    canonicalHash (.inputSnapshot job.inputSnapshot) ≠ job.inputSnapshotHash

/-- The run once its connection and its policy are loaded. -/
def processWith : Saga ρ RunResult := do
  let job ← getJob
  if snapshotMismatch job policy then
    refuseJob env "PUBLISH_JOB_SNAPSHOT_MISMATCH" "게시 정책 또는 입력 스냅샷 무결성 검증에 실패했습니다."
  else match openChannel env connection with
    | .error (.app error) => refuseJob env error.code error.message
    | .error e => throw e
    | .ok channel =>
      if cancelling job then processCancellation env channel
      else processPublication env connection policy channel

def processPublishJob (connections : List PublishingConnection) (policies : List PublicationPolicy) :
    Saga ρ RunResult := do
  let job ← getJob
  if finished job then runResult
  else if cancelledUnstarted job then do
    startAttempt
    cancelLocalJob env
  else match connections.find? (·.id = job.connectionId) with
    | none => throw (.app (notFound "PUBLISHING_CONNECTION" "게시 연결"))
    | some connection =>
      match policies.find? (·.id = job.policyId) with
      | none => throw (.app (notFound "PUBLISHING_POLICY" "게시 정책"))
      | some policy => processWith env connection policy

end BlogOps.Publishing
