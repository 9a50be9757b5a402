import BlogOps.EffectRules
import BlogOps.KeyedTables
import BlogOps.PublishingRules

/-!
# The database session of a publish run

A worker run sees its rows twice: as last flushed, and as the objects in memory.
The session does not flush by itself, so a `SELECT` filters the flushed rows and
returns the objects with their values in memory.  The trace keeps what a run
does and its rows do not show: provider calls, failures and where they are
caught, assignments of the job state, and the corners of the quota bookkeeping.
-/

namespace BlogOps.Publishing

open Jobs KeyedTables

structure JobRows where
  job : PublishJob
  steps : List PublishSagaStep
  attempts : List PublishAttempt

structure Tables where
  posts : List PublishedPost := []
  snapshots : List RemotePostSnapshot := []
  bindings : List PublishedMediaBinding := []
  usages : List PublishQuotaUsage := []
  notifications : List PublishingNotification := []
  auditLogs : List AuditLog := []
  outboxEvents : List OutboxEvent := []

structure Rows extends JobRows, Tables

inductive ProviderOperation where
  | findByMarker | createPost | getPost | updatePost | deletePost | cancelScheduled | uploadMedia
  | restoreSnapshot
deriving DecidableEq

inductive SagaEvent where
  | called (operation : ProviderOperation)
  /-- The provider call that was made while the step was running raised. -/
  | failed (stepId : Uuid) (failure : ProviderFailure)
  /-- An operation caught the failure and went on. -/
  | caught (failure : ProviderFailure)
  /-- The failure reached an `except ProviderFailure` of `process_publish_job`. -/
  | handled (failure : ProviderFailure)
  | stepSucceeded (stepId : Uuid)
  | assigned (old new : JobState)
  /-- A `max(0, ...)` of `_release_quota` cut off a negative count. -/
  | quotaClamped
  /-- The guard of `_release_quota` kept a reservation that was never completed. -/
  | quotaWithheld
  | quotaRaised (code : String)
deriving DecidableEq

inductive Exc where
  | provider (failure : ProviderFailure)
  | app (error : AppError)
  | uncaught

structure Session (ρ : Type) where
  flushed : Rows
  memory : Rows
  nextId : Nat
  remote : ρ
  trace : List SagaEvent

abbrev Saga (ρ α : Type) := EStateM Exc (Session ρ) α

variable {ρ α κ : Type}

def getRows : Saga ρ Rows := do return (← get).memory

def getFlushed : Saga ρ Rows := do return (← get).flushed

def getJob : Saga ρ PublishJob := do return (← get).memory.job

def modifyRows (f : Rows → Rows) : Saga ρ Unit := modify fun s => { s with memory := f s.memory }

def modifyJob (f : PublishJob → PublishJob) : Saga ρ Unit :=
  modifyRows fun rows => { rows with job := f rows.job }

def modifyStep (id : Uuid) (f : PublishSagaStep → PublishSagaStep) : Saga ρ Unit :=
  modifyRows fun rows => { rows with steps := updateRow (·.id) id f rows.steps }

def modifyPost (id : Uuid) (f : PublishedPost → PublishedPost) : Saga ρ Unit :=
  modifyRows fun rows => { rows with posts := updateRow (·.id) id f rows.posts }

def modifyUsage (id : Uuid) (f : PublishQuotaUsage → PublishQuotaUsage) : Saga ρ Unit :=
  modifyRows fun rows => { rows with usages := updateRow (·.id) id f rows.usages }

def emit (event : SagaEvent) : Saga ρ Unit := modify fun s => { s with trace := s.trace ++ [event] }

def uuid4 : Saga ρ Uuid := do
  let s ← get
  set { s with nextId := s.nextId + 1 }
  return s.nextId

def setJobState (state : JobState) : Saga ρ Unit := do
  let job ← getJob
  emit (.assigned job.state state)
  modifyJob fun job => { job with state := state }

/-- The first flushed row that the query selects, with its values in memory. -/
def selectRow (table : Rows → List α) (id : α → Uuid) (p : α → Bool) (flushed memory : Rows) :
    Option α :=
  ((table flushed).find? p).bind fun row => (table memory).find? fun other => id other = id row

def selectStep (p : PublishSagaStep → Bool) : Saga ρ (Option PublishSagaStep) := do
  let s ← get
  return selectRow (·.steps) (·.id) p s.flushed s.memory

def selectPost (p : PublishedPost → Bool) : Saga ρ (Option PublishedPost) := do
  let s ← get
  return selectRow (·.posts) (·.id) p s.flushed s.memory

def selectSnapshot (p : RemotePostSnapshot → Bool) : Saga ρ (Option RemotePostSnapshot) := do
  let s ← get
  return selectRow (·.snapshots) (·.id) p s.flushed s.memory

def selectBinding (p : PublishedMediaBinding → Bool) : Saga ρ (Option PublishedMediaBinding) := do
  let s ← get
  return selectRow (·.bindings) (·.id) p s.flushed s.memory

def selectUsage (p : PublishQuotaUsage → Bool) : Saga ρ (Option PublishQuotaUsage) := do
  let s ← get
  return selectRow (·.usages) (·.id) p s.flushed s.memory

/-- A unique constraint; rows where the key is null are not compared. -/
def unique [DecidableEq κ] (key : α → Option κ) (rows : List α) : Bool :=
  decide (rows.filterMap key).Nodup

def constraintsHold (rows : Rows) : Bool :=
  unique (fun post => post.connectionId.map (·, post.remoteId)) rows.posts &&
    unique (·.createdByJobId) rows.posts &&
    unique (fun snapshot => some (snapshot.publishedPostId, snapshot.snapshotHash))
      rows.snapshots &&
    unique (fun binding =>
      some (binding.connectionId, binding.mediaVersionId, binding.mediaContentHash))
      rows.bindings &&
    unique (fun binding => some (binding.connectionId, binding.remoteMediaId)) rows.bindings &&
    unique (fun step => some step.sequence) rows.steps &&
    unique (fun attempt => some (attempt.stepId, attempt.attemptNumber)) rows.attempts

/-- `session.flush`; `onIntegrityError` is what its caller makes of an `IntegrityError`. -/
def flush (onIntegrityError : Exc) : Saga ρ Unit := do
  let s ← get
  if constraintsHold s.memory then set { s with flushed := s.memory }
  else throw onIntegrityError

def publishingConflict (resource : String) : AppError where
  code := "PUBLISHING_CONFLICT"
  message := "같은 게시 요청, 원격 게시물 또는 버전이 이미 존재합니다."
  statusCode := 409
  fields := [⟨"resource", resource⟩]

def repoFlush (resource : String) : Saga ρ Unit := flush (.app (publishingConflict resource))

abbrev RemoteCall (ρ α : Type) := ρ → Except Exc (ProviderCall α) × ρ

/-- Calls the provider while the step is running.  A call that raises may have
changed the remote side all the same. -/
def callProvider (stepId : Uuid) (operation : ProviderOperation) (method : RemoteCall ρ α) :
    Saga ρ (ProviderCall α) := do
  emit (.called operation)
  let s ← get
  let answer := method s.remote
  set { s with remote := answer.2 }
  match answer.1 with
  | .ok call => return call
  | .error (.provider failure) => do
    emit (.failed stepId failure)
    throw (.provider failure)
  | .error e => throw e

def stepMissing : ProviderFailure where
  code := "PUBLISH_SAGA_STEP_MISSING"
  detail := "게시 Saga 단계가 없습니다."
  retryClass := .final

def addStep (kind : SagaStepKind) : Saga ρ PublishSagaStep := do
  let flushed ← getFlushed
  let id ← uuid4
  let step : PublishSagaStep := {
    id := id
    sequence := (flushed.steps.map (·.sequence)).foldl max 0 + 1
    stepKind := kind }
  modifyRows fun rows => { rows with steps := rows.steps ++ [step] }
  return step

/-- The step of the kind; only `CANCEL_REMOTE` is added when it is missing. -/
def findStep (kind : SagaStepKind) : Saga ρ PublishSagaStep := do
  match ← selectStep fun step => step.stepKind = kind with
  | some step => return step
  | none => if kind ≠ .cancelRemote then throw (.provider stepMissing) else addStep kind

variable (now : Timestamp)

def runningStep (kind : SagaStepKind) : Saga ρ Uuid := do
  let step ← findStep kind
  modifyStep step.id fun step => { step with
    state := .running
    attempt := step.attempt + 1
    startedAt := some now
    errorCode := none }
  return step.id

def succeedStep (stepId : Uuid) : Saga ρ Unit := do
  emit (.stepSucceeded stepId)
  modifyStep stepId fun step => { step with state := .succeeded, finishedAt := some now }

def succeedLocalStep (kind : SagaStepKind) : Saga ρ Unit := do
  let stepId ← runningStep now kind
  succeedStep now stepId

/-- `_next_attempt_number`: the flushed attempts of the step and the new ones. -/
def nextAttemptNumber (flushed memory : Rows) (stepId : Uuid) : Nat :=
  let latest := (flushed.attempts.filter (·.stepId = stepId)).map (·.attemptNumber)
  let pending := (memory.attempts.filter fun attempt =>
    attempt.stepId = stepId && !flushed.attempts.any (·.id = attempt.id)).map (·.attemptNumber)
  (latest ++ pending).foldl max 0 + 1

def addAttempt (stepId : Uuid) (build : Uuid → Nat → PublishAttempt) : Saga ρ Unit := do
  let s ← get
  let id ← uuid4
  modifyRows fun rows => { rows with
    attempts := rows.attempts ++ [build id (nextAttemptNumber s.flushed s.memory stepId)] }

/-- `_record_call`; `remoteId` is the `remote_id` of the answer when it has one. -/
def recordCall (stepId : Uuid) (call : ProviderCall α) (remoteId : Option String) : Saga ρ Unit :=
  addAttempt stepId fun id attemptNumber => {
    id
    stepId
    attemptNumber
    providerRequestId := call.providerRequestId
    method := call.method
    endpointPath := call.endpointPath
    responseStatus := some call.statusCode
    retryClass := .final
    errorCode := none
    remoteId }

/-- Marks the step as failed and adds the attempt that failed. -/
def recordFailureOn (stepId : Uuid) (failure : ProviderFailure) : Saga ρ Unit := do
  modifyStep stepId fun step => { step with
    state := failureState failure.retryClass
    errorCode := some failure.code
    finishedAt := some now }
  addAttempt stepId fun id attemptNumber => {
    id
    stepId
    attemptNumber
    providerRequestId := none
    method := failure.method
    endpointPath := failure.endpointPath
    responseStatus := failure.statusCode
    retryClass := failure.retryClass
    errorCode := some failure.code
    remoteId := none }

/-- `_record_provider_failure` without a step: the row is selected by its flushed state. -/
def recordProviderFailure (failure : ProviderFailure) : Saga ρ Unit := do
  let flushed ← getFlushed
  match failureStep flushed.steps with
  | none => return ()
  | some step => recordFailureOn now step.id failure

/-- Ends the steps that a query selects by their flushed state and that are
still in one of the states in memory. -/
def endSteps (states : List StepState) (state : StepState) (finishedAt : Option Timestamp) :
    Saga ρ Unit := do
  let flushed ← getFlushed
  let selected := (flushed.steps.filter (·.state ∈ states)).map (·.id)
  modifyRows fun rows => { rows with
    steps := rows.steps.map fun step =>
      if step.id ∈ selected ∧ step.state ∈ states then
        { step with state := state, finishedAt := finishedAt }
      else step }

def skipPendingSteps : Saga ρ Unit := do
  let job ← getJob
  endSteps [.pending] .skipped (some (job.finishedAt.getD now))

def cancelPendingSteps : Saga ρ Unit := do
  let job ← getJob
  endSteps [.pending, .retrying] .cancelled job.finishedAt

def recordLocalFailure (errorCode : String) : Saga ρ Unit := do
  let flushed ← getFlushed
  match localFailureStep flushed.steps with
  | none => skipPendingSteps now
  | some step => do
    modifyStep step.id fun step => { step with
      state := .failed
      errorCode := some errorCode
      finishedAt := some now }
    skipPendingSteps now

end BlogOps.Publishing
