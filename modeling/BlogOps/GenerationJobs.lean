import BlogOps.JobStates
import BlogOps.KeyedTables
import BlogOps.TransitionRuns

/-!
# Generation jobs and their steps

One generation job with its steps and recorded commands: the planned steps of
an outline, the worker boundary (`claim_next_step`, `complete_step`,
`fail_step`), the job side of `finalize_for_review`, and the cancel and retry
commands.  A call that raises leaves the job as it was.
-/

namespace BlogOps.Generation

open Jobs KeyedTables TransitionRuns

inductive GenerationStepKind where
  | validateInput | research | planOutline | generateSection | verifyClaims | verifyPolicy
  | optimize | prepareReview
deriving DecidableEq, Repr

def GenerationStepKind.value : GenerationStepKind → String
  | validateInput => "VALIDATE_INPUT"
  | research => "RESEARCH"
  | planOutline => "PLAN_OUTLINE"
  | generateSection => "GENERATE_SECTION"
  | verifyClaims => "VERIFY_CLAIMS"
  | verifyPolicy => "VERIFY_POLICY"
  | optimize => "OPTIMIZE"
  | prepareReview => "PREPARE_REVIEW"

/-- A section of the frozen outline; an absent or empty `key` or `id` is `none`. -/
structure OutlineSection where
  key : Option String := none
  id : Option String := none
deriving DecidableEq, Repr

structure PlannedStep where
  kind : GenerationStepKind
  ordinal : Nat
  sectionKey : Option String := none
deriving DecidableEq, Repr

/-- The section loop of `plan_generation_steps`, from the section numbered `index` on. -/
def planSections : List OutlineSection → Nat → List PlannedStep
  | [], _ => []
  | outlineSection :: rest, index =>
    ⟨.generateSection, 100 + 10 * (index - 1),
      some ((outlineSection.key <|> outlineSection.id).getD ("section-" ++ toString index))⟩ ::
      planSections rest (index + 1)

def planGenerationSteps (outline : List OutlineSection) : List PlannedStep :=
  let ordinal := 100 + 10 * outline.length
  [⟨.validateInput, 10, none⟩, ⟨.research, 20, none⟩, ⟨.planOutline, 30, none⟩] ++ planSections outline 1 ++
    [⟨.verifyClaims, ordinal, none⟩, ⟨.verifyPolicy, ordinal + 10, none⟩,
      ⟨.optimize, ordinal + 20, none⟩, ⟨.prepareReview, ordinal + 30, none⟩]

structure GenerationJobStep where
  id : Uuid
  stepKey : String
  stepKind : GenerationStepKind
  sectionKey : Option String := none
  ordinal : Nat
  state : StepState := .pending
  attempt : Nat := 0
  maxAttempts : Option Int := none
  errorCode : Option String := none
  errorDetail : Option String := none
  startedAt : Option Int := none
  finishedAt : Option Int := none
deriving DecidableEq, Repr

inductive CommandKind where
  | cancel | retry
deriving DecidableEq, Repr

structure GenerationJobCommand where
  actorId : Uuid
  commandKind : CommandKind
  idempotencyKey : String
  requestHash : String
  fromState : JobState
  toState : JobState
  reason : Option String
deriving DecidableEq, Repr

structure GenerationJob where
  state : JobState
  attempt : Nat := 0
  maxAttempts : Option Int := none
  cancelRequestedBy : Option Uuid := none
  cancelRequestedAt : Option Int := none
  startedAt : Option Int := none
  finishedAt : Option Int := none
  errorCode : Option String := none
  errorDetail : Option String := none
  steps : List GenerationJobStep := []
  commands : List GenerationJobCommand := []
deriving DecidableEq, Repr

def newStep (maxAttempts : Option Int) (id : Uuid) (planned : PlannedStep) : GenerationJobStep where
  id := id
  stepKey := match planned.sectionKey with
    | none => planned.kind.value
    | some sectionKey => planned.kind.value ++ ":" ++ sectionKey
  stepKind := planned.kind
  sectionKey := planned.sectionKey
  ordinal := planned.ordinal
  maxAttempts := maxAttempts

def newSteps (newId : Nat → Uuid) (outline : List OutlineSection) (maxAttempts : Option Int) :
    List GenerationJobStep :=
  (planGenerationSteps outline).mapIdx fun index planned =>
    newStep maxAttempts (newId index) planned

/-- The job rows that `create_job` inserts once the generation boundary lets the job generate; the
step keys and ids are unique. -/
def createJob (newId : Nat → Uuid) (outline : List OutlineSection) (maxAttempts : Option Int) :
    Except Failure GenerationJob :=
  let steps := newSteps newId outline maxAttempts
  if ¬ (steps.map (·.id)).Nodup then .error (.integrity "pk_generation_job_steps")
  else if ¬ (steps.map (·.stepKey)).Nodup then
    .error (.integrity "generation_step_idempotency")
  else .ok {
    state := .queued
    maxAttempts := maxAttempts
    steps := steps }

def stepJobState : GenerationStepKind → JobState
  | .validateInput => .validating
  | .research => .researching
  | .planOutline => .planning
  | .generateSection => .generating
  | .verifyClaims | .verifyPolicy => .verifying
  | .optimize | .prepareReview => .optimizing

def claimable (step : GenerationJobStep) : Bool := step.state = .pending || step.state = .retrying

/-- `ORDER BY ordinal, id LIMIT 1`. -/
def firstByOrdinal : List GenerationJobStep → Option GenerationJobStep
  | [] => none
  | step :: rest =>
    match firstByOrdinal rest with
    | none => some step
    | some other =>
      if other.ordinal < step.ordinal ∨ other.ordinal = step.ordinal ∧ other.id < step.id then
        some other
      else some step

def ensureTransition (current target : JobState) : Except Failure Unit :=
  (ensureJobTransition current target).mapError .app

def updateStep (id : Uuid) (f : GenerationJobStep → GenerationJobStep) (job : GenerationJob) :
    GenerationJob :=
  { job with steps := updateRow (·.id) id f job.steps }

def cancelPendingSteps (job : GenerationJob) : GenerationJob :=
  { job with steps := job.steps.map fun step =>
      if claimable step then { step with state := .cancelled } else step }

/-- The parent follows the kind of the claimed step. -/
def enterStepState (step : GenerationJobStep) (job : GenerationJob) : Except Failure GenerationJob :=
  let target := stepJobState step.stepKind
  if target = job.state then .ok job
  else do
    ensureTransition job.state target
    .ok { job with state := target }

def claimedStep (now : Int) (step : GenerationJobStep) : GenerationJobStep :=
  { step with state := .running, attempt := step.attempt + 1, startedAt := some now }

def claimNextStep (now : Int) (job : GenerationJob) :
    Except Failure (Option GenerationJobStep × GenerationJob) :=
  if job.state = .cancelRequested then do
    ensureTransition job.state .cancelled
    .ok (none, cancelPendingSteps { job with state := .cancelled, finishedAt := some now })
  else if job.state ∈ terminalJobStates then .ok (none, job)
  else
    match firstByOrdinal (job.steps.filter claimable) with
    | none => .ok (none, job)
    | some step => do
      let job ← enterStepState step job
      let job := updateStep step.id (claimedStep now) job
      .ok (some (claimedStep now step), { job with startedAt := job.startedAt <|> some now })

def stepOf (stepId : Uuid) (job : GenerationJob) : Except Failure GenerationJobStep :=
  match job.steps.find? (·.id = stepId) with
  | some step => .ok step
  | none =>
    .error (.app {
      code := "GENERATION_STEP_NOT_FOUND"
      message := "요청한 리소스를 찾을 수 없습니다."
      statusCode := 404 })

def completeStep (now : Int) (stepId : Uuid) (job : GenerationJob) : Except Failure GenerationJob := do
  let step ← stepOf stepId job
  if step.state = .succeeded then .ok job
  else if step.state ≠ .running then
    .error (.app {
      code := "GENERATION_STEP_NOT_RUNNING"
      message := "실행 중인 단계만 완료할 수 있습니다."
      statusCode := 409 })
  else
    .ok (updateStep stepId (fun step =>
      { step with state := .succeeded, finishedAt := some now }) job)

/-- The state a failed step leaves its job in: the requested failure state where the
table has an edge to it, directly or through `RETRYABLE_FAILED`, else `QUALITY_BLOCKED`,
else the state it had. -/
def failureTarget (retryable : Bool) (current : JobState) : JobState :=
  let requested := if retryable then JobState.retryableFailed else .finalFailed
  if requested ∈ allowedJobTransitions current then requested
  else if ¬ retryable ∧ .retryableFailed ∈ allowedJobTransitions current then .finalFailed
  else if .qualityBlocked ∈ allowedJobTransitions current then .qualityBlocked
  else current

def failStep (now : Int) (stepId : Uuid) (errorCode errorDetail : String) (retryable : Bool)
    (job : GenerationJob) : Except Failure GenerationJob := do
  let step ← stepOf stepId job
  let job := updateStep step.id (fun step =>
    { step with
      state := .failed
      errorCode := some errorCode
      errorDetail := some errorDetail
      finishedAt := some now }) job
  let target := failureTarget retryable job.state
  .ok { job with
    state := target
    errorCode := some errorCode
    errorDetail := some errorDetail
    finishedAt := if target = .finalFailed then some now else job.finishedAt }

/-- What `finalize_for_review` asks of the job and does to it. -/
def enterWaitingReview (job : GenerationJob) : Except Failure GenerationJob :=
  if job.state = .waitingReview then .ok job
  else do
    ensureTransition job.state .waitingReview
    .ok { job with state := .waitingReview }

structure CommandRequest where
  actorId : Uuid
  idempotencyKey : String
  reason : Option String
  now : Int

/-- `canonical_json_hash` of the kind and reason of a command. -/
class CommandHash where
  hash : CommandKind → Option String → String

variable [CommandHash]

def recordedCommand (kind : CommandKind) (data : CommandRequest) (job : GenerationJob) :
    Option GenerationJobCommand :=
  job.commands.find? fun command =>
    command.actorId = data.actorId ∧ command.commandKind = kind ∧ command.idempotencyKey = data.idempotencyKey

def recordCommand (kind : CommandKind) (data : CommandRequest) (target : JobState)
    (current : JobState) (job : GenerationJob) : GenerationJob :=
  { job with
    state := target
    commands := job.commands ++ [{
      actorId := data.actorId
      commandKind := kind
      idempotencyKey := data.idempotencyKey
      requestHash := CommandHash.hash kind data.reason
      fromState := current
      toState := target
      reason := data.reason }] }

def applyCancel (data : CommandRequest) (job : GenerationJob) : Except Failure GenerationJob :=
  if job.state ∈ terminalJobStates then
    .error (.app {
      code := "JOB_ALREADY_TERMINAL"
      message := "완료된 작업은 취소할 수 없습니다."
      statusCode := 409 })
  else if job.state = .cancelRequested then .ok job
  else do
    let target := if job.state = .created then JobState.cancelled else .cancelRequested
    ensureTransition job.state target
    .ok (recordCommand .cancel data target job.state { job with
      cancelRequestedBy := some data.actorId
      cancelRequestedAt := some data.now })

def retryStep (step : GenerationJobStep) : GenerationJobStep :=
  if step.state = .failed ∨ step.state = .cancelled then
    { step with state := .retrying, errorCode := none, errorDetail := none, finishedAt := none }
  else step

def applyRetry (data : CommandRequest) (job : GenerationJob) : Except Failure GenerationJob := do
  ensureTransition job.state .queued
  if job.maxAttempts.any fun maximum : Int => maximum ≤ (job.attempt : Int) then
    .error (.app {
      code := "JOB_RETRY_LIMIT_REACHED"
      message := "고정된 재시도 정책의 최대 횟수에 도달했습니다."
      statusCode := 409 })
  else
    .ok (recordCommand .retry data .queued job.state { job with
      attempt := job.attempt + 1
      errorCode := none
      errorDetail := none
      steps := job.steps.map retryStep })

def command (kind : CommandKind) (data : CommandRequest) (job : GenerationJob) :
    Except Failure GenerationJob :=
  match recordedCommand kind data job with
  | some existing =>
    if existing.requestHash ≠ CommandHash.hash kind data.reason then
      .error (.app {
        code := "IDEMPOTENCY_KEY_REUSED"
        message := "같은 멱등 키를 다른 요청에 재사용할 수 없습니다."
        statusCode := 409
        fields := [⟨"Idempotency-Key", "request hash mismatch"⟩] })
    else .ok job
  | none =>
    match kind with
    | .cancel => applyCancel data job
    | .retry => applyRetry data job

def cancelJob (data : CommandRequest) (job : GenerationJob) : Except Failure GenerationJob :=
  command .cancel data job

def retryJob (data : CommandRequest) (job : GenerationJob) : Except Failure GenerationJob :=
  command .retry data job

inductive JobAction where
  | claimNextStep (now : Int)
  | completeStep (now : Int) (stepId : Uuid)
  | failStep (now : Int) (stepId : Uuid) (errorCode errorDetail : String) (retryable : Bool)
  | finalizeForReview
  | cancelJob (data : CommandRequest)
  | retryJob (data : CommandRequest)

def attemptAction (job : GenerationJob) : JobAction → Except Failure GenerationJob
  | .claimNextStep now => (claimNextStep now job).map Prod.snd
  | .completeStep now stepId => completeStep now stepId job
  | .failStep now stepId errorCode errorDetail retryable =>
    failStep now stepId errorCode errorDetail retryable job
  | .finalizeForReview => enterWaitingReview job
  | .cancelJob data => cancelJob data job
  | .retryJob data => retryJob data job

def stepJob (job : GenerationJob) (action : JobAction) : GenerationJob :=
  match attemptAction job action with
  | .ok after => after
  | .error _ => job

def created (job : GenerationJob) : Prop := ∃ newId outline maxAttempts,
    createJob newId outline maxAttempts = .ok job

end BlogOps.Generation
