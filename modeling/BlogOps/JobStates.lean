import BlogOps.AppErrors

/-!
# The authoritative job state machine

The shared job and step states, the table of allowed job transitions, and the
guard that raises on a pair outside of it.
-/

namespace BlogOps.Jobs

inductive JobState where
  | created | queued | validating | waitingInput | researching | planning | generating
  | verifying | optimizing | creatingMedia | qualityBlocked | waitingReview
  | revisionRequested | approved | scheduled | publishing | succeeded | partialSuccess
  | retryableFailed | finalFailed | cancelRequested | cancelled | expired
deriving DecidableEq, Repr

namespace JobState

def value : JobState → String
  | created => "CREATED"
  | queued => "QUEUED"
  | validating => "VALIDATING"
  | waitingInput => "WAITING_INPUT"
  | researching => "RESEARCHING"
  | planning => "PLANNING"
  | generating => "GENERATING"
  | verifying => "VERIFYING"
  | optimizing => "OPTIMIZING"
  | creatingMedia => "CREATING_MEDIA"
  | qualityBlocked => "QUALITY_BLOCKED"
  | waitingReview => "WAITING_REVIEW"
  | revisionRequested => "REVISION_REQUESTED"
  | approved => "APPROVED"
  | scheduled => "SCHEDULED"
  | publishing => "PUBLISHING"
  | succeeded => "SUCCEEDED"
  | partialSuccess => "PARTIAL"
  | retryableFailed => "RETRYABLE_FAILED"
  | finalFailed => "FINAL_FAILED"
  | cancelRequested => "CANCEL_REQUESTED"
  | cancelled => "CANCELLED"
  | expired => "EXPIRED"

end JobState

inductive StepState where
  | pending | running | waitingExternal | waitingUser | succeeded | skipped | retrying
  | failed | cancelled
deriving DecidableEq, Repr

open JobState

def terminalJobStates : List JobState := [succeeded, finalFailed, cancelled, expired]

def allowedJobTransitions : JobState → List JobState
  | created => [queued, cancelled]
  | queued => [validating, cancelRequested]
  | validating => [waitingInput, researching, finalFailed, cancelRequested]
  | waitingInput => [queued, cancelRequested, expired]
  | researching => [planning, retryableFailed, finalFailed, cancelRequested]
  | planning => [generating, waitingReview, retryableFailed, cancelRequested]
  | generating => [verifying, partialSuccess, retryableFailed, cancelRequested]
  | verifying => [optimizing, qualityBlocked, retryableFailed, cancelRequested]
  | optimizing => [creatingMedia, waitingReview, qualityBlocked, cancelRequested]
  | creatingMedia => [waitingReview, partialSuccess, retryableFailed, cancelRequested]
  | qualityBlocked => [queued, waitingReview, cancelRequested, expired]
  | waitingReview => [approved, revisionRequested, cancelRequested, expired]
  | revisionRequested => [queued, cancelRequested, expired]
  | approved => [scheduled, publishing, succeeded]
  | scheduled => [publishing, cancelRequested, expired]
  | publishing => [succeeded, partialSuccess, retryableFailed, finalFailed]
  | partialSuccess => [queued, waitingReview, finalFailed]
  | retryableFailed => [queued, finalFailed, cancelRequested]
  | cancelRequested => [cancelled, partialSuccess]
  | succeeded | finalFailed | cancelled | expired => []

def ensureJobTransition (current target : JobState) : Except AppError Unit :=
  if target ∈ allowedJobTransitions current then .ok ()
  else .error {
    code := "INVALID_JOB_TRANSITION"
    message := "작업 상태를 " ++ current.value ++ "에서 " ++ target.value ++ "(으)로 변경할 수 없습니다."
    statusCode := 409
    fields := [⟨"state", current.value ++ "->" ++ target.value⟩] }

theorem ensureJobTransition_ok_iff (current target : JobState) :
    ensureJobTransition current target = .ok () ↔ target ∈ allowedJobTransitions current := by
  unfold ensureJobTransition
  split
  · exact iff_of_true rfl ‹_›
  · exact iff_of_false (by simp) ‹_›

end BlogOps.Jobs
