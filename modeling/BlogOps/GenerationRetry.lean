import BlogOps.GenerationWork

/-!
# Retried generation jobs

A retry puts the job back to `QUEUED`, and the transition table lets only
`VALIDATING` follow.  The retried job goes through only when what is left of it
starts with `VALIDATE_INPUT` and leads to the review.
-/

namespace BlogOps.Generation

open Jobs KeyedTables TransitionRuns

/-- The worker can claim the step after the retry. -/
def retryClaims (replayed : Bool) (step : GenerationJobStep) : Bool :=
  claimable step || !replayed && (step.state = .failed || step.state = .cancelled)

variable {after job : GenerationJob}

theorem unfinished_retried (h : after.steps = job.steps.map retryStep) :
    unfinished after = (unfinished job).map retryStep := by
  unfold unfinished
  rw [h, List.filter_map]
  congr 1
  refine List.filter_congr fun step _ => ?_
  simp only [Function.comp_apply, retryStep]
  split
  · rename_i hstate
    rcases hstate with hstate | hstate <;> simp [hstate]
  · rfl

theorem claimable_retryStep (step : GenerationJobStep) :
    claimable (retryStep step) = retryClaims false step := by
  obtain ⟨_, _, _, _, _, state, _, _, _, _, _, _⟩ := step
  cases state <;> rfl

theorem remains_retried (h : after.steps = job.steps.map retryStep)
    (kinds : List GenerationStepKind) : remains after kinds ↔ remains job kinds := by
  have hkind : ∀ step, (retryStep step).stepKind = step.stepKind := by
    intro step
    unfold retryStep
    split <;> rfl
  unfold remains
  rw [unfinished_retried h]
  simp [hkind]

theorem LeadsToReview.of_remains (h : LeadsToReview job)
    (hremains : ∀ kinds, remains after kinds ↔ remains job kinds) : LeadsToReview after where
  validate := (hremains _).mpr h.validate
  research := (hremains _).mpr h.research
  plan := (hremains _).mpr h.plan
  later := by
    simp only [hremains]
    exact h.later

section Retried

variable [CommandHash]

/-- An accepted retry either repeats a recorded command and changes nothing, or queues the
job with its failed and cancelled steps marked for another attempt. -/
theorem retryJob_ok {data : CommandRequest} (h : retryJob data job = .ok after) :
    ((recordedCommand .retry data job).isSome = true ∧ after = job) ∨
      ((recordedCommand .retry data job).isSome = false ∧
        after.steps = job.steps.map retryStep) := by
  unfold retryJob command at h
  split at h
  · rename_i existing hexisting
    split_ifs at h
    cases h
    exact .inl ⟨by rw [hexisting]; rfl, rfl⟩
  · rename_i hnone
    obtain ⟨_, _, h⟩ := bind_ok h
    split_ifs at h
    cases h
    exact .inr ⟨by rw [hnone]; rfl, rfl⟩

/-- When a retry of the job leads somewhere. -/
structure RetryFits (data : CommandRequest) (job : GenerationJob) : Prop where
  claims : ∀ step ∈ unfinished job, retryClaims (recordedCommand .retry data job).isSome step = true
  leads : LeadsToReview job

/-- A retry that is accepted and leaves the job queued makes progress exactly when it fits. -/
theorem retry_progresses_iff {job after : GenerationJob} (hreach : Reachable stepJob created job)
    {data : CommandRequest} (haccepted : retryJob data job = .ok after)
    (hqueued : after.state = .queued) : Progresses after ↔ RetryFits data job := by
  have hplan := plannedJob_reachable hreach
  rw [progresses_iff (hplan.of_identity (command_identity haccepted)) hqueued]
  rcases retryJob_ok haccepted with ⟨hreplayed, rfl⟩ | ⟨hnew, hsteps⟩
  · constructor
    · rintro ⟨hclaimable, hleads⟩
      exact ⟨fun step hstep => by simp [retryClaims, hclaimable step hstep], hleads⟩
    · rintro ⟨hclaims, hleads⟩
      refine ⟨fun step hstep => ?_, hleads⟩
      simpa [retryClaims, hreplayed] using hclaims step hstep
  · have hremains := remains_retried hsteps
    have hleads : LeadsToReview after ↔ LeadsToReview job :=
      ⟨fun h => h.of_remains fun kinds => (hremains kinds).symm, fun h => h.of_remains hremains⟩
    rw [hleads, unfinished_retried hsteps]
    simp only [List.forall_mem_map, claimable_retryStep]
    constructor
    · rintro ⟨hclaimable, hleads⟩
      exact ⟨fun step hstep => by rw [hnew]; exact hclaimable step hstep, hleads⟩
    · rintro ⟨hclaims, hleads⟩
      exact ⟨fun step hstep => by rw [← hnew]; exact hclaims step hstep, hleads⟩

end Retried

section Sample

@[reducible] def sampleHash : CommandHash := ⟨fun _ reason => reason.getD ""⟩

attribute [local instance] sampleHash

/-- A job with one section, its steps numbered from 1. -/
def sampleJob : GenerationJob where
  state := .queued
  steps := newSteps (· + 1) [{ key := some "intro" }] none

def sampleRetry : CommandRequest := ⟨9, "retry-1", none, 5⟩

def failedResearch : List JobAction := [.claimNextStep 1, .completeStep 2 1, .claimNextStep 3,
    .failStep 4 2 "RESEARCH_TIMEOUT" "" true]

theorem created_sampleJob : created sampleJob :=
  ⟨(· + 1), [{ key := some "intro" }], none, by decide⟩

/-- The validation fails without ending the job, and so does the research that is claimed next. -/
def failedTwice : GenerationJob := run stepJob sampleJob [.claimNextStep 1,
  .failStep 2 1 "INPUT_INVALID" "" true, .claimNextStep 3, .failStep 4 2 "RESEARCH_TIMEOUT" "" true]

/-- The retry of a job of which no step has succeeded goes through. -/
theorem failed_twice_progresses :
    failedTwice.state = .retryableFailed ∧ ∃ after, retryJob sampleRetry failedTwice = .ok after ∧
      after.state = .queued ∧ Progresses after := by
  refine ⟨by decide, _, rfl, rfl, ?_⟩
  have hreach : Reachable stepJob created failedTwice := ⟨sampleJob, _, created_sampleJob, rfl⟩
  have hretry : retryJob sampleRetry failedTwice = .ok _ := rfl
  rw [retry_progresses_iff hreach hretry rfl]
  refine ⟨by decide, ?_, ?_, ?_, .inr ⟨?_, ?_, ?_⟩⟩ <;> unfold remains <;> decide

/-- The retry of a failed research step is accepted, and the next claim raises. -/
theorem failed_research_stuck :
    ∃ job after, Reachable stepJob created job ∧ retryJob sampleRetry job = .ok after ∧
      after.state = .queued ∧ ∀ now, claimNextStep now after = .error (.app {
        code := "INVALID_JOB_TRANSITION"
        message := "작업 상태를 QUEUED에서 RESEARCHING(으)로 변경할 수 없습니다."
        statusCode := 409
        fields := [⟨"state", "QUEUED->RESEARCHING"⟩] }) := by
  refine ⟨run stepJob sampleJob failedResearch, _,
    ⟨_, failedResearch, created_sampleJob, rfl⟩, rfl, rfl, fun now => ?_⟩
  rfl

end Sample

end BlogOps.Generation
