import BlogOps.GenerationJobs

/-!
# The plan of a generation job

The steps of a job keep the ids, kinds and ordinals they were planned with,
whatever the worker and the commands do, so every reachable job still has the
shape of its plan.
-/

namespace BlogOps.Generation

open Jobs KeyedTables TransitionRuns List

/-- The columns of a step that are fixed when the job is created. -/
def stepIdentity (step : GenerationJobStep) : Uuid × GenerationStepKind × Nat :=
  (step.id, step.stepKind, step.ordinal)

theorem updateStep_identity {f : GenerationJobStep → GenerationJobStep}
    (hf : ∀ step, stepIdentity (f step) = stepIdentity step) (id : Uuid) (job : GenerationJob) :
    (updateStep id f job).steps.map stepIdentity = job.steps.map stepIdentity :=
  map_updateRow (fun step _ => hf step) _

theorem cancelPendingSteps_identity (job : GenerationJob) :
    (cancelPendingSteps job).steps.map stepIdentity = job.steps.map stepIdentity := by
  simp only [cancelPendingSteps, map_map]
  refine map_congr_left fun step _ => ?_
  simp only [Function.comp_apply]
  split <;> rfl

theorem ensureTransition_ok {current target : JobState} {u : Unit}
    (h : ensureTransition current target = .ok u) : target ∈ allowedJobTransitions current := by
  unfold ensureTransition ensureJobTransition at h
  split at h
  · assumption
  · cases h

theorem ensureTransition_eq {current target : JobState}
    (h : target ∈ allowedJobTransitions current) : ensureTransition current target = .ok () := by
  unfold ensureTransition
  rw [(ensureJobTransition_ok_iff current target).mpr h]
  rfl

variable {after job : GenerationJob} {now : Int}

theorem enterStepState_ok {step : GenerationJobStep} (h : enterStepState step job = .ok after) :
    after = { job with state := stepJobState step.stepKind } ∧ (stepJobState step.stepKind = job.state ∨
        stepJobState step.stepKind ∈ allowedJobTransitions job.state) := by
  unfold enterStepState at h
  simp only at h
  split at h
  · rename_i hsame
    cases h
    exact ⟨by rw [hsame], .inl hsame⟩
  · obtain ⟨_, hallowed, h⟩ := bind_ok h
    cases h
    exact ⟨rfl, .inr (ensureTransition_ok hallowed)⟩

theorem firstByOrdinal_mem {steps : List GenerationJobStep} {step : GenerationJobStep}
    (h : firstByOrdinal steps = some step) : step ∈ steps := by
  induction steps generalizing step with
  | nil => cases h
  | cons head rest ih =>
    unfold firstByOrdinal at h
    cases hrest : firstByOrdinal rest with
    | none =>
      simp only [hrest, Option.some.injEq] at h
      exact h ▸ mem_cons_self
    | some other =>
      simp only [hrest] at h
      split at h
      · cases h
        exact mem_cons_of_mem _ (ih hrest)
      · cases h
        exact mem_cons_self

/-- What one claim can do to the job. -/
inductive Claims (now : Int) (job : GenerationJob) : Option GenerationJobStep → GenerationJob → Prop
  | cancelled (hstate : job.state = .cancelRequested) : Claims now job none
      (cancelPendingSteps { job with state := .cancelled, finishedAt := some now })
  | idle (hidle : job.state ∈ terminalJobStates ∨
      firstByOrdinal (job.steps.filter claimable) = none) : Claims now job none job
  | claimed (step : GenerationJobStep) (hlive : job.state ∉ terminalJobStates)
      (hfirst : firstByOrdinal (job.steps.filter claimable) = some step)
      (hedge : stepJobState step.stepKind = job.state ∨
        stepJobState step.stepKind ∈ allowedJobTransitions job.state) :
      Claims now job (some (claimedStep now step)) { job with
        state := stepJobState step.stepKind
        startedAt := job.startedAt <|> some now
        steps := updateRow (·.id) step.id (claimedStep now) job.steps }

theorem claims_of_ok {step : Option GenerationJobStep}
    (h : claimNextStep now job = .ok (step, after)) : Claims now job step after := by
  unfold claimNextStep at h
  split_ifs at h with hcancel hterminal
  · obtain ⟨_, _, h⟩ := bind_ok h
    cases h
    exact .cancelled hcancel
  · cases h
    exact .idle (.inl hterminal)
  · split at h
    · cases h
      exact .idle (.inr ‹_›)
    · obtain ⟨entered, henter, h⟩ := bind_ok h
      obtain ⟨rfl, hedge⟩ := enterStepState_ok henter
      cases h
      exact .claimed _ hterminal ‹_› hedge

theorem Claims.identity {step : Option GenerationJobStep} (h : Claims now job step after) :
    after.steps.map stepIdentity = job.steps.map stepIdentity := by
  cases h with
  | cancelled hstate => exact cancelPendingSteps_identity _
  | idle hidle => rfl
  | claimed step hlive hfirst hedge =>
    refine map_updateRow ?_ _
    exact fun _ _ => rfl

theorem completeStep_ok {stepId : Uuid} (h : completeStep now stepId job = .ok after) :
    after = job ∨ after = updateStep stepId (fun step =>
      { step with state := .succeeded, finishedAt := some now }) job := by
  obtain ⟨step, _, h⟩ := bind_ok h
  split_ifs at h
  · cases h
    exact .inl rfl
  · cases h
    exact .inr rfl

def planKinds (sections : Nat) : List GenerationStepKind :=
  [.validateInput, .research, .planOutline] ++ List.replicate sections .generateSection ++
    [.verifyClaims, .verifyPolicy, .optimize, .prepareReview]

/-- The steps lie in the table in the order of their ordinals, with the kinds of a plan. -/
structure PlannedJob (job : GenerationJob) : Prop where
  keyed : Keyed (·.id) job.steps
  ordered : job.steps.Pairwise fun step other => step.ordinal < other.ordinal
  kinds : ∃ sections, job.steps.map (·.stepKind) = planKinds sections

theorem PlannedJob.of_identity (h : PlannedJob job)
    (hidentity : after.steps.map stepIdentity = job.steps.map stepIdentity) : PlannedJob after := by
  have hids := congrArg (List.map Prod.fst) hidentity
  have hkinds := congrArg (List.map fun row => row.2.1) hidentity
  have hordinals := congrArg (List.map fun row => row.2.2) hidentity
  rw [map_map, map_map] at hids hkinds hordinals
  obtain ⟨sections, hplan⟩ := h.kinds
  refine ⟨?_, ?_, sections, hkinds.trans hplan⟩
  · change (after.steps.map (·.id)).Nodup
    rw [show after.steps.map (·.id) = job.steps.map (·.id) from hids]
    exact h.keyed
  · have hordered := pairwise_map.mpr h.ordered
    rw [← show after.steps.map (·.ordinal) = job.steps.map (·.ordinal) from hordinals] at hordered
    exact pairwise_map.mp hordered

theorem planSections_kinds (outline : List OutlineSection) (index : Nat) :
    (planSections outline index).map (·.kind) =
      List.replicate outline.length .generateSection := by
  induction outline generalizing index with
  | nil => rfl
  | cons outlineSection outline ih =>
    unfold planSections
    rw [map_cons, ih, length_cons, replicate_succ]

theorem planSections_ordinal {outline : List OutlineSection} {index : Nat} (hindex : 0 < index) :
    ∀ planned ∈ planSections outline index, 100 + 10 * (index - 1) ≤ planned.ordinal ∧
      planned.ordinal < 100 + 10 * (index - 1 + outline.length) := by
  induction outline generalizing index with
  | nil => exact fun planned hplanned => absurd hplanned (not_mem_nil)
  | cons outlineSection outline ih =>
    intro planned hplanned
    unfold planSections at hplanned
    rw [length_cons]
    rcases mem_cons.mp hplanned with rfl | hplanned
    · simp only
      omega
    · have hrest := ih (Nat.succ_pos index) planned hplanned
      omega

section

variable (outline : List OutlineSection)

theorem planSections_ordered {index : Nat} (hindex : 0 < index) :
    (planSections outline index).Pairwise fun step other => step.ordinal < other.ordinal := by
  induction outline generalizing index with
  | nil => exact .nil
  | cons outlineSection outline ih =>
    unfold planSections
    refine pairwise_cons.mpr ⟨fun planned hplanned => ?_, ih (Nat.succ_pos index)⟩
    have hrest := planSections_ordinal (Nat.succ_pos index) planned hplanned
    simp only
    omega

theorem planGenerationSteps_ordered :
    (planGenerationSteps outline).Pairwise fun step other => step.ordinal < other.ordinal := by
  have hsections := @planSections_ordinal outline 1 Nat.one_pos
  unfold planGenerationSteps
  refine pairwise_append.mpr ⟨pairwise_append.mpr ⟨?_, ?_, ?_⟩, ?_, ?_⟩
  · simp
  · exact planSections_ordered outline Nat.one_pos
  · intro step hstep other hother
    have hrange := hsections other hother
    simp only [mem_cons, not_mem_nil, or_false] at hstep
    rcases hstep with rfl | rfl | rfl <;> simp only <;> omega
  · simp
  · intro step hstep other hother
    simp only [mem_cons, not_mem_nil, or_false] at hother
    rcases mem_append.mp hstep with hstep | hstep
    · simp only [mem_cons, not_mem_nil, or_false] at hstep
      rcases hstep with rfl | rfl | rfl <;> rcases hother with rfl | rfl | rfl | rfl <;>
        simp only <;> omega
    · have hrange := hsections step hstep
      rcases hother with rfl | rfl | rfl | rfl <;> simp only <;> omega

theorem planGenerationSteps_kinds :
    (planGenerationSteps outline).map (·.kind) = planKinds outline.length := by
  simp [planGenerationSteps, planKinds, planSections_kinds]

end

theorem newSteps_map {β : Type} (g : GenerationJobStep → β) (f : PlannedStep → β)
    (hfg : ∀ maxAttempts id planned, g (newStep maxAttempts id planned) = f planned)
    (newId : Nat → Uuid) (outline : List OutlineSection) (maxAttempts : Option Int) :
    (newSteps newId outline maxAttempts).map g = (planGenerationSteps outline).map f := by
  refine ext_getElem (by simp [newSteps]) fun index _ _ => ?_
  simp [newSteps, hfg]

theorem plannedJob_created (h : created job) : PlannedJob job := by
  obtain ⟨newId, outline, maxAttempts, h⟩ := h
  unfold createJob at h
  simp only at h
  split_ifs at h with hids hkeys
  all_goals
    cases h
    refine ⟨hids, ?_, outline.length, ?_⟩
    · have hordered := pairwise_map.mpr (planGenerationSteps_ordered outline)
      rw [← newSteps_map (·.ordinal) (·.ordinal) (fun _ _ _ => rfl) newId outline maxAttempts]
        at hordered
      exact pairwise_map.mp hordered
    · rw [← planGenerationSteps_kinds]
      exact newSteps_map (·.stepKind) (·.kind) (fun _ _ _ => rfl) newId outline maxAttempts

variable [CommandHash]

theorem command_identity {kind : CommandKind} {data : CommandRequest}
    (h : command kind data job = .ok after) :
    after.steps.map stepIdentity = job.steps.map stepIdentity := by
  unfold command at h
  split at h
  · split_ifs at h
    cases h
    rfl
  · cases kind with
    | cancel =>
      simp only [applyCancel] at h
      split_ifs at h
      · cases h
        rfl
      all_goals
        obtain ⟨_, _, h⟩ := bind_ok h
        cases h
        rfl
    | retry =>
      obtain ⟨_, _, h⟩ := bind_ok h
      split_ifs at h
      cases h
      simp only [recordCommand, map_map]
      refine map_congr_left fun step _ => ?_
      simp only [Function.comp_apply, retryStep]
      split <;> rfl

theorem stepJob_identity (job : GenerationJob) (action : JobAction) :
    (stepJob job action).steps.map stepIdentity = job.steps.map stepIdentity := by
  unfold stepJob
  cases h : attemptAction job action with
  | error failure => rfl
  | ok after =>
    simp only
    cases action with
    | claimNextStep now =>
      obtain ⟨⟨step, after⟩, hclaim, rfl⟩ := map_ok h
      exact (claims_of_ok hclaim).identity
    | completeStep now stepId =>
      rcases completeStep_ok h with rfl | rfl
      · rfl
      · exact updateStep_identity (by intro step; rfl) _ _
    | failStep now stepId errorCode errorDetail retryable =>
      obtain ⟨step, _, h⟩ := bind_ok h
      cases h
      exact updateStep_identity (by intro step; rfl) _ _
    | finalizeForReview =>
      simp only [attemptAction, enterWaitingReview] at h
      split_ifs at h
      · cases h
        rfl
      · obtain ⟨_, _, h⟩ := bind_ok h
        cases h
        rfl
    | cancelJob data => exact command_identity h
    | retryJob data => exact command_identity h

theorem plannedJob_reachable (h : Reachable stepJob created job) : PlannedJob job :=
  invariant_reachable stepJob (I := PlannedJob) (fun _ hcreated => plannedJob_created hcreated)
    (fun before action hbefore => hbefore.of_identity (stepJob_identity before action)) h

end BlogOps.Generation
