import BlogOps.GenerationRetry

/-!
# The order in which generation steps start

A claim looks for a step that is pending or retrying and leaves it to the
parent state whether the job is still at work.  It starts a step out of order
when another step is still running, and when the input validation failed for
now: no failure edge leaves `VALIDATING`, so the job goes on with the research.
Elsewhere a failed step halts the job.
-/

namespace BlogOps.Generation

open Jobs KeyedTables TransitionRuns List

variable (job : GenerationJob)

/-- A claimed step starts after every step of a smaller ordinal succeeded, and alone. -/
def Timely : JobAction → Prop
  | .claimNextStep now => ∀ step after, claimNextStep now job = .ok (some step, after) →
      (∀ other ∈ job.steps, other.ordinal < step.ordinal → other.state = .succeeded) ∧
        ∀ other ∈ after.steps, other.state = .running → other.id = step.id
  | _ => True

/-- The worker reports only the failure of a step that is running. -/
def FailsRunning : JobAction → Prop
  | .failStep _ stepId _ _ _ => ∃ step ∈ job.steps, step.id = stepId ∧ step.state = .running
  | _ => True

/-- The job is at work and the parent state lets its next step start. -/
def StepDue : Prop := live job.state ∧ ∃ step, firstByOrdinal (job.steps.filter claimable) = some step ∧
    (stepJobState step.stepKind = job.state ∨
      stepJobState step.stepKind ∈ allowedJobTransitions job.state)

/-- No step of the job is running, and its input validation has not failed under it. -/
def Clear : Prop := ∀ step ∈ job.steps, step.state ≠ .running ∧
    ¬ (job.state = .validating ∧ step.stepKind = .validateInput ∧ step.state = .failed)

/-- A claim that can start a step finds the job clear. -/
def ClaimsClear : JobAction → Prop
  | .claimNextStep _ => StepDue job → Clear job
  | _ => True

/-- The states of a job in which no step starts. -/
def haltedStates : List JobState :=
  [.retryableFailed, .qualityBlocked, .finalFailed, .cancelRequested, .cancelled, .waitingReview]

/-- The state of a step agrees with the state of its job. -/
def StepFits (state : JobState) (step : GenerationJobStep) : Prop :=
  match step.state with
  | .pending | .retrying | .succeeded => True
  | .running => state = stepJobState step.stepKind ∨
      state ∈ [.cancelRequested, .cancelled, .waitingReview]
  | .failed => state ∈ haltedStates ∨ state = .validating ∧ step.stepKind = .validateInput
  | .cancelled => state = .cancelled
  | _ => False

structure Orderly (job : GenerationJob) : Prop where
  planned : PlannedJob job
  running_alone : ∀ step ∈ job.steps, step.state = .running →
    ∀ other ∈ job.steps, other.state = .running → other.id = step.id
  fits : ∀ step ∈ job.steps, StepFits job.state step

variable {job after : GenerationJob} {step : GenerationJobStep} {state : JobState} {now : Int}

theorem orderly_created (h : created job) : Orderly job := by
  have hplan := plannedJob_created h
  have hpending : ∀ step ∈ job.steps, step.state = .pending := by
    obtain ⟨newId, outline, maxAttempts, h⟩ := h
    unfold createJob at h
    simp only at h
    split_ifs at h
    all_goals
      cases h
      intro step hstep
      have hstate := mem_map_of_mem (f := (·.state)) hstep
      rw [newSteps_map (·.state) (fun _ => .pending) (fun _ _ _ => rfl)] at hstate
      obtain ⟨planned, _, hplanned⟩ := mem_map.mp hstate
      exact hplanned.symm
  refine ⟨hplan, fun step hstep hrunning => ?_, fun step hstep => ?_⟩
  · rw [hpending step hstep] at hrunning
    cases hrunning
  · unfold StepFits
    rw [hpending step hstep]
    trivial

theorem validateInput_first (h : PlannedJob job) {other : GenerationJobStep}
    (hstep : step ∈ job.steps) (hkind : step.stepKind = .validateInput) (hother : other ∈ job.steps)
    (hne : other ≠ step) : step.ordinal < other.ordinal := by
  obtain ⟨sections, hkinds⟩ := h.kinds
  have hordered := h.ordered
  cases hsteps : job.steps with
  | nil => simp [hsteps] at hstep
  | cons first rest =>
    rw [hsteps] at hstep hother hordered hkinds
    have hlater : ∀ later ∈ rest, later.stepKind ≠ .validateInput := by
      have htail : rest.map (·.stepKind) = (planKinds sections).tail := by
        rw [← hkinds]
        rfl
      intro later hmem heq
      have hin := mem_map_of_mem (f := (·.stepKind)) hmem
      rw [htail, heq] at hin
      simp [planKinds, mem_replicate] at hin
    have hfirst : step = first := by
      rcases mem_cons.mp hstep with rfl | hrest
      · rfl
      · exact absurd hkind (hlater step hrest)
    have hrest : other ∈ rest := by
      rcases mem_cons.mp hother with rfl | hrest
      · exact absurd hfirst.symm hne
      · exact hrest
    rw [hfirst]
    exact (pairwise_cons.mp hordered).1 other hrest

/-- No transition leads from a halted job into the state of a step. -/
theorem halted_of_edge (hstate : state ∈ haltedStates) (kind : GenerationStepKind) :
    stepJobState kind ≠ state ∧ stepJobState kind ∉ allowedJobTransitions state := by
  revert state
  cases kind <;> decide

theorem Claims.due (h : claimNextStep now job = .ok (some step, after)) : StepDue job := by
  by_cases hcancel : job.state = .cancelRequested
  · unfold claimNextStep at h
    rw [if_pos hcancel] at h
    obtain ⟨_, _, h⟩ := bind_ok h
    cases h
  · generalize hsome : some step = answer at h
    cases claims_of_ok h with
    | cancelled hstate => cases hsome
    | idle hidle => cases hsome
    | claimed first hlive hfirst hedge => exact ⟨⟨hcancel, hlive⟩, first, hfirst, hedge⟩

/-- The claimable step of the smallest ordinal: an earlier step is not claimable. -/
theorem firstByOrdinal_earlier (h : PlannedJob job)
    (hfirst : firstByOrdinal (job.steps.filter claimable) = some step) :
    step ∈ job.steps ∧ claimable step = true ∧
      ∀ other ∈ job.steps, other.ordinal < step.ordinal → claimable other = false := by
  obtain ⟨hmem, hclaimable⟩ := mem_filter.mp (firstByOrdinal_mem hfirst)
  refine ⟨hmem, hclaimable, fun other hother hlt => ?_⟩
  have hordered : (job.steps.filter claimable).Pairwise fun one another =>
      one.ordinal < another.ordinal := h.ordered.sublist filter_sublist
  rw [firstByOrdinal_ordered hordered] at hfirst
  by_contra hnot
  have hin : other ∈ job.steps.filter claimable := mem_filter.mpr ⟨hother, by simpa using hnot⟩
  cases hsteps : job.steps.filter claimable with
  | nil => simp [hsteps] at hin
  | cons head rest =>
    rw [hsteps] at hfirst hin hordered
    have hhead : head = step := by simpa using hfirst
    rcases mem_cons.mp hin with rfl | hrest
    · rw [hhead] at hlt
      omega
    · have hle := (pairwise_cons.mp hordered).1 other hrest
      rw [hhead] at hle
      omega

/-- In a clear job that is due, whatever is neither claimable nor running has succeeded. -/
theorem succeeded_of_clear (h : Orderly job) (hdue : StepDue job) (hclear : Clear job)
    {other : GenerationJobStep} (hother : other ∈ job.steps) (hnot : claimable other = false) :
    other.state = .succeeded := by
  obtain ⟨⟨hcancel, hlive⟩, step, hfirst, hedge⟩ := hdue
  obtain ⟨hrunning, hvalidation⟩ := hclear other hother
  have hfits := h.fits other hother
  unfold StepFits at hfits
  cases hstate : other.state with
  | pending => simp [claimable, hstate] at hnot
  | retrying => simp [claimable, hstate] at hnot
  | running => exact absurd hstate hrunning
  | succeeded => rfl
  | failed =>
    rw [hstate] at hfits
    rcases hfits with hhalted | ⟨hvalidating, hkind⟩
    · obtain ⟨hne, hno⟩ := halted_of_edge hhalted step.stepKind
      rcases hedge with hsame | hallowed
      · exact absurd hsame hne
      · exact absurd hallowed hno
    · exact absurd ⟨hvalidating, hkind, hstate⟩ hvalidation
  | cancelled =>
    rw [hstate] at hfits
    simp only at hfits
    rw [hfits] at hlive
    exact absurd (by decide) hlive
  | waitingExternal => rw [hstate] at hfits; exact hfits.elim
  | waitingUser => rw [hstate] at hfits; exact hfits.elim
  | skipped => rw [hstate] at hfits; exact hfits.elim

theorem claimNextStep_of_due (h : StepDue job) (now : Int) :
    ∃ step, firstByOrdinal (job.steps.filter claimable) = some step ∧
      claimNextStep now job = .ok (some (claimedStep now step), { job with
        state := stepJobState step.stepKind
        startedAt := job.startedAt <|> some now
        steps := updateRow (·.id) step.id (claimedStep now) job.steps }) := by
  obtain ⟨⟨hcancel, hlive⟩, step, hfirst, hedge⟩ := h
  refine ⟨step, hfirst, ?_⟩
  have henter : enterStepState step job = .ok { job with state := stepJobState step.stepKind } := by
    unfold enterStepState
    simp only
    split
    · rename_i hsame
      rw [hsame]
    · rename_i hne
      exact bind_of_ok (ensureTransition_eq (hedge.resolve_left hne)) _
  unfold claimNextStep
  rw [if_neg hcancel, if_neg hlive, hfirst]
  exact bind_of_ok henter _

/-- A claim starts its step in order exactly when it finds the job clear. -/
theorem timely_claim_iff (h : Orderly job) (now : Int) :
    Timely job (.claimNextStep now) ↔ ClaimsClear job (.claimNextStep now) := by
  constructor
  · intro htimely hdue
    obtain ⟨step, hfirst, hclaim⟩ := claimNextStep_of_due hdue now
    obtain ⟨hearlier, halone⟩ := htimely _ _ hclaim
    obtain ⟨hmem, hclaimable, _⟩ := firstByOrdinal_earlier h.planned hfirst
    intro other hother
    have hother_ne : claimable other = false → other.id ≠ step.id := by
      intro hnot hid
      rw [h.planned.keyed.eq_of_key_eq hother hmem hid, hclaimable] at hnot
      cases hnot
    constructor
    · -- a step that was running before the claim is running after it
      intro hrunning
      have hne := hother_ne (by simp [claimable, hrunning])
      exact hne (halone other (mem_updateRow_of_ne hother hne) hrunning)
    · rintro ⟨_, hkind, hfailed⟩
      have hne := hother_ne (by simp [claimable, hfailed])
      have hlt : other.ordinal < step.ordinal :=
        validateInput_first h.planned hother hkind hmem fun heq => hne (heq ▸ rfl)
      have hsucceeded := hearlier other hother hlt
      rw [hfailed] at hsucceeded
      cases hsucceeded
  · intro hclear step after hclaim
    have hdue := Claims.due hclaim
    obtain ⟨first, hfirst, heq⟩ := claimNextStep_of_due hdue now
    rw [hclaim] at heq
    obtain ⟨hstep, rfl⟩ := Prod.mk.inj (Except.ok.inj heq)
    obtain rfl := Option.some.inj hstep
    obtain ⟨_, _, hearlier⟩ := firstByOrdinal_earlier h.planned hfirst
    refine ⟨fun other hother hlt => ?_, fun other hother hrunning => ?_⟩
    · exact succeeded_of_clear h hdue (hclear hdue) hother (hearlier other hother hlt)
    · obtain ⟨old, hold, ⟨hid, rfl⟩ | ⟨_, rfl⟩⟩ := mem_updateRow hother
      · exact hid
      · exact absurd hrunning (hclear hdue _ hold).1

theorem timely_iff (h : Orderly job) (action : JobAction) :
    Timely job action ↔ ClaimsClear job action := by
  cases action with
  | claimNextStep now => exact timely_claim_iff h now
  | _ => exact Iff.rfl

/-- A failed step halts its job, except in `VALIDATING`. -/
theorem failureTarget_halts (retryable : Bool) (kind : GenerationStepKind)
    (hstate : state = stepJobState kind ∨ state ∈ [.cancelRequested, .cancelled, .waitingReview]) :
    failureTarget retryable state ∈ haltedStates ∨
      failureTarget retryable state = .validating ∧ state = .validating ∧
        kind = .validateInput := by
  revert hstate
  cases retryable <;> cases kind <;> cases state <;> decide

theorem failureTarget_cancelled (retryable : Bool) :
    failureTarget retryable .cancelled = .cancelled := by
  cases retryable <;> rfl

section

variable (h : Orderly job)

include h

/-- An action that starts no step keeps the order when the states still fit. -/
theorem Orderly.of_running (hidentity : after.steps.map stepIdentity = job.steps.map stepIdentity)
    (hrunning : ∀ step ∈ after.steps, step.state = .running →
      ∃ old ∈ job.steps, old.id = step.id ∧ old.state = .running)
    (hfits : ∀ step ∈ after.steps, StepFits after.state step) : Orderly after := by
  refine ⟨h.planned.of_identity hidentity, fun step hstep hrun other hother hother_run => ?_, hfits⟩
  obtain ⟨old, hold, hid, hold_run⟩ := hrunning step hstep hrun
  obtain ⟨old', hold', hid', hold_run'⟩ := hrunning other hother hother_run
  rw [← hid, ← hid']
  exact h.running_alone old hold hold_run old' hold' hold_run'

theorem Orderly.moved (hsteps : after.steps = job.steps)
    (hfits : ∀ step ∈ job.steps, StepFits after.state step) : Orderly after := by
  refine h.of_running (by rw [hsteps]) ?_ (by rwa [hsteps])
  rw [hsteps]
  exact fun step hstep hrun => ⟨step, hstep, rfl, hrun⟩

theorem orderly_completed (now : Int) (stepId : Uuid) :
    Orderly (updateStep stepId (succeededStep now) job) := by
  have hrows : ∀ step ∈ (updateStep stepId (succeededStep now) job).steps,
      step ∈ job.steps ∨ step.state = .succeeded := by
    intro step hstep
    obtain ⟨old, hmem, ⟨_, rfl⟩ | ⟨_, rfl⟩⟩ := mem_updateRow hstep
    · exact .inr rfl
    · exact .inl hmem
  have hidentity := updateStep_identity (f := succeededStep now) (by intro step; rfl) stepId job
  refine h.of_running hidentity (fun step hstep hrun => ?_) fun step hstep => ?_
  · rcases hrows step hstep with hold | hsucceeded
    · exact ⟨step, hold, rfl, hrun⟩
    · rw [hsucceeded] at hrun
      cases hrun
  · rcases hrows step hstep with hold | hsucceeded
    · exact h.fits step hold
    · unfold StepFits
      rw [hsucceeded]
      trivial

theorem orderly_failed {stepId : Uuid} {errorCode errorDetail : String} {retryable : Bool}
    (hrunning : FailsRunning job (.failStep now stepId errorCode errorDetail retryable))
    (hok : failStep now stepId errorCode errorDetail retryable job = .ok after) : Orderly after := by
  obtain ⟨running, hmem, hid, hrun⟩ := hrunning
  obtain ⟨found, hfound, hok⟩ := bind_ok hok
  have hfound_id : found.id = stepId := by
    unfold stepOf at hfound
    split at hfound
    · cases hfound
      rename_i step hfind
      simpa using find?_some hfind
    · cases hfound
  have hfits := h.fits running hmem
  unfold StepFits at hfits
  rw [hrun] at hfits
  simp only at hfits
  have htarget := failureTarget_halts retryable running.stepKind hfits
  have hafter_state : after.state = failureTarget retryable job.state := by
    cases hok
    rfl
  -- the failed step was the only one running
  have hrows : ∀ step ∈ after.steps, (step.state = .failed ∧ step.stepKind = running.stepKind) ∨
        (step ∈ job.steps ∧ step.state ≠ .running) := by
    intro step hstep
    cases hok
    obtain ⟨old, hold, ⟨hold_id, rfl⟩ | ⟨hne, rfl⟩⟩ := mem_updateRow hstep
    · have hold_eq : old = running :=
        h.planned.keyed.eq_of_key_eq hold hmem ((hold_id.trans hfound_id).trans hid.symm)
      exact .inl ⟨rfl, by rw [hold_eq]⟩
    · refine .inr ⟨hold, fun hold_run => hne ?_⟩
      rw [h.running_alone running hmem hrun _ hold hold_run, hid, hfound_id]
  have hidentity : after.steps.map stepIdentity = job.steps.map stepIdentity := by
    cases hok
    exact updateStep_identity (by intro step; rfl) _ _
  refine h.of_running hidentity (fun step hstep hstep_run => ?_) fun step hstep => ?_
  · rcases hrows step hstep with ⟨hfailed, _⟩ | ⟨_, hnot⟩
    · rw [hfailed] at hstep_run
      cases hstep_run
    · exact absurd hstep_run hnot
  · rw [hafter_state]
    rcases hrows step hstep with ⟨hfailed, hkind⟩ | ⟨hold, hnot⟩
    · unfold StepFits
      rw [hfailed]
      rcases htarget with hhalts | ⟨hvalidating, _, hvalidate⟩
      · exact .inl hhalts
      · exact .inr ⟨hvalidating, hkind.trans hvalidate⟩
    · have hold_fits := h.fits step hold
      unfold StepFits at hold_fits ⊢
      cases hstate : step.state with
      | pending | retrying | succeeded => trivial
      | running => exact absurd hstate hnot
      | failed =>
        rw [hstate] at hold_fits
        rcases htarget with hhalts | ⟨hvalidating, hbefore, _⟩
        · exact .inl hhalts
        · rcases hold_fits with hhalted | ⟨_, hkind⟩
          · rw [hbefore] at hhalted
            exact absurd hhalted (by decide)
          · exact .inr ⟨hvalidating, hkind⟩
      | cancelled =>
        rw [hstate] at hold_fits
        simp only at hold_fits ⊢
        rw [hold_fits, failureTarget_cancelled]
      | waitingExternal | waitingUser | skipped =>
        rw [hstate] at hold_fits
        exact hold_fits.elim

/-- Cancelling the job leaves no step to be claimed. -/
theorem orderly_cancelled (now : Int) :
    Orderly (cancelPendingSteps { job with state := .cancelled, finishedAt := some now }) := by
  have hrows : ∀ step ∈ (cancelPendingSteps
      { job with state := .cancelled, finishedAt := some now }).steps,
      step.state = .cancelled ∨ step ∈ job.steps ∧ claimable step = false := by
    intro step hstep
    obtain ⟨old, hold, rfl⟩ := mem_map.mp hstep
    split
    · exact .inl rfl
    · exact .inr ⟨hold, by simp_all⟩
  have hidentity := cancelPendingSteps_identity
    { job with state := .cancelled, finishedAt := some now }
  refine h.of_running hidentity (fun step hstep hrun => ?_) fun step hstep => ?_
  · rcases hrows step hstep with hcancelled | ⟨hold, _⟩
    · rw [hcancelled] at hrun
      cases hrun
    · exact ⟨step, hold, rfl, hrun⟩
  · change StepFits .cancelled step
    rcases hrows step hstep with hcancelled | ⟨hold, hnot⟩
    · unfold StepFits
      rw [hcancelled]
    · have hfits := h.fits step hold
      unfold StepFits at hfits ⊢
      cases hstate : step.state with
      | pending | retrying => simp [claimable, hstate] at hnot
      | running => exact .inr (by decide)
      | succeeded => trivial
      | failed => exact .inl (by decide)
      | cancelled => rfl
      | waitingExternal | waitingUser | skipped =>
        rw [hstate] at hfits
        exact hfits.elim

theorem orderly_claim {answer : Option GenerationJobStep}
    (hclear : ClaimsClear job (.claimNextStep now))
    (hclaim : claimNextStep now job = .ok (answer, after)) : Orderly after := by
  cases answer with
  | none =>
    generalize hnone : (none : Option GenerationJobStep) = answer at hclaim
    cases claims_of_ok hclaim with
    | cancelled hstate => exact orderly_cancelled h now
    | idle hidle => exact h
    | claimed first hlive hfirst hedge => cases hnone
  | some started =>
    have hidentity := (claims_of_ok hclaim).identity
    have hdue := Claims.due hclaim
    obtain ⟨step, hfirst, heq⟩ := claimNextStep_of_due hdue now
    rw [hclaim] at heq
    obtain ⟨_, rfl⟩ := Prod.mk.inj (Except.ok.inj heq)
    obtain ⟨hmem, _⟩ := firstByOrdinal_earlier h.planned hfirst
    -- the other steps are claimable or have succeeded
    have hrows : ∀ other ∈ updateRow (·.id) step.id (claimedStep now) job.steps,
        other.id = step.id ∧ other.state = .running ∧ other.stepKind = step.stepKind ∨
          claimable other = true ∨ other.state = .succeeded := by
      intro other hother
      obtain ⟨old, hold, ⟨hid, rfl⟩ | ⟨_, rfl⟩⟩ := mem_updateRow hother
      · rw [h.planned.keyed.eq_of_key_eq hold hmem hid]
        exact .inl ⟨rfl, rfl, rfl⟩
      · cases hclaimable : claimable other with
        | true => exact .inr (.inl rfl)
        | false => exact .inr (.inr (succeeded_of_clear h hdue (hclear hdue) hold hclaimable))
    have hrunning : ∀ other ∈ updateRow (·.id) step.id (claimedStep now) job.steps,
        other.state = .running → other.id = step.id := by
      intro other hother hrun
      rcases hrows other hother with ⟨hid, _⟩ | hclaimable | hsucceeded
      · exact hid
      · simp [claimable, hrun] at hclaimable
      · rw [hsucceeded] at hrun
        cases hrun
    refine ⟨h.planned.of_identity hidentity, fun one hone hone_run other hother hother_run => ?_,
      fun other hother => ?_⟩
    · rw [hrunning one hone hone_run, hrunning other hother hother_run]
    · change StepFits (stepJobState step.stepKind) other
      unfold StepFits
      rcases hrows other hother with ⟨_, hrun, hkind⟩ | hclaimable | hsucceeded
      · rw [hrun, hkind]
        exact .inl rfl
      · cases hstate : other.state <;> simp [claimable, hstate] at hclaimable ⊢
      · rw [hsucceeded]
        trivial

end

/-- A step that fits a job which the table lets go on to `target` fits it there. -/
theorem fits_moved {target : JobState} (h : StepFits state step)
    (hedge : target ∈ allowedJobTransitions state)
    (htarget : target ∈ [.cancelRequested, .cancelled, .waitingReview]) : StepFits target step := by
  unfold StepFits at h ⊢
  cases hstate : step.state with
  | pending | retrying | succeeded => trivial
  | running => exact .inr htarget
  | failed =>
    refine .inl ?_
    revert htarget
    cases target <;> decide
  | cancelled =>
    rw [hstate] at h
    simp only at h
    rw [h] at hedge
    exact absurd hedge (not_mem_nil)
  | waitingExternal | waitingUser | skipped =>
    rw [hstate] at h
    exact h.elim

theorem orderly_reviewed (h : Orderly job) (hok : enterWaitingReview job = .ok after) :
    Orderly after := by
  unfold enterWaitingReview at hok
  split_ifs at hok
  · cases hok
    exact h
  · obtain ⟨_, hallowed, hok⟩ := bind_ok hok
    cases hok
    have hedge := ensureTransition_ok hallowed
    exact h.moved rfl fun step hstep => fits_moved (h.fits step hstep) hedge (by simp)

section Commands

variable [CommandHash]
variable {data : CommandRequest}

section

variable (h : Orderly job)

include h

theorem orderly_cancel (hok : applyCancel data job = .ok after) : Orderly after := by
  simp only [applyCancel] at hok
  split_ifs at hok
  · cases hok
    exact h
  all_goals
    obtain ⟨_, hallowed, hok⟩ := bind_ok hok
    cases hok
    have hedge := ensureTransition_ok hallowed
    exact h.moved rfl fun step hstep => fits_moved (h.fits step hstep) hedge (by simp [recordCommand])

/-- A job that can be queued again has no step running, and the retry leaves none failed. -/
theorem orderly_retry (hok : applyRetry data job = .ok after) : Orderly after := by
  obtain ⟨_, hallowed, hok⟩ := bind_ok hok
  have hedge := ensureTransition_ok hallowed
  have hafter : after.state = .queued ∧ after.steps = job.steps.map retryStep := by
    split_ifs at hok
    cases hok
    exact ⟨rfl, rfl⟩
  have hrows : ∀ step ∈ after.steps, claimable step = true ∨ step.state = .succeeded := by
    rw [hafter.2]
    intro step hstep
    obtain ⟨old, hold, rfl⟩ := mem_map.mp hstep
    have hfits := h.fits old hold
    unfold StepFits at hfits
    rw [claimable_retryStep]
    cases hstate : old.state with
    | pending | retrying | failed | cancelled =>
      exact .inl (by simp [retryClaims, claimable, hstate])
    | succeeded => exact .inr (by simp [retryStep, hstate])
    | running =>
      rw [hstate] at hfits
      have hno : ∀ kind : GenerationStepKind, .queued ∉ allowedJobTransitions (stepJobState kind) := by
        intro kind
        cases kind <;> decide
      rcases hfits with hsame | hspecial
      · rw [hsame] at hedge
        exact absurd hedge (hno _)
      · simp only [mem_cons, not_mem_nil, or_false] at hspecial
        rcases hspecial with hspecial | hspecial | hspecial <;> rw [hspecial] at hedge <;>
          exact absurd hedge (by decide)
    | waitingExternal | waitingUser | skipped =>
      rw [hstate] at hfits
      exact hfits.elim
  have hidentity : after.steps.map stepIdentity = job.steps.map stepIdentity := by
    rw [hafter.2, map_map]
    refine map_congr_left fun step _ => ?_
    simp only [Function.comp_apply, retryStep]
    split <;> rfl
  refine h.of_running hidentity (fun step hstep hrun => ?_) fun step hstep => ?_
  · rcases hrows step hstep with hclaimable | hsucceeded
    · simp [claimable, hrun] at hclaimable
    · rw [hsucceeded] at hrun
      cases hrun
  · unfold StepFits
    rcases hrows step hstep with hclaimable | hsucceeded
    · cases hstate : step.state <;> simp [claimable, hstate] at hclaimable ⊢
    · rw [hsucceeded]
      trivial

theorem orderly_command {kind : CommandKind} (hok : command kind data job = .ok after) :
    Orderly after := by
  unfold command at hok
  split at hok
  · split_ifs at hok
    cases hok
    exact h
  · cases kind with
    | cancel => exact orderly_cancel h hok
    | retry => exact orderly_retry h hok

theorem orderly_step {action : JobAction} (hrunning : FailsRunning job action)
    (hclear : ClaimsClear job action) : Orderly (stepJob job action) := by
  unfold stepJob
  cases hok : attemptAction job action with
  | error failure => exact h
  | ok after =>
    simp only
    cases action with
    | claimNextStep now =>
      obtain ⟨⟨answer, claimed⟩, hclaim, rfl⟩ := map_ok hok
      exact orderly_claim h hclear hclaim
    | completeStep now stepId =>
      rcases completeStep_ok hok with rfl | rfl
      · exact h
      · exact orderly_completed h now stepId
    | failStep now stepId errorCode errorDetail retryable => exact orderly_failed h hrunning hok
    | finalizeForReview => exact orderly_reviewed h hok
    | cancelJob data => exact orderly_command h hok
    | retryJob data => exact orderly_command h hok

/-- In an orderly job a run starts its steps in order exactly when its claims find the job
clear: both break at the same claim. -/
theorem timely_along_iff {actions : List JobAction}
    (hrunning : Along stepJob FailsRunning job actions) :
    Along stepJob Timely job actions ↔ Along stepJob ClaimsClear job actions := by
  induction actions generalizing job with
  | nil => exact Iff.rfl
  | cons action actions ih =>
    rw [along_cons, along_cons, timely_iff h action]
    refine and_congr_right fun hclear => ?_
    exact ih (orderly_step h hrunning.1 hclear) hrunning.2

end

/-- The steps of a job start in order and alone exactly in the runs whose claims find the
job clear. -/
theorem steps_start_in_order_iff {job : GenerationJob} (h : created job)
    {actions : List JobAction} (hrunning : Along stepJob FailsRunning job actions) :
    Along stepJob Timely job actions ↔ Along stepJob ClaimsClear job actions :=
  timely_along_iff (orderly_created h) hrunning

end Commands

section Sample

attribute [local instance] sampleHash

def startedResearch : List JobAction := [.claimNextStep 1, .completeStep 2 1, .claimNextStep 3]

/-- Input validation fails for now, then another step is claimed. -/
def failedValidation : List JobAction :=
  [.claimNextStep 1, .failStep 2 1 "INPUT_UNREADABLE" "" true, .claimNextStep 3]

theorem startedResearch_in_order : Along stepJob Timely sampleJob startedResearch := by
  have hrunning : Along stepJob FailsRunning sampleJob startedResearch :=
    ⟨trivial, trivial, trivial, trivial⟩
  have hclear : Along stepJob ClaimsClear sampleJob startedResearch := by
    refine ⟨fun _ => ?_, trivial, fun _ => ?_, trivial⟩ <;> unfold Clear <;> decide
  exact (steps_start_in_order_iff created_sampleJob hrunning).mpr hclear

/-- The research starts although the input validation before it failed and was not retried. -/
theorem failedValidation_out_of_order :
    created sampleJob ∧ Along stepJob FailsRunning sampleJob failedValidation ∧
      ¬ Along stepJob Timely sampleJob failedValidation := by
  refine ⟨created_sampleJob, ⟨trivial, ?_, trivial, trivial⟩, fun h => ?_⟩
  · unfold FailsRunning
    decide
  · obtain ⟨_, _, htimely, _⟩ := h
    have hclaim := htimely _ _ rfl
    exact absurd hclaim.1 (by decide)

end Sample

end BlogOps.Generation
