import BlogOps.PublishRuns

/-!
# What one run of a publish job can do

`process_publish_job` inverted: how each run goes on from its start, what its
operation or its cancellation ended in, and how it was closed after that.
-/

namespace BlogOps.Publishing

open Jobs KeyedTables EffectRules

variable {ρ : Type}

/-- How a cancellation is closed after its remote part. -/
inductive ClosesCancellation (others : List PublishJob) (u : Session ρ) :
    Except Exc Bool → Except Exc RunResult → Session ρ → Prop
  | cancelled {released : Bool} {r : Except Exc RunResult} {t : Session ρ}
      (hends : Finishes others .cancelled u t) (hsettled : ∀ x, r = .ok x → Settled t.memory.job) :
      ClosesCancellation others u (.ok released) r t
  | failed {failure : ProviderFailure} {r : Except Exc RunResult} {t : Session ρ}
      (hends : Fails others failure u t) :
      ClosesCancellation others u (.error (.provider failure)) r t
  | stopped {e : Exc} : ClosesCancellation others u (.error e) (.error e) u

/-- How a publication is closed after its operation. -/
inductive ClosesPublication (others : List PublishJob) (u : Session ρ) :
    Except Exc Bool → Except Exc RunResult → Session ρ → Prop
  | completed {incomplete : Bool} {r : Except Exc RunResult} {t : Session ρ}
      (hends : Finishes others (if incomplete then .partialSuccess else .succeeded) u t) :
      ClosesPublication others u (.ok incomplete) r t
  | failed {failure : ProviderFailure} {r : Except Exc RunResult} {t : Session ρ}
      (hends : Fails others failure u t)
      (hsettled : ∀ x, r = .ok x → t.memory.job.state = .finalFailed → Settled t.memory.job) :
      ClosesPublication others u (.error (.provider failure)) r t
  | refused {error : AppError} {r : Except Exc RunResult} {t : Session ρ}
      (hends : Finishes others .finalFailed u t)
      (hsettled : ∀ x, r = .ok x → Settled t.memory.job) :
      ClosesPublication others u (.error (.app error)) r t
  | stopped : ClosesPublication others u (.error .uncaught) (.error .uncaught) u

section Closing

variable {others : List PublishJob} {u : Session ρ}

/-- A handled exception is not raised by what closes a cancellation. -/
def unhandled (e : Exc) : Prop := ∀ failure, e ≠ .provider failure

theorem raises_setJobState (state : JobState) (P : Exc → Prop) : Raises P (setJobState state : Saga ρ Unit) :=
  raises_bind (raises_getJob P) fun _ => raises_bind (raises_modify _) fun _ => raises_modify _

theorem raises_cancelPendingSteps (P : Exc → Prop) : Raises P (cancelPendingSteps : Saga ρ Unit) := by
  unfold cancelPendingSteps endSteps
  refine raises_bind (raises_getJob P) fun job => ?_
  exact raises_bind (raises_getFlushed P) fun flushed => raises_modify _

theorem raises_releaseQuota (now : Timestamp) (reverseCompleted : Bool) (P : Exc → Prop) :
    Raises P (releaseQuota now reverseCompleted : Saga ρ Unit) := by
  unfold releaseQuota reverseReservation freeReservation noteClamp markReleased selectUsage
  refine raises_bind (raises_getJob P) fun job => raises_ite (raises_pure _) ?_
  refine raises_ite (raises_pure _) (raises_bind ?_ fun found => ?_)
  · exact raises_bind raises_get fun s => raises_pure _
  · cases found with
    | none => exact raises_pure _
    | some usage =>
      refine raises_ite ?_ (raises_ite (raises_pure _) (raises_ite ?_ (raises_modify _)))
      · refine raises_bind (raises_ite (raises_modify _) (raises_pure _)) fun _ => ?_
        exact raises_bind (raises_modify _) fun _ => raises_modify _
      · exact raises_bind (raises_modify _) fun _ => raises_modify _

variable (env : WorkerEnv ρ)

theorem raises_closeCancelled (scheduleReleased : Bool) :
    Raises unhandled (closeCancelled env scheduleReleased) := by
  unfold closeCancelled repoFlush
  refine raises_bind (raises_setJobState _ _) fun _ => raises_bind (raises_modify _) fun _ => ?_
  refine raises_bind (raises_cancelPendingSteps _) fun _ => ?_
  refine raises_bind (raises_releaseQuota _ _ _) fun _ => raises_bind ?_ fun _ => ?_
  · refine (raises_notifyAndEmit env.now "publishing.job.cancelled").mono ?_
    rintro e rfl failure h
    cases h
  · refine raises_bind (raises_flush ?_) fun _ => raises_pure _
    intro failure h
    cases h

theorem closesCancellation (h : Balanced others u) (r' : Except Exc Bool) :
    Continues (closeCancelled env) (Handled (cancelFailed env) (ClosesCancellation others u r'))
      r' u := by
  cases r' with
  | ok released =>
    rw [continues_ok]
    refine ((ends_closeCancelled env h released).and
      (raises_closeCancelled env released u)).mono fun r t ht => ?_
    cases r with
    | ok x => exact .cancelled ht.1.1 fun x h => ht.1.2 x h
    | error e =>
      cases e with
      | provider failure => exact (ht.2 _ rfl failure rfl).elim
      | app error => exact .cancelled ht.1.1 fun _ h => by cases h
      | uncaught => exact .cancelled ht.1.1 fun _ h => by cases h
  | error e =>
    rw [continues_error, handled_error]
    cases e with
    | provider failure => exact (ends_cancelFailed env h failure).mono fun r t ht => .failed ht
    | app error => exact .stopped
    | uncaught => exact .stopped

theorem ends_closePublication {t : Session ρ} {Q : Except Exc RunResult → Session ρ → Prop}
    (hq : ∀ r v, LogFrame t v → Q r v) : Ends closePublication t Q := by
  unfold closePublication repoFlush runResult
  refine ends_bind_of_keeps (logFrame_flush _) (fun _ v hv => ?_) (fun e v hv => hq _ v hv)
  rw [ends_bind, ends_getJob, continues_ok]
  exact hq _ v hv

theorem closesPublication (h : Balanced others u) (hsound : stepsSound u) (r' : Except Exc Bool) :
    Continues (completeJob env) (Handled (publishFailed env)
      (Continues (fun _ => closePublication) (ClosesPublication others u r'))) r' u := by
  cases r' with
  | ok incomplete =>
    rw [continues_ok]
    refine (ends_completeJob env h hsound incomplete).mono fun r t ht => ?_
    cases r with
    | ok x =>
      rw [handled_ok, continues_ok]
      exact ends_closePublication fun r v hv => .completed (ht.1.log hv)
    | error e =>
      rw [handled_error, ht.2 e rfl]
      exact .completed ht.1
  | error e =>
    rw [continues_error, handled_error]
    cases e with
    | provider failure =>
      refine (ends_publishFailed env h failure).mono fun r t ht => ?_
      cases r with
      | ok x =>
        rw [continues_ok]
        refine ends_closePublication fun r v hv => .failed (ht.1.log hv) fun _ _ hfinal => ?_
        exact (ht.2 x rfl (hv.job ▸ hfinal)).log hv
      | error e => exact .failed ht.1 fun _ h => by cases h
    | app error =>
      refine (ends_finallyFail env h error.code error.message).mono fun r t ht => ?_
      cases r with
      | ok x =>
        rw [continues_ok]
        exact ends_closePublication fun r v hv => .refused (ht.1.log hv) fun _ _ =>
          (ht.2 x rfl).log hv
      | error e => exact .refused ht.1 fun _ h => by cases h
    | uncaught => exact .stopped

end Closing

section Runs

variable [CanonicalHash]

/-- The run gets to the provider. -/
structure Opens (env : WorkerEnv ρ) (connections : List PublishingConnection)
    (policies : List PublicationPolicy) (job : PublishJob) (connection : PublishingConnection)
    (policy : PublicationPolicy) (channel : Channel ρ) : Prop where
  unfinished : finished job = false
  started : cancelledUnstarted job = false
  connected : connections.find? (·.id = job.connectionId) = some connection
  governed : policies.find? (·.id = job.policyId) = some policy
  intact : snapshotMismatch job policy = false
  opened : openChannel env connection = .ok channel

/-- The runs of `process_publish_job` from a session. -/
inductive PublishRun (env : WorkerEnv ρ) (connections : List PublishingConnection)
    (policies : List PublicationPolicy) (others : List PublishJob) (s : Session ρ) :
    Except Exc RunResult → Session ρ → Prop
  | skipped (hfinished : finished s.memory.job = true) :
      PublishRun env connections policies others s
        (.ok (s.memory.job.state, s.memory.job.retryAfterSeconds)) s
  | stopped {e : Exc} : PublishRun env connections policies others s (.error e) s
  | unstarted {r : Except Exc RunResult} {t : Session ρ}
      (hunfinished : finished s.memory.job = false)
      (hunstarted : cancelledUnstarted s.memory.job = true)
      (hends : Finishes others .cancelled (attemptSession s) t)
      (hsettled : ∀ x, r = .ok x → Settled t.memory.job) :
      PublishRun env connections policies others s r t
  | refused {r : Except Exc RunResult} {t : Session ρ}
      (hunfinished : finished s.memory.job = false)
      (hstarted : cancelledUnstarted s.memory.job = false)
      (hends : Finishes others .finalFailed s t)
      (hsettled : ∀ x, r = .ok x → Settled t.memory.job) :
      PublishRun env connections policies others s r t
  | cancelling {connection : PublishingConnection} {policy : PublicationPolicy}
      {channel : Channel ρ} {r' : Except Exc Bool} {u : Session ρ} {r : Except Exc RunResult}
      {t : Session ρ}
      (hopens : Opens env connections policies s.memory.job connection policy channel)
      (hcancelling : cancelling s.memory.job = true)
      (hresults : Results (releaseSchedule env channel) (attemptSession s) r' u)
      (hframe : ReleaseCalls (attemptSession s) u)
      (hcloses : ClosesCancellation others u r' r t) :
      PublishRun env connections policies others s r t
  | publishing {connection : PublishingConnection} {policy : PublicationPolicy}
      {channel : Channel ρ} {r' : Except Exc Bool} {u : Session ρ} {r : Except Exc RunResult}
      {t : Session ρ}
      (hopens : Opens env connections policies s.memory.job connection policy channel)
      (hpublishing : cancelling s.memory.job = false)
      (hresults : Results (runOperation env connection policy channel s.memory.job.operation)
        (beginSession env s) r' u)
      (hframe : BodyFrame (beginSession env s) u) (hbalance : OpenBalance others u)
      (hcloses : ClosesPublication others u r' r t) :
      PublishRun env connections policies others s r t

variable {env : WorkerEnv ρ} {connections : List PublishingConnection}
  {policies : List PublicationPolicy} {others : List PublishJob} {s : Session ρ}

omit [CanonicalHash] in
theorem openBalance_beginSession (h : Balanced others s)
    (hopen : s.memory.job.quotaReleasedAt = none) : OpenBalance others (beginSession env s) := by
  have hemitted : Balanced others { s with
      trace := s.trace ++ [.assigned s.memory.job.state .publishing] } :=
    ⟨h.1, quiet_append h.2 rfl⟩
  exact ⟨hemitted.of_job rfl rfl rfl, hopen⟩

/-- What every operation keeps of the session that it starts in. -/
theorem ends_operation (connection : PublishingConnection) (policy : PublicationPolicy)
    (channel : Channel ρ) (h : OpenBalance others (beginSession env s)) :
    Ends (runOperation env connection policy channel s.memory.job.operation) (beginSession env s)
      fun _ u => RunFrame (beginSession env s) u ∧ BodyFrame (beginSession env s) u ∧
        OpenBalance others u := by
  have hrules : OperationRules env channel (Preserves (OpenBalance others)) :=
    openBalance_operationRules env channel
  refine (((runFrame_operationRules env channel).keeps_runOperation connection policy _ _).and
    (((bodyFrame_operationRules env channel).keeps_runOperation connection policy _ _).and
      (hrules.keeps_runOperation connection policy _ _))).mono fun r u hu => ?_
  exact ⟨hu.1, hu.2.1, hu.2.2 h⟩

theorem ends_publishRun (h : Balanced others s)
    (hopen : finished s.memory.job = false → s.memory.job.quotaReleasedAt = none)
    (hsound : stepsSound s) : Ends (processPublishJob env connections policies) s
      (PublishRun env connections policies others s) := by
  unfold processPublishJob cancelLocalJob startAttempt
  rw [ends_bind, ends_getJob, continues_ok]
  refine ends_ite (fun hfinished => .skipped hfinished) (fun hunfinished => ?_)
  rw [Bool.not_eq_true] at hunfinished
  refine ends_ite (fun hunstarted => ?_) (fun hstarted => ?_)
  · rw [ends_bind, ends_modifyJob, continues_ok]
    have hattempt : Balanced others (attemptSession s) := h.of_job rfl rfl rfl
    exact (ends_closeCancelled env hattempt false).mono fun r t ht =>
      .unstarted hunfinished hunstarted ht.1 ht.2
  rw [Bool.not_eq_true] at hstarted
  have hrefused (code detail : String) : Ends (refuseJob env code detail) s
      (PublishRun env connections policies others s) :=
    (ends_refuseJob env h code detail).mono fun r t ht =>
      .refused hunfinished hstarted ht.1 ht.2
  cases hconnection : connections.find? (·.id = s.memory.job.connectionId) with
  | none => exact .stopped
  | some connection =>
    cases hpolicy : policies.find? (·.id = s.memory.job.policyId) with
    | none => exact .stopped
    | some policy =>
      unfold processWith
      rw [ends_bind, ends_getJob, continues_ok]
      refine ends_ite (fun _ => hrefused _ _) (fun hintact => ?_)
      rw [Bool.not_eq_true] at hintact
      split
      · exact hrefused _ _
      · exact .stopped
      · rename_i channel hchannel
        have hopens : Opens env connections policies s.memory.job connection policy channel :=
          ⟨hunfinished, hstarted, hconnection, hpolicy, hintact, hchannel⟩
        refine ends_ite (fun hcancelling => ?_) (fun hpublishing => ?_)
        · rw [ends_processCancellation]
          have hattempt : Balanced others (attemptSession s) := h.of_job rfl rfl rfl
          refine ((ends_results (releaseSchedule env channel) (attemptSession s)).and
            (releaseCalls_releaseSchedule env channel (attemptSession s))).mono fun r' u hu => ?_
          refine (closesCancellation env (hu.2.balance others hattempt) r').mono fun r t ht => ?_
          exact ht.mono fun r t ht => .cancelling hopens hcancelling hu.1 hu.2 ht
        · rw [Bool.not_eq_true] at hpublishing
          rw [ends_processPublication]
          have hbegin : OpenBalance others (beginSession env s) :=
            openBalance_beginSession h (hopen hunfinished)
          refine ((ends_results (runOperation env connection policy channel
            s.memory.job.operation) (beginSession env s)).and
            (ends_operation connection policy channel hbegin)).mono fun r' u hu => ?_
          obtain ⟨hresults, hrun, hframe, hbalance⟩ := hu
          refine (closesPublication env hbalance.1 (hrun.steps hsound) r').mono
            fun r t ht => ht.mono fun r t ht => ht.mono fun r t ht => ?_
          exact .publishing hopens hpublishing hresults hframe hbalance ht

end Runs

end BlogOps.Publishing
