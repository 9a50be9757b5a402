import BlogOps.PublishQuotaCounts

/-!
# How a publish run ends

The frames of the three kinds of work in a run (the operation of the job, the
cancellation of a schedule, the bookkeeping), what each end of a run leaves of
the job, and the ways in which `process_publish_job` can end.
-/

namespace BlogOps.Publishing

open Jobs KeyedTables EffectRules List

variable {ρ : Type}

def SagaEvent.assignment : SagaEvent → Option (JobState × JobState)
  | .assigned old new => some (old, new)
  | _ => none

def SagaEvent.call : SagaEvent → Option ProviderOperation
  | .called operation => some operation
  | _ => none

/-- The assignments of the job state, in order. -/
def assignments (trace : List SagaEvent) : List (JobState × JobState) :=
  trace.filterMap SagaEvent.assignment

/-- The provider calls, in order. -/
def calls (trace : List SagaEvent) : List ProviderOperation := trace.filterMap SagaEvent.call

@[simp] theorem assignments_append (trace more : List SagaEvent) :
    assignments (trace ++ more) = assignments trace ++ assignments more :=
  filterMap_append

@[simp] theorem calls_append (trace more : List SagaEvent) :
    calls (trace ++ more) = calls trace ++ calls more :=
  filterMap_append

/-- A job without what its operation writes on it. -/
def apartFromResult (job : PublishJob) : PublishJob :=
  { job with
    targetPublishedPostId := none
    quotaCompletedAt := none
    resultJson := none }

def resultFinal (job : PublishJob) : Prop :=
  ∀ result, job.resultJson = some result → OnlyFinal result.mediaFailures

structure BodyFrame (s t : Session ρ) : Prop where
  job : apartFromResult t.memory.job = apartFromResult s.memory.job
  flushed : t.flushed = s.flushed
  assigned : assignments t.trace = assignments s.trace
  result : resultFinal s.memory.job → resultFinal t.memory.job

instance : IsPreorder (Session ρ) BodyFrame where
  refl _ := ⟨rfl, rfl, rfl, id⟩
  trans _ _ _ hst htu := ⟨htu.job.trans hst.job, htu.flushed.trans hst.flushed,
    htu.assigned.trans hst.assigned, fun h => htu.result (hst.result h)⟩

/-- The balance of a job whose reservation was not released. -/
def OpenBalance (others : List PublishJob) (s : Session ρ) : Prop :=
  Balanced others s ∧ s.memory.job.quotaReleasedAt = none

variable {event : SagaEvent} {α : Type}

section Operations

theorem bodyFrame_emit (h : event.assignment = none) : Keeps BodyFrame (emit event : Saga ρ Unit) := by
  refine keeps_modify fun s => ⟨rfl, rfl, ?_, id⟩
  rw [assignments_append]
  simp [assignments, h]

theorem bodyFrame_call (stepId : Uuid) (operation : ProviderOperation) (method : RemoteCall ρ α) :
    Keeps BodyFrame (callProvider stepId operation method) :=
  keeps_callProvider (fun _ _ => ⟨rfl, rfl, rfl, id⟩) (fun _ => bodyFrame_emit rfl)
    (fun _ _ => bodyFrame_emit rfl) method

theorem bodyFrame_modifyPost (id : Uuid) (f : PublishedPost → PublishedPost) :
    Keeps BodyFrame (modifyPost id f : Saga ρ Unit) :=
  keeps_modify fun _ => ⟨rfl, rfl, rfl, fun h => h⟩

theorem bodyFrame_stepRules : StepRules (BodyFrame (ρ := ρ)) where
  fresh _ := ⟨rfl, rfl, rfl, fun h => h⟩
  step _ _ _ := keeps_modify fun _ => ⟨rfl, rfl, rfl, fun h => h⟩
  succeeded _ := bodyFrame_emit rfl
  attempt _ := keeps_modify fun _ => ⟨rfl, rfl, rfl, fun h => h⟩

theorem bodyFrame_operationRules [CanonicalHash] (env : WorkerEnv ρ) (channel : Channel ρ) :
    OperationRules env channel BodyFrame where
  toStepRules := bodyFrame_stepRules
  caught _ := bodyFrame_emit rfl
  upload _ _ := bodyFrame_call _ _ _
  binding _ := keeps_modify fun _ => ⟨rfl, rfl, rfl, fun h => h⟩
  call := bodyFrame_call
  snapshot _ := keeps_modify fun _ => ⟨rfl, rfl, rfl, fun h => h⟩
  post id f _ := bodyFrame_modifyPost id f
  applied := keeps_applyRemote bodyFrame_modifyPost env
  link := keeps_linkPost bodyFrame_modifyPost bodyFrame_stepRules.fresh
    (fun _ => keeps_modify fun _ => ⟨rfl, rfl, rfl, fun h => h⟩) env
  target _ := keeps_modify fun _ => ⟨rfl, rfl, rfl, fun h => h⟩
  result _ hresult := keeps_modify fun _ => ⟨rfl, rfl, rfl, fun _ _ hother =>
    Option.some.inj hother ▸ hresult⟩
  complete := keeps_completeQuota (fun _ => bodyFrame_emit rfl)
    (fun _ _ _ => keeps_modify fun _ => ⟨rfl, rfl, rfl, fun h => h⟩) env.now
    (keeps_modify fun _ => ⟨rfl, rfl, rfl, fun h => h⟩)

variable {others : List PublishJob}

theorem openBalance_emit (h : event.quotaCorner = false) :
    Keeps (Preserves (OpenBalance others)) (emit event : Saga ρ Unit) :=
  keeps_modify fun _ hs => ⟨⟨hs.1.1, quiet_append hs.1.2 h⟩, hs.2⟩

theorem openBalance_call (stepId : Uuid) (operation : ProviderOperation) (method : RemoteCall ρ α) :
    Keeps (Preserves (OpenBalance others)) (callProvider stepId operation method) :=
  keeps_callProvider (fun _ _ h => h) (fun _ => openBalance_emit rfl)
    (fun _ _ => openBalance_emit rfl) method

theorem openBalance_modifyPost (id : Uuid) (f : PublishedPost → PublishedPost) :
    Keeps (Preserves (OpenBalance others)) (modifyPost id f : Saga ρ Unit) :=
  keeps_modify fun _ h => h

theorem openBalance_stepRules : StepRules (Preserves (OpenBalance (ρ := ρ) others)) where
  fresh _ h := h
  step _ _ _ := keeps_modify fun _ h => h
  succeeded _ := openBalance_emit rfl
  attempt _ := keeps_modify fun _ h => h

theorem openBalance_operationRules [CanonicalHash] (env : WorkerEnv ρ) (channel : Channel ρ) :
    OperationRules env channel (Preserves (OpenBalance others)) where
  toStepRules := openBalance_stepRules
  caught _ := openBalance_emit rfl
  upload _ _ := openBalance_call _ _ _
  binding _ := keeps_modify fun _ h => h
  call := openBalance_call
  snapshot _ := keeps_modify fun _ h => h
  post id f _ := openBalance_modifyPost id f
  applied := keeps_applyRemote openBalance_modifyPost env
  link := keeps_linkPost openBalance_modifyPost openBalance_stepRules.fresh
    (fun _ => keeps_modify fun _ h => h) env
  target _ := keeps_modify fun _ h => ⟨⟨h.1.1.of_job rfl rfl rfl rfl, h.1.2⟩, h.2⟩
  result _ _ := keeps_modify fun _ h => ⟨⟨h.1.1.of_job rfl rfl rfl rfl, h.1.2⟩, h.2⟩
  complete s := by
    refine ends_forall fun h => ?_
    refine (ends_completeQuota h.1 h.2 env.now).mono fun _ t ht => ⟨ht.2.1, ht.2.2.1⟩

end Operations

structure LogFrame (s t : Session ρ) : Prop where
  job : t.memory.job = s.memory.job
  assigned : assignments t.trace = assignments s.trace
  calls : calls t.trace = calls s.trace
  balance : ∀ others, Balanced others s → Balanced others t

instance : IsPreorder (Session ρ) LogFrame where
  refl _ := ⟨rfl, rfl, rfl, fun _ => id⟩
  trans _ _ _ hst htu := ⟨htu.job.trans hst.job, htu.assigned.trans hst.assigned,
    htu.calls.trans hst.calls, fun others h => htu.balance others (hst.balance others h)⟩

section Bookkeeping

theorem logFrame_emit (hassignment : event.assignment = none) (hcall : event.call = none)
    (hquiet : event.quotaCorner = false) : Keeps LogFrame (emit event : Saga ρ Unit) := by
  refine keeps_modify fun s => ⟨rfl, ?_, ?_, fun others h => ⟨h.1, quiet_append h.2 hquiet⟩⟩
  · rw [assignments_append]
    simp [assignments, hassignment]
  · rw [calls_append]
    simp [calls, hcall]

theorem logFrame_stepRules : StepRules (LogFrame (ρ := ρ)) where
  fresh _ := ⟨rfl, rfl, rfl, fun _ h => h⟩
  step _ _ _ := keeps_modify fun _ => ⟨rfl, rfl, rfl, fun _ h => h⟩
  succeeded _ := logFrame_emit rfl rfl rfl
  attempt _ := keeps_modify fun _ => ⟨rfl, rfl, rfl, fun _ h => h⟩

theorem logFrame_endSteps (states : List StepState) (state : StepState) (finishedAt : Option Timestamp) :
    Keeps LogFrame (endSteps states state finishedAt : Saga ρ Unit) :=
  keeps_bind keeps_getFlushed fun _ => keeps_modify fun _ => ⟨rfl, rfl, rfl, fun _ h => h⟩

theorem logFrame_flush (e : Exc) : Keeps LogFrame (flush e : Saga ρ Unit) := by
  intro s
  exact ends_flush s e _ ⟨rfl, rfl, rfl, fun _ h => ⟨h.1.flush, h.2⟩⟩ (refl_of LogFrame s)

theorem logFrame_bookkeepingRules : BookkeepingRules (LogFrame (ρ := ρ)) where
  toStepRules := logFrame_stepRules
  endSteps := logFrame_endSteps
  notice _ := keeps_modify fun _ => ⟨rfl, rfl, rfl, fun _ h => h⟩
  auditLog _ := keeps_modify fun _ => ⟨rfl, rfl, rfl, fun _ h => h⟩
  outboxEvent _ := keeps_modify fun _ => ⟨rfl, rfl, rfl, fun _ h => h⟩
  flush := logFrame_flush

theorem logFrame_notifyAndEmit (now : Timestamp) (action : String) :
    Keeps LogFrame (notifyAndEmit now action : Saga ρ Unit) :=
  logFrame_bookkeepingRules.keeps_notifyAndEmit now action

theorem logFrame_skipPendingSteps (now : Timestamp) :
    Keeps LogFrame (skipPendingSteps now : Saga ρ Unit) :=
  logFrame_bookkeepingRules.keeps_skipPendingSteps now

theorem logFrame_recordProviderFailure (now : Timestamp) (failure : ProviderFailure) :
    Keeps LogFrame (recordProviderFailure now failure : Saga ρ Unit) :=
  logFrame_stepRules.keeps_recordProviderFailure now failure

end Bookkeeping

/-- The calls that a cancellation may make. -/
def releaseCalls : List ProviderOperation := [.getPost, .cancelScheduled]

structure ReleaseCalls (s t : Session ρ) : Prop where
  job : t.memory.job = s.memory.job
  flushed : t.flushed = s.flushed
  assigned : assignments t.trace = assignments s.trace
  calls : ∃ made, calls t.trace = calls s.trace ++ made ∧ made ⊆ releaseCalls
  balance : ∀ others, Balanced others s → Balanced others t

instance : IsPreorder (Session ρ) ReleaseCalls where
  refl s := ⟨rfl, rfl, rfl, ⟨[], (append_nil _).symm, by simp⟩, fun _ => id⟩
  trans _ _ _ hst htu := by
    obtain ⟨made, hmade, hsub⟩ := hst.calls
    obtain ⟨more, hmore, hsub'⟩ := htu.calls
    refine ⟨htu.job.trans hst.job, htu.flushed.trans hst.flushed,
      htu.assigned.trans hst.assigned, ⟨made ++ more, ?_, append_subset.mpr ⟨hsub, hsub'⟩⟩,
      fun others h => htu.balance others (hst.balance others h)⟩
    rw [hmore, hmade, append_assoc]

section Release

theorem noCalls (trace : List SagaEvent) :
    ∃ made, calls trace = calls trace ++ made ∧ made ⊆ releaseCalls :=
  ⟨[], (append_nil _).symm, by simp⟩

theorem releaseCalls_emit (hassignment : event.assignment = none)
    (hcall : ∀ operation, event.call = some operation → operation ∈ releaseCalls)
    (hquiet : event.quotaCorner = false) : Keeps ReleaseCalls (emit event : Saga ρ Unit) := by
  refine keeps_modify fun s => ⟨rfl, rfl, ?_, ⟨calls [event], ?_, ?_⟩,
    fun others h => ⟨h.1, quiet_append h.2 hquiet⟩⟩
  · rw [assignments_append]
    simp [assignments, hassignment]
  · rw [calls_append]
  · intro operation hoperation
    obtain ⟨other, hother, heq⟩ := mem_filterMap.mp hoperation
    rw [mem_singleton.mp hother] at heq
    exact hcall operation heq

theorem releaseCalls_call (stepId : Uuid) {operation : ProviderOperation}
    (hoperation : operation ∈ releaseCalls) (method : RemoteCall ρ α) :
    Keeps ReleaseCalls (callProvider stepId operation method) := by
  intro s
  have hcalled : ReleaseCalls s { s with trace := s.trace ++ [.called operation] } :=
    releaseCalls_emit rfl (by rintro _ ⟨⟩; exact hoperation) rfl s
  have hcall (remote : ρ) : ReleaseCalls s (s.afterCall operation remote) :=
    ⟨rfl, rfl, hcalled.assigned, hcalled.calls, fun others h => hcalled.balance others h⟩
  refine ends_callProvider (fun _ remote _ => hcall remote) (fun failure remote _ => ?_)
    (fun _ remote _ _ => hcall remote)
  exact trans_of ReleaseCalls (hcall remote)
    (releaseCalls_emit rfl (fun _ h => by cases h) rfl _)

theorem releaseCalls_stepRules : StepRules (ReleaseCalls (ρ := ρ)) where
  fresh _ := ⟨rfl, rfl, rfl, noCalls _, fun _ h => h⟩
  step _ _ _ := keeps_modify fun _ => ⟨rfl, rfl, rfl, noCalls _, fun _ h => h⟩
  succeeded _ := releaseCalls_emit rfl (fun _ h => by cases h) rfl
  attempt _ := keeps_modify fun _ => ⟨rfl, rfl, rfl, noCalls _, fun _ h => h⟩

theorem releaseCalls_cancelStep (now : Timestamp) :
    Keeps ReleaseCalls (runningStep now .cancelRemote : Saga ρ Uuid) := by
  unfold runningStep findStep addStep
  refine keeps_bind (keeps_bind (keeps_selectStep _) fun found => ?_) fun step => ?_
  · cases found with
    | some step => exact keeps_pure step
    | none =>
      refine keeps_ite (keeps_throw _) (keeps_bind keeps_getFlushed fun flushed => ?_)
      refine keeps_bind releaseCalls_stepRules.fresh fun id => ?_
      refine keeps_bind (keeps_modify fun _ => ⟨rfl, rfl, rfl, noCalls _, fun _ h => h⟩)
        fun _ => keeps_pure _
  · exact keeps_bind (releaseCalls_stepRules.step _ _ fun _ => rfl) fun _ => keeps_pure _

theorem releaseCalls_releaseSchedule [CanonicalHash] (env : WorkerEnv ρ) (channel : Channel ρ) :
    Keeps ReleaseCalls (releaseSchedule env channel) :=
  keeps_releaseSchedule releaseCalls_stepRules (releaseCalls_cancelStep env.now)
    (fun _ _ => releaseCalls_call _ (by decide) _) (fun _ _ => releaseCalls_call _ (by decide) _)
    (fun postId remote => keeps_applyRemote
      (fun _ _ => keeps_modify fun _ => ⟨rfl, rfl, rfl, noCalls _, fun _ h => h⟩) env postId
      remote false)

end Release

/-- The job was assigned the state, once, and made no calls. -/
structure Finishes (others : List PublishJob) (state : JobState) (s t : Session ρ) : Prop where
  reached : t.memory.job.state = state
  result : t.memory.job.resultJson = s.memory.job.resultJson
  completed : t.memory.job.quotaCompletedAt = s.memory.job.quotaCompletedAt
  released : t.memory.job.quotaReleasedAt = s.memory.job.quotaReleasedAt ∨
    state ∈ [.finalFailed, .cancelled]
  assigned : assignments t.trace = assignments s.trace ++ [(s.memory.job.state, state)]
  calls : calls t.trace = calls s.trace
  balance : Balanced others t

section Ends

variable {others : List PublishJob} {state : JobState} {s t u : Session ρ}

theorem Balanced.of_job (h : Balanced others s) {job : PublishJob}
    (hordered : asOrdered job = asOrdered s.memory.job)
    (hcompleted : job.quotaCompletedAt = s.memory.job.quotaCompletedAt)
    (hreleased : job.quotaReleasedAt = s.memory.job.quotaReleasedAt) :
    Balanced others { s with memory := { s.memory with job := job } } := by
  have hkey : quotaKey (asOrdered job) = quotaKey (asOrdered s.memory.job) := congrArg quotaKey hordered
  have hoperation : (asOrdered job).operation = (asOrdered s.memory.job).operation :=
    congrArg PublishJob.operation hordered
  exact ⟨h.1.of_job hkey hoperation hcompleted hreleased, h.2⟩

/-- An assignment of the state with the progress that goes with it. -/
theorem finishes_assigned (h : Balanced others s) (state : JobState) (f : PublishJob → PublishJob)
    (hf : ∀ job, apartFromProgress (f job) = apartFromProgress job) : Finishes others state s { s with
      trace := s.trace ++ [.assigned s.memory.job.state state]
      memory := { s.memory with job := f { s.memory.job with state := state } } } := by
  have hjob := hf { s.memory.job with state := state }
  have hstate := congrArg PublishJob.state hjob
  have hresult := congrArg PublishJob.resultJson hjob
  have hcompleted := congrArg PublishJob.quotaCompletedAt hjob
  have hreleased := congrArg PublishJob.quotaReleasedAt hjob
  refine ⟨hstate, hresult, hcompleted, .inl hreleased, assignments_append _ _, ?_, ?_⟩
  · rw [calls_append]
    exact append_nil _
  · have hemitted : Balanced others { s with
        trace := s.trace ++ [.assigned s.memory.job.state state] } :=
      ⟨h.1, quiet_append h.2 rfl⟩
    refine hemitted.of_job ?_ hcompleted hreleased
    rw [asOrdered_of_apartFromProgress hjob]
    rfl

section

variable (h : Finishes others state s t)

include h

theorem Finishes.log (htu : LogFrame t u) : Finishes others state s u :=
  ⟨htu.job ▸ h.reached, htu.job ▸ h.result, htu.job ▸ h.completed, htu.job ▸ h.released,
    htu.assigned.trans h.assigned, htu.calls.trans h.calls, htu.balance others h.balance⟩

theorem Finishes.release (htu : ReleaseFrame t u) (hbalance : Balanced others u)
    (hstate : state ∈ [.finalFailed, .cancelled]) : Finishes others state s u := by
  obtain ⟨usages, releasedAt, rfl⟩ := htu
  exact ⟨h.reached, h.result, h.completed, .inr hstate, h.assigned, h.calls, hbalance⟩

theorem Finishes.progress (f : PublishJob → PublishJob)
    (hf : ∀ job, apartFromProgress (f job) = apartFromProgress job) :
    Finishes others state s { t with memory := { t.memory with job := f t.memory.job } } := by
  have hjob := hf t.memory.job
  have hstate := congrArg PublishJob.state hjob
  have hresult := congrArg PublishJob.resultJson hjob
  have hcompleted := congrArg PublishJob.quotaCompletedAt hjob
  have hreleased := congrArg PublishJob.quotaReleasedAt hjob
  exact ⟨hstate.trans h.reached, hresult.trans h.result, hcompleted.trans h.completed,
    h.released.imp_left hreleased.trans, h.assigned, h.calls,
    h.balance.of_job (asOrdered_of_apartFromProgress hjob) hcompleted hreleased⟩

end

/-- The quota of a job that the bookkeeping leaves alone stays settled. -/
theorem Settled.log {s t : Session ρ} (h : Settled s.memory.job) (hst : LogFrame s t) :
    Settled t.memory.job :=
  hst.job ▸ h

variable {f : PublishJob → PublishJob} {failure : ProviderFailure}

theorem Settled.progress {job : PublishJob} (h : Settled job)
    (hf : ∀ job, apartFromProgress (f job) = apartFromProgress job) : Settled (f job) := by
  have hjob := hf job
  have hoperation := congrArg PublishJob.operation hjob
  have hcompleted := congrArg PublishJob.quotaCompletedAt hjob
  have hreleased := congrArg PublishJob.quotaReleasedAt hjob
  intro huses
  have hsettled := h (hoperation ▸ huses)
  change (f job).quotaCompletedAt = job.quotaCompletedAt at hcompleted
  change (f job).quotaReleasedAt = job.quotaReleasedAt at hreleased
  rwa [hcompleted, hreleased]

variable (env : WorkerEnv ρ)

/-- Every end of a run first assigns the state and writes the progress. -/
theorem ends_assigned (env : WorkerEnv ρ) (h : Balanced others s)
    (hf : ∀ job, apartFromProgress (f job) = apartFromProgress job) {x : Saga ρ α}
    {Q : Except Exc α → Session ρ → Prop}
    (hx : ∀ t, Finishes others state s t → RunFrame s t → Ends x t Q) :
    Ends (do setJobState state; modifyJob f; x) s Q := by
  have hframe : Keeps RunFrame (do setJobState state; modifyJob f : Saga ρ Unit) :=
    keeps_bind ((runFrame_lifecycleRules env).assigned state) fun _ =>
      (runFrame_lifecycleRules env).progress f hf
  rw [ends_bind, ends_setJobState, continues_ok, ends_bind, ends_modifyJob, continues_ok]
  exact hx _ (finishes_assigned h state f hf) (hframe s)

theorem ends_assigned_last (h : Balanced others s)
    (hf : ∀ job, apartFromProgress (f job) = apartFromProgress job)
    {Q : Except Exc Unit → Session ρ → Prop} (hq : ∀ t, Finishes others state s t → Q (.ok ()) t) :
    Ends (do setJobState state; modifyJob f) s Q := by
  rw [ends_bind, ends_setJobState, continues_ok, ends_modifyJob]
  exact hq _ (finishes_assigned h state f hf)

section

variable (h : Balanced others s) (code detail : String)

include h

/-- A job that fails for good gives back what it did not complete. -/
theorem ends_finalFailure :
    Ends (finalFailure env code detail) s fun r t => Finishes others .finalFailed s t ∧
      (∀ u, r = .ok u → Settled t.memory.job) := by
  unfold finalFailure
  apply ends_assigned env h (fun _ => by rfl)
  intro t ht _
  refine ends_bind_of_keeps (logFrame_bookkeepingRules.keeps_recordLocalFailure _ _)
    (fun _ u hu => ?_) (fun e u hu => ⟨ht.log hu, fun _ h => by cases h⟩)
  refine (ends_releaseUncompleted (ht.log hu).balance env.now).mono fun r v hv => ?_
  exact ⟨(ht.log hu).release hv.2.2.1 hv.2.1 (by simp), fun _ _ => hv.2.2.2⟩

theorem ends_finallyFail :
    Ends (finallyFail env code detail) s fun r t => Finishes others .finalFailed s t ∧
      (∀ u, r = .ok u → Settled t.memory.job) := by
  unfold finallyFail
  rw [ends_bind]
  refine (ends_finalFailure env h code detail).mono fun r t ht => ?_
  cases r with
  | error e => exact ⟨ht.1, fun _ h => by cases h⟩
  | ok u =>
    rw [continues_ok]
    refine (logFrame_notifyAndEmit env.now _ t).mono fun r' v hv => ?_
    exact ⟨ht.1.log hv, fun _ _ => (ht.2 u rfl).log hv⟩

theorem ends_refuseJob :
    Ends (refuseJob env code detail) s fun r t => Finishes others .finalFailed s t ∧
      (∀ u, r = .ok u → Settled t.memory.job) := by
  unfold refuseJob repoFlush
  rw [ends_bind]
  refine (ends_finallyFail env h code detail).mono fun r t ht => ?_
  cases r with
  | error e => exact ⟨ht.1, fun _ h => by cases h⟩
  | ok u =>
    rw [continues_ok]
    refine ends_bind_of_keeps (logFrame_flush _) (fun _ v hv => ?_)
      (fun e v hv => ⟨ht.1.log hv, fun _ h => by cases h⟩)
    exact ⟨ht.1.log hv, fun _ _ => (ht.2 u rfl).log hv⟩

end

theorem ends_closeCancelled (h : Balanced others s) (scheduleReleased : Bool) :
    Ends (closeCancelled env scheduleReleased) s fun r t => Finishes others .cancelled s t ∧
      (∀ u, r = .ok u → Settled t.memory.job) := by
  unfold closeCancelled repoFlush
  apply ends_assigned env h (fun _ => by rfl)
  intro t ht _
  refine ends_bind_of_keeps logFrame_bookkeepingRules.keeps_cancelPendingSteps
    (fun _ u hu => ?_) (fun e u hu => ⟨ht.log hu, fun _ h => by cases h⟩)
  rw [ends_bind]
  refine (ends_releaseQuota (ht.log hu).balance env.now scheduleReleased).mono fun r v hv => ?_
  obtain ⟨rfl, hbalance, hframe, hsettled⟩ := hv
  have hfinishes := (ht.log hu).release hframe hbalance (by simp)
  rw [continues_ok]
  refine ends_bind_of_keeps (logFrame_notifyAndEmit _ _) (fun _ w hw => ?_)
    (fun e w hw => ⟨hfinishes.log hw, fun _ h => by cases h⟩)
  refine ends_bind_of_keeps (logFrame_flush _) (fun _ x hx => ?_)
    (fun e x hx => ⟨(hfinishes.log hw).log hx, fun _ h => by cases h⟩)
  exact ⟨(hfinishes.log hw).log hx, fun _ _ => (hsettled.log hw).log hx⟩

/-- The failure ends the job: it cannot be retried, or no attempt is left. -/
def givesUp (job : PublishJob) (failure : ProviderFailure) : Prop :=
  ¬(failure.retryClass.retryable = true ∧ job.attempt < job.maxAttempts)

/-- The state after a provider failure. -/
structure Fails (others : List PublishJob) (failure : ProviderFailure) (s t : Session ρ) :
    Prop where
  finishes : ∃ state, Finishes others state s t ∧
    (state = .retryableFailed ∧ ¬givesUp s.memory.job failure ∨
      state = .finalFailed ∧ givesUp s.memory.job failure)

theorem ends_retryOrGiveUp (h : Balanced others s) (failure : ProviderFailure) :
    Ends (retryOrGiveUp env failure) s fun _ t => Fails others failure s t := by
  unfold retryOrGiveUp
  rw [ends_bind, ends_getJob, continues_ok]
  refine ends_ite (fun hretry => ?_) (fun hretry => ?_)
  · apply ends_assigned_last h (fun _ => by rfl)
    intro t ht
    exact ⟨.retryableFailed, ht, .inl ⟨rfl, not_not.mpr hretry⟩⟩
  · apply ends_assigned env h (fun _ => by rfl)
    intro t ht _
    refine (logFrame_skipPendingSteps env.now t).mono fun r u hu => ?_
    exact ⟨.finalFailed, ht.log hu, .inr ⟨rfl, hretry⟩⟩

theorem Fails.log (h : Fails others failure s t) (htu : LogFrame t u) : Fails others failure s u := by
  obtain ⟨state, hfinishes, hstate⟩ := h.finishes
  exact ⟨state, hfinishes.log htu, hstate⟩

theorem Fails.progress (h : Fails others failure s t) (f : PublishJob → PublishJob)
    (hf : ∀ job, apartFromProgress (f job) = apartFromProgress job) :
    Fails others failure s { t with memory := { t.memory with job := f t.memory.job } } := by
  obtain ⟨state, hfinishes, hstate⟩ := h.finishes
  exact ⟨state, hfinishes.progress f hf, hstate⟩

/-- What is recorded before the state is assigned does not show. -/
theorem Fails.after (hst : LogFrame s t) (h : Fails others failure t u) : Fails others failure s u := by
  obtain ⟨state, hfinishes, hstate⟩ := h.finishes
  rw [hst.job] at hstate
  refine ⟨state, ⟨hfinishes.reached, hst.job ▸ hfinishes.result, hst.job ▸ hfinishes.completed,
    hst.job ▸ hfinishes.released, ?_, hst.calls ▸ hfinishes.calls, hfinishes.balance⟩, hstate⟩
  rw [hfinishes.assigned, hst.assigned, hst.job]

theorem logFrame_handled (failure : ProviderFailure) :
    Keeps LogFrame (emit (.handled failure) : Saga ρ Unit) := logFrame_emit rfl rfl rfl

theorem raises_getJob (P : Exc → Prop) : Raises P (getJob : Saga ρ PublishJob) :=
  raises_bind raises_get fun _ => raises_pure _

theorem raises_getFlushed (P : Exc → Prop) : Raises P (getFlushed : Saga ρ Rows) :=
  raises_bind raises_get fun _ => raises_pure _

theorem raises_skipPendingSteps (now : Timestamp) (P : Exc → Prop) :
    Raises P (skipPendingSteps now : Saga ρ Unit) := by
  unfold skipPendingSteps endSteps
  refine raises_bind (raises_getJob P) fun job => ?_
  exact raises_bind (raises_getFlushed P) fun flushed => raises_modify _

theorem raises_retryOrGiveUp (failure : ProviderFailure) (P : Exc → Prop) :
    Raises P (retryOrGiveUp env failure) := by
  unfold retryOrGiveUp setJobState
  have hassign (state : JobState) : Raises P (do
      let job ← getJob
      emit (.assigned job.state state)
      modifyJob fun job => { job with state := state } : Saga ρ Unit) :=
    raises_bind (raises_getJob P) fun _ => raises_bind (raises_modify _) fun _ => raises_modify _
  refine raises_bind (raises_getJob P) fun job => raises_ite ?_ ?_
  · exact raises_bind (hassign _) fun _ => raises_modify _
  · refine raises_bind (hassign _) fun _ => raises_bind (raises_modify _) fun _ => ?_
    exact raises_skipPendingSteps env.now P

theorem raises_recordProviderFailure (now : Timestamp) (failure : ProviderFailure)
    (P : Exc → Prop) : Raises P (recordProviderFailure now failure : Saga ρ Unit) := by
  unfold recordProviderFailure recordFailureOn addAttempt
  refine raises_bind (raises_getFlushed P) fun flushed => ?_
  split
  · exact raises_pure _
  · refine raises_bind (raises_modify _) fun _ => ?_
    refine raises_bind raises_get fun s => ?_
    refine raises_bind ?_ fun id => raises_modify _
    exact raises_bind raises_get fun s => raises_bind (raises_modify _) fun _ => raises_pure _

section

variable (h : Balanced others s) (failure : ProviderFailure)

include h

/-- A handled failure is recorded, and then decides about the job. -/
theorem ends_handled {x : Saga ρ α} {Q : Except Exc α → Session ρ → Prop}
    (hx : ∀ t, Fails others failure s t → Ends x t Q) : Ends (do
      emit (.handled failure)
      recordProviderFailure env.now failure
      retryOrGiveUp env failure
      x) s Q := by
  have hhandled : LogFrame s { s with trace := s.trace ++ [.handled failure] } :=
    logFrame_handled failure s
  rw [ends_bind, ends_emit, continues_ok, ends_bind]
  refine ((logFrame_recordProviderFailure env.now failure _).and
    (raises_recordProviderFailure env.now failure (fun _ => False) _)).mono fun r t ht => ?_
  cases r with
  | error e => exact (ht.2 e rfl).elim
  | ok u =>
    have hst : LogFrame s t := trans_of LogFrame hhandled ht.1
    rw [continues_ok, ends_bind]
    refine ((ends_retryOrGiveUp env (hst.balance others h) failure).and
      (raises_retryOrGiveUp env failure (fun _ => False) t)).mono fun r' v hv => ?_
    cases r' with
    | error e => exact (hv.2 e rfl).elim
    | ok u' => exact hx v (hv.1.after hst)

theorem ends_cancelFailed :
    Ends (cancelFailed env (.provider failure)) s fun _ t => Fails others failure s t := by
  unfold cancelFailed noteError repoFlush
  apply ends_handled env h failure
  intro t ht
  rw [ends_bind, ends_modifyJob, continues_ok, ends_bind, ends_getJob, continues_ok]
  have hnoted := ht.progress (fun job =>
    { job with errorCode := some failure.code, errorDetail := some failure.detail }) fun _ => rfl
  refine ends_bind_of_keeps (logFrame_notifyAndEmit _ _) (fun _ u hu => ?_)
    (fun e u hu => hnoted.log hu)
  exact ends_bind_of_keeps (logFrame_flush _) (fun _ v hv => (hnoted.log hu).log hv)
    (fun e v hv => (hnoted.log hu).log hv)

/-- A failed publication gives the reservation back when it gives up. -/
theorem ends_publishFailed :
    Ends (publishFailed env (.provider failure)) s fun r t => Fails others failure s t ∧
      ∀ u, r = .ok u → t.memory.job.state = .finalFailed → Settled t.memory.job := by
  unfold publishFailed noteError releaseWhenFinal
  apply ends_handled env h failure
  intro t ht
  obtain ⟨state, hfinishes, hstate⟩ := ht.finishes
  have hrest {u : Session ρ} (hu : Finishes others state s u)
      (hsettled : u.memory.job.state = .finalFailed → Settled u.memory.job) :
      Ends (do
        let job ← getJob
        modifyJob fun job =>
          { job with errorCode := some failure.code, errorDetail := some failure.detail }
        notifyAndEmit env.now
          (if job.state = .retryableFailed then "publishing.job.retryable_failed"
            else "publishing.job.final_failed")) u fun r v => Fails others failure s v ∧
      ∀ u, r = .ok u → v.memory.job.state = .finalFailed → Settled v.memory.job := by
    rw [ends_bind, ends_getJob, continues_ok, ends_bind, ends_modifyJob, continues_ok]
    refine (logFrame_notifyAndEmit _ _ _).mono fun r v hv => ?_
    refine ⟨⟨state, (hu.progress (fun job => { job with
      errorCode := some failure.code
      errorDetail := some failure.detail }) fun _ => rfl).log hv, hstate⟩, fun _ _ hfinal => ?_⟩
    have hjob := hv.job
    rw [hjob] at hfinal ⊢
    exact (hsettled hfinal).progress (f := fun job => { job with
      errorCode := some failure.code
      errorDetail := some failure.detail }) fun _ => rfl
  rw [ends_bind, ends_bind, ends_getJob, continues_ok]
  refine ends_ite (fun hfinal => ?_) (fun hfinal => ?_)
  · refine (ends_releaseUncompleted hfinishes.balance env.now).mono fun r u hu => ?_
    obtain ⟨rfl, hbalance, hframe, hsettled⟩ := hu
    rw [continues_ok]
    have hstate' : state = .finalFailed := hfinishes.reached.symm.trans hfinal
    exact hrest (hfinishes.release hframe hbalance (by simp [hstate'])) fun _ => hsettled
  · rw [ends_pure, continues_ok]
    exact hrest hfinishes fun h => absurd h hfinal

end

/-- A step that was planned is found again. -/
theorem selectStep_some (hsound : stepsSound s) {kind : SagaStepKind}
    (hkind : ∃ step ∈ s.flushed.steps, step.stepKind = kind) :
    ∃ found ∈ s.memory.steps, found.stepKind = kind ∧
      selectRow (·.steps) (·.id) (fun step => decide (step.stepKind = kind)) s.flushed s.memory =
        some found := by
  obtain ⟨step, hstep, hstepKind⟩ := hkind
  have hkeyed : Keyed (fun step : PublishSagaStep => step.id) s.memory.steps := by
    have hkeys := hsound.keyed
    unfold Keyed at hkeys
    rw [map_map] at hkeys
    exact hkeys
  obtain ⟨found, hfound, hp, hselect⟩ := selectRow_some (·.steps) (·.id)
    (fun step => decide (step.stepKind = kind)) stepKey
    hsound.written.subset
    (fun a b hab => congrArg Prod.fst hab)
    (fun a b hab => by
      have hkind : a.stepKind = b.stepKind := congrArg (fun key => key.2.2) hab
      rw [hkind])
    hkeyed hstep (decide_eq_true hstepKind)
  exact ⟨found, hfound, of_decide_eq_true hp, hselect⟩

theorem ends_findStep {kind : SagaStepKind} {found : PublishSagaStep}
    (hselect : selectRow (·.steps) (·.id) (fun step =>
      decide (step.stepKind = kind)) s.flushed s.memory = some found)
    (Q : Except Exc PublishSagaStep → Session ρ → Prop) :
    Ends (findStep kind) s Q ↔ Q (.ok found) s := by
  unfold findStep
  rw [ends_bind, ends_selectStep, hselect, continues_ok, ends_pure]

/-- The last step of the plan is always there. -/
theorem ends_notifyStep (hsound : stepsSound s) (now : Timestamp) :
    Ends (succeedLocalStep now .notify) s fun r _ => r = .ok () := by
  obtain ⟨key, hkey, hkind⟩ := hsound.notify
  obtain ⟨step, hstep, rfl⟩ := mem_map.mp hkey
  obtain ⟨found, _, _, hselect⟩ := selectStep_some hsound ⟨step, hstep, hkind⟩
  unfold succeedLocalStep runningStep succeedStep
  rw [ends_bind, ends_bind, ends_findStep hselect, continues_ok, ends_bind, ends_modifyStep,
    continues_ok, ends_pure, continues_ok, ends_bind, ends_emit, continues_ok, ends_modifyStep]

theorem raises_flush {e : Exc} {P : Exc → Prop} (h : P e) : Raises P (flush e : Saga ρ Unit) := by
  unfold flush
  exact raises_bind raises_get fun s => raises_ite (raises_modify fun _ => _) (raises_throw h)

theorem raises_notifyAndEmit (now : Timestamp) (action : String) :
    Raises (· = .uncaught) (notifyAndEmit now action : Saga ρ Unit) := by
  have hnotify (recipientId : Uuid) (type : String) :
      Raises (· = Exc.uncaught) (notify now recipientId type : Saga ρ Unit) := by
    unfold notify uuid4
    refine raises_bind ?_ fun id => raises_modify _
    exact raises_bind raises_get fun s => raises_bind (raises_modify _) fun _ => raises_pure _
  unfold notifyAndEmit notifyApprover auditOutbox
  refine raises_bind (raises_getJob _) fun job => raises_bind (hnotify _ _) fun _ => ?_
  refine raises_bind ?_ fun _ => ?_
  · cases job.inputSnapshot.approvedBy with
    | none => exact raises_pure _
    | some approver => exact raises_ite (raises_pure _) (hnotify _ _)
  · refine raises_bind (raises_modify _) fun _ => raises_bind (raises_flush rfl) fun _ => ?_
    exact raises_bind (raises_modify _) fun _ => raises_flush rfl

/-- A job that is completed ends in its success state; only the database can refuse. -/
theorem ends_completeJob (h : Balanced others s) (hsound : stepsSound s) (incomplete : Bool) :
    Ends (completeJob env incomplete) s fun r t =>
      Finishes others (if incomplete then .partialSuccess else .succeeded) s t ∧
        ∀ e, r = .error e → e = .uncaught := by
  unfold completeJob
  apply ends_assigned env h (fun _ => by rfl)
  intro t ht hframe
  rw [ends_bind]
  refine (((logFrame_notifyAndEmit env.now _ t).and
    (runFrame_bookkeepingRules.keeps_notifyAndEmit env.now _ t)).and
    (raises_notifyAndEmit env.now _ t)).mono fun r u hu => ?_
  obtain ⟨⟨hlog, hrun⟩, hraises⟩ := hu
  cases r with
  | error e =>
    refine ⟨ht.log hlog, fun e' he' => ?_⟩
    cases he'
    exact hraises e rfl
  | ok _ =>
    have hsound' : stepsSound u := hrun.steps (hframe.steps hsound)
    rw [continues_ok, ends_bind]
    refine ((logFrame_stepRules.keeps_succeedLocalStep env.now (by decide) u).and
      (ends_notifyStep hsound' env.now)).mono fun r' v hv => ?_
    obtain ⟨hlog', rfl⟩ := hv
    rw [continues_ok]
    refine ((logFrame_skipPendingSteps env.now v).and
      (raises_skipPendingSteps env.now (· = Exc.uncaught) v)).mono fun r'' w hw => ?_
    exact ⟨((ht.log hlog).log hlog').log hw.1, hw.2⟩

end Ends

section Runs

variable [CanonicalHash] {env : WorkerEnv ρ} {s : Session ρ}

/-- The session after `beginPublishing`. -/
def beginSession (env : WorkerEnv ρ) (s : Session ρ) : Session ρ :=
  { s with
    trace := s.trace ++ [.assigned s.memory.job.state .publishing]
    memory := { s.memory with job := { s.memory.job with
      state := .publishing
      startedAt := some (s.memory.job.startedAt.getD env.now)
      attempt := s.memory.job.attempt + 1
      errorCode := none
      errorDetail := none
      retryAfterSeconds := none } } }

/-- The session after `startAttempt`. -/
def attemptSession (s : Session ρ) : Session ρ :=
  { s with memory := { s.memory with job := { s.memory.job with
    attempt := s.memory.job.attempt + 1 } } }

/-- What follows the operation of a publication and its handler. -/
def closePublication : Saga ρ RunResult := do
  repoFlush "publish_job"
  runResult

theorem ends_processPublication (connection : PublishingConnection) (policy : PublicationPolicy)
    (channel : Channel ρ) (Q : Except Exc RunResult → Session ρ → Prop) :
    Ends (processPublication env connection policy channel) s Q ↔
      Ends (runOperation env connection policy channel s.memory.job.operation)
        (beginSession env s) (Continues (completeJob env)
          (Handled (publishFailed env) (Continues (fun _ => closePublication) Q))) := by
  unfold processPublication publishAndComplete beginPublishing
  rw [ends_bind, ends_bind, ends_setJobState, continues_ok, ends_modifyJob, continues_ok,
    ends_bind, ends_tryCatch, ends_bind, ends_getJob, continues_ok, ends_bind]
  rfl

theorem ends_processCancellation (channel : Channel ρ) (Q : Except Exc RunResult → Session ρ → Prop) :
    Ends (processCancellation env channel) s Q ↔ Ends (releaseSchedule env channel) (attemptSession s)
        (Continues (closeCancelled env) (Handled (cancelFailed env) Q)) := by
  unfold processCancellation cancelJob startAttempt
  rw [ends_bind, ends_modifyJob, continues_ok, ends_tryCatch, ends_bind]
  rfl

end Runs

end BlogOps.Publishing
