import BlogOps.PublishProcess

/-!
# Frames of a publish run

What the parts of a worker run keep.  A relation that every elementary effect
keeps is kept by the functions that are built from them; the rules name the
elementary effects of a saga step, of an upload, of an operation, and of the
bookkeeping around an operation.
-/

namespace BlogOps.Publishing

open Jobs KeyedTables EffectRules

variable {ρ α β : Type}

section Elementary

variable (s : Session ρ)

theorem ends_getRows (Q : Except Exc Rows → Session ρ → Prop) :
    Ends getRows s Q ↔ Q (.ok s.memory) s := Iff.rfl

theorem ends_getFlushed (Q : Except Exc Rows → Session ρ → Prop) :
    Ends getFlushed s Q ↔ Q (.ok s.flushed) s := Iff.rfl

theorem ends_getJob (Q : Except Exc PublishJob → Session ρ → Prop) :
    Ends getJob s Q ↔ Q (.ok s.memory.job) s := Iff.rfl

theorem ends_modifyRows (f : Rows → Rows) (Q : Except Exc Unit → Session ρ → Prop) :
    Ends (modifyRows f) s Q ↔ Q (.ok ()) { s with memory := f s.memory } := Iff.rfl

theorem ends_modifyJob (f : PublishJob → PublishJob) (Q : Except Exc Unit → Session ρ → Prop) :
    Ends (modifyJob f) s Q ↔
      Q (.ok ()) { s with memory := { s.memory with job := f s.memory.job } } := Iff.rfl

theorem ends_modifyStep (id : Uuid) (f : PublishSagaStep → PublishSagaStep)
    (Q : Except Exc Unit → Session ρ → Prop) :
    Ends (modifyStep id f) s Q ↔ Q (.ok ()) { s with memory := { s.memory with
      steps := updateRow (·.id) id f s.memory.steps } } := Iff.rfl

theorem ends_modifyUsage (id : Uuid) (f : PublishQuotaUsage → PublishQuotaUsage)
    (Q : Except Exc Unit → Session ρ → Prop) :
    Ends (modifyUsage id f) s Q ↔ Q (.ok ()) { s with memory := { s.memory with
      usages := updateRow (·.id) id f s.memory.usages } } := Iff.rfl

theorem ends_emit (event : SagaEvent) (Q : Except Exc Unit → Session ρ → Prop) :
    Ends (emit event) s Q ↔ Q (.ok ()) { s with trace := s.trace ++ [event] } := Iff.rfl

theorem ends_uuid4 (Q : Except Exc Uuid → Session ρ → Prop) :
    Ends uuid4 s Q ↔ Q (.ok s.nextId) { s with nextId := s.nextId + 1 } := Iff.rfl

theorem ends_setJobState (state : JobState) (Q : Except Exc Unit → Session ρ → Prop) :
    Ends (setJobState state) s Q ↔ Q (.ok ()) { s with
      trace := s.trace ++ [.assigned s.memory.job.state state]
      memory := { s.memory with job := { s.memory.job with state := state } } } := Iff.rfl

theorem ends_selectStep (p : PublishSagaStep → Bool)
    (Q : Except Exc (Option PublishSagaStep) → Session ρ → Prop) :
    Ends (selectStep p) s Q ↔ Q (.ok (selectRow (·.steps) (·.id) p s.flushed s.memory)) s :=
  Iff.rfl

theorem ends_selectPost (p : PublishedPost → Bool)
    (Q : Except Exc (Option PublishedPost) → Session ρ → Prop) :
    Ends (selectPost p) s Q ↔ Q (.ok (selectRow (·.posts) (·.id) p s.flushed s.memory)) s :=
  Iff.rfl

theorem ends_selectSnapshot (p : RemotePostSnapshot → Bool)
    (Q : Except Exc (Option RemotePostSnapshot) → Session ρ → Prop) :
    Ends (selectSnapshot p) s Q ↔ Q (.ok (selectRow (·.snapshots) (·.id) p s.flushed s.memory)) s :=
  Iff.rfl

theorem ends_selectUsage (p : PublishQuotaUsage → Bool)
    (Q : Except Exc (Option PublishQuotaUsage) → Session ρ → Prop) :
    Ends (selectUsage p) s Q ↔ Q (.ok (selectRow (·.usages) (·.id) p s.flushed s.memory)) s :=
  Iff.rfl

theorem ends_orRaise (result : Except Exc α) (Q : Except Exc α → Session ρ → Prop) :
    Ends (orRaise result) s Q ↔ Q result s := by
  cases result <;> rfl

theorem ends_raise (failure : ProviderFailure) (Q : Except Exc α → Session ρ → Prop) :
    Ends (raise failure) s Q ↔ Q (.error (.provider failure)) s := Iff.rfl

/-- A flush either writes the rows or raises. -/
theorem ends_flush (e : Exc) (Q : Except Exc Unit → Session ρ → Prop)
    (hok : Q (.ok ()) { s with flushed := s.memory }) (herror : Q (.error e) s) : Ends (flush e) s Q := by
  unfold flush
  rw [ends_bind, ends_get, continues_ok]
  exact ends_ite (fun _ => hok) (fun _ => herror)

end Elementary

/-- What identifies a step of the saga. -/
def stepKey (step : PublishSagaStep) : Uuid × Nat × SagaStepKind :=
  (step.id, step.sequence, step.stepKind)

/-- What an operation never changes of a post, once it is there. -/
def postKey (post : PublishedPost) : Uuid × Option Uuid × Option Uuid × String :=
  (post.id, post.connectionId, post.createdByJobId, post.remoteId)

/-- The failures of media that a run records and goes on after. -/
def OnlyFinal (failures : List MediaFailure) : Prop := ∀ failure ∈ failures, failure.retryClass = .final

structure StepRules (R : Session ρ → Session ρ → Prop) : Prop where
  fresh : Keeps R uuid4
  step : ∀ id f, (∀ step, stepKey (f step) = stepKey step) → Keeps R (modifyStep id f)
  succeeded : ∀ stepId, Keeps R (emit (.stepSucceeded stepId))
  attempt : ∀ row, Keeps R (modifyRows fun rows => { rows with
    attempts := rows.attempts ++ [row] })

structure UploadRules (channel : Channel ρ) (R : Session ρ → Session ρ → Prop) : Prop extends
    StepRules R where
  caught : ∀ failure, Keeps R (emit (.caught failure))
  upload : ∀ stepId media, Keeps R (callProvider stepId .uploadMedia
    (channel.provider.uploadMedia channel.context channel.secret media))
  binding : ∀ row, Keeps R (modifyRows fun rows => { rows with
    bindings := rows.bindings ++ [row] })

structure OperationRules [CanonicalHash] (env : WorkerEnv ρ) (channel : Channel ρ)
    (R : Session ρ → Session ρ → Prop) : Prop extends UploadRules channel R where
  call : ∀ {α : Type} stepId operation (method : RemoteCall ρ α),
    Keeps R (callProvider stepId operation method)
  snapshot : ∀ row, Keeps R (modifyRows fun rows => { rows with
    snapshots := rows.snapshots ++ [row] })
  post : ∀ id f, (∀ post, postKey (f post) = postKey post) → Keeps R (modifyPost id f)
  applied : ∀ postId remote incomplete, Keeps R (applyRemote env postId remote incomplete)
  link : ∀ connection remote incomplete, Keeps R (linkPost env connection remote incomplete)
  target : ∀ postId, Keeps R (modifyJob fun job => { job with
    targetPublishedPostId := some postId })
  result : ∀ result : ResultJson, OnlyFinal result.mediaFailures →
    Keeps R (modifyJob fun job => { job with resultJson := some result })
  complete : Keeps R (completeQuota env.now)

/-- A job without what the bookkeeping of a run writes on it, its state apart. -/
def apartFromProgress (job : PublishJob) : PublishJob :=
  { job with
    attempt := 0
    cancelledAt := none
    startedAt := none
    finishedAt := none
    retryAfterSeconds := none
    errorCode := none
    errorDetail := none }

structure BookkeepingRules (R : Session ρ → Session ρ → Prop) : Prop extends StepRules R where
  endSteps : ∀ states state finishedAt, Keeps R (endSteps states state finishedAt)
  notice : ∀ build : Rows → PublishingNotification, Keeps R (modifyRows fun rows => { rows with
    notifications := rows.notifications ++ [build rows] })
  auditLog : ∀ row, Keeps R (modifyRows fun rows => { rows with
    auditLogs := rows.auditLogs ++ [row] })
  outboxEvent : ∀ row, Keeps R (modifyRows fun rows => { rows with
    outboxEvents := rows.outboxEvents ++ [row] })
  flush : ∀ e, Keeps R (flush e)

/-- The rules of everything that `process_publish_job` does around an operation. -/
structure LifecycleRules (env : WorkerEnv ρ) (R : Session ρ → Session ρ → Prop) : Prop extends
    BookkeepingRules R where
  addStep : ∀ kind, Keeps R (addStep kind)
  handled : ∀ failure, Keeps R (emit (.handled failure))
  assigned : ∀ state, Keeps R (setJobState state)
  progress : ∀ f, (∀ job, apartFromProgress (f job) = apartFromProgress job) → Keeps R (modifyJob f)
  release : ∀ reverseCompleted, Keeps R (releaseQuota env.now reverseCompleted)

variable {R : Session ρ → Session ρ → Prop} [IsPreorder (Session ρ) R]

theorem keeps_getRows : Keeps R (getRows : Saga ρ Rows) := fun s => (ends_getRows s _).mpr (refl_of R s)

theorem keeps_getFlushed : Keeps R (getFlushed : Saga ρ Rows) :=
  fun s => (ends_getFlushed s _).mpr (refl_of R s)

theorem keeps_getJob : Keeps R (getJob : Saga ρ PublishJob) :=
  fun s => (ends_getJob s _).mpr (refl_of R s)

theorem keeps_selectStep (p : PublishSagaStep → Bool) :
    Keeps R (selectStep p : Saga ρ (Option PublishSagaStep)) :=
  fun s => (ends_selectStep s p _).mpr (refl_of R s)

theorem keeps_selectPost (p : PublishedPost → Bool) :
    Keeps R (selectPost p : Saga ρ (Option PublishedPost)) :=
  fun s => (ends_selectPost s p _).mpr (refl_of R s)

theorem keeps_selectSnapshot (p : RemotePostSnapshot → Bool) :
    Keeps R (selectSnapshot p : Saga ρ (Option RemotePostSnapshot)) :=
  fun s => (ends_selectSnapshot s p _).mpr (refl_of R s)

theorem keeps_orRaise (result : Except Exc α) : Keeps R (orRaise result : Saga ρ α) :=
  fun s => (ends_orRaise s result _).mpr (refl_of R s)

theorem keeps_raise (failure : ProviderFailure) : Keeps R (raise failure : Saga ρ α) :=
  fun s => (ends_raise s failure _).mpr (refl_of R s)

variable {kind : SagaStepKind}

namespace StepRules

variable (rules : StepRules R)
include rules

variable (now : Timestamp)

/-- Every kind but `CANCEL_REMOTE` must have been planned. -/
theorem keeps_runningStep (hkind : kind ≠ .cancelRemote) : Keeps R (runningStep now kind) := by
  unfold runningStep findStep
  refine keeps_bind (keeps_bind (keeps_selectStep _) fun found => ?_) fun step => ?_
  · cases found with
    | some step => exact keeps_pure step
    | none =>
      dsimp only
      rw [if_pos hkind]
      exact keeps_throw _
  · exact keeps_bind (rules.step _ _ fun _ => rfl) fun _ => keeps_pure _

theorem keeps_succeedStep (stepId : Uuid) : Keeps R (succeedStep now stepId) :=
  keeps_bind (rules.succeeded stepId) fun _ => rules.step _ _ fun _ => rfl

theorem keeps_succeedLocalStep (hkind : kind ≠ .cancelRemote) : Keeps R (succeedLocalStep now kind) :=
  keeps_bind (rules.keeps_runningStep now hkind) fun stepId => rules.keeps_succeedStep now stepId

theorem keeps_addAttempt (stepId : Uuid) (build : Uuid → Nat → PublishAttempt) :
    Keeps R (addAttempt stepId build) := by
  unfold addAttempt
  refine keeps_bind keeps_get fun s => ?_
  exact keeps_bind rules.fresh fun id => rules.attempt _

theorem keeps_recordCall (stepId : Uuid) (call : ProviderCall α) (remoteId : Option String) :
    Keeps R (recordCall stepId call remoteId) :=
  rules.keeps_addAttempt stepId _

theorem keeps_recordFailureOn (stepId : Uuid) (failure : ProviderFailure) :
    Keeps R (recordFailureOn now stepId failure) :=
  keeps_bind (rules.step _ _ fun _ => rfl) fun _ => rules.keeps_addAttempt stepId _

theorem keeps_recordProviderFailure (failure : ProviderFailure) :
    Keeps R (recordProviderFailure now failure) := by
  unfold recordProviderFailure
  refine keeps_bind keeps_getFlushed fun flushed => ?_
  split
  · exact keeps_pure _
  · exact rules.keeps_recordFailureOn now _ failure

end StepRules

namespace UploadRules

variable {channel : Channel ρ} (rules : UploadRules channel R)
include rules

variable (env : WorkerEnv ρ)

theorem keeps_uploadItem (stepId : Uuid) (item : ReadyMedia) :
    Keeps R (uploadItem env channel stepId item) := by
  unfold uploadItem selectBinding
  refine keeps_bind keeps_getJob fun job => ?_
  refine keeps_bind (keeps_bind keeps_get fun s => keeps_pure _) fun found => ?_
  cases found with
  | some binding => exact keeps_pure _
  | none =>
    refine keeps_bind (keeps_orRaise _) fun content => ?_
    refine keeps_bind (rules.upload _ _) fun call => ?_
    refine keeps_bind (rules.keeps_recordCall _ _ _) fun _ => ?_
    refine keeps_bind rules.fresh fun id => ?_
    exact keeps_bind (rules.binding _) fun _ => keeps_pure _

theorem keeps_mediaFailure (stepId : Uuid) (item : ReadyMedia) (e : Exc) :
    Keeps R (mediaFailure env stepId item e) := by
  cases e with
  | provider failure =>
    unfold mediaFailure
    refine keeps_ite (keeps_raise _) ?_
    refine keeps_bind (rules.caught _) fun _ => ?_
    exact keeps_bind (rules.keeps_recordFailureOn _ _ _) fun _ => keeps_pure _
  | app error => exact keeps_throw _
  | uncaught => exact keeps_throw _

theorem keeps_uploadOrFail (stepId : Uuid) (item : ReadyMedia) :
    Keeps R (uploadOrFail env channel stepId item) := by
  unfold uploadOrFail
  refine keeps_tryCatch ?_ (rules.keeps_mediaFailure env stepId item)
  exact keeps_bind (rules.keeps_uploadItem env stepId item) fun _ => keeps_pure _

theorem keeps_uploadItems (stepId : Uuid) (items : List ReadyMedia) (done : Uploads × List MediaFailure) :
    Keeps R (uploadItems env channel stepId items done) := by
  induction items generalizing done with
  | nil => exact keeps_pure done
  | cons item rest ih =>
    unfold uploadItems
    exact keeps_bind (rules.keeps_uploadOrFail env stepId item) fun result => ih _

theorem keeps_uploadMedia (ready : PublishReadyContent) : Keeps R (uploadMedia env channel ready) := by
  unfold uploadMedia endUpload
  refine keeps_ite ?_ ?_
  · refine keeps_bind (rules.keeps_succeedLocalStep env.now ?_) fun _ => keeps_pure _
    decide
  · refine keeps_bind (rules.keeps_runningStep env.now ?_) fun stepId => ?_
    · decide
    · refine keeps_bind (rules.keeps_uploadItems env stepId _ _) fun uploaded => ?_
      refine keeps_bind (keeps_ite ?_ ?_) fun _ => keeps_pure _
      · exact rules.keeps_succeedStep env.now stepId
      · exact rules.step _ _ fun _ => rfl

end UploadRules

/-! ## Larger effects from the elementary ones -/

def Session.afterCall (s : Session ρ) (operation : ProviderOperation) (remote : ρ) : Session ρ :=
  { s with trace := s.trace ++ [.called operation], remote := remote }

theorem ends_callProvider {stepId : Uuid} {operation : ProviderOperation} {method : RemoteCall ρ α}
    {s : Session ρ} {Q : Except Exc (ProviderCall α) → Session ρ → Prop}
    (hok : ∀ call remote, method s.remote = (.ok call, remote) →
      Q (.ok call) (s.afterCall operation remote))
    (hfailed : ∀ failure remote, method s.remote = (.error (.provider failure), remote) →
      Q (.error (.provider failure)) { s.afterCall operation remote with
        trace := (s.afterCall operation remote).trace ++ [.failed stepId failure] })
    (hother : ∀ e remote, method s.remote = (.error e, remote) →
      (∀ failure, e ≠ .provider failure) → Q (.error e) (s.afterCall operation remote)) :
    Ends (callProvider stepId operation method) s Q := by
  unfold callProvider
  rw [ends_bind, ends_emit, continues_ok, ends_bind, ends_get, continues_ok, ends_bind, ends_set,
    continues_ok]
  dsimp only
  generalize hanswer : method s.remote = answer
  obtain ⟨result, remote⟩ := answer
  cases result with
  | ok call => exact hok call remote hanswer
  | error e =>
    cases e with
    | provider failure => exact hfailed failure remote hanswer
    | app error => exact hother _ remote hanswer fun _ h => by cases h
    | uncaught => exact hother _ remote hanswer fun _ h => by cases h

theorem keeps_callProvider (hremote : ∀ s remote, R s { s with remote := remote })
    (hcalled : ∀ operation, Keeps R (emit (.called operation)))
    (hfailed : ∀ stepId failure, Keeps R (emit (.failed stepId failure))) {stepId : Uuid}
    {operation : ProviderOperation} (method : RemoteCall ρ α) :
    Keeps R (callProvider stepId operation method) := by
  intro s
  have hcall (remote : ρ) : R s (s.afterCall operation remote) :=
    trans_of R (hcalled operation s) (hremote _ remote)
  refine ends_callProvider (fun call remote _ => hcall remote) (fun failure remote _ => ?_)
    (fun e remote _ _ => hcall remote)
  exact trans_of R (hcall remote) (hfailed stepId failure _)

theorem keeps_applyRemote [CanonicalHash] (hpost : ∀ id f, Keeps R (modifyPost id f))
    (env : WorkerEnv ρ) (postId : Uuid) (remote : RemotePost) (incomplete : Bool) :
    Keeps R (applyRemote env postId remote incomplete) := by
  unfold applyRemote
  refine keeps_bind (keeps_ite (keeps_pure _) (keeps_raise _)) fun _ => ?_
  exact keeps_bind keeps_getRows fun rows => keeps_ite (keeps_raise _) (hpost _ _)

theorem keeps_linkPost [CanonicalHash] (hpost : ∀ id f, Keeps R (modifyPost id f)) (hfresh : Keeps R uuid4)
    (hposts : ∀ row, Keeps R (modifyRows fun rows => { rows with posts := rows.posts ++ [row] }))
    (env : WorkerEnv ρ) (connection : PublishingConnection) (remote : RemotePost) (incomplete : Bool) :
    Keeps R (linkPost env connection remote incomplete) := by
  unfold linkPost
  refine keeps_bind keeps_getJob fun job => keeps_bind (keeps_selectPost _) fun found => ?_
  cases found with
  | some post => exact keeps_bind (keeps_applyRemote hpost _ _ _ _) fun _ => keeps_pure _
  | none =>
    exact keeps_bind hfresh fun id => keeps_bind (hposts _) fun _ => keeps_pure _

/-- What a run never changes of a usage row. -/
def usageKey (usage : PublishQuotaUsage) : PublishQuotaUsage :=
  { usage with reservedCount := 0, completedCount := 0 }

theorem keeps_selectUsage (p : PublishQuotaUsage → Bool) :
    Keeps R (selectUsage p : Saga ρ (Option PublishQuotaUsage)) :=
  fun s => (ends_selectUsage s p _).mpr (refl_of R s)

theorem keeps_completeQuota (hraised : ∀ code, Keeps R (emit (.quotaRaised code)))
    (husage : ∀ id f, (∀ usage, usageKey (f usage) = usageKey usage) → Keeps R (modifyUsage id f))
    (now : Timestamp)
    (hcompleted : Keeps R (modifyJob fun job => { job with quotaCompletedAt := some now })) :
    Keeps R (completeQuota now : Saga ρ Unit) := by
  unfold completeQuota raiseQuota
  refine keeps_bind keeps_getJob fun job => ?_
  refine keeps_ite (keeps_pure _) (keeps_ite (keeps_pure _) (keeps_ite ?_ ?_))
  · exact keeps_bind (hraised _) fun _ => keeps_throw _
  · refine keeps_bind (keeps_selectUsage _) fun found => ?_
    cases found with
    | none => exact keeps_bind (hraised _) fun _ => keeps_throw _
    | some usage => exact keeps_bind (husage _ _ fun _ => rfl) fun _ => hcompleted

theorem keeps_releaseQuota (hclamped : Keeps R (emit .quotaClamped))
    (hwithheld : Keeps R (emit .quotaWithheld))
    (husage : ∀ id f, (∀ usage, usageKey (f usage) = usageKey usage) → Keeps R (modifyUsage id f))
    (now : Timestamp) (hreleased : Keeps R (markReleased now)) (reverseCompleted : Bool) :
    Keeps R (releaseQuota now reverseCompleted : Saga ρ Unit) := by
  unfold releaseQuota reverseReservation noteClamp freeReservation
  refine keeps_bind keeps_getJob fun job => ?_
  refine keeps_ite (keeps_pure _) (keeps_ite (keeps_pure _) ?_)
  refine keeps_bind (keeps_selectUsage _) fun found => ?_
  cases found with
  | none => exact keeps_pure _
  | some usage =>
    refine keeps_ite ?_ (keeps_ite (keeps_pure _) (keeps_ite ?_ hwithheld))
    · refine keeps_bind (keeps_ite hclamped (keeps_pure _)) fun _ => ?_
      exact keeps_bind (husage _ _ fun _ => rfl) fun _ => hreleased
    · exact keeps_bind (husage _ _ fun _ => rfl) fun _ => hreleased

section OnlyFinal

omit [IsPreorder (Session ρ) R]

theorem RetryClass.eq_final {c : RetryClass} (h : ¬c.retryable = true) : c = .final := by
  cases c with
  | final => rfl
  | network => exact absurd rfl h
  | rateLimit => exact absurd rfl h
  | server => exact absurd rfl h

variable (env : WorkerEnv ρ)

theorem returns_mediaFailure (stepId : Uuid) (item : ReadyMedia) (e : Exc) :
    Returns (fun result => OnlyFinal result.2) (mediaFailure env stepId item e) := by
  cases e with
  | provider failure =>
    unfold mediaFailure
    refine returns_ite (fun _ => returns_throw _) fun hclass => ?_
    refine returns_bind (returns_any _) fun _ _ => ?_
    refine returns_bind (returns_any _) fun _ _ => returns_pure ?_
    intro failed hfailed
    rw [List.mem_singleton] at hfailed
    rw [hfailed]
    exact RetryClass.eq_final hclass
  | app error => exact returns_throw _
  | uncaught => exact returns_throw _

variable (channel : Channel ρ)

theorem returns_uploadOrFail (stepId : Uuid) (item : ReadyMedia) :
    Returns (fun result => OnlyFinal result.2) (uploadOrFail env channel stepId item) := by
  unfold uploadOrFail
  refine returns_tryCatch ?_ (returns_mediaFailure env stepId item)
  refine returns_bind (returns_any _) fun _ _ => returns_pure ?_
  intro failed hfailed
  cases hfailed

theorem returns_uploadItems (stepId : Uuid) (items : List ReadyMedia) (done : Uploads × List MediaFailure)
    (hdone : OnlyFinal done.2) : Returns (fun uploaded => OnlyFinal uploaded.2)
      (uploadItems env channel stepId items done) := by
  induction items generalizing done with
  | nil => exact returns_pure hdone
  | cons item rest ih =>
    unfold uploadItems
    refine returns_bind (returns_uploadOrFail env channel stepId item) fun result hresult => ?_
    refine ih _ fun failed hfailed => ?_
    rcases List.mem_append.mp hfailed with h | h
    · exact hdone failed h
    · exact hresult failed h

theorem returns_uploadMedia (ready : PublishReadyContent) :
    Returns (fun uploaded => OnlyFinal uploaded.2) (uploadMedia env channel ready) := by
  have hnone : OnlyFinal [] := by
    intro failed hfailed
    cases hfailed
  unfold uploadMedia
  refine returns_ite (fun _ => ?_) (fun _ => ?_)
  · exact returns_bind (returns_any _) fun _ _ => returns_pure hnone
  · refine returns_bind (returns_any _) fun stepId _ => ?_
    refine returns_bind (returns_uploadItems env channel stepId _ _ hnone) fun uploaded h => ?_
    exact returns_bind (returns_any _) fun _ _ => returns_pure h

theorem returns_overwriteRemote (ready : PublishReadyContent) (remote : RemotePost) :
    Returns OnlyFinal (overwriteRemote env channel ready remote) := by
  unfold overwriteRemote
  refine returns_bind (returns_uploadMedia env channel ready) fun media hmedia => ?_
  refine returns_bind (returns_any _) fun document _ => ?_
  refine returns_bind (returns_any _) fun stepId _ => ?_
  refine returns_bind (returns_any _) fun call _ => ?_
  refine returns_bind (returns_any _) fun _ _ => ?_
  exact returns_bind (returns_any _) fun _ _ => returns_pure hmedia

end OnlyFinal

theorem keeps_resolveReady (env : WorkerEnv ρ) (connection : PublishingConnection)
    (policy : PublicationPolicy) : Keeps R (resolveReady env connection policy) := by
  unfold resolveReady
  refine keeps_bind keeps_getJob fun job => ?_
  refine keeps_bind (keeps_orRaise _) fun ready => ?_
  exact keeps_ite (keeps_throw _) (keeps_pure _)

theorem keeps_publishedPost (postId : Uuid) : Keeps R (publishedPost postId : Saga ρ PublishedPost) := by
  unfold publishedPost
  refine keeps_bind (keeps_selectPost _) fun found => ?_
  cases found with
  | some post => exact keeps_pure post
  | none => exact keeps_throw _

theorem keeps_buildDocument (env : WorkerEnv ρ) (ready : PublishReadyContent) (uploads : Uploads) :
    Keeps R (buildDocument env ready uploads) := by
  unfold buildDocument
  exact keeps_bind keeps_getJob fun job => keeps_orRaise _

theorem keeps_targetPost : Keeps R (targetPost : Saga ρ PublishedPost) := by
  unfold targetPost
  refine keeps_bind keeps_getJob fun job => ?_
  cases job.targetPublishedPostId with
  | none => exact keeps_raise _
  | some postId =>
    refine keeps_bind (keeps_publishedPost postId) fun post => ?_
    cases staleTarget job post with
    | none => exact keeps_pure post
    | some failure => exact keeps_raise failure

section Operations

variable [CanonicalHash]

theorem keeps_assertRemoteIntegrity (remote : RemotePost) :
    Keeps R (assertRemoteIntegrity remote : Saga ρ Unit) :=
  keeps_ite (keeps_pure _) (keeps_raise _)

theorem keeps_checkRemoteConflict (remote : RemotePost) :
    Keeps R (checkRemoteConflict remote : Saga ρ Bool) := by
  unfold checkRemoteConflict
  refine keeps_bind (keeps_assertRemoteIntegrity remote) fun _ => ?_
  exact keeps_bind keeps_getJob fun job => keeps_pure _

theorem keeps_isExpectedScheduledTransition (post : PublishedPost) (remote : RemotePost) :
    Keeps R (isExpectedScheduledTransition post remote : Saga ρ Bool) := by
  unfold isExpectedScheduledTransition
  refine keeps_ite (keeps_pure _) ?_
  refine keeps_bind (keeps_selectSnapshot _) fun previous => ?_
  cases previous with
  | none => exact keeps_pure _
  | some previous => exact keeps_pure _

theorem keeps_rollbackSnapshot (postId : Uuid) :
    Keeps R (rollbackSnapshot postId : Saga ρ RemotePostSnapshot) := by
  unfold rollbackSnapshot
  refine keeps_bind keeps_getJob fun job => ?_
  cases job.inputSnapshot.snapshotId with
  | none => exact keeps_throw _
  | some snapshotId =>
    refine keeps_bind (keeps_selectSnapshot _) fun found => ?_
    cases found with
    | none => exact keeps_throw _
    | some snapshot => exact keeps_ite (keeps_raise _) (keeps_pure _)

end Operations

namespace OperationRules

variable [CanonicalHash] {env : WorkerEnv ρ} {channel : Channel ρ}
variable (rules : OperationRules env channel R)
include rules

theorem keeps_readRemote (hkind : kind ≠ .cancelRemote) (remoteId : String) :
    Keeps R (readRemote env channel kind remoteId) := by
  unfold readRemote finishStep
  refine keeps_bind (rules.keeps_runningStep env.now hkind) fun stepId => ?_
  refine keeps_bind (rules.call _ _ _) fun call => ?_
  refine keeps_bind (rules.keeps_recordCall _ _ _) fun _ => ?_
  exact keeps_bind (rules.keeps_succeedStep _ _) fun _ => keeps_pure _

theorem keeps_verifyRemote (remoteId : String) : Keeps R (verifyRemote env channel remoteId) :=
  rules.keeps_readRemote (by decide) remoteId

theorem keeps_snapshotRemote (postId : Uuid) (remote : RemotePost) (reason : String) :
    Keeps R (snapshotRemote env postId remote reason) := by
  unfold snapshotRemote
  have hsucceed : Keeps R (succeedLocalStep env.now .snapshotRemote) :=
    rules.keeps_succeedLocalStep env.now (by decide)
  refine keeps_bind (keeps_assertRemoteIntegrity remote) fun _ => ?_
  refine keeps_bind keeps_getJob fun job => ?_
  refine keeps_bind (keeps_selectSnapshot _) fun found => ?_
  cases found with
  | some snapshot => exact hsucceed
  | none =>
    refine keeps_bind rules.fresh fun id => ?_
    exact keeps_bind (rules.snapshot _) fun _ => hsucceed

theorem keeps_writeMarked (stepId : Uuid) (document : PublishDocument)
    (found : Option RemotePost) : Keeps R (writeMarked channel stepId document found) := by
  cases found with
  | none => exact rules.call _ _ _
  | some remote =>
    exact keeps_bind (keeps_assertRemoteIntegrity remote) fun _ => rules.call _ _ _

variable (connection : PublishingConnection) (policy : PublicationPolicy)

theorem keeps_createRemote : Keeps R (createRemote env connection policy channel) := by
  unfold createRemote finishStep
  refine keeps_bind (keeps_resolveReady env connection policy) fun ready => ?_
  refine keeps_bind (rules.keeps_succeedLocalStep env.now (by decide)) fun _ => ?_
  refine keeps_bind_returns (rules.keeps_uploadMedia env ready)
    (returns_uploadMedia env channel ready) fun media hmedia => ?_
  refine keeps_bind (keeps_buildDocument env ready media.1) fun document => ?_
  refine keeps_bind (rules.keeps_runningStep env.now (by decide)) fun stepId => ?_
  refine keeps_bind keeps_getJob fun job => ?_
  refine keeps_bind (rules.call _ _ _) fun found => ?_
  refine keeps_bind (rules.keeps_recordCall _ _ _) fun _ => ?_
  refine keeps_bind (rules.keeps_writeMarked stepId document found.value) fun call => ?_
  refine keeps_bind (rules.keeps_recordCall _ _ _) fun _ => ?_
  refine keeps_bind (rules.keeps_succeedStep _ _) fun _ => ?_
  refine keeps_bind (keeps_assertRemoteIntegrity _) fun _ => ?_
  refine keeps_bind (rules.link _ _ _) fun postId => ?_
  refine keeps_bind (rules.target _) fun _ => ?_
  refine keeps_bind (rules.keeps_verifyRemote _) fun verified => ?_
  refine keeps_bind (rules.applied _ _ _) fun _ => ?_
  refine keeps_bind (rules.keeps_snapshotRemote _ _ _) fun _ => ?_
  refine keeps_bind (rules.result _ hmedia) fun _ => ?_
  exact keeps_bind rules.complete fun _ => keeps_pure _

theorem keeps_importUpdate (postId : Uuid) (remote : RemotePost) :
    Keeps R (importUpdate env postId remote) := by
  unfold importUpdate
  refine keeps_bind (rules.applied _ _ _) fun _ => ?_
  refine keeps_bind (rules.post _ _ fun _ => rfl) fun _ => ?_
  exact keeps_bind (rules.result _ (by simp [OnlyFinal, ResultJson.mediaFailures])) fun _ => keeps_pure _

theorem keeps_overwriteRemote (ready : PublishReadyContent) (remote : RemotePost) :
    Keeps R (overwriteRemote env channel ready remote) := by
  unfold overwriteRemote finishStep
  refine keeps_bind (rules.keeps_uploadMedia env ready) fun media => ?_
  refine keeps_bind (keeps_buildDocument env ready media.1) fun document => ?_
  refine keeps_bind (rules.keeps_runningStep env.now (by decide)) fun stepId => ?_
  refine keeps_bind (rules.call _ _ _) fun call => ?_
  refine keeps_bind (rules.keeps_recordCall _ _ _) fun _ => ?_
  exact keeps_bind (rules.keeps_succeedStep _ _) fun _ => keeps_pure _

theorem keeps_writeUpdate (ready : PublishReadyContent) (post : PublishedPost)
    (remote : RemotePost) : Keeps R (writeUpdate env channel ready post remote) := by
  unfold writeUpdate
  refine keeps_bind_returns (rules.keeps_overwriteRemote ready remote)
    (returns_overwriteRemote env channel ready remote) fun failures hfailures => ?_
  refine keeps_bind (rules.keeps_verifyRemote _) fun verified => ?_
  refine keeps_bind keeps_getJob fun job => ?_
  refine keeps_bind (rules.post _ _ fun _ => rfl) fun _ => ?_
  refine keeps_bind (rules.applied _ _ _) fun _ => ?_
  refine keeps_bind (rules.keeps_snapshotRemote _ _ _) fun _ => ?_
  refine keeps_bind (rules.result _ hfailures) fun _ => ?_
  exact keeps_bind rules.complete fun _ => keeps_pure _

theorem keeps_updateRemote : Keeps R (updateRemote env connection policy channel) := by
  unfold updateRemote fetchRemote
  refine keeps_bind (keeps_resolveReady env connection policy) fun ready => ?_
  refine keeps_bind (rules.keeps_succeedLocalStep env.now (by decide)) fun _ => ?_
  refine keeps_bind keeps_targetPost fun post => ?_
  refine keeps_bind (rules.keeps_readRemote (by decide) _) fun remote => ?_
  refine keeps_bind (keeps_checkRemoteConflict remote) fun conflict => ?_
  refine keeps_bind keeps_getJob fun job => ?_
  refine keeps_ite (keeps_raise _) ?_
  refine keeps_bind (rules.keeps_snapshotRemote _ _ _) fun _ => ?_
  exact keeps_ite (rules.keeps_importUpdate post.id remote) (rules.keeps_writeUpdate ready post remote)

theorem keeps_missingRemote (kind : SagaStepKind) (e : Exc) :
    Keeps R (missingRemote env.now kind e : Saga ρ (Option RemotePost)) := by
  cases e with
  | provider failure =>
    unfold missingRemote
    refine keeps_ite (keeps_raise _) ?_
    refine keeps_bind (rules.caught _) fun _ => ?_
    refine keeps_bind (rules.keeps_recordProviderFailure _ _) fun _ => ?_
    refine keeps_bind (keeps_selectStep _) fun found => ?_
    cases found with
    | none => exact keeps_pure _
    | some step =>
      refine keeps_bind (rules.succeeded _) fun _ => ?_
      exact keeps_bind (rules.step _ _ fun _ => rfl) fun _ => keeps_pure _
  | app error => exact keeps_throw _
  | uncaught => exact keeps_throw _

variable (post : PublishedPost)

theorem keeps_fetchIfPresent (hkind : kind ≠ .cancelRemote) :
    Keeps R (fetchIfPresent env channel post kind) := by
  unfold fetchIfPresent fetchRemote
  refine keeps_tryCatch ?_ (rules.keeps_missingRemote kind)
  exact keeps_bind (rules.keeps_readRemote hkind _) fun _ => keeps_pure _

theorem keeps_deleteRemote : Keeps R (deleteRemote env channel) := by
  unfold deleteRemote finishStep
  refine keeps_bind keeps_targetPost fun post => ?_
  refine keeps_bind (rules.keeps_fetchIfPresent post (by decide)) fun found => ?_
  cases found with
  | none =>
    refine keeps_bind (rules.post _ _ fun _ => rfl) fun _ => ?_
    exact keeps_bind (rules.result _ (by simp [OnlyFinal, ResultJson.mediaFailures])) fun _ => keeps_pure _
  | some remote =>
    refine keeps_bind (keeps_checkRemoteConflict remote) fun conflict => ?_
    refine keeps_ite (keeps_raise _) ?_
    refine keeps_bind (rules.keeps_snapshotRemote _ _ _) fun _ => ?_
    refine keeps_bind (rules.keeps_runningStep env.now (by decide)) fun stepId => ?_
    refine keeps_bind keeps_getJob fun job => ?_
    refine keeps_bind (rules.call _ _ _) fun call => ?_
    refine keeps_bind (rules.keeps_recordCall _ _ _) fun _ => ?_
    refine keeps_bind (rules.keeps_succeedStep _ _) fun _ => ?_
    refine keeps_bind (rules.post _ _ fun _ => rfl) fun _ => ?_
    exact keeps_bind (rules.result _ (by simp [OnlyFinal, ResultJson.mediaFailures])) fun _ => keeps_pure _

theorem keeps_importReconcile (postId : Uuid) (remote : RemotePost) :
    Keeps R (importReconcile env postId remote) := by
  unfold importReconcile
  refine keeps_bind (rules.applied _ _ _) fun _ => ?_
  refine keeps_bind (rules.post _ _ fun _ => rfl) fun _ => ?_
  exact keeps_bind (rules.result _ (by simp [OnlyFinal, ResultJson.mediaFailures])) fun _ => keeps_pure _

theorem keeps_overwriteReconcile (remote : RemotePost) :
    Keeps R (overwriteReconcile env connection policy channel post remote) := by
  unfold overwriteReconcile
  refine keeps_bind (keeps_resolveReady env connection policy) fun ready => ?_
  refine keeps_bind_returns (rules.keeps_overwriteRemote ready remote)
    (returns_overwriteRemote env channel ready remote) fun failures hfailures => ?_
  refine keeps_bind (rules.keeps_verifyRemote _) fun verified => ?_
  refine keeps_bind (rules.applied _ _ _) fun _ => ?_
  refine keeps_bind (rules.keeps_snapshotRemote _ _ _) fun _ => ?_
  refine keeps_bind (rules.post _ _ fun _ => rfl) fun _ => ?_
  exact keeps_bind (rules.result _ hfailures) fun _ => keeps_pure _

theorem keeps_settleConflict (remote : RemotePost) :
    Keeps R (settleConflict env connection policy channel post remote) := by
  unfold settleConflict
  refine keeps_bind (rules.keeps_snapshotRemote _ _ _) fun _ => ?_
  refine keeps_bind keeps_getJob fun job => ?_
  cases job.inputSnapshot.conflictAction.getD .abort with
  | abort => exact keeps_bind (rules.post _ _ fun _ => rfl) fun _ => keeps_raise _
  | importRemote => exact rules.keeps_importReconcile post.id remote
  | overwrite => exact rules.keeps_overwriteReconcile connection policy post remote

theorem keeps_reconcileRemote : Keeps R (reconcileRemote env connection policy channel) := by
  unfold reconcileRemote touchPost
  have hnone {result : ResultJson} (h : result.mediaFailures = []) :
      OnlyFinal result.mediaFailures := by
    rw [h]
    intro failed hfailed
    cases hfailed
  refine keeps_bind keeps_targetPost fun post => ?_
  refine keeps_bind (rules.keeps_fetchIfPresent post (by decide)) fun found => ?_
  cases found with
  | none =>
    refine keeps_bind (rules.post _ _ fun _ => rfl) fun _ => ?_
    exact keeps_bind (rules.result _ (hnone rfl)) fun _ => keeps_pure _
  | some remote =>
    refine keeps_bind (keeps_checkRemoteConflict remote) fun conflict => ?_
    refine keeps_ite ?_ ?_
    · refine keeps_bind (rules.post _ _ fun _ => rfl) fun _ => ?_
      exact keeps_bind (rules.result _ (hnone rfl)) fun _ => keeps_pure _
    · refine keeps_bind (keeps_isExpectedScheduledTransition post remote) fun expected => ?_
      refine keeps_ite ?_ (rules.keeps_settleConflict connection policy post remote)
      refine keeps_bind (rules.keeps_snapshotRemote _ _ _) fun _ => ?_
      refine keeps_bind (rules.applied _ _ _) fun _ => ?_
      refine keeps_bind (rules.post _ _ fun _ => rfl) fun _ => ?_
      exact keeps_bind (rules.result _ (hnone rfl)) fun _ => keeps_pure _

theorem keeps_rollbackRemote : Keeps R (rollbackRemote env channel) := by
  unfold rollbackRemote fetchRemote finishStep
  refine keeps_bind keeps_targetPost fun post => ?_
  refine keeps_bind (rules.keeps_readRemote (by decide) _) fun remote => ?_
  refine keeps_bind (keeps_checkRemoteConflict remote) fun conflict => ?_
  refine keeps_ite (keeps_raise _) ?_
  refine keeps_bind (rules.keeps_snapshotRemote _ _ _) fun _ => ?_
  refine keeps_bind (keeps_rollbackSnapshot post.id) fun snapshot => ?_
  refine keeps_bind (rules.keeps_runningStep env.now (by decide)) fun stepId => ?_
  refine keeps_bind (rules.call _ _ _) fun call => ?_
  refine keeps_bind (rules.keeps_recordCall _ _ _) fun _ => ?_
  refine keeps_bind (rules.keeps_succeedStep _ _) fun _ => ?_
  refine keeps_bind (rules.keeps_verifyRemote _) fun verified => ?_
  refine keeps_bind (rules.applied _ _ _) fun _ => ?_
  refine keeps_bind (rules.keeps_snapshotRemote _ _ _) fun _ => ?_
  refine keeps_bind (rules.post _ _ fun _ => rfl) fun _ => ?_
  exact keeps_bind (rules.result _ (by simp [OnlyFinal, ResultJson.mediaFailures])) fun _ => keeps_pure _

theorem keeps_runOperation (operation : PublishOperation) :
    Keeps R (runOperation env connection policy channel operation) := by
  cases operation with
  | create => exact rules.keeps_createRemote connection policy
  | update => exact rules.keeps_updateRemote connection policy
  | delete => exact rules.keeps_deleteRemote
  | reconcile => exact rules.keeps_reconcileRemote connection policy
  | rollback => exact rules.keeps_rollbackRemote

end OperationRules

namespace BookkeepingRules

variable (rules : BookkeepingRules R)
include rules

theorem keeps_auditOutbox (actorId : Uuid) (action targetType : String) (targetId : Uuid) :
    Keeps R (auditOutbox actorId action targetType targetId) := by
  unfold auditOutbox
  refine keeps_bind (rules.auditLog _) fun _ => ?_
  refine keeps_bind (rules.flush _) fun _ => ?_
  exact keeps_bind (rules.outboxEvent _) fun _ => rules.flush _

variable (now : Timestamp)

theorem keeps_notify (recipientId : Uuid) (type : String) : Keeps R (notify now recipientId type) := by
  unfold notify
  exact keeps_bind rules.fresh fun id => rules.notice _

theorem keeps_notifyAndEmit (action : String) : Keeps R (notifyAndEmit now action) := by
  unfold notifyAndEmit notifyApprover
  refine keeps_bind keeps_getJob fun job => ?_
  refine keeps_bind (rules.keeps_notify _ _ _) fun _ => ?_
  refine keeps_bind ?_ fun _ => rules.keeps_auditOutbox _ _ _ _
  cases job.inputSnapshot.approvedBy with
  | none => exact keeps_pure _
  | some approver => exact keeps_ite (keeps_pure _) (rules.keeps_notify _ _ _)

theorem keeps_skipPendingSteps : Keeps R (skipPendingSteps now : Saga ρ Unit) :=
  keeps_bind keeps_getJob fun _ => rules.endSteps _ _ _

theorem keeps_cancelPendingSteps : Keeps R (cancelPendingSteps : Saga ρ Unit) :=
  keeps_bind keeps_getJob fun _ => rules.endSteps _ _ _

theorem keeps_recordLocalFailure (code : String) : Keeps R (recordLocalFailure now code : Saga ρ Unit) := by
  unfold recordLocalFailure
  refine keeps_bind keeps_getFlushed fun flushed => ?_
  split
  · exact rules.keeps_skipPendingSteps now
  · exact keeps_bind (rules.step _ _ fun _ => rfl) fun _ => rules.keeps_skipPendingSteps now

end BookkeepingRules

theorem keeps_runResult : Keeps R (runResult : Saga ρ RunResult) :=
  keeps_bind keeps_getJob fun _ => keeps_pure _

/-- Taking a post off its schedule reads it and cancels the schedule, no more. -/
theorem keeps_releaseSchedule [CanonicalHash] {env : WorkerEnv ρ} {channel : Channel ρ}
    (steps : StepRules R) (hcancelStep : Keeps R (runningStep env.now .cancelRemote : Saga ρ Uuid))
    (hget : ∀ stepId remoteId, Keeps R (callProvider stepId .getPost
      (channel.provider.getPost channel.context channel.secret remoteId)))
    (hcancel : ∀ stepId remote, Keeps R (callProvider stepId .cancelScheduled
      (channel.provider.cancelScheduled channel.context channel.secret remote)))
    (happlied : ∀ postId remote, Keeps R (applyRemote env postId remote false)) :
    Keeps R (releaseSchedule env channel) := by
  unfold releaseSchedule unschedule finishStep
  refine keeps_bind keeps_getJob fun job => ?_
  cases job.targetPublishedPostId with
  | none => exact keeps_pure _
  | some postId =>
    refine keeps_bind (keeps_publishedPost postId) fun post => ?_
    refine keeps_ite (keeps_bind ?_ fun _ => keeps_pure _) (keeps_pure _)
    refine keeps_bind hcancelStep fun stepId => ?_
    refine keeps_bind (hget _ _) fun remoteCall => ?_
    refine keeps_bind (steps.keeps_recordCall _ _ _) fun _ => ?_
    refine keeps_ite ?_ (keeps_ite ?_ (keeps_raise _))
    · exact keeps_bind (steps.keeps_succeedStep _ _) fun _ => happlied _ _
    · refine keeps_bind (hcancel _ _) fun call => ?_
      refine keeps_bind (steps.keeps_recordCall _ _ _) fun _ => ?_
      exact keeps_bind (steps.keeps_succeedStep _ _) fun _ => happlied _ _

namespace LifecycleRules

variable {env : WorkerEnv ρ} (rules : LifecycleRules env R)
include rules

theorem keeps_releaseUncompleted : Keeps R (releaseUncompleted env.now : Saga ρ Unit) :=
  keeps_bind keeps_getJob fun _ => keeps_ite (rules.release _) (keeps_pure _)

theorem keeps_releaseWhenFinal : Keeps R (releaseWhenFinal env) :=
  keeps_bind keeps_getJob fun _ => keeps_ite rules.keeps_releaseUncompleted (keeps_pure _)

theorem keeps_finalFailure (code detail : String) : Keeps R (finalFailure env code detail) := by
  unfold finalFailure
  refine keeps_bind (rules.assigned _) fun _ => ?_
  refine keeps_bind (rules.progress _ fun _ => rfl) fun _ => ?_
  refine keeps_bind (rules.keeps_recordLocalFailure _ _) fun _ => ?_
  exact rules.keeps_releaseUncompleted

theorem keeps_finallyFail (code detail : String) : Keeps R (finallyFail env code detail) :=
  keeps_bind (rules.keeps_finalFailure code detail) fun _ => rules.keeps_notifyAndEmit _ _

theorem keeps_refuseJob (code detail : String) : Keeps R (refuseJob env code detail) := by
  unfold refuseJob repoFlush
  refine keeps_bind (rules.keeps_finallyFail code detail) fun _ => ?_
  exact keeps_bind (rules.flush _) fun _ => keeps_pure _

theorem keeps_retryOrGiveUp (failure : ProviderFailure) : Keeps R (retryOrGiveUp env failure) := by
  unfold retryOrGiveUp
  refine keeps_bind keeps_getJob fun job => ?_
  refine keeps_ite ?_ ?_
  · exact keeps_bind (rules.assigned _) fun _ => rules.progress _ fun _ => rfl
  · refine keeps_bind (rules.assigned _) fun _ => ?_
    exact keeps_bind (rules.progress _ fun _ => rfl) fun _ => rules.keeps_skipPendingSteps _

theorem keeps_closeCancelled (scheduleReleased : Bool) : Keeps R (closeCancelled env scheduleReleased) := by
  unfold closeCancelled repoFlush
  refine keeps_bind (rules.assigned _) fun _ => ?_
  refine keeps_bind (rules.progress _ fun _ => rfl) fun _ => ?_
  refine keeps_bind rules.keeps_cancelPendingSteps fun _ => ?_
  refine keeps_bind (rules.release _) fun _ => ?_
  refine keeps_bind (rules.keeps_notifyAndEmit _ _) fun _ => ?_
  exact keeps_bind (rules.flush _) fun _ => keeps_pure _

theorem keeps_cancelFailed (e : Exc) : Keeps R (cancelFailed env e) := by
  cases e with
  | provider failure =>
    unfold cancelFailed noteError repoFlush
    refine keeps_bind (rules.handled _) fun _ => ?_
    refine keeps_bind (rules.keeps_recordProviderFailure _ _) fun _ => ?_
    refine keeps_bind (rules.keeps_retryOrGiveUp _) fun _ => ?_
    refine keeps_bind (rules.progress _ fun _ => rfl) fun _ => ?_
    refine keeps_bind keeps_getJob fun job => ?_
    refine keeps_bind (rules.keeps_notifyAndEmit _ _) fun _ => ?_
    exact keeps_bind (rules.flush _) fun _ => keeps_runResult
  | app error => exact keeps_throw _
  | uncaught => exact keeps_throw _

theorem keeps_publishFailed (e : Exc) : Keeps R (publishFailed env e) := by
  cases e with
  | provider failure =>
    unfold publishFailed noteError
    refine keeps_bind (rules.handled _) fun _ => ?_
    refine keeps_bind (rules.keeps_recordProviderFailure _ _) fun _ => ?_
    refine keeps_bind (rules.keeps_retryOrGiveUp _) fun _ => ?_
    refine keeps_bind rules.keeps_releaseWhenFinal fun _ => ?_
    refine keeps_bind keeps_getJob fun job => ?_
    refine keeps_bind (rules.progress _ fun _ => rfl) fun _ => ?_
    exact rules.keeps_notifyAndEmit _ _
  | app error => exact rules.keeps_finallyFail _ _
  | uncaught => exact keeps_throw _

theorem keeps_completeJob (incomplete : Bool) : Keeps R (completeJob env incomplete) := by
  unfold completeJob
  refine keeps_bind (rules.assigned _) fun _ => ?_
  refine keeps_bind (rules.progress _ fun _ => rfl) fun _ => ?_
  refine keeps_bind (rules.keeps_notifyAndEmit _ _) fun _ => ?_
  refine keeps_bind (rules.keeps_succeedLocalStep _ (by decide)) fun _ => ?_
  exact rules.keeps_skipPendingSteps _

theorem keeps_beginPublishing : Keeps R (beginPublishing env) :=
  keeps_bind (rules.assigned _) fun _ => rules.progress _ fun _ => rfl

theorem keeps_cancelStep : Keeps R (runningStep env.now .cancelRemote : Saga ρ Uuid) := by
  unfold runningStep findStep
  refine keeps_bind (keeps_bind (keeps_selectStep _) fun found => ?_) fun step => ?_
  · cases found with
    | some step => exact keeps_pure step
    | none => exact keeps_ite (keeps_throw _) (rules.addStep _)
  · exact keeps_bind (rules.step _ _ fun _ => rfl) fun _ => keeps_pure _

variable [CanonicalHash]

theorem keeps_processCancellation {channel : Channel ρ}
    (operations : OperationRules env channel R) : Keeps R (processCancellation env channel) := by
  unfold processCancellation cancelJob startAttempt
  refine keeps_bind (rules.progress _ fun _ => rfl) fun _ => ?_
  refine keeps_tryCatch ?_ rules.keeps_cancelFailed
  refine keeps_bind ?_ fun _ => rules.keeps_closeCancelled _
  exact keeps_releaseSchedule rules.toStepRules rules.keeps_cancelStep
    (fun _ _ => operations.call _ _ _) (fun _ _ => operations.call _ _ _)
    (fun _ _ => operations.applied _ _ _)

theorem keeps_processPublication {channel : Channel ρ} (operations : OperationRules env channel R)
    (connection : PublishingConnection) (policy : PublicationPolicy) :
    Keeps R (processPublication env connection policy channel) := by
  unfold processPublication publishAndComplete repoFlush
  refine keeps_bind rules.keeps_beginPublishing fun _ => ?_
  refine keeps_bind (keeps_tryCatch ?_ rules.keeps_publishFailed) fun _ => ?_
  · refine keeps_bind keeps_getJob fun job => ?_
    refine keeps_bind (operations.keeps_runOperation connection policy _) fun incomplete => ?_
    exact rules.keeps_completeJob incomplete
  · exact keeps_bind (rules.flush _) fun _ => keeps_runResult

theorem keeps_processPublishJob (operations : ∀ channel, OperationRules env channel R)
    (connections : List PublishingConnection) (policies : List PublicationPolicy) :
    Keeps R (processPublishJob env connections policies) := by
  unfold processPublishJob cancelLocalJob startAttempt
  refine keeps_bind keeps_getJob fun job => ?_
  refine keeps_ite keeps_runResult (keeps_ite ?_ ?_)
  · exact keeps_bind (rules.progress _ fun _ => rfl) fun _ => rules.keeps_closeCancelled _
  · split
    · exact keeps_throw _
    · rename_i connection _
      split
      · exact keeps_throw _
      · rename_i policy _
        unfold processWith
        refine keeps_bind keeps_getJob fun job => ?_
        refine keeps_ite (rules.keeps_refuseJob _ _) ?_
        split
        · exact rules.keeps_refuseJob _ _
        · exact keeps_throw _
        · rename_i channel _
          exact keeps_ite (rules.keeps_processCancellation (operations channel))
            (rules.keeps_processPublication (operations channel) connection policy)

end LifecycleRules

end BlogOps.Publishing
