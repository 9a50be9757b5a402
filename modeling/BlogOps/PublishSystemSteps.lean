import BlogOps.ConnectionRuns
import BlogOps.PublishSystem

/-!
# What one action can do

Every request is inverted once, and `perform_effect` says what any action does
to the jobs and to the tables that publishing reads.
-/

namespace BlogOps.Publishing

open Jobs KeyedTables TransitionRuns

variable {ρ α : Type}

theorem ensure_ok {ok : Bool} {error : AppError} {u : Unit} (h : ensure ok error = .ok u) : ok = true := by
  cases ok with
  | true => rfl
  | false => cases h

theorem orNotFound_ok {code label : String} {found : Option α} {value : α}
    (h : orNotFound code label found = .ok value) : found = some value := by
  cases found with
  | none => cases h
  | some other => exact congrArg some (Except.ok.inj h)

variable {connection : PublishingConnection} {w w' : World ρ} {schedule : Schedule}
variable {env : RequestEnv} {key : String} {postId : Uuid}

theorem findConnection_mem {id : Uuid} (h : findConnection w id = .ok connection) :
    connection ∈ w.connections :=
  List.mem_of_find?_eq_some (orNotFound_ok h)

theorem findPublishJob_ok {id : Uuid} {rows : JobRows} (h : findPublishJob w id = .ok rows) :
    w.jobs.find? (·.job.id = id) = some rows :=
  orNotFound_ok h

theorem validateSchedule_day {zoneInfo : String → Option Zone} {utc : AwareTime}
    {reading : LocalTime} {timezone : String} {fold : Option Bool}
    (h : validateSchedule zoneInfo utc reading timezone fold = .ok schedule) :
    schedule.localDay = dayOf schedule.localDatetime := by
  simp only [validateSchedule] at h
  repeat' split at h
  all_goals cases h
  rfl

theorem runNow_day (h : runNow env connection = .ok schedule) :
    schedule.localDay = dayOf schedule.localDatetime := by
  unfold runNow at h
  split at h
  all_goals cases h
  rfl

theorem scheduleFor_day {policy : PublicationPolicy} {visibility : PublishVisibility} {utc : Option AwareTime}
    {reading : Option LocalTime} {timezone : Option String} {fold : Option Bool}
    (h : scheduleFor env connection policy visibility utc reading timezone fold = .ok schedule) :
    schedule.localDay = dayOf schedule.localDatetime := by
  unfold scheduleFor at h
  split at h
  · obtain ⟨_, _, h⟩ := bind_ok h
    split at h
    · obtain ⟨validated, hvalidated, h⟩ := bind_ok h
      obtain ⟨_, _, h⟩ := bind_ok h
      obtain ⟨_, _, h⟩ := bind_ok h
      cases h
      cases hvalid : validateSchedule env.zoneInfo _ _ _ fold with
      | error e =>
        rw [hvalid] at hvalidated
        cases hvalidated
      | ok other =>
        rw [hvalid] at hvalidated
        cases hvalidated
        exact validateSchedule_day hvalid
    · cases h
  · exact runNow_day h

theorem pendingSchedule_day {source : PublishJob} (h : pendingSchedule env (some source) = some schedule) :
    schedule.localDay = dayOf schedule.localDatetime := by
  unfold pendingSchedule at h
  obtain ⟨_, h₁, h⟩ := Option.bind_eq_some_iff.mp h
  obtain ⟨_, _, h⟩ := Option.bind_eq_some_iff.mp h
  obtain ⟨_, _, h⟩ := Option.bind_eq_some_iff.mp h
  split at h
  · cases h
    rfl
  · cases h

/-- What every request makes sure of before it queues a job. -/
structure SoundOrder (w : World ρ) (order : JobOrder) : Prop where
  connection : order.connection ∈ w.connections
  quota : order.reserveQuota = order.operation.usesQuota
  channel : order.operation.usesQuota = true → order.inputSnapshot.channel = some order.ready.channel
  day : order.schedule.localDay = dayOf order.schedule.localDatetime
  fresh : order.operation = .create → order.targetPost = none

/-- What a reservation for the order does to the usage rows. -/
inductive Reserves (order : JobOrder) (w : World ρ) : World ρ → Prop
  | opened (quotaLimit : Int) (hlimit : 1 ≤ quotaLimit)
      (hnone : w.tables.usages.find?
        (reservedFor order.connection order.ready.channel order.schedule.localDay) = none) :
      Reserves order w { withUsages (w.tables.usages ++ [newUsage order.connection order.policy
        order.ready.channel order.schedule.localDay quotaLimit w.nextId]) w with
          nextId := w.nextId + 1 }
  | added (quotaLimit : Int) (usage : PublishQuotaUsage)
      (hsome : w.tables.usages.find?
        (reservedFor order.connection order.ready.channel order.schedule.localDay) = some usage)
      (hlimit : usage.reservedCount < quotaLimit) :
      Reserves order w (withUsages
        (updateRow (·.id) usage.id (reserveOne order.policy quotaLimit) w.tables.usages) w)

theorem reserveQuota_ok {order : JobOrder}
    (h : reserveQuota order.connection order.policy order.ready.channel order.schedule.localDay w =
      .ok w') : Reserves order w w' := by
  unfold reserveQuota at h
  obtain ⟨found, hfound, h⟩ := bind_ok h
  cases found with
  | none => cases h
  | some quotaLimit =>
    dsimp only at h
    split at h
    · obtain ⟨_, hlimit, h⟩ := bind_ok h
      cases h
      exact .opened quotaLimit (of_decide_eq_true (ensure_ok hlimit)) ‹_›
    · obtain ⟨_, hlimit, h⟩ := bind_ok h
      cases h
      exact .added quotaLimit _ ‹_› (of_decide_eq_true (ensure_ok hlimit))

/-- The workspace that a sound order leaves before its job is inserted. -/
def Prepares (order : JobOrder) (w w₁ : World ρ) : Prop :=
  if order.operation.usesQuota then Reserves order w w₁ else w₁ = w

def identities (w : World ρ) : List (Uuid × PublishingProvider) := w.connections.map connectionKey

/-- An action that leaves the jobs and the tables of publishing alone. -/
structure Aside (w w' : World ρ) : Prop where
  jobs : w'.jobs = w.jobs
  tables : SameTables w.tables w'.tables
  nextId : w.nextId ≤ w'.nextId
  connections : identities w' = identities w ∨
    ∃ connection, identities w' = identities w ++ [connection] ∧ connection.1 = w.nextId ∧
      w.nextId < w'.nextId

theorem Aside.refl (w : World ρ) : Aside w w := ⟨rfl, .refl _, le_rfl, .inl rfl⟩

section

variable {data : PublishingConnectionCreate} (h : createConnection env data w = .ok w')

include h

theorem createConnection_ok : ∃ connection, connection.state = .pending ∧ connection.id = w.nextId ∧
      w' = recordChange env "publishing.connection.created" "publishing_connection" connection.id
        { w with connections := w.connections ++ [connection], nextId := w.nextId + 1 } := by
  unfold createConnection at h
  obtain ⟨_, _, h⟩ := bind_ok h
  obtain ⟨_, _, h⟩ := bind_ok h
  obtain ⟨_, _, h⟩ := bind_ok h
  obtain ⟨_, _, h⟩ := bind_ok h
  obtain ⟨siteUrl, _, h⟩ := bind_ok h
  obtain ⟨_, _, h⟩ := bind_ok h
  obtain ⟨secretRef, _, h⟩ := bind_ok h
  dsimp only at h
  split at h
  · cases h
  · cases h
    exact ⟨_, rfl, rfl, rfl⟩

theorem createConnection_aside : Aside w w' := by
  obtain ⟨connection, _, hid, rfl⟩ := createConnection_ok h
  refine ⟨rfl, ⟨rfl, rfl, rfl, rfl⟩, Nat.le_succ _, .inr ⟨connectionKey connection, ?_, hid,
    Nat.lt_succ_self _⟩⟩
  simp [identities, recordChange]

end

theorem cancelPublishJob_ok {jobId : Uuid} {data : CancelPublishCreate}
    {result : World ρ × SagaEvent} (h : cancelPublishJob env jobId data w = .ok result) :
    ∃ rows, w.jobs.find? (·.job.id = jobId) = some rows ∧ cancellable rows.job w = .ok true ∧
      result = (recordChange env "publishing.job.cancel_requested" "publish_job" jobId
        (updateJob jobId (requestCancellation env.now data.reason) w),
        .assigned rows.job.state .cancelRequested) := by
  unfold cancelPublishJob at h
  obtain ⟨rows, hrows, h⟩ := bind_ok h
  obtain ⟨_, _, h⟩ := bind_ok h
  obtain ⟨allowed, hallowed, h⟩ := bind_ok h
  obtain ⟨_, hensure, h⟩ := bind_ok h
  rw [ensure_ok hensure] at hallowed
  exact ⟨rows, findPublishJob_ok hrows, hallowed, (Except.ok.inj h).symm⟩

theorem retryPublishJob_ok {jobId : Uuid} {data : RetryPublishCreate} {result : World ρ × SagaEvent}
    (h : retryPublishJob env jobId data w = .ok result) :
    ∃ rows, w.jobs.find? (·.job.id = jobId) = some rows ∧ assertRetryable rows.job = .ok () ∧
      result = (recordChange env "publishing.job.retry_scheduled" "publish_job" jobId
        (updateJob jobId (scheduleRetry data.reason) w),
        .assigned rows.job.state .scheduled) := by
  unfold retryPublishJob at h
  obtain ⟨rows, hrows, h⟩ := bind_ok h
  obtain ⟨_, _, h⟩ := bind_ok h
  obtain ⟨_, hallowed, h⟩ := bind_ok h
  exact ⟨rows, findPublishJob_ok hrows, hallowed, (Except.ok.inj h).symm⟩

theorem state_of_cancellable {job : PublishJob} (h : cancellable job w = .ok true) :
    job.state ∈ [.scheduled, .retryableFailed, .succeeded] := by
  unfold cancellable at h
  dsimp only at h
  split at h
  · have hwaiting := Except.ok.inj h
    rw [Bool.and_eq_true, decide_eq_true_eq] at hwaiting
    simp [hwaiting.1]
  · split at h
    · rename_i hmem
      simp only [List.mem_cons, List.not_mem_nil, or_false] at hmem ⊢
      exact .inr hmem
    · have hwaiting := Except.ok.inj h
      rw [Bool.and_eq_true, decide_eq_true_eq] at hwaiting
      simp [hwaiting.1]

theorem state_of_retryable {job : PublishJob} (h : assertRetryable job = .ok ()) :
    job.state ∈ [.partialSuccess, .retryableFailed] := by
  unfold assertRetryable at h
  obtain ⟨_, hstate, _⟩ := bind_ok h
  exact of_decide_eq_true (ensure_ok hstate)

variable [CanonicalHash]

theorem createPolicy_aside {data : PublicationPolicyCreate} (h : createPolicy env data w = .ok w') :
    Aside w w' := by
  unfold createPolicy at h
  obtain ⟨_, _, h⟩ := bind_ok h
  dsimp only at h
  split at h
  · cases h
  · cases h
    exact ⟨rfl, ⟨rfl, rfl, rfl, rfl⟩, Nat.le_succ _, .inl rfl⟩

section

variable {connectionId : Uuid} {operation : ConnectionOperation} {data : ConnectionCommandCreate}
    {result : World ρ × Bool}
    (h : createConnectionJob env connectionId operation data w = .ok result)

include h

theorem createConnectionJob_ok :
    result.1 = w ∨ ∃ job, result.1 = recordChange env "publishing.connection.job_queued"
      "publishing_connection_job" job.id
      { w with connectionJobs := w.connectionJobs ++ [job], nextId := w.nextId + 1 } := by
  simp only [createConnectionJob] at h
  split at h
  · obtain ⟨_, _, h⟩ := bind_ok h
    cases h
    exact .inl rfl
  · obtain ⟨connection, _, h⟩ := bind_ok h
    obtain ⟨_, _, h⟩ := bind_ok h
    obtain ⟨_, _, h⟩ := bind_ok h
    cases h
    exact .inr ⟨_, rfl⟩

theorem createConnectionJob_connections : result.1.connections = w.connections ∧ Aside w result.1 := by
  rcases createConnectionJob_ok h with heq | ⟨job, heq⟩
  · rw [heq]
    exact ⟨rfl, .refl _⟩
  · rw [heq]
    exact ⟨rfl, rfl, ⟨rfl, rfl, rfl, rfl⟩, Nat.le_succ _, .inl rfl⟩

end

theorem monitorConnections_ok {connections : List PublishingConnection}
    (h : monitorConnections env connections w = .ok w') : w'.connections = w.connections ∧ Aside w w' := by
  induction connections generalizing w with
  | nil =>
    cases h
    exact ⟨rfl, .refl _⟩
  | cons connection rest ih =>
    unfold monitorConnections at h
    split at h
    · exact ih h
    · obtain ⟨queued, hqueued, h⟩ := bind_ok h
      obtain ⟨hconnections, hqueued⟩ := createConnectionJob_connections hqueued
      obtain ⟨hrest, haside⟩ := ih h
      refine ⟨hrest.trans hconnections, haside.jobs.trans hqueued.jobs,
        hqueued.tables.trans haside.tables, hqueued.nextId.trans haside.nextId, .inl ?_⟩
      rw [identities, hrest, hconnections, identities]

/-- A request either finds its job already there or queues a sound order. -/
def Queues (env : RequestEnv) (w w' : World ρ) : Prop :=
  w' = w ∨ ∃ order, SoundOrder w order ∧ createJob env order w = .ok w'

theorem createJob_ok {order : JobOrder} (hsound : SoundOrder w order) (h : createJob env order w = .ok w') :
    w' = w ∨ ∃ w₁, Prepares order w w₁ ∧ w' = insertPublishJob env order w₁ := by
  unfold createJob at h
  obtain ⟨existing, _, h⟩ := bind_ok h
  cases existing with
  | some rows => exact .inl (Except.ok.inj h).symm
  | none =>
    obtain ⟨w₁, hprepared, h⟩ := bind_ok h
    refine .inr ⟨w₁, ?_, (Except.ok.inj h).symm⟩
    unfold reserveFor at hprepared
    unfold Prepares
    rw [← hsound.quota]
    split at hprepared
    · rw [if_pos ‹_›]
      exact reserveQuota_ok hprepared
    · rw [if_neg ‹_›]
      exact (Except.ok.inj hprepared).symm

theorem createPublishJob_queues {contentId : Uuid} {data : PublishCreate}
    (h : createPublishJob env contentId data key w = .ok w') : Queues env w w' := by
  unfold createPublishJob at h
  obtain ⟨existing, _, h⟩ := bind_ok h
  cases existing with
  | some rows => exact .inl (Except.ok.inj h).symm
  | none =>
    obtain ⟨connection, hconnection, h⟩ := bind_ok h
    obtain ⟨_, _, h⟩ := bind_ok h
    obtain ⟨_, _, h⟩ := bind_ok h
    obtain ⟨policy, _, h⟩ := bind_ok h
    obtain ⟨_, _, h⟩ := bind_ok h
    obtain ⟨schedule, hschedule, h⟩ := bind_ok h
    obtain ⟨ready, _, h⟩ := bind_ok h
    obtain ⟨_, _, h⟩ := bind_ok h
    obtain ⟨_, _, h⟩ := bind_ok h
    refine .inr ⟨_, ?_, h⟩
    exact ⟨findConnection_mem hconnection, rfl, fun _ => rfl, scheduleFor_day hschedule, fun _ => rfl⟩

theorem updatePublishedPost_queues {data : PublishedPostUpdate}
    (h : updatePublishedPost env postId data key w = .ok w') : Queues env w w' := by
  unfold updatePublishedPost at h
  obtain ⟨existing, _, h⟩ := bind_ok h
  cases existing with
  | some rows => exact .inl (Except.ok.inj h).symm
  | none =>
    obtain ⟨post, _, h⟩ := bind_ok h
    obtain ⟨_, _, h⟩ := bind_ok h
    obtain ⟨_, _, h⟩ := bind_ok h
    obtain ⟨_, _, h⟩ := bind_ok h
    obtain ⟨connection, hconnection, h⟩ := bind_ok h
    obtain ⟨_, _, h⟩ := bind_ok h
    obtain ⟨_, _, h⟩ := bind_ok h
    obtain ⟨_, _, h⟩ := bind_ok h
    obtain ⟨policy, _, h⟩ := bind_ok h
    obtain ⟨_, _, h⟩ := bind_ok h
    obtain ⟨schedule, hschedule, h⟩ := bind_ok h
    obtain ⟨ready, _, h⟩ := bind_ok h
    obtain ⟨_, _, h⟩ := bind_ok h
    obtain ⟨_, _, h⟩ := bind_ok h
    refine .inr ⟨_, ?_, h⟩
    exact ⟨findConnection_mem hconnection, rfl, fun _ => rfl, scheduleFor_day hschedule,
      fun hcreate => by cases hcreate⟩

theorem existingPostJob_queues {post : PublishedPost} {operation : PublishOperation} {hash : String}
    {snapshot : InputSnapshot} (hquota : operation.usesQuota = false)
    (h : existingPostJob env post operation key hash snapshot w = .ok w') : Queues env w w' := by
  have hcreate : operation ≠ .create := by
    rintro rfl
    cases hquota
  unfold existingPostJob at h
  obtain ⟨_, _, h⟩ := bind_ok h
  obtain ⟨connection, hconnection, h⟩ := bind_ok h
  have hmem := findConnection_mem hconnection
  obtain ⟨_, _, h⟩ := bind_ok h
  obtain ⟨policy, _, h⟩ := bind_ok h
  obtain ⟨_, _, h⟩ := bind_ok h
  have hnone : operation.usesQuota = true → False := fun h => by rw [hquota] at h; cases h
  split at h
  · obtain ⟨⟨ready, source⟩, _, h⟩ := bind_ok h
    dsimp only at h
    split at h
    · refine .inr ⟨_, ?_, h⟩
      exact ⟨hmem, hquota.symm, fun h => (hnone h).elim, pendingSchedule_day ‹_›, fun h => absurd h hcreate⟩
    · obtain ⟨schedule, hschedule, h⟩ := bind_ok h
      refine .inr ⟨_, ?_, h⟩
      exact ⟨hmem, hquota.symm, fun h => (hnone h).elim, runNow_day hschedule, fun h => absurd h hcreate⟩
  · obtain ⟨schedule, hschedule, h⟩ := bind_ok h
    refine .inr ⟨_, ?_, h⟩
    exact ⟨hmem, hquota.symm, fun h => (hnone h).elim, runNow_day hschedule, fun h => absurd h hcreate⟩

theorem deletePublishedPost_queues {data : PublishedPostDelete}
    (h : deletePublishedPost env postId data key w = .ok w') : Queues env w w' := by
  unfold deletePublishedPost at h
  obtain ⟨existing, _, h⟩ := bind_ok h
  cases existing with
  | some rows => exact .inl (Except.ok.inj h).symm
  | none =>
    obtain ⟨_, _, h⟩ := bind_ok h
    obtain ⟨_, _, h⟩ := bind_ok h
    obtain ⟨_, _, h⟩ := bind_ok h
    obtain ⟨_, _, h⟩ := bind_ok h
    obtain ⟨_, _, h⟩ := bind_ok h
    obtain ⟨_, _, h⟩ := bind_ok h
    obtain ⟨_, _, h⟩ := bind_ok h
    exact existingPostJob_queues rfl h

theorem reconcilePublishedPost_queues {data : ReconcileCreate}
    (h : reconcilePublishedPost env postId data key w = .ok w') : Queues env w w' := by
  unfold reconcilePublishedPost at h
  obtain ⟨existing, _, h⟩ := bind_ok h
  cases existing with
  | some rows => exact .inl (Except.ok.inj h).symm
  | none =>
    obtain ⟨_, _, h⟩ := bind_ok h
    obtain ⟨_, _, h⟩ := bind_ok h
    obtain ⟨_, _, h⟩ := bind_ok h
    exact existingPostJob_queues rfl h

theorem rollbackPublishedPost_queues {data : RollbackCreate}
    (h : rollbackPublishedPost env postId data key w = .ok w') : Queues env w w' := by
  unfold rollbackPublishedPost at h
  obtain ⟨existing, _, h⟩ := bind_ok h
  cases existing with
  | some rows => exact .inl (Except.ok.inj h).symm
  | none =>
    obtain ⟨_, _, h⟩ := bind_ok h
    obtain ⟨_, _, h⟩ := bind_ok h
    obtain ⟨_, _, h⟩ := bind_ok h
    obtain ⟨_, _, h⟩ := bind_ok h
    obtain ⟨_, _, h⟩ := bind_ok h
    obtain ⟨_, _, h⟩ := bind_ok h
    exact existingPostJob_queues rfl h

/-- What an action makes of the workspace, and what it emits. -/
inductive Effect (w : World ρ) : Action ρ → World ρ → List SagaEvent → Prop
  | aside {a : Action ρ} {w' : World ρ} (h : Aside w w') : Effect w a w' []
  | queued {a : Action ρ} (env : RequestEnv) (order : JobOrder) (w₁ : World ρ)
      (hsound : SoundOrder w order) (hprepared : Prepares order w w₁) :
      Effect w a (insertPublishJob env order w₁) []
  | cancelRequested (env : RequestEnv) (jobId : Uuid) (data : CancelPublishCreate)
      (rows : JobRows) (hrows : w.jobs.find? (·.job.id = jobId) = some rows)
      (hallowed : cancellable rows.job w = .ok true) :
      Effect w (.cancelPublishJob env jobId data)
        (recordChange env "publishing.job.cancel_requested" "publish_job" jobId
          (updateJob jobId (requestCancellation env.now data.reason) w))
        [.assigned rows.job.state .cancelRequested]
  | retried (env : RequestEnv) (jobId : Uuid) (data : RetryPublishCreate)
      (rows : JobRows) (hrows : w.jobs.find? (·.job.id = jobId) = some rows)
      (hallowed : assertRetryable rows.job = .ok ()) :
      Effect w (.retryPublishJob env jobId data)
        (recordChange env "publishing.job.retry_scheduled" "publish_job" jobId
          (updateJob jobId (scheduleRetry data.reason) w))
        [.assigned rows.job.state .scheduled]
  | delivered (env : WorkerEnv ρ) (jobId : Uuid) (commits : Bool) :
      Effect w (.processPublishJob env jobId commits) (deliver env jobId commits w).1
        (deliver env jobId commits w).2

theorem Queues.effect {a : Action ρ} (h : Queues env w w') : Effect w a w' [] := by
  rcases h with rfl | ⟨order, hsound, hcreate⟩
  · exact .aside (.refl _)
  · rcases createJob_ok hsound hcreate with rfl | ⟨w₁, hprepared, rfl⟩
    · exact .aside (.refl _)
    · exact .queued env order w₁ hsound hprepared

theorem processConnectionJob_aside (env : ConnectionEnv ρ) (jobId : Uuid) (commits : Bool)
    (hkeyed : Keyed (·.id) w.connections) : Aside w (processConnectionJob env jobId commits w) := by
  unfold processConnectionJob
  split
  · exact .refl w
  · rename_i job _
    split
    · exact .refl w
    · split
      · exact .refl w
      · rename_i connection hconnection
        have hmem := List.mem_of_find?_eq_some hconnection
        have hframe := keeps_runConnectionJob env (openConnectionSession w connection job)
        cases hrun : runConnectionJob env (openConnectionSession w connection job) with
        | error e t => exact ⟨rfl, .refl _, le_rfl, .inl rfl⟩
        | ok u t =>
          have ht := hframe.of_ok hrun
          cases commits with
          | false => exact ⟨rfl, .refl _, le_rfl, .inl rfl⟩
          | true =>
            have hid : connection.id = t.connection.id := (congrArg Prod.fst ht.connection).symm
            exact ⟨rfl, ht.tables, ht.nextId, .inl (hkeyed.map_updateRow hmem hid ht.connection)⟩

theorem perform_effect (hkeyed : Keyed (·.id) w.connections) (a : Action ρ) :
    Effect w a (perform w a).1 (perform w a).2 := by
  have hrequest {result : Except Failure (World ρ)} (hok : ∀ w', result = .ok w' → Effect w a w' []) :
      Effect w a (request w result).1 (request w result).2 := by
    cases result with
    | ok w' => exact hok w' rfl
    | error e => exact .aside (.refl w)
  cases a with
  | createPolicy env data => exact hrequest fun w' h => .aside (createPolicy_aside h)
  | createConnection env data => exact hrequest fun w' h => .aside (createConnection_aside h)
  | createConnectionJob env connectionId operation data =>
    refine hrequest fun w' h => ?_
    obtain ⟨result, hresult, rfl⟩ := map_ok h
    exact .aside (createConnectionJob_connections hresult).2
  | scheduleMonitors env staleMinutes limit =>
    exact hrequest fun w' h => .aside (monitorConnections_ok h).2
  | processConnectionJob env jobId commits =>
    exact .aside (processConnectionJob_aside env jobId commits hkeyed)
  | createPublishJob env contentId data key =>
    exact hrequest fun w' h => (createPublishJob_queues h).effect
  | updatePublishedPost env postId data key =>
    exact hrequest fun w' h => (updatePublishedPost_queues h).effect
  | deletePublishedPost env postId data key =>
    exact hrequest fun w' h => (deletePublishedPost_queues h).effect
  | reconcilePublishedPost env postId data key =>
    exact hrequest fun w' h => (reconcilePublishedPost_queues h).effect
  | rollbackPublishedPost env postId data key =>
    exact hrequest fun w' h => (rollbackPublishedPost_queues h).effect
  | cancelPublishJob env jobId data =>
    simp only [perform]
    cases h : cancelPublishJob env jobId data w with
    | error e => exact .aside (.refl w)
    | ok result =>
      obtain ⟨rows, hrows, hallowed, rfl⟩ := cancelPublishJob_ok h
      exact .cancelRequested env jobId data rows hrows hallowed
  | retryPublishJob env jobId data =>
    simp only [perform]
    cases h : retryPublishJob env jobId data w with
    | error e => exact .aside (.refl w)
    | ok result =>
      obtain ⟨rows, hrows, hallowed, rfl⟩ := retryPublishJob_ok h
      exact .retried env jobId data rows hrows hallowed
  | processPublishJob env jobId commits => exact .delivered env jobId commits
  | tamperPolicies policies => exact .aside ⟨rfl, .refl _, le_rfl, .inl rfl⟩
  | changeRemote change => exact .aside ⟨rfl, .refl _, le_rfl, .inl rfl⟩

end BlogOps.Publishing
