import BlogOps.KeyedTables
import BlogOps.SyncOutcomes

/-!
# Requests for analytics syncs

`create_sync` and the syncs of a workspace.  The syncs share the unique keys of the
snapshots and of the daily facts, which neither `create_sync` nor
`_append_provider_fact` looks up before it inserts.
-/

namespace BlogOps.Analytics

open EffectRules Jobs KeyedTables TransitionRuns List

structure AnalyticsMetricDefinition where
  id : Uuid
  key : String
  subject : MetricSubject
  valueKind : String
  sourceProvider : String
  sourceField : String
  supportedDimensions : List String
deriving DecidableEq, Repr

structure AnalyticsSyncCreate where
  connectionId : Uuid
  metricDefinitionIds : List Uuid
  dateFrom : Int
  dateTo : Int
  dimensions : List String
  chosen : metricDefinitionIds ≠ []
  valid_window : dateFrom ≤ dateTo

/-- The canonical hash of a request. -/
class SyncHashes where
  requestHash : AnalyticsSyncCreate → String

/-- A connection, with the columns that a sync changes. -/
structure ConnectionRow where
  id : Uuid
  provider : String
  officialContract : String
  apiVersion : String
  connection : AnalyticsConnection := {}
deriving DecidableEq, Repr

/-- A run with its snapshot and rows, and the request that made it. -/
structure SyncEntry where
  requestedBy : Uuid
  idempotencyKey : String
  requestHash : String
  session : SyncSession

def SyncEntry.id (entry : SyncEntry) : Uuid := entry.session.run.id

structure SyncDesk where
  connections : List ConnectionRow := []
  definitions : List AnalyticsMetricDefinition := []
  syncs : List SyncEntry := []
  nextId : Uuid := 0

/-- `takes`: the database takes the columns of the new rows. -/
structure SyncCall where
  actorId : Uuid
  data : AnalyticsSyncCreate
  idempotencyKey : String
  takes : Bool

def notFound (resource : String) : Failure := .app {
  code := resource ++ "_NOT_FOUND"
  message := "현재 워크스페이스에서 요청한 분석 리소스를 찾을 수 없습니다."
  statusCode := 404 }

def connectionDisconnected : Failure := conflict "ANALYTICS_CONNECTION_DISCONNECTED"
  "연결 해제된 분석 연결은 동기화할 수 없습니다."

def definitionMismatch (invalidSources invalidDimensions : List String) : Failure := .app {
  code := "ANALYTICS_SYNC_DEFINITION_MISMATCH"
  message := "연결 공급자 또는 지원 차원과 지표 정의가 일치하지 않습니다."
  statusCode := 422
  fields :=
    invalidSources.map (fun value => { path := "metric_definition_ids", reason := value }) ++
      invalidDimensions.map fun value => { path := "dimensions", reason := value } }

def metricDefinitions (definitions : List AnalyticsMetricDefinition) (ids : List Uuid) :
    Except Failure (List AnalyticsMetricDefinition) := do
  let rows := definitions.filter fun row => row.id ∈ ids
  require (rows.length = ids.eraseDups.length) (notFound "METRIC_DEFINITION")
  .ok rows

def metricSnapshot (row : AnalyticsMetricDefinition) : MetricDefinitionSnapshot where
  id := row.id
  sourceField := row.sourceField
  subject := row.subject
  valueKind := row.valueKind

variable (desk : SyncDesk)

def SyncDesk.idempotentSync (call : SyncCall) : Option SyncEntry :=
  desk.syncs.find? fun entry =>
    entry.requestedBy = call.actorId ∧ entry.idempotencyKey = call.idempotencyKey

section Requests

variable [SyncHashes]

open SyncHashes

variable (desk : SyncDesk)

/-- The snapshot of a request that passes the checks. -/
def inputSnapshot (data : AnalyticsSyncCreate) : Except Failure AnalyticsSyncInputSnapshot := do
  let row ← ofOption (notFound "ANALYTICS_CONNECTION")
    (desk.connections.find? fun row => row.id = data.connectionId)
  require (row.connection.state ≠ .disconnected) connectionDisconnected
  let definitions ← metricDefinitions desk.definitions data.metricDefinitionIds
  let invalidSources := (definitions.filter fun item => item.sourceProvider ≠ row.provider).map
    AnalyticsMetricDefinition.key
  let invalidDimensions := data.dimensions.filter fun dimension =>
    definitions.any fun definition => dimension ∉ definition.supportedDimensions
  require (invalidSources = [] ∧ invalidDimensions = [])
    (definitionMismatch invalidSources invalidDimensions)
  .ok {
    provider := row.provider
    officialContract := row.officialContract
    apiVersion := row.apiVersion
    metricDefinitions := definitions.map metricSnapshot
    requestHash := requestHash data }

def SyncDesk.snapshotFree (data : AnalyticsSyncCreate) : Prop :=
  ∀ entry ∈ desk.syncs, entry.session.run.connectionId = data.connectionId →
    entry.session.snapshot.requestHash ≠ requestHash data

instance (desk : SyncDesk) (data : AnalyticsSyncCreate) : Decidable (desk.snapshotFree data) := by
  unfold SyncDesk.snapshotFree
  infer_instance

def SyncDesk.insert (call : SyncCall) (snapshot : AnalyticsSyncInputSnapshot) : SyncDesk :=
  { desk with
    syncs := desk.syncs ++ [{
      requestedBy := call.actorId
      idempotencyKey := call.idempotencyKey
      requestHash := requestHash call.data
      session := {
        snapshot := snapshot
        run := {
          id := desk.nextId
          connectionId := call.data.connectionId } } }]
    nextId := desk.nextId + 1 }

def createSync (call : SyncCall) : Except Failure SyncDesk :=
  match desk.idempotentSync call with
  | some existing => do
    require (existing.requestHash = requestHash call.data) idempotencyKeyReused
    .ok desk
  | none => do
    let snapshot ← inputSnapshot desk call.data
    require (call.takes = true) (.integrity "analytics_sync_input_snapshots")
    require (desk.snapshotFree call.data) (.integrity "analytics_sync_input_hash")
    .ok (desk.insert call snapshot)

end Requests

/-! ## Deliveries and commands -/

/-- What a session reads of a sync: its own rows, and the connection as it stands. -/
def SyncDesk.load (entry : SyncEntry) : SyncSession :=
  { entry.session with
    connection := ((desk.connections.find? fun row =>
      row.id = entry.session.run.connectionId).map ConnectionRow.connection).getD
        entry.session.connection }

def SyncDesk.store (session : SyncSession) : SyncDesk :=
  { desk with
    connections := updateRow ConnectionRow.id session.run.connectionId
      (fun row => { row with connection := session.connection }) desk.connections
    syncs := updateRow SyncEntry.id session.run.id
      (fun entry => { entry with session := session }) desk.syncs }

/-- A sync other than `id` has a fact with this key. -/
def SyncDesk.holdsKey (id : Uuid) (row : MetricDailyFact) : Bool :=
  desk.syncs.any fun other => decide (other.id ≠ id) && (other.session.facts.map
    MetricDailyFact.key).contains row.key

/-- The database of a delivery also refuses the facts whose keys other syncs have taken. -/
def SyncDesk.among (id : Uuid) (d : SyncDelivery) : SyncDelivery :=
  { d with database := { d.database with
      takesFact := fun row => d.database.takesFact row && !desk.holdsKey id row } }

inductive DeskAction where
  | create (call : SyncCall)
  | deliver (id : Uuid) (d : SyncDelivery)
  | command (id : Uuid) (call : CommandCall)

def SyncDesk.command (id : Uuid) (call : CommandCall) : SyncDesk :=
  match desk.syncs.find? (fun entry => entry.id = id) with
  | none => desk
  | some entry =>
    match commandSync (desk.load entry) call with
    | .ok session => desk.store session
    | .error _ => desk

section Desks

variable [SyncReaders]

def SyncDesk.deliver (desk : SyncDesk) (id : Uuid) (d : SyncDelivery) : SyncDesk :=
  match desk.syncs.find? (fun entry => entry.id = id) with
  | none => desk
  | some entry => desk.store (deliverSync (desk.load entry) (desk.among id d))

def stepSyncs [SyncHashes] (desk : SyncDesk) : DeskAction → SyncDesk
  | .create call => ((createSync desk call).toOption).getD desk
  | .deliver id d => desk.deliver id d
  | .command id call => desk.command id call

/-- The request would be accepted if it were the first. -/
def AcceptedAlone [SyncHashes] (desk : SyncDesk) (call : SyncCall) : Prop :=
  ∃ after, createSync { desk with syncs := [] } call = .ok after

/-- The provider's result passes every check that it meets on its way into the tables. -/
structure Passes (s : SyncSession) (d : SyncDelivery) (executor : SyncExecutor)
    (result : AnalyticsFetchResult) : Prop where
  configured : d.executor = some executor
  fetched : fetchResult s.snapshot executor = .ok result
  contract : checkContract s.snapshot result = .ok ()
  facts : ResultValid s executor result

/-- A request under a new key is accepted as it would be alone, and a queued run whose result passes
every check ends succeeded. -/
def Coexists [SyncHashes] (desk : SyncDesk) : DeskAction → Prop
  | .create call => desk.idempotentSync call = none → AcceptedAlone desk call →
      ∃ after, createSync desk call = .ok after
  | .deliver id d => ∀ entry ∈ desk.syncs, entry.id = id → entry.session.run.state = .queued →
      (∃ executor result, Passes (desk.load entry) d executor result) →
        ∀ after ∈ (desk.deliver id d).syncs, after.id = id → after.session.run.state = .succeeded
  | .command .. => True

/-- The call and the rows of a result meet no unique key and no column that refuses them. -/
structure FreeRows (desk : SyncDesk) (s : SyncSession) (d : SyncDelivery) (executor : SyncExecutor)
    (result : AnalyticsFetchResult) : Prop where
  call : insertable d.database (newCall s executor.callId result) s = true
  columns : ∀ row ∈ resultRows s executor result, d.database.takesFact row = true
  distinct : ((resultRows s executor result).map MetricDailyFact.key).Nodup
  unused : ∀ row ∈ resultRows s executor result, ∀ other ∈ desk.syncs,
    row.key ∉ other.session.facts.map MetricDailyFact.key

/-- No earlier sync of the connection has the payload of a new request, and no row of a result that
passes the checks is refused or already stored. -/
def Unshared [SyncHashes] (desk : SyncDesk) : DeskAction → Prop
  | .create call => desk.idempotentSync call = none →
      (∃ snapshot, inputSnapshot desk call.data = .ok snapshot) → call.takes = true →
        desk.snapshotFree call.data
  | .deliver id d => ∀ entry ∈ desk.syncs, entry.id = id → entry.session.run.state = .queued →
      ∀ executor result, Passes (desk.load entry) d executor result →
        FreeRows desk (desk.load entry) d executor result
  | .command .. => True

/-! ## What a delivery keeps -/

/-- A session between two actions. -/
structure CommittedSync (s : SyncSession) : Prop extends Quiet s where
  state : s.run.state = .queued ∨ s.run.state = .cancelRequested ∨ s.run.state ∈ completedAttemptStates
  keys : (s.facts.map MetricDailyFact.key).Nodup

variable {executor : SyncExecutor} {result : AnalyticsFetchResult}

section Deliveries

variable {s t : SyncSession} {d : SyncDelivery}

omit [SyncReaders] in
theorem committed_flush {database : SyncDatabase} (h : flushSync database s = .ok () t)
    (husable : s.broken = false) (hstate : s.run.state ∈ completedAttemptStates) : CommittedSync t := by
  obtain ⟨hstorable, rfl⟩ := flushSync_stored h
  have hkeys := (Bool.and_eq_true_iff.mp hstorable).2
  exact {
    pending := rfl
    usable := husable
    state := .inr (.inr hstate)
    keys := of_decide_eq_true hkeys }

omit [SyncReaders] in
theorem state_failRun (d : SyncDelivery) (code detail : String) (retryable : Bool)
    (s : SyncSession) : (failRun d code detail retryable s).run.state ∈ completedAttemptStates := by
  cases retryable <;> simp [failRun, completedAttemptStates]

omit [SyncReaders] in
/-- A failure is recorded in a session that is still usable, or not at all. -/
theorem committed_failSyncRuntime {code detail : String} {retryable : Bool}
    (hend : s.broken = true ∨ s.broken = false ∧ s.run.state = .queued)
    (h : failSyncRuntime d code detail retryable s = .ok () t) : CommittedSync t := by
  rcases hend with hbroken | ⟨husable, hqueued⟩
  · cases (failSyncRuntime_broken hbroken code detail retryable).symm.trans h
  · rw [failSyncRuntime_open husable hqueued] at h
    exact committed_flush h husable (state_failRun d code detail retryable s)

def calledSession (executor : SyncExecutor) (result : AnalyticsFetchResult) (s : SyncSession) :
    SyncSession :=
  { s with calls := s.calls ++ [newCall s executor.callId result] }

/-- The session in which a result is recorded and not yet flushed. -/
def finishedSession (executor : SyncExecutor) (result : AnalyticsFetchResult) (s : SyncSession) :
    SyncSession :=
  finishRun (newCall s executor.callId result) result
    (addPending (resultRows s executor result) (calledSession executor result s))

theorem state_finishedSession (executor : SyncExecutor) (result : AnalyticsFetchResult)
    (s : SyncSession) : (finishedSession executor result s).run.state = .succeeded := rfl

section

variable (hqueued : s.run.state = .queued) (hfetched : fetchResult s.snapshot executor = .ok result)
    (hcontract : checkContract s.snapshot result = .ok ())

include hqueued hfetched hcontract

theorem execute_called (hcall : insertable d.database (newCall s executor.callId result) s = true) :
    execute d executor s = (do
      recordFacts (newCall s executor.callId result) result.facts
      modify (finishRun (newCall s executor.callId result) result)
      flushSync d.database) (calledSession executor result s) := by
  have hchecked : (liftResult (checkContract s.snapshot result)) s = .ok () s := by
    rw [hcontract]
    rfl
  rw [execute_waiting executor hfetched, recordProviderResult_queued hqueued, bind_run_ok hchecked,
    bind_run_ok (addCall_ok hcall)]
  rfl

theorem execute_uncalled (hcall : insertable d.database (newCall s executor.callId result) s = false) :
    execute d executor s = .error (.integrity "analytics_call_request")
      { s with broken := true } := by
  have hchecked : (liftResult (checkContract s.snapshot result)) s = .ok () s := by
    rw [hcontract]
    rfl
  rw [execute_waiting executor hfetched, recordProviderResult_queued hqueued, bind_run_ok hchecked]
  exact bind_run_error (addCall_error hcall) _

theorem execute_passes (hvalid : ResultValid s executor result)
    (hcall : insertable d.database (newCall s executor.callId result) s = true) :
    execute d executor s = flushSync d.database (finishedSession executor result s) := by
  have hfacts : recordFacts (newCall s executor.callId result) result.facts
      (calledSession executor result s) = .ok () (addPending (resultRows s executor result)
        (calledSession executor result s)) :=
    (recordFacts_run _ _ (calledSession executor result s)).1 hvalid
  rw [execute_called hqueued hfetched hcontract hcall, bind_run_ok hfacts, bind_run_ok (modify_run _ _)]
  rfl

end

/-- The executor leaves a committed session, a broken one or one whose run is still queued. -/
theorem execute_ends (h : Quiet s) (hqueued : s.run.state = .queued) (d : SyncDelivery)
    (executor : SyncExecutor) : Ends (execute d executor) s fun r t =>
      (r = .ok () → CommittedSync t ∧ t.run.state = .succeeded) ∧
        ∀ e, r = .error e → t.broken = true ∨ t.broken = false ∧ t.run.state = .queued := by
  have hraised : ∀ e (t : SyncSession), execute d executor s = .error e t →
      (t.broken = true ∨ t.broken = false ∧ t.run.state = .queued) →
      Ends (execute d executor) s fun r t =>
        (r = .ok () → CommittedSync t ∧ t.run.state = .succeeded) ∧
          ∀ e, r = .error e → t.broken = true ∨ t.broken = false ∧ t.run.state = .queued := by
    intro e t hexecuted hend
    refine ends_intro (fun _ _ hok => ?_) fun _ _ herror => ?_
    · cases hexecuted.symm.trans hok
    · cases hexecuted.symm.trans herror
      exact ⟨nofun, fun _ _ => hend⟩
  cases hfetched : fetchResult s.snapshot executor with
  | error e => exact hraised e s (execute_unfetched executor hfetched) (.inr ⟨h.usable, hqueued⟩)
  | ok result =>
    cases hcontract : checkContract s.snapshot result with
    | error e =>
      refine hraised e s ?_ (.inr ⟨h.usable, hqueued⟩)
      rw [execute_waiting executor hfetched, recordProviderResult_queued hqueued, hcontract]
      exact bind_run_error (throw_run e s) _
    | ok u =>
      cases hcall : insertable d.database (newCall s executor.callId result) s with
      | false => exact hraised _ _ (execute_uncalled hqueued hfetched hcontract hcall) (.inl rfl)
      | true =>
        by_cases hvalid : ResultValid s executor result
        · have hexecuted : execute d executor s =
              flushSync d.database (finishedSession executor result s) :=
            execute_passes hqueued hfetched hcontract hvalid hcall
          cases hstorable : storable d.database (finishedSession executor result s) with
          | false =>
            exact hraised _ _ (hexecuted.trans (flushSync_error hstorable)) (.inl rfl)
          | true =>
            have hstored := hexecuted.trans (flushSync_ok hstorable)
            refine ends_intro (fun u t hok => ⟨fun _ => ?_, nofun⟩) fun e t herror => ?_
            · cases hstored.symm.trans hok
              refine ⟨committed_flush (flushSync_ok hstorable) h.usable ?_, rfl⟩
              rw [state_finishedSession]
              decide
            · cases hstored.symm.trans herror
        · obtain ⟨e, hfacts⟩ := (recordFacts_run _ _ (calledSession executor result s)).2 hvalid
          refine hraised e (addPending (resultRows s executor result)
            (calledSession executor result s)) ?_ (.inr ⟨h.usable, hqueued⟩)
          rw [execute_called hqueued hfetched hcontract hcall]
          exact bind_run_error hfacts _

theorem committed_queued (h : CommittedSync s) (hqueued : s.run.state = .queued)
    (hrun : runSync d s = .ok () t) : CommittedSync t := by
  cases hexecutor : d.executor with
  | none =>
    rw [runSync_unconfigured hqueued hexecutor] at hrun
    exact committed_failSyncRuntime (.inr ⟨h.usable, hqueued⟩) hrun
  | some executor =>
    rw [runSync_queued hqueued hexecutor] at hrun
    have hends := execute_ends h.toQuiet hqueued d executor
    cases hexecuted : execute d executor s with
    | ok u after =>
      obtain ⟨hcommitted, hstate⟩ := (hends.of_ok hexecuted).1 rfl
      have hattempt := attempt_ok hexecuted (by rw [hstate]; decide)
      cases hattempt.symm.trans hrun
      exact hcommitted
    | error e after =>
      rw [attempt_error hexecuted] at hrun
      exact committed_failSyncRuntime ((hends.of_error hexecuted).2 e rfl) hrun

/-- Whatever a delivery finds, it leaves a session between two actions. -/
theorem committed_deliverSync (h : CommittedSync s) (d : SyncDelivery) :
    CommittedSync (deliverSync s d) := by
  cases hrun : runSync d s with
  | error e t =>
    unfold deliverSync
    rw [hrun]
    exact h
  | ok u t =>
    rw [deliverSync_of_run hrun]
    rcases h.state with hstate | hstate | hstate
    · exact committed_queued h hstate hrun
    · cases (runSync_cancelling h.toQuiet hstate h.keys d).symm.trans hrun
      exact {
        pending := h.pending
        usable := h.usable
        state := .inr (.inr (by simp [cancelRun, AnalyticsSyncRun.cancel, completedAttemptStates]))
        keys := h.keys }
    · cases (runSync_completed hstate d).symm.trans hrun
      exact h

omit [SyncReaders] in
theorem committed_commandSync (h : CommittedSync s) {call : CommandCall}
    (hcommand : commandSync s call = .ok t) : CommittedSync t ∧ t.run.id = s.run.id := by
  unfold commandSync at hcommand
  split at hcommand
  · obtain ⟨_, _, hcommand⟩ := bind_ok hcommand
    cases hcommand
    exact ⟨h, rfl⟩
  · obtain ⟨_, _, hcommand⟩ := bind_ok hcommand
    cases hcommand
    cases hkind : call.command with
    | cancel => exact ⟨⟨⟨h.pending, h.usable⟩, .inr (.inl rfl), h.keys⟩, rfl⟩
    | retry => exact ⟨⟨⟨h.pending, h.usable⟩, .inl rfl, h.keys⟩, rfl⟩

def SameRun (s t : SyncSession) : Prop := t.run.id = s.run.id

instance : IsPreorder SyncSession SameRun where
  refl _ := rfl
  trans _ _ _ hst htu := htu.trans hst

omit [SyncReaders] in
theorem flushSync_sameRun (database : SyncDatabase) : Keeps SameRun (flushSync database) :=
  keeps_bind keeps_get fun _ => keeps_ite (keeps_modify fun _ => rfl)
    (keeps_bind (keeps_modify fun _ => rfl) fun _ => keeps_throw _)

omit [SyncReaders] in
theorem liftResult_sameRun {α : Type} (x : Except Failure α) : Keeps SameRun (liftResult x) := by
  cases x with
  | ok a => exact keeps_pure a
  | error e => exact keeps_throw e

omit [SyncReaders] in
theorem failSyncRuntime_sameRun (d : SyncDelivery) (code detail : String) (retryable : Bool) :
    Keeps SameRun (failSyncRuntime d code detail retryable) := by
  refine keeps_bind keeps_get fun s => keeps_ite (keeps_throw _) (keeps_ite ?_ (keeps_ite
    (keeps_pure _) ?_))
  · exact keeps_bind (keeps_modify fun _ => rfl) fun _ => flushSync_sameRun _
  · exact keeps_bind (keeps_modify fun _ => rfl) fun _ => flushSync_sameRun _

omit [SyncReaders] in
theorem finalizeSyncCancellation_sameRun (d : SyncDelivery) :
    Keeps SameRun (finalizeSyncCancellation d) :=
  keeps_bind keeps_get fun _ => keeps_ite
    (keeps_bind (keeps_modify fun _ => rfl) fun _ => flushSync_sameRun _) (keeps_pure _)

theorem recordFacts_sameRun (call : AnalyticsProviderCall) (facts : List AnalyticsFactValue) :
    Keeps SameRun (recordFacts call facts) := by
  induction facts with
  | nil => exact keeps_pure _
  | cons fact rest ih =>
    exact keeps_bind keeps_get fun _ => keeps_bind (liftResult_sameRun _) fun _ =>
      keeps_bind (keeps_modify fun _ => rfl) fun _ => ih

theorem execute_sameRun (d : SyncDelivery) (executor : SyncExecutor) :
    Keeps SameRun (execute d executor) := by
  refine keeps_bind keeps_get fun _ => keeps_bind (liftResult_sameRun _) fun result =>
    keeps_bind keeps_get fun s => keeps_ite ?_ (keeps_ite (keeps_ite (keeps_pure _)
      (keeps_throw _)) ?_)
  · exact keeps_bind (keeps_modify fun _ => rfl) fun _ => flushSync_sameRun _
  · refine keeps_bind (liftResult_sameRun _) fun _ => keeps_bind ?_ fun _ =>
      keeps_bind (recordFacts_sameRun _ _) fun _ => keeps_bind (keeps_modify fun _ => rfl)
        fun _ => flushSync_sameRun _
    exact keeps_bind keeps_get fun _ => keeps_ite (keeps_modify fun _ => rfl)
      (keeps_bind (keeps_modify fun _ => rfl) fun _ => keeps_throw _)

theorem runSync_sameRun (d : SyncDelivery) : Keeps SameRun (runSync d) := by
  refine keeps_bind (finalizeSyncCancellation_sameRun d) fun _ => keeps_bind keeps_get fun _ =>
    keeps_ite (keeps_pure _) ?_
  cases d.executor with
  | none => exact failSyncRuntime_sameRun d _ _ _
  | some executor =>
    refine keeps_bind (keeps_tryCatch ?_ fun e => ?_) fun recorded => keeps_ite
      (finalizeSyncCancellation_sameRun d) (keeps_pure _)
    · exact keeps_bind (execute_sameRun d executor) fun _ => keeps_pure _
    · exact keeps_bind (failSyncRuntime_sameRun d _ _ _) fun _ => keeps_pure _

theorem deliverSync_sameRun (s : SyncSession) (d : SyncDelivery) :
    (deliverSync s d).run.id = s.run.id := by
  cases hrun : runSync d s with
  | ok u t =>
    rw [deliverSync_of_run hrun]
    exact (runSync_sameRun d s).of_ok hrun
  | error e t =>
    unfold deliverSync
    rw [hrun]

end Deliveries

structure SyncDeskInvariant (desk : SyncDesk) : Prop where
  keyed : Keyed SyncEntry.id desk.syncs
  below : ∀ entry ∈ desk.syncs, entry.id < desk.nextId
  committed : ∀ entry ∈ desk.syncs, CommittedSync entry.session

section Steps

variable {desk : SyncDesk}

variable {entry : SyncEntry}

omit [SyncReaders] in
theorem committed_load (h : SyncDeskInvariant desk) (hentry : entry ∈ desk.syncs) :
    CommittedSync (desk.load entry) :=
  have hcommitted := h.committed entry hentry
  ⟨⟨hcommitted.pending, hcommitted.usable⟩, hcommitted.state, hcommitted.keys⟩

omit [SyncReaders] in
theorem syncDeskInvariant_store (h : SyncDeskInvariant desk) {session : SyncSession}
    (hcommitted : CommittedSync session) : SyncDeskInvariant (desk.store session) where
  keyed := h.keyed.updateRow fun entry hentry => hentry.symm
  below := by
    intro entry hentry
    obtain ⟨found, hfound, ⟨hid, rfl⟩ | ⟨-, rfl⟩⟩ := mem_updateRow hentry
    · have hbelow := h.below found hfound
      rwa [hid] at hbelow
    · exact h.below entry hfound
  committed := by
    intro entry hentry
    obtain ⟨found, hfound, ⟨-, rfl⟩ | ⟨-, rfl⟩⟩ := mem_updateRow hentry
    · exact hcommitted
    · exact h.committed entry hfound

omit [SyncReaders] in
theorem createSync_created [SyncHashes] {call : SyncCall} {after : SyncDesk}
    (hcreate : createSync desk call = .ok after) :
    after = desk ∨ ∃ snapshot, after = desk.insert call snapshot := by
  unfold createSync at hcreate
  split at hcreate
  · obtain ⟨_, _, hcreate⟩ := bind_ok hcreate
    exact .inl (Except.ok.inj hcreate).symm
  · obtain ⟨snapshot, _, hcreate⟩ := bind_ok hcreate
    obtain ⟨_, _, hcreate⟩ := bind_ok hcreate
    obtain ⟨_, _, hcreate⟩ := bind_ok hcreate
    exact .inr ⟨snapshot, (Except.ok.inj hcreate).symm⟩

omit [SyncReaders] in
theorem syncDeskInvariant_insert [SyncHashes] (h : SyncDeskInvariant desk) (call : SyncCall)
    (snapshot : AnalyticsSyncInputSnapshot) : SyncDeskInvariant (desk.insert call snapshot) where
  keyed := h.keyed.append_row fun entry hentry => (h.below entry hentry).ne
  below := by
    intro entry hentry
    rcases mem_append.mp hentry with hentry | hentry
    · exact (h.below entry hentry).trans (Nat.lt_succ_self _)
    · rw [mem_singleton.mp hentry]
      exact Nat.lt_succ_self _
  committed := by
    intro entry hentry
    rcases mem_append.mp hentry with hentry | hentry
    · exact h.committed entry hentry
    · rw [mem_singleton.mp hentry]
      exact ⟨⟨rfl, rfl⟩, .inl rfl, nodup_nil⟩

theorem syncDeskInvariant_step [SyncHashes] (h : SyncDeskInvariant desk) (action : DeskAction) :
    SyncDeskInvariant (stepSyncs desk action) := by
  cases action with
  | create call =>
    show SyncDeskInvariant (((createSync desk call).toOption).getD desk)
    cases hcreate : createSync desk call with
    | error e => exact h
    | ok after =>
      rcases createSync_created hcreate with rfl | ⟨snapshot, rfl⟩
      · exact h
      · exact syncDeskInvariant_insert h call snapshot
  | deliver id d =>
    show SyncDeskInvariant (desk.deliver id d)
    unfold SyncDesk.deliver
    split
    · exact h
    · rename_i entry hfind
      have hentry := mem_of_find?_eq_some hfind
      exact syncDeskInvariant_store h (committed_deliverSync (committed_load h hentry) _)
  | command id call =>
    show SyncDeskInvariant (desk.command id call)
    unfold SyncDesk.command
    split
    · exact h
    · rename_i entry hfind
      have hentry := mem_of_find?_eq_some hfind
      split
      · rename_i session hcommand
        exact syncDeskInvariant_store h
          (committed_commandSync (committed_load h hentry) hcommand).1
      · exact h

/-! ## When a request is accepted -/

omit [SyncReaders] in
theorem createSync_new_iff [SyncHashes] {call : SyncCall} (hnew : desk.idempotentSync call = none) :
    (∃ after, createSync desk call = .ok after) ↔
      (∃ snapshot, inputSnapshot desk call.data = .ok snapshot) ∧ call.takes = true ∧
        desk.snapshotFree call.data := by
  unfold createSync
  rw [hnew]
  constructor
  · rintro ⟨after, hcreate⟩
    obtain ⟨snapshot, hsnapshot, hcreate⟩ := bind_ok hcreate
    obtain ⟨_, htakes, hcreate⟩ := bind_ok hcreate
    obtain ⟨_, hfree, _⟩ := bind_ok hcreate
    exact ⟨⟨snapshot, hsnapshot⟩, require_ok htakes, require_ok hfree⟩
  · rintro ⟨⟨snapshot, hsnapshot⟩, htakes, hfree⟩
    refine ⟨desk.insert call snapshot, ?_⟩
    dsimp only
    rw [bind_of_ok hsnapshot, bind_of_ok (require_of htakes _), bind_of_ok (require_of hfree _)]

omit [SyncReaders] in
theorem acceptedAlone_iff [SyncHashes] (call : SyncCall) : AcceptedAlone desk call ↔
    (∃ snapshot, inputSnapshot desk call.data = .ok snapshot) ∧ call.takes = true := by
  have hfirst : ({ desk with syncs := [] } : SyncDesk).idempotentSync call = none := rfl
  have hfree : ({ desk with syncs := [] } : SyncDesk).snapshotFree call.data := by
    intro entry hentry
    cases hentry
  refine (createSync_new_iff hfirst).trans ?_
  exact ⟨fun h => ⟨h.1, h.2.1⟩, fun h => ⟨h.1, h.2, hfree⟩⟩

theorem coexists_create_iff [SyncHashes] (call : SyncCall) :
    Coexists desk (.create call) ↔ Unshared desk (.create call) := by
  refine forall_congr' fun hnew => ?_
  rw [acceptedAlone_iff, createSync_new_iff hnew]
  exact ⟨fun h hsnapshot htakes => (h ⟨hsnapshot, htakes⟩).2.2,
    fun h hboth => ⟨hboth.1, hboth.2, h hboth.1 hboth.2⟩⟩

/-! ## When a result is recorded -/

omit [SyncReaders] in
theorem holdsKey_iff (id : Uuid) (row : MetricDailyFact) : desk.holdsKey id row = true ↔
    ∃ other ∈ desk.syncs, other.id ≠ id ∧
      row.key ∈ other.session.facts.map MetricDailyFact.key := by
  simp [SyncDesk.holdsKey]

theorem storable_iff (h : SyncDeskInvariant desk) (hentry : entry ∈ desk.syncs) (d : SyncDelivery)
    (executor : SyncExecutor) (result : AnalyticsFetchResult) :
    storable (desk.among entry.id d).database
        (finishedSession executor result (desk.load entry)) = true ↔
      (∀ row ∈ resultRows (desk.load entry) executor result, d.database.takesFact row = true) ∧
      ((resultRows (desk.load entry) executor result).map MetricDailyFact.key).Nodup ∧
      ∀ row ∈ resultRows (desk.load entry) executor result, ∀ other ∈ desk.syncs,
        row.key ∉ other.session.facts.map MetricDailyFact.key := by
  have hcommitted := h.committed entry hentry
  have hpending : (finishedSession executor result (desk.load entry)).pending =
      resultRows (desk.load entry) executor result := by
    show entry.session.pending ++ _ = _
    rw [hcommitted.pending, nil_append]
  have hfacts : (finishedSession executor result (desk.load entry)).facts = entry.session.facts := rfl
  unfold storable
  rw [hpending, hfacts, Bool.and_eq_true, all_eq_true, decide_eq_true_eq, map_append,
    nodup_append']
  constructor
  · rintro ⟨htaken, -, hdistinct, hdisjoint⟩
    refine ⟨fun row hrow => (Bool.and_eq_true_iff.mp (htaken row hrow)).1, hdistinct,
      fun row hrow other hother hkey => ?_⟩
    by_cases hid : other.id = entry.id
    · obtain rfl := h.keyed.eq_of_key_eq hother hentry hid
      exact hdisjoint hkey (mem_map_of_mem hrow)
    · have hfree := (Bool.and_eq_true_iff.mp (htaken row hrow)).2
      have hheld := (holdsKey_iff entry.id row).mpr ⟨other, hother, hid, hkey⟩
      rw [hheld] at hfree
      cases hfree
  · rintro ⟨hcolumns, hdistinct, hunused⟩
    refine ⟨fun row hrow => Bool.and_eq_true_iff.mpr ⟨hcolumns row hrow, ?_⟩, hcommitted.keys,
      hdistinct, fun key hkey hrow => ?_⟩
    · rw [Bool.not_eq_true', Bool.eq_false_iff]
      intro hheld
      obtain ⟨other, hother, -, hkey⟩ := (holdsKey_iff entry.id row).mp hheld
      exact hunused row hrow other hother hkey
    · obtain ⟨row, hmem, rfl⟩ := mem_map.mp hrow
      exact hunused row hmem entry hentry hkey

/-- A delivery whose executor breaks the session is rolled back. -/
theorem deliverSync_broken {s : SyncSession} {d : SyncDelivery} (hqueued : s.run.state = .queued)
    (hexecutor : d.executor = some executor) {e : Failure} {after : SyncSession}
    (hexecuted : execute d executor s = .error e after) (hbroken : after.broken = true) :
    deliverSync s d = s := by
  obtain ⟨failure, left, hrun⟩ := runSync_broken hqueued hexecutor hexecuted hbroken
  unfold deliverSync
  rw [hrun]

section

variable (h : SyncDeskInvariant desk)

include h

/-- A result that passes the checks is recorded exactly when nothing refuses its rows. -/
theorem succeeded_iff_freeRows (hentry : entry ∈ desk.syncs)
    (hqueued : entry.session.run.state = .queued) {d : SyncDelivery}
    (hpasses : Passes (desk.load entry) d executor result) :
    (deliverSync (desk.load entry) (desk.among entry.id d)).run.state = .succeeded ↔
      FreeRows desk (desk.load entry) d executor result := by
  have hloaded : (desk.load entry).run.state = .queued := hqueued
  have hkept : (desk.load entry).run.state ≠ .succeeded := by simp [hloaded]
  have hconfigured : (desk.among entry.id d).executor = some executor := hpasses.configured
  cases hcall : insertable d.database (newCall (desk.load entry) executor.callId result)
      (desk.load entry) with
  | false =>
    have hexecuted := execute_uncalled (d := desk.among entry.id d) hloaded hpasses.fetched
      hpasses.contract hcall
    rw [deliverSync_broken hloaded hconfigured hexecuted rfl]
    exact iff_of_false hkept fun hfree => by cases hcall.symm.trans hfree.call
  | true =>
    have hexecuted := execute_passes (d := desk.among entry.id d) hloaded hpasses.fetched
      hpasses.contract hpasses.facts hcall
    have hrows := storable_iff h hentry d executor result
    cases hstorable : storable (desk.among entry.id d).database
        (finishedSession executor result (desk.load entry)) with
    | false =>
      rw [deliverSync_broken hloaded hconfigured
        (hexecuted.trans (flushSync_error hstorable)) rfl]
      refine iff_of_false hkept fun hfree => ?_
      cases hstorable.symm.trans (hrows.mpr ⟨hfree.columns, hfree.distinct, hfree.unused⟩)
    | true =>
      have hrun := attempt_ok (hexecuted.trans (flushSync_ok hstorable)) (by
        simp [SyncSession.store, finishedSession, finishRun])
      rw [deliverSync_of_run ((runSync_queued hloaded hconfigured).trans hrun)]
      obtain ⟨hcolumns, hdistinct, hunused⟩ := hrows.mp hstorable
      exact iff_of_true rfl ⟨hcall, hcolumns, hdistinct, hunused⟩

theorem delivered_state (hentry : entry ∈ desk.syncs) (d : SyncDelivery) (state : JobState) :
    (∀ after ∈ (desk.deliver entry.id d).syncs, after.id = entry.id → after.session.run.state = state) ↔
      (deliverSync (desk.load entry) (desk.among entry.id d)).run.state = state := by
  have hfind : desk.syncs.find? (fun row => row.id = entry.id) = some entry := h.keyed.find?_eq hentry
  have hsame : (deliverSync (desk.load entry) (desk.among entry.id d)).run.id = entry.id :=
    deliverSync_sameRun _ _
  unfold SyncDesk.deliver
  rw [hfind]
  constructor
  · intro hafter
    refine hafter _ (mem_updateRow_of_mem hentry hsame.symm) hsame
  · intro hstate after hafter hid
    obtain ⟨found, -, ⟨-, rfl⟩ | ⟨hne, rfl⟩⟩ := mem_updateRow hafter
    · exact hstate
    · exact absurd (hid.trans hsame.symm) hne

theorem coexists_deliver_iff [SyncHashes] (id : Uuid) (d : SyncDelivery) :
    Coexists desk (.deliver id d) ↔ Unshared desk (.deliver id d) := by
  refine forall_congr' fun entry => forall_congr' fun hentry => forall_congr' fun hid =>
    forall_congr' fun hqueued => ?_
  subst hid
  rw [delivered_state h hentry]
  constructor
  · intro hends executor result hpasses
    exact (succeeded_iff_freeRows h hentry hqueued hpasses).mp (hends ⟨executor, result, hpasses⟩)
  · rintro hfree ⟨executor, result, hpasses⟩
    exact (succeeded_iff_freeRows h hentry hqueued hpasses).mpr (hfree executor result hpasses)

theorem coexists_iff [SyncHashes] (action : DeskAction) :
    Coexists desk action ↔ Unshared desk action := by
  cases action with
  | create call => exact coexists_create_iff call
  | deliver id d => exact coexists_deliver_iff h id d
  | command id call => exact Iff.rfl

end

/-- The syncs of a workspace coexist in the runs in which no request repeats the payload of an
earlier sync of its connection and no result repeats a stored fact, and in no others. -/
theorem syncs_coexist_iff [SyncHashes] (hsyncs : desk.syncs = []) (actions : List DeskAction) :
    Along stepSyncs Coexists desk actions ↔ Along stepSyncs Unshared desk actions := by
  have hinit : SyncDeskInvariant desk := by
    constructor
    · rw [hsyncs]
      exact nodup_nil
    · simp [hsyncs]
    · simp [hsyncs]
  exact along_iff_along_of_invariant stepSyncs (I := SyncDeskInvariant) (R := fun _ _ => True)
    (fun _ action h _ => coexists_iff h action)
    (fun _ action h _ _ => syncDeskInvariant_step h action) hinit
    (along_of_always stepSyncs (fun _ _ => trivial) desk actions)

end Steps

end Desks

section Samples

abbrev sampleSyncHashes : SyncHashes where
  requestHash data := toString data.dateFrom

attribute [local instance] sampleSyncReaders sampleSyncHashes

def sampleDesk : SyncDesk where
  connections := [{ id := 2, provider := "GHOST", officialContract := "ghost-admin", apiVersion := "5" }]
  definitions := [{
    id := 7
    key := "views"
    subject := .channel
    valueKind := "OBSERVED"
    sourceProvider := "GHOST"
    sourceField := "views"
    supportedDimensions := ["channel"] }]

def dayRequest (day : Int) (idempotencyKey : String) : SyncCall where
  actorId := 1
  data := {
    connectionId := 2
    metricDefinitionIds := [7]
    dateFrom := day
    dateTo := day
    dimensions := ["channel"]
    chosen := cons_ne_nil _ _
    valid_window := le_refl day }
  idempotencyKey := idempotencyKey
  takes := true

def factDelivery (externalFactId : String) : SyncDelivery :=
  sampleDelivery (.ok (sampleResult [channelFact externalFactId [("channel", .text "blog")]]))

/-- The rows of every delivery of `id` are free. -/
def freeTest (desk : SyncDesk) (id : Uuid) (d : SyncDelivery) : Bool :=
  d.executor.all fun executor => desk.syncs.all fun entry => decide (entry.id ≠ id) ||
    (fetchResult entry.session.snapshot executor).toOption.all fun result =>
      insertable d.database (newCall (desk.load entry) executor.callId result) (desk.load entry) &&
        rowsTaken d.database (resultRows (desk.load entry) executor result) &&
          (resultRows (desk.load entry) executor result).all fun row => desk.syncs.all fun other =>
            !(other.session.facts.map MetricDailyFact.key).contains row.key

theorem unshared_of_freeTest {desk : SyncDesk} {id : Uuid} {d : SyncDelivery}
    (h : freeTest desk id d = true) : Unshared desk (.deliver id d) := by
  intro entry hentry hid _ executor result hpasses
  unfold freeTest at h
  rw [hpasses.configured, Option.all_some] at h
  have htest := all_eq_true.mp h entry hentry
  have hfetched : fetchResult entry.session.snapshot executor = .ok result := hpasses.fetched
  rw [hfetched] at htest
  simp only [hid, ne_eq, not_true_eq_false, decide_false, Bool.false_or, Except.toOption,
    Option.all_some, Bool.and_eq_true, rowsTaken, all_eq_true, decide_eq_true_eq,
    Bool.not_eq_true', contains_eq_mem, decide_eq_false_iff_not] at htest
  obtain ⟨⟨hcall, hcolumns, hdistinct⟩, hunused⟩ := htest
  exact ⟨hcall, hcolumns, hdistinct, hunused⟩

/-- Two days are requested and recorded one after the other. -/
def separateSyncs : List DeskAction := [ .create (dayRequest 1 "first"), .deliver 0 (factDelivery "a"),
  .create (dayRequest 2 "second"), .deliver 1 (factDelivery "b")]

theorem syncs_coexist_sample : Along stepSyncs Coexists sampleDesk separateSyncs := by
  refine (syncs_coexist_iff rfl _).mpr ⟨fun _ _ _ => ?_, ?_, fun _ _ _ => ?_, ?_, trivial⟩
  · decide +kernel
  · exact unshared_of_freeTest (by decide +kernel)
  · decide +kernel
  · exact unshared_of_freeTest (by decide +kernel)

/-- A second request for the same day under another key is refused by the key of the snapshots. -/
theorem same_payload_refused_sync : ¬ Along stepSyncs Coexists sampleDesk
      [.create (dayRequest 1 "first"), .create (dayRequest 1 "second")] := by
  rintro ⟨-, hcoexists, -⟩
  have haccepted : AcceptedAlone (stepSyncs sampleDesk (.create (dayRequest 1 "first")))
      (dayRequest 1 "second") := by
    obtain ⟨after, hafter, -⟩ := ok_of_test (fun _ => true) (x := createSync
      { stepSyncs sampleDesk (.create (dayRequest 1 "first")) with syncs := [] }
        (dayRequest 1 "second")) (by decide +kernel)
    exact ⟨after, hafter⟩
  obtain ⟨after, hafter⟩ := hcoexists rfl haccepted
  have hrefused : (createSync (stepSyncs sampleDesk (.create (dayRequest 1 "first")))
      (dayRequest 1 "second")).toOption.isNone = true := by
    decide +kernel
  rw [hafter] at hrefused
  cases hrefused

end Samples

end BlogOps.Analytics
