import BlogOps.AnalyticsSyncs
import Mathlib.Data.List.Forall2

/-!
# What a delivery of an analytics sync leaves

A delivery that commits is to leave a call with all its facts, or nothing.  It does
so exactly when no result stops at a fact after its call was stored.
-/

namespace BlogOps.Analytics

open EffectRules Jobs TransitionRuns List

section Outcomes

variable [SyncReaders]

/-! ## The rows of a result -/

/-- The rows of the facts before the first that does not pass. -/
def validRows (snapshot : AnalyticsSyncInputSnapshot) (connectionId : Uuid)
    (call : AnalyticsProviderCall) : List AnalyticsFactValue → List MetricDailyFact
  | [] => []
  | fact :: rest =>
    match checkFact snapshot connectionId call fact with
    | .ok row => row :: validRows snapshot connectionId call rest
    | .error _ => []

/-- Every fact passes, and these are their rows. -/
def RowsOf (snapshot : AnalyticsSyncInputSnapshot) (connectionId : Uuid) (call : AnalyticsProviderCall)
    (facts : List AnalyticsFactValue) (rows : List MetricDailyFact) : Prop :=
  List.Forall₂ (fun fact row => checkFact snapshot connectionId call fact = .ok row) facts rows

def AllValid (snapshot : AnalyticsSyncInputSnapshot) (connectionId : Uuid)
    (call : AnalyticsProviderCall) (facts : List AnalyticsFactValue) : Prop :=
  ∀ fact ∈ facts, ∃ row, checkFact snapshot connectionId call fact = .ok row

section Rows

variable {snapshot : AnalyticsSyncInputSnapshot} {connectionId : Uuid}
  {call : AnalyticsProviderCall} {facts : List AnalyticsFactValue}

theorem rowsOf_validRows (h : AllValid snapshot connectionId call facts) :
    RowsOf snapshot connectionId call facts (validRows snapshot connectionId call facts) := by
  induction facts with
  | nil => exact .nil
  | cons fact rest ih =>
    obtain ⟨row, hrow⟩ := h fact mem_cons_self
    have hrest := ih fun other hother => h other (mem_cons_of_mem _ hother)
    rw [validRows, hrow]
    exact .cons hrow hrest

theorem checkFact_callId {fact : AnalyticsFactValue} {row : MetricDailyFact}
    (h : checkFact snapshot connectionId call fact = .ok row) : row.providerCallId = call.id := by
  obtain ⟨definition, _, h⟩ := bind_ok h
  obtain ⟨_, _, h⟩ := bind_ok h
  obtain ⟨_, _, h⟩ := bind_ok h
  obtain ⟨_, _, h⟩ := bind_ok h
  cases h
  rfl

theorem RowsOf.callId {rows : List MetricDailyFact} (h : RowsOf snapshot connectionId call facts rows) :
    ∀ row ∈ rows, row.providerCallId = call.id := by
  induction h with
  | nil => simp
  | cons hrow hrest ih =>
    intro row hmem
    rcases mem_cons.mp hmem with rfl | hmem
    · exact checkFact_callId hrow
    · exact ih row hmem

end Rows

section Flushes

variable {s : SyncSession} {database : SyncDatabase}

omit [SyncReaders] in
theorem flushSync_ok (h : storable database s = true) : flushSync database s = .ok () s.store := by
  unfold flushSync
  rw [bind_run_ok (get_run s), if_pos h]
  rfl

omit [SyncReaders] in
theorem flushSync_error (h : storable database s = false) :
    flushSync database s = .error (.integrity "analytics_daily_facts") { s with broken := true } := by
  unfold flushSync
  rw [bind_run_ok (get_run s), h, if_neg Bool.false_ne_true, bind_run_ok (modify_run _ s)]
  rfl

omit [SyncReaders] in
theorem flushSync_stored {t : SyncSession} (h : flushSync database s = .ok () t) :
    storable database s = true ∧ t = s.store := by
  cases hstorable : storable database s with
  | false => cases (flushSync_error hstorable).symm.trans h
  | true =>
    cases (flushSync_ok hstorable).symm.trans h
    exact ⟨rfl, rfl⟩

omit [SyncReaders] in
theorem store_of_pending (h : s.pending = []) : s.store = s := by
  unfold SyncSession.store
  rw [h, append_nil]
  cases s
  cases h
  rfl

omit [SyncReaders] in
/-- A flush without pending facts only needs the stored ones to have different keys. -/
theorem flushSync_idle (hpending : s.pending = [])
    (hkeys : (s.facts.map MetricDailyFact.key).Nodup) : flushSync database s = .ok () s := by
  have hstorable : storable database s = true := by
    simp [storable, hpending, hkeys]
  rw [flushSync_ok hstorable, store_of_pending hpending]

def addPending (rows : List MetricDailyFact) (s : SyncSession) : SyncSession :=
  { s with pending := s.pending ++ rows }

theorem recordFacts_run (call : AnalyticsProviderCall) (facts : List AnalyticsFactValue)
    (s : SyncSession) : let rows := validRows s.snapshot s.run.connectionId call facts
    (AllValid s.snapshot s.run.connectionId call facts →
      recordFacts call facts s = .ok () (addPending rows s)) ∧
    (¬ AllValid s.snapshot s.run.connectionId call facts →
      ∃ e, recordFacts call facts s = .error e (addPending rows s)) := by
  induction facts generalizing s with
  | nil =>
    refine ⟨fun _ => ?_, fun hinvalid => absurd (fun fact hfact => nomatch hfact) hinvalid⟩
    simp [recordFacts, validRows, addPending]
  | cons fact rest ih =>
    unfold recordFacts validRows
    dsimp only
    cases hfact : checkFact s.snapshot s.run.connectionId call fact with
    | error e =>
      refine ⟨fun hvalid => ?_, fun _ => ⟨e, ?_⟩⟩
      · obtain ⟨row, hrow⟩ := hvalid fact mem_cons_self
        cases hfact.symm.trans hrow
      · have hnone : addPending [] s = s := by simp [addPending]
        rw [bind_run_ok (get_run s), hfact, hnone]
        exact bind_run_error (throw_run e s) _
    | ok row =>
      have hstart : ∀ f : Unit → SyncM Unit, (get >>= fun s' : SyncSession =>
          liftResult (checkFact s'.snapshot s'.run.connectionId call fact) >>= fun row =>
            modify (fun s => { s with pending := s.pending ++ [row] }) >>= f) s =
          f () (addPending [row] s) := by
        intro f
        rw [bind_run_ok (get_run s), hfact]
        rfl
      have hall : AllValid s.snapshot s.run.connectionId call (fact :: rest) ↔
          AllValid s.snapshot s.run.connectionId call rest := by
        constructor
        · exact fun h other hother => h other (mem_cons_of_mem _ hother)
        · intro h other hother
          rcases mem_cons.mp hother with rfl | hother
          · exact ⟨row, hfact⟩
          · exact h other hother
      have hadd : addPending (row :: validRows s.snapshot s.run.connectionId call rest) s =
          addPending (validRows s.snapshot s.run.connectionId call rest) (addPending [row] s) := by
        simp [addPending]
      rw [hall, hadd]
      refine ⟨fun hvalid => ?_, fun hinvalid => ?_⟩
      · exact (hstart _).trans ((ih (addPending [row] s)).1 hvalid)
      · obtain ⟨e, he⟩ := (ih (addPending [row] s)).2 hinvalid
        exact ⟨e, (hstart _).trans he⟩

end Flushes

/-! ## How a delivery ends -/

/-- Between deliveries nothing is pending and the session is usable. -/
structure Quiet (s : SyncSession) : Prop where
  pending : s.pending = []
  usable : s.broken = false

/-- A run that waits: nothing has been recorded for it. -/
structure Waiting (s : SyncSession) : Prop extends Quiet s where
  queued : s.run.state = .queued
  calls : s.calls = []
  facts : s.facts = []

/-- The result reaches the tables of the run. -/
structure Records (s : SyncSession) (d : SyncDelivery) (executor : SyncExecutor)
    (result : AnalyticsFetchResult) : Prop where
  configured : d.executor = some executor
  fetched : fetchResult s.snapshot executor = .ok result
  contract : checkContract s.snapshot result = .ok ()
  call : insertable d.database (newCall s executor.callId result) s = true

def resultRows (s : SyncSession) (executor : SyncExecutor) (result : AnalyticsFetchResult) :
    List MetricDailyFact :=
  validRows s.snapshot s.run.connectionId (newCall s executor.callId result) result.facts

def ResultValid (s : SyncSession) (executor : SyncExecutor) (result : AnalyticsFetchResult) : Prop :=
  AllValid s.snapshot s.run.connectionId (newCall s executor.callId result) result.facts

/-- The database takes the rows, and their keys differ. -/
def rowsTaken (database : SyncDatabase) (rows : List MetricDailyFact) : Bool :=
  rows.all database.takesFact && decide (rows.map MetricDailyFact.key).Nodup

/-- The session with the call of the result and the rows of its valid part. -/
def recordedSession (executor : SyncExecutor) (result : AnalyticsFetchResult) (s : SyncSession) :
    SyncSession :=
  { s with
    calls := [newCall s executor.callId result]
    facts := resultRows s executor result }

/-- The run failed and keeps nothing of the attempt. -/
structure FailedEmpty (after : SyncSession) : Prop extends Quiet after where
  state : after.run.state = .retryableFailed ∨ after.run.state = .finalFailed
  calls : after.calls = []
  facts : after.facts = []

inductive SyncEnd (s : SyncSession) (d : SyncDelivery) : Prop
  | failed (after : SyncSession) (hunrecorded : ∀ executor result, ¬ Records s d executor result)
      (hrun : runSync d s = .ok () after) (hfailed : FailedEmpty after)
  | recorded (executor : SyncExecutor) (result : AnalyticsFetchResult)
      (hrecords : Records s d executor result) (hvalid : ResultValid s executor result)
      (htaken : rowsTaken d.database (resultRows s executor result) = true)
      (hrun : runSync d s = .ok () (finishRun (newCall s executor.callId result) result
        (recordedSession executor result s)))
  | stopped (executor : SyncExecutor) (result : AnalyticsFetchResult)
      (hrecords : Records s d executor result) (hinvalid : ¬ ResultValid s executor result)
      (htaken : rowsTaken d.database (resultRows s executor result) = true) (code detail : String)
      (retryable : Bool)
      (hrun : runSync d s = .ok () (failRun d code detail retryable (recordedSession executor result s)))
  | rolledBack (hrun : ∃ e after, runSync d s = .error e after)
      (huntaken : ∀ executor result, Records s d executor result →
        rowsTaken d.database (resultRows s executor result) = false)

variable {executor : SyncExecutor} {after : SyncSession} {result : AnalyticsFetchResult}

section Ends

variable {s : SyncSession} {d : SyncDelivery}

omit [SyncReaders] in
theorem finalize_idle (h : s.run.state ≠ .cancelRequested) (d : SyncDelivery) :
    finalizeSyncCancellation d s = .ok () s := by
  unfold finalizeSyncCancellation
  rw [bind_run_ok (get_run s), if_neg h]
  rfl

omit [SyncReaders] in
theorem failSyncRuntime_open (husable : s.broken = false) (hqueued : s.run.state = .queued)
    (code detail : String) (retryable : Bool) : failSyncRuntime d code detail retryable s =
      flushSync d.database (failRun d code detail retryable s) := by
  unfold failSyncRuntime
  rw [bind_run_ok (get_run s), husable, if_neg Bool.false_ne_true, hqueued, if_neg (by simp),
    if_neg (by decide), bind_run_ok (modify_run _ s)]

omit [SyncReaders] in
theorem failSyncRuntime_broken (hbroken : s.broken = true) (code detail : String) (retryable : Bool) :
    failSyncRuntime d code detail retryable s = .error (.integrity "PendingRollbackError") s := by
  unfold failSyncRuntime
  rw [bind_run_ok (get_run s), if_pos hbroken]
  rfl

omit [SyncReaders] in
theorem failSyncRuntime_waiting (h : Waiting s) (code detail : String) (retryable : Bool) :
    failSyncRuntime d code detail retryable s = .ok () (failRun d code detail retryable s) := by
  rw [failSyncRuntime_open h.usable h.queued]
  exact flushSync_idle h.pending (by simp [failRun, h.facts])

omit [SyncReaders] in
theorem failedEmpty_failRun (h : Waiting s) (d : SyncDelivery) (code detail : String) (retryable : Bool) :
    FailedEmpty (failRun d code detail retryable s) where
  pending := h.pending
  usable := h.usable
  state := by cases retryable <;> simp [failRun]
  calls := h.calls
  facts := h.facts

theorem runSync_queued (hqueued : s.run.state = .queued) (hexecutor : d.executor = some executor) :
    runSync d s = attempt d executor s := by
  have hidle : s.run.state ≠ .cancelRequested := by simp [hqueued]
  have hopen : ¬ s.run.state ∈ completedAttemptStates := by rw [hqueued]; decide
  unfold runSync
  rw [bind_run_ok (finalize_idle hidle d), bind_run_ok (get_run s), if_neg hopen, hexecutor]

theorem runSync_unconfigured (hqueued : s.run.state = .queued) (hexecutor : d.executor = none) :
    runSync d s = recordMissingRuntime d s := by
  have hidle : s.run.state ≠ .cancelRequested := by simp [hqueued]
  have hopen : ¬ s.run.state ∈ completedAttemptStates := by rw [hqueued]; decide
  unfold runSync
  rw [bind_run_ok (finalize_idle hidle d), bind_run_ok (get_run s), if_neg hopen, hexecutor]

theorem attempt_ok (h : execute d executor s = .ok () after)
    (hidle : after.run.state ≠ .cancelRequested) : attempt d executor s = .ok () after := by
  have hexecuted : (execute d executor >>= fun _ => pure true) s = .ok true after := by
    rw [bind_run_ok h]
    rfl
  unfold attempt
  rw [bind_run_ok (tryCatch_run_ok hexecuted _), if_pos rfl]
  exact finalize_idle hidle d

variable {e : Failure}

theorem attempt_error (h : execute d executor s = .error e after) :
    attempt d executor s = recordFailure d e after := by
  have hexecuted : (execute d executor >>= fun _ => pure true) s = .error e after := by
    exact bind_run_error h _
  unfold attempt
  cases hrecord : recordFailure d e after with
  | ok u t =>
    have hhandled : (tryCatch (execute d executor >>= fun _ => pure true) fun failure =>
        recordFailure d failure >>= fun _ => pure false) s = .ok false t := by
      rw [tryCatch_run_error hexecuted, bind_run_ok hrecord]
      rfl
    rw [bind_run_ok hhandled, if_neg Bool.false_ne_true]
    rfl
  | error e' t =>
    have hhandled : (tryCatch (execute d executor >>= fun _ => pure true) fun failure =>
        recordFailure d failure >>= fun _ => pure false) s = .error e' t := by
      rw [tryCatch_run_error hexecuted]
      exact bind_run_error hrecord _
    exact bind_run_error hhandled _

theorem execute_waiting (executor : SyncExecutor) (hfetched : fetchResult s.snapshot executor = .ok result) :
    execute d executor s = recordProviderResult d executor.callId result s := by
  unfold execute
  rw [bind_run_ok (get_run s), hfetched]
  exact bind_run_ok (a := result) rfl _

theorem execute_unfetched (executor : SyncExecutor)
    (hfetched : fetchResult s.snapshot executor = .error e) : execute d executor s = .error e s := by
  unfold execute
  rw [bind_run_ok (get_run s), hfetched]
  exact bind_run_error (throw_run e s) _

theorem recordProviderResult_queued (hqueued : s.run.state = .queued) (callId : Uuid)
    (result : AnalyticsFetchResult) : recordProviderResult d callId result s = (do
      liftResult (checkContract s.snapshot result)
      addCall d.database (newCall s callId result)
      recordFacts (newCall s callId result) result.facts
      modify (finishRun (newCall s callId result) result)
      flushSync d.database) s := by
  unfold recordProviderResult
  rw [bind_run_ok (get_run s), hqueued, if_neg (by simp), if_neg (by simp)]

/-- The session with the call, and the rows of the valid part still pending. -/
def pendingSession (executor : SyncExecutor) (result : AnalyticsFetchResult) (s : SyncSession) :
    SyncSession :=
  addPending (resultRows s executor result) { s with calls := [newCall s executor.callId result] }

omit [SyncReaders] in
theorem addCall_ok {call : AnalyticsProviderCall} (hcall : insertable d.database call s = true) :
    addCall d.database call s = .ok () { s with calls := s.calls ++ [call] } := by
  unfold addCall
  rw [bind_run_ok (get_run s), if_pos hcall, modify_run]

omit [SyncReaders] in
theorem addCall_error {call : AnalyticsProviderCall} (hcall : insertable d.database call s = false) :
    addCall d.database call s = .error (.integrity "analytics_call_request")
      { s with broken := true } := by
  unfold addCall
  rw [bind_run_ok (get_run s), hcall, if_neg Bool.false_ne_true, bind_run_ok (modify_run _ s)]
  rfl

/-- With its call stored, a result runs through its facts. -/
theorem execute_records (h : Waiting s) (hrecords : Records s d executor result) : execute d executor s = (do
      recordFacts (newCall s executor.callId result) result.facts
      modify (finishRun (newCall s executor.callId result) result)
      flushSync d.database) { s with calls := [newCall s executor.callId result] } := by
  have hcontract : (liftResult (checkContract s.snapshot result)) s = .ok () s := by
    rw [hrecords.contract]
    rfl
  have hcall := addCall_ok hrecords.call
  rw [h.calls, nil_append] at hcall
  rw [execute_waiting executor hrecords.fetched, recordProviderResult_queued h.queued,
    bind_run_ok hcontract, bind_run_ok hcall]

section

variable (h : Waiting s) (executor : SyncExecutor) (result : AnalyticsFetchResult)

include h

theorem storable_pending (hpending : after.pending = (pendingSession executor result s).pending)
    (hfacts : after.facts = s.facts) :
    storable d.database after = rowsTaken d.database (resultRows s executor result) := by
  unfold storable rowsTaken
  rw [hpending, hfacts, h.facts]
  simp [pendingSession, addPending, h.pending]

theorem store_finished :
    (finishRun (newCall s executor.callId result) result (pendingSession executor result s)).store =
      finishRun (newCall s executor.callId result) result (recordedSession executor result s) := by
  simp [SyncSession.store, finishRun, pendingSession, addPending, recordedSession, h.facts, h.pending]

theorem store_stopped (code detail : String) (retryable : Bool) :
    (failRun d code detail retryable (pendingSession executor result s)).store =
      failRun d code detail retryable (recordedSession executor result s) := by
  simp [SyncSession.store, failRun, pendingSession, addPending, recordedSession, h.facts, h.pending]

end

/-- A failed flush breaks the session, and the failure cannot be recorded. -/
theorem runSync_broken (hqueued : s.run.state = .queued) (hexecutor : d.executor = some executor)
    (hexecuted : execute d executor s = .error e after) (hbroken : after.broken = true) :
    ∃ e after, runSync d s = .error e after := by
  refine ⟨.integrity "PendingRollbackError", after, ?_⟩
  rw [runSync_queued hqueued hexecutor, attempt_error hexecuted]
  exact failSyncRuntime_broken hbroken _ _ _

theorem Records.unique {other : SyncExecutor} {found : AnalyticsFetchResult} (h : Records s d executor result)
    (hother : Records s d other found) : other = executor ∧ found = result := by
  have hsame : other = executor := Option.some.inj (hother.configured.symm.trans h.configured)
  subst hsame
  exact ⟨rfl, Except.ok.inj (hother.fetched.symm.trans h.fetched)⟩

section

variable (h : Waiting s)

include h

theorem syncEnd_valid (hrecords : Records s d executor result)
    (hvalid : ResultValid s executor result) : SyncEnd s d := by
  have hfacts : recordFacts (newCall s executor.callId result) result.facts
      { s with calls := [newCall s executor.callId result] } =
        .ok () (pendingSession executor result s) := (recordFacts_run _ _ _).1 hvalid
  have hexecuted : execute d executor s = flushSync d.database
      (finishRun (newCall s executor.callId result) result (pendingSession executor result s)) := by
    rw [execute_records h hrecords, bind_run_ok hfacts, bind_run_ok (modify_run _ _)]
  have hstorable : storable d.database
      (finishRun (newCall s executor.callId result) result (pendingSession executor result s)) =
        rowsTaken d.database (resultRows s executor result) :=
    storable_pending h executor result rfl rfl
  cases htaken : rowsTaken d.database (resultRows s executor result) with
  | true =>
    have hflushed := hexecuted.trans (flushSync_ok (hstorable.trans htaken))
    rw [store_finished h] at hflushed
    refine .recorded executor result hrecords hvalid htaken ?_
    rw [runSync_queued h.queued hrecords.configured]
    exact attempt_ok hflushed (by simp [finishRun])
  | false =>
    have hflushed := hexecuted.trans (flushSync_error (hstorable.trans htaken))
    refine .rolledBack (runSync_broken h.queued hrecords.configured hflushed rfl) fun other found hother => ?_
    obtain ⟨rfl, rfl⟩ := hrecords.unique hother
    exact htaken

theorem syncEnd_invalid (hrecords : Records s d executor result)
    (hinvalid : ¬ ResultValid s executor result) : SyncEnd s d := by
  obtain ⟨e, hfacts⟩ : ∃ e, recordFacts (newCall s executor.callId result) result.facts
      { s with calls := [newCall s executor.callId result] } =
        .error e (pendingSession executor result s) := (recordFacts_run _ _ _).2 hinvalid
  have hexecuted : execute d executor s = .error e (pendingSession executor result s) := by
    rw [execute_records h hrecords]
    exact bind_run_error hfacts _
  have hrun : runSync d s = flushSync d.database (failRun d (failureCode e) (failureDetail e)
      (isRetryableRuntimeError e) (pendingSession executor result s)) := by
    have husable : (pendingSession executor result s).broken = false := h.usable
    have hqueued : (pendingSession executor result s).run.state = .queued := h.queued
    rw [runSync_queued h.queued hrecords.configured, attempt_error hexecuted]
    exact failSyncRuntime_open husable hqueued _ _ _
  have hstorable : storable d.database (failRun d (failureCode e) (failureDetail e)
      (isRetryableRuntimeError e) (pendingSession executor result s)) =
        rowsTaken d.database (resultRows s executor result) :=
    storable_pending h executor result rfl rfl
  cases htaken : rowsTaken d.database (resultRows s executor result) with
  | true =>
    have hflushed := hrun.trans (flushSync_ok (hstorable.trans htaken))
    rw [store_stopped h] at hflushed
    exact .stopped executor result hrecords hinvalid htaken _ _ _ hflushed
  | false =>
    have hflushed := hrun.trans (flushSync_error (hstorable.trans htaken))
    refine .rolledBack ⟨_, _, hflushed⟩ fun other found hother => ?_
    obtain ⟨rfl, rfl⟩ := hrecords.unique hother
    exact htaken

/-- An executor that raises before it records anything leaves a failed run. -/
theorem syncEnd_raised (hexecutor : d.executor = some executor)
    (hexecuted : execute d executor s = .error e s)
    (hunrecorded : ∀ executor result, ¬ Records s d executor result) : SyncEnd s d := by
  refine .failed _ hunrecorded ?_ (failedEmpty_failRun h d (failureCode e)
    (failureDetail e) (isRetryableRuntimeError e))
  rw [runSync_queued h.queued hexecutor, attempt_error hexecuted]
  exact failSyncRuntime_waiting h _ _ _

theorem syncEnd_fetched (hexecutor : d.executor = some executor)
    (hfetched : fetchResult s.snapshot executor = .ok result) : SyncEnd s d := by
  have hexecute : execute d executor s = _ :=
    (execute_waiting executor hfetched).trans (recordProviderResult_queued h.queued executor.callId result)
  cases hcontract : checkContract s.snapshot result with
  | error e =>
    refine syncEnd_raised h hexecutor (e := e) ?_ ?_
    · rw [hexecute, hcontract]
      exact bind_run_error (throw_run e s) _
    · rintro other found hrecords
      cases hexecutor.symm.trans hrecords.configured
      cases hfetched.symm.trans hrecords.fetched
      cases hcontract.symm.trans hrecords.contract
  | ok u =>
    cases hcall : insertable d.database (newCall s executor.callId result) s with
    | false =>
      have hexecuted : execute d executor s = .error (.integrity "analytics_call_request")
          { s with broken := true } := by
        have hchecked : liftResult (checkContract s.snapshot result) s = .ok () s := by
          rw [hcontract]
          rfl
        rw [hexecute, bind_run_ok hchecked]
        exact bind_run_error (addCall_error hcall) _
      refine .rolledBack (runSync_broken h.queued hexecutor hexecuted rfl) fun other found hrecords => ?_
      cases hexecutor.symm.trans hrecords.configured
      cases hfetched.symm.trans hrecords.fetched
      cases hcall.symm.trans hrecords.call
    | true =>
      have hrecords : Records s d executor result := ⟨hexecutor, hfetched, hcontract, hcall⟩
      by_cases hvalid : ResultValid s executor result
      · exact syncEnd_valid h hrecords hvalid
      · exact syncEnd_invalid h hrecords hvalid

theorem syncEnd_of_waiting (d : SyncDelivery) : SyncEnd s d := by
  cases hexecutor : d.executor with
  | none =>
    refine .failed _ ?_ ?_ (failedEmpty_failRun h d "ANALYTICS_RUNTIME_UNAVAILABLE"
      "official analytics adapter runtime is not configured" true)
    · rintro executor result hrecords
      cases hexecutor.symm.trans hrecords.configured
    · rw [runSync_unconfigured h.queued hexecutor]
      exact failSyncRuntime_waiting h _ _ _
  | some executor =>
    cases hfetched : fetchResult s.snapshot executor with
    | error e =>
      refine syncEnd_raised h hexecutor (execute_unfetched executor hfetched) ?_
      rintro other found hrecords
      cases hexecutor.symm.trans hrecords.configured
      cases hfetched.symm.trans hrecords.fetched
    | ok result => exact syncEnd_fetched h hexecutor hfetched

end

end Ends

/-! ## All or nothing -/

/-- A call with all its facts, or a run that keeps nothing. -/
inductive AllOrNothing (s : SyncSession) : Prop
  | succeeded (call : AnalyticsProviderCall) (state : s.run.state = .succeeded)
      (calls : s.calls = [call]) (named : ∀ fact ∈ s.facts, fact.providerCallId = call.id)
      (count : s.facts.length = call.rowCount)
  | nothing (state : s.run.state ∈ [.retryableFailed, .finalFailed, .cancelled])
      (calls : s.calls = []) (facts : s.facts = [])

/-- The delivery brings a result that passes every check and that the database takes. -/
def ResultGood (s : SyncSession) (d : SyncDelivery) : Prop :=
  ∃ executor result, d.executor = some executor ∧ fetchResult s.snapshot executor = .ok result ∧
    checkContract s.snapshot result = .ok () ∧
      d.database.takesCall (newCall s executor.callId result) = true ∧ ResultValid s executor result ∧
          rowsTaken d.database (resultRows s executor result) = true

structure KeepsWhole (s : SyncSession) (d : SyncDelivery) : Prop where
  whole : Commits s d → AllOrNothing (deliverSync s d)
  rows : s.run.state = .queued → (deliverSync s d).run.state = .succeeded →
    ∃ executor result, d.executor = some executor ∧ fetchResult s.snapshot executor = .ok result ∧
      RowsOf s.snapshot s.run.connectionId (newCall s executor.callId result) result.facts
        (deliverSync s d).facts
  finishes : s.run.state = .queued → ResultGood s d → (deliverSync s d).run.state = .succeeded

def DeliversWhole (s : SyncSession) : SyncAction → Prop
  | .deliver d => KeepsWhole s d
  | .command _ => True

/-- A result whose call is stored, and the rows of whose valid part the database takes, is valid. -/
def StopsNowhere (s : SyncSession) : SyncAction → Prop
  | .deliver d => s.run.state = .queued → ∀ executor result, Records s d executor result →
      rowsTaken d.database (resultRows s executor result) = true → ResultValid s executor result
  | .command _ => True

/-- A run between two actions: it waits or is to be cancelled with nothing recorded, or it is over. -/
inductive Settled (s : SyncSession) : Prop
  | waiting (h : Waiting s)
  | cancelling (quiet : Quiet s) (state : s.run.state = .cancelRequested) (calls : s.calls = [])
      (facts : s.facts = [])
  | finished (quiet : Quiet s) (h : AllOrNothing s)

section Deliveries

variable {s : SyncSession} {d : SyncDelivery}

omit [SyncReaders] in
theorem AllOrNothing.completed (h : AllOrNothing s) : s.run.state ∈ completedAttemptStates := by
  cases h with
  | succeeded call state => rw [state]; decide
  | nothing state =>
    simp only [mem_cons, not_mem_nil, or_false] at state
    rcases state with state | state | state <;> rw [state] <;> decide

theorem deliverSync_of_run (h : runSync d s = .ok () after) : deliverSync s d = after := by
  unfold deliverSync
  rw [h]

theorem runSync_completed (h : s.run.state ∈ completedAttemptStates) (d : SyncDelivery) :
    runSync d s = .ok () s := by
  have hidle : s.run.state ≠ .cancelRequested := by
    intro hstate
    rw [hstate] at h
    exact absurd h (by decide)
  unfold runSync
  rw [bind_run_ok (finalize_idle hidle d), bind_run_ok (get_run s), if_pos h]
  rfl

theorem runSync_cancelling (hquiet : Quiet s) (hstate : s.run.state = .cancelRequested)
    (hkeys : (s.facts.map MetricDailyFact.key).Nodup) (d : SyncDelivery) :
    runSync d s = .ok () (cancelRun d.now s) := by
  have hpending : (cancelRun d.now s).pending = [] := hquiet.pending
  have hflushed : flushSync d.database (cancelRun d.now s) = .ok () (cancelRun d.now s) :=
    flushSync_idle hpending hkeys
  have hfinalized : finalizeSyncCancellation d s = .ok () (cancelRun d.now s) := by
    unfold finalizeSyncCancellation
    rw [bind_run_ok (get_run s), if_pos hstate, bind_run_ok (modify_run _ s), hflushed]
  have hcompleted : (cancelRun d.now s).run.state ∈ completedAttemptStates := by
    simp [cancelRun, AnalyticsSyncRun.cancel, completedAttemptStates]
  unfold runSync
  rw [bind_run_ok hfinalized, bind_run_ok (get_run _), if_pos hcompleted]
  rfl

omit [SyncReaders] in
theorem FailedEmpty.allOrNothing (h : FailedEmpty after) : AllOrNothing after := by
  refine .nothing ?_ h.calls h.facts
  rcases h.state with hstate | hstate <;> rw [hstate] <;> decide

theorem allOrNothing_recorded (hvalid : ResultValid s executor result) :
    AllOrNothing (finishRun (newCall s executor.callId result) result
      (recordedSession executor result s)) := by
  have hrows : RowsOf s.snapshot s.run.connectionId (newCall s executor.callId result) result.facts
      (resultRows s executor result) := rowsOf_validRows hvalid
  exact .succeeded (newCall s executor.callId result) rfl rfl hrows.callId hrows.length_eq.symm

omit [SyncReaders] in
theorem not_allOrNothing_failRun (code detail : String) (retryable : Bool)
    (hcalls : s.calls ≠ []) : ¬ AllOrNothing (failRun d code detail retryable s) := by
  intro h
  cases h with
  | succeeded call state => cases retryable <;> simp [failRun] at state
  | nothing state calls => exact hcalls calls

theorem keepsWhole_of_over (h : AllOrNothing s) (d : SyncDelivery) : KeepsWhole s d := by
  have hopen : s.run.state ≠ .queued := by
    intro hstate
    have hcompleted := h.completed
    rw [hstate] at hcompleted
    exact absurd hcompleted (by decide)
  refine ⟨fun _ => ?_, fun hqueued => absurd hqueued hopen, fun hqueued => absurd hqueued hopen⟩
  rw [deliverSync_of_run (runSync_completed h.completed d)]
  exact h

theorem keepsWhole_of_cancelling (hquiet : Quiet s) (hstate : s.run.state = .cancelRequested)
    (hcalls : s.calls = []) (hfacts : s.facts = []) (d : SyncDelivery) : KeepsWhole s d := by
  have hopen : s.run.state ≠ .queued := by simp [hstate]
  refine ⟨fun _ => ?_, fun hqueued => absurd hqueued hopen, fun hqueued => absurd hqueued hopen⟩
  rw [deliverSync_of_run (runSync_cancelling hquiet hstate (by simp [hfacts]) d)]
  exact .nothing (by simp [cancelRun, AnalyticsSyncRun.cancel]) hcalls hfacts

theorem ResultGood.records (h : ResultGood s d) (hwaiting : Waiting s) :
    ∃ executor result, Records s d executor result ∧ ResultValid s executor result ∧
      rowsTaken d.database (resultRows s executor result) = true := by
  obtain ⟨executor, result, hconfigured, hfetched, hcontract, hcall, hvalid, htaken⟩ := h
  refine ⟨executor, result, ⟨hconfigured, hfetched, hcontract, ?_⟩, hvalid, htaken⟩
  simp [insertable, hcall, hwaiting.calls]

theorem keepsWhole_iff (h : Waiting s) (d : SyncDelivery) : KeepsWhole s d ↔ StopsNowhere s (.deliver d) := by
  cases syncEnd_of_waiting h d with
  | failed after hunrecorded hrun hfailed =>
    refine iff_of_true ⟨fun _ => ?_, fun _ hstate => ?_, fun _ hgood => ?_⟩
      fun _ executor result hrecords => absurd hrecords (hunrecorded executor result)
    · rw [deliverSync_of_run hrun]
      exact hfailed.allOrNothing
    · rw [deliverSync_of_run hrun] at hstate
      rcases hfailed.state with hfailedState | hfailedState <;> cases hstate.symm.trans hfailedState
    · obtain ⟨executor, result, hrecords, -⟩ := hgood.records h
      exact absurd hrecords (hunrecorded executor result)
  | recorded executor result hrecords hvalid htaken hrun =>
    refine iff_of_true ⟨fun _ => ?_, fun _ _ => ?_, fun _ _ => ?_⟩ fun _ other found hother _ => ?_
    · rw [deliverSync_of_run hrun]
      exact allOrNothing_recorded hvalid
    · rw [deliverSync_of_run hrun]
      exact ⟨executor, result, hrecords.configured, hrecords.fetched, rowsOf_validRows hvalid⟩
    · rw [deliverSync_of_run hrun]
      rfl
    · obtain ⟨rfl, rfl⟩ := hrecords.unique hother
      exact hvalid
  | stopped executor result hrecords hinvalid htaken code detail retryable hrun =>
    refine iff_of_false (fun hwhole => ?_) fun hstops =>
      hinvalid (hstops h.queued executor result hrecords htaken)
    have hall := hwhole.whole ⟨_, hrun⟩
    rw [deliverSync_of_run hrun] at hall
    exact not_allOrNothing_failRun code detail retryable (cons_ne_nil _ _) hall
  | rolledBack hrun huntaken =>
    obtain ⟨e, after, hrun⟩ := hrun
    have hsame : deliverSync s d = s := by
      unfold deliverSync
      rw [hrun]
    refine iff_of_true ⟨?_, fun _ hstate => ?_, fun _ hgood => ?_⟩ fun _ executor result hrecords htaken => ?_
    · rintro ⟨committed, hcommitted⟩
      cases hrun.symm.trans hcommitted
    · rw [hsame, h.queued] at hstate
      cases hstate
    · obtain ⟨executor, result, hrecords, -, htaken⟩ := hgood.records h
      cases htaken.symm.trans (huntaken executor result hrecords)
    · cases htaken.symm.trans (huntaken executor result hrecords)

theorem deliversWhole_iff (h : Settled s) (action : SyncAction) :
    DeliversWhole s action ↔ StopsNowhere s action := by
  cases action with
  | command call => exact Iff.rfl
  | deliver d =>
    cases h with
    | waiting h => exact keepsWhole_iff h d
    | cancelling quiet state calls facts =>
      exact iff_of_true (keepsWhole_of_cancelling quiet state calls facts d)
        fun hqueued => absurd (state.symm.trans hqueued) (by simp)
    | finished quiet h =>
      refine iff_of_true (keepsWhole_of_over h d) fun hqueued => ?_
      have hcompleted := h.completed
      rw [hqueued] at hcompleted
      exact absurd hcompleted (by decide)

theorem settled_deliver (h : Settled s) {d : SyncDelivery}
    (hstops : StopsNowhere s (.deliver d)) : Settled (deliverSync s d) := by
  cases h with
  | waiting h =>
    cases syncEnd_of_waiting h d with
    | failed after hunrecorded hrun hfailed =>
      rw [deliverSync_of_run hrun]
      exact .finished hfailed.toQuiet hfailed.allOrNothing
    | recorded executor result hrecords hvalid htaken hrun =>
      rw [deliverSync_of_run hrun]
      exact .finished ⟨h.pending, h.usable⟩ (allOrNothing_recorded hvalid)
    | stopped executor result hrecords hinvalid htaken code detail retryable hrun =>
      exact absurd (hstops h.queued executor result hrecords htaken) hinvalid
    | rolledBack hrun huntaken =>
      obtain ⟨e, after, hrun⟩ := hrun
      unfold deliverSync
      rw [hrun]
      exact .waiting h
  | cancelling quiet state calls facts =>
    rw [deliverSync_of_run (runSync_cancelling quiet state (by simp [facts]) d)]
    exact .finished ⟨quiet.pending, quiet.usable⟩
      (.nothing (by simp [cancelRun, AnalyticsSyncRun.cancel]) calls facts)
  | finished quiet h =>
    rw [deliverSync_of_run (runSync_completed h.completed d)]
    exact .finished quiet h

omit [SyncReaders] in
/-- A command leaves the run as it is, or moves one that keeps nothing. -/
theorem settled_command (h : Settled s) {call : CommandCall}
    (hcommand : commandSync s call = .ok after) : Settled after := by
  unfold commandSync at hcommand
  split at hcommand
  · obtain ⟨_, _, hcommand⟩ := bind_ok hcommand
    cases hcommand
    exact h
  · obtain ⟨_, hallowed, hcommand⟩ := bind_ok hcommand
    cases hcommand
    have htransition : commandTarget call.command ∈ allowedJobTransitions s.run.state := by
      cases hensure : ensureJobTransition s.run.state (commandTarget call.command) with
      | error e => rw [hensure] at hallowed; cases hallowed
      | ok u => exact (ensureJobTransition_ok_iff _ _).mp hensure
    have hempty : Quiet s ∧ s.calls = [] ∧ s.facts = [] := by
      cases h with
      | waiting h => exact ⟨h.toQuiet, h.calls, h.facts⟩
      | cancelling quiet state calls facts => exact ⟨quiet, calls, facts⟩
      | finished quiet h =>
        cases h with
        | succeeded found state =>
          rw [state] at htransition
          cases htransition
        | nothing state calls facts => exact ⟨quiet, calls, facts⟩
    obtain ⟨hquiet, hcalls, hfacts⟩ := hempty
    cases hkind : call.command with
    | cancel => exact .cancelling ⟨hquiet.pending, hquiet.usable⟩ rfl hcalls hfacts
    | retry =>
      exact .waiting {
        pending := hquiet.pending
        usable := hquiet.usable
        queued := rfl
        calls := hcalls
        facts := hfacts }

theorem settled_step (h : Settled s) {action : SyncAction} (hstops : StopsNowhere s action) :
    Settled (stepSync s action) := by
  cases action with
  | deliver d => exact settled_deliver h hstops
  | command call =>
    have hstep : stepSync s (.command call) = ((commandSync s call).toOption).getD s := rfl
    rw [hstep]
    cases hcommand : commandSync s call with
    | error e => exact h
    | ok after => exact settled_command h hcommand

/-- In the runs none of whose results stop at a fact after their call was stored, and in no others,
every committed delivery is all or nothing, and a good result is recorded after every retry. -/
theorem delivers_whole_iff (hs : Waiting s) (actions : List SyncAction) :
    Along stepSync DeliversWhole s actions ↔ Along stepSync StopsNowhere s actions :=
  along_iff_along_of_invariant stepSync (I := Settled) (R := fun _ _ => True)
    (fun _ action h _ => deliversWhole_iff h action) (fun _ _ h _ hstops => settled_step h hstops)
    (.waiting hs) (along_of_always stepSync (fun _ _ => trivial) s actions)

end Deliveries

end Outcomes

section Samples

abbrev sampleSyncReaders : SyncReaders where
  uuid text := text.toNat?
  dimensionsHash _ := some ""
  queryHash query := query
  evidenceHash rawResponseHash externalFactId := rawResponseHash ++ externalFactId
  callRequestHash _ adapterName _ _ := adapterName

attribute [local instance] sampleSyncReaders

theorem stopsNowhere_of_test {s : SyncSession} {d : SyncDelivery}
    (h : (d.executor.all fun executor =>
      (fetchResult s.snapshot executor).toOption.all fun result => result.facts.all fun fact =>
        (checkFact s.snapshot s.run.connectionId (newCall s executor.callId result)
          fact).toOption.isSome) = true) :
    StopsNowhere s (.deliver d) := by
  intro _ executor result hrecords _ fact hfact
  rw [hrecords.configured, Option.all_some, hrecords.fetched] at h
  have hchecked := all_eq_true.mp h fact hfact
  cases hrow : checkFact s.snapshot s.run.connectionId (newCall s executor.callId result) fact with
  | error e => rw [hrow] at hchecked; cases hchecked
  | ok row => exact ⟨row, rfl⟩

/-- A run whose only metric is of a channel. -/
def sampleSync : SyncSession where
  snapshot := {
    provider := "GHOST"
    officialContract := "ghost-admin"
    apiVersion := "5"
    metricDefinitions := [{ id := 7, sourceField := "views", subject := .channel, valueKind := "OBSERVED" }]
    requestHash := "r" }
  run := { id := 1, connectionId := 2 }

def channelFact (externalFactId : String) (dimensions : Dimensions) : AnalyticsFactValue where
  subject := "CHANNEL"
  externalFactId := externalFactId
  metricField := "views"
  factDate := 0
  value := 3
  dimensions := dimensions
  observedAt := 0

def sampleResult (facts : List AnalyticsFactValue) : AnalyticsFetchResult where
  adapterName := "ghost"
  adapterVersion := "1"
  officialContract := "ghost-admin"
  apiVersion := "5"
  facts := facts
  rawResponseHash := "raw"
  startedAt := 0
  completedAt := 1

def sampleDelivery (fetch : Except Failure AnalyticsFetchResult) : SyncDelivery where
  now := 5
  database := { takesCall := fun _ => true, takesFact := fun _ => true }
  executor := some {
    adapterContract := some "ghost-admin"
    credentials := .ok ()
    fetch := fetch
    callId := 100 }

/-- The second fact has no channel. -/
def brokenDelivery : SyncDelivery := sampleDelivery (.ok (sampleResult
  [channelFact "a" [("channel", .text "blog")], channelFact "b" []]))

def sampleRetry : SyncAction := .command {
  actorId := 9
  command := .retry
  reason := none
  requestHash := "retry"
  idempotencyKey := "k" }

theorem waiting_sampleSync : Waiting sampleSync := ⟨⟨rfl, rfl⟩, rfl, rfl, rfl⟩

/-- The provider fails once and then answers. -/
theorem delivers_whole_sample : Along stepSync DeliversWhole sampleSync
    [.deliver (sampleDelivery (.error .keyError)), sampleRetry,
      .deliver (sampleDelivery (.ok (sampleResult
        [channelFact "a" [("channel", .text "blog")]])))] := by
  refine (delivers_whole_iff waiting_sampleSync _).mpr ⟨?_, trivial, ?_, trivial⟩
  · exact stopsNowhere_of_test (by decide +kernel)
  · exact stopsNowhere_of_test (by decide +kernel)

/-- The call and the first fact of a result stay behind when its second fact raises. -/
theorem call_left_by_missing_dimension :
    ¬ Along stepSync DeliversWhole sampleSync [.deliver brokenDelivery] := by
  rintro ⟨hwhole, -⟩
  have hleft : (deliverSync sampleSync brokenDelivery).calls.length = 1 ∧
      (deliverSync sampleSync brokenDelivery).run.state = .retryableFailed := by
    decide +kernel
  have hcommits : Commits sampleSync brokenDelivery := by
    cases hrun : runSync brokenDelivery sampleSync with
    | ok u after => exact ⟨after, hrun⟩
    | error e after =>
      have hsame : deliverSync sampleSync brokenDelivery = sampleSync := by
        unfold deliverSync
        rw [hrun]
      rw [hsame] at hleft
      exact absurd hleft.1 (by decide)
  cases hwhole.whole hcommits with
  | succeeded call state => cases state.symm.trans hleft.2
  | nothing state calls => cases (congrArg List.length calls).symm.trans hleft.1

end Samples

end BlogOps.Analytics
