import BlogOps.BulkBudget

/-!
# The worker of a bulk job

The transactions of the task that consumes a bulk job: it prepares the job,
lets the executor start and record rows, and fails or settles what comes out.
The settlement is a parameter here; it sees the job and some books of its own.
-/

namespace BlogOps.Bulk

open Jobs KeyedTables

/-- `ensure_job_transition(current, target)` and the assignment after it, where the job is in
the state that the step is for. -/
def moveFrom (current target : JobState) (job : BulkJob) : Except Failure BulkJob :=
  if job.state = current then do
    (ensureJobTransition current target).mapError .app
    .ok { job with state := target }
  else .ok job

def selectRows (states : List BulkRowState) (s : BulkSession) : List Uuid :=
  (s.stored.filter (·.state ∈ states)).map (·.id)

def cancelPreparedJob (now : Int) (s : BulkSession) : Except Failure BulkSession := do
  let job ← moveFrom .cancelRequested .cancelled s.job
  .ok (refreshProgress (changeRows (selectRows waitingRowStates s)
    (fun row => { row with state := .cancelled })
    { s with job := { job with finishedAt := some now } }))

def reachedMaximum (job : BulkJob) : Bool := job.effectiveMaximum ≤ job.actualCost + job.heldCost

def waitForInput (job : BulkJob) : Except Failure BulkJob := do
  let job ← moveFrom .queued .validating job
  moveFrom .validating .waitingInput job

def startValidation (now : Int) (job : BulkJob) : Except Failure BulkJob := do
  let job ← moveFrom .waitingInput .queued job
  let job ← moveFrom .retryableFailed .queued job
  let job ← moveFrom .queued .validating job
  .ok { job with startedAt := job.startedAt.or (some now) }

/-- `_prepare_job`; the answer tells whether the executor may run. -/
def prepareJob (now : Int) (s : BulkSession) : Except Failure (Bool × BulkSession) :=
  if s.job.state ∈ terminalJobStates then .ok (false, s)
  else if s.job.state = .cancelRequested then (cancelPreparedJob now s).map (false, ·)
  else if reachedMaximum s.job then
    .ok (false, { s with job := { s.job with
      budgetKillSwitchTriggered := true
      pauseRequested := true
      pauseRequestedAt := s.job.pauseRequestedAt.or (some now)
      errorCode := some "BUDGET_KILL_SWITCH"
      errorDetail := some "maximum_cost_reached" } })
  else if s.job.budgetKillSwitchTriggered ∨ s.job.pauseRequested then .ok (false, s)
  else if s.stored.length < s.job.targetRows then
    (waitForInput s.job).map fun job => (false, { s with job := job })
  else (startValidation now s.job).map fun job => (true, { s with job := job })

/-- The states in which a failure ends the job. -/
def failableStates : List JobState := [.queued, .validating, .waitingInput]

def failedRow (code detail : String) (row : BulkRow) : BulkRow :=
  { row with
    state := .finalFailed
    lastErrorCode := some code
    lastErrorDetail := some detail }

/-- The end of `_fail_job`, from a job in `VALIDATING`. -/
def failValidating (now : Int) (code detail : String) (s : BulkSession) : Except Failure BulkSession := do
  let job ← moveFrom .validating .finalFailed s.job
  .ok (refreshProgress (changeRows (selectRows openRowStates s) (failedRow code detail)
    { s with job := { job with
      errorCode := some code
      errorDetail := some detail
      finishedAt := some now } }))

def failJob (now : Int) (code detail : String) (s : BulkSession) : Except Failure BulkSession :=
  if s.job.state ∈ terminalJobStates then .ok s
  else do
    let job ← moveFrom .queued .validating s.job
    let job ← moveFrom .waitingInput .queued job
    let job ← moveFrom .queued .validating job
    if job.state ≠ .validating then
      .ok { s with job := { job with errorCode := some code, errorDetail := some detail } }
    else failValidating now code detail { s with job := job }

/-- What an executor does with the session of the worker. -/
structure ExecutorRun where
  calls : List ExecutorCall
  /-- It marks the job `SUCCEEDED` at its end. -/
  succeeds : Bool := false
  raises : Option Failure := none

/-- A call that raises leaves the session as it was. -/
def executorCall (s : BulkSession) : ExecutorCall → BulkSession
  | .authorizeNextRow now rowId cost =>
    match authorizeNextRow now rowId cost s with
    | .ok (_, after) => after
    | .error _ => s
  | .recordRowAttempt now reviews attempt =>
    match recordRowAttempt now reviews attempt s with
    | .ok after => after
    | .error _ => s

def executeCalls (s : BulkSession) (calls : List ExecutorCall) : BulkSession :=
  flush (calls.foldl executorCall s)

def execute (run : ExecutorRun) (s : BulkSession) : BulkSession := let after := executeCalls s run.calls
  if run.succeeds then { after with job := { after.job with state := .succeeded } } else after

structure BulkWorld (β : Type) where
  session : BulkSession
  books : β

section Worker

variable {β γ : Type} (settle : γ → BulkJob → β → Except Failure β)

def settled (c : γ) (session : BulkSession) (books : β) : Except Failure (BulkWorld β) :=
  (settle c session.job books).map (⟨session, ·⟩)

/-- What the worker does after the executor returned. -/
def finishJob (now : Int) (c : γ) (session : BulkSession) (books : β) : Except Failure (BulkWorld β) :=
  if session.job.state = .cancelRequested then do
    let (_, session) ← prepareJob now session
    settled settle c session books
  else if session.job.pauseRequested ∨ session.job.budgetKillSwitchTriggered then
    .ok ⟨session, books⟩
  else if session.job.state = .validating then do
    let session ← failJob now "BULK_EXECUTOR_INCOMPLETE"
      "bulk executor returned without a durable outcome" session
    settled settle c session books
  else settled settle c session books

/-- The job is prepared and ready. -/
def executeJob (now : Int) (c : γ) (executor : Option ExecutorRun) (session : BulkSession)
    (books : β) : Except Failure (BulkWorld β) :=
  match executor with
  | none => do
    let session ← failJob now "BULK_RUNTIME_UNAVAILABLE" "approved bulk executor is not configured" session
    settled settle c session books
  | some run =>
    match run.raises with
    | some failure => .error failure
    | none => finishJob settle now c (execute run session) books

/-- The transaction of `_run_job`. -/
def processJob (now : Int) (c : γ) (executor : Option ExecutorRun) (w : BulkWorld β) :
    Except Failure (BulkWorld β) := do
  let (ready, session) ← prepareJob now w.session
  if ready then executeJob settle now c executor session w.books
  else settled settle c session w.books

/-- The transaction of `_persist_failure`. -/
def persistFailure (now : Int) (c : γ) (code : String) (w : BulkWorld β) : Except Failure (BulkWorld β) := do
  let session ← failJob now code "approved bulk executor failed" w.session
  settled settle c session w.books

/-- A transaction that raises is rolled back, any other is flushed and committed. -/
def commit (w : BulkWorld β) (result : Except Failure (BulkWorld β)) : BulkWorld β :=
  match result with
  | .ok after => { after with session := committed after.session }
  | .error _ => w

inductive BulkCall where
  | materialize (file : Option BulkInputFile) (content : InputContent)
  | authorizeNextRow (now : Int) (rowId : Uuid) (nextEstimatedCost : Int)
  | recordRowAttempt (now : Int) (reviews : Reviews) (attempt : RowAttempt)
  | retryRows (principal : BulkPrincipal) (data : BulkRowsCommand) (regenerate : Bool)
  | approveRows (now : Int) (principal : BulkPrincipal) (reviews : Reviews)
      (data : BulkRowsCommand)
  | pauseJob (now : Int) (principal : BulkPrincipal) (data : BulkCommandRequest)
  | resumeJob (principal : BulkPrincipal) (data : BulkCommandRequest)
  | cancelJob (now : Int) (principal : BulkPrincipal) (data : BulkCommandRequest)

/-- The transactions on a bulk job: a call of its own, or one of a delivery. -/
inductive BulkAction (γ : Type) where
  | call (call : BulkCall)
  | process (now : Int) (c : γ) (executor : Option ExecutorRun)
  | persistFailure (now : Int) (c : γ) (code : String)

def callSession [BulkHashes] (call : BulkCall) (s : BulkSession) : Except Failure BulkSession :=
  match call with
  | .materialize file content => materializeCsvSnapshot file content s
  | .authorizeNextRow now rowId cost => (authorizeNextRow now rowId cost s).map (·.2)
  | .recordRowAttempt now reviews attempt => recordRowAttempt now reviews attempt s
  | .retryRows principal data regenerate => retryRows principal data regenerate s
  | .approveRows now principal reviews data => approveRows now principal reviews data s
  | .pauseJob now principal data => pauseJob now principal data s
  | .resumeJob principal data => resumeJob principal data s
  | .cancelJob now principal data => cancelJob now principal data s

def transactJob [BulkHashes] (w : BulkWorld β) : BulkAction γ → BulkWorld β
  | .call call => commit w ((callSession call w.session).map (⟨·, w.books⟩))
  | .process now c executor => commit w (processJob settle now c executor w)
  | .persistFailure now c code => commit w (persistFailure settle now c code w)

/-- What one run of the task reads, and what its executor does. -/
structure JobDelivery (γ : Type) where
  now : Int
  clock : γ
  file : Option BulkInputFile
  /-- The answer of the object storage. -/
  content : Except Failure InputContent
  knowledgeMaxUploadBytes : Nat
  executor : Option ExecutorRun

/-- `_materialization_request`, `none` where the job takes no input now. -/
def materializationRequest [BulkHashes] (file : Option BulkInputFile) (job : BulkJob) :
    Except Failure (Option BulkInputFile) :=
  if job.state ∈ terminalJobStates ∨ job.state = .cancelRequested ∨ job.pauseRequested ∨
      job.budgetKillSwitchTriggered ∨ reachedMaximum job then .ok none
  else if job.state ∉ failableStates then .ok none
  else
    match file with
    | none => .error (.app {
        code := "BULK_INPUT_NOT_FOUND"
        message := "대량 입력 Snapshot을 찾을 수 없습니다."
        statusCode := 404 })
    | some file => do
      require file.isCsv (.app {
        code := "BULK_INPUT_MATERIALIZER_UNAVAILABLE"
        message := "CSV 외 입력 형식의 승인된 행 변환기가 구성되지 않았습니다."
        statusCode := 503 })
      BulkHashes.privateRef file
      .ok (some file)

/-- `_materialize_rows`; the rows are committed before the job is prepared. -/
def materializeDelivery [BulkHashes] (d : JobDelivery γ) (s : BulkSession) : Except Failure BulkSession := do
  match ← materializationRequest d.file s.job with
  | none => .ok s
  | some file =>
    require (1 ≤ file.sizeBytes ∧ file.sizeBytes ≤ d.knowledgeMaxUploadBytes) (bulkConflict
      "BULK_INPUT_SIZE_POLICY_VIOLATION" "입력 Snapshot이 현재 서버 용량 정책을 충족하지 않습니다.")
    let content ← d.content
    materializeCsvSnapshot d.file content s

def failureCode : Failure → String
  | .app error => error.code
  | _ => "BULK_RUNTIME_ERROR"

/-- `_run_job`, with every transaction of it. -/
def runJob [BulkHashes] (d : JobDelivery γ) (w : BulkWorld β) : BulkWorld β :=
  match materializeDelivery d w.session with
  | .error failure => commit w (persistFailure settle d.now d.clock (failureCode failure) w)
  | .ok session =>
    let w := { w with session := committed session }
    match processJob settle d.now d.clock d.executor w with
    | .error failure => commit w (persistFailure settle d.now d.clock (failureCode failure) w)
    | .ok after => commit w (.ok after)

end Worker

theorem moveFrom_eq {current target : JobState} (h : target ∈ allowedJobTransitions current)
    (job : BulkJob) : moveFrom current target job =
      .ok (if job.state = current then { job with state := target } else job) := by
  unfold moveFrom
  by_cases hstate : job.state = current
  · rw [if_pos hstate, if_pos hstate, (ensureJobTransition_ok_iff current target).mpr h]
    rfl
  · rw [if_neg hstate, if_neg hstate]

/-- What the cancellation of a prepared job leaves. -/
def cancelledSession (now : Int) (s : BulkSession) : BulkSession :=
  refreshProgress (changeRows (selectRows waitingRowStates s)
    (fun row => { row with state := .cancelled })
    { s with job := { s.job with state := .cancelled, finishedAt := some now } })

/-- What a failure that ends the job leaves. -/
def failedSession (now : Int) (code detail : String) (s : BulkSession) : BulkSession :=
  refreshProgress (changeRows (selectRows openRowStates s) (failedRow code detail)
    { s with job := { s.job with
      state := .finalFailed
      errorCode := some code
      errorDetail := some detail
      finishedAt := some now } })

/-- The columns that preparing a job which goes on leaves alone. -/
structure SameProgress (job after : BulkJob) : Prop where
  budget : SameBudget job after
  counts : after.counts = job.counts
  authorized : after.authorizedCost = job.authorizedCost
  maximum : after.maximumCost = job.maximumCost
  target : after.targetRows = job.targetRows

inductive Preparation (now : Int) (s : BulkSession) : Bool → BulkSession → Prop
  | unchanged (hasked : s.job.state ≠ .cancelRequested)
      (h : s.job.state ∈ terminalJobStates ∨ s.job.budgetKillSwitchTriggered = true ∨
        s.job.pauseRequested = true) : Preparation now s false s
  | cancelled (h : s.job.state = .cancelRequested) :
      Preparation now s false (cancelledSession now s)
  | stopped (job : BulkJob) (hasked : s.job.state ≠ .cancelRequested) (hstate : job.state = s.job.state)
      (hlive : s.job.state ∉ terminalJobStates) (hmoney : SameProgress s.job job)
      (hkilled : job.budgetKillSwitchTriggered = true)
      (hreached : reachedMaximum s.job = true) :
      Preparation now s false { s with job := job }
  | waiting (job : BulkJob) (hasked : s.job.state ≠ .cancelRequested) (hstate : job.state ∉ terminalJobStates)
      (hmoney : SameProgress s.job job) (hmissing : s.stored.length < s.job.targetRows)
      (hpaused : job.pauseRequested = s.job.pauseRequested)
      (hkilled : job.budgetKillSwitchTriggered = s.job.budgetKillSwitchTriggered) :
      Preparation now s false { s with job := job }
  | ready (job : BulkJob) (hasked : s.job.state ≠ .cancelRequested) (hstate : job.state ∉ terminalJobStates)
      (huncancelled : job.state ≠ .cancelRequested)
      (hmoney : SameProgress s.job job) (hrows : s.job.targetRows ≤ s.stored.length)
      (hwithin : reachedMaximum s.job = false)
      (hpaused : job.pauseRequested = false)
      (hkilled : job.budgetKillSwitchTriggered = false) :
      Preparation now s true { s with job := job }

theorem sameProgress_state (job : BulkJob) (state : JobState) (startedAt : Option Int) :
    SameProgress job { job with state := state, startedAt := startedAt } :=
  ⟨⟨rfl, rfl, rfl, rfl, rfl⟩, rfl, rfl, rfl, rfl⟩

theorem waitForInput_eq (job : BulkJob) : waitForInput job = .ok { job with
    state := if job.state ∈ [.queued, .validating] then .waitingInput else job.state } := by
  unfold waitForInput
  rw [moveFrom_eq (by decide)]
  simp only [bind, Except.bind]
  rw [moveFrom_eq (by decide)]
  by_cases hqueued : job.state = .queued
  · simp [hqueued]
  · by_cases hvalidating : job.state = .validating
    · simp [hvalidating]
    · simp [hqueued, hvalidating]

/-- The states that lead to `VALIDATING` once the rows are there. -/
def startableStates : List JobState := [.waitingInput, .retryableFailed, .queued]

theorem startValidation_eq (now : Int) (job : BulkJob) : startValidation now job = .ok { job with
      state := if job.state ∈ startableStates then .validating else job.state
      startedAt := job.startedAt.or (some now) } := by
  unfold startValidation
  rw [moveFrom_eq (by decide)]
  simp only [bind, Except.bind]
  rw [moveFrom_eq (by decide)]
  simp only
  rw [moveFrom_eq (by decide)]
  simp only [startableStates]
  by_cases hinput : job.state = .waitingInput
  · simp [hinput]
  · by_cases hfailed : job.state = .retryableFailed
    · simp [hfailed]
    · by_cases hqueued : job.state = .queued
      · simp [hqueued]
      · simp [hinput, hfailed, hqueued]

theorem prepareJob_spec (now : Int) (s : BulkSession) :
    ∃ ready after, prepareJob now s = .ok (ready, after) ∧ Preparation now s ready after := by
  unfold prepareJob
  by_cases hterminal : s.job.state ∈ terminalJobStates
  · rw [if_pos hterminal]
    refine ⟨_, _, rfl, .unchanged (fun hcancel => ?_) (.inl hterminal)⟩
    rw [hcancel] at hterminal
    simp [terminalJobStates] at hterminal
  rw [if_neg hterminal]
  by_cases hcancel : s.job.state = .cancelRequested
  · rw [if_pos hcancel]
    have hcancelled : cancelPreparedJob now s = .ok (cancelledSession now s) := by
      unfold cancelPreparedJob
      rw [moveFrom_eq (by decide), if_pos hcancel]
      rfl
    rw [hcancelled]
    exact ⟨_, _, rfl, .cancelled hcancel⟩
  rw [if_neg hcancel]
  by_cases hreached : reachedMaximum s.job = true
  · rw [if_pos hreached]
    have hmoney : SameProgress s.job { s.job with
        budgetKillSwitchTriggered := true
        pauseRequested := true
        pauseRequestedAt := s.job.pauseRequestedAt.or (some now)
        errorCode := some "BUDGET_KILL_SWITCH"
        errorDetail := some "maximum_cost_reached" } := ⟨⟨rfl, rfl, rfl, rfl, rfl⟩, rfl, rfl, rfl, rfl⟩
    exact ⟨_, _, rfl, .stopped _ hcancel rfl hterminal hmoney rfl hreached⟩
  rw [if_neg hreached]
  by_cases hpaused : s.job.budgetKillSwitchTriggered ∨ s.job.pauseRequested
  · rw [if_pos hpaused]
    exact ⟨_, _, rfl, .unchanged hcancel (.inr hpaused)⟩
  rw [if_neg hpaused]
  rw [not_or, Bool.not_eq_true, Bool.not_eq_true] at hpaused
  by_cases hmissing : s.stored.length < s.job.targetRows
  · rw [if_pos hmissing, waitForInput_eq]
    refine ⟨_, _, rfl, .waiting _ hcancel ?_ (sameProgress_state s.job _ _) hmissing rfl rfl⟩
    simp only
    split
    · decide
    · exact hterminal
  · rw [if_neg hmissing, startValidation_eq]
    refine ⟨_, _, rfl, .ready _ hcancel ?_ ?_ (sameProgress_state s.job _ _) (not_lt.mp hmissing)
      (Bool.not_eq_true _ ▸ hreached) hpaused.2 hpaused.1⟩
    · simp only
      split
      · decide
      · exact hterminal
    · simp only
      split
      · decide
      · exact hcancel

theorem failJob_eq (now : Int) (code detail : String) (s : BulkSession) : failJob now code detail s = .ok (
      if s.job.state ∈ terminalJobStates then s
      else if s.job.state ∈ failableStates then failedSession now code detail s
      else { s with job := { s.job with errorCode := some code, errorDetail := some detail } }) := by
  unfold failJob
  by_cases hterminal : s.job.state ∈ terminalJobStates
  · rw [if_pos hterminal, if_pos hterminal]
  rw [if_neg hterminal, if_neg hterminal, moveFrom_eq (by decide)]
  simp only [bind, Except.bind]
  rw [moveFrom_eq (by decide)]
  simp only
  rw [moveFrom_eq (by decide)]
  have hfails : ∀ job : BulkJob, job.state = .validating →
      failValidating now code detail { s with job := job } =
        .ok (refreshProgress (changeRows (selectRows openRowStates s) (failedRow code detail)
          { s with job := { job with
            state := .finalFailed
            errorCode := some code
            errorDetail := some detail
            finishedAt := some now } })) := by
    intro job hstate
    unfold failValidating
    rw [moveFrom_eq (by decide), if_pos hstate]
    rfl
  simp only [failableStates]
  by_cases hqueued : s.job.state = .queued
  · rw [if_pos hqueued, if_neg (by simp), if_neg (by simp), if_neg (by simp), hfails _ rfl]
    simp [hqueued, failedSession]
  · by_cases hinput : s.job.state = .waitingInput
    · rw [if_neg hqueued, if_pos hinput, if_pos rfl, if_neg (by simp), hfails _ rfl]
      simp [hinput, failedSession]
    · rw [if_neg hqueued, if_neg hinput, if_neg hqueued]
      by_cases hvalidating : s.job.state = .validating
      · rw [if_neg (by simp [hvalidating]), hfails _ hvalidating]
        simp [hvalidating, failedSession]
      · rw [if_pos hvalidating]
        simp [hqueued, hinput, hvalidating]

theorem executorCall_state (s : BulkSession) (call : ExecutorCall) :
    (executorCall s call).job.state = s.job.state := by
  cases call with
  | authorizeNextRow now rowId cost =>
    unfold executorCall
    simp only
    split
    · cases authorizeNextRow_ok ‹_› <;> rfl
    · rfl
  | recordRowAttempt now reviews attempt =>
    unfold executorCall
    simp only
    split
    · obtain ⟨row, quality, approval, outcome, -, -, -, -, -, hafter⟩ := recordRowAttempt_ok ‹_›
      rw [hafter]
      show (chargeAttempt now row attempt s.job).state = s.job.state
      unfold chargeAttempt
      simp only
      split <;> rfl
    · rfl

theorem execute_state (run : ExecutorRun) (s : BulkSession) :
    (execute run s).job.state = if run.succeeds then .succeeded else s.job.state := by
  have hcalls : ∀ calls : List ExecutorCall,
      (calls.foldl executorCall s).job.state = s.job.state := by
    intro calls
    induction calls using List.reverseRecOn with
    | nil => rfl
    | append_singleton calls call ih =>
      rw [List.foldl_append]
      exact (executorCall_state _ call).trans ih
  unfold execute
  simp only
  split
  · rfl
  · exact hcalls run.calls

theorem settled_ok {β γ : Type} {settle : γ → BulkJob → β → Except Failure β} {c : γ} {session : BulkSession}
    {books : β} {after : BulkWorld β} (h : settled settle c session books = .ok after) :
    after.session = session ∧ settle c session.job books = .ok after.books := by
  obtain ⟨result, hresult, rfl⟩ := map_ok h
  exact ⟨rfl, hresult⟩

end BlogOps.Bulk
