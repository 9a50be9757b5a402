import BlogOps.EffectRules
import BlogOps.PythonText
import BlogOps.SecurityRules
import BlogOps.TransitionRuns

/-!
# Backup runs

`execute_backup`, `record_backup_attempt_error`, `fail_backup` and
`retry_backup`, with the two transactions of a delivery of the task: an
execution that raises is rolled back, and its error is recorded in a second one.
Between the two, other deliveries of the same run may commit.
-/

namespace BlogOps.Operations

open EffectRules Security TransitionRuns

inductive BackupRunState where
  | queued | running | retrying | verifying | succeeded | failed
deriving DecidableEq, Repr

structure BackupRun where
  id : Uuid
  policyVersionId : Uuid
  /-- `policy_snapshot["rpo_minutes"]`. -/
  rpoMinutes : Nat
  idempotencyKey : String
  requestedAt : Int
  state : BackupRunState := .queued
  attemptCount : Nat := 0
  providerRunRef : Option String := none
  startedAt : Option Int := none
  completedAt : Option Int := none
  failureCode : Option String := none
deriving DecidableEq, Repr

/-- What the controller says of its work; a naive datetime, a size that is not an integer and a
verdict that is not a boolean are `none`. -/
structure BackupExecutionResult where
  providerRunRef : String
  snapshotRef : String
  snapshotHash : String
  encryptionKeyVersion : String
  startedAt : Option Int
  completedAt : Option Int
  restorePointAt : Option Int
  sizeBytes : Option Int
  verified : Option Bool
  evidenceObjectRef : String
  evidenceHash : String
deriving DecidableEq, Repr

structure BackupEvidence where
  runId : Uuid
  providerRunRef : String
  snapshotRef : String
  snapshotHash : String
  encryptionKeyVersion : String
  startedAt : Option Int
  completedAt : Option Int
  restorePointAt : Option Int
  sizeBytes : Option Int
  verified : Option Bool
  evidenceObjectRef : String
  evidenceHash : String
deriving DecidableEq, Repr

/-- An exception, as `_is_retryable_operations_error` tells them apart. -/
inductive OperationsFault where
  | app (error : AppError)
  /-- A `TimeoutError` or a `ConnectionError`. -/
  | transient
  | other
deriving DecidableEq, Repr

structure BackupAttempt where
  startedAt : Int
  answer : Except OperationsFault BackupExecutionResult
  checkedAt : Int
  retryAllowed : Bool

/-- The error of a rolled back attempt, which its delivery has still to record. -/
structure AttemptError where
  code : String
  retry : Bool
  retryExhausted : Bool
deriving DecidableEq, Repr

/-- A run with its evidence; `calls` are the calls of the controller that were made for it, and
`pending` the errors of the deliveries that are between their two transactions. -/
structure BackupWorld where
  run : BackupRun
  evidence : List BackupEvidence := []
  calls : Nat := 0
  pending : List AttemptError := []
deriving DecidableEq, Repr

abbrev BackupM := EStateM OperationsFault BackupWorld

/-! ## The rules of the task -/

def permanentOperationErrorCodes : List String :=
  ["BACKUP_CONTROLLER_UNAVAILABLE", "BACKUP_RESULT_INVALID", "GA_EVIDENCE_DUPLICATE",
    "GA_EVIDENCE_HASH_INVALID", "GA_EVIDENCE_INCOMPLETE", "GA_EVIDENCE_INVALID",
    "GA_EVIDENCE_METRIC_INVALID", "GA_EVIDENCE_POLICY_INVALID", "GA_EVIDENCE_VERIFIER_UNAVAILABLE",
    "GA_RUNTIME_UNAVAILABLE", "OPERATIONS_GA_POLICY_UNAVAILABLE", "RECOVERY_CONTROLLER_UNAVAILABLE",
    "RECOVERY_INPUT_MISSING", "RECOVERY_ISOLATION_INVALID", "RECOVERY_RESULT_INVALID"]

def isRetryableOperationsError : OperationsFault → Bool
  | .app error => error.code ∉ permanentOperationErrorCodes &&
      (error.statusCode = 408 || error.statusCode = 429 || 500 ≤ error.statusCode)
  | .transient => true
  | .other => false

def faultCode : OperationsFault → String
  | .app error => error.code
  | .transient | .other => "BACKUP_EXECUTION_FAILED"

def attemptError (fault : OperationsFault) (retryAllowed : Bool) : AttemptError where
  code := faultCode fault
  retry := isRetryableOperationsError fault && retryAllowed
  retryExhausted := isRetryableOperationsError fault && !retryAllowed

def retryExhaustedMark : String := "RETRY_EXHAUSTED:"

def storedAttemptError (code : String) (retryExhausted : Bool) : String :=
  let normalized := (PythonText.strip (if code = "" then "OPERATIONS_EXECUTION_FAILED" else code)).toList
  if retryExhausted then
    String.ofList (retryExhaustedMark.toList ++ normalized.take (120 - retryExhaustedMark.length))
  else String.ofList (normalized.take 120)

def isRetryExhaustedFailure (code : Option String) : Bool :=
  code.any fun text => retryExhaustedMark.toList.isPrefixOf text.toList

/-! ## The checks of a result -/

def fiveMinutesMicros : Int := 5 * 60 * 1000000

def orderedTimes (requestedAt checkedAt : Int) (result : BackupExecutionResult) : Bool :=
  result.startedAt.any fun started => result.completedAt.any fun completed =>
    result.restorePointAt.any fun restorePoint =>
      started ≤ completed && requestedAt - fiveMinutesMicros ≤ started &&
        completed ≤ checkedAt + fiveMinutesMicros && restorePoint ≤ completed

def validBackupResult (requestedAt checkedAt : Int) (result : BackupExecutionResult) : Bool :=
  orderedTimes requestedAt checkedAt result && result.sizeBytes.any (0 ≤ ·) &&
    result.providerRunRef ≠ "" && result.providerRunRef.length ≤ 500 &&
    result.snapshotRef ≠ "" && result.snapshotRef.length ≤ 1000 &&
    isSha256Hex result.snapshotHash && result.encryptionKeyVersion ≠ "" &&
    result.encryptionKeyVersion.length ≤ 80 && result.verified.isSome &&
    result.evidenceObjectRef ≠ "" && result.evidenceObjectRef.length ≤ 1000 &&
    isSha256Hex result.evidenceHash

def withinRpo (rpoMinutes : Nat) (completedAt restorePointAt : Option Int) : Bool :=
  completedAt.any fun completed => restorePointAt.any fun restorePoint =>
    completed - restorePoint ≤ (rpoMinutes : Int) * 60 * 1000000

def backupResultInvalid : OperationsFault := .app {
  code := "BACKUP_RESULT_INVALID"
  message := "백업 실행 결과의 증거가 올바르지 않습니다."
  statusCode := 503 }

/-! ## What the database takes -/

def BackupEvidence.storable (evidence : BackupEvidence) : Bool :=
  evidence.sizeBytes.all (· ≤ 2147483647) && storableText evidence.providerRunRef &&
    storableText evidence.snapshotRef && storableText evidence.encryptionKeyVersion &&
    storableText evidence.evidenceObjectRef

def BackupRun.storable (run : BackupRun) : Bool :=
  run.providerRunRef.all storableText && run.failureCode.all storableText

/-- The texts and counts are storable, and a run has at most one evidence. -/
def BackupWorld.storable (w : BackupWorld) : Bool :=
  w.run.storable && w.evidence.all BackupEvidence.storable && w.evidence.length ≤ 1

def flushBackup : BackupM Unit := do
  let w ← get
  if w.storable = true then pure () else throw .other

def ensure (holds : Prop) [Decidable holds] (fault : OperationsFault) : BackupM Unit :=
  if holds then pure () else throw fault

def updateRun (change : BackupRun → BackupRun) : BackupM Unit :=
  modify fun w => { w with run := change w.run }

def startAttempt (now : Int) (run : BackupRun) : BackupRun :=
  { run with
    state := .running
    attemptCount := run.attemptCount + 1
    failureCode := none
    completedAt := none
    startedAt := some now }

def evidenceOfResult (run : BackupRun) (result : BackupExecutionResult) : BackupEvidence where
  runId := run.id
  providerRunRef := result.providerRunRef
  snapshotRef := result.snapshotRef
  snapshotHash := result.snapshotHash
  encryptionKeyVersion := result.encryptionKeyVersion
  startedAt := result.startedAt
  completedAt := result.completedAt
  restorePointAt := result.restorePointAt
  sizeBytes := result.sizeBytes
  verified := result.verified
  evidenceObjectRef := result.evidenceObjectRef
  evidenceHash := result.evidenceHash

variable (result : BackupExecutionResult)

/-- The verdict on a run whose evidence has been added. -/
def finishAttempt (run : BackupRun) : BackupRun :=
  let rpoMet := withinRpo run.rpoMinutes result.completedAt result.restorePointAt
  let finished := { run with
    providerRunRef := some result.providerRunRef
    startedAt := result.startedAt
    completedAt := result.completedAt }
  if result.verified = some true ∧ result.encryptionKeyVersion ≠ "" ∧ rpoMet = true then
    { finished with state := .succeeded }
  else
    { finished with
      state := .failed
      failureCode := some (if rpoMet then "BACKUP_VERIFICATION_FAILED" else "BACKUP_RPO_FAILED") }

def addBackupEvidence (w : BackupWorld) : BackupWorld :=
  { w with
    evidence := w.evidence ++ [evidenceOfResult w.run result]
    run := finishAttempt result w.run }

def callController (answer : Except OperationsFault BackupExecutionResult) :
    BackupM BackupExecutionResult := do
  modify fun w => { w with calls := w.calls + 1 }
  MonadExcept.ofExcept answer

def executeBackup (a : BackupAttempt) : BackupM Unit := do
  let w ← get
  if w.run.state = .queued ∨ w.run.state = .retrying then
    updateRun (startAttempt a.startedAt)
    flushBackup
    let result ← callController a.answer
    ensure (validBackupResult w.run.requestedAt a.checkedAt result = true) backupResultInvalid
    modify (addBackupEvidence result)
    flushBackup
  else pure ()

/-- The states in which a run is not over. -/
def openStates : List BackupRunState := [.queued, .running, .retrying]

def failedRun (now : Int) (code : String) (run : BackupRun) : BackupRun :=
  { run with
    state := .failed
    failureCode := some (String.ofList (code.toList.take 120))
    completedAt := some now }

def failBackup (now : Int) (code : String) : BackupM Unit := do
  let w ← get
  if w.run.state ∈ openStates then
    updateRun (failedRun now code)
    flushBackup
  else pure ()

def recordedRun (now : Int) (error : AttemptError) (run : BackupRun) : BackupRun :=
  { run with
    attemptCount := if run.state = .running then run.attemptCount else run.attemptCount + 1
    failureCode := some (storedAttemptError error.code error.retryExhausted)
    providerRunRef := none
    startedAt := none
    state := if error.retry then .retrying else .failed
    completedAt := if error.retry then none else some now }

def recordBackupAttemptError (now : Int) (error : AttemptError) : BackupM Unit := do
  let w ← get
  if w.run.state ∈ openStates then
    updateRun (recordedRun now error)
    flushBackup
  else pure ()

def notRetryable (message : String) : OperationsFault := .app {
  code := "OPERATIONS_JOB_NOT_RETRYABLE"
  message := message
  statusCode := 409 }

def retriedRun (run : BackupRun) : BackupRun :=
  { run with
    state := .retrying
    failureCode := none
    providerRunRef := none
    startedAt := none
    completedAt := none }

def retryBackup : BackupM Unit := do
  let w ← get
  if w.run.state = .queued ∨ w.run.state = .retrying then pure ()
  else
    ensure (w.run.state = .failed ∧ isRetryExhaustedFailure w.run.failureCode = true)
      (notRetryable "일시 장애로 재시도 한도를 소진한 백업 작업만 재시도할 수 있습니다.")
    ensure (w.evidence = []) (notRetryable "증거가 확정된 백업 작업은 동일 작업에서 재시도할 수 없습니다.")
    updateRun retriedRun
    flushBackup

inductive BackupStep where
  /-- The first transaction of a delivery. -/
  | execute (attempt : BackupAttempt)
  /-- The second transaction of the delivery whose error stands at `index`. -/
  | record (index : Nat) (now : Int)
  | fail (now : Int) (code : String)
  | retry

/-- A transaction that raises leaves the world as it was. -/
def commitOr (rolledBack : BackupWorld) (transaction : BackupM Unit) (w : BackupWorld) : BackupWorld :=
  match transaction w with
  | .ok _ after => after
  | .error _ _ => rolledBack

def executeStep (attempt : BackupAttempt) (w : BackupWorld) : BackupWorld :=
  match executeBackup attempt w with
  | .ok _ after => after
  | .error fault after => { w with
      calls := after.calls
      pending := w.pending ++ [attemptError fault attempt.retryAllowed] }

def recordStep (index : Nat) (now : Int) (w : BackupWorld) : BackupWorld :=
  match w.pending[index]? with
  | none => w
  | some error =>
    let recording := { w with pending := w.pending.eraseIdx index }
    commitOr recording (recordBackupAttemptError now error) recording

def stepBackup (w : BackupWorld) : BackupStep → BackupWorld
  | .execute attempt => executeStep attempt w
  | .record index now => recordStep index now w
  | .fail now code => commitOr w (failBackup now code) w
  | .retry => commitOr w retryBackup w

/-! ## How a transaction ends -/

def evidenceCodes : List String := ["BACKUP_RPO_FAILED", "BACKUP_VERIFICATION_FAILED"]

def EndsWithEvidence (run : BackupRun) : Prop :=
  run.state = .succeeded ∨ run.state = .failed ∧ ∃ code ∈ evidenceCodes, run.failureCode = some code

/-- What holds of a run between transactions, whatever they are. -/
structure BackupBooks (w : BackupWorld) : Prop where
  stored : w.storable = true
  resting : w.run.state = .queued ∨ w.run.state = .retrying ∨ w.run.state = .succeeded ∨ w.run.state = .failed
  ended : w.evidence ≠ [] → EndsWithEvidence w.run
  verified : w.run.state = .succeeded → ∃ evidence ∈ w.evidence, evidence.verified = some true ∧
    withinRpo w.run.rpoMinutes evidence.completedAt evidence.restorePointAt = true

def Waiting (w : BackupWorld) : Prop := w.run.state = .queued ∨ w.run.state = .retrying

variable {w : BackupWorld}

theorem not_ended_of_waiting (h : Waiting w) : ¬ EndsWithEvidence w.run := by
  rintro (hstate | ⟨hstate, _⟩)
  · simp [Waiting, hstate] at h
  · simp [Waiting, hstate] at h

theorem BackupBooks.evidence_of_waiting (hw : BackupBooks w) (h : Waiting w) : w.evidence = [] := by
  by_contra hevidence
  exact not_ended_of_waiting h (hw.ended hevidence)

theorem BackupBooks.waiting_iff (hw : BackupBooks w) : w.run.state ∈ openStates ↔ Waiting w := by
  rcases hw.resting with h | h | h | h <;> simp [openStates, Waiting, h]

theorem flushBackup_ok (h : w.storable = true) : flushBackup w = .ok () w := by
  unfold flushBackup
  rw [bind_run_ok (get_run w), if_pos h]
  rfl

theorem flushBackup_error (h : w.storable ≠ true) : flushBackup w = .error .other w := by
  unfold flushBackup
  rw [bind_run_ok (get_run w), if_neg h]
  rfl

/-- The transaction changes the run and flushes. -/
theorem commitOr_updateRun (rolledBack w : BackupWorld) (change : BackupRun → BackupRun) :
    commitOr rolledBack (do updateRun change; flushBackup) w =
      if ({ w with run := change w.run } : BackupWorld).storable = true then
        { w with run := change w.run }
      else rolledBack := by
  unfold commitOr updateRun
  rw [bind_run_ok (modify_run _ w)]
  split_ifs with hstored
  · rw [flushBackup_ok hstored]
  · rw [flushBackup_error hstored]

/-- A change of the run is stored exactly when its texts are. -/
theorem storable_run (h : w.storable = true) (run : BackupRun) :
    ({ w with run := run } : BackupWorld).storable = run.storable := by
  simp only [BackupWorld.storable, Bool.and_eq_true] at h
  simp only [BackupWorld.storable, h.1.2, h.2, Bool.and_true]

def finishedWorld (a : BackupAttempt) (result : BackupExecutionResult) (w : BackupWorld) : BackupWorld :=
  { w with
    calls := w.calls + 1
    run := finishAttempt result (startAttempt a.startedAt w.run)
    evidence := w.evidence ++ [evidenceOfResult w.run result] }

/-- An execution calls the controller once, and ends with evidence or raises. -/
theorem executeBackup_waiting (hw : BackupBooks w) (h : Waiting w) (a : BackupAttempt) :
    (∃ result, validBackupResult w.run.requestedAt a.checkedAt result = true ∧
        (finishedWorld a result w).storable = true ∧
        executeBackup a w = .ok () (finishedWorld a result w)) ∨
      ∃ fault after, executeBackup a w = .error fault after ∧ after.calls = w.calls + 1 := by
  have hstarted : ({ w with run := startAttempt a.startedAt w.run } : BackupWorld).storable =
      true := by
    have hrun := hw.stored
    simp only [BackupWorld.storable, BackupRun.storable, Bool.and_eq_true] at hrun
    rw [storable_run hw.stored]
    simp only [BackupRun.storable, startAttempt, hrun.1.1.1, Option.all_none, Bool.and_true]
  have hstart : executeBackup a w = (do
      let result ← callController a.answer
      ensure (validBackupResult w.run.requestedAt a.checkedAt result = true) backupResultInvalid
      modify (addBackupEvidence result)
      flushBackup) { w with run := startAttempt a.startedAt w.run } := by
    unfold executeBackup
    rw [bind_run_ok (get_run w)]
    refine (congrFun (if_pos h) w).trans ?_
    rw [updateRun, bind_run_ok (modify_run _ w), bind_run_ok (flushBackup_ok hstarted)]
  rw [hstart]
  cases hanswer : a.answer with
  | error fault =>
    have hcall : callController (.error fault) { w with run := startAttempt a.startedAt w.run } =
        .error fault { w with
          calls := w.calls + 1
          run := startAttempt a.startedAt w.run } := by
      unfold callController
      exact bind_run_ok (modify_run _ _) _
    exact .inr ⟨fault, _, bind_run_error hcall _, rfl⟩
  | ok result =>
    have hcall : callController (.ok result) { w with run := startAttempt a.startedAt w.run } =
        .ok result { w with
          calls := w.calls + 1
          run := startAttempt a.startedAt w.run } := by
      unfold callController
      exact bind_run_ok (modify_run _ _) _
    by_cases hvalid : validBackupResult w.run.requestedAt a.checkedAt result = true
    · have hensured : ∀ t : BackupWorld, ensure (validBackupResult w.run.requestedAt a.checkedAt
          result = true) backupResultInvalid t = .ok () t := fun t => by rw [ensure, if_pos hvalid]; rfl
      rw [bind_run_ok hcall, bind_run_ok (hensured _), bind_run_ok (modify_run _ _)]
      by_cases hstored : (finishedWorld a result w).storable = true
      · exact .inl ⟨result, hvalid, hstored, flushBackup_ok hstored⟩
      · exact .inr ⟨.other, finishedWorld a result w, flushBackup_error hstored, rfl⟩
    · have hrefused : ∀ t : BackupWorld, ensure (validBackupResult w.run.requestedAt a.checkedAt
          result = true) backupResultInvalid t = .error backupResultInvalid t :=
        fun t => by rw [ensure, if_neg hvalid]; rfl
      rw [bind_run_ok hcall]
      exact .inr ⟨backupResultInvalid, _, bind_run_error (hrefused _) _, rfl⟩

/-- What one transaction makes of a run. -/
inductive BackupEnd (w : BackupWorld) : BackupStep → BackupWorld → Prop
  | unchanged (step : BackupStep) (hrecord : ∀ index now, step = .record index now →
        w.pending[index]? = none)
      (hfail : ∀ now code, step = .fail now code → ¬ (Waiting w ∧
        storableText (String.ofList (code.toList.take 120)) = true)) : BackupEnd w step w
  | finished (a : BackupAttempt) (result : BackupExecutionResult) (hwaiting : Waiting w)
      (hvalid : validBackupResult w.run.requestedAt a.checkedAt result = true)
      (hstored : (finishedWorld a result w).storable = true) :
      BackupEnd w (.execute a) (finishedWorld a result w)
  | raised (a : BackupAttempt) (fault : OperationsFault) (hwaiting : Waiting w) :
      BackupEnd w (.execute a) { w with
        calls := w.calls + 1
        pending := w.pending ++ [attemptError fault a.retryAllowed] }
  | recorded (index : Nat) (now : Int) (error : AttemptError) (hwaiting : Waiting w)
      (herror : w.pending[index]? = some error)
      (hstored : storableText (storedAttemptError error.code error.retryExhausted) = true) :
      BackupEnd w (.record index now) { w with
        pending := w.pending.eraseIdx index
        run := recordedRun now error w.run }
  | lost (index : Nat) (now : Int) (error : AttemptError)
      (herror : w.pending[index]? = some error)
      (hlost : ¬ (Waiting w ∧ storableText (storedAttemptError error.code error.retryExhausted) = true)) :
      BackupEnd w (.record index now) { w with pending := w.pending.eraseIdx index }
  | failed (now : Int) (code : String) (hwaiting : Waiting w)
      (hstored : storableText (String.ofList (code.toList.take 120)) = true) :
      BackupEnd w (.fail now code) { w with run := failedRun now code w.run }
  | retried (hexhausted : isRetryExhaustedFailure w.run.failureCode = true)
      (hfailed : w.run.state = .failed) (hevidence : w.evidence = []) :
      BackupEnd w .retry { w with run := retriedRun w.run }

theorem execute_end (hw : BackupBooks w) (a : BackupAttempt) :
    BackupEnd w (.execute a) (stepBackup w (.execute a)) := by
  show BackupEnd w (.execute a) (executeStep a w)
  unfold executeStep
  by_cases h : Waiting w
  · rcases executeBackup_waiting hw h a with ⟨result, hvalid, hstored, hrun⟩ | ⟨fault, t, hrun, hcalls⟩
    · rw [hrun]
      exact .finished a result h hvalid hstored
    · rw [hrun]
      simp only [hcalls]
      exact .raised a fault h
  · have hrun : executeBackup a w = .ok () w := by
      unfold executeBackup
      rw [bind_run_ok (get_run w)]
      exact congrFun (if_neg h) w
    rw [hrun]
    exact .unchanged _ (fun _ _ heq => nomatch heq) (fun _ _ heq => nomatch heq)

/-- A transaction that changes the run only while it is open. -/
theorem commitOr_whenOpen {rolledBack : BackupWorld} (hw : w.storable = true)
    (change : BackupRun → BackupRun) : commitOr rolledBack (do
        let w ← get
        if w.run.state ∈ openStates then
          updateRun change
          flushBackup
        else pure ()) w =
      if w.run.state ∈ openStates then
        if (change w.run).storable = true then { w with run := change w.run } else rolledBack
      else w := by
  by_cases hopen : w.run.state ∈ openStates
  · rw [if_pos hopen, ← storable_run hw]
    refine Eq.trans ?_ (commitOr_updateRun rolledBack w change)
    simp only [commitOr, bind_run_ok (get_run w), if_pos hopen]
  · rw [if_neg hopen]
    simp only [commitOr, bind_run_ok (get_run w), if_neg hopen]
    rfl

theorem BackupBooks.storable_providerRunRef (hw : BackupBooks w) :
    w.run.providerRunRef.all storableText = true := by
  have hrun := hw.stored
  simp only [BackupWorld.storable, BackupRun.storable, Bool.and_eq_true] at hrun
  exact hrun.1.1.1

theorem failedRun_storable (hw : BackupBooks w) (now : Int) (code : String) :
    (failedRun now code w.run).storable =
      storableText (String.ofList (code.toList.take 120)) := by
  simp only [BackupRun.storable, failedRun, hw.storable_providerRunRef, Option.all_some, Bool.true_and]

theorem recordedRun_storable (now : Int) (error : AttemptError) (run : BackupRun) :
    (recordedRun now error run).storable =
      storableText (storedAttemptError error.code error.retryExhausted) := by
  simp only [BackupRun.storable, recordedRun, Option.all_some, Option.all_none, Bool.true_and]

section

variable (hw : BackupBooks w)

include hw

theorem fail_end (now : Int) (code : String) :
    BackupEnd w (.fail now code) (stepBackup w (.fail now code)) := by
  have hstep : stepBackup w (.fail now code) = commitOr w (failBackup now code) w := rfl
  rw [hstep, failBackup, commitOr_whenOpen hw.stored, failedRun_storable hw]
  split_ifs with hopen hstored
  · exact .failed now code (hw.waiting_iff.mp hopen) hstored
  · refine .unchanged _ (fun _ _ heq => nomatch heq) fun _ _ heq => ?_
    cases heq
    exact fun h => hstored h.2
  · refine .unchanged _ (fun _ _ heq => nomatch heq) fun _ _ heq => ?_
    cases heq
    exact fun h => hopen (hw.waiting_iff.mpr h.1)

theorem record_end (index : Nat) (now : Int) :
    BackupEnd w (.record index now) (stepBackup w (.record index now)) := by
  show BackupEnd w (.record index now) (recordStep index now w)
  unfold recordStep
  cases herror : w.pending[index]? with
  | none =>
    refine .unchanged _ (fun _ _ heq => ?_) fun _ _ heq => nomatch heq
    cases heq
    exact herror
  | some error =>
    have herased : ({ w with pending := w.pending.eraseIdx index } : BackupWorld).storable = true :=
      hw.stored
    simp only [recordBackupAttemptError]
    rw [commitOr_whenOpen herased, recordedRun_storable]
    split_ifs with hopen hstored
    · exact .recorded index now error (hw.waiting_iff.mp hopen) herror hstored
    · exact .lost index now error herror fun h => hstored h.2
    · exact .lost index now error herror fun h => hopen (hw.waiting_iff.mpr h.1)

theorem retry_end : BackupEnd w .retry (stepBackup w .retry) := by
  have hunchanged : BackupEnd w .retry w :=
    .unchanged _ (fun _ _ heq => nomatch heq) fun _ _ heq => nomatch heq
  show BackupEnd w .retry (commitOr w retryBackup w)
  unfold commitOr retryBackup
  rw [bind_run_ok (get_run w)]
  by_cases hwaiting : w.run.state = .queued ∨ w.run.state = .retrying
  · rw [if_pos hwaiting]
    exact hunchanged
  rw [if_neg hwaiting]
  by_cases hexhausted : w.run.state = .failed ∧ isRetryExhaustedFailure w.run.failureCode = true
  · rw [ensure, if_pos hexhausted, bind_run_ok (pure_run () w)]
    by_cases hevidence : w.evidence = []
    · have hstored : ({ w with run := retriedRun w.run } : BackupWorld).storable = true := by
        rw [storable_run hw.stored]
        rfl
      rw [ensure, if_pos hevidence, bind_run_ok (pure_run () w), updateRun,
        bind_run_ok (modify_run _ w), flushBackup_ok hstored]
      exact .retried hexhausted.2 hexhausted.1 hevidence
    · rw [ensure, if_neg hevidence, bind_run_error (throw_run _ w)]
      exact hunchanged
  · rw [ensure, if_neg hexhausted, bind_run_error (throw_run _ w)]
    exact hunchanged

theorem step_end (step : BackupStep) : BackupEnd w step (stepBackup w step) := by
  cases step with
  | execute a => exact execute_end hw a
  | record index now => exact record_end hw index now
  | fail now code => exact fail_end hw now code
  | retry => exact retry_end hw

end

/-! ## The books of a run -/

/-- The verdict on an attempt: what it leaves stands for its evidence. -/
theorem finishAttempt_ends (run : BackupRun) : EndsWithEvidence (finishAttempt result run) ∧
      ((finishAttempt result run).state = .succeeded → result.verified = some true ∧
        withinRpo run.rpoMinutes result.completedAt result.restorePointAt = true) := by
  unfold finishAttempt
  by_cases h : result.verified = some true ∧ result.encryptionKeyVersion ≠ "" ∧
      withinRpo run.rpoMinutes result.completedAt result.restorePointAt = true
  · simp only [if_pos h]
    exact ⟨.inl rfl, fun _ => ⟨h.1, h.2.2⟩⟩
  · simp only [if_neg h]
    refine ⟨.inr ⟨rfl, _, ?_, rfl⟩, fun hstate => nomatch hstate⟩
    split <;> simp [evidenceCodes]

theorem finishAttempt_frame (run : BackupRun) : (finishAttempt result run).attemptCount = run.attemptCount ∧
      (finishAttempt result run).rpoMinutes = run.rpoMinutes := by
  unfold finishAttempt
  simp only
  split <;> exact ⟨rfl, rfl⟩

theorem books_step (hw : BackupBooks w) (step : BackupStep) : BackupBooks (stepBackup w step) := by
  have hend := step_end hw step
  generalize stepBackup w step = after at hend
  cases hend with
  | unchanged => exact hw
  | finished a result hwaiting hvalid hstored =>
    obtain ⟨hends, hsucceeded⟩ := finishAttempt_ends result (startAttempt a.startedAt w.run)
    refine ⟨hstored, ?_, fun _ => hends, fun hstate => ?_⟩
    · rcases hends with h | h
      · exact .inr (.inr (.inl h))
      · exact .inr (.inr (.inr h.1))
    · refine ⟨evidenceOfResult w.run result, by simp [finishedWorld], (hsucceeded hstate).1, ?_⟩
      have hrpo := (finishAttempt_frame result (startAttempt a.startedAt w.run)).2
      exact (congrArg (withinRpo · _ _) hrpo).trans (hsucceeded hstate).2
  | raised a fault hwaiting => exact ⟨hw.stored, hw.resting, hw.ended, hw.verified⟩
  | recorded index now error hwaiting herror hstored =>
    have hevidence := hw.evidence_of_waiting hwaiting
    refine ⟨?_, ?_, fun h => absurd hevidence h, fun hstate => ?_⟩
    · exact (storable_run hw.stored _).trans ((recordedRun_storable now error w.run).trans hstored)
    · simp only [recordedRun]
      split <;> simp
    · simp only [recordedRun] at hstate
      split at hstate <;> cases hstate
  | lost index now error herror hlost => exact ⟨hw.stored, hw.resting, hw.ended, hw.verified⟩
  | failed now code hwaiting hstored =>
    have hevidence := hw.evidence_of_waiting hwaiting
    refine ⟨?_, .inr (.inr (.inr rfl)), fun h => absurd hevidence h, fun hstate => nomatch hstate⟩
    exact (storable_run hw.stored _).trans ((failedRun_storable hw now code).trans hstored)
  | retried _ _ hevidence =>
    refine ⟨?_, .inr (.inl rfl), fun h => absurd hevidence h, fun hstate => nomatch hstate⟩
    exact storable_run hw.stored _

/-! ## The evidence of a run -/

/-- What is to hold of a run at every moment: its evidence and its state say the same, and every
call of the controller is counted or is still to be recorded by its delivery. -/
structure EvidenceTold (w : BackupWorld) : Prop where
  evidence_iff : w.evidence ≠ [] ↔ EndsWithEvidence w.run
  unique : w.evidence.length ≤ 1
  verified : w.run.state = .succeeded → ∃ evidence ∈ w.evidence, evidence.verified = some true ∧
    ∃ completed restorePoint, evidence.completedAt = some completed ∧
      evidence.restorePointAt = some restorePoint ∧
      completed - restorePoint ≤ (w.run.rpoMinutes : Int) * 60 * 1000000
  counted : w.run.attemptCount + w.pending.length = w.calls

/-- The error of an attempt is recorded on a run that is still open, in a text that the database
takes, and does not end the run under a code that stands for evidence; nor does a failure. -/
def RecordsAttempt (w : BackupWorld) : BackupStep → Prop
  | .execute _ | .retry => True
  | .record index _ => ∀ error, w.pending[index]? = some error → w.run.state ∈ openStates ∧
      storableText (storedAttemptError error.code error.retryExhausted) = true ∧
      (error.retry = false → storedAttemptError error.code error.retryExhausted ∉ evidenceCodes)
  | .fail _ code => w.run.state ∈ openStates → String.ofList (code.toList.take 120) ∉ evidenceCodes

theorem withinRpo_iff {rpoMinutes : Nat} {completedAt restorePointAt : Option Int} :
    withinRpo rpoMinutes completedAt restorePointAt = true ↔
      ∃ completed restorePoint, completedAt = some completed ∧ restorePointAt = some restorePoint ∧
        completed - restorePoint ≤ (rpoMinutes : Int) * 60 * 1000000 := by
  cases completedAt <;> cases restorePointAt <;> simp [withinRpo]

/-- What of it always holds, and what is left to show. -/
theorem BackupBooks.told_iff (hw : BackupBooks w) :
    EvidenceTold w ↔ (EndsWithEvidence w.run → w.evidence ≠ []) ∧
      w.run.attemptCount + w.pending.length = w.calls := by
  constructor
  · exact fun h => ⟨h.evidence_iff.mpr, h.counted⟩
  · rintro ⟨hends, hcounted⟩
    refine ⟨⟨hw.ended, hends⟩, ?_, fun hstate => ?_, hcounted⟩
    · have hstored := hw.stored
      simp only [BackupWorld.storable, Bool.and_eq_true, decide_eq_true_eq] at hstored
      exact hstored.2
    · obtain ⟨evidence, hmem, hverified, hrpo⟩ := hw.verified hstate
      exact ⟨evidence, hmem, hverified, withinRpo_iff.mp hrpo⟩

theorem evidenceCodes_storable {code : String} (h : code ∈ evidenceCodes) : storableText code = true := by
  simp only [evidenceCodes, List.mem_cons, List.not_mem_nil, or_false] at h
  rcases h with rfl | rfl <;> decide

theorem length_eraseIdx_of_getElem? {pending : List AttemptError} {index : Nat} {error : AttemptError}
    (h : pending[index]? = some error) : (pending.eraseIdx index).length + 1 = pending.length := by
  obtain ⟨hlt, _⟩ := List.getElem?_eq_some_iff.mp h
  rw [List.length_eraseIdx_of_lt hlt]
  omega

theorem recordedRun_attemptCount (now : Int) (error : AttemptError) (h : Waiting w) :
    (recordedRun now error w.run).attemptCount = w.run.attemptCount + 1 := by
  have hrunning : w.run.state ≠ .running := by
    rintro hstate
    simp [Waiting, hstate] at h
  simp only [recordedRun, if_neg hrunning]

theorem recordedRun_ends_iff (now : Int) (error : AttemptError) (run : BackupRun) :
    EndsWithEvidence (recordedRun now error run) ↔ error.retry = false ∧
      storedAttemptError error.code error.retryExhausted ∈ evidenceCodes := by
  cases hretry : error.retry <;> simp [EndsWithEvidence, recordedRun, hretry]

/-- One transaction keeps what is told of the run exactly when it records its attempt. -/
theorem told_step_iff (hw : BackupBooks w) (h : EvidenceTold w) (step : BackupStep) :
    EvidenceTold (stepBackup w step) ↔ RecordsAttempt w step := by
  rw [(books_step hw step).told_iff]
  have hend := step_end hw step
  have hcounted := h.counted
  generalize stepBackup w step = after at hend
  cases hend with
  | unchanged _ hrecord hfail =>
    refine iff_of_true ⟨h.evidence_iff.mpr, hcounted⟩ ?_
    cases step with
    | execute a => trivial
    | retry => trivial
    | record index now =>
      intro error herror
      cases (hrecord index now rfl).symm.trans herror
    | fail now code =>
      intro hopen hcode
      exact hfail now code rfl ⟨hw.waiting_iff.mp hopen, evidenceCodes_storable hcode⟩
  | finished a result hwaiting hvalid hstored =>
    refine iff_of_true ⟨fun _ => by simp [finishedWorld], ?_⟩ trivial
    have hattempts := (finishAttempt_frame result (startAttempt a.startedAt w.run)).1
    show (finishAttempt result (startAttempt a.startedAt w.run)).attemptCount + w.pending.length = w.calls + 1
    rw [hattempts]
    simp only [startAttempt]
    omega
  | raised a fault hwaiting =>
    refine iff_of_true ⟨h.evidence_iff.mpr, ?_⟩ trivial
    simp only [List.length_append, List.length_singleton]
    omega
  | recorded index now error hwaiting herror hstored =>
    have hevidence := hw.evidence_of_waiting hwaiting
    have hlength := length_eraseIdx_of_getElem? herror
    have hattempts := recordedRun_attemptCount now error hwaiting
    have hends := recordedRun_ends_iff now error w.run
    constructor
    · rintro ⟨hnever, _⟩ error' herror'
      cases herror.symm.trans herror'
      refine ⟨hw.waiting_iff.mpr hwaiting, hstored, fun hretry hcode => ?_⟩
      exact hnever (hends.mpr ⟨hretry, hcode⟩) hevidence
    · intro hrecords
      have hcounted' : (recordedRun now error w.run).attemptCount +
          (w.pending.eraseIdx index).length = w.calls := by omega
      refine ⟨fun hended => ?_, hcounted'⟩
      obtain ⟨hretry, hcode⟩ := hends.mp hended
      exact absurd hcode ((hrecords error herror).2.2 hretry)
  | lost index now error herror hlost =>
    have hlength := length_eraseIdx_of_getElem? herror
    refine iff_of_false (fun hrest => ?_) fun hrecords => ?_
    · have hcounted' := hrest.2
      simp only at hcounted'
      omega
    · have hrecord := hrecords error herror
      exact hlost ⟨hw.waiting_iff.mp hrecord.1, hrecord.2.1⟩
  | failed now code hwaiting hstored =>
    have hevidence := hw.evidence_of_waiting hwaiting
    constructor
    · rintro ⟨hnever, _⟩ _ hcode
      exact hnever (.inr ⟨rfl, _, hcode, rfl⟩) hevidence
    · intro hrecords
      refine ⟨fun hended => ?_, hcounted⟩
      rcases hended with hstate | ⟨_, code', hmem, hcode⟩
      · cases hstate
      · cases hcode
        exact absurd hmem (hrecords (hw.waiting_iff.mpr hwaiting))
  | retried hexhausted hfailed hevidence =>
    refine iff_of_true ⟨fun hended => ?_, hcounted⟩ trivial
    rcases hended with hstate | ⟨hstate, _⟩ <;> cases hstate

/-! ## Runs of transactions -/

/-- Once evidence exists, no transaction changes the run or its evidence. -/
theorem evidence_final_step (hw : BackupBooks w) (h : w.evidence ≠ []) (step : BackupStep) :
    (stepBackup w step).run = w.run ∧ (stepBackup w step).evidence = w.evidence := by
  have hnot : ¬ Waiting w := fun hwaiting => h (hw.evidence_of_waiting hwaiting)
  have hend := step_end hw step
  generalize stepBackup w step = after at hend
  cases hend with
  | unchanged => exact ⟨rfl, rfl⟩
  | finished a result hwaiting => exact absurd hwaiting hnot
  | raised a fault hwaiting => exact absurd hwaiting hnot
  | recorded index now error hwaiting => exact absurd hwaiting hnot
  | lost index now error herror hlost => exact ⟨rfl, rfl⟩
  | failed now code hwaiting => exact absurd hwaiting hnot
  | retried _ _ hevidence => exact absurd hevidence h

theorem evidence_final (hw : BackupBooks w) (h : w.evidence ≠ []) (steps : List BackupStep) :
    (run stepBackup w steps).run = w.run ∧ (run stepBackup w steps).evidence = w.evidence := by
  induction steps generalizing w with
  | nil => exact ⟨rfl, rfl⟩
  | cons step steps ih =>
    obtain ⟨hrun, hevidence⟩ := evidence_final_step hw h step
    obtain ⟨hrun', hevidence'⟩ := ih (books_step hw step) (by rw [hevidence]; exact h)
    exact ⟨hrun'.trans hrun, hevidence'.trans hevidence⟩

/-- A run that has just been requested. -/
structure NewBackup (w : BackupWorld) : Prop where
  stored : w.storable = true
  queued : w.run.state = .queued
  unattempted : w.run.attemptCount = 0 ∧ w.calls = 0 ∧ w.pending = []
  evidence : w.evidence = []

/-- What the transactions are to leave of a run: its evidence is told by its state, and nothing
that happened after it was recorded has changed the run. -/
structure EvidenceKept (w : BackupWorld) (steps : List BackupStep) : Prop extends
    EvidenceTold (run stepBackup w steps) where
  final : ∀ before, before <+: steps → (run stepBackup w before).evidence ≠ [] →
    (run stepBackup w steps).run = (run stepBackup w before).run ∧
      (run stepBackup w steps).evidence = (run stepBackup w before).evidence

/-- The evidence of a run is unique, final and told by its state, and its attempts are counted,
throughout any order of transactions exactly when each of them records its attempt. -/
theorem backup_evidence_iff {w : BackupWorld} (hw : NewBackup w) (steps : List BackupStep) :
    (∀ before, before <+: steps → EvidenceKept w before) ↔
      Along stepBackup RecordsAttempt w steps := by
  have hbooks : BackupBooks w :=
    ⟨hw.stored, .inl hw.queued, fun h => absurd hw.evidence h, fun h => (by cases hw.queued.symm.trans h)⟩
  have htold : EvidenceTold w := by
    refine hbooks.told_iff.mpr ⟨fun hends => ?_, ?_⟩
    · exact absurd hends (not_ended_of_waiting (.inl hw.queued))
    · obtain ⟨hattempts, hcalls, hpending⟩ := hw.unattempted
      rw [hattempts, hcalls, hpending]
      rfl
  have hiff := throughout_iff_along_of_invariant (I := fun w => BackupBooks w ∧ EvidenceTold w)
    (P := EvidenceTold) (Q := RecordsAttempt) (R := fun _ _ => True) stepBackup (fun _ h => h.2)
    (fun _ step h _ => told_step_iff h.1 h.2 step)
    (fun _ step h _ hrecords => ⟨books_step h.1 step, (told_step_iff h.1 h.2 step).mpr hrecords⟩)
    ⟨hbooks, htold⟩ (along_of_always stepBackup (fun _ _ => trivial) w steps)
  rw [← hiff]
  constructor
  · exact fun h before hbefore => (h before hbefore).toEvidenceTold
  · intro h before hbefore
    refine ⟨h before hbefore, fun earlier hearlier hevidence => ?_⟩
    obtain ⟨later, rfl⟩ := hearlier
    rw [run_append]
    exact evidence_final (invariant_run (I := BackupBooks) stepBackup
      (fun _ step h => books_step h step) hbooks earlier) hevidence later

/-- Whatever the order of transactions, a run that has succeeded has verified evidence of a restore
point within its policy, and between transactions no run is under way. -/
theorem backup_succeeds_verified {w : BackupWorld} (hw : NewBackup w) (steps : List BackupStep) :
    ((run stepBackup w steps).run.state = .succeeded →
      ∃ evidence ∈ (run stepBackup w steps).evidence, evidence.verified = some true ∧
        withinRpo (run stepBackup w steps).run.rpoMinutes evidence.completedAt
          evidence.restorePointAt = true) ∧
    (run stepBackup w steps).run.state ≠ .running := by
  have hbooks := invariant_run (I := BackupBooks) stepBackup (fun _ step h => books_step h step)
    ⟨hw.stored, .inl hw.queued, fun h => absurd hw.evidence h,
      fun h => (by cases hw.queued.symm.trans h)⟩ steps
  refine ⟨hbooks.verified, fun hrunning => ?_⟩
  rcases hbooks.resting with hstate | hstate | hstate | hstate <;> cases hstate.symm.trans hrunning

/-! ## Attempts that are recorded wrongly -/

def sampleBackup : BackupWorld where
  run := { id := 1, policyVersionId := 2, rpoMinutes := 15, idempotencyKey := "backup",
           requestedAt := 0 }

def sampleHash : String := String.ofList (List.replicate 64 'a')

def sampleResult : BackupExecutionResult where
  providerRunRef := "run"
  snapshotRef := "snapshot"
  snapshotHash := sampleHash
  encryptionKeyVersion := "1"
  startedAt := some 10
  completedAt := some 20
  restorePointAt := some 15
  sizeBytes := some 100
  verified := some true
  evidenceObjectRef := "evidence"
  evidenceHash := sampleHash

def sampleAttempt (answer : Except OperationsFault BackupExecutionResult) : BackupStep :=
  .execute { startedAt := 5, answer, checkedAt := 30, retryAllowed := true }

/-- The controller reports a failed verification by an exception. -/
def sampleVerificationFault : OperationsFault := .app {
  code := "BACKUP_VERIFICATION_FAILED"
  message := "verification failed"
  statusCode := 422 }

theorem sampleBackup_new : NewBackup sampleBackup := ⟨by decide, rfl, ⟨rfl, rfl, rfl⟩, rfl⟩

theorem backup_evidence_sample :
    (∀ before, before <+: [sampleAttempt (.ok sampleResult)] → EvidenceKept sampleBackup before) ↔
      Along stepBackup RecordsAttempt sampleBackup [sampleAttempt (.ok sampleResult)] :=
  backup_evidence_iff sampleBackup_new [sampleAttempt (.ok sampleResult)]

theorem backup_succeeds_verified_sample :
    ∃ evidence ∈ (run stepBackup sampleBackup [sampleAttempt (.ok sampleResult)]).evidence,
      evidence.verified = some true := by
  obtain ⟨evidence, hevidence, hverified, -⟩ :=
    (backup_succeeds_verified sampleBackup_new [sampleAttempt (.ok sampleResult)]).1 (by decide +kernel)
  exact ⟨evidence, hevidence, hverified⟩

/-- A delivery fails, and before it has recorded its error a second one succeeds: the run has one
attempt for two calls.  And a failure that the controller names after the missing evidence leaves
the run in a state that stands for evidence. -/
theorem backup_attempts_lost :
    let overtaken := run stepBackup sampleBackup [sampleAttempt (.error .transient),
      sampleAttempt (.ok sampleResult), .record 0 40]
    let misnamed := run stepBackup sampleBackup [sampleAttempt (.error sampleVerificationFault), .record 0 40]
    NewBackup sampleBackup ∧
      (overtaken.run.state = .succeeded ∧ overtaken.run.attemptCount = 1 ∧ overtaken.calls = 2 ∧
        overtaken.pending = []) ∧
      (misnamed.run.state = .failed ∧
        misnamed.run.failureCode = some "BACKUP_VERIFICATION_FAILED" ∧ misnamed.evidence = []) ∧
      ¬ EvidenceTold overtaken ∧ ¬ EvidenceTold misnamed := by
  intro overtaken misnamed
  have hovertaken : overtaken.run.state = .succeeded ∧ overtaken.run.attemptCount = 1 ∧
      overtaken.calls = 2 ∧ overtaken.pending = [] := by decide +kernel
  have hmisnamed : misnamed.run.state = .failed ∧
      misnamed.run.failureCode = some "BACKUP_VERIFICATION_FAILED" ∧
      misnamed.evidence = [] := by decide +kernel
  refine ⟨sampleBackup_new, hovertaken, hmisnamed, fun h => ?_, fun h => ?_⟩
  · have hcounted := h.counted
    rw [hovertaken.2.1, hovertaken.2.2.1, hovertaken.2.2.2] at hcounted
    exact absurd hcounted (by decide)
  · refine h.evidence_iff.mpr (.inr ⟨hmisnamed.1, _, ?_, hmisnamed.2.1⟩) hmisnamed.2.2
    simp [evidenceCodes]

end BlogOps.Operations
