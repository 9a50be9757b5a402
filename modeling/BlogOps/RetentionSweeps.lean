import BlogOps.EffectRules
import BlogOps.LegalHolds
import BlogOps.TransitionRuns

/-!
# Retention sweeps

`execute_retention_sweep`, `fail_retention_sweep` and the task `_run_retention`
around them.  An exception of the execution is caught inside the transaction,
which keeps everything that was added to the session before it.
-/

namespace BlogOps.Security

open EffectRules TransitionRuns

inductive RetentionSweepState where
  | queued | running | succeeded | partly | failed
deriving DecidableEq, Repr

structure RetentionPolicyVersion where
  id : Uuid
  version : Nat
  /-- The disposition of each data class that has a rule. -/
  rules : List (String × String)
  effectiveAt : Int
  retiredAt : Option Int := none
deriving DecidableEq, Repr

structure RetentionSweep where
  id : Uuid
  workspaceId : Uuid
  policyVersionId : Uuid
  /-- `policy_snapshot["rules"]`. -/
  policyRules : List (String × String)
  legalHoldSnapshot : List HoldEntry
  legalHoldSnapshotHash : String
  idempotencyKey : String
  state : RetentionSweepState := .queued
  startedAt : Option Int := none
  completedAt : Option Int := none
  failureCode : Option String := none
deriving DecidableEq, Repr

/-- What the executor says of one data class in one system; a count that is not an integer and
a verdict that is not a boolean are `none`. -/
structure RetentionDispositionResult where
  dataClass : String
  targetSystem : String
  cutoffAt : Option Int
  disposition : String
  affectedRecords : Option Int
  heldRecords : Option Int
  passed : Option Bool
  evidenceObjectRef : String
  evidenceHash : String
  completedAt : Option Int
deriving DecidableEq, Repr

structure CheckedResult where
  result : RetentionDispositionResult
  now : Int
deriving DecidableEq, Repr

structure RetentionDispositionEvidence where
  workspaceId : Uuid
  sweepId : Uuid
  dataClass : String
  targetSystem : String
  cutoffAt : Option Int
  disposition : String
  affectedRecords : Option Int
  heldRecords : Option Int
  passed : Option Bool
  evidenceObjectRef : String
  evidenceHash : String
  completedAt : Option Int
deriving DecidableEq, Repr

inductive ExecutorAnswer where
  | returned (results : List CheckedResult)
  | raised (failure : Failure)
deriving DecidableEq, Repr

/-- A call of the executor: the holds it was handed, the time, and its answer. -/
structure RetentionCall where
  legalHoldSnapshot : List HoldEntry
  calledAt : Int
  answer : ExecutorAnswer
deriving DecidableEq, Repr

/-- A sweep with its evidence, as a session holds them; `calls` are the calls of the executor
since the sweep was made, which no rollback takes back. -/
structure SweepSession where
  sweep : RetentionSweep
  evidence : List RetentionDispositionEvidence := []
  calls : List RetentionCall := []
  /-- A flush failed, and the session refuses every further query. -/
  broken : Bool := false
deriving DecidableEq, Repr

abbrev SweepM := EStateM Failure SweepSession

/-- What a delivery of the task meets: the policies and holds of the workspace, queried at `now`,
and the executor that is configured, if any, which is called at `calledAt`. -/
structure RetentionDelivery where
  now : Int
  startedAt : Int
  calledAt : Int
  now_le : now ≤ calledAt
  finishedAt : Int
  policies : List RetentionPolicyVersion
  holds : List LegalHold
  executor : Option ExecutorAnswer

def RetentionDispositionResult.target (result : RetentionDispositionResult) : String × String :=
  (result.dataClass, result.targetSystem)

def validResult (rules : List (String × String)) (targets : List (String × String))
    (checked : CheckedResult) : Bool :=
  let result := checked.result
  result.dataClass ∈ dataClassValues && rules.lookup result.dataClass = some result.disposition &&
    result.targetSystem ≠ "" && result.targetSystem.length ≤ 120 && result.target ∉ targets &&
    result.affectedRecords.any (0 ≤ ·) && result.heldRecords.any (0 ≤ ·) &&
    result.passed.isSome && result.evidenceObjectRef ≠ "" &&
    result.evidenceObjectRef.length ≤ 1000 && isSha256Hex result.evidenceHash &&
    result.cutoffAt.any (fun cutoff => result.completedAt.any fun completed =>
      cutoff ≤ completed && completed ≤ checked.now + fiveMinutes)

def evidenceOf (sweep : RetentionSweep) (result : RetentionDispositionResult) :
    RetentionDispositionEvidence where
  workspaceId := sweep.workspaceId
  sweepId := sweep.id
  dataClass := result.dataClass
  targetSystem := result.targetSystem
  cutoffAt := result.cutoffAt
  disposition := result.disposition
  affectedRecords := result.affectedRecords
  heldRecords := result.heldRecords
  passed := result.passed
  evidenceObjectRef := result.evidenceObjectRef
  evidenceHash := result.evidenceHash
  completedAt := result.completedAt

/-- The columns hold 32-bit integers, and a text of the database holds no zero character. -/
def storable (row : RetentionDispositionEvidence) : Bool :=
  row.affectedRecords.all (· ≤ 2147483647) && row.heldRecords.all (· ≤ 2147483647) &&
    Char.ofNat 0 ∉ row.targetSystem.toList && Char.ofNat 0 ∉ row.evidenceObjectRef.toList

def evidenceInvalid : Failure := contractBroken "RETENTION_EVIDENCE_INVALID"
  "보존 만료 실행 증거가 서버 정책과 일치하지 않습니다."

def evidenceIncomplete : Failure := contractBroken "RETENTION_EVIDENCE_INCOMPLETE"
  "보존 만료 실행 증거가 모든 데이터 유형을 포함하지 않습니다."

def liftResult {α : Type} : Except Failure α → SweepM α
  | .ok a => pure a
  | .error failure => throw failure

def currentRetentionPolicy (now : Int) (policies : List RetentionPolicyVersion) :
    Except Failure RetentionPolicyVersion :=
  match (policies.filter fun policy =>
      policy.effectiveAt ≤ now && policy.retiredAt.all (now < ·)).mergeSort
        (fun policy other => other.version ≤ policy.version) with
  | policy :: _ => .ok policy
  | [] => .error (contractBroken "RETENTION_POLICY_UNAVAILABLE" "유효한 데이터 보존 정책이 없습니다.")

/-- A flush that fails leaves the session unusable. -/
def flushSweep : SweepM Unit := do
  let s ← get
  if s.evidence.all storable then pure ()
  else
    modify ({ · with broken := true })
    throw (.integrity "security_retention_disposition_evidence")

/-- The loop over the results: what is valid is added, the first that is not raises. -/
def recordResults (rules : List (String × String)) :
    List CheckedResult → List (String × String) → SweepM Unit
  | [], _ => pure ()
  | checked :: rest, targets => do
    if validResult rules targets checked then
      modify fun s => { s with evidence := s.evidence ++ [evidenceOf s.sweep checked.result] }
      recordResults rules rest (checked.result.target :: targets)
    else throw evidenceInvalid

def callExecutor (calledAt : Int) (answer : ExecutorAnswer) : SweepM (List CheckedResult) := do
  modify fun s => { s with calls := s.calls ++ [⟨s.sweep.legalHoldSnapshot, calledAt, answer⟩] }
  match answer with
  | .returned results => pure results
  | .raised failure => throw failure

def coversAll (results : List CheckedResult) : Bool :=
  dataClassValues.all fun c => results.any (·.result.dataClass = c)

def finishSweep (finishedAt : Int) (results : List CheckedResult) (s : SweepSession) : SweepSession :=
  { s with sweep := { s.sweep with
      state := if results.all (·.result.passed = some true) then .succeeded else .partly
      completedAt := some finishedAt } }

section Execution

variable [SecurityHashes]

/-- The tests that come before the executor is called. -/
def checkSweep (d : RetentionDelivery) (sweep : RetentionSweep) : Except Failure Unit := do
  let policy ← currentRetentionPolicy d.now d.policies
  require (policy.id = sweep.policyVersionId) (securityConflict "RETENTION_POLICY_CHANGED"
    "보존 정책이 변경되어 만료 작업을 새 정책으로 다시 생성해야 합니다.")
  require (SecurityHashes.holdSnapshotHash (activeLegalHoldSnapshot d.now d.holds) =
    sweep.legalHoldSnapshotHash) (securityConflict "RETENTION_LEGAL_HOLD_CHANGED"
      "Legal Hold 범위가 변경되어 보존 만료 작업을 안전하게 실행할 수 없습니다.")

def executeRetentionSweep (d : RetentionDelivery) (answer : ExecutorAnswer) : SweepM Unit := do
  let s ← get
  if s.sweep.state = .queued then
    liftResult (checkSweep d s.sweep)
    modify fun s => { s with sweep := { s.sweep with
      state := .running
      startedAt := some d.startedAt } }
    flushSweep
    let results ← callExecutor d.calledAt answer
    recordResults s.sweep.policyRules results []
    if coversAll results then
      modify (finishSweep d.finishedAt results)
      flushSweep
    else throw evidenceIncomplete

def failSweep (finishedAt : Int) (code : String) (s : SweepSession) : SweepSession :=
  { s with sweep := { s.sweep with
      state := .failed
      failureCode := some (String.ofList (code.toList.take 120))
      completedAt := some finishedAt } }

def failRetentionSweep (finishedAt : Int) (code : String) : SweepM Unit := do
  let s ← get
  if s.broken then throw (.integrity "PendingRollbackError")
  else if s.sweep.state = .queued ∨ s.sweep.state = .running then
    modify (failSweep finishedAt code)
    flushSweep

def retentionFailureCode : Failure → String
  | .app error => error.code
  | _ => "RETENTION_EXECUTION_FAILED"

def runRetention (d : RetentionDelivery) : SweepM Unit :=
  match d.executor with
  | none => failRetentionSweep d.finishedAt "RETENTION_EXECUTOR_UNAVAILABLE"
  | some answer => tryCatch (executeRetentionSweep d answer) fun failure =>
      failRetentionSweep d.finishedAt (retentionFailureCode failure)

/-- One delivery: what leaves the task is rolled back. -/
def deliverSweep (s : SweepSession) (d : RetentionDelivery) : SweepSession :=
  match runRetention d s with
  | .ok _ after => after
  | .error _ after => { s with calls := after.calls }

def Commits (s : SweepSession) (d : RetentionDelivery) : Prop :=
  ∃ after, runRetention d s = .ok () after

end Execution

/-- The results before the first that is not valid. -/
def validPart (rules : List (String × String)) :
    List CheckedResult → List (String × String) → List CheckedResult
  | [], _ => []
  | checked :: rest, targets =>
    if validResult rules targets checked then
      checked :: validPart rules rest (checked.result.target :: targets)
    else []

def addEvidence (results : List CheckedResult) (s : SweepSession) : SweepSession :=
  { s with evidence := s.evidence ++ results.map fun checked => evidenceOf s.sweep checked.result }

def answeredSession (d : RetentionDelivery) (answer : ExecutorAnswer) (s : SweepSession) :
    SweepSession :=
  { s with
    sweep := { s.sweep with
      state := .running
      startedAt := some d.startedAt }
    calls := s.calls ++ [⟨s.sweep.legalHoldSnapshot, d.calledAt, answer⟩] }

theorem recordResults_run (rules : List (String × String)) (results : List CheckedResult)
    (targets : List (String × String)) (s : SweepSession) : recordResults rules results targets s =
      if validPart rules results targets = results then .ok () (addEvidence results s)
      else .error evidenceInvalid (addEvidence (validPart rules results targets) s) := by
  induction results generalizing targets s with
  | nil => simp [recordResults, validPart, addEvidence]
  | cons checked rest ih =>
    unfold recordResults validPart
    by_cases hvalid : validResult rules targets checked = true
    · rw [if_pos hvalid, if_pos hvalid, bind_run_ok (modify_run _ s), ih]
      simp [addEvidence, List.append_assoc]
    · rw [if_neg hvalid, if_neg hvalid]
      simp [addEvidence]

variable {s : SweepSession}

theorem flushSweep_ok (h : s.evidence.all storable = true) : flushSweep s = .ok () s := by
  unfold flushSweep
  rw [bind_run_ok (get_run s), if_pos h]
  rfl

theorem flushSweep_empty (h : s.evidence = []) : flushSweep s = .ok () s := by
  refine flushSweep_ok ?_
  rw [h]
  rfl

theorem flushSweep_error (h : s.evidence.all storable = false) :
    flushSweep s = .error (.integrity "security_retention_disposition_evidence")
      { s with broken := true } := by
  unfold flushSweep
  rw [bind_run_ok (get_run s), h, if_neg Bool.false_ne_true, bind_run_ok (modify_run _ s)]
  rfl

theorem failRetentionSweep_broken (h : s.broken = true) (finishedAt : Int) (code : String) :
    failRetentionSweep finishedAt code s = .error (.integrity "PendingRollbackError") s := by
  unfold failRetentionSweep
  rw [bind_run_ok (get_run s), if_pos h]
  rfl

theorem failRetentionSweep_open (hbroken : s.broken = false)
    (hopen : s.sweep.state = .queued ∨ s.sweep.state = .running) (finishedAt : Int) (code : String) :
    failRetentionSweep finishedAt code s = flushSweep (failSweep finishedAt code s) := by
  unfold failRetentionSweep
  rw [bind_run_ok (get_run s), hbroken, if_neg Bool.false_ne_true, if_pos hopen,
    bind_run_ok (modify_run _ s)]

theorem failRetentionSweep_over (hbroken : s.broken = false)
    (hover : ¬ (s.sweep.state = .queued ∨ s.sweep.state = .running)) (finishedAt : Int)
    (code : String) : failRetentionSweep finishedAt code s = .ok () s := by
  unfold failRetentionSweep
  rw [bind_run_ok (get_run s), hbroken, if_neg Bool.false_ne_true, if_neg hover]
  rfl

theorem callExecutor_run (calledAt : Int) (answer : ExecutorAnswer) (s : SweepSession) :
    callExecutor calledAt answer s = match answer with
      | .returned results => .ok results
          { s with calls := s.calls ++ [⟨s.sweep.legalHoldSnapshot, calledAt, answer⟩] }
      | .raised failure => .error failure
          { s with calls := s.calls ++ [⟨s.sweep.legalHoldSnapshot, calledAt, answer⟩] } := by
  unfold callExecutor
  rw [bind_run_ok (modify_run _ s)]
  cases answer <;> rfl

section Deliveries

variable [SecurityHashes]

/-- A sweep that waits: nothing has been recorded for it. -/
structure Waiting (s : SweepSession) : Prop where
  queued : s.sweep.state = .queued
  evidence : s.evidence = []
  usable : s.broken = false

/-- The delivery reaches the executor with this answer. -/
structure Reaches (s : SweepSession) (d : RetentionDelivery) (answer : ExecutorAnswer) : Prop where
  executor : d.executor = some answer
  checked : checkSweep d s.sweep = .ok ()

theorem executeRetentionSweep_over (h : s.sweep.state ≠ .queued) (d : RetentionDelivery)
    (answer : ExecutorAnswer) : executeRetentionSweep d answer s = .ok () s := by
  unfold executeRetentionSweep
  rw [bind_run_ok (get_run s), if_neg h]
  rfl

variable {d : RetentionDelivery} {failure : Failure} {answer : ExecutorAnswer}
variable {results : List CheckedResult}

theorem executeRetentionSweep_refused (h : Waiting s) (answer : ExecutorAnswer)
    (hrefused : checkSweep d s.sweep = .error failure) :
    executeRetentionSweep d answer s = .error failure s := by
  unfold executeRetentionSweep
  rw [bind_run_ok (get_run s), if_pos h.queued, hrefused]
  rfl

theorem executeRetentionSweep_start (h : Waiting s) (answer : ExecutorAnswer)
    (hchecked : checkSweep d s.sweep = .ok ()) : executeRetentionSweep d answer s = match answer with
      | .raised failure => .error failure (answeredSession d answer s)
      | .returned results => (do
          recordResults s.sweep.policyRules results []
          if coversAll results then
            modify (finishSweep d.finishedAt results)
            flushSweep
          else throw evidenceIncomplete) (answeredSession d answer s) := by
  unfold executeRetentionSweep
  rw [bind_run_ok (get_run s), if_pos h.queued, hchecked, bind_run_ok (show liftResult (.ok ()) s =
    .ok () s from rfl), bind_run_ok (modify_run _ s)]
  have hflush : ∀ sweep : RetentionSweep, flushSweep { s with sweep := sweep } =
      .ok () { s with sweep := sweep } := fun sweep => flushSweep_empty h.evidence
  rw [bind_run_ok (hflush _)]
  cases answer with
  | raised failure => exact bind_run_error (callExecutor_run _ _ _) _
  | returned results => exact bind_run_ok (callExecutor_run _ _ _) _

theorem runRetention_of_executor (hexecutor : d.executor = some answer) (s : SweepSession) :
    runRetention d s = tryCatch (executeRetentionSweep d answer)
      (fun failure => failRetentionSweep d.finishedAt (retentionFailureCode failure)) s := by
  unfold runRetention
  rw [hexecutor]

/-- An execution that raises is recorded as failed, in the session as the exception leaves it. -/
theorem runRetention_failed {after : SweepSession} (hexecutor : d.executor = some answer)
    (h : executeRetentionSweep d answer s = .error failure after) (husable : after.broken = false)
    (hopen : after.sweep.state = .queued ∨ after.sweep.state = .running) : runRetention d s =
      flushSweep (failSweep d.finishedAt (retentionFailureCode failure) after) := by
  rw [runRetention_of_executor hexecutor, tryCatch_run_error h]
  exact failRetentionSweep_open husable hopen _ _

/-- The rows that a part of the results makes. -/
def partRows (results : List CheckedResult) (s : SweepSession) : List RetentionDispositionEvidence :=
  results.map fun checked => evidenceOf s.sweep checked.result

def Complete (s : SweepSession) (results : List CheckedResult) : Prop :=
  validPart s.sweep.policyRules results [] = results ∧ coversAll results = true

omit [SecurityHashes] in
theorem evidence_answered (h : Waiting s) (d : RetentionDelivery) (answer : ExecutorAnswer)
    (results : List CheckedResult) :
    (addEvidence results (answeredSession d answer s)).evidence = partRows results s := by
  simp only [addEvidence, answeredSession, h.evidence, List.nil_append]
  rfl

theorem executeRetentionSweep_complete (h : Waiting s) (hchecked : checkSweep d s.sweep = .ok ())
    (hcomplete : Complete s results) : executeRetentionSweep d (.returned results) s =
      flushSweep (finishSweep d.finishedAt results
        (addEvidence results (answeredSession d (.returned results) s))) := by
  rw [executeRetentionSweep_start h _ hchecked]
  have hrecorded := recordResults_run s.sweep.policyRules results []
    (answeredSession d (.returned results) s)
  rw [if_pos hcomplete.1] at hrecorded
  simp only
  rw [bind_run_ok hrecorded, if_pos hcomplete.2, bind_run_ok (modify_run _ _)]

/-- An answer that is not complete raises after its valid part was added. -/
theorem executeRetentionSweep_incomplete (h : Waiting s) (hchecked : checkSweep d s.sweep = .ok ())
    (hincomplete : ¬ Complete s results) :
    ∃ failure, executeRetentionSweep d (.returned results) s = .error failure
      (addEvidence (validPart s.sweep.policyRules results [])
        (answeredSession d (.returned results) s)) := by
  rw [executeRetentionSweep_start h _ hchecked]
  have hrecorded := recordResults_run s.sweep.policyRules results []
    (answeredSession d (.returned results) s)
  by_cases hvalid : validPart s.sweep.policyRules results [] = results
  · rw [if_pos hvalid] at hrecorded
    have hcovers : coversAll results ≠ true := fun hcovers => hincomplete ⟨hvalid, hcovers⟩
    refine ⟨evidenceIncomplete, ?_⟩
    simp only
    rw [bind_run_ok hrecorded, if_neg hcovers, hvalid]
    rfl
  · rw [if_neg hvalid] at hrecorded
    exact ⟨evidenceInvalid, bind_run_error hrecorded _⟩

/-- What a committed delivery is to leave: every result of the executor's last answer with its
row of evidence, or a failure without any. -/
inductive AllOrNothing (s : SweepSession) : Prop
  | finished (results : List CheckedResult) (holds : List HoldEntry) (calledAt : Int)
      (hcall : s.calls.getLast? = some ⟨holds, calledAt, .returned results⟩)
      (hstate : s.sweep.state = .succeeded ∨ s.sweep.state = .partly)
      (hevidence : s.evidence = partRows results s)
      (hcovers : ∀ c ∈ dataClassValues, ∃ checked ∈ results, checked.result.dataClass = c)
      (hpassed : s.sweep.state = .succeeded ↔ ∀ checked ∈ results, checked.result.passed = some true)
  | failed (hstate : s.sweep.state = .failed) (hevidence : s.evidence = [])

/-- The executor's answer, if it is asked and the database takes the rows of its valid part, is
invalid from its first result on, or it is valid and covers every data class. -/
def AnswersCleanly (s : SweepSession) (d : RetentionDelivery) : Prop :=
  s.sweep.state = .queued → ∀ results, Reaches s d (.returned results) →
    (partRows (validPart s.sweep.policyRules results []) s).all storable = true →
      validPart s.sweep.policyRules results [] = [] ∨ Complete s results

/-- The sweep is over and its session was not broken. -/
structure Over (s : SweepSession) : Prop where
  closed : ¬ (s.sweep.state = .queued ∨ s.sweep.state = .running)
  usable : s.broken = false

theorem deliverSweep_over (h : Over s) (d : RetentionDelivery) : deliverSweep s d = s := by
  have hrun : runRetention d s = .ok () s := by
    unfold runRetention
    cases d.executor with
    | none => exact failRetentionSweep_over h.usable h.closed _ _
    | some answer =>
      have hqueued : s.sweep.state ≠ .queued := fun hqueued => h.closed (.inl hqueued)
      exact tryCatch_run_ok (executeRetentionSweep_over hqueued d answer) _
  unfold deliverSweep
  rw [hrun]

/-- How a delivery ends that starts with a waiting sweep. -/
inductive SweepEnd (s : SweepSession) (d : RetentionDelivery) : Prop
  | refused (code : String)
      (hunreached : ∀ answer, ¬ Reaches s d answer)
      (hrun : runRetention d s = .ok () (failSweep d.finishedAt code s))
  | raised (failure : Failure) (hreach : Reaches s d (.raised failure)) (code : String)
      (hrun : runRetention d s = .ok ()
        (failSweep d.finishedAt code (answeredSession d (.raised failure) s)))
  | complete (results : List CheckedResult) (hreach : Reaches s d (.returned results))
      (hcomplete : Complete s results)
      (hrun : runRetention d s = .ok () (finishSweep d.finishedAt results
        (addEvidence results (answeredSession d (.returned results) s))))
  | stopped (results : List CheckedResult) (hreach : Reaches s d (.returned results))
      (hincomplete : ¬ Complete s results)
      (hstorable : (partRows (validPart s.sweep.policyRules results []) s).all storable = true)
      (code : String)
      (hrun : runRetention d s = .ok () (failSweep d.finishedAt code
        (addEvidence (validPart s.sweep.policyRules results [])
          (answeredSession d (.returned results) s))))
  | rolledBack (results : List CheckedResult) (hreach : Reaches s d (.returned results))
      (hunstorable : (partRows (validPart s.sweep.policyRules results []) s).all storable = false)
      (hrun : ∃ failure after, runRetention d s = .error failure after ∧
        after.calls = (answeredSession d (.returned results) s).calls)

section

variable (h : Waiting s)

include h

theorem sweepEnd_refused (hexecutor : d.executor = some answer)
    (hrefused : checkSweep d s.sweep = .error failure) : SweepEnd s d := by
  have hrun := runRetention_failed hexecutor (executeRetentionSweep_refused h answer hrefused)
    h.usable (.inl h.queued)
  refine .refused _ (fun answer hreach => ?_) (hrun.trans (flushSweep_empty h.evidence))
  cases hrefused.symm.trans hreach.checked

theorem sweepEnd_unconfigured (hexecutor : d.executor = none) : SweepEnd s d := by
  have hrun : runRetention d s =
      flushSweep (failSweep d.finishedAt "RETENTION_EXECUTOR_UNAVAILABLE" s) := by
    unfold runRetention
    rw [hexecutor]
    exact failRetentionSweep_open h.usable (.inl h.queued) _ _
  refine .refused _ (fun answer hreach => ?_) (hrun.trans (flushSweep_empty h.evidence))
  cases hexecutor.symm.trans hreach.executor

theorem sweepEnd_raised (hreach : Reaches s d (.raised failure)) : SweepEnd s d := by
  have hraised := executeRetentionSweep_start h (.raised failure) hreach.checked
  have hrun := runRetention_failed hreach.executor hraised h.usable (.inr rfl)
  exact .raised failure hreach _ (hrun.trans (flushSweep_empty h.evidence))

theorem sweepEnd_returned (hreach : Reaches s d (.returned results)) : SweepEnd s d := by
  have hevidence := evidence_answered h d (.returned results)
    (validPart s.sweep.policyRules results [])
  by_cases hcomplete : Complete s results
  · have hexecuted := executeRetentionSweep_complete h hreach.checked hcomplete
    rw [hcomplete.1] at hevidence
    by_cases hstorable : (partRows results s).all storable = true
    · have hflushed := hexecuted.trans (flushSweep_ok (hevidence ▸ hstorable))
      refine .complete results hreach hcomplete ?_
      rw [runRetention_of_executor hreach.executor]
      exact tryCatch_run_ok hflushed _
    · have hunstorable := Bool.eq_false_iff.mpr hstorable
      have hflushed := hexecuted.trans (flushSweep_error (hevidence ▸ hunstorable))
      have hrun := runRetention_of_executor hreach.executor s
      rw [tryCatch_run_error hflushed, failRetentionSweep_broken rfl] at hrun
      exact .rolledBack results hreach (hcomplete.1.symm ▸ hunstorable) ⟨_, _, hrun, rfl⟩
  · obtain ⟨failure, hraised⟩ := executeRetentionSweep_incomplete h hreach.checked hcomplete
    have hrun := runRetention_failed hreach.executor hraised h.usable (.inr rfl)
    by_cases hstorable :
        (partRows (validPart s.sweep.policyRules results []) s).all storable = true
    · exact .stopped results hreach hcomplete hstorable _
        (hrun.trans (flushSweep_ok (hevidence ▸ hstorable)))
    · have hunstorable := Bool.eq_false_iff.mpr hstorable
      exact .rolledBack results hreach hunstorable
        ⟨_, _, hrun.trans (flushSweep_error (hevidence ▸ hunstorable)), rfl⟩

theorem sweepEnd_of_waiting (d : RetentionDelivery) : SweepEnd s d := by
  cases hexecutor : d.executor with
  | none => exact sweepEnd_unconfigured h hexecutor
  | some answer =>
    cases hchecked : checkSweep d s.sweep with
    | error failure => exact sweepEnd_refused h hexecutor hchecked
    | ok u =>
      cases answer with
      | raised failure => exact sweepEnd_raised h ⟨hexecutor, hchecked⟩
      | returned results => exact sweepEnd_returned h ⟨hexecutor, hchecked⟩

end

/-- Between deliveries a sweep waits or is over. -/
def AtRest (s : SweepSession) : Prop := Waiting s ∨ Over s

theorem atRest_deliver (h : AtRest s) (d : RetentionDelivery) : AtRest (deliverSweep s d) := by
  rcases h with h | h
  · unfold deliverSweep
    cases sweepEnd_of_waiting h d with
    | refused code _ hrun =>
      rw [hrun]
      exact .inr ⟨by simp [failSweep], h.usable⟩
    | raised failure _ code hrun =>
      rw [hrun]
      exact .inr ⟨by simp [failSweep], h.usable⟩
    | complete results _ _ hrun =>
      rw [hrun]
      refine .inr ⟨?_, h.usable⟩
      simp only [finishSweep]
      split <;> simp
    | stopped results _ _ _ code hrun =>
      rw [hrun]
      exact .inr ⟨by simp [failSweep], h.usable⟩
    | rolledBack results _ _ hrun =>
      obtain ⟨failure, after, hrun, -⟩ := hrun
      rw [hrun]
      exact .inl ⟨h.queued, h.evidence, h.usable⟩
  · rw [deliverSweep_over h]
    exact .inr h

theorem commits_of_run {after : SweepSession} (h : runRetention d s = .ok () after) :
    deliverSweep s d = after := by
  unfold deliverSweep
  rw [h]

omit [SecurityHashes] in
/-- A complete answer leaves a row for each of its results. -/
theorem allOrNothing_complete (h : Waiting s) (d : RetentionDelivery) (hcomplete : Complete s results) :
    AllOrNothing (finishSweep d.finishedAt results
      (addEvidence results (answeredSession d (.returned results) s))) := by
  refine .finished results s.sweep.legalHoldSnapshot d.calledAt (by simp [finishSweep, addEvidence,
    answeredSession]) ?_ (evidence_answered h d _ results) ?_ ?_
  · simp only [finishSweep]
    split <;> simp
  · intro c hc
    simpa using List.all_eq_true.mp hcomplete.2 c hc
  · simp only [finishSweep]
    split_ifs with hpassed
    · simpa using hpassed
    · simpa using hpassed

/-- A committed delivery of a waiting sweep is all or nothing exactly when the executor answers
cleanly. -/
theorem allOrNothing_iff (h : Waiting s) (d : RetentionDelivery) :
    (Commits s d → AllOrNothing (deliverSweep s d)) ↔ AnswersCleanly s d := by
  cases sweepEnd_of_waiting h d with
  | refused code hunreached hrun =>
    rw [commits_of_run hrun]
    exact iff_of_true (fun _ => .failed rfl h.evidence)
      fun _ results hreach => absurd hreach (hunreached _)
  | raised failure hreach code hrun =>
    rw [commits_of_run hrun]
    refine iff_of_true (fun _ => .failed rfl h.evidence) fun _ results hreach' => ?_
    cases hreach.executor.symm.trans hreach'.executor
  | complete results hreach hcomplete hrun =>
    rw [commits_of_run hrun]
    refine iff_of_true (fun _ => allOrNothing_complete h d hcomplete) ?_
    intro _ results' hreach' _
    cases hreach.executor.symm.trans hreach'.executor
    exact .inr hcomplete
  | stopped results hreach hincomplete hstorable code hrun =>
    rw [commits_of_run hrun]
    have hevidence := evidence_answered h d (.returned results)
      (validPart s.sweep.policyRules results [])
    constructor
    · intro hall _ results' hreach' _
      cases hreach.executor.symm.trans hreach'.executor
      -- the delivery is recorded as failed, so no row may be left
      cases hall ⟨_, hrun⟩ with
      | finished _ _ _ _ hstate => simp [failSweep] at hstate
      | failed _ hnone => exact .inl (List.map_eq_nil_iff.mp (hevidence.symm.trans hnone))
    · intro hclean _
      have hnone := (hclean h.queued results hreach hstorable).resolve_right hincomplete
      refine .failed rfl (hevidence.trans ?_)
      rw [hnone]
      rfl
  | rolledBack results hreach hunstorable hrun =>
    obtain ⟨failure, after, hrun, -⟩ := hrun
    refine iff_of_true (fun hcommits => ?_) ?_
    · obtain ⟨final, hfinal⟩ := hcommits
      cases hrun.symm.trans hfinal
    · intro _ results' hreach' hstorable
      cases hreach.executor.symm.trans hreach'.executor
      cases hunstorable.symm.trans hstorable

/-- Where a run has been all or nothing so far, the sweep waits or shows it. -/
def Settled (s : SweepSession) : Prop := Waiting s ∨ Over s ∧ AllOrNothing s

theorem settled_deliver (h : Settled s) (hclean : AnswersCleanly s d) : Settled (deliverSweep s d) := by
  rcases h with h | ⟨hover, hall⟩
  · rcases atRest_deliver (.inl h) d with hwaiting | hover
    · exact .inl hwaiting
    · refine .inr ⟨hover, (allOrNothing_iff h d).mpr hclean ?_⟩
      by_contra hfails
      have hqueued : (deliverSweep s d).sweep.state = .queued := by
        unfold deliverSweep
        cases hrun : runRetention d s with
        | ok _ after => exact absurd ⟨after, hrun⟩ hfails
        | error _ after => exact h.queued
      exact hover.closed (.inl hqueued)
  · rw [deliverSweep_over hover]
    exact .inr ⟨hover, hall⟩

theorem settled_iff (h : Settled s) (d : RetentionDelivery) :
    (Commits s d → AllOrNothing (deliverSweep s d)) ↔ AnswersCleanly s d := by
  rcases h with h | ⟨hover, hall⟩
  · exact allOrNothing_iff h d
  · rw [deliverSweep_over hover]
    exact iff_of_true (fun _ => hall) fun hqueued => absurd (.inl hqueued) hover.closed

/-- Every committed delivery of a new sweep is all or nothing exactly when the executor answers
cleanly each time; and a failed sweep is never executed again. -/
theorem sweep_allOrNothing_iff {s : SweepSession} (hs : Waiting s) (deliveries : List RetentionDelivery) :
    (Along deliverSweep (fun s d => Commits s d → AllOrNothing (deliverSweep s d)) s deliveries ↔
      Along deliverSweep AnswersCleanly s deliveries) ∧
      ∀ before later, before ++ later = deliveries → (run deliverSweep s before).sweep.state = .failed →
          run deliverSweep s deliveries = run deliverSweep s before := by
  refine ⟨?_, ?_⟩
  · refine along_iff_along_of_invariant (I := Settled) (R := fun _ _ => True) deliverSweep
      (fun s d h _ => settled_iff h d) (fun s d h _ => settled_deliver h) (.inl hs) ?_
    exact along_of_always deliverSweep (fun _ _ => trivial) s deliveries
  · rintro before later rfl hfailed
    rw [run_append]
    have hrest : AtRest (run deliverSweep s before) :=
      invariant_run (I := AtRest) deliverSweep (fun _ d h => atRest_deliver h d) (.inl hs) before
    have hover : Over (run deliverSweep s before) := by
      rcases hrest with hwaiting | hover
      · cases hfailed.symm.trans hwaiting.queued
      · exact hover
    induction later with
    | nil => rfl
    | cons d later ih => rw [run_cons, deliverSweep_over hover, ih]

end Deliveries

def samplePolicyRules : List (String × String) := dataClassValues.map fun c => (c, "DELETE")

def sampleResult (dataClass evidenceHash : String) : CheckedResult where
  result := {
    dataClass, targetSystem := "postgres", cutoffAt := some 0, disposition := "DELETE"
    affectedRecords := some 3, heldRecords := some 0, passed := some true
    evidenceObjectRef := "vault://evidence", evidenceHash, completedAt := some 10 }
  now := 20

def sampleSha : String := String.ofList (List.replicate 64 'a')

def sampleSweep : SweepSession where
  sweep := {
    id := 1, workspaceId := 2, policyVersionId := 3, policyRules := samplePolicyRules
    legalHoldSnapshot := [], legalHoldSnapshotHash := "", idempotencyKey := "sweep" }

def sampleDelivery (answer : ExecutorAnswer) : RetentionDelivery where
  now := 5
  startedAt := 5
  calledAt := 6
  now_le := by decide
  finishedAt := 30
  policies := [{ id := 3, version := 1, rules := samplePolicyRules, effectiveAt := 0 }]
  holds := []
  executor := some answer

/-- Hashes of a workspace without holds. -/
abbrev sampleSecurityHashes : SecurityHashes where
  jsonHash := id
  holdSnapshotHash holds := String.join (holds.map (·.scopeHash))

attribute [local instance] sampleSecurityHashes

/-- A result for each data class. -/
def sampleResults : List CheckedResult := dataClassValues.map (sampleResult · sampleSha)

theorem complete_sampleResults : Complete sampleSweep sampleResults := by
  have hsha : isSha256Hex sampleSha = true := by decide +kernel
  have hlengths : "postgres".length ≤ 120 ∧ "vault://evidence".length ≤ 1000 := by decide
  refine ⟨?_, by decide +kernel⟩
  simp [sampleResults, dataClassValues, DataClass.all, DataClass.value, validPart, validResult,
    sampleResult, sampleSweep, samplePolicyRules, hsha, hlengths, RetentionDispositionResult.target,
    List.lookup_cons, fiveMinutes]

def unconfiguredDelivery : RetentionDelivery := { sampleDelivery (.returned []) with executor := none }

/-- A complete answer is recorded as a whole, and a sweep that failed for want of an executor is not
taken up by the next delivery. -/
theorem sweep_allOrNothing_sample :
    Along deliverSweep (fun s d => Commits s d → AllOrNothing (deliverSweep s d)) sampleSweep
      [sampleDelivery (.returned sampleResults)] ∧
    run deliverSweep sampleSweep [unconfiguredDelivery, sampleDelivery (.returned sampleResults)] =
      run deliverSweep sampleSweep [unconfiguredDelivery] := by
  have hs : Waiting sampleSweep := ⟨rfl, rfl, rfl⟩
  refine ⟨(sweep_allOrNothing_iff hs _).1.mpr ⟨?_, trivial⟩,
    (sweep_allOrNothing_iff hs _).2 [unconfiguredDelivery] _ rfl (by decide +kernel)⟩
  intro _ results hreach _
  cases hreach.executor
  exact .inr complete_sampleResults

/-- One valid result and then one without a hash: the sweep fails and keeps the first row. -/
theorem failed_sweep_keeps_evidence :
    let d := sampleDelivery (.returned [sampleResult "ACCOUNT" sampleSha,
      sampleResult "CONTENT" "none"])
    Waiting sampleSweep ∧ Commits sampleSweep d ∧ ¬ AllOrNothing (deliverSweep sampleSweep d) ∧
      (deliverSweep sampleSweep d).sweep.state = .failed ∧
      (deliverSweep sampleSweep d).evidence.length = 1 := by
  intro d
  have hstate : (deliverSweep sampleSweep d).sweep.state = .failed := by decide +kernel
  have hlength : (deliverSweep sampleSweep d).evidence.length = 1 := by decide +kernel
  refine ⟨⟨rfl, rfl, rfl⟩, ?_, ?_, hstate, hlength⟩
  · have hok : (match runRetention d sampleSweep with
        | .ok _ _ => true
        | .error _ _ => false) = true := by decide +kernel
    unfold Commits
    split at hok
    · rename_i after hrun
      exact ⟨after, hrun⟩
    · cases hok
  · intro hall
    cases hall with
    | finished _ _ _ _ hdone => simp [hstate] at hdone
    | failed _ hnone => simp [hnone] at hlength

end BlogOps.Security
