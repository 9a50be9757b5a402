import BlogOps.QualityRows
import BlogOps.UsageRecords

/-!
# Rows of a bulk job

A bulk job with its rows, their attempts and the recorded commands, and the
pure rules its service calls.  Amounts are in units of `0.000001`, the scale of
the `Numeric(19, 6)` columns.  Estimates and limits are integers; the cost of an
attempt is any decimal.  A session adds costs as they are, within the 28 digits
of its context, and each column rounds what it stores on its own.
-/

namespace BlogOps.Bulk

open Jobs KeyedTables Quality

inductive BulkRowState where
  | pending | invalid | duplicate | ready | queued | processing | qualityBlocked | waitingReview
  | approved | rejected | succeeded | retryableFailed | finalFailed | cancelled
deriving DecidableEq, Repr

inductive BulkAttemptOutcome where
  | succeeded | retryableFailed | finalFailed | qualityBlocked | cancelled
deriving DecidableEq, Repr

inductive BulkCommandKind where
  | pause | resume | cancel | retryRows | regenerateRows | approveRows
deriving DecidableEq, Repr

def retryableRowStates : List BulkRowState := [.retryableFailed, .qualityBlocked]

def processedRowStates : List BulkRowState :=
  [.qualityBlocked, .invalid, .duplicate, .waitingReview, .approved, .rejected, .succeeded,
    .retryableFailed, .finalFailed, .cancelled]

/-- The rows a cancelled job still has to drop. -/
def waitingRowStates : List BulkRowState := [.pending, .ready, .queued]

/-- The rows a failed job still has to drop. -/
def openRowStates : List BulkRowState := [.pending, .ready, .queued, .processing]

/-- A finding of a row, as a kind with its reason. -/
structure RiskFinding where
  kind : String
  reason : String
deriving DecidableEq, Repr

structure BulkRow where
  id : Uuid
  rowNo : Nat
  rowIdempotencyKey : String
  inputHash : String
  inputJson : List (String × Option String)
  state : BulkRowState := .pending
  validationErrors : List FieldError := []
  duplicateOfRowId : Option Uuid := none
  duplicateAction : Option String := none
  generationJobId : Option Uuid := none
  contentId : Option Uuid := none
  contentVersionId : Option Uuid := none
  contentHash : Option String := none
  qualityAssessmentId : Option Uuid := none
  qualityPassed : Option Bool := none
  approvalRequestId : Option Uuid := none
  approvedContentHash : Option String := none
  hardBlocked : Bool := false
  riskFindings : List RiskFinding := []
  spamSimilarityScore : Option ℚ := none
  valueScore : Option ℚ := none
  estimatedCost : Int
  actualCost : ℚ := 0
  attempt : Nat := 0
  lastErrorCode : Option String := none
  lastErrorDetail : Option String := none
  nextRetryAt : Option Int := none
  approvedBy : Option Uuid := none
  approvedAt : Option Int := none
deriving DecidableEq, Repr

/-- What an attempt keeps of the assessment of its content. -/
structure QualitySnapshot where
  assessmentId : Uuid
  assessmentHash : String
  decision : AssessmentDecision
  totalScore : ℚ
  blockingPolicyEventIds : List Uuid
  nonOverrideablePolicyEventIds : List Uuid
deriving DecidableEq, Repr

structure ApprovalSnapshot where
  approvalRequestId : Uuid
  status : ApprovalRequestStatus
  approvedContentHash : Option String
  approvalStagesHash : String
deriving DecidableEq, Repr

structure BulkRowAttempt where
  rowId : Uuid
  attemptNumber : Nat
  inputHash : String
  outcome : BulkAttemptOutcome
  generationJobId : Option Uuid
  contentId : Option Uuid
  contentVersionId : Option Uuid
  contentHash : Option String
  qualitySnapshot : Option QualitySnapshot
  approvalSnapshot : Option ApprovalSnapshot
  actualCost : ℚ
  errorCode : Option String
  errorDetail : Option String
  retryable : Bool
  startedAt : Int
  completedAt : Int
deriving DecidableEq, Repr

structure BulkJobCommand where
  actorId : Uuid
  kind : BulkCommandKind
  idempotencyKey : String
  reason : String
  rowIds : List Uuid
deriving DecidableEq, Repr

/-- The thresholds that `_spam_policy_thresholds` reads out of a campaign policy it accepts. -/
structure SpamPolicy where
  maximumSimilarity : ℚ
  minimumValue : ℚ
  similarity_range : 0 ≤ maximumSimilarity ∧ maximumSimilarity ≤ 1
  value_range : 0 ≤ minimumValue ∧ minimumValue ≤ 100
deriving DecidableEq, Repr

structure MappingSnapshot where
  columnMapping : List (String × String)
  requiredVariables : List String
  exactAction : String := "REVIEW"
deriving DecidableEq, Repr

inductive BulkOperation where
  | generateContent | researchAndGenerate | updateContent | qualityOnly | export | publish
deriving DecidableEq, Repr

structure BulkJob where
  id : Uuid
  requestedBy : Uuid
  operation : BulkOperation := .generateContent
  state : JobState := .queued
  idempotencyKey : String
  requestHash : String
  inputSnapshotHash : String
  mappingSnapshot : MappingSnapshot
  mappingSnapshotHash : String
  spamPolicy : SpamPolicy
  dryRun : Bool := false
  sampleSize : Option Nat := none
  totalRows : Nat
  processedRows : Nat := 0
  succeededRows : Nat := 0
  reviewRows : Nat := 0
  failedRows : Nat := 0
  cancelledRows : Nat := 0
  progressPercent : ℚ := 0
  estimatedCost : Int
  maximumCost : Int
  authorizedCost : Int
  actualCost : ℚ := 0
  heldCost : Int := 0
  currency : String
  budgetReservationRef : Option Uuid
  budgetKillSwitchTriggered : Bool := false
  pauseRequested : Bool := false
  pauseRequestedAt : Option Int := none
  pausedBy : Option Uuid := none
  cancelRequestedAt : Option Int := none
  cancelledBy : Option Uuid := none
  maxRowAttempts : Nat
  startedAt : Option Int := none
  finishedAt : Option Int := none
  errorCode : Option String := none
  errorDetail : Option String := none
deriving DecidableEq, Repr

/-- What a column stores of an amount, rounded half away from zero. -/
def storedCost (amount : ℚ) : Int := Billing.storedNumeric (amount / 10 ^ 6)

def BulkRow.stored (row : BulkRow) : BulkRow := { row with actualCost := storedCost row.actualCost }

def BulkRowAttempt.stored (attempt : BulkRowAttempt) : BulkRowAttempt :=
  { attempt with actualCost := storedCost attempt.actualCost }

def BulkJob.stored (job : BulkJob) : BulkJob := { job with actualCost := storedCost job.actualCost }

/-- `min(maximum_cost, authorized_cost)`. -/
def BulkJob.effectiveMaximum (job : BulkJob) : Int := min job.maximumCost job.authorizedCost

def BulkJob.targetRows (job : BulkJob) : Nat :=
  match job.dryRun, job.sampleSize with
  | true, some sampleSize => if sampleSize = 0 then job.totalRows else sampleSize
  | _, _ => job.totalRows

structure BudgetDecision where
  allowed : Bool
  killSwitch : Bool
  projectedTotal : ℚ
  remaining : ℚ
  reason : Option String
deriving DecidableEq, Repr

def evaluateBudgetBoundary (finalizedCost : ℚ) (heldCost nextEstimatedCost maximumCost : Int) :
    Except Failure BudgetDecision :=
  if finalizedCost < 0 ∨ heldCost < 0 ∨ nextEstimatedCost < 0 ∨ maximumCost < 0 then
    .error (.app {
      code := "BULK_BUDGET_INVALID"
      message := "예산 금액은 음수일 수 없습니다."
      statusCode := 422 })
  else
    let projected := finalizedCost + heldCost + nextEstimatedCost
    let exceeds : Bool := maximumCost < projected
    .ok {
      allowed := !exceeds
      killSwitch := exceeds
      projectedTotal := projected
      remaining := max 0 (maximumCost - finalizedCost - heldCost)
      reason := if exceeds then some "maximum_cost_exceeded" else none }

structure SpamGateDecision where
  autoPublishAllowed : Bool
  reasons : List String
deriving DecidableEq, Repr

/-- The range checks of the source are the fields of the policy. -/
def evaluateSpamGate (similarityScore valueScore : Option ℚ) (policy : SpamPolicy) : SpamGateDecision :=
  let reasons :=
    (match similarityScore with
      | none => ["similarity_not_measured"]
      | some score =>
        if policy.maximumSimilarity ≤ score then ["similarity_threshold_exceeded"] else []) ++
    (match valueScore with
      | none => ["value_not_measured"]
      | some score => if score < policy.minimumValue then ["value_threshold_not_met"] else [])
  { autoPublishAllowed := reasons.isEmpty, reasons := reasons }

section

variable {amount : ℚ} {limit : Int}

theorem storedCost_eq (h : 0 ≤ amount) : storedCost amount = ⌊amount + 1 / 2⌋ := by
  have hscaled : amount / 10 ^ 6 * 10 ^ 6 = amount := by ring
  unfold storedCost Billing.storedNumeric
  rw [if_pos (div_nonneg h (by norm_num)), hscaled]

theorem storedCost_nonneg (h : 0 ≤ amount) : 0 ≤ storedCost amount := by
  rw [storedCost_eq h]
  exact Int.floor_nonneg.mpr (by linarith)

theorem storedCost_add (hlimit : 0 ≤ limit) (h : 0 ≤ amount) :
    storedCost (limit + amount) = limit + storedCost amount := by
  have hcast : (0 : ℚ) ≤ limit := by exact_mod_cast hlimit
  rw [storedCost_eq h, storedCost_eq (add_nonneg hcast h), add_assoc, Int.floor_intCast_add]

theorem storedCost_zero : storedCost 0 = 0 := by
  rw [storedCost_eq le_rfl]
  norm_num

/-- A column keeps what is a multiple of its unit. -/
@[simp] theorem storedCost_intCast (limit : Int) : storedCost limit = limit := by
  have hround : ∀ n : Int, ⌊(n : ℚ) + 1 / 2⌋ = n := by
    intro n
    rw [Int.floor_intCast_add]
    norm_num
  have hscaled : (limit : ℚ) / 10 ^ 6 * 10 ^ 6 = limit := by ring
  unfold storedCost Billing.storedNumeric
  split
  · rw [hscaled, hround]
  · rw [neg_mul, hscaled, ← Int.cast_neg, hround, neg_neg]

@[simp] theorem BulkRow.stored_stored (row : BulkRow) : row.stored.stored = row.stored := by
  simp [BulkRow.stored]

@[simp] theorem BulkRowAttempt.stored_stored (attempt : BulkRowAttempt) :
    attempt.stored.stored = attempt.stored := by
  simp [BulkRowAttempt.stored]

@[simp] theorem BulkJob.stored_stored (job : BulkJob) : job.stored.stored = job.stored := by
  simp [BulkJob.stored]

theorem storedCost_le (h : 0 ≤ amount) (hle : amount ≤ limit) : storedCost amount ≤ limit := by
  have hlimit : (0 : ℚ) ≤ limit := h.trans hle
  calc storedCost amount = ⌊amount + 1 / 2⌋ := storedCost_eq h
    _ ≤ ⌊(limit : ℚ) + 1 / 2⌋ := Int.floor_le_floor (by linarith)
    _ = storedCost limit := (storedCost_eq hlimit).symm
    _ = limit := storedCost_intCast limit

end

section

variable {finalizedCost : ℚ} {heldCost nextEstimatedCost maximumCost : Int}

theorem evaluateBudgetBoundary_ok {decision : BudgetDecision}
    (h : evaluateBudgetBoundary finalizedCost heldCost nextEstimatedCost maximumCost = .ok decision) :
    0 ≤ nextEstimatedCost ∧
      decision.killSwitch = decide (maximumCost < finalizedCost + heldCost + nextEstimatedCost) := by
  unfold evaluateBudgetBoundary at h
  split_ifs at h with hnegative
  cases h
  simp only [not_or, not_lt] at hnegative
  exact ⟨hnegative.2.2.1, rfl⟩

theorem evaluateBudgetBoundary_eq (hfinal : 0 ≤ finalizedCost) (hheld : 0 ≤ heldCost)
    (hnext : 0 ≤ nextEstimatedCost) (hmaximum : 0 ≤ maximumCost) :
    ∃ decision, evaluateBudgetBoundary finalizedCost heldCost nextEstimatedCost maximumCost = .ok decision ∧
      decision.killSwitch = decide (maximumCost < finalizedCost + heldCost + nextEstimatedCost) := by
  unfold evaluateBudgetBoundary
  rw [if_neg (by simp only [not_or, not_lt]; exact ⟨hfinal, hheld, hnext, hmaximum⟩)]
  exact ⟨_, rfl, rfl⟩

end

end BlogOps.Bulk
