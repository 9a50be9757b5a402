import BlogOps.BulkMaterialization

/-!
# What a call on a bulk job does

For each command and executor call the ways it can change its session, and
when a row command or a recording is accepted.
-/

namespace BlogOps.Bulk

open Jobs KeyedTables Quality

variable (s : BulkSession)

@[simp] theorem flush_job : (flush s).job = s.job := rfl
@[simp] theorem flush_rows : (flush s).rows = s.rows := rfl
@[simp] theorem flush_stored : (flush s).stored = s.rows := rfl
@[simp] theorem flush_attempts : (flush s).attempts = s.attempts := rfl
@[simp] theorem flush_commands : (flush s).commands = s.commands := rfl
@[simp] theorem refreshProgress_rows : (refreshProgress s).rows = s.rows := rfl
@[simp] theorem refreshProgress_stored : (refreshProgress s).stored = s.stored := rfl
@[simp] theorem refreshProgress_attempts : (refreshProgress s).attempts = s.attempts := rfl
@[simp] theorem refreshProgress_counts : (refreshProgress s).job.counts = progressOf s.stored := rfl

/-- What was loaded is committed as it is. -/
theorem committed_committed : committed (committed s) = committed s := by
  simp [committed, Function.comp_def]

theorem keyed_committed {s : BulkSession} (h : Keyed (·.id) s.rows) : Keyed (·.id) (committed s).rows := by
  have hids : (committed s).rows.map (·.id) = s.rows.map (·.id) := List.map_map
  unfold Keyed
  rw [hids]
  exact h

/-- The columns of a job that hold its money and its frozen limits. -/
structure SameBudget (job after : BulkJob) : Prop where
  actual : after.actualCost = job.actualCost
  held : after.heldCost = job.heldCost
  limit : after.effectiveMaximum = job.effectiveMaximum
  attempts : after.maxRowAttempts = job.maxRowAttempts
  estimate : after.estimatedCost = job.estimatedCost

theorem SameBudget.refl (job : BulkJob) : SameBudget job job := ⟨rfl, rfl, rfl, rfl, rfl⟩

theorem sameBudget_refreshProgress : SameBudget s.job (refreshProgress s).job := ⟨rfl, rfl, rfl, rfl, rfl⟩

variable {row : BulkRow} {rowId actorId : Uuid} {s after : BulkSession} {key reason : String}
variable {kind : BulkCommandKind} {rowIds : List Uuid} {job : BulkJob} {principal : BulkPrincipal}
variable {now cost : Int} {data : BulkRowsCommand} {regenerate : Bool} {reviews : Reviews}

theorem rowOf_ok (h : rowOf rowId s = .ok row) : row ∈ s.rows ∧ row.id = rowId := by
  unfold rowOf at h
  split at h
  · rename_i found hfound
    cases h
    exact ⟨List.mem_of_find?_eq_some hfound, by simpa using List.find?_some hfound⟩
  · cases h

theorem rowOf_eq (hkeyed : Keyed (·.id) s.rows) (hrow : row ∈ s.rows) : rowOf row.id s = .ok row := by
  unfold rowOf
  rw [hkeyed.find?_eq hrow]

theorem appendCommand_ok (h : appendCommand actorId kind key reason rowIds s = .ok after) :
    after = s ∨ after = flush { s with
      commands := s.commands ++ [⟨actorId, kind, key, reason, rowIds⟩] } := by
  unfold appendCommand at h
  split at h
  · obtain ⟨_, _, h⟩ := bind_ok h
    cases h
    exact .inl rfl
  · cases h
    exact .inr rfl

theorem appendCommand_new (h : recordedCommand actorId kind key s = none) :
    appendCommand actorId kind key reason rowIds s = .ok (flush { s with
      commands := s.commands ++ [⟨actorId, kind, key, reason, rowIds⟩] }) := by
  unfold appendCommand
  simp only [h]

/-- A command on the job leaves the rows and the money alone. -/
structure JobCommand (s after : BulkSession) : Prop where
  rows : after.rows = s.rows
  attempts : after.attempts = s.attempts
  stored : after.stored = s.stored ∨ after.stored = s.rows
  budget : SameBudget s.job after.job
  counts : after.job.counts = s.job.counts
  target : after.job.targetRows = s.job.targetRows
  killed : after.job.budgetKillSwitchTriggered = s.job.budgetKillSwitchTriggered
  live : s.job.state ∉ terminalJobStates
  state : after.job.state = s.job.state ∨ after.job.state = .cancelRequested

theorem jobCommand_of_append
    (h : appendCommand actorId kind key reason rowIds { s with job := job } = .ok after)
    (hbudget : SameBudget s.job job) (hcounts : job.counts = s.job.counts)
    (htarget : job.targetRows = s.job.targetRows)
    (hkilled : job.budgetKillSwitchTriggered = s.job.budgetKillSwitchTriggered)
    (hlive : s.job.state ∉ terminalJobStates)
    (hstate : job.state = s.job.state ∨ job.state = .cancelRequested) : JobCommand s after := by
  rcases appendCommand_ok h with rfl | rfl
  · exact ⟨rfl, rfl, .inl rfl, hbudget, hcounts, htarget, hkilled, hlive, hstate⟩
  · exact ⟨rfl, rfl, .inr rfl, hbudget, hcounts, htarget, hkilled, hlive, hstate⟩

theorem commandableJob_ok {u : Unit} (h : commandableJob principal job = .ok u) :
    job.state ∉ terminalJobStates := by
  obtain ⟨_, hlive, -⟩ := bind_ok h
  exact require_ok hlive

section

variable {data : BulkCommandRequest}

theorem pauseJob_ok (h : pauseJob now principal data s = .ok after) :
    JobCommand s after ∧ after.job.pauseRequested = true := by
  obtain ⟨_, hlive, h⟩ := bind_ok h
  have hlive := commandableJob_ok hlive
  by_cases hpaused : s.job.pauseRequested = true
  · rw [if_pos hpaused] at h
    have hcommand : JobCommand s after := jobCommand_of_append h (.refl _) rfl rfl rfl hlive (.inl rfl)
    refine ⟨hcommand, ?_⟩
    rcases appendCommand_ok h with rfl | rfl <;> exact hpaused
  · rw [if_neg hpaused] at h
    have hcommand : JobCommand s after :=
      jobCommand_of_append h ⟨rfl, rfl, rfl, rfl, rfl⟩ rfl rfl rfl hlive (.inl rfl)
    refine ⟨hcommand, ?_⟩
    rcases appendCommand_ok h with rfl | rfl <;> rfl

theorem resumeJob_ok (h : resumeJob principal data s = .ok after) :
    JobCommand s after ∧ s.job.budgetKillSwitchTriggered = false := by
  obtain ⟨_, hlive, h⟩ := bind_ok h
  obtain ⟨_, hkilled, h⟩ := bind_ok h
  exact ⟨jobCommand_of_append h ⟨rfl, rfl, rfl, rfl, rfl⟩ rfl rfl rfl (commandableJob_ok hlive)
    (.inl rfl), require_ok hkilled⟩

theorem cancelJob_ok (h : cancelJob now principal data s = .ok after) :
    JobCommand s after ∧ after.job.state = .cancelRequested := by
  obtain ⟨_, hlive, h⟩ := bind_ok h
  have hlive := commandableJob_ok hlive
  split_ifs at h with hrequested
  · have hcommand : JobCommand s after := jobCommand_of_append h (.refl _) rfl rfl rfl hlive (.inl rfl)
    refine ⟨hcommand, ?_⟩
    rcases appendCommand_ok h with rfl | rfl <;> exact hrequested
  · obtain ⟨_, _, h⟩ := bind_ok h
    have hcommand : JobCommand s after :=
      jobCommand_of_append h ⟨rfl, rfl, rfl, rfl, rfl⟩ rfl rfl rfl hlive (.inr rfl)
    refine ⟨hcommand, ?_⟩
    rcases appendCommand_ok h with rfl | rfl <;> rfl

end

theorem checkRows_iff {check : BulkRow → Except Failure Unit} {rows : List BulkRow} :
    checkRows check rows = .ok () ↔ ∀ row ∈ rows, check row = .ok () := by
  induction rows with
  | nil => simp [checkRows]
  | cons row rows ih =>
    rw [List.forall_mem_cons, ← ih]
    constructor
    · intro h
      obtain ⟨_, hrow, hrows⟩ := bind_ok h
      exact ⟨hrow, hrows⟩
    · rintro ⟨hrow, hrows⟩
      exact (bind_of_ok hrow _).trans hrows

theorem mem_rowsOf : row ∈ rowsOf rowIds s ↔ row ∈ s.rows ∧ row.id ∈ rowIds := by
  simp [rowsOf]

/-- A row that a retry takes. -/
structure Retryable (job : BulkJob) (row : BulkRow) : Prop where
  unapproved : row.approvedAt = none
  state : row.state ∈ retryableRowStates
  unblocked : row.hardBlocked = false
  attempts : row.attempt < job.maxRowAttempts

theorem checkRetry_ok (h : checkRetry job row = .ok ()) : Retryable job row := by
  obtain ⟨_, hunapproved, h⟩ := bind_ok h
  obtain ⟨_, hstate, h⟩ := bind_ok h
  obtain ⟨_, hunblocked, hattempts⟩ := bind_ok h
  exact ⟨(require_ok hunapproved).2, require_ok hstate, require_ok hunblocked, require_ok hattempts⟩

/-- A retry that is accepted and not a replay. -/
structure Retries (principal : BulkPrincipal) (data : BulkRowsCommand) (regenerate : Bool)
    (s after : BulkSession) : Prop where
  live : s.job.state ∉ terminalJobStates
  unpaused : s.job.pauseRequested = false
  running : s.job.budgetKillSwitchTriggered = false
  found : (rowsOf data.rowIds s).length = data.rowIds.length
  rows : ∀ row ∈ rowsOf data.rowIds s, Retryable s.job row
  result : after = flush { changeRows data.rowIds (retriedRow regenerate) s with
    commands := s.commands ++ [⟨principal.subjectId, retryKind regenerate, data.idempotencyKey,
      data.reason, data.rowIds⟩] }

theorem retryRows_new
    (hnew : recordedCommand principal.subjectId (retryKind regenerate) data.idempotencyKey s = none)
    (h : retryRows principal data regenerate s = .ok after) : Retries principal data regenerate s after := by
  obtain ⟨_, _, h⟩ := bind_ok h
  simp only [hnew] at h
  obtain ⟨_, hlive, h⟩ := bind_ok h
  obtain ⟨_, hfound, h⟩ := bind_ok h
  obtain ⟨_, hrows, h⟩ := bind_ok h
  obtain ⟨hlive, hunpaused, hrunning⟩ := require_ok hlive
  have hsame : recordedCommand principal.subjectId (retryKind regenerate) data.idempotencyKey
      (changeRows data.rowIds (retriedRow regenerate) s) = none := hnew
  rw [appendCommand_new hsame] at h
  refine ⟨hlive, hunpaused, hrunning, require_ok hfound, ?_, (Except.ok.inj h).symm⟩
  exact fun row hrow => checkRetry_ok (checkRows_iff.mp hrows row hrow)

theorem retryRows_repeated {existing : BulkJobCommand}
    (hrecorded : recordedCommand principal.subjectId (retryKind regenerate) data.idempotencyKey s =
      some existing) (h : retryRows principal data regenerate s = .ok after) : after = s := by
  obtain ⟨_, _, h⟩ := bind_ok h
  simp only [hrecorded] at h
  obtain ⟨_, _, h⟩ := bind_ok h
  cases h
  rfl

theorem retryRows_ok (h : retryRows principal data regenerate s = .ok after) :
    after = s ∨ Retries principal data regenerate s after := by
  cases hrecorded : recordedCommand principal.subjectId (retryKind regenerate)
      data.idempotencyKey s with
  | none => exact .inr (retryRows_new hrecorded h)
  | some existing => exact .inl (retryRows_repeated hrecorded h)

/-- A row that a bulk approval takes; its state is not asked for. -/
structure Approvable (reviews : Reviews) (row : BulkRow) : Prop where
  unblocked : row.hardBlocked = false
  passed : row.qualityPassed = some true
  requested : row.approvalRequestId.isSome = true
  content : row.contentHash.any (· ≠ "") = true
  current : approvalCurrent reviews row = true

theorem checkApproval_iff : checkApproval reviews row = .ok () ↔ Approvable reviews row := by
  constructor
  · intro h
    obtain ⟨_, hpassed, h⟩ := bind_ok h
    obtain ⟨_, hcontent, hcurrent⟩ := bind_ok h
    have hpassed := require_ok hpassed
    have hcontent := require_ok hcontent
    exact ⟨hpassed.1, hpassed.2, hcontent.1, hcontent.2, require_ok hcurrent⟩
  · intro h
    unfold checkApproval
    rw [bind_of_ok (require_of ⟨h.unblocked, h.passed⟩ _), bind_of_ok (require_of ⟨h.requested, h.content⟩ _)]
    exact require_of h.current _

/-- A bulk approval that is accepted and not a replay. -/
structure Approves (principal : BulkPrincipal) (reviews : Reviews) (data : BulkRowsCommand)
    (s : BulkSession) : Prop where
  new : recordedCommand principal.subjectId .approveRows data.idempotencyKey s = none
  found : (rowsOf data.rowIds s).length = data.rowIds.length
  rows : ∀ row ∈ rowsOf data.rowIds s, Approvable reviews row

/-- What an accepted approval leaves. -/
def approvedSession (now : Int) (principal : BulkPrincipal) (data : BulkRowsCommand)
    (s : BulkSession) : BulkSession :=
  refreshProgress (flush { changeRows data.rowIds (approvedRow now principal) s with
    commands := s.commands ++ [⟨principal.subjectId, .approveRows, data.idempotencyKey,
      data.reason, data.rowIds⟩] })

theorem approveRows_of (h : Approves principal reviews data s) :
    approveRows now principal reviews data s = .ok (approvedSession now principal data s) := by
  have hchecked : checkRows (checkApproval reviews) (rowsOf data.rowIds s) = .ok () :=
    checkRows_iff.mpr fun row hrow => checkApproval_iff.mpr (h.rows row hrow)
  unfold approveRows
  simp only [h.new]
  unfold approveNewRows
  rw [bind_of_ok (require_of h.found _), bind_of_ok hchecked]
  have hsame : recordedCommand principal.subjectId .approveRows data.idempotencyKey
      (changeRows data.rowIds (approvedRow now principal) s) = none := h.new
  exact bind_of_ok (appendCommand_new hsame) _

theorem approveRows_ok (h : approveRows now principal reviews data s = .ok after) :
    after = s ∨ Approves principal reviews data s ∧
      after = approvedSession now principal data s := by
  unfold approveRows at h
  split at h
  · obtain ⟨_, _, h⟩ := bind_ok h
    cases h
    exact .inl rfl
  · rename_i hnew
    obtain ⟨_, hfound, h⟩ := bind_ok h
    obtain ⟨_, hrows, h⟩ := bind_ok h
    obtain ⟨_, happend, h⟩ := bind_ok h
    have hsame : recordedCommand principal.subjectId .approveRows data.idempotencyKey
        (changeRows data.rowIds (approvedRow now principal) s) = none := hnew
    rw [appendCommand_new hsame] at happend
    cases happend
    cases h
    refine .inr ⟨⟨hnew, require_ok hfound, ?_⟩, rfl⟩
    exact fun row hrow => checkApproval_iff.mp (checkRows_iff.mp hrows row hrow)

/-- A row the executor may start. -/
structure Grants (rowId : Uuid) (cost : Int) (s : BulkSession) (row : BulkRow) : Prop where
  stored : row ∈ s.rows
  id : row.id = rowId
  estimate : cost = row.estimatedCost
  unpaused : s.job.pauseRequested = false
  running : s.job.budgetKillSwitchTriggered = false
  live : s.job.state ∉ terminalJobStates
  uncancelled : s.job.state ≠ .cancelRequested
  within : s.job.actualCost + s.job.heldCost + cost ≤ s.job.effectiveMaximum
  waiting : row.state = .ready ∨ row.state = .queued

inductive Authorization (now : Int) (rowId : Uuid) (cost : Int) (s : BulkSession) :
    Bool → BulkSession → Prop
  | denied : Authorization now rowId cost s false s
  | stopped (reason : Option String) (hlive : s.job.state ∉ terminalJobStates)
      (hexceeds : s.job.effectiveMaximum < s.job.actualCost + s.job.heldCost + cost) :
      Authorization now rowId cost s false { s with job := { stopJob now s.job with
        errorCode := some "BUDGET_KILL_SWITCH"
        errorDetail := reason } }
  | granted (row : BulkRow) (hgrants : Grants rowId cost s row) :
      Authorization now rowId cost s true (setRow { row with state := .processing } { s with
        job := { s.job with heldCost := s.job.heldCost + cost } })

theorem authorizeNextRow_ok {allowed : Bool} (h : authorizeNextRow now rowId cost s = .ok (allowed, after)) :
    Authorization now rowId cost s allowed after := by
  obtain ⟨row, hrow, h⟩ := bind_ok h
  obtain ⟨_, hcost, h⟩ := bind_ok h
  obtain ⟨hmem, hid⟩ := rowOf_ok hrow
  by_cases hpaused : s.job.pauseRequested ∨ s.job.budgetKillSwitchTriggered
  · rw [if_pos hpaused] at h
    cases h
    exact .denied
  rw [if_neg hpaused] at h
  by_cases hstate : s.job.state ∈ terminalJobStates ∨ s.job.state = .cancelRequested
  · rw [if_pos hstate] at h
    cases h
    exact .denied
  rw [if_neg hstate] at h
  obtain ⟨decision, hdecision, h⟩ := bind_ok h
  obtain ⟨-, hswitch⟩ := evaluateBudgetBoundary_ok hdecision
  by_cases hkill : decision.killSwitch = true
  · rw [if_pos hkill] at h
    cases h
    refine .stopped _ (fun hterminal => hstate (.inl hterminal)) ?_
    simpa [hswitch] using hkill
  rw [if_neg hkill] at h
  by_cases hwaiting : row.state ≠ .ready ∧ row.state ≠ .queued
  · rw [if_pos hwaiting] at h
    cases h
    exact .denied
  rw [if_neg hwaiting] at h
  cases h
  rw [not_or, Bool.not_eq_true, Bool.not_eq_true] at hpaused
  rw [not_or] at hstate
  have hwithin : s.job.actualCost + s.job.heldCost + cost ≤ s.job.effectiveMaximum := by
    simpa [hswitch] using hkill
  refine .granted row ⟨hmem, hid, require_ok hcost, hpaused.1, hpaused.2, hstate.1, hstate.2, hwithin, ?_⟩
  by_cases hready : row.state = .ready
  · exact .inl hready
  · exact .inr (not_not.mp fun hqueued => hwaiting ⟨hready, hqueued⟩)

/-- A row the executor may start, of a job within its limits, is granted. -/
theorem authorizeNextRow_of (hkeyed : Keyed (·.id) s.rows) (h : Grants rowId cost s row)
    (hactual : 0 ≤ s.job.actualCost) (hheld : 0 ≤ s.job.heldCost) (hcost : 0 ≤ cost) :
    authorizeNextRow now rowId cost s = .ok (true, setRow { row with state := .processing } {
      s with job := { s.job with heldCost := s.job.heldCost + cost } }) := by
  have hrow : rowOf rowId s = .ok row := h.id ▸ rowOf_eq hkeyed h.stored
  have hwithin := h.within
  have hpositive : (0 : ℚ) ≤ s.job.effectiveMaximum :=
    (add_nonneg (add_nonneg hactual (by exact_mod_cast hheld)) (by exact_mod_cast hcost)).trans hwithin
  obtain ⟨decision, hdecision, hswitch⟩ := evaluateBudgetBoundary_eq hactual hheld hcost
    (by exact_mod_cast hpositive)
  unfold authorizeNextRow
  rw [bind_of_ok hrow, bind_of_ok (require_of h.estimate _), if_neg (by simp [h.unpaused, h.running]),
    if_neg (by simp [h.live, h.uncancelled]), bind_of_ok hdecision, if_neg, if_neg]
  · rcases h.waiting with hstate | hstate <;> simp [hstate]
  · rw [hswitch]
    simpa using hwithin

/-- An attempt whose own evidence the server takes. -/
structure AttemptAccepted (reviews : Reviews) (policy : SpamPolicy) (a : RowAttempt)
    (quality : AttemptQuality) (approval : Option ApprovalRequest)
    (outcome : BulkAttemptOutcome) : Prop where
  cost : 0 ≤ a.actualCost
  content : a.exactContent = true ∨ a.noContent = true
  assessed : attemptQuality reviews a = .ok quality
  requested : attemptApproval reviews a = .ok approval
  settled : effectiveOutcome a quality
    (evaluateSpamGate a.spamSimilarityScore a.valueScore policy) = .ok outcome

def recordedSession (now : Int) (row : BulkRow) (a : RowAttempt) (quality : AttemptQuality)
    (approval : Option ApprovalRequest) (outcome : BulkAttemptOutcome) (s : BulkSession) : BulkSession :=
  refreshProgress (flush (setRow (recordedRow row a quality approval
    (evaluateSpamGate a.spamSimilarityScore a.valueScore s.job.spamPolicy) outcome) { s with
      attempts := s.attempts ++ [attemptRow row a quality approval outcome]
      job := chargeAttempt now row a s.job }))

theorem recordRowAttempt_ok {a : RowAttempt} (h : recordRowAttempt now reviews a s = .ok after) :
    ∃ row quality approval outcome, row ∈ s.rows ∧ row.id = a.rowId ∧ row.approvedAt = none ∧
      row.attempt < s.job.maxRowAttempts ∧
      AttemptAccepted reviews s.job.spamPolicy a quality approval outcome ∧
      after = recordedSession now row a quality approval outcome s := by
  obtain ⟨row, hrow, h⟩ := bind_ok h
  obtain ⟨_, hchecked, h⟩ := bind_ok h
  obtain ⟨_, hcontent, h⟩ := bind_ok h
  obtain ⟨quality, hquality, h⟩ := bind_ok h
  obtain ⟨approval, happroval, h⟩ := bind_ok h
  obtain ⟨outcome, houtcome, h⟩ := bind_ok h
  obtain ⟨_, hcost, hchecked⟩ := bind_ok hchecked
  obtain ⟨_, hunapproved, hattempts⟩ := bind_ok hchecked
  cases h
  obtain ⟨hmem, hid⟩ := rowOf_ok hrow
  have hattempts := require_ok hattempts
  exact ⟨row, quality, approval, outcome, hmem, hid, require_ok hunapproved, hattempts,
    ⟨require_ok hcost, require_ok hcontent, hquality, happroval, houtcome⟩, rfl⟩

theorem recordRowAttempt_of {a : RowAttempt} {quality : AttemptQuality}
    {approval : Option ApprovalRequest} {outcome : BulkAttemptOutcome}
    (hkeyed : Keyed (·.id) s.rows) (hrow : row ∈ s.rows) (hid : row.id = a.rowId)
    (hunapproved : row.approvedAt = none) (hattempts : row.attempt < s.job.maxRowAttempts)
    (h : AttemptAccepted reviews s.job.spamPolicy a quality approval outcome) :
    recordRowAttempt now reviews a s =
      .ok (recordedSession now row a quality approval outcome s) := by
  have hfound : rowOf a.rowId s = .ok row := hid ▸ rowOf_eq hkeyed hrow
  have hchecked : checkAttempt s.job row a = .ok () := by
    unfold checkAttempt
    rw [bind_of_ok (require_of h.cost _), bind_of_ok (require_of hunapproved _)]
    exact require_of hattempts _
  unfold recordRowAttempt
  rw [bind_of_ok hfound, bind_of_ok hchecked, bind_of_ok (require_of h.content _)]
  simp only
  rw [bind_of_ok h.assessed, bind_of_ok h.requested]
  exact bind_of_ok h.settled _

/-- A failure with a cost and nothing else. -/
def plainFailure (rowId : Uuid) (cost : ℚ) : RowAttempt where
  rowId := rowId
  outcome := .finalFailed
  actualCost := cost
  startedAt := 0
  completedAt := 0

theorem accepted_plainFailure (reviews : Reviews) (policy : SpamPolicy) (rowId : Uuid) {cost : ℚ}
    (hcost : 0 ≤ cost) : AttemptAccepted reviews policy (plainFailure rowId cost)
      ⟨none, false, none⟩ none .finalFailed :=
  ⟨hcost, .inr rfl, rfl, rfl, rfl⟩

theorem recordedRow_closed (row : BulkRow) (a : RowAttempt) (quality : AttemptQuality)
    (approval : Option ApprovalRequest) (spam : SpamGateDecision) (outcome : BulkAttemptOutcome) :
    (recordedRow row a quality approval spam outcome).state = attemptState approval outcome ∧
      attemptState approval outcome ∈ processedRowStates := by
  constructor
  · unfold recordedRow
    cases approval with
    | none => rfl
    | some approval =>
      simp only
      split <;> rfl
  · cases outcome with
    | succeeded =>
      unfold attemptState
      simp only
      split <;> decide
    | _ => simp [attemptState, processedRowStates]

@[simp] theorem recordedRow_money (row : BulkRow) (a : RowAttempt) (quality : AttemptQuality)
    (approval : Option ApprovalRequest) (spam : SpamGateDecision) (outcome : BulkAttemptOutcome) :
    (recordedRow row a quality approval spam outcome).id = row.id ∧
      (recordedRow row a quality approval spam outcome).estimatedCost = row.estimatedCost ∧
      (recordedRow row a quality approval spam outcome).actualCost =
        row.actualCost + a.actualCost := by
  unfold recordedRow
  cases approval with
  | none => exact ⟨rfl, rfl, rfl⟩
  | some approval =>
    simp only
    split <;> exact ⟨rfl, rfl, rfl⟩

end BlogOps.Bulk
