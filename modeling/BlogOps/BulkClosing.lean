import BlogOps.BulkProgress
import BlogOps.TerminalSettlements

/-!
# The end of a bulk job

A job that ends is settled with its credit hold in the transaction that ends
it.  Its rows, its held cost and its settlement stay closed in every run that
does not end it while something is in progress and does not record a row of a
finished job.
-/

namespace BlogOps.Bulk

open Jobs KeyedTables TransitionRuns Billing

/-! ## Settling a job -/

def validateSuccess (job : BulkJob) : Except Failure Unit := do
  require (job.processedRows = job.targetRows) (bulkConflict "BULK_RESULT_INCOMPLETE"
    "처리 대상 행 전체의 결과가 기록되지 않았습니다.")
  require (job.heldCost = 0) (bulkConflict "BULK_COST_HOLD_LEAK" "행별 임시 Hold가 남아 있어 대량 작업을 확정할 수 없습니다.")
  require (job.actualCost ≤ job.effectiveMaximum) (bulkConflict "BULK_BUDGET_LIMIT_EXCEEDED"
    "실제 대량 작업 비용이 승인된 최대 비용을 초과했습니다.")

/-- What the gate of the job is told of a cost that its schema takes; a failure has the state as
its class. -/
def terminalEvent (job : BulkJob) : TerminalEvent where
  completionEventId := "bulk-job:" ++ toString job.id ++ ":" ++ job.state.value
  subjectType := "bulk_job"
  actualCost := storedCost job.actualCost
  currency := job.currency
  failureClass := if job.state = .succeeded then none else some job.state.value
  reasonCode := if job.state = .succeeded then none else some ("BULK_TERMINAL_" ++ job.state.value)

/-- The context of a settlement: its credit call and the time its usage occurs. -/
structure SettlementClock where
  ctx : CallContext
  occurredAt : Int

def checkOutcome (job : BulkJob) : Except Failure Unit :=
  if job.state = .succeeded then validateSuccess job else .ok ()

/-- The call of the gate.  `UsageRecordCreate` takes no more than six decimals of a cost. -/
def settleCost (c : SettlementClock) (holdId : Uuid) (job : BulkJob) (s : MeteredBooks) :
    Except Failure (CreditHold × MeteredBooks) :=
  if storedCost job.actualCost = job.actualCost then
    settleJob c.ctx holdId c.occurredAt (terminalEvent job) s
  else do
    let hold ← holdOf holdId s.books
    require (hold.pricingSnapshot.costCurrency = job.currency) (.app {
      code := "BILLING_COST_CURRENCY_MISMATCH"
      message := "실제 비용 통화가 Hold 가격표와 다릅니다."
      statusCode := 409 })
    .error .validationError

def settleTerminal (c : SettlementClock) (job : BulkJob) (s : MeteredBooks) : Except Failure MeteredBooks :=
  if job.state ∉ terminalJobStates then .ok s
  else
    match job.budgetReservationRef with
    | none => .error (bulkConflict "BULK_BUDGET_RESERVATION_MISSING"
        "비용 Hold 참조가 없어 대량 작업을 종료하지 않았습니다.")
    | some holdId => do
      checkOutcome job
      let (_, s) ← settleCost c holdId job s
      .ok s

/-- The transactions on a job and on the credits of its workspace. -/
inductive ClosingAction where
  | job (action : BulkAction SettlementClock)
  | credits (call : CallContext × CreditCall)
  | meter (ctx : CallContext) (data : UsageRecordCreate)

def transactClosing [BulkHashes] (w : BulkWorld MeteredBooks) : ClosingAction → BulkWorld MeteredBooks
  | .job action => transactJob settleTerminal w action
  | .credits call => { w with books := ⟨transact w.books.books call, w.books.usage⟩ }
  | .meter ctx data =>
    match recordUsage ctx data w.books.usage with
    | .ok (_, usage) => { w with books := ⟨w.books.books, usage⟩ }
    | .error _ => w

/-- What a finished job must look like. -/
structure ClosedJob (w : BulkWorld MeteredBooks) : Prop where
  rows : ∀ row ∈ w.session.rows, row.state ∉ openRowStates
  held : w.session.job.heldCost = 0
  settled : ∃ holdId row, w.session.job.budgetReservationRef = some holdId ∧
    SettledBy holdId (terminalEvent w.session.job) row w.books
  replays : ∀ c, settleTerminal c w.session.job w.books = .ok w.books

def Closed (w : BulkWorld MeteredBooks) : Prop := w.session.job.state ∈ terminalJobStates → ClosedJob w

/-- No transaction but a bulk approval changes the rows or the cost of a finished job. -/
def Frozen [BulkHashes] (w : BulkWorld MeteredBooks) : ClosingAction → Prop
  | .job (.call (.approveRows _ _ _ _)) => True
  | action => w.session.job.state ∈ terminalJobStates →
      (transactClosing w action).session.rows = w.session.rows ∧
        (transactClosing w action).session.job.actualCost = w.session.job.actualCost ∧
        (transactClosing w action).session.job.state = w.session.job.state

/-- The executor returns with nothing in progress: a success with every row done and the job
neither paused nor stopped, otherwise, where the job is then failed, nothing held. -/
def EndsIdle (session : BulkSession) : Option ExecutorRun → Prop
  | none => session.job.state ∈ failableStates → session.job.heldCost = 0
  | some run =>
    let after := execute run session
    if run.succeeds then after.job.pauseRequested = false ∧
      after.job.budgetKillSwitchTriggered = false ∧ ∀ row ∈ after.rows, row.state ∉ openRowStates
    else after.job.pauseRequested = false → after.job.budgetKillSwitchTriggered = false →
      after.job.state = .validating → after.job.heldCost = 0

/-- A transaction that ends the job ends it idle, and none records a row of a finished job. -/
def Settling (w : BulkWorld MeteredBooks) : ClosingAction → Prop
  | .job (.call (.recordRowAttempt now reviews attempt)) =>
    w.session.job.state ∈ terminalJobStates →
      ¬ ∃ after, recordRowAttempt now reviews attempt w.session = .ok after
  | .job (.process now c executor) =>
    (∃ after, processJob settleTerminal now c executor w = .ok after) →
      (w.session.job.state = .cancelRequested → w.session.job.heldCost = 0 ∧
        ∀ row ∈ w.session.rows, row.state ≠ .processing) ∧
      ∀ session, prepareJob now w.session = .ok (true, session) → EndsIdle session executor
  | .job (.persistFailure now c code) =>
    (∃ after, persistFailure settleTerminal now c code w = .ok after) →
      w.session.job.state ∈ failableStates → w.session.job.heldCost = 0
  | _ => True

structure ClosingInvariant (w : BulkWorld MeteredBooks) : Prop where
  books : BooksInvariant w.books.books
  loaded : committed w.session = w.session
  sized : w.session.rows.length ≤ w.session.job.targetRows
  outcome : checkOutcome w.session.job = .ok ()
  complete : w.session.job.state = .succeeded → w.session.rows.length = w.session.job.targetRows
  rows : w.session.job.state ∈ terminalJobStates → ∀ row ∈ w.session.rows, row.state ∉ openRowStates
  held : w.session.job.state ∈ terminalJobStates → w.session.job.heldCost = 0
  settled : w.session.job.state ∈ terminalJobStates → ∃ holdId row,
    w.session.job.budgetReservationRef = some holdId ∧
      SettledBy holdId (terminalEvent w.session.job) row w.books

variable {w : BulkWorld MeteredBooks} {c : SettlementClock} {session after s : BulkSession}
variable {now : Int} {call : BulkCall} {executor : Option ExecutorRun}

theorem ClosingInvariant.flushed (h : ClosingInvariant w) : w.session.stored = w.session.rows := by
  rw [← h.loaded]
  rfl

theorem ClosingInvariant.stored (h : ClosingInvariant w) : w.session.job.stored = w.session.job :=
  congrArg BulkSession.job h.loaded

theorem commit_loaded (h : committed w.session = w.session) :
    commit w (.ok ⟨w.session, w.books⟩) = w := by
  unfold commit
  simp only [h]

theorem settleCost_stored {job : BulkJob} (h : job.stored = job) (c : SettlementClock) (holdId : Uuid)
    (s : MeteredBooks) :
    settleCost c holdId job s = settleJob c.ctx holdId c.occurredAt (terminalEvent job) s :=
  if_pos (congrArg BulkJob.actualCost h)

/-- The gate is told no more of a job than its event. -/
theorem settleCost_congr (job other : BulkJob) (hcost : other.actualCost = job.actualCost)
    (hevent : terminalEvent other = terminalEvent job) (c : SettlementClock) (holdId : Uuid)
    (s : MeteredBooks) : settleCost c holdId other s = settleCost c holdId job s := by
  have hcurrency : other.currency = job.currency := congrArg TerminalEvent.currency hevent
  unfold settleCost
  rw [hcost, hevent, hcurrency]

theorem settleCost_ok {job : BulkJob} {holdId : Uuid} {s : MeteredBooks}
    {answer : CreditHold × MeteredBooks} (h : settleCost c holdId job s = .ok answer) :
    job.stored = job ∧ settleJob c.ctx holdId c.occurredAt (terminalEvent job) s = .ok answer := by
  unfold settleCost at h
  split at h
  · rename_i hwhole
    refine ⟨?_, h⟩
    unfold BulkJob.stored
    rw [hwhole]
  · obtain ⟨_, -, h⟩ := bind_ok h
    obtain ⟨_, -, h⟩ := bind_ok h
    cases h

theorem ClosingInvariant.replays (h : ClosingInvariant w) (c : SettlementClock) :
    settleTerminal c w.session.job w.books = .ok w.books := by
  unfold settleTerminal
  by_cases hterminal : w.session.job.state ∈ terminalJobStates
  · obtain ⟨holdId, row, href, hsettled⟩ := h.settled hterminal
    rw [if_neg (not_not.mpr hterminal), href]
    simp only
    rw [bind_of_ok h.outcome, settleCost_stored h.stored,
      bind_of_ok (settleJob_again h.books hsettled c.ctx c.occurredAt)]
  · rw [if_pos hterminal]

theorem ClosingInvariant.closed (h : ClosingInvariant w) : Closed w :=
  fun hterminal => ⟨h.rows hterminal, h.held hterminal, h.settled hterminal, h.replays⟩

theorem settleTerminal_ok {job : BulkJob} {s after : MeteredBooks} (hb : BooksInvariant s.books)
    (h : settleTerminal c job s = .ok after) :
    BooksInvariant after.books ∧ (job.state ∉ terminalJobStates ∧ after = s ∨
      job.state ∈ terminalJobStates ∧ job.stored = job ∧ checkOutcome job = .ok () ∧
        ∃ holdId row, job.budgetReservationRef = some holdId ∧
          SettledBy holdId (terminalEvent job) row after) := by
  unfold settleTerminal at h
  by_cases hterminal : job.state ∈ terminalJobStates
  · rw [if_neg (not_not.mpr hterminal)] at h
    cases href : job.budgetReservationRef with
    | none =>
      simp only [href] at h
      cases h
    | some holdId =>
      simp only [href] at h
      obtain ⟨_, houtcome, h⟩ := bind_ok h
      obtain ⟨⟨row, settled⟩, hsettle, h⟩ := bind_ok h
      cases h
      obtain ⟨hwhole, hsettle⟩ := settleCost_ok hsettle
      have hsettled := settledBy_of_ok hb hsettle
      exact ⟨booksInvariant_settleJob hb hsettle,
        .inr ⟨hterminal, hwhole, houtcome, holdId, row, rfl, hsettled⟩⟩
  · rw [if_pos hterminal] at h
    cases h
    exact ⟨hb, .inl ⟨hterminal, rfl⟩⟩

/-- A session that may be committed once it is settled. -/
structure Closable (session : BulkSession) : Prop where
  sized : session.rows.length ≤ session.job.targetRows
  complete : session.job.state = .succeeded → session.rows.length = session.job.targetRows
  rows : session.job.state ∈ terminalJobStates → ∀ row ∈ session.rows, row.state ∉ openRowStates
  held : session.job.state ∈ terminalJobStates → session.job.heldCost = 0

theorem checkOutcome_live {job : BulkJob} (hlive : job.state ∉ terminalJobStates) :
    checkOutcome job = .ok () := by
  unfold checkOutcome
  rw [if_neg]
  intro hstate
  rw [hstate] at hlive
  exact hlive (by decide)

/-- A session that is closed and, where its job has ended, settled. -/
theorem closingInvariant_committed {books : MeteredBooks} (hb : BooksInvariant books.books)
    (hclosable : Closable session)
    (hsettled : session.job.state ∈ terminalJobStates → session.job.stored = session.job ∧
      checkOutcome session.job = .ok () ∧ ∃ holdId row,
        session.job.budgetReservationRef = some holdId ∧
          SettledBy holdId (terminalEvent session.job) row books) :
    ClosingInvariant (commit w (.ok ⟨session, books⟩)) := by
  have hlength : (committed session).rows.length = session.rows.length := List.length_map _
  have hjob : (commit w (.ok ⟨session, books⟩)).session.job = session.job.stored := rfl
  refine ⟨hb, committed_committed session, hlength.trans_le hclosable.sized, ?_,
    fun hstate => hlength.trans (hclosable.complete hstate), ?_, hclosable.held, ?_⟩
  · by_cases hterminal : session.job.state ∈ terminalJobStates
    · obtain ⟨hstored, houtcome, -⟩ := hsettled hterminal
      rw [hjob, hstored]
      exact houtcome
    · exact checkOutcome_live hterminal
  · intro hterminal row hrow
    obtain ⟨old, hold, rfl⟩ := List.mem_map.mp hrow
    exact hclosable.rows hterminal old hold
  · intro hterminal
    obtain ⟨hstored, -, holdId, row, href, hsettled⟩ := hsettled hterminal
    rw [hjob, hstored]
    exact ⟨holdId, row, href, hsettled⟩

theorem closingInvariant_commit {after : BulkWorld MeteredBooks} (hb : BooksInvariant w.books.books)
    (hclosable : Closable session) (h : settled settleTerminal c session w.books = .ok after) :
    ClosingInvariant (commit w (.ok after)) := by
  obtain ⟨hsession, hsettle⟩ := settled_ok h
  obtain ⟨hbooks, hcases⟩ := settleTerminal_ok hb hsettle
  subst hsession
  apply closingInvariant_committed hbooks hclosable
  intro hterminal
  rcases hcases with ⟨hlive, -⟩ | ⟨-, hsettled⟩
  · exact absurd hterminal hlive
  · exact hsettled

theorem closable_live (hlive : session.job.state ∉ terminalJobStates)
    (hsized : session.rows.length ≤ session.job.targetRows) : Closable session := by
  refine ⟨hsized, ?_, fun hterminal => absurd hterminal hlive, fun hterminal => absurd hterminal hlive⟩
  intro hsucceeded
  rw [hsucceeded] at hlive
  exact absurd (by decide) hlive

/-- A session of a job that goes on needs no settlement. -/
theorem closingInvariant_live (hb : BooksInvariant w.books.books)
    (hlive : session.job.state ∉ terminalJobStates) (hsized : session.rows.length ≤ session.job.targetRows) :
    ClosingInvariant (commit w (.ok ⟨session, w.books⟩)) :=
  closingInvariant_committed hb (closable_live hlive hsized) fun hterminal => absurd hterminal hlive

/-- What a call leaves of a job: its number of rows, but for a snapshot within its target, and
whether it has ended. -/
structure CallKeeps (s after : BulkSession) : Prop where
  sized : s.stored = s.rows → s.rows.length ≤ s.job.targetRows → after.rows.length ≤ after.job.targetRows
  live : s.job.state ∉ terminalJobStates → after.job.state ∉ terminalJobStates

theorem callKeeps_of (hrows : after.rows.length = s.rows.length)
    (htarget : after.job.targetRows = s.job.targetRows)
    (hstate : after.job.state = s.job.state ∨ after.job.state = .cancelRequested) : CallKeeps s after := by
  constructor
  · intro _ hsized
    rw [hrows, htarget]
    exact hsized
  · intro hlive
    rcases hstate with hstate | hstate
    · rw [hstate]
      exact hlive
    · rw [hstate]
      decide

theorem setRow_length (row : BulkRow) (s : BulkSession) : (setRow row s).rows.length = s.rows.length := by
  simp [setRow, updateRow]

theorem changeRows_length (rowIds : List Uuid) (change : BulkRow → BulkRow) (s : BulkSession) :
    (changeRows rowIds change s).rows.length = s.rows.length := by
  simp [changeRows]

theorem chargeAttempt_keeps (now : Int) (row : BulkRow) (a : RowAttempt) (job : BulkJob) :
    (chargeAttempt now row a job).targetRows = job.targetRows ∧
      (chargeAttempt now row a job).state = job.state := by
  unfold chargeAttempt
  simp only
  split <;> exact ⟨rfl, rfl⟩

theorem callKeeps_authorize {rowId : Uuid} {cost : Int} {allowed : Bool}
    (h : authorizeNextRow now rowId cost s = .ok (allowed, after)) :
    after.rows.length = s.rows.length ∧ after.job.targetRows = s.job.targetRows ∧
      after.job.state = s.job.state := by
  cases authorizeNextRow_ok h with
  | denied => exact ⟨rfl, rfl, rfl⟩
  | stopped reason _ _ => exact ⟨rfl, rfl, rfl⟩
  | granted row _ => exact ⟨setRow_length _ _, rfl, rfl⟩

theorem callKeeps_record {reviews : Reviews} {a : RowAttempt}
    (h : recordRowAttempt now reviews a s = .ok after) :
    after.rows.length = s.rows.length ∧ after.job.targetRows = s.job.targetRows ∧
      after.job.state = s.job.state := by
  obtain ⟨row, quality, approval, outcome, -, -, -, -, -, rfl⟩ := recordRowAttempt_ok h
  obtain ⟨htarget, hstate⟩ := chargeAttempt_keeps now row a s.job
  exact ⟨setRow_length _ _, htarget, hstate⟩

theorem executorCall_keeps (s : BulkSession) (call : ExecutorCall) :
    (executorCall s call).rows.length = s.rows.length ∧
      (executorCall s call).job.targetRows = s.job.targetRows := by
  cases call with
  | authorizeNextRow now rowId cost =>
    unfold executorCall
    simp only
    split
    · obtain ⟨hrows, htarget, -⟩ := callKeeps_authorize ‹_›
      exact ⟨hrows, htarget⟩
    · exact ⟨rfl, rfl⟩
  | recordRowAttempt now reviews attempt =>
    unfold executorCall
    simp only
    split
    · obtain ⟨hrows, htarget, -⟩ := callKeeps_record ‹_›
      exact ⟨hrows, htarget⟩
    · exact ⟨rfl, rfl⟩

theorem execute_keeps (run : ExecutorRun) (s : BulkSession) : (execute run s).rows.length = s.rows.length ∧
      (execute run s).job.targetRows = s.job.targetRows := by
  have hcalls : ∀ calls : List ExecutorCall, (calls.foldl executorCall s).rows.length = s.rows.length ∧
        (calls.foldl executorCall s).job.targetRows = s.job.targetRows := by
    intro calls
    induction calls using List.reverseRecOn with
    | nil => exact ⟨rfl, rfl⟩
    | append_singleton calls call ih =>
      rw [List.foldl_append]
      obtain ⟨hrows, htarget⟩ := executorCall_keeps (calls.foldl executorCall s) call
      exact ⟨hrows.trans ih.1, htarget.trans ih.2⟩
  unfold execute
  simp only
  split
  · exact hcalls run.calls
  · exact hcalls run.calls

section Calls

variable [BulkHashes]

theorem callSession_keeps (h : callSession call s = .ok after) : CallKeeps s after := by
  cases call with
  | materialize file content =>
    rcases materializeCsvSnapshot_appends h with rfl | ⟨rows, created, hmaterialized, rfl⟩
    · exact callKeeps_of rfl rfl (.inl rfl)
    · exact ⟨fun hstored _ => hmaterialized.length_le hstored, id⟩
  | authorizeNextRow now rowId cost =>
    obtain ⟨⟨allowed, session⟩, hsession, rfl⟩ := map_ok h
    obtain ⟨hrows, htarget, hstate⟩ := callKeeps_authorize hsession
    exact callKeeps_of hrows htarget (.inl hstate)
  | recordRowAttempt now reviews attempt =>
    obtain ⟨hrows, htarget, hstate⟩ := callKeeps_record h
    exact callKeeps_of hrows htarget (.inl hstate)
  | retryRows principal data regenerate =>
    rcases retryRows_ok h with rfl | hretries
    · exact callKeeps_of rfl rfl (.inl rfl)
    · rw [hretries.result]
      exact callKeeps_of (changeRows_length _ _ _) rfl (.inl rfl)
  | approveRows now principal reviews data =>
    rcases approveRows_ok h with rfl | ⟨-, rfl⟩
    · exact callKeeps_of rfl rfl (.inl rfl)
    · exact callKeeps_of (changeRows_length _ _ _) rfl (.inl rfl)
  | pauseJob now principal data =>
    have hcommand := (pauseJob_ok h).1
    exact callKeeps_of (congrArg List.length hcommand.rows) hcommand.target hcommand.state
  | resumeJob principal data =>
    have hcommand := (resumeJob_ok h).1
    exact callKeeps_of (congrArg List.length hcommand.rows) hcommand.target hcommand.state
  | cancelJob now principal data =>
    have hcommand := (cancelJob_ok h).1
    exact callKeeps_of (congrArg List.length hcommand.rows) hcommand.target hcommand.state

/-- On a finished job a call changes nothing, but for a recording and a bulk approval. -/
theorem callSession_terminal (hterminal : s.job.state ∈ terminalJobStates)
    (h : callSession call s = .ok after) :
    after = s ∨ (∃ now reviews attempt, call = .recordRowAttempt now reviews attempt ∧
        recordRowAttempt now reviews attempt s = .ok after) ∨
      ∃ now principal reviews data, call = .approveRows now principal reviews data ∧
        after = approvedSession now principal data s := by
  cases call with
  | materialize file content =>
    have hsnapshot : materializeCsvSnapshot file content s = .ok after := h
    unfold materializeCsvSnapshot at hsnapshot
    rw [if_pos (.inl hterminal)] at hsnapshot
    cases hsnapshot
    exact .inl rfl
  | authorizeNextRow now rowId cost =>
    obtain ⟨⟨allowed, session⟩, hsession, rfl⟩ := map_ok h
    cases authorizeNextRow_ok hsession with
    | denied => exact .inl rfl
    | stopped reason hlive _ => exact absurd hterminal hlive
    | granted row hgrants => exact absurd hterminal hgrants.live
  | recordRowAttempt now reviews attempt =>
    exact .inr (.inl ⟨now, reviews, attempt, rfl, h⟩)
  | retryRows principal data regenerate =>
    rcases retryRows_ok h with rfl | hretries
    · exact .inl rfl
    · exact absurd hterminal hretries.live
  | approveRows now principal reviews data =>
    rcases approveRows_ok h with rfl | ⟨-, rfl⟩
    · exact .inl rfl
    · exact .inr (.inr ⟨now, principal, reviews, data, rfl, rfl⟩)
  | pauseJob now principal data =>
    exact absurd hterminal (pauseJob_ok h).1.live
  | resumeJob principal data =>
    exact absurd hterminal (resumeJob_ok h).1.live
  | cancelJob now principal data =>
    exact absurd hterminal (cancelJob_ok h).1.live

end Calls

theorem countStates_processed {rows : List BulkRow} (hclosed : ∀ row ∈ rows, row.state ∉ openRowStates) :
    countStates processedRowStates rows = rows.length := by
  unfold countStates
  rw [List.countP_eq_length]
  intro row hrow
  have hrow := hclosed row hrow
  simp only [decide_eq_true_eq]
  cases hstate : row.state <;> simp [hstate, openRowStates, processedRowStates] at hrow ⊢

theorem closed_changeRows {rowIds : List Uuid} {change : BulkRow → BulkRow}
    (hchange : ∀ row, (change row).state ∉ openRowStates)
    (hclosed : ∀ row ∈ s.rows, row.id ∉ rowIds → row.state ∉ openRowStates) :
    ∀ row ∈ (changeRows rowIds change s).rows, row.state ∉ openRowStates := by
  intro row hrow
  obtain ⟨old, hold, rfl⟩ := List.mem_map.mp hrow
  by_cases hid : old.id ∈ rowIds
  · rw [if_pos hid]
    exact hchange old
  · rw [if_neg hid]
    exact hclosed old hold hid

/-- A bulk approval after the end leaves the job closed and its counters complete. -/
theorem closingInvariant_approve (h : ClosingInvariant w)
    (hterminal : w.session.job.state ∈ terminalJobStates) (now : Int) (principal : BulkPrincipal)
    (data : BulkRowsCommand) :
    ClosingInvariant (commit w (.ok ⟨approvedSession now principal data w.session, w.books⟩)) := by
  have hclosed : ∀ row ∈ (approvedSession now principal data w.session).rows,
      row.state ∉ openRowStates := by
    apply closed_changeRows
    · intro row
      simp [approvedRow, openRowStates]
    · exact fun row hrow _ => h.rows hterminal row hrow
  have hlength : (approvedSession now principal data w.session).rows.length =
      w.session.rows.length := changeRows_length _ _ _
  have hstored : (approvedSession now principal data w.session).job.stored =
      (approvedSession now principal data w.session).job := by
    have hcost : (storedCost w.session.job.actualCost : ℚ) = w.session.job.actualCost :=
      congrArg BulkJob.actualCost h.stored
    unfold BulkJob.stored
    rw [show (approvedSession now principal data w.session).job.actualCost =
      w.session.job.actualCost from rfl, hcost]
    rfl
  refine closingInvariant_committed h.books ⟨hlength.trans_le h.sized,
    fun hstate => hlength.trans (h.complete hstate), fun _ => hclosed, fun _ => h.held hterminal⟩
    fun _ => ⟨hstored, ?_, h.settled hterminal⟩
  · have houtcome := h.outcome
    unfold checkOutcome at houtcome ⊢
    by_cases hstate : w.session.job.state = .succeeded
    · rw [if_pos hstate] at houtcome
      rw [if_pos (show (approvedSession now principal data w.session).job.state = .succeeded from hstate)]
      obtain ⟨_, -, houtcome⟩ := bind_ok houtcome
      obtain ⟨_, hheld, hlimit⟩ := bind_ok houtcome
      have hheld := require_ok hheld
      have hlimit := require_ok hlimit
      have hprocessed : countStates processedRowStates
          (approvedSession now principal data w.session).rows = w.session.job.targetRows := by
        rw [countStates_processed hclosed, hlength, h.complete hstate]
      exact (bind_of_ok (require_of hprocessed _) _).trans
        ((bind_of_ok (require_of hheld _) _).trans (require_of hlimit _))
    · exact if_neg hstate

section

variable (hstored : s.stored = s.rows) (hsized : s.rows.length ≤ s.job.targetRows)

include hstored hsized

/-- A failure closes every row that is open. -/
theorem closable_failJob {code detail : String} (hlive : s.job.state ∉ terminalJobStates)
    (hidle : s.job.state ∈ failableStates → s.job.heldCost = 0)
    (h : failJob now code detail s = .ok after) : Closable after := by
  rw [failJob_eq, if_neg hlive] at h
  cases h
  by_cases hstate : s.job.state ∈ failableStates
  · rw [if_pos hstate]
    refine ⟨?_, ?_, fun _ => ?_, fun _ => hidle hstate⟩
    · exact (changeRows_length _ _ _).trans_le hsized
    · intro hsucceeded
      cases hsucceeded
    · apply closed_changeRows
      · intro row
        simp [failedRow, openRowStates]
      · intro row hrow hnot hopen
        exact hnot (mem_selectRows hstored hrow hopen)
  · rw [if_neg hstate]
    exact closable_live hlive hsized

theorem closable_cancelled (hheld : s.job.heldCost = 0)
    (hidle : ∀ row ∈ s.rows, row.state ≠ .processing) : Closable (cancelledSession now s) := by
  refine ⟨(changeRows_length _ _ _).trans_le hsized, ?_, fun _ => ?_, fun _ => hheld⟩
  · intro hsucceeded
    cases hsucceeded
  · apply closed_changeRows
    · intro row
      simp [openRowStates]
    · intro row hrow hnot hopen
      have hidle := hidle row hrow
      apply hnot
      apply mem_selectRows hstored hrow
      cases hstate : row.state <;> simp [hstate, openRowStates, waitingRowStates] at hopen hidle ⊢

end

theorem closingInvariant_executeJob {after : BulkWorld MeteredBooks} (hb : BooksInvariant w.books.books)
    (hflushed : session.stored = session.rows) (hsized : session.rows.length = session.job.targetRows)
    (hlive : session.job.state ∉ terminalJobStates) (hasked : session.job.state ≠ .cancelRequested)
    (hidle : EndsIdle session executor)
    (h : executeJob settleTerminal now c executor session w.books = .ok after) :
    ClosingInvariant (commit w (.ok after)) := by
  unfold executeJob at h
  cases executor with
  | none =>
    obtain ⟨failed, hfailed, h⟩ := bind_ok h
    exact closingInvariant_commit hb (closable_failJob hflushed hsized.le hlive hidle hfailed) h
  | some run =>
    simp only at h
    split at h
    · cases h
    have hstate := execute_state run session
    have hran := execute_flushed run session
    obtain ⟨hrows, htarget⟩ := execute_keeps run session
    unfold EndsIdle at hidle
    simp only at hidle
    generalize execute run session = result at h hstate hran hrows htarget hidle
    have hcomplete : result.rows.length = result.job.targetRows := by
      rw [hrows, htarget]
      exact hsized
    unfold finishJob at h
    by_cases hsucceeds : run.succeeds = true
    · rw [if_pos hsucceeds] at hstate hidle
      obtain ⟨hpaused, hkilled, hclosed⟩ := hidle
      have hheld : result.job.state ∈ terminalJobStates → result.job.heldCost = 0 := by
        intro hterminal
        rw [if_neg (by simp [hstate]), if_neg (by simp [hpaused, hkilled]), if_neg (by simp [hstate])] at h
        obtain ⟨-, hsettle⟩ := settled_ok h
        obtain ⟨-, ⟨hnot, -⟩ | ⟨-, -, houtcome, -⟩⟩ := settleTerminal_ok hb hsettle
        · exact absurd hterminal hnot
        · unfold checkOutcome at houtcome
          rw [if_pos hstate] at houtcome
          obtain ⟨_, -, houtcome⟩ := bind_ok houtcome
          obtain ⟨_, hheld, -⟩ := bind_ok houtcome
          exact require_ok hheld
      rw [if_neg (by simp [hstate]), if_neg (by simp [hpaused, hkilled]), if_neg (by simp [hstate])] at h
      exact closingInvariant_commit hb ⟨hcomplete.le, fun _ => hcomplete, fun _ => hclosed, hheld⟩ h
    · rw [if_neg hsucceeds] at hstate hidle
      have hlive : result.job.state ∉ terminalJobStates := by
        rw [hstate]
        exact hlive
      rw [if_neg (by rw [hstate]; exact hasked)] at h
      by_cases hpaused : result.job.pauseRequested ∨ result.job.budgetKillSwitchTriggered
      · rw [if_pos hpaused] at h
        cases h
        exact closingInvariant_live hb hlive hcomplete.le
      rw [if_neg hpaused] at h
      rw [not_or, Bool.not_eq_true, Bool.not_eq_true] at hpaused
      by_cases hvalidating : result.job.state = .validating
      · rw [if_pos hvalidating] at h
        obtain ⟨failed, hfailed, h⟩ := bind_ok h
        have hheld := hidle hpaused.1 hpaused.2 hvalidating
        exact closingInvariant_commit hb (closable_failJob hran hcomplete.le hlive (fun _ => hheld) hfailed) h
      · rw [if_neg hvalidating] at h
        exact closingInvariant_commit hb (closable_live hlive hcomplete.le) h

theorem closingInvariant_created (hs : created s) {books : MeteredBooks}
    (hbooks : Reachable transact emptyBooks books.books) : ClosingInvariant ⟨s, books⟩ := by
  obtain ⟨readers, env, data, basis, holdId, authorizedCost, -, rfl, -⟩ := hs
  have hlive : JobState.queued ∉ terminalJobStates := by decide
  have hloaded : committed { job := newBulkJob readers env data basis holdId authorizedCost } =
      { job := newBulkJob readers env data basis holdId authorizedCost } := by
    unfold committed BulkJob.stored
    rw [show (newBulkJob readers env data basis holdId authorizedCost).actualCost = 0 from rfl,
      storedCost_zero]
    rfl
  refine ⟨(boundedBooks_reachable hbooks).books, hloaded, Nat.zero_le _, rfl, ?_, ?_, ?_, ?_⟩
  · intro hstate
    cases hstate
  · exact fun hterminal => absurd hterminal hlive
  · exact fun hterminal => absurd hterminal hlive
  · exact fun hterminal => absurd hterminal hlive

section Steps

variable [BulkHashes]

section

variable (h : ClosingInvariant w)

include h

theorem closingInvariant_call (hsettling : Settling w (.job (.call call))) :
    ClosingInvariant (transactJob settleTerminal w (.call call)) := by
  rw [show transactJob settleTerminal w (.call call) =
    commit w ((callSession call w.session).map (BulkWorld.mk · w.books)) from rfl]
  cases hsession : callSession call w.session with
  | error failure => exact h
  | ok after =>
    by_cases hterminal : w.session.job.state ∈ terminalJobStates
    · rcases callSession_terminal hterminal hsession with rfl |
        ⟨now, reviews, attempt, rfl, hrecorded⟩ | ⟨now, principal, reviews, data, rfl, rfl⟩
      · rw [show commit w ((Except.ok w.session).map (BulkWorld.mk · w.books)) = w from
          commit_loaded h.loaded]
        exact h
      · exact absurd ⟨after, hrecorded⟩ (hsettling hterminal)
      · exact closingInvariant_approve h hterminal now principal data
    · have hkeeps := callSession_keeps hsession
      exact closingInvariant_live h.books (hkeeps.live hterminal) (hkeeps.sized h.flushed h.sized)

theorem closingInvariant_process (hsettling : Settling w (.job (.process now c executor))) :
    ClosingInvariant (transactJob settleTerminal w (.process now c executor)) := by
  rw [show transactJob settleTerminal w (.process now c executor) =
    commit w (processJob settleTerminal now c executor w) from rfl]
  cases hprocess : processJob settleTerminal now c executor w with
  | error failure => exact h
  | ok after =>
    obtain ⟨hcancel, hexecute⟩ := hsettling ⟨after, hprocess⟩
    obtain ⟨ready, session, hprepare, hpreparation⟩ := prepareJob_spec now w.session
    unfold processJob at hprocess
    rw [bind_of_ok hprepare] at hprocess
    cases hpreparation with
    | unchanged hasked _ =>
      apply closingInvariant_commit h.books _ hprocess
      exact ⟨h.sized, h.complete, h.rows, h.held⟩
    | cancelled hstate =>
      obtain ⟨hheld, hidle⟩ := hcancel hstate
      exact closingInvariant_commit h.books (closable_cancelled h.flushed h.sized hheld hidle) hprocess
    | stopped job hasked hstate hlive hmoney =>
      have hlive : job.state ∉ terminalJobStates := hstate.symm ▸ hlive
      exact closingInvariant_commit h.books (closable_live hlive (hmoney.target.symm ▸ h.sized)) hprocess
    | waiting job hasked hstate hmoney =>
      exact closingInvariant_commit h.books (closable_live hstate (hmoney.target.symm ▸ h.sized)) hprocess
    | ready job hasked hstate huncancelled hmoney hrows =>
      have hsized : w.session.rows.length = job.targetRows := by
        have hsized := h.sized
        rw [h.flushed] at hrows
        rw [hmoney.target]
        omega
      have hflushed : ({ w.session with job := job } : BulkSession).stored =
          ({ w.session with job := job } : BulkSession).rows := h.flushed
      exact closingInvariant_executeJob h.books hflushed hsized hstate huncancelled
        (hexecute _ hprepare) hprocess

theorem closingInvariant_persistFailure {code : String}
    (hsettling : Settling w (.job (.persistFailure now c code))) :
    ClosingInvariant (transactJob settleTerminal w (.persistFailure now c code)) := by
  rw [show transactJob settleTerminal w (.persistFailure now c code) =
    commit w (persistFailure settleTerminal now c code w) from rfl]
  cases hpersist : persistFailure settleTerminal now c code w with
  | error failure => exact h
  | ok after =>
    have hidle := hsettling ⟨after, hpersist⟩
    obtain ⟨failed, hfailed, hpersist⟩ := bind_ok hpersist
    apply closingInvariant_commit h.books _ hpersist
    by_cases hterminal : w.session.job.state ∈ terminalJobStates
    · rw [failJob_eq, if_pos hterminal] at hfailed
      cases hfailed
      exact ⟨h.sized, h.complete, h.rows, h.held⟩
    · exact closable_failJob h.flushed h.sized hterminal hidle hfailed

theorem closingInvariant_transact {action : ClosingAction} (hsettling : Settling w action) :
    ClosingInvariant (transactClosing w action) := by
  cases action with
  | job action =>
    cases action with
    | call call => exact closingInvariant_call h hsettling
    | process now c executor => exact closingInvariant_process h hsettling
    | persistFailure now c code => exact closingInvariant_persistFailure h hsettling
  | credits call =>
    have hbooks := booksInvariant_transact w.books.books call h.books
    have hevolves := (holdsStep_transact h.books call).evolves h.books
    refine ⟨hbooks, h.loaded, h.sized, h.outcome, h.complete, h.rows, h.held, ?_⟩
    intro hterminal
    obtain ⟨holdId, row, href, hsettled⟩ := h.settled hterminal
    exact ⟨holdId, row, href, hsettled.kept hevolves List.prefix_rfl⟩
  | meter ctx data =>
    unfold transactClosing
    simp only
    split
    · refine ⟨h.books, h.loaded, h.sized, h.outcome, h.complete, h.rows, h.held, ?_⟩
      intro hterminal
      obtain ⟨holdId, row, href, hsettled⟩ := h.settled hterminal
      exact ⟨holdId, row, href, hsettled.kept (.refl _) (recordUsage_extends ‹_›)⟩
    · exact h

end

/-- Nothing but a bulk approval moves a finished job. -/
theorem frozen_of_settling {action : ClosingAction} (hloaded : committed w.session = w.session)
    (hsettling : Settling w action) : Frozen w action := by
  have hsettled : ∀ (c : SettlementClock) (session : BulkSession) (after : BulkWorld MeteredBooks),
      session = w.session → settled settleTerminal c session w.books = .ok after →
        (commit w (.ok after)).session.rows = w.session.rows ∧
          (commit w (.ok after)).session.job.actualCost = w.session.job.actualCost ∧
          (commit w (.ok after)).session.job.state = w.session.job.state := by
    rintro c session after rfl hsettled
    obtain ⟨hsession, -⟩ := settled_ok hsettled
    rw [show (commit w (.ok after)).session = committed after.session from rfl, hsession, hloaded]
    exact ⟨rfl, rfl, rfl⟩
  cases action with
  | job action =>
    cases action with
    | call call =>
      have hcall : w.session.job.state ∈ terminalJobStates →
          (¬ ∃ now principal reviews data, call = .approveRows now principal reviews data) →
          (transactClosing w (.job (.call call))).session.rows = w.session.rows ∧
            (transactClosing w (.job (.call call))).session.job.actualCost = w.session.job.actualCost ∧
            (transactClosing w (.job (.call call))).session.job.state =
              w.session.job.state := by
        intro hterminal happrove
        rw [show transactClosing w (.job (.call call)) =
          commit w ((callSession call w.session).map (BulkWorld.mk · w.books)) from rfl]
        cases hsession : callSession call w.session with
        | error failure => exact ⟨rfl, rfl, rfl⟩
        | ok after =>
          rcases callSession_terminal hterminal hsession with rfl |
            ⟨now, reviews, attempt, rfl, hrecorded⟩ | ⟨now, principal, reviews, data, rfl, -⟩
          · rw [show commit w ((Except.ok w.session).map (BulkWorld.mk · w.books)) = w from
              commit_loaded hloaded]
            exact ⟨rfl, rfl, rfl⟩
          · exact absurd ⟨after, hrecorded⟩ (hsettling hterminal)
          · exact absurd ⟨now, principal, reviews, data, rfl⟩ happrove
      cases call with
      | approveRows now principal reviews data => trivial
      | _ => exact fun hterminal => hcall hterminal (by simp)
    | process now c executor =>
      intro hterminal
      rw [show transactClosing w (.job (.process now c executor)) =
        commit w (processJob settleTerminal now c executor w) from rfl]
      cases hprocess : processJob settleTerminal now c executor w with
      | error failure => exact ⟨rfl, rfl, rfl⟩
      | ok after =>
        unfold processJob prepareJob at hprocess
        rw [if_pos hterminal] at hprocess
        exact hsettled c w.session after rfl hprocess
    | persistFailure now c code =>
      intro hterminal
      rw [show transactClosing w (.job (.persistFailure now c code)) =
        commit w (persistFailure settleTerminal now c code w) from rfl]
      cases hpersist : persistFailure settleTerminal now c code w with
      | error failure => exact ⟨rfl, rfl, rfl⟩
      | ok after =>
        obtain ⟨failed, hfailed, hpersist⟩ := bind_ok hpersist
        rw [failJob_eq, if_pos hterminal] at hfailed
        cases hfailed
        exact hsettled c w.session after rfl hpersist
  | credits call => exact fun _ => ⟨rfl, rfl, rfl⟩
  | meter ctx data =>
    intro _
    unfold transactClosing
    simp only
    split <;> exact ⟨rfl, rfl, rfl⟩

/-- In a run that ends its job idle and records no row of a finished job, the finished job is
closed in every committed state, and only bulk approvals still change it. -/
theorem bulkJob_closed {s : BulkSession} (hs : created s) {books : MeteredBooks}
    (hbooks : Reachable transact emptyBooks books.books) {actions : List ClosingAction}
    (hsettling : Along transactClosing Settling ⟨s, books⟩ actions) :
    (∀ before, before <+: actions → Closed (run transactClosing ⟨s, books⟩ before)) ∧
      Along transactClosing Frozen ⟨s, books⟩ actions := by
  have hstart := closingInvariant_created hs hbooks
  have hstep : ∀ w action, ClosingInvariant w → Settling w action →
      ClosingInvariant (transactClosing w action) :=
    fun w action h hsettling => closingInvariant_transact h hsettling
  constructor
  · rintro before ⟨rest, rfl⟩
    have hbefore : Along transactClosing Settling ⟨s, books⟩ before :=
      ((along_append transactClosing Settling ⟨s, books⟩ before rest).mp hsettling).1
    exact (invariant_along (I := ClosingInvariant) transactClosing hstep hstart hbefore).closed
  · exact along_of_invariant (I := ClosingInvariant) transactClosing hstep
      (fun w action h hsettling => frozen_of_settling h.loaded hsettling) hstart hsettling

end Steps

/-! ## A job that ends twice -/

instance (session : BulkSession) (executor : Option ExecutorRun) :
    Decidable (EndsIdle session executor) := by
  unfold EndsIdle
  cases executor <;> infer_instance

/-- What is asked of a delivery, as a test. -/
def idleTest (now : Int) (executor : Option ExecutorRun) (s : BulkSession) : Bool :=
  (s.job.state ≠ .cancelRequested) &&
    match prepareJob now s with
    | .ok (true, session) => EndsIdle session executor
    | _ => true

theorem settling_of_idleTest (h : idleTest now executor w.session = true) :
    Settling w (.job (.process now c executor)) := by
  unfold idleTest at h
  rw [Bool.and_eq_true] at h
  obtain ⟨hasked, hidle⟩ := h
  intro _
  constructor
  · exact fun hstate => absurd hstate (of_decide_eq_true hasked)
  · intro session hprepare
    rw [hprepare] at hidle
    exact of_decide_eq_true hidle

attribute [local instance] sampleHashes

/-- An account of 100 credits with the hold of 50 that the job was created with. -/
def sampleBulkBooks : Books := run transact {} [ (contextAt 1, .createCreditAccount),
  (contextAt 2, .grantCredits {
    bucketKind := .monthly, amount := 100000000, amount_pos := hundred_million_pos, sourceType := "plan"
    sourceId := "1", expiresAt := none, reasonCode := "MONTHLY" }),
  (contextAt 10, .createHold {
    subjectType := "bulk_job", subjectId := "bulk-key", operation := "bulk.generate"
    priceVersionId := 7, maximumAmount := 50000000, idempotencyKey := "bulk:bulk-key"
    expiresAt := 60000010, maximumAmount_pos := by decide })]

theorem fifty_covers_ten : 10 ≤ 50 := by decide

def sampleWorld : BulkWorld MeteredBooks := ⟨sampleSession 1 50 fifty_covers_ten, ⟨sampleBulkBooks, []⟩⟩

def sampleClock (now : Nat) : SettlementClock := ⟨contextAt now, now⟩

def sampleExecutor : ExecutorRun where
  calls := [.authorizeNextRow 20 1 10000000, .recordRowAttempt 21 {} (plainFailure 1 4000000)]
  succeeds := true

/-- The executor fails the only row at a cost of 4; the delivery comes twice. -/
def sampleDeliveries : List ClosingAction := [
  .job (.call (.materialize (some (sampleFile 1)) (sampleContent 1))),
  .job (.process 20 (sampleClock 22) (some sampleExecutor)),
  .job (.process 30 (sampleClock 30) none)]

/-- The job is cancelled while its only row is in progress. -/
def sampleCancellation : List ClosingAction := [
  .job (.call (.materialize (some (sampleFile 1)) (sampleContent 1))),
  .job (.call (.authorizeNextRow 20 1 10000000)),
  .job (.call (.cancelJob 21 { subjectId := 5 } ⟨"stop", "cancel"⟩)),
  .job (.process 30 (sampleClock 30) none)]

def lateRecording : ClosingAction := .job (.call (.recordRowAttempt 40 {} (plainFailure 1 4000000)))

theorem bulkJob_closed_sample :
    ((∀ before, before <+: sampleDeliveries → Closed (run transactClosing sampleWorld before)) ∧
      Along transactClosing Frozen sampleWorld sampleDeliveries) ∧
      (run transactClosing sampleWorld sampleDeliveries).session.job.state = .succeeded := by
  refine ⟨?_, by decide +kernel⟩
  have hbooks : Reachable transact emptyBooks sampleBulkBooks := ⟨{}, _, by simp [emptyBooks], rfl⟩
  apply bulkJob_closed (created_sampleSession 1 50 (by decide)) hbooks
  refine ⟨trivial, settling_of_idleTest ?_, settling_of_idleTest ?_, trivial⟩
  · decide +kernel
  · decide +kernel

/-- The cancelled job keeps its row in progress and the hold of it; the row is recorded after
the end, and the settlement no longer replays. -/
theorem cancelled_in_progress_open :
    created sampleWorld.session ∧ Reachable transact emptyBooks sampleWorld.books.books ∧
      (run transactClosing sampleWorld sampleCancellation).session.job.state = .cancelled ∧
      (run transactClosing sampleWorld sampleCancellation).session.job.heldCost = 10000000 ∧
      (∃ row ∈ (run transactClosing sampleWorld sampleCancellation).session.rows, row.state = .processing) ∧
      (run transactClosing sampleWorld (sampleCancellation ++
        [lateRecording])).session.job.actualCost = 4000000 ∧
      (settleTerminal (sampleClock 50) (run transactClosing sampleWorld (sampleCancellation ++
        [lateRecording])).session.job (run transactClosing sampleWorld (sampleCancellation ++
        [lateRecording])).books).isOk = false := by
  refine ⟨created_sampleSession 1 50 (by decide), ⟨{}, _, by simp [emptyBooks], rfl⟩, ?_⟩
  decide +kernel

end BlogOps.Bulk
