import BlogOps.BulkReplays

/-!
# The budget of a bulk job

Over any run of the commands and executor sessions of a bulk job its held cost is
the sum of the estimates of the rows in progress, and its actual cost the sum
over its rows and over its attempts, as long as no bulk approval takes a row
in progress and the costs of each session round alike: the approved row keeps its
hold and can no longer be recorded, and the job, its rows and the attempts each
round in columns of their own.
-/

namespace BlogOps.Bulk

open Jobs KeyedTables TransitionRuns Quality List

/-- A bulk job with the rows whose authorization its executor has not yet recorded. -/
structure BulkLedger where
  session : BulkSession
  authorized : List Uuid := []
deriving DecidableEq, Repr

inductive ExecutorCall where
  | authorizeNextRow (now : Int) (rowId : Uuid) (nextEstimatedCost : Int)
  | recordRowAttempt (now : Int) (reviews : Reviews) (attempt : RowAttempt)

def noteAuthorization (rowId : Uuid) (allowed : Bool) (authorized : List Uuid) : List Uuid :=
  if allowed then authorized ++ [rowId] else authorized

/-- A call in the session of an executor; one that raises leaves it as it was. -/
def noteCall (s : BulkLedger) : ExecutorCall → BulkLedger
  | .authorizeNextRow now rowId cost =>
    match authorizeNextRow now rowId cost s.session with
    | .ok (allowed, session) => ⟨session, noteAuthorization rowId allowed s.authorized⟩
    | .error _ => s
  | .recordRowAttempt now reviews attempt =>
    match recordRowAttempt now reviews attempt s.session with
    | .ok session => ⟨session, s.authorized.filter (· ≠ attempt.rowId)⟩
    | .error _ => s

/-- One transaction: the snapshot, a command of a user, or the calls of an executor. -/
inductive BulkTransaction where
  | materialize (file : Option BulkInputFile) (content : InputContent)
  | command (command : UserCommand)
  | execute (calls : List ExecutorCall)

/-- What raises is rolled back.  Only an executor records costs, which are rounded where its
session is committed. -/
def transactBulk [BulkHashes] (s : BulkLedger) : BulkTransaction → BulkLedger
  | .materialize file content =>
    match materializeCsvSnapshot file content s.session with
    | .ok session => ⟨flush session, s.authorized⟩
    | .error _ => s
  | .command command => ⟨issue s.session command, s.authorized⟩
  | .execute calls => ⟨committed (run noteCall s calls).session, (run noteCall s calls).authorized⟩

/-- Only rows with an open authorization are recorded. -/
def RecordsAuthorized (s : BulkLedger) : ExecutorCall → Prop
  | .authorizeNextRow _ _ _ => True
  | .recordRowAttempt _ _ attempt => attempt.rowId ∈ s.authorized

def KeepsToAuthorized (s : BulkLedger) : BulkTransaction → Prop
  | .execute calls => Along noteCall RecordsAuthorized s calls
  | _ => True

/-- The command is a bulk approval that the service accepts although it takes a row in
progress. -/
def ApprovesProcessing (s : BulkLedger) : UserCommand → Prop
  | .approveRows _ principal reviews data => Approves principal reviews data s.session ∧
      ∃ row ∈ rowsOf data.rowIds s.session, row.state = .processing
  | _ => False

/-- A recording that is accepted: its row and its cost. -/
def recording (s : BulkLedger) : ExecutorCall → List (Uuid × ℚ)
  | .authorizeNextRow _ _ _ => []
  | .recordRowAttempt now reviews attempt =>
    if (recordRowAttempt now reviews attempt s.session).isOk then
      [(attempt.rowId, attempt.actualCost)]
    else []

def recordings (s : BulkLedger) : List ExecutorCall → List (Uuid × ℚ)
  | [] => []
  | call :: calls => recording s call ++ recordings (noteCall s call) calls

/-- What a session records of one row. -/
def costsOf (recorded : List (Uuid × ℚ)) (rowId : Uuid) : ℚ :=
  (recorded.map fun entry => if entry.1 = rowId then entry.2 else 0).sum

/-- The cost of the job rounds to what its rows and its attempts round to. -/
structure RoundsAlike (rows : List BulkRow) (recorded : List (Uuid × ℚ)) : Prop where
  rows : storedCost (recorded.map Prod.snd).sum =
    total (fun row => storedCost (costsOf recorded row.id)) rows
  attempts : storedCost (recorded.map Prod.snd).sum = total (fun entry => storedCost entry.2) recorded

instance (rows : List BulkRow) (recorded : List (Uuid × ℚ)) : Decidable (RoundsAlike rows recorded) :=
  decidable_of_iff
    (storedCost (recorded.map Prod.snd).sum =
        total (fun row => storedCost (costsOf recorded row.id)) rows ∧
      storedCost (recorded.map Prod.snd).sum = total (fun entry => storedCost entry.2) recorded)
    ⟨fun h => ⟨h.1, h.2⟩, fun h => ⟨h.rows, h.attempts⟩⟩

def KeepsAccounts (s : BulkLedger) : BulkTransaction → Prop
  | .materialize _ _ => True
  | .command command => ¬ ApprovesProcessing s command
  | .execute calls => RoundsAlike s.session.rows (recordings s calls)

def isProcessing (row : BulkRow) : Bool := row.state = .processing

def processingEstimate (rows : List BulkRow) : Int := totalWhere isProcessing (·.estimatedCost) rows

/-- Whatever the server takes as evidence is recorded for the row. -/
def Recordable (s : BulkSession) (rowId : Uuid) : Prop :=
  ∀ now reviews attempt, attempt.rowId = rowId →
    (∃ quality approval outcome,
      AttemptAccepted reviews s.job.spamPolicy attempt quality approval outcome) →
    ∃ after, recordRowAttempt now reviews attempt s = .ok after

structure Accounted (s : BulkLedger) : Prop where
  held : s.session.job.heldCost = processingEstimate s.session.rows
  actual : s.session.job.actualCost = (s.session.rows.map (·.actualCost)).sum
  attempts : s.session.job.actualCost = (s.session.attempts.map (·.actualCost)).sum
  recordable : ∀ rowId ∈ s.authorized, Recordable s.session rowId

/-- An authorization stays within the limit, and a recording takes no more off the hold than
is on it. -/
def WithinBudget (s : BulkLedger) : ExecutorCall → Prop
  | .authorizeNextRow now rowId cost => ∀ after,
      authorizeNextRow now rowId cost s.session = .ok (true, after) →
        after.job.actualCost + after.job.heldCost ≤ min after.job.maximumCost
          after.job.authorizedCost
  | .recordRowAttempt now reviews attempt => ∀ row after,
      rowOf attempt.rowId s.session = .ok row →
        recordRowAttempt now reviews attempt s.session = .ok after →
          max 0 (s.session.job.heldCost - row.estimatedCost) =
            s.session.job.heldCost - row.estimatedCost

/-- Each call of an executor is within the budget and leaves the accounts of its session kept. -/
def KeepsBudget (s : BulkLedger) : BulkTransaction → Prop
  | .execute calls =>
    Along noteCall (fun s call => WithinBudget s call ∧ Accounted (noteCall s call)) s calls
  | _ => True

/-- A row that has not been finished can still be attempted. -/
def Attemptable (job : BulkJob) (row : BulkRow) : Prop :=
  row.state ∈ [.ready, .queued, .processing] → row.approvedAt = none ∧
    row.attempt < job.maxRowAttempts

structure BulkInvariant (s : BulkLedger) : Prop where
  keyed : Keyed (·.id) s.session.rows
  estimate : 0 ≤ s.session.job.estimatedCost
  limit : 1 ≤ s.session.job.maxRowAttempts
  estimates : ∀ row ∈ s.session.rows, 0 ≤ row.estimatedCost
  open_rows : ∀ row ∈ s.session.rows, Attemptable s.session.job row
  held : s.session.job.heldCost = processingEstimate s.session.rows
  actual : s.session.job.actualCost = (s.session.rows.map (·.actualCost)).sum
  attempts : s.session.job.actualCost = (s.session.attempts.map (·.actualCost)).sum
  authorized : ∀ rowId, rowId ∈ s.authorized ↔
    ∃ row ∈ s.session.rows, row.id = rowId ∧ row.state = .processing

/-- An amount as a column has it. -/
def Whole (amount : ℚ) : Prop := 0 ≤ amount ∧ (storedCost amount : ℚ) = amount

/-- The costs of a session as it was loaded. -/
structure WholeCosts (s : BulkSession) : Prop where
  job : Whole s.job.actualCost
  rows : ∀ row ∈ s.rows, Whole row.actualCost
  attempts : ∀ attempt ∈ s.attempts, Whole attempt.actualCost

theorem bulkInvariant_created {s : BulkSession} (h : created s) : BulkInvariant ⟨s, []⟩ := by
  obtain ⟨readers, env, data, basis, holdId, authorizedCost, -, rfl, -⟩ := h
  refine ⟨nodup_nil, storedNumeric_nonneg data.estimated_nonneg, data.attempts_range.1,
    ?_, ?_, rfl, rfl, rfl, ?_⟩
  · simp
  · simp
  · simp

variable {s : BulkLedger} {new row : BulkRow} {rows : List BulkRow} {call : ExecutorCall}

theorem BulkInvariant.accounted (h : BulkInvariant s) : Accounted s := by
  refine ⟨h.held, h.actual, h.attempts, ?_⟩
  rintro rowId hauthorized now reviews attempt rfl ⟨quality, approval, outcome, haccepted⟩
  obtain ⟨row, hrow, hid, hstate⟩ := (h.authorized _).mp hauthorized
  obtain ⟨hunapproved, hattempts⟩ := h.open_rows row hrow (by simp [hstate])
  exact ⟨_, recordRowAttempt_of h.keyed hrow hid hunapproved hattempts haccepted⟩

/-- A session with the same rows and money. -/
theorem BulkInvariant.of_same {after : BulkSession} (h : BulkInvariant s)
    (hrows : after.rows = s.session.rows) (hattempts : after.attempts = s.session.attempts)
    (hbudget : SameBudget s.session.job after.job) : BulkInvariant ⟨after, s.authorized⟩ := by
  constructor
  · simpa only [hrows] using h.keyed
  · simpa only [hbudget.estimate] using h.estimate
  · simpa only [hbudget.attempts] using h.limit
  · simpa only [hrows] using h.estimates
  · simpa only [hrows, Attemptable, hbudget.attempts] using h.open_rows
  · simpa only [hrows, hbudget.held] using h.held
  · simpa only [hrows, hbudget.actual] using h.actual
  · simpa only [hattempts, hbudget.actual] using h.attempts
  · simpa only [hrows] using h.authorized

theorem bulkInvariant_flush {session : BulkSession} {authorized : List Uuid}
    (h : BulkInvariant ⟨session, authorized⟩) : BulkInvariant ⟨flush session, authorized⟩ :=
  h.of_same rfl rfl (.refl _)

theorem bulkInvariant_fresh (h : BulkInvariant s) {created : List BulkRow}
    (hfresh : ∀ row ∈ created, FreshRow row) (hkeyed : Keyed (·.id) (s.session.rows ++ created)) :
    BulkInvariant ⟨{ s.session with rows := s.session.rows ++ created }, s.authorized⟩ := by
  have hidle : ∀ row ∈ created, row.state ≠ .processing := by
    intro row hrow
    rcases (hfresh row hrow).state with hstate | hstate | hstate <;> simp [hstate]
  have hprocessing : processingEstimate created = 0 :=
    totalWhere_eq_zero fun row hrow => by simp [isProcessing, hidle row hrow]
  have hactual : (created.map (·.actualCost)).sum = 0 := by
    apply sum_eq_zero
    intro cost hcost
    obtain ⟨row, hrow, rfl⟩ := mem_map.mp hcost
    exact (hfresh row hrow).actual
  refine ⟨hkeyed, h.estimate, h.limit, ?_, ?_, ?_, ?_, h.attempts, ?_⟩
  · intro row hrow
    rcases mem_append.mp hrow with hrow | hrow
    · exact h.estimates row hrow
    · exact (hfresh row hrow).estimate
  · intro row hrow
    rcases mem_append.mp hrow with hrow | hrow
    · exact h.open_rows row hrow
    · intro _
      have hlimit := h.limit
      refine ⟨(hfresh row hrow).unapproved, ?_⟩
      rw [(hfresh row hrow).attempt]
      exact hlimit
  · simp only [processingEstimate] at hprocessing ⊢
    rw [totalWhere_append, hprocessing, add_zero]
    exact h.held
  · simp only
    rw [map_append, sum_append, hactual, add_zero]
    exact h.actual
  · intro rowId
    rw [h.authorized]
    constructor
    · rintro ⟨row, hrow, hstate⟩
      exact ⟨row, mem_append_left _ hrow, hstate⟩
    · rintro ⟨row, hrow, hid, hstate⟩
      rcases mem_append.mp hrow with hrow | hrow
      · exact ⟨row, hrow, hid, hstate⟩
      · exact absurd hstate (hidle row hrow)

/-- Rewriting one row moves its own amounts only. -/
theorem totals_setRow (hkeyed : Keyed (·.id) rows) (hrow : row ∈ rows) (hid : new.id = row.id)
    (f : BulkRow → Int) :
    total f (updateRow (·.id) new.id (fun _ => new) rows) = total f rows - f row + f new :=
  total_updateRow hkeyed hrow hid.symm f

theorem sum_ite_keyed (hkeyed : Keyed (·.id) rows) (hrow : row ∈ rows) (cost : ℚ) :
    (rows.map fun other => if row.id = other.id then cost else 0).sum = cost := by
  induction rows with
  | nil => exact absurd hrow not_mem_nil
  | cons head rows ih =>
    obtain ⟨hhead, hrows⟩ := Keyed.cons_iff.mp hkeyed
    rw [map_cons, sum_cons]
    rcases mem_cons.mp hrow with rfl | hrow
    · have hrest : (rows.map fun other => if row.id = other.id then cost else 0).sum = 0 := by
        apply sum_eq_zero
        intro value hvalue
        obtain ⟨other, hother, rfl⟩ := mem_map.mp hvalue
        exact if_neg fun heq => hhead other hother heq.symm
      rw [if_pos rfl, hrest, add_zero]
    · rw [if_neg (hhead row hrow), ih hrows hrow, zero_add]

/-- Rewriting one row moves its own cost only. -/
theorem costs_setRow (hkeyed : Keyed (·.id) rows) (hrow : row ∈ rows) (hid : new.id = row.id) :
    (updateRow (·.id) new.id (fun _ => new) rows).map (fun other => (other.id, other.actualCost)) =
      rows.map fun other => (other.id, other.actualCost +
        if row.id = other.id then new.actualCost - row.actualCost else 0) := by
  unfold updateRow
  rw [map_map]
  apply map_congr_left
  intro other hother
  simp only [Function.comp_apply]
  by_cases hkey : other.id = new.id
  · have hsame : other = row := hkeyed.eq_of_key_eq hother hrow (hkey.trans hid)
    rw [if_pos hkey, hsame, if_pos rfl, hid, add_sub_cancel]
  · rw [if_neg hkey, if_neg fun heq => hkey (heq.symm.trans hid.symm), add_zero]

theorem costs_setRow_same (hkeyed : Keyed (·.id) rows) (hrow : row ∈ rows) (hid : new.id = row.id)
    (hcost : new.actualCost = row.actualCost) :
    (updateRow (·.id) new.id (fun _ => new) rows).map (fun other => (other.id, other.actualCost)) =
      rows.map fun other => (other.id, other.actualCost) := by
  rw [costs_setRow hkeyed hrow hid, hcost, sub_self]
  simp only [ite_self, add_zero]

theorem sum_setRow (hkeyed : Keyed (·.id) rows) (hrow : row ∈ rows) (hid : new.id = row.id) :
    ((updateRow (·.id) new.id (fun _ => new) rows).map (·.actualCost)).sum =
      (rows.map (·.actualCost)).sum + (new.actualCost - row.actualCost) := by
  have hpairs := congrArg (fun pairs => (pairs.map Prod.snd).sum) (costs_setRow hkeyed hrow hid)
  simp only [map_map, Function.comp_def] at hpairs
  rw [hpairs, sum_map_add, sum_ite_keyed hkeyed hrow]

theorem processingEstimate_setRow (hkeyed : Keyed (·.id) rows) (hrow : row ∈ rows)
    (hid : new.id = row.id) :
    processingEstimate (updateRow (·.id) new.id (fun _ => new) rows) = processingEstimate rows -
      (if isProcessing row then row.estimatedCost else 0) +
      (if isProcessing new then new.estimatedCost else 0) :=
  totals_setRow hkeyed hrow hid fun row => if isProcessing row then row.estimatedCost else 0

theorem mem_setRow (hkeyed : Keyed (·.id) rows) {other : BulkRow} (hrow : row ∈ rows)
    (hid : new.id = row.id) (hother : other ∈ updateRow (·.id) new.id (fun _ => new) rows) :
    other = new ∨ other ∈ rows ∧ other.id ≠ new.id := by
  rw [hid] at hother ⊢
  exact hkeyed.mem_updateRow hrow hother

theorem bulkInvariant_authorize (h : BulkInvariant s) {rowId : Uuid} {cost : Int}
    (hgrants : Grants rowId cost s.session row) :
    BulkInvariant ⟨setRow { row with state := .processing } { s.session with
      job := { s.session.job with heldCost := s.session.job.heldCost + cost } },
      s.authorized ++ [rowId]⟩ := by
  set new : BulkRow := { row with state := .processing } with hnew
  have hrow := hgrants.stored
  have hstate : row.state ∈ [.ready, .queued, .processing] := by
    rcases hgrants.waiting with hstate | hstate <;> simp [hstate]
  have hidle : isProcessing row = false := by
    rcases hgrants.waiting with hstate | hstate <;> simp [isProcessing, hstate]
  have hmem : ∀ other ∈ updateRow (·.id) new.id (fun _ => new) s.session.rows,
      other = new ∨ other ∈ s.session.rows ∧ other.id ≠ new.id :=
    fun other hother => mem_setRow h.keyed hrow rfl hother
  refine ⟨h.keyed.updateRow fun other hother => hother.symm, h.estimate, h.limit, ?_, ?_, ?_, ?_,
    h.attempts, ?_⟩
  · intro other hother
    rcases hmem other hother with rfl | ⟨hother, -⟩
    · exact h.estimates row hrow
    · exact h.estimates other hother
  · intro other hother
    rcases hmem other hother with rfl | ⟨hother, -⟩
    · exact fun _ => h.open_rows row hrow hstate
    · exact h.open_rows other hother
  · have hsum := processingEstimate_setRow h.keyed hrow (show new.id = row.id from rfl)
    have hbusy : isProcessing new = true := by simp [isProcessing, hnew]
    rw [if_neg (by simp [hidle]), if_pos hbusy] at hsum
    have hheld := h.held
    have hcost := hgrants.estimate
    have hsame : new.estimatedCost = row.estimatedCost := rfl
    simp only [setRow]
    omega
  · have hsum := sum_setRow h.keyed hrow (show new.id = row.id from rfl)
    rw [show new.actualCost = row.actualCost from rfl, sub_self, add_zero] at hsum
    exact h.actual.trans hsum.symm
  · intro other
    rw [mem_append, h.authorized, mem_singleton]
    constructor
    · rintro (⟨old, hold, hid, hprocessing⟩ | rfl)
      · refine ⟨old, mem_updateRow_of_ne hold ?_, hid, hprocessing⟩
        intro heq
        rw [h.keyed.eq_of_key_eq hold hrow heq] at hprocessing
        simp [isProcessing, hprocessing] at hidle
      · exact ⟨new, mem_updateRow_of_mem hrow rfl, hgrants.id, rfl⟩
    · rintro ⟨old, hold, hid, hprocessing⟩
      rcases hmem old hold with rfl | ⟨hold, -⟩
      · exact .inr (hid.symm.trans hgrants.id)
      · exact .inl ⟨old, hold, hid, hprocessing⟩

theorem chargeAttempt_money (now : Int) (row : BulkRow) (a : RowAttempt) (job : BulkJob) :
    (chargeAttempt now row a job).actualCost = job.actualCost + a.actualCost ∧
      (chargeAttempt now row a job).heldCost = max 0 (job.heldCost - row.estimatedCost) ∧
      (chargeAttempt now row a job).maxRowAttempts = job.maxRowAttempts ∧
      (chargeAttempt now row a job).estimatedCost = job.estimatedCost ∧
      (chargeAttempt now row a job).effectiveMaximum = job.effectiveMaximum := by
  unfold chargeAttempt
  simp only
  split <;> exact ⟨rfl, rfl, rfl, rfl, rfl⟩

theorem BulkInvariant.estimate_le_held (h : BulkInvariant s) (hrow : row ∈ s.session.rows)
    (hstate : row.state = .processing) : row.estimatedCost ≤ s.session.job.heldCost := by
  rw [h.held, processingEstimate, ← totalWhere_filter]
  refine le_total_of_mem (f := fun row : BulkRow => row.estimatedCost) ?_ ?_
  · exact fun other hother => h.estimates other (mem_filter.mp hother).1
  · exact mem_filter.mpr ⟨hrow, by simp [isProcessing, hstate]⟩

theorem bulkInvariant_record (h : BulkInvariant s) {now : Int} {a : RowAttempt}
    {quality : AttemptQuality} {approval : Option Quality.ApprovalRequest}
    {outcome : BulkAttemptOutcome} (hrow : row ∈ s.session.rows) (hid : row.id = a.rowId)
    (hstate : row.state = .processing) :
    BulkInvariant ⟨recordedSession now row a quality approval outcome s.session,
      s.authorized.filter (· ≠ a.rowId)⟩ := by
  set spam := evaluateSpamGate a.spamSimilarityScore a.valueScore s.session.job.spamPolicy
  obtain ⟨new, hnew⟩ : ∃ new, new = recordedRow row a quality approval spam outcome := ⟨_, rfl⟩
  obtain ⟨hnewId, hnewEstimate, hnewActual⟩ :=
    recordedRow_money row a quality approval spam outcome
  obtain ⟨hnewState, hprocessed⟩ := recordedRow_closed row a quality approval spam outcome
  rw [← hnew] at hnewId hnewEstimate hnewActual hnewState
  have hclosed : new.state ∉ [BulkRowState.ready, .queued, .processing] := by
    rw [hnewState]
    generalize attemptState approval outcome = state at hprocessed
    cases state <;> simp [processedRowStates] at hprocessed ⊢
  obtain ⟨hactual, hheld, hattempts, hestimate, -⟩ :=
    chargeAttempt_money now row a s.session.job
  have hmem : ∀ other ∈ updateRow (·.id) new.id (fun _ => new) s.session.rows,
      other = new ∨ other ∈ s.session.rows ∧ other.id ≠ new.id :=
    fun other hother => mem_setRow h.keyed hrow hnewId hother
  have hbase : BulkInvariant ⟨setRow new { s.session with
      attempts := s.session.attempts ++ [attemptRow row a quality approval outcome]
      job := chargeAttempt now row a s.session.job }, s.authorized.filter (· ≠ a.rowId)⟩ := by
    refine ⟨?_, hestimate.symm ▸ h.estimate, hattempts.symm ▸ h.limit, ?_, ?_, ?_, ?_, ?_, ?_⟩
    · exact h.keyed.updateRow fun other hother => hother.symm
    · intro other hother
      rcases hmem other hother with rfl | ⟨hother, -⟩
      · rw [hnewEstimate]
        exact h.estimates row hrow
      · exact h.estimates other hother
    · intro other hother
      rcases hmem other hother with rfl | ⟨hother, -⟩
      · exact fun hopen => absurd hopen hclosed
      · have hother := h.open_rows other hother
        simpa only [Attemptable, setRow, hattempts] using hother
    · have hsum := processingEstimate_setRow h.keyed hrow hnewId
      have hidle : ¬ isProcessing new = true := by
        simp only [isProcessing, decide_eq_true_eq]
        exact fun hprocessing => hclosed (by simp [hprocessing])
      have hwas : isProcessing row = true := by simp [isProcessing, hstate]
      rw [if_pos hwas, if_neg hidle] at hsum
      have hle := h.estimate_le_held hrow hstate
      have hsame := h.held
      simp only [setRow, hheld]
      omega
    · have hsum := sum_setRow h.keyed hrow hnewId
      rw [hnewActual, add_sub_cancel_left, ← h.actual] at hsum
      exact hactual.trans hsum.symm
    · simp only [setRow, hactual, map_append, map_cons, map_nil, sum_append, sum_cons, sum_nil,
        attemptRow, add_zero, ← h.attempts]
    · intro other
      simp only [mem_filter, h.authorized, decide_eq_true_eq]
      constructor
      · rintro ⟨⟨old, hold, holdId, hprocessing⟩, hne⟩
        refine ⟨old, mem_updateRow_of_ne hold ?_, holdId, hprocessing⟩
        rw [hnewId, hid, holdId]
        exact hne
      · rintro ⟨old, hold, holdId, hprocessing⟩
        rcases hmem old hold with rfl | ⟨hold, hne⟩
        · exact absurd (by simp [hprocessing]) hclosed
        · refine ⟨⟨old, hold, holdId, hprocessing⟩, ?_⟩
          rw [hnewId, hid, holdId] at hne
          exact hne
  subst hnew
  exact (bulkInvariant_flush hbase).of_same rfl rfl (sameBudget_refreshProgress _)

/-- A change of rows that are not in progress, neither before nor after. -/
theorem bulkInvariant_change (h : BulkInvariant s) {rowIds : List Uuid} {change : BulkRow → BulkRow}
    (hid : ∀ row, (change row).id = row.id)
    (hestimate : ∀ row, (change row).estimatedCost = row.estimatedCost)
    (hactual : ∀ row, (change row).actualCost = row.actualCost)
    (hbefore : ∀ row ∈ rowsOf rowIds s.session, row.state ≠ .processing)
    (hafter : ∀ row, (change row).state ≠ .processing)
    (hopen : ∀ row ∈ rowsOf rowIds s.session, Attemptable s.session.job (change row)) :
    BulkInvariant ⟨changeRows rowIds change s.session, s.authorized⟩ := by
  have hmem : ∀ other ∈ (changeRows rowIds change s.session).rows, ∃ row ∈ s.session.rows,
      row.id ∈ rowIds ∧ other = change row ∨ row.id ∉ rowIds ∧ other = row := by
    intro other hother
    obtain ⟨row, hrow, rfl⟩ := mem_map.mp hother
    refine ⟨row, hrow, ?_⟩
    by_cases hchanged : row.id ∈ rowIds
    · exact .inl ⟨hchanged, if_pos hchanged⟩
    · exact .inr ⟨hchanged, if_neg hchanged⟩
  have hkept : (changeRows rowIds change s.session).rows.map (·.actualCost) =
      s.session.rows.map (·.actualCost) := by
    unfold changeRows
    rw [map_map]
    refine map_congr_left fun row _ => ?_
    simp only [Function.comp_apply]
    split
    · exact hactual row
    · rfl
  refine ⟨?_, h.estimate, h.limit, ?_, ?_, ?_, ?_, h.attempts, ?_⟩
  · have hids : (changeRows rowIds change s.session).rows.map (·.id) =
        s.session.rows.map (·.id) := by
      unfold changeRows
      rw [map_map]
      refine map_congr_left fun row _ => ?_
      simp only [Function.comp_apply]
      split
      · exact hid row
      · rfl
    unfold Keyed
    rw [hids]
    exact h.keyed
  · intro other hother
    obtain ⟨row, hrow, ⟨-, rfl⟩ | ⟨-, rfl⟩⟩ := hmem other hother
    · rw [hestimate]
      exact h.estimates row hrow
    · exact h.estimates _ hrow
  · intro other hother
    obtain ⟨row, hrow, ⟨hchanged, rfl⟩ | ⟨-, rfl⟩⟩ := hmem other hother
    · exact hopen row (mem_rowsOf.mpr ⟨hrow, hchanged⟩)
    · exact h.open_rows _ hrow
  · rw [show (changeRows rowIds change s.session).job.heldCost =
      s.session.job.heldCost from rfl, h.held]
    unfold processingEstimate totalWhere total changeRows
    rw [map_map]
    congr 1
    refine map_congr_left fun row hrow => ?_
    simp only [Function.comp_apply]
    by_cases hchanged : row.id ∈ rowIds
    · have hidle := hbefore row (mem_rowsOf.mpr ⟨hrow, hchanged⟩)
      simp [isProcessing, hchanged, hidle, hafter row]
    · simp [hchanged]
  · exact h.actual.trans (congrArg List.sum hkept).symm
  · intro rowId
    rw [h.authorized]
    constructor
    · rintro ⟨row, hrow, hrowId, hstate⟩
      refine ⟨row, mem_map.mpr ⟨row, hrow, if_neg fun hchanged => ?_⟩, hrowId, hstate⟩
      exact hbefore row (mem_rowsOf.mpr ⟨hrow, hchanged⟩) hstate
    · rintro ⟨other, hother, hrowId, hstate⟩
      obtain ⟨row, hrow, ⟨-, rfl⟩ | ⟨-, rfl⟩⟩ := hmem other hother
      · exact absurd hstate (hafter row)
      · exact ⟨_, hrow, hrowId, hstate⟩

theorem retriedRow_fields (regenerate : Bool) (row : BulkRow) :
    (retriedRow regenerate row).id = row.id ∧
      (retriedRow regenerate row).estimatedCost = row.estimatedCost ∧
      (retriedRow regenerate row).actualCost = row.actualCost ∧
      (retriedRow regenerate row).state = .queued ∧
      (retriedRow regenerate row).approvedAt = row.approvedAt ∧
      (retriedRow regenerate row).attempt = row.attempt := by
  unfold retriedRow
  cases regenerate <;> exact ⟨rfl, rfl, rfl, rfl, rfl, rfl⟩

theorem bulkInvariant_retry (h : BulkInvariant s) {principal : BulkPrincipal}
    {data : BulkRowsCommand} {regenerate : Bool} {after : BulkSession}
    (hretries : Retries principal data regenerate s.session after) :
    BulkInvariant ⟨after, s.authorized⟩ := by
  have hchanged : BulkInvariant ⟨changeRows data.rowIds (retriedRow regenerate) s.session,
      s.authorized⟩ := by
    apply bulkInvariant_change h
    · exact fun row => (retriedRow_fields regenerate row).1
    · exact fun row => (retriedRow_fields regenerate row).2.1
    · exact fun row => (retriedRow_fields regenerate row).2.2.1
    · intro row hrow hstate
      have hretryable := (hretries.rows row hrow).state
      rw [hstate] at hretryable
      simp [retryableRowStates] at hretryable
    · intro row
      rw [(retriedRow_fields regenerate row).2.2.2.1]
      simp
    · intro row hrow _
      obtain ⟨-, -, -, -, happroved, hattempt⟩ := retriedRow_fields regenerate row
      rw [happroved, hattempt]
      exact ⟨(hretries.rows row hrow).unapproved, (hretries.rows row hrow).attempts⟩
  rw [hretries.result]
  exact hchanged.of_same rfl rfl (.refl _)

theorem bulkInvariant_approve (h : BulkInvariant s) {now : Int} {principal : BulkPrincipal}
    {data : BulkRowsCommand}
    (hidle : ∀ row ∈ rowsOf data.rowIds s.session, row.state ≠ .processing) :
    BulkInvariant ⟨approvedSession now principal data s.session, s.authorized⟩ := by
  have hchanged : BulkInvariant ⟨changeRows data.rowIds (approvedRow now principal) s.session,
      s.authorized⟩ := by
    apply bulkInvariant_change h
    · exact fun row => rfl
    · exact fun row => rfl
    · exact fun row => rfl
    · exact hidle
    · intro row
      simp [approvedRow]
    · intro row _ hstate
      simp [approvedRow] at hstate
  exact hchanged.of_same rfl rfl ⟨rfl, rfl, rfl, rfl, rfl⟩

theorem withinBudget_of_invariant (h : BulkInvariant s) (hrecords : RecordsAuthorized s call) :
    WithinBudget s call := by
  cases call with
  | authorizeNextRow now rowId cost =>
    intro after hallowed
    cases authorizeNextRow_ok hallowed with
    | granted row hgrants =>
      have hwithin := hgrants.within
      unfold BulkJob.effectiveMaximum at hwithin
      simp only [setRow]
      push_cast at hwithin ⊢
      linarith
  | recordRowAttempt now reviews attempt =>
    intro row after hrow hrecorded
    obtain ⟨hmem, hid⟩ := rowOf_ok hrow
    obtain ⟨other, hother, hotherId, hstate⟩ := (h.authorized _).mp hrecords
    have hsame : row = other := h.keyed.eq_of_key_eq hmem hother (hid.trans hotherId.symm)
    have hle := h.estimate_le_held hmem (hsame ▸ hstate)
    omega

section Sessions

theorem bulkInvariant_call (h : BulkInvariant s) (hrecords : RecordsAuthorized s call) :
    BulkInvariant (noteCall s call) := by
  cases call with
  | authorizeNextRow now rowId cost =>
    unfold noteCall
    simp only
    split
    · cases authorizeNextRow_ok ‹_› with
      | denied => exact h
      | stopped reason _ _ => exact h.of_same rfl rfl ⟨rfl, rfl, rfl, rfl, rfl⟩
      | granted row hgrants => exact bulkInvariant_authorize h hgrants
    · exact h
  | recordRowAttempt now reviews attempt =>
    unfold noteCall
    simp only
    split
    · obtain ⟨row, quality, approval, outcome, hrow, hid, -, -, -, rfl⟩ := recordRowAttempt_ok ‹_›
      obtain ⟨other, hother, hotherId, hstate⟩ := (h.authorized _).mp hrecords
      have hsame : row = other := h.keyed.eq_of_key_eq hrow hother (hid.trans hotherId.symm)
      exact bulkInvariant_record h hrow hid (hsame ▸ hstate)
    · exact h

/-- What a session adds to the costs it loaded. -/
structure Gained (s after : BulkSession) (recorded : List (Uuid × ℚ)) : Prop where
  job : after.job.actualCost = s.job.actualCost + (recorded.map Prod.snd).sum
  rows : after.rows.map (fun row => (row.id, row.actualCost)) =
    s.rows.map fun row => (row.id, row.actualCost + costsOf recorded row.id)
  attempts : after.attempts.map (·.actualCost) =
    s.attempts.map (·.actualCost) ++ recorded.map Prod.snd
  nonneg : ∀ entry ∈ recorded, 0 ≤ entry.2

theorem costsOf_append (recorded more : List (Uuid × ℚ)) (rowId : Uuid) :
    costsOf (recorded ++ more) rowId = costsOf recorded rowId + costsOf more rowId := by
  unfold costsOf
  rw [map_append, sum_append]

theorem Gained.nothing {s after : BulkSession} (hjob : after.job.actualCost = s.job.actualCost)
    (hrows : after.rows.map (fun row => (row.id, row.actualCost)) =
      s.rows.map fun row => (row.id, row.actualCost))
    (hattempts : after.attempts = s.attempts) : Gained s after [] := by
  refine ⟨?_, ?_, ?_, by simp⟩
  · simpa using hjob
  · simpa [costsOf] using hrows
  · simp [hattempts]

theorem Gained.trans {s middle after : BulkSession} {recorded more : List (Uuid × ℚ)}
    (h : Gained s middle recorded) (h' : Gained middle after more) :
    Gained s after (recorded ++ more) := by
  constructor
  · rw [h'.job, h.job, map_append, sum_append, add_assoc]
  · have hpairs := congrArg (map fun pair => (pair.1, pair.2 + costsOf more pair.1)) h.rows
    simp only [map_map, Function.comp_def] at hpairs
    rw [h'.rows, hpairs]
    simp only [costsOf_append, add_assoc]
  · rw [h'.attempts, h.attempts, map_append, append_assoc]
  · intro entry hentry
    rcases mem_append.mp hentry with hentry | hentry
    · exact h.nonneg entry hentry
    · exact h'.nonneg entry hentry

theorem gained_call (h : BulkInvariant s) :
    Gained s.session (noteCall s call).session (recording s call) := by
  cases call with
  | authorizeNextRow now rowId cost =>
    unfold noteCall recording
    simp only
    split
    · cases authorizeNextRow_ok ‹_› with
      | denied => exact .nothing rfl rfl rfl
      | stopped reason _ _ => exact .nothing rfl rfl rfl
      | granted row hgrants =>
        exact .nothing rfl (costs_setRow_same h.keyed hgrants.stored rfl rfl) rfl
    · exact .nothing rfl rfl rfl
  | recordRowAttempt now reviews a =>
    unfold noteCall recording
    simp only
    cases hrecord : recordRowAttempt now reviews a s.session with
    | error failure => exact .nothing rfl rfl rfl
    | ok after =>
      obtain ⟨row, quality, approval, outcome, hrow, hid, -, -, haccepted, rfl⟩ :=
        recordRowAttempt_ok hrecord
      show Gained s.session (recordedSession now row a quality approval outcome s.session)
        [(a.rowId, a.actualCost)]
      obtain ⟨hnewId, -, hnewActual⟩ := recordedRow_money row a quality approval
        (evaluateSpamGate a.spamSimilarityScore a.valueScore s.session.job.spamPolicy) outcome
      refine ⟨?_, ?_, ?_, ?_⟩
      · rw [map_singleton, sum_singleton]
        exact (chargeAttempt_money now row a s.session.job).1
      · have hcosts := costs_setRow h.keyed hrow hnewId
        rw [hnewActual, add_sub_cancel_left] at hcosts
        refine Eq.trans hcosts ?_
        simp [costsOf, hid]
      · exact map_append
      · simpa using haccepted.cost

theorem session_run (h : BulkInvariant s) {calls : List ExecutorCall}
    (hrecords : Along noteCall RecordsAuthorized s calls) : BulkInvariant (run noteCall s calls) ∧
      Gained s.session (run noteCall s calls).session (recordings s calls) ∧
      Along noteCall (fun s call => WithinBudget s call ∧ Accounted (noteCall s call)) s calls := by
  induction calls generalizing s with
  | nil => exact ⟨h, .nothing rfl rfl rfl, trivial⟩
  | cons call calls ih =>
    have hcall := bulkInvariant_call h hrecords.1
    obtain ⟨hend, hgained, halong⟩ := ih hcall hrecords.2
    exact ⟨hend, (gained_call h).trans hgained,
      ⟨withinBudget_of_invariant h hrecords.1, hcall.accounted⟩, halong⟩

end Sessions

section Committed

variable {start after : BulkSession} {recorded : List (Uuid × ℚ)}

theorem Whole.add {amount cost : ℚ} (h : Whole amount) (hcost : 0 ≤ cost) :
    (storedCost (amount + cost) : ℚ) = amount + storedCost cost := by
  have hadd := storedCost_add (storedCost_nonneg h.1) hcost
  rw [h.2] at hadd
  rw [hadd]
  push_cast
  rw [h.2]

theorem whole_storedCost {amount : ℚ} (h : 0 ≤ amount) : Whole (storedCost amount) := by
  have hstored := storedCost_nonneg h
  exact ⟨by exact_mod_cast hstored, congrArg _ (storedCost_intCast _)⟩

theorem Gained.costsOf_nonneg (h : Gained start after recorded) (rowId : Uuid) :
    0 ≤ costsOf recorded rowId := by
  apply sum_nonneg
  intro cost hcost
  obtain ⟨entry, hentry, rfl⟩ := mem_map.mp hcost
  split
  · exact h.nonneg entry hentry
  · exact le_rfl

theorem Gained.sum_nonneg (h : Gained start after recorded) : 0 ≤ (recorded.map Prod.snd).sum := by
  apply List.sum_nonneg
  intro cost hcost
  obtain ⟨entry, hentry, rfl⟩ := mem_map.mp hcost
  exact h.nonneg entry hentry

section

variable (h : Gained start after recorded) (hwhole : WholeCosts start)

include h hwhole

theorem Gained.committed_job : (committed after).job.actualCost =
    start.job.actualCost + storedCost (recorded.map Prod.snd).sum := by
  show (storedCost after.job.actualCost : ℚ) = _
  rw [h.job, hwhole.job.add h.sum_nonneg]

theorem Gained.committed_rows : ((committed after).rows.map (·.actualCost)).sum =
    (start.rows.map (·.actualCost)).sum +
      (total (fun row => storedCost (costsOf recorded row.id)) start.rows : Int) := by
  have hcosts : (committed after).rows.map (·.actualCost) =
      start.rows.map fun row => (row.actualCost + storedCost (costsOf recorded row.id) : ℚ) := by
    have hpairs := congrArg (map fun pair => (storedCost pair.2 : ℚ)) h.rows
    simp only [map_map, Function.comp_def] at hpairs
    unfold committed
    rw [map_map]
    refine Eq.trans hpairs (map_congr_left fun row hrow => ?_)
    exact (hwhole.rows row hrow).add (h.costsOf_nonneg row.id)
  rw [hcosts, sum_map_add]
  unfold total
  rw [Int.cast_list_sum, map_map]
  rfl

theorem Gained.committed_attempts : ((committed after).attempts.map (·.actualCost)).sum =
    (start.attempts.map (·.actualCost)).sum +
      (total (fun entry => storedCost entry.2) recorded : Int) := by
  have hcosts : (committed after).attempts.map (·.actualCost) =
      start.attempts.map (·.actualCost) ++ recorded.map fun entry => (storedCost entry.2 : ℚ) := by
    have hstored := congrArg (map fun cost => (storedCost cost : ℚ)) h.attempts
    simp only [map_append, map_map, Function.comp_def] at hstored
    unfold committed
    rw [map_map]
    refine Eq.trans hstored (congrArg (· ++ _) (map_congr_left fun attempt hattempt => ?_))
    exact (hwhole.attempts attempt hattempt).2
  rw [hcosts, sum_append]
  unfold total
  rw [Int.cast_list_sum, map_map]
  rfl

theorem Gained.wholeCosts : WholeCosts (committed after) := by
  have hcosts : ∀ row ∈ after.rows, 0 ≤ row.actualCost := by
    intro row hrow
    have hpair : (row.id, row.actualCost) ∈ after.rows.map fun row => (row.id, row.actualCost) :=
      mem_map_of_mem hrow
    rw [h.rows] at hpair
    obtain ⟨old, hold, hsame⟩ := mem_map.mp hpair
    rw [← (Prod.mk.inj hsame).2]
    exact add_nonneg (hwhole.rows old hold).1 (h.costsOf_nonneg _)
  have hattempts : ∀ attempt ∈ after.attempts, 0 ≤ attempt.actualCost := by
    intro attempt hattempt
    have hcost : attempt.actualCost ∈ after.attempts.map (·.actualCost) := mem_map_of_mem hattempt
    rw [h.attempts] at hcost
    rcases mem_append.mp hcost with hcost | hcost
    · obtain ⟨old, hold, hsame⟩ := mem_map.mp hcost
      exact hsame ▸ (hwhole.attempts old hold).1
    · obtain ⟨entry, hentry, hsame⟩ := mem_map.mp hcost
      exact hsame ▸ h.nonneg entry hentry
  constructor
  · apply whole_storedCost
    rw [h.job]
    exact add_nonneg hwhole.job.1 h.sum_nonneg
  · intro row hrow
    obtain ⟨old, hold, rfl⟩ := mem_map.mp hrow
    exact whole_storedCost (hcosts old hold)
  · intro attempt hattempt
    obtain ⟨old, hold, rfl⟩ := mem_map.mp hattempt
    exact whole_storedCost (hattempts old hold)

end

end Committed

/-- A ledger between two transactions. -/
structure CommittedBulk (s : BulkLedger) : Prop where
  kept : BulkInvariant s
  whole : WholeCosts s.session

theorem wholeCosts_created {s : BulkSession} (h : created s) : WholeCosts s := by
  obtain ⟨readers, env, data, basis, holdId, authorizedCost, -, rfl, -⟩ := h
  refine ⟨⟨le_rfl, ?_⟩, by simp, by simp⟩
  exact congrArg Int.cast storedCost_zero

/-- Rounding the costs of a session leaves the rest of its accounts alone. -/
theorem BulkInvariant.committed (h : BulkInvariant s)
    (hactual : (committed s.session).job.actualCost = ((committed s.session).rows.map (·.actualCost)).sum)
    (hattempts : (committed s.session).job.actualCost =
      ((committed s.session).attempts.map (·.actualCost)).sum) :
    BulkInvariant ⟨Bulk.committed s.session, s.authorized⟩ := by
  have hmem : ∀ other ∈ (Bulk.committed s.session).rows, ∃ row ∈ s.session.rows, other = row.stored := by
    intro other hother
    obtain ⟨row, hrow, rfl⟩ := mem_map.mp hother
    exact ⟨row, hrow, rfl⟩
  refine ⟨keyed_committed h.keyed, h.estimate, h.limit, ?_, ?_, ?_, hactual, hattempts, ?_⟩
  · intro other hother
    obtain ⟨row, hrow, rfl⟩ := hmem other hother
    exact h.estimates row hrow
  · intro other hother
    obtain ⟨row, hrow, rfl⟩ := hmem other hother
    exact h.open_rows row hrow
  · have hsame : processingEstimate (Bulk.committed s.session).rows =
        processingEstimate s.session.rows := congrArg List.sum map_map
    exact h.held.trans hsame.symm
  · intro rowId
    rw [h.authorized]
    constructor
    · rintro ⟨row, hrow, hid, hstate⟩
      exact ⟨row.stored, mem_map_of_mem hrow, hid, hstate⟩
    · rintro ⟨other, hother, hid, hstate⟩
      obtain ⟨row, hrow, rfl⟩ := hmem other hother
      exact ⟨row, hrow, hid, hstate⟩

section

variable {calls : List ExecutorCall}

/-- After a session the columns agree exactly where its costs round alike. -/
theorem roundsAlike_iff (h : CommittedBulk s) (hrecords : Along noteCall RecordsAuthorized s calls) :
    RoundsAlike s.session.rows (recordings s calls) ↔
      (committed (run noteCall s calls).session).job.actualCost =
          ((committed (run noteCall s calls).session).rows.map (·.actualCost)).sum ∧
        (committed (run noteCall s calls).session).job.actualCost =
          ((committed (run noteCall s calls).session).attempts.map (·.actualCost)).sum := by
  obtain ⟨-, hgained, -⟩ := session_run h.kept hrecords
  rw [hgained.committed_job h.whole, hgained.committed_rows h.whole,
    hgained.committed_attempts h.whole, ← h.kept.actual, ← h.kept.attempts, add_right_inj,
    add_right_inj, Int.cast_inj, Int.cast_inj]
  exact ⟨fun halike => ⟨halike.rows, halike.attempts⟩, fun halike => ⟨halike.1, halike.2⟩⟩

end

theorem wholeCosts_change {session : BulkSession} (h : WholeCosts session) (rowIds : List Uuid)
    {change : BulkRow → BulkRow} (hcost : ∀ row, (change row).actualCost = row.actualCost) :
    ∀ row ∈ (changeRows rowIds change session).rows, Whole row.actualCost := by
  intro other hother
  obtain ⟨row, hrow, rfl⟩ := mem_map.mp hother
  split
  · rw [hcost]
    exact h.rows row hrow
  · exact h.rows row hrow

/-- A user's command moves no cost. -/
theorem wholeCosts_perform {session after : BulkSession} (h : WholeCosts session)
    {command : UserCommand} (hperform : command.perform session = .ok after) :
    WholeCosts (flush after) := by
  have hsame : JobCommand session after → WholeCosts (flush after) := by
    intro hcommand
    refine ⟨?_, ?_, ?_⟩
    · rw [flush_job, hcommand.budget.actual]
      exact h.job
    · rw [flush_rows, hcommand.rows]
      exact h.rows
    · rw [flush_attempts, hcommand.attempts]
      exact h.attempts
  cases command with
  | retryRows principal data regenerate =>
    rcases retryRows_ok hperform with rfl | hretries
    · exact ⟨h.job, h.rows, h.attempts⟩
    · rw [hretries.result]
      exact ⟨h.job, wholeCosts_change h data.rowIds fun row => (retriedRow_fields regenerate row).2.2.1,
        h.attempts⟩
  | approveRows now principal reviews data =>
    rcases approveRows_ok hperform with rfl | ⟨-, rfl⟩
    · exact ⟨h.job, h.rows, h.attempts⟩
    · exact ⟨h.job, wholeCosts_change h data.rowIds fun row => rfl, h.attempts⟩
  | pauseJob now principal data => exact hsame (pauseJob_ok hperform).1
  | resumeJob principal data => exact hsame (resumeJob_ok hperform).1
  | cancelJob now principal data => exact hsame (cancelJob_ok hperform).1

theorem bulkInvariant_perform (h : BulkInvariant s) {command : UserCommand} {after : BulkSession}
    (hsound : ¬ ApprovesProcessing s command) (hperform : command.perform s.session = .ok after) :
    BulkInvariant ⟨after, s.authorized⟩ := by
  cases command with
  | retryRows principal data regenerate =>
    rcases retryRows_ok hperform with rfl | hretries
    · exact h
    · exact bulkInvariant_retry h hretries
  | approveRows now principal reviews data =>
    rcases approveRows_ok hperform with rfl | ⟨happroves, rfl⟩
    · exact h
    · apply bulkInvariant_approve h
      exact fun row hrow hstate => hsound ⟨happroves, row, hrow, hstate⟩
  | pauseJob now principal data =>
    have hcommand := (pauseJob_ok hperform).1
    exact h.of_same hcommand.rows hcommand.attempts hcommand.budget
  | resumeJob principal data =>
    have hcommand := (resumeJob_ok hperform).1
    exact h.of_same hcommand.rows hcommand.attempts hcommand.budget
  | cancelJob now principal data =>
    have hcommand := (cancelJob_ok hperform).1
    exact h.of_same hcommand.rows hcommand.attempts hcommand.budget

theorem keepsBudget_of_committed {transaction : BulkTransaction} (h : CommittedBulk s)
    (hplan : KeepsToAuthorized s transaction) : KeepsBudget s transaction := by
  cases transaction with
  | execute calls => exact (session_run h.kept hplan).2.2
  | _ => trivial

section Runs

variable [BulkHashes] {transaction : BulkTransaction}

theorem committedBulk_materialize (h : CommittedBulk s) {file : Option BulkInputFile}
    {content : InputContent} : CommittedBulk (transactBulk s (.materialize file content)) := by
  unfold transactBulk
  simp only
  split
  · rcases materializeCsvSnapshot_ok h.kept.estimate ‹_› with rfl | ⟨rows, hfresh, hkeyed, rfl⟩
    · exact ⟨bulkInvariant_flush h.kept, h.whole.job, h.whole.rows, h.whole.attempts⟩
    · refine ⟨(bulkInvariant_fresh h.kept hfresh hkeyed).of_same rfl rfl ⟨rfl, rfl, rfl, rfl, rfl⟩,
        h.whole.job, fun row hrow => ?_, h.whole.attempts⟩
      rcases mem_append.mp hrow with hrow | hrow
      · exact h.whole.rows row hrow
      · refine ⟨(hfresh row hrow).actual.ge, ?_⟩
        rw [(hfresh row hrow).actual, storedCost_zero, Int.cast_zero]
  · exact h

theorem committedBulk_command (h : CommittedBulk s) {command : UserCommand}
    (hsound : ¬ ApprovesProcessing s command) : CommittedBulk (transactBulk s (.command command)) := by
  unfold transactBulk
  simp only
  cases hperform : command.perform s.session with
  | error failure =>
    rw [issue_of_error hperform]
    exact h
  | ok after =>
    rw [issue_of_ok hperform]
    exact ⟨bulkInvariant_flush (bulkInvariant_perform h.kept hsound hperform),
      wholeCosts_perform h.whole hperform⟩

theorem committedBulk_execute (h : CommittedBulk s) {calls : List ExecutorCall}
    (hrecords : Along noteCall RecordsAuthorized s calls)
    (halike : RoundsAlike s.session.rows (recordings s calls)) :
    CommittedBulk (transactBulk s (.execute calls)) := by
  obtain ⟨hend, hgained, -⟩ := session_run h.kept hrecords
  obtain ⟨hactual, hattempts⟩ := (roundsAlike_iff h hrecords).mp halike
  exact ⟨hend.committed hactual hattempts, hgained.wholeCosts h.whole⟩

theorem committedBulk_transact (h : CommittedBulk s) (hplan : KeepsToAuthorized s transaction)
    (hkeeps : KeepsAccounts s transaction) : CommittedBulk (transactBulk s transaction) := by
  cases transaction with
  | materialize file content => exact committedBulk_materialize h
  | command command => exact committedBulk_command h hkeeps
  | execute calls => exact committedBulk_execute h hplan hkeeps

/-- An approved row in progress can no longer be recorded, although it is authorized. -/
theorem not_accounted_of_approves (h : BulkInvariant s) {command : UserCommand}
    (hcommand : ApprovesProcessing s command) : ¬ Accounted (transactBulk s (.command command)) := by
  cases command with
  | approveRows now principal reviews data =>
    obtain ⟨happroves, row, hrow, hstate⟩ := hcommand
    have hperform : (UserCommand.approveRows now principal reviews data).perform s.session =
        .ok (approvedSession now principal data s.session) := approveRows_of happroves
    have hissue := issue_of_ok hperform
    intro haccounted
    obtain ⟨hmem, hids⟩ := mem_rowsOf.mp hrow
    have hauthorized : row.id ∈ s.authorized := (h.authorized _).mpr ⟨row, hmem, rfl, hstate⟩
    obtain ⟨after, hrecorded⟩ := haccounted.recordable row.id hauthorized 0 reviews
      (plainFailure row.id 0) rfl ⟨_, _, _, accepted_plainFailure reviews _ row.id le_rfl⟩
    rw [show (transactBulk s (.command (.approveRows now principal reviews data))).session =
      flush (approvedSession now principal data s.session) from hissue] at hrecorded
    obtain ⟨found, -, -, -, hfound, hid, hunapproved, -⟩ := recordRowAttempt_ok hrecorded
    obtain ⟨old, hold, rfl⟩ := mem_map.mp hfound
    by_cases hchanged : old.id ∈ data.rowIds
    · rw [if_pos hchanged] at hunapproved
      cases hunapproved
    · rw [if_neg hchanged] at hid
      exact hchanged (hid ▸ hids)
  | _ => exact absurd hcommand not_false

/-- Between transactions, the next one decides whether the accounts are kept. -/
theorem accounted_transact_iff (h : CommittedBulk s) (hplan : KeepsToAuthorized s transaction) :
    Accounted (transactBulk s transaction) ↔ KeepsAccounts s transaction := by
  constructor
  swap
  · exact fun hkeeps => (committedBulk_transact h hplan hkeeps).kept.accounted
  intro haccounted
  cases transaction with
  | materialize file content => trivial
  | command command => exact fun happroves => not_accounted_of_approves h.kept happroves haccounted
  | execute calls =>
    exact (roundsAlike_iff h hplan).mpr ⟨haccounted.actual, haccounted.attempts⟩

/-- In a run that records only what it authorized, the accounts hold throughout exactly when no
accepted bulk approval takes a row in progress and the costs of every session round alike. -/
theorem bulkAccounted_iff {s : BulkSession} (hs : created s) {transactions : List BulkTransaction}
    (hplan : Along transactBulk KeepsToAuthorized ⟨s, []⟩ transactions) :
    ((∀ before, before <+: transactions → Accounted (run transactBulk ⟨s, []⟩ before)) ∧
        Along transactBulk KeepsBudget ⟨s, []⟩ transactions) ↔
      Along transactBulk KeepsAccounts ⟨s, []⟩ transactions := by
  have hstart : CommittedBulk ⟨s, []⟩ := ⟨bulkInvariant_created hs, wholeCosts_created hs⟩
  have hiff := throughout_iff_along_of_invariant (I := CommittedBulk) (P := Accounted)
    (Q := KeepsAccounts) transactBulk (fun s h => h.kept.accounted)
    (fun s transaction h hplan => accounted_transact_iff h hplan)
    (fun s transaction h hplan hkeeps => committedBulk_transact h hplan hkeeps) hstart hplan
  constructor
  · exact fun h => hiff.mp h.1
  · intro hkeeps
    refine ⟨hiff.mpr hkeeps, ?_⟩
    have hboth : Along transactBulk (fun s transaction => KeepsToAuthorized s transaction ∧
        KeepsAccounts s transaction) ⟨s, []⟩ transactions := by
      clear hiff hstart hs
      generalize (⟨s, []⟩ : BulkLedger) = start at hplan hkeeps ⊢
      induction transactions generalizing start with
      | nil => trivial
      | cons transaction transactions ih =>
        exact ⟨⟨hplan.1, hkeeps.1⟩, ih _ hplan.2 hkeeps.2⟩
    exact along_of_invariant (I := CommittedBulk) transactBulk
      (fun s transaction h hboth => committedBulk_transact h hboth.1 hboth.2)
      (fun s transaction h hboth => keepsBudget_of_committed h hboth.1) hstart hboth

end Runs

attribute [local instance] sampleHashes

/-- An assessment that passes the content of the only row. -/
def sampleAssessment : QualityAssessment where
  contentVersionId := 21
  contentHash := "content"
  qualityConfigHash := "config"
  reportManifest := []
  componentScores := []
  weightedContributions := []
  totalScore := 90
  formulaVersion := "1"
  failedThresholds := []
  blockingPolicyEventIds := []
  nonOverrideablePolicyEventIds := []
  decision := .pass
  id := 22
  contentId := 20
  qualityConfigId := 23
  assessmentHash := "assessment"
  createdBy := 5

def sampleApproval (status : ApprovalRequestStatus) : ApprovalRequest where
  id := 24
  contentId := 20
  contentVersionId := 21
  contentHash := "content"
  assessmentId := 22
  assessmentHash := "assessment"
  qualityConfigId := 23
  qualityConfigHash := "config"
  approvalStagesSnapshot := []
  approvalStagesHash := "stages"
  status := status
  stageDueAt := none
  requestedBy := 5
  requestedAt := 0
  approvedAt := if status = .approved then some 0 else none
  approvedContentHash := if status = .approved then some "content" else none

def sampleReviews (status : ApprovalRequestStatus) : Reviews where
  assessments := [sampleAssessment]
  approvals := [sampleApproval status]

/-- A success without its spam scores, which the gate holds back. -/
def sampleAttempt : RowAttempt where
  rowId := 1
  outcome := .succeeded
  actualCost := 4000000
  startedAt := 0
  completedAt := 1
  contentId := some 20
  contentVersionId := some 21
  contentHash := some "content"
  qualityAssessmentId := some 22
  approvalRequestId := some 24

def sampleRowsCommand (key : String) : BulkRowsCommand where
  rowIds := [1]
  reason := "review"
  idempotencyKey := key
  row_ids_nonempty := by decide
  row_ids_distinct := by decide

/-- The only row is taken, held back, retried and taken again. -/
def sampleRetries : List BulkTransaction := [
  .materialize (some (sampleFile 1)) (sampleContent 1),
  .execute [.authorizeNextRow 10 1 10000000],
  .execute [.recordRowAttempt 11 (sampleReviews .pending) sampleAttempt],
  .command (.retryRows { subjectId := 5 } (sampleRowsCommand "retry") false),
  .execute [.authorizeNextRow 12 1 10000000]]

def sampleApproveCommand : UserCommand :=
  .approveRows 13 { subjectId := 5 } (sampleReviews .approved) (sampleRowsCommand "approve")

theorem bulkAccounted_sample :
    ((∀ before, before <+: sampleRetries →
        Accounted (run transactBulk ⟨sampleSession 1 50 (by decide), []⟩ before)) ∧
      Along transactBulk KeepsBudget ⟨sampleSession 1 50 (by decide), []⟩ sampleRetries) ∧
      (run transactBulk ⟨sampleSession 1 50 (by decide), []⟩ sampleRetries).session.job.actualCost =
        4000000 := by
  refine ⟨(bulkAccounted_iff (created_sampleSession 1 50 (by decide)) ?_).mpr ?_, by decide +kernel⟩
  · simp only [sampleRetries, along_cons, along_nil, KeepsToAuthorized, RecordsAuthorized, and_true, true_and]
    decide +kernel
  · simp only [sampleRetries, along_cons, along_nil, KeepsAccounts, ApprovesProcessing, and_true,
      true_and, not_false_eq_true]
    decide +kernel

/-- Two rows of half a unit each, recorded in one session: one unit on the job, two on the rows. -/
example :
    let s := run transactBulk ⟨sampleSession 2 50 (by decide), []⟩
      [.materialize (some (sampleFile 2)) (sampleContent 2)]
    ¬ RoundsAlike s.session.rows [(1, 1 / 2), (2, 1 / 2)] := by
  decide +kernel

/-- After the approval the row in progress keeps its hold and can no longer be recorded. -/
theorem approved_in_progress_stuck :
    let s := run transactBulk ⟨sampleSession 1 50 (by decide), []⟩
      (sampleRetries ++ [.command sampleApproveCommand])
    created (sampleSession 1 50 (by decide)) ∧
      Along transactBulk KeepsToAuthorized ⟨sampleSession 1 50 (by decide), []⟩
        (sampleRetries ++ [.command sampleApproveCommand]) ∧
      s.session.job.heldCost = 10000000 ∧ processingEstimate s.session.rows = 0 ∧
      1 ∈ s.authorized ∧
      recordRowAttempt 14 (sampleReviews .approved) (plainFailure 1 0) s.session = .error
        (bulkConflict "BULK_APPROVED_ROW_PRESERVED" "승인된 행 결과는 변경할 수 없습니다.") := by
  refine ⟨created_sampleSession 1 50 (by decide), ?_, ?_⟩
  · simp only [sampleRetries, cons_append, nil_append, along_cons, along_nil, KeepsToAuthorized,
      RecordsAuthorized, and_true, true_and]
    decide +kernel
  · decide +kernel

end BlogOps.Bulk
