import BlogOps.BulkClosing

/-!
# The budget kill switch of a bulk job

The executor authorizes and records the rows of a job whose estimates are
within its limit.  An authorization may reach the limit, but a recording that
leaves as much spent and held stops the job, and so does a delivery that finds
it there.
-/

namespace BlogOps.Bulk

open Jobs KeyedTables TransitionRuns Billing List

/-- The executor authorizes a row that is ready, or records one in progress with evidence that
the server takes and a cost up to its estimate. -/
def Scheduled (s : BulkSession) : ExecutorCall → Prop
  | .authorizeNextRow _ rowId cost =>
    ∃ row ∈ s.rows, row.id = rowId ∧ row.state = .ready ∧ cost = row.estimatedCost
  | .recordRowAttempt _ reviews a =>
    ∃ row ∈ s.rows, row.id = a.rowId ∧ row.state = .processing ∧
      a.actualCost ≤ row.estimatedCost ∧ ∃ quality approval outcome,
        AttemptAccepted reviews s.job.spamPolicy a quality approval outcome

/-- The row is granted, or recorded without stopping the job. -/
def Granted (s : BulkSession) : ExecutorCall → Prop
  | .authorizeNextRow now rowId cost =>
    ∃ after, authorizeNextRow now rowId cost s = .ok (true, after) ∧
      after.job.budgetKillSwitchTriggered = false
  | .recordRowAttempt now reviews a =>
    ∃ after, recordRowAttempt now reviews a s = .ok after ∧ after.job.budgetKillSwitchTriggered = false

/-- What is spent and held after a recording stays below the limit. -/
def Below (s : BulkSession) : ExecutorCall → Prop
  | .authorizeNextRow _ _ _ => True
  | .recordRowAttempt _ _ a => ∀ row ∈ s.rows, row.id = a.rowId →
      s.job.actualCost + a.actualCost + (s.job.heldCost - row.estimatedCost) < s.job.effectiveMaximum

def isReady (row : BulkRow) : Bool := row.state = .ready

def readyEstimate (rows : List BulkRow) : Int := totalWhere isReady (·.estimatedCost) rows

/-- A job that runs within its limit, with room for every row that is ready. -/
structure Spared (s : BulkSession) : Prop where
  recounted : Recounted s
  live : s.job.state ∉ terminalJobStates
  uncancelled : s.job.state ≠ .cancelRequested
  unpaused : s.job.pauseRequested = false
  running : s.job.budgetKillSwitchTriggered = false
  actual : 0 ≤ s.job.actualCost
  held : s.job.heldCost = processingEstimate s.rows
  estimates : ∀ row ∈ s.rows, 0 ≤ row.estimatedCost
  room : s.job.actualCost + s.job.heldCost + readyEstimate s.rows ≤ s.job.effectiveMaximum
  states : ∀ row ∈ s.rows, row.state ∈ processedRowStates ∨
    (row.state = .ready ∨ row.state = .processing) ∧ row.approvedAt = none ∧
      row.attempt < s.job.maxRowAttempts

variable {s after : BulkSession} {row : BulkRow} {now : Int} {call : ExecutorCall}

theorem Spared.held_nonneg (h : Spared s) : 0 ≤ s.job.heldCost := by
  rw [h.held]
  exact totalWhere_nonneg h.estimates

theorem Spared.ready_le (h : Spared s) (hrow : row ∈ s.rows) (hstate : row.state = .ready) :
    row.estimatedCost ≤ readyEstimate s.rows := by
  unfold readyEstimate
  rw [← totalWhere_filter]
  refine le_total_of_mem (f := fun row : BulkRow => row.estimatedCost) ?_ ?_
  · exact fun other hother => h.estimates other (mem_filter.mp hother).1
  · exact mem_filter.mpr ⟨hrow, by simp [isReady, hstate]⟩

theorem Spared.processing_le (h : Spared s) (hrow : row ∈ s.rows)
    (hstate : row.state = .processing) : row.estimatedCost ≤ s.job.heldCost := by
  rw [h.held, processingEstimate, ← totalWhere_filter]
  refine le_total_of_mem (f := fun row : BulkRow => row.estimatedCost) ?_ ?_
  · exact fun other hother => h.estimates other (mem_filter.mp hother).1
  · exact mem_filter.mpr ⟨hrow, by simp [isProcessing, hstate]⟩

theorem readyEstimate_setRow {rows : List BulkRow} (hkeyed : Keyed (·.id) rows) {new : BulkRow}
    (hrow : row ∈ rows) (hid : new.id = row.id) :
    readyEstimate (updateRow (·.id) new.id (fun _ => new) rows) = readyEstimate rows -
      (if isReady row then row.estimatedCost else 0) +
      (if isReady new then new.estimatedCost else 0) :=
  totals_setRow hkeyed hrow hid fun row => if isReady row then row.estimatedCost else 0

theorem spared_authorize (h : Spared s) {rowId : Uuid} {cost : Int}
    (hscheduled : Scheduled s (.authorizeNextRow now rowId cost)) :
    ∃ after, authorizeNextRow now rowId cost s = .ok (true, after) ∧ Spared after := by
  obtain ⟨row, hrow, rfl, hready, rfl⟩ := hscheduled
  have hle := h.ready_le hrow hready
  have hroom := h.room
  have hcast : (row.estimatedCost : ℚ) ≤ readyEstimate s.rows := by exact_mod_cast hle
  have hwithin : s.job.actualCost + s.job.heldCost + row.estimatedCost ≤ s.job.effectiveMaximum := by
    linarith
  have hgrants : Grants row.id row.estimatedCost s row :=
    ⟨hrow, rfl, rfl, h.unpaused, h.running, h.live, h.uncancelled, hwithin, .inl hready⟩
  have hauthorized : authorizeNextRow now row.id row.estimatedCost s = _ :=
    authorizeNextRow_of h.recounted.keyed hgrants h.actual h.held_nonneg (h.estimates row hrow)
  refine ⟨_, hauthorized, ?_⟩
  obtain ⟨new, hnew⟩ : ∃ new : BulkRow, new = { row with state := .processing } := ⟨_, rfl⟩
  have hid : new.id = row.id := by rw [hnew]
  have hmem : ∀ other ∈ updateRow (·.id) new.id (fun _ => new) s.rows,
      other = new ∨ other ∈ s.rows ∧ other.id ≠ new.id :=
    fun other hother => mem_setRow h.recounted.keyed hrow hid hother
  have hheld := processingEstimate_setRow h.recounted.keyed hrow hid
  have hreadySum := readyEstimate_setRow h.recounted.keyed hrow hid
  have hestimate : new.estimatedCost = row.estimatedCost := by rw [hnew]
  rw [if_neg (by simp [isProcessing, hready]), if_pos (by simp [isProcessing, hnew]), hestimate] at hheld
  rw [if_pos (by simp [isReady, hready]), if_neg (by simp [isReady, hnew])] at hreadySum
  have hsame := h.held
  refine ⟨recounted_authorize h.recounted hauthorized, h.live, h.uncancelled, h.unpaused,
    h.running, h.actual, ?_, ?_, ?_, ?_⟩
  · rw [← hnew]
    simp only [setRow]
    omega
  · rw [← hnew]
    intro other hother
    rcases hmem other hother with rfl | ⟨hother, -⟩
    · rw [hestimate]
      exact h.estimates row hrow
    · exact h.estimates other hother
  · rw [← hnew]
    simp only [setRow]
    have hlimit : ({ s.job with heldCost := s.job.heldCost + row.estimatedCost } :
        BulkJob).effectiveMaximum = s.job.effectiveMaximum := rfl
    rw [hlimit, hreadySum]
    push_cast
    linarith
  · rw [← hnew]
    intro other hother
    rcases hmem other hother with rfl | ⟨hother, -⟩
    · obtain hprocessed | ⟨-, happroved, hattempt⟩ := h.states row hrow
      · rw [hready] at hprocessed
        exact absurd hprocessed (by decide)
      · rw [hnew]
        exact .inr ⟨.inr rfl, happroved, hattempt⟩
    · exact h.states other hother

theorem chargeAttempt_killed (now : Int) (row : BulkRow) (a : RowAttempt) (job : BulkJob) :
    (chargeAttempt now row a job).budgetKillSwitchTriggered =
        (job.budgetKillSwitchTriggered || decide ((job.effectiveMaximum : ℚ) ≤
          job.actualCost + a.actualCost + (max 0 (job.heldCost - row.estimatedCost) : Int))) ∧
      (chargeAttempt now row a job).pauseRequested =
        (job.pauseRequested || decide ((job.effectiveMaximum : ℚ) ≤
          job.actualCost + a.actualCost + (max 0 (job.heldCost - row.estimatedCost) : Int))) := by
  unfold chargeAttempt BulkJob.effectiveMaximum
  simp only
  split
  · rename_i hreached
    rw [decide_eq_true hreached, Bool.or_true, Bool.or_true]
    exact ⟨rfl, rfl⟩
  · rename_i hbelow
    rw [decide_eq_false hbelow, Bool.or_false, Bool.or_false]
    exact ⟨rfl, rfl⟩

/-- A scheduled recording is accepted, and stops the job exactly at the limit. -/
theorem spared_record (h : Spared s) {reviews : Reviews} {a : RowAttempt}
    (hscheduled : Scheduled s (.recordRowAttempt now reviews a)) :
    ∃ after, recordRowAttempt now reviews a s = .ok after ∧
      (after.job.budgetKillSwitchTriggered = false ↔ Below s (.recordRowAttempt now reviews a)) ∧
      (Below s (.recordRowAttempt now reviews a) → Spared after) := by
  obtain ⟨row, hrow, hid, hprocessing, hcost, quality, approval, outcome, haccepted⟩ := hscheduled
  obtain hprocessed | ⟨-, happroved, hattempt⟩ := h.states row hrow
  · rw [hprocessing] at hprocessed
    exact absurd hprocessed (by decide)
  have hrecorded : recordRowAttempt now reviews a s = _ :=
    recordRowAttempt_of h.recounted.keyed hrow hid happroved hattempt haccepted
  have hle := h.processing_le hrow hprocessing
  have hclamp : max 0 (s.job.heldCost - row.estimatedCost) = s.job.heldCost - row.estimatedCost := by omega
  obtain ⟨hkilled, hpaused⟩ := chargeAttempt_killed now row a s.job
  rw [hclamp, h.running, Bool.false_or, Int.cast_sub] at hkilled
  rw [hclamp, h.unpaused, Bool.false_or, Int.cast_sub] at hpaused
  have hbelow : Below s (.recordRowAttempt now reviews a) ↔
      s.job.actualCost + a.actualCost + (s.job.heldCost - row.estimatedCost) <
        s.job.effectiveMaximum := by
    constructor
    · exact fun hbelow => hbelow row hrow hid
    · intro hlt other hother hotherId
      rw [h.recounted.keyed.eq_of_key_eq hother hrow (hotherId.trans hid.symm)]
      exact hlt
  refine ⟨_, hrecorded, ?_, ?_⟩
  · rw [hbelow]
    show (chargeAttempt now row a s.job).budgetKillSwitchTriggered = false ↔ _
    rw [hkilled, decide_eq_false_iff_not, not_le]
  · intro hlt
    have hlt := hbelow.mp hlt
    have hpositive := haccepted.cost
    obtain ⟨hactual, hheld, hattempts, -, hlimit⟩ := chargeAttempt_money now row a s.job
    obtain ⟨-, hstate⟩ := chargeAttempt_keeps now row a s.job
    rw [hclamp] at hheld
    obtain ⟨new, hnew⟩ : ∃ new, new = recordedRow row a quality approval
        (evaluateSpamGate a.spamSimilarityScore a.valueScore s.job.spamPolicy) outcome := ⟨_, rfl⟩
    obtain ⟨hnewId, hnewEstimate, -⟩ := recordedRow_money row a quality approval
      (evaluateSpamGate a.spamSimilarityScore a.valueScore s.job.spamPolicy) outcome
    obtain ⟨hnewState, hclosed⟩ := recordedRow_closed row a quality approval
      (evaluateSpamGate a.spamSimilarityScore a.valueScore s.job.spamPolicy) outcome
    rw [← hnewState] at hclosed
    rw [← hnew] at hnewId hnewEstimate hclosed
    have hmem : ∀ other ∈ updateRow (·.id) new.id (fun _ => new) s.rows,
        other = new ∨ other ∈ s.rows ∧ other.id ≠ new.id :=
      fun other hother => mem_setRow h.recounted.keyed hrow hnewId hother
    have hheldSum := processingEstimate_setRow h.recounted.keyed hrow hnewId
    have hreadySum := readyEstimate_setRow h.recounted.keyed hrow hnewId
    have hidle : ¬ isProcessing new = true := by
      intro hprocessing
      rw [of_decide_eq_true hprocessing] at hclosed
      exact absurd hclosed (by decide)
    have hdone : ¬ isReady new = true := by
      intro hready
      rw [of_decide_eq_true hready] at hclosed
      exact absurd hclosed (by decide)
    rw [if_pos (by simp [isProcessing, hprocessing]), if_neg hidle] at hheldSum
    rw [if_neg (by simp [isReady, hprocessing]), if_neg hdone] at hreadySum
    have hsame := h.held
    have hroom := h.room
    have hnonneg := h.actual
    have hrows : (recordedSession now row a quality approval outcome s).rows =
        updateRow (·.id) new.id (fun _ => new) s.rows := by
      rw [hnew]
      rfl
    have hjob : (recordedSession now row a quality approval outcome s).job =
        (chargeAttempt now row a s.job).setCounts (progressOf
          (updateRow (·.id) new.id (fun _ => new) s.rows)) := by
      rw [hnew]
      rfl
    refine ⟨recounted_record h.recounted hrecorded, ?_, ?_, ?_, ?_, ?_, ?_, ?_, ?_, ?_⟩
    · rw [hjob]
      exact hstate.symm ▸ h.live
    · rw [hjob]
      exact hstate.symm ▸ h.uncancelled
    · rw [hjob]
      exact hpaused.trans (decide_eq_false (not_le.mpr hlt))
    · rw [hjob]
      exact hkilled.trans (decide_eq_false (not_le.mpr hlt))
    · rw [hjob]
      show 0 ≤ (chargeAttempt now row a s.job).actualCost
      rw [hactual]
      exact add_nonneg hnonneg hpositive
    · rw [hjob, hrows, hheldSum]
      show (chargeAttempt now row a s.job).heldCost = _
      omega
    · rw [hrows]
      intro other hother
      rcases hmem other hother with rfl | ⟨hother, -⟩
      · rw [hnewEstimate]
        exact h.estimates row hrow
      · exact h.estimates other hother
    · rw [hjob, hrows, hreadySum]
      show (chargeAttempt now row a s.job).actualCost +
        (chargeAttempt now row a s.job).heldCost + _ ≤ (chargeAttempt now row a s.job).effectiveMaximum
      rw [hlimit, hactual, hheld]
      push_cast
      linarith
    · rw [hjob, hrows]
      intro other hother
      rcases hmem other hother with rfl | ⟨hother, -⟩
      · exact .inl hclosed
      · have hother := h.states other hother
        show _ ∨ _ ∧ _ ∧ other.attempt < (chargeAttempt now row a s.job).maxRowAttempts
        rw [hattempts]
        exact hother

/-- The job is still the one that was created, over the same input. -/
structure Carried (s after : BulkSession) : Prop where
  source : SameSource s.job after.job
  currency : after.job.currency = s.job.currency
  reservation : after.job.budgetReservationRef = s.job.budgetReservationRef
  input : after.rows.map rowInput = s.rows.map rowInput

theorem Carried.refl (s : BulkSession) : Carried s s := ⟨.refl _, rfl, rfl, rfl⟩

theorem Carried.trans {later : BulkSession} (h : Carried s after) (h' : Carried after later) :
    Carried s later :=
  ⟨h.source.trans h'.source, h'.currency.trans h.currency,
    h'.reservation.trans h.reservation, h'.input.trans h.input⟩

theorem rowInput_setRow {rows : List BulkRow} (hkeyed : Keyed (·.id) rows) {new : BulkRow}
    (hrow : row ∈ rows) (hinput : rowInput new = rowInput row) :
    (updateRow (·.id) new.id (fun _ => new) rows).map rowInput = rows.map rowInput := by
  have hid : new.id = row.id := congrArg Prod.fst hinput
  unfold updateRow
  rw [map_map]
  apply map_congr_left
  intro other hother
  simp only [Function.comp_apply]
  split
  · rename_i hsame
    rw [hkeyed.eq_of_key_eq hother hrow (hsame.trans hid)]
    exact hinput
  · rfl

theorem rowInput_recordedRow (row : BulkRow) (a : RowAttempt) (quality : AttemptQuality)
    (approval : Option Quality.ApprovalRequest) (spam : SpamGateDecision) (outcome : BulkAttemptOutcome) :
    rowInput (recordedRow row a quality approval spam outcome) = rowInput row := by
  unfold recordedRow
  cases approval with
  | none => rfl
  | some approval =>
    simp only
    split <;> rfl

theorem carried_call (hkeyed : Keyed (·.id) s.rows) (call : ExecutorCall) :
    Carried s (executorCall s call) := by
  cases call with
  | authorizeNextRow now rowId cost =>
    unfold executorCall
    simp only
    split
    · cases authorizeNextRow_ok ‹_› with
      | denied => exact .refl s
      | stopped reason _ _ => exact ⟨⟨rfl, rfl, rfl, rfl, rfl, rfl⟩, rfl, rfl, rfl⟩
      | granted row hgrants =>
        exact ⟨⟨rfl, rfl, rfl, rfl, rfl, rfl⟩, rfl, rfl, rowInput_setRow hkeyed hgrants.stored rfl⟩
    · exact .refl s
  | recordRowAttempt now reviews a =>
    unfold executorCall
    simp only
    split
    · obtain ⟨row, quality, approval, outcome, hrow, -, -, -, -, rfl⟩ := recordRowAttempt_ok ‹_›
      have hcharged : ∀ job : BulkJob, SameSource job (chargeAttempt now row a job) ∧
          (chargeAttempt now row a job).currency = job.currency ∧
          (chargeAttempt now row a job).budgetReservationRef = job.budgetReservationRef := by
        intro job
        unfold chargeAttempt
        simp only
        split <;> exact ⟨⟨rfl, rfl, rfl, rfl, rfl, rfl⟩, rfl, rfl⟩
      obtain ⟨hsource, hcurrency, hreservation⟩ := hcharged s.job
      exact ⟨⟨hsource.id, hsource.input, hsource.mapping, hsource.mapping_hash, hsource.target,
        hsource.estimate⟩, hcurrency, hreservation,
        rowInput_setRow hkeyed hrow (rowInput_recordedRow row a quality approval _ outcome)⟩
    · exact .refl s

/-- A call of its own transaction. -/
def commitCall (s : BulkSession) (call : ExecutorCall) : BulkSession := committed (executorCall s call)

def recordedCost : ExecutorCall → ℚ
  | .authorizeNextRow _ _ _ => 0
  | .recordRowAttempt _ _ a => a.actualCost

/-- The cost of calls in one session. -/
def scheduleCost (calls : List ExecutorCall) : ℚ := (calls.map recordedCost).sum

/-- The cost of calls that are committed one by one. -/
def storedCosts (calls : List ExecutorCall) : ℚ :=
  (calls.map fun call => (storedCost (recordedCost call) : ℚ)).sum

/-- A rounded cost stays within the limit, which is whole. -/
theorem Spared.committed (h : Spared s) : Spared (committed s) := by
  have hmem : ∀ other ∈ (Bulk.committed s).rows, ∃ row ∈ s.rows, other = row.stored := by
    intro other hother
    obtain ⟨row, hrow, rfl⟩ := mem_map.mp hother
    exact ⟨row, hrow, rfl⟩
  have hprocessing : processingEstimate (Bulk.committed s).rows = processingEstimate s.rows :=
    congrArg List.sum map_map
  have hready : readyEstimate (Bulk.committed s).rows = readyEstimate s.rows := congrArg List.sum map_map
  have hroom := h.room
  have hcost : s.job.actualCost ≤
      (s.job.effectiveMaximum - s.job.heldCost - readyEstimate s.rows : Int) := by
    push_cast
    linarith
  have hstored := storedCost_le h.actual hcost
  refine ⟨⟨keyed_committed h.recounted.keyed, ?_, rfl⟩, h.live, h.uncancelled, h.unpaused, h.running,
    ?_, h.held.trans hprocessing.symm, ?_, ?_, ?_⟩
  · rw [progressOf_committed]
    exact h.recounted.counts
  · have hnonneg := storedCost_nonneg h.actual
    show (0 : ℚ) ≤ storedCost s.job.actualCost
    exact_mod_cast hnonneg
  · intro other hother
    obtain ⟨row, hrow, rfl⟩ := hmem other hother
    exact h.estimates row hrow
  · rw [hready]
    show (storedCost s.job.actualCost : ℚ) + s.job.heldCost + readyEstimate s.rows ≤
      s.job.effectiveMaximum
    exact_mod_cast (by omega : storedCost s.job.actualCost + s.job.heldCost + readyEstimate s.rows ≤
      s.job.effectiveMaximum)
  · intro other hother
    obtain ⟨row, hrow, rfl⟩ := hmem other hother
    exact h.states row hrow

theorem carried_committed (s : BulkSession) : Carried s (committed s) :=
  ⟨⟨rfl, rfl, rfl, rfl, rfl, rfl⟩, rfl, rfl, map_map⟩

theorem granted_iff_below (h : Spared s) (hscheduled : Scheduled s call) : Granted s call ↔ Below s call := by
  cases call with
  | authorizeNextRow now rowId cost =>
    obtain ⟨after, hafter, hspared⟩ := spared_authorize h hscheduled
    exact iff_of_true ⟨after, hafter, hspared.running⟩ trivial
  | recordRowAttempt now reviews a =>
    obtain ⟨after, hafter, hbelow, -⟩ := spared_record h hscheduled
    rw [← hbelow]
    constructor
    · rintro ⟨other, hother, hrunning⟩
      rw [hafter] at hother
      cases hother
      exact hrunning
    · exact fun hrunning => ⟨after, hafter, hrunning⟩

theorem spared_call (h : Spared s) (hscheduled : Scheduled s call) (hbelow : Below s call) :
    Spared (executorCall s call) ∧
      (executorCall s call).job.actualCost = s.job.actualCost + recordedCost call := by
  unfold executorCall
  cases call with
  | authorizeNextRow now rowId cost =>
    obtain ⟨after, hafter, hspared⟩ := spared_authorize h hscheduled
    simp only [hafter]
    refine ⟨hspared, ?_⟩
    cases authorizeNextRow_ok hafter
    exact (add_zero _).symm
  | recordRowAttempt now reviews a =>
    obtain ⟨after, hafter, -, hspared⟩ := spared_record h hscheduled
    simp only [hafter]
    refine ⟨hspared hbelow, ?_⟩
    obtain ⟨row, quality, approval, outcome, -, -, -, -, -, rfl⟩ := recordRowAttempt_ok hafter
    exact (chargeAttempt_money now row a s.job).1

section Schedules

variable {step : BulkSession → ExecutorCall → BulkSession}

/-- A run of calls, each committed or not. -/
def Calls (step : BulkSession → ExecutorCall → BulkSession) : Prop :=
  ∀ s call, step s call = executorCall s call ∨ step s call = commitCall s call

theorem calls_executorCall : Calls executorCall := fun _ _ => .inl rfl

theorem calls_commitCall : Calls commitCall := fun _ _ => .inr rfl

theorem spared_step (hcalls : Calls step) (h : Spared s) (hscheduled : Scheduled s call)
    (hbelow : Below s call) : Spared (step s call) ∧ Carried s (step s call) := by
  obtain ⟨hspared, -⟩ := spared_call h hscheduled hbelow
  have hcarried := carried_call h.recounted.keyed call
  rcases hcalls s call with hstep | hstep
  · rw [hstep]
    exact ⟨hspared, hcarried⟩
  · rw [hstep]
    exact ⟨hspared.committed, hcarried.trans (carried_committed _)⟩

theorem state_run (hcalls : Calls step) (s : BulkSession) (calls : List ExecutorCall) :
    (run step s calls).job.state = s.job.state := by
  induction calls generalizing s with
  | nil => rfl
  | cons call calls ih =>
    rw [run_cons, ih]
    rcases hcalls s call with hstep | hstep
    · rw [hstep]
      exact executorCall_state s call
    · rw [hstep]
      exact executorCall_state s call

section

variable (hcalls : Calls step) {calls : List ExecutorCall} (h : Spared s)
    (hscheduled : AlongWhile step Granted Scheduled s calls)

include hcalls h hscheduled

/-- Below the limit a schedule runs to its end. -/
theorem spared_run (hbelow : Along step Below s calls) :
    Spared (run step s calls) ∧ Carried s (run step s calls) := by
  induction calls generalizing s with
  | nil => exact ⟨h, .refl s⟩
  | cons call calls ih =>
    obtain ⟨hspared, hcarried⟩ := spared_step hcalls h hscheduled.1 hbelow.1
    have hgranted := (granted_iff_below h hscheduled.1).mpr hbelow.1
    obtain ⟨hend, hcarriedEnd⟩ := ih hspared (hscheduled.2 hgranted) hbelow.2
    exact ⟨hend, hcarried.trans hcarriedEnd⟩

/-- A schedule is granted throughout exactly when it stays below the limit. -/
theorem granted_iff_below_run : Along step Granted s calls ↔ Along step Below s calls :=
  along_iff_along_of_while (I := Spared) step
    (fun _ _ h hscheduled => granted_iff_below h hscheduled)
    (fun _ _ h hscheduled hbelow => (spared_step hcalls h hscheduled hbelow).1) h hscheduled

end

/-- What one session records adds up as it is. -/
theorem cost_run {calls : List ExecutorCall} (h : Spared s)
    (hscheduled : AlongWhile executorCall Granted Scheduled s calls)
    (hbelow : Along executorCall Below s calls) :
    (run executorCall s calls).job.actualCost = s.job.actualCost + scheduleCost calls := by
  induction calls generalizing s with
  | nil => exact (add_zero _).symm
  | cons call calls ih =>
    obtain ⟨hspared, hcost⟩ := spared_call h hscheduled.1 hbelow.1
    have hgranted := (granted_iff_below h hscheduled.1).mpr hbelow.1
    rw [run_cons, ih hspared (hscheduled.2 hgranted) hbelow.2, hcost, add_assoc]
    rfl

theorem recordedCost_nonneg (hscheduled : Scheduled s call) : 0 ≤ recordedCost call := by
  cases call with
  | authorizeNextRow now rowId cost => exact le_rfl
  | recordRowAttempt now reviews a =>
    obtain ⟨row, -, -, -, -, quality, approval, outcome, haccepted⟩ := hscheduled
    exact haccepted.cost

/-- What is committed call by call adds up as its columns store it. -/
theorem cost_run_committed {calls : List ExecutorCall} (h : Spared s) (hwhole : Whole s.job.actualCost)
    (hscheduled : AlongWhile commitCall Granted Scheduled s calls) (hbelow : Along commitCall Below s calls) :
    Whole (run commitCall s calls).job.actualCost ∧
      (run commitCall s calls).job.actualCost = s.job.actualCost + storedCosts calls := by
  induction calls generalizing s with
  | nil => exact ⟨hwhole, (add_zero _).symm⟩
  | cons call calls ih =>
    obtain ⟨hspared, hcost⟩ := spared_call h hscheduled.1 hbelow.1
    have hgranted := (granted_iff_below h hscheduled.1).mpr hbelow.1
    have hstored : (commitCall s call).job.actualCost =
        s.job.actualCost + storedCost (recordedCost call) := by
      show (storedCost (executorCall s call).job.actualCost : ℚ) = _
      rw [hcost, hwhole.add (recordedCost_nonneg hscheduled.1)]
    have hnext : Spared (commitCall s call) := hspared.committed
    have hwholeNext : Whole (commitCall s call).job.actualCost := whole_storedCost hspared.actual
    obtain ⟨hend, hcostEnd⟩ := ih hnext hwholeNext (hscheduled.2 hgranted) hbelow.2
    refine ⟨hend, ?_⟩
    rw [run_cons, hcostEnd, hstored, add_assoc]
    rfl

end Schedules

def Stopped (s : BulkSession) : Prop := s.job.budgetKillSwitchTriggered = true

theorem Stopped.refuses (h : Stopped s) (now : Int) (rowId : Uuid) (cost : Int)
    (after : BulkSession) : authorizeNextRow now rowId cost s ≠ .ok (true, after) := by
  intro hauthorized
  cases authorizeNextRow_ok hauthorized with
  | granted row hgrants =>
    have hrunning := hgrants.running
    rw [show s.job.budgetKillSwitchTriggered = true from h] at hrunning
    cases hrunning

section

variable (hs : Stopped s)

include hs

theorem stopped_authorize {rowId : Uuid} {cost : Int} {allowed : Bool}
    (h : authorizeNextRow now rowId cost s = .ok (allowed, after)) : Stopped after := by
  cases authorizeNextRow_ok h with
  | denied => exact hs
  | stopped reason _ _ => exact rfl
  | granted row _ => exact hs

theorem stopped_record {reviews : Reviews} {a : RowAttempt}
    (h : recordRowAttempt now reviews a s = .ok after) : Stopped after := by
  obtain ⟨row, quality, approval, outcome, -, -, -, -, -, rfl⟩ := recordRowAttempt_ok h
  show (chargeAttempt now row a s.job).budgetKillSwitchTriggered = true
  rw [(chargeAttempt_killed now row a s.job).1,
    show s.job.budgetKillSwitchTriggered = true from hs, Bool.true_or]

theorem stopped_executorCall (call : ExecutorCall) : Stopped (executorCall s call) := by
  cases call with
  | authorizeNextRow now rowId cost =>
    unfold executorCall
    simp only
    split
    · exact stopped_authorize hs ‹_›
    · exact hs
  | recordRowAttempt now reviews a =>
    unfold executorCall
    simp only
    split
    · exact stopped_record hs ‹_›
    · exact hs

theorem stopped_command (h : JobCommand s after) : Stopped after := h.killed.trans hs

theorem stopped_prepareJob {ready : Bool} (h : prepareJob now s = .ok (ready, after)) :
    ready = false ∧ Stopped after := by
  unfold prepareJob at h
  by_cases hterminal : s.job.state ∈ terminalJobStates
  · rw [if_pos hterminal] at h
    cases h
    exact ⟨rfl, hs⟩
  rw [if_neg hterminal] at h
  by_cases hcancel : s.job.state = .cancelRequested
  · rw [if_pos hcancel] at h
    obtain ⟨cancelled, hcancelled, hresult⟩ := map_ok h
    cases hresult
    obtain ⟨job, hjob, hcancelled⟩ := bind_ok hcancelled
    rw [moveFrom_eq (by decide), if_pos hcancel] at hjob
    cases hjob
    cases hcancelled
    exact ⟨rfl, hs⟩
  rw [if_neg hcancel] at h
  by_cases hreached : reachedMaximum s.job = true
  · rw [if_pos hreached] at h
    cases h
    exact ⟨rfl, rfl⟩
  · rw [if_neg hreached, if_pos (.inl hs)] at h
    cases h
    exact ⟨rfl, hs⟩

theorem stopped_failJob {code detail : String} (h : failJob now code detail s = .ok after) :
    Stopped after := by
  rw [failJob_eq] at h
  cases h
  split_ifs
  · exact hs
  · exact hs
  · exact hs

end

section Transactions

variable [BulkHashes] {β γ : Type} {settle : γ → BulkJob → β → Except Failure β}

theorem stopped_callSession {call : BulkCall} (hs : Stopped s)
    (h : callSession call s = .ok after) : Stopped after := by
  cases call with
  | materialize file content =>
    rcases materializeCsvSnapshot_appends h with rfl | ⟨rows, created, -, rfl⟩
    · exact hs
    · exact hs
  | authorizeNextRow now rowId cost =>
    obtain ⟨⟨allowed, session⟩, hsession, rfl⟩ := map_ok h
    exact stopped_authorize hs hsession
  | recordRowAttempt now reviews attempt =>
    exact stopped_record hs h
  | retryRows principal data regenerate =>
    rcases retryRows_ok h with rfl | hretries
    · exact hs
    · rw [hretries.result]
      exact hs
  | approveRows now principal reviews data =>
    rcases approveRows_ok h with rfl | ⟨-, rfl⟩
    · exact hs
    · exact hs
  | pauseJob now principal data =>
    exact stopped_command hs (pauseJob_ok h).1
  | resumeJob principal data =>
    exact stopped_command hs (resumeJob_ok h).1
  | cancelJob now principal data =>
    exact stopped_command hs (cancelJob_ok h).1

theorem stopped_transactJob {w : BulkWorld β} (hs : Stopped w.session) (action : BulkAction γ) :
    Stopped (transactJob settle w action).session := by
  cases action with
  | call call =>
    cases hcall : callSession call w.session with
    | error failure =>
      simp only [transactJob, hcall]
      exact hs
    | ok after =>
      have hstopped := stopped_callSession hs hcall
      simp only [transactJob, hcall]
      exact hstopped
  | process now c executor =>
    obtain ⟨ready, session, hprepare, -⟩ := prepareJob_spec now w.session
    obtain ⟨rfl, hstopped⟩ := stopped_prepareJob hs hprepare
    cases hprocess : processJob settle now c executor w with
    | error failure =>
      simp only [transactJob, hprocess]
      exact hs
    | ok after =>
      simp only [transactJob, hprocess]
      unfold processJob at hprocess
      rw [bind_of_ok hprepare] at hprocess
      obtain ⟨hsession, -⟩ := settled_ok hprocess
      show Stopped (committed after.session)
      rw [hsession]
      exact hstopped
  | persistFailure now c code =>
    cases hpersist : persistFailure settle now c code w with
    | error failure =>
      simp only [transactJob, hpersist]
      exact hs
    | ok after =>
      simp only [transactJob, hpersist]
      obtain ⟨failed, hfailed, hsettled⟩ := bind_ok hpersist
      obtain ⟨hsession, -⟩ := settled_ok hsettled
      have hstopped := stopped_failJob hs hfailed
      show Stopped (committed after.session)
      rw [hsession]
      exact hstopped

end Transactions

theorem stopped_transact [BulkHashes] {w : BulkWorld MeteredBooks} (hs : Stopped w.session)
    (action : ClosingAction) : Stopped (transactClosing w action).session := by
  cases action with
  | job action => exact stopped_transactJob hs action
  | credits call => exact hs
  | meter ctx data =>
    unfold transactClosing
    simp only
    split <;> exact hs

end BlogOps.Bulk
