import BlogOps.BulkKillSwitch

/-!
# A bulk job within its budget

From the materialized job on: the executor authorizes and records the rows
below the limit, and one delivery of the task then finalizes the hold of the
job at the recorded cost.
-/

namespace BlogOps.Bulk

open Jobs KeyedTables TransitionRuns Billing List

/-! ## From the created job -/

theorem readyEstimate_le {rows : List BulkRow} (h : ∀ row ∈ rows, 0 ≤ row.estimatedCost) :
    readyEstimate rows ≤ total (·.estimatedCost) rows := by
  induction rows with
  | nil => exact le_rfl
  | cons row rows ih =>
    have hrest := ih fun other hother => h other (mem_cons_of_mem _ hother)
    have hrow := h row mem_cons_self
    simp only [readyEstimate, totalWhere_cons] at hrest ⊢
    rw [total_cons]
    split <;> omega

theorem committed_refreshProgress {s : BulkSession} (h : committed s = s) :
    committed (refreshProgress s) = refreshProgress s := by
  have hjob : s.job.stored = s.job := congrArg BulkSession.job h
  have hstored : s.rows.map BulkRow.stored = s.stored := congrArg BulkSession.stored h
  have hrows : s.rows.map BulkRow.stored = s.rows := congrArg BulkSession.rows h
  have hattempts : s.attempts.map BulkRowAttempt.stored = s.attempts := congrArg BulkSession.attempts h
  have hcounted : (refreshProgress s).job.stored = s.job.stored.setCounts (progressOf s.stored) := rfl
  have hflushed : s.rows = s.stored := hrows.symm.trans hstored
  rw [hjob] at hcounted
  unfold committed
  rw [hcounted, refreshProgress_rows, refreshProgress_attempts, hattempts, hrows, hflushed]
  unfold refreshProgress
  rw [hflushed]

section Input

variable [BulkHashes]

section

variable {file : BulkInputFile} {content : InputContent} {s after : BulkSession}

/-- A job whose rows were materialized within its limit. -/
theorem spared_materialized (hs : created s) (hinput : materializeInput file content s = .ok after)
    (hestimates : total (·.estimatedCost) after.rows ≤ after.job.effectiveMaximum) :
    Spared after ∧ FromSnapshot file content after ∧ after.job.state = .queued ∧
      after.job.actualCost = 0 ∧ committed after = after ∧
      ∃ counts, after.job = s.job.setCounts counts := by
  obtain ⟨readers, env, data, basis, holdId, authorizedCost, -, rfl, -⟩ := hs
  have hsnapshot := fromSnapshot_of_materialize rfl rfl hinput
  have hnonneg : 0 ≤ (newBulkJob readers env data basis holdId authorizedCost).estimatedCost :=
    storedNumeric_nonneg data.estimated_nonneg
  have h := hinput
  unfold materializeInput at h
  obtain ⟨_, -, h⟩ := bind_ok h
  obtain ⟨_, -, h⟩ := bind_ok h
  obtain ⟨_, -, h⟩ := bind_ok h
  obtain ⟨normalized, -, h⟩ := bind_ok h
  obtain ⟨created, hcreated, h⟩ := bind_ok h
  obtain ⟨_, -, h⟩ := bind_ok h
  obtain ⟨_, -, h⟩ := bind_ok h
  obtain ⟨_, hkeyed, h⟩ := bind_ok h
  obtain ⟨_, -, h⟩ := bind_ok h
  cases h
  have hkeyed : (created.map (·.id)).Nodup := require_ok hkeyed
  have hfresh := freshRow_materializeRows hnonneg hcreated
  have hpositive : ∀ row ∈ created, 0 ≤ row.estimatedCost := fun row hrow => (hfresh row hrow).estimate
  have hidle : processingEstimate created = 0 := by
    apply totalWhere_eq_zero
    intro row hrow
    rcases (hfresh row hrow).state with hstate | hstate | hstate <;> simp [isProcessing, hstate]
  have hready := readyEstimate_le hpositive
  have hrows : created.map BulkRow.stored = created := by
    rw [map_congr_left (g := id) fun row hrow => ?_, map_id]
    unfold BulkRow.stored
    rw [(hfresh row hrow).actual, storedCost_zero, Int.cast_zero, ← (hfresh row hrow).actual]
    rfl
  have hloaded : committed (refreshProgress (flush
      { job := newBulkJob readers env data basis holdId authorizedCost, rows := [] ++ created })) =
        refreshProgress (flush
          { job := newBulkJob readers env data basis holdId authorizedCost, rows := [] ++ created }) := by
    apply committed_refreshProgress
    unfold committed flush BulkJob.stored
    simp only [nil_append, hrows, map_nil]
    rw [show (newBulkJob readers env data basis holdId authorizedCost).actualCost = 0 from rfl,
      storedCost_zero]
    rfl
  refine ⟨⟨recounted_refresh hkeyed, ?_, ?_, rfl, rfl, le_rfl, hidle.symm, hpositive, ?_, ?_⟩,
    hsnapshot, rfl, rfl, hloaded, _, rfl⟩
  · exact (by decide : JobState.queued ∉ terminalJobStates)
  · exact (by decide : JobState.queued ≠ .cancelRequested)
  · have hsum : readyEstimate created ≤ (newBulkJob readers env data basis holdId
        authorizedCost).effectiveMaximum := hready.trans hestimates
    show (0 : ℚ) + (0 : Int) + readyEstimate created ≤ (newBulkJob readers env data basis holdId
        authorizedCost).effectiveMaximum
    rw [Int.cast_zero, add_zero, zero_add]
    exact_mod_cast hsum
  · intro row hrow
    rcases (hfresh row hrow).state with hstate | hstate | hstate
    · exact .inl (by rw [hstate]; decide)
    · exact .inl (by rw [hstate]; decide)
    · refine .inr ⟨.inl hstate, (hfresh row hrow).unapproved, ?_⟩
      rw [(hfresh row hrow).attempt]
      exact data.attempts_range.1

theorem FromSnapshot.carried (h : FromSnapshot file content s) (hcarried : Carried s after)
    (hflushed : after.stored = after.rows) : FromSnapshot file content after :=
  h.of_same hcarried.source hflushed hcarried.input

end

end Input

/-! ## The start of a delivery -/

/-- What a delivery makes of a queued job that it starts. -/
def startedSession (now : Int) (s : BulkSession) : BulkSession :=
  { s with job := { s.job with
    state := .validating
    startedAt := s.job.startedAt.or (some now) } }

theorem carried_started (now : Int) (s : BulkSession) : Carried s (startedSession now (refreshProgress s)) :=
  ⟨⟨rfl, rfl, rfl, rfl, rfl, rfl⟩, rfl, rfl, rfl⟩

theorem spared_refreshed {s : BulkSession} (h : Spared s) (hflushed : s.stored = s.rows) :
    Spared (refreshProgress s) := by
  have hcounts : (refreshProgress s).job.counts = progressOf s.rows := by
    rw [← hflushed]
    rfl
  exact ⟨⟨h.recounted.keyed, hcounts, h.recounted.stored⟩, h.live, h.uncancelled, h.unpaused,
    h.running, h.actual, h.held, h.estimates, h.room, h.states⟩

theorem spared_started {s : BulkSession} (h : Spared s) (now : Int) : Spared (startedSession now s) :=
  ⟨h.recounted.of_same rfl rfl (.inl rfl), (by decide : JobState.validating ∉ terminalJobStates),
    (by decide : JobState.validating ≠ .cancelRequested), h.unpaused, h.running, h.actual,
    h.held, h.estimates, h.room, h.states⟩

theorem prepareJob_queued (now : Int) {s : BulkSession} (h : Spared s) (hstate : s.job.state = .queued)
    (hrows : s.job.targetRows ≤ s.stored.length) (hunreached : reachedMaximum s.job = false) :
    prepareJob now s = .ok (true, startedSession now s) := by
  unfold prepareJob
  rw [if_neg h.live, if_neg h.uncancelled, if_neg (by simp [hunreached]),
    if_neg (by simp [h.running, h.unpaused]), if_neg (not_lt.mpr hrows), startValidation_eq,
    if_pos (by rw [hstate]; decide)]
  rfl

theorem prepareJob_reached (now : Int) {s : BulkSession} (h : Spared s)
    (hreached : reachedMaximum s.job = true) :
    ∃ session, prepareJob now s = .ok (false, session) ∧ session.job.state = s.job.state := by
  unfold prepareJob
  rw [if_neg h.live, if_neg h.uncancelled, if_pos hreached]
  exact ⟨_, rfl, rfl⟩

section Delivery

variable [BulkHashes] {γ : Type} {d : JobDelivery γ} {file : BulkInputFile}
  {content : InputContent} {s session : BulkSession}

theorem checkSnapshot_ok {job : BulkJob} (h : checkSnapshot job file content = .ok ()) :
    BulkHashes.privateRef file = .ok () ∧ file.isCsv = true := by
  unfold checkSnapshot at h
  obtain ⟨_, hprivate, h⟩ := bind_ok h
  obtain ⟨_, hverified, -⟩ := bind_ok h
  exact ⟨hprivate, (require_ok hverified).1⟩

/-- The bytes that the job was materialized from are still there, and the executor makes these
calls and marks the job `SUCCEEDED`. -/
structure Delivers (d : JobDelivery γ) (file : BulkInputFile) (content : InputContent)
    (calls : List ExecutorCall) : Prop where
  input : d.file = some file
  content : d.content = .ok content
  size : 1 ≤ file.sizeBytes ∧ file.sizeBytes ≤ d.knowledgeMaxUploadBytes
  executor : d.executor = some { calls := calls, succeeds := true }

theorem materializeDelivery_reached (hreached : reachedMaximum s.job = true) :
    materializeDelivery d s = .ok s := by
  unfold materializeDelivery materializationRequest
  rw [if_pos (by simp [hreached])]
  rfl

theorem materializeDelivery_again {calls : List ExecutorCall} (h : Spared s)
    (hsnapshot : FromSnapshot file content s) (hstate : s.job.state = .queued)
    (hdelivers : Delivers d file content calls) (hunreached : reachedMaximum s.job = false) :
    materializeDelivery d s = .ok (refreshProgress s) := by
  obtain ⟨hprivate, hcsv⟩ := checkSnapshot_ok hsnapshot.checked
  have hrequest : materializationRequest d.file s.job = .ok (some file) := by
    unfold materializationRequest
    rw [if_neg (by simp [h.live, h.uncancelled, h.unpaused, h.running, hunreached]),
      if_neg (by rw [hstate]; decide), hdelivers.input]
    exact (bind_of_ok (require_of hcsv _) _).trans (bind_of_ok hprivate _)
  have hinput : materializeCsvSnapshot d.file content s = materializeInput file content s := by
    unfold materializeCsvSnapshot
    rw [if_neg (by simp [h.live, h.uncancelled, h.unpaused, h.running]), hdelivers.input]
    exact bind_of_ok (require_of (.inl hstate) _) _
  unfold materializeDelivery
  rw [bind_of_ok hrequest]
  simp only
  refine (bind_of_ok (require_of hdelivers.size _) _).trans ?_
  rw [bind_of_ok hdelivers.content, hinput]
  exact materializeInput_again hsnapshot

/-- The delivery comes to its executor. -/
def Starts (d : JobDelivery γ) (s session : BulkSession) : Prop :=
  ∃ taken, materializeDelivery d s = .ok taken ∧ prepareJob d.now (committed taken) = .ok (true, session)

theorem starts_iff {calls : List ExecutorCall} (h : Spared s) (hloaded : committed s = s)
    (hsnapshot : FromSnapshot file content s) (hstate : s.job.state = .queued)
    (hdelivers : Delivers d file content calls) : Starts d s session ↔
      reachedMaximum s.job = false ∧ session = startedSession d.now (refreshProgress s) := by
  cases hreached : reachedMaximum s.job with
  | true =>
    constructor
    · rintro ⟨taken, htaken, hprepare⟩
      rw [materializeDelivery_reached hreached] at htaken
      cases htaken
      obtain ⟨other, hother, -⟩ := prepareJob_reached d.now h hreached
      rw [hloaded, hother] at hprepare
      cases hprepare
    · rintro ⟨hunreached, -⟩
      cases hunreached
  | false =>
    have htakes := materializeDelivery_again h hsnapshot hstate hdelivers hreached
    have hrows : (refreshProgress s).job.targetRows ≤ (refreshProgress s).stored.length :=
      hsnapshot.complete.ge.trans (congrArg List.length hsnapshot.flushed).ge
    have hprepares := prepareJob_queued d.now (spared_refreshed h hsnapshot.flushed) hstate hrows hreached
    constructor
    · rintro ⟨taken, htaken, hprepare⟩
      rw [htakes] at htaken
      cases htaken
      rw [committed_refreshProgress hloaded, hprepares] at hprepare
      cases hprepare
      exact ⟨rfl, rfl⟩
    · rintro ⟨-, rfl⟩
      exact ⟨_, htakes, (congrArg (prepareJob d.now) (committed_refreshProgress hloaded)).trans hprepares⟩

end Delivery

/-! ## The end of a delivery -/

/-- The job as it is settled at a cost. -/
def finishedJob (job : BulkJob) (actualCost : ℚ) : BulkJob :=
  { job with state := .succeeded, actualCost := actualCost }

def successEvent (job : BulkJob) (actualCost : ℚ) : TerminalEvent :=
  terminalEvent (finishedJob job actualCost)

/-- What the executor leaves when it marks the job. -/
def succeededSession (s : BulkSession) : BulkSession :=
  { flush s with job := { s.job with state := .succeeded } }

theorem validateSuccess_of {s : BulkSession} (h : Spared s)
    (hclosed : ∀ row ∈ s.rows, row.state ∈ processedRowStates)
    (hcomplete : s.rows.length = s.job.targetRows) :
    validateSuccess (succeededSession s).job = .ok () := by
  have hprocessed : s.job.processedRows = s.job.targetRows := by
    have hcount : s.job.processedRows = countStates processedRowStates s.rows :=
      congrArg ProgressCounts.processedRows h.recounted.counts
    rw [hcount, countStates_processed, hcomplete]
    intro row hrow
    have hstate := hclosed row hrow
    cases hcase : row.state <;> simp [hcase, openRowStates, processedRowStates] at hstate ⊢
  have hheld : s.job.heldCost = 0 := by
    rw [h.held]
    apply totalWhere_eq_zero
    intro row hrow
    have hstate := hclosed row hrow
    simp only [isProcessing, decide_eq_false_iff_not]
    intro hprocessing
    rw [hprocessing] at hstate
    exact absurd hstate (by decide)
  have hready : (0 : ℚ) ≤ readyEstimate s.rows := by exact_mod_cast totalWhere_nonneg h.estimates
  have hroom := h.room
  rw [hheld, Int.cast_zero, add_zero] at hroom
  have hlimit : s.job.actualCost ≤ s.job.effectiveMaximum := by linarith
  exact (bind_of_ok (require_of hprocessed _) _).trans
    ((bind_of_ok (require_of hheld _) _).trans (require_of hlimit _))

variable {holdId : Uuid}

/-- A finished job whose outcome is checked is settled by its gate alone. -/
theorem settleTerminal_success {c : SettlementClock} {s : BulkSession}
    (hvalid : validateSuccess (succeededSession s).job = .ok ())
    (href : s.job.budgetReservationRef = some holdId) (books : MeteredBooks) :
    settleTerminal c (succeededSession s).job books =
      (settleCost c holdId (finishedJob s.job s.job.actualCost) books).map Prod.snd := by
  have hstate : (succeededSession s).job.state = .succeeded := rfl
  have hterminal : (succeededSession s).job.state ∈ terminalJobStates := by
    rw [hstate]
    decide
  have hchecked : checkOutcome (succeededSession s).job = .ok () := by
    unfold checkOutcome
    rw [if_pos hstate, hvalid]
  have href : (succeededSession s).job.budgetReservationRef = some holdId := href
  unfold settleTerminal
  rw [if_neg (not_not.mpr hterminal), href]
  simp only
  rw [bind_of_ok hchecked]
  rfl

theorem persistFailure_unsucceeded {now : Int} {c : SettlementClock} {code : String}
    {w : BulkWorld MeteredBooks} (hstate : w.session.job.state = .queued) :
    (commit w (persistFailure settleTerminal now c code w)).session.job.state ≠ .succeeded := by
  unfold persistFailure
  rw [failJob_eq, if_neg (by rw [hstate]; decide), if_pos (by rw [hstate]; decide)]
  cases hsettled : settled settleTerminal c (failedSession now code "approved bulk executor failed"
      w.session) w.books with
  | error failure =>
    have hresult : commit w (.error failure) = w := rfl
    simp only [bind, Except.bind, hsettled, hresult, hstate]
    decide
  | ok after =>
    obtain ⟨hsession, -⟩ := settled_ok hsettled
    have hresult : (commit w (.ok after)).session.job = after.session.job.stored := rfl
    simp only [bind, Except.bind, hsettled, hresult, hsession]
    exact (by decide : JobState.finalFailed ≠ .succeeded)

section Finish

variable [BulkHashes] {d : JobDelivery SettlementClock} {file : BulkInputFile}
  {content : InputContent} {s : BulkSession} {calls : List ExecutorCall}

section

variable {taken : BulkSession} {books : MeteredBooks} (htaken : materializeDelivery d s = .ok taken)

include htaken

theorem runJob_ok {after : BulkWorld MeteredBooks}
    (hprocess : processJob settleTerminal d.now d.clock d.executor ⟨committed taken, books⟩ = .ok after) :
    runJob settleTerminal d ⟨s, books⟩ = { after with session := committed after.session } := by
  unfold runJob
  simp only [htaken, hprocess]
  rfl

theorem runJob_error {failure : Failure}
    (hprocess : processJob settleTerminal d.now d.clock d.executor ⟨committed taken, books⟩ =
      .error failure) :
    runJob settleTerminal d ⟨s, books⟩ = commit ⟨committed taken, books⟩ (persistFailure
      settleTerminal d.now d.clock (failureCode failure) ⟨committed taken, books⟩) := by
  unfold runJob
  simp only [htaken, hprocess]

end

section

variable (h : Spared s) (hloaded : committed s = s) (hsnapshot : FromSnapshot file content s)
    (hstate : s.job.state = .queued) (hdelivers : Delivers d file content calls)
    (hunreached : reachedMaximum s.job = false)

include h hsnapshot hstate hdelivers hunreached

/-- The delivery starts, and finishes what its executor leaves. -/
theorem processJob_started (books : MeteredBooks) :
    processJob settleTerminal d.now d.clock d.executor ⟨refreshProgress s, books⟩ =
      finishJob settleTerminal d.now d.clock
        (succeededSession (run executorCall (startedSession d.now (refreshProgress s)) calls)) books := by
  have hstarts : prepareJob d.now (refreshProgress s) =
      .ok (true, startedSession d.now (refreshProgress s)) :=
    prepareJob_queued d.now (spared_refreshed h hsnapshot.flushed) hstate
      (hsnapshot.complete.ge.trans (congrArg List.length hsnapshot.flushed).ge) hunreached
  unfold processJob
  rw [bind_of_ok hstarts, hdelivers.executor]
  rfl

include hloaded

/-- The executor of a started delivery runs its calls below the limit and marks the job: the
delivery comes down to the settlement of its hold. -/
theorem runJob_started
    (hscheduled : AlongWhile executorCall Granted Scheduled
      (startedSession d.now (refreshProgress s)) calls)
    (hbelow : Along executorCall Below (startedSession d.now (refreshProgress s)) calls)
    (hclosed : ∀ row ∈ (run executorCall (startedSession d.now (refreshProgress s)) calls).rows,
      row.state ∈ processedRowStates)
    (href : s.job.budgetReservationRef = some holdId) (books : MeteredBooks) :
    match settleCost d.clock holdId (finishedJob s.job (s.job.actualCost + scheduleCost calls)) books with
    | .ok (_, after) => ∃ session, runJob settleTerminal d ⟨s, books⟩ = ⟨session, after⟩ ∧
        session.job.state = .succeeded ∧ session.job.budgetKillSwitchTriggered = false ∧
        terminalEvent session.job = successEvent s.job (s.job.actualCost + scheduleCost calls)
    | .error _ => (runJob settleTerminal d ⟨s, books⟩).session.job.state ≠ .succeeded := by
  obtain ⟨last, hlast⟩ : ∃ last, last = run executorCall (startedSession d.now (refreshProgress s)) calls :=
    ⟨_, rfl⟩
  have hspared := spared_started (spared_refreshed h hsnapshot.flushed) d.now
  obtain ⟨hend, hcarried⟩ := spared_run calls_executorCall hspared hscheduled hbelow
  have hcost := cost_run hspared hscheduled hbelow
  rw [← hlast] at hend hcarried hcost hclosed
  have hcarried := (carried_started d.now s).trans hcarried
  have hcomplete : last.rows.length = last.job.targetRows := by
    have hlength := congrArg List.length hcarried.input
    rw [length_map, length_map] at hlength
    rw [hlength, hsnapshot.complete, hcarried.source.target]
  have hvalid := validateSuccess_of hend hclosed hcomplete
  have hactual : last.job.actualCost = s.job.actualCost + scheduleCost calls := hcost
  have hevent : successEvent last.job last.job.actualCost =
      successEvent s.job (s.job.actualCost + scheduleCost calls) := by
    simp only [successEvent, finishedJob, terminalEvent, hcarried.source.id, hcarried.currency, hactual]
  have hsettle := settleTerminal_success (c := d.clock) hvalid (hcarried.reservation.trans href) books
  rw [settleCost_congr (finishedJob s.job (s.job.actualCost + scheduleCost calls))
    (finishedJob last.job last.job.actualCost) hactual hevent] at hsettle
  have hprocess : processJob settleTerminal d.now d.clock d.executor ⟨refreshProgress s, books⟩ =
      settled settleTerminal d.clock (succeededSession last) books := by
    rw [processJob_started h hsnapshot hstate hdelivers hunreached, ← hlast]
    unfold finishJob
    have hrunning : ¬ ((succeededSession last).job.pauseRequested ∨
        (succeededSession last).job.budgetKillSwitchTriggered) := by
      simp [succeededSession, hend.unpaused, hend.running]
    rw [if_neg (by simp [succeededSession]), if_neg hrunning, if_neg (by simp [succeededSession])]
  have htaken := materializeDelivery_again h hsnapshot hstate hdelivers hunreached
  unfold settled at hprocess
  rw [hsettle] at hprocess
  rw [← committed_refreshProgress hloaded] at hprocess
  cases hfinal : settleCost d.clock holdId
      (finishedJob s.job (s.job.actualCost + scheduleCost calls)) books with
  | error failure =>
    rw [hfinal] at hprocess
    show (runJob settleTerminal d ⟨s, books⟩).session.job.state ≠ .succeeded
    rw [runJob_error htaken hprocess]
    exact persistFailure_unsucceeded hstate
  | ok answer =>
    rw [hfinal] at hprocess
    refine ⟨_, runJob_ok htaken hprocess, rfl, hend.running, Eq.trans ?_ hevent⟩
    simp [committed, succeededSession, BulkJob.stored, successEvent, finishedJob, terminalEvent]

/-- An executor that stops the job leaves its hold alone, whatever it marked. -/
theorem runJob_stopped
    (hstopped : Stopped (run executorCall (startedSession d.now (refreshProgress s)) calls))
    (books : MeteredBooks) : Stopped (runJob settleTerminal d ⟨s, books⟩).session ∧
      (runJob settleTerminal d ⟨s, books⟩).books = books := by
  obtain ⟨last, hlast⟩ : ∃ last, last = run executorCall (startedSession d.now (refreshProgress s)) calls :=
    ⟨_, rfl⟩
  rw [← hlast] at hstopped
  have hprocess : processJob settleTerminal d.now d.clock d.executor ⟨refreshProgress s, books⟩ =
      .ok ⟨succeededSession last, books⟩ := by
    rw [processJob_started h hsnapshot hstate hdelivers hunreached, ← hlast]
    have hkilled : (succeededSession last).job.budgetKillSwitchTriggered = true := hstopped
    unfold finishJob
    rw [if_neg (by simp [succeededSession]), if_pos (.inr hkilled)]
  rw [← committed_refreshProgress hloaded] at hprocess
  rw [runJob_ok (materializeDelivery_again h hsnapshot hstate hdelivers hunreached) hprocess]
  exact ⟨hstopped, rfl⟩

end

end Finish

/-! ## Jobs within their budget -/

/-- What is spent and held stays below the limit after every recording, and is below it when the
delivery starts. -/
structure StaysBelow [BulkHashes] (s : BulkSession) (d : JobDelivery SettlementClock)
    (before calls : List ExecutorCall) : Prop where
  begun : Along commitCall Below s before
  unreached : reachedMaximum (run commitCall s before).job = false
  executed : ∀ session, Starts d (run commitCall s before) session → Along executorCall Below session calls

/-- The price version still meters the cost, whose credits are within the hold, and what is returned
fits the balance. -/
structure Chargeable (price : BillingPriceVersion) (hold : CreditHold) (occurredAt cost : Int)
    (books : MeteredBooks) : Prop where
  meters : 0 < cost → Meters price occurredAt cost
  credits : ∃ credits, actualCredits price cost = .ok credits ∧ credits ≤ hold.maximumAmount ∧
    numericFits (availableBalance books.books + (hold.maximumAmount - credits)) = true

/-- The gate takes the cost, and it can be charged. -/
structure Settleable (price : BillingPriceVersion) (hold : CreditHold) (occurredAt : Int) (cost : ℚ)
    (books : MeteredBooks) : Prop where
  whole : (storedCost cost : ℚ) = cost
  chargeable : Chargeable price hold occurredAt (storedCost cost) books

/-- What is recorded before the delivery, call by call, and in its session. -/
def jobCost (before calls : List ExecutorCall) : ℚ := storedCosts before + scheduleCost calls

/-- Every authorization is granted, the job is never stopped, and the delivery settles the hold
of the job, marked `SUCCEEDED`, for its actual cost. -/
structure SparedJob [BulkHashes] (s : BulkSession) (d : JobDelivery SettlementClock)
    (before calls : List ExecutorCall) (price : BillingPriceVersion) (hold : CreditHold)
    (books : MeteredBooks) : Prop where
  granted : Along commitCall Granted s before
  executed : ∃ session, Starts d (run commitCall s before) session ∧ Along executorCall Granted session calls
  succeeded : (runJob settleTerminal d ⟨run commitCall s before, books⟩).session.job.state = .succeeded
  running : (runJob settleTerminal d
    ⟨run commitCall s before, books⟩).session.job.budgetKillSwitchTriggered = false
  settled : ∃ settled, JobSettled price hold settled
    (terminalEvent (runJob settleTerminal d ⟨run commitCall s before, books⟩).session.job) books
    (runJob settleTerminal d ⟨run commitCall s before, books⟩).books

/-- The calls are scheduled one by one while they are granted, and close every row. -/
structure OneByOne [BulkHashes] (s : BulkSession) (d : JobDelivery SettlementClock)
    (before calls : List ExecutorCall) : Prop where
  begun : AlongWhile commitCall Granted Scheduled s before
  scheduled : ∀ session, Starts d (run commitCall s before) session →
    AlongWhile executorCall Granted Scheduled session calls
  closed : ∀ session, Starts d (run commitCall s before) session →
    Along executorCall Granted session calls →
      ∀ row ∈ (run executorCall session calls).rows, row.state ∈ processedRowStates

theorem flushed_run {s : BulkSession} (hflushed : s.stored = s.rows) (calls : List ExecutorCall) :
    (run commitCall s calls).stored = (run commitCall s calls).rows := by
  induction calls generalizing s with
  | nil => exact hflushed
  | cons call calls ih => exact ih rfl

theorem loaded_run {s : BulkSession} (hloaded : committed s = s) (calls : List ExecutorCall) :
    committed (run commitCall s calls) = run commitCall s calls := by
  induction calls generalizing s with
  | nil => exact hloaded
  | cons call calls ih => exact ih (committed_committed _)

section Schedule

variable [BulkHashes] {file : BulkInputFile} {content : InputContent} {s : BulkSession}
  {d : JobDelivery SettlementClock} {before calls : List ExecutorCall}

section

variable (hspared : Spared s) (hloaded : committed s = s) (hsnapshot : FromSnapshot file content s)
    (hqueued : s.job.state = .queued)

include hspared hloaded hsnapshot hqueued

/-- Where the calls before a delivery stayed below the limit, it starts unless the limit is
reached. -/
theorem starts_after (hdelivers : Delivers d file content calls)
    (hschedule : AlongWhile commitCall Granted Scheduled s before)
    (hbelow : Along commitCall Below s before) (session : BulkSession) :
    Starts d (run commitCall s before) session ↔ reachedMaximum (run commitCall s before).job = false ∧
        session = startedSession d.now (refreshProgress (run commitCall s before)) := by
  obtain ⟨hend, hcarried⟩ := spared_run calls_commitCall hspared hschedule hbelow
  exact starts_iff hend (loaded_run hloaded before)
    (hsnapshot.carried hcarried (flushed_run hsnapshot.flushed before))
    ((state_run calls_commitCall s before).trans hqueued) hdelivers

theorem granted_iff_staysBelow (hdelivers : Delivers d file content calls)
    (hschedule : OneByOne s d before calls) :
    StaysBelow s d before calls ↔ Along commitCall Granted s before ∧
      ∃ session, Starts d (run commitCall s before) session ∧
        Along executorCall Granted session calls := by
  have hbegun := granted_iff_below_run calls_commitCall hspared hschedule.begun
  have hrest : Along commitCall Below s before → ∀ session, Starts d (run commitCall s before) session →
        (Along executorCall Granted session calls ↔ Along executorCall Below session calls) := by
    intro hbelow session hstarts
    obtain ⟨hend, -⟩ := spared_run calls_commitCall hspared hschedule.begun hbelow
    obtain ⟨-, rfl⟩ := (starts_after hspared hloaded hsnapshot hqueued hdelivers hschedule.begun hbelow
      session).mp hstarts
    have hstarted := spared_started (spared_refreshed hend (flushed_run hsnapshot.flushed before)) d.now
    exact granted_iff_below_run calls_executorCall hstarted (hschedule.scheduled _ hstarts)
  constructor
  · intro h
    have hstarts := (starts_after hspared hloaded hsnapshot hqueued hdelivers hschedule.begun h.begun
      _).mpr ⟨h.unreached, rfl⟩
    exact ⟨hbegun.mpr h.begun, _, hstarts, (hrest h.begun _ hstarts).mpr (h.executed _ hstarts)⟩
  · rintro ⟨hgranted, session, hstarts, hexecuted⟩
    have hbelow := hbegun.mp hgranted
    have hstart := starts_after hspared hloaded hsnapshot hqueued hdelivers hschedule.begun hbelow
    obtain ⟨hunreached, rfl⟩ := (hstart session).mp hstarts
    refine ⟨hbelow, hunreached, fun other hother => ?_⟩
    obtain ⟨-, rfl⟩ := (hstart other).mp hother
    exact (hrest hbelow _ hstarts).mp hexecuted

section

variable (hzero : s.job.actualCost = 0) (hdelivers : Delivers d file content calls)
    (hschedule : OneByOne s d before calls) (h : StaysBelow s d before calls)

include hzero hdelivers hschedule h

theorem StaysBelow.cost : 0 ≤ jobCost before calls ∧
    (run commitCall s before).job.actualCost + scheduleCost calls = jobCost before calls := by
  obtain ⟨hend, -⟩ := spared_run calls_commitCall hspared hschedule.begun h.begun
  have hstarts := (starts_after hspared hloaded hsnapshot hqueued hdelivers hschedule.begun h.begun
    _).mpr ⟨h.unreached, rfl⟩
  have hstarted := spared_started (spared_refreshed hend (flushed_run hsnapshot.flushed before)) d.now
  have hlast := (spared_run calls_executorCall hstarted (hschedule.scheduled _ hstarts)
    (h.executed _ hstarts)).1.actual
  have hcharged := cost_run hstarted (hschedule.scheduled _ hstarts) (h.executed _ hstarts)
  have hwhole : Whole s.job.actualCost := by
    rw [hzero]
    exact ⟨le_rfl, congrArg Int.cast storedCost_zero⟩
  obtain ⟨-, hbegun⟩ := cost_run_committed hspared hwhole hschedule.begun h.begun
  rw [hzero, zero_add] at hbegun
  have hcost : (run commitCall s before).job.actualCost + scheduleCost calls = jobCost before calls := by
    rw [hbegun]
    rfl
  rw [hcharged] at hlast
  exact ⟨hcost ▸ hlast, hcost⟩

/-- Below the limit the delivery comes down to the settlement of the hold. -/
theorem runJob_staysBelow (href : s.job.budgetReservationRef = some holdId) (books : MeteredBooks) :
    match settleCost d.clock holdId (finishedJob s.job (jobCost before calls)) books with
    | .ok (_, after) => ∃ session,
        runJob settleTerminal d ⟨run commitCall s before, books⟩ = ⟨session, after⟩ ∧
          session.job.state = .succeeded ∧ session.job.budgetKillSwitchTriggered = false ∧
          terminalEvent session.job = successEvent s.job (jobCost before calls)
    | .error _ => (runJob settleTerminal d
        ⟨run commitCall s before, books⟩).session.job.state ≠ .succeeded := by
  obtain ⟨-, session, hstarts, hgranted⟩ :=
    (granted_iff_staysBelow hspared hloaded hsnapshot hqueued hdelivers hschedule).mp h
  obtain ⟨hend, hcarried⟩ := spared_run calls_commitCall hspared hschedule.begun h.begun
  have hclosed := hschedule.closed session hstarts hgranted
  have hscheduled := hschedule.scheduled session hstarts
  have hbelow := h.executed session hstarts
  obtain ⟨-, rfl⟩ := (starts_after hspared hloaded hsnapshot hqueued hdelivers hschedule.begun h.begun
    session).mp hstarts
  obtain ⟨-, hcost⟩ := h.cost hspared hloaded hsnapshot hqueued hzero hdelivers hschedule
  have hevent : successEvent (run commitCall s before).job (jobCost before calls) =
      successEvent s.job (jobCost before calls) := by
    simp only [successEvent, finishedJob, terminalEvent, hcarried.source.id, hcarried.currency]
  have hfinal := runJob_started hend (loaded_run hloaded before)
    (hsnapshot.carried hcarried (flushed_run hsnapshot.flushed before))
    ((state_run calls_commitCall s before).trans hqueued) hdelivers h.unreached hscheduled hbelow
    hclosed (hcarried.reservation.trans href) books
  have hsettle : settleCost d.clock holdId
      (finishedJob (run commitCall s before).job (jobCost before calls)) books =
        settleCost d.clock holdId (finishedJob s.job (jobCost before calls)) books :=
    settleCost_congr (finishedJob s.job (jobCost before calls))
      (finishedJob (run commitCall s before).job (jobCost before calls)) rfl hevent d.clock holdId books
  rw [hcost, hevent, hsettle] at hfinal
  exact hfinal

end

end

end Schedule

section Main

variable {readers : BulkReaders} {catalogue : BulkCatalogue} {env : BulkRequestEnv}
  {data : BulkJobCreate} {jobs : List BulkJob} {b : Books} {job : BulkJob} {placed : BulkStore}
  {hold row : CreditHold} {price : BillingPriceVersion} {file : BulkInputFile}
  {content : InputContent} {s : BulkSession} {books : MeteredBooks}
  {d : JobDelivery SettlementClock} {before calls : List ExecutorCall}

/-- The hold of a created job, still live after any credit calls, settles a success of the job
exactly when the cost is chargeable. -/
theorem finalizeJob_created_iff {event : TerminalEvent} (hreach : Reachable transact emptyBooks b)
    (hcreate : createNewJob readers catalogue env data ⟨jobs, b⟩ = .ok (job, placed))
    (hhold : hold ∈ placed.books.holds) (href : job.budgetReservationRef = some hold.id)
    (hnew : ∀ row ∈ b.holds, row.id ≠ hold.id)
    (hprice : env.ctx.prices.find? (·.id = hold.priceVersionId) = some price) (hunit : 0 < price.unitSize)
    (credits : List (CallContext × CreditCall)) (hbooks : books.books = run transact placed.books credits)
    (hrow : row ∈ books.books.holds) (hid : row.id = hold.id) (hheld : row.state = .held)
    (hworkspace : d.clock.ctx.workspaceId = env.ctx.workspaceId)
    (hlater : d.clock.ctx.prices.find? (·.id = hold.priceVersionId) = some price)
    (hclock : env.now ≤ d.clock.occurredAt) (hevent : NewEvent d.clock.ctx event books)
    (hcost : 0 ≤ event.actualCost) (hcurrency : event.currency = job.currency) :
    (∀ settled after, finalizeJob d.clock.ctx hold.id d.clock.occurredAt event books =
        .ok (settled, after) → JobSettled price hold settled event books after) ∧
      ((∃ settled after, finalizeJob d.clock.ctx hold.id d.clock.occurredAt event books =
        .ok (settled, after)) ↔
          Chargeable price hold d.clock.occurredAt event.actualCost books) := by
  obtain ⟨basis, reserved, authorization, after, -, hreserve, -, rfl, -, rfl⟩ := createNewJob_ok hcreate
  have hsameId : reserved.id = hold.id := Option.some.inj href
  have hnew' : ∀ row ∈ b.holds, row.id ≠ reserved.id := fun row hrow => by
    rw [hsameId]
    exact hnew row hrow
  have hsame : reserved = hold := by
    have hb := boundedBooks_reachable hreach
    obtain ⟨_, _, hreserved⟩ := reserved_of_created hb.books hreserve hnew'
    exact hreserved.books.holds_keyed.eq_of_key_eq (mem_of_find?_eq_some hreserved.found) hhold hsameId
  subst hsame
  obtain ⟨hs, hpriced, hplacement, hpriceCurrency⟩ := priced_of_reserve hreach hreserve hnew hprice
    credits hbooks hrow hid hworkspace hlater
  have hmaximum : row.maximumAmount = reserved.maximumAmount :=
    eq_of_placement (·.maximumAmount) (fun _ => rfl) hplacement
  have hcurrency : event.currency = row.pricingSnapshot.costCurrency := by
    rw [hcurrency, hpriced.snapshot]
    exact hpriceCurrency.symm
  have hiff := finalizeJob_credits_iff hs hrow hheld hpriced hclock hevent hunit hcost hcurrency
  have hsettles : ∀ settled after, finalizeJob d.clock.ctx row.id d.clock.occurredAt event books =
      .ok (settled, after) → JobSettled price row settled event books after :=
    fun settled after hfinal =>
      jobSettled_of_ok hs.books hrow hheld hpriced hclock hevent hfinal
  rw [hid] at hiff hsettles
  constructor
  · exact fun settled after hfinal => (hsettles settled after hfinal).of_placement hplacement
  constructor
  · rintro ⟨settled, after, hfinal⟩
    obtain ⟨hmeters, amount, hactual, hle, hfits⟩ :=
      hiff.mp ⟨settled, after, hfinal, hsettles settled after hfinal⟩
    rw [hmaximum] at hle hfits
    exact ⟨hmeters, amount, hactual, hle, hfits⟩
  · rintro ⟨hmeters, amount, hactual, hle, hfits⟩
    rw [← hmaximum] at hle hfits
    obtain ⟨settled, after, hfinal, -⟩ := hiff.mpr ⟨hmeters, amount, hactual, hle, hfits⟩
    exact ⟨settled, after, hfinal⟩

variable [BulkHashes]

/-- A job whose estimates are within its limit, and whose rows are authorized and recorded one by
one at a cost up to their estimates, is spared exactly when it stays below the limit and its cost
is chargeable.  A job that is stopped is never authorized again. -/
theorem killSwitch_spares_iff (hreach : Reachable transact emptyBooks b)
    (hcreate : createNewJob readers catalogue env data ⟨jobs, b⟩ = .ok (job, placed))
    (hhold : hold ∈ placed.books.holds) (href : job.budgetReservationRef = some hold.id)
    (hnew : ∀ row ∈ b.holds, row.id ≠ hold.id)
    (hprice : env.ctx.prices.find? (·.id = hold.priceVersionId) = some price) (hunit : 0 < price.unitSize)
    (hinput : materializeInput file content { job := job } = .ok s)
    (hestimates : total (·.estimatedCost) s.rows ≤ s.job.effectiveMaximum)
    (credits : List (CallContext × CreditCall)) (hbooks : books.books = run transact placed.books credits)
    (hrow : row ∈ books.books.holds) (hid : row.id = hold.id) (hheld : row.state = .held)
    (hworkspace : d.clock.ctx.workspaceId = env.ctx.workspaceId)
    (hlater : d.clock.ctx.prices.find? (·.id = hold.priceVersionId) = some price)
    (hclock : env.now ≤ d.clock.occurredAt)
    (hevent : NewEvent d.clock.ctx (successEvent job (jobCost before calls)) books)
    (hdelivers : Delivers d file content calls) (hschedule : OneByOne s d before calls) :
    (SparedJob s d before calls price hold books ↔ StaysBelow s d before calls ∧
        Settleable price hold d.clock.occurredAt (jobCost before calls) books) ∧
      ∀ w : BulkWorld MeteredBooks, Stopped w.session → (∀ actions now rowId cost after,
          authorizeNextRow now rowId cost (run transactClosing w actions).session ≠ .ok (true, after)) ∧
        ∀ calls now rowId cost after,
          authorizeNextRow now rowId cost (run executorCall w.session calls) ≠
            .ok (true, after) := by
  constructor
  swap
  · intro w hstopped
    constructor
    · intro actions now rowId cost after
      have hend : Stopped (run transactClosing w actions).session :=
        invariant_run (I := fun w => Stopped w.session) transactClosing
          (fun w action hw => stopped_transact hw action) hstopped actions
      exact hend.refuses now rowId cost after
    · intro calls now rowId cost after
      have hend : Stopped (run executorCall w.session calls) :=
        invariant_run (I := Stopped) executorCall (fun s call hs => stopped_executorCall hs call)
          hstopped calls
      exact hend.refuses now rowId cost after
  obtain ⟨hspared, hsnapshot, hqueued, hzero, hloaded, counts, hjob⟩ := spared_materialized
    (created_of_createNewJob hcreate) hinput hestimates
  have hreserved : s.job.budgetReservationRef = some hold.id := by
    rw [hjob]
    exact href
  have hsame : successEvent s.job (jobCost before calls) = successEvent job (jobCost before calls) := by
    rw [hjob]
    rfl
  have hgranted := granted_iff_staysBelow hspared hloaded hsnapshot hqueued hdelivers hschedule
  have hcost : StaysBelow s d before calls → 0 ≤ storedCost (jobCost before calls) := fun h =>
    storedCost_nonneg (h.cost hspared hloaded hsnapshot hqueued hzero hdelivers hschedule).1
  have hsettles := fun hcost => finalizeJob_created_iff hreach hcreate hhold href hnew hprice hunit
    credits hbooks hrow hid hheld hworkspace hlater hclock hevent hcost rfl
  -- a cost that the gate takes is settled by its finalization
  have hgate : (storedCost (jobCost before calls) : ℚ) = jobCost before calls →
      settleCost d.clock hold.id (finishedJob s.job (jobCost before calls)) books =
        finalizeJob d.clock.ctx hold.id d.clock.occurredAt
          (successEvent job (jobCost before calls)) books := by
    intro hwhole
    rw [← hsame]
    exact if_pos hwhole
  have hfinal := fun hbelow => runJob_staysBelow hspared hloaded hsnapshot hqueued hzero hdelivers
    hschedule hbelow hreserved books
  constructor
  · intro h
    have hbelow := hgranted.mpr ⟨h.granted, h.executed⟩
    have hresult := hfinal hbelow
    cases hsettle : settleCost d.clock hold.id (finishedJob s.job (jobCost before calls)) books with
    | error failure =>
      rw [hsettle] at hresult
      exact absurd h.succeeded hresult
    | ok answer =>
      have hwhole : (storedCost (jobCost before calls) : ℚ) = jobCost before calls :=
        congrArg BulkJob.actualCost (settleCost_ok hsettle).1
      rw [hgate hwhole] at hsettle
      exact ⟨hbelow, hwhole, (hsettles (hcost hbelow)).2.mp ⟨answer.1, answer.2, hsettle⟩⟩
  · rintro ⟨hbelow, hwhole, hchargeable⟩
    obtain ⟨hall, hiff⟩ := hsettles (hcost hbelow)
    obtain ⟨settled, after, hsettle⟩ := hiff.mpr hchargeable
    obtain ⟨hbegun, hexecuted⟩ := hgranted.mp hbelow
    have hresult := hfinal hbelow
    rw [hgate hwhole, hsettle] at hresult
    obtain ⟨session, hrun, hstate, hrunning, hevent⟩ := hresult
    rw [hsame] at hevent
    refine ⟨hbegun, hexecuted, ?_, ?_, settled, ?_⟩
    · rw [hrun]
      exact hstate
    · rw [hrun]
      exact hrunning
    · rw [hrun]
      show JobSettled price hold settled (terminalEvent session.job) books after
      rw [hevent]
      exact hall settled after hsettle

end Main

/-! ## A job of one row -/

section Sample

attribute [local instance] sampleHashes

/-- The policy of `samplePolicyRows` for other operations. -/
def samplePolicyOf (operations : List String) : BudgetPolicyRows where
  subscription := samplePolicyRows.subscription
  plans := [{
    id := 11, workspaceId := none, state := .active, policyHash := "plan", effectiveAt := 0
    retiredAt := none
    creditPolicy := [("job_budget_authorization", .object [ ("schema_version", .int 1),
      ("allowed_subscription_states", .list [.text "ACTIVE"]),
      ("hold_ttl_seconds", .int 60),
      ("operations", .object (operations.map fun operation => (operation, .object [
        ("enabled", .bool true), ("currency", .text "KRW"), ("maximum_cost", .int 50),
        ("metric_key", .text "tokens"),
        ("price_version_id", .text "00000000-0000-0000-0000-000000000007")])))])] }]
  entitlements := [{
    id := 12, planVersionId := 11, snapshotHash := "snapshot", validFrom := 0, validUntil := none
    entitlements := [("job_budget_operations", .object (operations.map fun operation =>
      (operation, .object [ ("enabled", .bool true), ("currency", .text "KRW"), ("maximum_cost", .int 40)]))),
      ("max_bulk_concurrency", .int 5), ("max_bulk_daily_rows", .int 100)] }]

def sampleCatalogue : BulkCatalogue where
  inputs := [(sampleBasis 1).input]
  mappings := [⟨3, sampleMapping⟩]
  templates := [⟨4, true⟩]
  campaigns := [⟨1, true, .ok (sampleBasis 1).spamPolicy⟩]

def sampleFunds : Books := run transact {} [ (contextAt 1, .createCreditAccount),
  (contextAt 2, .grantCredits {
    bucketKind := .monthly, amount := 100000000, amount_pos := hundred_million_pos, sourceType := "plan"
    sourceId := "1", expiresAt := none, reasonCode := "MONTHLY" })]

def sampleBulkRequest : BulkRequestEnv :=
  { sampleBulkEnv with policyRows := samplePolicyOf ["bulk.generate"] }

def sampleCreation (maximumCost : ℕ) (h : 10 ≤ maximumCost) : Except Failure (BulkJob × BulkStore) :=
  createNewJob sampleBulkReaders sampleCatalogue sampleBulkRequest (sampleBulkCreate maximumCost h)
    ⟨[], sampleFunds⟩

/-- The snapshot of the created job. -/
def sampleSnapshot (maximumCost : ℕ) (h : 10 ≤ maximumCost) : Except Failure BulkSession :=
  materializeInput (sampleFile 1) (sampleContent 1) { job := (sampleSession 1 maximumCost h).job }

def sampleAuthorization : ExecutorCall := .authorizeNextRow 20 1 10000000

def sampleRecording (cost : ℚ) : ExecutorCall := .recordRowAttempt 21 {} (plainFailure 1 cost)

/-- The executor records the only row at a cost, and marks the job. -/
def sampleDelivery (cost : ℚ) : JobDelivery SettlementClock where
  now := 20
  clock := ⟨contextAt 22, 22⟩
  file := some (sampleFile 1)
  content := .ok (sampleContent 1)
  knowledgeMaxUploadBytes := 1000
  executor := some { calls := [sampleAuthorization, sampleRecording cost], succeeds := true }

theorem delivers_sample (cost : ℚ) : Delivers (sampleDelivery cost) (sampleFile 1)
    (sampleContent 1) [sampleAuthorization, sampleRecording cost] :=
  ⟨rfl, rfl, (by decide : (1 ≤ 10 ∧ 10 ≤ 1000)), rfl⟩

/-- The estimate is within the limit, and the only row goes through the calls of the delivery. -/
def sampleTest (cost : ℚ) (s : BulkSession) : Bool := let session := startedSession 20 (refreshProgress s)
  let authorized := executorCall session sampleAuthorization
  let recorded := executorCall authorized (sampleRecording cost)
  decide (total (·.estimatedCost) s.rows ≤ s.job.effectiveMaximum) &&
    (session.rows.any fun row => row.id = 1 ∧ row.state = .ready ∧ 10000000 = row.estimatedCost) &&
    (authorized.rows.any fun row =>
      row.id = 1 ∧ row.state = .processing ∧ cost ≤ row.estimatedCost) &&
    recorded.rows.all fun row => row.state ∈ processedRowStates

theorem starts_sample {maximumCost : ℕ} {h : 10 ≤ maximumCost} {s : BulkSession} {cost : ℚ}
    (hsnapshot : sampleSnapshot maximumCost h = .ok s)
    (hestimates : total (·.estimatedCost) s.rows ≤ s.job.effectiveMaximum) (session : BulkSession) :
    Starts (sampleDelivery cost) s session ↔
      reachedMaximum s.job = false ∧ session = startedSession 20 (refreshProgress s) := by
  obtain ⟨hspared, hfrom, hqueued, -, hloaded, -⟩ := spared_materialized
    (created_sampleSession 1 maximumCost h) hsnapshot hestimates
  exact starts_iff hspared hloaded hfrom hqueued (delivers_sample cost)

theorem oneByOne_sample {maximumCost : ℕ} {h : 10 ≤ maximumCost} {s : BulkSession} {cost : ℚ}
    (hsnapshot : sampleSnapshot maximumCost h = .ok s) (hcost : 0 ≤ cost)
    (htest : sampleTest cost s = true) : total (·.estimatedCost) s.rows ≤ s.job.effectiveMaximum ∧
      OneByOne s (sampleDelivery cost) [] [sampleAuthorization, sampleRecording cost] := by
  simp only [sampleTest, Bool.and_eq_true, any_eq_true, all_eq_true, decide_eq_true_eq] at htest
  obtain ⟨⟨⟨hestimates, row, hrow, hid, hready, hestimate⟩, other, hother, hotherId, hprocessing,
    hle⟩, hclosed⟩ := htest
  have hstarts := @starts_sample maximumCost h s cost hsnapshot hestimates
  refine ⟨hestimates, trivial, fun session hstarted => ?_, fun session hstarted _ => ?_⟩
  · obtain ⟨-, rfl⟩ := (hstarts session).mp hstarted
    refine ⟨⟨row, hrow, hid, hready, hestimate⟩, fun _ => ⟨?_, fun _ => trivial⟩⟩
    exact ⟨other, hother, hotherId, hprocessing, hle, _, _, _, accepted_plainFailure {} _ 1 hcost⟩
  · obtain ⟨-, rfl⟩ := (hstarts session).mp hstarted
    exact hclosed

/-- The hold of the creation is live, priced by the version 7, and no event was settled yet. -/
def freshCreation (maximumCost : ℕ) (h : 10 ≤ maximumCost) (answer : BulkJob × BulkStore) : Bool :=
  answer.1 = (sampleSession 1 maximumCost h).job &&
    (answer.2.books.holds.all fun row =>
      row.priceVersionId = 7 ∧ row.finalizationEventId = none) &&
    (answer.2.books.holds.any fun row => row.id = 1000 ∧ row.state = .held) &&
    answer.2.books.entries.all fun entry => entry.id < 2000 ∧
      entry.idempotencyKey ≠ "finalize:bulk-job:100:SUCCEEDED:consume" ∧
      entry.idempotencyKey ≠ "finalize:bulk-job:100:SUCCEEDED:release"

/-- The delivery starts, and recording the only row at this cost stays below the limit. -/
def sampleBelow (cost : ℚ) (s : BulkSession) : Bool :=
  let authorized := executorCall (startedSession 20 (refreshProgress s)) sampleAuthorization
  !reachedMaximum s.job && authorized.rows.all fun row =>
    authorized.job.actualCost + cost + (authorized.job.heldCost - row.estimatedCost) <
      authorized.job.effectiveMaximum

theorem killSwitch_spares_sample :
    ∃ job placed hold price s, sampleCreation 20 (by decide) = .ok (job, placed) ∧
      hold ∈ placed.books.holds ∧ sampleSnapshot 20 (by decide) = .ok s ∧
      SparedJob s (sampleDelivery 4000000) [] [sampleAuthorization, sampleRecording 4000000]
        price hold ⟨placed.books, []⟩ := by
  obtain ⟨⟨job, placed⟩, hcreate, htest⟩ := ok_of_test
    (x := sampleCreation 20 (by decide)) (fun answer => freshCreation 20 (by decide) answer &&
      answer.2.books.holds.all fun row => 4000000 ≤ row.maximumAmount ∧
        numericFits (availableBalance answer.2.books + (row.maximumAmount - 4000000)) = true)
    (by decide +kernel)
  simp only [freshCreation, Bool.and_eq_true, any_eq_true, all_eq_true, decide_eq_true_eq] at htest
  obtain ⟨⟨⟨⟨hjob, hholds⟩, hold, hhold, hid, hheld⟩, hentries⟩, hcovers⟩ := htest
  obtain ⟨s, hsnapshot, htest⟩ := ok_of_test (x := sampleSnapshot 20 (by decide))
    (fun s => sampleTest 4000000 s && sampleBelow 4000000 s) (by decide +kernel)
  obtain ⟨price, hprice, hunit, hmeters, hcredits⟩ : ∃ price,
      (contextAt 22).prices.find? (·.id = 7) = some price ∧ 0 < price.unitSize ∧
        Meters price 22 4000000 ∧ actualCredits price 4000000 = .ok 4000000 := by
    refine ⟨_, rfl, by decide, ⟨by simp, by decide, by decide, ?_⟩, by decide +kernel⟩
    exact ok_of_test (fun units => numericFits (storedNumeric (internalCost _ units))) (by decide +kernel)
  rw [Bool.and_eq_true] at htest
  obtain ⟨htest, hbelow⟩ := htest
  have hversion := (hholds hold hhold).1
  have hnone : sampleFunds.holds = [] := by decide +kernel
  have hreach : Reachable transact emptyBooks sampleFunds := ⟨{}, _, by simp [emptyBooks], rfl⟩
  obtain ⟨hestimates, hschedule⟩ := oneByOne_sample hsnapshot (by decide) htest
  have hcost : jobCost [] [sampleAuthorization, sampleRecording 4000000] = 4000000 := by decide +kernel
  have hstored : storedCost 4000000 = 4000000 := by decide +kernel
  have hnew : NewEvent (contextAt 22)
      (successEvent job (jobCost [] [sampleAuthorization, sampleRecording 4000000]))
      ⟨placed.books, []⟩ := by
    rw [hjob, hcost]
    refine ⟨by decide, by decide, by decide, by decide, rfl, by simp, by simp, ?_, ?_, ?_, ?_, ?_, by decide⟩
    · intro row hrow
      rw [(hholds row hrow).2]
      simp
    · exact fun entry hentry => (hentries entry hentry).2.1
    · exact fun entry hentry => (hentries entry hentry).2.2
    · exact fun entry hentry => ((hentries entry hentry).1.trans (by decide)).ne
    · exact fun entry hentry => ((hentries entry hentry).1.trans (by decide)).ne
  refine ⟨job, placed, hold, price, s, hcreate, hhold, hsnapshot, ?_⟩
  refine (killSwitch_spares_iff hreach hcreate hhold ?_ ?_ (hversion ▸ hprice) hunit (hjob ▸ hsnapshot)
    hestimates [] rfl hhold rfl hheld rfl (hversion ▸ hprice) (by decide) hnew
    (delivers_sample 4000000) hschedule).1.mpr ⟨?_, ?_⟩
  · rw [hjob, hid]
    rfl
  · simp [hnone]
  · simp only [sampleBelow, Bool.and_eq_true, Bool.not_eq_true', all_eq_true, decide_eq_true_eq] at hbelow
    refine ⟨trivial, hbelow.1, fun session hstarts => ?_⟩
    obtain ⟨-, rfl⟩ := (starts_sample hsnapshot hestimates session).mp hstarts
    exact ⟨trivial, fun row hrow _ => hbelow.2 row hrow, trivial⟩
  · rw [hcost]
    refine ⟨by rw [hstored]; rfl, ?_⟩
    rw [hstored]
    exact ⟨fun _ => hmeters, _, hcredits, hcovers hold hhold⟩

/-- The only row costs its estimate, which is the maximum of the job: its recording stops the job,
and the delivery leaves the hold of the job live. -/
theorem maximum_reached_stops : ∃ job placed hold s, sampleCreation 10 (by decide) = .ok (job, placed) ∧
      hold ∈ placed.books.holds ∧ hold.state = .held ∧ job.budgetReservationRef = some hold.id ∧
      sampleSnapshot 10 (by decide) = .ok s ∧
      total (·.estimatedCost) s.rows ≤ s.job.effectiveMaximum ∧
      Delivers (sampleDelivery 10000000) (sampleFile 1) (sampleContent 1)
        [sampleAuthorization, sampleRecording 10000000] ∧
      OneByOne s (sampleDelivery 10000000) [] [sampleAuthorization, sampleRecording 10000000] ∧
      Stopped (runJob settleTerminal (sampleDelivery 10000000) ⟨s, ⟨placed.books, []⟩⟩).session ∧
      (runJob settleTerminal (sampleDelivery 10000000) ⟨s, ⟨placed.books, []⟩⟩).books = ⟨placed.books, []⟩ ∧
      ∀ price, ¬ SparedJob s (sampleDelivery 10000000) []
        [sampleAuthorization, sampleRecording 10000000] price hold ⟨placed.books, []⟩ := by
  obtain ⟨⟨job, placed⟩, hcreate, htest⟩ := ok_of_test
    (x := sampleCreation 10 (by decide)) (freshCreation 10 (by decide)) (by decide +kernel)
  simp only [freshCreation, Bool.and_eq_true, any_eq_true, all_eq_true, decide_eq_true_eq] at htest
  obtain ⟨⟨⟨hjob, -⟩, hold, hhold, hid, hheld⟩, -⟩ := htest
  obtain ⟨s, hsnapshot, htest⟩ := ok_of_test (x := sampleSnapshot 10 (by decide))
    (fun s => sampleTest 10000000 s && (reachedMaximum s.job == false) &&
      (executorCall (executorCall (startedSession 20 (refreshProgress s)) sampleAuthorization)
        (sampleRecording 10000000)).job.budgetKillSwitchTriggered) (by decide +kernel)
  rw [Bool.and_eq_true, Bool.and_eq_true, beq_iff_eq] at htest
  obtain ⟨⟨htest, hunreached⟩, hkilled⟩ := htest
  obtain ⟨hestimates, hschedule⟩ := oneByOne_sample hsnapshot (by decide) htest
  obtain ⟨hspared, hfrom, hqueued, -, hloaded, -⟩ := spared_materialized
    (created_sampleSession 1 10 (by decide)) hsnapshot hestimates
  obtain ⟨hstopped, hbooks⟩ := runJob_stopped hspared hloaded hfrom hqueued (delivers_sample 10000000)
    hunreached hkilled ⟨placed.books, []⟩
  refine ⟨job, placed, hold, s, hcreate, hhold, hheld, ?_, hsnapshot, hestimates,
    delivers_sample 10000000, hschedule, hstopped, hbooks, fun price hspares => ?_⟩
  · rw [hjob, hid]
    rfl
  · have hrunning : (runJob settleTerminal (sampleDelivery 10000000)
        ⟨s, ⟨placed.books, []⟩⟩).session.job.budgetKillSwitchTriggered = false := hspares.running
    rw [show (runJob settleTerminal (sampleDelivery 10000000)
      ⟨s, ⟨placed.books, []⟩⟩).session.job.budgetKillSwitchTriggered = true from hstopped] at hrunning
    cases hrunning

end Sample

end BlogOps.Bulk
