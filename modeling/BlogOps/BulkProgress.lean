import BlogOps.BulkWorker

/-!
# The progress counters of a bulk job

The counters are recomputed by a SELECT that sees the rows as last flushed.
They are the counts of the committed rows after every transaction but those
that move rows without a flush before the SELECT, or without a SELECT.
-/

namespace BlogOps.Bulk

open Jobs KeyedTables TransitionRuns List

theorem countStates_map (states : List BulkRowState) (change : BulkRow → BulkRow)
    (rows : List BulkRow) : countStates states (rows.map change) =
      rows.countP fun row => (change row).state ∈ states := by
  unfold countStates
  rw [countP_map]
  rfl

/-- The counts do not look at the costs. -/
theorem progressOf_committed (s : BulkSession) : progressOf (committed s).rows = progressOf s.rows := by
  unfold progressOf committed
  simp only [countStates_map]
  rfl

/-- A set of rows that gains a member and loses none has a larger count. -/
theorem countP_lt {p q : BulkRow → Bool} {rows : List BulkRow}
    (himp : ∀ row ∈ rows, p row = true → q row = true) {row : BulkRow} (hrow : row ∈ rows)
    (hp : p row = false) (hq : q row = true) : rows.countP p < rows.countP q := by
  induction rows with
  | nil => exact absurd hrow not_mem_nil
  | cons head rows ih =>
    have htail : ∀ other ∈ rows, p other = true → q other = true :=
      fun other hother => himp other (mem_cons_of_mem _ hother)
    have hle : rows.countP p ≤ rows.countP q := countP_mono_left htail
    rw [countP_cons, countP_cons]
    rcases mem_cons.mp hrow with rfl | hrow
    · simp only [hp, hq, Bool.false_eq_true, ↓reduceIte]
      omega
    · have hlt := ih htail hrow
      have hhead := himp head mem_cons_self
      cases hpHead : p head with
      | false =>
        simp only [Bool.false_eq_true, ↓reduceIte]
        omega
      | true =>
        simp only [hhead hpHead, ↓reduceIte]
        omega

section

variable {states : List BulkRowState} {rows : List BulkRow} {row : BulkRow}

theorem countStates_lt_of_leaves {change : BulkRow → BulkRow}
    (hstays : ∀ row ∈ rows, (change row).state ∈ states → row.state ∈ states) (hrow : row ∈ rows)
    (hwas : row.state ∈ states) (hleaves : (change row).state ∉ states) :
    countStates states (rows.map change) < countStates states rows := by
  rw [countStates_map]
  apply countP_lt _ hrow
  · simpa using hleaves
  · simpa using hwas
  · intro other hother
    simpa using hstays other hother

theorem countStates_lt_of_enters {change : BulkRow → BulkRow}
    (hstays : ∀ row ∈ rows, row.state ∈ states → (change row).state ∈ states) (hrow : row ∈ rows)
    (hwas : row.state ∉ states) (henters : (change row).state ∈ states) :
    countStates states rows < countStates states (rows.map change) := by
  rw [countStates_map]
  apply countP_lt _ hrow
  · simpa using hwas
  · simpa using henters
  · intro other hother
    simpa using hstays other hother

theorem countStates_setRow (hkeyed : Keyed (·.id) rows) {new : BulkRow} (hrow : row ∈ rows)
    (hid : new.id = row.id) (hsame : new.state ∈ states ↔ row.state ∈ states) :
    countStates states (updateRow (·.id) new.id (fun _ => new) rows) =
      countStates states rows := by
  unfold updateRow
  rw [countStates_map]
  unfold countStates
  apply countP_congr
  intro other hother
  by_cases hkey : other.id = new.id
  · have hother : other = row := hkeyed.eq_of_key_eq hother hrow (hkey.trans hid)
    simp only [hkey, ↓reduceIte, decide_eq_true_eq]
    rw [hother]
    exact hsame
  · simp only [hkey, ↓reduceIte]

end

/-- The counters are the counts of the rows, also as a SELECT would find them. -/
structure Recounted (s : BulkSession) : Prop where
  keyed : Keyed (·.id) s.rows
  counts : s.job.counts = progressOf s.rows
  stored : progressOf s.stored = progressOf s.rows

section

variable {s : BulkSession}

theorem Recounted.of_same {after : BulkSession} (h : Recounted s) (hrows : after.rows = s.rows)
    (hcounts : after.job.counts = s.job.counts)
    (hstored : after.stored = s.stored ∨ after.stored = s.rows) : Recounted after := by
  refine ⟨hrows ▸ h.keyed, ?_, ?_⟩
  · rw [hcounts, hrows]
    exact h.counts
  · rw [hrows]
    rcases hstored with hstored | hstored
    · rw [hstored]
      exact h.stored
    · rw [hstored]

/-- A flush before the SELECT makes the counters true, whatever they were. -/
theorem recounted_refresh (hkeyed : Keyed (·.id) s.rows) :
    Recounted (refreshProgress (flush s)) := ⟨hkeyed, rfl, rfl⟩

theorem keyed_changeRows (hkeyed : Keyed (·.id) s.rows) (rowIds : List Uuid) {change : BulkRow → BulkRow}
    (hid : ∀ row, (change row).id = row.id) : Keyed (·.id) (changeRows rowIds change s).rows := by
  have hids : (changeRows rowIds change s).rows.map (·.id) = s.rows.map (·.id) := by
    unfold changeRows
    rw [map_map]
    apply map_congr_left
    intro row _
    simp only [Function.comp_apply]
    split
    · exact hid row
    · rfl
  unfold Keyed
  rw [hids]
  exact hkeyed

theorem recounted_authorize {now : Int} {rowId : Uuid} {cost : Int} {after : BulkSession}
    {allowed : Bool} (h : Recounted s)
    (hauthorize : authorizeNextRow now rowId cost s = .ok (allowed, after)) : Recounted after := by
  cases authorizeNextRow_ok hauthorize with
  | denied => exact h
  | stopped reason _ _ => exact h.of_same rfl rfl (.inl rfl)
  | granted row hgrants =>
    have hprogress : progressOf (setRow { row with state := .processing } s).rows =
        progressOf s.rows := by
      have hcount : ∀ states : List BulkRowState, .processing ∉ states → .ready ∉ states →
          .queued ∉ states → countStates states (setRow { row with state := .processing } s).rows =
            countStates states s.rows := by
        intro states hprocessing hready hqueued
        have hid : ({ row with state := .processing } : BulkRow).id = row.id := rfl
        apply countStates_setRow h.keyed hgrants.stored hid
        apply iff_of_false hprocessing
        rcases hgrants.waiting with hstate | hstate <;> rw [hstate] <;> assumption
      unfold progressOf
      simp only [ProgressCounts.mk.injEq]
      refine ⟨?_, ?_, ?_, ?_, ?_⟩ <;> apply hcount <;> decide
    refine ⟨h.keyed.updateRow fun other hother => hother.symm, ?_, ?_⟩
    · exact h.counts.trans hprogress.symm
    · exact h.stored.trans hprogress.symm

theorem recounted_record {now : Int} {reviews : Reviews} {a : RowAttempt} {after : BulkSession}
    (h : Recounted s) (hrecord : recordRowAttempt now reviews a s = .ok after) : Recounted after := by
  obtain ⟨row, quality, approval, outcome, hrow, -, -, -, -, rfl⟩ := recordRowAttempt_ok hrecord
  apply recounted_refresh
  exact h.keyed.updateRow fun other hother => hother.symm

theorem recounted_execute (h : Recounted s) (run : ExecutorRun) : Recounted (execute run s) := by
  have hcalls : ∀ calls : List ExecutorCall, Recounted (calls.foldl executorCall s) := by
    intro calls
    induction calls using List.reverseRecOn with
    | nil => exact h
    | append_singleton calls call ih =>
      rw [foldl_append]
      simp only [foldl_cons, foldl_nil]
      cases call with
      | authorizeNextRow now rowId cost =>
        unfold executorCall
        simp only
        split
        · exact recounted_authorize ih ‹_›
        · exact ih
      | recordRowAttempt now reviews attempt =>
        unfold executorCall
        simp only
        split
        · exact recounted_record ih ‹_›
        · exact ih
  have hflushed : Recounted (executeCalls s run.calls) := (hcalls run.calls).of_same rfl rfl (.inr rfl)
  unfold execute
  simp only
  split
  · exact hflushed.of_same rfl rfl (.inl rfl)
  · exact hflushed

end

/-- A cancelled job has rows left that wait for the executor. -/
def CancelsWaiting (s : BulkSession) : Prop :=
  s.job.state = .cancelRequested ∧ ∃ row ∈ s.rows, row.state ∈ waitingRowStates

/-- A failure ends the job while a row is open. -/
def FailsOpen (s : BulkSession) : Prop :=
  s.job.state ∈ failableStates ∧ ∃ row ∈ s.rows, row.state ∈ openRowStates

section

variable {states : List BulkRowState} {s : BulkSession} (hstored : s.stored = s.rows)

include hstored

theorem mem_selectRows {row : BulkRow} (hrow : row ∈ s.rows) (hstate : row.state ∈ states) :
    row.id ∈ selectRows states s := by
  unfold selectRows
  rw [hstored]
  exact mem_map_of_mem (mem_filter.mpr ⟨hrow, by simpa using hstate⟩)

theorem selectRows_nil (hnone : ¬ ∃ row ∈ s.rows, row.state ∈ states) : selectRows states s = [] := by
  unfold selectRows
  rw [hstored, map_eq_nil_iff, filter_eq_nil_iff]
  intro row hrow hstate
  exact hnone ⟨row, hrow, by simpa using hstate⟩

end

theorem changeRows_nil (change : BulkRow → BulkRow) (s : BulkSession) : changeRows [] change s = s := by
  simp [changeRows]

/-- A cancellation counts the rows as they were before it closed them. -/
theorem recounted_cancel_iff {s : BulkSession} (h : Recounted s) (hstored : s.stored = s.rows)
    (now : Int) : (cancelledSession now s).job.counts = progressOf (cancelledSession now s).rows ↔
      ¬ ∃ row ∈ s.rows, row.state ∈ waitingRowStates := by
  have hcounts : (cancelledSession now s).job.counts = progressOf s.stored := rfl
  rw [hcounts, h.stored]
  constructor
  · rintro hsame ⟨row, hrow, hstate⟩
    have hcancelled : countStates [.cancelled] s.rows =
        countStates [.cancelled] (cancelledSession now s).rows :=
      congrArg ProgressCounts.cancelledRows hsame
    have hlt : countStates [.cancelled] s.rows <
        countStates [.cancelled] (cancelledSession now s).rows := by
      apply countStates_lt_of_enters _ hrow
      · simp only [waitingRowStates, mem_cons, not_mem_nil, or_false] at hstate
        rcases hstate with hstate | hstate | hstate <;> simp [hstate]
      · have hid : row.id ∈ selectRows waitingRowStates
            { s with job := { s.job with state := .cancelled, finishedAt := some now } } :=
          mem_selectRows hstored hrow hstate
        simp only [selectRows] at hid
        simp [selectRows, hid]
      · intro other _ hother
        split <;> simp_all
    omega
  · intro hnone
    have hrows : (cancelledSession now s).rows = s.rows := by
      unfold cancelledSession
      rw [selectRows_nil hstored hnone, changeRows_nil]
      rfl
    rw [hrows]

theorem recounted_fail_iff {s : BulkSession} (h : Recounted s) (hstored : s.stored = s.rows) (now : Int)
    (code detail : String) : (failedSession now code detail s).job.counts =
        progressOf (failedSession now code detail s).rows ↔
      ¬ ∃ row ∈ s.rows, row.state ∈ openRowStates := by
  have hcounts : (failedSession now code detail s).job.counts = progressOf s.stored := rfl
  rw [hcounts, h.stored]
  constructor
  · rintro hsame ⟨row, hrow, hstate⟩
    have hfailed : countStates [.invalid, .retryableFailed, .finalFailed] s.rows =
        countStates [.invalid, .retryableFailed, .finalFailed]
          (failedSession now code detail s).rows :=
      congrArg ProgressCounts.failedRows hsame
    have hlt : countStates [.invalid, .retryableFailed, .finalFailed] s.rows <
        countStates [.invalid, .retryableFailed, .finalFailed]
          (failedSession now code detail s).rows := by
      apply countStates_lt_of_enters _ hrow
      · simp only [openRowStates, mem_cons, not_mem_nil, or_false] at hstate
        rcases hstate with hstate | hstate | hstate | hstate <;> simp [hstate]
      · have hid : row.id ∈ selectRows openRowStates s := mem_selectRows hstored hrow hstate
        simp [hid, failedRow]
      · intro other _ hother
        split
        · simp [failedRow]
        · exact hother
    omega
  · intro hnone
    have hrows : (failedSession now code detail s).rows = s.rows := by
      unfold failedSession
      rw [selectRows_nil hstored hnone, changeRows_nil]
      rfl
    rw [hrows]

/-- What the executor is given and leaves: rows that are still open when the job is failed. -/
def LeavesOpen (session : BulkSession) : Option ExecutorRun → Prop
  | none => FailsOpen session
  | some run => (execute run session).job.pauseRequested = false ∧
      (execute run session).job.budgetKillSwitchTriggered = false ∧
      (execute run session).job.state = .validating ∧ FailsOpen (execute run session)

section Transactions

variable {β γ : Type} {settle : γ → BulkJob → β → Except Failure β}

/-- The transactions after which the counters lag: an accepted retry that is not a replay, and
a committed cancellation or failure of a job with rows that it still has to close. -/
def Outdates (settle : γ → BulkJob → β → Except Failure β) (w : BulkWorld β) : BulkAction γ → Prop
  | .call (.retryRows principal data regenerate) =>
    recordedCommand principal.subjectId (retryKind regenerate) data.idempotencyKey w.session =
        none ∧ ∃ after, retryRows principal data regenerate w.session = .ok after
  | .call _ => False
  | .process now c executor => (∃ after, processJob settle now c executor w = .ok after) ∧
      (CancelsWaiting w.session ∨
        ∃ session, prepareJob now w.session = .ok (true, session) ∧ LeavesOpen session executor)
  | .persistFailure now c code => (∃ after, persistFailure settle now c code w = .ok after) ∧
      FailsOpen w.session

/-- The counters are the counts of the committed rows. -/
def Counted (w : BulkWorld β) : Prop := w.session.job.counts = progressOf w.session.rows

structure CommittedCounts (w : BulkWorld β) : Prop where
  recounted : Recounted w.session
  flushed : w.session.stored = w.session.rows

end Transactions

section

variable {now : Int} {s after : BulkSession}

theorem keyed_failJob {code detail : String} (hkeyed : Keyed (·.id) s.rows)
    (h : failJob now code detail s = .ok after) : Keyed (·.id) after.rows := by
  rw [failJob_eq] at h
  cases h
  split
  · exact hkeyed
  · split
    · exact keyed_changeRows (s := { s with job := { s.job with
        state := .finalFailed
        errorCode := some code
        errorDetail := some detail
        finishedAt := some now } }) hkeyed _ fun row => rfl
    · exact hkeyed

/-- A failure keeps true counters unless it closes rows. -/
theorem counted_failJob_iff {code detail : String} (hs : Recounted s) (hstored : s.stored = s.rows)
    (h : failJob now code detail s = .ok after) :
    after.job.counts = progressOf after.rows ↔ ¬ FailsOpen s := by
  rw [failJob_eq] at h
  cases h
  by_cases hterminal : s.job.state ∈ terminalJobStates
  · rw [if_pos hterminal]
    apply iff_of_true hs.counts
    rintro ⟨hstate, -⟩
    simp only [terminalJobStates, failableStates, mem_cons, not_mem_nil, or_false]
      at hterminal hstate
    rcases hstate with hstate | hstate | hstate <;> rw [hstate] at hterminal <;> simp at hterminal
  rw [if_neg hterminal]
  by_cases hstate : s.job.state ∈ failableStates
  · rw [if_pos hstate, recounted_fail_iff hs hstored]
    exact not_congr (and_iff_right hstate).symm
  · rw [if_neg hstate]
    exact iff_of_true hs.counts fun hfails => hstate hfails.1

/-- Preparing a job keeps true counters unless it cancels rows. -/
theorem counted_preparation_iff {ready : Bool} (hs : Recounted s) (hstored : s.stored = s.rows)
    (h : Preparation now s ready after) : after.job.counts = progressOf after.rows ↔ ¬ CancelsWaiting s := by
  have hkept : ∀ job : BulkJob, job.counts = s.job.counts → s.job.state ≠ .cancelRequested →
      (job.counts = progressOf s.rows ↔ ¬ CancelsWaiting s) := by
    intro job hcounts hstate
    apply iff_of_true (hcounts.trans hs.counts)
    exact fun hcancels => hstate hcancels.1
  cases h with
  | unchanged hasked _ => exact hkept s.job rfl hasked
  | cancelled hstate =>
    rw [recounted_cancel_iff hs hstored]
    exact not_congr (and_iff_right hstate).symm
  | stopped job hasked _ _ hmoney => exact hkept job hmoney.counts hasked
  | waiting job hasked _ hmoney => exact hkept job hmoney.counts hasked
  | ready job hasked _ _ hmoney => exact hkept job hmoney.counts hasked

theorem keyed_preparation {ready : Bool} (hkeyed : Keyed (·.id) s.rows)
    (h : Preparation now s ready after) : Keyed (·.id) after.rows := by
  cases h with
  | cancelled _ => exact keyed_changeRows (s := { s with
      job := { s.job with state := .cancelled, finishedAt := some now } }) hkeyed _ fun row => rfl
  | _ => exact hkeyed

/-- A job that the executor may run is as it was, but for its state. -/
theorem ready_preparation (hs : Recounted s) (hstored : s.stored = s.rows)
    (h : Preparation now s true after) :
    Recounted after ∧ after.stored = after.rows ∧ after.job.state ≠ .cancelRequested ∧
      s.job.state ≠ .cancelRequested := by
  cases h with
  | ready job hasked _ huncancelled hmoney =>
    exact ⟨hs.of_same rfl hmoney.counts (.inl rfl), hstored, huncancelled, hasked⟩

end

section Transactions

variable {β γ : Type} {settle : γ → BulkJob → β → Except Failure β}

theorem execute_flushed (run : ExecutorRun) (s : BulkSession) :
    (execute run s).stored = (execute run s).rows := by
  unfold execute
  simp only
  split <;> rfl

section

variable {now : Int} {c : γ} {executor : Option ExecutorRun} {after : BulkWorld β}

/-- After the executor, the counters lag exactly when the job is failed with open rows. -/
theorem counted_executeJob_iff {session : BulkSession} {books : β} (hs : Recounted session)
    (hstored : session.stored = session.rows) (hasked : session.job.state ≠ .cancelRequested)
    (h : executeJob settle now c executor session books = .ok after) :
    (after.session.job.counts = progressOf after.session.rows ↔ ¬ LeavesOpen session executor) ∧
      Keyed (·.id) after.session.rows := by
  unfold executeJob at h
  cases executor with
  | none =>
    obtain ⟨failed, hfailed, h⟩ := bind_ok h
    obtain ⟨hsession, -⟩ := settled_ok h
    rw [hsession]
    exact ⟨counted_failJob_iff hs hstored hfailed, keyed_failJob hs.keyed hfailed⟩
  | some run =>
    simp only at h
    split at h
    · cases h
    have hrun := recounted_execute hs run
    have hflushed := execute_flushed run session
    have hstate := execute_state run session
    generalize hresult : execute run session = result at h hrun hflushed hstate
    have huncancelled : result.job.state ≠ .cancelRequested := by
      rw [hstate]
      split
      · decide
      · exact hasked
    unfold finishJob at h
    rw [if_neg huncancelled] at h
    simp only [LeavesOpen, hresult]
    by_cases hpaused : result.job.pauseRequested ∨ result.job.budgetKillSwitchTriggered
    · rw [if_pos hpaused] at h
      cases h
      refine ⟨iff_of_true hrun.counts ?_, hrun.keyed⟩
      rintro ⟨hpause, hkill, -⟩
      simp [hpause, hkill] at hpaused
    rw [if_neg hpaused] at h
    rw [not_or, Bool.not_eq_true, Bool.not_eq_true] at hpaused
    by_cases hvalidating : result.job.state = .validating
    · rw [if_pos hvalidating] at h
      obtain ⟨failed, hfailed, h⟩ := bind_ok h
      obtain ⟨hsession, -⟩ := settled_ok h
      rw [hsession, counted_failJob_iff hrun hflushed hfailed]
      refine ⟨?_, keyed_failJob hrun.keyed hfailed⟩
      simp [hpaused.1, hpaused.2, hvalidating]
    · rw [if_neg hvalidating] at h
      obtain ⟨hsession, -⟩ := settled_ok h
      rw [hsession]
      refine ⟨iff_of_true hrun.counts ?_, hrun.keyed⟩
      exact fun hopen => hvalidating hopen.2.2.1

theorem counted_processJob_iff {w : BulkWorld β} (hs : Recounted w.session)
    (hstored : w.session.stored = w.session.rows) (h : processJob settle now c executor w = .ok after) :
    (after.session.job.counts = progressOf after.session.rows ↔
      ¬ (CancelsWaiting w.session ∨ ∃ session, prepareJob now w.session = .ok (true, session) ∧
        LeavesOpen session executor)) ∧ Keyed (·.id) after.session.rows := by
  obtain ⟨ready, session, hprepare, hpreparation⟩ := prepareJob_spec now w.session
  unfold processJob at h
  rw [bind_of_ok hprepare] at h
  cases ready with
  | true =>
    obtain ⟨hsession, hflushed, huncancelled, hasked⟩ := ready_preparation hs hstored hpreparation
    obtain ⟨hcounted, hkeyed⟩ := counted_executeJob_iff hsession hflushed huncancelled h
    refine ⟨hcounted.trans (not_congr ?_), hkeyed⟩
    constructor
    · exact fun hopen => .inr ⟨session, hprepare, hopen⟩
    · rintro (hcancels | ⟨other, hother, hopen⟩)
      · exact absurd hcancels.1 hasked
      · rw [hprepare] at hother
        cases hother
        exact hopen
  | false =>
    obtain ⟨hsession, -⟩ := settled_ok h
    rw [hsession, counted_preparation_iff hs hstored hpreparation]
    refine ⟨not_congr ?_, keyed_preparation hs.keyed hpreparation⟩
    constructor
    · exact .inl
    · rintro (hcancels | ⟨other, hother, -⟩)
      · exact hcancels
      · rw [hprepare] at hother
        cases hother

end

variable [BulkHashes]

variable (settle) in
/-- A call leaves the counters true unless it is an accepted new retry. -/
theorem counted_call_iff {call : BulkCall} {w : BulkWorld β} {after : BulkSession} (hs : Recounted w.session)
    (h : callSession call w.session = .ok after) : (after.job.counts = progressOf after.rows ↔
      ¬ Outdates settle w (.call call)) ∧ Keyed (·.id) after.rows := by
  have hkept : Recounted after →
      (after.job.counts = progressOf after.rows ↔ ¬ False) ∧ Keyed (·.id) after.rows :=
    fun hrecounted => ⟨iff_of_true hrecounted.counts id, hrecounted.keyed⟩
  cases call with
  | materialize file content =>
    apply hkept
    rcases materializeCsvSnapshot_appends h with rfl | ⟨rows, created, hmaterialized, rfl⟩
    · exact hs
    · exact recounted_refresh hmaterialized.keyed
  | authorizeNextRow now rowId cost =>
    obtain ⟨⟨allowed, session⟩, hsession, rfl⟩ := map_ok h
    exact hkept (recounted_authorize hs hsession)
  | recordRowAttempt now reviews attempt => exact hkept (recounted_record hs h)
  | retryRows principal data regenerate =>
    have hsession : retryRows principal data regenerate w.session = .ok after := h
    simp only [Outdates]
    cases hrecorded : recordedCommand principal.subjectId (retryKind regenerate)
        data.idempotencyKey w.session with
    | some existing =>
      rw [retryRows_repeated hrecorded hsession]
      exact ⟨iff_of_true hs.counts (by simp), hs.keyed⟩
    | none =>
      have hretries := retryRows_new hrecorded hsession
      rw [hretries.result]
      refine ⟨iff_of_false ?_ (by simpa using ⟨after, hsession⟩), ?_⟩
      · intro hsame
        have hcounts : progressOf w.session.rows =
            progressOf (changeRows data.rowIds (retriedRow regenerate) w.session).rows :=
          hs.counts.symm.trans hsame
        have hprocessed : countStates processedRowStates w.session.rows = countStates
            processedRowStates (changeRows data.rowIds (retriedRow regenerate) w.session).rows :=
          congrArg ProgressCounts.processedRows hcounts
        -- a retry names a row, which was processed and is queued now
        obtain ⟨row, hrow⟩ : ∃ row, row ∈ rowsOf data.rowIds w.session := by
          apply exists_mem_of_ne_nil
          intro hnone
          have hfound := hretries.found
          rw [hnone] at hfound
          exact data.row_ids_nonempty (length_eq_zero_iff.mp hfound.symm)
        obtain ⟨hmem, hid⟩ := mem_rowsOf.mp hrow
        have hstate := (hretries.rows row hrow).state
        have hlt : countStates processedRowStates
            (changeRows data.rowIds (retriedRow regenerate) w.session).rows <
              countStates processedRowStates w.session.rows := by
          apply countStates_lt_of_leaves _ hmem
          · simp only [retryableRowStates, mem_cons, not_mem_nil, or_false] at hstate
            rcases hstate with hstate | hstate <;> simp [hstate, processedRowStates]
          · rw [if_pos hid, (retriedRow_fields regenerate row).2.2.2.1]
            decide
          · intro other _ hother
            split at hother
            · rw [(retriedRow_fields regenerate other).2.2.2.1] at hother
              simp [processedRowStates] at hother
            · exact hother
        omega
      · exact keyed_changeRows hs.keyed _ fun row => (retriedRow_fields regenerate row).1
  | approveRows now principal reviews data =>
    apply hkept
    rcases approveRows_ok h with rfl | ⟨-, rfl⟩
    · exact hs
    · apply recounted_refresh
      exact keyed_changeRows hs.keyed _ fun row => rfl
  | pauseJob now principal data =>
    have hcommand := (pauseJob_ok h).1
    exact hkept (hs.of_same hcommand.rows hcommand.counts hcommand.stored)
  | resumeJob principal data =>
    have hcommand := (resumeJob_ok h).1
    exact hkept (hs.of_same hcommand.rows hcommand.counts hcommand.stored)
  | cancelJob now principal data =>
    have hcommand := (cancelJob_ok h).1
    exact hkept (hs.of_same hcommand.rows hcommand.counts hcommand.stored)

/-- One transaction: the counters stay true exactly when it is none of those. -/
theorem counted_transactJob {w : BulkWorld β} (h : CommittedCounts w) (action : BulkAction γ) :
    (Counted (transactJob settle w action) ↔ ¬ Outdates settle w action) ∧
      Keyed (·.id) (transactJob settle w action).session.rows ∧
      (transactJob settle w action).session.stored =
        (transactJob settle w action).session.rows := by
  have hrefused : ∀ failure : Failure, ¬ Outdates settle w action →
      (Counted (commit w (.error failure)) ↔ ¬ Outdates settle w action) ∧
      Keyed (·.id) (commit w (.error failure)).session.rows ∧
      (commit w (.error failure)).session.stored = (commit w (.error failure)).session.rows :=
    fun failure hnot => ⟨iff_of_true h.recounted.counts hnot, h.recounted.keyed, h.flushed⟩
  have hcommitted : ∀ after : BulkWorld β, Counted (commit w (.ok after)) ↔
      after.session.job.counts = progressOf after.session.rows := by
    intro after
    unfold Counted commit
    rw [progressOf_committed]
    rfl
  cases action with
  | call call =>
    rw [show transactJob settle w (.call call) =
      commit w ((callSession call w.session).map (BulkWorld.mk · w.books)) from rfl]
    cases hsession : callSession call w.session with
    | ok after =>
      obtain ⟨hcounted, hkeyed⟩ := counted_call_iff settle h.recounted hsession
      exact ⟨(hcommitted ⟨after, w.books⟩).trans hcounted, keyed_committed hkeyed, rfl⟩
    | error failure =>
      apply hrefused
      cases call with
      | retryRows principal data regenerate =>
        rintro ⟨-, after, hafter⟩
        cases hafter.symm.trans hsession
      | _ => exact id
  | process now c executor =>
    rw [show transactJob settle w (.process now c executor) =
      commit w (processJob settle now c executor w) from rfl]
    cases hafter : processJob settle now c executor w with
    | ok after =>
      obtain ⟨hcounted, hkeyed⟩ := counted_processJob_iff h.recounted h.flushed hafter
      have hiff : Counted (commit w (.ok after)) ↔ ¬ Outdates settle w (.process now c executor) := by
        rw [hcommitted after]
        simp only [Outdates, hafter, Except.ok.injEq, exists_eq', true_and]
        exact hcounted
      exact ⟨hiff, keyed_committed hkeyed, rfl⟩
    | error failure =>
      apply hrefused
      rintro ⟨⟨after, hafter'⟩, -⟩
      rw [hafter] at hafter'
      cases hafter'
  | persistFailure now c code =>
    rw [show transactJob settle w (.persistFailure now c code) =
      commit w (persistFailure settle now c code w) from rfl]
    cases hafter : persistFailure settle now c code w with
    | ok after =>
      obtain ⟨failed, hfailed, hsettled⟩ := bind_ok hafter
      obtain ⟨hsession, -⟩ := settled_ok hsettled
      have hcounted := counted_failJob_iff h.recounted h.flushed hfailed
      have hkeyed := keyed_failJob h.recounted.keyed hfailed
      rw [← hsession] at hcounted hkeyed
      have hiff : Counted (commit w (.ok after)) ↔
          ¬ Outdates settle w (.persistFailure now c code) := by
        rw [hcommitted after]
        simp only [Outdates, hafter, Except.ok.injEq, exists_eq', true_and]
        exact hcounted
      exact ⟨hiff, keyed_committed hkeyed, rfl⟩
    | error failure =>
      apply hrefused
      rintro ⟨⟨after, hafter'⟩, -⟩
      rw [hafter] at hafter'
      cases hafter'

/-- In a run of transactions on a created job, whatever the settlement does, the counters are
the counts of the committed rows throughout exactly when no transaction is a new retry, a
cancellation with rows that wait or a failure with rows that are open. -/
theorem bulkCounted_iff (settle : γ → BulkJob → β → Except Failure β) {s : BulkSession}
    (hs : created s) (books : β) (actions : List (BulkAction γ)) :
    (∀ before, before <+: actions → Counted (run (transactJob settle) ⟨s, books⟩ before)) ↔
      Along (transactJob settle) (fun w action => ¬ Outdates settle w action) ⟨s, books⟩
        actions := by
  have hstart : CommittedCounts (⟨s, books⟩ : BulkWorld β) := by
    obtain ⟨readers, env, data, basis, holdId, authorizedCost, -, rfl, -⟩ := hs
    exact ⟨⟨nodup_nil, rfl, rfl⟩, rfl⟩
  have halong := along_of_always (transactJob settle) (fun _ _ => trivial)
    (⟨s, books⟩ : BulkWorld β) actions (P := fun _ _ => True)
  exact throughout_iff_along_of_invariant (I := CommittedCounts) (transactJob settle)
    (fun w h => h.recounted.counts) (fun w action h _ => (counted_transactJob h action).1)
    (fun w action h _ hsound => by
      obtain ⟨hcounted, hkeyed, hflushed⟩ := counted_transactJob h action
      exact ⟨⟨hkeyed, hcounted.mpr hsound, by rw [hflushed]⟩, hflushed⟩) hstart halong

end Transactions

attribute [local instance] sampleHashes

/-- A settlement that always succeeds, without books. -/
def settleNothing (_ : Unit) (_ : BulkJob) (_ : Unit) : Except Failure Unit := .ok ()

def sampleRecordActions : List (BulkAction Unit) := [
  .call (.materialize (some (sampleFile 1)) (sampleContent 1)),
  .call (.authorizeNextRow 10 1 10000000),
  .call (.recordRowAttempt 11 (sampleReviews .pending) sampleAttempt)]

def sampleRetryAction : BulkAction Unit :=
  .call (.retryRows { subjectId := 5 } (sampleRowsCommand "retry") false)

/-- The job is cancelled while its only row waits. -/
def sampleCancelActions : List (BulkAction Unit) := [
  .call (.materialize (some (sampleFile 1)) (sampleContent 1)),
  .call (.cancelJob 20 { subjectId := 5 } ⟨"stop", "cancel"⟩),
  .process 21 () none]

theorem bulkCounted_sample :
    ((∀ before, before <+: sampleRecordActions → Counted (run (transactJob settleNothing)
        ⟨sampleSession 1 50 (by decide), ()⟩ before)) ↔
      Along (transactJob settleNothing) (fun w action => ¬ Outdates settleNothing w action)
        ⟨sampleSession 1 50 (by decide), ()⟩ sampleRecordActions) ∧
      Along (transactJob settleNothing) (fun w action => ¬ Outdates settleNothing w action)
        ⟨sampleSession 1 50 (by decide), ()⟩ sampleRecordActions := by
  refine ⟨bulkCounted_iff settleNothing (created_sampleSession 1 50 (by decide)) () _, ?_⟩
  simp [sampleRecordActions, Outdates]

def retriedWorld : BulkWorld Unit :=
  run (transactJob settleNothing) ⟨sampleSession 1 50 (by decide), ()⟩
    (sampleRecordActions ++ [sampleRetryAction])

def cancelledWorld : BulkWorld Unit :=
  run (transactJob settleNothing) ⟨sampleSession 1 50 (by decide), ()⟩ sampleCancelActions

/-- The retried row is still counted as processed, and the cancelled row is not counted. -/
theorem counters_lag : created (sampleSession 1 50 (by decide)) ∧
      (retriedWorld.session.job.processedRows = 1 ∧
        countStates processedRowStates retriedWorld.session.rows = 0) ∧
      cancelledWorld.session.job.state = .cancelled ∧
      cancelledWorld.session.job.cancelledRows = 0 ∧
      countStates [.cancelled] cancelledWorld.session.rows = 1 := by
  refine ⟨created_sampleSession 1 50 (by decide), ?_, ?_⟩
  · decide +kernel
  · decide +kernel

end BlogOps.Bulk
