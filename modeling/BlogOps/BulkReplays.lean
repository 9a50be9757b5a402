import BlogOps.BulkRequests
import BlogOps.BulkSteps

/-!
# Repeated commands on a bulk job

The five calls by which a user commands a job, as transactions.  `retry_rows`
and `approve_rows` look the recorded command up before they touch anything,
`pause_job`, `resume_job` and `cancel_job` only when they append it.
-/

namespace BlogOps.Bulk

open Jobs KeyedTables TransitionRuns List

inductive UserCommand where
  | pauseJob (now : Int) (principal : BulkPrincipal) (data : BulkCommandRequest)
  | resumeJob (principal : BulkPrincipal) (data : BulkCommandRequest)
  | cancelJob (now : Int) (principal : BulkPrincipal) (data : BulkCommandRequest)
  | retryRows (principal : BulkPrincipal) (data : BulkRowsCommand) (regenerate : Bool)
  | approveRows (now : Int) (principal : BulkPrincipal) (reviews : Reviews)
      (data : BulkRowsCommand)

namespace UserCommand

/-- The record under which the command is kept. -/
def entry : UserCommand → BulkJobCommand
  | pauseJob _ principal data =>
    ⟨principal.subjectId, .pause, data.idempotencyKey, data.reason, []⟩
  | resumeJob principal data =>
    ⟨principal.subjectId, .resume, data.idempotencyKey, data.reason, []⟩
  | cancelJob _ principal data =>
    ⟨principal.subjectId, .cancel, data.idempotencyKey, data.reason, []⟩
  | retryRows principal data regenerate =>
    ⟨principal.subjectId, retryKind regenerate, data.idempotencyKey, data.reason, data.rowIds⟩
  | approveRows _ principal _ data =>
    ⟨principal.subjectId, .approveRows, data.idempotencyKey, data.reason, data.rowIds⟩

def perform (s : BulkSession) : UserCommand → Except Failure BulkSession
  | pauseJob now principal data => Bulk.pauseJob now principal data s
  | resumeJob principal data => Bulk.resumeJob principal data s
  | cancelJob now principal data => Bulk.cancelJob now principal data s
  | retryRows principal data regenerate => Bulk.retryRows principal data regenerate s
  | approveRows now principal reviews data => Bulk.approveRows now principal reviews data s

end UserCommand

/-- One request: what raises is rolled back, anything else is committed. -/
def issue (s : BulkSession) (command : UserCommand) : BulkSession :=
  match command.perform s with
  | .ok after => flush after
  | .error _ => s

def Accepted (s : BulkSession) (command : UserCommand) : Prop := ∃ after, command.perform s = .ok after

variable {after s : BulkSession} {command : UserCommand} {data : BulkCommandRequest} {now : Int}
variable {principal : BulkPrincipal}

theorem issue_of_ok (h : command.perform s = .ok after) : issue s command = flush after := by
  unfold issue
  rw [h]

theorem issue_of_error {failure : Failure} (h : command.perform s = .error failure) :
    issue s command = s := by
  unfold issue
  rw [h]

theorem flush_eq (hs : s.stored = s.rows) : flush s = s := by
  cases s
  cases hs
  rfl

theorem issue_stored (hs : s.stored = s.rows) (command : UserCommand) :
    (issue s command).stored = (issue s command).rows := by
  unfold issue
  split
  · rfl
  · exact hs

/-- The look-up of the entry finds the entry itself. -/
def Recorded (entry : BulkJobCommand) (s : BulkSession) : Prop :=
  recordedCommand entry.actorId entry.kind entry.idempotencyKey s = some entry

/-- The commands before a call are kept by it, and its own is recorded. -/
structure Records (entry : BulkJobCommand) (s after : BulkSession) : Prop where
  kept : s.commands <+: after.commands
  recorded : Recorded entry after

theorem Recorded.extend {entry : BulkJobCommand} (h : Recorded entry s)
    (hkept : s.commands <+: after.commands) : Recorded entry after := by
  obtain ⟨new, hnew⟩ := hkept
  unfold Recorded recordedCommand at h ⊢
  rw [← hnew, find?_append, h]
  rfl

theorem eq_of_matches {actorId : Uuid} {kind : BulkCommandKind} {key reason : String} {rowIds : List Uuid}
    {existing : BulkJobCommand} {u : Unit} (hfound : recordedCommand actorId kind key s = some existing)
    (hmatches : assertCommandMatches existing reason rowIds = .ok u) :
    existing = ⟨actorId, kind, key, reason, rowIds⟩ := by
  have hkey := find?_some hfound
  obtain ⟨hreason, hrows⟩ := require_ok hmatches
  obtain ⟨actor, kind', key', reason', rows'⟩ := existing
  simp only [decide_eq_true_eq] at hkey hreason hrows
  obtain ⟨rfl, rfl, rfl⟩ := hkey
  rw [hreason, hrows]

theorem assertCommandMatches_self (entry : BulkJobCommand) :
    assertCommandMatches entry entry.reason entry.rowIds = .ok () := require_of ⟨rfl, rfl⟩ _

theorem recorded_append {entry : BulkJobCommand}
    (hnew : recordedCommand entry.actorId entry.kind entry.idempotencyKey s = none)
    (hafter : after.commands = s.commands ++ [entry]) : Records entry s after := by
  refine ⟨hafter ▸ prefix_append _ _, ?_⟩
  unfold Recorded recordedCommand at *
  rw [hafter, find?_append, hnew]
  simp

theorem appendCommand_records {actorId : Uuid} {kind : BulkCommandKind} {key reason : String}
    {rowIds : List Uuid} (h : appendCommand actorId kind key reason rowIds s = .ok after) :
    Records ⟨actorId, kind, key, reason, rowIds⟩ s after := by
  unfold appendCommand at h
  split at h
  · rename_i existing hfound
    obtain ⟨_, hmatches, h⟩ := bind_ok h
    cases h
    rw [eq_of_matches hfound hmatches] at hfound
    exact ⟨prefix_refl _, hfound⟩
  · rename_i hnew
    cases h
    exact recorded_append hnew rfl

theorem appendCommand_recorded {entry : BulkJobCommand} (h : Recorded entry s) :
    appendCommand entry.actorId entry.kind entry.idempotencyKey entry.reason entry.rowIds s =
      .ok s := by
  unfold appendCommand
  rw [show recordedCommand entry.actorId entry.kind entry.idempotencyKey s = some entry from h]
  exact bind_of_ok (assertCommandMatches_self entry) _

theorem appendCommand_recorded_job {entry : BulkJobCommand} (h : Recorded entry s) (job : BulkJob) :
    appendCommand entry.actorId entry.kind entry.idempotencyKey entry.reason entry.rowIds
      { s with job := job } = .ok { s with job := job } :=
  appendCommand_recorded (h.extend (prefix_refl _))

theorem pauseJob_records (h : pauseJob now principal data s = .ok after) :
    Records (UserCommand.pauseJob now principal data).entry s after := by
  obtain ⟨_, -, h⟩ := bind_ok h
  obtain ⟨hkept, hrecorded⟩ := appendCommand_records h
  exact ⟨hkept, hrecorded⟩

theorem resumeJob_records (h : resumeJob principal data s = .ok after) :
    Records (UserCommand.resumeJob principal data).entry s after := by
  obtain ⟨_, -, h⟩ := bind_ok h
  obtain ⟨_, -, h⟩ := bind_ok h
  obtain ⟨hkept, hrecorded⟩ := appendCommand_records h
  exact ⟨hkept, hrecorded⟩

theorem cancelJob_records (h : cancelJob now principal data s = .ok after) :
    Records (UserCommand.cancelJob now principal data).entry s after := by
  obtain ⟨_, -, h⟩ := bind_ok h
  split_ifs at h
  · exact appendCommand_records h
  · obtain ⟨_, -, h⟩ := bind_ok h
    obtain ⟨hkept, hrecorded⟩ := appendCommand_records h
    exact ⟨hkept, hrecorded⟩

theorem retryRows_records {data : BulkRowsCommand} {regenerate : Bool}
    (h : retryRows principal data regenerate s = .ok after) :
    Records (UserCommand.retryRows principal data regenerate).entry s after := by
  cases hfound : recordedCommand principal.subjectId (retryKind regenerate)
      data.idempotencyKey s with
  | none =>
    have hretries := retryRows_new hfound h
    exact recorded_append hfound (hretries.result ▸ rfl)
  | some existing =>
    have hsame := retryRows_repeated hfound h
    subst hsame
    obtain ⟨_, -, h⟩ := bind_ok h
    simp only [hfound] at h
    obtain ⟨_, hmatches, -⟩ := bind_ok h
    rw [eq_of_matches hfound hmatches] at hfound
    exact ⟨prefix_refl _, hfound⟩

theorem approveRows_records {reviews : Reviews} {data : BulkRowsCommand}
    (h : approveRows now principal reviews data s = .ok after) :
    Records (UserCommand.approveRows now principal reviews data).entry s after := by
  rcases approveRows_ok h with rfl | ⟨happroves, rfl⟩
  · unfold approveRows at h
    split at h
    · rename_i existing hfound
      obtain ⟨_, hmatches, -⟩ := bind_ok h
      rw [eq_of_matches hfound hmatches] at hfound
      exact ⟨prefix_refl _, hfound⟩
    · rename_i hnew
      obtain ⟨_, -, h⟩ := bind_ok h
      obtain ⟨_, -, h⟩ := bind_ok h
      obtain ⟨middle, happend, h⟩ := bind_ok h
      obtain ⟨hkept, hrecorded⟩ := appendCommand_records happend
      cases h
      exact ⟨hkept, hrecorded⟩
  · exact recorded_append happroves.new rfl

theorem perform_records (h : command.perform s = .ok after) : Records command.entry s after := by
  cases command with
  | pauseJob now principal data => exact pauseJob_records h
  | resumeJob principal data => exact resumeJob_records h
  | cancelJob now principal data => exact cancelJob_records h
  | retryRows principal data regenerate => exact retryRows_records h
  | approveRows now principal reviews data => exact approveRows_records h

theorem recorded_issue (h : Accepted s command) : Recorded command.entry (issue s command) := by
  obtain ⟨after, hafter⟩ := h
  rw [issue_of_ok hafter]
  exact (perform_records hafter).recorded

theorem issue_extends (s : BulkSession) (command : UserCommand) :
    s.commands <+: (issue s command).commands := by
  cases h : command.perform s with
  | ok after =>
    rw [issue_of_ok h]
    exact (perform_records h).kept
  | error _ =>
    rw [issue_of_error h]

/-- The command that has been cancelled stays so under the commands of users. -/
theorem issue_cancelled (hs : s.job.state = .cancelRequested) (command : UserCommand) :
    (issue s command).job.state = .cancelRequested := by
  cases h : command.perform s with
  | error _ =>
    rw [issue_of_error h]
    exact hs
  | ok after =>
    rw [issue_of_ok h, flush_job]
    cases command with
    | pauseJob now principal data => exact (pauseJob_ok h).1.state.elim (·.trans hs) id
    | resumeJob principal data => exact (resumeJob_ok h).1.state.elim (·.trans hs) id
    | cancelJob now principal data => exact (cancelJob_ok h).2
    | retryRows principal data regenerate =>
      rcases retryRows_ok h with rfl | hretries
      · exact hs
      · rw [hretries.result]
        exact hs
    | approveRows now principal reviews data =>
      rcases approveRows_ok h with rfl | ⟨-, rfl⟩
      · exact hs
      · exact hs

/-- A job without any mark of a pause. -/
structure Unpaused (job : BulkJob) : Prop where
  requested : job.pauseRequested = false
  moment : job.pauseRequestedAt = none
  user : job.pausedBy = none

/-- A pause that may be given finds the job paused, and a resumption that may be given finds
no mark of a pause. -/
def FindsItsResult (s : BulkSession) : UserCommand → Prop
  | .pauseJob _ principal _ => commandableJob principal s.job = .ok () → s.job.pauseRequested = true
  | .resumeJob principal _ => commandableJob principal s.job = .ok () →
      s.job.budgetKillSwitchTriggered = false → Unpaused s.job
  | _ => True

section

variable (hs : s.stored = s.rows)

include hs

theorem issue_eq_iff {job : BulkJob} (h : command.perform s = .ok { s with job := job }) :
    issue s command = s ↔ job = s.job := by
  have hflushed : flush { s with job := job } = { s with job := job } := flush_eq hs
  rw [issue_of_ok h, hflushed]
  constructor
  · intro hsame
    exact congrArg BulkSession.job hsame
  · rintro rfl
    rfl

theorem issue_eq_self (h : command.perform s = .ok s) : issue s command = s := by
  rw [issue_of_ok h, flush_eq hs]

theorem pause_repeated (hrecorded : Recorded (UserCommand.pauseJob now principal data).entry s) :
    issue s (.pauseJob now principal data) = s ↔
      FindsItsResult s (.pauseJob now principal data) := by
  cases hallowed : commandableJob principal s.job with
  | error failure =>
    have hraises : (UserCommand.pauseJob now principal data).perform s = .error failure := by
      simp only [UserCommand.perform, pauseJob, hallowed]
      rfl
    simp [FindsItsResult, hallowed, issue_of_error hraises]
  | ok u =>
    have hperform : (UserCommand.pauseJob now principal data).perform s =
        .ok { s with job := if s.job.pauseRequested then s.job else { s.job with
          pauseRequested := true
          pauseRequestedAt := some now
          pausedBy := some principal.subjectId } } :=
      (bind_of_ok hallowed _).trans (appendCommand_recorded_job hrecorded _)
    rw [issue_eq_iff hs hperform]
    by_cases hpaused : s.job.pauseRequested = true
    · simp [FindsItsResult, hpaused]
    · rw [if_neg hpaused]
      refine iff_of_false (fun hsame => hpaused ?_) (fun hfinds => hpaused (hfinds hallowed))
      rw [← hsame]

theorem resume_repeated (hrecorded : Recorded (UserCommand.resumeJob principal data).entry s) :
    issue s (.resumeJob principal data) = s ↔ FindsItsResult s (.resumeJob principal data) := by
  cases hallowed : commandableJob principal s.job with
  | error failure =>
    have hraises : (UserCommand.resumeJob principal data).perform s = .error failure := by
      simp only [UserCommand.perform, resumeJob, hallowed]
      rfl
    simp [FindsItsResult, hallowed, issue_of_error hraises]
  | ok u =>
    by_cases hkilled : s.job.budgetKillSwitchTriggered = false
    · have hperform : (UserCommand.resumeJob principal data).perform s = .ok { s with
          job := { s.job with
            pauseRequested := false, pauseRequestedAt := none, pausedBy := none } } :=
        ((bind_of_ok hallowed _).trans (bind_of_ok (require_of hkilled _) _)).trans
          (appendCommand_recorded_job hrecorded _)
      rw [issue_eq_iff hs hperform]
      constructor
      · intro hsame _ _
        rw [← hsame]
        exact ⟨rfl, rfl, rfl⟩
      · intro hfinds
        obtain ⟨hrequested, hmoment, huser⟩ := hfinds hallowed hkilled
        rw [← hrequested, ← hmoment, ← huser]
    · have hraises : ∃ failure, (UserCommand.resumeJob principal data).perform s =
          .error failure := by
        refine ⟨bulkConflict "BULK_BUDGET_KILL_ACTIVE" "예산 Kill Switch가 활성화된 작업은 재개할 수 없습니다.", ?_⟩
        simp only [UserCommand.perform, resumeJob, hallowed, require, hkilled]
        rfl
      obtain ⟨failure, hraises⟩ := hraises
      simp [FindsItsResult, hkilled, issue_of_error hraises]

theorem cancel_repeated (hcancelled : s.job.state = .cancelRequested)
    (hrecorded : Recorded (UserCommand.cancelJob now principal data).entry s) :
    issue s (.cancelJob now principal data) = s := by
  cases hallowed : commandableJob principal s.job with
  | error failure =>
    have hraises : (UserCommand.cancelJob now principal data).perform s = .error failure := by
      simp only [UserCommand.perform, cancelJob, hallowed]
      rfl
    exact issue_of_error hraises
  | ok u =>
    refine issue_eq_self hs ((bind_of_ok hallowed _).trans ?_)
    rw [if_pos hcancelled]
    exact appendCommand_recorded hrecorded

theorem retry_repeated {data : BulkRowsCommand} {regenerate : Bool}
    (hrecorded : Recorded (UserCommand.retryRows principal data regenerate).entry s) :
    issue s (.retryRows principal data regenerate) = s := by
  cases h : (UserCommand.retryRows principal data regenerate).perform s with
  | error failure => exact issue_of_error h
  | ok after =>
    have hsame := retryRows_repeated hrecorded h
    subst hsame
    exact issue_eq_self hs h

theorem approve_repeated {reviews : Reviews} {data : BulkRowsCommand}
    (hrecorded : Recorded (UserCommand.approveRows now principal reviews data).entry s) :
    issue s (.approveRows now principal reviews data) = s := by
  cases h : (UserCommand.approveRows now principal reviews data).perform s with
  | error failure => exact issue_of_error h
  | ok after =>
    rcases approveRows_ok h with rfl | ⟨happroves, -⟩
    · exact issue_eq_self hs h
    · have hnew := happroves.new.symm.trans hrecorded
      cases hnew

end

theorem cancelled_of_accepted (h : Accepted s command) (hkind : command.entry.kind = .cancel) :
    (issue s command).job.state = .cancelRequested := by
  obtain ⟨after, hafter⟩ := h
  rw [issue_of_ok hafter, flush_job]
  cases command with
  | cancelJob now principal data => exact (cancelJob_ok hafter).2
  | retryRows principal data regenerate => cases regenerate <;> cases hkind
  | _ => cases hkind

/-- After a command that was accepted, with any commands since, its repetition changes nothing
exactly when it finds its result. -/
theorem repetition_unchanged_iff {s : BulkSession} (hs : s.stored = s.rows)
    (earlier between : List UserCommand) {command repetition : UserCommand}
    (haccepted : Accepted (run issue s earlier) command) (hrepeats : repetition.entry = command.entry) :
    let present := run issue s (earlier ++ command :: between)
    issue present repetition = present ↔ FindsItsResult present repetition := by
  intro present
  have hpresent : present = run issue (issue (run issue s earlier) command) between :=
    run_append issue s earlier (command :: between)
  have hstored : present.stored = present.rows :=
    invariant_run (I := fun s => s.stored = s.rows) issue (fun _ command h => issue_stored h command) hs _
  have hrecorded : Recorded repetition.entry present := by
    rw [hrepeats, hpresent]
    refine invariant_run (I := Recorded command.entry) issue ?_ (recorded_issue haccepted) between
    exact fun s command h => h.extend (issue_extends s command)
  cases repetition with
  | pauseJob now principal data => exact pause_repeated hstored hrecorded
  | resumeJob principal data => exact resume_repeated hstored hrecorded
  | cancelJob now principal data =>
    refine iff_of_true (cancel_repeated hstored ?_ hrecorded) trivial
    rw [hpresent]
    refine invariant_run (I := fun s => s.job.state = .cancelRequested) issue
      (fun _ command h => issue_cancelled h command) ?_ between
    exact cancelled_of_accepted haccepted (congrArg BulkJobCommand.kind hrepeats).symm
  | retryRows principal data regenerate =>
    exact iff_of_true (retry_repeated hstored hrecorded) trivial
  | approveRows now principal reviews data =>
    exact iff_of_true (approve_repeated hstored hrecorded) trivial

def samplePause : UserCommand := .pauseJob 10 { subjectId := 5 } ⟨"hold", "pause"⟩

def sampleResume : UserCommand := .resumeJob { subjectId := 5 } ⟨"go on", "resume"⟩

theorem accepted_of_toBool (h : (command.perform s).toBool = true) : Accepted s command := by
  unfold Accepted
  cases hperform : command.perform s with
  | ok after => exact ⟨after, rfl⟩
  | error _ =>
    rw [hperform] at h
    cases h

/-- A pause that is sent again later finds the job paused. -/
theorem repetition_unchanged_sample : let s := sampleSession 1 50 (by decide)
    let present := run issue s ([sampleResume] ++ samplePause :: [])
    present.job.pauseRequested = true ∧
      issue present (.pauseJob 20 { subjectId := 5 } ⟨"hold", "pause"⟩) = present := by
  have haccepted : Accepted (run issue (sampleSession 1 50 (by decide)) [sampleResume])
      samplePause := accepted_of_toBool (by decide +kernel)
  have hentry : (UserCommand.pauseJob 20 { subjectId := 5 } ⟨"hold", "pause"⟩).entry =
      samplePause.entry := rfl
  refine ⟨by decide +kernel, ?_⟩
  exact (repetition_unchanged_iff (s := sampleSession 1 50 (by decide)) rfl [sampleResume] []
    haccepted hentry).mpr fun _ => by decide +kernel

/-- The same pause, sent again after the job was resumed, pauses it without a new command. -/
theorem repeated_pause_undoes_resume : let s := sampleSession 1 50 (by decide)
    let present := run issue s [samplePause, sampleResume]
    s.stored = s.rows ∧ Accepted s samplePause ∧ Accepted (issue s samplePause) sampleResume ∧
      Accepted present samplePause ∧ issue present samplePause ≠ present ∧
      present.job.pauseRequested = false ∧
      (issue present samplePause).job.pauseRequested = true ∧
      (issue present samplePause).commands = present.commands := by
  refine ⟨rfl, accepted_of_toBool (by decide +kernel), accepted_of_toBool (by decide +kernel),
    accepted_of_toBool (by decide +kernel), by decide +kernel, by decide +kernel,
    by decide +kernel, by decide +kernel⟩

end BlogOps.Bulk
