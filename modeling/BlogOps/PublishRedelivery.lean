import BlogOps.PublishQuota

/-!
# Cancelled and finished jobs

When a redelivery of a finished job finds nothing to do, and what the deliveries
of a job still send to the provider after its cancellation was requested.
-/

namespace BlogOps.Publishing

open Jobs KeyedTables EffectRules TransitionRuns List

variable {ρ : Type} {w : World ρ} {rows : JobRows}

section Redeliveries

/-- A finished job that a redelivery takes up again: it succeeded after a request to cancel it,
and its connection and its policy are still there. -/
structure TakenUpAgain (w : World ρ) (job : PublishJob) : Prop where
  succeeded : job.state = .succeeded
  requested : job.cancelRequestedAt.isSome
  connected : (w.connections.find? (·.id = job.connectionId)).isSome
  governed : (w.policies.find? (·.id = job.policyId)).isSome

/-- The states in which `process_publish_job` leaves a job for good. -/
def endStates : List JobState := [.succeeded, .partialSuccess, .finalFailed, .cancelled]

theorem commitSession_openSession (hjobs : Keyed (·.job.id) w.jobs) (hrows : rows ∈ w.jobs) :
    commitSession w (openSession w rows) = w := by
  have hkept : updateRow (·.job.id) rows.job.id (fun _ => rows) w.jobs = w.jobs := by
    refine (map_congr_left fun row hrow => ?_).trans (map_id _)
    split
    · exact (hjobs.eq_of_key_eq hrow hrows ‹_›).symm
    · rfl
  change { w with jobs := updateRow (·.job.id) rows.job.id (fun _ => rows) w.jobs } = w
  rw [hkept]

variable (hended : rows.job.state ∈ endStates)

include hended

theorem cancelledUnstarted_of_ended : cancelledUnstarted rows.job = false := by
  simp only [endStates, mem_cons, not_mem_nil, or_false] at hended
  rcases hended with h | h | h | h <;> simp [cancelledUnstarted, h]

theorem finished_of_ended (hfinished : finished rows.job = false) :
    rows.job.state = .succeeded ∧ rows.job.cancelRequestedAt.isSome := by
  simp only [endStates, mem_cons, not_mem_nil, or_false] at hended
  rcases hended with h | h | h | h <;> simp_all [finished, Option.isSome_iff_ne_none]

variable [CanonicalHash] (hsound : SoundWorld w) (hrows : rows ∈ w.jobs)

include hsound hrows

theorem deliver_ended (hagain : ¬TakenUpAgain w rows.job) (env : WorkerEnv ρ) (commits : Bool) :
    deliver env rows.job.id commits w = (w, []) := by
  have hcommit := commitSession_openSession hsound.jobs hrows
  have hrun : (∃ result, runPublishJob env rows w = .ok result (openSession w rows)) ∨
      ∃ e, runPublishJob env rows w = .error e (openSession w rows) := by
    unfold runPublishJob processPublishJob
    rw [bind_run_ok (show getJob (openSession w rows) = .ok rows.job _ from rfl),
      cancelledUnstarted_of_ended hended]
    cases hfinished : finished rows.job with
    | true => exact .inl ⟨_, rfl⟩
    | false =>
      obtain ⟨hsucceeded, hrequested⟩ := finished_of_ended hended hfinished
      cases hconnection : w.connections.find? (·.id = rows.job.connectionId) with
      | none => exact .inr ⟨_, rfl⟩
      | some connection =>
        cases hpolicy : w.policies.find? (·.id = rows.job.policyId) with
        | none => exact .inr ⟨_, rfl⟩
        | some policy =>
          exact (hagain ⟨hsucceeded, hrequested, by simp [hconnection], by simp [hpolicy]⟩).elim
  unfold deliver
  rw [hsound.jobs.find?_eq hrows]
  rcases hrun with ⟨result, hrun⟩ | ⟨e, hrun⟩
  · simp only [hrun]
    cases commits with
    | true => exact congrArg (·, []) hcommit
    | false => rfl
  · simp only [hrun]
    rfl

/-- A worker that finds no provider for the connection. -/
def strandedWorker : WorkerEnv ρ where
  now := 0
  requireProvider _ _ := .error (notFound "PUBLISHING_PROVIDER" "")
  resolveSecret _ := .error .uncaught
  resolveReady _ := .error .uncaught
  resolveMedia _ _ := .error .uncaught
  renderForCms _ _ _ _ := { html := "", unsupported := [] }

theorem deliver_takenUpAgain (hquota : QuotaSound w) (hagain : TakenUpAgain w rows.job) :
    (deliver strandedWorker rows.job.id false w).2 ≠ [] := by
  have hrefused (code detail : String) : Ends (refuseJob strandedWorker code detail)
      (openSession w rows) fun _ t => t.trace ≠ [] := by
    refine (ends_refuseJob _ (hquota.balanced hsound hrows) code detail).mono fun r t ht htrace => ?_
    have hassigned := ht.1.assigned
    rw [htrace] at hassigned
    exact absurd hassigned.symm (by simp [assignments, openSession])
  have hends : Ends (processPublishJob strandedWorker w.connections w.policies)
      (openSession w rows) fun _ t => t.trace ≠ [] := by
    obtain ⟨connection, hconnection⟩ := Option.isSome_iff_exists.mp hagain.connected
    obtain ⟨policy, hpolicy⟩ := Option.isSome_iff_exists.mp hagain.governed
    unfold processPublishJob
    rw [ends_bind, ends_getJob, continues_ok]
    refine ends_ite (fun hfinished => ?_) fun _ => ends_ite (fun hunstarted => ?_) fun _ => ?_
    · have hrequested := hagain.requested
      simp_all [finished, openSession, rowsOf, hagain.succeeded]
    · exact absurd hunstarted (by simp [openSession, rowsOf, cancelledUnstarted_of_ended hended])
    · rw [show w.connections.find? (·.id = (openSession w rows).memory.job.connectionId) = _ from hconnection]
      dsimp only
      rw [show w.policies.find? (·.id = (openSession w rows).memory.job.policyId) = _ from hpolicy]
      unfold processWith
      rw [ends_bind, ends_getJob, continues_ok]
      exact ends_ite (fun _ => hrefused _ _) fun _ => hrefused _ _
  unfold deliver
  rw [hsound.jobs.find?_eq hrows]
  dsimp only
  cases hrun : runPublishJob strandedWorker rows w with
  | ok result s => exact hends.of_ok hrun
  | error e s => exact hends.of_error hrun

omit hsound

end Redeliveries

section Jobs

variable [CanonicalHash]

/-- What every new job, every request and every committed run makes true of its job stays true
of all jobs. -/
theorem jobs_step {P : PublishJob → Prop} (hsound : SoundWorld w)
    (hjobs : ∀ rows ∈ w.jobs, P rows.job) (a : Action ρ)
    (hnew : ∀ env (order : JobOrder) id, P (newPublishJob env order id))
    (hcancel : ∀ now reason job, P (requestCancellation now reason job))
    (hretry : ∀ env jobId data rows, a = .retryPublishJob env jobId data →
      (∃ result, retryPublishJob env jobId data w = .ok result) →
      w.jobs.find? (·.job.id = jobId) = some rows → P (scheduleRetry data.reason rows.job))
    (hrun : ∀ env jobId commits rows result s, a = .processPublishJob env jobId commits →
      w.jobs.find? (·.job.id = jobId) = some rows → runPublishJob env rows w = .ok result s →
      P s.memory.job) :
    ∀ rows ∈ (step w a).jobs, P rows.job := by
  have heffect := perform_effect hsound.keyed_connections a
  unfold step
  generalize hresult : perform w a = result at heffect
  obtain ⟨w', emitted⟩ := result
  cases heffect with
  | aside ha => exact ha.jobs ▸ hjobs
  | queued env order w₁ _ hprepared =>
    intro rows hrows
    have hkept : w₁.jobs = w.jobs := by
      unfold Prepares at hprepared
      split at hprepared
      · cases hprepared <;> rfl
      · rw [hprepared]
    rcases mem_append.mp hrows with hold | hnewRows
    · exact hjobs rows (hkept ▸ hold)
    · rw [mem_singleton.mp hnewRows]
      exact hnew env order _
  | cancelRequested env jobId data rows hrows hallowed =>
    intro row hrow
    obtain ⟨old, hold, ⟨_, rfl⟩ | ⟨_, rfl⟩⟩ := mem_updateRow hrow
    · exact hcancel _ _ _
    · exact hjobs _ hold
  | retried env jobId data rows hrows hallowed =>
    have haccepted : ∃ result, retryPublishJob env jobId data w = .ok result := by
      simp only [perform] at hresult
      cases hretried : retryPublishJob env jobId data w with
      | error e => simp [hretried, jobRequest] at hresult
      | ok result => exact ⟨result, rfl⟩
    intro row hrow
    obtain ⟨old, hold, ⟨rfl, rfl⟩ | ⟨_, rfl⟩⟩ := mem_updateRow hrow
    · exact hretry env _ data old rfl haccepted (hsound.jobs.find?_eq hold)
    · exact hjobs _ hold
  | delivered env jobId commits =>
    refine deliver_cases (P := fun result => ∀ rows ∈ result.1.jobs, P rows.job) hjobs
      (fun rows result s hfind hends row hrow => ?_) fun _ _ _ _ => hjobs
    obtain ⟨old, hold, ⟨_, rfl⟩ | ⟨_, rfl⟩⟩ := mem_updateRow hrow
    · exact hrun env jobId commits rows result s rfl hfind hends
    · exact hjobs _ hold

end Jobs

section Cancellations

variable [CanonicalHash]

def cancelRequestedOn (w : World ρ) (jobId : Uuid) : Bool :=
  ((w.jobs.find? (·.job.id = jobId)).bind (·.job.cancelRequestedAt)).isSome

/-- A retry is accepted for a job whose cancellation was requested. -/
def RetriesCancelled (w : World ρ) : Action ρ → Prop
  | .retryPublishJob env jobId data =>
    cancelRequestedOn w jobId = true ∧ ∃ result, retryPublishJob env jobId data w = .ok result
  | _ => False

/-- A delivery of a job whose cancellation was requested only takes its post off the schedule. -/
def OnlyReleases (w : World ρ) : Action ρ → Prop
  | .processPublishJob env jobId commits => cancelRequestedOn w jobId = true →
    calls (events w (.processPublishJob env jobId commits)) ⊆ releaseCalls
  | _ => True

/-- A job whose cancellation was requested waits for it, tries it again, or has ended. -/
def Withdrawn (job : PublishJob) : Prop := job.cancelRequestedAt.isSome →
  job.state ∈ [.cancelRequested, .retryableFailed, .finalFailed, .cancelled]

theorem PublishRun.withdrawn {env : WorkerEnv ρ} {connections : List PublishingConnection}
    {policies : List PublicationPolicy} {others : List PublishJob} {s t : Session ρ}
    {r : Except Exc RunResult} (hrun : PublishRun env connections policies others s r t)
    (h : Withdrawn s.memory.job) (hrequested : s.memory.job.cancelRequestedAt.isSome) :
    t.memory.job.state ∈ [.cancelRequested, .retryableFailed, .finalFailed, .cancelled] ∧
      ∃ made, calls t.trace = calls s.trace ++ made ∧ made ⊆ releaseCalls := by
  cases hrun with
  | skipped => exact ⟨h hrequested, noCalls _⟩
  | stopped => exact ⟨h hrequested, noCalls _⟩
  | unstarted _ _ hends => exact ⟨by simp [hends.reached], [], by simp [hends.calls, attemptSession]⟩
  | refused _ _ hends => exact ⟨by simp [hends.reached], [], by simp [hends.calls]⟩
  | cancelling _ _ _ hframe hcloses =>
    obtain ⟨made, hmade, hsub⟩ := hframe.calls
    cases hcloses with
    | cancelled hends => exact ⟨by simp [hends.reached], made, hends.calls.trans hmade, hsub⟩
    | failed hends =>
      obtain ⟨state, hends, ⟨rfl, _⟩ | ⟨rfl, _⟩⟩ := hends.finishes
      · exact ⟨by simp [hends.reached], made, hends.calls.trans hmade, hsub⟩
      · exact ⟨by simp [hends.reached], made, hends.calls.trans hmade, hsub⟩
    | stopped => exact ⟨by rw [hframe.job]; exact h hrequested, made, hmade, hsub⟩
  | publishing hopens hpublishing =>
    have hunfinished := hopens.unfinished
    have hstate := h hrequested
    simp only [mem_cons, not_mem_nil, or_false] at hstate
    rcases hstate with hstate | hstate | hstate | hstate <;>
      simp [Publishing.cancelling, finished, hstate, hrequested] at hpublishing hunfinished

/-- The invariant of runs in which no cancelled job is retried. -/
structure WithdrawnWorld (w : World ρ) : Prop where
  sound : SoundWorld w
  quota : QuotaSound w
  withdrawn : ∀ rows ∈ w.jobs, Withdrawn rows.job

variable (h : WithdrawnWorld w)

include h

theorem withdrawn_step (a : Action ρ) (hretries : ¬RetriesCancelled w a) : WithdrawnWorld (step w a) := by
  refine ⟨soundWorld_step w a h.sound, (quotaSound_perform h.quota h.sound a).1,
    jobs_step h.sound h.withdrawn a (fun _ _ _ hsome => by cases hsome)
      (fun _ _ _ _ => by simp [requestCancellation]) ?_ ?_⟩
  · rintro env jobId data rows rfl haccepted hfind hsome
    refine (hretries ⟨?_, haccepted⟩).elim
    unfold cancelRequestedOn
    rw [hfind]
    exact hsome
  · rintro env jobId commits rows result s - hfind hrun hsome
    have hrows := mem_of_find?_eq_some hfind
    have hto : RunsTo env rows w s := .inl ⟨result, hrun⟩
    have hkept := congrArg PublishJob.cancelRequestedAt hto.frame.ordered
    change s.memory.job.cancelRequestedAt = rows.job.cancelRequestedAt at hkept
    exact ((publishRun_of_ok h.quota h.sound hrows hrun).withdrawn (h.withdrawn rows hrows) (hkept ▸ hsome)).1

theorem withdrawn_onlyReleases (a : Action ρ) : OnlyReleases w a := by
  cases a with
  | processPublishJob env jobId commits =>
    intro hsome
    obtain ⟨requestedAt, hsome⟩ := Option.isSome_iff_exists.mp hsome
    obtain ⟨rows, hfind, hrequested⟩ := Option.bind_eq_some_iff.mp hsome
    have hrows := mem_of_find?_eq_some hfind
    have hmade {r : Except Exc RunResult} {s : Session ρ} (hrun : PublishRun env w.connections
        w.policies (otherJobs w rows.job.id) (openSession w rows) r s) :
        calls s.trace ⊆ releaseCalls := by
      obtain ⟨_, made, hmade, hsub⟩ := hrun.withdrawn (h.withdrawn rows hrows)
        (Option.isSome_of_eq_some hrequested)
      exact hmade ▸ hsub
    have hends := @ends_delivery _ _ env _ _ h.quota h.sound hrows
    change calls (deliver env jobId commits w).2 ⊆ _
    unfold deliver
    rw [hfind]
    dsimp only
    cases hrun : runPublishJob env rows w with
    | ok result s => exact hmade (hends.of_ok hrun)
    | error e s => exact hmade (hends.of_error hrun)
  | _ => trivial

omit h

end Cancellations

section Site

attribute [local instance] siteDigest

/-- Nobody answers when the post is read. -/
def unreadableProvider : CMSProvider Site :=
  { siteProvider with getPost := fun _ _ _ site => (.error (.provider siteOffline), site) }

/-- A scheduled post is published, its cancellation is requested, and the first attempt at it
finds no answer. -/
def withdrawal : List (Action Site) := siteSetup ++ [siteCreate .scheduled,
  siteProcess siteProvider "first" 5,
  .cancelPublishJob (siteRequests "") 5 { expectedLockVersion := 1, reason := "" },
  siteProcess unreadableProvider "first" 5]

/-- The job is retried. -/
def resurrection : List (Action Site) := withdrawal ++
  [.retryPublishJob (siteRequests "") 5 { expectedLockVersion := 1, reason := "" }]

end Site

end BlogOps.Publishing
