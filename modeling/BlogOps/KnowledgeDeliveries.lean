import BlogOps.KnowledgeReads

/-!
# The ends of a delivery

Every way through `process_knowledge_job`: what an `AppError` leaves behind, the rows that a started
job writes, what makes it end in an integrity error, and the books that a delivery can leave.
-/

namespace BlogOps.Knowledge

open EffectRules KeyedTables Outbound TransitionRuns

/-- What an `AppError` leaves behind in the started books: nothing but the state of the source and
the objects, or a version with its document and without chunks. -/
inductive Left (texts : KnowledgeTexts) (env : KnowledgeEnvironment) (s : SourceBooks)
    (jobType : KnowledgeJobType) : SourceBooks → Prop where
  | touched {t : SourceBooks} (h : Touched s t) : Left texts env s jobType t
  | incomplete {x : Extraction} {t : SourceBooks} (h : Hands texts env s jobType x t)
      (hnone : t.findVersion x.contentHash = none) :
      Left texts env s jobType (t.withDocument texts x)

/-- The rows that a started job writes before the last flush. -/
inductive Written (texts : KnowledgeTexts) (env : KnowledgeEnvironment) (s : SourceBooks)
    (job : KnowledgeJob) : SourceBooks → Prop where
  | failed {error : AppError} {t : SourceBooks} (h : Left texts env s job.jobType t) :
      Written texts env s job (t.fail job.id (job.attempt + 1) error)
  | reviewed {upload : Upload} {content : List UInt8} (hparse : job.jobType = .parse)
      (h : ReadsUpload texts env s.source upload content none) :
      Written texts env s job ((s.changeSource (.enter .needsReview)).complete job.id none)
  | adopted {x : Extraction} {t : SourceBooks} {version : SourceVersion}
      (h : Hands texts env s job.jobType x t)
      (hfind : t.findVersion x.contentHash = some version) :
      Written texts env s job ((t.changeSource (.adopt version.id .ready)).complete job.id (some version.id))
  | stored {x : Extraction} {t : SourceBooks} {drafts : List ChunkDraft} {vectors : List Embedding}
      (h : Hands texts env s job.jobType x t) (hnone : t.findVersion x.contentHash = none)
      (hembeds : Embeds texts env x drafts vectors) :
      Written texts env s job ((t.withChunks texts env x drafts vectors).complete job.id (some t.nextId))
  | erased (hdelete : job.jobType = .delete) (h : Deletes env s)
      (hholds : s.holdsVersion env = false) :
      Written texts env s job (s.erased.complete job.id none)

/-- What makes a started job end in an integrity error. -/
inductive Collides (texts : KnowledgeTexts) (env : KnowledgeEnvironment) (s : SourceBooks)
    (jobType : KnowledgeJobType) : Prop where
  | own (h : s.source.canonicalUriHash.any (· ∈ env.taken) = true)
  | redirected {x : Extraction} {t : SourceBooks} (h : Hands texts env s jobType x t)
      (htaken : t.source.canonicalUriHash.any (· ∈ env.taken) = true)
  | referenced (hdelete : jobType = .delete) (h : Deletes env s)
      (hholds : s.holdsVersion env = true)

/-- How the guarded part of a started job ends. -/
inductive AttemptEnd (texts : KnowledgeTexts) (env : KnowledgeEnvironment) (s : SourceBooks)
    (job : KnowledgeJob) : Except Failure Unit → SourceBooks → Prop where
  | written {t : SourceBooks} (h : Written texts env s job t) :
      AttemptEnd texts env s job (.ok ()) t
  | raised {failure : Failure} {t : SourceBooks}
      (h : isIntegrity failure = true → Collides texts env s job.jobType) :
      AttemptEnd texts env s job (.error failure) t

variable {failure : Failure} {job : KnowledgeJob} {t : SourceBooks} {x : Extraction}
variable {jobType : KnowledgeJobType}

section Attempt

variable {texts : KnowledgeTexts} {env : KnowledgeEnvironment} {s : SourceBooks}

/-- An exception is recorded when it is an `AppError`, and goes on otherwise. -/
theorem attemptEnd_recorded
    (hleft : isIntegrity failure = false → failure ≠ valueRefused → Left texts env s job.jobType t)
    (hcollides : isIntegrity failure = true → Collides texts env s job.jobType) :
    Ends (recordFailure job.start failure) t (AttemptEnd texts env s job) := by
  cases failure with
  | app error =>
    show AttemptEnd texts env s job (.ok ()) (t.fail job.id (job.attempt + 1) error)
    exact .written (.failed (hleft rfl nofun))
  | integrity constraint => exact .raised hcollides
  | keyError => exact .raised hcollides
  | assertionError => exact .raised hcollides
  | validationError => exact .raised hcollides
  | decimalError => exact .raised hcollides
  | valueError => exact .raised hcollides

/-- What a run of a job brings about its attempt makes of it. -/
theorem attempt_of_ends {P : Except Failure (Option Uuid) → SourceBooks → Prop}
    (hends : Ends (runJob texts env job.jobType) s P)
    (hok : ∀ version t, P (.ok version) t → Written texts env s job (t.complete job.id version))
    (herror : ∀ failure t, P (.error failure) t →
      (isIntegrity failure = false → failure ≠ valueRefused → Left texts env s job.jobType t) ∧
      (isIntegrity failure = true → Collides texts env s job.jobType)) :
    Ends (tryCatch (executeJob texts env job) (recordFailure job.start)) s
      (AttemptEnd texts env s job) := by
  rw [ends_tryCatch]
  unfold executeJob
  rw [ends_bind]
  refine hends.mono fun r t hr => ?_
  cases r with
  | ok version =>
    rw [continues_ok, ends_modify, handled_ok]
    exact .written (hok version t hr)
  | error failure =>
    rw [continues_error, handled_error]
    exact attemptEnd_recorded (herror failure t hr).1 (herror failure t hr).2

/-- The store of what a job hands to it, as the job goes on with it. -/
theorem written_of_returned {u : SourceBooks} {version : Uuid} (h : Hands texts env s job.jobType x t)
    (hstore : storeParsedVersion texts env x t = .ok version u) :
    Written texts env s job (u.complete job.id (some version)) := by
  have hend := (storeParsedVersion_ends texts env x t).of_ok hstore
  generalize hr : (Except.ok version : Except Failure Uuid) = r at hend
  cases hend with
  | adopted hfind =>
    cases hr
    exact .adopted h hfind
  | stored hnone hembeds =>
    cases hr
    exact .stored h hnone hembeds
  | incomplete hnone hfailure => cases hr
  | taken htaken => cases hr
  | unstorable => cases hr

theorem left_of_raised {u : SourceBooks} (h : Hands texts env s jobType x t)
    (hstore : storeParsedVersion texts env x t = .error failure u) :
    (isIntegrity failure = false → failure ≠ valueRefused → Left texts env s jobType u) ∧
      (isIntegrity failure = true → Collides texts env s jobType) := by
  have hend := (storeParsedVersion_ends texts env x t).of_error hstore
  generalize hr : (Except.error failure : Except Failure Uuid) = r at hend
  cases hend with
  | adopted hfind => cases hr
  | stored hnone hembeds => cases hr
  | incomplete hnone hfailure =>
    cases hr
    exact ⟨fun _ _ => .incomplete h hnone, fun htrue => absurd (hfailure.symm.trans htrue) nofun⟩
  | taken htaken =>
    cases hr
    exact ⟨nofun, fun _ => .redirected h htaken⟩
  | unstorable =>
    cases hr
    exact ⟨fun _ hne => absurd rfl hne, nofun⟩

theorem Refusal.left (h : Refusal s failure t) :
    (isIntegrity failure = false → failure ≠ valueRefused → Left texts env s jobType t) ∧
      (isIntegrity failure = true → Collides texts env s jobType) :=
  ⟨fun _ _ => .touched h.touched, fun htrue => absurd (h.noIntegrity.symm.trans htrue) nofun⟩

theorem written_of_read {version : Option Uuid} (h : ReadEnd texts env s job.jobType (.ok version) t) :
    Written texts env s job (t.complete job.id version) := by
  cases h with
  | unreadable hparse h => exact .reviewed hparse h
  | returned h hstore => exact written_of_returned h hstore

theorem left_of_read (h : ReadEnd texts env s jobType (.error failure) t) :
    (isIntegrity failure = false → failure ≠ valueRefused → Left texts env s jobType t) ∧
      (isIntegrity failure = true → Collides texts env s jobType) := by
  cases h with
  | refused h => exact h.left
  | raised h hstore => exact left_of_raised h hstore

theorem runJob_delete_ends (texts : KnowledgeTexts) (env : KnowledgeEnvironment)
    (s : SourceBooks) : Ends (runJob texts env .delete) s fun r t =>
      EraseEnd env s (r.map fun _ => ()) t ∧ (∀ version, r = .ok version → version = none) := by
  show Ends (do deleteSourceData env; pure none) s _
  rw [ends_bind]
  refine (deleteSourceData_ends env s).mono fun r t h => ?_
  cases r with
  | ok u =>
    refine ⟨h, fun version hversion => ?_⟩
    exact (Except.ok.inj hversion).symm
  | error failure => exact ⟨h, nofun⟩

theorem attempt_ends (texts : KnowledgeTexts) (env : KnowledgeEnvironment) (job : KnowledgeJob)
    (s : SourceBooks) : Ends (tryCatch (executeJob texts env job) (recordFailure job.start)) s
      (AttemptEnd texts env s job) := by
  cases htype : job.jobType with
  | parse =>
    have hends : Ends (runJob texts env job.jobType) s (ReadEnd texts env s job.jobType) := by
      rw [htype]
      exact processFile_ends texts env s
    exact attempt_of_ends hends (fun _ _ h => written_of_read h) (fun _ _ h => left_of_read h)
  | fetch =>
    have hends : Ends (runJob texts env job.jobType) s (ReadEnd texts env s job.jobType) := by
      rw [htype]
      exact processNetworkSource_ends texts env s
    exact attempt_of_ends hends (fun _ _ h => written_of_read h) (fun _ _ h => left_of_read h)
  | reindex =>
    refine attempt_of_ends (P := fun r t => r = .error jobTypeUnsupported ∧ t = s) ?_ ?_ ?_
    · rw [htype]
      exact ⟨rfl, rfl⟩
    · rintro version t ⟨hr, -⟩
      cases hr
    · rintro failure t ⟨hr, rfl⟩
      cases hr
      exact Refusal.left ⟨rfl, .refl t⟩
  | delete =>
    refine attempt_of_ends (htype ▸ runJob_delete_ends texts env s) ?_ ?_
    · rintro version t ⟨hend, hversion⟩
      cases hversion version rfl
      cases hend with
      | erased h hholds => exact .erased htype h hholds
    · rintro failure t ⟨hend, -⟩
      cases hend with
      | refused h => exact h.left
      | referenced h hholds => exact ⟨nofun, fun _ => .referenced htype h hholds⟩

end Attempt

/-- The job is there and waits for a delivery. -/
structure Open (s : SourceBooks) (id : Uuid) (job : KnowledgeJob) : Prop where
  find : s.find id = some job
  state : job.state ∈ openStates

def SourceBooks.started (s : SourceBooks) (job : KnowledgeJob) : SourceBooks :=
  s.changeJob job.id KnowledgeJob.start

/-- The last flush takes the rows. -/
def Flushed (env : KnowledgeEnvironment) (t : SourceBooks) : Prop :=
  t.source.canonicalUriHash.any (· ∈ env.taken) = false ∧ env.refuses .last = false

inductive RunEnd (texts : KnowledgeTexts) (env : KnowledgeEnvironment) (s : SourceBooks)
    (id : Uuid) : Except Failure Unit → SourceBooks → Prop where
  | idle : RunEnd texts env s id (.ok ()) s
  | written {job : KnowledgeJob} {t : SourceBooks} (h : Open s id job)
      (hflushed : Flushed env t) (ht : Written texts env (s.started job) job t) :
      RunEnd texts env s id (.ok ()) t
  | raised {failure : Failure} {t : SourceBooks}
      (h : isIntegrity failure = true →
        ∃ job, Open s id job ∧ Collides texts env (s.started job) job.jobType) :
      RunEnd texts env s id (.error failure) t

section Run

variable {texts : KnowledgeTexts} {env : KnowledgeEnvironment} {s : SourceBooks} {id : Uuid}

theorem Left.collides (h : Left texts env s jobType t)
    (htaken : t.source.canonicalUriHash.any (· ∈ env.taken) = true) : Collides texts env s jobType := by
  cases h with
  | touched h =>
    obtain ⟨state, objects, rfl⟩ := h
    exact .own htaken
  | incomplete h hnone => exact .redirected h htaken

/-- The hash that the last flush writes is that of the source or of the page. -/
theorem Written.collides (h : Written texts env s job t)
    (htaken : t.source.canonicalUriHash.any (· ∈ env.taken) = true) : Collides texts env s job.jobType := by
  cases h with
  | failed h => exact h.collides htaken
  | reviewed hparse h => exact .own htaken
  | adopted h hfind => exact .redirected h htaken
  | stored h hnone hembeds => exact .redirected h htaken
  | erased hdelete h hholds => exact .own htaken

theorem flush_eq_ok (h : flush env .last s = .ok () t) : t = s ∧ Flushed env s := by
  unfold flush at h
  rw [bind_run_ok (get_run s)] at h
  split at h
  · cases h
  · next hfree =>
    split at h
    · cases h
    · next hlast =>
      cases h
      exact ⟨rfl, Bool.eq_false_iff.2 hfree, Bool.eq_false_iff.2 hlast⟩

theorem flush_eq_error {point : FlushPoint} (h : flush env point s = .error failure t)
    (hfailure : isIntegrity failure = true) : s.source.canonicalUriHash.any (· ∈ env.taken) = true := by
  unfold flush at h
  rw [bind_run_ok (get_run s)] at h
  split at h
  · assumption
  · split at h
    · cases h
      cases hfailure
    · cases h

theorem takeUp_ends (texts : KnowledgeTexts) (env : KnowledgeEnvironment) (hopen : Open s id job) :
    Ends (takeUp texts env job) s (RunEnd texts env s id) := by
  refine ends_bind_run_ok (modify_run _ s) ?_
  rw [ends_bind]
  refine (attempt_ends texts env job (s.started job)).mono fun r t h => ?_
  cases h with
  | written h =>
    refine ends_intro (fun _ u hflush => ?_) (fun failure u hflush => ?_)
    · obtain ⟨rfl, hflushed⟩ := flush_eq_ok hflush
      exact .written hopen hflushed h
    · exact .raised fun hfailure => ⟨job, hopen, h.collides (flush_eq_error hflush hfailure)⟩
  | raised h => exact .raised fun hfailure => ⟨job, hopen, h hfailure⟩

theorem processKnowledgeJob_ends (texts : KnowledgeTexts) (env : KnowledgeEnvironment) (s : SourceBooks)
    (id : Uuid) : Ends (processKnowledgeJob texts env id) s (RunEnd texts env s id) := by
  refine ends_bind_run_ok (get_run s) ?_
  cases hfind : s.find id with
  | none => exact .raised nofun
  | some job =>
    refine ends_ite (fun _ => .idle) fun _ => ?_
    refine ends_ite (fun _ => .raised nofun) fun hopen => ?_
    exact takeUp_ends texts env ⟨hfind, not_not.1 hopen⟩

/-- The books that a delivery can leave. -/
inductive DeliveryEnd (texts : KnowledgeTexts) (env : KnowledgeEnvironment) (s : SourceBooks)
    (id : Uuid) : SourceBooks → Prop where
  | rolledBack (objects : List String) : DeliveryEnd texts env s id { s with objects := objects }
  | written {job : KnowledgeJob} {t : SourceBooks} (hcommits : env.commits = true)
      (h : Open s id job) (hflushed : Flushed env t)
      (ht : Written texts env (s.started job) job t) : DeliveryEnd texts env s id t

theorem deliver_ends (texts : KnowledgeTexts) (env : KnowledgeEnvironment) (id : Uuid)
    (s : SourceBooks) : DeliveryEnd texts env s id (deliver texts env id s) := by
  have hends := processKnowledgeJob_ends texts env s id
  unfold deliver
  cases hrun : processKnowledgeJob texts env id s with
  | error failure t => exact .rolledBack t.objects
  | ok u t =>
    cases hcommits : env.commits with
    | false => exact .rolledBack t.objects
    | true =>
      show DeliveryEnd texts env s id t
      cases hends.of_ok hrun with
      | idle => exact .rolledBack s.objects
      | written h hflushed ht => exact .written hcommits h hflushed ht

theorem processKnowledgeJob_open (h : Open s id job) :
    processKnowledgeJob texts env id s = takeUp texts env job s := by
  have hopen : job.state ∉ closedStates := by
    intro hclosed
    have hstate := h.state
    revert hstate hclosed
    cases job.state <;> decide
  unfold processKnowledgeJob
  rw [bind_run_ok (get_run s), h.find]
  dsimp only
  rw [if_neg hopen, if_neg (not_not.2 h.state)]

theorem takeUp_recorded {version : Option Uuid}
    (h : runJob texts env job.jobType (s.started job) = .ok version t) :
    takeUp texts env job s = flush env .last (t.complete job.id version) := by
  have hexecuted : executeJob texts env job (s.started job) =
      .ok () (t.complete job.id version) := by
    unfold executeJob
    rw [bind_run_ok h]
    rfl
  unfold takeUp
  rw [bind_run_ok (modify_run _ s)]
  exact bind_run_ok (tryCatch_run_ok hexecuted _) _

/-- A delivery that hands content to the store for which there is a version makes that version the
current one and the source ready. -/
theorem deliver_adopts {version : SourceVersion} (hopen : Open s id job)
    (h : Hands texts env (s.started job) job.jobType x t) (hfind : t.findVersion x.contentHash = some version)
    (hflushed : Flushed env t) (hcommits : env.commits = true) : deliver texts env id s =
      (t.changeSource (.adopt version.id .ready)).complete job.id (some version.id) := by
  have hrun : runJob texts env job.jobType (s.started job) =
      .ok (some version.id) (t.changeSource (.adopt version.id .ready)) := by
    rw [h.run, bind_run_ok (storeParsedVersion_adopts env hfind)]
    rfl
  have hflush := flush_stored (s := (t.changeSource (.adopt version.id .ready)).complete job.id
    (some version.id)) hflushed.1 hflushed.2
  unfold deliver
  rw [processKnowledgeJob_open hopen, takeUp_recorded hrun, hflush]
  exact if_pos hcommits

end Run

end BlogOps.Knowledge
