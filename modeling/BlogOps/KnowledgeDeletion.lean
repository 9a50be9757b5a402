import BlogOps.KnowledgeSteps

/-!
# Deleted knowledge

What a source is once one of its deletion jobs has succeeded.  A fetch or parse job that is still
open then is taken up all the same, and a deletion only knows the objects that a version or the upload
names.
-/

namespace BlogOps.Knowledge

open EffectRules KeyedTables Outbound TransitionRuns List

def SourceBooks.DeletionDone (s : SourceBooks) : Prop :=
  ∃ job ∈ s.jobs, job.jobType = .delete ∧ job.state = .succeeded

/-- Nothing of the source is left but its row. -/
structure SourceBooks.Gone (s : SourceBooks) : Prop where
  state : s.source.state = .deleted
  versions : s.versions = []
  documents : s.documents = []
  chunks : s.chunks = []
  objects : s.objects = []

def jobKey (job : KnowledgeJob) : Uuid × KnowledgeJobType := (job.id, job.jobType)

/-- The jobs have ids of their own, and the one deletion job marks the source as deleted. -/
structure JobsTracked (s : SourceBooks) : Prop where
  keyed : Keyed KnowledgeJob.id s.jobs
  fresh : ∀ key ∈ s.jobs.map jobKey, key.1 < s.nextId
  single : ∀ key ∈ s.jobs.map jobKey, ∀ other ∈ s.jobs.map jobKey,
    key.2 = .delete → other.2 = .delete → key.1 = other.1
  marked : ∀ key ∈ s.jobs.map jobKey, key.2 = .delete → s.source.deletedAt ≠ none

/-- What no delivery changes, and how it changes the ids. -/
structure SameJobs (s t : SourceBooks) : Prop where
  keys : t.jobs.map jobKey = s.jobs.map jobKey
  nextId : s.nextId ≤ t.nextId
  deletedAt : t.source.deletedAt = s.source.deletedAt

theorem SameJobs.trans {s t u : SourceBooks} (hst : SameJobs s t) (htu : SameJobs t u) : SameJobs s u :=
  ⟨htu.keys.trans hst.keys, Nat.le_trans hst.nextId htu.nextId, htu.deletedAt.trans hst.deletedAt⟩

theorem JobsTracked.of_same {s t : SourceBooks} (h : JobsTracked s) (hst : SameJobs s t) : JobsTracked t := by
  have hids : t.jobs.map KnowledgeJob.id = s.jobs.map KnowledgeJob.id := by
    have hfirst := congrArg (List.map Prod.fst) hst.keys
    rw [map_map, map_map] at hfirst
    exact hfirst
  constructor
  · unfold Keyed
    rw [hids]
    exact h.keyed
  · rw [hst.keys]
    exact fun key hkey => Nat.lt_of_lt_of_le (h.fresh key hkey) hst.nextId
  · rw [hst.keys]
    exact h.single
  · rw [hst.keys, hst.deletedAt]
    exact h.marked

variable {jobType : KnowledgeJobType}

/-- Where no deletion job is the new one, another job may be queued. -/
theorem JobsTracked.addJob {s : SourceBooks} (h : JobsTracked s)
    (hnew : jobType = .delete → s.source.deletedAt ≠ none ∧ ∀ key ∈ s.jobs.map jobKey, key.2 ≠ .delete) :
    JobsTracked (s.addJob jobType) := by
  have hmem : ∀ key, key ∈ (s.addJob jobType).jobs.map jobKey →
      key ∈ s.jobs.map jobKey ∨ key = (s.nextId, jobType) := by
    intro key hkey
    unfold SourceBooks.addJob at hkey
    rw [map_append, mem_append] at hkey
    exact hkey.imp_right mem_singleton.1
  constructor
  · refine h.keyed.append_row fun job hjob hid => ?_
    have hlt : job.id < s.nextId := h.fresh (jobKey job) (mem_map_of_mem hjob)
    exact absurd hid (Nat.ne_of_lt hlt)
  · intro key hkey
    rcases hmem key hkey with hold | rfl
    · exact Nat.lt_succ_of_lt (h.fresh key hold)
    · exact Nat.lt_succ_self _
  · intro key hkey other hother hdelete hdelete'
    rcases hmem key hkey with hold | rfl
    · rcases hmem other hother with hold' | rfl
      · exact h.single key hold other hold' hdelete hdelete'
      · exact absurd hdelete ((hnew hdelete').2 key hold)
    · rcases hmem other hother with hold' | rfl
      · exact absurd hdelete' ((hnew hdelete).2 other hold')
      · rfl
  · intro key hkey hdelete
    rcases hmem key hkey with hold | rfl
    · exact h.marked key hold hdelete
    · exact (hnew hdelete).1

section Jobs

variable {texts : KnowledgeTexts} {env : KnowledgeEnvironment} {s t : SourceBooks}
  {id : Uuid} {job : KnowledgeJob}

theorem sameJobs_of_rows {s t : SourceBooks} (hjobs : t.jobs = s.jobs) (hid : s.nextId ≤ t.nextId)
    (hdeleted : t.source.deletedAt = s.source.deletedAt) : SameJobs s t :=
  ⟨congrArg _ hjobs, hid, hdeleted⟩

theorem sameJobs_changeJob (s : SourceBooks) (id : Uuid) {change : KnowledgeJob → KnowledgeJob}
    (h : ∀ row, jobKey (change row) = jobKey row) : SameJobs s (s.changeJob id change) where
  keys := map_updateRow (g := jobKey) (fun row _ => h row) s.jobs
  nextId := Nat.le_refl _
  deletedAt := rfl

theorem Touched.sameJobs (h : Touched s t) : SameJobs s t := by
  obtain ⟨state, objects, rfl⟩ := h
  exact sameJobs_of_rows rfl (Nat.le_refl _) rfl

theorem Hands.sameJobs {x : Extraction} (h : Hands texts env s jobType x t) : SameJobs s t := by
  cases h with
  | upload h => exact sameJobs_of_rows rfl (Nat.le_refl _) rfl
  | page h => exact sameJobs_of_rows rfl (Nat.le_refl _) rfl

theorem Hands.jobs_eq {x : Extraction} (h : Hands texts env s jobType x t) : t.jobs = s.jobs := by
  cases h <;> rfl

theorem Left.jobs_eq (h : Left texts env s jobType t) : t.jobs = s.jobs := by
  cases h with
  | touched h =>
    obtain ⟨state, objects, rfl⟩ := h
    rfl
  | incomplete h hnone => exact h.jobs_eq

theorem jobKey_complete (state : SourceState) (version : Option Uuid) (row : KnowledgeJob) :
    jobKey (row.complete state version) = jobKey row := by
  unfold KnowledgeJob.complete
  split <;> rfl

theorem sameJobs_complete (s : SourceBooks) (id : Uuid) (version : Option Uuid) :
    SameJobs s (s.complete id version) :=
  sameJobs_changeJob s id fun row => jobKey_complete s.source.state version row

theorem sameJobs_fail (s : SourceBooks) (id : Uuid) (attempt : Nat) (error : AppError) :
    SameJobs s (s.fail id attempt error) := by
  have hchanged : SameJobs s (s.changeJob id (·.fail error)) := sameJobs_changeJob s id fun _ => rfl
  exact ⟨hchanged.keys, hchanged.nextId, rfl⟩

theorem sameJobs_started (s : SourceBooks) (job : KnowledgeJob) : SameJobs s (s.started job) :=
  sameJobs_changeJob s job.id fun _ => rfl

theorem sameJobs_withDocument (s : SourceBooks) (x : Extraction) : SameJobs s (s.withDocument texts x) :=
  sameJobs_of_rows rfl (Nat.le_add_right s.nextId 2) rfl

theorem Left.sameJobs (h : Left texts env s jobType t) : SameJobs s t := by
  cases h with
  | touched h => exact h.sameJobs
  | incomplete h hnone => exact h.sameJobs.trans (sameJobs_withDocument _ _)

theorem Written.sameJobs (h : Written texts env s job t) : SameJobs s t := by
  cases h with
  | failed h => exact h.sameJobs.trans (sameJobs_fail _ _ _ _)
  | reviewed hparse h => exact (touched_enter s .needsReview).sameJobs.trans (sameJobs_complete _ _ _)
  | adopted h hfind =>
    refine (h.sameJobs.trans ?_).trans (sameJobs_complete _ _ _)
    exact sameJobs_of_rows rfl (Nat.le_refl _) rfl
  | stored h hnone hembeds =>
    refine (h.sameJobs.trans ?_).trans (sameJobs_complete _ _ _)
    exact sameJobs_of_rows rfl (Nat.le_add_right _ 2) rfl
  | erased hdelete h hholds =>
    exact (sameJobs_of_rows (s := s) (t := s.erased) rfl (Nat.le_refl _) rfl).trans (sameJobs_complete _ _ _)

theorem sameJobs_deliver (texts : KnowledgeTexts) (env : KnowledgeEnvironment) (id : Uuid)
    (s : SourceBooks) : SameJobs s (deliver texts env id s) := by
  have hend := deliver_ends texts env id s
  generalize deliver texts env id s = t at hend ⊢
  cases hend with
  | rolledBack objects => exact sameJobs_of_rows rfl (Nat.le_refl _) rfl
  | written hcommits h hflushed ht => exact (sameJobs_started s _).trans ht.sameJobs

end Jobs

structure DeletionInvariant (s : SourceBooks) : Prop where
  lineage : Lineage s
  jobs : JobsTracked s
  gone : s.DeletionDone → s.Gone

/-- A deletion job finds only objects that it knows, and once one has succeeded no other job is
delivered that is still open. -/
def LeavesNothing (s : SourceBooks) : SourceAction → Prop
  | .deliver id _ => ∀ job, Open s id job →
      (job.jobType = .delete → ∀ key ∈ s.objects, key ∈ s.objectKeys) ∧
        (s.DeletionDone → job.jobType = .delete)
  | _ => True

section Invariant

variable {texts : KnowledgeTexts} {env : KnowledgeEnvironment} {s t : SourceBooks}

theorem JobsTracked.not_open_delete (h : JobsTracked s) (hdone : s.DeletionDone) {id : Uuid}
    {job : KnowledgeJob} (hopen : Open s id job) : job.jobType ≠ .delete := by
  intro hdelete
  obtain ⟨done, hmem, hdone, hstate⟩ := hdone
  have hids := h.single (jobKey job) (mem_map_of_mem hopen.mem.1) (jobKey done)
    (mem_map_of_mem hmem) hdelete hdone
  have hsame : job = done := h.keyed.eq_of_key_eq hopen.mem.1 hmem hids
  have hmember := hopen.state
  rw [hsame, hstate] at hmember
  exact absurd hmember (by decide)

theorem retryable_ne_succeeded (error : AppError) (attempt : Nat) :
    (if retryable error attempt = true then KnowledgeJobState.retryableFailed else .finalFailed) ≠
      .succeeded := by
  split <;> exact nofun

/-- The only job that a delivery completes is the delivered one. -/
theorem deletionDone_of_written {id : Uuid} {job : KnowledgeJob} (hjobs : JobsTracked s)
    (hopen : Open s id job) (ht : Written texts env (s.started job) job t) (hdone : t.DeletionDone) :
    s.DeletionDone ∨ job.jobType = .delete ∧ Deletes env (s.started job) ∧
      t = (s.started job).erased.complete job.id none := by
  have hother : ∀ change : KnowledgeJob → KnowledgeJob,
      t.jobs = updateRow KnowledgeJob.id job.id change (s.started job).jobs →
      (∀ row, (change row).jobType = row.jobType) →
      (job.jobType = .delete → ∀ row, (change row).state ≠ .succeeded) → s.DeletionDone := by
    intro change hjobsEq htype hstate
    obtain ⟨row, hrow, hdelete, hsucceeded⟩ := hdone
    rw [hjobsEq] at hrow
    obtain ⟨old, hold, hcase⟩ := mem_updateRow hrow
    obtain ⟨older, holder, hcase'⟩ := mem_updateRow hold
    rcases hcase with ⟨hid, rfl⟩ | ⟨hid, rfl⟩
    · have hjob : older = job := by
        refine hjobs.keyed.eq_of_key_eq holder hopen.mem.1 ?_
        rcases hcase' with ⟨hid', -⟩ | ⟨-, rfl⟩
        · exact hid'
        · exact hid
      have hdeleted : job.jobType = .delete := by
        rw [htype] at hdelete
        rcases hcase' with ⟨-, rfl⟩ | ⟨hne, rfl⟩
        · exact hjob ▸ hdelete
        · exact absurd hid hne
      exact absurd hsucceeded (hstate hdeleted old)
    · rcases hcase' with ⟨hid', rfl⟩ | ⟨-, rfl⟩
      · exact absurd hid' hid
      · exact ⟨_, holder, hdelete, hsucceeded⟩
  have hnever : ∀ {jobType : KnowledgeJobType} {x : Extraction} {u : SourceBooks},
      Hands texts env (s.started job) jobType x u → jobType ≠ .delete := by
    intro jobType x u h
    cases h <;> exact nofun
  have hcompleted : ∀ (state : SourceState) (version : Option Uuid) (row : KnowledgeJob),
      (row.complete state version).jobType = row.jobType := fun state version row =>
    congrArg Prod.snd (jobKey_complete state version row)
  cases ht with
  | failed h =>
    rename_i error u
    refine .inl (hother (·.fail error) ?_ (fun _ => rfl) fun _ row => ?_)
    · exact congrArg (updateRow _ _ _) h.jobs_eq
    · exact retryable_ne_succeeded error row.attempt
  | reviewed hparse h =>
    refine .inl (hother (·.complete .needsReview none) rfl (hcompleted _ _) fun hdelete => ?_)
    exact absurd (hparse.symm.trans hdelete) nofun
  | adopted h hfind =>
    rename_i x u version
    refine .inl (hother (·.complete .ready (some version.id)) ?_ (hcompleted _ _) fun hdelete => ?_)
    · exact congrArg (updateRow _ _ _) h.jobs_eq
    · exact absurd hdelete (hnever h)
  | stored h hnone hembeds =>
    rename_i x u drafts vectors
    refine .inl (hother (·.complete x.state (some u.nextId)) ?_ (hcompleted _ _) fun hdelete => ?_)
    · exact congrArg (updateRow _ _ _) h.jobs_eq
    · exact absurd hdelete (hnever h)
  | erased hdelete h hholds => exact .inr ⟨hdelete, h, rfl⟩

/-- A deletion job that finds only objects that it knows leaves nothing. -/
theorem gone_erased {id : Uuid} (h : Lineage s) (hknown : ∀ key ∈ s.objects, key ∈ s.objectKeys)
    (version : Option Uuid) : (s.erased.complete id version).Gone := by
  obtain ⟨hversions, hdocuments, hchunks⟩ := SourceBooks.erased_rows h
  refine ⟨rfl, hversions, hdocuments, hchunks, ?_⟩
  refine filter_eq_nil_iff.2 fun key hkey => ?_
  simpa using hknown key hkey

theorem deletionInvariant_deliver (h : DeletionInvariant s) {id : Uuid}
    (hleaves : LeavesNothing s (.deliver id env)) : DeletionInvariant (deliver texts env id s) := by
  refine ⟨lineage_deliver h.lineage env id, h.jobs.of_same (sameJobs_deliver texts env id s), ?_⟩
  by_cases hopen : ∃ job, Open s id job
  · obtain ⟨job, hopen⟩ := hopen
    have hnot : ¬s.DeletionDone := fun hdone =>
      h.jobs.not_open_delete hdone hopen ((hleaves job hopen).2 hdone)
    intro hdone
    have hend := deliver_ends texts env id s
    generalize deliver texts env id s = t at hend hdone ⊢
    cases hend with
    | rolledBack objects => exact absurd hdone hnot
    | written hcommits hopen' hflushed ht =>
      cases Option.some.inj (hopen.find.symm.trans hopen'.find)
      rcases deletionDone_of_written h.jobs hopen ht hdone with hdone | ⟨hdelete, hdeletes, rfl⟩
      · exact absurd hdone hnot
      · exact gone_erased (h.lineage.started job) ((hleaves job hopen).1 hdelete) none
  · rw [deliver_closed (fun job hjob => hopen ⟨job, hjob⟩)]
    exact h.gone

theorem deletionInvariant_request (h : DeletionInvariant s) (ht : RequestEnd s t) : DeletionInvariant t := by
  cases ht with
  | refused => exact h
  | queued jobType hlive hstate horigin hparse hdeleted =>
    rename_i source
    have hnone : ∀ key ∈ s.jobs.map jobKey, key.2 ≠ .delete := fun key hkey hdelete =>
      h.jobs.marked key hkey hdelete hlive
    have hsame : JobsTracked { s with source := source } := ⟨h.jobs.keyed, h.jobs.fresh, h.jobs.single,
        fun key hkey hdelete => absurd hdelete (hnone key hkey)⟩
    refine ⟨h.lineage.of_same ⟨rfl, rfl, rfl⟩, hsame.addJob fun hdelete => ⟨hdeleted.1 hdelete, hnone⟩, ?_⟩
    rintro ⟨row, hrow, hdelete, hsucceeded⟩
    rcases mem_append.1 hrow with hrow | hrow
    · exact absurd hdelete (hnone (jobKey row) (mem_map_of_mem hrow))
    · rw [mem_singleton.1 hrow] at hsucceeded
      cases hsucceeded

theorem deletionInvariant_step (h : DeletionInvariant s) {a : SourceAction}
    (hleaves : LeavesNothing s a) : DeletionInvariant (stepSource texts s a) := by
  rcases stepSource_cases texts s a with hend | ⟨id, env, rfl⟩
  · exact deletionInvariant_request h hend
  · exact deletionInvariant_deliver h hleaves

end Invariant

section Born

variable {texts : KnowledgeTexts} {s : SourceBooks}

theorem deletionInvariant_started {source : KnowledgeSource} (h : Started texts source s) :
    DeletionInvariant s := by
  have hlineage := lineage_started h
  cases h with
  | queued =>
    refine ⟨hlineage, ⟨?_, ?_, ?_, ?_⟩, ?_⟩
    · exact nodup_singleton _
    · intro key hkey
      rw [mem_singleton.1 hkey]
      exact Nat.lt_succ_self 1
    · intro key hkey other _ hdelete
      rw [mem_singleton.1 hkey] at hdelete
      cases hdelete
    · intro key hkey hdelete
      rw [mem_singleton.1 hkey] at hdelete
      cases hdelete
    · rintro ⟨row, hrow, hdelete, -⟩
      rw [mem_singleton.1 hrow] at hdelete
      cases hdelete
  | inline content digest drafts hdrafts =>
    refine ⟨hlineage, ⟨nodup_nil, nofun, nofun, nofun⟩, ?_⟩
    rintro ⟨row, hrow, -⟩
    cases hrow

theorem deletionInvariant_born (h : Born texts s) : DeletionInvariant s := by
  cases h with
  | created h =>
    obtain ⟨source, hstarted, -⟩ := createSource_started h
    exact deletionInvariant_started hstarted
  | initiated objects hobjects h =>
    obtain ⟨source, rfl, -⟩ := initiateFileUpload_ok h
    refine ⟨lineage_nil rfl rfl, ⟨nodup_nil, nofun, nofun, nofun⟩, ?_⟩
    rintro ⟨row, hrow, -⟩
    cases hrow

end Born

/-- In a run in which every deletion job finds only objects that it knows, and no other open job is
delivered after one has succeeded, a source with a succeeded deletion job is deleted and has nothing
left, in every state. -/
theorem deleted_stays_deleted {texts : KnowledgeTexts} {s : SourceBooks} (hs : Born texts s)
    {actions : List SourceAction} (h : Along (stepSource texts) LeavesNothing s actions) :
    ∀ before, before <+: actions → (run (stepSource texts) s before).DeletionDone →
      (run (stepSource texts) s before).Gone := by
  rintro before ⟨after, rfl⟩
  have hbefore := ((along_append _ _ _ _ _).1 h).1
  exact (invariant_along (I := DeletionInvariant) (stepSource texts)
    (fun s a hinvariant hleaves => deletionInvariant_step hinvariant hleaves)
    (deletionInvariant_born hs) hbefore).gone

/-- The first delivery stores an object and a version without chunks, and the source is deleted. -/
def storedFirst : List SourceAction := [.deliver 1 embeddingUnavailable,
  .delete sampleRequest, .deliver 4 (sampleKnowledgeEnvironment [1])]

theorem not_deletionDone_of_all {s : SourceBooks}
    (h : s.jobs.all (fun row => row.state ≠ .succeeded ∨ row.jobType ≠ .delete) = true) :
    ¬s.DeletionDone := by
  rintro ⟨row, hrow, hdelete, hsucceeded⟩
  rcases of_decide_eq_true (all_eq_true.1 h row hrow) with hstate | htype
  · exact hstate hsucceeded
  · exact htype hdelete

theorem leavesNothing_sample :
    Along (stepSource sampleKnowledgeTexts) LeavesNothing (sampleSource 0) storedFirst := by
  refine ⟨fun job hopen => ⟨fun _ => nofun, ?_⟩, trivial, fun job hopen => ⟨fun _ => ?_, ?_⟩, trivial⟩
  · exact fun hdone => absurd hdone (not_deletionDone_of_all (by decide +kernel))
  · decide +kernel
  · exact fun hdone => absurd hdone (not_deletionDone_of_all (by decide +kernel))

theorem deleted_stays_deleted_sample :
    (stepSource sampleKnowledgeTexts (sampleSource 0) (.deliver 1 embeddingUnavailable)).objects ≠ [] ∧
      (run (stepSource sampleKnowledgeTexts) (sampleSource 0) storedFirst).DeletionDone ∧
      (run (stepSource sampleKnowledgeTexts) (sampleSource 0) storedFirst).Gone := by
  have hdone : (run (stepSource sampleKnowledgeTexts) (sampleSource 0) storedFirst).DeletionDone := by
    refine ⟨{ id := 4, jobType := .delete, state := .succeeded, attempt := 1
              result := some (.version none) }, ?_, rfl, rfl⟩
    decide +kernel
  exact ⟨by decide +kernel, hdone, deleted_stays_deleted (.created (createSource_sample 0))
    leavesNothing_sample storedFirst prefix_rfl hdone⟩

/-- The deletion job is delivered before the job that its creation queued. -/
def deletedFirst : List SourceAction :=
  [.delete sampleRequest, .deliver 2 (sampleKnowledgeEnvironment [1])]

/-- The fetch job that was queued before the deletion re-creates a version with its object. -/
theorem deleted_created_again : Born sampleKnowledgeTexts (sampleSource 0) ∧
    (run (stepSource sampleKnowledgeTexts) (sampleSource 0)
      (deletedFirst ++ [.deliver 1 (sampleKnowledgeEnvironment [1])])).DeletionDone ∧
    ¬(run (stepSource sampleKnowledgeTexts) (sampleSource 0)
      (deletedFirst ++ [.deliver 1 (sampleKnowledgeEnvironment [1])])).Gone := by
  refine ⟨.created (createSource_sample 0), ⟨{ id := 2, jobType := .delete, state := .succeeded
                                               attempt := 1, result := some (.version none) },
    ?_, rfl, rfl⟩, fun hgone => ?_⟩
  · decide +kernel
  · exact absurd hgone.state (by decide +kernel)

end BlogOps.Knowledge
