import BlogOps.KnowledgeVersions

/-!
# The search for knowledge

The search joins chunks, versions and sources, and asks for the workspace, the state and the match of
the query.  It does not ask for the current version, so chunks of earlier content stay in its results.
-/

namespace BlogOps.Knowledge

open EffectRules KeyedTables Outbound TransitionRuns List

/-- A source with the workspace of its rows. -/
structure Shelf where
  workspaceId : Uuid
  books : SourceBooks

structure JoinedRow where
  workspaceId : Uuid
  chunk : SourceChunk
  source : KnowledgeSource

/-- What PostgreSQL says about a chunk: its random id, `ts_rank_cd`, `@@` and `cosine_distance`. -/
structure SearchTexts where
  chunkId : SourceChunk → Uuid
  rank : String → String → Rat
  found : String → String → Bool
  cosineDistance : Embedding → Embedding → Rat

structure SearchResult where
  chunkId : Uuid
  sourceId : Uuid
  sourceVersionId : Uuid
  text : String
  locator : Locator × Locator
  qualityGrade : String
  score : Rat

def searchedStates : List SourceState := [.ready, .needsReview]

def Shelf.joined (shelf : Shelf) : List JoinedRow :=
  shelf.books.versions.flatMap fun version =>
    (shelf.books.chunksOf version.id).map fun chunk =>
      ⟨shelf.workspaceId, chunk, shelf.books.source⟩

section Query

variable (search : SearchTexts) (query : String)

variable (queryVector : Option Embedding)

/-- A vector of zeros counts as none. -/
def semantic : Option Embedding := queryVector.filter fun vector => vector.any (· ≠ 0)

def SearchTexts.score (chunk : SourceChunk) : Rat :=
  match semantic queryVector with
  | some vector =>
    search.rank query chunk.draft.text * (35 / 100) +
      ((chunk.embedding.map fun embedding => 1 - search.cosineDistance embedding vector).getD 0) * (65 / 100)
  | none => search.rank query chunk.draft.text

def SearchTexts.matching (chunk : SourceChunk) : Bool := search.found query chunk.draft.text ||
    ((semantic queryVector).isSome && chunk.embedding.isSome)

/-- `order_by(score.desc(), SourceChunk.id)`. -/
def SearchTexts.before (a b : JoinedRow) : Prop :=
  search.score query queryVector b.chunk < search.score query queryVector a.chunk ∨
    (search.score query queryVector a.chunk = search.score query queryVector b.chunk ∧
      search.chunkId a.chunk ≤ search.chunkId b.chunk)

instance (queryVector : Option Embedding) :
    DecidableRel (search.before query queryVector) := fun _ _ =>
  inferInstanceAs (Decidable (_ ∨ _ ∧ _))

/-- The rows that the statement selects. -/
def searchedRows (shelves : List Shelf) (workspaceId : Uuid) (queryVector : Option Embedding)
    (limit : Nat) : List JoinedRow :=
  (((shelves.flatMap Shelf.joined).filter fun row =>
    row.workspaceId = workspaceId ∧ row.source.deletedAt = none ∧ row.source.state ∈ searchedStates ∧
      search.matching query queryVector row.chunk = true).insertionSort
    (search.before query queryVector)).take limit

def searchKnowledge (shelves : List Shelf) (workspaceId : Uuid) (queryVector : Option Embedding)
    (limit : Nat) : List SearchResult :=
  (searchedRows search query shelves workspaceId queryVector limit).map fun row =>
    ⟨search.chunkId row.chunk, row.source.id, row.chunk.sourceVersionId, row.chunk.draft.text,
      row.chunk.draft.locator, row.chunk.qualityGrade,
      search.score query queryVector row.chunk⟩

end Query

/-- Whatever is searched for, only chunks of current versions of searchable sources of the workspace
are shown. -/
def ShowsOnlyCurrent (shelves : List Shelf) : Prop := ∀ search query workspaceId queryVector limit,
    ∀ row ∈ searchedRows search query shelves workspaceId queryVector limit,
      row.workspaceId = workspaceId ∧ row.source.deletedAt = none ∧ row.source.state ∈ searchedStates ∧
        row.source.currentVersionId = some row.chunk.sourceVersionId

/-- A committed delivery stores the content `x`. -/
inductive Stores (texts : KnowledgeTexts) (env : KnowledgeEnvironment) (s : SourceBooks) (id : Uuid)
    (x : Extraction) : Prop where
  | reused {version : SourceVersion} {job : KnowledgeJob} {t : SourceBooks} (hopen : Open s id job)
      (h : Hands texts env (s.started job) job.jobType x t)
      (hfind : s.findVersion x.contentHash = some version) (hflushed : Flushed env t)
      (hcommits : env.commits = true)
  | added {drafts : List ChunkDraft} {vectors : List Embedding} {job : KnowledgeJob} {t : SourceBooks}
      (hopen : Open s id job)
      (h : Hands texts env (s.started job) job.jobType x t)
      (hnone : s.findVersion x.contentHash = none)
      (hembeds : Embeds texts env x drafts vectors)
      (hflushed : Flushed env t) (hflushes : ∀ point, env.refuses point = false)
      (hcommits : env.commits = true)

/-- Content is stored for a source only when all chunks of the source are of that content. -/
def SameContent (texts : KnowledgeTexts) (s : SourceBooks) : SourceAction → Prop
  | .deliver id env => s.source.deletedAt = none → ∀ x, Stores texts env s id x →
      ∀ chunk ∈ s.chunks, ∃ version, s.findVersion x.contentHash = some version ∧
        version.id = chunk.sourceVersionId
  | _ => True

/-- The chunks are those of the current version, whatever the state of the source. -/
def ChunksCurrent (s : SourceBooks) : Prop := s.source.deletedAt = none →
    ∀ chunk ∈ s.chunks, s.source.currentVersionId = some chunk.sourceVersionId

def SearchedCurrent (s : SourceBooks) : Prop := s.source.state ∈ searchedStates → ChunksCurrent s

section Source

variable {texts : KnowledgeTexts} {env : KnowledgeEnvironment} {s t : SourceBooks} {id : Uuid}
  {x : Extraction} {job : KnowledgeJob} {jobType : KnowledgeJobType}

theorem ChunksCurrent.of_same (h : ChunksCurrent s) (hchunks : t.chunks = s.chunks)
    (hcurrent : t.source.currentVersionId = s.source.currentVersionId)
    (hdeleted : t.source.deletedAt = none → s.source.deletedAt = none) : ChunksCurrent t := by
  intro hlive
  rw [hchunks, hcurrent]
  exact h (hdeleted hlive)

theorem Hands.deletedAt (h : Hands texts env s jobType x t) : t.source.deletedAt = s.source.deletedAt := by
  cases h <;> rfl

theorem ChunksCurrent.left (h : ChunksCurrent s) (ht : Left texts env s jobType t) : ChunksCurrent t := by
  cases ht with
  | touched ht =>
    obtain ⟨state, objects, rfl⟩ := ht
    exact h.of_same rfl rfl (fun hlive => hlive)
  | incomplete ht hnone =>
    refine h.of_same ht.sameRows.chunks ht.current fun hlive => ?_
    rw [← ht.deletedAt]
    exact hlive

theorem takeUp_refused (h : runJob texts env job.jobType (s.started job) = .error valueRefused t) :
    takeUp texts env job s = .error valueRefused t := by
  have hexecuted : executeJob texts env job (s.started job) = .error valueRefused t :=
    bind_run_error h _
  unfold takeUp
  rw [bind_run_ok (modify_run _ s)]
  refine bind_run_error ((tryCatch_run_error hexecuted _).trans ?_) _
  rfl

/-- The store of new content ends well unless a flush refuses a value. -/
theorem storeNewVersion_flushes {drafts : List ChunkDraft} {vectors : List Embedding}
    (hembeds : Embeds texts env x drafts vectors)
    (hfree : s.source.canonicalUriHash.any (· ∈ env.taken) = false) (u : SourceBooks) :
    Ends (storeNewVersion texts env x s) u fun r t =>
      r = .ok s.nextId ∧ t = s.withChunks texts env x drafts vectors ∧
        (∀ point, point ≠ .last → env.refuses point = false) ∨
      r = .error valueRefused ∧ ∃ point, env.refuses point = true := by
  have htaken : ¬s.source.canonicalUriHash.any (· ∈ env.taken) = true := by simp [hfree]
  rw [storeNewVersion, ends_bind, ends_set, continues_ok]
  refine ends_flush_bind (fun h => absurd h htaken) (fun h => .inr ⟨rfl, _, h⟩) fun hversion => ?_
  rw [ends_bind, ends_set, continues_ok]
  refine ends_flush_bind (fun h => absurd h htaken) (fun h => .inr ⟨rfl, _, h⟩) fun hdocument => ?_
  rw [hembeds.chunks]
  refine ends_bind_run_ok (ofExcept_run_ok drafts _) ?_
  rw [hembeds.answer]
  refine ends_bind_run_ok (ofExcept_run_ok vectors _) ?_
  rw [ends_bind, ends_set, continues_ok]
  refine ends_flush_bind (fun h => absurd h htaken) (fun h => .inr ⟨rfl, _, h⟩) fun hchunks => ?_
  refine .inl ⟨rfl, rfl, fun point hpoint => ?_⟩
  cases point with
  | version => exact hversion
  | document => exact hdocument
  | chunks => exact hchunks
  | last => exact absurd rfl hpoint

/-- A delivery that hands new content to the store leaves the chunks of the old content beside its
own, or is rolled back for a value that a flush refuses. -/
theorem deliver_adds {drafts : List ChunkDraft} {vectors : List Embedding} (hopen : Open s id job)
    (h : Hands texts env (s.started job) job.jobType x t) (hnone : t.findVersion x.contentHash = none)
    (hembeds : Embeds texts env x drafts vectors) (hflushed : Flushed env t)
    (hcommits : env.commits = true) :
    deliver texts env id s = (t.withChunks texts env x drafts vectors).complete job.id (some t.nextId) ∧
      (∀ point, env.refuses point = false) ∨
    (∃ objects, deliver texts env id s = { s with objects := objects }) ∧
      ∃ point, env.refuses point = true := by
  have hends := storeNewVersion_flushes hembeds hflushed.1 t
  unfold deliver
  rw [processKnowledgeJob_open hopen]
  cases hstore : storeNewVersion texts env x t t with
  | ok version u =>
    rcases hends.of_ok hstore with ⟨hr, rfl, hpoints⟩ | ⟨hr, -⟩
    · cases hr
      have hrun : runJob texts env job.jobType (s.started job) =
          .ok (some t.nextId) (t.withChunks texts env x drafts vectors) := by
        rw [h.run, bind_run_ok ((storeParsedVersion_new env hnone).trans hstore)]
        rfl
      have hflush := flush_stored (s := (t.withChunks texts env x drafts vectors).complete job.id
        (some t.nextId)) hflushed.1 hflushed.2
      refine .inl ⟨?_, fun point => ?_⟩
      · rw [takeUp_recorded hrun, hflush]
        exact if_pos hcommits
      · by_cases hpoint : point = .last
        · rw [hpoint]
          exact hflushed.2
        · exact hpoints point hpoint
    · cases hr
  | error failure u =>
    rcases hends.of_error hstore with ⟨hr, -⟩ | ⟨hr, hpoint⟩
    · cases hr
    · cases hr
      refine .inr ⟨⟨u.objects, ?_⟩, hpoint⟩
      rw [takeUp_refused (h.run.trans (bind_run_error ((storeParsedVersion_new env hnone).trans hstore) _))]
      rfl

theorem extraction_state_searched (x : Extraction) : x.state ∈ searchedStates := by
  unfold Extraction.state
  split <;> decide

theorem chunksCurrent_deliver (h : ChunksCurrent s) (htracked : VersionsTracked s)
    (hsame : SameContent texts s (.deliver id env)) : ChunksCurrent (deliver texts env id s) := by
  have hend := deliver_ends texts env id s
  generalize hdelivered : deliver texts env id s = u at hend ⊢
  cases hend with
  | rolledBack objects => exact h.of_same rfl rfl (fun hlive => hlive)
  | written hcommits hopen hflushed ht =>
    rename_i job
    have hstarted : ChunksCurrent (s.started job) := h.of_same rfl rfl (fun hlive => hlive)
    cases ht with
    | failed ht => exact (hstarted.left ht).of_same rfl rfl (fun hlive => hlive)
    | reviewed hparse ht => exact hstarted.of_same rfl rfl (fun hlive => hlive)
    | erased hdelete ht hholds =>
      intro _ chunk hchunk
      have hnil := (SourceBooks.erased_rows (htracked.started job).lineage).2.2
      cases hnil ▸ (show chunk ∈ (s.started job).erased.chunks from hchunk)
    | adopted ht hfind =>
      intro hlive chunk hchunk
      have hfind := (ht.findVersion _).symm.trans hfind
      obtain ⟨version, hversion, hid⟩ := hsame (ht.deletedAt.symm.trans hlive) _
        (.reused hopen ht hfind hflushed hcommits) chunk (ht.sameRows.chunks ▸ hchunk)
      cases hversion.symm.trans hfind
      exact congrArg some hid
    | stored ht hnone hembeds =>
      rcases deliver_adds hopen ht hnone hembeds hflushed hcommits with
        ⟨-, hflushes⟩ | ⟨⟨objects, hback⟩, -⟩
      · intro hlive chunk hchunk
        have hnone := (ht.findVersion _).symm.trans hnone
        rcases mem_append.1 hchunk with hold | hnew
        · obtain ⟨version, hversion, -⟩ := hsame (ht.deletedAt.symm.trans hlive) _
            (.added hopen ht hnone hembeds hflushed hflushes hcommits) chunk
            (ht.sameRows.chunks ▸ hold)
          cases hversion.symm.trans hnone
        · exact congrArg some (mem_zipWith_chunkRow hnew).symm
      · rw [← hdelivered, hback]
        exact h.of_same rfl rfl (fun hlive => hlive)

/-- What is searched after a delivery that stores content. -/
theorem sameContent_of_searched (htracked : VersionsTracked s)
    (h : SearchedCurrent (deliver texts env id s)) : SameContent texts s (.deliver id env) := by
  intro hlive x hstores chunk hchunk
  cases hstores with
  | reused hopen ht hfind hflushed hcommits =>
    rename_i version job t
    rw [deliver_adopts hopen ht ((ht.findVersion _).trans hfind) hflushed hcommits] at h
    have hcurrent := h mem_cons_self (ht.deletedAt.trans hlive) chunk (ht.sameRows.chunks.symm ▸ hchunk)
    exact ⟨version, hfind, Option.some.inj hcurrent⟩
  | added hopen ht hnone hembeds hflushed hflushes hcommits =>
    rename_i vectors job t
    rcases deliver_adds hopen ht ((ht.findVersion _).trans hnone) hembeds hflushed hcommits with
      ⟨hadded, -⟩ | ⟨-, point, hpoint⟩
    · rw [hadded] at h
      have hcurrent := h (extraction_state_searched x) (ht.deletedAt.trans hlive) chunk
        (mem_append_left _ (ht.sameRows.chunks.symm ▸ hchunk))
      obtain ⟨version, hversion, hid⟩ := mem_map.1 (htracked.lineage.chunks chunk hchunk)
      have hlt := htracked.fresh version hversion
      rw [hid, ← Option.some.inj hcurrent, ht.nextId] at hlt
      exact absurd hlt (Nat.lt_irrefl _)
    · exact absurd (hpoint.symm.trans (hflushes point)) (by decide)

theorem chunksCurrent_step (h : ChunksCurrent s) (htracked : VersionsTracked s) {a : SourceAction}
    (hsame : SameContent texts s a) : ChunksCurrent (stepSource texts s a) := by
  rcases stepSource_cases texts s a with hend | ⟨id, env, rfl⟩
  · generalize stepSource texts s a = t at hend ⊢
    cases hend with
    | refused => exact h
    | queued jobType hlive hstate horigin hparse hdeleted =>
      exact h.of_same rfl horigin.current (fun _ => hlive)
  · exact chunksCurrent_deliver h htracked hsame

theorem searchedCurrent_step_iff (h : ChunksCurrent s) (htracked : VersionsTracked s)
    (a : SourceAction) : SearchedCurrent (stepSource texts s a) ↔ SameContent texts s a := by
  refine ⟨fun hsearched => ?_, fun hsame _ => chunksCurrent_step h htracked hsame⟩
  cases a with
  | deliver id env => exact sameContent_of_searched htracked hsearched
  | completeUpload objectKey contentHash env => trivial
  | sync env => trivial
  | delete env => trivial

theorem chunksCurrent_born (h : Born texts s) : ChunksCurrent s := by
  cases h with
  | created h =>
    obtain ⟨source, hstarted, -, -, -⟩ := createSource_started h
    cases hstarted with
    | queued => exact fun _ => nofun
    | inline content digest drafts hdrafts =>
      exact fun _ chunk hchunk => congrArg some (mem_zipWith_chunkRow hchunk).symm
  | initiated objects hobjects h =>
    obtain ⟨source, rfl, -⟩ := initiateFileUpload_ok h
    exact fun _ => nofun

end Source

inductive ShelfAction where
  | create (workspaceId id : Uuid) (refuses : Bool) (data : SourceCreate)
  | change (id : Uuid) (a : SourceAction)

def stepShelves (texts : KnowledgeTexts) (shelves : List Shelf) : ShelfAction → List Shelf
  | .create workspaceId id refuses data =>
    match createSource texts refuses ((shelves.filter fun shelf =>
        shelf.workspaceId = workspaceId).map fun shelf => shelf.books.source) id data with
    | .ok books => shelves ++ [⟨workspaceId, books⟩]
    | .error _ => shelves
  | .change id a => shelves.map fun shelf =>
    if shelf.books.source.id = id then { shelf with books := stepSource texts shelf.books a }
    else shelf

/-- The sources that the action changes store no content beside other content. -/
def KeepsContent (texts : KnowledgeTexts) (shelves : List Shelf) : ShelfAction → Prop
  | .create _ _ _ _ => True
  | .change id a => ∀ shelf ∈ shelves, shelf.books.source.id = id → SameContent texts shelf.books a

section Shelves

variable {texts : KnowledgeTexts} {shelves : List Shelf}

theorem mem_joined {shelf : Shelf} {row : JoinedRow} : row ∈ shelf.joined ↔
    row.workspaceId = shelf.workspaceId ∧ row.source = shelf.books.source ∧ row.chunk ∈ shelf.books.chunks ∧
      row.chunk.sourceVersionId ∈ shelf.books.versions.map SourceVersion.id := by
  obtain ⟨workspaceId, chunk, source⟩ := row
  simp only [Shelf.joined, SourceBooks.chunksOf, mem_flatMap, mem_map, mem_filter,
    JoinedRow.mk.injEq, decide_eq_true_eq]
  constructor
  · rintro ⟨version, hversion, _, ⟨hchunk, hid⟩, rfl, rfl, rfl⟩
    exact ⟨rfl, rfl, hchunk, version, hversion, hid.symm⟩
  · rintro ⟨rfl, rfl, hchunk, version, hversion, hid⟩
    exact ⟨version, hversion, chunk, ⟨hchunk, hid.symm⟩, rfl, rfl, rfl⟩

theorem mem_searchedRows {search : SearchTexts} {query : String} {workspaceId : Uuid}
    {queryVector : Option Embedding} {limit : Nat} {row : JoinedRow}
    (h : row ∈ searchedRows search query shelves workspaceId queryVector limit) :
    (∃ shelf ∈ shelves, row ∈ shelf.joined) ∧ row.workspaceId = workspaceId ∧
      row.source.deletedAt = none ∧ row.source.state ∈ searchedStates := by
  have hrow := (mem_insertionSort _).1 (mem_of_mem_take h)
  simp only [mem_filter, mem_flatMap, decide_eq_true_eq] at hrow
  obtain ⟨hjoined, hworkspace, hlive, hstate, -⟩ := hrow
  exact ⟨hjoined, hworkspace, hlive, hstate⟩

def everything : SearchTexts := ⟨fun _ => 0, fun _ _ => 0, fun _ _ => true, fun _ _ => 0⟩

theorem exists_mem_take {α : Type} {a : α} {rows : List α} (h : a ∈ rows) : ∃ n, a ∈ rows.take n :=
  ⟨rows.length, by simpa using h⟩

theorem mem_everything {shelf : Shelf} (hshelf : shelf ∈ shelves) {row : JoinedRow}
    (hrow : row ∈ shelf.joined) (hlive : row.source.deletedAt = none)
    (hstate : row.source.state ∈ searchedStates) :
    ∃ limit, row ∈ searchedRows everything "" shelves row.workspaceId none limit := by
  unfold searchedRows
  refine exists_mem_take ?_
  rw [mem_insertionSort, mem_filter]
  refine ⟨mem_flatMap.2 ⟨shelf, hshelf, hrow⟩, ?_⟩
  simp only [decide_eq_true_eq]
  exact ⟨trivial, hlive, hstate, rfl⟩

/-- What a search shows of a workspace in a state with only current content. -/
theorem searchKnowledge_current (h : ShowsOnlyCurrent shelves) {search : SearchTexts} {query : String}
    {workspaceId : Uuid} {queryVector : Option Embedding} {limit : Nat} :
    ∀ result ∈ searchKnowledge search query shelves workspaceId queryVector limit,
      ∃ shelf ∈ shelves, shelf.workspaceId = workspaceId ∧ shelf.books.source.id = result.sourceId ∧
        shelf.books.source.deletedAt = none ∧ shelf.books.source.state ∈ searchedStates ∧
        shelf.books.source.currentVersionId = some result.sourceVersionId := by
  intro result hresult
  obtain ⟨row, hrow, rfl⟩ := mem_map.1 hresult
  obtain ⟨⟨shelf, hshelf, hjoined⟩, -⟩ := mem_searchedRows hrow
  obtain ⟨hworkspace, hsource, -⟩ := mem_joined.1 hjoined
  obtain ⟨hof, hlive, hstate, hcurrent⟩ := h search query workspaceId queryVector limit row hrow
  rw [hsource] at hlive hstate hcurrent
  exact ⟨shelf, hshelf, hworkspace.symm.trans hof, congrArg _ hsource.symm, hlive, hstate, hcurrent⟩

theorem showsOnlyCurrent_iff (hlineage : ∀ shelf ∈ shelves, Lineage shelf.books) :
    ShowsOnlyCurrent shelves ↔ ∀ shelf ∈ shelves, SearchedCurrent shelf.books := by
  constructor
  · intro hshows shelf hshelf hstate hlive chunk hchunk
    have hjoined : ⟨shelf.workspaceId, chunk, shelf.books.source⟩ ∈ shelf.joined :=
      mem_joined.2 ⟨rfl, rfl, hchunk, (hlineage shelf hshelf).chunks chunk hchunk⟩
    obtain ⟨limit, hrow⟩ := mem_everything hshelf hjoined hlive hstate
    exact (hshows _ _ _ _ _ _ hrow).2.2.2
  · intro hcurrent search query workspaceId queryVector limit row hrow
    obtain ⟨⟨shelf, hshelf, hjoined⟩, hworkspace, hlive, hstate⟩ := mem_searchedRows hrow
    obtain ⟨-, hsource, hchunk, -⟩ := mem_joined.1 hjoined
    refine ⟨hworkspace, hlive, hstate, ?_⟩
    rw [hsource] at hlive hstate ⊢
    exact hcurrent shelf hshelf hstate hlive _ hchunk

/-- The versions and the chunks of every source are in order. -/
def ShelvesTracked (shelves : List Shelf) : Prop :=
  ∀ shelf ∈ shelves, ChunksCurrent shelf.books ∧ VersionsTracked shelf.books

theorem shelvesTracked_born (h : ∀ shelf ∈ shelves, Born texts shelf.books) : ShelvesTracked shelves :=
  fun shelf hshelf =>
    ⟨chunksCurrent_born (h shelf hshelf), versionsTracked_born (h shelf hshelf)⟩

theorem shelvesTracked_create (h : ShelvesTracked shelves) (workspaceId id : Uuid)
    (refuses : Bool) (data : SourceCreate) :
    ShelvesTracked (stepShelves texts shelves (.create workspaceId id refuses data)) := by
  simp only [stepShelves]
  split
  · next hcreate =>
    intro shelf hshelf
    rcases mem_append.1 hshelf with hold | hnew
    · exact h shelf hold
    · rw [mem_singleton.1 hnew]
      exact ⟨chunksCurrent_born (.created hcreate), versionsTracked_born (.created hcreate)⟩
  · exact h

theorem shelves_change_iff {P : SourceBooks → Prop} {id : Uuid} {a : SourceAction}
    (hkept : ∀ shelf ∈ shelves, P shelf.books) :
    (∀ shelf ∈ stepShelves texts shelves (.change id a), P shelf.books) ↔
      ∀ shelf ∈ shelves, shelf.books.source.id = id → P (stepSource texts shelf.books a) := by
  unfold stepShelves
  rw [forall_mem_map]
  refine forall₂_congr fun shelf hshelf => ?_
  by_cases hid : shelf.books.source.id = id
  · simp [hid]
  · simp [hid, hkept shelf hshelf]

theorem shelvesTracked_step (h : ShelvesTracked shelves) {a : ShelfAction}
    (hkeeps : KeepsContent texts shelves a) : ShelvesTracked (stepShelves texts shelves a) := by
  cases a with
  | create workspaceId id refuses data => exact shelvesTracked_create h workspaceId id refuses data
  | change id a =>
    refine (shelves_change_iff (P := fun books => ChunksCurrent books ∧ VersionsTracked books)
      h).2 fun shelf hshelf hid => ?_
    obtain ⟨hchunks, htracked⟩ := h shelf hshelf
    exact ⟨chunksCurrent_step hchunks htracked (hkeeps shelf hshelf hid), versionsTracked_step htracked a⟩

theorem showsOnlyCurrent_of_tracked (h : ShelvesTracked shelves) : ShowsOnlyCurrent shelves :=
  (showsOnlyCurrent_iff fun shelf hshelf => (h shelf hshelf).2.lineage).2
    fun shelf hshelf _ => (h shelf hshelf).1

theorem showsOnlyCurrent_step_iff (h : ShelvesTracked shelves) (a : ShelfAction) :
    ShowsOnlyCurrent (stepShelves texts shelves a) ↔ KeepsContent texts shelves a := by
  cases a with
  | create workspaceId id refuses data =>
    exact iff_of_true (showsOnlyCurrent_of_tracked
      (shelvesTracked_create h workspaceId id refuses data)) trivial
  | change id a =>
    have hlineage : ∀ shelf ∈ stepShelves texts shelves (.change id a), Lineage shelf.books :=
      (shelves_change_iff fun shelf hshelf => (h shelf hshelf).2.lineage).2 fun shelf hshelf _ =>
        (versionsTracked_step (h shelf hshelf).2 a).lineage
    rw [showsOnlyCurrent_iff hlineage, shelves_change_iff fun shelf hshelf _ =>
      (h shelf hshelf).1]
    refine forall₂_congr fun shelf hshelf => ?_
    rw [searchedCurrent_step_iff (h shelf hshelf).1 (h shelf hshelf).2]

/-- In every run, the search shows only current content in every state exactly when no delivery
stores content for a source that is not deleted and has chunks of other content. -/
theorem shows_current_iff (hs : ∀ shelf ∈ shelves, Born texts shelf.books) (actions : List ShelfAction) :
    (∀ before, before <+: actions → ShowsOnlyCurrent (run (stepShelves texts) shelves before)) ↔
      Along (stepShelves texts) (KeepsContent texts) shelves actions := by
  refine throughout_iff_along_of_invariant (I := ShelvesTracked) (R := fun _ _ => True)
    (stepShelves texts) ?_ ?_ ?_ ?_ ?_
  · exact fun s h => showsOnlyCurrent_of_tracked h
  · exact fun s a h _ => showsOnlyCurrent_step_iff h a
  · exact fun s a h _ hkeeps => shelvesTracked_step h hkeeps
  · exact shelvesTracked_born hs
  · exact along_of_always _ (fun _ _ => trivial) _ _

end Shelves

def sampleShelves : List Shelf := [⟨0, sampleSource 0⟩]

theorem sampleShelves_born : ∀ shelf ∈ sampleShelves, Born sampleKnowledgeTexts shelf.books := by
  intro shelf hshelf
  rw [mem_singleton.1 hshelf]
  exact .created (createSource_sample 0)

/-- The source has no chunks before its first delivery. -/
theorem shows_current_sample : (∀ shelf ∈ sampleShelves, Born sampleKnowledgeTexts shelf.books) ∧
    ∀ before, before <+: [ShelfAction.change 0 (.deliver 1 (sampleKnowledgeEnvironment [1]))] →
      ShowsOnlyCurrent (run (stepShelves sampleKnowledgeTexts) sampleShelves before) := by
  refine ⟨sampleShelves_born,
    (shows_current_iff sampleShelves_born _).2 ⟨fun shelf hshelf _ _ x _ => ?_, trivial⟩⟩
  rw [mem_singleton.1 hshelf]
  exact nofun

/-- The page of a source is fetched with one content and, after a synchronisation, with another. -/
def changedPage : List ShelfAction :=
  [.change 0 (.deliver 1 (sampleKnowledgeEnvironment [1])), .change 0 (.sync sampleRequest),
    .change 0 (.deliver 4 (sampleKnowledgeEnvironment [2]))]

theorem removed_text_shown : (∀ shelf ∈ sampleShelves, Born sampleKnowledgeTexts shelf.books) ∧
    ¬ShowsOnlyCurrent (run (stepShelves sampleKnowledgeTexts) sampleShelves changedPage) := by
  refine ⟨sampleShelves_born, fun hshows => ?_⟩
  have hversions : ((searchedRows everything "" (run (stepShelves sampleKnowledgeTexts)
      sampleShelves changedPage) 0 none 2).map fun row =>
        (row.source.currentVersionId, row.chunk.sourceVersionId)) = [(some 5, 2), (some 5, 5)] := by
    decide +kernel
  obtain ⟨row, hrow, hids⟩ := mem_map.1 (hversions ▸ mem_cons_self)
  have hcurrent := (hshows _ _ _ _ _ _ hrow).2.2.2
  obtain ⟨hcurrentId, hid⟩ := Prod.mk.inj hids
  rw [hcurrentId, hid] at hcurrent
  exact absurd hcurrent (by decide)

end BlogOps.Knowledge
