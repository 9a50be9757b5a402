import BlogOps.KnowledgeSteps

/-!
# Complete versions

A version is stored in three flushes with a call of the embedding provider in between, and an
`AppError` of the provider commits what was flushed before.  A retry finds the version by its content
hash and makes it the current one as it is.
-/

namespace BlogOps.Knowledge

open EffectRules KeyedTables Outbound TransitionRuns List

def SourceBooks.documentsOf (s : SourceBooks) (id : Uuid) : List SourceDocument :=
  s.documents.filter fun row => row.sourceVersionId = id

def SourceBooks.chunksOf (s : SourceBooks) (id : Uuid) : List SourceChunk :=
  s.chunks.filter fun row => row.sourceVersionId = id

/-- The version has one document, and its chunks are those of the parsed blocks, numbered from zero
and with the vectors that a provider gave for their texts. -/
structure Complete (texts : KnowledgeTexts) (s : SourceBooks) (version : SourceVersion) : Prop where
  document : ∃ document, s.documentsOf version.id = [document] ∧
    ∀ chunk ∈ s.chunksOf version.id, chunk.documentId = document.id
  chunks : semanticChunks texts.toParsingTexts version.blocks =
    .ok ((s.chunksOf version.id).map SourceChunk.draft)
  numbered : Numbered ((s.chunksOf version.id).map SourceChunk.draft)
  embedded : ∃ call ∈ s.embeds,
    call.texts = (s.chunksOf version.id).map (fun chunk => chunk.draft.text) ∧
    (s.chunksOf version.id).map SourceChunk.embedding = call.vectors.map some

def SourceBooks.IsCurrent (s : SourceBooks) (version : SourceVersion) : Prop :=
  version ∈ s.versions ∧ s.source.currentVersionId = some version.id

def SearchableComplete (texts : KnowledgeTexts) (s : SourceBooks) : Prop :=
  ∀ version, s.IsCurrent version → s.source.state ∈ [SourceState.ready, .needsReview] →
    Complete texts s version

/-- A delivery that is committed hands content to the store whose hash the version has. -/
inductive Reuses (texts : KnowledgeTexts) (env : KnowledgeEnvironment) (s : SourceBooks) (id : Uuid)
    (version : SourceVersion) : Prop where
  | intro {job : KnowledgeJob} {x : Extraction} {t : SourceBooks} (hopen : Open s id job)
      (h : Hands texts env (s.started job) job.jobType x t)
      (hfind : s.findVersion x.contentHash = some version) (hflushed : Flushed env t)
      (hcommits : env.commits = true)

/-- What a version is that a delivery reuses. -/
def ReusesOnly (texts : KnowledgeTexts) (P : SourceBooks → SourceVersion → Prop)
    (s : SourceBooks) : SourceAction → Prop
  | .deliver id env => ∀ version, Reuses texts env s id version → P s version
  | _ => True

variable {α : Type} {id : Uuid} {jobType : KnowledgeJobType} {x : Extraction}
variable {drafts : List ChunkDraft} {vectors : List Embedding}

theorem filter_append_of_forall {p : α → Bool} {rows more : List α}
    (h : ∀ row ∈ more, p row = true) : (rows ++ more).filter p = rows.filter p ++ more := by
  rw [filter_append, filter_eq_self.2 h]

theorem filter_append_of_none {p : α → Bool} {rows more : List α}
    (h : ∀ row ∈ more, p row = false) : (rows ++ more).filter p = rows.filter p := by
  have hnone : more.filter p = [] :=
    filter_eq_nil_iff.2 fun row hrow => Bool.eq_false_iff.1 (h row hrow)
  rw [filter_append, hnone, append_nil]

section Rows

variable {texts : KnowledgeTexts} {env : KnowledgeEnvironment} {s t : SourceBooks}
  {version : SourceVersion}

/-- The rows of the version are the same, and no answer of a provider is forgotten. -/
structure KeepsVersion (s t : SourceBooks) (id : Uuid) : Prop where
  documents : t.documentsOf id = s.documentsOf id
  chunks : t.chunksOf id = s.chunksOf id
  embeds : ∀ call ∈ s.embeds, call ∈ t.embeds

theorem Complete.of_kept (h : Complete texts s version) (hkept : KeepsVersion s t version.id) :
    Complete texts t version := by
  constructor
  · rw [hkept.documents, hkept.chunks]
    exact h.document
  · rw [hkept.chunks]
    exact h.chunks
  · rw [hkept.chunks]
    exact h.numbered
  · rw [hkept.chunks]
    obtain ⟨call, hcall, htexts, hvectors⟩ := h.embedded
    exact ⟨call, hkept.embeds call hcall, htexts, hvectors⟩

theorem keepsVersion_of_rows {s t : SourceBooks} (hdocuments : t.documents = s.documents)
    (hchunks : t.chunks = s.chunks) (hembeds : t.embeds = s.embeds) (id : Uuid) :
    KeepsVersion s t id where
  documents := congrArg (List.filter _) hdocuments
  chunks := congrArg (List.filter _) hchunks
  embeds := by
    rw [hembeds]
    exact fun _ h => h

theorem Hands.keepsVersion (h : Hands texts env s jobType x t) (id : Uuid) : KeepsVersion s t id := by
  cases h with
  | upload h => exact ⟨rfl, rfl, fun _ h => h⟩
  | page h => exact ⟨rfl, rfl, fun _ h => h⟩

theorem documentsOf_withDocument (hid : id ≠ s.nextId) (x : Extraction) :
    (s.withDocument texts x).documentsOf id = s.documentsOf id := by
  refine filter_append_of_none fun row hrow => ?_
  rw [mem_singleton.1 hrow]
  exact decide_eq_false (Ne.symm hid)

theorem keepsVersion_withDocument (hid : id ≠ s.nextId) (x : Extraction) :
    KeepsVersion s (s.withDocument texts x) id :=
  ⟨documentsOf_withDocument hid x, rfl, fun _ h => h⟩

section

variable {β : Type} {as : List α} {bs : List β} (h : bs.length = as.length)

include h

theorem zipWith_fst : List.zipWith (fun a _ => a) as bs = as := by
  induction as generalizing bs with
  | nil => simp
  | cons a as ih =>
    cases bs with
    | nil => cases h
    | cons b bs => rw [zipWith_cons_cons, ih (Nat.succ.inj h)]

theorem zipWith_snd : List.zipWith (fun _ b => b) as bs = bs := by
  induction as generalizing bs with
  | nil => rw [length_eq_zero_iff.1 h, zipWith_nil_right]
  | cons a as ih =>
    cases bs with
    | nil => cases h
    | cons b bs => rw [zipWith_cons_cons, ih (Nat.succ.inj h)]

end

theorem complete_of_rows {document : SourceDocument} {grade model modelVersion : String}
    (hdocument : s.documentsOf version.id = [document])
    (hok : semanticChunks texts.toParsingTexts version.blocks = .ok drafts)
    (hchunks : s.chunksOf version.id = List.zipWith
      (chunkRow version.id document.id grade model modelVersion) drafts vectors)
    (hlength : vectors.length = drafts.length)
    (hembeds : ⟨drafts.map ChunkDraft.text, vectors⟩ ∈ s.embeds) : Complete texts s version := by
  have hdrafts : (s.chunksOf version.id).map SourceChunk.draft = drafts := by
    rw [hchunks, map_zipWith]
    exact zipWith_fst hlength
  refine ⟨⟨document, hdocument, fun chunk hchunk => ?_⟩, hdrafts ▸ hok, ?_, ⟨_, hembeds, ?_, ?_⟩⟩
  · rw [hchunks] at hchunk
    obtain ⟨i, hi, rfl⟩ := getElem_of_mem hchunk
    rw [getElem_zipWith]
    rfl
  · rw [hdrafts]
    exact semanticChunks_numbered hok
  · have htexts := congrArg (List.map ChunkDraft.text) hdrafts
    rw [map_map] at htexts
    exact htexts.symm
  · rw [hchunks, map_zipWith]
    have hmapped := congrArg (List.map some) (zipWith_snd hlength)
    rw [map_zipWith] at hmapped
    exact hmapped

/-- The ids of versions are given out in order. -/
def FreshIds (s : SourceBooks) : Prop := ∀ row ∈ s.versions, row.id < s.nextId

theorem filter_eq_nil_of_lineage {rows : List α} {owner : α → Uuid} (hfresh : FreshIds s)
    (hrows : ∀ row ∈ rows, owner row ∈ s.versions.map SourceVersion.id) :
    rows.filter (fun row => owner row = s.nextId) = [] := by
  refine filter_eq_nil_iff.2 fun row hrow => ?_
  obtain ⟨version, hversion, hid⟩ := mem_map.1 (hrows row hrow)
  have hlt := hfresh version hversion
  rw [hid] at hlt
  simpa using Nat.ne_of_lt hlt

theorem documentsOf_new (hlineage : Lineage s) (hfresh : FreshIds s) (x : Extraction) :
    (s.withDocument texts x).documentsOf s.nextId =
      [parsedDocument texts s.source x (s.nextId + 1) s.nextId] := by
  have hold : s.documents.filter (fun row => row.sourceVersionId = s.nextId) = [] :=
    filter_eq_nil_of_lineage hfresh hlineage.documents
  refine (filter_append_of_forall fun row hrow => ?_).trans (congrArg (· ++ _) hold)
  rw [mem_singleton.1 hrow]
  exact decide_eq_true rfl

def SourceBooks.newVersion (s : SourceBooks) (x : Extraction) : SourceVersion :=
  ⟨s.nextId, s.nextVersion, x.contentHash, some x.rawObjectKey, x.usedOcr, x.parsed.blocks⟩

theorem acceptedVectors_ok {count : Nat} {answer : Except AdapterError (List Embedding)}
    (h : acceptedVectors count answer = .ok vectors) : vectors.length = count := by
  obtain ⟨_, -, h⟩ := bind_ok h
  obtain ⟨_, hlength, h⟩ := bind_ok h
  cases h
  exact (require_ok hlength).1

/-- What the store adds for new content is complete. -/
theorem complete_withChunks (hlineage : Lineage s) (hfresh : FreshIds s)
    (hembeds : Embeds texts env x drafts vectors) :
    Complete texts (s.withChunks texts env x drafts vectors) (s.newVersion x) := by
  have hold : s.chunks.filter (fun row => row.sourceVersionId = s.nextId) = [] :=
    filter_eq_nil_of_lineage hfresh hlineage.chunks
  have hchunks : (s.withChunks texts env x drafts vectors).chunksOf s.nextId =
      List.zipWith (chunkRow s.nextId (s.nextId + 1) s.source.qualityGrade env.embeddingModel
        env.embeddingVersion) drafts vectors := by
    refine (filter_append_of_forall fun row hrow => ?_).trans (congrArg (· ++ _) hold)
    exact decide_eq_true (mem_zipWith_chunkRow hrow)
  exact complete_of_rows (documentsOf_new hlineage hfresh x) hembeds.chunks hchunks
    (acceptedVectors_ok hembeds.answer) (mem_append_right _ (mem_singleton_self _))

end Rows

/-- The versions have ids of their own, and the current one is one of them. -/
structure VersionsTracked (s : SourceBooks) : Prop where
  lineage : Lineage s
  fresh : FreshIds s
  keyed : Keyed SourceVersion.id s.versions
  linked : ∀ id, s.source.currentVersionId = some id → id ∈ s.versions.map SourceVersion.id

section Tracked

variable {texts : KnowledgeTexts} {env : KnowledgeEnvironment} {s t : SourceBooks}
  {version : SourceVersion} {job : KnowledgeJob}

theorem VersionsTracked.of_same (h : VersionsTracked s) (hrows : SameRows s t) (hid : s.nextId ≤ t.nextId)
    (hcurrent : t.source.currentVersionId = s.source.currentVersionId) : VersionsTracked t where
  lineage := h.lineage.of_same hrows
  fresh := by
    unfold FreshIds
    rw [hrows.versions]
    exact fun row hrow => Nat.lt_of_lt_of_le (h.fresh row hrow) hid
  keyed := by
    rw [hrows.versions]
    exact h.keyed
  linked := by
    rw [hrows.versions, hcurrent]
    exact h.linked

section

variable (h : Hands texts env s jobType x t)

include h

theorem Hands.current : t.source.currentVersionId = s.source.currentVersionId := by
  cases h <;> rfl

theorem Hands.nextId : t.nextId = s.nextId := by
  cases h <;> rfl

theorem Hands.findVersion (contentHash : String) : t.findVersion contentHash = s.findVersion contentHash :=
  congrArg (List.find? _) h.sameRows.versions

end

theorem VersionsTracked.hands (h : VersionsTracked s) (ht : Hands texts env s jobType x t) :
    VersionsTracked t :=
  h.of_same ht.sameRows (Nat.le_of_eq ht.nextId.symm) ht.current

theorem findVersion_mem {contentHash : String} (h : s.findVersion contentHash = some version) :
    version ∈ s.versions ∧ version.contentHash = contentHash := by
  refine ⟨mem_of_find?_eq_some h, ?_⟩
  simpa using find?_some h

section

variable (h : VersionsTracked s)

include h

theorem VersionsTracked.added (hlineage : Lineage t)
    (hversions : t.versions = s.versions ++ [s.newVersion x]) (hid : s.nextId < t.nextId)
    (hcurrent : t.source.currentVersionId = s.source.currentVersionId ∨
      t.source.currentVersionId = some s.nextId) : VersionsTracked t where
  lineage := hlineage
  fresh := by
    unfold FreshIds
    rw [hversions]
    intro row hrow
    rcases mem_append.1 hrow with hrow | hrow
    · exact Nat.lt_trans (h.fresh row hrow) hid
    · rw [mem_singleton.1 hrow]
      exact hid
  keyed := by
    rw [hversions]
    exact h.keyed.append_row fun row hrow => Nat.ne_of_lt (h.fresh row hrow)
  linked := by
    intro id hid
    rw [hversions, map_append]
    rcases hcurrent with hcurrent | hcurrent
    · exact mem_append_left _ (h.linked id (hcurrent.symm.trans hid))
    · cases hcurrent.symm.trans hid
      exact mem_append_right _ (mem_singleton_self _)

theorem VersionsTracked.withDocument (x : Extraction) : VersionsTracked (s.withDocument texts x) :=
  h.added (h.lineage.withDocument x) rfl (Nat.lt_succ_of_lt (Nat.lt_succ_self _)) (.inl rfl)

theorem VersionsTracked.withChunks (x : Extraction) (drafts : List ChunkDraft) (vectors : List Embedding) :
    VersionsTracked (s.withChunks texts env x drafts vectors) :=
  h.added (h.lineage.withChunks x drafts vectors) rfl (Nat.lt_succ_of_lt (Nat.lt_succ_self _)) (.inr rfl)

theorem VersionsTracked.adopt (hmem : version ∈ s.versions) (state : SourceState) :
    VersionsTracked (s.changeSource (.adopt version.id state)) where
  lineage := h.lineage.of_same ⟨rfl, rfl, rfl⟩
  fresh := h.fresh
  keyed := h.keyed
  linked := by
    intro id hid
    cases hid
    exact mem_map_of_mem hmem

end

theorem versionsTracked_nil (hversions : s.versions = []) (hdocuments : s.documents = [])
    (hchunks : s.chunks = []) (hcurrent : s.source.currentVersionId = none) : VersionsTracked s where
  lineage := lineage_nil hdocuments hchunks
  fresh := by
    unfold FreshIds
    rw [hversions]
    exact nofun
  keyed := by
    rw [hversions]
    exact nodup_nil
  linked := by
    rw [hcurrent]
    exact nofun

section

variable (h : VersionsTracked s)

include h

theorem VersionsTracked.left (ht : Left texts env s jobType t) : VersionsTracked t := by
  cases ht with
  | touched ht =>
    obtain ⟨state, objects, rfl⟩ := ht
    exact h.of_same ⟨rfl, rfl, rfl⟩ (Nat.le_refl _) rfl
  | incomplete ht hnone => exact (h.hands ht).withDocument _

theorem VersionsTracked.written (ht : Written texts env s job t) : VersionsTracked t := by
  cases ht with
  | failed ht => exact (h.left ht).of_same ⟨rfl, rfl, rfl⟩ (Nat.le_refl _) rfl
  | reviewed hparse ht => exact h.of_same ⟨rfl, rfl, rfl⟩ (Nat.le_refl _) rfl
  | adopted ht hfind =>
    have hadopted := (h.hands ht).adopt (findVersion_mem hfind).1 .ready
    exact hadopted.of_same ⟨rfl, rfl, rfl⟩ (Nat.le_refl _) rfl
  | stored ht hnone hembeds =>
    exact ((h.hands ht).withChunks _ _ _).of_same ⟨rfl, rfl, rfl⟩ (Nat.le_refl _) rfl
  | erased hdelete ht hholds =>
    obtain ⟨hversions, hdocuments, hchunks⟩ := SourceBooks.erased_rows h.lineage
    exact versionsTracked_nil hversions hdocuments hchunks rfl

theorem VersionsTracked.started (job : KnowledgeJob) :
    VersionsTracked (s.started job) := h.of_same ⟨rfl, rfl, rfl⟩ (Nat.le_refl _) rfl

theorem VersionsTracked.requested (ht : RequestEnd s t) : VersionsTracked t := by
  cases ht with
  | refused => exact h
  | queued jobType hlive hstate horigin hparse hdeleted =>
    exact h.of_same ⟨rfl, rfl, rfl⟩ (Nat.le_succ _) horigin.current

theorem versionsTracked_deliver (env : KnowledgeEnvironment) (id : Uuid) :
    VersionsTracked (deliver texts env id s) := by
  have hend := deliver_ends texts env id s
  generalize deliver texts env id s = t at hend ⊢
  cases hend with
  | rolledBack objects => exact h.of_same ⟨rfl, rfl, rfl⟩ (Nat.le_refl _) rfl
  | written hcommits hopen hflushed ht => exact (h.started _).written ht

theorem versionsTracked_step (a : SourceAction) : VersionsTracked (stepSource texts s a) := by
  rcases stepSource_cases texts s a with hend | ⟨id, env, rfl⟩
  · exact h.requested hend
  · exact versionsTracked_deliver h env id

end

theorem versionsTracked_started {source : KnowledgeSource} (h : Started texts source s)
    (hcurrent : source.currentVersionId = none) : VersionsTracked s := by
  have hlineage := lineage_started h
  cases h with
  | queued => exact versionsTracked_nil rfl rfl rfl hcurrent
  | inline content digest drafts hdrafts =>
    refine ⟨hlineage, fun row hrow => ?_, nodup_singleton _, fun id hid => ?_⟩
    · rw [mem_singleton.1 hrow]
      exact Nat.lt_succ_of_lt (Nat.lt_succ_self 1)
    · cases hid
      exact mem_singleton_self _

theorem versionsTracked_born (h : Born texts s) : VersionsTracked s := by
  cases h with
  | created h =>
    obtain ⟨source, hstarted, -, -, hcurrent⟩ := createSource_started h
    exact versionsTracked_started hstarted hcurrent
  | initiated objects hobjects h =>
    obtain ⟨source, rfl, -, -, -, -, hcurrent, -⟩ := initiateFileUpload_ok h
    exact versionsTracked_nil rfl rfl rfl hcurrent

end Tracked

/-- The current version is complete, whatever the state of the source. -/
def CurrentComplete (texts : KnowledgeTexts) (s : SourceBooks) : Prop :=
  ∀ version, s.IsCurrent version → Complete texts s version

section Current

variable {texts : KnowledgeTexts} {env : KnowledgeEnvironment} {s t : SourceBooks}
  {version : SourceVersion} {job : KnowledgeJob}

theorem CurrentComplete.of_same (h : CurrentComplete texts s) (hrows : SameRows s t)
    (hembeds : t.embeds = s.embeds) (hcurrent : t.source.currentVersionId = s.source.currentVersionId) :
    CurrentComplete texts t := by
  rintro version ⟨hmem, hid⟩
  rw [hrows.versions] at hmem
  rw [hcurrent] at hid
  exact (h version ⟨hmem, hid⟩).of_kept (keepsVersion_of_rows hrows.documents hrows.chunks hembeds version.id)

theorem Hands.embeds (h : Hands texts env s jobType x t) : t.embeds = s.embeds := by
  cases h <;> rfl

/-- While another version is added, the current one stays the old one and keeps its rows. -/
theorem CurrentComplete.withDocument (h : CurrentComplete texts s) (htracked : VersionsTracked s)
    (x : Extraction) : CurrentComplete texts (s.withDocument texts x) := by
  rintro version ⟨hmem, hid⟩
  obtain ⟨row, hrow, hrowid⟩ := mem_map.1 (htracked.linked version.id hid)
  have hne : version.id ≠ s.nextId := Nat.ne_of_lt (hrowid ▸ htracked.fresh row hrow)
  rcases mem_append.1 hmem with hold | hnew
  · exact (h version ⟨hold, hid⟩).of_kept (keepsVersion_withDocument hne x)
  · rw [mem_singleton.1 hnew] at hne
    exact absurd rfl hne

theorem currentComplete_withChunks (htracked : VersionsTracked s)
    (hembeds : Embeds texts env x drafts vectors) :
    CurrentComplete texts (s.withChunks texts env x drafts vectors) := by
  rintro version ⟨hmem, hid⟩
  rcases mem_append.1 hmem with hold | hnew
  · have hnew : s.nextId = version.id := Option.some.inj hid
    exact absurd hnew (Nat.ne_of_gt (htracked.fresh version hold))
  · rw [mem_singleton.1 hnew]
    exact complete_withChunks htracked.lineage htracked.fresh hembeds

theorem currentComplete_adopt (htracked : VersionsTracked s) (hmem : version ∈ s.versions)
    (hcomplete : Complete texts s version) (state : SourceState) :
    CurrentComplete texts (s.changeSource (.adopt version.id state)) := by
  rintro other ⟨hother, hid⟩
  have hsame : other = version := htracked.keyed.eq_of_key_eq hother hmem (Option.some.inj hid).symm
  rw [hsame]
  exact hcomplete.of_kept ⟨rfl, rfl, fun _ h => h⟩

theorem currentComplete_nil (hversions : s.versions = []) : CurrentComplete texts s := by
  rintro version ⟨hmem, -⟩
  rw [hversions] at hmem
  cases hmem

section

variable (h : CurrentComplete texts s) (htracked : VersionsTracked s)

include h htracked

theorem CurrentComplete.left (ht : Left texts env s jobType t) : CurrentComplete texts t := by
  cases ht with
  | touched ht =>
    obtain ⟨state, objects, rfl⟩ := ht
    exact h.of_same ⟨rfl, rfl, rfl⟩ rfl rfl
  | incomplete ht hnone =>
    exact (h.of_same ht.sameRows ht.embeds ht.current).withDocument (htracked.hands ht) _

/-- The rows that a job writes keep the current version complete when the version is that it makes
the current one. -/
theorem CurrentComplete.written
    (hreused : ∀ x u version, Hands texts env s job.jobType x u →
      s.findVersion x.contentHash = some version → Flushed env u → Complete texts s version)
    (hflushed : Flushed env t) (ht : Written texts env s job t) : CurrentComplete texts t := by
  cases ht with
  | failed ht => exact (h.left htracked ht).of_same ⟨rfl, rfl, rfl⟩ rfl rfl
  | reviewed hparse ht => exact h.of_same ⟨rfl, rfl, rfl⟩ rfl rfl
  | adopted ht hfind =>
    have hcomplete := hreused _ _ _ ht (ht.findVersion _ ▸ hfind) hflushed
    have hadopted := currentComplete_adopt (htracked.hands ht) (findVersion_mem hfind).1
      (hcomplete.of_kept (ht.keepsVersion _)) .ready
    exact hadopted.of_same ⟨rfl, rfl, rfl⟩ rfl rfl
  | stored ht hnone hembeds =>
    rename_i x u drafts vectors
    have hstored : CurrentComplete texts (u.withChunks texts env x drafts vectors) :=
      currentComplete_withChunks (htracked.hands ht) hembeds
    exact hstored.of_same ⟨rfl, rfl, rfl⟩ rfl rfl
  | erased hdelete ht hholds => exact currentComplete_nil rfl

theorem currentComplete_step {a : SourceAction} (hreuses : ReusesOnly texts (Complete texts) s a) :
    CurrentComplete texts (stepSource texts s a) := by
  rcases stepSource_cases texts s a with hend | ⟨id, env, rfl⟩
  · generalize stepSource texts s a = t at hend ⊢
    cases hend with
    | refused => exact h
    | queued jobType hlive hstate horigin hparse hdeleted =>
      exact h.of_same ⟨rfl, rfl, rfl⟩ rfl horigin.current
  · have hend := deliver_ends texts env id s
    show CurrentComplete texts (deliver texts env id s)
    generalize deliver texts env id s = t at hend ⊢
    cases hend with
    | rolledBack objects => exact h.of_same ⟨rfl, rfl, rfl⟩ rfl rfl
    | written hcommits hopen hflushed ht =>
      rename_i job
      have hstarted : CurrentComplete texts (s.started job) := h.of_same ⟨rfl, rfl, rfl⟩ rfl rfl
      refine hstarted.written (htracked.started job) (fun x u version hhands hfind hflush => ?_) hflushed ht
      exact (hreuses version ⟨hopen, hhands, hfind, hflush, hcommits⟩).of_kept ⟨rfl, rfl, fun _ h => h⟩

end

/-- A delivery that reuses a version makes it the current one of a ready source. -/
theorem Reuses.deliver (h : Reuses texts env s id version) :
    (deliver texts env id s).IsCurrent version ∧ (deliver texts env id s).source.state = .ready ∧
      (deliver texts env id s).documents = s.documents ∧
      (deliver texts env id s).chunks = s.chunks ∧ (deliver texts env id s).embeds = s.embeds := by
  obtain ⟨hopen, hhands, hfind, hflushed, hcommits⟩ := h
  rename_i job x u
  have hadopted := deliver_adopts hopen hhands ((hhands.findVersion _).trans hfind) hflushed hcommits
  have hrows := hhands.sameRows
  rw [hadopted]
  refine ⟨⟨?_, rfl⟩, rfl, hrows.documents, hrows.chunks, hhands.embeds⟩
  show version ∈ u.versions
  rw [hrows.versions]
  exact (findVersion_mem hfind).1

theorem searchable_step_iff (h : CurrentComplete texts s) (htracked : VersionsTracked s)
    (a : SourceAction) : SearchableComplete texts (stepSource texts s a) ↔
      ReusesOnly texts (Complete texts) s a := by
  constructor
  · intro hsearchable
    cases a with
    | deliver id env =>
      intro version hreuses
      obtain ⟨hcurrent, hready, hdocuments, hchunks, hembeds⟩ := hreuses.deliver
      have hcomplete := hsearchable version hcurrent (hready ▸ mem_cons_self)
      exact hcomplete.of_kept (keepsVersion_of_rows hdocuments.symm hchunks.symm hembeds.symm version.id)
    | completeUpload objectKey contentHash env => trivial
    | sync env => trivial
    | delete env => trivial
  · intro hreuses version hcurrent _
    exact currentComplete_step h htracked hreuses version hcurrent

/-- An inline version is complete: the local provider answers every text. -/
theorem complete_inline (source : KnowledgeSource) (content digest : String)
    (hdrafts : semanticChunks texts.toParsingTexts (inlineBlocks content) = .ok drafts) :
    Complete texts (inlineVersion texts { source := source } content digest drafts)
      ⟨1, 1, digest, none, false, inlineBlocks content⟩ := by
  have hdocument : (inlineVersion texts { source := source } content digest drafts).documentsOf 1 =
      [inlineDocument texts source content 2 1] := rfl
  have hchunks : (inlineVersion texts { source := source } content digest drafts).chunksOf 1 =
      List.zipWith (chunkRow 1 2 source.qualityGrade texts.hashModel texts.hashVersion) drafts
        ((drafts.map ChunkDraft.text).map texts.hashEmbed) :=
    filter_eq_self.2 fun row hrow => decide_eq_true (mem_zipWith_chunkRow hrow)
  refine complete_of_rows hdocument hdrafts hchunks ?_ (mem_singleton_self _)
  rw [length_map, length_map]

theorem currentComplete_born (h : Born texts s) : CurrentComplete texts s := by
  cases h with
  | created h =>
    obtain ⟨source, hstarted, -, -, -⟩ := createSource_started h
    cases hstarted with
    | queued => exact currentComplete_nil rfl
    | inline content digest drafts hdrafts =>
      rintro version ⟨hmem, -⟩
      rw [mem_singleton.1 hmem]
      exact complete_inline source content digest hdrafts
  | initiated objects hobjects h =>
    obtain ⟨source, rfl, -⟩ := initiateFileUpload_ok h
    exact currentComplete_nil rfl

end Current

/-- In every run of a source, the current version of a searchable source is complete in every state
exactly when no delivery reuses a version that is not. -/
theorem searchable_complete_iff {texts : KnowledgeTexts} {s : SourceBooks} (hs : Born texts s)
    (actions : List SourceAction) :
    (∀ before, before <+: actions → SearchableComplete texts (run (stepSource texts) s before)) ↔
      Along (stepSource texts) (ReusesOnly texts (Complete texts)) s actions := by
  refine throughout_iff_along_of_invariant (I := fun s => CurrentComplete texts s ∧
    VersionsTracked s) (R := fun _ _ => True) (stepSource texts) ?_ ?_ ?_ ?_ ?_
  · exact fun s h version hcurrent _ => h.1 version hcurrent
  · exact fun s a h _ => searchable_step_iff h.1 h.2 a
  · exact fun s a h _ hreuses => ⟨currentComplete_step h.1 h.2 hreuses, versionsTracked_step h.2 a⟩
  · exact ⟨currentComplete_born hs, versionsTracked_born hs⟩
  · exact along_of_always _ (fun _ _ => trivial) _ _

/-- A source without versions has none to reuse. -/
theorem reusesOnly_of_nil {texts : KnowledgeTexts} {P : SourceBooks → SourceVersion → Prop}
    {s : SourceBooks} (hversions : s.versions = []) (a : SourceAction) : ReusesOnly texts P s a := by
  cases a with
  | deliver id env =>
    rintro version ⟨hopen, hhands, hfind, hflushed, hcommits⟩
    have hmem := (findVersion_mem hfind).1
    rw [hversions] at hmem
    cases hmem
  | completeUpload objectKey contentHash env => trivial
  | sync env => trivial
  | delete env => trivial

theorem searchable_complete_sample : SearchableComplete sampleKnowledgeTexts
    (run (stepSource sampleKnowledgeTexts) (sampleSource 0)
      [.deliver 1 (sampleKnowledgeEnvironment [1])]) :=
  (searchable_complete_iff (.created (createSource_sample 0))
    [.deliver 1 (sampleKnowledgeEnvironment [1])]).2 ⟨reusesOnly_of_nil rfl _, trivial⟩ _
    prefix_rfl

/-- The first delivery commits a version without chunks, and the retry makes it searchable. -/
theorem retried_incomplete : Born sampleKnowledgeTexts (sampleSource 0) ∧
    ¬SearchableComplete sampleKnowledgeTexts
      (run (stepSource sampleKnowledgeTexts) (sampleSource 0)
        [.deliver 1 embeddingUnavailable, .deliver 1 (sampleKnowledgeEnvironment [1])]) := by
  refine ⟨.created (createSource_sample 0), fun hsearchable => ?_⟩
  have hcurrent : (run (stepSource sampleKnowledgeTexts) (sampleSource 0)
      [.deliver 1 embeddingUnavailable, .deliver 1 (sampleKnowledgeEnvironment [1])]).IsCurrent
      ⟨2, 1, sampleKnowledgeTexts.bytesHash (samplePdf [1]),
        some ("snapshots/" ++ sampleKnowledgeTexts.bytesHash (samplePdf [1])), false,
        [{ text := PythonText.ofString "text", locator := [("page", .number 1)] }]⟩ := by
    constructor
    · decide +kernel
    · decide +kernel
  have hcomplete := hsearchable _ hcurrent (by decide +kernel)
  exact absurd hcomplete.chunks (by decide +kernel)

end BlogOps.Knowledge
