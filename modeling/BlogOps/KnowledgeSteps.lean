import BlogOps.KnowledgeDeliveries

/-!
# The steps of a source

What requests, deliveries and the creation of a source leave: rows that belong to its versions, and a
queued job for each request.
-/

namespace BlogOps.Knowledge

open EffectRules KeyedTables Outbound TransitionRuns List

/-- Every document and every chunk belongs to a version of the source. -/
structure Lineage (s : SourceBooks) : Prop where
  documents : ∀ row ∈ s.documents, row.sourceVersionId ∈ s.versions.map SourceVersion.id
  chunks : ∀ row ∈ s.chunks, row.sourceVersionId ∈ s.versions.map SourceVersion.id

variable {jobType : KnowledgeJobType}

section Rows

variable {texts : KnowledgeTexts} {env : KnowledgeEnvironment} {s t : SourceBooks} {id : Uuid}

/-- The version, document and chunk rows are the same. -/
structure SameRows (s t : SourceBooks) : Prop where
  versions : t.versions = s.versions
  documents : t.documents = s.documents
  chunks : t.chunks = s.chunks

theorem Lineage.of_same (h : Lineage s) (hst : SameRows s t) : Lineage t := by
  constructor
  · rw [hst.documents, hst.versions]
    exact h.documents
  · rw [hst.chunks, hst.versions]
    exact h.chunks

theorem Hands.sameRows {x : Extraction} (h : Hands texts env s jobType x t) : SameRows s t := by
  cases h with
  | upload h => exact ⟨rfl, rfl, rfl⟩
  | page h => exact ⟨rfl, rfl, rfl⟩

theorem Lineage.withDocument (h : Lineage s) (x : Extraction) : Lineage (s.withDocument texts x) := by
  have hids : (s.withDocument texts x).versions.map SourceVersion.id =
      s.versions.map SourceVersion.id ++ [s.nextId] := map_append
  constructor
  · rw [hids]
    intro row hrow
    rcases mem_append.1 hrow with hrow | hrow
    · exact mem_append_left _ (h.documents row hrow)
    · rw [mem_singleton.1 hrow]
      exact mem_append_right _ (mem_singleton_self _)
  · rw [hids]
    exact fun row hrow => mem_append_left _ (h.chunks row hrow)

theorem mem_zipWith_chunkRow {versionId documentId : Uuid} {grade model version : String}
    {drafts : List ChunkDraft} {vectors : List Embedding} {row : SourceChunk}
    (h : row ∈ List.zipWith (chunkRow versionId documentId grade model version) drafts vectors) :
    row.sourceVersionId = versionId := by
  obtain ⟨i, hi, rfl⟩ := getElem_of_mem h
  rw [getElem_zipWith]
  rfl

theorem Lineage.withChunks (h : Lineage s) (x : Extraction) (drafts : List ChunkDraft)
    (vectors : List Embedding) :
    Lineage (s.withChunks texts env x drafts vectors) := by
  have hdocument : Lineage (s.withDocument texts x) := h.withDocument x
  constructor
  · exact hdocument.documents
  · intro row hrow
    rcases mem_append.1 hrow with hrow | hrow
    · exact hdocument.chunks row hrow
    · rw [mem_zipWith_chunkRow hrow]
      exact mem_map_of_mem (f := SourceVersion.id)
        (mem_append_right s.versions (mem_singleton_self _))

theorem SourceBooks.erased_rows (h : Lineage s) :
    s.erased.versions = [] ∧ s.erased.documents = [] ∧ s.erased.chunks = [] := by
  refine ⟨rfl, filter_eq_nil_iff.2 fun row hrow => ?_, filter_eq_nil_iff.2 fun row hrow => ?_⟩
  · simpa using h.documents row hrow
  · simpa using h.chunks row hrow

theorem lineage_nil {s : SourceBooks} (hdocuments : s.documents = []) (hchunks : s.chunks = []) :
    Lineage s := by
  constructor
  · rw [hdocuments]
    exact nofun
  · rw [hchunks]
    exact nofun

theorem Lineage.left (h : Lineage s) (ht : Left texts env s jobType t) : Lineage t := by
  cases ht with
  | touched ht =>
    obtain ⟨state, objects, rfl⟩ := ht
    exact h.of_same ⟨rfl, rfl, rfl⟩
  | incomplete ht hnone => exact (h.of_same ht.sameRows).withDocument _

theorem Lineage.written {job : KnowledgeJob} (h : Lineage s) (ht : Written texts env s job t) :
    Lineage t := by
  cases ht with
  | failed ht => exact (h.left ht).of_same ⟨rfl, rfl, rfl⟩
  | reviewed hparse ht => exact h.of_same ⟨rfl, rfl, rfl⟩
  | adopted ht hfind => exact (h.of_same ht.sameRows).of_same ⟨rfl, rfl, rfl⟩
  | stored ht hnone hembeds =>
    exact ((h.of_same ht.sameRows).withChunks _ _ _).of_same ⟨rfl, rfl, rfl⟩
  | erased hdelete ht hholds =>
    obtain ⟨-, hdocuments, hchunks⟩ := SourceBooks.erased_rows h
    exact lineage_nil hdocuments hchunks

theorem Lineage.started (h : Lineage s) (job : KnowledgeJob) : Lineage (s.started job) :=
  h.of_same ⟨rfl, rfl, rfl⟩

theorem lineage_deliver (h : Lineage s) (env : KnowledgeEnvironment) (id : Uuid) :
    Lineage (deliver texts env id s) := by
  have hend := deliver_ends texts env id s
  generalize deliver texts env id s = t at hend ⊢
  cases hend with
  | rolledBack objects => exact h.of_same ⟨rfl, rfl, rfl⟩
  | written hcommits hopen hflushed ht =>
    exact (h.started _).written ht

theorem Open.mem {id : Uuid} {job : KnowledgeJob} (h : Open s id job) : job ∈ s.jobs ∧ job.id = id := by
  refine ⟨mem_of_find?_eq_some h.find, ?_⟩
  simpa using find?_some h.find

/-- A delivery of a job that is not open leaves everything as it is. -/
theorem deliver_closed (h : ∀ job, ¬Open s id job) : deliver texts env id s = s := by
  unfold deliver processKnowledgeJob
  rw [bind_run_ok (get_run s)]
  cases hfind : s.find id with
  | none => rfl
  | some job =>
    have hstate : job.state ∉ openStates := fun hopen => h job ⟨hfind, hopen⟩
    dsimp only
    rw [if_pos hstate]
    split
    · cases env.commits <;> rfl
    · rfl

end Rows

/-- What no request changes of a source. -/
structure SameOrigin (old new : KnowledgeSource) : Prop where
  id : new.id = old.id
  sourceType : new.sourceType = old.sourceType
  uri : new.uri = old.uri
  canonicalUriHash : new.canonicalUriHash = old.canonicalUriHash
  upload : new.metadata.upload = old.metadata.upload
  current : new.currentVersionId = old.currentVersionId

/-- What a request leaves: the source as it was, or a changed source with a queued job. -/
inductive RequestEnd (s : SourceBooks) : SourceBooks → Prop where
  | refused : RequestEnd s s
  | queued {source : KnowledgeSource} (jobType : KnowledgeJobType)
      (hlive : s.source.deletedAt = none)
      (hstate : source.state ∈ [SourceState.scanning, .queued, .deleting])
      (horigin : SameOrigin s.source source)
      (hparse : jobType = .parse → s.source.sourceType = .file)
      (hdeleted : jobType = .delete ↔ source.deletedAt ≠ none) :
      RequestEnd s (({ s with source := source } : SourceBooks).addJob jobType)

section Requests

variable {s : SourceBooks}

section

variable {env : RequestEnvironment} {t : SourceBooks}

theorem queueJob_ok (h : queueJob env s jobType = .ok t) : t = s.addJob jobType := by
  obtain ⟨_, -, h⟩ := bind_ok h
  cases h
  rfl

theorem completeFileUpload_ok {objectKey contentHash : String}
    (h : completeFileUpload env objectKey contentHash s = .ok t) :
    s.source.deletedAt = none ∧ s.source.sourceType = .file ∧
      t = (s.changeSource (.scanUpload contentHash)).addJob .parse := by
  obtain ⟨_, hlive, h⟩ := bind_ok h
  obtain ⟨_, hfile, h⟩ := bind_ok h
  obtain ⟨_, -, h⟩ := bind_ok h
  obtain ⟨_, -, h⟩ := bind_ok h
  exact ⟨require_ok hlive, (require_ok hfile).1, queueJob_ok h⟩

theorem requestSync_ok (h : requestSync env s = .ok t) :
    s.source.deletedAt = none ∧ t = (s.changeSource (.enter .queued)).addJob .fetch := by
  obtain ⟨_, hlive, h⟩ := bind_ok h
  obtain ⟨_, -, h⟩ := bind_ok h
  obtain ⟨_, -, h⟩ := bind_ok h
  exact ⟨require_ok hlive, queueJob_ok h⟩

theorem requestDelete_ok (h : requestDelete env s = .ok t) :
    s.source.deletedAt = none ∧ t = (s.changeSource (.tombstone env.now)).addJob .delete := by
  obtain ⟨_, hlive, h⟩ := bind_ok h
  exact ⟨require_ok hlive, queueJob_ok h⟩

end

theorem answer_ends {commits : Bool} {result : Except Failure SourceBooks}
    (h : ∀ t, result = .ok t → RequestEnd s t) : RequestEnd s (s.answer commits result) := by
  cases result with
  | error failure => exact .refused
  | ok t =>
    cases commits with
    | false => exact .refused
    | true => exact h t rfl

theorem stepSource_cases (texts : KnowledgeTexts) (s : SourceBooks) (a : SourceAction) :
    RequestEnd s (stepSource texts s a) ∨ ∃ id env, a = .deliver id env := by
  cases a with
  | completeUpload objectKey contentHash env =>
    refine .inl (answer_ends fun t ht => ?_)
    obtain ⟨hlive, hfile, rfl⟩ := completeFileUpload_ok ht
    exact .queued .parse hlive mem_cons_self ⟨rfl, rfl, rfl, rfl, rfl, rfl⟩ (fun _ => hfile)
      ⟨nofun, fun h => absurd hlive h⟩
  | sync env =>
    refine .inl (answer_ends fun t ht => ?_)
    obtain ⟨hlive, rfl⟩ := requestSync_ok ht
    exact .queued .fetch hlive (mem_cons_of_mem _ mem_cons_self)
      ⟨rfl, rfl, rfl, rfl, rfl, rfl⟩ nofun ⟨nofun, fun h => absurd hlive h⟩
  | delete env =>
    refine .inl (answer_ends fun t ht => ?_)
    obtain ⟨hlive, rfl⟩ := requestDelete_ok ht
    refine .queued .delete hlive ?_ ⟨rfl, rfl, rfl, rfl, rfl, rfl⟩ nofun ⟨nofun, fun _ => rfl⟩
    exact mem_cons_of_mem _ (mem_cons_of_mem _ mem_cons_self)
  | deliver id env => exact .inr ⟨id, env, rfl⟩

end Requests

section Born

variable {texts : KnowledgeTexts} {s : SourceBooks}

/-- A created source has one queued fetch job, or its content in one inline version. -/
inductive Started (texts : KnowledgeTexts) (source : KnowledgeSource) : SourceBooks → Prop where
  | queued : Started texts source
      ((({ source := source } : SourceBooks).changeSource (.enter .queued)).addJob .fetch)
  | inline (content digest : String) (drafts : List ChunkDraft)
      (hdrafts : semanticChunks texts.toParsingTexts (inlineBlocks content) = .ok drafts) :
      Started texts source (inlineVersion texts { source := source } content digest drafts)

theorem startSource_started {content : String} {source : KnowledgeSource}
    (h : startSource texts content source = .ok s) : Started texts source s := by
  unfold startSource at h
  split at h
  · cases h
    exact .queued
  · obtain ⟨drafts, hdrafts, h⟩ := bind_ok h
    cases h
    exact .inline _ _ drafts hdrafts

theorem createSource_started {refuses : Bool} {rows : List KnowledgeSource} {id : Uuid}
    {data : SourceCreate} (h : createSource texts refuses rows id data = .ok s) :
    ∃ source, Started texts source s ∧ source.id = id ∧ source.deletedAt = none ∧
      source.currentVersionId = none := by
  obtain ⟨_, -, h⟩ := bind_ok h
  obtain ⟨canonical, -, h⟩ := bind_ok h
  obtain ⟨_, -, h⟩ := bind_ok h
  obtain ⟨_, -, h⟩ := bind_ok h
  exact ⟨_, startSource_started h, rfl, rfl, rfl⟩

theorem lineage_started {source : KnowledgeSource} (h : Started texts source s) : Lineage s := by
  cases h with
  | queued => exact lineage_nil rfl rfl
  | inline content digest drafts hdrafts =>
    constructor
    · intro row hrow
      rw [mem_singleton.1 hrow]
      exact mem_singleton_self _
    · intro row hrow
      rw [mem_zipWith_chunkRow hrow]
      exact mem_singleton_self _

theorem initiateFileUpload_ok {refuses : Bool} {granted : String} {id : Uuid}
    {data : UploadInitiateRequest} (h : initiateFileUpload texts refuses granted id data = .ok s) :
    ∃ source : KnowledgeSource, s = { source := source } ∧ source.id = id ∧
      source.sourceType = .file ∧ source.canonicalUriHash = none ∧ source.deletedAt = none ∧
      source.currentVersionId = none ∧ source.state = .uploading := by
  obtain ⟨_, -, h⟩ := bind_ok h
  obtain ⟨_, -, h⟩ := bind_ok h
  cases h
  exact ⟨_, rfl, rfl, rfl, rfl, rfl, rfl, rfl⟩

end Born

/-- A PDF of the sample: the signature and what follows. -/
def samplePdf (body : List UInt8) : List UInt8 := pdfSignature ++ body

/-- A library of PDFs of one page with text; a PDF that ends in a zero byte has another page without. -/
def sampleKnowledgeTexts : KnowledgeTexts where
  isWord := Char.isAlphanum
  isDigit := Char.isDigit
  textHash text := text
  suffixOf _ := ".pdf"
  mediaType contentType := contentType
  pathName _ := "page.pdf"
  zipNames _ := none
  parse _ _ data := .ok {
    title := "page"
    blocks := [{ text := PythonText.ofString "text", locator := [("page", .number 1)] }]
    parserName := "pypdf"
    qualityScore := if data.getLast? = some 0 then 1 / 2 else 1 }
  parseHtml _ := .error .other
  parseJson _ := .error .other
  parseXml _ := .error .other
  maxUploadBytes := 10
  maxFetchBytes := 10
  urls := sampleTexts
  properties := sampleProperties
  bytesHash content := String.ofList (content.map fun byte => Char.ofNat byte.toNat)
  snapshotPath _ := "snapshots/"
  hashEmbed _ := List.replicate dimensions 0
  hashModel := "hashing"
  hashVersion := "1"

/-- The storage has the PDF, it is where the source says, and every call succeeds. -/
def sampleKnowledgeEnvironment (body : List UInt8) : KnowledgeEnvironment where
  content := .ok (samplePdf body)
  scan := .ok .clean
  fetched := .ok ⟨samplePdf body, sampleUrl, "application/pdf", none, none⟩
  delete _ := {}
  ocr := none
  embed chunkTexts := .ok (chunkTexts.map fun _ => List.replicate dimensions 0)
  embeddingModel := "hashing"
  embeddingVersion := "1"
  refuses _ := false
  taken := []
  cited _ := false
  commits := true

/-- A provider that cannot be reached. -/
def embeddingUnavailable : KnowledgeEnvironment :=
  { sampleKnowledgeEnvironment [1] with
    embed := fun _ => .error (.app
      { code := "EMBEDDING_UNAVAILABLE", message := "unavailable", statusCode := 503 }) }

def sampleRequest : RequestEnvironment := { now := 0, head := .ok 1, refuses := false, commits := true }

def sampleSourceCreate : SourceCreate :=
  { sourceType := .url, name := "page", uri := some sampleUrl, qualityGrade := "A" }

/-- The source of the sample's URL with its first job. -/
def sampleSource (id : Uuid) : SourceBooks where
  source := {
    id, sourceType := .url, name := "page", uri := some sampleUrl
    canonicalUriHash := some sampleUrl, qualityGrade := "A", state := .queued }
  jobs := [{ id := 1, jobType := .fetch }]
  nextId := 2

theorem createSource_sample (id : Uuid) :
    createSource sampleKnowledgeTexts false [] id sampleSourceCreate = .ok (sampleSource id) := by
  have hurl : canonicalUri sampleKnowledgeTexts sampleSourceCreate.uri =
      .ok (some sampleUrl, some sampleUrl) := by
    decide +kernel
  have haccepted : sampleSourceCreate.Accepted := by
    unfold SourceCreate.Accepted
    decide +kernel
  unfold createSource
  rw [require_of haccepted, hurl]
  rfl

end BlogOps.Knowledge
