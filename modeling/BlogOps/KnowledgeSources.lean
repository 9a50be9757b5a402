import BlogOps.KeyedTables
import BlogOps.KnowledgeParsing
import BlogOps.OutboundGuards
import BlogOps.TransitionRuns

/-!
# Knowledge sources

A knowledge source with its versions, documents, chunks, jobs and stored objects: creation, upload,
synchronisation, deletion, and the delivery of its jobs.  A delivery is one transaction; the rows it
wrote before an `AppError` are committed with it, and a rollback keeps what it did to the object
storage.
-/

namespace BlogOps.Knowledge

open EffectRules IpAddresses KeyedTables Outbound TransitionRuns
open PythonText (PyText ofString)

inductive SourceType where
  | url | file | text | faq | api | sitemap | rss | youtubeTranscript | productFeed | cms
deriving DecidableEq, Repr

inductive SourceState where
  | created | uploading | queued | fetching | scanning | parsing | indexing | ready | needsReview
  | failed | permissionExpired | deleting | deleted
deriving DecidableEq, Repr

inductive KnowledgeJobType where
  | fetch | parse | reindex | delete
deriving DecidableEq, Repr

inductive KnowledgeJobState where
  | queued | running | waitingExternal | needsReview | succeeded | retryableFailed | finalFailed
  | cancelled
deriving DecidableEq, Repr

inductive MalwareStatus where
  | clean | infected | unavailable
deriving DecidableEq, Repr

/-- The keys of `metadata_json` that are read; a value that is no text is none. -/
structure SourceMetadata where
  objectKey : Option String := none
  filename : Option String := none
  contentType : Option String := none
  expectedSize : Option Nat := none
  contentHash : Option String := none
deriving DecidableEq, Repr

structure KnowledgeSource where
  id : Uuid
  sourceType : SourceType
  name : String
  uri : Option String := none
  canonicalUriHash : Option String := none
  qualityGrade : String
  state : SourceState
  currentVersionId : Option Uuid := none
  metadata : SourceMetadata := {}
  failureCode : Option String := none
  deletedAt : Option Int := none
deriving DecidableEq, Repr

/-- `blocks` is a ghost: what was parsed into the version. -/
structure SourceVersion where
  id : Uuid
  version : Nat
  contentHash : String
  rawObjectKey : Option String
  ocrUsed : Bool
  blocks : List ExtractedBlock
deriving DecidableEq, Repr

inductive DocumentStructure where
  | kind (sourceType : SourceType)
  | blocks (blocks : List (String × Locator)) (ocrUsed : Bool)
deriving DecidableEq, Repr

structure SourceDocument where
  id : Uuid
  sourceVersionId : Uuid
  title : String
  text : PyText
  structureJson : DocumentStructure
  parseQualityScore : Rat := 1
  piiDetected : Bool
  parserName : String
  parserVersion : String
deriving DecidableEq, Repr

abbrev Embedding := List Rat

structure SourceChunk where
  sourceVersionId : Uuid
  documentId : Uuid
  draft : ChunkDraft
  qualityGrade : String
  embedding : Option Embedding
  embeddingModel : Option String
  embeddingVersion : Option String
deriving DecidableEq, Repr

inductive JobResult where
  | review
  | version (sourceVersionId : Option Uuid)
deriving DecidableEq, Repr

structure KnowledgeJob where
  id : Uuid
  jobType : KnowledgeJobType
  state : KnowledgeJobState := .queued
  attempt : Nat := 0
  errorCode : Option String := none
  errorDetail : Option String := none
  result : Option JobResult := none
deriving DecidableEq, Repr

/-- A call of the embedding provider with its answer. -/
structure EmbedCall where
  texts : List String
  vectors : List Embedding
deriving DecidableEq, Repr

/-- A source with all its rows and the keys of the objects stored for it; `embeds` is a ghost. -/
structure SourceBooks where
  source : KnowledgeSource
  versions : List SourceVersion := []
  documents : List SourceDocument := []
  chunks : List SourceChunk := []
  jobs : List KnowledgeJob := []
  objects : List String := []
  embeds : List EmbedCall := []
  nextId : Uuid := 1
deriving DecidableEq, Repr

structure KnowledgeTexts extends ParsingTexts where
  urls : UrlTexts
  properties : MappedProperties
  bytesHash : List UInt8 → String
  /-- `workspaces/<workspace_id>/knowledge/<source_id>/snapshots/`. -/
  snapshotPath : Uuid → String
  /-- The vector of the local embedding provider, and its model and version. -/
  hashEmbed : String → Embedding
  hashModel : String
  hashVersion : String

/-- How a call of the object storage ends; one that raises may have taken effect. -/
structure StorageAnswer where
  raised : Option AdapterError := none
  takesEffect : Bool := true
deriving DecidableEq, Repr

def StorageAnswer.effective (answer : StorageAnswer) : Bool :=
  answer.raised.isNone || answer.takesEffect

def StorageAnswer.result (answer : StorageAnswer) : Except Failure Unit :=
  match answer.raised with
  | none => .ok ()
  | some raised => .error raised.toFailure

inductive FlushPoint where
  | version | document | chunks | last
deriving DecidableEq, Repr

/-- What a delivery finds: the answers of its adapters, the values that the database refuses, the
hashes of the other sources, the versions that research and generation rows cite. -/
structure KnowledgeEnvironment where
  content : Except AdapterError (List UInt8)
  scan : Except AdapterError MalwareStatus
  fetched : Except AdapterError FetchResponse
  put : StorageAnswer := {}
  delete : String → StorageAnswer
  ocr : Option (Except AdapterError String)
  embed : List String → Except AdapterError (List Embedding)
  embeddingModel : String
  embeddingVersion : String
  refuses : FlushPoint → Bool
  taken : List String
  cited : Uuid → Bool
  commits : Bool

abbrev KnowledgeM := EStateM Failure SourceBooks

def SourceBooks.find (s : SourceBooks) (id : Uuid) : Option KnowledgeJob :=
  s.jobs.find? fun row => row.id = id

def SourceBooks.findVersion (s : SourceBooks) (contentHash : String) : Option SourceVersion :=
  s.versions.find? fun row => row.contentHash = contentHash

def SourceBooks.changeSource (s : SourceBooks) (change : KnowledgeSource → KnowledgeSource) :
    SourceBooks :=
  { s with source := change s.source }

def SourceBooks.changeJob (s : SourceBooks) (id : Uuid) (change : KnowledgeJob → KnowledgeJob) :
    SourceBooks :=
  { s with jobs := updateRow KnowledgeJob.id id change s.jobs }

def KnowledgeSource.enter (state : SourceState) (source : KnowledgeSource) : KnowledgeSource :=
  { source with state }

/-- `coalesce(max(version), 0) + 1`. -/
def SourceBooks.nextVersion (s : SourceBooks) : Nat :=
  (s.versions.map SourceVersion.version).foldl max 0 + 1

def SourceBooks.addVersion (s : SourceBooks) (contentHash : String) (rawObjectKey : Option String)
    (ocrUsed : Bool) (blocks : List ExtractedBlock) : SourceBooks :=
  { s with
    versions := s.versions ++
      [⟨s.nextId, s.nextVersion, contentHash, rawObjectKey, ocrUsed, blocks⟩]
    nextId := s.nextId + 1 }

def SourceBooks.addDocument (s : SourceBooks) (document : SourceDocument) : SourceBooks :=
  { s with documents := s.documents ++ [document], nextId := s.nextId + 1 }

def chunkRow (versionId documentId : Uuid) (grade model version : String) (draft : ChunkDraft)
    (vector : Embedding) : SourceChunk where
  sourceVersionId := versionId
  documentId
  draft
  qualityGrade := grade
  embedding := some vector
  embeddingModel := some model
  embeddingVersion := some version

def SourceBooks.addChunks (s : SourceBooks) (versionId documentId : Uuid) (model version : String)
    (drafts : List ChunkDraft) (vectors : List Embedding) : SourceBooks :=
  { s with
    chunks := s.chunks ++
      List.zipWith (chunkRow versionId documentId s.source.qualityGrade model version) drafts
        vectors }

def SourceBooks.recordEmbeds (s : SourceBooks) (texts : List String) (vectors : List Embedding) :
    SourceBooks :=
  { s with embeds := s.embeds ++ [⟨texts, vectors⟩] }

def KnowledgeSource.adopt (versionId : Uuid) (state : SourceState) (source : KnowledgeSource) :
    KnowledgeSource :=
  { source with currentVersionId := some versionId, state }

def SourceBooks.addJob (s : SourceBooks) (jobType : KnowledgeJobType) : SourceBooks :=
  { s with jobs := s.jobs ++ [{ id := s.nextId, jobType }], nextId := s.nextId + 1 }

structure FaqItem where
  question : String
  answer : String
deriving DecidableEq, Repr

structure SourceCreate where
  sourceType : SourceType
  name : String
  uri : Option String := none
  content : Option String := none
  faqItems : List FaqItem := []
  qualityGrade : String
  metadata : SourceMetadata := {}
deriving DecidableEq, Repr

def networkTypes : List SourceType :=
  [.url, .sitemap, .rss, .api, .youtubeTranscript, .productFeed, .cms]

/-- The schema of the request, without the rights and the lengths. -/
def SourceCreate.Accepted (data : SourceCreate) : Prop :=
  (data.sourceType ∈ networkTypes → blank data.uri = false) ∧
    (data.sourceType = .text → blank data.content = false) ∧
    (data.sourceType = .faq → blank data.content = false ∨ data.faqItems ≠ []) ∧
    (data.sourceType ≠ .faq → data.faqItems = []) ∧ data.sourceType ≠ .file

instance (data : SourceCreate) : Decidable data.Accepted := inferInstanceAs (Decidable (_ ∧ _))

def FaqItem.text (item : FaqItem) : String := "질문: " ++ item.question ++ "\n답변: " ++ item.answer

def SourceCreate.inlineContent (data : SourceCreate) : String :=
  if data.faqItems = [] then data.content.getD ""
  else "\n\n".intercalate (data.faqItems.map FaqItem.text)

variable (texts : KnowledgeTexts)

/-- The URI of the row and its hash; an empty one is kept as it is. -/
def canonicalUri (uri : Option String) : Except Failure (Option String × Option String) :=
  if blank uri = true then .ok (uri, none)
  else do
    let validated ← validateSourceUrl texts.properties texts.urls (uri.getD "")
    return (some validated.normalized, some (texts.textHash validated.normalized))

def duplicateSource (existing : Uuid) : Failure :=
  .app { code := "KNOWLEDGE_SOURCE_DUPLICATE"
         message := "동일한 URL의 지식 소스가 이미 등록되어 있습니다."
         statusCode := 409
         remediation := some [("existing_source_id", .text (toString existing))] }

/-- The check looks at the rows that are not deleted. -/
def requireNoDuplicate (rows : List KnowledgeSource) (hash : Option String) : Except Failure Unit :=
  match rows.find? (fun row => hash.isSome && row.canonicalUriHash = hash && row.deletedAt.isNone)
  with
  | some row => .error (duplicateSource row.id)
  | none => .ok ()

def uriHashTaken : Failure := .integrity "knowledge_source_uri_hash"

/-- The database refuses a value that a column cannot hold. -/
def valueRefused : Failure := .validationError

/-- The flush of a new source; the unique constraint covers every row. -/
def insertSource (refuses : Bool) (rows : List KnowledgeSource) (source : KnowledgeSource) :
    Except Failure Unit := do
  require (source.canonicalUriHash.isSome = true →
    source.canonicalUriHash ∉ rows.map KnowledgeSource.canonicalUriHash) uriHashTaken
  require (refuses = false) valueRefused

def inlineDocument (source : KnowledgeSource) (content : String) (id versionId : Uuid) :
    SourceDocument where
  id
  sourceVersionId := versionId
  title := source.name
  text := (texts.maskPii (ofString content)).1
  structureJson := .kind source.sourceType
  piiDetected := (texts.maskPii (ofString content)).2
  parserName := "inline-text"
  parserVersion := "1"

def inlineBlocks (content : String) : List ExtractedBlock :=
  [{ text := ofString content, locator := [("type", .text "inline"), ("index", .number 1)] }]

/-- A new inline version with its chunks; the local provider answers every text. -/
def inlineVersion (s : SourceBooks) (content digest : String) (drafts : List ChunkDraft) : SourceBooks :=
  let chunkTexts := drafts.map ChunkDraft.text
  let vectors := chunkTexts.map texts.hashEmbed
  let withVersion := s.addVersion digest none false (inlineBlocks content)
  let withDocument := withVersion.addDocument
    (inlineDocument texts s.source content withVersion.nextId s.nextId)
  ((withDocument.recordEmbeds chunkTexts vectors).addChunks s.nextId withVersion.nextId
    texts.hashModel texts.hashVersion drafts vectors).changeSource (.adopt s.nextId .ready)

def addInlineVersion (s : SourceBooks) (content digest : String) : Except Failure SourceBooks := do
  let drafts ← semanticChunks texts.toParsingTexts (inlineBlocks content)
  return inlineVersion texts s content digest drafts

def createInlineVersion (s : SourceBooks) (content : String) : Except Failure SourceBooks :=
  let content := PythonText.strip content
  match s.findVersion (texts.textHash content) with
  | some existing => .ok (s.changeSource (.adopt existing.id .ready))
  | none => addInlineVersion texts s content (texts.textHash content)

/-- What follows the flush of the new source. -/
def startSource (content : String) (source : KnowledgeSource) : Except Failure SourceBooks :=
  if content = "" then
    .ok (({ source := source } : SourceBooks).changeSource (.enter .queued) |>.addJob .fetch)
  else createInlineVersion texts { source := source } content

def createSource (refuses : Bool) (rows : List KnowledgeSource) (id : Uuid) (data : SourceCreate) :
    Except Failure SourceBooks := do
  require data.Accepted .validationError
  let (uri, canonicalUriHash) ← canonicalUri texts data.uri
  requireNoDuplicate rows canonicalUriHash
  let source : KnowledgeSource := {
    id, sourceType := data.sourceType, name := data.name, uri, canonicalUriHash
    qualityGrade := data.qualityGrade, state := .created, metadata := data.metadata }
  insertSource refuses rows source
  startSource texts data.inlineContent source

structure UploadInitiateRequest where
  filename : String
  contentType : String
  size : Nat
  name : Option String := none
  qualityGrade : String
deriving DecidableEq, Repr

/-- `data.name or data.filename`. -/
def UploadInitiateRequest.sourceName (data : UploadInitiateRequest) : String :=
  if blank data.name = true then data.filename else data.name.getD ""

/-- `initiate_file_upload` with the key that the storage grants. -/
def initiateFileUpload (refuses : Bool) (granted : String) (id : Uuid)
    (data : UploadInitiateRequest) : Except Failure SourceBooks := do
  let _ ← validateUploadMetadata texts.toParsingTexts data.filename data.contentType data.size
    texts.maxUploadBytes
  require (refuses = false) valueRefused
  return { source := {
    id, sourceType := .file, name := data.sourceName, qualityGrade := data.qualityGrade
    state := .uploading
    metadata := {
      objectKey := some granted, filename := some data.filename
      contentType := some data.contentType, expectedSize := some data.size } } }

structure RequestEnvironment where
  now : Int
  head : Except AdapterError Int := .ok (-1)
  refuses : Bool
  commits : Bool

def sourceNotFound : Failure :=
  appError "KNOWLEDGE_SOURCE_NOT_FOUND" "지식 소스를 찾을 수 없습니다." 404

/-- `get_source`: a deleted source is not found. -/
def getSource (s : SourceBooks) : Except Failure Unit :=
  require (s.source.deletedAt = none) sourceNotFound

variable (env : RequestEnvironment)

def queueJob (s : SourceBooks) (jobType : KnowledgeJobType) :
    Except Failure SourceBooks := do
  require (env.refuses = false) valueRefused
  return s.addJob jobType

def KnowledgeSource.scanUpload (contentHash : String) (source : KnowledgeSource) : KnowledgeSource :=
  { source with
    state := .scanning, metadata := { source.metadata with contentHash := some contentHash } }

def completeFileUpload (objectKey contentHash : String) (s : SourceBooks) :
    Except Failure SourceBooks := do
  getSource s
  require (s.source.sourceType = .file ∧ s.source.metadata.objectKey = some objectKey)
    (appError "UPLOAD_OBJECT_MISMATCH" "업로드 대상이 일치하지 않습니다." 409)
  let contentLength ← answered env.head
  require (contentLength = (s.source.metadata.expectedSize.getD 0 : Nat))
    (appError "UPLOAD_SIZE_MISMATCH" "업로드된 파일 크기가 일치하지 않습니다." 409)
  queueJob env (s.changeSource (.scanUpload contentHash)) .parse

def requestSync (s : SourceBooks) : Except Failure SourceBooks := do
  getSource s
  require (s.source.sourceType ∉ [SourceType.text, .faq])
    (appError "SOURCE_SYNC_NOT_SUPPORTED" "직접 입력 소스는 동기화할 수 없습니다." 409)
  require (s.source.state ∉ [SourceState.queued, .fetching, .parsing])
    (appError "SOURCE_SYNC_IN_PROGRESS" "이미 동기화 작업이 진행 중입니다." 409)
  queueJob env (s.changeSource (.enter .queued)) .fetch

def KnowledgeSource.tombstone (now : Int) (source : KnowledgeSource) : KnowledgeSource :=
  { source with state := .deleting, deletedAt := some now }

def requestDelete (s : SourceBooks) : Except Failure SourceBooks := do
  getSource s
  queueJob env (s.changeSource (.tombstone env.now)) .delete

/-! ## Object storage and scanner -/

def SourceBooks.dropObject (s : SourceBooks) (answer : StorageAnswer) (key : String) : SourceBooks :=
  if answer.effective = true then { s with objects := s.objects.filter (· ≠ key) } else s

def SourceBooks.keepObject (s : SourceBooks) (answer : StorageAnswer) (key : String) : SourceBooks :=
  if answer.effective = true then { s with objects := s.objects ++ [key] } else s

def raises (result : Except Failure Unit) : KnowledgeM Unit := MonadExcept.ofExcept result

variable (env : KnowledgeEnvironment)

def deleteObject (key : String) : KnowledgeM Unit := do
  modify fun s => s.dropObject (env.delete key) key
  raises (env.delete key).result

def deleteObjects (env : KnowledgeEnvironment) : List String → KnowledgeM Unit
  | [] => pure ()
  | key :: keys => do
    deleteObject env key
    deleteObjects env keys

def putBytes (key : String) : KnowledgeM Unit := do
  modify fun s => s.keepObject env.put key
  raises env.put.result

def scannerUnavailable : Failure :=
  appError "MALWARE_SCANNER_UNAVAILABLE" "파일 보안 검사를 수행할 수 없습니다." 503

def malwareDetected : Failure :=
  appError "MALWARE_DETECTED" "악성 파일이 감지되어 격리 삭제되었습니다." 422

def quarantine : Option String → KnowledgeM Unit
  | none => throw malwareDetected
  | some key => do
    deleteObject env key
    throw malwareDetected

def judgeScan (source : KnowledgeSource) : Except AdapterError MalwareStatus → KnowledgeM Unit
  | .error raised => throw raised.toFailure
  | .ok .unavailable => throw scannerUnavailable
  | .ok .infected => quarantine env source.metadata.objectKey
  | .ok .clean => pure ()

def scanContent : KnowledgeM Unit := do
  let s ← get
  judgeScan env s.source env.scan

/-! ## The store of a parsed version -/

/-- What is handed to the store of a version. -/
structure Extraction where
  parsed : ParsedDocument
  rawObjectKey : String
  contentHash : String
  usedOcr : Bool
deriving DecidableEq, Repr

/-- Every flush writes the source, whose hash no other source of the workspace may have. -/
def flush (point : FlushPoint) : KnowledgeM Unit := do
  let s ← get
  if s.source.canonicalUriHash.any (· ∈ env.taken) = true then throw uriHashTaken
  else if env.refuses point = true then throw valueRefused
  else pure ()

def parsedDocument (source : KnowledgeSource) (x : Extraction) (id versionId : Uuid) :
    SourceDocument where
  id
  sourceVersionId := versionId
  title := if x.parsed.title = "" then source.name else x.parsed.title
  text := (texts.maskPii x.parsed.text).1
  structureJson := .blocks (x.parsed.blocks.map fun block => (block.blockType, block.locator))
    x.usedOcr
  parseQualityScore := x.parsed.qualityScore
  piiDetected := (texts.maskPii x.parsed.text).2
  parserName := x.parsed.parserName
  parserVersion := x.parsed.parserVersion

def embeddingInvalid : Failure :=
  appError "EMBEDDING_RESPONSE_INVALID" "임베딩 결과 형식이 올바르지 않습니다." 503

def dimensions : Nat := 1536

/-- The answer of the provider as the store goes on with it. -/
def acceptedVectors (count : Nat) (answer : Except AdapterError (List Embedding)) :
    Except Failure (List Embedding) := do
  let vectors ← answered answer
  require (vectors.length = count ∧ vectors.all (fun vector => vector.length = dimensions) = true)
    embeddingInvalid
  return vectors

/-- A quality below 0.6 and every use of OCR call for a review. -/
def Extraction.doubtful (x : Extraction) : Bool := x.parsed.qualityScore < 3 / 5 || x.usedOcr

def Extraction.state (x : Extraction) : SourceState :=
  if x.doubtful = true then .needsReview else .ready

def SourceBooks.withVersion (s : SourceBooks) (x : Extraction) : SourceBooks :=
  s.addVersion x.contentHash (some x.rawObjectKey) x.usedOcr x.parsed.blocks

def SourceBooks.withDocument (s : SourceBooks) (x : Extraction) : SourceBooks :=
  (s.withVersion x).addDocument (parsedDocument texts s.source x (s.nextId + 1) s.nextId)

def SourceBooks.withChunks (s : SourceBooks) (x : Extraction) (drafts : List ChunkDraft)
    (vectors : List Embedding) : SourceBooks :=
  (((s.withDocument texts x).recordEmbeds (drafts.map ChunkDraft.text) vectors).addChunks
    s.nextId (s.nextId + 1) env.embeddingModel env.embeddingVersion drafts
    vectors).changeSource (.adopt s.nextId x.state)

/-- The branch for content that has no version yet; `s` is the state it starts in. -/
def storeNewVersion (x : Extraction) (s : SourceBooks) : KnowledgeM Uuid := do
  set (s.withVersion x)
  flush env .version
  set (s.withDocument texts x)
  flush env .document
  let drafts ← MonadExcept.ofExcept (semanticChunks texts.toParsingTexts x.parsed.blocks)
  let vectors ← MonadExcept.ofExcept (acceptedVectors drafts.length
    (env.embed (drafts.map ChunkDraft.text)))
  set (s.withChunks texts env x drafts vectors)
  flush env .chunks
  pure s.nextId

def storeParsedVersion (x : Extraction) : KnowledgeM Uuid := do
  let s ← get
  match s.findVersion x.contentHash with
  | some existing => do
    set (s.changeSource (.adopt existing.id .ready))
    pure existing.id
  | none => storeNewVersion texts env x s

structure Upload where
  objectKey : String
  filename : String
  contentType : String
deriving DecidableEq, Repr

def SourceMetadata.upload (metadata : SourceMetadata) : Option Upload :=
  match metadata.objectKey, metadata.filename, metadata.contentType with
  | some objectKey, some filename, some contentType => some ⟨objectKey, filename, contentType⟩
  | _, _, _ => none

def ocrBlocks (text : String) : List ExtractedBlock :=
  (((text.splitOn "\n\n").zipIdx 1).map fun part =>
    { text := ofString (PythonText.strip part.1),
      locator := [("ocr_paragraph", .number part.2)] }).filter (·.text ≠ [])

def ocrDocument (name text : String) : ParsedDocument where
  title := name
  blocks := ocrBlocks text
  parserName := "ocr"
  qualityScore := 1 / 2

/-- What OCR makes of a document without text; without a provider or a text there is none. -/
def readByOcr (name : String) :
    Option (Except AdapterError String) → Except Failure (Option (ParsedDocument × Bool))
  | none => .ok none
  | some (.error raised) => .error raised.toFailure
  | some (.ok text) =>
    if PythonText.strip text = "" then .ok none
    else .ok (some (ocrDocument name (PythonText.strip text), true))

def isTextEmpty : Failure → Bool
  | .app error => error.code = textEmpty
  | _ => false

def readUpload (name : String) (upload : Upload) (content : List UInt8) :
    Except Failure (Option (ParsedDocument × Bool)) :=
  match parseDocument texts.toParsingTexts upload.filename upload.contentType content
    texts.maxUploadBytes with
  | .ok parsed => .ok (some (parsed, false))
  | .error raised => if isTextEmpty raised = true then readByOcr name env.ocr else .error raised

def enterState (state : SourceState) : KnowledgeM Unit := modify (·.changeSource (.enter state))

def uploadMetadataInvalid : Failure :=
  appError "UPLOAD_METADATA_INVALID" "업로드 메타데이터가 올바르지 않습니다." 422

def hashMismatch : Failure :=
  appError "UPLOAD_HASH_MISMATCH" "업로드 파일 무결성 검증에 실패했습니다." 422

def storeUpload (upload : Upload) (digest : String) :
    Option (ParsedDocument × Bool) → KnowledgeM (Option Uuid)
  | none => do
    enterState .needsReview
    pure none
  | some (parsed, usedOcr) => do
    enterState .indexing
    let version ← storeParsedVersion texts env ⟨parsed, upload.objectKey, digest, usedOcr⟩
    pure (some version)

/-- What follows the hash check. -/
def parseUpload (name : String) (upload : Upload) (content : List UInt8) :
    KnowledgeM (Option Uuid) := do
  enterState .parsing
  let read ← MonadExcept.ofExcept (readUpload texts env name upload content)
  storeUpload texts env upload (texts.bytesHash content) read

/-- What follows the download. -/
def checkUpload (source : KnowledgeSource) (upload : Upload) (content : List UInt8) :
    KnowledgeM (Option Uuid) := do
  scanContent env
  if some (texts.bytesHash content) ≠ source.metadata.contentHash then do
    deleteObject env upload.objectKey
    throw hashMismatch
  else parseUpload texts env source.name upload content

def processFile : KnowledgeM (Option Uuid) := do
  let s ← get
  match s.source.metadata.upload with
  | none => throw uploadMetadataInvalid
  | some upload => do
    let content ← MonadExcept.ofExcept (answered env.content)
    checkUpload texts env s.source upload content

def urlInvalid : Failure := appError "SOURCE_URL_INVALID" "소스 URL이 없습니다." 422

def KnowledgeSource.redirect (finalUrl : String) (source : KnowledgeSource) : KnowledgeSource :=
  { source with
    uri := some finalUrl, canonicalUriHash := some (texts.textHash finalUrl), state := .indexing }

def KnowledgeSource.rawKey (source : KnowledgeSource) (digest : String) : String :=
  texts.snapshotPath source.id ++ digest

/-- What follows the download. -/
def storeFetched (source : KnowledgeSource) (fetched : FetchResponse) : KnowledgeM Uuid := do
  scanContent env
  let digest := texts.bytesHash fetched.body
  let parsed ← MonadExcept.ofExcept (parseFetchedDocument texts.toParsingTexts fetched.finalUrl
    fetched.contentType fetched.body texts.maxFetchBytes)
  putBytes env (source.rawKey texts digest)
  modify (·.changeSource (.redirect texts fetched.finalUrl))
  storeParsedVersion texts env ⟨parsed, source.rawKey texts digest, digest, false⟩

def processNetworkSource : KnowledgeM Uuid := do
  let s ← get
  if blank s.source.uri = true then throw urlInvalid
  else do
    enterState .fetching
    let fetched ← MonadExcept.ofExcept (answered env.fetched)
    storeFetched texts env s.source fetched

/-- The raw keys of the versions and the key of the upload. -/
def SourceBooks.objectKeys (s : SourceBooks) : List String :=
  s.versions.filterMap SourceVersion.rawObjectKey ++ s.source.metadata.objectKey.toList

def versionReferenced : Failure := .integrity "fk_knowledge_sources_current_version"

/-- The foreign keys to a version restrict its deletion: that of the source is declared deferrable,
but a `RESTRICT` is checked with the statement, and the source is not flushed before it. -/
def SourceBooks.holdsVersion (s : SourceBooks) : Bool :=
  s.versions.any fun row => s.source.currentVersionId = some row.id || env.cited row.id

def SourceBooks.erase (s : SourceBooks) : SourceBooks :=
  { s with
    source := { s.source with currentVersionId := none, metadata := {}, state := .deleted }
    versions := []
    documents := s.documents.filter fun row =>
      row.sourceVersionId ∉ s.versions.map SourceVersion.id
    chunks := s.chunks.filter fun row => row.sourceVersionId ∉ s.versions.map SourceVersion.id }

def eraseRows : KnowledgeM Unit := do
  let s ← get
  if s.holdsVersion env = true then throw versionReferenced else set s.erase

/-- `sorted({...})` of the keys. -/
def deletionKeys (s : SourceBooks) : List String := s.objectKeys.eraseDups.insertionSort (· ≤ ·)

def deleteSourceData : KnowledgeM Unit := do
  let s ← get
  deleteObjects env (deletionKeys s)
  eraseRows env

def closedStates : List KnowledgeJobState := [.succeeded, .needsReview, .finalFailed, .cancelled]

def openStates : List KnowledgeJobState := [.queued, .retryableFailed]

def jobNotFound : Failure :=
  appError "KNOWLEDGE_JOB_NOT_FOUND" "지식 처리 작업을 찾을 수 없습니다." 404

def jobStateConflict : Failure :=
  appError "KNOWLEDGE_JOB_STATE_CONFLICT" "처리할 수 없는 작업 상태입니다." 409

def jobTypeUnsupported : Failure :=
  appError "KNOWLEDGE_JOB_TYPE_UNSUPPORTED" "지원하지 않는 작업 유형입니다." 422

def KnowledgeJob.start (job : KnowledgeJob) : KnowledgeJob :=
  { job with state := .running, attempt := job.attempt + 1, errorCode := none, errorDetail := none }

def KnowledgeJob.review (job : KnowledgeJob) : KnowledgeJob :=
  { job with state := .needsReview, result := some .review }

def KnowledgeJob.succeed (version : Option Uuid) (job : KnowledgeJob) : KnowledgeJob :=
  { job with state := .succeeded, result := some (.version version) }

def KnowledgeJob.complete (state : SourceState) (version : Option Uuid) (job : KnowledgeJob) :
    KnowledgeJob :=
  if state = .needsReview then job.review else job.succeed version

def retryable (error : AppError) (attempt : Nat) : Bool := 500 ≤ error.statusCode && attempt < 3

def KnowledgeJob.fail (error : AppError) (job : KnowledgeJob) : KnowledgeJob :=
  { job with
    state := if retryable error job.attempt = true then .retryableFailed else .finalFailed
    errorCode := some error.code
    errorDetail := some (String.ofList (error.message.toList.take 1000)) }

def KnowledgeSource.fail (error : AppError) (attempt : Nat) (source : KnowledgeSource) :
    KnowledgeSource :=
  { source with
    failureCode := some error.code
    state := if retryable error attempt = true then .queued else .failed }

def SourceBooks.complete (s : SourceBooks) (id : Uuid) (version : Option Uuid) : SourceBooks :=
  s.changeJob id (·.complete s.source.state version)

/-- `attempt` is that of the started job. -/
def SourceBooks.fail (s : SourceBooks) (id : Uuid) (attempt : Nat) (error : AppError) :
    SourceBooks :=
  (s.changeJob id (·.fail error)).changeSource (·.fail error attempt)

def runJob : KnowledgeJobType → KnowledgeM (Option Uuid)
  | .parse => processFile texts env
  | .fetch => do
    let version ← processNetworkSource texts env
    pure (some version)
  | .delete => do
    deleteSourceData env
    pure none
  | .reindex => throw jobTypeUnsupported

/-- The body of the `try`. -/
def executeJob (job : KnowledgeJob) : KnowledgeM Unit := do
  let version ← runJob texts env job.jobType
  modify (·.complete job.id version)

/-- Only an `AppError` is recorded. -/
def recordFailure (job : KnowledgeJob) : Failure → KnowledgeM Unit
  | .app error => modify (·.fail job.id job.attempt error)
  | failure => throw failure

/-- The job is open and started. -/
def takeUp (job : KnowledgeJob) : KnowledgeM Unit := do
  modify (·.changeJob job.id KnowledgeJob.start)
  tryCatch (executeJob texts env job) (recordFailure job.start)
  flush env .last

def processKnowledgeJob (id : Uuid) : KnowledgeM Unit := do
  let s ← get
  match s.find id with
  | none => throw jobNotFound
  | some job =>
    if job.state ∈ closedStates then pure ()
    else if job.state ∉ openStates then throw jobStateConflict
    else takeUp texts env job

/-- Commits what the delivery wrote or rolls it back; the storage keeps what happened to it. -/
def SourceBooks.settle (s : SourceBooks) (commits : Bool) :
    EStateM.Result Failure SourceBooks Unit → SourceBooks
  | .ok () after => if commits = true then after else { s with objects := after.objects }
  | .error _ after => { s with objects := after.objects }

def deliver (id : Uuid) (s : SourceBooks) : SourceBooks :=
  s.settle env.commits (processKnowledgeJob texts env id s)

/-- A request is committed when it returns. -/
def SourceBooks.answer (s : SourceBooks) (commits : Bool) : Except Failure SourceBooks → SourceBooks
  | .ok after => if commits = true then after else s
  | .error _ => s

inductive SourceAction where
  | completeUpload (objectKey contentHash : String) (env : RequestEnvironment)
  | sync (env : RequestEnvironment)
  | delete (env : RequestEnvironment)
  | deliver (id : Uuid) (env : KnowledgeEnvironment)

def stepSource (s : SourceBooks) : SourceAction → SourceBooks
  | .completeUpload objectKey contentHash env =>
    s.answer env.commits (completeFileUpload env objectKey contentHash s)
  | .sync env => s.answer env.commits (requestSync env s)
  | .delete env => s.answer env.commits (requestDelete env s)
  | .deliver id env => deliver texts env id s

/-- A source as its creation leaves it; an initiated upload may have stored its object. -/
inductive Born (texts : KnowledgeTexts) : SourceBooks → Prop where
  | created {refuses : Bool} {rows : List KnowledgeSource} {id : Uuid} {data : SourceCreate}
      {s : SourceBooks} (h : createSource texts refuses rows id data = .ok s) : Born texts s
  | initiated {refuses : Bool} {granted : String} {id : Uuid} {data : UploadInitiateRequest}
      {s : SourceBooks} (objects : List String) (hobjects : ∀ key ∈ objects, key = granted)
      (h : initiateFileUpload texts refuses granted id data = .ok s) :
      Born texts { s with objects := objects }

end BlogOps.Knowledge
