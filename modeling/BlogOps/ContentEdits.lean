import BlogOps.ApprovalRequests

/-!
# Content edits

The content operations of the generation service that move a content or its
current version: each mutation that can invalidate approvals does so in its own
transaction.
-/

namespace BlogOps.Quality

open Jobs KeyedTables

def editError (code message : String) (statusCode : Nat) (fields : List FieldError) : Raised :=
  .app { code := code, message := message, statusCode := statusCode, fields := fields }

def editNotFound (resource : String) : Raised :=
  editError (resource ++ "_NOT_FOUND") "요청한 리소스를 찾을 수 없습니다." 404 []

def lockConflict (expected actual : Nat) : Raised :=
  editError "OPTIMISTIC_LOCK_CONFLICT" "다른 요청이 먼저 콘텐츠를 변경했습니다." 409
    [⟨"expected_lock_version", toString expected ++ "!=" ++ toString actual⟩]

def idText (id : Option Uuid) : String := (id.map toString).getD "None"

def lockConflictId (expected actual : Option Uuid) : Raised :=
  editError "CONTENT_VERSION_CONFLICT" "기준 콘텐츠 버전이 최신 버전과 다릅니다." 409
    [⟨"expected_current_version_id", "expected=" ++ idText expected ++ ", actual=" ++ idText actual⟩]

def contentOf (s : Store) (contentId : Uuid) : Result ContentItem :=
  ((s.liveContent contentId).map .ok).getD (.error (editNotFound "CONTENT"))

def getVersion (s : Store) (contentId versionId : Uuid) : Result ContentVersion :=
  ((s.versionOf contentId versionId).map .ok).getD (.error (editNotFound "CONTENT_VERSION"))

variable {content : ContentItem} {contentId : Uuid} {s after : Store} {version : ContentVersion}
variable {request : Request}

theorem contentOf_ok (h : contentOf s contentId = .ok content) : s.liveContent contentId = some content := by
  unfold contentOf at h
  cases hfind : s.liveContent contentId with
  | none => simp [hfind] at h
  | some found => simpa [hfind] using h

theorem getVersion_ok {versionId : Uuid} (h : getVersion s contentId versionId = .ok version) :
    s.versionOf contentId versionId = some version := by
  unfold getVersion at h
  cases hfind : s.versionOf contentId versionId with
  | none => simp [hfind] at h
  | some found => simpa [hfind] using h

section Versions

variable [QualityHash]

structure NewVersion where
  title : String
  blocks : List ContentBlockInput
  changeKind : ContentChangeKind
  changeNote : Option String := none
  sourceSnapshotHash : Option String := none
  restoredFromVersionId : Option Uuid := none
  generationJobId : Option Uuid := none
  generationSnapshotId : Option Uuid := none
deriving DecidableEq, Repr

/-- The block that the JSONB column `document` gives back. -/
def storedBlock (block : ContentBlockInput) : Option ContentBlockInput := do
  let payload ← Jsonb.stored block.payload
  let lockedFacts ← block.lockedFacts.mapM Jsonb.stored
  let sourceAnchors ← block.sourceAnchors.mapM Jsonb.stored
  some { block with
    payload := payload
    lockedFacts := lockedFacts
    sourceAnchors := sourceAnchors }

def storedDocument (blocks : List ContentBlockInput) : Option (List ContentBlockInput) :=
  blocks.mapM storedBlock

def lastVersionNumber (s : Store) (contentId : Uuid) : Nat :=
  ((s.versions.filter (·.contentId = contentId)).map (·.versionNumber)).foldr max 0

/-- The hash is that of the blocks as they were sent. -/
def newContentVersion (actorId : Uuid) (id : Uuid) (versionNumber : Nat) (content : ContentItem)
    (data : NewVersion) (document : List ContentBlockInput) : ContentVersion where
  id := id
  contentId := content.id
  parentVersionId := content.currentVersionId
  restoredFromVersionId := data.restoredFromVersionId
  generationJobId := data.generationJobId
  generationSnapshotId := data.generationSnapshotId
  versionNumber := versionNumber
  title := data.title
  document := document
  contentHash := QualityHash.document data.title data.blocks
  sourceSnapshotHash := data.sourceSnapshotHash
  changeKind := data.changeKind
  changeNote := data.changeNote
  createdBy := actorId

/-- The blocks of one version have unique keys (`content_block_key`). -/
def appendVersion (actorId : Uuid) (content : ContentItem) (data : NewVersion) (s : Store) :
    Result (ContentVersion × Store) :=
  if ¬ (data.blocks.map (·.blockKey)).Nodup then
    .error (.failure (.integrity "content_block_key"))
  else
    match storedDocument data.blocks with
    | none => .error (.failure (.integrity "content_versions.document"))
    | some document =>
      let version := newContentVersion actorId s.nextId (lastVersionNumber s content.id + 1) content
        data document
      .ok (version, { s with versions := s.versions ++ [version], nextId := s.nextId + 1 })

def moveToVersion (actorId : Uuid) (version : ContentVersion) (content : ContentItem) : ContentItem :=
  { content with
    currentVersionId := some version.id
    title := version.title
    updatedBy := actorId }

/-- `_append_version`, the new current version, and the approvals it takes back. -/
def publishVersion (request : Request) (content : ContentItem) (data : NewVersion)
    (move : ContentVersion → ContentItem → ContentItem) (reason : String) (s : Store) :
    Result (ContentVersion × Store) := do
  let (version, s) ← appendVersion request.principal.subjectId content data s
  let s := s.updateContent content.id (move version)
  .ok (version, invalidateApprovalsForContentChange request content.id version.id
    version.contentHash reason false s)

structure ContentCreate where
  channel : String
  title : String
  document : List ContentBlockInput := []
  changeNote : Option String := none
  metadataJson : Json := "{}"
  tags : List String := []
deriving DecidableEq, Repr

/-- `list(dict.fromkeys(tags))`. -/
def uniqueTags (tags : List String) : List String := tags.reverse.dedup.reverse

def createContent (request : Request) (data : ContentCreate) (s : Store) : Result (ContentItem × Store) :=
  let actorId := request.principal.subjectId
  let content : ContentItem := {
    id := s.nextId
    channel := data.channel
    title := data.title
    metadataJson := data.metadataJson
    tags := some (uniqueTags data.tags)
    createdBy := actorId
    updatedBy := actorId }
  let s := { s with contents := s.contents ++ [content], nextId := s.nextId + 1 }
  if data.document = [] then .ok (content, s)
  else do
    let (version, s) ← appendVersion actorId content
      { title := data.title, blocks := data.document, changeKind := .manual,
        changeNote := data.changeNote } s
    .ok (content, s.updateContent content.id fun content =>
      { content with currentVersionId := some version.id })

structure ContentVersionCreate where
  expectedCurrentVersionId : Option Uuid
  expectedCurrentHash : Option String := none
  title : String
  document : List ContentBlockInput
  changeKind : ContentChangeKind := .manual
  changeNote : Option String := none
  sourceSnapshotHash : Option String := none
deriving DecidableEq, Repr

def assertCurrentVersion (s : Store) (content : ContentItem) (expectedId : Option Uuid)
    (expectedHash : Option String) : Result (Option ContentVersion) :=
  if content.currentVersionId ≠ expectedId then
    .error (lockConflictId expectedId content.currentVersionId)
  else
    match content.currentVersionId with
    | none => .ok none
    | some currentId =>
      match s.versions.find? (·.id = currentId) with
      | none => .error (editNotFound "CONTENT_VERSION")
      | some version =>
        if expectedHash.any (· ≠ version.contentHash) then
          .error (editError "CONTENT_VERSION_HASH_CONFLICT" "편집 기준 버전의 무결성 해시가 변경되었습니다." 409 [])
        else .ok (some version)

def factHashes (blocks : List ContentBlockInput) : List String :=
  (blocks.flatMap (·.lockedFacts)).map QualityHash.fact

def assertLockedFactsPreserved (document blocks : List ContentBlockInput) : Result Unit :=
  if ¬ factHashes document ⊆ factHashes blocks then
    .error (editError "LOCKED_FACT_CHANGED" "AI 편집은 잠긴 사실·고유명사·수치를 제거하거나 변경할 수 없습니다." 409 [])
  else .ok ()

/-- The locked facts of the version an `AI_EDIT` starts from stay. -/
def assertEditKeepsFacts (version : Option ContentVersion) (data : ContentVersionCreate) : Result Unit :=
  match version with
  | some version =>
    if data.changeKind = .aiEdit then assertLockedFactsPreserved version.document data.document
    else .ok ()
  | none => .ok ()

def createVersion (request : Request) (contentId : Uuid) (data : ContentVersionCreate)
    (s : Store) : Result (ContentVersion × Store) := do
  let content ← contentOf s contentId
  let version ← assertCurrentVersion s content data.expectedCurrentVersionId data.expectedCurrentHash
  assertEditKeepsFacts version data
  publishVersion request content
    { title := data.title, blocks := data.document, changeKind := data.changeKind,
      changeNote := data.changeNote, sourceSnapshotHash := data.sourceSnapshotHash }
    (moveToVersion request.principal.subjectId) "새 콘텐츠 버전이 생성됨" s

structure RestoreVersionRequest where
  expectedCurrentVersionId : Uuid
  note : Option String := none
deriving DecidableEq, Repr

def restoreVersion (request : Request) (contentId sourceVersionId : Uuid)
    (data : RestoreVersionRequest) (s : Store) : Result (ContentVersion × Store) := do
  let content ← contentOf s contentId
  if content.currentVersionId ≠ some data.expectedCurrentVersionId then
    .error (lockConflictId (some data.expectedCurrentVersionId) content.currentVersionId)
  else do
    let source ← getVersion s contentId sourceVersionId
    publishVersion request content
      { title := source.title, blocks := source.document, changeKind := .restore,
        changeNote := data.note, sourceSnapshotHash := source.sourceSnapshotHash,
        restoredFromVersionId := some source.id }
      (moveToVersion request.principal.subjectId)
      "콘텐츠 버전이 복원되어 승인 대상이 변경됨" s

/-- The generation job row that `finalize_for_review` reads. -/
structure ReviewedJob where
  id : Uuid
  contentId : Uuid
  state : JobState
  inputSnapshotId : Uuid
  snapshotHash : Option String
deriving DecidableEq, Repr

def finalizeForReview (request : Request) (job : ReviewedJob) (title : String)
    (blocks : List ContentBlockInput) (s : Store) : Result (ContentVersion × Store) := do
  let content ← contentOf s job.contentId
  let published ← publishVersion request content
    { title := title, blocks := blocks, changeKind := .generated,
      changeNote := some "generation result", sourceSnapshotHash := job.snapshotHash,
      generationJobId := some job.id, generationSnapshotId := some job.inputSnapshotId }
    (fun version content =>
      { moveToVersion request.principal.subjectId version content with state := .waitingReview })
    "새 생성 결과가 현재 콘텐츠 버전을 대체함" s
  if job.state = .waitingReview then .ok published
  else do
    (ensureJobTransition job.state .waitingReview).mapError Raised.app
    .ok published

/-- The store after a new current version took back the approvals of the earlier one. -/
def published (request : Request) (content : ContentItem) (version : ContentVersion)
    (move : ContentVersion → ContentItem → ContentItem) (reason : String) (s : Store) : Store :=
  invalidateApprovalsForContentChange request content.id version.id version.contentHash reason
    false (({ s with
      versions := s.versions ++ [version]
      nextId := s.nextId + 1 } : Store).updateContent content.id (move version))

theorem appendVersion_ok {actorId : Uuid} {data : NewVersion}
    (h : appendVersion actorId content data s = .ok (version, after)) :
    ∃ document, storedDocument data.blocks = some document ∧
      version = newContentVersion actorId s.nextId (lastVersionNumber s content.id + 1) content data
        document ∧
      after = { s with versions := s.versions ++ [version], nextId := s.nextId + 1 } := by
  unfold appendVersion at h
  split_ifs at h
  cases hstored : storedDocument data.blocks with
  | none =>
    rw [hstored] at h
    cases h
  | some document =>
    rw [hstored] at h
    cases h
    exact ⟨document, rfl, rfl, rfl⟩

theorem publishVersion_ok {data : NewVersion} {move : ContentVersion → ContentItem → ContentItem}
    {reason : String} (h : publishVersion request content data move reason s = .ok (version, after)) :
    ∃ document, storedDocument data.blocks = some document ∧
      version = newContentVersion request.principal.subjectId s.nextId
        (lastVersionNumber s content.id + 1) content data document ∧
      after = published request content version move reason s := by
  unfold publishVersion at h
  obtain ⟨⟨appended, grown⟩, happend, h⟩ := bind_ok h
  obtain ⟨document, hstored, hversion, rfl⟩ := appendVersion_ok happend
  cases h
  exact ⟨document, hstored, hversion, rfl⟩

theorem createContent_ok {data : ContentCreate} (h : createContent request data s = .ok (content, after)) :
    content.id = s.nextId ∧ content.currentVersionId = none ∧
      (after = { s with contents := s.contents ++ [content], nextId := s.nextId + 1 } ∨
        ∃ version : ContentVersion, version.id = s.nextId + 1 ∧ version.contentId = content.id ∧
          after = ({ s with
            contents := s.contents ++ [content]
            versions := s.versions ++ [version]
            nextId := s.nextId + 2 } : Store).updateContent content.id fun row =>
              { row with currentVersionId := some version.id }) := by
  unfold createContent at h
  dsimp only at h
  split_ifs at h
  · cases h
    exact ⟨rfl, rfl, .inl rfl⟩
  · obtain ⟨⟨version, grown⟩, happend, h⟩ := bind_ok h
    obtain ⟨_, _, hversion, rfl⟩ := appendVersion_ok happend
    cases h
    exact ⟨rfl, rfl, .inr ⟨version, by rw [hversion]; rfl, by rw [hversion]; rfl, rfl⟩⟩

/-- The new version has the title and the blocks of a request and restores nothing. -/
structure Sends (data : NewVersion) (title : String) (blocks : List ContentBlockInput) : Prop where
  title : data.title = title
  blocks : data.blocks = blocks
  restored : data.restoredFromVersionId = none

theorem createVersion_ok {data : ContentVersionCreate}
    (h : createVersion request contentId data s = .ok (version, after)) :
    ∃ content newVersion, s.liveContent contentId = some content ∧
      Sends newVersion data.title data.document ∧
      publishVersion request content newVersion (moveToVersion request.principal.subjectId)
        "새 콘텐츠 버전이 생성됨" s = .ok (version, after) := by
  unfold createVersion at h
  obtain ⟨content, hcontent, h⟩ := bind_ok h
  obtain ⟨_, _, h⟩ := bind_ok h
  obtain ⟨_, _, h⟩ := bind_ok h
  exact ⟨content, _, contentOf_ok hcontent, ⟨rfl, rfl, rfl⟩, h⟩

theorem restoreVersion_ok {sourceVersionId : Uuid} {data : RestoreVersionRequest}
    (h : restoreVersion request contentId sourceVersionId data s = .ok (version, after)) :
    ∃ content newVersion, s.liveContent contentId = some content ∧
      publishVersion request content newVersion (moveToVersion request.principal.subjectId)
        "콘텐츠 버전이 복원되어 승인 대상이 변경됨" s = .ok (version, after) := by
  unfold restoreVersion at h
  obtain ⟨content, hcontent, h⟩ := bind_ok h
  split_ifs at h
  obtain ⟨source, _, h⟩ := bind_ok h
  exact ⟨content, _, contentOf_ok hcontent, h⟩

theorem finalizeForReview_ok {job : ReviewedJob} {title : String} {blocks : List ContentBlockInput}
    (h : finalizeForReview request job title blocks s = .ok (version, after)) :
    ∃ content newVersion, s.liveContent job.contentId = some content ∧ Sends newVersion title blocks ∧
      publishVersion request content newVersion
        (fun version content =>
          { moveToVersion request.principal.subjectId version content with
            state := .waitingReview })
        "새 생성 결과가 현재 콘텐츠 버전을 대체함" s = .ok (version, after) := by
  unfold finalizeForReview at h
  obtain ⟨content, hcontent, h⟩ := bind_ok h
  obtain ⟨result, hpublish, h⟩ := bind_ok h
  have hresult : result = (version, after) := by
    split_ifs at h
    · exact Except.ok.inj h
    · obtain ⟨_, _, h⟩ := bind_ok h
      exact Except.ok.inj h
  rw [hresult] at hpublish
  exact ⟨content, _, contentOf_ok hcontent, ⟨rfl, rfl, rfl⟩, hpublish⟩

end Versions

/-- A field is `none` when the request does not set it. -/
structure ContentUpdate where
  expectedLockVersion : Nat
  title : Option (Option String) := none
  channel : Option (Option String) := none
  folderPath : Option (Option String) := none
  tags : Option (Option (List String)) := none
  metadataJson : Option Json := none
  expiresAt : Option (Option Int) := none
  archived : Option (Option Bool) := none
deriving DecidableEq, Repr

def titleNeedsVersion (data : ContentUpdate) (content : ContentItem) : Bool :=
  data.title.any (· ≠ some content.title) && content.currentVersionId.isSome

def approvalContextChanged (data : ContentUpdate) (content : ContentItem) : Bool :=
  data.channel.any (· ≠ some content.channel) || data.metadataJson.any (· ≠ content.metadataJson)

def applyUpdate (request : Request) (data : ContentUpdate) (content : ContentItem) : ContentItem :=
  { content with
    title := (data.title.getD none).getD content.title
    channel := (data.channel.getD none).getD content.channel
    folderPath := data.folderPath.getD content.folderPath
    tags := (data.tags.map fun tags => tags.map uniqueTags).getD content.tags
    metadataJson := data.metadataJson.getD content.metadataJson
    expiresAt := data.expiresAt.getD content.expiresAt
    archivedAt := match data.archived with
      | none => content.archivedAt
      | some archived => if archived = some true then some request.now else none
    updatedBy := request.principal.subjectId }

/-- An explicit `null` for `title` or `channel` violates `NOT NULL`. -/
def updateContent (request : Request) (contentId : Uuid) (data : ContentUpdate) (s : Store) :
    Result Store := do
  let content ← contentOf s contentId
  if content.lockVersion ≠ data.expectedLockVersion then
    .error (lockConflict data.expectedLockVersion content.lockVersion)
  else if titleNeedsVersion data content then
    .error (.app {
      code := "CONTENT_TITLE_VERSION_REQUIRED"
      message := "본문이 있는 콘텐츠의 제목은 새 콘텐츠 버전으로 변경해야 합니다."
      statusCode := 409
      remediation := some [("endpoint", .text ("/v1/content/" ++ toString content.id ++ "/versions"))] })
  else if data.title = some none then .error (.failure (.integrity "contents.title"))
  else if data.channel = some none then .error (.failure (.integrity "contents.channel"))
  else do
    let s := s.updateContent contentId (applyUpdate request data)
    match content.currentVersionId with
    | none => .ok s
    | some currentId =>
      if approvalContextChanged data content then do
        let version ← getVersion s contentId currentId
        .ok (invalidateApprovalsForContentChange request contentId version.id
          version.contentHash "승인에 영향을 주는 채널 또는 콘텐츠 메타데이터가 변경됨" true s)
      else .ok s

def softDeleteContent (request : Request) (contentId : Uuid) (s : Store) : Result Store := do
  let content ← contentOf s contentId
  if content.retentionHold then
    .error (editError "CONTENT_RETENTION_HOLD" "보존 잠금이 설정된 콘텐츠는 삭제할 수 없습니다." 409 [])
  else
    .ok (s.updateContent contentId fun content =>
      { content with
        deletedAt := some request.now
        updatedBy := request.principal.subjectId })

theorem updateContent_ok {data : ContentUpdate} (h : updateContent request contentId data s = .ok after) :
    ∃ content, s.liveContent contentId = some content ∧
      ((after = s.updateContent contentId (applyUpdate request data) ∧
          (content.currentVersionId = none ∨ approvalContextChanged data content = false)) ∨
        ∃ (currentId : Uuid) (version : ContentVersion) (reason : String),
          content.currentVersionId = some currentId ∧
          approvalContextChanged data content = true ∧
          after = invalidateApprovalsForContentChange request contentId version.id
            version.contentHash reason true
            (s.updateContent contentId (applyUpdate request data))) := by
  unfold updateContent at h
  obtain ⟨content, hcontent, h⟩ := bind_ok h
  refine ⟨content, contentOf_ok hcontent, ?_⟩
  split_ifs at h with _ _ _ _ hchanged <;> cases hcurrent : content.currentVersionId with
  | none =>
    rw [hcurrent] at h
    exact .inl ⟨(Except.ok.inj h).symm, .inl rfl⟩
  | some currentId =>
    rw [hcurrent] at h
    first
    | exact .inl ⟨(Except.ok.inj h).symm, .inr (by simpa using hchanged)⟩
    | obtain ⟨version, _, h⟩ := bind_ok h
      exact .inr ⟨currentId, version, _, rfl, hchanged, (Except.ok.inj h).symm⟩

theorem softDeleteContent_ok (h : softDeleteContent request contentId s = .ok after) :
    after = s.updateContent contentId fun content =>
      { content with
        deletedAt := some request.now
        updatedBy := request.principal.subjectId } := by
  unfold softDeleteContent at h
  obtain ⟨content, _, h⟩ := bind_ok h
  split_ifs at h
  exact (Except.ok.inj h).symm

/-- The write makes the version the current one and keeps the identity of the content. -/
structure MovesTo (version : ContentVersion) (f : ContentItem → ContentItem) : Prop where
  keeps_id : ∀ row, (f row).id = row.id
  moves : ∀ row, (f row).currentVersionId = some version.id

structure KeepsVersions (f : ContentItem → ContentItem) : Prop where
  keeps_id : ∀ row, (f row).id = row.id
  keeps_current : ∀ row, (f row).currentVersionId = row.currentVersionId

theorem movesTo_moveToVersion (actorId : Uuid) (version : ContentVersion) :
    MovesTo version (moveToVersion actorId version) :=
  ⟨fun _ => rfl, fun _ => rfl⟩

end BlogOps.Quality
