import BlogOps.PublishSession

/-!
# The operations of the publish saga

What a worker run is given, the parts the operations share (notifications, the
daily quota, media, reading and applying the remote post), and the operations:
create, update, delete, reconcile and roll back a remote post.
-/

namespace BlogOps.Publishing

open Jobs KeyedTables

structure ConnectionContext where
  provider : PublishingProvider
  siteUrl : String
  siteTimezone : String
  remoteSiteId : Option String
  officialContract : String
  apiVersion : String
  restMetaAllowlist : List String
  siteSettings : SiteSettings

structure SecretMaterial where
  values : List (String × String)

structure MediaBinary where
  placementKey : String
  filename : String
  mimeType : String
  content : String
  altText : String
  caption : Option String

/-- The official CMS behind a connection.  A method answers or raises, and
leaves the remote side in a new state either way. -/
structure CMSProvider (ρ : Type) where
  diagnose : ConnectionContext → SecretMaterial → RemoteCall ρ ProviderDiagnostic
  refresh : ConnectionContext → SecretMaterial → RemoteCall ρ ProviderDiagnostic
  syncSettings : ConnectionContext → SecretMaterial → RemoteCall ρ ProviderDiagnostic
  findByMarker : ConnectionContext → SecretMaterial → String → RemoteCall ρ (Option RemotePost)
  createPost : ConnectionContext → SecretMaterial → PublishDocument → RemoteCall ρ RemotePost
  getPost : ConnectionContext → SecretMaterial → String → RemoteCall ρ RemotePost
  updatePost : ConnectionContext → SecretMaterial → RemotePost → PublishDocument →
    RemoteCall ρ RemotePost
  deletePost : ConnectionContext → SecretMaterial → RemotePost → Bool → RemoteCall ρ RemotePost
  cancelScheduled : ConnectionContext → SecretMaterial → RemotePost → RemoteCall ρ RemotePost
  uploadMedia : ConnectionContext → SecretMaterial → MediaBinary → RemoteCall ρ UploadedMedia
  restoreSnapshot : ConnectionContext → SecretMaterial → RemotePost → RemoteBody →
    RemoteCall ρ RemotePost

structure ReadinessQuery where
  contentId : Uuid
  contentVersionId : Uuid
  contentHash : String
  approvalRequestId : Uuid
  channel : PublishingProvider
  requireMediaLicense : Bool

structure WorkerEnv (ρ : Type) where
  now : Timestamp
  requireProvider : PublishingProvider → String → Except AppError (CMSProvider ρ)
  resolveSecret : String → Except Exc SecretMaterial
  resolveReady : ReadinessQuery → Except Exc PublishReadyContent
  resolveMedia : String → String → Except Exc String
  renderForCms : List RemoteBody → List (String × String) → List (String × String) →
    List String → RenderedContent

/-- The provider of a connection with the context and the secret of its calls. -/
structure Channel (ρ : Type) where
  provider : CMSProvider ρ
  context : ConnectionContext
  secret : SecretMaterial

variable {ρ α : Type}

def connectionContext (connection : PublishingConnection) : ConnectionContext where
  provider := connection.provider
  siteUrl := connection.siteUrl
  siteTimezone := connection.siteTimezone
  remoteSiteId := connection.remoteSiteId
  officialContract := connection.officialContract
  apiVersion := connection.apiVersion
  restMetaAllowlist := connection.restMetaAllowlist
  siteSettings := connection.siteSettingsSnapshot

def openChannel (env : WorkerEnv ρ) (connection : PublishingConnection) : Except Exc (Channel ρ) := do
  let provider ← (env.requireProvider connection.provider connection.officialContract).mapError
    Exc.app
  let secret ← env.resolveSecret connection.credentialSecretRef
  return { provider, context := connectionContext connection, secret }

def orRaise (result : Except Exc α) : Saga ρ α :=
  match result with
  | .ok value => return value
  | .error e => throw e

def raise (failure : ProviderFailure) : Saga ρ α := throw (.provider failure)

/-- `action.upper().replace(".", "_")`. -/
def notificationType (action : String) : String :=
  String.ofList (action.toList.map fun c => if c = '.' then '_' else c.toUpper)

def auditOutbox (actorId : Uuid) (action targetType : String) (targetId : Uuid) : Saga ρ Unit := do
  modifyRows fun rows => { rows with
    auditLogs := rows.auditLogs ++ [{ actorId, action, targetType, targetId }] }
  flush .uncaught
  modifyRows fun rows => { rows with
    outboxEvents := rows.outboxEvents ++
      [{ aggregateType := targetType, aggregateId := targetId, eventType := action }] }
  flush .uncaught

variable (now : Timestamp)

def notify (recipientId : Uuid) (notificationType : String) : Saga ρ Unit := do
  let id ← uuid4
  modifyRows fun rows => { rows with
    notifications := rows.notifications ++ [{
      id
      recipientId
      publishJobId := some rows.job.id
      notificationType
      dueAt := now }] }

def notifyApprover (job : PublishJob) (notificationType : String) : Saga ρ Unit :=
  match job.inputSnapshot.approvedBy with
  | none => pure ()
  | some approver =>
    if approver = job.requestedBy then pure () else notify now approver notificationType

/-- `_notify_and_emit`; `requested_by` and `approved_by` are notified once each. -/
def notifyAndEmit (action : String) : Saga ρ Unit := do
  let job ← getJob
  notify now job.requestedBy (notificationType action)
  notifyApprover now job (notificationType action)
  auditOutbox job.requestedBy action "publish_job" job.id

def quotaDay (job : PublishJob) : Int := dayOf (job.scheduledLocal.getD now)

/-- The usage row that `_complete_quota` and `_release_quota` look up. -/
def usageOf (job : PublishJob) (usage : PublishQuotaUsage) : Bool :=
  usage.connectionId = job.connectionId && usage.channel = job.inputSnapshot.channel.getD "" &&
    usage.localDay = quotaDay now job

def quotaAlreadyReleased : AppError where
  code := "PUBLISH_QUOTA_ALREADY_RELEASED"
  message := "해제된 게시 한도 예약을 완료 처리할 수 없습니다."
  statusCode := 409

def quotaReservationMissing : AppError where
  code := "PUBLISH_QUOTA_RESERVATION_MISSING"
  message := "게시 작업의 일일 한도 예약을 찾을 수 없습니다."
  statusCode := 409

def raiseQuota (error : AppError) : Saga ρ Unit := do
  emit (.quotaRaised error.code)
  throw (.app error)

def completeQuota : Saga ρ Unit := do
  let job ← getJob
  if !job.operation.usesQuota then return ()
  else if job.quotaCompletedAt.isSome then return ()
  else if job.quotaReleasedAt.isSome then raiseQuota quotaAlreadyReleased
  else match ← selectUsage (usageOf now job) with
    | none => raiseQuota quotaReservationMissing
    | some usage => do
      modifyUsage usage.id fun usage =>
        { usage with completedCount := usage.completedCount + 1 }
      modifyJob fun job => { job with quotaCompletedAt := some now }

def markReleased : Saga ρ Unit := modifyJob fun job => { job with quotaReleasedAt := some now }

variable (usage : PublishQuotaUsage)

/-- Whether a `max(0, ...)` is about to change a count. -/
def noteClamp : Saga ρ Unit :=
  if usage.completedCount < 1 ∨ usage.reservedCount < 1 then emit .quotaClamped else pure ()

def reverseReservation : Saga ρ Unit := do
  noteClamp usage
  modifyUsage usage.id fun usage => { usage with
    completedCount := max 0 (usage.completedCount - 1)
    reservedCount := max 0 (usage.reservedCount - 1) }
  markReleased now

def freeReservation : Saga ρ Unit :=
  if usage.completedCount < usage.reservedCount then do
    modifyUsage usage.id fun usage => { usage with reservedCount := usage.reservedCount - 1 }
    markReleased now
  else emit .quotaWithheld

def releaseQuota (reverseCompleted : Bool) : Saga ρ Unit := do
  let job ← getJob
  if !job.operation.usesQuota then return ()
  else if job.quotaReleasedAt.isSome then return ()
  else match ← selectUsage (usageOf now job) with
    | none => return ()
    | some usage =>
      if reverseCompleted && job.quotaCompletedAt.isSome then reverseReservation now usage
      else if job.quotaCompletedAt.isSome then return ()
      else freeReservation now usage

/-- The reservation of a job that ends without having completed it. -/
def releaseUncompleted : Saga ρ Unit := do
  let job ← getJob
  if job.operation.usesQuota && job.quotaCompletedAt.isNone then releaseQuota now false
  else return ()

section Operations

variable [CanonicalHash]

def finishStep (now : Timestamp) (stepId : Uuid) : Saga ρ Unit := succeedStep now stepId

def assertRemoteIntegrity (remote : RemotePost) : Saga ρ Unit :=
  if remoteIntact remote then return () else raise remoteSnapshotHashMismatch

def checkRemoteConflict (remote : RemotePost) : Saga ρ Bool := do
  assertRemoteIntegrity remote
  let job ← getJob
  return remoteConflict job remote

def approvalSnapshotMismatch : AppError where
  code := "PUBLISH_APPROVAL_SNAPSHOT_MISMATCH"
  message := "승인 스냅샷이 작업 생성 이후 변경되었습니다."
  statusCode := 409

def resolveReady (env : WorkerEnv ρ) (connection : PublishingConnection)
    (policy : PublicationPolicy) : Saga ρ PublishReadyContent := do
  let job ← getJob
  let ready ← orRaise <| env.resolveReady {
    contentId := job.contentId
    contentVersionId := job.contentVersionId
    contentHash := job.contentHash
    approvalRequestId := job.approvalRequestId
    channel := connection.provider
    requireMediaLicense := policy.requireMediaLicense }
  if ready.approvalSnapshotHash ≠ job.approvalSnapshotHash then
    throw (.app approvalSnapshotMismatch)
  else return ready

def boundTo (job : PublishJob) (item : ReadyMedia) (binding : PublishedMediaBinding) : Bool :=
  binding.connectionId = job.connectionId && binding.mediaVersionId = item.mediaVersionId &&
    binding.mediaContentHash = item.contentHash

variable (env : WorkerEnv ρ) (channel : Channel ρ)

def uploadItem (stepId : Uuid) (item : ReadyMedia) : Saga ρ UploadedMedia := do
  let job ← getJob
  match ← selectBinding (boundTo job item) with
  | some binding =>
    return {
      remoteId := binding.remoteMediaId
      remoteUrl := binding.remoteUrl
      placementKey := item.placementKey }
  | none => do
    let content ← orRaise (env.resolveMedia item.objectRef item.contentHash)
    let call ← callProvider stepId .uploadMedia <|
      channel.provider.uploadMedia channel.context channel.secret {
        placementKey := item.placementKey
        filename := item.filename
        mimeType := item.mimeType
        content
        altText := item.altText
        caption := item.caption }
    recordCall stepId call (some call.value.remoteId)
    let id ← uuid4
    modifyRows fun rows => { rows with
      bindings := rows.bindings ++ [{
        id
        connectionId := job.connectionId
        mediaVersionId := item.mediaVersionId
        mediaContentHash := item.contentHash
        remoteMediaId := call.value.remoteId
        remoteUrl := call.value.remoteUrl
        uploadedByJobId := job.id }] }
    return call.value

/-- What a failed upload leaves of itself: nothing when it can be retried. -/
def mediaFailure (stepId : Uuid) (item : ReadyMedia) :
    Exc → Saga ρ (Option UploadedMedia × List MediaFailure)
  | .provider failure =>
    if failure.retryClass.retryable then raise failure
    else do
      emit (.caught failure)
      recordFailureOn env.now stepId failure
      return (none, [{
        placementKey := item.placementKey
        errorCode := failure.code
        retryClass := failure.retryClass }])
  | e => throw e

def uploadOrFail (stepId : Uuid) (item : ReadyMedia) :
    Saga ρ (Option UploadedMedia × List MediaFailure) :=
  tryCatch (do return (some (← uploadItem env channel stepId item), []))
    (mediaFailure env stepId item)

def uploadItems (env : WorkerEnv ρ) (channel : Channel ρ) (stepId : Uuid) :
    List ReadyMedia → Uploads × List MediaFailure → Saga ρ (Uploads × List MediaFailure)
  | [], done => return done
  | item :: rest, done => do
    let result ← uploadOrFail env channel stepId item
    uploadItems env channel stepId rest
      (result.1.elim done.1 (putUpload item.placementKey · done.1), done.2 ++ result.2)

def endUpload (now : Timestamp) (stepId : Uuid) (failures : List MediaFailure) : Saga ρ Unit :=
  if failures = [] then succeedStep now stepId
  else modifyStep stepId fun step => { step with state := .failed, finishedAt := some now }

def uploadMedia (env : WorkerEnv ρ) (channel : Channel ρ) (ready : PublishReadyContent) :
    Saga ρ (Uploads × List MediaFailure) :=
  if ready.media = [] then do
    succeedLocalStep env.now .uploadMedia
    return ([], [])
  else do
    let stepId ← runningStep env.now .uploadMedia
    let uploaded ← uploadItems env channel stepId ready.media ([], [])
    endUpload env.now stepId uploaded.2
    return uploaded

variable (ready : PublishReadyContent)

def buildDocument (uploads : Uploads) : Saga ρ PublishDocument := do
  let job ← getJob
  orRaise ((document env.renderForCms job ready uploads).mapError Exc.app)

/-- `_fetch_remote` and `_verify_remote`: reads the post in a step of its own. -/
def readRemote (kind : SagaStepKind) (remoteId : String) : Saga ρ RemotePost := do
  let stepId ← runningStep env.now kind
  let call ← callProvider stepId .getPost <|
    channel.provider.getPost channel.context channel.secret remoteId
  recordCall stepId call (some call.value.remoteId)
  finishStep env.now stepId
  return call.value

variable (post : PublishedPost)

def fetchRemote (kind : SagaStepKind) : Saga ρ RemotePost := readRemote env channel kind post.remoteId

def verifyRemote (env : WorkerEnv ρ) (channel : Channel ρ) (remoteId : String) : Saga ρ RemotePost :=
  readRemote env channel .verifyRemote remoteId

def snapshotRemote (env : WorkerEnv ρ) (postId : Uuid) (remote : RemotePost) (reason : String) :
    Saga ρ Unit := do
  assertRemoteIntegrity remote
  let job ← getJob
  match ← selectSnapshot fun snapshot =>
      snapshot.publishedPostId = postId && snapshot.snapshotHash = remote.remoteHash with
  | some _ => succeedLocalStep env.now .snapshotRemote
  | none => do
    let id ← uuid4
    modifyRows fun rows => { rows with
      snapshots := rows.snapshots ++ [{
        id
        publishedPostId := postId
        capturedByJobId := job.id
        reason
        snapshotJson := remote.snapshot
        snapshotHash := remote.remoteHash
        remoteEtag := remote.etag
        remoteUpdatedAt := remote.updatedAt.map (·.instant)
        capturedAt := env.now }] }
    succeedLocalStep env.now .snapshotRemote

def remoteIdChanged : ProviderFailure where
  code := "PUBLISH_REMOTE_ID_CHANGED"
  detail := "공식 CMS 응답의 원격 Post ID가 기존 연결과 일치하지 않습니다."
  retryClass := .final

/-- `_apply_remote`: the post row takes over what the remote side says. -/
def applyRemote (postId : Uuid) (remote : RemotePost) (incomplete : Bool) : Saga ρ Unit := do
  assertRemoteIntegrity remote
  let rows ← getRows
  if rows.posts.any fun post =>
      post.id = postId && post.remoteId ≠ "" && post.remoteId ≠ remote.remoteId then
    raise remoteIdChanged
  else modifyPost postId fun post => { post with
    remoteId := remote.remoteId
    remoteUrl := remote.remoteUrl
    remoteEtag := remote.etag
    remoteHash := remote.remoteHash
    remoteUpdatedAt := remote.updatedAt.map (·.instant)
    lastReconciledAt := some env.now
    state := postState remote.state incomplete }

def targetPostRequired : ProviderFailure where
  code := "PUBLISH_TARGET_POST_REQUIRED"
  detail := "원격 작업 대상 게시물 연결이 없습니다."
  retryClass := .final

/-- `repo.published_post`. -/
def publishedPost (postId : Uuid) : Saga ρ PublishedPost := do
  match ← selectPost (·.id = postId) with
  | some post => return post
  | none => throw (.app (notFound "PUBLISHED_POST" "게시물 연결"))

def targetPost : Saga ρ PublishedPost := do
  let job ← getJob
  match job.targetPublishedPostId with
  | none => raise targetPostRequired
  | some postId => do
    let post ← publishedPost postId
    match staleTarget job post with
    | some failure => raise failure
    | none => return post

def isExpectedScheduledTransition (remote : RemotePost) : Saga ρ Bool := do
  if post.state ≠ .scheduled ∨ postState remote.state false ≠ .published then return false
  else
    match ← selectSnapshot fun snapshot =>
        snapshot.publishedPostId = post.id && snapshot.snapshotHash = post.remoteHash with
    | none => return false
    | some previous => return sameScheduledBody previous.snapshotJson remote.snapshot

def remoteConflictFailure (detail : String) : ProviderFailure where
  code := "PUBLISH_REMOTE_CONFLICT"
  detail := detail
  retryClass := .final
  statusCode := some 409

/-- Creates the post, or updates the one that already carries the marker. -/
def writeMarked (stepId : Uuid) (document : PublishDocument) :
    Option RemotePost → Saga ρ (ProviderCall RemotePost)
  | none =>
    callProvider stepId .createPost <|
      channel.provider.createPost channel.context channel.secret document
  | some remote => do
    assertRemoteIntegrity remote
    callProvider stepId .updatePost <|
      channel.provider.updatePost channel.context channel.secret remote document

variable (connection : PublishingConnection)

/-- The row of the post that this job created: a new one, or the one of an earlier attempt. -/
def linkPost (remote : RemotePost) (incomplete : Bool) : Saga ρ Uuid := do
  let job ← getJob
  match ← selectPost (·.createdByJobId = some job.id) with
  | some post => do
    applyRemote env post.id remote incomplete
    return post.id
  | none => do
    let id ← uuid4
    modifyRows fun rows => { rows with
      posts := rows.posts ++ [{
        id
        contentId := job.contentId
        contentVersionId := job.contentVersionId
        contentHash := job.contentHash
        approvalRequestId := job.approvalRequestId
        connectionId := some job.connectionId
        createdByJobId := some job.id
        provider := connection.provider
        remoteSiteId := connection.remoteSiteId
        remoteId := remote.remoteId
        remoteUrl := remote.remoteUrl
        state := postState remote.state incomplete
        remoteEtag := remote.etag
        remoteHash := remote.remoteHash
        remoteUpdatedAt := remote.updatedAt.map (·.instant)
        localSnapshotHash := job.inputSnapshotHash
        lastReconciledAt := some env.now }] }
    return id

variable (policy : PublicationPolicy)

def createRemote (channel : Channel ρ) : Saga ρ Bool := do
  let ready ← resolveReady env connection policy
  succeedLocalStep env.now .validateReadiness
  let media ← uploadMedia env channel ready
  let document ← buildDocument env ready media.1
  let stepId ← runningStep env.now .writePost
  let job ← getJob
  let found ← callProvider stepId .findByMarker <|
    channel.provider.findByMarker channel.context channel.secret job.idempotencyMarker
  recordCall stepId found (found.value.map (·.remoteId))
  let call ← writeMarked channel stepId document found.value
  recordCall stepId call (some call.value.remoteId)
  finishStep env.now stepId
  assertRemoteIntegrity call.value
  let incomplete := decide (media.2 ≠ [])
  let postId ← linkPost env connection call.value incomplete
  modifyJob fun job => { job with targetPublishedPostId := some postId }
  let verified ← verifyRemote env channel call.value.remoteId
  applyRemote env postId verified incomplete
  snapshotRemote env postId verified "AFTER_CREATE"
  modifyJob fun job => { job with
    resultJson := some (.published postId verified.remoteId verified.remoteUrl media.2
      (mediaRemediation media.2)) }
  completeQuota env.now
  return incomplete

def importUpdate (postId : Uuid) (remote : RemotePost) : Saga ρ Bool := do
  applyRemote env postId remote false
  modifyPost postId fun post => { post with
    state := .conflict
    conflictJson := some (.importedUpdate remote.remoteHash) }
  modifyJob fun job => { job with resultJson := some (.remoteImported postId) }
  return false

/-- Uploads the media and writes the document over the remote post. -/
def overwriteRemote (remote : RemotePost) : Saga ρ (List MediaFailure) := do
  let media ← uploadMedia env channel ready
  let document ← buildDocument env ready media.1
  let stepId ← runningStep env.now .writePost
  let call ← callProvider stepId .updatePost <|
    channel.provider.updatePost channel.context channel.secret remote document
  recordCall stepId call (some call.value.remoteId)
  finishStep env.now stepId
  return media.2

def writeUpdate (remote : RemotePost) : Saga ρ Bool := do
  let failures ← overwriteRemote env channel ready remote
  let verified ← verifyRemote env channel post.remoteId
  let job ← getJob
  modifyPost post.id fun post => { post with
    contentVersionId := ready.contentVersionId
    contentHash := ready.contentHash
    approvalRequestId := ready.approvalRequestId
    localSnapshotHash := job.inputSnapshotHash
    conflictJson := none }
  let incomplete := decide (failures ≠ [])
  applyRemote env post.id verified incomplete
  snapshotRemote env post.id verified "AFTER_UPDATE"
  modifyJob fun job => { job with
    resultJson := some (.published post.id verified.remoteId verified.remoteUrl failures
      (mediaRemediation failures)) }
  completeQuota env.now
  return incomplete

def updateRemote (channel : Channel ρ) : Saga ρ Bool := do
  let ready ← resolveReady env connection policy
  succeedLocalStep env.now .validateReadiness
  let post ← targetPost
  let remote ← fetchRemote env channel post .fetchRemote
  let conflict ← checkRemoteConflict remote
  let job ← getJob
  let action := job.inputSnapshot.conflictAction.getD .abort
  if conflict ∧ action = .abort then
    raise (remoteConflictFailure "원격 게시물이 마지막 동기화 후 수정되었습니다.")
  else do
    snapshotRemote env post.id remote "BEFORE_UPDATE"
    if conflict ∧ action = .importRemote then importUpdate env post.id remote
    else writeUpdate env channel ready post remote

/-- A remote post that is gone ends the step that was to read it. -/
def missingRemote (now : Timestamp) (kind : SagaStepKind) : Exc → Saga ρ (Option RemotePost)
  | .provider failure =>
    if failure.statusCode ≠ some 404 then raise failure
    else do
      emit (.caught failure)
      recordProviderFailure now failure
      match ← selectStep fun step => step.stepKind = kind with
      | none => return none
      | some step => do
        emit (.stepSucceeded step.id)
        modifyStep step.id fun step => { step with
          state := .succeeded
          errorCode := none
          finishedAt := some now }
        return none
  | e => throw e

def fetchIfPresent (kind : SagaStepKind) : Saga ρ (Option RemotePost) :=
  tryCatch (do return some (← fetchRemote env channel post kind)) (missingRemote env.now kind)

def deleteRemote : Saga ρ Bool := do
  let post ← targetPost
  match ← fetchIfPresent env channel post .fetchRemote with
  | none => do
    modifyPost post.id fun post => { post with
      state := .deleted
      deletedAt := some env.now
      lastReconciledAt := some env.now }
    modifyJob fun job => { job with
      resultJson := some (.deleted post.id post.remoteId true false) }
    return false
  | some remote => do
    if ← checkRemoteConflict remote then
      raise (remoteConflictFailure "원격 게시물이 마지막 동기화 후 수정되어 삭제를 중단했습니다.")
    else do
      snapshotRemote env post.id remote "BEFORE_DELETE"
      let stepId ← runningStep env.now .writePost
      let job ← getJob
      let force := job.inputSnapshot.forceDelete
      let call ← callProvider stepId .deletePost <|
        channel.provider.deletePost channel.context channel.secret remote force
      recordCall stepId call (some call.value.remoteId)
      finishStep env.now stepId
      modifyPost post.id fun post => { post with
        state := if force then .deleted else .trashed
        deletedAt := some env.now
        lastReconciledAt := some env.now }
      modifyJob fun job => { job with
        resultJson := some (.deleted post.id post.remoteId false force) }
      return false

def touchPost (postId : Uuid) : Saga ρ Unit :=
  modifyPost postId fun post => { post with lastReconciledAt := some env.now }

def importReconcile (postId : Uuid) (remote : RemotePost) : Saga ρ Bool := do
  applyRemote env postId remote false
  modifyPost postId fun post => { post with
    state := .conflict
    conflictJson := some (.importedReconcile remote.remoteHash) }
  modifyJob fun job => { job with resultJson := some (.remoteImported postId) }
  return false

def overwriteReconcile (channel : Channel ρ) (post : PublishedPost) (remote : RemotePost) :
    Saga ρ Bool := do
  let ready ← resolveReady env connection policy
  let failures ← overwriteRemote env channel ready remote
  let verified ← verifyRemote env channel post.remoteId
  let incomplete := decide (failures ≠ [])
  applyRemote env post.id verified incomplete
  snapshotRemote env post.id verified "AFTER_RECONCILE_OVERWRITE"
  modifyPost post.id fun post => { post with conflictJson := none }
  modifyJob fun job => { job with
    resultJson := some (.remoteOverwritten post.id failures (mediaRemediation failures)) }
  return incomplete

/-- What becomes of a remote post that differs from the local snapshot. -/
def settleConflict (channel : Channel ρ) (post : PublishedPost) (remote : RemotePost) :
    Saga ρ Bool := do
  snapshotRemote env post.id remote "RECONCILIATION_CONFLICT"
  let job ← getJob
  match job.inputSnapshot.conflictAction.getD .abort with
  | .abort => do
    modifyPost post.id fun post => { post with
      state := .conflict
      conflictJson := some (.diverged remote.remoteHash remote.etag) }
    raise (remoteConflictFailure "원격 게시물과 로컬 스냅샷이 충돌합니다.")
  | .importRemote => importReconcile env post.id remote
  | .overwrite => overwriteReconcile env connection policy channel post remote

def reconcileRemote (channel : Channel ρ) : Saga ρ Bool := do
  let post ← targetPost
  match ← fetchIfPresent env channel post .reconcile with
  | none => do
    modifyPost post.id fun post => { post with
      state := .remoteMissing
      conflictJson := some .remoteMissing
      lastReconciledAt := some env.now }
    modifyJob fun job => { job with resultJson := some (.remoteMissing post.id) }
    return false
  | some remote => do
    if !(← checkRemoteConflict remote) then do
      touchPost env post.id
      modifyJob fun job => { job with resultJson := some (.inSync post.id) }
      return false
    else if ← isExpectedScheduledTransition post remote then do
      snapshotRemote env post.id remote "SCHEDULE_TRANSITION"
      applyRemote env post.id remote false
      modifyPost post.id fun post => { post with conflictJson := none }
      modifyJob fun job => { job with
        resultJson := some (.scheduledTransition post.id remote.state) }
      return false
    else settleConflict env connection policy channel post remote

def rollbackSnapshotMismatch : ProviderFailure where
  code := "ROLLBACK_SNAPSHOT_MISMATCH"
  detail := "rollback 스냅샷 무결성 검증에 실패했습니다."
  retryClass := .final

/-- The snapshot to restore; `input_snapshot["snapshot_id"]` raises `KeyError` when absent. -/
def rollbackSnapshot (postId : Uuid) : Saga ρ RemotePostSnapshot := do
  let job ← getJob
  match job.inputSnapshot.snapshotId with
  | none => throw .uncaught
  | some snapshotId =>
    match ← selectSnapshot (·.id = snapshotId) with
    | none => throw (.app (notFound "REMOTE_SNAPSHOT" "원격 게시물 스냅샷"))
    | some snapshot =>
      if snapshot.publishedPostId ≠ postId ∨
          some snapshot.snapshotHash ≠ job.inputSnapshot.snapshotHash ∨
          canonicalHash (.remoteBody snapshot.snapshotJson) ≠ snapshot.snapshotHash then
        raise rollbackSnapshotMismatch
      else return snapshot

def rollbackRemote : Saga ρ Bool := do
  let post ← targetPost
  let remote ← fetchRemote env channel post .fetchRemote
  if ← checkRemoteConflict remote then
    raise (remoteConflictFailure "원격 게시물이 변경되어 rollback을 중단했습니다.")
  else do
    snapshotRemote env post.id remote "BEFORE_ROLLBACK"
    let snapshot ← rollbackSnapshot post.id
    let stepId ← runningStep env.now .rollback
    let call ← callProvider stepId .restoreSnapshot <|
      channel.provider.restoreSnapshot channel.context channel.secret remote snapshot.snapshotJson
    recordCall stepId call (some call.value.remoteId)
    finishStep env.now stepId
    let verified ← verifyRemote env channel post.remoteId
    applyRemote env post.id verified false
    snapshotRemote env post.id verified "AFTER_ROLLBACK"
    modifyPost post.id fun post => { post with conflictJson := none }
    modifyJob fun job => { job with
      resultJson := some (.restoredSnapshot post.id snapshot.id) }
    return false

end Operations

end BlogOps.Publishing
