import BlogOps.PublishingRows
import Mathlib.Algebra.Group.Nat.Defs

/-!
# Publishing rules

The pure rules behind the publishing service and its worker: quotas and
schedules, the capability and option checks of a request, the comparison of a
remote post with what a job expects, the document that is written, the choice
of the step a failure is recorded on, and the backoff of a retry.
-/

namespace BlogOps.Publishing

open Jobs

def notFound (code label : String) : AppError where
  code := code ++ "_NOT_FOUND"
  message := label ++ "을(를) 찾을 수 없습니다."
  statusCode := 404

def dayOf (t : Timestamp) : Int := t / 86400000000

/-- The value of the first of the keys that the policy holds. -/
def quotaFor (policy : List (String × Int)) (provider : PublishingProvider) (channel : String) :
    Except AppError (Option Int) :=
  match [provider.value ++ ":" ++ channel, provider.value, "channel:" ++ channel,
      "default"].findSome? (List.lookup · policy) with
  | none => .ok none
  | some value =>
    if value < 1 then
      .error {
        code := "PUBLISH_QUOTA_POLICY_INVALID"
        message := "일일 발행 한도는 1 이상이어야 합니다."
        statusCode := 409 }
    else .ok (some value)

/-- A zone: the offset at a local reading with its fold, and the local reading
of an instant with its fold. -/
structure Zone where
  utcoffset : Timestamp → Bool → Int
  fromUtc : Timestamp → Timestamp × Bool

structure Schedule where
  scheduledDatetime : Timestamp
  localDatetime : Timestamp
  dstFold : Option Bool
  localDay : Int

def scheduleError (code message : String) : AppError where
  code := code
  message := message
  statusCode := 422

/-- The instant of a local reading under one fold, when it exists. -/
def scheduleCandidate (zone : Zone) (scheduledLocal : Timestamp) (fold : Bool) : Option Timestamp :=
  let instant := scheduledLocal - zone.utcoffset scheduledLocal fold
  if (zone.fromUtc instant).1 = scheduledLocal then some instant else none

def validateSchedule (zoneInfo : String → Option Zone) (scheduledAtUtc : AwareTime)
    (scheduledLocal : LocalTime) (timezoneName : String) (fold : Option Bool) : Except AppError Schedule :=
  if scheduledAtUtc.offset ≠ 0 then
    .error (scheduleError "PUBLISH_SCHEDULE_NOT_UTC" "scheduled_at_utc는 UTC 오프셋이어야 합니다.")
  else if scheduledLocal.offset.isSome then
    .error (scheduleError "PUBLISH_LOCAL_TIME_MUST_BE_NAIVE" "로컬 예약 시각에는 오프셋을 넣지 마세요.")
  else match zoneInfo timezoneName with
  | none => .error (scheduleError "PUBLISH_TIMEZONE_INVALID" "사이트 시간대를 찾을 수 없습니다.")
  | some zone =>
    let candidate := scheduleCandidate zone scheduledLocal.clock
    let ambiguous := (candidate false).isSome && (candidate true).isSome && candidate false ≠ candidate true
    if (candidate false).isNone && (candidate true).isNone then
      .error (scheduleError "PUBLISH_DST_NONEXISTENT_TIME" "DST 전환으로 존재하지 않는 로컬 시각입니다.")
    else if ambiguous && fold.isNone then
      .error (scheduleError "PUBLISH_DST_FOLD_REQUIRED" "중복되는 DST 로컬 시각에는 dst_fold가 필요합니다.")
    else if !ambiguous && fold = some true then
      .error (scheduleError "PUBLISH_DST_FOLD_INVALID" "중복되지 않는 로컬 시각에는 dst_fold=1을 사용할 수 없습니다.")
    else match candidate (fold.getD false) with
    | none =>
      .error (scheduleError "PUBLISH_DST_FOLD_INVALID" "dst_fold가 로컬 시각과 일치하지 않습니다.")
    | some resolvedUtc =>
      if resolvedUtc ≠ scheduledAtUtc.instant then
        .error (scheduleError "PUBLISH_SCHEDULE_MISMATCH" "UTC 시각과 사이트 로컬 시각이 같은 순간을 가리키지 않습니다.")
      else .ok {
        scheduledDatetime := scheduledAtUtc.instant
        localDatetime := scheduledLocal.clock
        dstFold := some (fold.getD false)
        localDay := dayOf scheduledLocal.clock }

/-- `str.casefold` up to the letters that fold to ASCII on their own, which is
all that a comparison with the names below can see. -/
def casefold (s : String) : String :=
  String.ofList (s.toList.map fun c =>
    if c = 'ſ' then 's' else if c = 'K' then 'k' else c.toLower)

def postState (remoteState : String) (incomplete : Bool) : PublishedPostState :=
  if incomplete then .partialSuccess
  else
    let normalized := casefold remoteState
    if normalized ∈ ["published", "publish", "live"] then .published
    else if normalized ∈ ["scheduled", "future"] then .scheduled
    else if normalized ∈ ["deleted"] then .deleted
    else .draft

def remoteIntact [CanonicalHash] (remote : RemotePost) : Bool :=
  canonicalHash (.remoteBody remote.snapshot) = remote.remoteHash

def remoteSnapshotHashMismatch : ProviderFailure where
  code := "PUBLISH_REMOTE_SNAPSHOT_HASH_MISMATCH"
  detail := "공식 CMS adapter의 원격 스냅샷 해시가 본문과 일치하지 않습니다."
  retryClass := .final

/-- What `_remote_conflict` returns once the integrity of the post is checked. -/
def remoteConflict (job : PublishJob) (remote : RemotePost) : Bool :=
  remote.remoteHash ≠ job.inputSnapshot.expectedRemoteHash.getD "" ||
    (job.inputSnapshot.expectedRemoteEtag.isSome && remote.etag ≠ job.inputSnapshot.expectedRemoteEtag) ||
    (job.inputSnapshot.expectedRemoteUpdatedAt.isSome &&
      remote.updatedAt ≠ job.inputSnapshot.expectedRemoteUpdatedAt)

/-- The first of the stored remote fields that differs from what the job expects. -/
def staleTarget (job : PublishJob) (post : PublishedPost) : Option ProviderFailure :=
  if job.inputSnapshot.expectedRemoteHash.any (· ≠ post.remoteHash) then
    some {
      code := "PUBLISH_LOCAL_REMOTE_SNAPSHOT_STALE"
      detail := "게시 작업 생성 후 로컬 원격 스냅샷이 변경되었습니다."
      retryClass := .final
      statusCode := some 409 }
  else if job.inputSnapshot.expectedRemoteEtag.any (some · ≠ post.remoteEtag) then
    some {
      code := "PUBLISH_LOCAL_ETAG_STALE"
      detail := "게시 작업 생성 후 저장된 ETag가 변경되었습니다."
      retryClass := .final
      statusCode := some 409 }
  else if job.inputSnapshot.expectedRemoteUpdatedAt.any
      (some · ≠ post.remoteUpdatedAt.map (AwareTime.mk · 0)) then
    some {
      code := "PUBLISH_LOCAL_UPDATED_AT_STALE"
      detail := "게시 작업 생성 후 저장된 원격 수정 시각이 변경되었습니다."
      retryClass := .final
      statusCode := some 409 }
  else none

def scheduleIgnoredKeys : List String :=
  ["date_gmt", "modified_gmt", "published_at", "updated_at", "published", "updated", "status", "url"]

def sameScheduledBody [CanonicalHash] (previous remote : RemoteBody) : Bool :=
  let body (snapshot : RemoteBody) := snapshot.filter fun item => item.1 ∉ scheduleIgnoredKeys
  canonicalHash (.remoteBody (body previous)) = canonicalHash (.remoteBody (body remote))

structure RenderedContent where
  html : String
  unsupported : List String

abbrev Uploads := List (String × UploadedMedia)

def putUpload (placement : String) (media : UploadedMedia) (uploads : Uploads) : Uploads :=
  uploads.filter (·.1 ≠ placement) ++ [(placement, media)]

def featuredOptions (options : PublishOptions) (ready : PublishReadyContent)
    (uploads : Uploads) : DocumentOptions :=
  let featured := options.featuredMediaPlacement.getD ""
  match if featured = "" then none else uploads.lookup featured with
  | none => { options }
  | some media =>
    let source := ready.media.find? (·.placementKey = featured)
    { options
      featuredMediaRemoteId := some media.remoteId
      featuredMediaUrl := some media.remoteUrl
      featuredMediaAlt := source.map (·.altText)
      featuredMediaCaption := source.bind (·.caption) }

/-- `render` is the renderer; it sees the blocks, the uploaded urls, the
tracking options and the attributions. -/
def document
    (render : List RemoteBody → List (String × String) → List (String × String) → List String →
      RenderedContent)
    (job : PublishJob) (ready : PublishReadyContent) (uploads : Uploads) :
    Except AppError PublishDocument :=
  let options := job.inputSnapshot.options.getD {}
  let mediaUrls := uploads.map fun item => (item.1, item.2.remoteUrl)
  let rendered := render ready.document mediaUrls options.tracking
    ((ready.media.filterMap (·.attributionText)).filter (· ≠ ""))
  if rendered.unsupported ≠ [] ∧ options.unsupportedBlockPolicy = "REJECT" then
    .error {
      code := "PUBLISH_UNSUPPORTED_BLOCK"
      message := "채널에서 지원하지 않는 콘텐츠 블록이 있습니다."
      statusCode := 409
      fields := rendered.unsupported.map fun blockKey => ⟨"block", blockKey⟩ }
  else .ok {
    title := ready.title
    html := rendered.html
    plainText := ready.plainText
    visibility := job.visibility
    scheduledAtUtc := if job.visibility = .scheduled then job.scheduledAtUtc else none
    idempotencyMarker := job.idempotencyMarker
    options := featuredOptions options ready uploads
    mediaUrls := mediaUrls }

def RetryClass.retryable (c : RetryClass) : Bool := c ∈ [network, rateLimit, server]

def mediaRemediation (failures : List MediaFailure) : Option String :=
  if failures = [] then none
  else if failures.any (·.retryClass.retryable) then some "RETRY_JOB"
  else some "EDIT_CONTENT_OR_UPLOAD_MEDIA_MANUALLY"

def retryDelay (failure : ProviderFailure) (attempt : Nat) : Nat :=
  match failure.retryAfterSeconds with
  | some seconds => if seconds = 0 then min 3600 (5 * 2 ^ (attempt - 1)) else seconds
  | none => min 3600 (5 * 2 ^ (attempt - 1))

def failureState (c : RetryClass) : StepState := if c = .final then .failed else .retrying

variable (steps : List PublishSagaStep)

def highestSequence : Option PublishSagaStep :=
  steps.foldl (fun best step =>
    match best with
    | none => some step
    | some top => if top.sequence < step.sequence then some step else some top) none

def lowestSequence : Option PublishSagaStep :=
  steps.foldl (fun best step =>
    match best with
    | none => some step
    | some top => if step.sequence < top.sequence then some step else some top) none

/-- The row that `_record_provider_failure` selects when it is not given a step. -/
def failureStep : Option PublishSagaStep := (highestSequence (steps.filter (·.state = .running))).or
    (lowestSequence (steps.filter (·.state = .pending)))

/-- The row that `_record_local_failure` selects. -/
def localFailureStep : Option PublishSagaStep := (lowestSequence (steps.filter (·.state = .running))).or
    (lowestSequence (steps.filter (·.state = .pending)))

def initialStepKinds : PublishOperation → List SagaStepKind
  | .create => [.validateReadiness, .uploadMedia, .writePost, .verifyRemote, .snapshotRemote, .notify]
  | .update => [.validateReadiness, .fetchRemote, .snapshotRemote, .uploadMedia, .writePost,
      .verifyRemote, .notify]
  | .delete => [.fetchRemote, .snapshotRemote, .writePost, .notify]
  | .reconcile => [.reconcile, .snapshotRemote, .uploadMedia, .writePost, .verifyRemote, .notify]
  | .rollback => [.fetchRemote, .snapshotRemote, .rollback, .verifyRemote, .notify]

/-- Only these operations reserve the daily quota. -/
def PublishOperation.usesQuota (operation : PublishOperation) : Bool := operation ∈ [create, update]

end BlogOps.Publishing
