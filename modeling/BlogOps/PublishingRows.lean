import BlogOps.JobStates

/-!
# Publishing rows of one workspace

The vocabularies, the rows of the publishing tables, the requests that the
schemas let through, and what providers answer.  A timestamp is an instant in
microseconds, a local time the same count on the site's clock; an aware time
keeps its offset, as its ISO text does.
-/

namespace BlogOps.Publishing

open Jobs

abbrev Timestamp := Int

structure AwareTime where
  instant : Timestamp
  offset : Int
deriving DecidableEq

/-- A wall clock reading; `offset` is present when the value is aware. -/
structure LocalTime where
  clock : Timestamp
  offset : Option Int := none

inductive PublishingProvider where
  | wordpress | ghost | blogger | customerCms | naverManual
deriving DecidableEq

def PublishingProvider.value : PublishingProvider → String
  | wordpress => "WORDPRESS"
  | ghost => "GHOST"
  | blogger => "BLOGGER"
  | customerCms => "CUSTOMER_CMS"
  | naverManual => "NAVER_MANUAL"

inductive ConnectionState where
  | pending | active | degraded | expired | disconnected
deriving DecidableEq

def ConnectionState.value : ConnectionState → String
  | pending => "PENDING"
  | active => "ACTIVE"
  | degraded => "DEGRADED"
  | expired => "EXPIRED"
  | disconnected => "DISCONNECTED"

inductive ConnectionOperation where
  | diagnose | refresh | syncSettings | disconnect
deriving DecidableEq

inductive PublishOperation where
  | create | update | delete | reconcile | rollback
deriving DecidableEq

inductive PublishVisibility where
  | draft | publish | scheduled | pendingReview | private_
deriving DecidableEq

inductive PublishedPostState where
  | draft | scheduled | published | partialSuccess | conflict | trashed | deleted
  | remoteMissing | manuallyConfirmed
deriving DecidableEq

inductive ConflictAction where
  | abort | overwrite | importRemote
deriving DecidableEq

inductive RetryClass where
  | network | rateLimit | server | final
deriving DecidableEq

inductive SagaStepKind where
  | validateReadiness | reserveQuota | fetchRemote | snapshotRemote | uploadMedia
  | upsertTaxonomy | writePost | verifyRemote | reconcile | rollback | cancelRemote | notify
deriving DecidableEq

/-- The keys of a remote body with the JSON text of their values. -/
abbrev RemoteBody := List (String × String)

structure RemotePost where
  remoteId : String
  remoteUrl : String
  state : String
  etag : Option String
  updatedAt : Option AwareTime
  snapshot : RemoteBody
  remoteHash : String
deriving DecidableEq

structure UploadedMedia where
  remoteId : String
  remoteUrl : String
  placementKey : String

structure DiagnosticCheck where
  key : String
  ok : Bool

structure SiteSettings where
  tags : Option (List String) := none
  authors : Option (List String) := none
  newsletters : Option (List String) := none
  rest : RemoteBody := []

structure ProviderDiagnostic where
  checks : List DiagnosticCheck
  capabilities : List String
  siteSettings : SiteSettings

structure ProviderCall (α : Type) where
  value : α
  method : String
  endpointPath : String
  statusCode : Nat
  providerRequestId : Option String := none

structure ProviderFailure where
  code : String
  detail : String
  retryClass : RetryClass
  statusCode : Option Nat := none
  retryAfterSeconds : Option Nat := none
  method : String := "UNKNOWN"
  endpointPath : String := ""
deriving DecidableEq

structure PublishOptions where
  slug : Option String := none
  excerpt : Option String := none
  categoryIds : List String := []
  categoryNames : List String := []
  tags : List String := []
  createMissingTaxonomy : Bool := false
  remoteAuthorId : Option String := none
  featuredMediaPlacement : Option String := none
  canonicalUrl : Option String := none
  commentStatus : Option String := none
  newsletterId : Option String := none
  sendNewsletter : Bool := false
  memberVisibility : Option String := none
  tracking : List (String × String) := []
  allowedMeta : List (String × String) := []
  unsupportedBlockPolicy : String := "WARN"

structure PublicationPolicyCreate where
  expectedPreviousVersion : Nat := 0
  dailyQuotas : List (String × Int)
  maxScheduleDays : Int := 365
  allowedProviders : List PublishingProvider
  requireMediaLicense : Bool := true
  allowedCustomContracts : List String := []
  naverPolicyVersion : String

structure PublishingConnectionCreate where
  provider : PublishingProvider
  name : String
  siteUrl : String
  siteTimezone : String
  remoteSiteId : Option String := none
  officialContract : String
  apiVersion : String
  apiDeprecationAt : Option Timestamp := none
  credentialSecretRef : String
  restMetaAllowlist : List String := []

structure ConnectionCommandCreate where
  expectedLockVersion : Nat
  idempotencyKey : String

structure PublishCreate where
  contentVersionId : Uuid
  contentHash : String
  approvalRequestId : Uuid
  connectionId : Uuid
  visibility : PublishVisibility
  scheduledAtUtc : Option AwareTime := none
  scheduledLocal : Option LocalTime := none
  siteTimezone : Option String := none
  dstFold : Option Bool := none
  options : PublishOptions := {}

structure PublishedPostUpdate where
  expectedLockVersion : Nat
  contentVersionId : Uuid
  contentHash : String
  approvalRequestId : Uuid
  visibility : PublishVisibility
  scheduledAtUtc : Option AwareTime := none
  scheduledLocal : Option LocalTime := none
  siteTimezone : Option String := none
  dstFold : Option Bool := none
  expectedRemoteEtag : Option String := none
  expectedRemoteHash : String
  expectedRemoteUpdatedAt : Option AwareTime := none
  conflictAction : ConflictAction := .abort
  options : PublishOptions := {}

structure PublishedPostDelete where
  expectedLockVersion : Nat
  confirmRemoteId : String
  expectedRemoteEtag : Option String := none
  expectedRemoteHash : String
  forceDelete : Bool := false

structure ReconcileCreate where
  expectedLockVersion : Nat
  conflictAction : ConflictAction := .abort

structure RollbackCreate where
  expectedLockVersion : Nat
  snapshotId : Uuid
  expectedRemoteEtag : Option String := none
  expectedRemoteHash : String

structure CancelPublishCreate where
  expectedLockVersion : Nat
  reason : String

structure RetryPublishCreate where
  expectedLockVersion : Nat
  reason : String

structure PolicySnapshot where
  version : Nat
  dailyQuotas : List (String × Int)
  maxScheduleDays : Int
  allowedProviders : List PublishingProvider
  requireMediaLicense : Bool
  allowedCustomContracts : List String
  naverPolicyVersion : String
deriving DecidableEq

structure PublicationPolicy where
  id : Uuid
  version : Nat
  dailyQuotas : List (String × Int)
  maxScheduleDays : Int
  allowedProviders : List PublishingProvider
  requireMediaLicense : Bool
  allowedCustomContracts : List String
  naverPolicyVersion : String
  snapshotJson : PolicySnapshot
  snapshotHash : String
  createdBy : Uuid

structure PublishingConnection where
  id : Uuid
  provider : PublishingProvider
  name : String
  siteUrl : String
  siteTimezone : String
  remoteSiteId : Option String
  officialContract : String
  apiVersion : String
  apiDeprecationAt : Option Timestamp
  credentialExpiresAt : Option Timestamp := none
  credentialExpiryNotifiedFor : Option Timestamp := none
  credentialSecretRef : String
  state : ConnectionState := .pending
  capabilities : List String := []
  restMetaAllowlist : List String
  siteSettingsSnapshot : SiteSettings := {}
  siteSettingsHash : Option String := none
  lastDiagnosedAt : Option Timestamp := none
  lastSuccessAt : Option Timestamp := none
  lastErrorCode : Option String := none
  disconnectedAt : Option Timestamp := none
  createdBy : Uuid

structure PublishingConnectionJob where
  id : Uuid
  connectionId : Uuid
  requestedBy : Uuid
  operation : ConnectionOperation
  state : JobState := .queued
  idempotencyKey : String
  requestHash : String
  expectedLockVersion : Nat
  attempt : Nat := 0
  maxAttempts : Nat := 3
  checksJson : List DiagnosticCheck := []
  errorCode : Option String := none
  errorDetail : Option String := none
  retryAfterSeconds : Option Nat := none
  startedAt : Option Timestamp := none
  finishedAt : Option Timestamp := none

structure PublishQuotaUsage where
  id : Uuid
  connectionId : Uuid
  policyId : Uuid
  provider : PublishingProvider
  channel : String
  localDay : Int
  timezoneName : String
  quotaLimit : Int
  reservedCount : Int := 0
  completedCount : Int := 0

/-- The keys of `input_snapshot` that a later step reads. -/
structure InputSnapshot where
  channel : Option String := none
  approvedBy : Option Uuid := none
  conflictAction : Option ConflictAction := none
  expectedRemoteHash : Option String := none
  expectedRemoteEtag : Option String := none
  expectedRemoteUpdatedAt : Option AwareTime := none
  snapshotId : Option Uuid := none
  snapshotHash : Option String := none
  forceDelete : Bool := false
  options : Option PublishOptions := none

structure MediaFailure where
  placementKey : String
  errorCode : String
  retryClass : RetryClass

inductive ResultJson where
  | published (postId : Uuid) (remoteId remoteUrl : String) (mediaFailures : List MediaFailure)
      (mediaRemediation : Option String)
  | remoteOverwritten (postId : Uuid) (mediaFailures : List MediaFailure)
      (mediaRemediation : Option String)
  | remoteImported (postId : Uuid)
  | deleted (postId : Uuid) (remoteId : String) (alreadyMissing force : Bool)
  | remoteMissing (postId : Uuid)
  | inSync (postId : Uuid)
  | scheduledTransition (postId : Uuid) (remoteState : String)
  | restoredSnapshot (postId snapshotId : Uuid)
  | cancellationReason (reason : String)
  | retryReason (reason : String)

def ResultJson.mediaFailures : ResultJson → List MediaFailure
  | published _ _ _ failures _ | remoteOverwritten _ failures _ => failures
  | _ => []

structure PublishJob where
  id : Uuid
  requestedBy : Uuid
  operation : PublishOperation
  state : JobState
  contentId : Uuid
  contentVersionId : Uuid
  contentHash : String
  connectionId : Uuid
  approvalRequestId : Uuid
  approvalSnapshotHash : String
  policyId : Uuid
  policySnapshot : PolicySnapshot
  policySnapshotHash : String
  targetPublishedPostId : Option Uuid
  visibility : PublishVisibility
  scheduledAtUtc : Option Timestamp
  scheduledLocal : Option Timestamp
  siteTimezone : String
  dstFold : Option Bool
  idempotencyKey : String
  requestHash : String
  idempotencyMarker : String
  inputSnapshot : InputSnapshot
  inputSnapshotHash : String
  attempt : Nat := 0
  maxAttempts : Nat := 3
  cancelRequestedAt : Option Timestamp := none
  cancelledAt : Option Timestamp := none
  startedAt : Option Timestamp := none
  finishedAt : Option Timestamp := none
  retryAfterSeconds : Option Nat := none
  quotaCompletedAt : Option Timestamp := none
  quotaReleasedAt : Option Timestamp := none
  errorCode : Option String := none
  errorDetail : Option String := none
  resultJson : Option ResultJson := none

structure PublishSagaStep where
  id : Uuid
  sequence : Nat
  stepKind : SagaStepKind
  state : StepState := .pending
  attempt : Nat := 0
  errorCode : Option String := none
  startedAt : Option Timestamp := none
  finishedAt : Option Timestamp := none

structure PublishAttempt where
  id : Uuid
  stepId : Uuid
  attemptNumber : Nat
  providerRequestId : Option String
  method : String
  endpointPath : String
  responseStatus : Option Nat
  retryClass : RetryClass
  errorCode : Option String
  remoteId : Option String

inductive ConflictJson where
  | importedUpdate (snapshotHash : String)
  | importedReconcile (remoteHash : String)
  | remoteMissing
  | diverged (remoteHash : String) (remoteEtag : Option String)

structure PublishedPost where
  id : Uuid
  contentId : Uuid
  contentVersionId : Uuid
  contentHash : String
  approvalRequestId : Uuid
  connectionId : Option Uuid
  createdByJobId : Option Uuid
  provider : PublishingProvider
  remoteSiteId : Option String
  remoteId : String
  remoteUrl : String
  state : PublishedPostState
  remoteEtag : Option String
  remoteHash : String
  remoteUpdatedAt : Option Timestamp
  localSnapshotHash : String
  lastReconciledAt : Option Timestamp
  conflictJson : Option ConflictJson := none
  deletedAt : Option Timestamp := none

structure RemotePostSnapshot where
  id : Uuid
  publishedPostId : Uuid
  capturedByJobId : Uuid
  reason : String
  snapshotJson : RemoteBody
  snapshotHash : String
  remoteEtag : Option String
  remoteUpdatedAt : Option Timestamp
  capturedAt : Timestamp

structure PublishedMediaBinding where
  id : Uuid
  connectionId : Uuid
  mediaVersionId : Uuid
  mediaContentHash : String
  remoteMediaId : String
  remoteUrl : String
  uploadedByJobId : Uuid

structure PublishingNotification where
  id : Uuid
  recipientId : Uuid
  publishJobId : Option Uuid
  notificationType : String
  dueAt : Timestamp

structure AuditLog where
  actorId : Uuid
  action : String
  targetType : String
  targetId : Uuid

structure OutboxEvent where
  aggregateType : String
  aggregateId : Uuid
  eventType : String

structure ReadyMedia where
  assetId : Uuid
  mediaVersionId : Uuid
  placementKey : String
  objectRef : String
  contentHash : String
  mimeType : String
  filename : String
  altText : String
  caption : Option String
  attributionText : Option String

structure PublishReadyContent where
  contentId : Uuid
  contentVersionId : Uuid
  contentHash : String
  title : String
  document : List RemoteBody
  plainText : String
  channel : String
  approvalRequestId : Uuid
  approvalSnapshotHash : String
  approvedBy : Uuid
  media : List ReadyMedia

structure DocumentOptions where
  options : PublishOptions
  featuredMediaRemoteId : Option String := none
  featuredMediaUrl : Option String := none
  featuredMediaAlt : Option String := none
  featuredMediaCaption : Option String := none

structure PublishDocument where
  title : String
  html : String
  plainText : String
  visibility : PublishVisibility
  scheduledAtUtc : Option Timestamp
  idempotencyMarker : String
  options : DocumentOptions
  mediaUrls : List (String × String)

/-- What the services put through `canonical_hash`. -/
inductive Canonical where
  | policySnapshot (snapshot : PolicySnapshot)
  | inputSnapshot (snapshot : InputSnapshot)
  | remoteBody (body : RemoteBody)
  | siteSettings (settings : SiteSettings)
  | createRequest (contentId : Uuid) (data : PublishCreate)
  | updateRequest (postId : Uuid) (data : PublishedPostUpdate)
  | deleteRequest (postId : Uuid) (data : PublishedPostDelete)
  | reconcileRequest (postId : Uuid) (data : ReconcileCreate)
  | rollbackRequest (postId : Uuid) (data : RollbackCreate)
  | connectionCommand (connectionId : Uuid) (operation : ConnectionOperation)
      (expectedLockVersion : Nat)

/-- The digest function; the results hold for every one. -/
class CanonicalHash where
  canonicalHash : Canonical → String

export CanonicalHash (canonicalHash)

end BlogOps.Publishing
