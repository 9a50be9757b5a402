import BlogOps.PublishProcess
import Mathlib.Data.List.Sort

/-!
# Requests of the publishing service

What an API request does to the workspace: policies, connections and their
jobs, the five ways to queue a publish job, its cancellation and its retry.  A
request that raises leaves the workspace as it was.
-/

namespace BlogOps.Publishing

open Jobs KeyedTables

structure World (ρ : Type) where
  connections : List PublishingConnection := []
  connectionJobs : List PublishingConnectionJob := []
  policies : List PublicationPolicy := []
  jobs : List JobRows := []
  tables : Tables := {}
  nextId : Uuid := 0
  remote : ρ

/-- What a request reads from outside the publishing tables.  `lockVersionOf` is
the version counter that the database keeps for a row. -/
structure RequestEnv where
  now : Timestamp
  subjectId : Uuid
  lockVersionOf : Uuid → Nat
  zoneInfo : String → Option Zone
  resolveReady : ReadinessQuery → Except Failure PublishReadyContent
  maxConnections : Except AppError Nat
  validateSiteUrl : String → Except AppError String
  validateSecretRef : String → Except AppError String
  validateOptions : PublishOptions → PublishingConnection → Except AppError Unit

variable {ρ α : Type}

def ensure (ok : Bool) (error : AppError) : Except Failure Unit :=
  if ok then .ok () else .error (.app error)

def orNotFound (code label : String) : Option α → Except Failure α
  | some value => .ok value
  | none => .error (.app (notFound code label))

def optimisticLockConflict (resource : String) (expected actual : Nat) : AppError where
  code := "OPTIMISTIC_LOCK_CONFLICT"
  message := "다른 요청이 먼저 리소스를 변경했습니다."
  statusCode := 409
  fields := [⟨resource, "expected=" ++ toString expected ++ ",actual=" ++ toString actual⟩]

variable (env : RequestEnv)

def assertLock (resource : String) (expected : Nat) (id : Uuid) : Except Failure Unit :=
  ensure (expected = env.lockVersionOf id)
    (optimisticLockConflict resource expected (env.lockVersionOf id))

def assertExpectedVersion (resource : String) (expected actual : Nat) : Except Failure Unit :=
  ensure (expected = actual) {
    code := "VERSION_CONFLICT"
    message := "기대 버전과 현재 버전이 일치하지 않습니다."
    statusCode := 409
    fields := [⟨resource, "expected=" ++ toString expected ++ ",actual=" ++ toString actual⟩] }

def assertSameRequest (actual expected : String) : Except Failure Unit := ensure (actual = expected) {
    code := "IDEMPOTENCY_KEY_REUSED"
    message := "같은 workspace·actor·operation의 Idempotency-Key가 다른 요청에 사용되었습니다."
    statusCode := 409 }

variable (connection : PublishingConnection)

def assertConnectionActive : Except Failure Unit := ensure (connection.state = .active) {
    code := "PUBLISH_CONNECTION_NOT_ACTIVE"
    message := "진단을 통과한 ACTIVE 게시 연결만 사용할 수 있습니다."
    statusCode := 409
    fields := [⟨"state", connection.state.value⟩] }

def requiredCapability : PublishVisibility → String
  | .draft => "draft"
  | .publish => "publish"
  | .scheduled => "future"
  | .pendingReview => "draft"
  | .private_ => "publish"

def assertPublishCapability (visibility : PublishVisibility) : Except Failure Unit := do
  ensure (connection.provider ≠ .blogger || visibility ∈ [.draft, .publish, .scheduled]) {
    code := "BLOGGER_VISIBILITY_UNSUPPORTED"
    message := "Blogger 공식 API는 이 공개 범위 상태를 지원하지 않습니다."
    statusCode := 422 }
  ensure (connection.provider ≠ .ghost || visibility ≠ .private_) {
    code := "GHOST_PRIVATE_VISIBILITY_UNSUPPORTED"
    message := "Ghost의 Member Visibility는 작성자 전용 비공개 게시 상태와 같지 않습니다."
    statusCode := 422 }
  ensure (requiredCapability visibility ∈ connection.capabilities) {
    code := "PUBLISH_CAPABILITY_MISSING"
    message := "연결 진단에서 요청한 게시 기능 권한을 확인하지 못했습니다."
    statusCode := 403
    fields := [⟨"capability", requiredCapability visibility⟩] }

variable (post : PublishedPost)

def assertRemoteExpectations (expectedEtag : Option String) (expectedHash : String)
    (expectedUpdatedAt : Option AwareTime) : Except Failure Unit := do
  ensure (expectedHash = post.remoteHash) {
    code := "REMOTE_SNAPSHOT_CONFLICT"
    message := "저장된 원격 해시가 변경되었습니다."
    statusCode := 409 }
  ensure (expectedEtag.isNone || expectedEtag = post.remoteEtag) {
    code := "REMOTE_ETAG_CONFLICT"
    message := "저장된 ETag가 변경되었습니다."
    statusCode := 409 }
  ensure (expectedUpdatedAt.isNone || expectedUpdatedAt.map (·.instant) = post.remoteUpdatedAt) {
    code := "REMOTE_UPDATED_AT_CONFLICT"
    message := "저장된 원격 수정 시각이 변경되었습니다."
    statusCode := 409 }

variable (policy : PublicationPolicy)

def assertProviderPolicy (connection : PublishingConnection) : Except Failure Unit := do
  ensure (connection.provider ∈ policy.allowedProviders) {
    code := "PUBLISH_PROVIDER_NOT_ALLOWED"
    message := "게시 정책에서 허용하지 않은 provider입니다."
    statusCode := 403 }
  ensure (connection.provider ≠ .customerCms ||
      connection.officialContract ∈ policy.allowedCustomContracts) {
    code := "CUSTOMER_CMS_CONTRACT_NOT_ALLOWED"
    message := "허용 목록의 공식 고객 CMS 계약만 사용할 수 있습니다."
    statusCode := 403 }

def validateFeaturedMedia (options : PublishOptions) (ready : PublishReadyContent) :
    Except Failure Unit :=
  let placement := options.featuredMediaPlacement.getD ""
  ensure (placement = "" || ready.media.any (·.placementKey = placement)) {
    code := "PUBLISH_FEATURED_MEDIA_NOT_FOUND"
    message := "대표 이미지 placement가 승인된 현재 콘텐츠 미디어에 없습니다."
    statusCode := 422 }

def assertIdempotencyKey (key : String) : Except Failure Unit := ensure (key ≠ "" && key.length ≤ 255) {
    code := "IDEMPOTENCY_KEY_REQUIRED"
    message := "유효한 Idempotency-Key가 필요합니다."
    statusCode := 422 }

variable (w : World ρ)

def findConnection (id : Uuid) : Except Failure PublishingConnection :=
  orNotFound "PUBLISHING_CONNECTION" "게시 연결" (w.connections.find? (·.id = id))

def findPublishJob (id : Uuid) : Except Failure JobRows :=
  orNotFound "PUBLISH_JOB" "게시 작업" (w.jobs.find? (·.job.id = id))

def findPublishedPost (id : Uuid) : Except Failure PublishedPost :=
  orNotFound "PUBLISHED_POST" "게시물 연결" (w.tables.posts.find? (·.id = id))

def findRemoteSnapshot (id : Uuid) : Except Failure RemotePostSnapshot :=
  orNotFound "REMOTE_SNAPSHOT" "원격 게시물 스냅샷" (w.tables.snapshots.find? (·.id = id))

def latestVersion (policies : List PublicationPolicy) : Option PublicationPolicy :=
  policies.foldl (fun best policy =>
    match best with
    | none => some policy
    | some top => if top.version < policy.version then some policy else some top) none

def latestPolicy : Except Failure PublicationPolicy :=
  match latestVersion w.policies with
  | some policy => .ok policy
  | none =>
    .error (.app {
      code := "PUBLISHING_POLICY_REQUIRED"
      message := "버전이 지정된 워크스페이스 게시 정책이 필요합니다."
      statusCode := 409 })

def recordChange (action targetType : String) (targetId : Uuid) (w : World ρ) : World ρ :=
  { w with tables := { w.tables with
    auditLogs := w.tables.auditLogs ++ [{ actorId := env.subjectId, action, targetType, targetId }]
    outboxEvents := w.tables.outboxEvents ++
      [{ aggregateType := targetType, aggregateId := targetId, eventType := action }] } }

def conflictOn (resource : String) : Failure := .app (publishingConflict resource)

/-! ## Policies and connections -/

def policySnapshot (data : PublicationPolicyCreate) (version : Nat) : PolicySnapshot where
  version := version
  dailyQuotas := data.dailyQuotas
  maxScheduleDays := data.maxScheduleDays
  allowedProviders := data.allowedProviders.insertionSort (·.value ≤ ·.value)
  requireMediaLicense := data.requireMediaLicense
  allowedCustomContracts := data.allowedCustomContracts.insertionSort (· ≤ ·)
  naverPolicyVersion := data.naverPolicyVersion

def createPolicy [CanonicalHash] (env : RequestEnv) (data : PublicationPolicyCreate)
    (w : World ρ) : Except Failure (World ρ) := do
  let latest := (w.policies.map (·.version)).foldl max 0
  assertExpectedVersion "publishing_policy" data.expectedPreviousVersion latest
  let snapshot := policySnapshot data (latest + 1)
  let policy : PublicationPolicy := {
    id := w.nextId
    version := latest + 1
    dailyQuotas := snapshot.dailyQuotas
    maxScheduleDays := data.maxScheduleDays
    allowedProviders := snapshot.allowedProviders
    requireMediaLicense := data.requireMediaLicense
    allowedCustomContracts := snapshot.allowedCustomContracts
    naverPolicyVersion := data.naverPolicyVersion
    snapshotJson := snapshot
    snapshotHash := canonicalHash (.policySnapshot snapshot)
    createdBy := env.subjectId }
  if w.policies.any fun other =>
      other.version = policy.version || other.snapshotHash = policy.snapshotHash then
    .error (conflictOn "publishing_policy")
  else
    return recordChange env "publishing.policy.created" "publishing_policy" policy.id
      { w with policies := w.policies ++ [policy], nextId := w.nextId + 1 }

def assertConnectionLimit : Except Failure Unit := do
  let limit ← env.maxConnections.mapError Failure.app
  ensure (1 ≤ limit) {
    code := "PUBLISH_CONNECTION_ENTITLEMENT_INVALID"
    message := "게시 연결 Entitlement 한도는 1 이상이어야 합니다."
    statusCode := 409 }
  let current := (w.connections.filter (·.state ≠ .disconnected)).length
  ensure (current < limit) {
    code := "PUBLISH_CONNECTION_PLAN_LIMIT"
    message := "플랜의 활성 게시 연결 수 한도에 도달했습니다."
    statusCode := 409
    remediation := some [("limit", .amount limit), ("active_connections", .amount current)] }

def createConnection (data : PublishingConnectionCreate) (w : World ρ) : Except Failure (World ρ) := do
  let policy ← latestPolicy w
  ensure (data.provider ∈ policy.allowedProviders) {
    code := "PUBLISH_PROVIDER_NOT_ALLOWED"
    message := "워크스페이스 게시 정책에서 허용하지 않은 provider입니다."
    statusCode := 403 }
  ensure (data.provider ≠ .customerCms ||
      data.officialContract ∈ policy.allowedCustomContracts) {
    code := "CUSTOMER_CMS_CONTRACT_NOT_ALLOWED"
    message := "검토되어 허용 목록에 등록된 공식 고객 CMS 계약만 연결할 수 있습니다."
    statusCode := 422 }
  assertConnectionLimit env w
  let siteUrl ← (env.validateSiteUrl data.siteUrl).mapError Failure.app
  ensure (env.zoneInfo data.siteTimezone).isSome {
    code := "PUBLISH_TIMEZONE_INVALID"
    message := "IANA 사이트 시간대가 필요합니다."
    statusCode := 422 }
  let secretRef ← (env.validateSecretRef data.credentialSecretRef).mapError Failure.app
  let connection : PublishingConnection := {
    id := w.nextId
    provider := data.provider
    name := data.name
    siteUrl := siteUrl
    siteTimezone := data.siteTimezone
    remoteSiteId := data.remoteSiteId
    officialContract := data.officialContract
    apiVersion := data.apiVersion
    apiDeprecationAt := data.apiDeprecationAt
    credentialSecretRef := secretRef
    restMetaAllowlist := data.restMetaAllowlist
    createdBy := env.subjectId }
  if w.connections.any fun other =>
      other.provider = connection.provider && other.name = connection.name then
    .error (conflictOn "publishing_connection")
  else
    return recordChange env "publishing.connection.created" "publishing_connection"
      connection.id { w with connections := w.connections ++ [connection], nextId := w.nextId + 1 }

def connectionDisconnected : AppError where
  code := "PUBLISH_CONNECTION_DISCONNECTED"
  message := "연결 해제된 채널에는 이 작업을 요청할 수 없습니다."
  statusCode := 409

/-- The second component tells whether a job was created. -/
def createConnectionJob [CanonicalHash] (env : RequestEnv) (connectionId : Uuid)
    (operation : ConnectionOperation) (data : ConnectionCommandCreate) (w : World ρ) :
    Except Failure (World ρ × Bool) := do
  let requestHash := canonicalHash (.connectionCommand connectionId operation data.expectedLockVersion)
  match w.connectionJobs.find? fun job =>
      job.requestedBy = env.subjectId && job.operation = operation &&
        job.idempotencyKey = data.idempotencyKey with
  | some existing => do
    assertSameRequest existing.requestHash requestHash
    return (w, false)
  | none => do
    let connection ← findConnection w connectionId
    assertLock env "publishing_connection" data.expectedLockVersion connection.id
    ensure (connection.state ≠ .disconnected) connectionDisconnected
    let job : PublishingConnectionJob := {
      id := w.nextId
      connectionId := connection.id
      requestedBy := env.subjectId
      operation := operation
      idempotencyKey := data.idempotencyKey
      requestHash := requestHash
      expectedLockVersion := data.expectedLockVersion }
    return (recordChange env "publishing.connection.job_queued" "publishing_connection_job"
      job.id { w with connectionJobs := w.connectionJobs ++ [job], nextId := w.nextId + 1 }, true)

/-! ## Queueing a publish job -/

/-- The job runs now, on the site's day. -/
def runNow : Except Failure Schedule :=
  match env.zoneInfo connection.siteTimezone with
  | none => .error .keyError
  | some zone =>
    let reading := zone.fromUtc env.now
    .ok {
      scheduledDatetime := env.now
      localDatetime := reading.1
      dstFold := some reading.2
      localDay := dayOf reading.1 }

def scheduleFor (visibility : PublishVisibility) (scheduledAtUtc : Option AwareTime)
    (scheduledLocal : Option LocalTime) (siteTimezone : Option String) (dstFold : Option Bool) :
    Except Failure Schedule :=
  if visibility = .scheduled then do
    ensure (siteTimezone = some connection.siteTimezone) (scheduleError
      "PUBLISH_SITE_TIMEZONE_MISMATCH" "요청 시간대가 연결의 진단된 사이트 시간대와 다릅니다.")
    match scheduledAtUtc, scheduledLocal, siteTimezone with
    | some utc, some reading, some timezone => do
      let validated ← (validateSchedule env.zoneInfo utc reading timezone dstFold).mapError
        Failure.app
      ensure (env.now < validated.scheduledDatetime) (scheduleError
        "PUBLISH_SCHEDULE_IN_PAST" "예약 게시 시각은 미래여야 합니다.")
      ensure (validated.scheduledDatetime ≤ env.now + policy.maxScheduleDays * 86400000000)
        (scheduleError "PUBLISH_SCHEDULE_TOO_FAR" "게시 정책의 최대 예약 기간을 초과했습니다.")
      return validated
    | _, _, _ => .error .assertionError
  else runNow env connection

def quotaExceeded (localDay quotaLimit : Int) : AppError where
  code := "PUBLISH_DAILY_QUOTA_EXCEEDED"
  message := "사이트 로컬 날짜의 일일 게시 한도를 초과했습니다."
  statusCode := 429
  remediation := some [("local_day", .amount localDay),
    ("site_timezone", .text connection.siteTimezone), ("quota_limit", .amount quotaLimit)]

variable (channel : String)

def reservedFor (localDay : Int) (usage : PublishQuotaUsage) : Bool :=
  usage.connectionId = connection.id && usage.provider = connection.provider &&
    usage.channel = channel && usage.localDay = localDay

def newUsage (localDay quotaLimit : Int) (id : Uuid) : PublishQuotaUsage where
  id := id
  connectionId := connection.id
  policyId := policy.id
  provider := connection.provider
  channel := channel
  localDay := localDay
  timezoneName := connection.siteTimezone
  quotaLimit := quotaLimit
  reservedCount := 1

def reserveOne (quotaLimit : Int) (usage : PublishQuotaUsage) : PublishQuotaUsage :=
  { usage with
    policyId := policy.id
    quotaLimit := quotaLimit
    reservedCount := usage.reservedCount + 1 }

def withUsages (usages : List PublishQuotaUsage) (w : World ρ) : World ρ :=
  { w with tables := { w.tables with usages := usages } }

/-- `_reserve_quota`: the row of the day takes over the current limit, then one more job. -/
def reserveQuota (localDay : Int) (w : World ρ) : Except Failure (World ρ) := do
  match ← (quotaFor policy.dailyQuotas connection.provider channel).mapError Failure.app with
  | none =>
    .error (.app {
      code := "PUBLISH_QUOTA_POLICY_MISSING"
      message := "provider 또는 채널의 일일 발행 한도가 설정되지 않았습니다."
      statusCode := 409 })
  | some quotaLimit =>
    match w.tables.usages.find? (reservedFor connection channel localDay) with
    | none => do
      ensure (0 < quotaLimit) (quotaExceeded connection localDay quotaLimit)
      let usage := newUsage connection policy channel localDay quotaLimit w.nextId
      return { withUsages (w.tables.usages ++ [usage]) w with nextId := w.nextId + 1 }
    | some usage => do
      ensure (usage.reservedCount < quotaLimit) (quotaExceeded connection localDay quotaLimit)
      return withUsages
        (updateRow (·.id) usage.id (reserveOne policy quotaLimit) w.tables.usages) w

def existingPublishJob (operation : PublishOperation) (idempotencyKey requestHash : String)
    (w : World ρ) : Except Failure (Option JobRows) := do
  assertIdempotencyKey idempotencyKey
  match w.jobs.find? fun rows =>
      rows.job.requestedBy = env.subjectId && rows.job.operation = operation &&
        rows.job.idempotencyKey = idempotencyKey with
  | none => return none
  | some existing => do
    assertSameRequest existing.job.requestHash requestHash
    return some existing

/-- The rows of a plan from the id on, numbered from 1. -/
def initialSteps (firstId : Uuid) (operation : PublishOperation) : List PublishSagaStep :=
  (initialStepKinds operation).mapIdx fun index kind =>
    { id := firstId + index, sequence := index + 1, stepKind := kind }

def scheduledNotices (firstId jobId approvedBy : Uuid) (visibility : PublishVisibility) :
    List PublishingNotification :=
  if visibility ≠ .scheduled then []
  else
    let recipients := if approvedBy = env.subjectId then [env.subjectId]
      else [env.subjectId, approvedBy]
    recipients.mapIdx fun index recipientId => {
      id := firstId + index
      recipientId
      publishJobId := some jobId
      notificationType := "PUBLISHING_JOB_SCHEDULED"
      dueAt := env.now }

/-- What a request asks of `_create_job`. -/
structure JobOrder where
  operation : PublishOperation
  ready : PublishReadyContent
  connection : PublishingConnection
  policy : PublicationPolicy
  targetPost : Option Uuid
  visibility : PublishVisibility
  schedule : Schedule
  idempotencyKey : String
  requestHash : String
  inputSnapshot : InputSnapshot
  reserveQuota : Bool

def idempotencyMarker (jobId : Uuid) : String := "blogops-" ++ toString jobId

def newPublishJob [CanonicalHash] (env : RequestEnv) (order : JobOrder) (id : Uuid) : PublishJob where
  id := id
  requestedBy := env.subjectId
  operation := order.operation
  state := .scheduled
  contentId := order.ready.contentId
  contentVersionId := order.ready.contentVersionId
  contentHash := order.ready.contentHash
  connectionId := order.connection.id
  approvalRequestId := order.ready.approvalRequestId
  approvalSnapshotHash := order.ready.approvalSnapshotHash
  policyId := order.policy.id
  policySnapshot := order.policy.snapshotJson
  policySnapshotHash := order.policy.snapshotHash
  targetPublishedPostId := order.targetPost
  visibility := order.visibility
  scheduledAtUtc := some order.schedule.scheduledDatetime
  scheduledLocal := some order.schedule.localDatetime
  siteTimezone := order.connection.siteTimezone
  dstFold := order.schedule.dstFold
  idempotencyKey := order.idempotencyKey
  requestHash := order.requestHash
  idempotencyMarker := idempotencyMarker id
  inputSnapshot := order.inputSnapshot
  inputSnapshotHash := canonicalHash (.inputSnapshot order.inputSnapshot)

/-- The job, its plan and its notices; ids are taken from `nextId` on. -/
def insertPublishJob [CanonicalHash] (env : RequestEnv) (order : JobOrder) (w : World ρ) : World ρ :=
  let job := newPublishJob env order w.nextId
  let steps := initialSteps (w.nextId + 1) order.operation
  let notices := scheduledNotices env (w.nextId + 1 + steps.length) job.id order.ready.approvedBy
    order.visibility
  recordChange env "publishing.job.scheduled" "publish_job" job.id { w with
    jobs := w.jobs ++ [{ job, steps, attempts := [] }]
    tables := { w.tables with notifications := w.tables.notifications ++ notices }
    nextId := w.nextId + 1 + steps.length + notices.length }

def reserveFor (order : JobOrder) (w : World ρ) : Except Failure (World ρ) :=
  if order.reserveQuota then
    reserveQuota order.connection order.policy order.ready.channel order.schedule.localDay w
  else .ok w

def createJob [CanonicalHash] (env : RequestEnv) (order : JobOrder) (w : World ρ) :
    Except Failure (World ρ) := do
  match ← existingPublishJob env order.operation order.idempotencyKey order.requestHash w with
  | some _ => return w
  | none => do
    let w ← reserveFor order w
    return insertPublishJob env order w

def readyFor (contentId contentVersionId : Uuid) (contentHash : String) (approvalRequestId : Uuid)
    (connection : PublishingConnection) (policy : PublicationPolicy) :
    Except Failure PublishReadyContent :=
  env.resolveReady {
    contentId
    contentVersionId
    contentHash
    approvalRequestId
    channel := connection.provider
    requireMediaLicense := policy.requireMediaLicense }

def createPublishJob [CanonicalHash] (env : RequestEnv) (contentId : Uuid) (data : PublishCreate)
    (idempotencyKey : String) (w : World ρ) : Except Failure (World ρ) := do
  let requestHash := canonicalHash (.createRequest contentId data)
  match ← existingPublishJob env .create idempotencyKey requestHash w with
  | some _ => return w
  | none => do
    let connection ← findConnection w data.connectionId
    assertConnectionActive connection
    assertPublishCapability connection data.visibility
    let policy ← latestPolicy w
    assertProviderPolicy policy connection
    let schedule ← scheduleFor env connection policy data.visibility data.scheduledAtUtc
      data.scheduledLocal data.siteTimezone data.dstFold
    let ready ← readyFor env contentId data.contentVersionId data.contentHash
      data.approvalRequestId connection policy
    (env.validateOptions data.options connection).mapError Failure.app
    validateFeaturedMedia data.options ready
    createJob env {
      operation := .create
      ready
      connection
      policy
      targetPost := none
      visibility := data.visibility
      schedule
      idempotencyKey
      requestHash
      inputSnapshot := {
        channel := some ready.channel
        approvedBy := some ready.approvedBy
        options := some data.options }
      reserveQuota := true } w

def requireConnection (code message : String) : Except Failure Uuid :=
  match post.connectionId with
  | some connectionId => .ok connectionId
  | none => .error (.app { code, message, statusCode := 409 })

def requireCapability (capability code message : String) : Except Failure Unit :=
  ensure (capability ∈ connection.capabilities) { code, message, statusCode := 403 }

def updatePublishedPost [CanonicalHash] (env : RequestEnv) (postId : Uuid) (data : PublishedPostUpdate)
    (idempotencyKey : String) (w : World ρ) : Except Failure (World ρ) := do
  let requestHash := canonicalHash (.updateRequest postId data)
  match ← existingPublishJob env .update idempotencyKey requestHash w with
  | some _ => return w
  | none => do
    let post ← findPublishedPost w postId
    assertLock env "published_post" data.expectedLockVersion post.id
    assertRemoteExpectations post data.expectedRemoteEtag data.expectedRemoteHash
      data.expectedRemoteUpdatedAt
    let connectionId ← requireConnection post "MANUAL_POST_UPDATE_PACKAGE_REQUIRED"
      "네이버 수동 게시물은 수정 패키지를 새로 생성해야 합니다."
    let connection ← findConnection w connectionId
    assertConnectionActive connection
    assertPublishCapability connection data.visibility
    requireCapability connection "update" "PUBLISH_UPDATE_PERMISSION_MISSING"
      "연결에 원격 수정 권한이 없습니다."
    let policy ← latestPolicy w
    assertProviderPolicy policy connection
    let schedule ← scheduleFor env connection policy data.visibility data.scheduledAtUtc
      data.scheduledLocal data.siteTimezone data.dstFold
    let ready ← readyFor env post.contentId data.contentVersionId data.contentHash
      data.approvalRequestId connection policy
    (env.validateOptions data.options connection).mapError Failure.app
    validateFeaturedMedia data.options ready
    createJob env {
      operation := .update
      ready
      connection
      policy
      targetPost := some post.id
      visibility := data.visibility
      schedule
      idempotencyKey
      requestHash
      inputSnapshot := {
        channel := some ready.channel
        approvedBy := some ready.approvedBy
        conflictAction := some data.conflictAction
        expectedRemoteHash := some data.expectedRemoteHash
        expectedRemoteEtag := data.expectedRemoteEtag
        expectedRemoteUpdatedAt := data.expectedRemoteUpdatedAt
        options := some data.options }
      reserveQuota := true } w

/-! ## Jobs on an existing post -/

/-- `finished_at DESC, id DESC`; a missing time comes first. -/
def laterFinished (a b : PublishJob) : Bool :=
  match a.finishedAt, b.finishedAt with
  | none, none => b.id < a.id
  | none, some _ => true
  | some _, none => false
  | some s, some t => t < s ∨ s = t ∧ b.id < a.id

/-- The last job that wrote the post. -/
def sourceJob (postId : Uuid) : Option PublishJob :=
  let written := (w.jobs.map (·.job)).filter fun job =>
    job.targetPublishedPostId = some postId && job.operation.usesQuota &&
      job.state ∈ [.succeeded, .partialSuccess]
  written.foldl (fun best job =>
    match best with
    | none => some job
    | some top => if laterFinished job top then some job else some top) none

/-- The content of the post as it is, for operations that do not write content. -/
def storedContent (connection : PublishingConnection) : PublishReadyContent where
  contentId := post.contentId
  contentVersionId := post.contentVersionId
  contentHash := post.contentHash
  title := ""
  document := []
  plainText := ""
  channel := connection.provider.value
  approvalRequestId := post.approvalRequestId
  approvalSnapshotHash := post.localSnapshotHash
  approvedBy := env.subjectId
  media := []

/-- The schedule of the job that wrote the post, while it still lies ahead. -/
def pendingSchedule (source : Option PublishJob) : Option Schedule := do
  let source ← source
  let scheduledDatetime ← source.scheduledAtUtc
  let localDatetime ← source.scheduledLocal
  if source.visibility = .scheduled ∧ env.now < scheduledDatetime then
    some {
      scheduledDatetime
      localDatetime
      dstFold := source.dstFold
      localDay := dayOf localDatetime }
  else none

/-- The content of an overwriting reconcile, and the job whose content it restores. -/
def overwriteSource (connection : PublishingConnection) (policy : PublicationPolicy) (w : World ρ) :
    Except Failure (PublishReadyContent × PublishJob) := do
  let ready ← readyFor env post.contentId post.contentVersionId post.contentHash
    post.approvalRequestId connection policy
  match sourceJob w post.id with
  | some source => return (ready, source)
  | none =>
    .error (.app {
      code := "PUBLISH_LOCAL_SOURCE_SNAPSHOT_MISSING"
      message := "원격 덮어쓰기에 필요한 마지막 로컬 발행 스냅샷이 없습니다."
      statusCode := 409 })

/-- `{**source_job.input_snapshot, **input_snapshot, ...}`. -/
def overwriteSnapshot (source : PublishJob) (ready : PublishReadyContent)
    (inputSnapshot : InputSnapshot) : InputSnapshot :=
  { source.inputSnapshot with
    channel := some ready.channel
    approvedBy := some ready.approvedBy
    conflictAction := inputSnapshot.conflictAction
    expectedRemoteHash := inputSnapshot.expectedRemoteHash
    expectedRemoteEtag := inputSnapshot.expectedRemoteEtag
    expectedRemoteUpdatedAt := inputSnapshot.expectedRemoteUpdatedAt }

def existingPostJob [CanonicalHash] (env : RequestEnv) (post : PublishedPost)
    (operation : PublishOperation) (idempotencyKey requestHash : String)
    (inputSnapshot : InputSnapshot) (w : World ρ) : Except Failure (World ρ) := do
  let connectionId ← requireConnection post "PUBLISH_CONNECTION_REQUIRED"
    "자동 원격 작업에는 게시 연결이 필요합니다."
  let connection ← findConnection w connectionId
  assertConnectionActive connection
  let policy ← latestPolicy w
  assertProviderPolicy policy connection
  if operation = .reconcile ∧ inputSnapshot.conflictAction = some .overwrite then do
    let (ready, source) ← overwriteSource env post connection policy w
    let snapshot := overwriteSnapshot source ready inputSnapshot
    match pendingSchedule env (some source) with
    | some schedule =>
      createJob env {
        operation, ready, connection, policy
        targetPost := some post.id
        visibility := .scheduled
        schedule, idempotencyKey, requestHash
        inputSnapshot := snapshot
        reserveQuota := false } w
    | none => do
      let schedule ← runNow env connection
      createJob env {
        operation, ready, connection, policy
        targetPost := some post.id
        visibility := if source.visibility = .scheduled then .publish else source.visibility
        schedule, idempotencyKey, requestHash
        inputSnapshot := snapshot
        reserveQuota := false } w
  else do
    let schedule ← runNow env connection
    createJob env {
      operation
      ready := storedContent env post connection
      connection, policy
      targetPost := some post.id
      visibility := .draft
      schedule, idempotencyKey, requestHash, inputSnapshot
      reserveQuota := false } w

def deletePublishedPost [CanonicalHash] (env : RequestEnv) (postId : Uuid) (data : PublishedPostDelete)
    (idempotencyKey : String) (w : World ρ) : Except Failure (World ρ) := do
  let requestHash := canonicalHash (.deleteRequest postId data)
  match ← existingPublishJob env .delete idempotencyKey requestHash w with
  | some _ => return w
  | none => do
    let post ← findPublishedPost w postId
    assertLock env "published_post" data.expectedLockVersion post.id
    ensure (post.remoteId = data.confirmRemoteId) {
      code := "PUBLISH_DELETE_CONFIRMATION_MISMATCH"
      message := "삭제 확인용 원격 Post ID가 일치하지 않습니다."
      statusCode := 409 }
    assertRemoteExpectations post data.expectedRemoteEtag data.expectedRemoteHash none
    let connectionId ← requireConnection post "MANUAL_POST_DELETE_UNSUPPORTED"
      "수동 게시물은 원격에서 사용자가 직접 삭제해야 합니다."
    let connection ← findConnection w connectionId
    requireCapability connection "delete" "PUBLISH_DELETE_PERMISSION_MISSING"
      "연결에 원격 삭제 권한이 없습니다."
    existingPostJob env post .delete idempotencyKey requestHash {
      conflictAction := some .abort
      expectedRemoteHash := some data.expectedRemoteHash
      expectedRemoteEtag := data.expectedRemoteEtag
      forceDelete := data.forceDelete } w

def reconcilePublishedPost [CanonicalHash] (env : RequestEnv) (postId : Uuid) (data : ReconcileCreate)
    (idempotencyKey : String) (w : World ρ) : Except Failure (World ρ) := do
  let requestHash := canonicalHash (.reconcileRequest postId data)
  match ← existingPublishJob env .reconcile idempotencyKey requestHash w with
  | some _ => return w
  | none => do
    let post ← findPublishedPost w postId
    assertLock env "published_post" data.expectedLockVersion post.id
    let _ ← requireConnection post "MANUAL_RECONCILE_UNSUPPORTED"
      "수동 게시물은 자동 동기화하지 않습니다."
    existingPostJob env post .reconcile idempotencyKey requestHash {
      conflictAction := some data.conflictAction
      expectedRemoteHash := some post.remoteHash
      expectedRemoteEtag := post.remoteEtag
      expectedRemoteUpdatedAt := post.remoteUpdatedAt.map (AwareTime.mk · 0) } w

def rollbackPublishedPost [CanonicalHash] (env : RequestEnv) (postId : Uuid) (data : RollbackCreate)
    (idempotencyKey : String) (w : World ρ) : Except Failure (World ρ) := do
  let requestHash := canonicalHash (.rollbackRequest postId data)
  match ← existingPublishJob env .rollback idempotencyKey requestHash w with
  | some _ => return w
  | none => do
    let post ← findPublishedPost w postId
    assertLock env "published_post" data.expectedLockVersion post.id
    assertRemoteExpectations post data.expectedRemoteEtag data.expectedRemoteHash none
    let snapshot ← findRemoteSnapshot w data.snapshotId
    ensure (snapshot.publishedPostId = post.id) {
      code := "ROLLBACK_SNAPSHOT_POST_MISMATCH"
      message := "다른 게시물의 스냅샷은 복구할 수 없습니다."
      statusCode := 422 }
    let _ ← requireConnection post "MANUAL_ROLLBACK_UNSUPPORTED"
      "수동 게시물은 자동 복구하지 않습니다."
    existingPostJob env post .rollback idempotencyKey requestHash {
      conflictAction := some .abort
      expectedRemoteHash := some data.expectedRemoteHash
      expectedRemoteEtag := data.expectedRemoteEtag
      snapshotId := some snapshot.id
      snapshotHash := some snapshot.snapshotHash } w

/-! ## Cancelling and retrying -/

def updateJob (jobId : Uuid) (f : PublishJob → PublishJob) (w : World ρ) : World ρ :=
  { w with jobs := updateRow (·.job.id) jobId (fun rows => { rows with job := f rows.job }) w.jobs }

/-- Whether a request may still cancel the job; a job with a target is judged
by the state of its post. -/
def cancellable (job : PublishJob) (w : World ρ) : Except Failure Bool :=
  let waiting := decide (job.state = .scheduled) && job.startedAt.isNone
  match job.targetPublishedPostId with
  | none => .ok waiting
  | some postId =>
    if job.state ∈ [.retryableFailed, .succeeded] then do
      let post ← findPublishedPost w postId
      return decide (post.state = .scheduled)
    else .ok waiting

def requestCancellation (now : Timestamp) (reason : String) (job : PublishJob) : PublishJob :=
  { job with
    state := .cancelRequested
    cancelRequestedAt := some now
    resultJson := some (.cancellationReason reason) }

/-- The second component is the assignment of the job state. -/
def cancelPublishJob (jobId : Uuid) (data : CancelPublishCreate) (w : World ρ) :
    Except Failure (World ρ × SagaEvent) := do
  let rows ← findPublishJob w jobId
  assertLock env "publish_job" data.expectedLockVersion jobId
  let allowed ← cancellable rows.job w
  ensure allowed {
    code := "PUBLISH_JOB_NOT_CANCELLABLE"
    message := "대기 중이거나 원격 예약 상태인 게시 작업만 취소할 수 있습니다."
    statusCode := 409 }
  return (recordChange env "publishing.job.cancel_requested" "publish_job" jobId
    (updateJob jobId (requestCancellation env.now data.reason) w),
    .assigned rows.job.state .cancelRequested)

def notRetryable : AppError where
  code := "PUBLISH_JOB_NOT_RETRYABLE"
  message := "부분 성공 또는 재시도 가능 실패 작업만 다시 실행할 수 있습니다."
  statusCode := 409

def retryableMedia (job : PublishJob) : Bool :=
  (job.resultJson.elim [] ResultJson.mediaFailures).any (·.retryClass.retryable)

/-- The checks of a retry on the job alone. -/
def assertRetryable (job : PublishJob) : Except Failure Unit := do
  ensure (job.state ∈ [.partialSuccess, .retryableFailed]) notRetryable
  ensure (job.state ≠ .partialSuccess || retryableMedia job) {
    code := "PUBLISH_PARTIAL_FAILURE_NOT_RETRYABLE"
    message := "네트워크·429·5xx에 해당하는 부분 실패만 다시 시도할 수 있습니다."
    statusCode := 409 }
  ensure (job.attempt < job.maxAttempts) {
    code := "PUBLISH_MAX_ATTEMPTS_REACHED"
    message := "게시 작업의 최대 시도 횟수에 도달했습니다."
    statusCode := 409 }

def scheduleRetry (reason : String) (job : PublishJob) : PublishJob :=
  { job with
    state := .scheduled
    finishedAt := none
    retryAfterSeconds := none
    errorCode := none
    errorDetail := none
    resultJson := some (.retryReason reason) }

def retryPublishJob (jobId : Uuid) (data : RetryPublishCreate) (w : World ρ) :
    Except Failure (World ρ × SagaEvent) := do
  let rows ← findPublishJob w jobId
  assertLock env "publish_job" data.expectedLockVersion jobId
  assertRetryable rows.job
  return (recordChange env "publishing.job.retry_scheduled" "publish_job" jobId
    (updateJob jobId (scheduleRetry data.reason) w),
    .assigned rows.job.state .scheduled)

end BlogOps.Publishing
