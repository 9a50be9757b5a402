import BlogOps.JobStates
import BlogOps.KeyedTables
import BlogOps.QualityRules

/-!
# Content, quality evidence and approval rows

The tables of one workspace that the content editor and the quality service
share, the validated request schemas, and the reads and writes of both services.
Decimals and floats are rationals; a JSON value is its canonical text.
-/

namespace BlogOps.Quality

open Jobs KeyedTables List

abbrev Json := String

/-- A score that its schema bounds to `0 … 100`. -/
abbrev Score := {value : ℚ // 0 ≤ value ∧ value ≤ 100}

inductive ContentChangeKind where
  | generated | manual | autosave | restore | aiEdit | importSource
deriving DecidableEq, Repr

structure ContentBlockInput where
  blockKey : Uuid
  blockType : String
  payload : Json := "{}"
  plainText : String := ""
  lockedFacts : List Json := []
  sourceAnchors : List Json := []
deriving DecidableEq, Repr

/-- The pattern `^[a-z][a-z0-9_-]{1,62}[a-z0-9]$`. -/
def stageKeyPattern (key : String) : Bool :=
  match key.toList with
  | [] => false
  | first :: rest =>
    first.isLower && 2 ≤ rest.length && rest.length ≤ 63 &&
      rest.all (fun c => c.isLower || c.isDigit || c = '_' || c = '-') &&
      rest.getLast?.any fun last => last.isLower || last.isDigit

structure ApprovalStageConfig where
  key : String
  name : String
  requiredApprovals : Nat := 1
  approverUserIds : List Uuid := []
  requireMfa : Bool := false
  dueSeconds : Option Nat := none
  key_pattern : stageKeyPattern key = true
  required_range : 1 ≤ requiredApprovals ∧ requiredApprovals ≤ 50
  approvers_length : approverUserIds.length ≤ 500
  due_range : ∀ seconds ∈ dueSeconds, 60 ≤ seconds ∧ seconds ≤ 31536000
deriving DecidableEq, Repr

structure QualityConfigCreate where
  expectedPreviousVersion : Nat := 0
  minimumTotalScore : ℚ := 75
  minimumComponentScores : List (QualityComponent × ℚ) := []
  requiredReportKinds : List ReportKind := ReportKind.all
  approvalStages : List ApprovalStageConfig
  thresholdOverrideAllowed : Bool := false
  notes : Option String := none
  total_range : 0 ≤ minimumTotalScore ∧ minimumTotalScore ≤ 100
  components_keyed : Keyed (·.1) minimumComponentScores
  kinds_nonempty : requiredReportKinds ≠ []
  kinds_unique : requiredReportKinds.Nodup
  stages_nonempty : approvalStages ≠ []
  stages_length : approvalStages.length ≤ 50
  stages_keyed : Keyed (·.key) approvalStages
deriving Repr

structure PolicyFindingInput where
  eventKey : String
  layer : PolicyLayer
  ruleCode : String
  action : PolicyAction
  severity : FindingSeverity
  hardBlock : Bool := false
  overrideAllowed : Bool := false
  message : String
  evidence : Json := "{}"
deriving DecidableEq, Repr

/-- The scores of a report's detail row; its other columns are not read again. -/
inductive ReportDetail where
  | morphology
  | naturalness (usefulness readability brandFit : Score)
  | seo (searchIntent : Score)
  | duplication (originality : Score)
  | factCitation (accuracy : Score)
  | safetyPolicy (compliance : Score) (policyFindings : List PolicyFindingInput)
deriving DecidableEq, Repr

def ReportDetail.kind : ReportDetail → ReportKind
  | morphology => .morphology
  | naturalness .. => .naturalness
  | seo .. => .seo
  | duplication .. => .duplication
  | factCitation .. => .factCitation
  | safetyPolicy .. => .safetyPolicy

structure ReportCreate where
  contentId : Uuid
  contentVersionId : Uuid
  contentHash : String
  inputHash : String
  hardBlockers : List PolicyFindingInput := []
  detail : ReportDetail
deriving DecidableEq, Repr

structure ContentVersion where
  id : Uuid
  contentId : Uuid
  parentVersionId : Option Uuid
  restoredFromVersionId : Option Uuid := none
  generationJobId : Option Uuid := none
  generationSnapshotId : Option Uuid := none
  versionNumber : Nat
  title : String
  document : List ContentBlockInput
  contentHash : String
  sourceSnapshotHash : Option String
  changeKind : ContentChangeKind
  changeNote : Option String
  createdBy : Uuid
deriving DecidableEq, Repr

structure ContentItem where
  id : Uuid
  channel : String
  title : String
  state : JobState := .created
  currentVersionId : Option Uuid := none
  folderPath : Option String := none
  tags : Option (List String) := some []
  metadataJson : Json := "{}"
  expiresAt : Option Int := none
  archivedAt : Option Int := none
  deletedAt : Option Int := none
  retentionHold : Bool := false
  createdBy : Uuid
  updatedBy : Uuid
  lockVersion : Nat := 1
deriving DecidableEq, Repr

structure WorkspaceQualityConfig where
  id : Uuid
  version : Nat
  minimumTotalScore : ℚ
  minimumComponentScores : List (QualityComponent × ℚ)
  requiredReportKinds : List ReportKind
  approvalStages : List ApprovalStageConfig
  thresholdOverrideAllowed : Bool
  notes : Option String
  configHash : String
  createdBy : Uuid
deriving DecidableEq, Repr

structure QualityReport where
  id : Uuid
  contentId : Uuid
  contentVersionId : Uuid
  contentHash : String
  reportKind : ReportKind
  ruleSnapshotHash : String
  policySnapshotHash : String
  reportHash : String
  detail : ReportDetail
  createdBy : Uuid
deriving DecidableEq, Repr

structure PolicyEvent where
  id : Uuid
  contentId : Uuid
  contentVersionId : Uuid
  contentHash : String
  reportId : Option Uuid
  assessmentId : Option Uuid
  eventKey : String
  layer : PolicyLayer
  ruleCode : String
  action : PolicyAction
  severity : FindingSeverity
  hardBlock : Bool
  overrideAllowed : Bool
  priority : Nat
  message : String
  evidence : Json
  ruleSnapshotHash : String
  policySnapshotHash : String
  eventHash : String
  createdBy : Uuid
deriving DecidableEq, Repr

structure PolicyOverride where
  id : Uuid
  policyEventId : Uuid
  reason : String
  evidence : Json
  eventSnapshotHash : String
  overriddenBy : Uuid
deriving DecidableEq, Repr

structure ManifestEntry where
  reportId : Uuid
  reportKind : ReportKind
  reportHash : String
  ruleSnapshotHash : String
  policySnapshotHash : String
deriving DecidableEq, Repr

/-- What the hash of an assessment covers. -/
structure AssessmentPayload where
  contentVersionId : Uuid
  contentHash : String
  qualityConfigHash : String
  reportManifest : List ManifestEntry
  componentScores : List (QualityComponent × ℚ)
  weightedContributions : List (QualityComponent × ℚ)
  totalScore : ℚ
  formulaVersion : String
  failedThresholds : List FailedThreshold
  blockingPolicyEventIds : List Uuid
  nonOverrideablePolicyEventIds : List Uuid
  decision : AssessmentDecision
deriving DecidableEq, Repr

structure QualityAssessment extends AssessmentPayload where
  id : Uuid
  contentId : Uuid
  qualityConfigId : Uuid
  assessmentHash : String
  createdBy : Uuid
deriving DecidableEq, Repr

structure QualityAssessmentReport where
  assessmentId : Uuid
  reportId : Uuid
  reportKind : ReportKind
  reportHash : String
deriving DecidableEq, Repr

structure ApprovalRequest where
  id : Uuid
  contentId : Uuid
  contentVersionId : Uuid
  contentHash : String
  assessmentId : Uuid
  assessmentHash : String
  qualityConfigId : Uuid
  qualityConfigHash : String
  approvalStagesSnapshot : List ApprovalStageConfig
  approvalStagesHash : String
  status : ApprovalRequestStatus
  currentStageIndex : Nat := 0
  stageDueAt : Option Int
  supersedesRequestId : Option Uuid := none
  requestedBy : Uuid
  requestedAt : Int
  approvedBy : Option Uuid := none
  approvedAt : Option Int := none
  approvedContentVersionId : Option Uuid := none
  approvedContentHash : Option String := none
  invalidatedAt : Option Int := none
  invalidatedBy : Option Uuid := none
  invalidationReason : Option String := none
  lockVersion : Nat := 1
deriving DecidableEq, Repr

structure ApprovalDecision where
  id : Uuid
  approvalRequestId : Uuid
  contentVersionId : Uuid
  contentHash : String
  stageKey : String
  stageIndex : Nat
  decision : ApprovalDecisionKind
  fromStatus : ApprovalRequestStatus
  toStatus : ApprovalRequestStatus
  comment : Option String
  authenticationMethods : List String
  decidedBy : Uuid
  decidedAt : Int
deriving DecidableEq, Repr

/-- The tables of one workspace. `nextId` is the next value of `uuid4`. -/
structure Store where
  contents : List ContentItem := []
  versions : List ContentVersion := []
  configs : List WorkspaceQualityConfig := []
  reports : List QualityReport := []
  policyEvents : List PolicyEvent := []
  policyOverrides : List PolicyOverride := []
  assessments : List QualityAssessment := []
  assessmentReports : List QualityAssessmentReport := []
  requests : List ApprovalRequest := []
  decisions : List ApprovalDecision := []
  nextId : Uuid := 0
deriving DecidableEq, Repr

/-- A JSONB column keeps the value of a JSON text, not the text: it gives back what PostgreSQL
made of it, and refuses what is no JSON there (`NaN`, a zero character).  What it gave back
once it keeps as it is. -/
class Jsonb where
  stored : Json → Option Json
  stored_again : ∀ {sent kept : Json}, stored sent = some kept → stored kept = some kept

/-- `canonical_json_hash` of what each row pins. -/
class QualityHash extends Jsonb where
  document : String → List ContentBlockInput → String
  fact : Json → String
  config : Nat → QualityConfigCreate → String
  policySnapshot : WorkspaceQualityConfig → String
  report : ReportKind → ReportCreate → String → String → String
  thresholdRule : String → String
  thresholdEvidence : List FailedThreshold → Json
  event : Uuid → String → Option Uuid → Option Uuid → PolicyFindingInput → String → String → String
  assessment : AssessmentPayload → String
  stages : List ApprovalStageConfig → String

/-- The authenticated caller: the parts of its authentication method between `+` signs. -/
structure Principal where
  subjectId : Uuid
  authenticationMethods : List String := []
deriving DecidableEq, Repr

/-- What a request brings along: its caller, its clock and the members it finds active. -/
structure Request where
  principal : Principal
  now : Int
  active : Uuid → Bool

abbrev Result (α : Type) := Except Raised α

structure ContentVersionSnapshot where
  contentId : Uuid
  contentVersionId : Uuid
  contentHash : String
  currentVersionId : Option Uuid
deriving DecidableEq, Repr

def ContentVersionSnapshot.isCurrent (snapshot : ContentVersionSnapshot) : Bool :=
  snapshot.currentVersionId = some snapshot.contentVersionId

def contentReferenceError (contentId : Uuid) (contentVersionId : Option Uuid) : Raised := .app {
    code := "CONTENT_VERSION_NOT_FOUND"
    message := "같은 워크스페이스의 콘텐츠 버전을 찾을 수 없습니다."
    statusCode := 404
    fields := [⟨"content_id", toString contentId⟩,
      ⟨"content_version_id", (contentVersionId.map toString).getD "current"⟩] }

variable (s : Store)

def Store.liveContent (contentId : Uuid) : Option ContentItem :=
  s.contents.find? fun content => content.id = contentId && content.deletedAt.isNone

def Store.versionOf (contentId versionId : Uuid) : Option ContentVersion :=
  s.versions.find? fun version => version.id = versionId && version.contentId = contentId

/-- `SQLAlchemyContentVersionResolver.resolve`. -/
def resolve (contentId contentVersionId : Uuid) : Result ContentVersionSnapshot :=
  match s.liveContent contentId, s.versionOf contentId contentVersionId with
  | some content, some version =>
    .ok ⟨content.id, version.id, version.contentHash, content.currentVersionId⟩
  | _, _ => .error (contentReferenceError contentId (some contentVersionId))

/-- `SQLAlchemyContentVersionResolver.current`: the join does not ask for the content. -/
def current (contentId : Uuid) : Result ContentVersionSnapshot :=
  match s.liveContent contentId with
  | none => .error (contentReferenceError contentId none)
  | some content =>
    match s.versions.find? (fun version => some version.id = content.currentVersionId) with
    | none => .error (contentReferenceError contentId none)
    | some version => .ok ⟨content.id, version.id, version.contentHash, content.currentVersionId⟩

def exactContent (contentId contentVersionId : Uuid) (contentHash : String) (requireCurrent : Bool) :
    Result ContentVersionSnapshot := do
  let content ← resolve s contentId contentVersionId
  if content.contentHash ≠ contentHash then
    .error (.app {
      code := "CONTENT_HASH_MISMATCH"
      message := "콘텐츠 버전의 저장된 해시와 요청 해시가 일치하지 않습니다."
      statusCode := 409
      fields := [⟨"expected_content_hash", contentHash⟩, ⟨"actual_content_hash", content.contentHash⟩] })
  else if requireCurrent && !content.isCurrent then
    .error (.app {
      code := "CONTENT_VERSION_NOT_CURRENT"
      message := "현재 콘텐츠 버전만 승인 요청에 사용할 수 있습니다."
      statusCode := 409
      remediation := some [("current_content_version_id",
        .text ((content.currentVersionId.map toString).getD "None"))] })
  else .ok content

def notFound (code label : String) : Raised := .app {
    code := code ++ "_NOT_FOUND"
    message := label ++ "을(를) 찾을 수 없습니다."
    statusCode := 404 }

def configOf (id : Uuid) : Result WorkspaceQualityConfig := ((s.configs.find? (·.id = id)).map .ok).getD
    (.error (notFound "QUALITY_CONFIG" "워크스페이스 품질 설정"))

def reportOf (id : Uuid) : Result QualityReport :=
  ((s.reports.find? (·.id = id)).map .ok).getD (.error (notFound "QUALITY_REPORT" "품질 보고서"))

def assessmentOf (id : Uuid) : Result QualityAssessment :=
  ((s.assessments.find? (·.id = id)).map .ok).getD (.error (notFound "QUALITY_ASSESSMENT" "품질 평가"))

def policyEventOf (id : Uuid) : Result PolicyEvent := ((s.policyEvents.find? (·.id = id)).map .ok).getD
    (.error (notFound "POLICY_EVENT" "정책 이벤트"))

def approvalRequestOf (id : Uuid) : Result ApprovalRequest :=
  ((s.requests.find? (·.id = id)).map .ok).getD (.error (notFound "APPROVAL_REQUEST" "승인 요청"))

/-- `require_active` of `SQLAlchemyActiveMembershipResolver`. -/
def requireActive (request : Request) (userIds : List Uuid) : Result Unit :=
  match (userIds.dedup.insertionSort (· ≤ ·)).filter fun userId => !request.active userId with
  | [] => .ok ()
  | missing =>
    .error (.app {
      code := "QUALITY_MEMBER_INACTIVE"
      message := "승인자와 멘션 대상은 활성 워크스페이스 멤버여야 합니다."
      statusCode := 422
      fields := missing.map fun userId => ⟨"user_ids", toString userId⟩ })

def stageApprovers (stages : List ApprovalStageConfig) : List Uuid := stages.flatMap (·.approverUserIds)

/-- `flush` of the repository turns a violated constraint into a conflict. -/
def qualityConflict (resource : String) : Raised := .app {
    code := "QUALITY_CONFLICT"
    message := "같은 보고서, 평가, 정책 버전 또는 결정이 이미 존재합니다."
    statusCode := 409
    fields := [⟨"resource", resource⟩] }

def assertHash (resource expected actual : String) : Result Unit :=
  if expected ≠ actual then
    .error (.app {
      code := "SNAPSHOT_HASH_CONFLICT"
      message := "고정된 스냅샷 해시가 변경되었습니다."
      statusCode := 409
      fields := [⟨"resource", resource⟩, ⟨"expected_hash", expected⟩, ⟨"actual_hash", actual⟩] })
  else .ok ()

def assertLock (resource : String) (expected actual : Nat) : Result Unit :=
  if expected ≠ actual then
    .error (.app {
      code := "OPTIMISTIC_LOCK_CONFLICT"
      message := "다른 요청이 먼저 리소스를 변경했습니다. 최신 값을 다시 조회해 주세요."
      statusCode := 409
      fields := [⟨"resource", resource⟩, ⟨"expected_lock_version", toString expected⟩,
        ⟨"actual_lock_version", toString actual⟩] })
  else .ok ()

def assertExpectedVersion (resource : String) (expected actual : Nat) : Result Unit :=
  if expected ≠ actual then
    .error (.app {
      code := "CONFIG_VERSION_CONFLICT"
      message := "설정 버전이 변경되었습니다. 최신 버전을 다시 조회해 주세요."
      statusCode := 409
      fields := [⟨"resource", resource⟩, ⟨"expected_previous_version", toString expected⟩,
        ⟨"actual_previous_version", toString actual⟩] })
  else .ok ()

/-- The version column counts the updates that change the row. -/
def writeRequest (f : ApprovalRequest → ApprovalRequest) (row : ApprovalRequest) : ApprovalRequest :=
  if f row = row then row else { f row with lockVersion := row.lockVersion + 1 }

def Store.updateRequest (id : Uuid) (f : ApprovalRequest → ApprovalRequest) : Store :=
  { s with requests := updateRow (·.id) id (writeRequest f) s.requests }

def writeContent (f : ContentItem → ContentItem) (row : ContentItem) : ContentItem :=
  if f row = row then row else { f row with lockVersion := row.lockVersion + 1 }

def Store.updateContent (id : Uuid) (f : ContentItem → ContentItem) : Store :=
  { s with contents := updateRow (·.id) id (writeContent f) s.contents }

section Lookup

variable {α : Type} {rows : List α} {p : α → Bool} {e : Raised} {row : α}

theorem lookup_ok (h : ((rows.find? p).map .ok).getD (.error e : Result α) = .ok row) :
    rows.find? p = some row := by
  cases hfind : rows.find? p with
  | none => simp [hfind] at h
  | some found => simpa [hfind] using h

end Lookup

variable {id contentId versionId : Uuid} {s : Store}

theorem configOf_ok {config : WorkspaceQualityConfig} (h : configOf s id = .ok config) :
    config ∈ s.configs ∧ config.id = id := by
  have hfind := lookup_ok h
  exact ⟨mem_of_find?_eq_some hfind, by simpa using find?_some hfind⟩

theorem reportOf_ok {report : QualityReport} (h : reportOf s id = .ok report) :
    report ∈ s.reports ∧ report.id = id := by
  have hfind := lookup_ok h
  exact ⟨mem_of_find?_eq_some hfind, by simpa using find?_some hfind⟩

theorem assessmentOf_ok {assessment : QualityAssessment} (h : assessmentOf s id = .ok assessment) :
    assessment ∈ s.assessments ∧ assessment.id = id := by
  have hfind := lookup_ok h
  exact ⟨mem_of_find?_eq_some hfind, by simpa using find?_some hfind⟩

theorem policyEventOf_ok {event : PolicyEvent} (h : policyEventOf s id = .ok event) :
    event ∈ s.policyEvents ∧ event.id = id := by
  have hfind := lookup_ok h
  exact ⟨mem_of_find?_eq_some hfind, by simpa using find?_some hfind⟩

theorem approvalRequestOf_ok {request : ApprovalRequest}
    (h : approvalRequestOf s id = .ok request) : request ∈ s.requests ∧ request.id = id := by
  have hfind := lookup_ok h
  exact ⟨mem_of_find?_eq_some hfind, by simpa using find?_some hfind⟩

theorem liveContent_some {content : ContentItem} (h : s.liveContent contentId = some content) :
    content ∈ s.contents ∧ content.id = contentId ∧ content.deletedAt = none := by
  have hp := find?_some h
  simp only [Bool.and_eq_true, decide_eq_true_eq, Option.isNone_iff_eq_none] at hp
  exact ⟨mem_of_find?_eq_some h, hp⟩

theorem versionOf_some {version : ContentVersion} (h : s.versionOf contentId versionId = some version) :
    version ∈ s.versions ∧ version.id = versionId ∧ version.contentId = contentId := by
  have hp := find?_some h
  simp only [Bool.and_eq_true, decide_eq_true_eq] at hp
  exact ⟨mem_of_find?_eq_some h, hp⟩

/-- What a resolved version is: a version of a content that is not deleted. -/
theorem resolve_ok {snapshot : ContentVersionSnapshot} (h : resolve s contentId versionId = .ok snapshot) :
    ∃ content version, s.liveContent contentId = some content ∧
      s.versionOf contentId versionId = some version ∧
      snapshot = ⟨contentId, versionId, version.contentHash, content.currentVersionId⟩ := by
  unfold resolve at h
  split at h
  · rename_i content version hcontent hversion
    obtain ⟨_, hcid, _⟩ := liveContent_some hcontent
    obtain ⟨_, hvid, _⟩ := versionOf_some hversion
    refine ⟨content, version, hcontent, hversion, ?_⟩
    rw [← Except.ok.inj h, hcid, hvid]
  · cases h

theorem exactContent_ok {hash : String} {requireCurrent : Bool} {snapshot : ContentVersionSnapshot}
    (h : exactContent s contentId versionId hash requireCurrent = .ok snapshot) :
    ∃ content version, s.liveContent contentId = some content ∧
      s.versionOf contentId versionId = some version ∧ version.contentHash = hash ∧
      snapshot = ⟨contentId, versionId, hash, content.currentVersionId⟩ ∧
      (requireCurrent = true → content.currentVersionId = some versionId) := by
  unfold exactContent at h
  obtain ⟨found, hresolve, h⟩ := bind_ok h
  obtain ⟨content, version, hcontent, hversion, rfl⟩ := resolve_ok hresolve
  split_ifs at h with hhash hcurrent
  rw [not_not] at hhash
  refine ⟨content, version, hcontent, hversion, hhash, ?_, ?_⟩
  · rw [← Except.ok.inj h]
    simpa using hhash
  · intro hrequire
    simpa [hrequire, ContentVersionSnapshot.isCurrent] using hcurrent

theorem requireActive_ok {request : Request} {userIds : List Uuid} :
    requireActive request userIds = .ok () ↔ ∀ userId ∈ userIds, request.active userId = true := by
  unfold requireActive
  have hempty : (userIds.dedup.insertionSort (· ≤ ·)).filter (fun userId => !request.active userId)
      = [] ↔ ∀ userId ∈ userIds, request.active userId = true := by
    simp [filter_eq_nil_iff]
  rw [← hempty]
  split
  · exact iff_of_true rfl ‹_›
  · rename_i hne
    exact iff_of_false (by simp) hne

section Writes

variable {f : ApprovalRequest → ApprovalRequest} {row : ApprovalRequest}

/-- A write keeps what neither it nor the version column changes. -/
theorem writeRequest_proj {β : Type} (g : ApprovalRequest → β)
    (hlock : ∀ row n, g { row with lockVersion := n } = g row) : g (writeRequest f row) = g (f row) := by
  unfold writeRequest
  split
  · rename_i heq
    rw [heq]
  · exact hlock _ _

end Writes

end BlogOps.Quality
