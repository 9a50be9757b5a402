import BlogOps.ApprovalRequests

/-!
# Quality evidence

Versioned quality configs, reports with their normalized policy events, the
assessment of six reports against a config, and policy overrides.
-/

namespace BlogOps.Quality

open KeyedTables

variable (s : Store)

def latestConfigVersion : Nat := (s.configs.map (·.version)).foldr max 0

/-- What the column `Numeric(5, 2)` stores. -/
def storedTotal (minimumTotalScore : ℚ) : ℚ := quantize minimumTotalScore

section Configs

variable [QualityHash]

def newConfig (request : Request) (id : Uuid) (version : Nat) (data : QualityConfigCreate) :
    WorkspaceQualityConfig where
  id := id
  version := version
  minimumTotalScore := storedTotal data.minimumTotalScore
  minimumComponentScores := data.minimumComponentScores
  requiredReportKinds := data.requiredReportKinds
  approvalStages := data.approvalStages
  thresholdOverrideAllowed := data.thresholdOverrideAllowed
  notes := data.notes
  configHash := QualityHash.config version data
  createdBy := request.principal.subjectId

/-- The unique constraints `quality_config_version` and `quality_config_hash`. -/
def insertConfig (row : WorkspaceQualityConfig) (s : Store) : Result Store :=
  if s.configs.any fun other => other.version = row.version || other.configHash = row.configHash
  then .error (qualityConflict "workspace_quality_config")
  else .ok { s with configs := s.configs ++ [row], nextId := s.nextId + 1 }

def createQualityConfig (request : Request) (data : QualityConfigCreate) (s : Store) :
    Result (WorkspaceQualityConfig × Store) := do
  let latest := latestConfigVersion s
  assertExpectedVersion "workspace_quality_config" data.expectedPreviousVersion latest
  requireActive request (stageApprovers data.approvalStages)
  let config := newConfig request s.nextId (latest + 1) data
  let s ← insertConfig config s
  .ok (config, s)

end Configs

def latestConfig : Result WorkspaceQualityConfig :=
  match s.configs.find? (·.version = latestConfigVersion s) with
  | some config => .ok config
  | none =>
    .error (.app {
      code := "QUALITY_CONFIG_REQUIRED"
      message := "보고서를 만들기 전에 버전이 지정된 워크스페이스 품질 설정이 필요합니다."
      statusCode := 409 })

def policyInputs (data : ReportCreate) : List PolicyFindingInput :=
  match data.detail with
  | .safetyPolicy _ policyFindings => data.hardBlockers ++ policyFindings
  | _ => data.hardBlockers

/-- The first key that an earlier finding already has. -/
def duplicateKey : List String → List PolicyFindingInput → Option String
  | _, [] => none
  | seen, item :: rest =>
    if item.eventKey ∈ seen then some item.eventKey
    else duplicateKey (item.eventKey :: seen) rest

def uniquePolicyInputs (data : ReportCreate) : Result (List PolicyFindingInput) :=
  match duplicateKey [] (policyInputs data) with
  | some key =>
    .error (.app {
      code := "POLICY_EVENT_KEY_DUPLICATE"
      message := "한 보고서 안에서 정책 이벤트 키는 고유해야 합니다."
      statusCode := 422
      fields := [⟨"event_key", key⟩] })
  | none => .ok (policyInputs data)

def normalizePolicyInput (item : PolicyFindingInput) : PolicyFindingInput :=
  let severity := if item.action = .block then .block else item.severity
  let hardBlock :=
    if item.layer ∈ [PolicyLayer.law, .copyright] ∧ severity = .block then true
    else item.hardBlock
  let blocking := hardBlock || severity = .block
  { item with
    severity := severity
    hardBlock := hardBlock
    action := if blocking then .block else item.action
    overrideAllowed :=
      if blocking && item.layer ∈ nonOverrideableHardBlockLayers then false
      else item.overrideAllowed }

section Events

variable [QualityHash]

variable (request : Request)

def newPolicyEvent (id : Uuid) (content : ContentVersionSnapshot) (reportId assessmentId : Option Uuid)
    (ruleSnapshotHash policySnapshotHash : String) (finding : PolicyFindingInput) : PolicyEvent where
  id := id
  contentId := content.contentId
  contentVersionId := content.contentVersionId
  contentHash := content.contentHash
  reportId := reportId
  assessmentId := assessmentId
  eventKey := finding.eventKey
  layer := finding.layer
  ruleCode := finding.ruleCode
  action := finding.action
  severity := finding.severity
  hardBlock := finding.hardBlock
  overrideAllowed := finding.overrideAllowed
  priority := policyLayerPriority finding.layer
  message := finding.message
  evidence := finding.evidence
  ruleSnapshotHash := ruleSnapshotHash
  policySnapshotHash := policySnapshotHash
  eventHash := QualityHash.event content.contentVersionId content.contentHash reportId
    assessmentId finding ruleSnapshotHash policySnapshotHash
  createdBy := request.principal.subjectId

/-- The events of a report, numbered from `firstId` on. -/
def newPolicyEvents (firstId : Uuid) (content : ContentVersionSnapshot) (reportId : Uuid)
    (ruleSnapshotHash policySnapshotHash : String) (findings : List PolicyFindingInput) : List PolicyEvent :=
  findings.mapIdx fun index finding =>
    newPolicyEvent request (firstId + index) content (some reportId) none ruleSnapshotHash
      policySnapshotHash finding

def newReport (id : Uuid) (content : ContentVersionSnapshot) (kind : ReportKind) (data : ReportCreate)
    (ruleSnapshotHash policySnapshotHash : String) : QualityReport where
  id := id
  contentId := content.contentId
  contentVersionId := content.contentVersionId
  contentHash := content.contentHash
  reportKind := kind
  ruleSnapshotHash := ruleSnapshotHash
  policySnapshotHash := policySnapshotHash
  reportHash := QualityHash.report kind data ruleSnapshotHash policySnapshotHash
  detail := data.detail
  createdBy := request.principal.subjectId

/-- The unique constraint `quality_report_version_kind_hash`. -/
def insertReport (report : QualityReport) (events : List PolicyEvent) (s : Store) : Result Store :=
  if s.reports.any fun other => other.contentVersionId = report.contentVersionId &&
      other.reportKind = report.reportKind && other.reportHash = report.reportHash then
    .error (qualityConflict "quality_report")
  else .ok { s with
    reports := s.reports ++ [report]
    policyEvents := s.policyEvents ++ events
    nextId := s.nextId + 1 + events.length }

/-- `rules` is the hash of the rule sets the report uses, or the error of the checks on them
and on the analyzer they ask for. -/
def createReport (kind : ReportKind) (data : ReportCreate) (rules : Except AppError String)
    (s : Store) : Result (QualityReport × Store) := do
  let content ← exactContent s data.contentId data.contentVersionId data.contentHash false
  let config ← latestConfig s
  let ruleSnapshotHash ← rules.mapError Raised.app
  let policySnapshotHash := QualityHash.policySnapshot config
  let inputs ← uniquePolicyInputs data
  if data.detail.kind ≠ kind then
    .error (.app {
      code := "QUALITY_REPORT_PAYLOAD_KIND_MISMATCH"
      message := "보고서 경로와 상세 결과 형식이 일치하지 않습니다."
      statusCode := 422 })
  else do
    let report := newReport request s.nextId content kind data ruleSnapshotHash policySnapshotHash
    let events := newPolicyEvents request (s.nextId + 1) content report.id ruleSnapshotHash
      policySnapshotHash (inputs.map normalizePolicyInput)
    let s ← insertReport report events s
    .ok (report, s)

end Events

structure QualityAssessmentCreate where
  contentId : Uuid
  contentVersionId : Uuid
  contentHash : String
  qualityConfigId : Uuid
  reportIds : List (ReportKind × Uuid)
  report_ids_keyed : Keyed (·.1) reportIds
deriving DecidableEq, Repr

/-- The report kinds in the order of their values. -/
def ReportKind.byValue : List ReportKind :=
  [.duplication, .factCitation, .morphology, .naturalness, .safetyPolicy, .seo]

def reportsRequired (code message : String) (missing : List ReportKind) : Result Unit :=
  if missing = [] then .ok ()
  else .error (.app {
    code := code
    message := message
    statusCode := 422
    fields := missing.map fun kind => ⟨"report_ids", kind.value⟩ })

def missingKinds (required : List ReportKind) (data : QualityAssessmentCreate) : List ReportKind :=
  ReportKind.byValue.filter fun kind =>
    kind ∈ required && kind ∉ data.reportIds.map (·.1)

def assertReportContent (report : QualityReport) (content : ContentVersionSnapshot) : Result Unit :=
  if report.contentId ≠ content.contentId ∨ report.contentVersionId ≠ content.contentVersionId ∨
      report.contentHash ≠ content.contentHash then
    .error (.app {
      code := "QUALITY_REPORT_CONTENT_MISMATCH"
      message := "모든 품질 보고서는 같은 콘텐츠 버전과 해시에 고정되어야 합니다."
      statusCode := 422 })
  else .ok ()

def assessedReport (content : ContentVersionSnapshot) (kind : ReportKind) (reportId : Uuid) :
    Result QualityReport := do
  let report ← reportOf s reportId
  if report.reportKind ≠ kind then
    .error (.app {
      code := "QUALITY_REPORT_KIND_MISMATCH"
      message := "보고서 식별자와 보고서 종류가 일치하지 않습니다."
      statusCode := 422
      fields := [⟨"report_ids." ++ kind.value, report.reportKind.value⟩] })
  else do
    assertReportContent report content
    .ok report

def assessedReports (s : Store) (content : ContentVersionSnapshot) :
    List (ReportKind × Uuid) → Result (List QualityReport)
  | [] => .ok []
  | (kind, reportId) :: rest => do
    let report ← assessedReport s content kind reportId
    let reports ← assessedReports s content rest
    .ok (report :: reports)

variable (reports : List QualityReport)

def detailOf (kind : ReportKind) : Result ReportDetail :=
  match reports.find? (·.reportKind = kind) with
  | some report => .ok report.detail
  | none => .error (.failure .keyError)

def detailTypeError (kind : ReportKind) : Raised := .app {
    code := "QUALITY_REPORT_DETAIL_MISMATCH"
    message := "품질 산식에 사용할 보고서 상세 형식이 올바르지 않습니다."
    statusCode := 409
    fields := [⟨"report_kind", kind.value⟩] }

def componentScores : Result (QualityComponent → ℚ) := do
  let fact ← detailOf reports .factCitation
  let naturalness ← detailOf reports .naturalness
  let duplication ← detailOf reports .duplication
  let seo ← detailOf reports .seo
  let safety ← detailOf reports .safetyPolicy
  match fact, naturalness, duplication, seo, safety with
  | .factCitation accuracy, .naturalness usefulness readability brandFit,
    .duplication originality, .seo searchIntent, .safetyPolicy compliance _ =>
    .ok fun
      | .accuracy => accuracy
      | .usefulness => usefulness
      | .originality => originality
      | .searchIntent => searchIntent
      | .readability => readability
      | .brandFit => brandFit
      | .compliance => compliance
  | .factCitation _, .naturalness .., .duplication _, .seo _, _ =>
    .error (detailTypeError .safetyPolicy)
  | .factCitation _, .naturalness .., .duplication _, _, _ => .error (detailTypeError .seo)
  | .factCitation _, .naturalness .., _, _, _ => .error (detailTypeError .duplication)
  | .factCitation _, _, _, _, _ => .error (detailTypeError .naturalness)
  | _, _, _, _, _ => .error (detailTypeError .factCitation)

def policyFindingFromEvent (event : PolicyEvent) : PolicyFinding where
  eventKey := event.id
  layer := event.layer
  ruleCode := event.ruleCode
  severity := event.severity
  hardBlock := event.hardBlock
  overrideAllowed := event.overrideAllowed

def eventsOfReports : List PolicyEvent :=
  s.policyEvents.filter fun event => reports.any fun report => event.reportId = some report.id

def manifestEntry (report : QualityReport) : ManifestEntry where
  reportId := report.id
  reportKind := report.reportKind
  reportHash := report.reportHash
  ruleSnapshotHash := report.ruleSnapshotHash
  policySnapshotHash := report.policySnapshotHash

def reportManifest : List ManifestEntry :=
  (ReportKind.byValue.flatMap fun kind => reports.filter (·.reportKind = kind)).map manifestEntry

def assessmentLink (assessmentId : Uuid) (report : QualityReport) : QualityAssessmentReport where
  assessmentId := assessmentId
  reportId := report.id
  reportKind := report.reportKind
  reportHash := report.reportHash

/-- The gate over the reports and the policy events they have now. -/
def assessPolicy : PolicyResolution := let events := eventsOfReports s reports
  resolvePolicyFindings (events.map policyFindingFromEvent)
    ((s.policyOverrides.filter fun override =>
      events.any (·.id = override.policyEventId)).map (·.policyEventId))

section Assessments

variable [QualityHash]

def thresholdFinding (assessmentId : Uuid) (config : WorkspaceQualityConfig)
    (failed : List FailedThreshold) : PolicyFindingInput where
  eventKey := "quality-threshold:" ++ toString assessmentId
  layer := .workspace
  ruleCode := "QUALITY_THRESHOLD"
  action := .block
  severity := .block
  hardBlock := false
  overrideAllowed := config.thresholdOverrideAllowed
  message := "워크스페이스 품질 임계값을 충족하지 못했습니다."
  evidence := QualityHash.thresholdEvidence failed

variable (request : Request)

def thresholdEvent (id assessmentId : Uuid) (content : ContentVersionSnapshot)
    (config : WorkspaceQualityConfig) (failed : List FailedThreshold) : PolicyEvent :=
  newPolicyEvent request id content none (some assessmentId)
    (QualityHash.thresholdRule config.configHash) config.configHash
    (thresholdFinding assessmentId config failed)

def assessmentPayload (content : ContentVersionSnapshot) (config : WorkspaceQualityConfig)
    (reports : List QualityReport) (score : QualityScoreBreakdown) (gate : QualityGateResult)
    (blockingIds nonOverrideableIds : List Uuid) : AssessmentPayload where
  contentVersionId := content.contentVersionId
  contentHash := content.contentHash
  qualityConfigHash := config.configHash
  reportManifest := reportManifest reports
  componentScores := QualityComponent.all.map fun component =>
    (component, score.componentScores component)
  weightedContributions := QualityComponent.all.map fun component =>
    (component, score.weightedContributions component)
  totalScore := score.total
  formulaVersion := score.formulaVersion
  failedThresholds := gate.failedThresholds
  blockingPolicyEventIds := blockingIds
  nonOverrideablePolicyEventIds := nonOverrideableIds
  decision := gate.decision

def newAssessment (id contentId qualityConfigId : Uuid) (payload : AssessmentPayload) : QualityAssessment :=
  { payload with
    id := id
    contentId := contentId
    qualityConfigId := qualityConfigId
    assessmentHash := QualityHash.assessment payload
    createdBy := request.principal.subjectId }

/-- The unique constraint `quality_assessment_version_hash`. -/
def insertAssessment (assessment : QualityAssessment) (reports : List QualityReport)
    (events : List PolicyEvent) (s : Store) : Result Store :=
  if s.assessments.any fun other => other.contentVersionId = assessment.contentVersionId &&
      other.assessmentHash = assessment.assessmentHash then
    .error (qualityConflict "quality_assessment")
  else .ok { s with
    assessments := s.assessments ++ [assessment]
    assessmentReports := s.assessmentReports ++ reports.map (assessmentLink assessment.id)
    policyEvents := s.policyEvents ++ events
    nextId := s.nextId + 2 }

def blockingIds (s : Store) (resolution : PolicyResolution) (gate : QualityGateResult) : List Uuid :=
  resolution.blockingEventKeys ++ if gate.failedThresholds = [] then [] else [s.nextId + 1]

def nonOverrideableIds (s : Store) (config : WorkspaceQualityConfig)
    (resolution : PolicyResolution) (gate : QualityGateResult) : List Uuid :=
  resolution.nonOverrideableEventKeys ++
    if gate.failedThresholds = [] ∨ config.thresholdOverrideAllowed then [] else [s.nextId + 1]

def thresholdEvents (s : Store) (content : ContentVersionSnapshot) (config : WorkspaceQualityConfig)
    (gate : QualityGateResult) : List PolicyEvent :=
  if gate.failedThresholds = [] then []
  else [thresholdEvent request (s.nextId + 1) s.nextId content config gate.failedThresholds]

/-- What the gate decided, as rows: the assessment and the threshold event of a missed
threshold. -/
def recordAssessment (content : ContentVersionSnapshot) (config : WorkspaceQualityConfig)
    (reports : List QualityReport) (score : QualityScoreBreakdown) (resolution : PolicyResolution)
    (gate : QualityGateResult) (s : Store) : Result (QualityAssessment × Store) := do
  let assessment := newAssessment request s.nextId content.contentId config.id
    (assessmentPayload content config reports score gate (blockingIds s resolution gate)
      (nonOverrideableIds s config resolution gate))
  let s ← insertAssessment assessment reports (thresholdEvents request s content config gate) s
  .ok (assessment, s)

def createAssessment (data : QualityAssessmentCreate) (s : Store) : Result (QualityAssessment × Store) := do
  let content ← exactContent s data.contentId data.contentVersionId data.contentHash false
  let config ← configOf s data.qualityConfigId
  reportsRequired "QUALITY_REPORTS_REQUIRED" "품질 평가에 필요한 보고서가 누락되었습니다."
    (missingKinds config.requiredReportKinds data)
  reportsRequired "QUALITY_FORMULA_REPORTS_REQUIRED"
    "기본 품질 산식에 필요한 보고서가 누락되었습니다." (missingKinds ReportKind.all data)
  let reports ← assessedReports s content data.reportIds
  let scores ← componentScores reports
  let score ← calculateQualityScore scores
  let resolution := assessPolicy s reports
  let gate ← evaluateQualityGate score config.minimumTotalScore config.minimumComponentScores resolution
  recordAssessment request content config reports score resolution gate s

end Assessments

structure PolicyOverrideCreate where
  expectedEventSnapshotHash : String
  reason : String
  evidence : Json := "{}"
  reason_length : 10 ≤ reason.length
deriving DecidableEq, Repr

def overrideForbidden (event : PolicyEvent) : Raised := .app {
    code := "POLICY_OVERRIDE_FORBIDDEN"
    message := "법률·저작권·플랫폼·서비스 hard block 또는 예외 불가 정책은 무시할 수 없습니다."
    statusCode := 409
    fields := [⟨"policy_event_id", toString event.id⟩, ⟨"layer", event.layer.value⟩,
      ⟨"rule_code", event.ruleCode⟩] }

def PolicyEvent.blocking (event : PolicyEvent) : Bool :=
  event.hardBlock || event.severity = .block || event.action = .block

def newOverride (request : Request) (id : Uuid) (event : PolicyEvent)
    (data : PolicyOverrideCreate) : PolicyOverride where
  id := id
  policyEventId := event.id
  reason := data.reason
  evidence := data.evidence
  eventSnapshotHash := event.eventHash
  overriddenBy := request.principal.subjectId

/-- The lookup of an existing override keeps its unique constraint from being met. -/
def createPolicyOverride (request : Request) (eventId : Uuid) (data : PolicyOverrideCreate)
    (s : Store) : Result (PolicyOverride × Store) := do
  let event ← policyEventOf s eventId
  assertHash "policy_event" data.expectedEventSnapshotHash event.eventHash
  if event.blocking && event.layer ∈ nonOverrideableHardBlockLayers then
    .error (overrideForbidden event)
  else if !event.overrideAllowed then .error (overrideForbidden event)
  else if overridden s event.id then
    .error (.app {
      code := "POLICY_EVENT_ALREADY_OVERRIDDEN"
      message := "이 정책 이벤트에는 이미 유효한 예외 승인이 있습니다."
      statusCode := 409 })
  else
    let override := newOverride request s.nextId event data
    .ok (override, { s with
      policyOverrides := s.policyOverrides ++ [override]
      nextId := s.nextId + 1 })

variable {after s : Store} {request : Request}

theorem createPolicyOverride_ok {eventId : Uuid} {data : PolicyOverrideCreate} {override : PolicyOverride}
    (h : createPolicyOverride request eventId data s = .ok (override, after)) :
    ∃ event ∈ s.policyEvents, event.overrideAllowed = true ∧
      override = newOverride request s.nextId event data ∧
      after = { s with
        policyOverrides := s.policyOverrides ++ [override]
        nextId := s.nextId + 1 } := by
  unfold createPolicyOverride at h
  obtain ⟨event, hevent, h⟩ := bind_ok h
  obtain ⟨hmem, _⟩ := policyEventOf_ok hevent
  obtain ⟨⟨⟩, _, h⟩ := bind_ok h
  split_ifs at h with _ hallowed
  cases h
  exact ⟨event, hmem, by simpa using hallowed, rfl, rfl⟩

theorem uniquePolicyInputs_ok {data : ReportCreate} {inputs : List PolicyFindingInput}
    (h : uniquePolicyInputs data = .ok inputs) : inputs = policyInputs data := by
  unfold uniquePolicyInputs at h
  split at h
  · cases h
  · exact (Except.ok.inj h).symm

section Rows

variable [QualityHash]

theorem createQualityConfig_ok {data : QualityConfigCreate} {config : WorkspaceQualityConfig}
    (h : createQualityConfig request data s = .ok (config, after)) :
    config = newConfig request s.nextId (latestConfigVersion s + 1) data ∧
      (∀ other ∈ s.configs, other.configHash ≠ config.configHash) ∧
      after = { s with configs := s.configs ++ [config], nextId := s.nextId + 1 } := by
  unfold createQualityConfig at h
  dsimp only at h
  obtain ⟨⟨⟩, _, h⟩ := bind_ok h
  obtain ⟨⟨⟩, _, h⟩ := bind_ok h
  obtain ⟨grown, hinsert, h⟩ := bind_ok h
  cases h
  unfold insertConfig at hinsert
  split_ifs at hinsert with hnew
  cases hinsert
  refine ⟨rfl, ?_, rfl⟩
  intro other hother heq
  refine hnew (List.any_eq_true.mpr ⟨other, hother, ?_⟩)
  simp [heq]

theorem createReport_ok {kind : ReportKind} {data : ReportCreate} {rules : Except AppError String}
    {report : QualityReport} (h : createReport request kind data rules s = .ok (report, after)) :
    ∃ content ruleHash policyHash, data.detail.kind = kind ∧
      report = newReport request s.nextId content kind data ruleHash policyHash ∧
      after = { s with
        reports := s.reports ++ [report]
        policyEvents := s.policyEvents ++ newPolicyEvents request (s.nextId + 1) content
          report.id ruleHash policyHash ((policyInputs data).map normalizePolicyInput)
        nextId := s.nextId + 1 + (policyInputs data).length } := by
  unfold createReport at h
  obtain ⟨content, _, h⟩ := bind_ok h
  obtain ⟨config, _, h⟩ := bind_ok h
  obtain ⟨ruleHash, _, h⟩ := bind_ok h
  dsimp only at h
  obtain ⟨inputs, hinputs, h⟩ := bind_ok h
  split_ifs at h with hkind
  rw [not_not] at hkind
  obtain ⟨grown, hinsert, h⟩ := bind_ok h
  cases h
  rw [uniquePolicyInputs_ok hinputs] at hinsert
  unfold insertReport at hinsert
  split_ifs at hinsert
  cases hinsert
  refine ⟨content, ruleHash, _, hkind, rfl, ?_⟩
  simp [newPolicyEvents]

/-- What an assessment was made of. -/
structure Assessed (request : Request) (data : QualityAssessmentCreate) (s : Store)
    (content : ContentItem) (config : WorkspaceQualityConfig) (reports : List QualityReport)
    (scores : QualityComponent → ℚ) (score : QualityScoreBreakdown) (gate : QualityGateResult) :
    Prop where
  content_live : s.liveContent data.contentId = some content
  config_found : configOf s data.qualityConfigId = .ok config
  reports_found : assessedReports s
    ⟨data.contentId, data.contentVersionId, data.contentHash, content.currentVersionId⟩
    data.reportIds = .ok reports
  scores_found : componentScores reports = .ok scores
  score_eq : calculateQualityScore scores = .ok score
  gate_eq : evaluateQualityGate score config.minimumTotalScore config.minimumComponentScores
    (assessPolicy s reports) = .ok gate

theorem createAssessment_ok {data : QualityAssessmentCreate} {assessment : QualityAssessment}
    (h : createAssessment request data s = .ok (assessment, after)) :
    ∃ content config reports scores score gate,
      Assessed request data s content config reports scores score gate ∧ recordAssessment request
          ⟨data.contentId, data.contentVersionId, data.contentHash, content.currentVersionId⟩
          config reports score (assessPolicy s reports) gate s = .ok (assessment, after) := by
  unfold createAssessment at h
  obtain ⟨snapshot, hexact, h⟩ := bind_ok h
  obtain ⟨content, version, hcontent, _, _, rfl, _⟩ := exactContent_ok hexact
  obtain ⟨config, hconfig, h⟩ := bind_ok h
  obtain ⟨⟨⟩, _, h⟩ := bind_ok h
  obtain ⟨⟨⟩, _, h⟩ := bind_ok h
  obtain ⟨reports, hreports, h⟩ := bind_ok h
  obtain ⟨scores, hscores, h⟩ := bind_ok h
  obtain ⟨score, hscore, h⟩ := bind_ok h
  dsimp only at h
  obtain ⟨gate, hgate, h⟩ := bind_ok h
  exact ⟨content, config, reports, scores, score, gate,
    ⟨hcontent, hconfig, hreports, hscores, hscore, hgate⟩, h⟩

theorem recordAssessment_ok {content : ContentVersionSnapshot} {config : WorkspaceQualityConfig}
    {reports : List QualityReport} {score : QualityScoreBreakdown} {resolution : PolicyResolution}
    {gate : QualityGateResult} {assessment : QualityAssessment}
    (h : recordAssessment request content config reports score resolution gate s = .ok (assessment, after)) :
    assessment = newAssessment request s.nextId content.contentId config.id
        (assessmentPayload content config reports score gate (blockingIds s resolution gate)
          (nonOverrideableIds s config resolution gate)) ∧
      after = { s with
        assessments := s.assessments ++ [assessment]
        assessmentReports := s.assessmentReports ++ reports.map (assessmentLink assessment.id)
        policyEvents := s.policyEvents ++ thresholdEvents request s content config gate
        nextId := s.nextId + 2 } := by
  unfold recordAssessment at h
  dsimp only at h
  obtain ⟨grown, hinsert, h⟩ := bind_ok h
  cases h
  unfold insertAssessment at hinsert
  split_ifs at hinsert
  cases hinsert
  exact ⟨rfl, rfl⟩

end Rows

end BlogOps.Quality
