import BlogOps.QualityRows

/-!
# Approval requests

`create_approval_request`, `decide_approval_request` and the invalidation of
live requests when the content changes.  A call that raises leaves the store as
it was.
-/

namespace BlogOps.Quality

open KeyedTables

def liveStatus (status : ApprovalRequestStatus) : Bool := status = .pending || status = .approved

variable (request : Request)

def invalidateRequest (reason : String) (row : ApprovalRequest) : ApprovalRequest :=
  { row with
    status := .invalidated
    invalidatedAt := some request.now
    invalidatedBy := some request.principal.subjectId
    invalidationReason := some reason
    stageDueAt := none }

/-- The live requests that a change of the content takes with it. -/
def touchedByChange (contentId newContentVersionId : Uuid) (newContentHash : String)
    (force : Bool) (row : ApprovalRequest) : Bool :=
  row.contentId = contentId && liveStatus row.status &&
    (force || row.contentVersionId ≠ newContentVersionId || row.contentHash ≠ newContentHash)

def invalidateApprovalsForContentChange (contentId newContentVersionId : Uuid)
    (newContentHash reason : String) (force : Bool) (s : Store) : Store :=
  { s with requests := s.requests.map fun row =>
      if touchedByChange contentId newContentVersionId newContentHash force row then
        writeRequest (invalidateRequest request reason) row
      else row }

structure ApprovalInvalidationCreate where
  newContentVersionId : Uuid
  newContentHash : String
  reason : String
  reason_nonempty : reason ≠ ""
deriving Repr

def invalidateApprovalsAfterEdit (contentId : Uuid) (data : ApprovalInvalidationCreate) (s : Store) :
    Result Store := do
  let content ← exactContent s contentId data.newContentVersionId data.newContentHash true
  .ok (invalidateApprovalsForContentChange request contentId content.contentVersionId
    content.contentHash data.reason false s)

structure ApprovalRequestCreate where
  contentId : Uuid
  contentVersionId : Uuid
  contentHash : String
  assessmentId : Uuid
  expectedAssessmentHash : String
  supersedesRequestId : Option Uuid := none
deriving DecidableEq, Repr

def overridden (s : Store) (eventId : Uuid) : Bool := s.policyOverrides.any (·.policyEventId = eventId)

def policyEventFields (ids : List Uuid) : List FieldError :=
  (ids.dedup.insertionSort (· ≤ ·)).map fun id => ⟨"policy_event_id", toString id⟩

def assertAssessmentApprovalEligible (s : Store) (assessment : QualityAssessment) : Result Unit :=
  if assessment.blockingPolicyEventIds = [] then
    if assessment.decision ≠ .pass then
      .error (.app {
        code := "QUALITY_ASSESSMENT_NOT_PASSED"
        message := "통과한 품질 평가만 승인 요청에 사용할 수 있습니다."
        statusCode := 409 })
    else .ok ()
  else if assessment.nonOverrideablePolicyEventIds ≠ [] then
    .error (.app {
      code := "QUALITY_HARD_BLOCK"
      message := "예외 승인할 수 없는 상위 정책 차단이 있어 승인 요청을 만들 수 없습니다."
      statusCode := 409
      fields := policyEventFields assessment.nonOverrideablePolicyEventIds })
  else if ∃ id ∈ assessment.blockingPolicyEventIds, overridden s id = false then
    .error (.app {
      code := "QUALITY_POLICY_OVERRIDE_REQUIRED"
      message := "승인 요청 전에 예외 가능한 정책 차단을 모두 해소해야 합니다."
      statusCode := 409
      fields := policyEventFields (assessment.blockingPolicyEventIds.filter fun id => !overridden s id) })
  else .ok ()

def supersedeRequest (row : ApprovalRequest) : ApprovalRequest :=
  { row with
    status := .superseded
    invalidatedAt := some request.now
    invalidatedBy := some request.principal.subjectId
    invalidationReason := some "새 콘텐츠 버전 승인 요청으로 대체됨" }

def supersede (contentId : Uuid) (supersedesRequestId : Option Uuid) (s : Store) : Result Store :=
  match supersedesRequestId with
  | none => .ok s
  | some requestId => do
    let superseded ← approvalRequestOf s requestId
    if superseded.contentId ≠ contentId then
      .error (.app {
        code := "APPROVAL_SUPERSEDES_CONTENT_MISMATCH"
        message := "같은 콘텐츠의 승인 요청만 대체할 수 있습니다."
        statusCode := 422 })
    else if superseded.status = .superseded then
      .error (.app {
        code := "APPROVAL_ALREADY_SUPERSEDED"
        message := "이미 대체된 승인 요청입니다."
        statusCode := 409 })
    else .ok (s.updateRequest requestId (supersedeRequest request))

def stageDueAt (now : Int) (stage : ApprovalStageConfig) : Option Int :=
  stage.dueSeconds.map fun seconds : Nat => now + (seconds : Int)

/-- The unique constraint `approval_request_version_assessment`. -/
def insertRequest (row : ApprovalRequest) (s : Store) : Result Store :=
  if s.requests.any fun other => other.contentVersionId = row.contentVersionId &&
      other.assessmentId = row.assessmentId then
    .error (qualityConflict "approval_request")
  else .ok { s with requests := s.requests ++ [row], nextId := s.nextId + 1 }

variable {after s : Store} {request : Request} {row : ApprovalRequest}

theorem invalidateApprovalsAfterEdit_ok {contentId : Uuid} {data : ApprovalInvalidationCreate}
    (h : invalidateApprovalsAfterEdit request contentId data s = .ok after) :
    after = invalidateApprovalsForContentChange request contentId data.newContentVersionId
      data.newContentHash data.reason false s := by
  unfold invalidateApprovalsAfterEdit at h
  obtain ⟨snapshot, hcontent, h⟩ := bind_ok h
  obtain ⟨_, _, _, _, _, rfl, _⟩ := exactContent_ok hcontent
  exact (Except.ok.inj h).symm

theorem assertHash_ok {resource expected actual : String} :
    assertHash resource expected actual = .ok () ↔ expected = actual := by
  unfold assertHash
  split_ifs with h
  · exact iff_of_false (by simp) h
  · exact iff_of_true rfl (not_not.mp h)

theorem assertLock_ok {resource : String} {expected actual : Nat} :
    assertLock resource expected actual = .ok () ↔ expected = actual := by
  unfold assertLock
  split_ifs with h
  · exact iff_of_false (by simp) h
  · exact iff_of_true rfl (not_not.mp h)

theorem supersede_ok {contentId : Uuid} {supersedes : Option Uuid}
    (h : supersede request contentId supersedes s = .ok after) :
    after = s ∨ ∃ requestId, after = s.updateRequest requestId (supersedeRequest request) := by
  unfold supersede at h
  split at h
  · exact .inl (Except.ok.inj h).symm
  · obtain ⟨row, _, h⟩ := bind_ok h
    split_ifs at h
    exact .inr ⟨_, (Except.ok.inj h).symm⟩

theorem insertRequest_ok (h : insertRequest row s = .ok after) :
    after = { s with requests := s.requests ++ [row], nextId := s.nextId + 1 } := by
  unfold insertRequest at h
  split_ifs at h
  exact (Except.ok.inj h).symm

/-- What a created request refers to. -/
structure Requested (request : Request) (data : ApprovalRequestCreate) (s : Store)
    (content : ContentItem) (version : ContentVersion) (assessment : QualityAssessment)
    (config : WorkspaceQualityConfig) : Prop where
  content_live : s.liveContent data.contentId = some content
  version_found : s.versionOf data.contentId data.contentVersionId = some version
  version_hash : version.contentHash = data.contentHash
  version_current : content.currentVersionId = some data.contentVersionId
  assessment_found : assessmentOf s data.assessmentId = .ok assessment
  assessment_hash : data.expectedAssessmentHash = assessment.assessmentHash
  assessment_content : assessment.contentId = data.contentId
  assessment_version : assessment.contentVersionId = data.contentVersionId
  assessment_content_hash : assessment.contentHash = data.contentHash
  eligible : assertAssessmentApprovalEligible s assessment = .ok ()
  config_found : configOf s assessment.qualityConfigId = .ok config
  config_hash : config.configHash = assessment.qualityConfigHash
  stages_nonempty : config.approvalStages ≠ []
  approvers_active : requireActive request (stageApprovers config.approvalStages) = .ok ()

section Create

variable [QualityHash]

def newRequest (request : Request) (id : Uuid) (content : ContentVersionSnapshot)
    (assessment : QualityAssessment) (config : WorkspaceQualityConfig)
    (supersedesRequestId : Option Uuid) : ApprovalRequest where
  id := id
  contentId := content.contentId
  contentVersionId := content.contentVersionId
  contentHash := content.contentHash
  assessmentId := assessment.id
  assessmentHash := assessment.assessmentHash
  qualityConfigId := config.id
  qualityConfigHash := config.configHash
  approvalStagesSnapshot := config.approvalStages
  approvalStagesHash := QualityHash.stages config.approvalStages
  status := .pending
  stageDueAt := config.approvalStages.head?.bind (stageDueAt request.now)
  supersedesRequestId := supersedesRequestId
  requestedBy := request.principal.subjectId
  requestedAt := request.now

def createApprovalRequest (request : Request) (data : ApprovalRequestCreate) (s : Store) :
    Result (ApprovalRequest × Store) := do
  let content ← exactContent s data.contentId data.contentVersionId data.contentHash true
  let assessment ← assessmentOf s data.assessmentId
  assertHash "quality_assessment" data.expectedAssessmentHash assessment.assessmentHash
  if assessment.contentId ≠ content.contentId ∨ assessment.contentVersionId ≠ content.contentVersionId ∨
      assessment.contentHash ≠ content.contentHash then
    .error (.app {
      code := "APPROVAL_ASSESSMENT_CONTENT_MISMATCH"
      message := "품질 평가가 승인 대상 콘텐츠 버전과 일치하지 않습니다."
      statusCode := 422 })
  else do
    assertAssessmentApprovalEligible s assessment
    let config ← configOf s assessment.qualityConfigId
    if config.configHash ≠ assessment.qualityConfigHash then
      .error (.app {
        code := "APPROVAL_CONFIG_SNAPSHOT_MISMATCH"
        message := "평가의 품질 설정 스냅샷이 저장된 버전과 일치하지 않습니다."
        statusCode := 409 })
    else if config.approvalStages = [] then
      .error (.app {
        code := "APPROVAL_STAGES_REQUIRED"
        message := "승인 요청에는 한 개 이상의 승인 단계가 필요합니다."
        statusCode := 409 })
    else do
      requireActive request (stageApprovers config.approvalStages)
      let s ← supersede request content.contentId data.supersedesRequestId s
      let row := newRequest request s.nextId content assessment config data.supersedesRequestId
      let s ← insertRequest row s
      .ok (row, s)

theorem createApprovalRequest_ok {data : ApprovalRequestCreate}
    (h : createApprovalRequest request data s = .ok (row, after)) :
    ∃ content version assessment config middle,
      Requested request data s content version assessment config ∧
        supersede request data.contentId data.supersedesRequestId s = .ok middle ∧
        row = newRequest request middle.nextId
          ⟨data.contentId, data.contentVersionId, data.contentHash, content.currentVersionId⟩
          assessment config data.supersedesRequestId ∧
        insertRequest row middle = .ok after := by
  unfold createApprovalRequest at h
  obtain ⟨snapshot, hexact, h⟩ := bind_ok h
  obtain ⟨content, version, hcontent, hversion, hhash, rfl, hcurrent⟩ := exactContent_ok hexact
  obtain ⟨assessment, hassessment, h⟩ := bind_ok h
  obtain ⟨⟨⟩, hassert, h⟩ := bind_ok h
  split_ifs at h with hmatch
  simp only [not_or, not_not] at hmatch
  obtain ⟨⟨⟩, heligible, h⟩ := bind_ok h
  obtain ⟨config, hconfig, h⟩ := bind_ok h
  split_ifs at h with hconfigHash hstages
  obtain ⟨⟨⟩, hactive, h⟩ := bind_ok h
  obtain ⟨middle, hsupersede, h⟩ := bind_ok h
  obtain ⟨final, hinsert, h⟩ := bind_ok h
  cases h
  refine ⟨content, version, assessment, config, middle, ?_, hsupersede, rfl, hinsert⟩
  exact {
    content_live := hcontent
    version_found := hversion
    version_hash := hhash
    version_current := hcurrent rfl
    assessment_found := hassessment
    assessment_hash := assertHash_ok.mp hassert
    assessment_content := hmatch.1
    assessment_version := hmatch.2.1
    assessment_content_hash := hmatch.2.2
    eligible := heligible
    config_found := hconfig
    config_hash := not_not.mp hconfigHash
    stages_nonempty := hstages
    approvers_active := hactive }

end Create

structure ApprovalDecisionCreate where
  expectedLockVersion : Nat
  expectedContentVersionId : Uuid
  expectedContentHash : String
  decision : ApprovalDecisionKind
  comment : Option String := none
  lock_positive : 1 ≤ expectedLockVersion
  negative_has_reason : decision ≠ .approve → comment.getD "" ≠ ""
deriving Repr

def stageOf (row : ApprovalRequest) : Result ApprovalStageConfig :=
  match row.approvalStagesSnapshot[row.currentStageIndex]? with
  | some stage => .ok stage
  | none =>
    .error (.app {
      code := "APPROVAL_STAGE_INVALID"
      message := "현재 승인 단계 스냅샷이 올바르지 않습니다."
      statusCode := 409 })

def mfaMethods : List String := ["mfa", "totp", "totp_or_recovery", "webauthn"]

def assertApprover (principal : Principal) (stage : ApprovalStageConfig) : Result Unit :=
  if stage.approverUserIds ≠ [] ∧ principal.subjectId ∉ stage.approverUserIds then
    .error (.app {
      code := "APPROVER_NOT_ASSIGNED"
      message := "현재 단계의 승인자로 지정되지 않았습니다."
      statusCode := 403 })
  else if stage.requireMfa ∧ ∀ method ∈ principal.authenticationMethods, method ∉ mfaMethods then
    .error (.app {
      code := "APPROVAL_MFA_REQUIRED"
      message := "현재 승인 단계에는 다중 인증이 필요합니다."
      statusCode := 403 })
  else .ok ()

def stageApprovals (s : Store) (requestId : Uuid) (stageKey : String) : List ApprovalDecision :=
  s.decisions.filter fun decision => decision.approvalRequestId = requestId &&
    decision.stageKey = stageKey && decision.decision = .approve

def priorActors (s : Store) (requestId : Uuid) (stageKey : String) : List Uuid :=
  (stageApprovals s requestId stageKey).map (·.decidedBy)

def stageQuorum (s : Store) (principal : Principal) (row : ApprovalRequest)
    (stage : ApprovalStageConfig) : Result Bool :=
  let prior := priorActors s row.id stage.key
  if principal.subjectId ∈ prior then
    .error (.app {
      code := "APPROVAL_DECISION_DUPLICATE"
      message := "현재 단계에 이미 결정을 기록했습니다."
      statusCode := 409 })
  else approvalQuorumReached prior principal.subjectId stage.requiredApprovals

def approvalTransition (decision : ApprovalDecisionKind) (quorum finalStage : Bool)
    (row : ApprovalRequest) : Result ApprovalRequestStatus :=
  match transitionApproval row.status decision quorum finalStage with
  | some status => .ok status
  | none =>
    .error (.app {
      code := "APPROVAL_TRANSITION_INVALID"
      message := "현재 상태에서는 요청한 승인 결정을 적용할 수 없습니다."
      statusCode := 409 })

def isFinalStage (row : ApprovalRequest) : Bool :=
  row.currentStageIndex = row.approvalStagesSnapshot.length - 1

def advanceStage (now : Int) (decision : ApprovalDecisionKind) (quorum : Bool)
    (row : ApprovalRequest) : ApprovalRequest :=
  if decision = .approve ∧ quorum ∧ ¬ isFinalStage row then
    { row with
      currentStageIndex := row.currentStageIndex + 1
      stageDueAt := row.approvalStagesSnapshot[row.currentStageIndex + 1]?.bind (stageDueAt now) }
  else row

def decideRequest (request : Request) (decision : ApprovalDecisionKind) (quorum : Bool)
    (newStatus : ApprovalRequestStatus) (row : ApprovalRequest) : ApprovalRequest :=
  let row := { advanceStage request.now decision quorum row with status := newStatus }
  if newStatus = .approved then
    { row with
      approvedBy := some request.principal.subjectId
      approvedAt := some request.now
      approvedContentVersionId := some row.contentVersionId
      approvedContentHash := some row.contentHash
      stageDueAt := none }
  else if newStatus = .rejected ∨ newStatus = .changesRequested then
    { row with stageDueAt := none }
  else row

/-- `stage_index` is computed from the index after the decision moved it. -/
def newDecision (request : Request) (id : Uuid) (data : ApprovalDecisionCreate) (stage : ApprovalStageConfig)
    (quorum : Bool) (newStatus : ApprovalRequestStatus) (row : ApprovalRequest) : ApprovalDecision where
  id := id
  approvalRequestId := row.id
  contentVersionId := row.contentVersionId
  contentHash := row.contentHash
  stageKey := stage.key
  stageIndex := let after := (advanceStage request.now data.decision quorum row).currentStageIndex
    if !quorum then after
    else if data.decision = .approve ∧ ¬ isFinalStage row then after - 1
    else after
  decision := data.decision
  fromStatus := row.status
  toStatus := newStatus
  comment := data.comment
  authenticationMethods := request.principal.authenticationMethods
  decidedBy := request.principal.subjectId
  decidedAt := request.now

/-- The unique constraint `approval_decision_actor_stage`. -/
def insertDecision (row : ApprovalDecision) (s : Store) : Result Store :=
  if s.decisions.any fun other => other.approvalRequestId = row.approvalRequestId &&
      other.stageKey = row.stageKey && other.decidedBy = row.decidedBy then
    .error (qualityConflict "approval_decision")
  else .ok { s with decisions := s.decisions ++ [row], nextId := s.nextId + 1 }

def expireRequest (row : ApprovalRequest) : ApprovalRequest := { row with status := .expired }

/-- The part of `decide_approval_request` that records a decision in the current stage. -/
def recordDecision (request : Request) (data : ApprovalDecisionCreate) (row : ApprovalRequest)
    (s : Store) : Result (Option ApprovalDecision × Store) := do
  let stage ← stageOf row
  assertApprover request.principal stage
  let quorum ← stageQuorum s request.principal row stage
  let newStatus ← approvalTransition data.decision quorum (isFinalStage row) row
  let decision := newDecision request s.nextId data stage quorum newStatus row
  let s ← insertDecision decision s
  .ok (some decision, s.updateRequest row.id (decideRequest request data.decision quorum newStatus))

def decideApprovalRequest (request : Request) (requestId : Uuid) (data : ApprovalDecisionCreate)
    (s : Store) : Result (Option ApprovalDecision × Store) := do
  let row ← approvalRequestOf s requestId
  assertLock "approval_request" data.expectedLockVersion row.lockVersion
  if row.contentVersionId ≠ data.expectedContentVersionId ∨
      row.contentHash ≠ data.expectedContentHash then
    .error (.app {
      code := "APPROVAL_CONTENT_SNAPSHOT_CONFLICT"
      message := "승인 요청의 콘텐츠 버전 또는 해시가 변경되었습니다."
      statusCode := 409 })
  else if row.status ≠ .pending then
    .error (.app {
      code := "APPROVAL_REQUEST_NOT_PENDING"
      message := "승인 대기 중인 요청에만 결정을 기록할 수 있습니다."
      statusCode := 409 })
  else do
    let actual ← current s row.contentId
    if !exactContentVersionMatches row.contentVersionId row.contentHash
        actual.contentVersionId actual.contentHash then
      .ok (none, s.updateRequest row.id (invalidateRequest request "콘텐츠 편집으로 승인 대상 버전 또는 해시가 변경됨"))
    else if row.stageDueAt.any (· < request.now) then
      .ok (none, s.updateRequest row.id expireRequest)
    else recordDecision request data row s

/-- A decision recorded in the current stage of a pending request. -/
structure Decided (request : Request) (data : ApprovalDecisionCreate) (s : Store)
    (row : ApprovalRequest) (stage : ApprovalStageConfig) (quorum : Bool)
    (newStatus : ApprovalRequestStatus) : Prop where
  row_found : row ∈ s.requests
  pending : row.status = .pending
  in_time : ∀ due ∈ row.stageDueAt, request.now ≤ due
  stage_found : row.approvalStagesSnapshot[row.currentStageIndex]? = some stage
  approver : assertApprover request.principal stage = .ok ()
  not_prior : request.principal.subjectId ∉ priorActors s row.id stage.key
  quorum_eq : quorum = decide (stage.requiredApprovals ≤
    (request.principal.subjectId :: priorActors s row.id stage.key).dedup.length)
  status_eq : transitionApproval .pending data.decision quorum (isFinalStage row) = some newStatus

theorem stageOf_ok {stage : ApprovalStageConfig} (h : stageOf row = .ok stage) :
    row.approvalStagesSnapshot[row.currentStageIndex]? = some stage := by
  unfold stageOf at h
  split at h
  · rename_i found hfound
    cases h
    exact hfound
  · cases h

theorem stageQuorum_ok {principal : Principal} {stage : ApprovalStageConfig} {quorum : Bool}
    (h : stageQuorum s principal row stage = .ok quorum) :
    principal.subjectId ∉ priorActors s row.id stage.key ∧ quorum = decide (stage.requiredApprovals ≤
        (principal.subjectId :: priorActors s row.id stage.key).dedup.length) := by
  unfold stageQuorum approvalQuorumReached at h
  dsimp only at h
  split_ifs at h with hprior hpositive
  cases h
  exact ⟨hprior, rfl⟩

section

variable {data : ApprovalDecisionCreate} {recorded : Option ApprovalDecision}

theorem recordDecision_ok (hrow : row ∈ s.requests) (hpending : row.status = .pending)
    (hdue : ∀ due ∈ row.stageDueAt, request.now ≤ due)
    (h : recordDecision request data row s = .ok (recorded, after)) :
    ∃ stage quorum newStatus, Decided request data s row stage quorum newStatus ∧
      recorded = some (newDecision request s.nextId data stage quorum newStatus row) ∧
      after = ({ s with
        decisions := s.decisions ++ [newDecision request s.nextId data stage quorum newStatus row]
        nextId := s.nextId + 1 } : Store).updateRequest row.id
          (decideRequest request data.decision quorum newStatus) := by
  unfold recordDecision at h
  obtain ⟨stage, hstage, h⟩ := bind_ok h
  obtain ⟨⟨⟩, happrover, h⟩ := bind_ok h
  obtain ⟨quorum, hquorum, h⟩ := bind_ok h
  obtain ⟨newStatus, hstatus, h⟩ := bind_ok h
  obtain ⟨grown, hinsert, h⟩ := bind_ok h
  obtain ⟨hprior, hquorum⟩ := stageQuorum_ok hquorum
  unfold insertDecision at hinsert
  split_ifs at hinsert
  cases hinsert
  cases h
  refine ⟨stage, quorum, newStatus, ?_, rfl, rfl⟩
  refine ⟨hrow, hpending, hdue, stageOf_ok hstage, happrover, hprior, hquorum, ?_⟩
  unfold approvalTransition at hstatus
  rw [hpending] at hstatus
  split at hstatus
  · rename_i status heq
    cases hstatus
    exact heq
  · cases hstatus

/-- A call that is not refused finds the request pending. It takes the request back when its
content moved on, lets it expire after the due time of the stage, or records a decision. -/
theorem decideApprovalRequest_ok {requestId : Uuid}
    (h : decideApprovalRequest request requestId data s = .ok (recorded, after)) :
    ∃ row ∈ s.requests, row.id = requestId ∧ row.status = .pending ∧
      ((recorded = none ∧ ∃ reason, after = s.updateRequest row.id (invalidateRequest request reason)) ∨
        (recorded = none ∧ after = s.updateRequest row.id expireRequest) ∨
        ∃ stage quorum newStatus, Decided request data s row stage quorum newStatus ∧
          recorded = some (newDecision request s.nextId data stage quorum newStatus row) ∧
          after = ({ s with
            decisions := s.decisions ++ [newDecision request s.nextId data stage quorum newStatus row]
            nextId := s.nextId + 1 } : Store).updateRequest row.id
              (decideRequest request data.decision quorum newStatus)) := by
  unfold decideApprovalRequest at h
  obtain ⟨row, hrow, h⟩ := bind_ok h
  obtain ⟨hmem, hid⟩ := approvalRequestOf_ok hrow
  obtain ⟨⟨⟩, _, h⟩ := bind_ok h
  split_ifs at h with hsnapshot hstatus hdue <;> rw [not_not] at hstatus <;>
    refine ⟨row, hmem, hid, hstatus, ?_⟩ <;> obtain ⟨actual, _, h⟩ := bind_ok h <;>
    split_ifs at h
  · cases h
    exact .inl ⟨rfl, _, rfl⟩
  · cases h
    exact .inr (.inl ⟨rfl, rfl⟩)
  · cases h
    exact .inl ⟨rfl, _, rfl⟩
  · refine .inr (.inr (recordDecision_ok hmem hstatus ?_ h))
    intro due hmemdue
    rw [Option.mem_def.mp hmemdue] at hdue
    simpa using hdue

end

end BlogOps.Quality
