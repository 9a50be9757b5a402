import BlogOps.PlanningRows

/-!
# Brief requests

The brief operations of the planning service.  A version takes its approval
stages from the payload or from the workspace policy; a decision is counted by
the key of the stage it was made at, over all rounds of a version.  Every
operation ends with a read of the brief, which raises after an `UPDATE` of the row.
-/

namespace BlogOps.Planning

open Billing (PolicyValue PolicyFields)
open KeyedTables

def inactiveMembers (missing : List Uuid) : Failure :=
  planningError "ASSIGNEE_NOT_ACTIVE_MEMBER" "담당자는 현재 워크스페이스의 활성 멤버여야 합니다." 422
    (missing.map fun userId => ⟨"assignees", toString userId⟩)

def briefIdeaMismatch : Failure :=
  planningError "BRIEF_IDEA_CAMPAIGN_MISMATCH" "브리프와 아이디어의 캠페인이 일치하지 않습니다." 422

def briefTopicMismatch : Failure :=
  planningError "BRIEF_TOPIC_CAMPAIGN_MISMATCH" "브리프와 토픽의 캠페인이 일치하지 않습니다." 422

def assignmentDuplicate : Failure :=
  planningError "ASSIGNMENT_DUPLICATE" "같은 단계와 사용자의 담당자 지정이 중복되었습니다." 422

def approvalPolicyInvalid (index : Nat) (reason : String) : Failure :=
  planningError "WORKSPACE_APPROVAL_POLICY_INVALID" "워크스페이스 승인 정책의 단계 구성이 올바르지 않습니다." 409
    [⟨"approval_policy.stages." ++ toString index, reason⟩]

def versionStateInvalid : Failure := planningError "BRIEF_VERSION_STATE_INVALID"
    "초안 또는 수정 요청 상태에서만 새 버전을 만들 수 있습니다." 409

def versionRequired (message : String) : Failure := planningError "BRIEF_VERSION_REQUIRED" message 409

def versionNotFound : Failure := planningError "BRIEF_VERSION_NOT_FOUND" "현재 브리프 버전을 찾을 수 없습니다." 409

def BriefStatus.value : BriefStatus → String
  | .draft => "DRAFT"
  | .waitingReview => "WAITING_REVIEW"
  | .revisionRequested => "REVISION_REQUESTED"
  | .approved => "APPROVED"
  | .rejected => "REJECTED"
  | .scheduled => "SCHEDULED"
  | .archived => "ARCHIVED"

def BriefEvent.value : BriefEvent → String
  | .submit => "SUBMIT"
  | .requestChanges => "REQUEST_CHANGES"
  | .approveStage => "APPROVE_STAGE"
  | .approveFinal => "APPROVE_FINAL"
  | .reject => "REJECT"
  | .revise => "REVISE"
  | .schedule => "SCHEDULE"
  | .unschedule => "UNSCHEDULE"
  | .archive => "ARCHIVE"

def transitionError (current : BriefStatus) (event : BriefEvent) : Failure :=
  planningError "BRIEF_TRANSITION_INVALID" "현재 상태에서는 요청한 브리프 상태 변경을 수행할 수 없습니다." 409
    [⟨"current_status", current.value⟩, ⟨"event", event.value⟩]

def notWaitingReview : Failure := planningError "BRIEF_NOT_WAITING_REVIEW"
    "검토 대기 상태의 브리프만 승인 또는 반려할 수 있습니다." 409

def stageInvalid : Failure := planningError "BRIEF_APPROVAL_STAGE_INVALID" "현재 승인 단계 구성이 올바르지 않습니다." 409

def approverNotAllowed : Failure :=
  planningError "BRIEF_APPROVER_NOT_ALLOWED" "현재 단계의 승인자로 지정되지 않았습니다." 403

def approvalMfaRequired : Failure :=
  planningError "BRIEF_APPROVAL_MFA_REQUIRED" "현재 승인 단계에는 다중 인증이 필요합니다." 403

def approvalDuplicate : Failure := planningError "BRIEF_APPROVAL_DUPLICATE" "같은 버전과 단계에 이미 승인했습니다." 409

def findRow {α : Type} (rows : List α) (key : α → Uuid) (id : Uuid) (missing : Failure) : Except Failure α :=
  match rows.find? (key · = id) with
  | some row => .ok row
  | none => .error missing

variable (s : PlanningDesk)

def briefOf (id : Uuid) : Except Failure ContentBrief :=
  findRow s.briefs (·.id) id (notFoundError "CONTENT_BRIEF" "콘텐츠 브리프")

def campaignOf (id : Uuid) : Except Failure Campaign :=
  findRow s.catalogue.campaigns (·.id) id (notFoundError "CAMPAIGN" "캠페인")

def ideaOf (id : Uuid) : Except Failure ContentIdea :=
  findRow s.catalogue.ideas (·.id) id (notFoundError "CONTENT_IDEA" "콘텐츠 아이디어")

/-- `_brief_read` of a row that the session loaded or inserted as `loaded`.  An `UPDATE` expires
`updated_at`, which the database computes, and loading it on access raises in an async session. -/
def briefRead (loaded brief : ContentBrief) (after : PlanningDesk) : Except Failure PlanningDesk :=
  if brief = loaded then .ok after else .error (.integrity "MissingGreenlet")

/-- A lookup of an optional reference. -/
def optional {α : Type} (find : Uuid → Except Failure α) : Option Uuid → Except Failure (Option α)
  | none => .ok none
  | some id => (find id).map some

variable (brief : ContentBrief)

/-- `_brief_version` of the current version. -/
def briefVersion : Except Failure (Option BriefVersion) :=
  match brief.currentVersionId with
  | none => .ok none
  | some versionId =>
    match s.versions.find? fun version => version.id = versionId ∧ version.briefId = brief.id with
    | some version => .ok (some version)
    | none => .error versionNotFound

def requiredVersion (message : String) : Except Failure BriefVersion := do
  match ← briefVersion s brief with
  | some version => .ok version
  | none => .error (versionRequired message)

variable (env : PlanningEnv)

def requireActive (userIds : List Uuid) : Except Failure Unit :=
  let missing := (userIds.dedup.filter fun userId => ¬ env.isActive userId).mergeSort
  require (missing = []) (inactiveMembers missing)

section Readers

variable [PlanningReaders]

open PlanningReaders (truthy)

def policyGet (fields : PolicyFields) (key : String) (default : PolicyValue) : PolicyValue :=
  (List.lookup key fields).getD default

/-- `value or default`. -/
def orElse (value default : PolicyValue) : PolicyValue := if truthy value then value else default

def normalizedStage (index : Nat) (raw : PolicyFields) : PolicyFields :=
  [("key", orElse (policyGet raw "key" .null) (.text ("stage-" ++ toString (index + 1)))),
    ("name", orElse (orElse (policyGet raw "name" .null) (policyGet raw "label" .null))
      (.text ("승인 " ++ toString (index + 1)))),
    ("required_approvals", policyGet raw "required_approvals" (policyGet raw "required" (.int 1))),
    ("approver_user_ids", policyGet raw "approver_user_ids" (policyGet raw "approvers" (.list []))),
    ("require_mfa", policyGet raw "require_mfa" (.bool false))]

/-- The stages of a policy from the given position on; what is no object is skipped. -/
def policyStages (index : Nat) : List PolicyValue → Except Failure (List ApprovalStage)
  | [] => .ok []
  | .object raw :: rest =>
    match PlanningReaders.stage (normalizedStage index raw) with
    | .error reason => .error (approvalPolicyInvalid index reason)
    | .ok stage => (policyStages (index + 1) rest).map (stage :: ·)
  | _ :: rest => policyStages (index + 1) rest

def rawStages (policy : PolicyFields) : List PolicyValue :=
  match policyGet policy "stages" (policyGet policy "approval_stages" (.list [])) with
  | .list items => items
  | _ => []

def finalStage : ApprovalStage where
  key := "final"
  name := "최종 승인"
  required_pos := le_rfl
  required_le := by decide

def workspaceStages (policy : PolicyFields) : Except Failure (List ApprovalStage) :=
  (policyStages 0 (rawStages policy)).map fun stages =>
    if stages = [] then [finalStage] else stages

def chosenStages (payload : BriefPayload) (policy : WorkspacePolicySnapshot) :
    Except Failure (List ApprovalStage) :=
  if payload.approvalStages ≠ [] then .ok payload.approvalStages
  else workspaceStages policy.approvalPolicy

def approvalStages (env : PlanningEnv) (payload : BriefPayload)
    (policy : WorkspacePolicySnapshot) : Except Failure (List ApprovalStage) := do
  let stages ← chosenStages payload policy
  requireActive env (stages.flatMap (·.approverUserIds))
  .ok stages

def newBriefVersion (id briefId : Uuid) (versionNumber : Nat) (payload : BriefPayload) (resolved : String)
    (policy : WorkspacePolicySnapshot) (stages : List ApprovalStage) : BriefVersion where
  id := id
  briefId := briefId
  versionNumber := versionNumber
  title := payload.title
  approvalStages := stages
  channel := payload.channel
  language := payload.language
  snapshotHash := PlanningReaders.snapshotHash versionNumber payload resolved policy stages

variable (s : PlanningDesk)

/-- The flush of a brief: an idea has one brief. -/
def insertBrief (brief : ContentBrief) : Except Failure PlanningDesk :=
  if brief.ideaId ≠ none ∧ s.briefs.any fun other => other.ideaId = brief.ideaId then
    .error (planningConflict "content_brief")
  else .ok { s with briefs := s.briefs ++ [brief] }

/-- The flush of a version: number and snapshot hash are unique in its brief. -/
def insertVersion (version : BriefVersion) : Except Failure PlanningDesk :=
  if s.versions.any fun other => other.briefId = version.briefId ∧
      (other.versionNumber = version.versionNumber ∨ other.snapshotHash = version.snapshotHash) then
    .error (planningConflict "content_brief_version")
  else .ok { s with versions := s.versions ++ [version] }

def assignmentsUnique (assignments : List AssignmentInput) : Except Failure Unit :=
  require (assignments.map fun item => (item.stage, item.userId)).Nodup assignmentDuplicate

def briefIdea (data : BriefCreate) : Except Failure Unit :=
  match data.ideaId with
  | none => .ok ()
  | some ideaId => do
    let idea ← ideaOf s ideaId
    if idea.status = .dismissed then .error (inactiveError "콘텐츠 아이디어")
    else
      require (data.campaignId = none ∨ idea.campaignId = none ∨ idea.campaignId = data.campaignId)
        briefIdeaMismatch

def briefTopic (data : BriefCreate) : Except Failure Unit :=
  match data.topicNodeId with
  | none => .ok ()
  | some topicId => do
    let topic ← topicNode s.catalogue.topicNodes topicId
    require (data.campaignId = none ∨ topic.campaignId = none ∨ topic.campaignId = data.campaignId)
      briefTopicMismatch

def boardColumn (data : BriefCreate) : Except Failure Unit :=
  match data.boardColumnId with
  | none => .ok ()
  | some columnId =>
    require (columnId ∈ s.catalogue.boardColumns) (notFoundError "BOARD_COLUMN" "보드 상태")

/-- The checks of `create_brief` on what the brief refers to. -/
def briefReferences (env : PlanningEnv) (data : BriefCreate) : Except Failure Unit := do
  let _ ← optional (campaignOf s) data.campaignId
  briefIdea s data
  briefTopic s data
  boardColumn s data
  requireActive env (data.assignments.map (·.userId))

def promoteIdea (ideaId : Option Uuid) : PlanningDesk :=
  match ideaId with
  | none => s
  | some id => { s with catalogue := { s.catalogue with
      ideas := updateRow (·.id) id ({ · with status := .promoted }) s.catalogue.ideas } }

def createBrief (env : PlanningEnv) (data : BriefCreate) : Except Failure PlanningDesk := do
  briefReferences s env data
  let policy ← env.policy
  let resolved ← env.resolved
  let stages ← approvalStages env data.payload policy
  let version := newBriefVersion (s.nextId + 1) s.nextId 1 data.payload resolved policy stages
  let inserted : ContentBrief := {
    id := s.nextId
    campaignId := data.campaignId
    ideaId := data.ideaId }
  let brief := { inserted with currentVersionId := some version.id }
  let added ← insertBrief s inserted
  let after ← insertVersion added version
  assignmentsUnique data.assignments
  briefRead inserted brief (promoteIdea { after with
    briefs := updateRow (·.id) brief.id (fun _ => brief) after.briefs
    nextId := s.nextId + 2 } data.ideaId)

def latestVersionNumber (briefId : Uuid) : Nat :=
  ((s.versions.filter (·.briefId = briefId)).map (·.versionNumber)).foldr max 0

def versionAssignees (env : PlanningEnv) (data : BriefVersionCreate) : Except Failure Unit :=
  match data.assignments with
  | none => .ok ()
  | some assignments => requireActive env (assignments.map (·.userId))

def createBriefVersion (env : PlanningEnv) (briefId : Uuid) (data : BriefVersionCreate) :
    Except Failure PlanningDesk := do
  let brief ← briefOf s briefId
  assertLock "content_brief" data.expectedLockVersion (env.lockVersionOf brief.id)
  require (brief.status ∈ [.draft, .revisionRequested, .rejected]) versionStateInvalid
  versionAssignees env data
  let policy ← env.policy
  let resolved ← env.resolved
  let stages ← approvalStages env data.payload policy
  let version := newBriefVersion s.nextId brief.id (latestVersionNumber s brief.id + 1)
    data.payload resolved policy stages
  let after ← insertVersion s version
  assignmentsUnique (data.assignments.getD [])
  let updated := { brief with
    currentVersionId := some version.id
    status := .draft
    approvalStageIndex := 0 }
  briefRead brief updated { after with
    briefs := updateRow (·.id) brief.id (fun _ => updated) after.briefs
    nextId := s.nextId + 1 }

end Readers

def transitionBrief (briefId : Uuid) (data : BriefTransitionRequest) (event : BriefEvent) :
    Except Failure PlanningDesk := do
  let brief ← briefOf s briefId
  assertLock "content_brief" data.expectedLockVersion (env.lockVersionOf brief.id)
  let _ ← requiredVersion s brief "브리프 상태를 변경하려면 현재 버전이 필요합니다."
  match transitionBriefStatus brief.status event with
  | none => .error (transitionError brief.status event)
  | some status =>
    let updated := { brief with
      status := status
      approvalStageIndex := if event = .submit ∨ event = .revise then 0 else brief.approvalStageIndex }
    briefRead brief updated { s with briefs := updateRow (·.id) brief.id (fun _ => updated) s.briefs }

variable (version : BriefVersion)

def approvalsAt (stageKey : String) : List BriefDecision :=
  s.decisions.filter fun row => row.briefId = brief.id ∧ row.briefVersionId = version.id ∧
    row.stageKey = stageKey ∧ row.decision = .approve

def currentStage : Except Failure ApprovalStage :=
  match version.approvalStages[brief.approvalStageIndex]? with
  | some stage => .ok stage
  | none => .error stageInvalid

def mfaMethods : List String := ["mfa", "totp", "webauthn"]

/-- The checks on the person who decides. -/
def assertApprover (brief : ContentBrief) (version : BriefVersion) (stage : ApprovalStage)
    (decision : DecisionKind) : Except Failure Unit := do
  require (stage.approverUserIds = [] ∨ env.principal.subjectId ∈ stage.approverUserIds) approverNotAllowed
  require (stage.requireMfa = false ∨ env.principal.authenticationMethod ∈ mfaMethods) approvalMfaRequired
  require (decision ≠ .approve ∨ env.principal.subjectId ∉
    (approvalsAt s brief version stage.key).map (·.decidedBy)) approvalDuplicate

/-- The event of a decision and the stage index it leaves. -/
def decisionEvent (stage : ApprovalStage) : DecisionKind → BriefEvent × Nat
  | .requestChanges => (.requestChanges, 0)
  | .reject => (.reject, 0)
  | .approve =>
    let priorApprovals := (approvalsAt s brief version stage.key).length
    let stageComplete := stage.requiredApprovals ≤ priorApprovals + 1
    let finalStage := brief.approvalStageIndex = version.approvalStages.length - 1
    if stageComplete ∧ finalStage then (.approveFinal, brief.approvalStageIndex)
    else if stageComplete then (.approveStage, brief.approvalStageIndex + 1)
    else (.approveStage, brief.approvalStageIndex)

def decideBrief (briefId : Uuid) (data : BriefDecisionRequest) : Except Failure PlanningDesk := do
  let brief ← briefOf s briefId
  assertLock "content_brief" data.expectedLockVersion (env.lockVersionOf brief.id)
  require (brief.status = .waitingReview) notWaitingReview
  let version ← requiredVersion s brief "승인할 브리프 버전이 없습니다."
  let stage ← currentStage brief version
  assertApprover s env brief version stage data.decision
  let outcome := decisionEvent s brief version stage data.decision
  match transitionBriefStatus brief.status outcome.1 with
  | none => .error .validationError
  | some status =>
    let updated := { brief with status := status, approvalStageIndex := outcome.2 }
    briefRead brief updated { s with
      briefs := updateRow (·.id) brief.id (fun _ => updated) s.briefs
      decisions := s.decisions ++ [{
        id := s.nextId
        briefId := brief.id
        briefVersionId := version.id
        stageKey := stage.key
        decision := data.decision
        fromStatus := brief.status
        toStatus := status
        comment := data.comment
        decidedBy := env.principal.subjectId }]
      nextId := s.nextId + 1 }

end BlogOps.Planning
