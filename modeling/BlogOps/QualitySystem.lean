import BlogOps.ContentEdits
import BlogOps.QualityEvidence
import BlogOps.TransitionRuns

/-!
# Runs of the content and quality services

Every committed transaction of both services is one action; a call that raises
rolls back.  `Change` says once what an action can do to the store, and the
invariants are read off it.
-/

namespace BlogOps.Quality

open KeyedTables TransitionRuns

inductive Action where
  | createContent (request : Request) (data : ContentCreate)
  | createVersion (request : Request) (contentId : Uuid) (data : ContentVersionCreate)
  | restoreVersion (request : Request) (contentId sourceVersionId : Uuid)
      (data : RestoreVersionRequest)
  | finalizeForReview (request : Request) (job : ReviewedJob) (title : String)
      (blocks : List ContentBlockInput)
  | updateContent (request : Request) (contentId : Uuid) (data : ContentUpdate)
  | softDeleteContent (request : Request) (contentId : Uuid)
  | createQualityConfig (request : Request) (data : QualityConfigCreate)
  | createReport (request : Request) (kind : ReportKind) (data : ReportCreate)
      (rules : Except AppError String)
  | createAssessment (request : Request) (data : QualityAssessmentCreate)
  | createPolicyOverride (request : Request) (eventId : Uuid) (data : PolicyOverrideCreate)
  | createApprovalRequest (request : Request) (data : ApprovalRequestCreate)
  | decideApprovalRequest (request : Request) (requestId : Uuid) (data : ApprovalDecisionCreate)
  | invalidateApprovalsAfterEdit (request : Request) (contentId : Uuid)
      (data : ApprovalInvalidationCreate)

section System

variable [QualityHash]

def perform (s : Store) : Action → Result Store
  | .createContent request data => (createContent request data s).map (·.2)
  | .createVersion request contentId data => (createVersion request contentId data s).map (·.2)
  | .restoreVersion request contentId sourceVersionId data =>
    (restoreVersion request contentId sourceVersionId data s).map (·.2)
  | .finalizeForReview request job title blocks =>
    (finalizeForReview request job title blocks s).map (·.2)
  | .updateContent request contentId data => updateContent request contentId data s
  | .softDeleteContent request contentId => softDeleteContent request contentId s
  | .createQualityConfig request data => (createQualityConfig request data s).map (·.2)
  | .createReport request kind data rules => (createReport request kind data rules s).map (·.2)
  | .createAssessment request data => (createAssessment request data s).map (·.2)
  | .createPolicyOverride request eventId data =>
    (createPolicyOverride request eventId data s).map (·.2)
  | .createApprovalRequest request data => (createApprovalRequest request data s).map (·.2)
  | .decideApprovalRequest request requestId data =>
    (decideApprovalRequest request requestId data s).map (·.2)
  | .invalidateApprovalsAfterEdit request contentId data =>
    invalidateApprovalsAfterEdit request contentId data s

def step (s : Store) (action : Action) : Store :=
  match perform s action with
  | .ok after => after
  | .error _ => s

variable {action : Action} {after s : Store}

theorem step_of_ok (h : perform s action = .ok after) : step s action = after := by
  unfold step
  rw [h]

/-- The evidence tables only grow, by rows with new ids. -/
inductive EvidenceChange (s : Store) : Store → Prop where
  | config (request : Request) (data : QualityConfigCreate) (version : Nat)
      (hnew : ∀ other ∈ s.configs, other.configHash ≠ QualityHash.config version data) :
      EvidenceChange s { s with
        configs := s.configs ++ [newConfig request s.nextId version data]
        nextId := s.nextId + 1 }
  | report (request : Request) (content : ContentVersionSnapshot) (data : ReportCreate)
      (ruleHash policyHash : String) :
      EvidenceChange s { s with
        reports := s.reports ++ [newReport request s.nextId content data.detail.kind data ruleHash policyHash]
        policyEvents := s.policyEvents ++ newPolicyEvents request (s.nextId + 1) content
          s.nextId ruleHash policyHash ((policyInputs data).map normalizePolicyInput)
        nextId := s.nextId + 1 + (policyInputs data).length }
  | assessment (request : Request) (data : QualityAssessmentCreate) (content : ContentItem)
      (config : WorkspaceQualityConfig) (reports : List QualityReport)
      (scores : QualityComponent → ℚ) (score : QualityScoreBreakdown) (gate : QualityGateResult)
      (assessment : QualityAssessment) (after : Store)
      (hassessed : Assessed request data s content config reports scores score gate)
      (hrecord : recordAssessment request
        ⟨data.contentId, data.contentVersionId, data.contentHash, content.currentVersionId⟩
        config reports score (assessPolicy s reports) gate s = .ok (assessment, after)) :
      EvidenceChange s after
  | override (request : Request) (event : PolicyEvent) (data : PolicyOverrideCreate)
      (hevent : event ∈ s.policyEvents) (hallowed : event.overrideAllowed = true) :
      EvidenceChange s { s with
        policyOverrides := s.policyOverrides ++ [newOverride request s.nextId event data]
        nextId := s.nextId + 1 }

inductive Change (s : Store) : Action → Store → Prop where
  | stay (action : Action) : Change s action s
  | evidence (action : Action) (after : Store) (h : EvidenceChange s after) :
      Change s action after
  | contentCreated (action : Action) (content : ContentItem) (hid : content.id = s.nextId)
      (hnone : content.currentVersionId = none) :
      Change s action { s with contents := s.contents ++ [content], nextId := s.nextId + 1 }
  | documentCreated (action : Action) (content : ContentItem) (version : ContentVersion)
      (hid : content.id = s.nextId) (hversion : version.id = s.nextId + 1)
      (hof : version.contentId = content.id) :
      Change s action (({ s with
        contents := s.contents ++ [content]
        versions := s.versions ++ [version]
        nextId := s.nextId + 2 } : Store).updateContent content.id fun row =>
          { row with currentVersionId := some version.id })
  | published (action : Action) (request : Request) (content : ContentItem)
      (version : ContentVersion) (move : ContentVersion → ContentItem → ContentItem)
      (reason : String) (hcontent : content ∈ s.contents) (hid : version.id = s.nextId)
      (hof : version.contentId = content.id) (hmove : MovesTo version (move version)) :
      Change s action (published request content version move reason s)
  | edited (action : Action) (contentId : Uuid) (f : ContentItem → ContentItem)
      (hf : KeepsVersions f) : Change s action (s.updateContent contentId f)
  | contextEdited (action : Action) (request : Request) (contentId : Uuid)
      (f : ContentItem → ContentItem) (hf : KeepsVersions f) (versionId : Uuid)
      (contentHash reason : String) :
      Change s action (invalidateApprovalsForContentChange request contentId versionId
        contentHash reason true (s.updateContent contentId f))
  | invalidated (action : Action) (request : Request) (contentId versionId : Uuid)
      (contentHash reason : String) :
      Change s action (invalidateApprovalsForContentChange request contentId versionId
        contentHash reason false s)
  | requested (request : Request) (data : ApprovalRequestCreate) (content : ContentItem)
      (version : ContentVersion) (assessment : QualityAssessment)
      (config : WorkspaceQualityConfig) (middle : Store)
      (h : Requested request data s content version assessment config)
      (hmiddle : middle = s ∨ ∃ requestId, middle = s.updateRequest requestId (supersedeRequest request)) :
      Change s (.createApprovalRequest request data) { middle with
        requests := middle.requests ++ [newRequest request middle.nextId
          ⟨data.contentId, data.contentVersionId, data.contentHash, content.currentVersionId⟩
          assessment config data.supersedesRequestId]
        nextId := middle.nextId + 1 }
  | takenBack (action : Action) (request : Request) (requestId : Uuid) (reason : String) :
      Change s action (s.updateRequest requestId (invalidateRequest request reason))
  | expired (action : Action) (requestId : Uuid) :
      Change s action (s.updateRequest requestId expireRequest)
  | decided (request : Request) (data : ApprovalDecisionCreate) (row : ApprovalRequest)
      (stage : ApprovalStageConfig) (quorum : Bool) (newStatus : ApprovalRequestStatus)
      (h : Decided request data s row stage quorum newStatus) :
      Change s (.decideApprovalRequest request row.id data) (({ s with
        decisions := s.decisions ++ [newDecision request s.nextId data stage quorum newStatus row]
        nextId := s.nextId + 1 } : Store).updateRequest row.id
          (decideRequest request data.decision quorum newStatus))

theorem change_of_publish {request : Request} {contentId : Uuid} {content : ContentItem} {data : NewVersion}
    {move : ContentVersion → ContentItem → ContentItem} {reason : String} {version : ContentVersion}
    (hcontent : s.liveContent contentId = some content) (hmove : ∀ version, MovesTo version (move version))
    (h : publishVersion request content data move reason s = .ok (version, after)) :
    Change s action after := by
  obtain ⟨_, _, hversion, rfl⟩ := publishVersion_ok h
  exact .published action request content version move reason (liveContent_some hcontent).1
    (by rw [hversion]; rfl) (by rw [hversion]; rfl) (hmove version)

/-- An accepted action changes the store in one of the ways of `Change`. -/
theorem perform_change (h : perform s action = .ok after) : Change s action after := by
  cases action with
  | createContent request data =>
    obtain ⟨⟨content, grown⟩, hcreate, rfl⟩ := map_ok h
    obtain ⟨hid, hnone, rfl | ⟨version, hversion, hof, rfl⟩⟩ := createContent_ok hcreate
    · exact .contentCreated _ content hid hnone
    · exact .documentCreated _ content version hid hversion hof
  | createVersion request contentId data =>
    obtain ⟨⟨version, grown⟩, hcreate, rfl⟩ := map_ok h
    obtain ⟨content, newVersion, hcontent, _, hpublish⟩ := createVersion_ok hcreate
    exact change_of_publish hcontent (movesTo_moveToVersion _) hpublish
  | restoreVersion request contentId sourceVersionId data =>
    obtain ⟨⟨version, grown⟩, hrestore, rfl⟩ := map_ok h
    obtain ⟨content, newVersion, hcontent, hpublish⟩ := restoreVersion_ok hrestore
    exact change_of_publish hcontent (movesTo_moveToVersion _) hpublish
  | finalizeForReview request job title blocks =>
    obtain ⟨⟨version, grown⟩, hfinalize, rfl⟩ := map_ok h
    obtain ⟨content, newVersion, hcontent, _, hpublish⟩ := finalizeForReview_ok hfinalize
    refine change_of_publish hcontent (fun version => ?_) hpublish
    exact ⟨fun _ => rfl, fun _ => rfl⟩
  | updateContent request contentId data =>
    have hkeeps : KeepsVersions (applyUpdate request data) := ⟨fun _ => rfl, fun _ => rfl⟩
    obtain ⟨content, _, ⟨rfl, _⟩ | ⟨_, version, reason, _, _, rfl⟩⟩ := updateContent_ok h
    · exact .edited _ contentId _ hkeeps
    · exact .contextEdited _ request contentId _ hkeeps version.id version.contentHash reason
  | softDeleteContent request contentId =>
    rw [softDeleteContent_ok h]
    exact .edited _ contentId _ ⟨fun _ => rfl, fun _ => rfl⟩
  | createQualityConfig request data =>
    obtain ⟨⟨config, grown⟩, hcreate, rfl⟩ := map_ok h
    obtain ⟨rfl, hnew, rfl⟩ := createQualityConfig_ok hcreate
    exact .evidence _ _ (.config request data _ hnew)
  | createReport request kind data rules =>
    obtain ⟨⟨report, grown⟩, hcreate, rfl⟩ := map_ok h
    obtain ⟨content, ruleHash, policyHash, rfl, rfl, rfl⟩ := createReport_ok hcreate
    exact .evidence _ _ (.report request content data ruleHash policyHash)
  | createAssessment request data =>
    obtain ⟨⟨assessment, grown⟩, hcreate, rfl⟩ := map_ok h
    obtain ⟨content, config, reports, scores, score, gate, hassessed, hrecord⟩ :=
      createAssessment_ok hcreate
    exact .evidence _ _ (.assessment request data content config reports scores score gate
      assessment grown hassessed hrecord)
  | createPolicyOverride request eventId data =>
    obtain ⟨⟨override, grown⟩, hcreate, rfl⟩ := map_ok h
    obtain ⟨event, hevent, hallowed, rfl, rfl⟩ := createPolicyOverride_ok hcreate
    exact .evidence _ _ (.override request event data hevent hallowed)
  | createApprovalRequest request data =>
    obtain ⟨⟨row, grown⟩, hcreate, rfl⟩ := map_ok h
    obtain ⟨content, version, assessment, config, middle, hrequested, hsupersede, rfl, hinsert⟩ :=
      createApprovalRequest_ok hcreate
    rw [insertRequest_ok hinsert]
    exact .requested request data content version assessment config middle hrequested
      (supersede_ok hsupersede)
  | decideApprovalRequest request requestId data =>
    obtain ⟨⟨recorded, grown⟩, hdecide, rfl⟩ := map_ok h
    obtain ⟨row, _, rfl, _, ⟨_, reason, rfl⟩ | ⟨_, rfl⟩ |
      ⟨stage, quorum, newStatus, hdecided, _, rfl⟩⟩ := decideApprovalRequest_ok hdecide
    · exact .takenBack _ request row.id reason
    · exact .expired _ row.id
    · exact .decided request data row stage quorum newStatus hdecided
  | invalidateApprovalsAfterEdit request contentId data =>
    rw [invalidateApprovalsAfterEdit_ok h]
    exact .invalidated _ request contentId _ _ data.reason

theorem step_change (s : Store) (action : Action) : Change s action (step s action) := by
  unfold step
  split
  · exact perform_change ‹_›
  · exact .stay action

end System

/-! ## A sample workspace

One content with a document, a config with one stage, and six full reports. -/

section Sample

@[reducible] def sampleHash : QualityHash where
  stored := some
  stored_again _ := rfl
  document title _ := title
  fact value := value
  config _ data := data.notes.getD ""
  policySnapshot config := config.configHash
  report kind _ _ _ := kind.value
  thresholdRule configHash := configHash
  thresholdEvidence _ := "{}"
  event _ _ _ _ finding _ _ := finding.eventKey
  assessment payload := payload.qualityConfigHash
  stages _ := "stages"

def sampleRequest : Request where
  principal := { subjectId := 7 }
  now := 1000
  active _ := true

def sampleStage : ApprovalStageConfig where
  key := "review"
  name := "Review"
  approverUserIds := [7]
  dueSeconds := some 60
  key_pattern := by decide
  required_range := by decide
  approvers_length := by decide
  due_range := by decide

def sampleConfig : QualityConfigCreate where
  minimumTotalScore := 75
  minimumComponentScores := [(.accuracy, 80)]
  approvalStages := [sampleStage]
  total_range := by norm_num
  components_keyed := List.nodup_singleton _
  kinds_nonempty := by decide
  kinds_unique := by decide
  stages_nonempty := by decide
  stages_length := by decide
  stages_keyed := List.nodup_singleton _

def fullScore : Score := ⟨100, by norm_num⟩

def sampleReport (detail : ReportDetail) : Action := .createReport sampleRequest detail.kind
    { contentId := 0, contentVersionId := 1, contentHash := "post", inputHash := "input",
      detail := detail }
    (.ok "rules")

def sampleContent : Action := .createContent sampleRequest
    { channel := "blog", title := "post", document := [{ blockKey := 1, blockType := "PARAGRAPH" }] }

def sampleReports : List Action :=
  [.morphology, .naturalness fullScore fullScore fullScore, .seo fullScore,
    .duplication fullScore, .factCitation fullScore, .safetyPolicy fullScore []].map sampleReport

def sampleEvidence : List Action :=
  [sampleContent, .createQualityConfig sampleRequest sampleConfig] ++ sampleReports

def sampleAssessment : QualityAssessmentCreate where
  contentId := 0
  contentVersionId := 1
  contentHash := "post"
  qualityConfigId := 2
  reportIds := [(.morphology, 3), (.naturalness, 4), (.seo, 5), (.duplication, 6),
    (.factCitation, 7), (.safetyPolicy, 8)]
  report_ids_keyed := by
    unfold Keyed
    decide

def sampleApproval : ApprovalRequestCreate where
  contentId := 0
  contentVersionId := 1
  contentHash := "post"
  assessmentId := 9
  expectedAssessmentHash := ""

def sampleDecision : ApprovalDecisionCreate where
  expectedLockVersion := 1
  expectedContentVersionId := 1
  expectedContentHash := "post"
  decision := .approve
  lock_positive := by decide
  negative_has_reason := by decide

/-- The evidence is assessed, an approval is requested, and its only approver approves. -/
def sampleRun : List Action := sampleEvidence ++ [.createAssessment sampleRequest sampleAssessment,
    .createApprovalRequest sampleRequest sampleApproval,
    .decideApprovalRequest sampleRequest 11 sampleDecision]

end Sample

end BlogOps.Quality
