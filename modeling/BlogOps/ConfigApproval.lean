import BlogOps.ApprovalEvidence
import BlogOps.ApprovalProgress

/-!
# Configs that lead to an approval

A config leads every current version with full reports to an approval exactly
when its component minimums are scores and every stage that lists approvers
lists as many of them as it requires.
-/

namespace BlogOps.Quality

open KeyedTables TransitionRuns List

/-- All scores of the report are 100. -/
def ReportDetail.full : ReportDetail → Bool
  | .morphology => true
  | .naturalness usefulness readability brandFit =>
    usefulness.1 = 100 && readability.1 = 100 && brandFit.1 = 100
  | .seo searchIntent => searchIntent.1 = 100
  | .duplication originality => originality.1 = 100
  | .factCitation accuracy => accuracy.1 = 100
  | .safetyPolicy compliance _ => compliance.1 = 100

/-- The report is of this kind and of the version to assess, and its scores are full. -/
structure FullReport (data : QualityAssessmentCreate) (kind : ReportKind) (report : QualityReport) :
    Prop where
  kind : report.reportKind = kind
  content : report.contentId = data.contentId
  version : report.contentVersionId = data.contentVersionId
  hash : report.contentHash = data.contentHash
  full : report.detail.full = true

def CurrentVersion (s : Store) (data : QualityAssessmentCreate) : Prop :=
  ∃ content ∈ s.contents, ∃ version ∈ s.versions, s.liveContent data.contentId = some content ∧
    s.versionOf data.contentId data.contentVersionId = some version ∧
    version.contentHash = data.contentHash ∧
    content.currentVersionId = some data.contentVersionId

/-- A current content version with its six reports, all full and without a block. -/
structure FullReports (s : Store) (data : QualityAssessmentCreate) : Prop where
  current : CurrentVersion s data
  kinds : ∀ kind ∈ ReportKind.all, kind ∈ data.reportIds.map (·.1)
  reports : ∀ entry ∈ data.reportIds, ∃ report ∈ s.reports, reportOf s entry.2 = .ok report ∧
    FullReport data entry.1 report
  unblocked : ∀ event ∈ s.policyEvents, ∀ entry ∈ data.reportIds,
    event.reportId = some entry.2 → event.blocking = false

instance (data : QualityAssessmentCreate) (kind : ReportKind) (report : QualityReport) :
    Decidable (FullReport data kind report) :=
  decidable_of_iff (report.reportKind = kind ∧ report.contentId = data.contentId ∧
      report.contentVersionId = data.contentVersionId ∧ report.contentHash = data.contentHash ∧
      report.detail.full = true)
    ⟨fun ⟨hkind, hcontent, hversion, hhash, hfull⟩ => ⟨hkind, hcontent, hversion, hhash, hfull⟩,
      fun h => ⟨h.kind, h.content, h.version, h.hash, h.full⟩⟩

instance (s : Store) (data : QualityAssessmentCreate) : Decidable (CurrentVersion s data) :=
  inferInstanceAs (Decidable (∃ content ∈ s.contents, ∃ version ∈ s.versions,
    s.liveContent data.contentId = some content ∧
    s.versionOf data.contentId data.contentVersionId = some version ∧
    version.contentHash = data.contentHash ∧
    content.currentVersionId = some data.contentVersionId))

instance (s : Store) (data : QualityAssessmentCreate) : Decidable (FullReports s data) :=
  decidable_of_iff (CurrentVersion s data ∧ (∀ kind ∈ ReportKind.all, kind ∈ data.reportIds.map (·.1)) ∧
      (∀ entry ∈ data.reportIds, ∃ report ∈ s.reports, reportOf s entry.2 = .ok report ∧
        FullReport data entry.1 report) ∧
      ∀ event ∈ s.policyEvents, ∀ entry ∈ data.reportIds,
        event.reportId = some entry.2 → event.blocking = false)
    ⟨fun ⟨hcurrent, hkinds, hreports, hopen⟩ => ⟨hcurrent, hkinds, hreports, hopen⟩,
      fun h => ⟨h.current, h.kinds, h.reports, h.unblocked⟩⟩

theorem quantize_natCast (n : ℕ) : quantize n = n := by
  have h := quantize_hundredths (n * 100)
  have hcast : ((n * 100 : ℕ) : ℚ) / 100 = n := by
    push_cast
    exact mul_div_cancel_right₀ _ (by norm_num)
  rwa [hcast] at h

theorem quantize_of_eq {value : ℚ} (n : ℕ) (h : value = n) : quantize value = n := by
  rw [h, quantize_natCast]

theorem calculateQualityScore_full : ∃ score,
    calculateQualityScore (fun _ => 100) = .ok score ∧ score.total = 100 ∧
      ∀ component, score.componentScores component = 100 := by
  have hrange : QualityComponent.all.find? (fun _ =>
      decide ((100 : ℚ) < 0) || decide ((100 : ℚ) < 100)) = none := by
    rw [find?_eq_none]
    intro component _
    norm_num
  have hsum : (QualityComponent.all.map fun component =>
      quantize (100 * qualityComponentWeights component)).sum = (100 : ℕ) := by
    have hshare : ∀ component (n : ℕ), 100 * qualityComponentWeights component = n →
        quantize (100 * qualityComponentWeights component) = n := fun _ n h => quantize_of_eq n h
    simp only [QualityComponent.all, map_cons, map_nil, sum_cons, sum_nil]
    rw [hshare .accuracy 25 (by norm_num [qualityComponentWeights]),
      hshare .usefulness 20 (by norm_num [qualityComponentWeights]),
      hshare .originality 15 (by norm_num [qualityComponentWeights]),
      hshare .searchIntent 15 (by norm_num [qualityComponentWeights]),
      hshare .readability 10 (by norm_num [qualityComponentWeights]),
      hshare .brandFit 10 (by norm_num [qualityComponentWeights]),
      hshare .compliance 5 (by norm_num [qualityComponentWeights])]
    norm_num
  unfold calculateQualityScore
  rw [hrange]
  refine ⟨_, rfl, ?_, fun component => ?_⟩
  · dsimp only
    rw [hsum, quantize_natCast]
    norm_num
  · have hfull : quantize 100 = 100 := by simpa using quantize_natCast 100
    exact hfull

section Reports

variable {s : Store} {content : ContentVersionSnapshot} {data : QualityAssessmentCreate}
  {reports : List QualityReport}

section

variable
    (hcontent : content.contentId = data.contentId ∧
      content.contentVersionId = data.contentVersionId ∧ content.contentHash = data.contentHash)

include hcontent

theorem assessedReport_full {kind : ReportKind} {reportId : Uuid} {report : QualityReport}
    (hreport : reportOf s reportId = .ok report) (hfull : FullReport data kind report) :
    assessedReport s content kind reportId = .ok report := by
  obtain ⟨hid, hversion, hhash⟩ := hcontent
  have hmatch : assertReportContent report content = .ok () := by
    unfold assertReportContent
    rw [if_neg (by simp [hid, hversion, hhash, hfull.content, hfull.version, hfull.hash])]
  unfold assessedReport
  rw [bind_of_ok hreport, if_neg (not_not.mpr hfull.kind), bind_of_ok hmatch]

theorem assessedReports_full {entries : List (ReportKind × Uuid)}
    (hentries : ∀ entry ∈ entries, ∃ report ∈ s.reports, reportOf s entry.2 = .ok report ∧
      FullReport data entry.1 report) : ∃ reports, assessedReports s content entries = .ok reports ∧
      (∀ entry ∈ entries, ∃ report ∈ reports, report.reportKind = entry.1 ∧ report.id = entry.2) ∧
      ∀ report ∈ reports, report ∈ s.reports ∧ report.detail.full = true ∧
        ∃ entry ∈ entries, report.id = entry.2 := by
  induction entries with
  | nil => exact ⟨[], rfl, by simp, by simp⟩
  | cons entry rest ih =>
    obtain ⟨kind, reportId⟩ := entry
    obtain ⟨report, hmem, hreport, hfull⟩ := hentries _ mem_cons_self
    obtain ⟨others, hothers, hkinds, hall⟩ :=
      ih fun other hother => hentries other (mem_cons_of_mem _ hother)
    refine ⟨report :: others, ?_, ?_, ?_⟩
    · rw [assessedReports, bind_of_ok (assessedReport_full hcontent hreport hfull), bind_of_ok hothers]
    · refine forall_mem_cons.mpr ⟨⟨report, mem_cons_self, hfull.kind,
        (reportOf_ok hreport).2⟩, ?_⟩
      intro other hother
      obtain ⟨found, hfound, hkind⟩ := hkinds other hother
      exact ⟨found, mem_cons_of_mem _ hfound, hkind⟩
    · refine forall_mem_cons.mpr ⟨⟨hmem, hfull.full, _, mem_cons_self,
        (reportOf_ok hreport).2⟩, ?_⟩
      intro other hother
      obtain ⟨hstored, hfullOther, found, hfound, hid⟩ := hall other hother
      exact ⟨hstored, hfullOther, found, mem_cons_of_mem _ hfound, hid⟩

end

section

variable (hkinds : ∀ kind, ∃ report ∈ reports, report.reportKind = kind)
    (hdetails : ∀ report ∈ reports, report.detail.kind = report.reportKind ∧ report.detail.full = true)

include hkinds hdetails

theorem detailOf_full (kind : ReportKind) :
    ∃ detail, detailOf reports kind = .ok detail ∧ detail.kind = kind ∧ detail.full = true := by
  unfold detailOf
  cases hfind : reports.find? (·.reportKind = kind) with
  | none =>
    obtain ⟨report, hreport, hkind⟩ := hkinds kind
    rw [find?_eq_none] at hfind
    exact absurd (decide_eq_true hkind) (hfind report hreport)
  | some report =>
    obtain ⟨hkind, hfull⟩ := hdetails report (mem_of_find?_eq_some hfind)
    have hof : report.reportKind = kind := by simpa using find?_some hfind
    exact ⟨report.detail, rfl, hkind.trans hof, hfull⟩

theorem componentScores_full : componentScores reports = .ok fun _ => 100 := by
  obtain ⟨fact, hfact, hfactKind, hfactFull⟩ := detailOf_full hkinds hdetails .factCitation
  obtain ⟨natural, hnatural, hnaturalKind, hnaturalFull⟩ := detailOf_full hkinds hdetails .naturalness
  obtain ⟨duplication, hduplication, hduplicationKind, hduplicationFull⟩ :=
    detailOf_full hkinds hdetails .duplication
  obtain ⟨seo, hseo, hseoKind, hseoFull⟩ := detailOf_full hkinds hdetails .seo
  obtain ⟨safety, hsafety, hsafetyKind, hsafetyFull⟩ := detailOf_full hkinds hdetails .safetyPolicy
  unfold componentScores
  rw [bind_of_ok hfact, bind_of_ok hnatural, bind_of_ok hduplication, bind_of_ok hseo,
    bind_of_ok hsafety]
  cases fact <;> cases hfactKind
  cases natural <;> cases hnaturalKind
  cases duplication <;> cases hduplicationKind
  cases seo <;> cases hseoKind
  cases safety <;> cases hsafetyKind
  simp only [ReportDetail.full, Bool.and_eq_true, decide_eq_true_eq] at *
  refine congrArg Except.ok (funext fun component => ?_)
  cases component <;> simp_all

end

end Reports

/-- Every component minimum is a score, and every stage that lists approvers lists enough. -/
structure QualityConfigCreate.Attainable (input : QualityConfigCreate) : Prop where
  minimums : ∀ item ∈ input.minimumComponentScores, 0 ≤ item.2 ∧ item.2 ≤ 100
  approvers : ∀ stage ∈ input.approvalStages, stage.approverUserIds ≠ [] →
    stage.requiredApprovals ≤ stage.approverUserIds.dedup.length

variable {input : QualityConfigCreate}

theorem fills_of_attainable {active : Uuid → Bool} (h : input.Attainable)
    (hmembers : ∀ n, ∃ members : List Uuid, members.Nodup ∧ n ≤ members.length ∧ ∀ member ∈ members,
      active member = true)
    (happrovers : ∀ member ∈ stageApprovers input.approvalStages, active member = true)
    {stage : ApprovalStageConfig} (hstage : stage ∈ input.approvalStages) :
    ∃ members, Fills active stage members := by
  by_cases hlisted : stage.approverUserIds = []
  · obtain ⟨members, hdistinct, hcount, hactive⟩ := hmembers stage.requiredApprovals
    refine ⟨members.take stage.requiredApprovals, ?_, hdistinct.sublist (take_sublist _ _),
      fun member hmember => hactive member (mem_of_mem_take hmember),
      fun hlist => absurd hlisted hlist⟩
    rw [length_take, min_eq_left hcount]
  · have hcount := h.approvers stage hstage hlisted
    have hin : ∀ member ∈ stage.approverUserIds.dedup.take stage.requiredApprovals,
        member ∈ stage.approverUserIds :=
      fun member hmember => mem_dedup.mp (mem_of_mem_take hmember)
    refine ⟨stage.approverUserIds.dedup.take stage.requiredApprovals, ?_,
      (nodup_dedup _).sublist (take_sublist _ _), ?_, fun _ => hin⟩
    · rw [length_take, min_eq_left hcount]
    · intro member hmember
      exact happrovers member (mem_flatMap.mpr ⟨stage, hstage, hin member hmember⟩)

/-- The minimums of an attainable config are met by full scores. -/
theorem gate_full {score : QualityScoreBreakdown} {minimumTotalScore : ℚ}
    {minimums : List (QualityComponent × ℚ)} {policy : PolicyResolution}
    (hrange : ∀ item ∈ minimums, 0 ≤ item.2 ∧ item.2 ≤ 100) (htotal : score.total = 100)
    (hminimum : minimumTotalScore ≤ 100)
    (hcomponents : ∀ component, score.componentScores component = 100)
    (hpolicy : policy.blocked = false) : evaluateQualityGate score minimumTotalScore minimums policy =
      .ok { decision := .pass, failedThresholds := [] } := by
  obtain ⟨failures, hfailures⟩ := evaluateComponents_ok score hrange
  have hnil : failures = [] := by
    refine evaluateComponents_eq_nil hfailures fun item hitem => ?_
    rw [hcomponents]
    exact (hrange item hitem).2
  rw [hnil] at hfailures
  have hmet : ¬ score.total < minimumTotalScore := by
    rw [htotal]
    exact not_lt.mpr hminimum
  unfold evaluateQualityGate
  rw [bind_of_ok hfailures]
  dsimp only
  rw [if_neg hmet, hpolicy]
  rfl

theorem storedTotal_le {minimumTotalScore : ℚ} (h : 0 ≤ minimumTotalScore ∧ minimumTotalScore ≤ 100) :
    storedTotal minimumTotalScore ≤ 100 := by
  have hmono := quantize_mono h.1 h.2
  have hfull : quantize 100 = 100 := by simpa using quantize_natCast 100
  rwa [hfull] at hmono

theorem assessPolicy_open {s : Store} {reports : List QualityReport}
    (h : ∀ event ∈ eventsOfReports s reports, event.blocking = false) :
    (assessPolicy s reports).blockingEventKeys = [] := by
  rw [eq_nil_iff_forall_not_mem]
  intro key hkey
  obtain ⟨finding, hfinding, hblocks, _⟩ := mem_blockingEventKeys.mp hkey
  obtain ⟨event, hevent, rfl⟩ := mem_map.mp hfinding
  have hopen := h event hevent
  unfold PolicyEvent.blocking at hopen
  rw [show (event.hardBlock || decide (event.severity = .block)) = true from hblocks] at hopen
  cases hopen

section Config

variable [QualityHash]

/-- The hash of a stored assessment tells the config and the reports it pins. -/
def HashesPin (s : Store) : Prop := ∀ stored ∈ s.assessments, ∀ payload : AssessmentPayload,
    QualityHash.assessment payload = stored.assessmentHash →
      payload.qualityConfigHash = stored.qualityConfigHash ∧
        payload.reportManifest = stored.reportManifest

/-- The reports were not assessed on the config before. -/
def Unassessed (s : Store) (config : WorkspaceQualityConfig) (data : QualityAssessmentCreate) : Prop :=
  ∀ stored ∈ s.assessments, stored.contentVersionId = data.contentVersionId →
    stored.qualityConfigHash = config.configHash →
      ∃ entry ∈ data.reportIds, ∀ used ∈ stored.reportManifest, used.reportId ≠ entry.2

def approvalRequestFor (data : QualityAssessmentCreate) (assessment : QualityAssessment) :
    ApprovalRequestCreate where
  contentId := data.contentId
  contentVersionId := data.contentVersionId
  contentHash := data.contentHash
  assessmentId := assessment.id
  expectedAssessmentHash := assessment.assessmentHash

/-- The assessment passes, the approval request is created, and approvals of active members in
time approve it. -/
def LeadsToApproval (request : Request) (data : QualityAssessmentCreate) (s : Store) : Prop :=
  ∃ assessment assessed row requested calls,
    createAssessment request data s = .ok (assessment, assessed) ∧
    assessment.decision = .pass ∧
    createApprovalRequest request (approvalRequestFor data assessment) assessed = .ok (row, requested) ∧
    Along step (ApprovalCall row.id request.now request.active) requested calls ∧
    ∃ later ∈ (run step requested calls).requests, later.id = row.id ∧ later.status = .approved

/-! ## What runs keep -/

/-- Reports have details of their kind, and requests were made for assessments that exist. -/
structure RequestBooks (s : Store) : Prop where
  details : ∀ report ∈ s.reports, report.detail.kind = report.reportKind
  assessed : ∀ row ∈ s.requests, row.assessmentId < s.nextId

theorem details_step {s : Store} (h : RequestBooks s) (action : Action) :
    ∀ report ∈ (step s action).reports, report.detail.kind = report.reportKind := by
  rcases (step_change s action).evidence_or_same with hchange | hsame
  · generalize step s action = after at *
    cases hchange with
    | report request content data ruleHash policyHash =>
      exact forall_mem_append.mpr ⟨h.details, forall_mem_singleton.mpr rfl⟩
    | assessment _ _ _ _ _ _ _ _ _ _ _ hrecord =>
      rw [(recordAssessment_ok hrecord).2]
      exact h.details
    | _ => exact h.details
  · rw [hsame.reports]
    exact h.details

variable {row : ApprovalRequest}

omit [QualityHash] in
theorem assessmentId_of_retires {after : ApprovalRequest} (h : Retires row after) :
    after.assessmentId = row.assessmentId :=
  congrArg (·.2.2.2.2.1) h.identity_eq

omit [QualityHash] in
theorem assessmentId_decideRequest {request : Request} {decision : ApprovalDecisionKind}
    {quorum : Bool} {newStatus : ApprovalRequestStatus} :
    (writeRequest (decideRequest request decision quorum newStatus) row).assessmentId =
      row.assessmentId := by
  rw [writeRequest_proj (fun other => other.assessmentId) fun _ _ => rfl]
  unfold decideRequest advanceStage
  dsimp only
  split_ifs <;> rfl

theorem assessed_step {s : Store} (hbooks : EvidenceBooks s) (h : RequestBooks s)
    (action : Action) : ∀ row ∈ (step s action).requests,
      row.assessmentId < (step s action).nextId := by
  have hle := (step_change s action).nextId_le
  have hchange := (step_change s action).requestsChange
  generalize step s action = after at *
  have hmapped : ∀ f : ApprovalRequest → ApprovalRequest, (∀ row, Retires row (f row)) →
      ∀ row ∈ s.requests.map f, row.assessmentId < after.nextId := by
    intro f hf row hrow
    obtain ⟨old, hold, rfl⟩ := mem_map.mp hrow
    rw [assessmentId_of_retires (hf old)]
    exact (h.assessed old hold).trans_le hle
  cases hchange with
  | retired _ _ f hf hrequests =>
    rw [hrequests]
    exact hmapped f hf
  | requested _ _ f hf row _ _ _ _ _ _ _ hassessment _ hrequests =>
    obtain ⟨assessment, hstored, hof⟩ := hassessment
    rw [hrequests]
    refine forall_mem_append.mpr ⟨hmapped f hf, forall_mem_singleton.mpr ?_⟩
    rw [hof]
    exact (hbooks.assessments_old assessment hstored).1.trans_le hle
  | decided _ request data row stage quorum newStatus _ hrequests =>
    rw [hrequests]
    intro other hother
    obtain ⟨old, hold, ⟨_, rfl⟩ | ⟨_, rfl⟩⟩ := mem_updateRow hother
    · rw [assessmentId_decideRequest]
      exact (h.assessed old hold).trans_le hle
    · exact (h.assessed _ hold).trans_le hle

theorem requestBooks_run (actions : List Action) : RequestBooks (run step {} actions) := by
  refine (invariant_run step (I := fun s => EvidenceBooks s ∧ RequestBooks s) ?_
    ⟨evidenceBooks_empty, by simp, by simp⟩ actions).2
  rintro s action ⟨hbooks, h⟩
  exact ⟨evidenceBooks_step s action hbooks, details_step h action, assessed_step hbooks h action⟩

theorem configs_kept_step (s : Store) (action : Action) :
    ∀ config ∈ s.configs, config ∈ (step s action).configs := by
  intro config hconfig
  rcases (step_change s action).evidence_or_same with hchange | hsame
  · generalize step s action = after at *
    cases hchange with
    | config => exact mem_append_left _ hconfig
    | assessment _ _ _ _ _ _ _ _ _ _ _ hrecord =>
      rw [(recordAssessment_ok hrecord).2]
      exact hconfig
    | _ => exact hconfig
  · rwa [hsame.configs]

theorem configs_kept_run (s : Store) (actions : List Action) :
    ∀ config ∈ s.configs, config ∈ (run step s actions).configs :=
  relates_run step (R := fun s t : Store => ∀ config ∈ s.configs, config ∈ t.configs)
    (fun _ _ => id) (fun _ _ _ hst htu config hconfig => htu config (hst config hconfig))
    configs_kept_step s actions

section Full

variable {s : Store} {request : Request} {config : WorkspaceQualityConfig}
  {data : QualityAssessmentCreate}

omit [QualityHash] in
theorem exactContent_full (hcurrentVersion : CurrentVersion s data) (requireCurrent : Bool) :
    exactContent s data.contentId data.contentVersionId data.contentHash requireCurrent =
      .ok ⟨data.contentId, data.contentVersionId, data.contentHash,
        some data.contentVersionId⟩ := by
  obtain ⟨content, _, version, _, hlive, hversion, hhash, hcurrent⟩ := hcurrentVersion
  have hcontentId := (liveContent_some hlive).2.1
  have hversionId := (versionOf_some hversion).2.1
  have hresolve : resolve s data.contentId data.contentVersionId =
      .ok ⟨data.contentId, data.contentVersionId, data.contentHash,
        some data.contentVersionId⟩ := by
    unfold resolve
    rw [hlive, hversion]
    dsimp only
    rw [hcontentId, hversionId, hhash, hcurrent]
  unfold exactContent
  rw [bind_of_ok hresolve, if_neg (not_not.mpr rfl), if_neg]
  simp [ContentVersionSnapshot.isCurrent]

omit [QualityHash] in
theorem missingKinds_full (hfull : FullReports s data) (required : List ReportKind) :
    missingKinds required data = [] := by
  unfold missingKinds
  rw [filter_eq_nil_iff]
  intro kind _
  have hkind := hfull.kinds kind (by cases kind <;> decide)
  simp [hkind]

omit [QualityHash] in
theorem mem_reportManifest {reports : List QualityReport} {report : QualityReport}
    (h : report ∈ reports) : manifestEntry report ∈ reportManifest reports := by
  refine mem_map_of_mem (mem_flatMap.mpr ⟨report.reportKind, ?_, ?_⟩)
  · cases report.reportKind <;> decide
  · exact mem_filter.mpr ⟨h, decide_eq_true rfl⟩

/-- The assessment of the full reports passes with nothing listed. -/
structure PassedAssessment (s : Store) (config : WorkspaceQualityConfig)
    (data : QualityAssessmentCreate) (assessment : QualityAssessment) : Prop where
  id_new : assessment.id = s.nextId
  content : assessment.contentId = data.contentId
  version : assessment.contentVersionId = data.contentVersionId
  hash : assessment.contentHash = data.contentHash
  config_id : assessment.qualityConfigId = config.id
  config_hash : assessment.qualityConfigHash = config.configHash
  pass : assessment.decision = .pass
  nothing_listed : assessment.blockingPolicyEventIds = []

theorem recordAssessment_of_new (request : Request) (content : ContentVersionSnapshot)
    (reports : List QualityReport) (score : QualityScoreBreakdown) (resolution : PolicyResolution)
    (gate : QualityGateResult)
    (hnew : ∀ stored ∈ s.assessments, stored.contentVersionId = content.contentVersionId →
      stored.assessmentHash ≠ QualityHash.assessment
      (assessmentPayload content config reports score gate (blockingIds s resolution gate)
      (nonOverrideableIds s config resolution gate))) :
    ∃ after, recordAssessment request content config reports score resolution gate s =
      .ok (newAssessment request s.nextId content.contentId config.id (assessmentPayload content
        config reports score gate (blockingIds s resolution gate)
        (nonOverrideableIds s config resolution gate)), after) := by
  unfold recordAssessment insertAssessment
  dsimp only
  rw [if_neg]
  · exact ⟨_, rfl⟩
  · intro hany
    obtain ⟨stored, hstored, hsame⟩ := any_eq_true.mp hany
    simp only [Bool.and_eq_true, decide_eq_true_eq] at hsame
    exact hnew stored hstored hsame.1 hsame.2

theorem createAssessment_full (hrequests : RequestBooks s) (hbooks : EvidenceBooks s)
    (hconfig : config ∈ s.configs) (hof : data.qualityConfigId = config.id)
    (hrange : ∀ item ∈ config.minimumComponentScores, 0 ≤ item.2 ∧ item.2 ≤ 100)
    (htotal : config.minimumTotalScore ≤ 100) (hfull : FullReports s data) (hpin : HashesPin s)
    (hnew : Unassessed s config data) :
    ∃ assessment after, createAssessment request data s = .ok (assessment, after) ∧
      PassedAssessment s config data assessment := by
  have hfound : configOf s data.qualityConfigId = .ok config := by
    unfold configOf
    rw [hof, hbooks.configs_keyed.find?_eq hconfig]
    rfl
  have hrequired : ∀ code message required,
      reportsRequired code message (missingKinds required data) = .ok () := by
    intro code message required
    rw [missingKinds_full hfull]
    rfl
  have hreports : ∃ reports, assessedReports s ⟨data.contentId, data.contentVersionId,
      data.contentHash, some data.contentVersionId⟩ data.reportIds = .ok reports ∧
      (∀ entry ∈ data.reportIds, ∃ report ∈ reports, report.reportKind = entry.1 ∧
        report.id = entry.2) ∧
      ∀ report ∈ reports, report ∈ s.reports ∧ report.detail.full = true ∧
        ∃ entry ∈ data.reportIds, report.id = entry.2 :=
    assessedReports_full ⟨rfl, rfl, rfl⟩ hfull.reports
  obtain ⟨reports, hreports, hkinds, hall⟩ := hreports
  have heach : ∀ kind, ∃ report ∈ reports, report.reportKind = kind := by
    intro kind
    obtain ⟨entry, hentry, hkind⟩ := mem_map.mp (hfull.kinds kind (by cases kind <;> decide))
    obtain ⟨report, hreport, hof, _⟩ := hkinds entry hentry
    exact ⟨report, hreport, hof.trans hkind⟩
  have hscores := componentScores_full heach fun report hreport =>
    ⟨hrequests.details report (hall report hreport).1, (hall report hreport).2.1⟩
  obtain ⟨score, hscore, hscoreTotal, hcomponents⟩ := calculateQualityScore_full
  have hopen : ∀ event ∈ eventsOfReports s reports, event.blocking = false := by
    intro event hevent
    obtain ⟨hin, hany⟩ := mem_filter.mp hevent
    obtain ⟨report, hreport, hofReport⟩ := any_eq_true.mp hany
    obtain ⟨_, _, entry, hentry, hid⟩ := hall report hreport
    refine hfull.unblocked event hin entry hentry ?_
    rw [of_decide_eq_true hofReport, hid]
  have hkeys := assessPolicy_open hopen
  have hgate : evaluateQualityGate score config.minimumTotalScore config.minimumComponentScores
      (assessPolicy s reports) = .ok { decision := .pass, failedThresholds := [] } :=
    gate_full hrange hscoreTotal htotal hcomponents (blocked_eq_false.mpr hkeys)
  unfold createAssessment
  rw [bind_of_ok (exactContent_full hfull.current false), bind_of_ok hfound, bind_of_ok (hrequired _ _ _),
    bind_of_ok (hrequired _ _ _), bind_of_ok hreports, bind_of_ok hscores, bind_of_ok hscore]
  dsimp only
  rw [bind_of_ok hgate]
  -- An equal stored assessment would have used the same reports on the same config.
  have hunstored : ∀ stored ∈ s.assessments, stored.contentVersionId = data.contentVersionId →
      ∀ payload : AssessmentPayload, payload.qualityConfigHash = config.configHash →
        payload.reportManifest = reportManifest reports →
          stored.assessmentHash ≠ QualityHash.assessment payload := by
    intro stored hstored hversion payload hpayload hpayloadReports hhash
    obtain ⟨hconfigHash, hmanifest⟩ := hpin stored hstored payload hhash.symm
    obtain ⟨entry, hentry, hunused⟩ := hnew stored hstored hversion (hconfigHash.symm.trans hpayload)
    obtain ⟨report, hreport, _, hid⟩ := hkinds entry hentry
    refine hunused (manifestEntry report) ?_ hid
    rw [← hmanifest, hpayloadReports]
    exact mem_reportManifest hreport
  obtain ⟨after, hrecord⟩ := recordAssessment_of_new request
    ⟨data.contentId, data.contentVersionId, data.contentHash, some data.contentVersionId⟩ reports
    score (assessPolicy s reports) { decision := .pass, failedThresholds := [] }
    fun stored hstored hversion => hunstored stored hstored hversion _ rfl rfl
  refine ⟨_, after, hrecord, rfl, rfl, rfl, rfl, rfl, rfl, rfl, ?_⟩
  exact (append_nil _).trans hkeys

variable {assessment : QualityAssessment} {t : Store} {actions : List Action} {creator : Request}

omit [QualityHash] in
theorem eligible_of_passed (h : PassedAssessment s config data assessment) :
    assertAssessmentApprovalEligible t assessment = .ok () := by
  unfold assertAssessmentApprovalEligible
  rw [if_pos h.nothing_listed, if_neg (not_not.mpr h.pass)]

omit [QualityHash] in
theorem insertRequest_of_new (row : ApprovalRequest)
    (h : ∀ other ∈ t.requests, other.assessmentId ≠ row.assessmentId) : insertRequest row t =
      .ok { t with requests := t.requests ++ [row], nextId := t.nextId + 1 } := by
  refine if_neg fun hany => ?_
  obtain ⟨other, hother, hsame⟩ := any_eq_true.mp hany
  simp only [Bool.and_eq_true, decide_eq_true_eq] at hsame
  exact h other hother hsame.2

theorem createApprovalRequest_full (hbooks : EvidenceBooks t)
    (h : PassedAssessment s config data assessment) (hassessment : assessment ∈ t.assessments)
    (hconfig : config ∈ t.configs) (hstages : config.approvalStages ≠ [])
    (hactive : requireActive request (stageApprovers config.approvalStages) = .ok ())
    (hcurrent : CurrentVersion t data)
    (hunrequested : ∀ row ∈ t.requests, row.assessmentId ≠ assessment.id) :
    ∃ row after, createApprovalRequest request (approvalRequestFor data assessment) t =
        .ok (row, after) ∧
      row = newRequest request t.nextId ⟨data.contentId, data.contentVersionId, data.contentHash,
        some data.contentVersionId⟩ assessment config none ∧
      after = { t with requests := t.requests ++ [row], nextId := t.nextId + 1 } := by
  have hfound : assessmentOf t (approvalRequestFor data assessment).assessmentId =
      .ok assessment := by
    unfold assessmentOf approvalRequestFor
    rw [hbooks.assessments_keyed.find?_eq hassessment]
    rfl
  have hhash : assertHash "quality_assessment"
      (approvalRequestFor data assessment).expectedAssessmentHash assessment.assessmentHash =
        .ok () := assertHash_ok.mpr rfl
  have hconfigOf : configOf t assessment.qualityConfigId = .ok config := by
    unfold configOf
    rw [h.config_id, hbooks.configs_keyed.find?_eq hconfig]
    rfl
  have hmatch : ¬ (assessment.contentId ≠ data.contentId ∨
      assessment.contentVersionId ≠ data.contentVersionId ∨
        assessment.contentHash ≠ data.contentHash) := by
    simp [h.content, h.version, h.hash]
  have hexact : exactContent t (approvalRequestFor data assessment).contentId
      (approvalRequestFor data assessment).contentVersionId
      (approvalRequestFor data assessment).contentHash true =
        .ok ⟨data.contentId, data.contentVersionId, data.contentHash,
          some data.contentVersionId⟩ := exactContent_full hcurrent true
  have hsupersede : supersede request data.contentId
      (approvalRequestFor data assessment).supersedesRequestId t = .ok t := rfl
  have hinsert := insertRequest_of_new (newRequest request t.nextId ⟨data.contentId,
    data.contentVersionId, data.contentHash, some data.contentVersionId⟩ assessment config none)
    hunrequested
  refine ⟨_, _, ?_, rfl, rfl⟩
  unfold createApprovalRequest
  rw [bind_of_ok hexact, bind_of_ok hfound, bind_of_ok hhash, if_neg hmatch,
    bind_of_ok (eligible_of_passed h), bind_of_ok hconfigOf,
    if_neg (not_not.mpr h.config_hash.symm), if_neg hstages, bind_of_ok hactive,
    bind_of_ok hsupersede]
  exact bind_of_ok hinsert _

omit [QualityHash] in
/-- The current version of a live content, as a decision reads it. -/
theorem current_full (hversions : VersionBooks s) (hcurrentVersion : CurrentVersion s data) :
    current s data.contentId = .ok ⟨data.contentId, data.contentVersionId, data.contentHash,
      some data.contentVersionId⟩ := by
  obtain ⟨content, _, version, hversionMem, hlive, hversion, hhash, hcurrent⟩ := hcurrentVersion
  have hcontentId := (liveContent_some hlive).2.1
  have hversionId := (versionOf_some hversion).2.1
  have hfind : s.versions.find? (fun version => some version.id = content.currentVersionId) =
      some version := by
    have hkeyed := hversions.versions_keyed.find?_eq hversionMem
    rw [hcurrent]
    simpa [hversionId] using hkeyed
  unfold current
  rw [hlive]
  dsimp only
  rw [hfind]
  dsimp only
  rw [hcontentId, hversionId, hhash, hcurrent]

/-- A request just created, whose stages can be filled, is driven to `APPROVED`. -/
theorem approved_of_requested {after : Store} (hquorum : QuorumBooks t)
    (hrow : row = newRequest request t.nextId ⟨data.contentId, data.contentVersionId,
      data.contentHash, some data.contentVersionId⟩ assessment config none)
    (hafter : after = { t with requests := t.requests ++ [row], nextId := t.nextId + 1 })
    (hbooks : QuorumBooks after)
    (hcurrent : current t data.contentId = .ok ⟨data.contentId, data.contentVersionId,
      data.contentHash, some data.contentVersionId⟩) (hstages : config.approvalStages ≠ [])
    (hfills : ∀ stage ∈ config.approvalStages, ∃ members, Fills request.active stage members) :
    ∃ calls, Along step (ApprovalCall row.id request.now request.active) after calls ∧
      ∃ later ∈ (run step after calls).requests, later.id = row.id ∧
        later.status = .approved := by
  have hpositive := length_pos_of_ne_nil hstages
  have hwait : Awaiting after row request.now := by
    rw [hafter]
    refine ⟨mem_append_right _ mem_cons_self, ?_, ?_, ?_, ?_⟩
    · rw [hrow]
      rfl
    · rw [hrow]
      exact le_rfl
    · rw [hrow]
      exact hcurrent
    · rw [hrow]
      intro due hdue
      have hfirst : due ∈ config.approvalStages[0]?.bind (stageDueAt request.now) := by
        rw [← head?_eq_getElem?]
        exact hdue
      exact due_stageDueAt hfirst
  have hfresh : Fresh after row := by
    rw [hafter]
    intro decision hdecision hof
    obtain ⟨old, hold, hid⟩ := hquorum.decisions_of decision hdecision
    have hlt := hquorum.requests_old old hold
    rw [hid, hof, hrow] at hlt
    exact absurd hlt (lt_irrefl _)
  have hindex : row.currentStageIndex = 0 := by rw [hrow]; rfl
  have hsnapshot : row.approvalStagesSnapshot = config.approvalStages := by rw [hrow]; rfl
  refine stages_run (config.approvalStages.length - 1) hbooks hwait hfresh ?_ (hsnapshot ▸ hfills)
  rw [hindex, hsnapshot]
  omega

theorem leadsToApproval_of_attainable {id : Uuid} {version : Nat} (hs : s = run step {} actions)
    (hnewConfig : config = newConfig creator id version input) (hconfig : config ∈ s.configs)
    (hof : data.qualityConfigId = config.id) (hattainable : input.Attainable)
    (hmembers : ∀ n, ∃ members : List Uuid, members.Nodup ∧ n ≤ members.length ∧ ∀ member ∈ members,
      request.active member = true)
    (happrovers : ∀ member ∈ stageApprovers input.approvalStages, request.active member = true)
    (hfull : FullReports s data) (hpin : HashesPin s) (hunassessed : Unassessed s config data) :
    LeadsToApproval request data s := by
  have hbooks : EvidenceBooks s := hs ▸ evidenceBooks_run actions
  have hrequests : RequestBooks s := hs ▸ requestBooks_run actions
  have hstages : config.approvalStages = input.approvalStages := by rw [hnewConfig]; rfl
  have hminimums : config.minimumComponentScores = input.minimumComponentScores := by
    rw [hnewConfig]; rfl
  have htotal : config.minimumTotalScore ≤ 100 := by
    rw [hnewConfig]
    exact storedTotal_le input.total_range
  have hassess : ∃ assessment after, createAssessment request data s = .ok (assessment, after) ∧
      PassedAssessment s config data assessment :=
    createAssessment_full hrequests hbooks hconfig hof (hminimums ▸ hattainable.minimums) htotal
      hfull hpin hunassessed
  obtain ⟨assessment, assessed, hassess, hpassed⟩ := hassess
  have hactive : requireActive request (stageApprovers config.approvalStages) = .ok () := by
    rw [hstages]
    exact requireActive_ok.mpr happrovers
  have hstep : step s (.createAssessment request data) = assessed := by
    refine step_of_ok ?_
    rw [perform, hassess]
    rfl
  have hbooks' : EvidenceBooks assessed := hstep ▸ evidenceBooks_step s _ hbooks
  have hquorum : QuorumBooks assessed := by
    rw [← hstep, hs]
    exact quorumBooks_step _ _ (quorumBooks_run actions)
  obtain ⟨content, other, reports, scores, score, gate, _, hrecord⟩ := createAssessment_ok hassess
  have hafter := (recordAssessment_ok hrecord).2
  obtain ⟨row, requested, hrequest, hrow, hrequested⟩ := createApprovalRequest_full hbooks' hpassed
    (by simp [hafter]) (by rw [hafter]; exact hconfig)
    (by rw [hstages]; exact input.stages_nonempty) hactive (by rw [hafter]; exact hfull.current)
    (by
      rw [hafter, hpassed.id_new]
      exact fun row hrow => (hrequests.assessed row hrow).ne)
  have hstepRequest : step assessed
      (.createApprovalRequest request (approvalRequestFor data assessment)) = requested := by
    refine step_of_ok ?_
    rw [perform, hrequest]
    rfl
  have hquorumRequested : QuorumBooks requested := hstepRequest ▸ quorumBooks_step assessed _ hquorum
  have hcurrent := current_full (hs ▸ versionBooks_run actions) hfull.current
  obtain ⟨calls, hcalls, happroved⟩ := approved_of_requested hquorum hrow hrequested
    hquorumRequested (by rw [hafter]; exact hcurrent) (by rw [hstages]; exact input.stages_nonempty)
    (by
      rw [hstages]
      exact fun stage hstage => fills_of_attainable hattainable hmembers happrovers hstage)
  exact ⟨assessment, assessed, row, requested, calls, hassess, hpassed.pass, hrequest, hcalls,
    happroved⟩

/-! ## The condition is needed -/

/-- The request of this id has these stages. -/
structure HasStages (requestId : Uuid) (stages : List ApprovalStageConfig) (s : Store) : Prop where
  old : requestId < s.nextId
  stages_eq : ∀ row ∈ s.requests, row.id = requestId → row.approvalStagesSnapshot = stages

theorem hasStages_step {requestId : Uuid} {stages : List ApprovalStageConfig} (s : Store)
    (action : Action) (h : HasStages requestId stages s) :
    HasStages requestId stages (step s action) := by
  refine ⟨h.old.trans_le (step_change s action).nextId_le, ?_⟩
  have hchange := (step_change s action).requestsChange
  generalize step s action = after at *
  have hmapped : ∀ f : ApprovalRequest → ApprovalRequest, (∀ row, Retires row (f row)) →
      ∀ row ∈ s.requests.map f, row.id = requestId → row.approvalStagesSnapshot = stages := by
    intro f hf row hrow hid
    obtain ⟨old, hold, rfl⟩ := mem_map.mp hrow
    have hsame : (f old).approvalStagesSnapshot = old.approvalStagesSnapshot :=
      congrArg (·.2.2.2.2.2.1) (hf old).identity_eq
    rw [hsame]
    exact h.stages_eq old hold ((hf old).id_eq.symm.trans hid)
  cases hchange with
  | retired _ _ f hf hrequests =>
    rw [hrequests]
    exact hmapped f hf
  | requested _ _ f hf row _ _ hnew _ _ _ _ _ _ hrequests =>
    rw [hrequests]
    refine forall_mem_append.mpr ⟨hmapped f hf, forall_mem_singleton.mpr ?_⟩
    intro hid
    exact absurd h.old (by rw [← hid, hnew]; exact lt_irrefl _)
  | decided _ request data row stage quorum newStatus _ hrequests =>
    rw [hrequests]
    intro other hother hid
    obtain ⟨old, hold, ⟨_, rfl⟩ | ⟨_, rfl⟩⟩ := mem_updateRow hother
    · rw [stages_written]
      rw [id_written] at hid
      exact h.stages_eq old hold hid
    · exact h.stages_eq _ hold hid

/-- The approvers of an approved stage are distinct members of its list. -/
theorem required_le_listed (hrow : row ∈ (run step {} actions).requests)
    (happroved : row.status = .approved) {stage : ApprovalStageConfig}
    (hstage : stage ∈ row.approvalStagesSnapshot) (hlisted : stage.approverUserIds ≠ []) :
    stage.requiredApprovals ≤ stage.approverUserIds.dedup.length := by
  have hhistory := (quorumBooks_run actions).history row hrow
  obtain ⟨index, hindex⟩ := mem_iff_getElem?.mp hstage
  have hquorum := stageQuorum_of_history hhistory hindex (hhistory.every_quorum happroved hindex)
  refine hquorum.enough.trans ?_
  rw [← length_map (·.decidedBy)]
  refine (subperm_of_subset hquorum.distinct fun member hmember => ?_).length_le
  obtain ⟨decision, hdecision, rfl⟩ := mem_map.mp hmember
  exact mem_dedup.mpr ((hquorum.approves decision hdecision).2.2.2.2.2 hlisted)

theorem attainable_of_leadsToApproval {id : Uuid} {version : Nat} (hs : s = run step {} actions)
    (hnewConfig : config = newConfig creator id version input) (hconfig : config ∈ s.configs)
    (hof : data.qualityConfigId = config.id) (h : LeadsToApproval request data s) :
    input.Attainable := by
  obtain ⟨assessment, assessed, row, requested, calls, hassess, _, hrequest, _, later, hlater,
    hid, happroved⟩ := h
  have hbooks : EvidenceBooks s := hs ▸ evidenceBooks_run actions
  obtain ⟨content, other, reports, scores, score, gate, hassessed, hrecord⟩ :=
    createAssessment_ok hassess
  obtain ⟨hother, hotherId⟩ := configOf_ok hassessed.config_found
  obtain rfl : other = config := hbooks.configs_keyed.eq_of_key_eq hother hconfig (hotherId.trans hof)
  obtain ⟨hassessment, hafter⟩ := recordAssessment_ok hrecord
  have hstep : step s (.createAssessment request data) = assessed := by
    refine step_of_ok ?_
    rw [perform, hassess]
    rfl
  have hstepRequest : step assessed
      (.createApprovalRequest request (approvalRequestFor data assessment)) = requested := by
    refine step_of_ok ?_
    rw [perform, hrequest]
    rfl
  have hfinal : run step requested calls = run step {} (actions ++ .createAssessment request data ::
      .createApprovalRequest request (approvalRequestFor data assessment) :: calls) := by
    rw [run_append, run_cons, run_cons, ← hs, hstep, hstepRequest]
  constructor
  · have hgate := hassessed.gate_eq
    unfold evaluateQualityGate at hgate
    obtain ⟨failures, hfailures, _⟩ := bind_ok hgate
    have hrange := range_of_evaluateComponents hfailures
    rw [hnewConfig] at hrange
    exact hrange
  · intro stage hstage hlisted
    have hbooks' : EvidenceBooks assessed := hstep ▸ evidenceBooks_step s _ hbooks
    obtain ⟨row', _, found, used, middle, hrequested, hsupersede, hrow, hinsert⟩ :=
      createApprovalRequest_ok hrequest
    obtain ⟨hfound, hfoundId⟩ := assessmentOf_ok hrequested.assessment_found
    obtain rfl : found = assessment :=
      hbooks'.assessments_keyed.eq_of_key_eq hfound (by simp [hafter]) hfoundId
    obtain ⟨hused, husedId⟩ := configOf_ok hrequested.config_found
    obtain rfl : used = other := by
      refine hbooks'.configs_keyed.eq_of_key_eq hused (by rw [hafter]; exact hconfig) ?_
      rw [husedId, hassessment]
      rfl
    have hmiddle : middle = assessed := (Except.ok.inj hsupersede).symm
    have hrequestedStore := insertRequest_ok hinsert
    have hquorum : QuorumBooks requested := by
      rw [← hstepRequest, ← hstep, hs]
      exact quorumBooks_step _ _ (quorumBooks_step _ _ (quorumBooks_run actions))
    have hstages : HasStages row.id used.approvalStages requested := by
      constructor
      · rw [hrequestedStore, hrow]
        exact Nat.lt_succ_self _
      · intro same hsame hsameId
        have hrowMem : row ∈ requested.requests := by simp [hrequestedStore]
        rw [hquorum.keyed.eq_of_key_eq hsame hrowMem hsameId, hrow]
        rfl
    have hlaterStages := (invariant_run step hasStages_step hstages calls).stages_eq later hlater hid
    rw [hfinal] at hlater
    refine required_le_listed hlater happroved ?_ hlisted
    rw [hlaterStages, hnewConfig]
    exact hstage

theorem step_createQualityConfig {created : Store}
    (h : createQualityConfig creator input s = .ok (config, created)) :
    step s (.createQualityConfig creator input) = created := by
  refine step_of_ok ?_
  rw [perform, h]
  rfl

/-- An accepted config leads every current version with full reports to an approval exactly when
its component minimums are scores and its listed approvers suffice. -/
theorem leadsToApproval_iff (before more : List Action) {creator : Request}
    {input : QualityConfigCreate} {created : Store}
    (hcreate : createQualityConfig creator input (run step {} before) = .ok (config, created))
    (hof : data.qualityConfigId = config.id)
    (hmembers : ∀ n, ∃ members : List Uuid, members.Nodup ∧ n ≤ members.length ∧ ∀ member ∈ members,
      request.active member = true)
    (happrovers : ∀ member ∈ stageApprovers input.approvalStages, request.active member = true)
    (hfull : FullReports (run step created more) data) (hpin : HashesPin (run step created more))
    (hunassessed : Unassessed (run step created more) config data) :
    LeadsToApproval request data (run step created more) ↔ input.Attainable := by
  obtain ⟨hconfig, _, hcreated⟩ := createQualityConfig_ok hcreate
  have hs : run step created more =
      run step {} (before ++ .createQualityConfig creator input :: more) := by
    rw [run_append, run_cons, step_createQualityConfig hcreate]
  have hmem : config ∈ (run step created more).configs := by
    refine configs_kept_run created more config ?_
    rw [hcreated]
    exact mem_append_right _ mem_cons_self
  constructor
  · exact attainable_of_leadsToApproval hs hconfig hmem hof
  · intro hattainable
    exact leadsToApproval_of_attainable hs hconfig hmem hof hattainable hmembers happrovers hfull
      hpin hunassessed

end Full

end Config

/-- No later action takes back a decision, a policy event, a config or an override. -/
theorem evidence_append_only [QualityHash] (before after : List Action) :
    let s := run step {} before
    let t := run step {} (before ++ after)
    s.decisions <+: t.decisions ∧ (∀ event ∈ s.policyEvents, event ∈ t.policyEvents) ∧
      (∀ config ∈ s.configs, config ∈ t.configs) ∧
      ∀ eventId, overridden s eventId = true → overridden t eventId = true := by
  rw [run_append]
  refine ⟨decisions_prefix_run _ after, events_kept_run _ after, configs_kept_run _ after, ?_⟩
  exact relates_run step
    (R := fun s t : Store => ∀ eventId, overridden s eventId = true → overridden t eventId = true)
    (fun _ _ => id) (fun _ _ _ hst htu eventId hevent => htu eventId (hst eventId hevent))
    (fun s action => (step_grows s action).overridden_kept) _ after

section Sample

attribute [local instance] sampleHash

/-- Two approvals, by one listed approver. -/
def sampleShortStage : ApprovalStageConfig :=
  { sampleStage with requiredApprovals := 2, required_range := by decide }

def sampleShortConfig : QualityConfigCreate :=
  { sampleConfig with
    approvalStages := [sampleShortStage]
    stages_nonempty := by decide
    stages_length := by decide
    stages_keyed := nodup_singleton _ }

theorem sampleRequest_members (n : Nat) : ∃ members : List Uuid, members.Nodup ∧
    n ≤ members.length ∧ ∀ member ∈ members, sampleRequest.active member = true :=
  ⟨List.range n, nodup_range, length_range.ge, fun _ _ => rfl⟩

/-- A sample config accepted in a workspace with one content, and the six reports after it. -/
structure SampleWorkspace (input : QualityConfigCreate) (config : WorkspaceQualityConfig)
    (created : Store) : Prop where
  accepted : createQualityConfig sampleRequest input (run step {} [sampleContent]) =
    .ok (config, created)
  config_id : sampleAssessment.qualityConfigId = config.id
  full : FullReports (run step created sampleReports) sampleAssessment
  unassessed : (run step created sampleReports).assessments = []

theorem sampleWorkspace_of_check (input : QualityConfigCreate)
    (haccepted : ((createQualityConfig sampleRequest input
      (run step {} [sampleContent])).toOption.any fun result =>
        decide (sampleAssessment.qualityConfigId = result.1.id) &&
        decide (FullReports (run step result.2 sampleReports) sampleAssessment) &&
        decide ((run step result.2 sampleReports).assessments = [])) = true) :
    ∃ config created, SampleWorkspace input config created := by
  cases hcreate : createQualityConfig sampleRequest input (run step {} [sampleContent]) with
  | error error =>
    rw [hcreate] at haccepted
    cases haccepted
  | ok result =>
    rw [hcreate] at haccepted
    simp only [Except.toOption, Option.any_some, Bool.and_eq_true, decide_eq_true_eq] at haccepted
    exact ⟨result.1, result.2, hcreate, haccepted.1.1, haccepted.1.2, haccepted.2⟩

/-- The config of the sample leads to an approval. -/
theorem sampleConfig_leadsToApproval : ∃ config created, SampleWorkspace sampleConfig config created ∧
      LeadsToApproval sampleRequest sampleAssessment (run step created sampleReports) := by
  obtain ⟨config, created, hsample⟩ := sampleWorkspace_of_check sampleConfig
    (by decide +kernel)
  refine ⟨config, created, hsample, ?_⟩
  refine (leadsToApproval_iff [sampleContent] sampleReports hsample.accepted hsample.config_id
    sampleRequest_members (fun _ _ => rfl) hsample.full ?_ ?_).mpr ⟨?_, ?_⟩
  · intro stored hstored
    rw [hsample.unassessed] at hstored
    cases hstored
  · intro stored hstored
    rw [hsample.unassessed] at hstored
    cases hstored
  · decide +kernel
  · decide +kernel

/-- One listed approver cannot give two approvals: the config is accepted, and no run of
approvals of the full reports leads to `APPROVED`. -/
theorem sampleShortConfig_stuck : ∃ config created, SampleWorkspace sampleShortConfig config created ∧
      ¬ LeadsToApproval sampleRequest sampleAssessment (run step created sampleReports) := by
  obtain ⟨config, created, hsample⟩ := sampleWorkspace_of_check sampleShortConfig
    (by decide +kernel)
  refine ⟨config, created, hsample, fun hleads => ?_⟩
  obtain ⟨hconfig, _, hcreated⟩ := createQualityConfig_ok hsample.accepted
  have hs : run step created sampleReports = run step {} ([sampleContent] ++
      .createQualityConfig sampleRequest sampleShortConfig :: sampleReports) := by
    rw [run_append, run_cons, step_createQualityConfig hsample.accepted]
  have hmem : config ∈ (run step created sampleReports).configs := by
    refine configs_kept_run created sampleReports config ?_
    rw [hcreated]
    exact mem_append_right _ mem_cons_self
  have hattainable := attainable_of_leadsToApproval hs hconfig hmem hsample.config_id hleads
  have hshort := hattainable.approvers sampleShortStage mem_cons_self (by decide)
  exact absurd hshort (by decide)

end Sample

end BlogOps.Quality
