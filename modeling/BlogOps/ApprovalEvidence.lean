import BlogOps.ApprovalQuorum

/-!
# Approvals and policy findings

A finding is normalized when its report is created, judged again when an
override is asked for, resolved at assessment time and checked at request time
from the stored id lists.  The four derivations agree: an approval request is
created over no unresolved block.
-/

namespace BlogOps.Quality

open KeyedTables TransitionRuns List

def PolicyFindingInput.blocking (item : PolicyFindingInput) : Bool :=
  item.hardBlock || item.severity = .block || item.action = .block

theorem blocking_normalizePolicyInput (item : PolicyFindingInput) :
    (normalizePolicyInput item).blocking = item.blocking := by
  obtain ⟨_, layer, _, action, severity, hardBlock, _, _, _⟩ := item
  cases layer <;> cases action <;> cases severity <;> cases hardBlock <;> rfl

/-- After the normalization the action adds nothing to hard block and severity. -/
theorem blocks_normalizePolicyInput (item : PolicyFindingInput) :
    ((normalizePolicyInput item).hardBlock || (normalizePolicyInput item).severity = .block) =
      item.blocking := by
  obtain ⟨_, layer, _, action, severity, hardBlock, _, _, _⟩ := item
  cases layer <;> cases action <;> cases severity <;> cases hardBlock <;> rfl

theorem closed_normalizePolicyInput {item : PolicyFindingInput} (hblocking : item.blocking = true)
    (hlayer : item.layer ∈ nonOverrideableHardBlockLayers) :
    (normalizePolicyInput item).overrideAllowed = false := by
  have hblocks := blocks_normalizePolicyInput item
  rw [hblocking] at hblocks
  have hcondition : ((normalizePolicyInput item).hardBlock ||
      (normalizePolicyInput item).severity = .block) = true ∧
        item.layer ∈ nonOverrideableHardBlockLayers := ⟨hblocks, hlayer⟩
  exact if_pos (by simpa [normalizePolicyInput] using hcondition)

theorem overrideAllowed_of_normalizePolicyInput {item : PolicyFindingInput}
    (h : (normalizePolicyInput item).overrideAllowed = true) : item.overrideAllowed = true := by
  cases hitem : item.overrideAllowed with
  | true => rfl
  | false => simp [normalizePolicyInput, hitem] at h

def PolicyEvent.blocks (event : PolicyEvent) : Bool := event.hardBlock || event.severity = .block

/-- The flags of a stored event agree, and a block of the upper layers is not overrideable. -/
structure Normal (event : PolicyEvent) : Prop where
  blocks : event.blocking = event.blocks
  closed : event.blocks = true → event.layer ∈ nonOverrideableHardBlockLayers → event.overrideAllowed = false

theorem normal_newPolicyEvent [QualityHash] (request : Request) (id : Uuid) (content : ContentVersionSnapshot)
    (reportId assessmentId : Option Uuid) (ruleHash policyHash : String) (item : PolicyFindingInput) :
    Normal (newPolicyEvent request id content reportId assessmentId ruleHash policyHash
      (normalizePolicyInput item)) := by
  have hblocks := blocks_normalizePolicyInput item
  constructor
  · exact (blocking_normalizePolicyInput item).trans hblocks.symm
  · intro h hlayer
    exact closed_normalizePolicyInput (hblocks.symm.trans h) hlayer

theorem normal_thresholdEvent [QualityHash] (request : Request) (id assessmentId : Uuid)
    (content : ContentVersionSnapshot) (config : WorkspaceQualityConfig) (failed : List FailedThreshold) :
    Normal (thresholdEvent request id assessmentId content config failed) := by
  have hseverity : (thresholdEvent request id assessmentId content config failed).severity =
      .block := rfl
  have hlayer : (thresholdEvent request id assessmentId content config failed).layer = .workspace := rfl
  constructor
  · unfold PolicyEvent.blocking PolicyEvent.blocks
    simp [hseverity]
  · intro _ hupper
    rw [hlayer] at hupper
    exact absurd hupper (by decide)

variable {event : PolicyEvent}

/-- An overridable block is one of the workspace or of the content. -/
theorem Normal.layer (h : Normal event) (hblocks : event.blocks = true)
    (hallowed : event.overrideAllowed = true) : event.layer = .workspace ∨ event.layer = .content := by
  by_contra hlayer
  have hupper : event.layer ∈ nonOverrideableHardBlockLayers := by
    cases hevent : event.layer <;> simp_all [nonOverrideableHardBlockLayers]
  rw [h.closed hblocks hupper] at hallowed
  cases hallowed

/-- The event belongs to a report that the assessment used. -/
def UsedBy (s : Store) (assessmentId : Uuid) (event : PolicyEvent) : Prop :=
  ∃ link ∈ s.assessmentReports, link.assessmentId = assessmentId ∧ event.reportId = some link.reportId

/-- The total or a component score is below its minimum in the config. -/
def BelowMinimum (assessment : QualityAssessment) (config : WorkspaceQualityConfig) : Prop :=
  assessment.totalScore < config.minimumTotalScore ∨
    ∃ minimum ∈ config.minimumComponentScores, ∃ score ∈ assessment.componentScores,
      score.1 = minimum.1 ∧ score.2 < minimum.2

def IsThresholdEvent (assessmentId : Uuid) (event : PolicyEvent) : Prop :=
  event.assessmentId = some assessmentId ∧ event.ruleCode = "QUALITY_THRESHOLD"

/-- The id lists of an assessment cover what blocks it now. -/
structure SoundAssessment (s : Store) (assessment : QualityAssessment) : Prop where
  closed : ∀ event ∈ s.policyEvents, UsedBy s assessment.id event → event.blocks = true →
    event.overrideAllowed = false →
    event.id ∈ assessment.blockingPolicyEventIds ∧ event.id ∈ assessment.nonOverrideablePolicyEventIds
  listed : ∀ event ∈ s.policyEvents, UsedBy s assessment.id event → event.blocks = true →
    event.id ∈ assessment.blockingPolicyEventIds ∨ overridden s event.id = true
  threshold : ∀ config ∈ s.configs, config.id = assessment.qualityConfigId →
    BelowMinimum assessment config → ∃ event ∈ s.policyEvents, IsThresholdEvent assessment.id event ∧
        event.id ∈ assessment.blockingPolicyEventIds ∧
        (config.thresholdOverrideAllowed = false → event.id ∈ assessment.nonOverrideablePolicyEventIds)

/-- The evidence of the workspace: ids were given out before, events are normal and
assessments sound. -/
structure EvidenceBooks (s : Store) : Prop where
  configs_old : ∀ config ∈ s.configs, config.id < s.nextId
  assessments_keyed : Keyed (·.id) s.assessments
  assessments_old : ∀ assessment ∈ s.assessments,
    assessment.id < s.nextId ∧ assessment.qualityConfigId < s.nextId
  configs_keyed : Keyed (·.id) s.configs
  reports_old : ∀ report ∈ s.reports, report.id < s.nextId
  links_old : ∀ link ∈ s.assessmentReports, link.assessmentId < s.nextId ∧ link.reportId < s.nextId
  events_old : ∀ event ∈ s.policyEvents, ∀ reportId ∈ event.reportId, reportId < s.nextId
  events_normal : ∀ event ∈ s.policyEvents, Normal event
  assessments_sound : ∀ assessment ∈ s.assessments, SoundAssessment s assessment

theorem evidenceBooks_empty : EvidenceBooks {} where
  configs_old _ h := by cases h
  assessments_keyed := nodup_nil
  assessments_old _ h := by cases h
  configs_keyed := nodup_nil
  reports_old _ h := by cases h
  links_old _ h := by cases h
  events_old _ h := by cases h
  events_normal _ h := by cases h
  assessments_sound _ h := by cases h

/-- An eligible assessment lists no block, or only blocks that are overridden now. -/
theorem eligible_cases {s : Store} {assessment : QualityAssessment}
    (heligible : assertAssessmentApprovalEligible s assessment = .ok ()) :
    assessment.nonOverrideablePolicyEventIds = [] ∧
        (∀ id ∈ assessment.blockingPolicyEventIds, overridden s id = true) ∨
      assessment.blockingPolicyEventIds = [] := by
  unfold assertAssessmentApprovalEligible at heligible
  split_ifs at heligible with hempty _ hclosed hopen
  · exact .inr hempty
  · refine .inl ⟨not_not.mp hclosed, fun id hid => ?_⟩
    by_contra hnot
    exact hopen ⟨id, hid, by simpa using hnot⟩

/-- Evidence is only added, and what is new has a new id or is of something new. -/
structure Grows (s after : Store) : Prop where
  nextId_le : s.nextId ≤ after.nextId
  configs : ∀ config ∈ after.configs, config ∈ s.configs ∨ s.nextId ≤ config.id
  links : ∀ link ∈ after.assessmentReports, link ∈ s.assessmentReports ∨ s.nextId ≤ link.assessmentId
  events : ∀ event ∈ after.policyEvents,
    event ∈ s.policyEvents ∨ ∀ reportId ∈ event.reportId, s.nextId ≤ reportId
  events_kept : ∀ event ∈ s.policyEvents, event ∈ after.policyEvents
  overridden_kept : ∀ eventId, overridden s eventId = true → overridden after eventId = true

/-- The evidence tables are as they were. -/
structure SameEvidence (s after : Store) : Prop where
  configs : after.configs = s.configs
  reports : after.reports = s.reports
  policyEvents : after.policyEvents = s.policyEvents
  policyOverrides : after.policyOverrides = s.policyOverrides
  assessments : after.assessments = s.assessments
  assessmentReports : after.assessmentReports = s.assessmentReports
  nextId_le : s.nextId ≤ after.nextId

theorem SameEvidence.grows {s after : Store} (h : SameEvidence s after) : Grows s after where
  nextId_le := h.nextId_le
  configs config hconfig := .inl (h.configs ▸ hconfig)
  links link hlink := .inl (h.assessmentReports ▸ hlink)
  events event hevent := .inl (h.policyEvents ▸ hevent)
  events_kept event hevent := h.policyEvents ▸ hevent
  overridden_kept eventId hold := by
    unfold overridden at *
    rwa [h.policyOverrides]

theorem SoundAssessment.grows {s after : Store} {assessment : QualityAssessment}
    (h : SoundAssessment s assessment) (hgrows : Grows s after) (hid : assessment.id < s.nextId)
    (hconfigId : assessment.qualityConfigId < s.nextId)
    (hlinks : ∀ link ∈ s.assessmentReports, link.reportId < s.nextId) : SoundAssessment after assessment := by
  have hused : ∀ event ∈ after.policyEvents, UsedBy after assessment.id event →
      event ∈ s.policyEvents ∧ UsedBy s assessment.id event := by
    rintro event hevent ⟨link, hlink, hof, hreport⟩
    have hlinkOld : link ∈ s.assessmentReports := by
      refine (hgrows.links link hlink).resolve_right fun hnew => ?_
      rw [hof] at hnew
      exact absurd hid hnew.not_gt
    have heventOld : event ∈ s.policyEvents := by
      refine (hgrows.events event hevent).resolve_right fun hnew => ?_
      exact absurd (hlinks link hlinkOld) (hnew link.reportId hreport).not_gt
    exact ⟨heventOld, link, hlinkOld, hof, hreport⟩
  constructor
  · intro event hevent huse
    obtain ⟨hold, huseOld⟩ := hused event hevent huse
    exact h.closed event hold huseOld
  · intro event hevent huse hblocks
    obtain ⟨hold, huseOld⟩ := hused event hevent huse
    exact (h.listed event hold huseOld hblocks).imp_right (hgrows.overridden_kept event.id)
  · intro config hconfig hof hbelow
    have hold : config ∈ s.configs := by
      refine (hgrows.configs config hconfig).resolve_right fun hnew => ?_
      rw [hof] at hnew
      exact absurd hconfigId hnew.not_gt
    obtain ⟨event, hevent, hthreshold⟩ := h.threshold config hold hof hbelow
    exact ⟨event, hgrows.events_kept event hevent, hthreshold⟩

theorem overridden_append {s after : Store} {more : List PolicyOverride}
    (h : after.policyOverrides = s.policyOverrides ++ more) (eventId : Uuid)
    (hold : overridden s eventId = true) : overridden after eventId = true := by
  unfold overridden at *
  rw [h, any_append, hold]
  rfl

section Evidence

variable [QualityHash]

theorem reportId_newPolicyEvents {request : Request} {firstId reportId : Uuid}
    {content : ContentVersionSnapshot} {ruleHash policyHash : String} {findings : List PolicyFindingInput}
    (h : event ∈ newPolicyEvents request firstId content reportId ruleHash policyHash findings) :
    ∃ id, ∃ finding ∈ findings, event =
      newPolicyEvent request id content (some reportId) none ruleHash policyHash finding := by
  unfold newPolicyEvents at h
  obtain ⟨index, hindex, rfl⟩ := mem_mapIdx.mp h
  exact ⟨_, _, getElem_mem hindex, rfl⟩

theorem mem_thresholdEvents {request : Request} {s : Store} {content : ContentVersionSnapshot}
    {config : WorkspaceQualityConfig} {gate : QualityGateResult}
    (h : event ∈ thresholdEvents request s content config gate) :
    event = thresholdEvent request (s.nextId + 1) s.nextId content config
      gate.failedThresholds := by
  unfold thresholdEvents at h
  split_ifs at h
  · cases h
  · exact mem_singleton.mp h

theorem EvidenceChange.grows {s after : Store} (h : EvidenceChange s after) : Grows s after := by
  cases h with
  | config request data version =>
    refine ⟨Nat.le_succ _, fun config hconfig => ?_, fun _ => .inl, fun _ => .inl, fun _ => id, fun _ => id⟩
    rw [mem_append, mem_singleton] at hconfig
    rcases hconfig with hconfig | rfl
    · exact .inl hconfig
    · exact .inr le_rfl
  | report request content data ruleHash policyHash =>
    refine ⟨Nat.le_add_right_of_le (Nat.le_succ _), fun _ => .inl, fun _ => .inl, ?_,
      fun _ => mem_append_left _, fun _ => id⟩
    intro event hevent
    rcases mem_append.mp hevent with hevent | hevent
    · exact .inl hevent
    · obtain ⟨id, finding, _, rfl⟩ := reportId_newPolicyEvents hevent
      right
      rintro reportId hreport
      obtain rfl := Option.some.inj hreport
      exact le_rfl
  | assessment request data content config reports scores score gate assessment _ _ hrecord =>
    obtain ⟨hassessment, rfl⟩ := recordAssessment_ok hrecord
    refine ⟨Nat.le_add_right _ _, fun _ => .inl, ?_, ?_, fun _ => mem_append_left _, fun _ => id⟩
    · intro link hlink
      rcases mem_append.mp hlink with hlink | hlink
      · exact .inl hlink
      · obtain ⟨report, _, rfl⟩ := mem_map.mp hlink
        rw [hassessment]
        exact .inr le_rfl
    · intro event hevent
      rcases mem_append.mp hevent with hevent | hevent
      · exact .inl hevent
      · rw [mem_thresholdEvents hevent]
        right
        intro reportId hreport
        cases hreport
  | override request event data =>
    exact ⟨Nat.le_succ _, fun _ => .inl, fun _ => .inl, fun _ => .inl, fun _ => id, overridden_append rfl⟩

theorem Change.evidence_or_same {s after : Store} {action : Action} (h : Change s action after) :
    EvidenceChange s after ∨ SameEvidence s after := by
  have hnext := h.nextId_le
  cases h with
  | evidence _ _ h => exact .inl h
  | requested _ _ _ _ _ _ _ _ hmiddle =>
    right
    rcases hmiddle with rfl | ⟨_, rfl⟩ <;> exact ⟨rfl, rfl, rfl, rfl, rfl, rfl, hnext⟩
  | _ => exact .inr ⟨rfl, rfl, rfl, rfl, rfl, rfl, hnext⟩

theorem step_grows (s : Store) (action : Action) : Grows s (step s action) :=
  (step_change s action).evidence_or_same.elim EvidenceChange.grows SameEvidence.grows

section Assess

variable {request : Request} {data : QualityAssessmentCreate} {s after : Store}
  {content : ContentItem} {config : WorkspaceQualityConfig} {reports : List QualityReport}
  {scores : QualityComponent → ℚ} {score : QualityScoreBreakdown} {gate : QualityGateResult}
  {assessment : QualityAssessment}

omit [QualityHash] in
/-- A finding of the used reports that may not be overridden is listed in both lists. -/
theorem mem_of_closed (hevent : event ∈ eventsOfReports s reports) (hblocks : event.blocks = true)
    (hclosed : event.overrideAllowed = false) : event.id ∈ (assessPolicy s reports).blockingEventKeys ∧
      event.id ∈ (assessPolicy s reports).nonOverrideableEventKeys := by
  have hfinding : policyFindingFromEvent event ∈
      (eventsOfReports s reports).map policyFindingFromEvent := mem_map_of_mem hevent
  have hnormal : (normalizeFinding (policyFindingFromEvent event)).overrideAllowed = false := by
    have hblocks' : (policyFindingFromEvent event).blocks = true := hblocks
    rw [← Bool.not_eq_true, overrideAllowed_normalizeFinding hblocks']
    rintro ⟨hallowed, _⟩
    rw [show (policyFindingFromEvent event).overrideAllowed = event.overrideAllowed from rfl,
      hclosed] at hallowed
    cases hallowed
  constructor
  · exact mem_blockingEventKeys.mpr ⟨_, hfinding, hblocks, rfl, .inl hnormal⟩
  · exact mem_nonOverrideableEventKeys.mpr ⟨_, hfinding, hblocks, rfl, hnormal⟩

omit [QualityHash] in
/-- A blocking finding of the used reports is listed or overridden. -/
theorem mem_or_overridden (hevent : event ∈ eventsOfReports s reports) (hblocks : event.blocks = true) :
    event.id ∈ (assessPolicy s reports).blockingEventKeys ∨ overridden s event.id = true := by
  by_cases hlisted : event.id ∈ (assessPolicy s reports).blockingEventKeys
  · exact .inl hlisted
  · right
    have hfinding : policyFindingFromEvent event ∈
        (eventsOfReports s reports).map policyFindingFromEvent := mem_map_of_mem hevent
    have hkey : event.id ∈ (s.policyOverrides.filter fun override =>
        (eventsOfReports s reports).any (·.id = override.policyEventId)).map (·.policyEventId) := by
      by_contra hnot
      exact hlisted (mem_blockingEventKeys.mpr ⟨_, hfinding, hblocks, rfl, .inr hnot⟩)
    obtain ⟨override, hoverride, hof⟩ := mem_map.mp hkey
    exact any_eq_true.mpr ⟨override, mem_of_mem_filter hoverride, by simpa using hof⟩

omit [QualityHash] in
/-- A score below its minimum is a missed threshold of the gate. -/
theorem failedThresholds_ne_nil {policy : PolicyResolution}
    (hgate : evaluateQualityGate score config.minimumTotalScore config.minimumComponentScores policy
      = .ok gate)
    (hbelow : score.total < config.minimumTotalScore ∨ ∃ minimum ∈ config.minimumComponentScores,
      score.componentScores minimum.1 < minimum.2) : gate.failedThresholds ≠ [] := by
  unfold evaluateQualityGate at hgate
  obtain ⟨components, hcomponents, hgate⟩ := bind_ok hgate
  cases hgate
  rcases hbelow with htotal | ⟨⟨component, minimum⟩, hmem, hlow⟩
  · simp [htotal]
  · have hne := evaluateComponents_ne_nil hcomponents hmem hlow
    dsimp only
    split_ifs
    · simp
    · exact hne

theorem below_of_belowMinimum {payload : AssessmentPayload} {id contentId configId : Uuid}
    (hpayload : payload.totalScore = score.total ∧ payload.componentScores =
      QualityComponent.all.map fun component => (component, score.componentScores component))
    (h : BelowMinimum (newAssessment request id contentId configId payload) config) :
    score.total < config.minimumTotalScore ∨
      ∃ minimum ∈ config.minimumComponentScores, score.componentScores minimum.1 < minimum.2 := by
  obtain ⟨htotal, hcomponents⟩ := hpayload
  rcases h with hlow | ⟨minimum, hmem, entry, hentry, hcomponent, hlow⟩
  · exact .inl (htotal ▸ hlow)
  · right
    rw [show (newAssessment request id contentId configId payload).componentScores =
      payload.componentScores from rfl, hcomponents] at hentry
    obtain ⟨component, _, rfl⟩ := mem_map.mp hentry
    exact ⟨minimum, hmem, hcomponent ▸ hlow⟩

/-- The recorded assessment lists every block it does not find overridden. -/
theorem soundAssessment_record {snapshot : ContentVersionSnapshot} (hbooks : EvidenceBooks s)
    (hassessed : Assessed request data s content config reports scores score gate)
    (hrecord : recordAssessment request snapshot config reports score (assessPolicy s reports) gate
      s = .ok (assessment, after)) :
    SoundAssessment after assessment := by
  obtain ⟨rfl, rfl⟩ := recordAssessment_ok hrecord
  -- The links of the new assessment are those of the given reports.
  have hused : ∀ event, event ∈ s.policyEvents ++ thresholdEvents request s snapshot config gate →
      (∃ link ∈ s.assessmentReports ++ reports.map (assessmentLink s.nextId),
        link.assessmentId = s.nextId ∧ event.reportId = some link.reportId) →
      event ∈ eventsOfReports s reports := by
    rintro event hevent ⟨link, hlink, hof, hreport⟩
    have hold : event ∈ s.policyEvents := by
      refine (mem_append.mp hevent).resolve_right fun hnew => ?_
      rw [mem_thresholdEvents hnew] at hreport
      cases hreport
    have hnew : link ∈ reports.map (assessmentLink s.nextId) := by
      refine (mem_append.mp hlink).resolve_left fun hlink => ?_
      exact (hbooks.links_old link hlink).1.ne hof
    obtain ⟨report, hmem, rfl⟩ := mem_map.mp hnew
    refine mem_filter.mpr ⟨hold, any_eq_true.mpr ⟨report, hmem, ?_⟩⟩
    simpa [assessmentLink] using hreport
  constructor
  · intro event hevent huse hblocks hclosed
    obtain ⟨hblocking, hfixed⟩ := mem_of_closed (hused event hevent huse) hblocks hclosed
    exact ⟨mem_append_left _ hblocking, mem_append_left _ hfixed⟩
  · intro event hevent huse hblocks
    rcases mem_or_overridden (hused event hevent huse) hblocks with hlisted | hoverridden
    · exact .inl (mem_append_left _ hlisted)
    · exact .inr hoverridden
  · intro other hother hof hbelow
    obtain rfl : other = config :=
      hbooks.configs_keyed.eq_of_key_eq hother (configOf_ok hassessed.config_found).1 hof
    have hfailed := failedThresholds_ne_nil hassessed.gate_eq (below_of_belowMinimum ⟨rfl, rfl⟩ hbelow)
    refine ⟨thresholdEvent request (s.nextId + 1) s.nextId snapshot other gate.failedThresholds,
      ?_, ⟨rfl, rfl⟩, ?_, fun hfixed => ?_⟩
    · refine mem_append_right _ ?_
      rw [thresholdEvents, if_neg hfailed]
      exact mem_singleton_self _
    · refine mem_append_right _ ?_
      rw [if_neg hfailed]
      exact mem_singleton_self _
    · refine mem_append_right _ ?_
      rw [if_neg (by simp [hfailed, hfixed])]
      exact mem_singleton_self _

end Assess

omit [QualityHash] in
theorem EvidenceBooks.same {s after : Store} (h : EvidenceBooks s) (hsame : SameEvidence s after) :
    EvidenceBooks after := by
  have hle := hsame.nextId_le
  have hgrows := hsame.grows
  constructor
  · rw [hsame.configs]
    exact fun config hconfig => (h.configs_old config hconfig).trans_le hle
  · rw [hsame.assessments]
    exact h.assessments_keyed
  · rw [hsame.assessments]
    intro assessment hassessment
    exact (h.assessments_old assessment hassessment).imp (·.trans_le hle) (·.trans_le hle)
  · rw [hsame.configs]
    exact h.configs_keyed
  · rw [hsame.reports]
    exact fun report hreport => (h.reports_old report hreport).trans_le hle
  · rw [hsame.assessmentReports]
    intro link hlink
    exact (h.links_old link hlink).imp (·.trans_le hle) (·.trans_le hle)
  · rw [hsame.policyEvents]
    exact fun event hevent reportId hof => (h.events_old event hevent reportId hof).trans_le hle
  · rw [hsame.policyEvents]
    exact h.events_normal
  · rw [hsame.assessments]
    intro assessment hassessment
    obtain ⟨hid, hconfig⟩ := h.assessments_old assessment hassessment
    exact (h.assessments_sound assessment hassessment).grows hgrows hid hconfig
      fun link hlink => (h.links_old link hlink).2

omit [QualityHash] in
theorem assessedReports_mem {s : Store} {content : ContentVersionSnapshot}
    {reportIds : List (ReportKind × Uuid)} {reports : List QualityReport}
    (h : assessedReports s content reportIds = .ok reports) : ∀ report ∈ reports, report ∈ s.reports := by
  induction reportIds generalizing reports with
  | nil =>
    cases h
    simp
  | cons entry rest ih =>
    obtain ⟨kind, reportId⟩ := entry
    rw [assessedReports] at h
    obtain ⟨report, hreport, h⟩ := bind_ok h
    obtain ⟨others, hothers, h⟩ := bind_ok h
    cases h
    unfold assessedReport at hreport
    obtain ⟨found, hfound, hreport⟩ := bind_ok hreport
    split_ifs at hreport
    obtain ⟨⟨⟩, _, hreport⟩ := bind_ok hreport
    cases hreport
    exact forall_mem_cons.mpr ⟨(reportOf_ok hfound).1, ih hothers⟩

theorem EvidenceBooks.grown {s after : Store} (h : EvidenceBooks s)
    (hchange : EvidenceChange s after) : EvidenceBooks after := by
  have hgrows := hchange.grows
  have hsound : ∀ assessment ∈ s.assessments, SoundAssessment after assessment := by
    intro assessment hassessment
    obtain ⟨hid, hconfig⟩ := h.assessments_old assessment hassessment
    exact (h.assessments_sound assessment hassessment).grows hgrows hid hconfig
      fun link hlink => (h.links_old link hlink).2
  have hle := hgrows.nextId_le
  have hconfigs : ∀ config ∈ s.configs, config.id < after.nextId :=
    fun config hconfig => (h.configs_old config hconfig).trans_le hle
  have hassessments : ∀ assessment ∈ s.assessments,
      assessment.id < after.nextId ∧ assessment.qualityConfigId < after.nextId :=
    fun assessment hassessment =>
      (h.assessments_old assessment hassessment).imp (·.trans_le hle) (·.trans_le hle)
  have hreports : ∀ report ∈ s.reports, report.id < after.nextId :=
    fun report hreport => (h.reports_old report hreport).trans_le hle
  have hlinks : ∀ link ∈ s.assessmentReports,
      link.assessmentId < after.nextId ∧ link.reportId < after.nextId :=
    fun link hlink => (h.links_old link hlink).imp (·.trans_le hle) (·.trans_le hle)
  have hevents : ∀ event ∈ s.policyEvents, ∀ reportId ∈ event.reportId, reportId < after.nextId :=
    fun event hevent reportId hof => (h.events_old event hevent reportId hof).trans_le hle
  cases hchange with
  | config request data version =>
    refine ⟨?_, h.assessments_keyed, hassessments, ?_, hreports, hlinks, hevents, h.events_normal, hsound⟩
    · exact forall_mem_append.mpr ⟨hconfigs, forall_mem_singleton.mpr (Nat.lt_succ_self _)⟩
    · exact h.configs_keyed.append_row fun other hother => (h.configs_old other hother).ne
  | report request content data ruleHash policyHash =>
    have hnew : s.nextId < s.nextId + 1 + (policyInputs data).length :=
      Nat.lt_add_right _ (Nat.lt_succ_self _)
    refine ⟨hconfigs, h.assessments_keyed, hassessments, h.configs_keyed, ?_, hlinks, ?_, ?_, hsound⟩
    · exact forall_mem_append.mpr ⟨hreports, forall_mem_singleton.mpr hnew⟩
    · refine forall_mem_append.mpr ⟨hevents, fun event hevent => ?_⟩
      obtain ⟨id, finding, _, rfl⟩ := reportId_newPolicyEvents hevent
      intro reportId hof
      obtain rfl := Option.some.inj hof
      exact hnew
    · refine forall_mem_append.mpr ⟨h.events_normal, fun event hevent => ?_⟩
      obtain ⟨id, finding, hfinding, rfl⟩ := reportId_newPolicyEvents hevent
      obtain ⟨item, _, rfl⟩ := mem_map.mp hfinding
      exact normal_newPolicyEvent request id content _ _ ruleHash policyHash item
  | assessment request data content config reports scores score gate assessment _ hassessed
      hrecord =>
    have hnewSound := soundAssessment_record h hassessed hrecord
    obtain ⟨hassessment, rfl⟩ := recordAssessment_ok hrecord
    have hid : assessment.id = s.nextId := by rw [hassessment]; rfl
    have hconfigId : assessment.qualityConfigId = config.id := by rw [hassessment]; rfl
    have hnew : s.nextId < s.nextId + 2 := Nat.lt_add_of_pos_right (by decide)
    refine ⟨hconfigs, ?_, ?_, h.configs_keyed, hreports, ?_, ?_, ?_, ?_⟩
    · exact h.assessments_keyed.append_row fun other hother =>
        hid ▸ (h.assessments_old other hother).1.ne
    · refine forall_mem_append.mpr ⟨hassessments, forall_mem_singleton.mpr ?_⟩
      rw [hid, hconfigId]
      exact ⟨hnew, hconfigs config (configOf_ok hassessed.config_found).1⟩
    · refine forall_mem_append.mpr ⟨hlinks, fun link hlink => ?_⟩
      obtain ⟨report, hreport, rfl⟩ := mem_map.mp hlink
      refine ⟨?_, hreports report (assessedReports_mem hassessed.reports_found report hreport)⟩
      rw [show (assessmentLink assessment.id report).assessmentId = assessment.id from rfl, hid]
      exact hnew
    · refine forall_mem_append.mpr ⟨hevents, fun event hevent => ?_⟩
      rw [mem_thresholdEvents hevent]
      intro reportId hof
      cases hof
    · refine forall_mem_append.mpr ⟨h.events_normal, fun event hevent => ?_⟩
      rw [mem_thresholdEvents hevent]
      exact normal_thresholdEvent _ _ _ _ _ _
    · exact forall_mem_append.mpr ⟨hsound, forall_mem_singleton.mpr hnewSound⟩
  | override request event data =>
    exact ⟨hconfigs, h.assessments_keyed, hassessments, h.configs_keyed, hreports, hlinks, hevents,
      h.events_normal, hsound⟩

theorem evidenceBooks_step (s : Store) (action : Action) (h : EvidenceBooks s) :
    EvidenceBooks (step s action) :=
  (step_change s action).evidence_or_same.elim h.grown h.same

theorem evidenceBooks_run (actions : List Action) : EvidenceBooks (run step {} actions) :=
  invariant_run step evidenceBooks_step evidenceBooks_empty actions

theorem events_kept_run (s : Store) (actions : List Action) :
    ∀ event ∈ s.policyEvents, event ∈ (run step s actions).policyEvents :=
  relates_run step (R := fun s t : Store => ∀ event ∈ s.policyEvents, event ∈ t.policyEvents)
    (fun _ _ => id) (fun _ _ _ hst htu event hevent => htu event (hst event hevent))
    (fun s action => (step_grows s action).events_kept) s actions

/-- A block that was lifted: one of the workspace or of the content that may be overridden
and is. -/
structure Lifted (s : Store) (event : PolicyEvent) : Prop where
  layer : event.layer = .workspace ∨ event.layer = .content
  allowed : event.overrideAllowed = true
  overridden : overridden s event.id = true

omit [QualityHash] in
theorem lifted_of_eligible {s : Store} {assessment : QualityAssessment} (hbooks : EvidenceBooks s)
    (hassessment : assessment ∈ s.assessments)
    (heligible : assertAssessmentApprovalEligible s assessment = .ok ()) (hevent : event ∈ s.policyEvents)
    (huse : UsedBy s assessment.id event) (hblocking : event.blocking = true) : Lifted s event := by
  have hnormal := hbooks.events_normal event hevent
  have hsound := hbooks.assessments_sound assessment hassessment
  have hblocks : event.blocks = true := hnormal.blocks ▸ hblocking
  have hallowed : event.overrideAllowed = true := by
    by_contra hclosed
    rw [Bool.not_eq_true] at hclosed
    obtain ⟨hlisted, hfixed⟩ := hsound.closed event hevent huse hblocks hclosed
    rcases eligible_cases heligible with ⟨hnone, _⟩ | hnone
    · rw [hnone] at hfixed
      cases hfixed
    · rw [hnone] at hlisted
      cases hlisted
  refine ⟨hnormal.layer hblocks hallowed, hallowed, ?_⟩
  rcases hsound.listed event hevent huse hblocks with hlisted | hover
  · rcases eligible_cases heligible with ⟨_, hall⟩ | hnone
    · exact hall event.id hlisted
    · rw [hnone] at hlisted
      cases hlisted
  · exact hover

omit [QualityHash] in
theorem threshold_of_eligible {s : Store} {assessment : QualityAssessment} {config : WorkspaceQualityConfig}
    (hbooks : EvidenceBooks s) (hassessment : assessment ∈ s.assessments)
    (heligible : assertAssessmentApprovalEligible s assessment = .ok ()) (hconfig : config ∈ s.configs)
    (hof : config.id = assessment.qualityConfigId) (hbelow : BelowMinimum assessment config) :
    config.thresholdOverrideAllowed = true ∧ ∃ event ∈ s.policyEvents,
      IsThresholdEvent assessment.id event ∧ overridden s event.id = true := by
  obtain ⟨event, hevent, hthreshold, hlisted, hfixed⟩ :=
    (hbooks.assessments_sound assessment hassessment).threshold config hconfig hof hbelow
  rcases eligible_cases heligible with ⟨hnone, hall⟩ | hnone
  · refine ⟨?_, event, hevent, hthreshold, hall event.id hlisted⟩
    by_contra hallowed
    rw [Bool.not_eq_true] at hallowed
    have hmem := hfixed hallowed
    rw [hnone] at hmem
    cases hmem
  · rw [hnone] at hlisted
    cases hlisted

/-- Each finding of a created report is stored, normalized, as an event of the report. -/
theorem event_of_finding {request : Request} {kind : ReportKind} {data : ReportCreate}
    {rules : Except AppError String} {s after : Store} {report : QualityReport}
    (h : createReport request kind data rules s = .ok (report, after)) {finding : PolicyFindingInput}
    (hfinding : finding ∈ policyInputs data) : ∃ event ∈ after.policyEvents, event.reportId = some report.id ∧
      event.eventKey = finding.eventKey ∧ event.layer = finding.layer ∧
      event.blocking = finding.blocking ∧
      event.overrideAllowed = (normalizePolicyInput finding).overrideAllowed := by
  obtain ⟨content, ruleHash, policyHash, _, hreport, rfl⟩ := createReport_ok h
  obtain ⟨index, hindex, hget⟩ := mem_iff_getElem.mp
    (mem_map_of_mem (f := normalizePolicyInput) hfinding)
  refine ⟨newPolicyEvent request (s.nextId + 1 + index) content (some report.id) none ruleHash
    policyHash (normalizePolicyInput finding), ?_, rfl, rfl, rfl, ?_, rfl⟩
  · refine mem_append_right _ (mem_mapIdx.mpr ⟨index, hindex, ?_⟩)
    rw [hget]
  · exact blocking_normalizePolicyInput finding

/-- An approval request is created over no unresolved block: every blocking event and every
blocking finding of the used reports is lifted, and so is a missed threshold. -/
theorem no_approval_over_unresolved_block (actions : List Action) {request : Request}
    {data : ApprovalRequestCreate} {row : ApprovalRequest} {after : Store}
    (h : createApprovalRequest request data (run step {} actions) = .ok (row, after)) :
    (∀ event ∈ (run step {} actions).policyEvents,
      UsedBy (run step {} actions) row.assessmentId event → event.blocking = true →
        Lifted (run step {} actions) event) ∧
    (∀ before caller kind input rules more report created,
      actions = before ++ .createReport caller kind input rules :: more →
      createReport caller kind input rules (run step {} before) = .ok (report, created) →
      (∃ link ∈ (run step {} actions).assessmentReports,
        link.assessmentId = row.assessmentId ∧ link.reportId = report.id) →
      ∀ finding ∈ policyInputs input, finding.blocking = true →
        finding.overrideAllowed = true ∧ ∃ event ∈ (run step {} actions).policyEvents,
          event.reportId = some report.id ∧ event.eventKey = finding.eventKey ∧
          event.layer = finding.layer ∧ Lifted (run step {} actions) event) ∧
    (∀ assessment ∈ (run step {} actions).assessments, assessment.id = row.assessmentId →
      ∀ config ∈ (run step {} actions).configs, config.id = assessment.qualityConfigId →
        BelowMinimum assessment config →
        config.thresholdOverrideAllowed = true ∧ ∃ event ∈ (run step {} actions).policyEvents,
          IsThresholdEvent assessment.id event ∧
            overridden (run step {} actions) event.id = true) := by
  have hbooks := evidenceBooks_run actions
  obtain ⟨content, version, assessment, config, middle, hrequested, _, hrow, _⟩ :=
    createApprovalRequest_ok h
  obtain ⟨hassessment, _⟩ := assessmentOf_ok hrequested.assessment_found
  have hid : row.assessmentId = assessment.id := by rw [hrow]; rfl
  have hlifted : ∀ event ∈ (run step {} actions).policyEvents,
      UsedBy (run step {} actions) row.assessmentId event → event.blocking = true →
        Lifted (run step {} actions) event := by
    intro event hevent huse
    rw [hid] at huse
    exact lifted_of_eligible hbooks hassessment hrequested.eligible hevent huse
  refine ⟨hlifted, ?_, ?_⟩
  · rintro before caller kind input rules more report created hactions hcreate
      ⟨link, hlink, hof, hreport⟩ finding hfinding hblocking
    obtain ⟨event, hnew, heventReport, hkey, hlayer, hsame, hallowed⟩ :=
      event_of_finding hcreate hfinding
    have hstep : step (run step {} before) (.createReport caller kind input rules) = created := by
      refine step_of_ok ?_
      rw [perform, hcreate]
      rfl
    have hevent : event ∈ (run step {} actions).policyEvents := by
      rw [hactions, run_append, run_cons, hstep]
      exact events_kept_run created more event hnew
    have hlift := hlifted event hevent ⟨link, hlink, hof, hreport ▸ heventReport⟩ (hsame.trans hblocking)
    refine ⟨overrideAllowed_of_normalizePolicyInput (hallowed ▸ hlift.allowed), event, hevent,
      heventReport, hkey, hlayer, hlift⟩
  · intro other hother hotherId config hconfig hof hbelow
    obtain rfl : other = assessment :=
      hbooks.assessments_keyed.eq_of_key_eq hother hassessment (hotherId.trans hid)
    exact threshold_of_eligible hbooks hassessment hrequested.eligible hconfig hof hbelow

end Evidence

section Sample

attribute [local instance] sampleHash

/-- A block of the workspace that may be overridden. -/
def sampleFinding : PolicyFindingInput where
  eventKey := "tone"
  layer := .workspace
  ruleCode := "TONE"
  action := .block
  severity := .warn
  overrideAllowed := true
  message := "tone"

/-- The safety report has a block, which is overridden before the assessment. -/
def sampleBlockedRun : List Action :=
  [sampleContent, .createQualityConfig sampleRequest sampleConfig] ++
    [.morphology, .naturalness fullScore fullScore fullScore, .seo fullScore,
      .duplication fullScore, .factCitation fullScore,
      .safetyPolicy fullScore [sampleFinding]].map sampleReport ++
    [.createPolicyOverride sampleRequest 9
      { expectedEventSnapshotHash := "tone", reason := "accepted by the editor",
        reason_length := by decide },
    .createAssessment sampleRequest sampleAssessment]

theorem sampleBlockedRun_lifted :
    ∃ row after, createApprovalRequest sampleRequest { sampleApproval with assessmentId := 11 }
        (run step {} sampleBlockedRun) = .ok (row, after) ∧
      ∃ event ∈ (run step {} sampleBlockedRun).policyEvents, event.blocking = true ∧
        Lifted (run step {} sampleBlockedRun) event := by
  have haccepted : ((createApprovalRequest sampleRequest { sampleApproval with assessmentId := 11 }
      (run step {} sampleBlockedRun)).toOption.any fun result =>
        (result.1.assessmentId = 11 : Bool)) = true := by
    decide +kernel
  have hevent : ∃ event ∈ (run step {} sampleBlockedRun).policyEvents, event.blocking = true ∧
      ∃ link ∈ (run step {} sampleBlockedRun).assessmentReports, link.assessmentId = 11 ∧
        event.reportId = some link.reportId := by
    decide +kernel
  obtain ⟨event, hin, hblocking, huse⟩ := hevent
  cases hcreate : createApprovalRequest sampleRequest { sampleApproval with assessmentId := 11 }
      (run step {} sampleBlockedRun) with
  | error error =>
    rw [hcreate] at haccepted
    cases haccepted
  | ok result =>
    obtain ⟨row, after⟩ := result
    rw [hcreate] at haccepted
    have hof : row.assessmentId = 11 := of_decide_eq_true haccepted
    refine ⟨row, after, rfl, event, hin, hblocking, ?_⟩
    exact (no_approval_over_unresolved_block sampleBlockedRun hcreate).1 event hin (hof ▸ huse) hblocking

end Sample

end BlogOps.Quality
