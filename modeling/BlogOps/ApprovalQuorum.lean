import BlogOps.QualitySystem

/-!
# The quorum of every stage

The stage index of a request follows its decisions: every stage below it has
its quorum of distinct approvers, and an approved request has the quorum of its
last stage too.
-/

namespace BlogOps.Quality

open KeyedTables TransitionRuns

/-! ## What happens to a request -/

/-- What a request is about and the stage it is in: only a decision moves it. -/
def ApprovalRequest.identity (row : ApprovalRequest) :=
  (row.id, row.contentId, row.contentVersionId, row.contentHash, row.assessmentId,
    row.approvalStagesSnapshot, row.currentStageIndex)

/-- The write leaves the row alone or takes the request out of the live ones. -/
def Retires (row after : ApprovalRequest) : Prop :=
  after = row ∨ after.identity = row.identity ∧ liveStatus after.status = false

section

variable {row after : ApprovalRequest} (h : Retires row after)

include h

theorem Retires.identity_eq : after.identity = row.identity := by
  rcases h with rfl | ⟨heq, _⟩
  · rfl
  · exact heq

theorem Retires.id_eq : after.id = row.id :=
  congrArg Prod.fst h.identity_eq

end

theorem retires_writeRequest {f : ApprovalRequest → ApprovalRequest} {row : ApprovalRequest}
    (hidentity : (f row).identity = row.identity) (hended : liveStatus (f row).status = false) :
    Retires row (writeRequest f row) := by
  right
  constructor
  · rw [writeRequest_proj ApprovalRequest.identity fun _ _ => rfl, hidentity]
  · rw [writeRequest_proj (fun row => row.status) fun _ _ => rfl, hended]

theorem retires_invalidate (request : Request) (reason : String) (row : ApprovalRequest) :
    Retires row (writeRequest (invalidateRequest request reason) row) :=
  retires_writeRequest rfl rfl

theorem retires_supersede (request : Request) (row : ApprovalRequest) :
    Retires row (writeRequest (supersedeRequest request) row) :=
  retires_writeRequest rfl rfl

theorem retires_expire (row : ApprovalRequest) : Retires row (writeRequest expireRequest row) :=
  retires_writeRequest rfl rfl

theorem retires_touched (request : Request) (reason : String) (p : ApprovalRequest → Bool)
    (row : ApprovalRequest) :
    Retires row (if p row then writeRequest (invalidateRequest request reason) row else row) := by
  split
  · exact retires_invalidate request reason row
  · exact .inl rfl

theorem retires_updateRow {f : ApprovalRequest → ApprovalRequest} (requestId : Uuid)
    (hf : ∀ row, Retires row (writeRequest f row)) (row : ApprovalRequest) :
    Retires row (if row.id = requestId then writeRequest f row else row) := by
  split
  · exact hf row
  · exact .inl rfl

/-- The request names the current version of a content that is not deleted. -/
def NamesCurrent (s : Store) (row : ApprovalRequest) : Prop :=
  ∃ content version, s.liveContent row.contentId = some content ∧
    content.currentVersionId = some row.contentVersionId ∧
    s.versionOf row.contentId row.contentVersionId = some version ∧
    version.contentHash = row.contentHash

section Runs

variable [QualityHash]

/-- What an action does to the requests and their decisions. -/
inductive RequestsChange (s : Store) : Action → Store → Prop where
  | retired (action : Action) (after : Store) (f : ApprovalRequest → ApprovalRequest)
      (hf : ∀ row, Retires row (f row)) (hrequests : after.requests = s.requests.map f)
      (hdecisions : after.decisions = s.decisions) : RequestsChange s action after
  | requested (action : Action) (after : Store) (f : ApprovalRequest → ApprovalRequest)
      (hf : ∀ row, Retires row (f row)) (row : ApprovalRequest)
      (config : WorkspaceQualityConfig) (hconfig : config ∈ s.configs)
      (hid : row.id = s.nextId) (hpending : row.status = .pending)
      (hindex : row.currentStageIndex = 0)
      (hstages : row.approvalStagesSnapshot = config.approvalStages) (hnamed : NamesCurrent s row)
      (hassessment : ∃ assessment ∈ s.assessments, row.assessmentId = assessment.id)
      (hnext : s.nextId < after.nextId) (hrequests : after.requests = s.requests.map f ++ [row])
      (hdecisions : after.decisions = s.decisions) : RequestsChange s action after
  | decided (after : Store) (request : Request) (data : ApprovalDecisionCreate)
      (row : ApprovalRequest) (stage : ApprovalStageConfig) (quorum : Bool)
      (newStatus : ApprovalRequestStatus) (h : Decided request data s row stage quorum newStatus)
      (hrequests : after.requests = updateRow (·.id) row.id
        (writeRequest (decideRequest request data.decision quorum newStatus)) s.requests)
      (hdecisions : after.decisions =
        s.decisions ++ [newDecision request s.nextId data stage quorum newStatus row]) :
      RequestsChange s (.decideApprovalRequest request row.id data) after

variable {action : Action} {requestId : Uuid}

theorem Change.requestsChange {s after : Store} (h : Change s action after) :
    RequestsChange s action after := by
  have hkeep : ∀ row : ApprovalRequest, Retires row (id row) := fun row => .inl rfl
  cases h with
  | stay => exact .retired _ _ id hkeep (by simp) rfl
  | evidence _ _ h =>
    cases h with
    | config => exact .retired _ _ id hkeep (by simp) rfl
    | report => exact .retired _ _ id hkeep (by simp) rfl
    | assessment _ _ _ _ _ _ _ _ _ _ _ hrecord =>
      rw [(recordAssessment_ok hrecord).2]
      exact .retired _ _ id hkeep (by simp) rfl
    | override => exact .retired _ _ id hkeep (by simp) rfl
  | contentCreated => exact .retired _ _ id hkeep (by simp) rfl
  | documentCreated => exact .retired _ _ id hkeep (by simp [Store.updateContent]) rfl
  | published => exact .retired _ _ _ (retires_touched _ _ _) rfl rfl
  | edited => exact .retired _ _ id hkeep (by simp [Store.updateContent]) rfl
  | contextEdited => exact .retired _ _ _ (retires_touched _ _ _) rfl rfl
  | invalidated => exact .retired _ _ _ (retires_touched _ _ _) rfl rfl
  | requested request data content version assessment config middle h hmiddle =>
    have hconfig := (configOf_ok h.config_found).1
    have hassessment := (assessmentOf_ok h.assessment_found).1
    have hnamed : ∀ id, NamesCurrent s (newRequest request id
        ⟨data.contentId, data.contentVersionId, data.contentHash, content.currentVersionId⟩
        assessment config data.supersedesRequestId) :=
      fun _ => ⟨content, version, h.content_live, h.version_current, h.version_found, h.version_hash⟩
    rcases hmiddle with rfl | ⟨requestId, rfl⟩
    · exact .requested _ _ id hkeep _ config hconfig rfl rfl rfl rfl (hnamed _)
        ⟨assessment, hassessment, rfl⟩ (Nat.lt_succ_self _) (congrArg (· ++ _) (List.map_id _).symm) rfl
    · exact .requested _ _ _ (retires_updateRow requestId (retires_supersede request)) _ config
        hconfig rfl rfl rfl rfl (hnamed _) ⟨assessment, hassessment, rfl⟩ (Nat.lt_succ_self _)
        rfl rfl
  | takenBack _ request requestId reason =>
    exact .retired _ _ _ (retires_updateRow requestId (retires_invalidate request reason)) rfl rfl
  | expired _ requestId =>
    exact .retired _ _ _ (retires_updateRow requestId retires_expire) rfl rfl
  | decided request data row stage quorum newStatus h =>
    exact .decided _ request data row stage quorum newStatus h rfl rfl

theorem Change.nextId_le {s after : Store} (h : Change s action after) : s.nextId ≤ after.nextId := by
  cases h with
  | evidence _ _ h =>
    cases h with
    | assessment _ _ _ _ _ _ _ _ _ _ _ hrecord =>
      rw [(recordAssessment_ok hrecord).2]
      exact Nat.le_add_right _ _
    | report => exact Nat.le_add_right_of_le (Nat.le_add_right _ _)
    | _ => exact Nat.le_add_right _ _
  | requested _ _ _ _ _ _ _ _ hmiddle =>
    rcases hmiddle with rfl | ⟨_, rfl⟩ <;> exact Nat.le_add_right _ _
  | _ => first | exact le_rfl | exact Nat.le_add_right _ _

/-! ## The decision of one call -/

section Decision

variable {request : Request} {data : ApprovalDecisionCreate} {s : Store} {row : ApprovalRequest}
  {stage : ApprovalStageConfig} {quorum : Bool} {newStatus : ApprovalRequestStatus}

omit [QualityHash]

/-- The decision moves the request on to the next stage. -/
def Advances (data : ApprovalDecisionCreate) (quorum : Bool) (row : ApprovalRequest) : Prop :=
  data.decision = .approve ∧ quorum = true ∧ ¬ isFinalStage row

theorem index_advanceStage (now : Int) : (advanceStage now data.decision quorum row).currentStageIndex =
      if data.decision = .approve ∧ quorum ∧ ¬ isFinalStage row then row.currentStageIndex + 1
      else row.currentStageIndex := by
  unfold advanceStage
  split_ifs <;> rfl

/-- The recorded stage is the one the request was in when the decision was made. -/
theorem stageIndex_newDecision (id : Uuid) :
    (newDecision request id data stage quorum newStatus row).stageIndex =
      row.currentStageIndex := by
  unfold newDecision
  dsimp only
  rw [index_advanceStage]
  cases quorum <;> cases isFinalStage row <;> by_cases happrove : data.decision = .approve <;> simp [happrove]

section

variable (now : Request) (decision : ApprovalDecisionKind)

theorem decideRequest_stages : (decideRequest now decision quorum newStatus row).approvalStagesSnapshot =
      row.approvalStagesSnapshot := by
  unfold decideRequest advanceStage
  dsimp only
  split_ifs <;> rfl

theorem decideRequest_id : (decideRequest now decision quorum newStatus row).id = row.id := by
  unfold decideRequest advanceStage
  dsimp only
  split_ifs <;> rfl

theorem decideRequest_status : (decideRequest now decision quorum newStatus row).status = newStatus := by
  unfold decideRequest
  dsimp only
  split_ifs <;> rfl

end

theorem decideRequest_index : (decideRequest request data.decision quorum newStatus row).currentStageIndex =
      if data.decision = .approve ∧ quorum ∧ ¬ isFinalStage row then row.currentStageIndex + 1
      else row.currentStageIndex := by
  rw [← index_advanceStage request.now]
  unfold decideRequest
  dsimp only
  split_ifs <;> rfl

section

variable (h : Decided request data s row stage quorum newStatus)

include h

/-- A decision leaves the request live exactly when it approves. -/
theorem Decided.approve_of_live (hlive : liveStatus newStatus = true) : data.decision = .approve := by
  have hstatus := h.status_eq
  cases hdecision : data.decision with
  | approve => rfl
  | reject | requestChanges =>
    rw [hdecision] at hstatus
    cases hstatus
    exact absurd hlive (by decide)

/-- The approvals of the stage together with the new one reach the quorum. -/
theorem Decided.quorum_count (hdistinct : (priorActors s row.id stage.key).Nodup) (hquorum : quorum = true) :
    stage.requiredApprovals ≤ (stageApprovals s row.id stage.key).length + 1 := by
  have hcount := h.quorum_eq
  rw [hquorum, (List.nodup_cons.mpr ⟨h.not_prior, hdistinct⟩).dedup] at hcount
  simpa [priorActors] using hcount

theorem Decided.approver_listed (hlisted : stage.approverUserIds ≠ []) :
    request.principal.subjectId ∈ stage.approverUserIds := by
  have happrover := h.approver
  unfold assertApprover at happrover
  split_ifs at happrover with hassigned
  exact not_not.mp fun hnot => hassigned ⟨hlisted, hnot⟩

end

end Decision

/-! ## The history of a request -/

/-- How the decisions of a request relate to the stage it is in. -/
structure StageHistory (s : Store) (row : ApprovalRequest) : Prop where
  index_lt : row.currentStageIndex < row.approvalStagesSnapshot.length
  keyed : Keyed (·.key) row.approvalStagesSnapshot
  staged : ∀ decision ∈ s.decisions, decision.approvalRequestId = row.id →
    decision.stageIndex ≤ row.currentStageIndex ∧
      ∃ stage, row.approvalStagesSnapshot[decision.stageIndex]? = some stage ∧ decision.stageKey = stage.key ∧
        (stage.approverUserIds ≠ [] → decision.decidedBy ∈ stage.approverUserIds)
  ordered : (s.decisions.filter (·.approvalRequestId = row.id)).Pairwise
    fun first second => first.stageIndex ≤ second.stageIndex
  distinct : ∀ stageKey, (priorActors s row.id stageKey).Nodup
  passed : ∀ index stage, index < row.currentStageIndex → row.approvalStagesSnapshot[index]? = some stage →
    stage.requiredApprovals ≤ (stageApprovals s row.id stage.key).length
  favourable : liveStatus row.status = true → ∀ decision ∈ s.decisions,
    decision.approvalRequestId = row.id → decision.decision = .approve
  complete : row.status = .approved → row.currentStageIndex + 1 = row.approvalStagesSnapshot.length ∧
      ∀ stage, row.approvalStagesSnapshot[row.currentStageIndex]? = some stage →
        stage.requiredApprovals ≤ (stageApprovals s row.id stage.key).length

section History

omit [QualityHash]

section

variable {s : Store} {row : ApprovalRequest}

theorem StageHistory.of_decisions_eq {after : Store} (h : StageHistory s row)
    (hdecisions : after.decisions = s.decisions) : StageHistory after row := by
  have happrovals : stageApprovals after = stageApprovals s := by
    unfold stageApprovals
    rw [hdecisions]
  obtain ⟨hindex, hkeyed, hstaged, hordered, hdistinct, hpassed, hfavourable, hcomplete⟩ := h
  refine ⟨hindex, hkeyed, ?_, ?_, ?_, ?_, ?_, ?_⟩
  · rwa [hdecisions]
  · rwa [hdecisions]
  · unfold priorActors at *
    rwa [happrovals]
  · rwa [happrovals]
  · rwa [hdecisions]
  · rwa [happrovals]

theorem StageHistory.retired {after : ApprovalRequest} (h : StageHistory s row)
    (hretires : Retires row after) : StageHistory s after := by
  rcases hretires with rfl | ⟨hidentity, hended⟩
  · exact h
  · simp only [ApprovalRequest.identity, Prod.mk.injEq] at hidentity
    obtain ⟨hid, _, _, _, _, hstages, hindex⟩ := hidentity
    constructor
    · rw [hindex, hstages]
      exact h.index_lt
    · rw [hstages]
      exact h.keyed
    · rw [hid, hindex, hstages]
      exact h.staged
    · rw [hid]
      exact h.ordered
    · rw [hid]
      exact h.distinct
    · rw [hid, hindex, hstages]
      exact h.passed
    · intro hlive
      rw [hended] at hlive
      cases hlive
    · intro happroved
      rw [happroved] at hended
      cases hended

theorem StageHistory.requested (hstages : row.approvalStagesSnapshot ≠ [])
    (hkeyed : Keyed (·.key) row.approvalStagesSnapshot) (hindex : row.currentStageIndex = 0)
    (hpending : row.status = .pending)
    (hnone : ∀ decision ∈ s.decisions, decision.approvalRequestId ≠ row.id) :
    StageHistory s row where
  index_lt := by
    rw [hindex]
    exact List.length_pos_of_ne_nil hstages
  keyed := hkeyed
  staged decision hdecision hof := absurd hof (hnone decision hdecision)
  ordered := by
    rw [List.filter_eq_nil_iff.mpr]
    · exact List.Pairwise.nil
    · intro decision hdecision
      simpa using hnone decision hdecision
  distinct stageKey := by
    unfold priorActors stageApprovals
    rw [List.filter_eq_nil_iff.mpr]
    · exact List.nodup_nil
    · intro decision hdecision
      simp [hnone decision hdecision]
  passed index stage hlt := by
    rw [hindex] at hlt
    exact absurd hlt (Nat.not_lt_zero _)
  favourable _ decision hdecision hof := absurd hof (hnone decision hdecision)
  complete happroved := by
    rw [hpending] at happroved
    cases happroved

end

section Append

variable {s after : Store} {decision : ApprovalDecision}

section

variable (hdecisions : after.decisions = s.decisions ++ [decision]) (requestId : Uuid)
    (stageKey : String)

include hdecisions

theorem stageApprovals_append :
    stageApprovals after requestId stageKey = stageApprovals s requestId stageKey ++
      if decision.approvalRequestId = requestId ∧ decision.stageKey = stageKey ∧
          decision.decision = .approve then [decision] else [] := by
  unfold stageApprovals
  rw [hdecisions, List.filter_append]
  congr 1
  by_cases h : decision.approvalRequestId = requestId ∧ decision.stageKey = stageKey ∧
      decision.decision = .approve
  · rw [if_pos h, List.filter_cons_of_pos (by simp [h])]
    rfl
  · rw [if_neg h, List.filter_cons_of_neg (by simpa [and_assoc] using h)]
    rfl

theorem length_stageApprovals_le : (stageApprovals s requestId stageKey).length ≤
      (stageApprovals after requestId stageKey).length := by
  rw [stageApprovals_append hdecisions, List.length_append]
  exact Nat.le_add_right _ _

end

/-- A decision of another request leaves the history of this one as it is. -/
theorem StageHistory.other {row : ApprovalRequest} (h : StageHistory s row)
    (hdecisions : after.decisions = s.decisions ++ [decision])
    (hother : decision.approvalRequestId ≠ row.id) : StageHistory after row := by
  have happrovals : ∀ stageKey,
      stageApprovals after row.id stageKey = stageApprovals s row.id stageKey := by
    intro stageKey
    rw [stageApprovals_append hdecisions, if_neg (fun hof => hother hof.1), List.append_nil]
  have hmem : ∀ other ∈ after.decisions, other.approvalRequestId = row.id →
      other ∈ s.decisions := by
    intro other hmem hof
    rw [hdecisions, List.mem_append, List.mem_singleton] at hmem
    rcases hmem with hmem | rfl
    · exact hmem
    · exact absurd hof hother
  constructor
  · exact h.index_lt
  · exact h.keyed
  · exact fun other hin hof => h.staged other (hmem other hin hof) hof
  · rw [hdecisions, List.filter_append, List.filter_cons_of_neg (by simpa using hother),
      List.filter_nil, List.append_nil]
    exact h.ordered
  · intro stageKey
    unfold priorActors
    rw [happrovals]
    exact h.distinct stageKey
  · intro index stage hlt hstage
    rw [happrovals]
    exact h.passed index stage hlt hstage
  · exact fun hlive other hin hof => h.favourable hlive other (hmem other hin hof) hof
  · intro happroved
    obtain ⟨hlast, hquorum⟩ := h.complete happroved
    refine ⟨hlast, fun stage hstage => ?_⟩
    rw [happrovals]
    exact hquorum stage hstage

end Append

section Decided

variable {request : Request} {data : ApprovalDecisionCreate} {s after : Store}
  {row : ApprovalRequest} {stage : ApprovalStageConfig} {quorum : Bool}
  {newStatus : ApprovalRequestStatus} {id : Uuid}

theorem index_written :
    (writeRequest (decideRequest request data.decision quorum newStatus) row).currentStageIndex =
      if data.decision = .approve ∧ quorum ∧ ¬ isFinalStage row then row.currentStageIndex + 1
      else row.currentStageIndex := by
  rw [writeRequest_proj (fun row => row.currentStageIndex) fun _ _ => rfl, decideRequest_index]

theorem stages_written : (writeRequest (decideRequest request data.decision quorum newStatus)
      row).approvalStagesSnapshot = row.approvalStagesSnapshot := by
  rw [writeRequest_proj (fun row => row.approvalStagesSnapshot) fun _ _ => rfl, decideRequest_stages]

theorem id_written :
    (writeRequest (decideRequest request data.decision quorum newStatus) row).id = row.id := by
  rw [writeRequest_proj (fun row => row.id) fun _ _ => rfl, decideRequest_id]

theorem status_written : (writeRequest (decideRequest request data.decision quorum newStatus) row).status =
      newStatus := by
  rw [writeRequest_proj (fun row => row.status) fun _ _ => rfl, decideRequest_status]

theorem stageApprovals_decided
    (hdecisions : after.decisions = s.decisions ++ [newDecision request id data stage quorum newStatus row])
    (stageKey : String) : stageApprovals after row.id stageKey = stageApprovals s row.id stageKey ++
      if stage.key = stageKey ∧ data.decision = .approve then
        [newDecision request id data stage quorum newStatus row] else [] := by
  rw [stageApprovals_append hdecisions]
  congr 1
  refine if_congr ?_ rfl rfl
  exact ⟨fun h => h.2, fun h => ⟨rfl, h⟩⟩

section

variable (h : Decided request data s row stage quorum newStatus) (hhistory : StageHistory s row)
    (hdecisions : after.decisions = s.decisions ++ [newDecision request id data stage quorum newStatus row])

include h hhistory hdecisions

theorem Decided.quorum_reached (happrove : data.decision = .approve) (hquorum : quorum = true) :
    stage.requiredApprovals ≤ (stageApprovals after row.id stage.key).length := by
  rw [stageApprovals_decided hdecisions, if_pos ⟨rfl, happrove⟩, List.length_append]
  exact h.quorum_count (hhistory.distinct stage.key) hquorum

theorem Decided.priorActors_nodup (stageKey : String) : (priorActors after row.id stageKey).Nodup := by
  unfold priorActors
  rw [stageApprovals_decided hdecisions]
  have hold := hhistory.distinct stageKey
  split_ifs with hkey
  · rw [List.map_append, List.nodup_append]
    refine ⟨hold, by simp, ?_⟩
    rintro actor hactor _ hsingle rfl
    rw [List.map_cons, List.map_nil, List.mem_singleton] at hsingle
    rw [← hkey.1, hsingle] at hactor
    exact h.not_prior hactor
  · rw [List.append_nil]
    exact hold

end

/-- A recorded decision keeps the history of its request. -/
theorem StageHistory.decided (hhistory : StageHistory s row)
    (h : Decided request data s row stage quorum newStatus)
    (hdecisions : after.decisions = s.decisions ++
      [newDecision request id data stage quorum newStatus row]) : StageHistory after
      (writeRequest (decideRequest request data.decision quorum newStatus) row) := by
  have hlt := hhistory.index_lt
  have hle : row.currentStageIndex ≤ (writeRequest (decideRequest request data.decision quorum
      newStatus) row).currentStageIndex := by
    rw [index_written]
    split_ifs
    · exact Nat.le_succ _
    · exact le_rfl
  have hstaged : ∀ decision ∈ s.decisions, decision.approvalRequestId = row.id →
      decision.stageIndex ≤ row.currentStageIndex :=
    fun decision hin hof => (hhistory.staged decision hin hof).1
  constructor
  · rw [index_written, stages_written]
    split_ifs with hadvance
    · have hfinal : row.currentStageIndex ≠ row.approvalStagesSnapshot.length - 1 := by
        simpa [isFinalStage] using hadvance.2.2
      omega
    · exact hlt
  · rw [stages_written]
    exact hhistory.keyed
  · rw [id_written, stages_written]
    intro decision hin hof
    rw [hdecisions, List.mem_append, List.mem_singleton] at hin
    rcases hin with hin | rfl
    · obtain ⟨hindex, hstage⟩ := hhistory.staged decision hin hof
      exact ⟨hindex.trans hle, hstage⟩
    · rw [stageIndex_newDecision]
      exact ⟨hle, stage, h.stage_found, rfl, h.approver_listed⟩
  · rw [id_written, hdecisions, List.filter_append, List.pairwise_append]
    refine ⟨hhistory.ordered, List.Pairwise.filter _ (List.pairwise_singleton _ _), ?_⟩
    intro first hfirst second hsecond
    obtain ⟨hin, hof⟩ := List.mem_filter.mp hfirst
    obtain rfl := List.mem_singleton.mp (List.mem_of_mem_filter hsecond)
    rw [stageIndex_newDecision]
    exact hstaged first hin (by simpa using hof)
  · rw [id_written]
    exact h.priorActors_nodup hhistory hdecisions
  · rw [id_written, stages_written, index_written]
    intro index other hindex hother
    have hmono := length_stageApprovals_le hdecisions row.id other.key
    by_cases hbelow : index < row.currentStageIndex
    · exact (hhistory.passed index other hbelow hother).trans hmono
    · split_ifs at hindex with hadvance
      swap
      · exact absurd hindex hbelow
      obtain rfl : index = row.currentStageIndex := by omega
      obtain rfl : stage = other := Option.some.inj (h.stage_found.symm.trans hother)
      exact h.quorum_reached hhistory hdecisions hadvance.1 hadvance.2.1
  · rw [id_written, status_written]
    intro hlive decision hin hof
    have happrove := h.approve_of_live hlive
    rw [hdecisions, List.mem_append, List.mem_singleton] at hin
    rcases hin with hin | rfl
    · refine hhistory.favourable ?_ decision hin hof
      rw [h.pending]
      rfl
    · exact happrove
  · rw [id_written, status_written, stages_written, index_written]
    rintro rfl
    obtain ⟨_, happrove, hquorum, hfinal⟩ := transitionApproval_eq_approved.mp h.status_eq
    rw [if_neg (fun hadvance => hadvance.2.2 hfinal)]
    refine ⟨?_, fun other hother => ?_⟩
    · have hindex : row.currentStageIndex = row.approvalStagesSnapshot.length - 1 := by
        simpa [isFinalStage] using hfinal
      omega
    · obtain rfl : stage = other := Option.some.inj (h.stage_found.symm.trans hother)
      exact h.quorum_reached hhistory hdecisions happrove hquorum

end Decided

end History

/-- The books of the approvals: every request has its history. -/
structure QuorumBooks (s : Store) : Prop where
  keyed : Keyed (·.id) s.requests
  requests_old : ∀ row ∈ s.requests, row.id < s.nextId
  decisions_of : ∀ decision ∈ s.decisions, ∃ row ∈ s.requests, row.id = decision.approvalRequestId
  configs_staged : ∀ config ∈ s.configs, config.approvalStages ≠ [] ∧ Keyed (·.key) config.approvalStages
  history : ∀ row ∈ s.requests, StageHistory s row

omit [QualityHash] in
theorem quorumBooks_empty : QuorumBooks {} where
  keyed := List.nodup_nil
  requests_old _ h := by cases h
  decisions_of _ h := by cases h
  configs_staged _ h := by cases h
  history _ h := by cases h

theorem Change.configs {s after : Store} (h : Change s action after)
    {config : WorkspaceQualityConfig} (hconfig : config ∈ after.configs) :
    config ∈ s.configs ∨ ∃ request data version, config = newConfig request s.nextId version data := by
  cases h with
  | evidence _ _ h =>
    cases h with
    | config request data version =>
      rw [List.mem_append, List.mem_singleton] at hconfig
      exact hconfig.imp_right fun heq => ⟨request, data, version, heq⟩
    | assessment _ _ _ _ _ _ _ _ _ _ _ hrecord =>
      rw [(recordAssessment_ok hrecord).2] at hconfig
      exact .inl hconfig
    | _ => exact .inl hconfig
  | requested _ _ _ _ _ _ _ _ hmiddle =>
    rcases hmiddle with rfl | ⟨_, rfl⟩ <;> exact .inl hconfig
  | _ => exact .inl hconfig

theorem configs_staged_step {s : Store} (h : QuorumBooks s) (action : Action) :
    ∀ config ∈ (step s action).configs,
      config.approvalStages ≠ [] ∧ Keyed (·.key) config.approvalStages := by
  intro config hconfig
  rcases (step_change s action).configs hconfig with hold | ⟨request, data, version, rfl⟩
  · exact h.configs_staged config hold
  · exact ⟨data.stages_nonempty, data.stages_keyed⟩

theorem quorumBooks_step (s : Store) (action : Action) (h : QuorumBooks s) : QuorumBooks (step s action) := by
  have hconfigs := configs_staged_step h action
  have hnext := (step_change s action).nextId_le
  have hchange := (step_change s action).requestsChange
  generalize step s action = after at *
  cases hchange with
  | retired _ _ f hf hrequests hdecisions =>
    have hmap : (s.requests.map f).map (·.id) = s.requests.map (·.id) := by
      rw [List.map_map]
      exact List.map_congr_left fun row _ => (hf row).id_eq
    refine ⟨?_, ?_, ?_, hconfigs, ?_⟩
    · unfold Keyed
      rw [hrequests, hmap]
      exact h.keyed
    · rw [hrequests]
      intro row hrow
      obtain ⟨old, hold, rfl⟩ := List.mem_map.mp hrow
      rw [(hf old).id_eq]
      exact (h.requests_old old hold).trans_le hnext
    · rw [hdecisions, hrequests]
      intro decision hdecision
      obtain ⟨row, hrow, hid⟩ := h.decisions_of decision hdecision
      exact ⟨f row, List.mem_map_of_mem hrow, (hf row).id_eq.trans hid⟩
    · rw [hrequests]
      intro row hrow
      obtain ⟨old, hold, rfl⟩ := List.mem_map.mp hrow
      exact ((h.history old hold).retired (hf old)).of_decisions_eq hdecisions
  | requested _ _ f hf row config hconfig hid hpending hindex hstages _ _ hlt hrequests
      hdecisions =>
    obtain ⟨hnonempty, hkeyed⟩ := h.configs_staged config hconfig
    have hmap : (s.requests.map f).map (·.id) = s.requests.map (·.id) := by
      rw [List.map_map]
      exact List.map_congr_left fun row _ => (hf row).id_eq
    refine ⟨?_, ?_, ?_, hconfigs, ?_⟩
    · rw [hrequests]
      refine Keyed.append_row (by unfold Keyed; rw [hmap]; exact h.keyed) ?_
      intro other hother
      obtain ⟨old, hold, rfl⟩ := List.mem_map.mp hother
      rw [(hf old).id_eq, hid]
      exact (h.requests_old old hold).ne
    · rw [hrequests]
      intro other hother
      rcases List.mem_append.mp hother with hother | hother
      · obtain ⟨old, hold, rfl⟩ := List.mem_map.mp hother
        rw [(hf old).id_eq]
        exact (h.requests_old old hold).trans_le hnext
      · rw [List.mem_singleton.mp hother, hid]
        exact hlt
    · rw [hdecisions, hrequests]
      intro decision hdecision
      obtain ⟨old, hold, hof⟩ := h.decisions_of decision hdecision
      exact ⟨f old, List.mem_append_left _ (List.mem_map_of_mem hold), (hf old).id_eq.trans hof⟩
    · rw [hrequests]
      intro other hother
      rcases List.mem_append.mp hother with hother | hother
      · obtain ⟨old, hold, rfl⟩ := List.mem_map.mp hother
        exact ((h.history old hold).retired (hf old)).of_decisions_eq hdecisions
      · rw [List.mem_singleton.mp hother]
        refine StageHistory.requested (by rwa [hstages]) (by rwa [hstages]) hindex hpending ?_
        rw [hdecisions]
        intro decision hdecision hof
        obtain ⟨old, hold, hold_id⟩ := h.decisions_of decision hdecision
        have hlt' := h.requests_old old hold
        rw [hold_id, hof, hid] at hlt'
        exact lt_irrefl _ hlt'
  | decided _ request data row stage quorum newStatus hdecided hrequests hdecisions =>
    refine ⟨?_, ?_, ?_, hconfigs, ?_⟩
    · rw [hrequests]
      exact h.keyed.updateRow fun _ _ => id_written
    · rw [hrequests]
      intro other hother
      obtain ⟨old, hold, ⟨_, rfl⟩ | ⟨_, rfl⟩⟩ := mem_updateRow hother
      · rw [id_written]
        exact (h.requests_old old hold).trans_le hnext
      · exact (h.requests_old _ hold).trans_le hnext
    · rw [hdecisions, hrequests]
      have hkeep : ∀ old ∈ s.requests, ∃ new ∈ updateRow (·.id) row.id (writeRequest
          (decideRequest request data.decision quorum newStatus)) s.requests, new.id = old.id := by
        intro old hold
        by_cases hid : old.id = row.id
        · exact ⟨_, mem_updateRow_of_mem hold hid, id_written⟩
        · exact ⟨_, mem_updateRow_of_ne hold hid, rfl⟩
      intro decision hdecision
      rw [List.mem_append, List.mem_singleton] at hdecision
      rcases hdecision with hdecision | rfl
      · obtain ⟨old, hold, hof⟩ := h.decisions_of decision hdecision
        obtain ⟨new, hnew, hid⟩ := hkeep old hold
        exact ⟨new, hnew, hid.trans hof⟩
      · exact hkeep row hdecided.row_found
    · rw [hrequests]
      intro other hother
      obtain ⟨old, hold, ⟨hid, rfl⟩ | ⟨hid, rfl⟩⟩ := mem_updateRow hother
      · obtain rfl := h.keyed.eq_of_key_eq hold hdecided.row_found hid
        exact (h.history old hold).decided hdecided hdecisions
      · exact (h.history other hold).other hdecisions fun hof => hid hof.symm

theorem quorumBooks_run (actions : List Action) : QuorumBooks (run step {} actions) :=
  invariant_run step quorumBooks_step quorumBooks_empty actions

/-- The decision was recorded by an accepted call on a pending request while its stage was the
current one, and not after the due time of the stage. -/
structure RecordedInTime (s : Store) (action : Action) (decision : ApprovalDecision) : Prop where
  new : decision ∉ s.decisions ∧ decision ∈ (step s action).decisions
  call : ∃ request data, action = .decideApprovalRequest request decision.approvalRequestId data ∧
    decision.decidedAt = request.now ∧ decision.decidedBy = request.principal.subjectId
  stage_current : ∃ row ∈ s.requests, row.id = decision.approvalRequestId ∧
    row.status = .pending ∧ row.currentStageIndex = decision.stageIndex ∧
    ∀ due ∈ row.stageDueAt, decision.decidedAt ≤ due

theorem recordedInTime_of_new {s : Store} {decision : ApprovalDecision} (hold : decision ∉ s.decisions)
    (hnew : decision ∈ (step s action).decisions) : RecordedInTime s action decision := by
  suffices h : (∃ request data, action = .decideApprovalRequest request
      decision.approvalRequestId data ∧ decision.decidedAt = request.now ∧
        decision.decidedBy = request.principal.subjectId) ∧
      ∃ row ∈ s.requests, row.id = decision.approvalRequestId ∧ row.status = .pending ∧
        row.currentStageIndex = decision.stageIndex ∧
        ∀ due ∈ row.stageDueAt, decision.decidedAt ≤ due from ⟨⟨hold, hnew⟩, h.1, h.2⟩
  have hchange := (step_change s action).requestsChange
  generalize step s action = after at hnew hchange
  cases hchange with
  | retired _ _ _ _ _ hdecisions =>
    rw [hdecisions] at hnew
    exact absurd hnew hold
  | requested _ _ _ _ _ _ _ _ _ _ _ _ _ _ _ hdecisions =>
    rw [hdecisions] at hnew
    exact absurd hnew hold
  | decided _ request data row stage quorum newStatus h _ hdecisions =>
    rw [hdecisions, List.mem_append, List.mem_singleton] at hnew
    obtain rfl := hnew.resolve_left hold
    refine ⟨⟨request, data, rfl, rfl, rfl⟩, row, h.row_found, rfl, h.pending, ?_, h.in_time⟩
    rw [stageIndex_newDecision]

theorem recorded_run {actions : List Action} {decision : ApprovalDecision}
    (h : decision ∈ (run step {} actions).decisions) :
    ∃ before action after, actions = before ++ action :: after ∧
      RecordedInTime (run step {} before) action decision := by
  obtain ⟨before, action, after, rfl, hold, hnew⟩ := exists_step_of_run step
    (Q := fun s : Store => decision ∈ s.decisions) (s := ({} : Store)) (by simp) h
  exact ⟨before, action, after, rfl, recordedInTime_of_new hold hnew⟩

/-- The decision table only grows at its end. -/
theorem decisions_prefix_step (s : Store) (action : Action) : s.decisions <+: (step s action).decisions := by
  have hchange := (step_change s action).requestsChange
  generalize step s action = after at hchange
  cases hchange with
  | retired _ _ _ _ _ hdecisions => exact hdecisions ▸ List.prefix_rfl
  | requested _ _ _ _ _ _ _ _ _ _ _ _ _ _ _ hdecisions => exact hdecisions ▸ List.prefix_rfl
  | decided _ _ _ _ _ _ _ _ _ hdecisions =>
    rw [hdecisions]
    exact List.prefix_append _ _

theorem decisions_prefix_run (s : Store) (actions : List Action) :
    s.decisions <+: (run step s actions).decisions :=
  relates_run step (R := fun s t : Store => s.decisions <+: t.decisions)
    (fun _ => List.prefix_rfl) (fun _ _ _ => List.IsPrefix.trans) decisions_prefix_step s actions

/-- A request that left `PENDING` keeps every property of its status that holds of all the
statuses without a way on. -/
theorem status_step {P : ApprovalRequestStatus → Prop} (hpending : ¬ P .pending)
    (hended : ∀ status, liveStatus status = false → P status) {s : Store} (action : Action)
    (hold : requestId < s.nextId) (h : ∀ row ∈ s.requests, row.id = requestId → P row.status) :
    ∀ row ∈ (step s action).requests, row.id = requestId → P row.status := by
  have hchange := (step_change s action).requestsChange
  generalize step s action = after at *
  have hmapped : ∀ f : ApprovalRequest → ApprovalRequest, (∀ row, Retires row (f row)) →
      ∀ row ∈ s.requests.map f, row.id = requestId → P row.status := by
    intro f hf row hrow hid
    obtain ⟨old, hin, rfl⟩ := List.mem_map.mp hrow
    rw [(hf old).id_eq] at hid
    rcases hf old with heq | ⟨_, hleft⟩
    · rw [heq]
      exact h old hin hid
    · exact hended _ hleft
  cases hchange with
  | retired _ _ f hf hrequests =>
    rw [hrequests]
    exact hmapped f hf
  | requested _ _ f hf row _ _ hid _ _ _ _ _ _ hrequests =>
    rw [hrequests]
    intro other hother
    rcases List.mem_append.mp hother with hother | hother
    · exact hmapped f hf other hother
    · rw [List.mem_singleton.mp hother, hid]
      exact fun heq => absurd hold (heq ▸ lt_irrefl _)
  | decided _ request data row stage quorum newStatus hdecided hrequests =>
    have hne : row.id ≠ requestId := by
      intro hid
      have hrow := h row hdecided.row_found hid
      rw [hdecided.pending] at hrow
      exact hpending hrow
    rw [hrequests]
    intro other hother hid
    obtain ⟨old, hin, ⟨hrow, rfl⟩ | ⟨_, rfl⟩⟩ := mem_updateRow hother
    · rw [id_written, hrow] at hid
      exact absurd hid hne
    · exact h _ hin hid

/-- The request of this id left `PENDING`, and `decisions` are the ones it has. -/
structure Closed (requestId : Uuid) (decisions : List ApprovalDecision) (s : Store) : Prop where
  old : requestId < s.nextId
  left : ∀ row ∈ s.requests, row.id = requestId → row.status ≠ .pending
  kept : s.decisions.filter (·.approvalRequestId = requestId) = decisions

theorem closed_step {decisions : List ApprovalDecision} (s : Store) (action : Action)
    (h : Closed requestId decisions s) : Closed requestId decisions (step s action) := by
  have hended : ∀ status, liveStatus status = false → status ≠ .pending := by
    rintro status hstatus rfl
    cases hstatus
  refine ⟨h.old.trans_le (step_change s action).nextId_le,
    status_step (fun hne => hne rfl) hended action h.old h.left, ?_⟩
  have hchange := (step_change s action).requestsChange
  generalize step s action = after at *
  cases hchange with
  | retired _ _ _ _ _ hdecisions =>
    rw [hdecisions]
    exact h.kept
  | requested _ _ _ _ _ _ _ _ _ _ _ _ _ _ _ hdecisions =>
    rw [hdecisions]
    exact h.kept
  | decided _ _ _ row _ _ _ hdecided _ hdecisions =>
    have hne : row.id ≠ requestId := fun hid => h.left row hdecided.row_found hid hdecided.pending
    rw [hdecisions, List.filter_append, List.filter_cons_of_neg, List.filter_nil, List.append_nil]
    · exact h.kept
    · simpa [newDecision] using hne

omit [QualityHash] in
theorem decide_refused {decisions : List ApprovalDecision} {s : Store}
    (h : Closed requestId decisions s) (request : Request) (data : ApprovalDecisionCreate) :
    ∃ error, decideApprovalRequest request requestId data s = .error error := by
  cases hcall : decideApprovalRequest request requestId data s with
  | error error => exact ⟨error, rfl⟩
  | ok result =>
    obtain ⟨recorded, after⟩ := result
    obtain ⟨row, hrow, hid, hpending, _⟩ := decideApprovalRequest_ok hcall
    exact absurd hpending (h.left row hrow hid)

/-- `approvals` are the quorum of one stage of the request: as many approvals as the stage
requires, by distinct users it lists if it lists any, each recorded in time. -/
structure StageQuorum (actions : List Action) (row : ApprovalRequest) (index : Nat)
    (stage : ApprovalStageConfig) (approvals : List ApprovalDecision) : Prop where
  enough : stage.requiredApprovals ≤ approvals.length
  distinct : (approvals.map (·.decidedBy)).Nodup
  approves : ∀ decision ∈ approvals, decision ∈ (run step {} actions).decisions ∧
    decision.approvalRequestId = row.id ∧ decision.decision = .approve ∧
    decision.stageKey = stage.key ∧ decision.stageIndex = index ∧
    (stage.approverUserIds ≠ [] → decision.decidedBy ∈ stage.approverUserIds)
  in_time : ∀ decision ∈ approvals, ∃ before action after, actions = before ++ action :: after ∧
    RecordedInTime (run step {} before) action decision

theorem stageQuorum_of_history {actions : List Action} {row : ApprovalRequest} {index : Nat}
    {stage : ApprovalStageConfig} (h : StageHistory (run step {} actions) row)
    (hstage : row.approvalStagesSnapshot[index]? = some stage)
    (henough : stage.requiredApprovals ≤ (stageApprovals (run step {} actions) row.id stage.key).length) :
    StageQuorum actions row index stage
      (stageApprovals (run step {} actions) row.id stage.key) where
  enough := henough
  distinct := h.distinct stage.key
  approves decision hdecision := by
    obtain ⟨hin, hselect⟩ := List.mem_filter.mp hdecision
    simp only [Bool.and_eq_true, decide_eq_true_eq] at hselect
    obtain ⟨⟨hof, hkey⟩, happrove⟩ := hselect
    obtain ⟨_, other, hother, hotherKey, hlisted⟩ := h.staged decision hin hof
    -- Stage keys are unique, so the key names the stage the decision was made in.
    have hindex : decision.stageIndex = index :=
      h.keyed.index_eq hother hstage (hotherKey.symm.trans hkey)
    rw [hindex, hstage] at hother
    cases hother
    exact ⟨hin, hof, happrove, hkey, hindex, hlisted⟩
  in_time decision hdecision := recorded_run (List.mem_of_mem_filter hdecision)

omit [QualityHash] in
theorem StageHistory.every_quorum {s : Store} {row : ApprovalRequest} (h : StageHistory s row)
    (happroved : row.status = .approved) {index : Nat} {stage : ApprovalStageConfig}
    (hstage : row.approvalStagesSnapshot[index]? = some stage) :
    stage.requiredApprovals ≤ (stageApprovals s row.id stage.key).length := by
  obtain ⟨hlast, hquorum⟩ := h.complete happroved
  have hlt := (List.getElem?_eq_some_iff.mp hstage).1
  by_cases hbelow : index < row.currentStageIndex
  · exact h.passed index stage hbelow hstage
  · obtain rfl : index = row.currentStageIndex := by omega
    exact hquorum stage hstage

/-- An approved request has the quorum of every stage, stage after stage, and no decision
against it; a request that left `PENDING` is not decided again. -/
theorem approved_with_every_quorum (actions : List Action) {row : ApprovalRequest}
    (hrow : row ∈ (run step {} actions).requests) : (row.status = .approved →
      (∀ index stage, row.approvalStagesSnapshot[index]? = some stage →
        ∃ approvals, StageQuorum actions row index stage approvals) ∧
      (∀ first ∈ (run step {} actions).decisions, ∀ second ∈ (run step {} actions).decisions,
        first.approvalRequestId = row.id → second.approvalRequestId = row.id →
        first.stageIndex < second.stageIndex → ∀ before, before <+: actions →
        second ∈ (run step {} before).decisions → first ∈ (run step {} before).decisions) ∧
      (∀ decision ∈ (run step {} actions).decisions, decision.approvalRequestId = row.id →
        decision.decision = .approve)) ∧
    (row.status ≠ .pending → ∀ more,
      (run step {} (actions ++ more)).decisions.filter (·.approvalRequestId = row.id) =
        (run step {} actions).decisions.filter (·.approvalRequestId = row.id) ∧
      ∀ request data, ∃ error,
        decideApprovalRequest request row.id data (run step {} (actions ++ more)) =
          .error error) := by
  have hbooks := quorumBooks_run actions
  have hhistory := hbooks.history row hrow
  constructor
  · intro happroved
    refine ⟨?_, ?_, hhistory.favourable (by rw [happroved]; rfl)⟩
    · intro index stage hstage
      exact ⟨_, stageQuorum_of_history hhistory hstage (hhistory.every_quorum happroved hstage)⟩
    · intro first hfirst second hsecond hfirstOf hsecondOf hlt before hbefore hin
      obtain ⟨after, rfl⟩ := hbefore
      rw [run_append] at hfirst hhistory
      obtain ⟨later, hlater⟩ := decisions_prefix_run (run step {} before) after
      rw [← hlater, List.mem_append] at hfirst
      refine hfirst.resolve_right fun hfirst => ?_
      have hordered := hhistory.ordered
      rw [← hlater, List.filter_append, List.pairwise_append] at hordered
      have hle := hordered.2.2 second (List.mem_filter.mpr ⟨hin, by simpa using hsecondOf⟩) first
        (List.mem_filter.mpr ⟨hfirst, by simpa using hfirstOf⟩)
      omega
  · intro hleft more
    have hclosed : Closed row.id ((run step {} actions).decisions.filter (·.approvalRequestId = row.id))
        (run step {} actions) := by
      refine ⟨hbooks.requests_old row hrow, fun other hother hid => ?_, rfl⟩
      rw [hbooks.keyed.eq_of_key_eq hother hrow hid]
      exact hleft
    rw [run_append]
    have hlater := invariant_run step closed_step hclosed more
    exact ⟨hlater.kept, decide_refused hlater⟩

end Runs

section Sample

attribute [local instance] sampleHash

def editorStage : ApprovalStageConfig where
  key := "edit"
  name := "Edit"
  requiredApprovals := 3
  approverUserIds := [7, 8, 9]
  key_pattern := by decide
  required_range := by decide
  approvers_length := by decide
  due_range := by decide

def stagedConfig : QualityConfigCreate :=
  { sampleConfig with
    approvalStages := [editorStage, sampleStage]
    stages_nonempty := by decide
    stages_length := by decide
    stages_keyed := by unfold Keyed; decide }

def stagedApproval (subjectId changes : Nat) : Action :=
  .decideApprovalRequest { sampleRequest with principal := { subjectId := subjectId } } 11
    { sampleDecision with expectedLockVersion := changes + 1, lock_positive := changes.succ_pos }

/-- Three editors approve in the first stage, and the reviewer in the second. -/
def stagedRun : List Action :=
  [sampleContent, .createQualityConfig sampleRequest stagedConfig] ++ sampleReports ++
    [.createAssessment sampleRequest sampleAssessment, .createApprovalRequest sampleRequest sampleApproval,
      stagedApproval 7 0, stagedApproval 8 0, stagedApproval 9 0, stagedApproval 7 1]

theorem sampleRun_approved_with_every_quorum :
    ∃ row ∈ (run step {} stagedRun).requests, row.approvalStagesSnapshot = [editorStage, sampleStage] ∧
      (∃ approvals, StageQuorum stagedRun row 0 editorStage approvals) ∧
      (∃ approvals, StageQuorum stagedRun row 1 sampleStage approvals) ∧
      ∀ request data, ∃ error,
        decideApprovalRequest request row.id data (run step {} (stagedRun ++ [])) =
          .error error := by
  obtain ⟨row, hrow, happroved, hstages⟩ : ∃ row ∈ (run step {} stagedRun).requests,
      row.status = .approved ∧ row.approvalStagesSnapshot = [editorStage, sampleStage] := by
    decide +kernel
  obtain ⟨hquorum, hclosed⟩ := approved_with_every_quorum stagedRun hrow
  have hleft : row.status ≠ .pending := by
    rw [happroved]
    decide
  obtain ⟨hstage, -, -⟩ := hquorum happroved
  exact ⟨row, hrow, hstages, hstage 0 editorStage (by rw [hstages]; rfl),
    hstage 1 sampleStage (by rw [hstages]; rfl), (hclosed hleft []).2⟩

end Sample

end BlogOps.Quality
