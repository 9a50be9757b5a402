import BlogOps.ApprovalVersions

/-!
# Filling the stages of a request

A pending request whose stages have enough members for their quorums is driven
to `APPROVED`: the members of a stage approve one after another, the last of
them moves the request on to the next stage.
-/

namespace BlogOps.Quality

open KeyedTables TransitionRuns List

/-- The pending request names the current version, and its stage is not overdue. -/
structure Awaiting (s : Store) (row : ApprovalRequest) (now : Int) : Prop where
  found : row ∈ s.requests
  pending : row.status = .pending
  lock_positive : 1 ≤ row.lockVersion
  named : current s row.contentId =
    .ok ⟨row.contentId, row.contentVersionId, row.contentHash, some row.contentVersionId⟩
  in_time : ∀ due ∈ row.stageDueAt, now ≤ due

/-- The decisions of the request were made in earlier stages. -/
def Fresh (s : Store) (row : ApprovalRequest) : Prop :=
  ∀ decision ∈ s.decisions, decision.approvalRequestId = row.id → decision.stageIndex < row.currentStageIndex

/-- Distinct active members, listed if the stage lists any, as many as the stage requires. -/
structure Fills (active : Uuid → Bool) (stage : ApprovalStageConfig) (members : List Uuid) :
    Prop where
  count : members.length = stage.requiredApprovals
  distinct : members.Nodup
  active : ∀ member ∈ members, active member = true
  listed : stage.approverUserIds ≠ [] → ∀ member ∈ members, member ∈ stage.approverUserIds

/-- The caller: a member who signed in with a second factor. -/
def approvalBy (member : Uuid) (now : Int) (active : Uuid → Bool) : Request where
  principal := { subjectId := member, authenticationMethods := ["mfa"] }
  now := now
  active := active

theorem approve_unreasoned : ApprovalDecisionKind.approve ≠ .approve →
    (none : Option String).getD "" ≠ "" := fun h => absurd rfl h

def approvalOf (row : ApprovalRequest) (hlock : 1 ≤ row.lockVersion) : ApprovalDecisionCreate where
  expectedLockVersion := row.lockVersion
  expectedContentVersionId := row.contentVersionId
  expectedContentHash := row.contentHash
  decision := .approve
  lock_positive := hlock
  negative_has_reason := approve_unreasoned

def approvedStatus (quorum : Bool) (row : ApprovalRequest) : ApprovalRequestStatus :=
  if quorum && isFinalStage row then .approved else .pending

/-- An approval of the request by an active member from `since` on, recorded and not late. -/
def ApprovalCall [QualityHash] (requestId : Uuid) (since : Int) (active : Uuid → Bool) (s : Store)
    (action : Action) : Prop :=
  ∃ request data decision after, action = .decideApprovalRequest request requestId data ∧
    data.decision = .approve ∧ since ≤ request.now ∧ request.active = active ∧
    active request.principal.subjectId = true ∧
    decideApprovalRequest request requestId data s = .ok (some decision, after) ∧
    ∀ row ∈ s.requests, row.id = requestId → ∀ due ∈ row.stageDueAt, request.now ≤ due

variable {quorum : Bool}

section Call

variable {s : Store} {row : ApprovalRequest} {stage : ApprovalStageConfig} {now : Int}
  {active : Uuid → Bool} {member : Uuid}

/-- No decision of the member stands in the way of the unique constraint: while the request is
pending its decisions are approvals. -/
theorem insertDecision_of_not_prior (hhistory : StageHistory s row) (hpending : row.status = .pending)
    {decision : ApprovalDecision} (hof : decision.approvalRequestId = row.id)
    (hprior : decision.decidedBy ∉ priorActors s row.id decision.stageKey) : insertDecision decision s =
      .ok { s with decisions := s.decisions ++ [decision], nextId := s.nextId + 1 } := by
  refine if_neg fun hany => ?_
  obtain ⟨other, hother, hsame⟩ := any_eq_true.mp hany
  simp only [Bool.and_eq_true, decide_eq_true_eq] at hsame
  obtain ⟨⟨hrequest, hkey⟩, hby⟩ := hsame
  have happrove : other.decision = .approve :=
    hhistory.favourable (by rw [hpending]; rfl) other hother (hrequest.trans hof)
  refine hprior (mem_map.mpr ⟨other, mem_filter.mpr ⟨hother, ?_⟩, hby⟩)
  simp [hrequest, hof, hkey, happrove]

theorem assertApprover_approvalBy (hlisted : stage.approverUserIds ≠ [] → member ∈ stage.approverUserIds) :
    assertApprover (approvalBy member now active).principal stage = .ok () := by
  unfold assertApprover
  rw [if_neg fun hassigned => hassigned.2 (hlisted hassigned.1), if_neg]
  rintro ⟨_, hnone⟩
  exact hnone "mfa" (by simp [approvalBy]) (by decide)

theorem stageQuorum_approvalBy (hdistinct : (priorActors s row.id stage.key).Nodup)
    (hprior : member ∉ priorActors s row.id stage.key) :
    stageQuorum s (approvalBy member now active).principal row stage =
      .ok (decide (stage.requiredApprovals ≤ (priorActors s row.id stage.key).length + 1)) := by
  have hpositive : ¬ stage.requiredApprovals < 1 := not_lt.mpr stage.required_range.1
  unfold stageQuorum approvalQuorumReached
  dsimp only
  have hdedup : (member :: priorActors s row.id stage.key).dedup =
      member :: priorActors s row.id stage.key := (nodup_cons.mpr ⟨hprior, hdistinct⟩).dedup
  rw [show (approvalBy member now active).principal.subjectId = member from rfl, if_neg hprior,
    if_neg hpositive, hdedup, length_cons]

/-- A member who did not decide on the stage yet approves it. -/
theorem decideApprovalRequest_approve (hbooks : QuorumBooks s) (h : Awaiting s row now)
    (hstage : row.approvalStagesSnapshot[row.currentStageIndex]? = some stage)
    (hlisted : stage.approverUserIds ≠ [] → member ∈ stage.approverUserIds)
    (hprior : member ∉ priorActors s row.id stage.key)
    (hquorum : quorum = decide (stage.requiredApprovals ≤ (priorActors s row.id stage.key).length + 1)) :
    decideApprovalRequest (approvalBy member now active) row.id (approvalOf row h.lock_positive) s =
      .ok (some (newDecision (approvalBy member now active) s.nextId
          (approvalOf row h.lock_positive) stage quorum (approvedStatus quorum row) row),
        ({ s with
          decisions := s.decisions ++ [newDecision (approvalBy member now active) s.nextId
            (approvalOf row h.lock_positive) stage quorum (approvedStatus quorum row) row]
          nextId := s.nextId + 1 } : Store).updateRequest row.id
            (decideRequest (approvalBy member now active) .approve quorum
              (approvedStatus quorum row))) := by
  have hhistory := hbooks.history row h.found
  have hrow : approvalRequestOf s row.id = .ok row := by
    unfold approvalRequestOf
    rw [hbooks.keyed.find?_eq h.found]
    rfl
  have hlock : assertLock "approval_request" (approvalOf row h.lock_positive).expectedLockVersion
      row.lockVersion = .ok () := assertLock_ok.mpr rfl
  have hdue : ¬ row.stageDueAt.any (· < (approvalBy member now active).now) = true := by
    cases hdueAt : row.stageDueAt with
    | none => simp
    | some due =>
      have hle : now ≤ due := h.in_time due hdueAt
      exact fun hlate => absurd hle (not_le.mpr (of_decide_eq_true hlate))
  have hstageOf : stageOf row = .ok stage := by
    unfold stageOf
    rw [hstage]
  have hquorumCall : stageQuorum s (approvalBy member now active).principal row stage =
      .ok quorum := by
    rw [hquorum]
    exact stageQuorum_approvalBy (hhistory.distinct stage.key) hprior
  have htransition : approvalTransition (approvalOf row h.lock_positive).decision quorum
      (isFinalStage row) row = .ok (approvedStatus quorum row) := by
    unfold approvalTransition
    rw [h.pending]
    rfl
  have hinsert : insertDecision (newDecision (approvalBy member now active) s.nextId
      (approvalOf row h.lock_positive) stage quorum (approvedStatus quorum row) row) s = .ok _ :=
    insertDecision_of_not_prior hhistory h.pending rfl hprior
  have hsnapshot : ¬ (row.contentVersionId ≠
      (approvalOf row h.lock_positive).expectedContentVersionId ∨
        row.contentHash ≠ (approvalOf row h.lock_positive).expectedContentHash) := by
    simp [approvalOf]
  have hmatches : ¬ (!exactContentVersionMatches row.contentVersionId row.contentHash
      row.contentVersionId row.contentHash) = true := by
    simp [exactContentVersionMatches]
  unfold decideApprovalRequest
  rw [bind_of_ok hrow, bind_of_ok hlock, if_neg hsnapshot, if_neg (not_not.mpr h.pending),
    bind_of_ok h.named, if_neg hmatches, if_neg hdue]
  unfold recordDecision
  rw [bind_of_ok hstageOf, bind_of_ok (assertApprover_approvalBy hlisted),
    bind_of_ok hquorumCall, bind_of_ok htransition]
  dsimp only
  rw [bind_of_ok hinsert]
  rfl

/-- An approval that leaves the quorum open changes no column of the request. -/
theorem decideRequest_open (request : Request) (hpending : row.status = .pending) :
    decideRequest request .approve false .pending row = row := by
  obtain ⟨⟩ := row
  simp only at hpending
  subst hpending
  rfl

theorem decideRequest_advances (request : Request) (hpending : row.status = .pending)
    (hfinal : isFinalStage row = false) : decideRequest request .approve true .pending row =
      { row with
        currentStageIndex := row.currentStageIndex + 1
        stageDueAt := row.approvalStagesSnapshot[row.currentStageIndex + 1]?.bind
          (stageDueAt request.now) } := by
  have hadvance : advanceStage request.now .approve true row =
      { row with
        currentStageIndex := row.currentStageIndex + 1
        stageDueAt := row.approvalStagesSnapshot[row.currentStageIndex + 1]?.bind
          (stageDueAt request.now) } := if_pos (by simp [hfinal])
  unfold decideRequest
  rw [hadvance]
  obtain ⟨⟩ := row
  simp only at hpending
  subst hpending
  rfl

theorem lock_positive_writeRequest {f : ApprovalRequest → ApprovalRequest}
    (h : 1 ≤ row.lockVersion) : 1 ≤ (writeRequest f row).lockVersion := by
  unfold writeRequest
  split
  · exact h
  · exact Nat.le_add_left _ _

theorem priorActors_approve {request : Request} {data : ApprovalDecisionCreate} {after : Store} {id : Uuid}
    {newStatus : ApprovalRequestStatus} (happrove : data.decision = .approve)
    (hdecisions : after.decisions = s.decisions ++ [newDecision request id data stage quorum newStatus row]) :
    priorActors after row.id stage.key =
      priorActors s row.id stage.key ++ [request.principal.subjectId] := by
  unfold priorActors
  rw [stageApprovals_decided hdecisions, if_pos ⟨rfl, happrove⟩, map_append]
  rfl

theorem due_stageDueAt {stages : List ApprovalStageConfig} {index : Nat} {due : Int}
    (hdue : due ∈ stages[index]?.bind (stageDueAt now)) : now ≤ due := by
  obtain ⟨stage, _, hstage⟩ := Option.bind_eq_some_iff.mp hdue
  obtain ⟨seconds, _, rfl⟩ := Option.map_eq_some_iff.mp hstage
  exact Int.le_add_of_nonneg_right (Int.natCast_nonneg seconds)

end Call

section Stages

variable [QualityHash] {s : Store} {row : ApprovalRequest} {stage : ApprovalStageConfig}
  {now : Int} {active : Uuid → Bool}

/-- Where the approvals of a stage lead: the last stage approves the request, any other stage
hands it on to the next one. -/
def StagePassed (s : Store) (row : ApprovalRequest) (now : Int) : Prop :=
  if isFinalStage row then ∃ later ∈ s.requests, later.id = row.id ∧ later.status = .approved
  else ∃ later, Awaiting s later now ∧ Fresh s later ∧ later.id = row.id ∧
    later.approvalStagesSnapshot = row.approvalStagesSnapshot ∧
    later.currentStageIndex = row.currentStageIndex + 1

section

variable (hbooks : QuorumBooks s) (h : Awaiting s row now)
    (hstage : row.approvalStagesSnapshot[row.currentStageIndex]? = some stage) {member : Uuid}
    (hlisted : stage.approverUserIds ≠ [] → member ∈ stage.approverUserIds)

include hbooks h hstage hlisted

theorem approvalCall_approve (hactive : active member = true)
    (hprior : member ∉ priorActors s row.id stage.key) :
    ApprovalCall row.id now active s (.decideApprovalRequest (approvalBy member now active) row.id
      (approvalOf row h.lock_positive)) := by
  refine ⟨_, _, _, _, rfl, rfl, le_rfl, rfl, hactive,
    decideApprovalRequest_approve hbooks h hstage hlisted hprior rfl, ?_⟩
  intro other hother hid due hdue
  rw [hbooks.keyed.eq_of_key_eq hother h.found hid] at hdue
  exact h.in_time due hdue

theorem step_approve (hprior : member ∉ priorActors s row.id stage.key)
    (hquorum : quorum = decide (stage.requiredApprovals ≤ (priorActors s row.id stage.key).length + 1)) :
    step s (.decideApprovalRequest (approvalBy member now active) row.id (approvalOf row h.lock_positive)) =
      ({ s with
        decisions := s.decisions ++ [newDecision (approvalBy member now active) s.nextId
          (approvalOf row h.lock_positive) stage quorum (approvedStatus quorum row) row]
        nextId := s.nextId + 1 } : Store).updateRequest row.id
          (decideRequest (approvalBy member now active) .approve quorum
            (approvedStatus quorum row)) := by
  refine step_of_ok ?_
  rw [perform, decideApprovalRequest_approve hbooks h hstage hlisted hprior hquorum]
  rfl

end

omit [QualityHash] in
theorem stagePassed_approve (hhistory : StageHistory s row) (h : Awaiting s row now)
    {member : Uuid} {id : Uuid} : StagePassed (({ s with
      decisions := s.decisions ++ [newDecision (approvalBy member now active) id
        (approvalOf row h.lock_positive) stage true (approvedStatus true row) row]
      nextId := s.nextId + 1 } : Store).updateRequest row.id
        (decideRequest (approvalBy member now active) .approve true (approvedStatus true row)))
      row now := by
  have hid : (writeRequest (decideRequest (approvalBy member now active) .approve true
      (approvedStatus true row)) row).id = row.id := by
    rw [writeRequest_proj (fun other => other.id) fun _ _ => rfl, decideRequest_id]
  have hstatus : (writeRequest (decideRequest (approvalBy member now active) .approve true
      (approvedStatus true row)) row).status = approvedStatus true row := by
    rw [writeRequest_proj (fun other => other.status) fun _ _ => rfl, decideRequest_status]
  have hfound : writeRequest (decideRequest (approvalBy member now active) .approve true
      (approvedStatus true row)) row ∈ updateRow (·.id) row.id (writeRequest (decideRequest
        (approvalBy member now active) .approve true (approvedStatus true row))) s.requests :=
    mem_updateRow_of_mem h.found rfl
  unfold StagePassed
  cases hfinal : isFinalStage row with
  | true =>
    rw [if_pos rfl]
    refine ⟨_, hfound, hid, ?_⟩
    rw [hstatus, approvedStatus, hfinal]
    rfl
  | false =>
    have hpending : approvedStatus true row = .pending := by
      rw [approvedStatus, hfinal]
      rfl
    have hwritten := decideRequest_advances (approvalBy member now active) h.pending hfinal
    rw [if_neg Bool.false_ne_true]
    rw [hpending] at hid hstatus hfound ⊢
    obtain ⟨later, hlater⟩ : ∃ later, later = writeRequest (decideRequest
        (approvalBy member now active) .approve true .pending) row := ⟨_, rfl⟩
    rw [← hlater] at hid hstatus hfound
    have hcontent : later.contentId = row.contentId := by
      rw [hlater, writeRequest_proj (fun other => other.contentId) fun _ _ => rfl, hwritten]
    have hversion : later.contentVersionId = row.contentVersionId := by
      rw [hlater, writeRequest_proj (fun other => other.contentVersionId) fun _ _ => rfl, hwritten]
    have hhash : later.contentHash = row.contentHash := by
      rw [hlater, writeRequest_proj (fun other => other.contentHash) fun _ _ => rfl, hwritten]
    have hstages : later.approvalStagesSnapshot = row.approvalStagesSnapshot := by
      rw [hlater, writeRequest_proj (fun other => other.approvalStagesSnapshot) fun _ _ => rfl, hwritten]
    have hindex : later.currentStageIndex = row.currentStageIndex + 1 := by
      rw [hlater, writeRequest_proj (fun other => other.currentStageIndex) fun _ _ => rfl, hwritten]
    have hlock : 1 ≤ later.lockVersion := by
      rw [hlater]
      exact lock_positive_writeRequest h.lock_positive
    have hdue : ∀ due ∈ later.stageDueAt, now ≤ due := by
      rw [hlater, writeRequest_proj (fun other => other.stageDueAt) fun _ _ => rfl, hwritten]
      exact fun due hdue => due_stageDueAt hdue
    refine ⟨later, ⟨hfound, hstatus, hlock, ?_, hdue⟩, ?_, hid, hstages, hindex⟩
    · rw [hcontent, hversion, hhash]
      exact h.named
    · intro decision hdecision hof
      rw [hid] at hof
      rw [hindex, Nat.lt_succ_iff]
      rcases mem_append.mp hdecision with hold | hnew
      · exact (hhistory.staged decision hold hof).1
      · rw [mem_singleton.mp hnew, stageIndex_newDecision]

omit [QualityHash] in
/-- An approval that leaves the quorum open leaves the request waiting. -/
theorem awaiting_open (h : Awaiting s row now) {member : Uuid} {decisions : List ApprovalDecision}
    {next : Uuid} : Awaiting (({ s with
      decisions := decisions
      nextId := next } : Store).updateRequest row.id
        (decideRequest (approvalBy member now active) .approve false (approvedStatus false row)))
      row now := by
  have hopen : writeRequest (decideRequest (approvalBy member now active) .approve false
      (approvedStatus false row)) row = row :=
    if_pos (decideRequest_open (approvalBy member now active) h.pending)
  have hfound : writeRequest (decideRequest (approvalBy member now active) .approve false
      (approvedStatus false row)) row ∈ updateRow (·.id) row.id (writeRequest (decideRequest
        (approvalBy member now active) .approve false (approvedStatus false row))) s.requests :=
    mem_updateRow_of_mem h.found rfl
  rw [hopen] at hfound
  exact ⟨hfound, h.pending, h.lock_positive, h.named, h.in_time⟩

/-- The members that have not approved yet approve one after another. -/
theorem stage_run {rest : List Uuid} (hbooks : QuorumBooks s) (h : Awaiting s row now)
    (hstage : row.approvalStagesSnapshot[row.currentStageIndex]? = some stage)
    (hfills : Fills active stage (priorActors s row.id stage.key ++ rest)) (hrest : rest ≠ []) :
    ∃ calls, Along step (ApprovalCall row.id now active) s calls ∧
      StagePassed (run step s calls) row now := by
  induction rest generalizing s with
  | nil => exact absurd rfl hrest
  | cons member more ih =>
    have hmember : member ∈ priorActors s row.id stage.key ++ member :: more :=
      mem_append_right _ mem_cons_self
    have hlisted : stage.approverUserIds ≠ [] → member ∈ stage.approverUserIds :=
      fun hlist => hfills.listed hlist member hmember
    have hprior : member ∉ priorActors s row.id stage.key := fun hin =>
      (nodup_append.mp hfills.distinct).2.2 member hin member mem_cons_self rfl
    have hcall := approvalCall_approve hbooks h hstage hlisted (hfills.active member hmember) hprior
    have hcount := hfills.count
    rw [length_append, length_cons] at hcount
    have hbooks' := quorumBooks_step s (.decideApprovalRequest (approvalBy member now active) row.id
      (approvalOf row h.lock_positive)) hbooks
    by_cases hmore : more = []
    · -- The last member reaches the quorum.
      have hreached : true = decide (stage.requiredApprovals ≤
          (priorActors s row.id stage.key).length + 1) := by
        rw [hmore, length_nil] at hcount
        exact (decide_eq_true hcount.ge).symm
      refine ⟨[_], ⟨hcall, trivial⟩, ?_⟩
      rw [run_cons, run_nil, step_approve hbooks h hstage hlisted hprior hreached]
      exact stagePassed_approve (hbooks.history row h.found) h
    · have hopen : false = decide (stage.requiredApprovals ≤
          (priorActors s row.id stage.key).length + 1) := by
        have hpos := length_pos_of_ne_nil hmore
        exact (decide_eq_false (by omega)).symm
      have hstep : step s (.decideApprovalRequest (approvalBy member now active) row.id
          (approvalOf row h.lock_positive)) = _ :=
        step_approve hbooks h hstage hlisted hprior hopen
      rw [hstep] at hbooks'
      obtain ⟨calls, hcalls, hpassed⟩ := ih hbooks' (awaiting_open h) (by
        rw [priorActors_approve rfl rfl, append_assoc]
        exact hfills) hmore
      refine ⟨_ :: calls, ⟨hcall, ?_⟩, ?_⟩
      · rw [hstep]
        exact hcalls
      · rw [run_cons, hstep]
        exact hpassed

omit [QualityHash] in
/-- The current stage of a request without decisions in it has no approvers yet. -/
theorem priorActors_fresh (hhistory : StageHistory s row) (hfresh : Fresh s row)
    (hstage : row.approvalStagesSnapshot[row.currentStageIndex]? = some stage) :
    priorActors s row.id stage.key = [] := by
  rw [priorActors, map_eq_nil_iff, stageApprovals, filter_eq_nil_iff]
  intro decision hdecision hselect
  simp only [Bool.and_eq_true, decide_eq_true_eq] at hselect
  obtain ⟨⟨hof, hkey⟩, _⟩ := hselect
  obtain ⟨_, other, hother, hotherKey, _⟩ := hhistory.staged decision hdecision hof
  have hindex := hhistory.keyed.index_eq hother hstage (hotherKey.symm.trans hkey)
  exact absurd hindex (hfresh decision hdecision hof).ne

theorem current_stage_run (hbooks : QuorumBooks s) (h : Awaiting s row now) (hfresh : Fresh s row)
    (hfills : ∀ stage ∈ row.approvalStagesSnapshot, ∃ members, Fills active stage members) :
    ∃ calls, Along step (ApprovalCall row.id now active) s calls ∧
      StagePassed (run step s calls) row now := by
  have hhistory := hbooks.history row h.found
  obtain ⟨stage, hstage⟩ : ∃ stage, row.approvalStagesSnapshot[row.currentStageIndex]? =
      some stage := ⟨_, getElem?_eq_getElem hhistory.index_lt⟩
  obtain ⟨members, hmembers⟩ := hfills stage (mem_of_getElem? hstage)
  have hnone := priorActors_fresh hhistory hfresh hstage
  have hall : Fills active stage (priorActors s row.id stage.key ++ members) := by
    rw [hnone]
    exact hmembers
  have hsome : members ≠ [] := by
    have hcount := hmembers.count
    have hpositive := stage.required_range.1
    exact ne_nil_of_length_pos (by omega)
  exact stage_run hbooks h hstage hall hsome

/-- A request whose remaining stages can all be filled is driven to `APPROVED`. -/
theorem stages_run (remaining : Nat) (hbooks : QuorumBooks s) (h : Awaiting s row now) (hfresh : Fresh s row)
    (hremaining : row.currentStageIndex + remaining + 1 = row.approvalStagesSnapshot.length)
    (hfills : ∀ stage ∈ row.approvalStagesSnapshot, ∃ members, Fills active stage members) :
    ∃ calls, Along step (ApprovalCall row.id now active) s calls ∧
      ∃ later ∈ (run step s calls).requests, later.id = row.id ∧ later.status = .approved := by
  induction remaining generalizing s row with
  | zero =>
    obtain ⟨calls, hcalls, hpassed⟩ := current_stage_run hbooks h hfresh hfills
    have hfinal : isFinalStage row = true := decide_eq_true (by omega)
    unfold StagePassed at hpassed
    rw [if_pos hfinal] at hpassed
    exact ⟨calls, hcalls, hpassed⟩
  | succ remaining ih =>
    obtain ⟨calls, hcalls, hpassed⟩ := current_stage_run hbooks h hfresh hfills
    have hfinal : ¬ isFinalStage row = true := by
      intro hlast
      have hindex : row.currentStageIndex = row.approvalStagesSnapshot.length - 1 :=
        of_decide_eq_true hlast
      omega
    unfold StagePassed at hpassed
    rw [if_neg hfinal] at hpassed
    obtain ⟨later, hwait, hfreshLater, hid, hstages, hindex⟩ := hpassed
    obtain ⟨more, hmore, approved, happroved, happrovedId, hstatus⟩ :=
      ih (invariant_run step quorumBooks_step hbooks calls) hwait hfreshLater
        (by rw [hindex, hstages]; omega) (by rwa [hstages])
    rw [hid] at hmore happrovedId
    refine ⟨calls ++ more, (along_append step _ s calls more).mpr ⟨hcalls, hmore⟩, approved, ?_,
      happrovedId, hstatus⟩
    rw [run_append]
    exact happroved

end Stages

end BlogOps.Quality
