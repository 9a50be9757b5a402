import BlogOps.ApprovalQuorum

/-!
# Approvals and content versions

A live request names the current version of its content: every write that moves
the current version, or the context an approval depends on, takes the live
requests of the content with it.
-/

namespace BlogOps.Quality

open KeyedTables TransitionRuns List

/-- The request names the current version of its content and the hash of that version. -/
def Current (s : Store) (row : ApprovalRequest) : Prop :=
  (∃ content ∈ s.contents, content.id = row.contentId ∧
    content.currentVersionId = some row.contentVersionId) ∧
  ∃ version ∈ s.versions, version.id = row.contentVersionId ∧
    version.contentId = row.contentId ∧ version.contentHash = row.contentHash

def Approves (row : ApprovalRequest) : Prop :=
  row.approvedContentVersionId = some row.contentVersionId ∧ row.approvedContentHash = some row.contentHash

variable {row : ApprovalRequest} {f : ContentItem → ContentItem} {content : ContentItem}

theorem Current.grow {s after : Store} (h : Current s row)
    (hcontents : ∀ content ∈ s.contents, content.id = row.contentId →
      ∃ later ∈ after.contents, later.id = content.id ∧
      later.currentVersionId = content.currentVersionId)
    (hversions : ∀ version ∈ s.versions, version ∈ after.versions) : Current after row := by
  obtain ⟨⟨content, hcontent, hof, hcurrent⟩, version, hversion, hid⟩ := h
  obtain ⟨later, hlater, hsame, hkept⟩ := hcontents content hcontent hof
  exact ⟨⟨later, hlater, hsame.trans hof, hkept.trans hcurrent⟩, version, hversions version hversion, hid⟩

/-- Contents, versions and requests have ids that were given out, and the live requests are
current. -/
structure VersionBooks (s : Store) : Prop where
  contents_keyed : Keyed (·.id) s.contents
  contents_old : ∀ content ∈ s.contents, content.id < s.nextId
  versions_keyed : Keyed (·.id) s.versions
  versions_old : ∀ version ∈ s.versions, version.id < s.nextId
  current : ∀ row ∈ s.requests, liveStatus row.status = true → Current s row
  approves : ∀ row ∈ s.requests, row.status = .approved → Approves row

theorem versionBooks_empty : VersionBooks {} where
  contents_keyed := nodup_nil
  contents_old _ h := by cases h
  versions_keyed := nodup_nil
  versions_old _ h := by cases h
  current _ h := by cases h
  approves _ h := by cases h

theorem id_writeContent (hf : ∀ row, (f row).id = row.id) (row : ContentItem) :
    (writeContent f row).id = row.id := by
  unfold writeContent
  split
  · rfl
  · exact hf row

theorem currentVersionId_writeContent (row : ContentItem) :
    (writeContent f row).currentVersionId = (f row).currentVersionId := by
  unfold writeContent
  split
  · rename_i heq
    rw [heq]
  · rfl

section Steps

variable [QualityHash] {s after : Store} {action : Action}

theorem contents_step_keyed (hchange : Change s action after) (h : VersionBooks s) :
    Keyed (·.id) after.contents ∧ ∀ content ∈ after.contents, content.id < after.nextId := by
  have hupdated : ∀ (rows : List ContentItem) (contentId next : Uuid)
      (f : ContentItem → ContentItem), (∀ row, (f row).id = row.id) → Keyed (·.id) rows →
      (∀ row ∈ rows, row.id < next) →
      Keyed (·.id) (updateRow (·.id) contentId (writeContent f) rows) ∧
        ∀ row ∈ updateRow (·.id) contentId (writeContent f) rows, row.id < next := by
    intro rows contentId next f hf hkeyed hold
    refine ⟨hkeyed.updateRow fun row _ => id_writeContent hf row, ?_⟩
    intro row hrow
    obtain ⟨old, hin, ⟨_, rfl⟩ | ⟨_, rfl⟩⟩ := mem_updateRow hrow
    · rw [id_writeContent hf]
      exact hold old hin
    · exact hold _ hin
  have hgrown : ∀ (content : ContentItem) (next : Uuid), content.id = s.nextId → s.nextId < next →
      Keyed (·.id) (s.contents ++ [content]) ∧
        ∀ row ∈ s.contents ++ [content], row.id < next := by
    intro content next hid hlt
    constructor
    · refine h.contents_keyed.append_row fun other hother => ?_
      rw [hid]
      exact (h.contents_old other hother).ne
    · simp only [mem_append, mem_singleton]
      rintro row (hrow | rfl)
      · exact (h.contents_old row hrow).trans hlt
      · exact hid.trans_lt hlt
  have hnext := hchange.nextId_le
  have hlater : ∀ content ∈ s.contents, content.id < after.nextId :=
    fun content hcontent => (h.contents_old content hcontent).trans_le hnext
  cases hchange with
  | evidence _ _ hevidence =>
    cases hevidence with
    | assessment _ _ _ _ _ _ _ _ _ _ _ hrecord =>
      rw [(recordAssessment_ok hrecord).2] at hlater ⊢
      exact ⟨h.contents_keyed, hlater⟩
    | _ => exact ⟨h.contents_keyed, hlater⟩
  | contentCreated _ content hid => exact hgrown content _ hid (Nat.lt_succ_self _)
  | documentCreated _ content version hid =>
    obtain ⟨hkeyed, hold⟩ := hgrown content (s.nextId + 2) hid (Nat.lt_add_of_pos_right two_pos)
    exact hupdated _ _ _ _ (fun _ => rfl) hkeyed hold
  | published _ request content version move reason _ _ _ hmove =>
    exact hupdated _ _ _ _ hmove.keeps_id h.contents_keyed hlater
  | edited _ contentId f hf => exact hupdated _ _ _ _ hf.keeps_id h.contents_keyed hlater
  | contextEdited _ _ contentId f hf =>
    exact hupdated _ _ _ _ hf.keeps_id h.contents_keyed hlater
  | requested _ _ _ _ _ _ _ _ hmiddle =>
    rcases hmiddle with rfl | ⟨_, rfl⟩ <;> exact ⟨h.contents_keyed, hlater⟩
  | _ => exact ⟨h.contents_keyed, hlater⟩

theorem versions_step_keyed (hchange : Change s action after) (h : VersionBooks s) :
    Keyed (·.id) after.versions ∧ ∀ version ∈ after.versions, version.id < after.nextId := by
  have hgrown : ∀ (version : ContentVersion) (next : Uuid), s.nextId ≤ version.id →
      version.id < next → Keyed (·.id) (s.versions ++ [version]) ∧
        ∀ row ∈ s.versions ++ [version], row.id < next := by
    intro version next hid hlt
    constructor
    · refine h.versions_keyed.append_row fun other hother => ?_
      exact ((h.versions_old other hother).trans_le hid).ne
    · simp only [mem_append, mem_singleton]
      rintro row (hrow | rfl)
      · exact ((h.versions_old row hrow).trans_le hid).trans hlt
      · exact hlt
  have hnext := hchange.nextId_le
  have hlater : ∀ version ∈ s.versions, version.id < after.nextId :=
    fun version hversion => (h.versions_old version hversion).trans_le hnext
  cases hchange with
  | evidence _ _ hevidence =>
    cases hevidence with
    | assessment _ _ _ _ _ _ _ _ _ _ _ hrecord =>
      rw [(recordAssessment_ok hrecord).2] at hlater ⊢
      exact ⟨h.versions_keyed, hlater⟩
    | _ => exact ⟨h.versions_keyed, hlater⟩
  | documentCreated _ content version _ hversion =>
    exact hgrown version _ (hversion ▸ Nat.le_succ _) (hversion ▸ Nat.lt_succ_self _)
  | published _ request content version move reason _ hid =>
    exact hgrown version _ hid.ge (hid ▸ Nat.lt_succ_self _)
  | requested _ _ _ _ _ _ _ _ hmiddle =>
    rcases hmiddle with rfl | ⟨_, rfl⟩ <;> exact ⟨h.versions_keyed, hlater⟩
  | _ => exact ⟨h.versions_keyed, hlater⟩

omit [QualityHash] in
theorem Current.updateContent (h : Current s row) (contentId : Uuid) (hid : ∀ row, (f row).id = row.id)
    (hkeeps : contentId ≠ row.contentId ∨ ∀ row, (f row).currentVersionId = row.currentVersionId) :
    Current (s.updateContent contentId f) row := by
  refine h.grow (fun content hcontent hof => ?_) fun version hversion => hversion
  by_cases hedited : content.id = contentId
  · refine ⟨_, mem_updateRow_of_mem hcontent hedited, id_writeContent hid content, ?_⟩
    rw [currentVersionId_writeContent]
    exact hkeeps.elim (fun hne => absurd (hedited.symm.trans hof) hne) fun hf => hf content
  · exact ⟨_, mem_updateRow_of_ne hcontent hedited, rfl, rfl⟩

omit [QualityHash] in
/-- The requests that stay live when the content moves on are the untouched ones. -/
theorem live_of_invalidated {request : Request} {contentId versionId : Uuid}
    {contentHash reason : String} {force : Bool}
    (hrow : row ∈ (invalidateApprovalsForContentChange request contentId versionId contentHash
      reason force s).requests)
    (hlive : liveStatus row.status = true) :
    row ∈ s.requests ∧ touchedByChange contentId versionId contentHash force row = false := by
  obtain ⟨old, hold, rfl⟩ := mem_map.mp hrow
  split_ifs at hlive ⊢ with htouched
  · rw [writeRequest_proj (fun row => row.status) fun _ _ => rfl] at hlive
    cases hlive
  · exact ⟨hold, by simpa using htouched⟩

omit [QualityHash] in
/-- A new version takes back every live request of its content. -/
theorem contentId_ne_of_published {request : Request} {version : ContentVersion}
    {move : ContentVersion → ContentItem → ContentItem} {reason : String} (h : VersionBooks s)
    (hid : version.id = s.nextId) (hrow : row ∈ (published request content version move reason s).requests)
    (hlive : liveStatus row.status = true) (hcurrent : Current s row) : content.id ≠ row.contentId := by
  obtain ⟨_, huntouched⟩ := live_of_invalidated hrow hlive
  obtain ⟨_, old, hold, hversion, _⟩ := hcurrent
  have hne : row.contentVersionId ≠ version.id := by
    rw [← hversion, hid]
    exact (h.versions_old old hold).ne
  intro heq
  simp [touchedByChange, heq, hlive, hne] at huntouched

theorem current_step (hchange : Change s action after) (h : VersionBooks s) (hrow : row ∈ after.requests)
    (hlive : liveStatus row.status = true) (hcurrent : Current s row) : Current after row := by
  cases hchange with
  | evidence _ _ hevidence =>
    cases hevidence with
    | assessment _ _ _ _ _ _ _ _ _ _ _ hrecord =>
      rw [(recordAssessment_ok hrecord).2]
      exact hcurrent
    | _ => exact hcurrent
  | contentCreated _ content =>
    exact hcurrent.grow (fun old hold _ => ⟨old, mem_append_left _ hold, rfl, rfl⟩) fun _ hold => hold
  | documentCreated _ content version hid =>
    have hgrown : Current { s with
        contents := s.contents ++ [content]
        versions := s.versions ++ [version]
        nextId := s.nextId + 2 } row :=
      hcurrent.grow (fun old hold _ => ⟨old, mem_append_left _ hold, rfl, rfl⟩)
        fun _ hold => mem_append_left _ hold
    refine hgrown.updateContent _ (fun _ => rfl) (.inl ?_)
    obtain ⟨⟨old, hold, hof, _⟩, _⟩ := hcurrent
    rw [hid, ← hof]
    exact (h.contents_old old hold).ne'
  | published _ request content version move reason _ hid _ hmove =>
    have hgrown : Current { s with
        versions := s.versions ++ [version]
        nextId := s.nextId + 1 } row :=
      hcurrent.grow (fun old hold _ => ⟨old, hold, rfl, rfl⟩) fun _ hold => mem_append_left _ hold
    exact hgrown.updateContent content.id hmove.keeps_id
      (.inl (contentId_ne_of_published h hid hrow hlive hcurrent))
  | edited _ contentId f hf =>
    exact hcurrent.updateContent contentId hf.keeps_id (.inr hf.keeps_current)
  | contextEdited _ _ contentId f hf =>
    exact hcurrent.updateContent contentId hf.keeps_id (.inr hf.keeps_current)
  | requested _ _ _ _ _ _ _ _ hmiddle =>
    rcases hmiddle with rfl | ⟨_, rfl⟩ <;> exact hcurrent
  | _ => exact hcurrent

omit [QualityHash] in
theorem current_decided {request : Request} {decision : ApprovalDecisionKind} {quorum : Bool}
    {newStatus : ApprovalRequestStatus} :
    Current s (writeRequest (decideRequest request decision quorum newStatus) row) ↔
      Current s row := by
  rw [writeRequest_proj (Current s) fun _ _ => rfl]
  unfold decideRequest advanceStage
  dsimp only
  split_ifs <;> rfl

omit [QualityHash] in
theorem approves_decided {request : Request} {decision : ApprovalDecisionKind} {quorum : Bool} :
    Approves (writeRequest (decideRequest request decision quorum .approved) row) := by
  rw [writeRequest_proj Approves fun _ _ => rfl]
  unfold decideRequest
  dsimp only
  rw [if_pos rfl]
  exact ⟨rfl, rfl⟩

omit [QualityHash] in
theorem current_of_named (h : NamesCurrent s row) : Current s row := by
  obtain ⟨content, version, hcontent, hcurrent, hversion, hhash⟩ := h
  obtain ⟨hin, hid, _⟩ := liveContent_some hcontent
  obtain ⟨hversionIn, hversionId, hof⟩ := versionOf_some hversion
  exact ⟨⟨content, hin, hid, hcurrent⟩, version, hversionIn, hversionId, hof, hhash⟩

omit [QualityHash] in
theorem Retires.eq_of_live {after : ApprovalRequest} (h : Retires row after)
    (hlive : liveStatus after.status = true) : after = row := by
  rcases h with heq | ⟨_, hended⟩
  · exact heq
  · rw [hended] at hlive
    cases hlive

omit [QualityHash] in
/-- A request that is live after the action was current before it. -/
theorem current_of_live (hchange : RequestsChange s action after) (h : VersionBooks s)
    (hkeyed : Keyed (·.id) s.requests) (hrow : row ∈ after.requests) (hlive : liveStatus row.status = true) :
    Current s row ∧ (row.status = .approved → Approves row) := by
  have hold : ∀ old ∈ s.requests, liveStatus old.status = true →
      Current s old ∧ (old.status = .approved → Approves old) :=
    fun old hin hlive => ⟨h.current old hin hlive, h.approves old hin⟩
  cases hchange with
  | retired _ _ f hf hrequests =>
    rw [hrequests] at hrow
    obtain ⟨old, hin, rfl⟩ := mem_map.mp hrow
    have heq := (hf old).eq_of_live hlive
    rw [heq] at hlive ⊢
    exact hold old hin hlive
  | requested _ _ f hf new _ _ _ hpending _ _ hnamed _ _ hrequests =>
    rw [hrequests] at hrow
    rcases mem_append.mp hrow with hrow | hrow
    · obtain ⟨old, hin, rfl⟩ := mem_map.mp hrow
      have heq := (hf old).eq_of_live hlive
      rw [heq] at hlive ⊢
      exact hold old hin hlive
    · rw [mem_singleton.mp hrow]
      refine ⟨current_of_named hnamed, fun happroved => ?_⟩
      rw [hpending] at happroved
      cases happroved
  | decided _ request data new stage quorum newStatus hdecided hrequests =>
    rw [hrequests] at hrow
    obtain ⟨old, hin, ⟨hid, rfl⟩ | ⟨_, rfl⟩⟩ := mem_updateRow hrow
    · obtain rfl := hkeyed.eq_of_key_eq hin hdecided.row_found hid
      have hpending : liveStatus old.status = true := by
        rw [hdecided.pending]
        rfl
      refine ⟨current_decided.mpr (h.current old hin hpending), ?_⟩
      rw [status_written]
      rintro rfl
      exact approves_decided
    · exact hold _ hin hlive

theorem versionBooks_step (h : VersionBooks s) (hkeyed : Keyed (·.id) s.requests) :
    VersionBooks (step s action) := by
  have hchange := step_change s action
  obtain ⟨hcontents, hcontentsOld⟩ := contents_step_keyed hchange h
  obtain ⟨hversions, hversionsOld⟩ := versions_step_keyed hchange h
  refine ⟨hcontents, hcontentsOld, hversions, hversionsOld, ?_, ?_⟩
  · intro row hrow hlive
    exact current_step hchange h hrow hlive (current_of_live hchange.requestsChange h hkeyed hrow hlive).1
  · intro row hrow happroved
    have hlive : liveStatus row.status = true := by
      rw [happroved]
      rfl
    exact (current_of_live hchange.requestsChange h hkeyed hrow hlive).2 happroved

end Steps

section Runs

variable [QualityHash]

theorem versionBooks_run (actions : List Action) : VersionBooks (run step {} actions) := by
  have hbooks := invariant_run step (I := fun s => QuorumBooks s ∧ VersionBooks s)
    (fun s action h => ⟨quorumBooks_step s action h.1, versionBooks_step h.2 h.1.keyed⟩)
    ⟨quorumBooks_empty, versionBooks_empty⟩ actions
  exact hbooks.2

/-- A request that is not live stays so. -/
structure Ended (requestId : Uuid) (s : Store) : Prop where
  old : requestId < s.nextId
  ended : ∀ row ∈ s.requests, row.id = requestId → liveStatus row.status = false

theorem ended_step {requestId : Uuid} (s : Store) (action : Action) (h : Ended requestId s) :
    Ended requestId (step s action) := by
  have hpending : ¬ liveStatus .pending = false := by decide
  exact ⟨h.old.trans_le (step_change s action).nextId_le,
    status_step hpending (fun _ hended => hended) action h.old h.ended⟩

section Context

variable {request : Request} {contentId : Uuid} {data : ContentUpdate} {s after : Store}

omit [QualityHash]

/-- The context an approval depends on. -/
def SameContext (old new : ContentItem) : Prop :=
  new.channel = old.channel ∧ new.metadataJson = old.metadataJson

theorem sameContext_applyUpdate (h : approvalContextChanged data content = false) :
    SameContext content (applyUpdate request data content) := by
  unfold approvalContextChanged at h
  rw [Bool.or_eq_false_iff] at h
  unfold SameContext applyUpdate
  constructor
  · cases hchannel : data.channel with
    | none => rfl
    | some channel => simp_all
  · cases hmetadata : data.metadataJson with
    | none => rfl
    | some metadata => simp_all

theorem sameContext_writeContent :
    SameContext content (writeContent f content) ↔ SameContext content (f content) := by
  unfold writeContent
  split
  · rename_i heq
    rw [heq]
  · rfl

/-- The update of a content with another context takes its live requests back. -/
theorem ended_of_contextChange (h : VersionBooks s) (hkeyed : Keyed (·.id) s.requests)
    (hupdate : updateContent request contentId data s = .ok after) {old new : ContentItem}
    (hold : old ∈ s.contents) (hnew : new ∈ after.contents) (holdId : old.id = contentId)
    (hnewId : new.id = contentId) (hcontext : ¬ SameContext old new) (hrow : row ∈ s.requests)
    (hof : row.contentId = contentId) (hlive : liveStatus row.status = true) :
    ∀ other ∈ after.requests, other.id = row.id → liveStatus other.status = false := by
  obtain ⟨content, hcontent, hresult⟩ := updateContent_ok hupdate
  obtain ⟨hin, hid, _⟩ := liveContent_some hcontent
  obtain rfl := h.contents_keyed.eq_of_key_eq hold hin (holdId.trans hid.symm)
  have hcontents : after.contents =
      updateRow (·.id) contentId (writeContent (applyUpdate request data)) s.contents := by
    rcases hresult with ⟨rfl, _⟩ | ⟨_, _, _, _, _, rfl⟩ <;> rfl
  have hwritten : new = writeContent (applyUpdate request data) old := by
    rw [hcontents] at hnew
    obtain ⟨source, hsource, ⟨hsourceId, rfl⟩ | ⟨hne, rfl⟩⟩ := mem_updateRow hnew
    · rw [h.contents_keyed.eq_of_key_eq hsource hold (hsourceId.trans holdId.symm)]
    · exact absurd hnewId hne
  rw [hwritten, sameContext_writeContent] at hcontext
  have hcurrent : ∃ versionId, old.currentVersionId = some versionId := by
    obtain ⟨⟨other, hother, hotherId, hversion⟩, _⟩ := h.current row hrow hlive
    have hsame := h.contents_keyed.eq_of_key_eq hother hold (hotherId.trans (hof.trans holdId.symm))
    exact ⟨_, hsame ▸ hversion⟩
  rcases hresult with ⟨_, hnone | hunchanged⟩ | ⟨_, version, reason, _, _, rfl⟩
  · obtain ⟨versionId, hversion⟩ := hcurrent
    rw [hnone] at hversion
    cases hversion
  · exact absurd (sameContext_applyUpdate hunchanged) hcontext
  · intro other hother hotherId
    cases hended : liveStatus other.status with
    | false => rfl
    | true =>
      obtain ⟨hotherIn, huntouched⟩ := live_of_invalidated hother hended
      obtain rfl := hkeyed.eq_of_key_eq hotherIn hrow hotherId
      simp [touchedByChange, hof, hlive] at huntouched

end Context

/-- A live request names the current version of its content, an approved one approves it, and
an approved request whose content then changes its channel or metadata is never approved
again. -/
theorem approvals_follow_content (actions : List Action) :
    (∀ content ∈ (run step {} actions).contents, ∀ row ∈ (run step {} actions).requests,
      row.contentId = content.id → row.status = .pending ∨ row.status = .approved →
      content.currentVersionId = some row.contentVersionId ∧
        (∃ version ∈ (run step {} actions).versions, version.id = row.contentVersionId ∧
          version.contentId = content.id ∧ version.contentHash = row.contentHash) ∧
        (row.status = .approved → row.approvedContentVersionId = content.currentVersionId ∧
            row.approvedContentHash = some row.contentHash)) ∧
    ∀ before request contentId data after more,
      actions = before ++ .updateContent request contentId data :: more →
      updateContent request contentId data (run step {} before) = .ok after →
      ∀ old ∈ (run step {} before).contents, ∀ new ∈ after.contents, old.id = contentId →
      new.id = contentId → new.channel ≠ old.channel ∨ new.metadataJson ≠ old.metadataJson →
      ∀ row ∈ (run step {} before).requests, row.contentId = contentId →
      row.status = .approved → ∀ later ∈ (run step {} actions).requests, later.id = row.id →
      later.status ≠ .approved := by
  constructor
  · intro content hcontent row hrow hof hstatus
    have hbooks := versionBooks_run actions
    have hlive : liveStatus row.status = true := by
      rcases hstatus with hstatus | hstatus <;> rw [hstatus] <;> rfl
    obtain ⟨⟨other, hother, hid, hcurrent⟩, version, hversion, hversionId, hversionOf, hhash⟩ :=
      hbooks.current row hrow hlive
    obtain rfl := hbooks.contents_keyed.eq_of_key_eq hother hcontent (hid.trans hof)
    refine ⟨hcurrent, ⟨version, hversion, hversionId, hversionOf.trans hof, hhash⟩, ?_⟩
    intro happroved
    obtain ⟨hversionApproved, hhashApproved⟩ := hbooks.approves row hrow happroved
    exact ⟨hversionApproved.trans hcurrent.symm, hhashApproved⟩
  · rintro before request contentId data after more rfl hupdate old hold new hnew holdId hnewId
      hchanged row hrow hof happroved later hlater hlaterId
    have hquorum := quorumBooks_run before
    have hcontext : ¬ SameContext old new := fun h =>
      hchanged.elim (fun hne => hne h.1) fun hne => hne h.2
    have hlive : liveStatus row.status = true := by
      rw [happroved]
      rfl
    have hended := ended_of_contextChange (versionBooks_run before) hquorum.keyed hupdate hold
      hnew holdId hnewId hcontext hrow hof hlive
    have hstep : step (run step {} before) (.updateContent request contentId data) = after :=
      step_of_ok hupdate
    have hnext := (step_change (run step {} before) (.updateContent request contentId data)).nextId_le
    rw [hstep] at hnext
    have hstart : Ended row.id after := ⟨(hquorum.requests_old row hrow).trans_le hnext, hended⟩
    rw [run_append, run_cons, hstep] at hlater
    have hfinal := (invariant_run step ended_step hstart more).ended later hlater hlaterId
    intro hcontra
    rw [hcontra] at hfinal
    cases hfinal

end Runs

section Sample

attribute [local instance] sampleHash

def sampleUpdate : ContentUpdate where
  expectedLockVersion := 2
  channel := some (some "news")

/-- The content of the sample goes to another channel: its approval is taken back. -/
theorem sampleRun_follows_content :
    (∃ content ∈ (run step {} sampleRun).contents, ∃ row ∈ (run step {} sampleRun).requests,
      row.status = .approved ∧ content.currentVersionId = some row.contentVersionId) ∧
    ∃ row ∈ (run step {} sampleRun).requests, row.status = .approved ∧
      ∀ later ∈ (run step {} (sampleRun ++ [.updateContent sampleRequest 0 sampleUpdate])).requests,
        later.id = row.id → later.status ≠ .approved := by
  have hsample : ∃ content ∈ (run step {} sampleRun).contents,
      ∃ row ∈ (run step {} sampleRun).requests, row.contentId = content.id ∧
        row.status = .approved ∧ content.id = 0 ∧ content.channel = "blog" := by
    decide +kernel
  obtain ⟨content, hcontent, row, hrow, hof, happroved, hid, hchannel⟩ := hsample
  have hnews : ((updateContent sampleRequest 0 sampleUpdate (run step {} sampleRun)).toOption.any
      fun after => after.contents.any fun new => new.id = 0 && new.channel = "news") = true := by
    decide +kernel
  refine ⟨⟨content, hcontent, row, hrow, happroved, ?_⟩, row, hrow, happroved, ?_⟩
  · exact ((approvals_follow_content sampleRun).1 content hcontent row hrow hof (.inr happroved)).1
  · cases hupdate : updateContent sampleRequest 0 sampleUpdate (run step {} sampleRun) with
    | error error =>
      rw [hupdate] at hnews
      cases hnews
    | ok after =>
      rw [hupdate] at hnews
      obtain ⟨new, hnew, hnewIs⟩ := any_eq_true.mp hnews
      simp only [Bool.and_eq_true, decide_eq_true_eq] at hnewIs
      refine (approvals_follow_content _).2 sampleRun sampleRequest 0 sampleUpdate after [] rfl
        hupdate content hcontent new hnew hid hnewIs.1 (.inl ?_) row hrow (hof.trans hid)
        happroved
      rw [hnewIs.2, hchannel]
      decide

end Sample

end BlogOps.Quality
