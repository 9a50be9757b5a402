import BlogOps.TopicLocks

/-!
# Active topics

With one request at a time an active topic hangs under an active topic of its
campaign and a merged topic leads on to an active one, unless a topic is moved
under a topic that is not active: a creation asks for the status of the parent,
a move does not.
-/

namespace BlogOps.Planning

open KeyedTables TransitionRuns List

/-! ## The tree of active topics -/

def ActiveUnderActive (rows : List TopicNode) : Prop :=
  ∀ row ∈ rows, row.status = .active → ∀ parentId, row.parentId = some parentId →
    ∃ parent ∈ rows, parent.id = parentId ∧ parent.status = .active ∧ parent.campaignId = row.campaignId

/-- The chain of `merged_into` ends at an active topic. -/
inductive EndsActive (rows : List TopicNode) : Uuid → Prop
  | active {row : TopicNode} (hrow : row ∈ rows) (hactive : row.status = .active) :
      EndsActive rows row.id
  | merged {row : TopicNode} {intoId : Uuid} (hrow : row ∈ rows) (hmerged : row.status = .merged)
      (hinto : row.mergedIntoId = some intoId) (h : EndsActive rows intoId) :
      EndsActive rows row.id

structure ActiveTree (rows : List TopicNode) : Prop where
  under_active : ActiveUnderActive rows
  merged_ends : ∀ row ∈ rows, row.status = .merged → EndsActive rows row.id

/-! ## What a commit does to a row -/

@[simp] theorem TopicWrites.apply_campaignId (writes : TopicWrites) (row : TopicNode) :
    (writes.apply row).campaignId = row.campaignId := by
  unfold apply merge reparent
  dsimp only
  split_ifs <;> rfl

variable {row parent node source : TopicNode} {id newId : Uuid} {splitting : Option Splitting}
variable {campaignId : Option Uuid} {data : TopicNodeCreate} {point : Point} {merging : Merging}
variable {s : TopicWorkspace} {number : Nat} {transaction : Transaction} {action : TopicAction}

theorem TopicWrites.merge_of_mem {writes : TopicWrites} (h : row.id ∈ writes.merged) :
    (writes.apply row).status = .merged ∧
      (writes.apply row).mergedIntoId = writes.mergedIntoId := by
  have hid : (writes.reparent row).id = row.id := by
    unfold reparent
    split_ifs <;> rfl
  have hwritten : writes.merge (writes.reparent row) =
      { writes.reparent row with status := .merged, mergedIntoId := writes.mergedIntoId } := by
    unfold merge
    rw [if_pos (hid ▸ h)]
  unfold apply
  dsimp only
  split
  · rename_i hsame
    rw [← hsame, hwritten]
    exact ⟨rfl, rfl⟩
  · rw [hwritten]
    exact ⟨rfl, rfl⟩

theorem TopicWrites.merge_of_not_mem {writes : TopicWrites} (h : row.id ∉ writes.merged) :
    (writes.apply row).status = row.status ∧
      (writes.apply row).mergedIntoId = row.mergedIntoId := by
  have hid : (writes.reparent row).id = row.id := by
    unfold reparent
    split_ifs <;> rfl
  have hwritten : writes.merge (writes.reparent row) = writes.reparent row := by
    unfold merge
    rw [if_neg (hid ▸ h)]
  have hkept : (writes.reparent row).status = row.status ∧
      (writes.reparent row).mergedIntoId = row.mergedIntoId := by
    unfold reparent
    split_ifs <;> exact ⟨rfl, rfl⟩
  unfold apply
  dsimp only
  split
  · exact ⟨rfl, rfl⟩
  · rw [hwritten]
    exact hkept

/-! ## What holds of the committed rows -/

structure TopicBooks (rows : List TopicNode) : Prop where
  keyed : Keyed (·.id) rows
  campaigns : ∀ row ∈ rows, ∀ parentId, row.parentId = some parentId →
    ∃ parent ∈ rows, parent.id = parentId ∧ parent.campaignId = row.campaignId
  unarchived : ∀ row ∈ rows, row.status ≠ .archived
  tree : ActiveTree rows

theorem TopicBooks.campaign_eq {rows : List TopicNode} (h : TopicBooks rows) (hrow : row ∈ rows)
    (hparent : parent ∈ rows) (hlink : row.parentId = some parent.id) :
    parent.campaignId = row.campaignId := by
  obtain ⟨other, hother, hid, hcampaign⟩ := h.campaigns row hrow parent.id hlink
  rw [← h.keyed.eq_of_key_eq hother hparent hid]
  exact hcampaign

/-- A topic that can be inserted: active, under an active topic of its campaign. -/
structure NodeFits (rows : List TopicNode) (node : TopicNode) : Prop where
  active : node.status = .active
  parent : ∀ parentId, node.parentId = some parentId → ∃ parent ∈ rows, parent.id = parentId ∧
    parent.status = .active ∧ parent.campaignId = node.campaignId

/-- What a transaction that ran alone commits. -/
inductive CommitFacts (rows : List TopicNode) (writes : TopicWrites) : Prop
  | created (node : TopicNode) (hinserted : writes.inserted = [node])
      (hreparented : writes.reparented = []) (hmerged : writes.merged = [])
      (hnode : NodeFits rows node)
  | split (node source : TopicNode) (hinserted : writes.inserted = [node])
      (hmerged : writes.merged = []) (hnode : NodeFits rows node) (hsource : source ∈ rows)
      (hcampaign : node.campaignId = source.campaignId) (hparent : writes.parentId = some node.id)
      (hchildren : ∀ id ∈ writes.reparented, HasParent rows id (some source.id))
  | moved (node : TopicNode) (hinserted : writes.inserted = [])
      (hreparented : writes.reparented = [node.id]) (hmerged : writes.merged = [])
      (hnode : node ∈ rows) (hactive : node.status = .active)
      (hparent : ∀ parentId, writes.parentId = some parentId → ∃ parent ∈ rows,
        parent.id = parentId ∧ parent.campaignId = node.campaignId)
  | merged (target : TopicNode) (hinserted : writes.inserted = [])
      (hparent : writes.parentId = some target.id)
      (hinto : writes.mergedIntoId = some target.id) (htarget : target ∈ rows)
      (hactive : target.status = .active) (hother : target.id ∉ writes.merged)
      (hsources : ∀ row ∈ rows, row.id ∈ writes.merged →
        row.status = .active ∧ row.campaignId = target.campaignId)
      (hchildren : ∀ row ∈ rows, row.id ∈ writes.reparented ↔
        ∃ sourceId ∈ writes.merged, row.parentId = some sourceId)

theorem EndsActive.of_rows {rows after : List TopicNode} (h : EndsActive rows id)
    (hkept : ∀ row ∈ rows, row.status = .active → EndsActive after row.id)
    (hmerged : ∀ row ∈ rows, row.status = .merged → ∃ other ∈ after, other.id = row.id ∧
      other.status = .merged ∧ other.mergedIntoId = row.mergedIntoId) : EndsActive after id := by
  induction h with
  | active hrow hactive => exact hkept _ hrow hactive
  | merged hrow hstatus hinto _ ih =>
    obtain ⟨other, hother, hid, hother_status, hother_into⟩ := hmerged _ hrow hstatus
    rw [← hid]
    exact .merged hother hother_status (hother_into.trans hinto) ih

section Commit

variable {rows after : List TopicNode} {writes : TopicWrites}

section

variable (hok : commitRows writes rows = .ok after)

include hok

theorem mem_committed (hrow : row ∈ after) :
    (∃ old ∈ rows, row = writes.apply old) ∨ row ∈ writes.inserted := by
  rw [(commitRows_ok hok).1] at hrow
  rcases mem_append.mp hrow with hold | hnew
  · obtain ⟨old, hmem, rfl⟩ := mem_map.mp hold
    exact .inl ⟨old, hmem, rfl⟩
  · exact .inr hnew

theorem apply_mem (hrow : row ∈ rows) : writes.apply row ∈ after := by
  rw [(commitRows_ok hok).1]
  exact mem_append_left _ (mem_map_of_mem hrow)

theorem inserted_mem (hrow : row ∈ writes.inserted) : row ∈ after := by
  rw [(commitRows_ok hok).1]
  exact mem_append_right _ hrow

/-- A commit that merges nothing keeps every status, so merged topics lead where they led. -/
theorem endsActive_kept (hmerged : writes.merged = []) (h : EndsActive rows id) : EndsActive after id := by
  have hkept : ∀ row : TopicNode, (writes.apply row).status = row.status ∧
      (writes.apply row).mergedIntoId = row.mergedIntoId :=
    fun row => TopicWrites.merge_of_not_mem (by rw [hmerged]; exact not_mem_nil)
  refine h.of_rows (fun row hrow hactive => ?_) fun row hrow hstatus => ?_
  · rw [← writes.apply_id row]
    exact .active (apply_mem hok hrow) ((hkept row).1.trans hactive)
  · exact ⟨_, apply_mem hok hrow, writes.apply_id row, (hkept row).1.trans hstatus, (hkept row).2⟩

/-- The merge leads its sources on to the target. -/
theorem endsActive_merged {target : TopicNode} (htarget : target ∈ rows) (hactive : target.status = .active)
    (hother : target.id ∉ writes.merged) (hinto : writes.mergedIntoId = some target.id)
    (hsources : ∀ row ∈ rows, row.id ∈ writes.merged → row.status = .active) (h : EndsActive rows id) :
    EndsActive after id := by
  have hends : EndsActive after target.id := by
    rw [← writes.apply_id target]
    exact .active (apply_mem hok htarget) ((TopicWrites.merge_of_not_mem hother).1.trans hactive)
  refine h.of_rows (fun row hrow hstatus => ?_) fun row hrow hstatus => ?_
  · rw [← writes.apply_id row]
    by_cases hmem : row.id ∈ writes.merged
    · obtain ⟨hmerged, hlink⟩ := TopicWrites.merge_of_mem hmem
      exact .merged (apply_mem hok hrow) hmerged (hlink.trans hinto) hends
    · exact .active (apply_mem hok hrow) ((TopicWrites.merge_of_not_mem hmem).1.trans hstatus)
  · have hnot : row.id ∉ writes.merged := by
      intro hmem
      rw [hsources row hrow hmem] at hstatus
      cases hstatus
    obtain ⟨hkept, hlink⟩ := TopicWrites.merge_of_not_mem hnot
    exact ⟨_, apply_mem hok hrow, writes.apply_id row, hkept.trans hstatus, hlink⟩

end

/-! ### Each kind of commit -/

section

variable (h : TopicBooks rows) (hok : commitRows writes rows = .ok after)

include h hok

/-- A row of the books keeps its place in the tree when its parent does. -/
theorem TopicBooks.of_commit
    (hcampaigns : ∀ row ∈ after, ∀ parentId, row.parentId = some parentId →
      ∃ parent ∈ after, parent.id = parentId ∧ parent.campaignId = row.campaignId ∧
      (row.status = .active → parent.status = .active))
    (hstatus : ∀ row ∈ writes.inserted, row.status = .active)
    (hends : ∀ id, EndsActive rows id → EndsActive after id)
    (hmerged : ∀ row ∈ rows, row.id ∈ writes.merged → EndsActive after row.id) :
    TopicBooks after where
  keyed := (commitRows_ok hok).2.1
  campaigns row hrow parentId hparent := by
    obtain ⟨parent, hmem, hid, hcampaign, _⟩ := hcampaigns row hrow parentId hparent
    exact ⟨parent, hmem, hid, hcampaign⟩
  unarchived row hrow harchived := by
    rcases mem_committed hok hrow with ⟨old, hold, rfl⟩ | hnew
    · by_cases hmem : old.id ∈ writes.merged
      · rw [(TopicWrites.merge_of_mem hmem).1] at harchived
        cases harchived
      · rw [(TopicWrites.merge_of_not_mem hmem).1] at harchived
        exact h.unarchived old hold harchived
    · rw [hstatus row hnew] at harchived
      cases harchived
  tree := by
    constructor
    · intro row hrow hactive parentId hparent
      obtain ⟨parent, hmem, hid, hcampaign, hup⟩ := hcampaigns row hrow parentId hparent
      exact ⟨parent, hmem, hid, hup hactive, hcampaign⟩
    · intro row hrow hstate
      rcases mem_committed hok hrow with ⟨old, hold, rfl⟩ | hnew
      · rw [writes.apply_id]
        by_cases hmem : old.id ∈ writes.merged
        · exact hmerged old hold hmem
        · rw [(TopicWrites.merge_of_not_mem hmem).1] at hstate
          exact hends old.id (h.tree.merged_ends old hold hstate)
      · rw [hstatus row hnew] at hstate
        cases hstate

/-- A commit without a merge: what it inserts and what it moves must fit. -/
theorem TopicBooks.commit_unmerged (hmerged : writes.merged = [])
    (hinserted : ∀ row ∈ writes.inserted, NodeFits rows row)
    (hreparented : ∀ row ∈ rows, row.id ∈ writes.reparented →
      ∀ parentId, writes.parentId = some parentId →
      ∃ parent ∈ after, parent.id = parentId ∧ parent.campaignId = row.campaignId ∧
      (row.status = .active → parent.status = .active)) : TopicBooks after := by
  have hstatus : ∀ row : TopicNode, (writes.apply row).status = row.status :=
    fun row => (TopicWrites.merge_of_not_mem (by rw [hmerged]; exact not_mem_nil)).1
  refine h.of_commit hok (fun row hrow parentId hparent => ?_)
    (fun row hrow => (hinserted row hrow).active) (fun id => endsActive_kept hok hmerged)
    fun row _ hmem => absurd (hmerged ▸ hmem) not_mem_nil
  rcases mem_committed hok hrow with ⟨old, hold, rfl⟩ | hnew
  · rw [writes.apply_parentId] at hparent
    rw [writes.apply_campaignId, hstatus old]
    split_ifs at hparent with hmoved
    · exact hreparented old hold hmoved parentId hparent
    · obtain ⟨parent, hmem, hid, hcampaign⟩ := h.campaigns old hold parentId hparent
      refine ⟨writes.apply parent, apply_mem hok hmem, ?_, ?_, fun hactive => ?_⟩
      · exact (writes.apply_id parent).trans hid
      · exact (writes.apply_campaignId parent).trans hcampaign
      · obtain ⟨other, hother, hotherId, hotherActive, _⟩ :=
          h.tree.under_active old hold hactive parentId hparent
        rw [hstatus parent, h.keyed.eq_of_key_eq hmem hother (hid.trans hotherId.symm)]
        exact hotherActive
  · obtain ⟨parent, hmem, hid, hactive, hcampaign⟩ := (hinserted row hnew).parent parentId hparent
    refine ⟨writes.apply parent, apply_mem hok hmem, ?_, ?_, fun _ => ?_⟩
    · exact (writes.apply_id parent).trans hid
    · exact (writes.apply_campaignId parent).trans hcampaign
    · exact (hstatus parent).trans hactive

/-- A merge moves the children of its sources under the target. -/
theorem TopicBooks.commit_merged {target : TopicNode} (hinserted : writes.inserted = [])
    (hparent : writes.parentId = some target.id) (hinto : writes.mergedIntoId = some target.id)
    (htarget : target ∈ rows) (hactive : target.status = .active)
    (hother : target.id ∉ writes.merged)
    (hsources : ∀ row ∈ rows, row.id ∈ writes.merged →
      row.status = .active ∧ row.campaignId = target.campaignId)
    (hchildren : ∀ row ∈ rows, row.id ∈ writes.reparented ↔
      ∃ sourceId ∈ writes.merged, row.parentId = some sourceId) : TopicBooks after := by
  have hends : ∀ id, EndsActive rows id → EndsActive after id := fun id hid =>
    endsActive_merged hok htarget hactive hother hinto (fun row hrow hmem => (hsources row hrow hmem).1) hid
  have htargetStatus : (writes.apply target).status = .active :=
    (TopicWrites.merge_of_not_mem hother).1.trans hactive
  refine h.of_commit hok (fun row hrow parentId hlink => ?_)
    (fun row hrow => absurd (hinserted ▸ hrow) not_mem_nil) hends
    fun row hrow hmem => hends row.id (.active hrow (hsources row hrow hmem).1)
  rcases mem_committed hok hrow with ⟨old, hold, rfl⟩ | hnew
  · rw [writes.apply_parentId] at hlink
    rw [writes.apply_campaignId]
    split_ifs at hlink with hmoved
    · rw [hparent] at hlink
      obtain rfl : target.id = parentId := Option.some.inj hlink
      obtain ⟨sourceId, hsourceId, holdParent⟩ := (hchildren old hold).mp hmoved
      obtain ⟨source, hsource, rfl, hcampaign⟩ := h.campaigns old hold sourceId holdParent
      refine ⟨writes.apply target, apply_mem hok htarget, writes.apply_id target, ?_, fun _ => htargetStatus⟩
      rw [writes.apply_campaignId, ← hcampaign]
      exact (hsources source hsource hsourceId).2.symm
    · have hkept : parentId ∉ writes.merged :=
        fun hmem => hmoved ((hchildren old hold).mpr ⟨parentId, hmem, hlink⟩)
      obtain ⟨parent, hmem, rfl, hcampaign⟩ := h.campaigns old hold parentId hlink
      refine ⟨writes.apply parent, apply_mem hok hmem, writes.apply_id parent, ?_, fun hrowActive => ?_⟩
      · exact (writes.apply_campaignId parent).trans hcampaign
      · have holdActive : old.status = .active := by
          by_cases hin : old.id ∈ writes.merged
          · exact (hsources old hold hin).1
          · rw [(TopicWrites.merge_of_not_mem hin).1] at hrowActive
            exact hrowActive
        obtain ⟨up, hup, hupId, hupActive, _⟩ := h.tree.under_active old hold holdActive parent.id hlink
        rw [(TopicWrites.merge_of_not_mem hkept).1, ← h.keyed.eq_of_key_eq hup hmem hupId]
        exact hupActive
  · exact absurd (hinserted ▸ hnew) not_mem_nil

end

/-- A commit that inserts nothing hangs the rows it moves under an active topic. -/
def ParentActive (rows : List TopicNode) (writes : TopicWrites) : Prop :=
  writes.inserted = [] → ∀ row ∈ rows, writes.parentId = some row.id → row.status = .active

instance (rows : List TopicNode) (writes : TopicWrites) : Decidable (ParentActive rows writes) :=
  inferInstanceAs (Decidable (_ → ∀ row ∈ rows, _ → _))

theorem TopicBooks.commit (h : TopicBooks rows) (hok : commitRows writes rows = .ok after)
    (hfacts : CommitFacts rows writes) (hactive : ParentActive rows writes) : TopicBooks after := by
  cases hfacts with
  | created node hinserted hreparented hmerged hnode =>
    refine h.commit_unmerged hok hmerged (fun row hrow => ?_) fun row hrow hmem => ?_
    · rw [hinserted] at hrow
      rw [mem_singleton.mp hrow]
      exact hnode
    · rw [hreparented] at hmem
      exact absurd hmem not_mem_nil
  | split node source hinserted hmerged hnode hsource hcampaign hparent hchildren =>
    refine h.commit_unmerged hok hmerged (fun row hrow => ?_) fun row hrow hmem parentId hlink => ?_
    · rw [hinserted] at hrow
      rw [mem_singleton.mp hrow]
      exact hnode
    · rw [hparent] at hlink
      obtain ⟨old, hold, hid, hup⟩ := hchildren row.id hmem
      rw [h.keyed.eq_of_key_eq hold hrow hid] at hup
      have hin : node ∈ after := inserted_mem hok (by rw [hinserted]; exact mem_cons_self)
      refine ⟨node, hin, Option.some.inj hlink, ?_, fun _ => hnode.active⟩
      rw [hcampaign]
      exact h.campaign_eq hrow hsource hup
  | moved node hinserted hreparented hmerged hnode _ hparent =>
    refine h.commit_unmerged hok hmerged (fun row hrow => ?_) fun row hrow hmem parentId hlink => ?_
    · rw [hinserted] at hrow
      exact absurd hrow not_mem_nil
    · rw [hreparented] at hmem
      have hsame : row = node := h.keyed.eq_of_key_eq hrow hnode (mem_singleton.mp hmem)
      obtain ⟨parent, hmem, hid, hcampaign⟩ := hparent parentId hlink
      refine ⟨writes.apply parent, apply_mem hok hmem, ?_, ?_, fun _ => ?_⟩
      · exact (writes.apply_id parent).trans hid
      · rw [writes.apply_campaignId, hcampaign, hsame]
      · have hkept : (writes.apply parent).status = parent.status :=
          (TopicWrites.merge_of_not_mem (by rw [hmerged]; exact not_mem_nil)).1
        rw [hkept]
        exact hactive hinserted parent hmem (hlink.trans (congrArg some hid.symm))
  | merged target hinserted hparent hinto htarget htargetActive hother hsources hchildren =>
    exact h.commit_merged hok hinserted hparent hinto htarget htargetActive hother hsources hchildren

/-- A move that ran alone cannot be refused: its parent is there. -/
theorem TopicBooks.move_committed (h : TopicBooks rows) (hinserted : writes.inserted = [])
    (hparent : ∀ parentId, writes.parentId = some parentId →
      ∃ parent ∈ rows, parent.id = parentId ∧ parent.campaignId = node.campaignId) :
    ∃ after, commitRows writes rows = .ok after := by
  refine ⟨rows.map writes.apply ++ writes.inserted, ?_⟩
  have hids : (rows.map writes.apply ++ writes.inserted).map (·.id) = rows.map (·.id) := by
    rw [hinserted, append_nil, map_apply_ids]
  have hparents : parentsExist (rows.map writes.apply ++ writes.inserted) := by
    intro row hrow parentId hlink
    rw [hids]
    rw [hinserted, append_nil] at hrow
    obtain ⟨old, hold, rfl⟩ := mem_map.mp hrow
    rw [writes.apply_parentId] at hlink
    split_ifs at hlink
    · obtain ⟨parent, hmem, rfl, _⟩ := hparent parentId hlink
      exact mem_map_of_mem hmem
    · obtain ⟨parent, hmem, rfl, _⟩ := h.campaigns old hold parentId hlink
      exact mem_map_of_mem hmem
  unfold commitRows
  dsimp only
  rw [hids, if_neg]
  rintro (hclash | hmissing)
  · exact hclash h.keyed
  · exact hmissing hparents

/-- A commit that leaves the tree of active topics sound hung its rows under an active topic. -/
theorem TopicBooks.parentActive (h : TopicBooks rows) (hfacts : CommitFacts rows writes)
    (htree : ∀ after, commitRows writes rows = .ok after → ActiveTree after) : ParentActive rows writes := by
  intro hnone row hrow hlink
  cases hfacts with
  | created node hinserted => rw [hnone] at hinserted; cases hinserted
  | split node source hinserted => rw [hnone] at hinserted; cases hinserted
  | moved node hinserted hreparented hmerged hnode hnodeActive hparent =>
    obtain ⟨after, hok⟩ := h.move_committed hinserted hparent
    have hstatus : ∀ old : TopicNode, (writes.apply old).status = old.status :=
      fun old => (TopicWrites.merge_of_not_mem (by rw [hmerged]; exact not_mem_nil)).1
    have hmoved : (writes.apply node).parentId = some row.id := by
      rw [writes.apply_parentId, if_pos (by rw [hreparented]; exact mem_cons_self), hlink]
    obtain ⟨parent, hmem, hid, hactive, _⟩ := (htree after hok).under_active _
      (apply_mem hok hnode) ((hstatus node).trans hnodeActive) row.id hmoved
    have hsame : parent = writes.apply row :=
      (commitRows_ok hok).2.1.eq_of_key_eq hmem (apply_mem hok hrow) (hid.trans (writes.apply_id row).symm)
    rw [hsame, hstatus row] at hactive
    exact hactive
  | merged target hinserted hparent _ htarget hactive =>
    rw [hparent] at hlink
    rw [← h.keyed.eq_of_key_eq htarget hrow (Option.some.inj hlink)]
    exact hactive

end Commit

/-! ## What a transaction that runs alone has found out -/

def SplitOf (rows : List TopicNode) (parentId campaignId : Option Uuid)
    (splitting : Option Splitting) : Prop :=
  ∀ split ∈ splitting, split.source ∈ rows ∧ split.source.parentId = parentId ∧
    split.source.campaignId = campaignId

structure SourceFits (rows : List TopicNode) (target source : TopicNode) : Prop where
  mem : source ∈ rows
  active : source.status = .active
  campaign : source.campaignId = target.campaignId
  other : target.id ≠ source.id

structure MergeRead (rows : List TopicNode) (merging : Merging) : Prop where
  target_mem : merging.target ∈ rows
  target_active : merging.target.status = .active
  sources : ∀ source ∈ merging.sources, SourceFits rows merging.target source
  children : ∀ row ∈ rows, row.id ∈ merging.children.map (·.id) ↔
    ∃ source ∈ merging.sources, row.parentId = some source.id

structure MoveRead (rows : List TopicNode) (node : TopicNode) : Prop where
  mem : node ∈ rows
  active : node.status = .active

/-- What the point of a transaction has read is what the rows still are. -/
def PointReads (rows : List TopicNode) : Point → Prop
  | .createParent data _ parentId splitting =>
    data.parentId = some parentId ∧ SplitOf rows data.parentId data.campaignId splitting
  | .moveNode .. | .mergeTarget .. | .splitSource .. => True
  | .moveParent node data parentId => MoveRead rows node ∧ data.parentId = some parentId
  | .moveWalk node data parent _ _ =>
    MoveRead rows node ∧ parent ∈ rows ∧ data.parentId = some parent.id
  | .mergeSource merging _ _ => MergeRead rows merging
  | .mergeWalk merging source .. | .mergeChildren merging source _ =>
    MergeRead rows merging ∧ SourceFits rows merging.target source
  | .splitChildren splitting node => NodeFits rows node ∧ splitting.source ∈ rows ∧
      node.campaignId = splitting.source.campaignId
  | .commit writes => CommitFacts rows writes

section

variable {rows : List TopicNode}

theorem insertNode_reads (hnode : NodeFits rows node)
    (h : ∀ split ∈ splitting, split.source ∈ rows ∧ node.campaignId = split.source.campaignId) :
    PointReads rows (insertNode node splitting) := by
  cases splitting with
  | none => exact .created node rfl rfl rfl hnode
  | some split =>
    unfold insertNode
    simp only
    split
    · exact .created node rfl rfl rfl hnode
    · exact ⟨hnode, h split rfl⟩

theorem buildNode_reads {surroundings : Surroundings}
    (hparent : ∀ parentId, data.parentId = some parentId →
      ∃ parent ∈ rows, parent.id = parentId ∧ parent.status = .active ∧
      parent.campaignId = campaignId)
    (h : ∀ split ∈ splitting, split.source ∈ rows ∧ campaignId = split.source.campaignId)
    (hok : buildNode data surroundings campaignId splitting newId = .ok point) :
    PointReads rows point := by
  obtain ⟨_, _, hok⟩ := bind_ok hok
  cases hok
  exact insertNode_reads ⟨rfl, hparent⟩ h

theorem startCreate_reads {surroundings : Surroundings}
    (h : SplitOf rows data.parentId data.campaignId splitting)
    (hok : startCreate data surroundings splitting newId = .ok point) : PointReads rows point := by
  obtain ⟨_, _, hok⟩ := bind_ok hok
  cases hparent : data.parentId with
  | none =>
    rw [hparent] at hok
    refine buildNode_reads (fun parentId hlink => ?_) (fun split hsplit => ?_) hok
    · rw [hparent] at hlink
      cases hlink
    · exact ⟨(h split hsplit).1, (h split hsplit).2.2.symm⟩
  | some parentId =>
    rw [hparent] at hok
    cases hok
    exact ⟨hparent, h⟩

theorem start_reads {request : TopicRequest} (h : start request newId = .ok point) :
    PointReads rows point := by
  cases request with
  | createTopicNode data surroundings =>
    exact startCreate_reads (fun split hsplit => by cases hsplit) h
  | moveTopicNode nodeId data => cases h; trivial
  | mergeTopicNodes targetId data => cases h; trivial
  | splitTopicNode sourceId data surroundings => cases h; trivial

end

theorem campaignUnder_ok (h : campaignUnder data parent = .ok campaignId) :
    parent.status = .active ∧ parent.campaignId = campaignId := by
  unfold campaignUnder at h
  split_ifs at h with hactive
  rw [not_not] at hactive
  cases hcampaign : data.campaignId with
  | none =>
    rw [hcampaign] at h
    cases h
    exact ⟨hactive, rfl⟩
  | some id =>
    rw [hcampaign] at h
    simp only at h
    split_ifs at h with hdiffers
    rw [not_not] at hdiffers
    cases h
    exact ⟨hactive, hdiffers⟩

section

variable {rows : List TopicNode}

theorem startMove_reads {data : TopicNodeMove} (hnode : node ∈ rows)
    (h : startMove node data = .ok point) : PointReads rows point := by
  obtain ⟨_, _, h⟩ := bind_ok h
  split_ifs at h with hactive
  rw [not_not] at hactive
  cases hparent : data.parentId with
  | some parentId =>
    rw [hparent] at h
    cases h
    exact ⟨⟨hnode, hactive⟩, hparent⟩
  | none =>
    rw [hparent] at h
    cases h
    refine .moved node rfl rfl rfl hnode hactive fun parentId hlink => ?_
    rw [show (moveWrites node data []).parentId = none from hparent] at hlink
    cases hlink

theorem visitForMove_reads {data : TopicNodeMove} {walked : List TopicNode} {cursor : TopicNode}
    (hnode : MoveRead rows node) (hparent : parent ∈ rows) (hdata : data.parentId = some parent.id)
    (h : visitForMove node data parent walked cursor = .ok point) : PointReads rows point := by
  obtain ⟨after, _, h⟩ := bind_ok h
  cases hnext : cursor.parentId with
  | some ancestorId =>
    rw [hnext] at h
    cases h
    exact ⟨hnode, hparent, hdata⟩
  | none =>
    rw [hnext] at h
    simp only at h
    split_ifs at h with hcampaign
    rw [not_not] at hcampaign
    cases h
    refine .moved node rfl rfl rfl hnode.mem hnode.active fun parentId hlink => ?_
    rw [show (moveWrites node data after).parentId = some parent.id from hdata] at hlink
    exact ⟨parent, hparent, Option.some.inj hlink, hcampaign⟩

theorem visitForMerge_reads {rest : List Uuid} {walked : List TopicNode} {cursor : TopicNode}
    (hmerge : MergeRead rows merging) (hsource : SourceFits rows merging.target source)
    (h : visitForMerge merging source rest walked cursor = .ok point) : PointReads rows point := by
  obtain ⟨after, _, h⟩ := bind_ok h
  cases hnext : cursor.parentId with
  | some ancestorId =>
    rw [hnext] at h
    cases h
    exact ⟨hmerge, hsource⟩
  | none =>
    rw [hnext] at h
    cases h
    exact ⟨⟨hmerge.target_mem, hmerge.target_active, hmerge.sources, hmerge.children⟩, hsource⟩

theorem startSource_reads {rest : List Uuid} (hmerge : MergeRead rows merging) (hsource : source ∈ rows)
    (h : startSource merging source rest = .ok point) : PointReads rows point := by
  obtain ⟨expected, _, h⟩ := bind_ok h
  obtain ⟨_, _, h⟩ := bind_ok h
  split_ifs at h with hactive hcampaign
  rw [not_not] at hactive hcampaign
  -- the first row of the walk is the target
  obtain ⟨after, hvisit, _⟩ := bind_ok h
  exact visitForMerge_reads hmerge ⟨hsource, hactive, hcampaign, (visit_ok hvisit).1⟩ h

theorem nextSource_reads (hkeyed : Keyed (·.id) rows) (h : MergeRead rows merging)
    (rest : List Uuid) : PointReads rows (nextSource merging rest) := by
  cases rest with
  | cons sourceId rest => exact h
  | nil =>
    refine .merged merging.target rfl rfl rfl h.target_mem h.target_active (fun hin => ?_)
      (fun row hrow hin => ?_) fun row hrow => ?_
    · obtain ⟨source, hsource, hid⟩ := mem_map.mp hin
      exact (h.sources source hsource).other hid.symm
    · obtain ⟨source, hsource, hid⟩ := mem_map.mp hin
      have hfits := h.sources source hsource
      rw [← hkeyed.eq_of_key_eq hfits.mem hrow hid]
      exact ⟨hfits.active, hfits.campaign⟩
    · change row.id ∈ merging.children.map (·.id) ↔
        ∃ sourceId ∈ merging.sources.map (·.id), row.parentId = some sourceId
      rw [h.children row hrow]
      simp only [mem_map, exists_exists_and_eq_and]

theorem endSource_reads (hkeyed : Keyed (·.id) rows) (hmerge : MergeRead rows merging)
    (hsource : SourceFits rows merging.target source) (rest : List Uuid) :
    PointReads rows (endSource merging source rest (childrenOf rows source.id)) := by
  have hread : MergeRead rows { merging with
      sources := merging.sources ++ [source]
      children := merging.children ++ childrenOf rows source.id } := by
    refine ⟨hmerge.target_mem, hmerge.target_active, ?_, ?_⟩
    · intro other hother
      rcases mem_append.mp hother with hold | hnew
      · exact hmerge.sources other hold
      · rw [mem_singleton.mp hnew]
        exact hsource
    · intro row hrow
      have hchild : row.id ∈ (childrenOf rows source.id).map (·.id) ↔
          row.parentId = some source.id := by
        constructor
        · intro hin
          obtain ⟨child, hmem, hid⟩ := mem_map.mp hin
          obtain ⟨hold, hlink⟩ := mem_filter.mp hmem
          rw [← hkeyed.eq_of_key_eq hold hrow hid]
          simpa using hlink
        · intro hlink
          exact mem_map_of_mem (mem_filter.mpr ⟨hrow, by simpa using hlink⟩)
      change row.id ∈ (merging.children ++ childrenOf rows source.id).map (·.id) ↔
        ∃ other ∈ merging.sources ++ [source], row.parentId = some other.id
      rw [map_append, mem_append, hmerge.children row hrow, hchild]
      simp only [mem_append, mem_singleton, or_and_right, exists_or, exists_eq_left]
  exact nextSource_reads hkeyed hread rest

theorem endSplit_reads {splitting : Splitting} (hnode : NodeFits rows node)
    (hsource : splitting.source ∈ rows) (hcampaign : node.campaignId = splitting.source.campaignId)
    (hok : endSplit splitting node (splitChildrenOf rows splitting) = .ok point) : PointReads rows point := by
  unfold endSplit at hok
  split_ifs at hok
  cases hok
  refine .split node splitting.source rfl rfl hnode hsource hcampaign rfl fun id hid => ?_
  obtain ⟨child, hchild, rfl⟩ := mem_map.mp hid
  obtain ⟨hrow, hof⟩ := mem_filter.mp (mem_filter.mp hchild).1
  exact ⟨child, hrow, rfl, by simpa using hof⟩

/-- The campaign of a split's new topic is its source's: the source shares its parent's. -/
theorem campaignUnder_split (h : TopicBooks rows) (hparent : parent ∈ rows)
    (hdata : data.parentId = some parent.id) (hsplit : SplitOf rows data.parentId data.campaignId splitting)
    (hok : campaignUnder data parent = .ok campaignId) :
    ∀ split ∈ splitting, split.source ∈ rows ∧ campaignId = split.source.campaignId := by
  intro split hmem
  obtain ⟨hsource, hlink, _⟩ := hsplit split hmem
  refine ⟨hsource, ?_⟩
  rw [← (campaignUnder_ok hok).2]
  exact h.campaign_eq hsource hparent (hlink.trans hdata)

theorem query_reads (hbooks : TopicBooks rows) {next : Point} (h : PointReads rows point)
    (hok : query rows newId point = .ok next) : PointReads rows next := by
  cases point with
  | createParent data surroundings parentId splitting =>
    obtain ⟨parent, hparent, hok⟩ := bind_ok hok
    obtain ⟨campaignId, hcampaign, hok⟩ := bind_ok hok
    obtain ⟨hrow, hid⟩ := topicNode_ok hparent
    have hdata : data.parentId = some parent.id := h.1.trans (congrArg some hid.symm)
    obtain ⟨hactive, hsame⟩ := campaignUnder_ok hcampaign
    refine buildNode_reads (fun id hlink => ?_) (campaignUnder_split hbooks hrow hdata h.2 hcampaign) hok
    rw [hdata] at hlink
    exact ⟨parent, hrow, Option.some.inj hlink, hactive, hsame⟩
  | moveNode nodeId data =>
    obtain ⟨node, hnode, hok⟩ := bind_ok hok
    exact startMove_reads (topicNode_ok hnode).1 hok
  | moveParent node data parentId =>
    obtain ⟨parent, hparent, hok⟩ := bind_ok hok
    obtain ⟨hrow, hid⟩ := topicNode_ok hparent
    exact visitForMove_reads h.1 hrow (h.2.trans (congrArg some hid.symm)) hok
  | moveWalk node data parent walked ancestorId =>
    obtain ⟨ancestor, _, hok⟩ := bind_ok hok
    exact visitForMove_reads h.1 h.2.1 h.2.2 hok
  | mergeTarget targetId data =>
    obtain ⟨target, htarget, hok⟩ := bind_ok hok
    obtain ⟨_, _, hok⟩ := bind_ok hok
    split_ifs at hok with hactive
    rw [not_not] at hactive
    cases hok
    refine nextSource_reads hbooks.keyed ⟨(topicNode_ok htarget).1, hactive, ?_, ?_⟩ _
    · exact fun source hsource => absurd hsource not_mem_nil
    · simp
  | mergeSource merging sourceId rest =>
    obtain ⟨source, hsource, hok⟩ := bind_ok hok
    exact startSource_reads h (topicNode_ok hsource).1 hok
  | mergeWalk merging source rest walked ancestorId =>
    obtain ⟨ancestor, _, hok⟩ := bind_ok hok
    exact visitForMerge_reads h.1 h.2 hok
  | mergeChildren merging source rest =>
    cases hok
    exact endSource_reads hbooks.keyed h.1 h.2 rest
  | splitSource sourceId data surroundings =>
    obtain ⟨source, hsource, hok⟩ := bind_ok hok
    obtain ⟨_, _, hok⟩ := bind_ok hok
    refine startCreate_reads (fun split hsplit => ?_) hok
    obtain rfl : _ = split := Option.some.inj hsplit
    exact ⟨(topicNode_ok hsource).1, rfl, rfl⟩
  | splitChildren splitting node => exact endSplit_reads h.1 h.2.1 h.2.2 hok
  | commit writes =>
    cases hok
    exact h

end

/-! ## One request at a time -/

/-- A request begins when no other is under way. -/
def Serial (s : TopicWorkspace) : TopicAction → Prop
  | .begin .. => s.running = []
  | .advance .. | .rollback .. => True

instance (s : TopicWorkspace) (action : TopicAction) : Decidable (Serial s action) := by
  cases action <;> unfold Serial <;> infer_instance

/-- Books between and during requests that run alone. -/
structure SerialBooks (s : TopicWorkspace) : Prop where
  books : TopicBooks s.rows
  alone : ∀ entry ∈ s.running, ∀ other ∈ s.running, entry.1 = other.1
  reads : ∀ entry ∈ s.running, PointReads s.rows entry.2.point

theorem serialBooks_empty : SerialBooks {} where
  books := ⟨nodup_nil, fun _ h => absurd h not_mem_nil,
    fun _ h => absurd h not_mem_nil,
    fun _ h => absurd h not_mem_nil, fun _ h => absurd h not_mem_nil⟩
  alone _ h := absurd h not_mem_nil
  reads _ h := absurd h not_mem_nil

section

variable (h : SerialBooks s)

include h

theorem SerialBooks.finish (number : Nat) : SerialBooks (s.finish number) where
  books := h.books
  alone entry hentry other hother :=
    h.alone entry (mem_others.mp hentry).1 other (mem_others.mp hother).1
  reads entry hentry := h.reads entry (mem_others.mp hentry).1

theorem SerialBooks.others_eq_nil (hmem : (number, transaction) ∈ s.running) : s.others number = [] := by
  rw [eq_nil_iff_forall_not_mem]
  intro entry hentry
  obtain ⟨hrunning, hne⟩ := mem_others.mp hentry
  exact hne (h.alone entry hrunning _ hmem)

theorem SerialBooks.resume (halone : s.others number = [])
    (hreads : PointReads s.rows transaction.point) : SerialBooks (s.resume number transaction) := by
  have hrunning : (s.resume number transaction).running = [(number, transaction)] := by
    unfold TopicWorkspace.resume
    rw [halone]
  refine ⟨h.books, fun entry hentry other hother => ?_, fun entry hentry => ?_⟩
  · rw [hrunning] at hentry hother
    rw [mem_singleton.mp hentry, mem_singleton.mp hother]
  · rw [hrunning] at hentry
    rw [mem_singleton.mp hentry]
    exact hreads

theorem SerialBooks.begin (hserial : s.running = []) (number : Nat) (request : TopicRequest)
    (newId : Uuid) : SerialBooks (beginRequest s number request newId) := by
  unfold beginRequest
  split
  · exact h
  · split
    · rename_i point hstart
      refine h.resume ?_ (start_reads hstart)
      unfold TopicWorkspace.others
      rw [hserial]
      rfl
    · exact h

theorem SerialBooks.query (htransaction : s.transaction number = some transaction) :
    SerialBooks (advanceQuery s number newId transaction) := by
  have hmem := transaction_mem htransaction
  unfold advanceQuery
  dsimp only
  split
  · exact h
  · split
    · rename_i next hquery
      exact h.resume (h.others_eq_nil hmem) (query_reads h.books (h.reads _ hmem) hquery)
    · exact h.finish number

theorem SerialBooks.commit {writes : TopicWrites} (htransaction : s.transaction number = some transaction)
    (hpoint : transaction.point = .commit writes) (hactive : ParentActive s.rows writes) :
    SerialBooks (commitWrites s number writes) := by
  have hmem := transaction_mem htransaction
  have hfacts : CommitFacts s.rows writes := by
    have hreads := h.reads _ hmem
    rw [hpoint] at hreads
    exact hreads
  unfold commitWrites
  split
  · rename_i after hok
    have hnone : ∀ entry, entry ∉ s.others number := by
      rw [h.others_eq_nil hmem]
      exact fun entry => not_mem_nil
    exact ⟨h.books.commit hok hfacts hactive, fun entry hentry => absurd hentry (hnone entry),
      fun entry hentry => absurd hentry (hnone entry)⟩
  · exact h.finish number

end

def committedWrites (s : TopicWorkspace) : TopicAction → Option TopicWrites
  | .advance number _ =>
    match s.transaction number with
    | some ⟨.commit writes, _⟩ => some writes
    | _ => none
  | _ => none

/-- A move that the action commits goes under an active topic. -/
def MovesUnderActive (s : TopicWorkspace) (action : TopicAction) : Prop :=
  ∀ writes ∈ committedWrites s action, ParentActive s.rows writes

instance (s : TopicWorkspace) (action : TopicAction) : Decidable (MovesUnderActive s action) :=
  inferInstanceAs (Decidable (∀ writes ∈ committedWrites s action, _))

theorem committedWrites_eq {writes : TopicWrites} (h : committedWrites s action = some writes) :
    ∃ number newId transaction,
      action = .advance number newId ∧ s.transaction number = some transaction ∧
        transaction.point = .commit writes := by
  cases action with
  | advance number newId =>
    simp only [committedWrites] at h
    split at h
    · rename_i found locked htransaction
      cases h
      exact ⟨number, newId, _, rfl, htransaction, rfl⟩
    · cases h
  | _ => cases h

theorem advance_commit {writes : TopicWrites} (htransaction : s.transaction number = some transaction)
    (hpoint : transaction.point = .commit writes) :
    topicStep s (.advance number newId) = commitWrites s number writes := by
  change advance s number newId = _
  unfold advance
  rw [htransaction]
  dsimp only
  rw [hpoint]

theorem serialBooks_step (h : SerialBooks s) (hserial : Serial s action)
    (hactive : MovesUnderActive s action) : SerialBooks (topicStep s action) := by
  cases action with
  | begin number request newId => exact h.begin hserial number request newId
  | rollback number => exact h.finish number
  | advance number newId =>
    change SerialBooks (advance s number newId)
    unfold advance
    cases htransaction : s.transaction number with
    | none => exact h
    | some transaction =>
      obtain ⟨point, locked⟩ := transaction
      cases point with
      | commit writes =>
        refine h.commit htransaction rfl (hactive writes ?_)
        simp only [committedWrites, htransaction, Option.mem_def]
      | _ => exact h.query htransaction

theorem movesUnderActive_of_tree (h : SerialBooks s)
    (htree : ActiveTree (topicStep s action).rows) : MovesUnderActive s action := by
  intro writes hwrites
  obtain ⟨number, newId, transaction, rfl, htransaction, hpoint⟩ := committedWrites_eq hwrites
  have hfacts : CommitFacts s.rows writes := by
    have hreads := h.reads _ (transaction_mem htransaction)
    rw [hpoint] at hreads
    exact hreads
  refine h.books.parentActive hfacts fun after hok => ?_
  rw [advance_commit htransaction hpoint] at htree
  unfold commitWrites at htree
  rw [hok] at htree
  exact htree

/-- With one request at a time, the active topics hang under active topics of their campaign
and merged topics lead on to active ones in every state of a run exactly when no step of it
moves a topic under a topic that is not active. -/
theorem active_tree_iff {actions : List TopicAction} (h : Along topicStep Serial {} actions) :
    (∀ before, before <+: actions → ActiveTree (run topicStep {} before).rows) ↔
      Along topicStep MovesUnderActive {} actions :=
  throughout_iff_along_of_invariant topicStep (I := SerialBooks)
    (P := fun s => ActiveTree s.rows)
    (fun _ hs => hs.books.tree)
    (fun _ _ hs hserial => ⟨movesUnderActive_of_tree hs,
      fun hactive => (serialBooks_step hs hserial hactive).books.tree⟩)
    (fun _ _ hs hserial hactive => serialBooks_step hs hserial hactive)
    serialBooks_empty h

/-! ## Moves one at a time -/

def mergedInto (number : Nat) (targetId sourceId : Uuid) : List TopicAction :=
  let data : TopicMergeRequest := {
    sourceNodeIds := [sourceId]
    expectedSourceVersions := [(sourceId, 1)]
    expectedTargetLockVersion := 1
    sources_nonempty := cons_ne_nil _ _
    sources_length := by simp
    sources_unique := nodup_singleton _
    versions_cover := fun _ => Iff.rfl }
  [.begin number (.mergeTopicNodes targetId data) 0, .advance number 0, .advance number 0,
    .advance number 0, .advance number 0]

/-- Topic 3 is moved with its child 4 under the active topic 2. -/
def moveUnderActive : List TopicAction := twoTrees ++ movedUnder 5 3 2 ++ [.advance 5 0]

theorem moveUnderActive_tree : ActiveTree (run topicStep {} moveUnderActive).rows := by
  have hserial : Along topicStep Serial {} moveUnderActive := by
    simp only [moveUnderActive, twoTrees, createdUnder, movedUnder, cons_append,
      nil_append, along_cons, along_nil, and_true]
    decide +kernel
  refine (active_tree_iff hserial).mpr ?_ _ prefix_rfl
  simp only [moveUnderActive, twoTrees, createdUnder, movedUnder, cons_append,
    nil_append, along_cons, along_nil, and_true]
  decide +kernel

/-- Topic 2 is merged into topic 1 and topic 3 is moved under it. -/
def moveUnderMerged : List TopicAction :=
  createdUnder 1 1 none ++ createdUnder 2 2 none ++ mergedInto 3 1 2 ++ createdUnder 4 3 none ++
    movedUnder 5 3 2

theorem moveUnderMerged_not_active : Along topicStep Serial {} moveUnderMerged ∧
    ¬ ActiveTree (run topicStep {} moveUnderMerged).rows := by
  constructor
  · simp only [moveUnderMerged, mergedInto, createdUnder, movedUnder, cons_append,
      nil_append, along_cons, along_nil, and_true]
    decide +kernel
  intro h
  have hmoved : ∃ row ∈ (run topicStep {} moveUnderMerged).rows,
      row.status = .active ∧ row.parentId = some 2 := by
    decide +kernel
  have hmerged : ∀ row ∈ (run topicStep {} moveUnderMerged).rows, row.id = 2 →
      row.status ≠ .active := by
    decide +kernel
  obtain ⟨row, hrow, hactive, hparent⟩ := hmoved
  obtain ⟨parent, hmem, hid, hparentActive, _⟩ := h.under_active row hrow hactive 2 hparent
  exact hmerged parent hmem hid hparentActive

end BlogOps.Planning
