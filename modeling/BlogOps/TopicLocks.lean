import BlogOps.ParentForests
import BlogOps.TopicTree

/-!
# Cycles in the topic tree

A move or a merge walks up from the new parent without locking what it reads.
The tree keeps free of cycles as long as every row that a walk read still has
the parent it was read with when the transaction commits; two moves that cross
each other between their walks and their commits close a cycle.
-/

namespace BlogOps.Planning

open KeyedTables ParentForests TransitionRuns List

/-! ## The committed tree -/

def parentOf (rows : List TopicNode) (id : Uuid) : Option Uuid :=
  (rows.find? (·.id = id)).bind (·.parentId)

/-- Following `parent_id` from any topic ends at a root. -/
def AcyclicTree (rows : List TopicNode) : Prop := ∀ row ∈ rows, Rooted (parentOf rows) row.id

def HasParent (rows : List TopicNode) (id : Uuid) (parentId : Option Uuid) : Prop :=
  ∃ row ∈ rows, row.id = id ∧ row.parentId = parentId

variable {row cursor node source : TopicNode} {rows after walked : List TopicNode} {id newId : Uuid}
variable {parentId : Option Uuid} {writes : TopicWrites} {locked : List Uuid}
variable {splitting : Option Splitting} {merging : Merging} {point : Point} {number : Nat}
variable {s : TopicWorkspace} {transaction : Transaction}

theorem parentOf_of_mem (hkeyed : Keyed (·.id) rows) (hrow : row ∈ rows) :
    parentOf rows row.id = row.parentId := by
  unfold parentOf
  rw [hkeyed.find?_eq hrow]
  rfl

theorem HasParent.parentOf (hkeyed : Keyed (·.id) rows) (h : HasParent rows id parentId) :
    Planning.parentOf rows id = parentId := by
  obtain ⟨row, hrow, rfl, rfl⟩ := h
  exact parentOf_of_mem hkeyed hrow

theorem parentOf_of_not_mem (h : id ∉ rows.map (·.id)) : parentOf rows id = none := by
  have hfind : rows.find? (·.id = id) = none := by
    rw [find?_eq_none]
    intro row hrow
    have hne : row.id ≠ id := fun heq => h (mem_map.mpr ⟨row, hrow, heq⟩)
    simpa using hne
  unfold parentOf
  rw [hfind]
  rfl

/-- A parent that a row names exists. -/
theorem mem_of_parentOf (h : parentsExist rows) {parentId : Uuid}
    (hparent : parentOf rows id = some parentId) : parentId ∈ rows.map (·.id) := by
  unfold parentOf at hparent
  obtain ⟨row, hfind, hrow⟩ := Option.bind_eq_some_iff.mp hparent
  exact h row (mem_of_find?_eq_some hfind) parentId hrow

/-! ## What a commit does to the parents -/

@[simp] theorem TopicWrites.apply_id (writes : TopicWrites) (row : TopicNode) :
    (writes.apply row).id = row.id := by
  unfold apply merge reparent
  dsimp only
  split_ifs <;> rfl

@[simp] theorem TopicWrites.merge_parentId (writes : TopicWrites) (row : TopicNode) :
    (writes.merge row).parentId = row.parentId := by
  unfold merge
  split_ifs <;> rfl

theorem TopicWrites.apply_parentId (writes : TopicWrites) (row : TopicNode) : (writes.apply row).parentId =
      if row.id ∈ writes.reparented then writes.parentId else row.parentId := by
  have hwritten : (writes.merge (writes.reparent row)).parentId =
      if row.id ∈ writes.reparented then writes.parentId else row.parentId := by
    rw [merge_parentId]
    unfold reparent
    split_ifs <;> rfl
  rw [← hwritten]
  unfold apply
  dsimp only
  split
  · rename_i hsame
    rw [hsame]
  · rfl

theorem commitRows_ok (h : commitRows writes rows = .ok after) :
    after = rows.map writes.apply ++ writes.inserted ∧ Keyed (·.id) after ∧
      parentsExist after := by
  unfold commitRows at h
  dsimp only at h
  split_ifs at h with hrefused
  cases h
  rw [not_or, not_not, not_not] at hrefused
  exact ⟨rfl, hrefused.1, hrefused.2⟩

theorem map_apply_ids (writes : TopicWrites) (rows : List TopicNode) :
    (rows.map writes.apply).map (·.id) = rows.map (·.id) := by
  rw [map_map]
  exact map_congr_left fun row _ => writes.apply_id row

theorem HasParent.commit (h : HasParent rows id parentId) (hid : id ∉ writes.reparented) :
    HasParent (rows.map writes.apply ++ writes.inserted) id parentId := by
  obtain ⟨row, hrow, rfl, rfl⟩ := h
  refine ⟨writes.apply row, mem_append_left _ (mem_map_of_mem hrow), by simp, ?_⟩
  rw [writes.apply_parentId, if_neg hid]

theorem parentOf_commit (hkeyed : Keyed (·.id) rows) (h : commitRows writes rows = .ok after)
    (hheld : ∀ id ∈ writes.reparented, id ∈ rows.map (·.id)) (id : Uuid)
    (hid : id ∉ writes.inserted.map (·.id)) :
    parentOf after id = reparent writes.reparented writes.parentId (parentOf rows) id := by
  obtain ⟨rfl, hafter, _⟩ := commitRows_ok h
  by_cases hmem : id ∈ rows.map (·.id)
  · obtain ⟨row, hrow, rfl⟩ := mem_map.mp hmem
    have hin : writes.apply row ∈ rows.map writes.apply ++ writes.inserted :=
      mem_append_left _ (mem_map_of_mem hrow)
    have hparent := parentOf_of_mem hafter hin
    rw [writes.apply_id, writes.apply_parentId] at hparent
    rw [hparent]
    unfold reparent
    rw [parentOf_of_mem hkeyed hrow]
  · have hnot : id ∉ (rows.map writes.apply ++ writes.inserted).map (·.id) := by
      rw [map_append, map_apply_ids, mem_append]
      exact not_or_intro hmem hid
    rw [parentOf_of_not_mem hnot, reparent_of_not_mem fun hin => hmem (hheld id hin),
      parentOf_of_not_mem hmem]

/-! ## What a transaction has found out -/

def links (rows : List TopicNode) : List (Uuid × Option Uuid) :=
  rows.map fun row => (row.id, row.parentId)

/-- A finished walk up from `start` that did not meet `id`, among the rows read. -/
def Avoids (walked : List TopicNode) (start id : Uuid) : Prop :=
  ∃ walk, Climbs (some start) (links walk) none ∧ (∀ row ∈ walk, row ∈ walked) ∧ id ∉ walk.map (·.id)

/-- What makes the writes keep the tree, while the links of the walked rows hold. -/
inductive SafeWrites (rows : List TopicNode) (locked : List Uuid) (writes : TopicWrites) : Prop
  | created (node : TopicNode) (hinserted : writes.inserted = [node])
      (hnone : writes.reparented = []) (hparent : ∀ id ∈ node.parentId, id ∈ rows.map (·.id))
  | split (node : TopicNode) (sourceId : Uuid) (hinserted : writes.inserted = [node])
      (hparent : writes.parentId = some node.id) (hsource : sourceId ∈ locked)
      (hsourceParent : HasParent rows sourceId node.parentId)
      (hchildren : ∀ id ∈ writes.reparented, HasParent rows id (some sourceId))
  | moved (hinserted : writes.inserted = [])
      (havoids : ∀ start, writes.parentId = some start → ∀ id ∈ writes.reparented,
        Avoids writes.walked start id ∨
          ∃ sourceId, HasParent rows id (some sourceId) ∧ Avoids writes.walked start sourceId)

structure WritesFacts (rows : List TopicNode) (locked : List Uuid) (writes : TopicWrites) :
    Prop where
  reparented_locked : ∀ id ∈ writes.reparented, id ∈ locked
  safe : SafeWrites rows locked writes

structure MergeFacts (rows : List TopicNode) (locked : List Uuid) (merging : Merging) : Prop where
  children_locked : ∀ child ∈ merging.children, child.id ∈ locked
  children_of : ∀ child ∈ merging.children, ∃ source ∈ merging.sources,
    HasParent rows child.id (some source.id)
  avoids : ∀ source ∈ merging.sources, Avoids merging.walked merging.target.id source.id

structure WalkFacts (movingId : Uuid) (start : Option Uuid) (walked : List TopicNode)
    (next : Option Uuid) : Prop where
  climbs : Climbs start (links walked) next
  avoids : movingId ∉ walked.map (·.id)

/-- The split that a creation belongs to holds the lock of its source. -/
def SplitFacts (rows : List TopicNode) (locked : List Uuid) (parentId : Option Uuid)
    (splitting : Option Splitting) : Prop :=
  ∀ split ∈ splitting, split.source.id ∈ locked ∧ HasParent rows split.source.id parentId

def PointFacts (rows : List TopicNode) (locked : List Uuid) : Point → Prop
  | .createParent data _ parentId splitting =>
    data.parentId = some parentId ∧ SplitFacts rows locked data.parentId splitting
  | .moveNode .. | .mergeTarget .. | .splitSource .. => True
  | .moveParent node data parentId => node.id ∈ locked ∧ data.parentId = some parentId
  | .moveWalk node data _ walked ancestorId =>
    node.id ∈ locked ∧ WalkFacts node.id data.parentId walked (some ancestorId)
  | .mergeSource merging _ _ => MergeFacts rows locked merging
  | .mergeWalk merging source _ walked ancestorId =>
    MergeFacts rows locked merging ∧ WalkFacts source.id (some merging.target.id) walked (some ancestorId)
  | .mergeChildren merging source _ =>
    MergeFacts rows locked merging ∧ Avoids merging.walked merging.target.id source.id
  | .splitChildren splitting node => SplitFacts rows locked node.parentId (some splitting)
  | .commit writes => WritesFacts rows locked writes

/-! ### The facts outlast other commits -/

/-- The links of the locked rows hold on, and no row goes. -/
structure LinksKept (locked : List Uuid) (rows after : List TopicNode) : Prop where
  links : ∀ id ∈ locked, ∀ parentId, HasParent rows id parentId → HasParent after id parentId
  ids : ∀ id ∈ rows.map (·.id), id ∈ after.map (·.id)

section

variable (hkept : LinksKept locked rows after)

include hkept

theorem SplitFacts.kept (h : SplitFacts rows locked parentId splitting) :
    SplitFacts after locked parentId splitting := by
  intro split hsplit
  obtain ⟨hlocked, hparent⟩ := h split hsplit
  exact ⟨hlocked, hkept.links _ hlocked _ hparent⟩

theorem MergeFacts.kept (h : MergeFacts rows locked merging) : MergeFacts after locked merging where
  children_locked := h.children_locked
  children_of child hchild := by
    obtain ⟨source, hsource, hparent⟩ := h.children_of child hchild
    exact ⟨source, hsource, hkept.links _ (h.children_locked child hchild) _ hparent⟩
  avoids := h.avoids

theorem WritesFacts.kept (h : WritesFacts rows locked writes) : WritesFacts after locked writes where
  reparented_locked := h.reparented_locked
  safe := by
    cases h.safe with
    | created node hinserted hnone hparent =>
      exact .created node hinserted hnone fun id hid => hkept.ids id (hparent id hid)
    | split node sourceId hinserted hparent hsource hsourceParent hchildren =>
      refine .split node sourceId hinserted hparent hsource (hkept.links _ hsource _ hsourceParent) ?_
      intro id hid
      exact hkept.links _ (h.reparented_locked id hid) _ (hchildren id hid)
    | moved hinserted havoids =>
      refine .moved hinserted fun start hstart id hid => ?_
      rcases havoids start hstart id hid with havoid | ⟨sourceId, hparent, havoid⟩
      · exact .inl havoid
      · exact .inr ⟨sourceId, hkept.links _ (h.reparented_locked id hid) _ hparent, havoid⟩

theorem PointFacts.kept (h : PointFacts rows locked point) : PointFacts after locked point := by
  cases point with
  | createParent => exact ⟨h.1, h.2.kept hkept⟩
  | moveNode => trivial
  | moveParent => exact h
  | moveWalk => exact h
  | mergeTarget => trivial
  | mergeSource => exact MergeFacts.kept hkept h
  | mergeWalk => exact ⟨h.1.kept hkept, h.2⟩
  | mergeChildren => exact ⟨h.1.kept hkept, h.2⟩
  | splitSource => trivial
  | splitChildren => exact SplitFacts.kept hkept h
  | commit => exact WritesFacts.kept hkept h

end

theorem topicNode_ok (h : topicNode rows id = .ok row) : row ∈ rows ∧ row.id = id := by
  unfold topicNode at h
  split at h
  · cases h
    rename_i hfind
    exact ⟨mem_of_find?_eq_some hfind, by simpa using find?_some hfind⟩
  · cases h

theorem visit_ok {movingId : Uuid} (h : visit movingId walked cursor = .ok after) :
    cursor.id ≠ movingId ∧ after = walked ++ [cursor] := by
  unfold visit at h
  split_ifs at h with hmoving
  exact ⟨hmoving, (Except.ok.inj h).symm⟩

theorem WalkFacts.visit {movingId : Uuid} {start : Option Uuid}
    (h : WalkFacts movingId start walked (some cursor.id))
    (hvisit : Planning.visit movingId walked cursor = .ok after) :
    WalkFacts movingId start after cursor.parentId := by
  obtain ⟨hne, rfl⟩ := visit_ok hvisit
  constructor
  · unfold links
    rw [map_append]
    exact h.climbs.concat cursor.parentId
  · rw [map_append, mem_append]
    rintro (hold | hnew)
    · exact h.avoids hold
    · exact hne (mem_singleton.mp hnew).symm

theorem visitForMove_facts {parent : TopicNode} {data : TopicNodeMove} (hlocked : node.id ∈ locked)
    (hwalk : WalkFacts node.id data.parentId walked (some cursor.id))
    (h : visitForMove node data parent walked cursor = .ok point) : PointFacts rows locked point := by
  obtain ⟨after, hvisit, h⟩ := bind_ok h
  have hnext := hwalk.visit hvisit
  cases hparent : cursor.parentId with
  | some ancestorId =>
    rw [hparent] at h hnext
    cases h
    exact ⟨hlocked, hnext⟩
  | none =>
    rw [hparent] at h hnext
    simp only at h
    split_ifs at h
    cases h
    refine ⟨by simpa [moveWrites] using hlocked, .moved rfl fun start hstart id hid => ?_⟩
    obtain rfl : id = node.id := by simpa [moveWrites] using hid
    have hclimbs := hnext.climbs
    rw [show data.parentId = some start from hstart] at hclimbs
    exact .inl ⟨after, hclimbs, fun row hrow => hrow, hnext.avoids⟩

theorem visitForMerge_facts {rest : List Uuid} (hmerge : MergeFacts rows locked merging)
    (hwalk : WalkFacts source.id (some merging.target.id) walked (some cursor.id))
    (h : visitForMerge merging source rest walked cursor = .ok point) : PointFacts rows locked point := by
  obtain ⟨after, hvisit, h⟩ := bind_ok h
  have hnext := hwalk.visit hvisit
  cases hparent : cursor.parentId with
  | some ancestorId =>
    rw [hparent] at h hnext
    cases h
    exact ⟨hmerge, hnext⟩
  | none =>
    rw [hparent] at h hnext
    cases h
    refine ⟨⟨hmerge.children_locked, hmerge.children_of, fun other hother => ?_⟩, ?_⟩
    · obtain ⟨walk, hclimbs, hsub, havoid⟩ := hmerge.avoids other hother
      exact ⟨walk, hclimbs, fun row hrow => mem_append_left _ (hsub row hrow), havoid⟩
    · exact ⟨after, hnext.climbs, fun row hrow => mem_append_right _ hrow, hnext.avoids⟩

theorem nextSource_facts (h : MergeFacts rows locked merging) (rest : List Uuid) :
    PointFacts rows locked (nextSource merging rest) := by
  cases rest with
  | nil =>
    constructor
    · intro id hid
      obtain ⟨child, hchild, rfl⟩ := mem_map.mp hid
      exact h.children_locked child hchild
    · refine .moved rfl fun start hstart id hid => ?_
      obtain rfl : merging.target.id = start := Option.some.inj hstart
      obtain ⟨child, hchild, rfl⟩ := mem_map.mp hid
      obtain ⟨source, hsource, hparent⟩ := h.children_of child hchild
      exact .inr ⟨source.id, hparent, h.avoids source hsource⟩
  | cons sourceId rest => exact h

theorem insertNode_facts (hparent : ∀ id ∈ node.parentId, id ∈ rows.map (·.id))
    (h : SplitFacts rows locked node.parentId splitting) :
    PointFacts rows locked (insertNode node splitting) := by
  have hcreated : ∀ resource : String, WritesFacts rows locked
      { resource := resource, inserted := [node] } := by
    intro resource
    exact ⟨fun id hid => absurd hid not_mem_nil, .created node rfl rfl hparent⟩
  cases splitting with
  | none => exact hcreated _
  | some split =>
    unfold insertNode
    simp only
    split
    · exact hcreated _
    · exact h

theorem buildNode_facts {data : TopicNodeCreate} {surroundings : Surroundings}
    {campaignId : Option Uuid} (hparent : ∀ id ∈ data.parentId, id ∈ rows.map (·.id))
    (h : SplitFacts rows locked data.parentId splitting)
    (hok : buildNode data surroundings campaignId splitting newId = .ok point) :
    PointFacts rows locked point := by
  obtain ⟨_, _, hok⟩ := bind_ok hok
  cases hok
  exact insertNode_facts hparent h

theorem startCreate_facts {data : TopicNodeCreate} {surroundings : Surroundings}
    (h : SplitFacts rows locked data.parentId splitting)
    (hok : startCreate data surroundings splitting newId = .ok point) : PointFacts rows locked point := by
  obtain ⟨_, _, hok⟩ := bind_ok hok
  cases hparent : data.parentId with
  | none =>
    rw [hparent] at hok
    refine buildNode_facts (fun id hid => ?_) h hok
    rw [hparent] at hid
    cases hid
  | some parentId =>
    rw [hparent] at hok
    cases hok
    exact ⟨hparent, h⟩

theorem start_facts {request : TopicRequest} (h : start request newId = .ok point) :
    PointFacts rows [] point := by
  cases request with
  | createTopicNode data surroundings =>
    exact startCreate_facts (fun split hsplit => by cases hsplit) h
  | moveTopicNode nodeId data =>
    cases h
    trivial
  | mergeTopicNodes targetId data =>
    cases h
    trivial
  | splitTopicNode sourceId data surroundings =>
    cases h
    trivial

theorem startMove_facts {data : TopicNodeMove} (hlocked : node.id ∈ locked)
    (h : startMove node data = .ok point) : PointFacts rows locked point := by
  obtain ⟨_, _, h⟩ := bind_ok h
  split_ifs at h
  cases hparent : data.parentId with
  | some parentId =>
    rw [hparent] at h
    cases h
    exact ⟨hlocked, hparent⟩
  | none =>
    rw [hparent] at h
    cases h
    refine ⟨by simpa [moveWrites] using hlocked, .moved rfl fun start hstart => ?_⟩
    rw [show (moveWrites node data []).parentId = none from hparent] at hstart
    cases hstart

theorem startSource_facts {rest : List Uuid} (hmerge : MergeFacts rows locked merging)
    (h : startSource merging source rest = .ok point) : PointFacts rows locked point := by
  obtain ⟨expected, _, h⟩ := bind_ok h
  obtain ⟨_, _, h⟩ := bind_ok h
  split_ifs at h
  exact visitForMerge_facts hmerge ⟨.nil _, not_mem_nil⟩ h

theorem endSource_facts (hmerge : MergeFacts rows locked merging)
    (havoids : Avoids merging.walked merging.target.id source.id)
    (hlocked : ∀ child ∈ childrenOf rows source.id, child.id ∈ locked) (rest : List Uuid) :
    PointFacts rows locked (endSource merging source rest (childrenOf rows source.id)) := by
  refine nextSource_facts ⟨fun child hchild => ?_, fun child hchild => ?_, fun other hother => ?_⟩ rest
  · rcases mem_append.mp hchild with hold | hnew
    · exact hmerge.children_locked child hold
    · exact hlocked child hnew
  · rcases mem_append.mp hchild with hold | hnew
    · obtain ⟨old, hmem, hparent⟩ := hmerge.children_of child hold
      exact ⟨old, mem_append_left _ hmem, hparent⟩
    · obtain ⟨hrow, hparent⟩ := mem_filter.mp hnew
      exact ⟨source, mem_append_right _ (mem_singleton_self _), child, hrow, rfl,
        by simpa using hparent⟩
  · rcases mem_append.mp hother with hold | hnew
    · exact hmerge.avoids other hold
    · rw [mem_singleton.mp hnew]
      exact havoids

theorem endSplit_facts {splitting : Splitting} (h : SplitFacts rows locked node.parentId (some splitting))
    (hlocked : ∀ child ∈ splitChildrenOf rows splitting, child.id ∈ locked)
    (hok : endSplit splitting node (splitChildrenOf rows splitting) = .ok point) :
    PointFacts rows locked point := by
  unfold endSplit at hok
  split_ifs at hok
  cases hok
  obtain ⟨hsource, hparent⟩ := h splitting rfl
  refine ⟨fun id hid => ?_, .split node splitting.source.id rfl rfl hsource hparent fun id hid => ?_⟩
  · obtain ⟨child, hchild, rfl⟩ := mem_map.mp hid
    exact hlocked child hchild
  · obtain ⟨child, hchild, rfl⟩ := mem_map.mp hid
    obtain ⟨hrow, hof⟩ := mem_filter.mp (mem_filter.mp hchild).1
    exact ⟨child, hrow, rfl, by simpa using hof⟩

theorem MergeFacts.more {wanted : List Uuid} (h : MergeFacts rows locked merging) :
    MergeFacts rows (locked ++ wanted) merging :=
  ⟨fun child hchild => mem_append_left _ (h.children_locked child hchild), h.children_of, h.avoids⟩

theorem SplitFacts.more {wanted : List Uuid} (h : SplitFacts rows locked parentId splitting) :
    SplitFacts rows (locked ++ wanted) parentId splitting :=
  fun split hsplit => ⟨mem_append_left _ (h split hsplit).1, (h split hsplit).2⟩

/-- A query finds out what the next point relies on. -/
theorem query_facts {next : Point} (h : PointFacts rows locked point)
    (hcommit : ∀ writes, point ≠ .commit writes) (hok : query rows newId point = .ok next) :
    PointFacts rows (locked ++ lockedBy rows point) next := by
  cases point with
  | createParent data surroundings parentId splitting =>
    obtain ⟨parent, hparent, hok⟩ := bind_ok hok
    obtain ⟨campaignId, _, hok⟩ := bind_ok hok
    refine buildNode_facts (fun id hid => ?_) h.2.more hok
    obtain ⟨hrow, hparentId⟩ := topicNode_ok hparent
    rw [h.1] at hid
    obtain rfl : parentId = id := Option.some.inj hid
    exact mem_map.mpr ⟨parent, hrow, hparentId⟩
  | moveNode nodeId data =>
    obtain ⟨node, hnode, hok⟩ := bind_ok hok
    refine startMove_facts (mem_append_right _ ?_) hok
    exact mem_singleton.mpr (topicNode_ok hnode).2
  | moveParent node data parentId =>
    obtain ⟨parent, hparent, hok⟩ := bind_ok hok
    refine visitForMove_facts (mem_append_left _ h.1) ⟨?_, not_mem_nil⟩ hok
    rw [(topicNode_ok hparent).2, ← h.2]
    exact .nil _
  | moveWalk node data parent walked ancestorId =>
    obtain ⟨ancestor, hancestor, hok⟩ := bind_ok hok
    refine visitForMove_facts (mem_append_left _ h.1) ?_ hok
    rw [(topicNode_ok hancestor).2]
    exact h.2
  | mergeTarget targetId data =>
    obtain ⟨target, _, hok⟩ := bind_ok hok
    obtain ⟨_, _, hok⟩ := bind_ok hok
    split_ifs at hok
    cases hok
    refine nextSource_facts ⟨?_, ?_, ?_⟩ _ <;> exact fun row hrow => absurd hrow not_mem_nil
  | mergeSource merging sourceId rest =>
    obtain ⟨source, _, hok⟩ := bind_ok hok
    exact startSource_facts (MergeFacts.more h) hok
  | mergeWalk merging source rest walked ancestorId =>
    obtain ⟨ancestor, hancestor, hok⟩ := bind_ok hok
    refine visitForMerge_facts h.1.more ?_ hok
    have hid : (merging.overlay ancestor).id = ancestorId := by
      rw [← (topicNode_ok hancestor).2]
      unfold Merging.overlay
      split <;> rfl
    rw [hid]
    exact h.2
  | mergeChildren merging source rest =>
    cases hok
    refine endSource_facts h.1.more h.2 (fun child hchild => ?_) rest
    exact mem_append_right _ (mem_map_of_mem hchild)
  | splitSource sourceId data surroundings =>
    obtain ⟨source, hsource, hok⟩ := bind_ok hok
    obtain ⟨_, _, hok⟩ := bind_ok hok
    refine startCreate_facts (fun split hsplit => ?_) hok
    obtain rfl : _ = split := Option.some.inj hsplit
    obtain ⟨hrow, hid⟩ := topicNode_ok hsource
    exact ⟨mem_append_right _ (mem_singleton.mpr hid), source, hrow, rfl, rfl⟩
  | splitChildren splitting node =>
    refine endSplit_facts (SplitFacts.more h) (fun child hchild => ?_) hok
    exact mem_append_right _ (mem_map_of_mem hchild)
  | commit writes => exact absurd rfl (hcommit writes)

theorem above_exists (h : parentsExist rows) {start : Uuid} (hstart : start ∈ rows.map (·.id))
    (habove : Above (parentOf rows) start id) : id ∈ rows.map (·.id) := by
  induction habove with
  | refl => exact hstart
  | tail _ hlink _ => exact mem_of_parentOf h hlink

/-- A topic that a walk avoided is not above its start while the links of the walk hold. -/
theorem Avoids.not_above {start : Uuid} (h : Avoids walked start id)
    (hwalked : ∀ row ∈ walked, parentOf rows row.id = row.parentId) : ¬ Above (parentOf rows) start id := by
  intro habove
  obtain ⟨walk, hclimbs, hsub, havoids⟩ := h
  apply havoids
  have hlinks : ∀ link ∈ links walk, parentOf rows link.1 = link.2 := by
    intro link hlink
    obtain ⟨row, hrow, rfl⟩ := mem_map.mp hlink
    exact hwalked row (hsub row hrow)
  have hmet := hclimbs.met hlinks habove
  unfold links at hmet
  rwa [map_map] at hmet

/-- A committed tree: unique ids, existing parents and no cycle. -/
structure SoundTree (rows : List TopicNode) : Prop where
  keyed : Keyed (·.id) rows
  parents : parentsExist rows
  rooted : ∀ id, Rooted (parentOf rows) id

/-- Inserting a leaf under an existing topic. -/
theorem SoundTree.rooted_insert (h : SoundTree rows) (hnew : id ∉ rows.map (·.id))
    (hparent : ∀ p ∈ parentId, p ∈ rows.map (·.id)) (x : Uuid) :
    Rooted (reparent [id] parentId (parentOf rows)) x := by
  refine rooted_reparent h.rooted (fun start hstart y habove hy => ?_) x
  obtain rfl := mem_singleton.mp hy
  exact hnew (above_exists h.parents (hparent start hstart) habove)

/-- The topics above a split's new topic are none of the children it takes. -/
theorem SoundTree.rooted_split (h : SoundTree rows) {sourceId : Uuid} {moved : List Uuid}
    (hnew : id ∉ rows.map (·.id)) (hsource : HasParent rows sourceId parentId)
    (hmoved : ∀ child ∈ moved, HasParent rows child (some sourceId)) (x : Uuid) :
    Rooted (reparent moved (some id) (reparent [id] parentId (parentOf rows))) x := by
  have hlink := hsource.parentOf h.keyed
  have hparent : ∀ p ∈ parentId, p ∈ rows.map (·.id) := by
    intro p hp
    rw [hp] at hlink
    exact mem_of_parentOf h.parents hlink
  refine rooted_reparent (h.rooted_insert hnew hparent) (fun start hstart y habove hy => ?_) x
  obtain rfl : id = start := Option.some.inj hstart
  have hchild := (hmoved y hy).parentOf h.keyed
  have hyrows : y ∈ rows.map (·.id) := by
    obtain ⟨row, hrow, hid, _⟩ := hmoved y hy
    exact mem_map.mpr ⟨row, hrow, hid⟩
  rcases Relation.ReflTransGen.cases_head habove with rfl | ⟨next, hnext, hrest⟩
  · exact hnew hyrows
  · rw [reparent_of_mem (mem_singleton_self _)] at hnext
    rw [hnext] at hlink
    have hup : Above (parentOf rows) next y := by
      refine above_of_reparent (fun z hz hin => ?_) hrest
      obtain rfl := mem_singleton.mp hin
      exact hnew (above_exists h.parents (hparent next hnext) hz)
    exact (h.rooted sourceId).not_above hlink (hup.parent_of hchild)

theorem SoundTree.commit (h : SoundTree rows) (hfacts : WritesFacts rows locked writes)
    (hheld : ∀ id ∈ locked, id ∈ rows.map (·.id))
    (hwalked : ∀ row ∈ writes.walked, parentOf rows row.id = row.parentId)
    (hok : commitRows writes rows = .ok after) : SoundTree after := by
  obtain ⟨hafter, hkeyed, hparents⟩ := commitRows_ok hok
  have hexist : ∀ id ∈ writes.reparented, id ∈ rows.map (·.id) :=
    fun id hid => hheld id (hfacts.reparented_locked id hid)
  -- the inserted topic is new, and its parent is the one it was built with
  have hinsert : ∀ node, writes.inserted = [node] → node.id ∉ rows.map (·.id) ∧
      ∀ id, parentOf after id = reparent writes.reparented writes.parentId
          (reparent [node.id] node.parentId (parentOf rows)) id := by
    intro node hnode
    have hmem : node ∈ after := by
      rw [hafter, hnode]
      exact mem_append_right _ (mem_singleton_self _)
    have hnew : node.id ∉ rows.map (·.id) := by
      rw [hafter, hnode] at hkeyed
      unfold Keyed at hkeyed
      rw [map_append, map_apply_ids] at hkeyed
      exact fun hin => (nodup_append.mp hkeyed).2.2 _ hin _ (mem_singleton_self _) rfl
    refine ⟨hnew, fun id => ?_⟩
    by_cases hid : id = node.id
    · subst hid
      rw [parentOf_of_mem hkeyed hmem, reparent_of_not_mem fun hin => hnew (hexist _ hin),
        reparent_of_mem (mem_singleton_self _)]
    · have hnot : id ∉ writes.inserted.map (·.id) := by
        rw [hnode]
        simpa using hid
      rw [parentOf_commit h.keyed hok hexist id hnot]
      unfold reparent
      rw [if_neg (by simpa using hid : id ∉ [node.id])]
  refine ⟨hkeyed, hparents, ?_⟩
  cases hfacts.safe with
  | created node hinserted hnone hparent =>
    obtain ⟨hnew, heq⟩ := hinsert node hinserted
    have hfun : parentOf after = reparent [node.id] node.parentId (parentOf rows) := by
      funext id
      rw [heq id, hnone, reparent_of_not_mem not_mem_nil]
    rw [hfun]
    exact h.rooted_insert hnew hparent
  | split node sourceId hinserted hparent hsource hsourceParent hchildren =>
    obtain ⟨hnew, heq⟩ := hinsert node hinserted
    rw [funext heq, hparent]
    exact h.rooted_split hnew hsourceParent hchildren
  | moved hinserted havoids =>
    have hfun : parentOf after = reparent writes.reparented writes.parentId (parentOf rows) := by
      funext id
      exact parentOf_commit h.keyed hok hexist id (by simp [hinserted])
    rw [hfun]
    refine rooted_reparent h.rooted fun start hstart y habove hy => ?_
    rcases havoids start hstart y hy with havoid | ⟨sourceId, hparent, havoid⟩
    · exact havoid.not_above hwalked habove
    · exact havoid.not_above hwalked (habove.parent_of (hparent.parentOf h.keyed))

/-! ## Transactions under way -/

/-- The committed tree is sound, locks are exclusive, and every transaction relies on facts
that its locks protect. -/
structure LockedTree (s : TopicWorkspace) : Prop where
  tree : SoundTree s.rows
  held : ∀ entry ∈ s.running, ∀ id ∈ entry.2.locked, id ∈ s.rows.map (·.id)
  exclusive : ∀ entry ∈ s.running, ∀ other ∈ s.running, entry.1 ≠ other.1 →
    ∀ id ∈ entry.2.locked, id ∉ other.2.locked
  facts : ∀ entry ∈ s.running, PointFacts s.rows entry.2.locked entry.2.point

theorem lockedTree_empty : LockedTree {} where
  tree := ⟨nodup_nil, fun _ h => absurd h not_mem_nil, fun _ => .root rfl⟩
  held _ h := absurd h not_mem_nil
  exclusive _ h := absurd h not_mem_nil
  facts _ h := absurd h not_mem_nil

theorem transaction_mem (h : s.transaction number = some transaction) :
    (number, transaction) ∈ s.running := by
  obtain ⟨entry, hfind, rfl⟩ := Option.map_eq_some_iff.mp h
  have hnumber : entry.1 = number := by simpa using find?_some hfind
  rw [← hnumber]
  exact mem_of_find?_eq_some hfind

theorem mem_others {entry : Nat × Transaction} :
    entry ∈ s.others number ↔ entry ∈ s.running ∧ entry.1 ≠ number := by
  simp [TopicWorkspace.others, mem_filter]

theorem LockedTree.finish (h : LockedTree s) (number : Nat) : LockedTree (s.finish number) where
  tree := h.tree
  held entry hentry := h.held entry (mem_others.mp hentry).1
  exclusive entry hentry other hother :=
    h.exclusive entry (mem_others.mp hentry).1 other (mem_others.mp hother).1
  facts entry hentry := h.facts entry (mem_others.mp hentry).1

theorem LockedTree.resume (h : LockedTree s) (hheld : ∀ id ∈ transaction.locked, id ∈ s.rows.map (·.id))
    (hexclusive : ∀ other ∈ s.others number, ∀ id ∈ transaction.locked, id ∉ other.2.locked)
    (hfacts : PointFacts s.rows transaction.locked transaction.point) :
    LockedTree (s.resume number transaction) where
  tree := h.tree
  held entry hentry := by
    rcases mem_cons.mp hentry with rfl | hold
    · exact hheld
    · exact h.held entry (mem_others.mp hold).1
  exclusive entry hentry other hother hne id hid hin := by
    rcases mem_cons.mp hentry with rfl | hold
    · rcases mem_cons.mp hother with rfl | hother
      · exact hne rfl
      · exact hexclusive other hother id hid hin
    · rcases mem_cons.mp hother with rfl | hother
      · exact hexclusive entry hold id hin hid
      · exact h.exclusive entry (mem_others.mp hold).1 other (mem_others.mp hother).1 hne id hid hin
  facts entry hentry := by
    rcases mem_cons.mp hentry with rfl | hold
    · exact hfacts
    · exact h.facts entry (mem_others.mp hold).1

theorem mem_ids_of_topicNode (h : topicNode rows id = .ok row) : id ∈ rows.map (·.id) := by
  obtain ⟨hrow, hid⟩ := topicNode_ok h
  exact mem_map.mpr ⟨row, hrow, hid⟩

theorem lockedBy_exists {next : Point} (h : query rows newId point = .ok next) :
    ∀ id ∈ lockedBy rows point, id ∈ rows.map (·.id) := by
  intro id hid
  cases point with
  | moveNode nodeId data =>
    obtain ⟨node, hnode, _⟩ := bind_ok h
    rw [mem_singleton.mp hid]
    exact mem_ids_of_topicNode hnode
  | mergeTarget targetId data =>
    obtain ⟨target, htarget, _⟩ := bind_ok h
    rw [mem_singleton.mp hid]
    exact mem_ids_of_topicNode htarget
  | mergeSource merging sourceId rest =>
    obtain ⟨source, hsource, _⟩ := bind_ok h
    rw [mem_singleton.mp hid]
    exact mem_ids_of_topicNode hsource
  | splitSource sourceId data surroundings =>
    obtain ⟨source, hsource, _⟩ := bind_ok h
    rw [mem_singleton.mp hid]
    exact mem_ids_of_topicNode hsource
  | mergeChildren merging source rest =>
    obtain ⟨child, hchild, rfl⟩ := mem_map.mp hid
    exact mem_map_of_mem (mem_filter.mp hchild).1
  | splitChildren splitting node =>
    obtain ⟨child, hchild, rfl⟩ := mem_map.mp hid
    exact mem_map_of_mem (mem_filter.mp (mem_filter.mp hchild).1).1
  | _ => exact absurd hid not_mem_nil

theorem LockedTree.begin (h : LockedTree s) (number : Nat) (request : TopicRequest) (newId : Uuid) :
    LockedTree (beginRequest s number request newId) := by
  unfold beginRequest
  split
  · exact h
  · split
    · rename_i point hstart
      refine h.resume (fun id hid => absurd hid not_mem_nil)
        (fun other _ id hid => absurd hid not_mem_nil) ?_
      exact start_facts hstart
    · exact h

section

variable (h : LockedTree s) (htransaction : s.transaction number = some transaction)

include h htransaction

theorem LockedTree.query (hcommit : ∀ writes, transaction.point ≠ .commit writes) :
    LockedTree (advanceQuery s number newId transaction) := by
  have hmem := transaction_mem htransaction
  unfold advanceQuery
  dsimp only
  split
  · exact h
  · rename_i hfree
    split
    · rename_i next hquery
      refine h.resume (fun id hid => ?_) (fun other hother id hid hin => ?_)
        (query_facts (h.facts _ hmem) hcommit hquery)
      · rcases mem_append.mp hid with hold | hnew
        · exact h.held _ hmem id hold
        · exact lockedBy_exists hquery id hnew
      · rcases mem_append.mp hid with hold | hnew
        · obtain ⟨hrunning, hne⟩ := mem_others.mp hother
          exact h.exclusive _ hmem other hrunning (Ne.symm hne) id hold hin
        · apply hfree
          unfold TopicWorkspace.blocked
          simp only [any_eq_true, decide_eq_true_eq]
          exact ⟨other, hother, id, hnew, hin⟩
    · exact h.finish number

/-- A commit keeps what the other transactions rely on: they hold the locks of it. -/
theorem LockedTree.commit (hpoint : transaction.point = .commit writes)
    (hwalked : ∀ row ∈ writes.walked, parentOf s.rows row.id = row.parentId) :
    LockedTree (commitWrites s number writes) := by
  have hmem := transaction_mem htransaction
  have hfacts : WritesFacts s.rows transaction.locked writes := by
    have hpointFacts := h.facts _ hmem
    rw [hpoint] at hpointFacts
    exact hpointFacts
  unfold commitWrites
  split
  · rename_i after hok
    have hafter := (commitRows_ok hok).1
    have hids : ∀ id ∈ s.rows.map (·.id), id ∈ after.map (·.id) := by
      intro id hid
      rw [hafter, map_append, map_apply_ids]
      exact mem_append_left _ hid
    refine ⟨h.tree.commit hfacts (h.held _ hmem) hwalked hok, ?_, ?_, ?_⟩
    · exact fun entry hentry id hid => hids id (h.held entry (mem_others.mp hentry).1 id hid)
    · exact fun entry hentry other hother =>
        h.exclusive entry (mem_others.mp hentry).1 other (mem_others.mp hother).1
    · intro entry hentry
      obtain ⟨hrunning, hne⟩ := mem_others.mp hentry
      refine (h.facts entry hrunning).kept ⟨fun id hid parentId hparent => ?_, hids⟩
      rw [hafter]
      refine hparent.commit fun hin => ?_
      exact h.exclusive _ hmem entry hrunning (Ne.symm hne) id (hfacts.reparented_locked id hin) hid
  · exact h.finish number

end

/-- The rows that the ancestor walks of a transaction read, where the action commits it. -/
def committedWalk (s : TopicWorkspace) : TopicAction → List TopicNode
  | .advance number _ =>
    match s.transaction number with
    | some ⟨.commit writes, _⟩ => writes.walked
    | _ => []
  | _ => []

/-- A commit finds every row that its ancestor walks read under the parent it was read with. -/
def WalkHolds (s : TopicWorkspace) (action : TopicAction) : Prop :=
  ∀ row ∈ committedWalk s action, parentOf s.rows row.id = row.parentId

instance (s : TopicWorkspace) (action : TopicAction) : Decidable (WalkHolds s action) :=
  inferInstanceAs (Decidable (∀ row ∈ committedWalk s action, _))

theorem lockedTree_step (h : LockedTree s) {action : TopicAction} (hwalk : WalkHolds s action) :
    LockedTree (topicStep s action) := by
  cases action with
  | begin number request newId => exact h.begin number request newId
  | rollback number => exact h.finish number
  | advance number newId =>
    change LockedTree (advance s number newId)
    unfold advance
    cases htransaction : s.transaction number with
    | none => exact h
    | some transaction =>
      simp only [WalkHolds, committedWalk, htransaction] at hwalk
      obtain ⟨point, locked⟩ := transaction
      cases point with
      | commit writes => exact h.commit htransaction rfl hwalk
      | _ => exact h.query htransaction (by simp)

/-- The topic tree has no cycle after any interleaving whose commits find what their walks
read. -/
theorem topic_tree_acyclic {actions : List TopicAction}
    (h : Along topicStep WalkHolds {} actions) : AcyclicTree (run topicStep {} actions).rows := by
  have hlocked := invariant_along topicStep (I := LockedTree)
    (fun _ _ hs hwalk => lockedTree_step hs hwalk) lockedTree_empty h
  exact fun row _ => hlocked.tree.rooted row.id

/-! ## Two trees of two topics

Topics 1 and 3 are roots, 2 lies under 1 and 4 under 3. -/

def createdUnder (number : Nat) (id : Uuid) (parentId : Option Uuid) : List TopicAction :=
  let request := TopicRequest.createTopicNode { parentId := parentId } {}
  match parentId with
  | none => [.begin number request id, .advance number id]
  | some _ => [.begin number request id, .advance number id, .advance number id]

def twoTrees : List TopicAction :=
  createdUnder 1 1 none ++ createdUnder 2 2 (some 1) ++ createdUnder 3 3 none ++ createdUnder 4 4 (some 3)

def movedUnder (number : Nat) (id parentId : Uuid) : List TopicAction :=
  [.begin number (.moveTopicNode id ⟨1, some parentId, 0⟩) 0, .advance number 0,
    .advance number 0, .advance number 0]

/-- Both moves walk up before one of them commits. -/
def crossingMoves : List TopicAction :=
  movedUnder 5 1 4 ++ movedUnder 6 3 2 ++ [.advance 5 0, .advance 6 0]

/-- One of the moves commits before the other begins. -/
def followingMoves : List TopicAction :=
  movedUnder 5 1 4 ++ [.advance 5 0] ++ movedUnder 6 3 2 ++ [.advance 6 0]

theorem followingMoves_acyclic : AcyclicTree (run topicStep {} (twoTrees ++ followingMoves)).rows := by
  apply topic_tree_acyclic
  simp only [twoTrees, followingMoves, createdUnder, movedUnder, cons_append, nil_append,
    along_cons, along_nil, and_true]
  decide +kernel

theorem crossingMoves_cycle : ¬ AcyclicTree (run topicStep {} (twoTrees ++ crossingMoves)).rows := by
  intro h
  have hclosed : ∀ id ∈ [1, 2, 3, 4], ∃ parentId ∈ [1, 2, 3, 4],
      parentOf (run topicStep {} (twoTrees ++ crossingMoves)).rows id = some parentId := by
    decide +kernel
  have hrow : ∃ row ∈ (run topicStep {} (twoTrees ++ crossingMoves)).rows, row.id = 1 := by
    decide +kernel
  obtain ⟨row, hmem, hid⟩ := hrow
  refine not_rooted_of_closed hclosed ?_ (h row hmem)
  rw [hid]
  exact mem_cons_self

end BlogOps.Planning
