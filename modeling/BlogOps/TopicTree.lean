import BlogOps.AppErrors
import BlogOps.KeyedTables
import BlogOps.TransitionRuns

/-!
# The topic tree

The topic operations of the planning service as transactions: each point of a
transaction is its next query with the local variables of the call.  A query
with `FOR UPDATE` waits for the locks of other transactions, any other query
reads the rows committed last, the changes are flushed at the commit.
-/

namespace BlogOps.Planning

open KeyedTables TransitionRuns

inductive TopicNodeStatus where
  | active | merged | archived
deriving DecidableEq, Repr

structure TopicNode where
  id : Uuid
  campaignId : Option Uuid := none
  parentId : Option Uuid := none
  sortOrder : Nat := 0
  status : TopicNodeStatus := .active
  mergedIntoId : Option Uuid := none
  lockVersion : Nat := 1
deriving DecidableEq, Repr

structure TopicNodeCreate where
  campaignId : Option Uuid := none
  parentId : Option Uuid := none
  sortOrder : Nat := 0
deriving DecidableEq, Repr

structure TopicNodeMove where
  expectedLockVersion : Nat
  parentId : Option Uuid := none
  sortOrder : Nat := 0
deriving DecidableEq, Repr

structure TopicMergeRequest where
  sourceNodeIds : List Uuid
  expectedSourceVersions : List (Uuid × Nat)
  expectedTargetLockVersion : Nat
  sources_nonempty : sourceNodeIds ≠ []
  sources_length : sourceNodeIds.length ≤ 100
  sources_unique : sourceNodeIds.Nodup
  versions_cover : ∀ id, id ∈ sourceNodeIds ↔ id ∈ expectedSourceVersions.map Prod.fst

structure TopicSplitRequest where
  expectedSourceLockVersion : Nat
  newNode : TopicNodeCreate
  childNodeIds : List Uuid := []
  children_length : childNodeIds.length ≤ 100
deriving DecidableEq, Repr

/-- What a call finds outside of the topic rows: the campaigns of the workspace, and whether
the keyword references resolve. -/
structure Surroundings where
  campaigns : List Uuid := []
  resolved : Except Failure Unit := .ok ()

inductive TopicRequest where
  | createTopicNode (data : TopicNodeCreate) (surroundings : Surroundings)
  | moveTopicNode (nodeId : Uuid) (data : TopicNodeMove)
  | mergeTopicNodes (targetId : Uuid) (data : TopicMergeRequest)
  | splitTopicNode (sourceId : Uuid) (data : TopicSplitRequest) (surroundings : Surroundings)

def planningError (code message : String) (statusCode : Nat) (fields : List FieldError := []) : Failure :=
  .app { code := code, message := message, statusCode := statusCode, fields := fields }

def notFoundError (code label : String) : Failure :=
  planningError (code ++ "_NOT_FOUND") (label ++ "을(를) 찾을 수 없습니다.") 404

def assertLock (resource : String) (expected actual : Nat) : Except Failure Unit :=
  require (expected = actual) (planningError "OPTIMISTIC_LOCK_CONFLICT"
    "다른 요청이 먼저 리소스를 변경했습니다. 최신 값을 다시 조회해 주세요." 409
    [⟨"resource", resource⟩, ⟨"expected_lock_version", toString expected⟩,
      ⟨"actual_lock_version", toString actual⟩])

def inactiveError (label : String) : Failure := planningError "PLANNING_RESOURCE_INACTIVE"
    ("비활성 상태의 " ++ label ++ "은(는) 변경할 수 없습니다.") 409

def topicCycleError : Failure := planningError "TOPIC_TREE_CYCLE" "토픽 트리에 순환 관계를 만들 수 없습니다." 422

def topicCampaignMismatch : Failure :=
  planningError "TOPIC_CAMPAIGN_MISMATCH" "부모와 자식 토픽은 같은 캠페인에 속해야 합니다." 422

def mergeCampaignMismatch : Failure :=
  planningError "TOPIC_CAMPAIGN_MISMATCH" "같은 캠페인의 토픽만 병합할 수 있습니다." 422

def topicMergeSelf : Failure := planningError "TOPIC_MERGE_SELF" "병합 대상은 원본 목록에 포함될 수 없습니다." 422

def topicSplitChildInvalid : Failure := planningError "TOPIC_SPLIT_CHILD_INVALID"
    "선택한 하위 토픽이 원본 토픽에 속하지 않습니다." 422

def planningConflict (resource : String) : Failure :=
  planningError "PLANNING_CONFLICT" "같은 식별자, 버전 또는 계획 항목이 이미 존재합니다." 409 [⟨"resource", resource⟩]

/-- The pending changes of a transaction. `walked` are the rows its ancestor walks read. -/
structure TopicWrites where
  resource : String
  inserted : List TopicNode := []
  reparented : List Uuid := []
  parentId : Option Uuid := none
  sortOrder : Option Nat := none
  merged : List Uuid := []
  mergedIntoId : Option Uuid := none
  walked : List TopicNode := []
deriving DecidableEq, Repr

variable (writes : TopicWrites)

def TopicWrites.reparent (row : TopicNode) : TopicNode :=
  if row.id ∈ writes.reparented then
    { row with
      parentId := writes.parentId
      sortOrder := writes.sortOrder.getD row.sortOrder }
  else row

def TopicWrites.merge (row : TopicNode) : TopicNode :=
  if row.id ∈ writes.merged then
    { row with status := .merged, mergedIntoId := writes.mergedIntoId }
  else row

/-- The row as it is flushed; a row that changed advances its lock. -/
def TopicWrites.apply (row : TopicNode) : TopicNode := let written := writes.merge (writes.reparent row)
  if written = row then row else { written with lockVersion := row.lockVersion + 1 }

variable (rows : List TopicNode)

/-- `fk_planning_topic_parent`. -/
def parentsExist : Prop := ∀ row ∈ rows, ∀ parentId ∈ row.parentId, parentId ∈ rows.map (·.id)

instance (rows : List TopicNode) : Decidable (parentsExist rows) :=
  inferInstanceAs (Decidable (∀ row ∈ rows, ∀ parentId ∈ row.parentId, _))

/-- The flush: ids are unique and parents exist, else the commit is refused. -/
def commitRows : Except Failure (List TopicNode) :=
  let after := rows.map writes.apply ++ writes.inserted
  if ¬ (after.map (·.id)).Nodup ∨ ¬ parentsExist after then
    .error (planningConflict writes.resource)
  else .ok after

/-- The split that a creation belongs to. -/
structure Splitting where
  source : TopicNode
  childNodeIds : List Uuid
deriving DecidableEq, Repr

/-- The local variables of the loop over the sources of a merge. -/
structure Merging where
  target : TopicNode
  data : TopicMergeRequest
  sources : List TopicNode := []
  children : List TopicNode := []
  walked : List TopicNode := []

inductive Point where
  | createParent (data : TopicNodeCreate) (surroundings : Surroundings) (parentId : Uuid)
      (splitting : Option Splitting)
  | moveNode (nodeId : Uuid) (data : TopicNodeMove)
  | moveParent (node : TopicNode) (data : TopicNodeMove) (parentId : Uuid)
  | moveWalk (node : TopicNode) (data : TopicNodeMove) (parent : TopicNode)
      (walked : List TopicNode) (ancestorId : Uuid)
  | mergeTarget (targetId : Uuid) (data : TopicMergeRequest)
  | mergeSource (merging : Merging) (sourceId : Uuid) (rest : List Uuid)
  | mergeWalk (merging : Merging) (source : TopicNode) (rest : List Uuid)
      (walked : List TopicNode) (ancestorId : Uuid)
  | mergeChildren (merging : Merging) (source : TopicNode) (rest : List Uuid)
  | splitSource (sourceId : Uuid) (data : TopicSplitRequest) (surroundings : Surroundings)
  | splitChildren (splitting : Splitting) (node : TopicNode)
  | commit (writes : TopicWrites)

def topicNode (id : Uuid) : Except Failure TopicNode :=
  match rows.find? (·.id = id) with
  | some row => .ok row
  | none => .error (notFoundError "TOPIC_NODE" "토픽 노드")

def campaignFound (surroundings : Surroundings) (campaignId : Option Uuid) : Except Failure Unit :=
  match campaignId with
  | none => .ok ()
  | some id => require (id ∈ surroundings.campaigns) (notFoundError "CAMPAIGN" "캠페인")

variable (node : TopicNode)

def insertNode (splitting : Option Splitting) : Point :=
  match splitting with
  | none => .commit { resource := "topic_node", inserted := [node] }
  | some splitting =>
    if splitting.childNodeIds = [] then
      .commit { resource := "topic_split", inserted := [node] }
    else .splitChildren splitting node

variable (data : TopicNodeCreate)

def buildNode (surroundings : Surroundings) (campaignId : Option Uuid)
    (splitting : Option Splitting) (newId : Uuid) : Except Failure Point := do
  surroundings.resolved
  .ok (insertNode {
    id := newId
    campaignId := campaignId
    parentId := data.parentId
    sortOrder := data.sortOrder } splitting)

def startCreate (surroundings : Surroundings) (splitting : Option Splitting) (newId : Uuid) :
    Except Failure Point := do
  campaignFound surroundings data.campaignId
  match data.parentId with
  | none => buildNode data surroundings data.campaignId splitting newId
  | some parentId => .ok (.createParent data surroundings parentId splitting)

/-- The checks on the parent of a new node; a node without a campaign takes its parent's. -/
def campaignUnder (parent : TopicNode) : Except Failure (Option Uuid) :=
  if parent.status ≠ .active then .error (inactiveError "토픽 부모")
  else
    match data.campaignId with
    | none => .ok parent.campaignId
    | some campaignId =>
      if parent.campaignId ≠ some campaignId then .error topicCampaignMismatch
      else .ok (some campaignId)

/-! ### The ancestor walk -/

/-- One turn of `_assert_not_descendant`: the next row of the way up. -/
def visit (movingId : Uuid) (walked : List TopicNode) (cursor : TopicNode) :
    Except Failure (List TopicNode) :=
  if cursor.id = movingId then .error topicCycleError
  else if cursor.id ∈ walked.map (·.id) then .error topicCycleError
  else .ok (walked ++ [cursor])

def moveWrites (data : TopicNodeMove) (walked : List TopicNode) : TopicWrites where
  resource := "topic_node"
  reparented := [node.id]
  parentId := data.parentId
  sortOrder := some data.sortOrder
  walked := walked

def visitForMove (data : TopicNodeMove) (parent : TopicNode) (walked : List TopicNode)
    (cursor : TopicNode) : Except Failure Point := do
  let walked ← visit node.id walked cursor
  match cursor.parentId with
  | some ancestorId => .ok (.moveWalk node data parent walked ancestorId)
  | none =>
    if parent.campaignId ≠ node.campaignId then .error topicCampaignMismatch
    else .ok (.commit (moveWrites node data walked))

def startMove (data : TopicNodeMove) : Except Failure Point := do
  assertLock "topic_node" data.expectedLockVersion node.lockVersion
  if node.status ≠ .active then .error (inactiveError "토픽")
  else if data.parentId = some node.id then .error topicCycleError
  else
    match data.parentId with
    | some parentId => .ok (.moveParent node data parentId)
    | none => .ok (.commit (moveWrites node data []))

variable (merging : Merging)

/-- The session's row: a child moved by an earlier source of the merge has its new parent. -/
def Merging.overlay (row : TopicNode) : TopicNode :=
  if row.id ∈ merging.children.map (·.id) then { row with parentId := some merging.target.id }
  else row

def mergeWrites : TopicWrites where
  resource := "topic_merge"
  reparented := merging.children.map (·.id)
  parentId := some merging.target.id
  merged := merging.sources.map (·.id)
  mergedIntoId := some merging.target.id
  walked := merging.walked

def nextSource : List Uuid → Point
  | [] => .commit (mergeWrites merging)
  | sourceId :: rest => .mergeSource merging sourceId rest

def startMerge (target : TopicNode) (data : TopicMergeRequest) : Except Failure Point := do
  assertLock "topic_node" data.expectedTargetLockVersion target.lockVersion
  if target.status ≠ .active then .error (inactiveError "병합 대상 토픽")
  else if target.id ∈ data.sourceNodeIds then .error topicMergeSelf
  else .ok (nextSource { target := target, data := data } data.sourceNodeIds)

variable (source : TopicNode)

def visitForMerge (rest : List Uuid) (walked : List TopicNode) (cursor : TopicNode) :
    Except Failure Point := do
  let walked ← visit source.id walked cursor
  match cursor.parentId with
  | some ancestorId => .ok (.mergeWalk merging source rest walked ancestorId)
  | none =>
    .ok (.mergeChildren { merging with walked := merging.walked ++ walked } source rest)

def expectedVersion (data : TopicMergeRequest) (sourceId : Uuid) : Except Failure Nat :=
  match data.expectedSourceVersions.find? (·.1 = sourceId) with
  | some entry => .ok entry.2
  | none => .error .keyError

def startSource (rest : List Uuid) : Except Failure Point := do
  let expected ← expectedVersion merging.data source.id
  assertLock "topic_node" expected source.lockVersion
  if source.status ≠ .active then .error (inactiveError "병합 원본 토픽")
  else if source.campaignId ≠ merging.target.campaignId then .error mergeCampaignMismatch
  else visitForMerge merging source rest [] merging.target

def endSource (rest : List Uuid) (children : List TopicNode) : Point :=
  nextSource { merging with
    sources := merging.sources ++ [source]
    children := merging.children ++ children } rest

def startSplit (data : TopicSplitRequest) (surroundings : Surroundings) (newId : Uuid) :
    Except Failure Point := do
  assertLock "topic_node" data.expectedSourceLockVersion source.lockVersion
  startCreate { data.newNode with campaignId := source.campaignId, parentId := source.parentId }
    surroundings (some ⟨source, data.childNodeIds⟩) newId

def endSplit (splitting : Splitting) (node : TopicNode) (children : List TopicNode) : Except Failure Point :=
  if children.length ≠ splitting.childNodeIds.dedup.length then .error topicSplitChildInvalid
  else .ok (.commit {
    resource := "topic_split"
    inserted := [node]
    reparented := children.map (·.id)
    parentId := some node.id })

def childrenOf (parentId : Uuid) : List TopicNode := rows.filter (·.parentId = some parentId)

def splitChildrenOf (splitting : Splitting) : List TopicNode :=
  (childrenOf rows splitting.source.id).filter (·.id ∈ splitting.childNodeIds)

/-- The rows that the next query locks. -/
def lockedBy : Point → List Uuid
  | .moveNode id _ | .mergeTarget id _ | .mergeSource _ id _ | .splitSource id _ _ => [id]
  | .mergeChildren _ source _ => (childrenOf rows source.id).map (·.id)
  | .splitChildren splitting _ => (splitChildrenOf rows splitting).map (·.id)
  | .createParent .. | .moveParent .. | .moveWalk .. | .mergeWalk .. | .commit .. => []

def start (request : TopicRequest) (newId : Uuid) : Except Failure Point :=
  match request with
  | .createTopicNode data surroundings => startCreate data surroundings none newId
  | .moveTopicNode nodeId data => .ok (.moveNode nodeId data)
  | .mergeTopicNodes targetId data => .ok (.mergeTarget targetId data)
  | .splitTopicNode sourceId data surroundings => .ok (.splitSource sourceId data surroundings)

/-- The next query of a transaction and what the call does with its answer. -/
def query (newId : Uuid) : Point → Except Failure Point
  | .createParent data surroundings parentId splitting => do
    let parent ← topicNode rows parentId
    let campaignId ← campaignUnder data parent
    buildNode data surroundings campaignId splitting newId
  | .moveNode nodeId data => do
    let node ← topicNode rows nodeId
    startMove node data
  | .moveParent node data parentId => do
    let parent ← topicNode rows parentId
    visitForMove node data parent [] parent
  | .moveWalk node data parent walked ancestorId => do
    let ancestor ← topicNode rows ancestorId
    visitForMove node data parent walked ancestor
  | .mergeTarget targetId data => do
    let target ← topicNode rows targetId
    startMerge target data
  | .mergeSource merging sourceId rest => do
    let source ← topicNode rows sourceId
    startSource merging source rest
  | .mergeWalk merging source rest walked ancestorId => do
    let ancestor ← topicNode rows ancestorId
    visitForMerge merging source rest walked (merging.overlay ancestor)
  | .mergeChildren merging source rest =>
    .ok (endSource merging source rest (childrenOf rows source.id))
  | .splitSource sourceId data surroundings => do
    let source ← topicNode rows sourceId
    startSplit source data surroundings newId
  | .splitChildren splitting node => endSplit splitting node (splitChildrenOf rows splitting)
  | .commit writes => .ok (.commit writes)

structure Transaction where
  point : Point
  locked : List Uuid := []

/-- The committed rows and the transactions under way, by their number. -/
structure TopicWorkspace where
  rows : List TopicNode := []
  running : List (Nat × Transaction) := []

/-- One step of any party: a request begins, a transaction makes its next query or commits,
or it is rolled back. -/
inductive TopicAction where
  | begin (number : Nat) (request : TopicRequest) (newId : Uuid)
  | advance (number : Nat) (newId : Uuid)
  | rollback (number : Nat)

namespace TopicWorkspace

variable (s : TopicWorkspace)

def transaction (number : Nat) : Option Transaction := (s.running.find? (·.1 = number)).map (·.2)

def others (number : Nat) : List (Nat × Transaction) := s.running.filter (·.1 ≠ number)

def resume (number : Nat) (transaction : Transaction) : TopicWorkspace :=
  { s with running := (number, transaction) :: s.others number }

/-- The transaction is over and its locks are free. -/
def finish (number : Nat) : TopicWorkspace := { s with running := s.others number }

/-- A query waits while another transaction holds a lock it asks for. -/
def blocked (number : Nat) (wanted : List Uuid) : Bool :=
  (s.others number).any fun other => wanted.any (· ∈ other.2.locked)

end TopicWorkspace

variable (s : TopicWorkspace)

def beginRequest (number : Nat) (request : TopicRequest) (newId : Uuid) : TopicWorkspace :=
  match s.transaction number with
  | some _ => s
  | none =>
    match start request newId with
    | .ok point => s.resume number { point := point }
    | .error _ => s

def advanceQuery (number : Nat) (newId : Uuid) (transaction : Transaction) : TopicWorkspace :=
  let wanted := lockedBy s.rows transaction.point
  if s.blocked number wanted then s
  else
    match query s.rows newId transaction.point with
    | .ok point =>
      s.resume number { point := point, locked := transaction.locked ++ wanted }
    | .error _ => s.finish number

def commitWrites (number : Nat) (writes : TopicWrites) : TopicWorkspace :=
  match commitRows writes s.rows with
  | .ok rows => { s.finish number with rows := rows }
  | .error _ => s.finish number

def advance (number : Nat) (newId : Uuid) : TopicWorkspace :=
  match s.transaction number with
  | none => s
  | some transaction =>
    match transaction.point with
    | .commit writes => commitWrites s number writes
    | _ => advanceQuery s number newId transaction

def topicStep : TopicAction → TopicWorkspace
  | .begin number request newId => beginRequest s number request newId
  | .advance number newId => advance s number newId
  | .rollback number => s.finish number

end BlogOps.Planning
