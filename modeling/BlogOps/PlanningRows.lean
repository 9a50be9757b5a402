import BlogOps.BudgetPolicy
import BlogOps.PlanningRules
import BlogOps.TopicTree

/-!
# Planning rows

The rows of briefs, versions, decisions, calendar entries and monthly proposals,
the requests of the planning service on them, and what a call finds outside of
these tables.
-/

namespace BlogOps.Planning

open Billing (PolicyValue PolicyFields)

structure ApprovalStage where
  key : String
  name : String
  requiredApprovals : Nat := 1
  approverUserIds : List Uuid := []
  requireMfa : Bool := false
  required_pos : 1 ≤ requiredApprovals
  required_le : requiredApprovals ≤ 20
deriving DecidableEq, Repr

inductive DecisionKind where
  | approve | reject | requestChanges
deriving DecidableEq, Repr

structure ContentBrief where
  id : Uuid
  campaignId : Option Uuid := none
  ideaId : Option Uuid := none
  currentVersionId : Option Uuid := none
  status : BriefStatus := .draft
  approvalStageIndex : Nat := 0
deriving DecidableEq, Repr

structure BriefVersion where
  id : Uuid
  briefId : Uuid
  versionNumber : Nat
  title : String
  approvalStages : List ApprovalStage
  channel : String
  language : String
  snapshotHash : String
deriving DecidableEq, Repr

structure BriefDecision where
  id : Uuid
  briefId : Uuid
  briefVersionId : Uuid
  stageKey : String
  decision : DecisionKind
  fromStatus : BriefStatus
  toStatus : BriefStatus
  comment : Option String
  decidedBy : Uuid
deriving DecidableEq, Repr

inductive CalendarEntryStatus where
  | planned | confirmed | cancelled | published
deriving DecidableEq, Repr

structure CalendarWarning where
  kind : ConflictKind
  resolution : CalendarConflictResolution
  workspaceTimezone : String
  requestedAt : Int
  resolvedAt : Int
  conflictingEntryIds : List Uuid
  dayCount : Nat
deriving DecidableEq, Repr

structure CalendarEntry where
  id : Uuid
  campaignId : Option Uuid
  ideaId : Option Uuid
  briefId : Option Uuid
  briefVersionId : Option Uuid
  recurrenceId : Option Uuid
  titleSnapshot : String
  briefSnapshotHash : Option String
  channel : String
  language : String
  timezone : String
  scheduledAt : Int
  dueAt : Option Int
  status : CalendarEntryStatus
  conflictWarnings : List CalendarWarning
deriving DecidableEq, Repr

structure Campaign where
  id : Uuid
  channels : List String
deriving DecidableEq, Repr

inductive IdeaStatus where
  | suggested | dismissed | promoted
deriving DecidableEq, Repr

structure ContentIdea where
  id : Uuid
  campaignId : Option Uuid
  title : String
  duplicateKey : String
  status : IdeaStatus
deriving DecidableEq, Repr

structure MonthlyPlanItem where
  title : String
  scheduledAt : Int
  timezone : String
  channel : String
  language : String
  briefId : Option Uuid
  keywordClusterId : Option Uuid
  semanticGroupKey : Option String
  searchIntent : String
  assigneeUserIds : List Uuid
  title_nonempty : title ≠ ""
deriving DecidableEq, Repr

inductive ProposalStatus where
  | pendingApproval | approved | rejected
deriving DecidableEq, Repr

structure MonthlyPlanProposal where
  id : Uuid
  campaignId : Option Uuid
  proposedItems : List MonthlyPlanItem
  proposalVersion : Nat
  proposalHash : String
  status : ProposalStatus
deriving DecidableEq, Repr

/-- What other services of planning keep: campaigns, ideas, topics, columns and proposals. -/
structure Catalogue where
  campaigns : List Campaign := []
  ideas : List ContentIdea := []
  topicNodes : List TopicNode := []
  boardColumns : List Uuid := []
  proposals : List MonthlyPlanProposal := []
deriving DecidableEq, Repr

structure PlanningDesk where
  briefs : List ContentBrief := []
  versions : List BriefVersion := []
  decisions : List BriefDecision := []
  entries : List CalendarEntry := []
  catalogue : Catalogue := {}
  nextId : Uuid := 1
deriving DecidableEq, Repr

/-- A brief payload; `rest` are the fields that are only copied to the version and hashed. -/
structure BriefPayload where
  title : String
  approvalStages : List ApprovalStage := []
  channel : String
  language : String := "ko-KR"
  rest : String := ""
  keys_unique : (approvalStages.map (·.key)).Nodup
deriving DecidableEq, Repr

structure AssignmentInput where
  stage : String
  userId : Uuid
deriving DecidableEq, Repr

structure BriefCreate where
  campaignId : Option Uuid := none
  ideaId : Option Uuid := none
  topicNodeId : Option Uuid := none
  boardColumnId : Option Uuid := none
  payload : BriefPayload
  assignments : List AssignmentInput := []
deriving DecidableEq, Repr

structure BriefVersionCreate where
  expectedLockVersion : Nat
  payload : BriefPayload
  assignments : Option (List AssignmentInput) := none
deriving DecidableEq, Repr

structure BriefTransitionRequest where
  expectedLockVersion : Nat
  comment : Option String := none
deriving DecidableEq, Repr

structure BriefDecisionRequest extends BriefTransitionRequest where
  decision : DecisionKind
deriving DecidableEq, Repr

structure CalendarEntryCreate where
  campaignId : Option Uuid := none
  ideaId : Option Uuid := none
  briefId : Option Uuid := none
  title : Option String := none
  channel : String
  language : String := "ko-KR"
  timezone : String := "Asia/Seoul"
  scheduledAt : Int
  dueAt : Option Int := none
  conflictResolution : CalendarConflictResolution := .block
  links_or_title : briefId ≠ none ∨ ideaId ≠ none ∨ title.getD "" ≠ ""
  due_after : ∀ due ∈ dueAt, scheduledAt ≤ due

structure CalendarEntryMove where
  expectedLockVersion : Nat
  scheduledAt : Int
  timezone : String
  conflictResolution : CalendarConflictResolution := .block
deriving DecidableEq, Repr

inductive RecurrenceFrequency where
  | weekly | monthly | seasonal
deriving DecidableEq, Repr

/-- A recurrence request; exception dates are day numbers. -/
structure RecurrenceCreate where
  campaignId : Option Uuid := none
  briefId : Option Uuid := none
  title : Option String := none
  channel : String
  language : String := "ko-KR"
  frequency : RecurrenceFrequency
  interval : Nat := 1
  timezone : String := "Asia/Seoul"
  startsAt : Int
  endsAt : Option Int := none
  exceptionDates : List Int := []
  conflictResolution : CalendarConflictResolution := .block
  interval_pos : 1 ≤ interval
  ends_after : ∀ ends ∈ endsAt, startsAt < ends
  brief_or_title : briefId ≠ none ∨ title.getD "" ≠ ""

structure MonthlyPlanDecision where
  expectedLockVersion : Nat
  expectedProposalVersion : Nat
  expectedProposalHash : String
  conflictResolution : CalendarConflictResolution := .block
deriving DecidableEq, Repr

structure Principal where
  subjectId : Uuid
  authenticationMethod : String
deriving DecidableEq, Repr

structure WorkspacePolicySnapshot where
  generationPolicy : PolicyFields
  generationPolicyHash : String
  approvalPolicy : PolicyFields
  approvalPolicyHash : String
  timezone : String

/-- What a call reads beside the tables of the desk: who calls, the active members, the workspace
policy, the resolved references and the lock versions of the rows. -/
structure PlanningEnv where
  principal : Principal
  isActive : Uuid → Bool
  policy : Except Failure WorkspacePolicySnapshot
  resolved : Except Failure String
  lockVersionOf : Uuid → Nat

/-- How values are read and hashed: `bool(value)`, `int(value)` (`none` where it raises),
`ZoneInfo`, `ApprovalStage.model_validate` (or the name of its error), the snapshot hash of a
brief version, `normalize_topic` and the hash of an idea's identity and intent. -/
class PlanningReaders where
  truthy : PolicyValue → Bool
  int : PolicyValue → Option Int
  zone : String → Option Zone
  stage : PolicyFields → Except String ApprovalStage
  snapshotHash : Nat → BriefPayload → String → WorkspacePolicySnapshot → List ApprovalStage → String
  normalizeTopic : String → String
  identityHash : String → String → String

end BlogOps.Planning
