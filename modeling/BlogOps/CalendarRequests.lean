import BlogOps.BriefRequests

/-!
# Calendar requests

The calendar operations of the planning service: an entry is placed by the
calendar rules of its channel in the workspace, alone, as an occurrence of a
recurrence or as an item of a monthly proposal, and schedules its brief.
-/

namespace BlogOps.Planning

open Billing (PolicyValue PolicyFields)
open KeyedTables TransitionRuns

def civilOfDays (days : Int) : Int × Int × Int := let z := days + 719468
  let era := z / 146097
  let doe := z - era * 146097
  let yoe := (doe - doe / 1460 + doe / 36524 - doe / 146096) / 365
  let doy := doe - (365 * yoe + yoe / 4 - yoe / 100)
  let mp := (5 * doy + 2) / 153
  let month := if mp < 10 then mp + 3 else mp - 9
  (yoe + era * 400 + (if month ≤ 2 then 1 else 0), month, doy - (153 * mp + 2) / 5 + 1)

def daysOfCivil (year month dayOfMonth : Int) : Int :=
  let y := if month ≤ 2 then year - 1 else year
  let era := y / 400
  let yoe := y - era * 400
  let mp := if 2 < month then month - 3 else month + 9
  let doy := (153 * mp + 2) / 5 + dayOfMonth - 1
  era * 146097 + (yoe * 365 + yoe / 4 - yoe / 100 + doy) - 719468

def daysInMonth (year month : Int) : Int :=
  (if month = 12 then daysOfCivil (year + 1) 1 1 else daysOfCivil year (month + 1) 1) -
    daysOfCivil year month 1

def padded (width : Nat) (value : Int) : String :=
  String.ofList (List.replicate (width - (toString value).length) '0') ++ toString value

/-- `date.isoformat()` of a day number. -/
def isoDate (days : Int) : String := let (year, month, dayOfMonth) := civilOfDays days
  padded 4 year ++ "-" ++ padded 2 month ++ "-" ++ padded 2 dayOfMonth

def timezoneInvalid (name : String) : Failure :=
  planningError "TIMEZONE_INVALID" "지원하지 않는 IANA 타임존입니다." 422 [⟨"timezone", name⟩]

def slotUnavailable : Failure := planningError "CALENDAR_SLOT_UNAVAILABLE"
    "자동 분산 범위 안에서 사용 가능한 캘린더 시간을 찾지 못했습니다." 409

def ConflictKind.value : ConflictKind → String
  | .minimumSpacing => "MINIMUM_SPACING"
  | .dailyChannelCapacity => "DAILY_CHANNEL_CAPACITY"

def calendarConflict (conflict : CalendarConflict) (localDate : Int) : Failure :=
  planningError "CALENDAR_CONFLICT" "같은 채널의 일정 간격 또는 현지 일일 한도를 위반합니다." 409
    [⟨"kind", conflict.kind.value⟩,
      ⟨"conflicting_entry_ids", String.intercalate "," (conflict.conflictingEntryIds.map toString)⟩,
      ⟨"workspace_local_date", isoDate localDate⟩]

def calendarIdeaMismatch : Failure := planningError "CALENDAR_IDEA_CAMPAIGN_MISMATCH"
    "캘린더 항목과 아이디어의 캠페인이 일치하지 않습니다." 422

def calendarBriefNotApproved : Failure :=
  planningError "CALENDAR_BRIEF_NOT_APPROVED" "승인된 브리프만 캘린더에 배치할 수 있습니다." 409

def calendarChannelMismatch : Failure := planningError "CALENDAR_BRIEF_CHANNEL_MISMATCH"
    "캘린더의 채널과 언어는 승인된 브리프 버전과 같아야 합니다." 422

def calendarBriefMismatch : Failure := planningError "CALENDAR_BRIEF_CAMPAIGN_MISMATCH"
    "캘린더 항목과 브리프의 캠페인이 일치하지 않습니다." 422

def calendarBriefDuplicate : Failure :=
  planningError "CALENDAR_BRIEF_DUPLICATE" "이 브리프는 이미 활성 캘린더 항목에 배치되어 있습니다." 409

def campaignChannelInvalid : Failure :=
  planningError "CALENDAR_CAMPAIGN_CHANNEL_INVALID" "캠페인에 허용되지 않은 채널입니다." 422

def ideaBriefMismatch : Failure :=
  planningError "CALENDAR_IDEA_BRIEF_MISMATCH" "아이디어와 브리프 연결이 일치하지 않습니다." 422

def recurrenceBriefNotApproved : Failure :=
  planningError "RECURRENCE_BRIEF_NOT_APPROVED" "승인된 브리프만 반복 일정에 연결할 수 있습니다." 409

def recurrenceCampaignMismatch : Failure :=
  planningError "RECURRENCE_CAMPAIGN_MISMATCH" "반복 일정과 브리프의 캠페인이 일치하지 않습니다." 422

def proposalVersionConflict (expected actual : Nat) : Failure :=
  planningError "PROPOSAL_VERSION_CONFLICT" "월간 계획안 버전이 변경되었습니다." 409
    [⟨"expected_proposal_version", toString expected⟩, ⟨"actual_proposal_version", toString actual⟩]

def snapshotHashConflict (resource expected actual : String) : Failure :=
  planningError "SNAPSHOT_HASH_CONFLICT" "대상 스냅샷이 변경되었습니다. 최신 값을 다시 조회해 주세요." 409
    [⟨"resource", resource⟩, ⟨"expected_hash", expected⟩, ⟨"actual_hash", actual⟩]

def proposalNotPending : Failure :=
  planningError "PROPOSAL_NOT_PENDING" "승인 대기 중인 월간 계획안만 승인할 수 있습니다." 409

section Readers

variable [PlanningReaders]

def zoneOf (name : String) : Except Failure Zone :=
  match PlanningReaders.zone name with
  | some zone => .ok zone
  | none => .error (timezoneInvalid name)

def boundedInt (value : PolicyValue) (default minimum maximum : Int) : Int :=
  min (max ((PlanningReaders.int value).getD default) minimum) maximum

def calendarPolicy (policy : PolicyFields) : PolicyFields :=
  match policyGet policy "calendar" (.object []) with
  | .object fields => fields
  | _ => []

def calendarRules (policy : PolicyFields) (zone : Zone) : CalendarRules where
  minimumSpacing := minute * boundedInt
    (policyGet (calendarPolicy policy) "minimum_spacing_minutes"
      (policyGet policy "minimum_calendar_spacing_minutes" (.int 60))) 60 0 43200
  maximumPerLocalDay := (boundedInt
    (policyGet (calendarPolicy policy) "maximum_per_channel_per_local_day"
      (policyGet policy "maximum_calendar_items_per_day" (.int 3))) 3 1 1000).toNat
  zone := zone

variable (s : PlanningDesk)

/-- `calendar_entries_for_channel`. -/
def entriesForChannel (channel : String) (startsAt endsAt : Int) (excludingId : Option Uuid) :
    List CalendarEntry :=
  (s.entries.filter fun entry => entry.channel = channel ∧ startsAt ≤ entry.scheduledAt ∧
    entry.scheduledAt < endsAt ∧ entry.status ≠ .cancelled ∧
    some entry.id ≠ excludingId).mergeSort fun a b => a.scheduledAt ≤ b.scheduledAt

variable (entry : CalendarEntry)

def CalendarEntry.slot : CalendarSlot := ⟨entry.id, entry.scheduledAt⟩

/-- The slots that a placement looks at. -/
def windowSlots (channel : String) (requested : Int) (excludingId : Option Uuid) : List CalendarSlot :=
  (entriesForChannel s channel (requested - 32 * day) (requested + 32 * day)
    excludingId).map CalendarEntry.slot

def conflictWarnings (policy : WorkspacePolicySnapshot) (requested scheduled : Int)
    (resolution : CalendarConflictResolution) (conflict : Option CalendarConflict) : List CalendarWarning :=
  conflict.toList.map fun conflict => {
    kind := conflict.kind
    resolution := resolution
    workspaceTimezone := policy.timezone
    requestedAt := requested
    resolvedAt := scheduled
    conflictingEntryIds := conflict.conflictingEntryIds
    dayCount := conflict.dayCount }

/-- The rest of `_resolve_calendar_time` once the slot is resolved. -/
def settledSlot (rules : CalendarRules) (policy : WorkspacePolicySnapshot) (requested : Int)
    (resolution : CalendarConflictResolution) :
    Option (Int × Option CalendarConflict) → Except Failure (Int × List CalendarWarning)
  | none => .error slotUnavailable
  | some (scheduled, conflict) =>
    match conflict, resolution with
    | some conflict, .block =>
      .error (calendarConflict conflict (rules.zone.localDate requested))
    | conflict, resolution =>
      .ok (scheduled, conflictWarnings policy requested scheduled resolution conflict)

def resolveCalendarTime (policy : WorkspacePolicySnapshot) (channel : String) (requested : Int)
    (displayTimezone : String) (resolution : CalendarConflictResolution) (excludingId : Option Uuid) :
    Except Failure (Int × List CalendarWarning) := do
  let _ ← zoneOf displayTimezone
  let zone ← zoneOf policy.timezone
  let rules := calendarRules policy.generationPolicy zone
  settledSlot rules policy requested resolution
    (resolveCalendarSlot rules requested (windowSlots s channel requested excludingId) resolution)

variable (campaignId : Option Uuid)

/-- An entry takes the campaign of what it refers to, and cannot have another one. -/
def linkCampaign (linked : Option Uuid) (mismatch : Failure) : Except Failure (Option Uuid) :=
  match campaignId with
  | none => .ok linked
  | some id =>
    if linked ≠ none ∧ linked ≠ some id then .error mismatch else .ok (some id)

def linkIdea : Option ContentIdea → Except Failure (Option Uuid)
  | none => .ok campaignId
  | some idea => linkCampaign campaignId idea.campaignId calendarIdeaMismatch

def liveEntries (briefId : Uuid) : List CalendarEntry :=
  s.entries.filter fun entry => entry.briefId = some briefId ∧ entry.status ≠ .cancelled

/-- The checks on the brief of an entry; the answer is its version and the entry's campaign. -/
def linkBrief (data : CalendarEntryCreate) (allowRepeatedBrief : Bool) (campaignId : Option Uuid)
    (brief : ContentBrief) : Except Failure (BriefVersion × Option Uuid) := do
  require (brief.status = .approved ∨ brief.status = .scheduled) calendarBriefNotApproved
  let version ← requiredVersion s brief "캘린더에 연결할 브리프 버전이 없습니다."
  require (data.channel = version.channel ∧ data.language = version.language) calendarChannelMismatch
  let campaignId ← linkCampaign campaignId brief.campaignId calendarBriefMismatch
  require (allowRepeatedBrief = true ∨ liveEntries s brief.id = []) calendarBriefDuplicate
  .ok (version, campaignId)

def linkOptionalBrief (data : CalendarEntryCreate) (allowRepeatedBrief : Bool) (campaignId : Option Uuid) :
    Option ContentBrief → Except Failure (Option BriefVersion × Option Uuid)
  | none => .ok (none, campaignId)
  | some brief =>
    (linkBrief s data allowRepeatedBrief campaignId brief).map fun linked =>
      (some linked.1, linked.2)

def campaignTakesChannel (channel : String) : Except Failure Unit := do
  match ← optional (campaignOf s) campaignId with
  | none => .ok ()
  | some campaign => require (channel ∈ campaign.channels) campaignChannelInvalid

def ideaTakesBrief (idea : Option ContentIdea) (brief : Option ContentBrief) : Except Failure Unit :=
  match idea, brief with
  | some idea, some brief =>
    require (brief.ideaId = none ∨ brief.ideaId = some idea.id) ideaBriefMismatch
  | _, _ => .ok ()

def titleSnapshot (version : Option BriefVersion) (idea : Option ContentIdea)
    (title : Option String) : Except Failure String :=
  match version, idea, title with
  | some version, _, _ => .ok version.title
  | none, some idea, _ => .ok idea.title
  | none, none, some title => .ok title
  | none, none, none => .error .assertionError

/-- The placement of an entry: it is inserted and an approved brief becomes scheduled. -/
def placeEntry (brief : Option ContentBrief) : Except Failure PlanningDesk :=
  let placed := { s with entries := s.entries ++ [entry], nextId := s.nextId + 1 }
  match brief with
  | none => .ok placed
  | some brief =>
    if brief.status = .approved then
      match transitionBriefStatus .approved .schedule with
      | none => .error .validationError
      | some status => .ok { placed with
          briefs := updateRow (·.id) brief.id ({ · with status := status }) placed.briefs }
    else .ok placed

def newEntry (id : Uuid) (data : CalendarEntryCreate) (recurrenceId : Option Uuid)
    (version : Option BriefVersion) (campaignId : Option Uuid)
    (time : Int × List CalendarWarning) (title : String) : CalendarEntry where
  id := id
  campaignId := campaignId
  ideaId := data.ideaId
  briefId := data.briefId
  briefVersionId := version.map (·.id)
  recurrenceId := recurrenceId
  titleSnapshot := title
  briefSnapshotHash := version.map (·.snapshotHash)
  channel := data.channel
  language := data.language
  timezone := data.timezone
  scheduledAt := time.1
  dueAt := data.dueAt
  status := .planned
  conflictWarnings := time.2

variable (env : PlanningEnv)

def createCalendarEntry (data : CalendarEntryCreate) (recurrenceId : Option Uuid)
    (allowRepeatedBrief : Bool) : Except Failure PlanningDesk := do
  let _ ← optional (campaignOf s) data.campaignId
  let idea ← optional (ideaOf s) data.ideaId
  let ideaCampaign ← linkIdea data.campaignId idea
  let brief ← optional (briefOf s) data.briefId
  let linked ← linkOptionalBrief s data allowRepeatedBrief ideaCampaign brief
  campaignTakesChannel s linked.2 data.channel
  ideaTakesBrief idea brief
  let policy ← env.policy
  let time ← resolveCalendarTime s policy data.channel data.scheduledAt data.timezone
    data.conflictResolution none
  let title ← titleSnapshot linked.1 idea data.title
  placeEntry s (newEntry s.nextId data recurrenceId linked.1 linked.2 time title) brief

def entryOf (id : Uuid) : Except Failure CalendarEntry :=
  findRow s.entries (·.id) id (notFoundError "CALENDAR_ENTRY" "캘린더 항목")

def moveCalendarEntry (entryId : Uuid) (data : CalendarEntryMove) : Except Failure PlanningDesk := do
  let entry ← entryOf s entryId
  assertLock "calendar_entry" data.expectedLockVersion (env.lockVersionOf entry.id)
  require (entry.status ≠ .cancelled ∧ entry.status ≠ .published) (inactiveError "캘린더 항목")
  let policy ← env.policy
  let time ← resolveCalendarTime s policy entry.channel data.scheduledAt data.timezone
    data.conflictResolution (some entry.id)
  .ok { s with entries := updateRow (·.id) entry.id (fun row => { row with
    scheduledAt := time.1
    timezone := data.timezone
    conflictWarnings := time.2 }) s.entries }

/-- The brief of a cancelled entry is approved again when no live entry is left. -/
def releaseBrief (brief : ContentBrief) : Except Failure PlanningDesk :=
  let remaining := (liveEntries s brief.id).filter (·.id ≠ entry.id)
  if brief.status = .scheduled ∧ remaining = [] then
    match transitionBriefStatus .scheduled .unschedule with
    | none => .error .validationError
    | some status => .ok { s with
        briefs := updateRow (·.id) brief.id ({ · with status := status }) s.briefs }
  else .ok s

def releaseOptionalBrief : Except Failure PlanningDesk :=
  match entry.briefId with
  | none => .ok s
  | some briefId => do
    let brief ← briefOf s briefId
    releaseBrief s entry brief

def cancelCalendarEntry (entryId : Uuid) (expectedLockVersion : Nat) : Except Failure PlanningDesk := do
  let entry ← entryOf s entryId
  assertLock "calendar_entry" expectedLockVersion (env.lockVersionOf entry.id)
  let released ← releaseOptionalBrief s entry
  .ok { released with
    entries := updateRow (·.id) entry.id ({ · with status := .cancelled }) released.entries }

/-- A local time: microseconds since the local epoch, and which of two equal times it is. -/
structure LocalTime where
  wall : Int
  fold : Bool
deriving DecidableEq, Repr

def Zone.toLocal (zone : Zone) (instant : Int) : LocalTime := ⟨zone.wall instant, zone.fold instant⟩

def Zone.toUtc (zone : Zone) (time : LocalTime) : Int := time.wall - zone.wallOffset time.wall time.fold

def addLocalMonths (value : LocalTime) (months : Nat) : LocalTime :=
  let (year, month, dayOfMonth) := civilOfDays (value.wall / day)
  let monthIndex := year * 12 + month - 1 + months
  let year := monthIndex / 12
  let month := monthIndex % 12 + 1
  { value with
    wall := daysOfCivil year month (min dayOfMonth (daysInMonth year month)) * day + value.wall % day }

variable (data : RecurrenceCreate)

def nextOccurrence (current : LocalTime) : LocalTime :=
  match data.frequency with
  | .weekly => ⟨current.wall + data.interval * (7 * day), false⟩
  | .monthly => addLocalMonths current data.interval
  | .seasonal => addLocalMonths current (3 * data.interval)

/-- The loop of `_recurrence_times`; every turn takes an occurrence or an exception date. -/
def occurrencesFrom (data : RecurrenceCreate) (ends : Option LocalTime) :
    Nat → Nat → LocalTime → List LocalTime
  | 0, _, _ => []
  | _, 0, _ => []
  | turns + 1, left + 1, current =>
    if ends.any (·.wall < current.wall) then []
    else if current.wall / day ∈ data.exceptionDates then
      occurrencesFrom data ends turns (left + 1) (nextOccurrence data current)
    else current :: occurrencesFrom data ends turns left (nextOccurrence data current)

def maxOccurrences : Nat := 366

/-- `_recurrence_times` as instants. -/
def recurrenceTimes (zone : Zone) : List Int := (occurrencesFrom data (data.endsAt.map zone.toLocal)
    (maxOccurrences + data.exceptionDates.length) maxOccurrences
    (zone.toLocal data.startsAt)).map zone.toUtc

def recurrenceBrief : Except Failure Unit :=
  match data.briefId with
  | none => .ok ()
  | some briefId => do
    let brief ← briefOf s briefId
    require (brief.status = .approved ∨ brief.status = .scheduled) recurrenceBriefNotApproved
    require (data.campaignId = none ∨ brief.campaignId = none ∨ brief.campaignId = data.campaignId)
      recurrenceCampaignMismatch

def occurrenceEntry (scheduledAt : Int) : CalendarEntryCreate where
  campaignId := data.campaignId
  briefId := data.briefId
  title := data.title
  channel := data.channel
  language := data.language
  timezone := data.timezone
  scheduledAt := scheduledAt
  conflictResolution := data.conflictResolution
  links_or_title := data.brief_or_title.imp_right .inr
  due_after := fun _ hdue => by cases hdue

def createOccurrences (env : PlanningEnv) (data : RecurrenceCreate) (recurrenceId : Uuid) :
    PlanningDesk → List Int → Except Failure PlanningDesk
  | s, [] => .ok s
  | s, scheduledAt :: rest => do
    let s ← createCalendarEntry s env (occurrenceEntry data scheduledAt) (some recurrenceId) true
    createOccurrences env data recurrenceId s rest

def createRecurrence : Except Failure PlanningDesk := do
  let _ ← optional (campaignOf s) data.campaignId
  recurrenceBrief s data
  let zone ← zoneOf data.timezone
  createOccurrences env data s.nextId { s with nextId := s.nextId + 1 } (recurrenceTimes data zone)

def proposalOf (id : Uuid) : Except Failure MonthlyPlanProposal :=
  findRow s.catalogue.proposals (·.id) id (notFoundError "MONTHLY_PLAN_PROPOSAL" "월간 계획안")

variable (proposal : MonthlyPlanProposal)

def assertProposalIdentity (data : MonthlyPlanDecision) : Except Failure Unit := do
  require (data.expectedProposalVersion = proposal.proposalVersion)
    (proposalVersionConflict data.expectedProposalVersion proposal.proposalVersion)
  require (data.expectedProposalHash = proposal.proposalHash)
    (snapshotHashConflict "monthly_plan_proposal" data.expectedProposalHash proposal.proposalHash)

variable (item : MonthlyPlanItem)

/-- `idea_duplicate_key` of an item; its title is the primary keyword. -/
def itemDuplicateKey : String :=
  let identity := match item.keywordClusterId, item.semanticGroupKey with
    | some clusterId, _ => "cluster:" ++ toString clusterId
    | none, some key =>
      if key ≠ "" then "semantic:" ++ PlanningReaders.normalizeTopic key
      else "keyword:" ++ PlanningReaders.normalizeTopic item.title
    | none, none => "keyword:" ++ PlanningReaders.normalizeTopic item.title
  PlanningReaders.identityHash identity item.searchIntent

/-- `_find_or_create_proposal_idea`. -/
def findOrCreateIdea : Except Failure (ContentIdea × PlanningDesk) :=
  match s.catalogue.ideas.find? (·.duplicateKey = itemDuplicateKey item) with
  | some idea => .ok (idea, s)
  | none => do
    let _ ← env.resolved
    let idea : ContentIdea := {
      id := s.nextId
      campaignId := proposal.campaignId
      title := item.title
      duplicateKey := itemDuplicateKey item
      status := .suggested }
    .ok (idea, { s with
      catalogue := { s.catalogue with ideas := s.catalogue.ideas ++ [idea] }
      nextId := s.nextId + 1 })

def itemIdea : Except Failure (Option Uuid × PlanningDesk) :=
  if item.briefId = none then
    (findOrCreateIdea s env proposal item).map fun found => (some found.1.id, found.2)
  else .ok (none, s)

def itemEntry (ideaId : Option Uuid) (resolution : CalendarConflictResolution) : CalendarEntryCreate where
  campaignId := proposal.campaignId
  ideaId := ideaId
  briefId := item.briefId
  title := some item.title
  channel := item.channel
  language := item.language
  timezone := item.timezone
  scheduledAt := item.scheduledAt
  conflictResolution := resolution
  links_or_title := .inr (.inr item.title_nonempty)
  due_after := fun _ hdue => by cases hdue

def createItems (env : PlanningEnv) (proposal : MonthlyPlanProposal)
    (resolution : CalendarConflictResolution) :
    PlanningDesk → List MonthlyPlanItem → Except Failure PlanningDesk
  | s, [] => .ok s
  | s, item :: rest => do
    let found ← itemIdea s env proposal item
    let s ← createCalendarEntry found.2 env (itemEntry proposal item found.1 resolution) none false
    createItems env proposal resolution s rest

def approveMonthlyProposal (proposalId : Uuid) (data : MonthlyPlanDecision) :
    Except Failure PlanningDesk := do
  let proposal ← proposalOf s proposalId
  assertLock "monthly_plan_proposal" data.expectedLockVersion (env.lockVersionOf proposal.id)
  assertProposalIdentity proposal data
  require (proposal.status = .pendingApproval) proposalNotPending
  requireActive env (proposal.proposedItems.flatMap (·.assigneeUserIds))
  let s ← createItems env proposal data.conflictResolution s proposal.proposedItems
  .ok { s with catalogue := { s.catalogue with
    proposals := updateRow (·.id) proposal.id ({ · with status := .approved }) s.catalogue.proposals } }

/-- The events that `transition_brief` is called with. -/
inductive BriefCommand where
  | submit | revise | archive
deriving DecidableEq, Repr

def BriefCommand.event : BriefCommand → BriefEvent
  | .submit => .submit
  | .revise => .revise
  | .archive => .archive

/-- The requests on briefs and the calendar. Other requests of the planning service rewrite what
briefs and entries refer to. -/
inductive DeskRequest where
  | createBrief (data : BriefCreate)
  | createBriefVersion (briefId : Uuid) (data : BriefVersionCreate)
  | transitionBrief (briefId : Uuid) (data : BriefTransitionRequest) (command : BriefCommand)
  | decideBrief (briefId : Uuid) (data : BriefDecisionRequest)
  | createCalendarEntry (data : CalendarEntryCreate)
  | createRecurrence (data : RecurrenceCreate)
  | approveMonthlyProposal (proposalId : Uuid) (data : MonthlyPlanDecision)
  | moveCalendarEntry (entryId : Uuid) (data : CalendarEntryMove)
  | cancelCalendarEntry (entryId : Uuid) (expectedLockVersion : Nat)
  | rewriteCatalogue (catalogue : Catalogue)

def performRequest : DeskRequest → Except Failure PlanningDesk
  | .createBrief data => createBrief s env data
  | .createBriefVersion briefId data => createBriefVersion s env briefId data
  | .transitionBrief briefId data command => transitionBrief s env briefId data command.event
  | .decideBrief briefId data => decideBrief s env briefId data
  | .createCalendarEntry data => createCalendarEntry s env data none false
  | .createRecurrence data => createRecurrence s env data
  | .approveMonthlyProposal proposalId data => approveMonthlyProposal s env proposalId data
  | .moveCalendarEntry entryId data => moveCalendarEntry s env entryId data
  | .cancelCalendarEntry entryId expectedLockVersion =>
    cancelCalendarEntry s env entryId expectedLockVersion
  | .rewriteCatalogue catalogue => .ok { s with catalogue := catalogue }

structure DeskAction where
  env : PlanningEnv
  request : DeskRequest

/-- A request that raises is rolled back. -/
def deskStep (action : DeskAction) : PlanningDesk :=
  match performRequest s action.env action.request with
  | .ok after => after
  | .error _ => s

end Readers

end BlogOps.Planning
