import BlogOps.LinkedHistories
import BlogOps.TextRedaction
import BlogOps.TransitionRuns
import Mathlib.Data.List.Chain
import Mathlib.Data.List.TakeWhile

/-!
# The timeline of an incident

`create_incident`, `append_incident_event` and `notify_incident` on one
operational incident, its events in the order of their sequence and the notices
that were delivered.
-/

namespace BlogOps.Operations

open LinkedHistories Security TransitionRuns

inductive OperationalIncidentState where
  | investigating | identified | monitoring | resolved
deriving DecidableEq, Repr

def OperationalIncidentState.value : OperationalIncidentState → String
  | .investigating => "INVESTIGATING"
  | .identified => "IDENTIFIED"
  | .monitoring => "MONITORING"
  | .resolved => "RESOLVED"

inductive OperationalIncidentEventKind where
  | opened | update | mitigation | customerNotice | resolved
deriving DecidableEq, Repr

def OperationalIncidentEventKind.value : OperationalIncidentEventKind → String
  | .opened => "OPENED"
  | .update => "UPDATE"
  | .mitigation => "MITIGATION"
  | .customerNotice => "CUSTOMER_NOTICE"
  | .resolved => "RESOLVED"

def incidentTransitions : OperationalIncidentState → List OperationalIncidentState
  | .investigating => [.identified, .monitoring, .resolved]
  | .identified => [.monitoring, .resolved]
  | .monitoring => [.identified, .resolved]
  | .resolved => []

def ensureIncidentTransition (current target : OperationalIncidentState) : Except Failure Unit :=
  require (target ∈ incidentTransitions current) (securityConflict
    "OPERATIONS_INCIDENT_TRANSITION_INVALID" "운영 장애 상태를 해당 상태로 변경할 수 없습니다.")

/-- An aware datetime: the instant, and the offset in which it is written. -/
structure Moment where
  instant : Int
  utcOffset : Int := 0
deriving DecidableEq, Repr

structure OperationalIncident where
  id : Uuid
  externalRef : String
  title : String
  safeSummary : String
  severity : String
  state : OperationalIncidentState := .investigating
  componentIds : List Uuid
  affectedWorkspaceIds : List Uuid
  startedAt : Int
  identifiedAt : Option Int := none
  resolvedAt : Option Int := none
  runbookVersionId : Uuid
  openedBy : Uuid
deriving DecidableEq, Repr

structure OperationalIncidentEvent (η : Type) where
  incidentId : Uuid
  sequence : Nat
  kind : OperationalIncidentEventKind
  stateAfter : OperationalIncidentState
  actorId : Option Uuid
  safeSummary : String
  evidenceObjectRefs : List String
  evidenceHash : String
  previousEventHash : Option η
  eventHash : η
  occurredAt : Moment
deriving DecidableEq, Repr

structure StatusNotificationEvidence where
  audience : String
  templateVersion : String
  payloadHash : String
  providerMessageRef : String
  evidenceHash : String
  deliveredAt : Int
deriving DecidableEq, Repr

structure OperationalIncidentCreate where
  externalRef : String
  title : String
  safeSummary : String
  severity : String
  componentIds : List Uuid
  affectedWorkspaceIds : List Uuid := []
  startedAt : Moment
  runbookVersionId : Uuid
deriving DecidableEq, Repr

structure OperationalIncidentEventCreate where
  kind : OperationalIncidentEventKind
  stateAfter : OperationalIncidentState
  safeSummary : String
  evidenceObjectRefs : List String := []
  evidenceHash : String
  occurredAt : Moment
deriving DecidableEq, Repr

structure OperationalIncidentNotify where
  audience : String
  templateVersion : String
  /-- The canonical JSON of the payload. -/
  safePayload : String
deriving DecidableEq, Repr

/-- What the notifier says of a published update; a naive delivery time is `none`. -/
structure StatusNotificationResult where
  providerMessageRef : String
  evidenceHash : String
  deliveredAt : Option Moment
deriving DecidableEq, Repr

structure RunbookVersion where
  id : Uuid
  effectiveAt : Int
  retiredAt : Option Int := none
deriving DecidableEq, Repr

/-- The payload of an event after `redact_safe_metadata`. -/
structure EventPayload where
  incidentId : String
  sequence : Nat
  kind : String
  stateAfter : String
  safeSummary : String
  evidenceHash : String
  occurredAt : Moment
deriving DecidableEq, Repr

/-- The hashes over canonical JSON: of an event with the hash before it, of a redacted notice
payload and of a request. -/
class IncidentHashes (η : outParam Type) where
  eventHash : Option η → EventPayload → η
  noticeHash : String → String
  requestHash : OperationalIncidentCreate → String
  /-- `str` of an identity. -/
  uuidText : Uuid → String

structure IncidentDesk (η : Type) where
  incident : OperationalIncident
  events : List (OperationalIncidentEvent η) := []
  notices : List StatusNotificationEvidence := []
deriving DecidableEq, Repr

/-- What is read besides the incident when it is created. -/
structure IncidentCatalogue where
  components : List Uuid
  runbooks : List RunbookVersion

def fiveMinutes : Int := 5 * 60 * 1000000

section Calls

variable {η : Type} [UnicodeClasses] [IncidentHashes η]

def eventPayload (incidentId : Uuid) (sequence : Nat) (kind : OperationalIncidentEventKind)
    (stateAfter : OperationalIncidentState) (safeSummary evidenceHash : String)
    (occurredAt : Moment) : EventPayload where
  incidentId := redactSafeText (IncidentHashes.uuidText incidentId)
  sequence := sequence
  kind := redactSafeText kind.value
  stateAfter := redactSafeText stateAfter.value
  safeSummary := redactSafeText safeSummary
  evidenceHash := redactSafeText evidenceHash
  occurredAt := occurredAt

/-- The evidence that the timeline takes at `now`. -/
def evidenceAccepted (now : Int) (startedAt : Int) (previous : Option (OperationalIncidentEvent η))
    (evidenceHash : String) (occurredAt : Moment) : Bool :=
  startedAt ≤ occurredAt.instant && occurredAt.instant ≤ now + fiveMinutes &&
    previous.all (·.occurredAt.instant ≤ occurredAt.instant) && isSha256Hex evidenceHash

/-- The flush takes the texts of an event. -/
def storableEvent (safeSummary : String) (evidenceObjectRefs : List String) : Bool :=
  storableText safeSummary && evidenceObjectRefs.all storableText

/-- `_append_incident_event`. -/
def appendTimelineEvent (now : Int) (incident : OperationalIncident) (actorId : Option Uuid)
    (kind : OperationalIncidentEventKind) (stateAfter : OperationalIncidentState)
    (safeSummary : String) (evidenceObjectRefs : List String) (evidenceHash : String)
    (occurredAt : Moment) (events : List (OperationalIncidentEvent η)) :
    Except Failure (List (OperationalIncidentEvent η)) := do
  let previous := events.getLast?
  require (evidenceAccepted now incident.startedAt previous evidenceHash occurredAt)
    (unprocessable "OPERATIONS_INCIDENT_EVENT_EVIDENCE_INVALID"
      "운영 장애 타임라인 증거가 올바르지 않습니다.")
  let sequence := previous.elim 1 (·.sequence + 1)
  let previousEventHash := previous.map (·.eventHash)
  let safeSummary := redactSafeText safeSummary
  require (storableEvent safeSummary evidenceObjectRefs) (.integrity "operations_incident_events")
  .ok (events ++ [{
    incidentId := incident.id, sequence, kind, stateAfter, actorId, safeSummary
    evidenceObjectRefs, evidenceHash, previousEventHash
    eventHash := IncidentHashes.eventHash previousEventHash
      (eventPayload incident.id sequence kind stateAfter safeSummary evidenceHash occurredAt)
    occurredAt }])

def createIncident (id : Uuid) (now : Int) (subjectId : Uuid) (catalogue : IncidentCatalogue)
    (data : OperationalIncidentCreate) : Except Failure (IncidentDesk η) := do
  require (data.startedAt.instant ≤ now + fiveMinutes) (unprocessable
    "OPERATIONS_INCIDENT_START_INVALID" "운영 장애 시작 시각은 미래일 수 없습니다.")
  require (∀ component ∈ data.componentIds, component ∈ catalogue.components) (.app {
    code := "INCIDENT_COMPONENT_NOT_FOUND", message := "장애 대상 구성 요소를 찾을 수 없습니다."
    statusCode := 404 })
  require ((catalogue.runbooks.find? (·.id = data.runbookVersionId)).any fun runbook =>
      runbook.effectiveAt ≤ now && runbook.retiredAt.all (now < ·)) (.app {
    code := "RUNBOOK_NOT_FOUND", message := "장애 Runbook을 찾을 수 없습니다.", statusCode := 404 })
  let incident := {
    id, externalRef := data.externalRef, title := data.title
    safeSummary := redactSafeText data.safeSummary, severity := data.severity
    componentIds := data.componentIds.eraseDups
    affectedWorkspaceIds := data.affectedWorkspaceIds.dedup.mergeSort (· ≤ ·)
    startedAt := data.startedAt.instant, runbookVersionId := data.runbookVersionId
    openedBy := subjectId }
  require (storableText data.externalRef ∧ storableText data.title ∧
    storableText (redactSafeText data.safeSummary)) (.integrity "operations_incidents")
  let events ← appendTimelineEvent now incident (some subjectId) .opened .investigating
    (redactSafeText data.safeSummary) [] (IncidentHashes.requestHash data) data.startedAt []
  .ok { incident, events }

/-- The side fields that a request writes on the incident. -/
def updateIncident (data : OperationalIncidentEventCreate) (incident : OperationalIncident) :
    OperationalIncident :=
  { incident with
    state := data.stateAfter
    identifiedAt := if data.stateAfter = .identified then some data.occurredAt.instant
      else incident.identifiedAt
    resolvedAt := if data.stateAfter = .resolved then some data.occurredAt.instant
      else incident.resolvedAt
    safeSummary := redactSafeText data.safeSummary }

/-- The present state is no transition and is not checked. -/
def checkIncidentState (current target : OperationalIncidentState) : Except Failure Unit :=
  if target ≠ current then ensureIncidentTransition current target else .ok ()

def appendIncidentEvent (now : Int) (subjectId : Uuid) (data : OperationalIncidentEventCreate)
    (desk : IncidentDesk η) : Except Failure (IncidentDesk η) := do
  require (data.kind ≠ .opened ∧ (data.kind = .resolved ↔ data.stateAfter = .resolved))
    (unprocessable "OPERATIONS_INCIDENT_EVENT_INVALID"
      "운영 장애 이벤트 유형과 후속 상태가 일치하지 않습니다.")
  checkIncidentState desk.incident.state data.stateAfter
  let incident := updateIncident data desk.incident
  let events ← appendTimelineEvent now incident (some subjectId) data.kind data.stateAfter
    (redactSafeText data.safeSummary) data.evidenceObjectRefs.eraseDups data.evidenceHash
    data.occurredAt desk.events
  require (storableText incident.safeSummary) (.integrity "operations_incidents")
  .ok { desk with incident, events }

def checkNotification (now : Int) (incident : OperationalIncident)
    (result : StatusNotificationResult) : Except Failure Moment :=
  match result.deliveredAt with
  | some deliveredAt => do
    require (incident.startedAt ≤ deliveredAt.instant ∧ deliveredAt.instant ≤ now + fiveMinutes ∧
      result.providerMessageRef ≠ "" ∧ result.providerMessageRef.length ≤ 500 ∧
      isSha256Hex result.evidenceHash) (contractBroken "STATUS_NOTIFICATION_RESULT_INVALID"
        "상태 공지 결과 증거가 올바르지 않습니다.")
    .ok deliveredAt
  | none => .error (contractBroken "STATUS_NOTIFICATION_RESULT_INVALID"
      "상태 공지 결과 증거가 올바르지 않습니다.")

/-- `notify_incident`; `published` is the answer of the notifier, should it be asked. -/
def notifyIncident (now : Int) (subjectId : Uuid) (data : OperationalIncidentNotify)
    (published : Except Failure StatusNotificationResult) (desk : IncidentDesk η) :
    Except Failure (IncidentDesk η) := do
  let payloadHash := IncidentHashes.noticeHash data.safePayload
  require (storableText data.audience ∧ storableText data.templateVersion)
    (.integrity "operations_status_notification_evidence")
  if desk.notices.any fun notice => notice.audience = data.audience &&
      notice.templateVersion = data.templateVersion && notice.payloadHash = payloadHash then
    .ok desk
  else do
    let result ← published
    let deliveredAt ← checkNotification now desk.incident result
    require (storableText result.providerMessageRef)
      (.integrity "operations_status_notification_evidence")
    let events ← appendTimelineEvent now desk.incident (some subjectId) .customerNotice
      desk.incident.state ("status update delivered to " ++ data.audience) [] result.evidenceHash
      deliveredAt desk.events
    .ok { desk with
      events
      notices := desk.notices ++ [{
        audience := data.audience, templateVersion := data.templateVersion, payloadHash
        providerMessageRef := result.providerMessageRef, evidenceHash := result.evidenceHash
        deliveredAt := deliveredAt.instant }] }

end Calls

/-! ## A sound timeline -/

section Soundness

variable {η : Type}

/-- What may come after an event of the timeline. -/
structure Follows (before after : OperationalIncidentEvent η) : Prop where
  later : before.occurredAt.instant ≤ after.occurredAt.instant
  allowed : after.stateAfter ≠ before.stateAfter →
    after.stateAfter ∈ incidentTransitions before.stateAfter

structure TimelineSound (desk : IncidentDesk η) : Prop where
  numbered : desk.events.map (·.sequence) = List.range' 1 desk.events.length
  opened : ∃ first, desk.events.head? = some first ∧ first.kind = .opened
  follows : desk.events.IsChain Follows
  linked : Linked (·.eventHash) (·.previousEventHash) desk.events
  current : ∃ last, desk.events.getLast? = some last ∧ last.stateAfter = desk.incident.state

/-- The events from the first that resolves the incident on. -/
def sinceResolved (events : List (OperationalIncidentEvent η)) : List (OperationalIncidentEvent η) :=
  events.dropWhile (·.stateAfter ≠ .resolved)

/-- After the first event that resolves the incident there are only notices, and `resolved_at`
is the time of that event. -/
def ResolutionFinal (desk : IncidentDesk η) : Prop :=
  ∀ event later, sinceResolved desk.events = event :: later → (∀ e ∈ later, e.kind = .customerNotice) ∧
      desk.incident.resolvedAt = some event.occurredAt.instant

/-- The event may be put at the end of the events. -/
structure NextEvent (events : List (OperationalIncidentEvent η))
    (event : OperationalIncidentEvent η) : Prop where
  sequence : event.sequence = events.getLast?.elim 1 (·.sequence + 1)
  link : event.previousEventHash = events.getLast?.map (·.eventHash)
  later : ∀ last, events.getLast? = some last → last.occurredAt.instant ≤ event.occurredAt.instant

theorem getLast?_sequence {events : List (OperationalIncidentEvent η)}
    (h : events.map (·.sequence) = List.range' 1 events.length) :
    events.getLast?.elim 1 (·.sequence + 1) = events.length + 1 := by
  rcases List.eq_nil_or_concat events with rfl | ⟨earlier, last, rfl⟩
  · rfl
  · rw [List.concat_eq_append] at h ⊢
    rw [List.map_append, List.length_append, List.length_singleton, List.range'_concat] at h
    have hlast := (List.append_inj' h rfl).2
    simp only [List.map_singleton, List.cons.injEq, and_true] at hlast
    simp only [List.getLast?_concat, Option.elim_some, hlast, List.length_append, List.length_singleton]
    omega

section

variable {desk : IncidentDesk η} (h : TimelineSound desk)

include h

theorem TimelineSound.append_event {event : OperationalIncidentEvent η}
    (hnext : NextEvent desk.events event) {incident : OperationalIncident}
    (hstate : event.stateAfter = incident.state)
    (hallowed : event.stateAfter ≠ desk.incident.state →
      event.stateAfter ∈ incidentTransitions desk.incident.state)
    (notices : List StatusNotificationEvidence) :
    TimelineSound { incident, events := desk.events ++ [event], notices } := by
  obtain ⟨last, hlast, hcurrent⟩ := h.current
  refine ⟨?_, ?_, ?_, ?_, ⟨event, List.getLast?_concat, hstate⟩⟩
  · rw [List.map_append, h.numbered, List.length_append, List.length_singleton,
      List.range'_concat, List.map_singleton, hnext.sequence, getLast?_sequence h.numbered]
    congr 2
    omega
  · obtain ⟨first, hfirst, hkind⟩ := h.opened
    exact ⟨first, by rw [List.head?_append, hfirst]; rfl, hkind⟩
  · refine h.follows.append (.singleton event) ?_
    intro before hbefore after hafter
    obtain rfl : event = after := by simpa using hafter
    obtain rfl : last = before := Option.some.inj (hlast.symm.trans hbefore)
    exact ⟨hnext.later last hlast, hcurrent ▸ hallowed⟩
  · exact linkedFrom_concat.mpr ⟨h.linked, hnext.link.trans (tip_eq_getLast? _).symm⟩

theorem TimelineSound.resolved_of_mem {event : OperationalIncidentEvent η} (hmem : event ∈ desk.events)
    (hresolved : event.stateAfter = .resolved) : desk.incident.state = .resolved := by
  obtain ⟨last, hlast, hcurrent⟩ := h.current
  rw [← hcurrent]
  obtain ⟨before, later, hevents⟩ := List.append_of_mem hmem
  have hchain : (event :: later).IsChain Follows :=
    (hevents ▸ h.follows : (before ++ event :: later).IsChain Follows).right_of_append
  have hend : (event :: later).getLast? = some last := by
    rw [hevents, List.getLast?_append] at hlast
    cases hsome : (event :: later).getLast? with
    | none => simp at hsome
    | some found =>
      rw [hsome] at hlast
      exact hlast
  clear hevents hmem hlast
  induction later generalizing event with
  | nil =>
    cases hend
    exact hresolved
  | cons next later ih =>
    have hfollows := (List.isChain_cons_cons.mp hchain).1
    have hnext : next.stateAfter = .resolved := by
      by_contra hother
      have hallowed := hfollows.allowed (hresolved ▸ hother)
      rw [hresolved] at hallowed
      cases hallowed
    exact ih hnext (List.isChain_cons_cons.mp hchain).2 (by simpa using hend)

theorem sinceResolved_eq_nil : sinceResolved desk.events = [] ↔ desk.incident.state ≠ .resolved := by
  unfold sinceResolved
  rw [List.dropWhile_eq_nil_iff]
  constructor
  · intro hnone hresolved
    obtain ⟨last, hlast, hcurrent⟩ := h.current
    have hother := hnone last (List.mem_of_getLast? hlast)
    simp [hcurrent, hresolved] at hother
  · intro hopen event hevent
    exact decide_eq_true fun hresolved => hopen (h.resolved_of_mem hevent hresolved)

end

theorem sinceResolved_append (events : List (OperationalIncidentEvent η))
    (event : OperationalIncidentEvent η) : sinceResolved (events ++ [event]) =
      if sinceResolved events = [] then sinceResolved [event]
      else sinceResolved events ++ [event] := by
  unfold sinceResolved
  rw [List.dropWhile_append]
  simp only [List.isEmpty_iff]

end Soundness

/-! ## What the calls append -/

section Steps

variable {η : Type} [UnicodeClasses] [IncidentHashes η]

/-- The event that an accepted call writes. -/
def timelineEvent (incident : OperationalIncident) (actorId : Option Uuid)
    (kind : OperationalIncidentEventKind) (stateAfter : OperationalIncidentState) (safeSummary : String)
    (evidenceObjectRefs : List String) (evidenceHash : String) (occurredAt : Moment)
    (events : List (OperationalIncidentEvent η)) : OperationalIncidentEvent η :=
  let sequence := events.getLast?.elim 1 (·.sequence + 1)
  let previousEventHash := events.getLast?.map (·.eventHash)
  let safeSummary := redactSafeText safeSummary
  { incidentId := incident.id, sequence, kind, stateAfter, actorId, safeSummary
    evidenceObjectRefs, evidenceHash, previousEventHash
    eventHash := IncidentHashes.eventHash previousEventHash
      (eventPayload incident.id sequence kind stateAfter safeSummary evidenceHash occurredAt)
    occurredAt }

section

variable {now : Int} {incident : OperationalIncident} {evidenceHash : String} {occurredAt : Moment}
    {events : List (OperationalIncidentEvent η)}

theorem appendTimelineEvent_of
    (h : evidenceAccepted now incident.startedAt events.getLast? evidenceHash occurredAt = true)
    (actorId : Option Uuid) (kind : OperationalIncidentEventKind)
    (stateAfter : OperationalIncidentState) {safeSummary : String} {refs : List String}
    (hstored : storableEvent (redactSafeText safeSummary) refs = true) :
    appendTimelineEvent now incident actorId kind stateAfter safeSummary refs evidenceHash
      occurredAt events = .ok (events ++ [timelineEvent incident actorId kind stateAfter safeSummary
        refs evidenceHash occurredAt events]) :=
  (bind_of_ok (require_of h _) _).trans (bind_of_ok (require_of hstored _) _)

theorem appendTimelineEvent_ok {actorId : Option Uuid} {kind : OperationalIncidentEventKind}
    {stateAfter : OperationalIncidentState} {safeSummary : String} {refs : List String}
    {after : List (OperationalIncidentEvent η)}
    (h : appendTimelineEvent now incident actorId kind stateAfter safeSummary refs evidenceHash
      occurredAt events = .ok after) :
    evidenceAccepted now incident.startedAt events.getLast? evidenceHash occurredAt = true ∧
      storableEvent (redactSafeText safeSummary) refs = true ∧
      after = events ++ [timelineEvent incident actorId kind stateAfter safeSummary refs
        evidenceHash occurredAt events] := by
  obtain ⟨_, haccepted, h⟩ := bind_ok h
  obtain ⟨_, hstored, h⟩ := bind_ok h
  exact ⟨require_ok haccepted, require_ok hstored, (Except.ok.inj h).symm⟩

theorem nextEvent_timelineEvent {startedAt : Int}
    (h : evidenceAccepted now startedAt events.getLast? evidenceHash occurredAt = true)
    (actorId : Option Uuid) (kind : OperationalIncidentEventKind)
    (stateAfter : OperationalIncidentState) (safeSummary : String) (refs : List String) :
    NextEvent events (timelineEvent incident actorId kind stateAfter safeSummary refs evidenceHash
      occurredAt events) := by
  refine ⟨rfl, rfl, fun last hlast => ?_⟩
  simp only [evidenceAccepted, Bool.and_eq_true] at h
  have hlater := h.1.2
  rw [hlast] at hlater
  exact of_decide_eq_true hlater

end

theorem timelineSound_created {id : Uuid} {now : Int} {subjectId : Uuid}
    {catalogue : IncidentCatalogue} {data : OperationalIncidentCreate} {desk : IncidentDesk η}
    (h : createIncident id now subjectId catalogue data = .ok desk) :
    TimelineSound desk ∧ desk.incident.state = .investigating := by
  obtain ⟨_, _, h⟩ := bind_ok h
  obtain ⟨_, _, h⟩ := bind_ok h
  obtain ⟨_, _, h⟩ := bind_ok h
  obtain ⟨_, _, h⟩ := bind_ok h
  obtain ⟨events, hevents, h⟩ := bind_ok h
  obtain ⟨-, -, rfl⟩ := appendTimelineEvent_ok hevents
  cases h
  exact ⟨⟨rfl, ⟨_, rfl, rfl⟩, .singleton _, ⟨rfl, trivial⟩, ⟨_, rfl, rfl⟩⟩, rfl⟩

inductive IncidentAction where
  | append (now : Int) (subjectId : Uuid) (data : OperationalIncidentEventCreate)
  | notify (now : Int) (subjectId : Uuid) (data : OperationalIncidentNotify)
      (published : Except Failure StatusNotificationResult)

variable (desk : IncidentDesk η)

def performIncident : IncidentAction → Except Failure (IncidentDesk η)
  | .append now subjectId data => appendIncidentEvent now subjectId data desk
  | .notify now subjectId data published => notifyIncident now subjectId data published desk

def incidentStep (action : IncidentAction) : IncidentDesk η :=
  match performIncident desk action with
  | .ok after => after
  | .error _ => desk

/-- The database stores the summary, redacted once and twice, and the references. -/
def storableUpdate (data : OperationalIncidentEventCreate) : Bool :=
  storableEvent (redactSafeText (redactSafeText data.safeSummary)) data.evidenceObjectRefs.eraseDups &&
    storableText (redactSafeText data.safeSummary)

/-- A request with evidence that the timeline takes, in texts that the database takes, resolves an
incident that is resolved. -/
def ResolvesAgain : IncidentAction → Prop
  | .append now _ data => desk.incident.state = .resolved ∧ data.kind = .resolved ∧
      data.stateAfter = .resolved ∧ evidenceAccepted now desk.incident.startedAt
        desk.events.getLast? data.evidenceHash data.occurredAt = true ∧ storableUpdate data = true
  | .notify _ _ _ _ => False

/-- What an accepted action does. -/
inductive IncidentChange (desk : IncidentDesk η) (action : IncidentAction) :
    IncidentDesk η → Prop
  | unchanged (hkeeps : ¬ ResolvesAgain desk action) : IncidentChange desk action desk
  | noticed (event : OperationalIncidentEvent η) (notices : List StatusNotificationEvidence)
      (hnext : NextEvent desk.events event) (hkind : event.kind = .customerNotice)
      (hstate : event.stateAfter = desk.incident.state) (hkeeps : ¬ ResolvesAgain desk action) :
      IncidentChange desk action { desk with events := desk.events ++ [event], notices }
  | appended (data : OperationalIncidentEventCreate) (event : OperationalIncidentEvent η)
      (hnext : NextEvent desk.events event) (hkind : event.kind = data.kind)
      (hstate : event.stateAfter = data.stateAfter)
      (htime : event.occurredAt = data.occurredAt)
      (hresolved : data.kind = .resolved ↔ data.stateAfter = .resolved)
      (hallowed : data.stateAfter ≠ desk.incident.state →
        data.stateAfter ∈ incidentTransitions desk.incident.state)
      (hagain : ResolvesAgain desk action ↔
        desk.incident.state = .resolved ∧ data.stateAfter = .resolved) :
      IncidentChange desk action
        { desk with incident := updateIncident data desk.incident, events := desk.events ++ [event] }

section

variable {now : Int} {subjectId : Uuid} {desk after : IncidentDesk η}

theorem notifyIncident_ok {data : OperationalIncidentNotify}
    {published : Except Failure StatusNotificationResult}
    (h : notifyIncident now subjectId data published desk = .ok after) :
    IncidentChange desk (.notify now subjectId data published) after := by
  obtain ⟨_, _, h⟩ := bind_ok h
  split at h
  · cases h
    exact .unchanged id
  · obtain ⟨result, _, h⟩ := bind_ok h
    obtain ⟨deliveredAt, _, h⟩ := bind_ok h
    obtain ⟨_, _, h⟩ := bind_ok h
    obtain ⟨events, hevents, h⟩ := bind_ok h
    obtain ⟨haccepted, -, rfl⟩ := appendTimelineEvent_ok hevents
    cases h
    exact .noticed _ _ (nextEvent_timelineEvent haccepted _ _ _ _ _) rfl rfl id

theorem appendIncidentEvent_ok {data : OperationalIncidentEventCreate}
    (h : appendIncidentEvent now subjectId data desk = .ok after) :
    IncidentChange desk (.append now subjectId data) after := by
  obtain ⟨_, hkinds, h⟩ := bind_ok h
  obtain ⟨_, hstates, h⟩ := bind_ok h
  obtain ⟨events, hevents, h⟩ := bind_ok h
  obtain ⟨_, hsummary, h⟩ := bind_ok h
  obtain ⟨haccepted, hevent, rfl⟩ := appendTimelineEvent_ok hevents
  cases h
  have hstored : storableUpdate data = true := Bool.and_eq_true_iff.mpr ⟨hevent, require_ok hsummary⟩
  have hresolved := (require_ok hkinds).2
  refine .appended data _ (nextEvent_timelineEvent haccepted _ _ _ _ _) rfl rfl rfl hresolved ?_ ?_
  · intro hchanges
    unfold checkIncidentState at hstates
    rw [if_pos hchanges] at hstates
    exact require_ok hstates
  · constructor
    · rintro ⟨hstate, _, hafter, _⟩
      exact ⟨hstate, hafter⟩
    · rintro ⟨hstate, hafter⟩
      exact ⟨hstate, hresolved.mpr hafter, hafter, haccepted, hstored⟩

end

/-- A request that is turned away resolves nothing again. -/
theorem not_resolvesAgain_of_error {desk : IncidentDesk η} {action : IncidentAction} {failure : Failure}
    (h : performIncident desk action = .error failure) : ¬ ResolvesAgain desk action := by
  cases action with
  | notify now subjectId data published => exact id
  | append now subjectId data =>
    rintro ⟨hstate, hkind, hafter, haccepted, hstored⟩
    have hok : performIncident desk (.append now subjectId data) = .ok
        { desk with
          incident := updateIncident data desk.incident
          events := desk.events ++ [timelineEvent (updateIncident data desk.incident)
            (some subjectId) data.kind data.stateAfter (redactSafeText data.safeSummary)
            data.evidenceObjectRefs.eraseDups data.evidenceHash data.occurredAt desk.events] } := by
      have hsame : checkIncidentState desk.incident.state data.stateAfter = .ok () :=
        if_neg (not_not.mpr (hafter.trans hstate.symm))
      obtain ⟨hevent, hsummary⟩ := Bool.and_eq_true_iff.mp hstored
      have htaken : evidenceAccepted now (updateIncident data desk.incident).startedAt
          desk.events.getLast? data.evidenceHash data.occurredAt = true := haccepted
      unfold performIncident appendIncidentEvent
      simp only
      rw [bind_of_ok (require_of ⟨by simp [hkind], by simp [hkind, hafter]⟩ _), bind_of_ok hsame,
        bind_of_ok (appendTimelineEvent_of htaken _ _ _ hevent)]
      exact bind_of_ok (require_of hsummary _) _
    cases h.symm.trans hok

theorem incidentChange_step (action : IncidentAction) :
    IncidentChange desk action (incidentStep desk action) := by
  unfold incidentStep
  split
  · rename_i after h
    cases action with
    | append now subjectId data => exact appendIncidentEvent_ok h
    | notify now subjectId data published => exact notifyIncident_ok h
  · rename_i failure h
    exact .unchanged (not_resolvesAgain_of_error h)

theorem timelineSound_step {desk : IncidentDesk η} (action : IncidentAction)
    (h : TimelineSound desk) : TimelineSound (incidentStep desk action) := by
  have hchange := incidentChange_step desk action
  generalize incidentStep desk action = after at hchange ⊢
  cases hchange with
  | unchanged hkeeps => exact h
  | noticed event notices hnext hkind hstate hkeeps =>
    exact h.append_event hnext hstate (fun hother => absurd hstate hother) notices
  | appended data event hnext hkind hstate htime hresolved hallowed hagain =>
    refine h.append_event hnext hstate (fun hother => ?_) desk.notices
    rw [hstate] at hother ⊢
    exact hallowed hother

theorem resolutionFinal_step {desk : IncidentDesk η} (hsound : TimelineSound desk)
    (hfinal : ResolutionFinal desk) (action : IncidentAction) :
    ResolutionFinal (incidentStep desk action) ↔ ¬ ResolvesAgain desk action := by
  have hchange := incidentChange_step desk action
  generalize incidentStep desk action = after at hchange ⊢
  cases hchange with
  | unchanged hkeeps => exact iff_of_true hfinal hkeeps
  | noticed event notices hnext hkind hstate hkeeps =>
    refine iff_of_true ?_ hkeeps
    intro first later hsince
    rw [sinceResolved_append] at hsince
    split_ifs at hsince with hnone
    · -- no event resolved the incident, and a notice keeps its state
      have hopen := (sinceResolved_eq_nil hsound).mp hnone
      rw [← hstate] at hopen
      simp [sinceResolved, hopen] at hsince
    · obtain ⟨first', later', hdrop⟩ := List.exists_cons_of_ne_nil hnone
      rw [hdrop] at hsince
      obtain ⟨rfl, rfl⟩ := List.cons.inj hsince
      obtain ⟨hlater, hat⟩ := hfinal first' later' hdrop
      refine ⟨fun e he => ?_, hat⟩
      rcases List.mem_append.mp he with he | he
      · exact hlater e he
      · rw [List.mem_singleton.mp he]
        exact hkind
  | appended data event hnext hkind hstate htime hresolved hallowed hagain =>
    rw [hagain]
    by_cases hopen : desk.incident.state = .resolved
    · -- the transition check lets only the resolved state through, with its own kind
      have hafter : data.stateAfter = .resolved := by
        by_contra hother
        have hallowed := hallowed (hopen ▸ hother)
        rw [hopen] at hallowed
        cases hallowed
      refine iff_of_false (fun hfinal' => ?_) (not_not.mpr ⟨hopen, hafter⟩)
      have hsome := mt (sinceResolved_eq_nil hsound).mp (not_not.mpr hopen)
      obtain ⟨first, later, hdrop⟩ := List.exists_cons_of_ne_nil hsome
      have hsince : sinceResolved (desk.events ++ [event]) = first :: (later ++ [event]) := by
        rw [sinceResolved_append, if_neg hsome, hdrop]
        rfl
      have hnotice := (hfinal' first (later ++ [event]) hsince).1 event (by simp)
      rw [hkind, hresolved.mpr hafter] at hnotice
      cases hnotice
    · refine iff_of_true ?_ fun hboth => hopen hboth.1
      intro first later hsince
      rw [sinceResolved_append, if_pos ((sinceResolved_eq_nil hsound).mpr hopen)] at hsince
      unfold sinceResolved at hsince
      by_cases hafter : data.stateAfter = .resolved
      · rw [List.dropWhile_cons_of_neg (by simp [hstate, hafter])] at hsince
        obtain ⟨rfl, rfl⟩ := List.cons.inj hsince
        refine ⟨fun e he => (nomatch he), ?_⟩
        simp [updateIncident, hafter, htime]
      · rw [List.dropWhile_cons_of_pos (by simp [hstate, hafter])] at hsince
        cases hsince

/-- Over every run from a created incident its timeline is sound; its resolution is final
throughout exactly when no request resolves it again. -/
theorem incident_history_iff {id : Uuid} {now : Int} {subjectId : Uuid}
    {catalogue : IncidentCatalogue} {data : OperationalIncidentCreate} {desk : IncidentDesk η}
    (hcreated : createIncident id now subjectId catalogue data = .ok desk)
    (actions : List IncidentAction) :
    (∀ before, before <+: actions → TimelineSound (run incidentStep desk before)) ∧
      ((∀ before, before <+: actions → ResolutionFinal (run incidentStep desk before)) ↔
        Along incidentStep (fun desk action => ¬ ResolvesAgain desk action) desk actions) := by
  obtain ⟨hsound, hstate⟩ := timelineSound_created hcreated
  have hfinal : ResolutionFinal desk := by
    intro first later hsince
    rw [(sinceResolved_eq_nil hsound).mpr (by simp [hstate])] at hsince
    cases hsince
  refine ⟨fun before _ => ?_, ?_⟩
  · exact invariant_run (I := TimelineSound) incidentStep (fun _ action => timelineSound_step action)
      hsound before
  · refine throughout_iff_along_of_invariant
      (I := fun desk => TimelineSound desk ∧ ResolutionFinal desk) (R := fun _ _ => True)
      incidentStep (fun _ h => h.2) (fun _ action h _ => resolutionFinal_step h.1 h.2 action) ?_
      ⟨hsound, hfinal⟩ (along_of_always incidentStep (fun _ _ => trivial) desk actions)
    exact fun _ action h _ hkeeps =>
      ⟨timelineSound_step action h.1, (resolutionFinal_step h.1 h.2 action).mpr hkeeps⟩

end Steps

/-! ## An incident resolved twice -/

/-- The digests of a hash without collisions: what was hashed. -/
inductive Digest where
  | first (payload : EventPayload)
  | next (previous : Digest) (payload : EventPayload)
deriving DecidableEq, Repr

def digest : Option Digest → EventPayload → Digest
  | none, payload => .first payload
  | some previous, payload => .next previous payload

/-- Texts of ASCII. -/
abbrev asciiClasses : UnicodeClasses where
  isDigit := Char.isDigit
  isWord c := c.isAlphanum || c = '_'
  isSpace c := c = ' ' || 9 ≤ c.val && c.val ≤ 13 || 28 ≤ c.val && c.val ≤ 31
  ascii_digit _ _ := rfl
  ascii_word _ _ := rfl
  ascii_space _ _ := rfl

def zeroHash : String := String.ofList (List.replicate 64 '0')

abbrev sampleIncidentHashes : IncidentHashes Digest where
  eventHash := digest
  noticeHash := id
  requestHash _ := zeroHash
  uuidText id := toString id

attribute [local instance] asciiClasses sampleIncidentHashes

def sampleCatalogue : IncidentCatalogue where
  components := [4]
  runbooks := [{ id := 6, effectiveAt := 0 }]

def sampleOpening : OperationalIncidentCreate where
  externalRef := "INC"
  title := "outage"
  safeSummary := "down"
  severity := "HIGH"
  componentIds := [4]
  startedAt := { instant := 10 }
  runbookVersionId := 6

def sampleIncident : OperationalIncident where
  id := 1
  externalRef := "INC"
  title := "outage"
  safeSummary := "down"
  severity := "HIGH"
  componentIds := [4]
  affectedWorkspaceIds := []
  startedAt := 10
  runbookVersionId := 6
  openedBy := 5

def sampleDesk : IncidentDesk Digest where
  incident := sampleIncident
  events := [timelineEvent sampleIncident (some 5) .opened .investigating (redactSafeText "down") []
    zeroHash { instant := 10 } []]

def sampleResolution (occurredAt : Int) : IncidentAction := .append 100 5 {
  kind := .resolved
  stateAfter := .resolved
  safeSummary := "fixed"
  evidenceHash := zeroHash
  occurredAt := { instant := occurredAt } }

theorem created_sampleDesk : createIncident 1 20 5 sampleCatalogue sampleOpening = .ok sampleDesk := by
  decide +kernel

/-- The incident is resolved, and its resolution is announced. -/
def announcedResolution : List IncidentAction := [sampleResolution 30,
  .notify 100 5 { audience := "customers", templateVersion := "1", safePayload := "fixed" }
    (.ok { providerMessageRef := "mail", evidenceHash := zeroHash, deliveredAt := some { instant := 40 } })]

theorem incident_history_sample :
    (run incidentStep sampleDesk announcedResolution).events.map (·.kind) =
      [.opened, .resolved, .customerNotice] ∧
    (∀ before, before <+: announcedResolution →
      TimelineSound (run incidentStep sampleDesk before)) ∧
    ∀ before, before <+: announcedResolution →
      ResolutionFinal (run incidentStep sampleDesk before) := by
  obtain ⟨hsound, hfinal⟩ := incident_history_iff created_sampleDesk announcedResolution
  have hopen : sampleDesk.incident.state ≠ .resolved := by decide
  exact ⟨by decide +kernel, hsound, hfinal.2 ⟨fun hagain => hopen hagain.1, id, trivial⟩⟩

/-- The second resolution is taken and moves the time of the first. -/
theorem resolved_twice : createIncident 1 20 5 sampleCatalogue sampleOpening = .ok sampleDesk ∧
      ¬ ResolutionFinal (run incidentStep sampleDesk [sampleResolution 30, sampleResolution 40]) ∧
      (run incidentStep sampleDesk [sampleResolution 30]).incident.resolvedAt = some 30 ∧
      (run incidentStep sampleDesk
        [sampleResolution 30, sampleResolution 40]).incident.resolvedAt = some 40 ∧
      ((run incidentStep sampleDesk [sampleResolution 30, sampleResolution 40]).events.map
        (·.kind)) = [.opened, .resolved, .resolved] := by
  refine ⟨created_sampleDesk, fun hfinal => ?_, by decide +kernel, by decide +kernel, by decide +kernel⟩
  have hsince : ∃ event later, sinceResolved
      (run incidentStep sampleDesk [sampleResolution 30, sampleResolution 40]).events =
        event :: later ∧ later.any (·.kind = .resolved) = true := by
    cases hdrop : sinceResolved
        (run incidentStep sampleDesk [sampleResolution 30, sampleResolution 40]).events with
    | nil =>
      have hlength : (sinceResolved (run incidentStep sampleDesk
        [sampleResolution 30, sampleResolution 40]).events).length = 2 := by decide +kernel
      rw [hdrop] at hlength
      cases hlength
    | cons event later =>
      refine ⟨event, later, rfl, ?_⟩
      have htail : ((sinceResolved (run incidentStep sampleDesk
        [sampleResolution 30, sampleResolution 40]).events).tail.any (·.kind = .resolved)) = true := by
        decide +kernel
      rwa [hdrop] at htail
  obtain ⟨event, later, hdrop, hkind⟩ := hsince
  obtain ⟨e, he, hresolved⟩ := List.any_eq_true.mp hkind
  have hnotice := (hfinal event later hdrop).1 e he
  simp [hnotice] at hresolved

end BlogOps.Operations
