import BlogOps.IncidentTimeline

/-!
# What a timeline's last hash settles

Each event hash seals the redacted payload of its event with the hash before
it.  Two timelines of one incident with the same last hash therefore agree in
everything that the redaction of the payload lets through.
-/

namespace BlogOps.Operations

open LinkedHistories Security List

theorem kind_value_injective : Function.Injective OperationalIncidentEventKind.value := by
  intro kind other h
  cases kind <;> cases other <;> first | rfl | exact absurd h (by decide +kernel)

theorem state_value_injective : Function.Injective OperationalIncidentState.value := by
  intro state other h
  cases state <;> cases other <;> first | rfl | exact absurd h (by decide +kernel)

section Chains

variable {η : Type} [UnicodeClasses] [IncidentHashes η]

/-- The timelines of an incident that `_append_incident_event` builds from nothing. -/
inductive Built (incidentId : Uuid) : List (OperationalIncidentEvent η) → Prop
  | nil : Built incidentId []
  | append {events after : List (OperationalIncidentEvent η)} (h : Built incidentId events)
      {now : Int} {incident : OperationalIncident} (hid : incident.id = incidentId)
      {actorId : Option Uuid} {kind : OperationalIncidentEventKind}
      {stateAfter : OperationalIncidentState} {safeSummary : String} {refs : List String}
      {evidenceHash : String} {occurredAt : Moment}
      (happend : appendTimelineEvent now incident actorId kind stateAfter safeSummary refs
        evidenceHash occurredAt events = .ok after) : Built incidentId after

def OperationalIncidentEvent.payload (event : OperationalIncidentEvent η) : EventPayload :=
  eventPayload event.incidentId event.sequence event.kind event.stateAfter event.safeSummary
    event.evidenceHash event.occurredAt

structure ChainSound (incidentId : Uuid) (events : List (OperationalIncidentEvent η)) : Prop where
  numbered : events.map (·.sequence) = List.range' 1 events.length
  identity : ∀ event ∈ events, event.incidentId = incidentId
  linked : Linked (·.eventHash) (·.previousEventHash) events
  isSealed : Sealed IncidentHashes.eventHash OperationalIncidentEvent.payload (·.eventHash)
    (·.previousEventHash) events

variable {events other : List (OperationalIncidentEvent η)} {incidentId : Uuid}

theorem Built.sound (h : Built incidentId events) : ChainSound incidentId events := by
  induction h with
  | nil => exact ⟨rfl, fun _ h => (nomatch h), trivial, fun _ h => (nomatch h)⟩
  | @append events after _ now incident hid actorId kind stateAfter safeSummary refs evidenceHash
      occurredAt happend ih =>
    obtain ⟨-, -, rfl⟩ := appendTimelineEvent_ok happend
    refine ⟨?_, ?_, ?_, ?_⟩
    · rw [map_append, ih.numbered, length_append, length_singleton,
        List.range'_concat, map_singleton]
      simp only [timelineEvent, getLast?_sequence ih.numbered]
      congr 2
      omega
    · intro event hevent
      rcases mem_append.mp hevent with hold | hnew
      · exact ih.identity event hold
      · rw [mem_singleton.mp hnew]
        exact hid
    · exact linkedFrom_concat.mpr ⟨ih.linked, (tip_eq_getLast? _).symm⟩
    · intro event hevent
      rcases mem_append.mp hevent with hold | hnew
      · exact ih.isSealed event hold
      · rw [mem_singleton.mp hnew]
        rfl

omit [IncidentHashes η] in
/-- Capital letters and underscores are left as they are. -/
theorem redactSafeText_capitals {value : String}
    (h : value.toList.all (fun c => c.isUpper || c = '_') = true) : redactSafeText value = value := by
  have hc : ∀ c ∈ value.toList, c.isUpper = true ∨ c = '_' := fun c hc => by
    simpa using all_eq_true.mp h c hc
  refine redactSafeText_plain (fun hmem => ?_) (fun hmem => ?_) fun c hmem => ?_
  · exact absurd (hc _ hmem) (by decide)
  · exact absurd (hc _ hmem) (by decide)
  · have hbounds : 65 ≤ c.val.toNat ∧ c.val.toNat ≤ 95 := by
      rcases hc c hmem with hupper | rfl
      · delta Char.isUpper at hupper
        simp only [decide_eq_true_eq, ge_iff_le, UInt32.le_iff_toNat_le] at hupper
        exact ⟨hupper.1, hupper.2.trans (by decide)⟩
      · decide
    have hascii : c.val < 128 := by
      rw [UInt32.lt_iff_toNat_lt]
      exact lt_of_le_of_lt hbounds.2 (by decide)
    rw [UnicodeClasses.ascii_space c hascii]
    have hblank : c ≠ ' ' := by
      rintro rfl
      exact absurd hbounds.1 (by decide)
    simp only [hblank, decide_false, Bool.false_or, Bool.or_eq_false_iff, Bool.and_eq_false_iff,
      decide_eq_false_iff_not, UInt32.le_iff_toNat_le, not_le]
    have h13 : (13 : UInt32).toNat = 13 := rfl
    have h31 : (31 : UInt32).toNat = 31 := rfl
    omega

theorem redact_kind (kind : OperationalIncidentEventKind) : redactSafeText kind.value = kind.value := by
  cases kind <;> exact redactSafeText_capitals (by decide +kernel)

theorem redact_state (state : OperationalIncidentState) : redactSafeText state.value = state.value := by
  cases state <;> exact redactSafeText_capitals (by decide +kernel)

omit [UnicodeClasses] [IncidentHashes η] in
/-- What is compared of two events. -/
structure EventFacts where
  sequence : Nat
  kind : OperationalIncidentEventKind
  stateAfter : OperationalIncidentState
  safeSummary : String
  evidenceHash : String
  occurredAt : Moment
deriving DecidableEq, Repr

def OperationalIncidentEvent.facts (event : OperationalIncidentEvent η) : EventFacts :=
  ⟨event.sequence, event.kind, event.stateAfter, event.safeSummary, event.evidenceHash, event.occurredAt⟩

def EventFacts.redacted (facts : EventFacts) : EventFacts :=
  { facts with
    safeSummary := redactSafeText facts.safeSummary
    evidenceHash := redactSafeText facts.evidenceHash }

def lastHash (events : List (OperationalIncidentEvent η)) : Option η :=
  events.getLast?.map (·.eventHash)

/-- The timelines have the same length and the same facts, event by event. -/
def Agree (events other : List (OperationalIncidentEvent η)) : Prop :=
  events.map OperationalIncidentEvent.facts = other.map OperationalIncidentEvent.facts

/-- The timelines differ, but only in summaries and evidence hashes that redaction makes equal. -/
structure Confused (events other : List (OperationalIncidentEvent η)) : Prop where
  alike : events.map (·.facts.redacted) = other.map (·.facts.redacted)
  differ : ∃ (i : Nat) (facts facts' : EventFacts),
    (events.map OperationalIncidentEvent.facts)[i]? = some facts ∧
    (other.map OperationalIncidentEvent.facts)[i]? = some facts' ∧
    (facts.safeSummary ≠ facts'.safeSummary ∨ facts.evidenceHash ≠ facts'.evidenceHash)

theorem payload_eq_iff {event other : OperationalIncidentEvent η}
    (hid : event.incidentId = other.incidentId) :
    event.payload = other.payload ↔ event.facts.redacted = other.facts.redacted := by
  unfold OperationalIncidentEvent.payload eventPayload OperationalIncidentEvent.facts EventFacts.redacted
  simp only [redact_kind, redact_state, hid, EventPayload.mk.injEq, EventFacts.mk.injEq, true_and]
  constructor
  · rintro ⟨hsequence, hkind, hstate, hrest⟩
    exact ⟨hsequence, kind_value_injective hkind, state_value_injective hstate, hrest⟩
  · rintro ⟨hsequence, hkind, hstate, hrest⟩
    exact ⟨hsequence, congrArg _ hkind, congrArg _ hstate, hrest⟩

theorem map_payload_eq_iff (h : ∀ event ∈ events, event.incidentId = incidentId)
    (ho : ∀ event ∈ other, event.incidentId = incidentId) :
    events.map OperationalIncidentEvent.payload = other.map OperationalIncidentEvent.payload ↔
      events.map (·.facts.redacted) = other.map (·.facts.redacted) := by
  induction events generalizing other with
  | nil => cases other <;> simp
  | cons event events ih =>
    cases other with
    | nil => simp
    | cons event' other =>
      have hhead : event.incidentId = event'.incidentId :=
        (h event mem_cons_self).trans (ho event' mem_cons_self).symm
      rw [map_cons, map_cons, map_cons, map_cons, List.cons.injEq,
        List.cons.injEq, payload_eq_iff hhead,
        ih (fun e he => h e (mem_cons_of_mem _ he)) fun e he => ho e (mem_cons_of_mem _ he)]

/-- Equal last hashes say that the timelines look alike after redaction, and nothing more. -/
theorem lastHash_eq_iff
    (hhash : ∀ (p : Option η) (b : EventPayload) (q : Option η) (c : EventPayload),
      IncidentHashes.eventHash p b = IncidentHashes.eventHash q c → p = q ∧ b = c)
    (h : ChainSound incidentId events) (ho : ChainSound incidentId other) :
    lastHash events = lastHash other ↔
      events.map (·.facts.redacted) = other.map (·.facts.redacted) := by
  rw [← map_payload_eq_iff h.identity ho.identity]
  unfold lastHash
  rw [← tip_eq_getLast?, ← tip_eq_getLast?]
  exact ⟨contents_eq_of_tip_eq hhash h.linked h.isSealed ho.linked ho.isSealed,
    tip_eq_of_contents_eq h.linked h.isSealed ho.linked ho.isSealed⟩

omit [IncidentHashes η] in
/-- Timelines that look alike after redaction agree unless redaction confuses two texts. -/
theorem agree_iff_not_confused (halike : events.map (·.facts.redacted) = other.map (·.facts.redacted)) :
    Agree events other ↔ ¬ Confused events other := by
  constructor
  · rintro hagree ⟨-, i, facts, facts', hfacts, hfacts', hdiffer⟩
    rw [show events.map OperationalIncidentEvent.facts = _ from hagree, hfacts'] at hfacts
    obtain rfl := Option.some.inj hfacts
    exact hdiffer.elim (absurd rfl) (absurd rfl)
  · intro hconfused
    have hlength : events.length = other.length := by simpa using congrArg List.length halike
    refine ext_getElem (by simpa using hlength) fun i hi hi' => ?_
    by_contra hne
    rw [length_map] at hi hi'
    refine hconfused ⟨halike, i, events[i].facts, other[i].facts, by simp [hi], by simp [hi'], ?_⟩
    have hred : (events[i].facts).redacted = (other[i].facts).redacted := by
      have hget := congrArg (fun l => l[i]?) halike
      simpa [hi, hi'] using hget
    simp only [getElem_map] at hne
    by_contra hsame
    obtain ⟨hsummary, hhash⟩ := not_or.mp hsame
    refine hne ?_
    simp only [EventFacts.redacted, EventFacts.mk.injEq] at hred
    have hall : ∀ f g : EventFacts, f.sequence = g.sequence → f.kind = g.kind →
        f.stateAfter = g.stateAfter → f.safeSummary = g.safeSummary →
        f.evidenceHash = g.evidenceHash → f.occurredAt = g.occurredAt → f = g := by
      rintro ⟨⟩ ⟨⟩ rfl rfl rfl rfl rfl rfl
      rfl
    exact hall _ _ hred.1 hred.2.1 hred.2.2.1 (not_not.mp hsummary) (not_not.mp hhash) hred.2.2.2.2.2

/-- Equal last hashes make two timelines of one incident agree exactly when redaction confuses
none of their summaries and evidence hashes. -/
theorem tamper_evident_iff
    (hhash : ∀ (p : Option η) (b : EventPayload) (q : Option η) (c : EventPayload),
      IncidentHashes.eventHash p b = IncidentHashes.eventHash q c → p = q ∧ b = c)
    {incidentId : Uuid} {events other : List (OperationalIncidentEvent η)}
    (h : Built incidentId events) (ho : Built incidentId other) :
    (lastHash events = lastHash other → Agree events other) ↔ ¬ Confused events other := by
  rw [lastHash_eq_iff hhash h.sound ho.sound]
  constructor
  · exact fun himplies hconfused =>
      (agree_iff_not_confused hconfused.alike).mp (himplies hconfused.alike) hconfused
  · exact fun hnot halike => (agree_iff_not_confused halike).mpr hnot

end Chains

attribute [local instance] asciiClasses sampleIncidentHashes

theorem digest_injective (p : Option Digest) (b : EventPayload) (q : Option Digest)
    (c : EventPayload) (h : digest p b = digest q c) : p = q ∧ b = c := by
  cases p <;> cases q <;> cases h <;> exact ⟨rfl, rfl⟩

/-- A hash with eleven digits among its letters. -/
def phoneHash (lastDigit : Char) : String :=
  String.ofList (List.replicate 26 'a' ++ "0101234567".toList ++ [lastDigit] ++ List.replicate 27 'b')

def samplePhoneEvents (lastDigit : Char) : List (OperationalIncidentEvent Digest) :=
  [timelineEvent sampleIncident (some 5) .opened .investigating "down" [] (phoneHash lastDigit)
    { instant := 10 } []]

theorem storable_down : storableEvent (redactSafeText "down") [] = true := by decide +kernel

theorem built_samplePhoneEvents (lastDigit : Char)
    (h : isSha256Hex (phoneHash lastDigit) = true) : Built 1 (samplePhoneEvents lastDigit) := by
  have haccepted : evidenceAccepted 20 sampleIncident.startedAt
      ([] : List (OperationalIncidentEvent Digest)).getLast? (phoneHash lastDigit)
        { instant := 10 } = true := by
    simp only [evidenceAccepted, h, Bool.and_true]
    rfl
  have happend := appendTimelineEvent_of haccepted (some 5) .opened .investigating storable_down
  exact .append .nil rfl happend

theorem phoneHash_hex : isSha256Hex (phoneHash '8') = true ∧ isSha256Hex (phoneHash '9') = true := by
  decide +kernel

theorem redact_phoneHash : redactSafeText (phoneHash '8') = redactSafeText (phoneHash '9') := by
  decide +kernel

/-- An incident that is opened with a summary, and an update of it. -/
def openedTimeline (safeSummary : String) : List (OperationalIncidentEvent Digest) :=
  [timelineEvent sampleIncident (some 5) .opened .investigating safeSummary [] zeroHash
    { instant := 10 } []]

def sampleTimeline (safeSummary : String) : List (OperationalIncidentEvent Digest) :=
  openedTimeline safeSummary ++ [timelineEvent sampleIncident (some 5) .update .monitoring "restarted"
    ["logs/1"] zeroHash { instant := 20 } (openedTimeline safeSummary)]

theorem built_sampleTimeline {safeSummary : String}
    (h : storableEvent (redactSafeText safeSummary) [] = true) : Built 1 (sampleTimeline safeSummary) := by
  have hopened : evidenceAccepted 20 sampleIncident.startedAt
      ([] : List (OperationalIncidentEvent Digest)).getLast? zeroHash { instant := 10 } = true := by
    decide +kernel
  have hupdated : evidenceAccepted 20 sampleIncident.startedAt (openedTimeline safeSummary).getLast?
      zeroHash { instant := 20 } = true := by
    rfl
  have hfirst : Built 1 (openedTimeline safeSummary) :=
    .append .nil rfl (appendTimelineEvent_of hopened (some 5) .opened .investigating h)
  have hrestarted : storableEvent (redactSafeText "restarted") ["logs/1"] = true := by decide +kernel
  exact .append hfirst rfl (appendTimelineEvent_of hupdated (some 5) .update .monitoring hrestarted)

/-- A summary that is changed afterwards does not lead to the last hash. -/
theorem tamper_evident_sample : Built 1 (sampleTimeline "down") ∧ Built 1 (sampleTimeline "up") ∧
    lastHash (sampleTimeline "down") ≠ lastHash (sampleTimeline "up") := by
  have hdown : Built 1 (sampleTimeline "down") := built_sampleTimeline storable_down
  have hup : Built 1 (sampleTimeline "up") := built_sampleTimeline (by decide +kernel)
  have hclear : ¬ Confused (sampleTimeline "down") (sampleTimeline "up") := by
    intro hconfused
    have hfirst := congrArg (fun facts => facts.head?.map (·.safeSummary)) hconfused.alike
    exact absurd hfirst (by decide +kernel)
  refine ⟨hdown, hup, fun hsame => ?_⟩
  have hagree := (tamper_evident_iff digest_injective hdown hup).2 hclear hsame
  have hfirst := congrArg (fun facts => facts.head?.map (·.safeSummary)) hagree
  exact absurd hfirst (by decide +kernel)

/-- Two timelines with different evidence hashes and the same last event hash. -/
theorem phone_hashes_collide : Built 1 (samplePhoneEvents '8') ∧ Built 1 (samplePhoneEvents '9') ∧
      lastHash (samplePhoneEvents '8') = lastHash (samplePhoneEvents '9') ∧
      isSha256Hex (phoneHash '8') = true ∧ isSha256Hex (phoneHash '9') = true ∧
      ¬ Agree (samplePhoneEvents '8') (samplePhoneEvents '9') := by
  refine ⟨built_samplePhoneEvents '8' phoneHash_hex.1, built_samplePhoneEvents '9' phoneHash_hex.2,
    ?_, phoneHash_hex.1, phoneHash_hex.2, fun hagree => ?_⟩
  · simp only [samplePhoneEvents, lastHash, getLast?_singleton, Option.map_some, timelineEvent,
      eventPayload, redact_phoneHash]
  · have hfacts := (List.cons.inj hagree).1
    have hhash : phoneHash '8' = phoneHash '9' := congrArg EventFacts.evidenceHash hfacts
    exact absurd hhash (by decide +kernel)

end BlogOps.Operations
