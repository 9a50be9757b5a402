import BlogOps.SyncRequests

/-!
# Facts and their definitions

`record_provider_result` finds the definition of a fact by its source field alone, while
`create_sync` lets one field be chosen for several subjects.  A fact reaches its own metric when
the last definition of its field has its subject.
-/

namespace BlogOps.Analytics

open EffectRules List

def Declares (definition : MetricDefinitionSnapshot) (fact : AnalyticsFactValue) : Prop :=
  definition.sourceField = fact.metricField ∧ definition.subject.value = fact.subject

/-- The last chosen definition of the source field of the fact has its subject. -/
def LastDeclares (definitions : List MetricDefinitionSnapshot) (fact : AnalyticsFactValue) : Prop :=
  ∃ earlier definition later, definitions = earlier ++ definition :: later ∧
    Declares definition fact ∧ ∀ other ∈ later, other.sourceField ≠ fact.metricField

section Definitions

variable [SyncReaders] (s : SyncSession) (d : SyncDelivery) (callId : Uuid)
  (result : AnalyticsFetchResult)

open SyncReaders

/-- A chosen definition declares the fact, whose dimensions are those that its subject needs. -/
def Declared (fact : AnalyticsFactValue) : Prop :=
  ∃ definition ∈ s.snapshot.metricDefinitions, Declares definition fact ∧
    (∃ hash, dimensionsHash fact.dimensions = some hash) ∧
      ∃ target, factTarget s.run.connectionId fact.dimensions definition.subject = .ok target

/-- The row of the fact under one of the definitions that declare it. -/
def DeclaredRow (fact : AnalyticsFactValue) (row : MetricDailyFact) : Prop :=
  ∃ definition ∈ s.snapshot.metricDefinitions, Declares definition fact ∧
    providerFact s.run.connectionId (newCall s callId result) fact definition = .ok row

/-- A result of the contract of a queued run, whose facts are declared and whose rows the database
takes. -/
structure Recordable : Prop where
  queued : s.run.state = .queued
  flushed : s.pending = []
  contract : checkContract s.snapshot result = .ok ()
  call : insertable d.database (newCall s callId result) s = true
  facts : ∀ fact ∈ result.facts, Declared s fact
  rows : ∀ rows, List.Forall₂ (DeclaredRow s callId result) result.facts rows →
    rows.all d.database.takesFact = true ∧ ((s.facts ++ rows).map MetricDailyFact.key).Nodup

def OwnMetric (fact : AnalyticsFactValue) (row : MetricDailyFact) : Prop :=
  row.externalFactId = fact.externalFactId ∧ row.value = fact.value ∧
    ∃ definition ∈ s.snapshot.metricDefinitions, Declares definition fact ∧
      row.metricDefinitionId = definition.id ∧ row.valueKind = definition.valueKind ∧
        row.target.subject = definition.subject

/-- The result is recorded, each fact as one row under its own metric. -/
def RecordsOwnMetrics : Prop :=
  ∃ after rows, recordProviderResult d callId result s = .ok () after ∧
    after.facts = s.facts ++ rows ∧ List.Forall₂ (OwnMetric s) result.facts rows

variable {s d callId result} {fact : AnalyticsFactValue} {row : MetricDailyFact}

omit [SyncReaders] in
theorem definitionOf_some_iff {snapshot : AnalyticsSyncInputSnapshot} {field : String}
    {definition : MetricDefinitionSnapshot} :
    snapshot.definitionOf field = some definition ↔ definition.sourceField = field ∧
      ∃ earlier later, snapshot.metricDefinitions = earlier ++ definition :: later ∧
        ∀ other ∈ later, other.sourceField ≠ field := by
  unfold AnalyticsSyncInputSnapshot.definitionOf
  simp only [find?_eq_some_iff_append, decide_eq_true_eq, reverse_eq_append_iff]
  refine and_congr_right fun _ => ⟨?_, ?_⟩
  · rintro ⟨later, earlier, hsplit, hlater⟩
    exact ⟨earlier.reverse, later.reverse, by simpa using hsplit, by simpa using hlater⟩
  · rintro ⟨earlier, later, hsplit, hlater⟩
    exact ⟨later.reverse, earlier.reverse, by simpa using hsplit, by simpa using hlater⟩

omit [SyncReaders] in
theorem MetricSubject.value_inj {a b : MetricSubject} (h : a.value = b.value) : a = b := by
  cases a <;> cases b <;> first | rfl | exact absurd h (by decide)

theorem factTarget_subject {connectionId : Uuid} {dimensions : Dimensions} {subject : MetricSubject}
    {target : FactTarget} (h : factTarget connectionId dimensions subject = .ok target) :
    target.subject = subject := by
  cases subject <;> try cases h
  · obtain ⟨_, _, h⟩ := bind_ok h
    obtain ⟨_, _, h⟩ := bind_ok h
    cases h
    rfl
  · obtain ⟨_, _, h⟩ := bind_ok h
    cases h
    rfl
  · obtain ⟨_, _, h⟩ := bind_ok h
    obtain ⟨_, _, h⟩ := bind_ok h
    cases h
    rfl

/-- A fact that passes the loop has the row of the last definition of its field. -/
theorem lastDeclares_of_checkFact
    (h : checkFact s.snapshot s.run.connectionId (newCall s callId result) fact = .ok row) :
    LastDeclares s.snapshot.metricDefinitions fact ∧ DeclaredRow s callId result fact row := by
  obtain ⟨definition, hfound, h⟩ := bind_ok h
  obtain ⟨_, hsubject, h⟩ := bind_ok h
  have hsubject : definition.subject.value = fact.subject := require_ok hsubject
  have hfound : s.snapshot.definitionOf fact.metricField = some definition := by
    cases hdefinition : s.snapshot.definitionOf fact.metricField with
    | none => rw [hdefinition] at hfound; cases hfound
    | some found => rw [hdefinition] at hfound; cases hfound; rfl
  obtain ⟨hfield, earlier, later, hsplit, hlater⟩ := definitionOf_some_iff.mp hfound
  exact ⟨⟨earlier, definition, later, hsplit, ⟨hfield, hsubject⟩, hlater⟩,
    definition, by simp [hsplit], ⟨hfield, hsubject⟩, h⟩

theorem checkFact_of_lastDeclares (hdeclared : Declared s fact)
    (h : LastDeclares s.snapshot.metricDefinitions fact) :
    ∃ row, checkFact s.snapshot s.run.connectionId (newCall s callId result) fact = .ok row := by
  obtain ⟨earlier, definition, later, hsplit, ⟨hfield, hsubject⟩, hlater⟩ := h
  obtain ⟨chosen, -, ⟨-, hchosen⟩, ⟨hash, hhash⟩, target, htarget⟩ := hdeclared
  have hfound : s.snapshot.definitionOf fact.metricField = some definition :=
    definitionOf_some_iff.mpr ⟨hfield, earlier, later, hsplit, hlater⟩
  rw [MetricSubject.value_inj (hchosen.trans hsubject.symm)] at htarget
  simp [checkFact, providerFact, hfound, hhash, htarget, ofOption, require_of hsubject, bind_of_ok rfl]

theorem DeclaredRow.ownMetric (h : DeclaredRow s callId result fact row) : OwnMetric s fact row := by
  obtain ⟨definition, hmem, hdeclares, h⟩ := h
  obtain ⟨_, _, h⟩ := bind_ok h
  obtain ⟨target, htarget, h⟩ := bind_ok h
  cases h
  exact ⟨rfl, rfl, definition, hmem, hdeclares, rfl, rfl, factTarget_subject htarget⟩

/-- The session with the call of the result. -/
def withCall (s : SyncSession) (callId : Uuid) (result : AnalyticsFetchResult) : SyncSession :=
  { s with calls := s.calls ++ [newCall s callId result] }

theorem Recordable.run (h : Recordable s d callId result) : recordProviderResult d callId result s = (do
      recordFacts (newCall s callId result) result.facts
      modify (finishRun (newCall s callId result) result)
      flushSync d.database) (withCall s callId result) := by
  have hcontract : liftResult (checkContract s.snapshot result) s = .ok () s := by
    rw [h.contract]
    rfl
  rw [recordProviderResult_queued h.queued, bind_run_ok hcontract, bind_run_ok (addCall_ok h.call)]
  rfl

/-- Every fact of a recordable result is stored under its own metric exactly when the last chosen
definition of its source field has its subject. -/
theorem records_own_metrics_iff (h : Recordable s d callId result) : RecordsOwnMetrics s d callId result ↔
      ∀ fact ∈ result.facts, LastDeclares s.snapshot.metricDefinitions fact := by
  have hfacts := recordFacts_run (newCall s callId result) result.facts (withCall s callId result)
  constructor
  · rintro ⟨after, -, hrun, -⟩ fact hfact
    by_contra hlast
    have hinvalid : ¬ AllValid s.snapshot s.run.connectionId (newCall s callId result)
        result.facts := by
      intro hvalid
      obtain ⟨row, hrow⟩ := hvalid fact hfact
      exact hlast (lastDeclares_of_checkFact hrow).1
    obtain ⟨e, hstopped⟩ := hfacts.2 hinvalid
    rw [h.run] at hrun
    cases hrun.symm.trans (bind_run_error hstopped _)
  · intro hlast
    have hvalid : AllValid s.snapshot s.run.connectionId (newCall s callId result) result.facts :=
      fun fact hfact => checkFact_of_lastDeclares (h.facts fact hfact) (hlast fact hfact)
    have hrows : List.Forall₂ (DeclaredRow s callId result) result.facts
        (validRows s.snapshot s.run.connectionId (newCall s callId result) result.facts) :=
      (rowsOf_validRows hvalid).imp fun _ _ hrow => (lastDeclares_of_checkFact hrow).2
    obtain ⟨htaken, hkeys⟩ := h.rows _ hrows
    have hrun : recordProviderResult d callId result s = flushSync d.database (finishRun
        (newCall s callId result) result (addPending (validRows s.snapshot s.run.connectionId
          (newCall s callId result) result.facts) (withCall s callId result))) := by
      rw [h.run, bind_run_ok (hfacts.1 hvalid), bind_run_ok (modify_run _ _)]
      rfl
    refine ⟨_, _, hrun.trans (flushSync_ok ?_), ?_, hrows.imp fun _ _ hrow => hrow.ownMetric⟩
    · have hpending : (withCall s callId result).pending = [] := h.flushed
      simp only [storable, finishRun, addPending, hpending, nil_append]
      exact Bool.and_eq_true_iff.mpr ⟨htaken, decide_eq_true hkeys⟩
    · simp [SyncSession.store, finishRun, addPending, withCall, h.flushed]

end Definitions

section Samples

attribute [local instance] sampleSyncReaders sampleSyncHashes

/-- The views of a query and those of a channel have one source field. -/
def viewsDesk : SyncDesk :=
  { sampleDesk with definitions :=
      { id := 6
        key := "query_views"
        subject := .query
        valueKind := "OBSERVED"
        sourceProvider := "GHOST"
        sourceField := "views"
        supportedDimensions := ["channel"] } :: sampleDesk.definitions }

def viewsRequest : AnalyticsSyncCreate :=
  { (dayRequest 1 "views").data with
    metricDefinitionIds := [6, 7]
    chosen := cons_ne_nil _ _ }

def viewsSync : SyncSession where
  snapshot := {
    sampleSync.snapshot with
    metricDefinitions := viewsDesk.definitions.map metricSnapshot
    requestHash := "1" }
  run := sampleSync.run

def viewsFact (subject : String) : AnalyticsFactValue :=
  { channelFact "a" [("channel", .text "blog"), ("query", .text "lean")] with subject := subject }

def viewsDelivery : SyncDelivery := sampleDelivery (.error .keyError)

theorem recordable_views (subject : MetricSubject)
    (h : subject ∈ [MetricSubject.query, MetricSubject.channel]) :
    Recordable viewsSync viewsDelivery 100 (sampleResult [viewsFact subject.value]) where
  queued := rfl
  flushed := rfl
  contract := rfl
  call := rfl
  facts fact hfact := by
    obtain rfl : fact = viewsFact subject.value := mem_singleton.mp hfact
    simp only [mem_cons, not_mem_nil, or_false] at h
    rcases h with rfl | rfl
    · exact ⟨_, mem_cons_self, ⟨rfl, rfl⟩, ⟨_, rfl⟩, _, rfl⟩
    · exact ⟨_, mem_cons_of_mem _ mem_cons_self, ⟨rfl, rfl⟩, ⟨_, rfl⟩, _, rfl⟩
  rows rows hrows := by
    obtain _ | ⟨_, _⟩ := hrows
    rename_i hrest
    cases hrest
    simp [viewsSync, viewsDelivery, sampleDelivery]

theorem views_of_channel_recorded : RecordsOwnMetrics viewsSync viewsDelivery 100
    (sampleResult [viewsFact "CHANNEL"]) := by
  refine (records_own_metrics_iff (recordable_views .channel (by simp))).mpr fun fact hfact => ?_
  rw [mem_singleton.mp hfact]
  exact ⟨[_], _, [], rfl, ⟨rfl, rfl⟩, nofun⟩

/-- The definition of the channel, which comes last, refuses the views of a query. -/
theorem views_of_query_refused : inputSnapshot viewsDesk viewsRequest = .ok viewsSync.snapshot ∧
      Recordable viewsSync viewsDelivery 100 (sampleResult [viewsFact "QUERY"]) ∧
        ¬ RecordsOwnMetrics viewsSync viewsDelivery 100 (sampleResult [viewsFact "QUERY"]) := by
  refine ⟨rfl, recordable_views .query (by simp), ?_⟩
  rintro ⟨after, -, hrun, -⟩
  have hrefused : recordProviderResult viewsDelivery 100 (sampleResult [viewsFact "QUERY"])
      viewsSync = .error subjectMismatch _ := rfl
  cases hrefused.symm.trans hrun

end Samples

end BlogOps.Analytics
