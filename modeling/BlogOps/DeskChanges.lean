import BlogOps.CalendarRequests

/-!
# Changes of the planning desk

What an accepted request writes.  An operation on a brief that updates its row
raises when it reads it back, so all that these operations commit is an approval
that completes no stage.  The rows of briefs change with the calendar: a placement
schedules the brief of the entry, and a cancellation releases it.  A recurrence and
a monthly proposal are sequences of placements.
-/

namespace BlogOps.Planning

open Billing (PolicyValue PolicyFields)
open KeyedTables TransitionRuns

theorem findRow_ok {α : Type} {rows : List α} {key : α → Uuid} {id : Uuid} {missing : Failure}
    {row : α} (h : findRow rows key id missing = .ok row) : row ∈ rows ∧ key row = id := by
  unfold findRow at h
  split at h
  · rename_i hfind
    cases h
    exact ⟨List.mem_of_find?_eq_some hfind, by simpa using List.find?_some hfind⟩
  · cases h

theorem optional_some {α : Type} {find : Uuid → Except Failure α} {id : Option Uuid} {found : Option α}
    (h : optional find id = .ok found) : (id = none ∧ found = none) ∨
      ∃ key row, id = some key ∧ find key = .ok row ∧ found = some row := by
  cases id with
  | none =>
    cases h
    exact .inl ⟨rfl, rfl⟩
  | some key =>
    obtain ⟨row, hfind, rfl⟩ := map_ok h
    exact .inr ⟨key, row, rfl, hfind, rfl⟩

variable {brief : ContentBrief} {s after : PlanningDesk} {version : BriefVersion}
variable {allowRepeatedBrief : Bool} {data : CalendarEntryCreate}

theorem briefVersion_some (h : briefVersion s brief = .ok (some version)) :
    brief.currentVersionId = some version.id ∧ version ∈ s.versions ∧
      version.briefId = brief.id := by
  unfold briefVersion at h
  split at h
  · cases h
  · rename_i versionId hcurrent
    split at h
    · rename_i found hfind
      cases h
      have hkey := List.find?_some hfind
      rw [decide_eq_true_eq] at hkey
      rw [hcurrent, hkey.1]
      exact ⟨rfl, List.mem_of_find?_eq_some hfind, hkey.2⟩
    · cases h

theorem requiredVersion_ok {message : String} (h : requiredVersion s brief message = .ok version) :
    briefVersion s brief = .ok (some version) := by
  obtain ⟨found, hfound, h⟩ := bind_ok h
  cases found with
  | none => cases h
  | some other =>
    cases h
    exact hfound

theorem briefRead_ok {loaded : ContentBrief} (h : briefRead loaded brief after = .ok s) :
    brief = loaded ∧ s = after := by
  unfold briefRead at h
  split_ifs at h with hsame
  exact ⟨hsame, (Except.ok.inj h).symm⟩

/-- A row that is written as it was. -/
theorem updateRow_self {rows : List ContentBrief} (hkeyed : Keyed (·.id) rows) (h : brief ∈ rows) :
    updateRow (·.id) brief.id (fun _ => brief) rows = rows := by
  unfold updateRow
  refine (List.map_congr_left fun row hrow => ?_).trans (List.map_id rows)
  split_ifs with hid
  · exact hkeyed.eq_of_key_eq h hrow hid.symm
  · rfl

theorem linkBrief_ok {campaignId : Option Uuid} {linked : BriefVersion × Option Uuid}
    (h : linkBrief s data allowRepeatedBrief campaignId brief = .ok linked) :
    (brief.status = .approved ∨ brief.status = .scheduled) ∧
      briefVersion s brief = .ok (some linked.1) := by
  obtain ⟨_, hstatus, h⟩ := bind_ok h
  obtain ⟨version, hversion, h⟩ := bind_ok h
  obtain ⟨_, _, h⟩ := bind_ok h
  obtain ⟨_, _, h⟩ := bind_ok h
  obtain ⟨_, _, h⟩ := bind_ok h
  cases h
  exact ⟨require_ok hstatus, requiredVersion_ok hversion⟩

section Readers

variable [PlanningReaders]

/-- The brief rows once an entry of the brief is placed. -/
def scheduledBriefs (briefs : List ContentBrief) (brief : ContentBrief) : List ContentBrief :=
  if brief.status = .approved then
    updateRow (·.id) brief.id ({ · with status := .scheduled }) briefs
  else briefs

/-- The brief rows once an entry of the brief is cancelled. -/
def releasedBriefs (s : PlanningDesk) (entry : CalendarEntry) (brief : ContentBrief) : List ContentBrief :=
  if brief.status = .scheduled ∧ (liveEntries s brief.id).filter (·.id ≠ entry.id) = [] then
    updateRow (·.id) brief.id ({ · with status := .approved }) s.briefs
  else s.briefs

/-- The brief of an entry that is placed, with the version it is placed for. -/
structure EntryBrief (s : PlanningDesk) (entry : CalendarEntry) (brief : ContentBrief)
    (version : BriefVersion) : Prop where
  mem : brief ∈ s.briefs
  status : brief.status = .approved ∨ brief.status = .scheduled
  current : briefVersion s brief = .ok (some version)
  briefId : entry.briefId = some brief.id
  versionId : entry.briefVersionId = some version.id
  hash : entry.briefSnapshotHash = some version.snapshotHash

inductive DeskChange (s : PlanningDesk) : PlanningDesk → Prop where
  | kept (decisions : List BriefDecision) (catalogue : Catalogue) (nextId : Uuid)
      (hnext : s.nextId ≤ nextId) :
      DeskChange s { s with
        decisions := s.decisions ++ decisions
        catalogue := catalogue
        nextId := nextId }
  | placedAlone (entry : CalendarEntry) (hid : entry.id = s.nextId)
      (hstatus : entry.status = .planned) (hbrief : entry.briefId = none) :
      DeskChange s { s with
        entries := s.entries ++ [entry]
        nextId := s.nextId + 1 }
  | placedFor (entry : CalendarEntry) (brief : ContentBrief) (version : BriefVersion)
      (hid : entry.id = s.nextId) (hstatus : entry.status = .planned)
      (hbrief : EntryBrief s entry brief version) :
      DeskChange s { s with
        briefs := scheduledBriefs s.briefs brief
        entries := s.entries ++ [entry]
        nextId := s.nextId + 1 }
  | moved (entry : CalendarEntry) (scheduledAt : Int) (timezone : String)
      (warnings : List CalendarWarning) (hmem : entry ∈ s.entries)
      (hstatus : entry.status ≠ .cancelled) :
      DeskChange s { s with
        entries := updateRow (·.id) entry.id (fun row => { row with
          scheduledAt := scheduledAt
          timezone := timezone
          conflictWarnings := warnings }) s.entries }
  | cancelledAlone (entry : CalendarEntry) (hmem : entry ∈ s.entries)
      (hbrief : entry.briefId = none) :
      DeskChange s { s with
        entries := updateRow (·.id) entry.id ({ · with status := .cancelled }) s.entries }
  | cancelledFor (entry : CalendarEntry) (brief : ContentBrief) (hmem : entry ∈ s.entries)
      (hbrief : brief ∈ s.briefs) (hof : entry.briefId = some brief.id) :
      DeskChange s { s with
        briefs := releasedBriefs s entry brief
        entries := updateRow (·.id) entry.id ({ · with status := .cancelled }) s.entries }

/-- The changes of a request, one after the other. -/
abbrev DeskChanges : PlanningDesk → PlanningDesk → Prop := Relation.ReflTransGen DeskChange

omit [PlanningReaders] in
theorem rewritten (catalogue : Catalogue) (nextId : Uuid) (hnext : s.nextId ≤ nextId) :
    DeskChange s { s with catalogue := catalogue, nextId := nextId } := by
  have h := DeskChange.kept [] catalogue nextId hnext
  rw [List.append_nil] at h
  exact h

variable {env : PlanningEnv} {briefId entryId : Uuid}

/-- The row of a new brief is updated with its version, so its read raises. -/
theorem createBrief_raises {data : BriefCreate} : createBrief s env data ≠ .ok after := by
  intro h
  obtain ⟨_, _, h⟩ := bind_ok h
  obtain ⟨policy, _, h⟩ := bind_ok h
  obtain ⟨resolved, _, h⟩ := bind_ok h
  obtain ⟨stages, _, h⟩ := bind_ok h
  obtain ⟨added, _, h⟩ := bind_ok h
  obtain ⟨grown, _, h⟩ := bind_ok h
  obtain ⟨_, _, h⟩ := bind_ok h
  have hcurrent := congrArg ContentBrief.currentVersionId (briefRead_ok h).1
  cases hcurrent

/-- The current version of a brief is another one than the next. -/
theorem createBriefVersion_raises {data : BriefVersionCreate}
    (hcurrent : ∀ brief ∈ s.briefs, ∀ versionId ∈ brief.currentVersionId, versionId < s.nextId) :
    createBriefVersion s env briefId data ≠ .ok after := by
  intro h
  obtain ⟨brief, hbrief, h⟩ := bind_ok h
  obtain ⟨_, _, h⟩ := bind_ok h
  obtain ⟨_, _, h⟩ := bind_ok h
  obtain ⟨_, _, h⟩ := bind_ok h
  obtain ⟨policy, _, h⟩ := bind_ok h
  obtain ⟨resolved, _, h⟩ := bind_ok h
  obtain ⟨stages, _, h⟩ := bind_ok h
  obtain ⟨grown, _, h⟩ := bind_ok h
  obtain ⟨_, _, h⟩ := bind_ok h
  have hsame := congrArg ContentBrief.currentVersionId (briefRead_ok h).1
  exact absurd (hcurrent brief (findRow_ok hbrief).1 s.nextId hsame.symm) (Nat.lt_irrefl _)

omit [PlanningReaders] in
/-- Every transition is to another status. -/
theorem transitionBrief_raises {data : BriefTransitionRequest} {command : BriefCommand} :
    transitionBrief s env briefId data command.event ≠ .ok after := by
  intro h
  obtain ⟨brief, _, h⟩ := bind_ok h
  obtain ⟨_, _, h⟩ := bind_ok h
  obtain ⟨version, _, h⟩ := bind_ok h
  split at h
  · cases h
  · rename_i status hstatus
    have hsame : status = brief.status := congrArg ContentBrief.status (briefRead_ok h).1
    have hmoves : ∀ (current : BriefStatus) (command : BriefCommand),
        transitionBriefStatus current command.event ≠ some current := by
      intro current command
      cases current <;> cases command <;> decide
    exact hmoves brief.status command (hsame ▸ hstatus)

omit [PlanningReaders] in
theorem decideBrief_change {data : BriefDecisionRequest} (hkeyed : Keyed (·.id) s.briefs)
    (h : decideBrief s env briefId data = .ok after) : DeskChange s after := by
  obtain ⟨brief, hbrief, h⟩ := bind_ok h
  obtain ⟨_, _, h⟩ := bind_ok h
  obtain ⟨_, _, h⟩ := bind_ok h
  obtain ⟨version, _, h⟩ := bind_ok h
  obtain ⟨stage, _, h⟩ := bind_ok h
  obtain ⟨_, _, h⟩ := bind_ok h
  dsimp only at h
  split at h
  · cases h
  · obtain ⟨hsame, rfl⟩ := briefRead_ok h
    rw [hsame, updateRow_self hkeyed (findRow_ok hbrief).1]
    exact .kept _ s.catalogue (s.nextId + 1) (Nat.le_succ _)

section

variable {recurrenceId : Option Uuid}
    (h : createCalendarEntry s env data recurrenceId allowRepeatedBrief = .ok after)

include h

/-- What the placement of an entry does, and how its time was found. -/
theorem createCalendarEntry_ok : ∃ entry : CalendarEntry, entry.id = s.nextId ∧ entry.status = .planned ∧
      entry.channel = data.channel ∧
      (∃ policy, env.policy = .ok policy ∧
        resolveCalendarTime s policy data.channel data.scheduledAt data.timezone
          data.conflictResolution none = .ok (entry.scheduledAt, entry.conflictWarnings)) ∧
      ((entry.briefId = none ∧ after = { s with
          entries := s.entries ++ [entry]
          nextId := s.nextId + 1 }) ∨
        ∃ brief version, EntryBrief s entry brief version ∧ after = { s with
          briefs := scheduledBriefs s.briefs brief
          entries := s.entries ++ [entry]
          nextId := s.nextId + 1 }) := by
  obtain ⟨_, _, h⟩ := bind_ok h
  obtain ⟨idea, _, h⟩ := bind_ok h
  obtain ⟨ideaCampaign, _, h⟩ := bind_ok h
  obtain ⟨found, hfound, h⟩ := bind_ok h
  obtain ⟨linked, hlinked, h⟩ := bind_ok h
  obtain ⟨_, _, h⟩ := bind_ok h
  obtain ⟨_, _, h⟩ := bind_ok h
  obtain ⟨policy, hpolicy, h⟩ := bind_ok h
  obtain ⟨time, htime, h⟩ := bind_ok h
  obtain ⟨title, _, h⟩ := bind_ok h
  refine ⟨newEntry s.nextId data recurrenceId linked.1 linked.2 time title, rfl, rfl, rfl,
    ⟨policy, hpolicy, htime⟩, ?_⟩
  rcases optional_some hfound with ⟨hnone, rfl⟩ | ⟨briefId, brief, hid, hbrief, rfl⟩
  · cases h
    exact .inl ⟨hnone, rfl⟩
  · obtain ⟨link, hlink, rfl⟩ := map_ok hlinked
    obtain ⟨hmem, hkey⟩ := findRow_ok hbrief
    obtain ⟨hstatus, hversion⟩ := linkBrief_ok hlink
    refine .inr ⟨brief, link.1, ⟨hmem, hstatus, hversion, ?_, rfl, rfl⟩, ?_⟩
    · exact hid.trans (congrArg some hkey.symm)
    · unfold placeEntry at h
      dsimp only at h
      unfold scheduledBriefs
      split_ifs at h ⊢
      · exact (Except.ok.inj h).symm
      · exact (Except.ok.inj h).symm

theorem createCalendarEntry_change : DeskChange s after := by
  obtain ⟨entry, hid, hstatus, _, _, ⟨hnone, rfl⟩ | ⟨brief, version, hbrief, rfl⟩⟩ :=
    createCalendarEntry_ok h
  · exact .placedAlone entry hid hstatus hnone
  · exact .placedFor entry brief version hid hstatus hbrief

end

section

variable {data : CalendarEntryMove} (h : moveCalendarEntry s env entryId data = .ok after)

include h

/-- What a move does, and how the new time was found. -/
theorem moveCalendarEntry_ok : ∃ entry ∈ s.entries, entry.id = entryId ∧ entry.status ≠ .cancelled ∧
      ∃ time : Int × List CalendarWarning, (∃ policy, env.policy = .ok policy ∧
          resolveCalendarTime s policy entry.channel data.scheduledAt data.timezone
            data.conflictResolution (some entry.id) = .ok time) ∧
        after = { s with entries := updateRow (·.id) entry.id (fun row => { row with
          scheduledAt := time.1
          timezone := data.timezone
          conflictWarnings := time.2 }) s.entries } := by
  obtain ⟨entry, hentry, h⟩ := bind_ok h
  obtain ⟨_, _, h⟩ := bind_ok h
  obtain ⟨_, hstatus, h⟩ := bind_ok h
  obtain ⟨policy, hpolicy, h⟩ := bind_ok h
  obtain ⟨time, htime, h⟩ := bind_ok h
  cases h
  obtain ⟨hmem, hid⟩ := findRow_ok hentry
  exact ⟨entry, hmem, hid, (require_ok hstatus).1, time, ⟨policy, hpolicy, htime⟩, rfl⟩

theorem moveCalendarEntry_change : DeskChange s after := by
  obtain ⟨entry, hmem, _, hstatus, time, _, rfl⟩ := moveCalendarEntry_ok h
  exact .moved entry _ _ _ hmem hstatus

end

omit [PlanningReaders] in
theorem cancelCalendarEntry_change {expectedLockVersion : Nat}
    (h : cancelCalendarEntry s env entryId expectedLockVersion = .ok after) : DeskChange s after := by
  obtain ⟨entry, hentry, h⟩ := bind_ok h
  obtain ⟨_, _, h⟩ := bind_ok h
  obtain ⟨released, hreleased, h⟩ := bind_ok h
  cases h
  have hmem := (findRow_ok hentry).1
  cases hof : entry.briefId with
  | none =>
    unfold releaseOptionalBrief at hreleased
    rw [hof] at hreleased
    cases hreleased
    exact .cancelledAlone entry hmem hof
  | some briefId =>
    unfold releaseOptionalBrief at hreleased
    rw [hof] at hreleased
    obtain ⟨brief, hbrief, hreleased⟩ := bind_ok hreleased
    obtain ⟨hbriefMem, hid⟩ := findRow_ok hbrief
    have hchange : released = { s with briefs := releasedBriefs s entry brief } := by
      unfold releaseBrief at hreleased
      dsimp only at hreleased
      unfold releasedBriefs
      split_ifs at hreleased ⊢
      · exact (Except.ok.inj hreleased).symm
      · exact (Except.ok.inj hreleased).symm
    rw [hchange]
    exact .cancelledFor entry brief hmem hbriefMem (hof.trans (congrArg some hid.symm))

theorem createOccurrences_changes {data : RecurrenceCreate} {recurrenceId : Uuid} {times : List Int}
    (h : createOccurrences env data recurrenceId s times = .ok after) : DeskChanges s after := by
  induction times generalizing s with
  | nil =>
    cases h
    exact .refl
  | cons scheduledAt rest ih =>
    obtain ⟨next, hnext, h⟩ := bind_ok h
    exact .head (createCalendarEntry_change hnext) (ih h)

theorem createRecurrence_changes {data : RecurrenceCreate} (h : createRecurrence s env data = .ok after) :
    DeskChanges s after := by
  obtain ⟨_, _, h⟩ := bind_ok h
  obtain ⟨_, _, h⟩ := bind_ok h
  obtain ⟨zone, _, h⟩ := bind_ok h
  have hfirst : DeskChange s { s with nextId := s.nextId + 1 } :=
    rewritten s.catalogue (s.nextId + 1) (Nat.le_succ _)
  exact .head hfirst (createOccurrences_changes h)

theorem itemIdea_ok {proposal : MonthlyPlanProposal} {item : MonthlyPlanItem}
    {found : Option Uuid × PlanningDesk} (h : itemIdea s env proposal item = .ok found) :
    ∃ catalogue nextId, s.nextId ≤ nextId ∧
      found.2 = { s with catalogue := catalogue, nextId := nextId } := by
  unfold itemIdea at h
  split_ifs at h
  · obtain ⟨idea, hidea, rfl⟩ := map_ok h
    unfold findOrCreateIdea at hidea
    split at hidea
    · cases hidea
      exact ⟨s.catalogue, s.nextId, le_rfl, rfl⟩
    · obtain ⟨_, _, hidea⟩ := bind_ok hidea
      cases hidea
      exact ⟨_, s.nextId + 1, Nat.le_succ _, rfl⟩
  · cases h
    exact ⟨s.catalogue, s.nextId, le_rfl, rfl⟩

theorem createItems_changes {proposal : MonthlyPlanProposal} {resolution : CalendarConflictResolution}
    {items : List MonthlyPlanItem} (h : createItems env proposal resolution s items = .ok after) :
    DeskChanges s after := by
  induction items generalizing s with
  | nil =>
    cases h
    exact .refl
  | cons item rest ih =>
    obtain ⟨found, hfound, h⟩ := bind_ok h
    obtain ⟨next, hnext, h⟩ := bind_ok h
    obtain ⟨catalogue, nextId, hle, heq⟩ := itemIdea_ok hfound
    rw [heq] at hnext
    have hfirst : DeskChange s { s with catalogue := catalogue, nextId := nextId } :=
      rewritten catalogue nextId hle
    exact .head hfirst (.head (createCalendarEntry_change hnext) (ih h))

theorem approveMonthlyProposal_changes {proposalId : Uuid} {data : MonthlyPlanDecision}
    (h : approveMonthlyProposal s env proposalId data = .ok after) : DeskChanges s after := by
  obtain ⟨proposal, _, h⟩ := bind_ok h
  obtain ⟨_, _, h⟩ := bind_ok h
  obtain ⟨_, _, h⟩ := bind_ok h
  obtain ⟨_, _, h⟩ := bind_ok h
  obtain ⟨_, _, h⟩ := bind_ok h
  obtain ⟨placed, hplaced, h⟩ := bind_ok h
  cases h
  exact .tail (createItems_changes hplaced) (rewritten _ placed.nextId le_rfl)

/-- What keeps the rows of briefs from being written by the operations on briefs. -/
structure BriefBooks (s : PlanningDesk) : Prop where
  keyed : Keyed (·.id) s.briefs
  current : ∀ brief ∈ s.briefs, ∀ versionId ∈ brief.currentVersionId, versionId < s.nextId

theorem deskStep_changes (hbooks : BriefBooks s) (action : DeskAction) :
    DeskChanges s (deskStep s action) := by
  unfold deskStep
  split
  · rename_i after h
    cases hrequest : action.request <;> rw [hrequest] at h
    case createBrief data => exact absurd h createBrief_raises
    case createBriefVersion briefId data => exact absurd h (createBriefVersion_raises hbooks.current)
    case transitionBrief briefId data command => exact absurd h transitionBrief_raises
    case decideBrief briefId data => exact .single (decideBrief_change hbooks.keyed h)
    case createCalendarEntry data => exact .single (createCalendarEntry_change h)
    case createRecurrence data => exact createRecurrence_changes h
    case approveMonthlyProposal proposalId data => exact approveMonthlyProposal_changes h
    case moveCalendarEntry entryId data => exact .single (moveCalendarEntry_change h)
    case cancelCalendarEntry entryId lock => exact .single (cancelCalendarEntry_change h)
    case rewriteCatalogue catalogue =>
      cases h
      exact .single (rewritten catalogue s.nextId le_rfl)
  · exact .refl

theorem kept_by_step {I : PlanningDesk → Prop} {action : DeskAction} (hbooks : BriefBooks s)
    (hchange : ∀ before after, I before → DeskChange before after → I after) (hs : I s) :
    I (deskStep s action) := by
  have hsteps := deskStep_changes hbooks action
  generalize deskStep s action = after at hsteps
  induction hsteps with
  | refl => exact hs
  | tail _ hlast ih => exact hchange _ _ ih hlast

end Readers

end BlogOps.Planning
