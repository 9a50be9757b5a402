import BlogOps.DeskBooks

/-!
# Calendar and briefs in step

A live calendar entry shows the current version of a scheduled brief, and a
scheduled brief has a live entry.  The calendar keeps it so from every state of the
tables; archiving a scheduled brief, which would not, raises.
-/

namespace BlogOps.Planning

open List

open KeyedTables TransitionRuns

structure CurrentVersion (versions : List BriefVersion) (brief : ContentBrief)
    (version : BriefVersion) : Prop where
  mem : version ∈ versions
  current : brief.currentVersionId = some version.id
  briefId : version.briefId = brief.id

/-- The entry refers to a scheduled brief, at its current version. -/
def EntryShows (briefs : List ContentBrief) (versions : List BriefVersion) (entry : CalendarEntry) : Prop :=
  ∀ briefId, entry.briefId = some briefId → ∃ brief ∈ briefs, brief.id = briefId ∧
    brief.status = .scheduled ∧ ∃ version, CurrentVersion versions brief version ∧
      entry.briefVersionId = some version.id ∧ entry.briefSnapshotHash = some version.snapshotHash

structure InStep (s : PlanningDesk) : Prop where
  entries : ∀ entry ∈ s.entries, entry.status ≠ .cancelled → EntryShows s.briefs s.versions entry
  scheduled : ∀ brief ∈ s.briefs, brief.status = .scheduled →
    ∃ entry ∈ s.entries, entry.status ≠ .cancelled ∧ entry.briefId = some brief.id

variable {entry : CalendarEntry} {brief : ContentBrief} {s after : PlanningDesk}
variable {briefs : List ContentBrief} {versions : List BriefVersion}

theorem EntryShows.of_briefs {more : List ContentBrief} (h : EntryShows briefs versions entry)
    (hbriefs : ∀ brief ∈ briefs, entry.briefId = some brief.id → brief.status = .scheduled →
      ∃ row ∈ more, row.id = brief.id ∧ row.currentVersionId = brief.currentVersionId ∧
        row.status = .scheduled) : EntryShows more versions entry := by
  intro briefId hid
  obtain ⟨brief, hbrief, rfl, hstatus, version, hversion, hshown⟩ := h briefId hid
  obtain ⟨row, hrow, hrowId, hcurrent, hscheduled⟩ := hbriefs brief hbrief hid hstatus
  refine ⟨row, hrow, hrowId, hscheduled, version, ⟨hversion.mem, ?_, ?_⟩, hshown⟩
  · exact hcurrent.trans hversion.current
  · exact hversion.briefId.trans hrowId.symm

/-- An entry that is rewritten without its brief refers to what it referred to. -/
theorem shows_updated {entries : List CalendarEntry} {id : Uuid} {f : CalendarEntry → CalendarEntry}
    (hf : ∀ row, (f row).briefId = row.briefId ∧ (f row).briefVersionId = row.briefVersionId ∧
      (f row).briefSnapshotHash = row.briefSnapshotHash)
    (hlive : ∀ row, (f row).status ≠ .cancelled → row.status ≠ .cancelled)
    (h : ∀ entry ∈ entries, entry.status ≠ .cancelled → EntryShows briefs versions entry)
    (hentry : entry ∈ updateRow (·.id) id f entries) (hstatus : entry.status ≠ .cancelled) :
    EntryShows briefs versions entry := by
  obtain ⟨old, hold, ⟨_, rfl⟩ | ⟨_, rfl⟩⟩ := mem_updateRow hentry
  · intro briefId hid
    obtain ⟨hbrief, hversion, hhash⟩ := hf old
    rw [hbrief] at hid
    rw [hversion, hhash]
    exact h old hold (hlive old hstatus) briefId hid
  · exact h entry hold hstatus

/-- The entry that shows another scheduled brief is not the rewritten one, or still shows it. -/
theorem live_elsewhere {id : Uuid} {f : CalendarEntry → CalendarEntry} {row : ContentBrief}
    (h : InStep s) (hrow : row ∈ s.briefs) (hscheduled : row.status = .scheduled)
    (hf : ∀ other ∈ s.entries, other.id = id → other.briefId = some row.id → (f other).status =
      other.status ∧ (f other).briefId = other.briefId) :
    ∃ other ∈ updateRow (·.id) id f s.entries, other.status ≠ .cancelled ∧ other.briefId = some row.id := by
  obtain ⟨other, hother, hlive, hof⟩ := h.scheduled row hrow hscheduled
  by_cases hid : other.id = id
  · obtain ⟨hstatus, hbrief⟩ := hf other hother hid hof
    exact ⟨f other, mem_updateRow_of_mem hother hid, hstatus ▸ hlive, hbrief.trans hof⟩
  · exact ⟨other, mem_updateRow_of_ne hother hid, hlive, hof⟩

/-- The row of a brief that gets an entry. -/
theorem scheduled_row (hbrief : brief ∈ briefs)
    (hstatus : brief.status = .approved ∨ brief.status = .scheduled) :
    ∃ row ∈ scheduledBriefs briefs brief, row.id = brief.id ∧
      row.currentVersionId = brief.currentVersionId ∧ row.status = .scheduled := by
  unfold scheduledBriefs
  split_ifs with happroved
  · exact ⟨{ brief with status := .scheduled }, mem_updateRow_of_mem hbrief rfl, rfl, rfl, rfl⟩
  · exact ⟨brief, hbrief, rfl, rfl, hstatus.resolve_left happroved⟩

/-- Other rows stay when a brief is scheduled. -/
theorem mem_scheduledBriefs (hkeyed : Keyed (·.id) briefs) (hbrief : brief ∈ briefs) {row : ContentBrief} :
    row ∈ scheduledBriefs briefs brief → row.id = brief.id ∨ row ∈ briefs := by
  intro hrow
  unfold scheduledBriefs at hrow
  split_ifs at hrow
  · rcases hkeyed.mem_updateRow hbrief hrow with rfl | ⟨hmem, _⟩
    · exact .inl rfl
    · exact .inr hmem
  · exact .inr hrow

theorem inStep_placedFor (hkeyed : Keyed (·.id) s.briefs) (h : InStep s) {version : BriefVersion}
    (hplanned : entry.status = .planned) (hbrief : EntryBrief s entry brief version) (nextId : Uuid) :
    InStep { s with
      briefs := scheduledBriefs s.briefs brief
      entries := s.entries ++ [entry]
      nextId := nextId } := by
  obtain ⟨row, hrow, hid, hcurrent, hscheduled⟩ := scheduled_row hbrief.mem hbrief.status
  have hlive : entry.status ≠ .cancelled := by
    rw [hplanned]
    exact fun heq => by cases heq
  constructor
  · intro other hother hstatus
    rcases mem_append.mp hother with hold | hnew
    · refine (h.entries other hold hstatus).of_briefs fun shown hshown _ hkept => ?_
      by_cases heq : shown.id = brief.id
      · obtain rfl := hkeyed.eq_of_key_eq hshown hbrief.mem heq
        exact ⟨row, hrow, hid, hcurrent, hscheduled⟩
      · refine ⟨shown, ?_, rfl, rfl, hkept⟩
        show shown ∈ scheduledBriefs s.briefs brief
        unfold scheduledBriefs
        split_ifs
        · exact mem_updateRow_of_ne hshown heq
        · exact hshown
    · obtain rfl := mem_singleton.mp hnew
      intro briefId hof
      have heq : brief.id = briefId := Option.some.inj (hbrief.briefId.symm.trans hof)
      obtain ⟨hfound, hmem, hversion⟩ := briefVersion_some hbrief.current
      exact ⟨row, hrow, hid.trans heq, hscheduled, version,
        ⟨hmem, hcurrent.trans hfound, hversion.trans hid.symm⟩, hbrief.versionId, hbrief.hash⟩
  · intro other hother hstatus
    rcases mem_scheduledBriefs hkeyed hbrief.mem hother with heq | hold
    · have hnew : entry ∈ s.entries ++ [entry] := mem_append_right _ (mem_singleton_self _)
      exact ⟨entry, hnew, hlive, hbrief.briefId.trans (congrArg some heq.symm)⟩
    · obtain ⟨shown, hshown, hshownLive, hof⟩ := h.scheduled other hold hstatus
      exact ⟨shown, mem_append_left _ hshown, hshownLive, hof⟩

theorem inStep_cancelledFor (hbooks : DeskBooks s) (h : InStep s) (hentry : entry ∈ s.entries)
    (hbrief : brief ∈ s.briefs) (hof : entry.briefId = some brief.id) : InStep { s with
      briefs := releasedBriefs s entry brief
      entries := updateRow (·.id) entry.id
        (fun row : CalendarEntry => { row with status := .cancelled }) s.entries } := by
  have hkeyed := hbooks.briefs.keyed
  have hentries := hbooks.entries.keyed
  have helsewhere : ∀ row ∈ s.briefs, row.id ≠ brief.id → row.status = .scheduled →
      ∃ other ∈ updateRow (·.id) entry.id
        (fun row : CalendarEntry => { row with status := .cancelled }) s.entries,
        other.status ≠ .cancelled ∧ other.briefId = some row.id := by
    intro row hrow hne hscheduled
    refine live_elsewhere h hrow hscheduled fun other hother hid hrowOf => ?_
    rw [hentries.eq_of_key_eq hother hentry hid, hof] at hrowOf
    exact absurd (Option.some.inj hrowOf).symm hne
  constructor
  · intro other hother hstatus
    have hold : other ∈ s.entries ∧ other.id ≠ entry.id := by
      rcases hentries.mem_updateRow hentry hother with rfl | hkept
      · exact absurd rfl hstatus
      · exact hkept
    have hshows := h.entries other hold.1 hstatus
    unfold releasedBriefs
    split_ifs with hreleased
    · refine hshows.of_briefs fun row hrow hrowOf hkept => ?_
      refine ⟨row, mem_updateRow_of_ne hrow fun heq => ?_, rfl, rfl, hkept⟩
      -- a live entry of the brief would have kept it scheduled
      have hin : other ∈ (liveEntries s brief.id).filter (·.id ≠ entry.id) := by
        rw [heq] at hrowOf
        unfold liveEntries
        simp only [mem_filter, decide_eq_true_eq]
        exact ⟨⟨hold.1, hrowOf, hstatus⟩, hold.2⟩
      rw [hreleased.2] at hin
      exact absurd hin not_mem_nil
    · exact hshows
  · intro row hrow hscheduled
    unfold releasedBriefs at hrow
    split_ifs at hrow with hreleased
    · rcases hkeyed.mem_updateRow hbrief hrow with rfl | ⟨hmem, hne⟩
      · cases hscheduled
      · exact helsewhere row hmem hne hscheduled
    · by_cases heq : row.id = brief.id
      · obtain rfl := hkeyed.eq_of_key_eq hrow hbrief heq
        have hremaining : (liveEntries s row.id).filter (·.id ≠ entry.id) ≠ [] :=
          fun hnone => hreleased ⟨hscheduled, hnone⟩
        obtain ⟨other, hother⟩ := exists_mem_of_ne_nil _ hremaining
        unfold liveEntries at hother
        simp only [mem_filter, decide_eq_true_eq] at hother
        obtain ⟨⟨hmem, hrowOf, hlive⟩, hne⟩ := hother
        exact ⟨other, mem_updateRow_of_ne hmem hne, hlive, hrowOf⟩
      · exact helsewhere row hrow heq hscheduled

theorem inStep_change (hbooks : DeskBooks s) (h : InStep s) (hchange : DeskChange s after) :
    InStep after := by
  cases hchange with
  | kept decisions catalogue nextId _ => exact ⟨h.entries, h.scheduled⟩
  | placedAlone entry _ _ hnone =>
    constructor
    · intro other hother hstatus
      rcases mem_append.mp hother with hold | hnew
      · exact h.entries other hold hstatus
      · intro briefId hof
        rw [mem_singleton.mp hnew, hnone] at hof
        cases hof
    · intro row hrow hscheduled
      obtain ⟨shown, hshown, hlive, hof⟩ := h.scheduled row hrow hscheduled
      exact ⟨shown, mem_append_left _ hshown, hlive, hof⟩
  | placedFor entry brief version _ hplanned hbrief =>
    exact inStep_placedFor hbooks.briefs.keyed h hplanned hbrief _
  | moved entry scheduledAt timezone warnings _ _ =>
    constructor
    · intro other hother hstatus
      refine shows_updated ?_ ?_ h.entries hother hstatus
      · exact fun _ => ⟨rfl, rfl, rfl⟩
      · exact fun _ hlive => hlive
    · intro row hrow hscheduled
      exact live_elsewhere h hrow hscheduled fun _ _ _ _ => ⟨rfl, rfl⟩
  | cancelledAlone entry hmem hnone =>
    constructor
    · intro other hother hstatus
      refine shows_updated ?_ ?_ h.entries hother hstatus
      · exact fun _ => ⟨rfl, rfl, rfl⟩
      · exact fun _ hlive => absurd rfl hlive
    · intro row hrow hscheduled
      refine live_elsewhere h hrow hscheduled fun other hother hid hof => ?_
      rw [hbooks.entries.keyed.eq_of_key_eq hother hmem hid, hnone] at hof
      cases hof
  | cancelledFor entry brief hmem hbrief hof => exact inStep_cancelledFor hbooks h hmem hbrief hof

section Readers

variable [PlanningReaders]

theorem inStep_run (hbooks : DeskBooks s) (h : InStep s) (actions : List DeskAction) :
    InStep (run deskStep s actions) := by
  have hboth := invariant_run deskStep (I := fun s => DeskBooks s ∧ InStep s)
    (fun s action hs => kept_by_step (I := fun s => DeskBooks s ∧ InStep s) hs.1.briefs
      (fun _ _ hbefore hchange =>
        ⟨deskBooks_change hbefore.1 hchange, inStep_change hbefore.1 hbefore.2 hchange⟩) hs)
    ⟨hbooks, h⟩ actions
  exact hboth.2

end Readers

end BlogOps.Planning
