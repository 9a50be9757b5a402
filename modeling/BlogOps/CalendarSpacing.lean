import BlogOps.DeskBooks

/-!
# Spacing of calendar entries

The live entries of a channel keep the distance and the daily maximum of the
calendar rules, as long as what `AUTO_SPREAD` finds free among the entries of its
64 days is free among all of them.  At the requested time the 64 days suffice: no
distance is over 30 days, and a local day lasts less than three.
-/

namespace BlogOps.Planning

open List

open Billing (PolicyFields)
open KeyedTables TransitionRuns

/-- The live entries of a channel. -/
def liveIn (entries : List CalendarEntry) (channel : String) : List CalendarEntry :=
  entries.filter fun entry => entry.channel = channel ∧ entry.status ≠ .cancelled

structure Spaced (rules : CalendarRules) (rows : List CalendarEntry) : Prop where
  apart : rows.Pairwise fun a b => rules.minimumSpacing ≤ |a.scheduledAt - b.scheduledAt|
  daily : ∀ date, (rows.filter fun row => rules.zone.localDate row.scheduledAt = date).length ≤
    rules.maximumPerLocalDay

/-- Every channel keeps the rules. -/
def ChannelsSpaced (rules : CalendarRules) (entries : List CalendarEntry) : Prop :=
  ∀ channel, Spaced rules (liveIn entries channel)

/-- No conflict with the rows at the time. -/
def FreeAmong (rules : CalendarRules) (rows : List CalendarEntry) (time : Int) : Prop :=
  detectCalendarConflict rules time (rows.map CalendarEntry.slot) = none

instance (rules : CalendarRules) (rows : List CalendarEntry) (time : Int) :
    Decidable (FreeAmong rules rows time) :=
  inferInstanceAs (Decidable (_ = none))

variable {rows more : List CalendarEntry} {time : Int} {s after : PlanningDesk} {briefId : Uuid}
variable {env : PlanningEnv}

section

variable {rules : CalendarRules}

theorem freeAmong_iff : FreeAmong rules rows time ↔
      (∀ row ∈ rows, rules.minimumSpacing ≤ |row.scheduledAt - time|) ∧
        (rows.filter fun row => rules.zone.localDate row.scheduledAt =
          rules.zone.localDate time).length < rules.maximumPerLocalDay := by
  unfold FreeAmong
  rw [detectCalendarConflict_eq_none]
  have hcount : (sameDay rules time (rows.map CalendarEntry.slot)).length =
      (rows.filter fun row => rules.zone.localDate row.scheduledAt =
        rules.zone.localDate time).length := by
    unfold sameDay
    rw [filter_map, length_map]
    rfl
  rw [hcount, forall_mem_map]
  rfl

theorem FreeAmong.perm (hperm : rows.Perm more) (h : FreeAmong rules rows time) :
    FreeAmong rules more time := by
  rw [freeAmong_iff] at h ⊢
  refine ⟨fun row hrow => h.1 row (hperm.mem_iff.mpr hrow), ?_⟩
  rw [← (hperm.filter _).length_eq]
  exact h.2

theorem Spaced.perm (hperm : rows.Perm more) (h : Spaced rules rows) : Spaced rules more where
  apart := by
    refine (hperm.pairwise_iff fun hle => ?_).mp h.apart
    rw [abs_sub_comm]
    exact hle
  daily date := by
    rw [← (hperm.filter _).length_eq]
    exact h.daily date

theorem Spaced.sublist (hsub : rows.Sublist more) (h : Spaced rules more) : Spaced rules rows where
  apart := h.apart.sublist hsub
  daily date := ((hsub.filter _).length_le).trans (h.daily date)

theorem spaced_cons_iff {row : CalendarEntry} :
    Spaced rules (row :: rows) ↔ Spaced rules rows ∧ FreeAmong rules rows row.scheduledAt := by
  have hcount : ∀ date, ((row :: rows).filter fun other =>
      rules.zone.localDate other.scheduledAt = date).length =
        (rows.filter fun other => rules.zone.localDate other.scheduledAt = date).length +
          if rules.zone.localDate row.scheduledAt = date then 1 else 0 := by
    intro date
    by_cases h : rules.zone.localDate row.scheduledAt = date <;> simp [h]
  rw [freeAmong_iff]
  constructor
  · intro h
    obtain ⟨hrow, hrows⟩ := pairwise_cons.mp h.apart
    refine ⟨h.sublist (sublist_cons_self row rows), fun other hother => ?_, ?_⟩
    · rw [abs_sub_comm]
      exact hrow other hother
    · have hday := h.daily (rules.zone.localDate row.scheduledAt)
      rw [hcount, if_pos rfl] at hday
      exact hday
  · rintro ⟨h, hapart, hday⟩
    constructor
    · refine pairwise_cons.mpr ⟨fun other hother => ?_, h.apart⟩
      rw [abs_sub_comm]
      exact hapart other hother
    · intro date
      rw [hcount]
      have hold := h.daily date
      split_ifs with hdate
      · subst hdate
        omega
      · omega

end

theorem channelsSpaced_empty (rules : CalendarRules) : ChannelsSpaced rules [] := by
  intro channel
  exact ⟨List.Pairwise.nil, fun _ => Nat.zero_le _⟩

/-- An entry with the live rows of its channel. -/
theorem liveIn_cons (entry : CalendarEntry) (entries : List CalendarEntry) (channel : String) :
    liveIn (entry :: entries) channel =
      if entry.channel = channel ∧ entry.status ≠ .cancelled then
        entry :: liveIn entries channel
      else liveIn entries channel := by
  unfold liveIn
  rw [filter_cons]
  simp only [decide_eq_true_eq]

section

variable {rules : CalendarRules} {entries : List CalendarEntry}

theorem ChannelsSpaced.perm (hperm : entries.Perm more) (h : ChannelsSpaced rules entries) :
    ChannelsSpaced rules more :=
  fun channel => (h channel).perm (hperm.filter _)

theorem channelsSpaced_perm_iff (hperm : entries.Perm more) :
    ChannelsSpaced rules entries ↔ ChannelsSpaced rules more :=
  ⟨.perm hperm, .perm hperm.symm⟩

theorem channelsSpaced_cons_iff {entry : CalendarEntry} (hlive : entry.status ≠ .cancelled) :
    ChannelsSpaced rules (entry :: entries) ↔ ChannelsSpaced rules entries ∧
      FreeAmong rules (liveIn entries entry.channel) entry.scheduledAt := by
  constructor
  · intro h
    have hown := h entry.channel
    rw [liveIn_cons, if_pos ⟨rfl, hlive⟩, spaced_cons_iff] at hown
    refine ⟨fun channel => ?_, hown.2⟩
    apply (h channel).sublist
    exact (sublist_cons_self entry entries).filter _
  · rintro ⟨h, hfree⟩ channel
    rw [liveIn_cons]
    split_ifs with hchannel
    · rw [spaced_cons_iff]
      refine ⟨h channel, ?_⟩
      rw [← hchannel.1]
      exact hfree
    · exact h channel

end

section Update

variable {rules : CalendarRules} {entries : List CalendarEntry} {entry : CalendarEntry}
  {f : CalendarEntry → CalendarEntry}

theorem ChannelsSpaced.filter (h : ChannelsSpaced rules entries) (p : CalendarEntry → Bool) :
    ChannelsSpaced rules (entries.filter p) := by
  intro channel
  exact (h channel).sublist (filter_sublist.filter _)

section

variable (hkeyed : Keyed (·.id) entries) (hmem : entry ∈ entries) (hid : ∀ row, (f row).id = row.id)

include hkeyed hmem hid

/-- A live entry that is rewritten has to be free among the others. -/
theorem channelsSpaced_updateRow_iff (hlive : (f entry).status ≠ .cancelled)
    (hspaced : ChannelsSpaced rules entries) : ChannelsSpaced rules (updateRow (·.id) entry.id f entries) ↔
      FreeAmong rules (liveIn (entries.filter fun other => other.id ≠ entry.id) (f entry).channel)
        (f entry).scheduledAt := by
  have hperm := hkeyed.perm_updateRow hmem rfl fun row heq => (hid row).trans heq
  rw [channelsSpaced_perm_iff hperm, channelsSpaced_cons_iff hlive, and_iff_right (hspaced.filter _)]

theorem ChannelsSpaced.cancel (hcancelled : (f entry).status = .cancelled)
    (hspaced : ChannelsSpaced rules entries) :
    ChannelsSpaced rules (updateRow (·.id) entry.id f entries) := by
  have hperm := hkeyed.perm_updateRow hmem rfl fun row heq => (hid row).trans heq
  rw [channelsSpaced_perm_iff hperm]
  intro channel
  rw [liveIn_cons, if_neg fun h => h.2 hcancelled]
  exact hspaced.filter _ channel

end

end Update

/-! ## The entries of a placement -/

/-- The live entries of the channel beside the one that is moved. -/
def otherEntries (s : PlanningDesk) (channel : String) (excludingId : Option Uuid) : List CalendarEntry :=
  (liveIn s.entries channel).filter fun entry => some entry.id ≠ excludingId

/-- The entries of the 64 days around the requested time. -/
def windowEntries (s : PlanningDesk) (channel : String) (requested : Int)
    (excludingId : Option Uuid) : List CalendarEntry :=
  entriesForChannel s channel (requested - 32 * day) (requested + 32 * day) excludingId

theorem windowEntries_perm (s : PlanningDesk) (channel : String) (requested : Int)
    (excludingId : Option Uuid) : (windowEntries s channel requested excludingId).Perm
      ((otherEntries s channel excludingId).filter fun entry =>
        requested - 32 * day ≤ entry.scheduledAt ∧ entry.scheduledAt < requested + 32 * day) := by
  unfold windowEntries entriesForChannel otherEntries liveIn
  apply (mergeSort_perm _ _).trans
  rw [filter_filter, filter_filter]
  apply List.Perm.of_eq
  apply filter_congr
  intro entry _
  simp only [← Bool.decide_and, decide_eq_decide]
  tauto

theorem utcOffset_bounds (zone : Zone) (instant : Int) :
    -day < zone.utcOffset instant ∧ zone.utcOffset instant < day :=
  abs_lt.mp (zone.utcOffset_lt instant)

/-- Two times of one local day are less than three days apart. -/
theorem abs_lt_of_localDate_eq {zone : Zone} {a b : Int}
    (h : zone.localDate a = zone.localDate b) : |a - b| < 3 * day := by
  have ha := utcOffset_bounds zone a
  have hb := utcOffset_bounds zone b
  have hday : (0 : Int) < day := by decide
  unfold Zone.localDate Zone.wall at h
  have hfloor : ∀ t : Int, (t / day) * day ≤ t ∧ t < (t / day) * day + day := by
    intro t
    have hmod := Int.emod_add_mul_ediv t day
    have hnonneg := Int.emod_nonneg t hday.ne'
    have hlt := Int.emod_lt_of_pos t hday
    constructor <;> linarith
  have hfirst := hfloor (a + zone.utcOffset a)
  have hsecond := hfloor (b + zone.utcOffset b)
  rw [h] at hfirst
  rw [abs_lt]
  constructor <;> linarith

section

variable {rules : CalendarRules} {channel : String} {requested : Int} {excludingId : Option Uuid}
    (hspacing : rules.minimumSpacing ≤ 30 * day)

include hspacing

/-- What is free in the 64 days is free when the other entries are at least 30 days away. -/
theorem free_of_window
    (hfar : ∀ row ∈ otherEntries s channel excludingId, |row.scheduledAt - time| < 30 * day →
      requested - 32 * day ≤ row.scheduledAt ∧ row.scheduledAt < requested + 32 * day)
    (h : FreeAmong rules (windowEntries s channel requested excludingId) time) :
    FreeAmong rules (otherEntries s channel excludingId) time := by
  have hwindow := h.perm (windowEntries_perm s channel requested excludingId)
  have hday : (0 : Int) < day := by decide
  rw [freeAmong_iff] at hwindow ⊢
  obtain ⟨hapart, hcount⟩ := hwindow
  constructor
  · intro row hrow
    by_contra hclose
    rw [not_le] at hclose
    have hinside := hfar row hrow (hclose.trans_le hspacing)
    have hrule := hapart row (mem_filter.mpr ⟨hrow, decide_eq_true hinside⟩)
    exact absurd hclose (not_lt.mpr hrule)
  · apply lt_of_le_of_lt _ hcount
    rw [filter_filter]
    refine le_of_eq (congrArg List.length (filter_congr fun row hrow => ?_))
    rw [Bool.eq_iff_iff, Bool.and_eq_true, decide_eq_true_eq, decide_eq_true_eq]
    refine ⟨fun hdate => ⟨hdate, ?_⟩, fun hboth => hboth.1⟩
    have hnear := abs_lt_of_localDate_eq hdate
    apply hfar row hrow
    linarith

/-- The 64 days suffice at the requested time. -/
theorem requested_free (h : FreeAmong rules (windowEntries s channel requested excludingId) requested) :
    FreeAmong rules (otherEntries s channel excludingId) requested := by
  refine free_of_window hspacing (fun row _ hnear => ?_) h
  have hday : (0 : Int) < day := by decide
  obtain ⟨hlow, hhigh⟩ := abs_lt.mp hnear
  constructor <;> linarith

end

/-- What `_resolve_calendar_time` is asked for. -/
structure Placement where
  channel : String
  requested : Int
  resolution : CalendarConflictResolution
  excludingId : Option Uuid

/-- The first hour from the requested time on that is free among the entries of the 64 days. -/
def FirstFree (rules : CalendarRules) (s : PlanningDesk) (p : Placement) (hours : Nat) : Prop :=
  FreeAmong rules (windowEntries s p.channel p.requested p.excludingId) (p.requested + hours * hour) ∧
    ∀ earlier < hours, ¬ FreeAmong rules (windowEntries s p.channel p.requested p.excludingId)
      (p.requested + earlier * hour)

/-- The hour that `AUTO_SPREAD` moves to is free among all live entries of the channel. -/
def SpreadFits (rules : CalendarRules) (s : PlanningDesk) (p : Placement) : Prop :=
  p.resolution = .autoSpread → ∀ hours ≤ spreadAttempts, 1 ≤ hours → FirstFree rules s p hours →
    FreeAmong rules (otherEntries s p.channel p.excludingId) (p.requested + hours * hour)

instance (rules : CalendarRules) (s : PlanningDesk) (p : Placement) (hours : Nat) :
    Decidable (FirstFree rules s p hours) :=
  inferInstanceAs (Decidable (_ ∧ ∀ earlier < hours, _))

instance (rules : CalendarRules) (s : PlanningDesk) (p : Placement) :
    Decidable (SpreadFits rules s p) :=
  inferInstanceAs (Decidable (_ → ∀ hours ≤ spreadAttempts, _))

variable {p : Placement}

/-- Only entries from the 32nd day after the requested time on can be missed. -/
theorem spreadFits_of_none_later {rules : CalendarRules} (hspacing : rules.minimumSpacing ≤ 30 * day)
    (h : ∀ row ∈ otherEntries s p.channel p.excludingId, row.scheduledAt < p.requested + 32 * day) :
    SpreadFits rules s p := by
  intro _ hours _ _ hfirst
  refine free_of_window hspacing (fun row hrow hnear => ⟨?_, h row hrow⟩) hfirst.1
  have hday : (0 : Int) < day := by decide
  have hlater : (0 : Int) ≤ hours * hour := mul_nonneg (Int.natCast_nonneg hours) (by decide)
  have hlow := (abs_lt.mp hnear).1
  linarith

theorem FirstFree.unique {rules : CalendarRules} {hours other : Nat} (h : FirstFree rules s p hours)
    (hother : FirstFree rules s p other) : hours = other := by
  rcases Nat.lt_trichotomy hours other with hlt | heq | hgt
  · exact absurd h.1 (hother.2 hours hlt)
  · exact heq
  · exact absurd hother.1 (h.2 other hgt)

/-- An accepted time is the first free hour, and the requested one without `AUTO_SPREAD`. -/
theorem settledSlot_ok {rules : CalendarRules} {policy : WorkspacePolicySnapshot}
    {time : Int × List CalendarWarning} (hresolution : p.resolution ≠ .warn)
    (h : settledSlot rules policy p.requested p.resolution
      (resolveCalendarSlot rules p.requested (windowSlots s p.channel p.requested p.excludingId)
      p.resolution) = .ok time) :
    ∃ hours ≤ spreadAttempts, (hours = 0 ∨ p.resolution = .autoSpread) ∧
      FirstFree rules s p hours ∧ time.1 = p.requested + hours * hour := by
  have hzero : p.requested + ((0 : Nat) : Int) * hour = p.requested := by simp
  unfold resolveCalendarSlot at h
  dsimp only at h
  by_cases hfree : detectCalendarConflict rules p.requested
      (windowSlots s p.channel p.requested p.excludingId) = none
  · rw [hfree, if_pos (.inl rfl)] at h
    obtain rfl := Except.ok.inj h
    refine ⟨0, Nat.zero_le _, .inl rfl, ⟨?_, fun _ hlt => absurd hlt (Nat.not_lt_zero _)⟩, hzero.symm⟩
    rw [hzero]
    exact hfree
  · cases hkind : p.resolution with
    | warn => exact absurd hkind hresolution
    | block =>
      rw [hkind, if_pos (.inr (by decide))] at h
      obtain ⟨conflict, hconflict⟩ := Option.ne_none_iff_exists'.mp hfree
      rw [hconflict] at h
      cases h
    | autoSpread =>
      have hspread : ¬ (detectCalendarConflict rules p.requested
          (windowSlots s p.channel p.requested p.excludingId) = none ∨
            CalendarConflictResolution.autoSpread ≠ .autoSpread) := by
        rintro (hnone | hne)
        · exact hfree hnone
        · exact hne rfl
      rw [hkind, if_neg hspread] at h
      cases hslot : spreadSlot rules (windowSlots s p.channel p.requested p.excludingId)
          spreadAttempts p.requested with
      | none =>
        rw [hslot] at h
        cases h
      | some found =>
        rw [hslot] at h
        obtain ⟨hours, _, hhigh, hfound, hat, hearlier⟩ := spreadSlot_eq_some.mp hslot
        refine ⟨hours, hhigh, .inr rfl, ⟨?_, fun earlier hlt => ?_⟩, ?_⟩
        · rw [← hfound]
          exact hat
        · rcases Nat.eq_zero_or_pos earlier with rfl | hpos
          · rw [hzero]
            exact hfree
          · exact hearlier earlier hpos hlt
        · rw [← hfound]
          dsimp only [Option.map] at h
          unfold settledSlot at h
          dsimp only at h
          split at h
          · cases h
          · obtain rfl := Except.ok.inj h
            rfl

theorem otherEntries_none (s : PlanningDesk) (channel : String) :
    otherEntries s channel none = liveIn s.entries channel := by
  unfold otherEntries
  simp

theorem otherEntries_some (s : PlanningDesk) (channel : String) (entryId : Uuid) :
    otherEntries s channel (some entryId) =
      liveIn (s.entries.filter fun entry => entry.id ≠ entryId) channel := by
  unfold otherEntries liveIn
  rw [filter_filter, filter_filter]
  apply filter_congr
  intro entry _
  rw [Bool.and_comm]
  simp

/-! ## Requests on briefs -/

theorem decideBrief_entries {data : BriefDecisionRequest}
    (h : decideBrief s env briefId data = .ok after) : after.entries = s.entries := by
  obtain ⟨_, _, h⟩ := bind_ok h
  obtain ⟨_, _, h⟩ := bind_ok h
  obtain ⟨_, _, h⟩ := bind_ok h
  obtain ⟨_, _, h⟩ := bind_ok h
  obtain ⟨_, _, h⟩ := bind_ok h
  obtain ⟨_, _, h⟩ := bind_ok h
  dsimp only at h
  split at h
  · cases h
  · obtain ⟨_, rfl⟩ := briefRead_ok h
    rfl

theorem releaseBrief_entries {entry : CalendarEntry} {brief : ContentBrief}
    (h : releaseBrief s entry brief = .ok after) : after.entries = s.entries := by
  unfold releaseBrief at h
  dsimp only at h
  split_ifs at h
  · split at h
    · cases h
    · obtain rfl := Except.ok.inj h
      rfl
  · obtain rfl := Except.ok.inj h
    rfl

theorem releaseOptionalBrief_entries {entry : CalendarEntry}
    (h : releaseOptionalBrief s entry = .ok after) : after.entries = s.entries := by
  unfold releaseOptionalBrief at h
  split at h
  · obtain rfl := Except.ok.inj h
    rfl
  · obtain ⟨brief, _, h⟩ := bind_ok h
    exact releaseBrief_entries h

theorem cancelCalendarEntry_entries {entryId : Uuid} {expectedLockVersion : Nat}
    (h : cancelCalendarEntry s env entryId expectedLockVersion = .ok after) :
    ∃ entry ∈ s.entries, after.entries =
      updateRow (·.id) entry.id ({ · with status := .cancelled }) s.entries := by
  obtain ⟨entry, hentry, h⟩ := bind_ok h
  obtain ⟨_, _, h⟩ := bind_ok h
  obtain ⟨released, hreleased, h⟩ := bind_ok h
  obtain rfl := Except.ok.inj h
  refine ⟨entry, (findRow_ok hentry).1, ?_⟩
  have hentries : released.entries = s.entries := releaseOptionalBrief_entries hreleased
  rw [hentries]

/-- How a request resolves conflicts. -/
def DeskRequest.resolution : DeskRequest → Option CalendarConflictResolution
  | .createCalendarEntry data => some data.conflictResolution
  | .createRecurrence data => some data.conflictResolution
  | .approveMonthlyProposal _ data => some data.conflictResolution
  | .moveCalendarEntry _ data => some data.conflictResolution
  | _ => none

section Readers

variable [PlanningReaders]

/-! ## Requests on the calendar -/

theorem minimumSpacing_le (policy : PolicyFields) (zone : Zone) :
    (calendarRules policy zone).minimumSpacing ≤ 30 * day := by
  have hbound : ∀ value default : Int, min (max value 0) 43200 ≤ 43200 := fun _ _ => min_le_right _ _
  have hminute : (0 : Int) ≤ minute := by decide
  have hdays : minute * 43200 = 30 * day := by decide
  unfold calendarRules boundedInt
  rw [← hdays]
  exact mul_le_mul_of_nonneg_left (min_le_right _ _) hminute

/-- A time that was found is free among all live entries exactly when the spread fits. -/
theorem resolvedTime_free_iff {policy : WorkspacePolicySnapshot} {zone : Zone}
    (hzone : PlanningReaders.zone policy.timezone = some zone) (p : Placement)
    (hresolution : p.resolution ≠ .warn) {displayTimezone : String} {time : Int × List CalendarWarning}
    (h : resolveCalendarTime s policy p.channel p.requested displayTimezone p.resolution p.excludingId =
      .ok time) : FreeAmong (calendarRules policy.generationPolicy zone)
        (otherEntries s p.channel p.excludingId) time.1 ↔
      SpreadFits (calendarRules policy.generationPolicy zone) s p := by
  obtain ⟨_, _, h⟩ := bind_ok h
  obtain ⟨found, hfound, h⟩ := bind_ok h
  have hsame : found = zone := by
    unfold zoneOf at hfound
    rw [hzone] at hfound
    exact (Except.ok.inj hfound).symm
  subst hsame
  obtain ⟨hours, hhigh, hkind, hfirst, htime⟩ := settledSlot_ok hresolution h
  rw [htime]
  constructor
  · intro hfree _ other _ _ hother
    rw [hother.unique hfirst]
    exact hfree
  · intro hfits
    rcases Nat.eq_zero_or_pos hours with rfl | hpos
    · have hzero : p.requested + ((0 : Nat) : Int) * hour = p.requested := by simp
      have hwindow := hfirst.1
      rw [hzero] at hwindow ⊢
      exact requested_free (minimumSpacing_le _ _) hwindow
    · have hspread : p.resolution = .autoSpread := hkind.resolve_left hpos.ne'
      exact hfits hspread hours hhigh hpos hfirst

/-- The surroundings have the policy of the workspace or none. -/
def HasPolicy (policy : WorkspacePolicySnapshot) (env : PlanningEnv) : Prop :=
  ∀ found, env.policy = .ok found → found = policy

def entryPlacement (data : CalendarEntryCreate) : Placement :=
  ⟨data.channel, data.scheduledAt, data.conflictResolution, none⟩

def movePlacement (entry : CalendarEntry) (data : CalendarEntryMove) : Placement :=
  ⟨entry.channel, data.scheduledAt, data.conflictResolution, some entry.id⟩

/-- The placements of a recurrence, each with the desk that it finds. -/
def occurrencePlacements (env : PlanningEnv) (data : RecurrenceCreate) (recurrenceId : Uuid) :
    PlanningDesk → List Int → List (PlanningDesk × Placement)
  | _, [] => []
  | s, scheduledAt :: rest =>
    (s, entryPlacement (occurrenceEntry data scheduledAt)) ::
      match createCalendarEntry s env (occurrenceEntry data scheduledAt) (some recurrenceId) true with
      | .ok after => occurrencePlacements env data recurrenceId after rest
      | .error _ => []

/-- The placements of a monthly proposal. -/
def itemPlacements (env : PlanningEnv) (proposal : MonthlyPlanProposal)
    (resolution : CalendarConflictResolution) :
    PlanningDesk → List MonthlyPlanItem → List (PlanningDesk × Placement)
  | _, [] => []
  | s, item :: rest =>
    match itemIdea s env proposal item with
    | .ok found =>
      (found.2, entryPlacement (itemEntry proposal item found.1 resolution)) ::
        match createCalendarEntry found.2 env (itemEntry proposal item found.1 resolution) none
            false with
        | .ok after => itemPlacements env proposal resolution after rest
        | .error _ => []
    | .error _ => []

def requestPlacements (s : PlanningDesk) (env : PlanningEnv) : DeskRequest → List (PlanningDesk × Placement)
  | .createCalendarEntry data => [(s, entryPlacement data)]
  | .createRecurrence data =>
    match zoneOf data.timezone with
    | .ok zone => occurrencePlacements env data s.nextId { s with nextId := s.nextId + 1 }
        (recurrenceTimes data zone)
    | .error _ => []
  | .approveMonthlyProposal proposalId data =>
    match proposalOf s proposalId with
    | .ok proposal => itemPlacements env proposal data.conflictResolution s proposal.proposedItems
    | .error _ => []
  | .moveCalendarEntry entryId data =>
    match entryOf s entryId with
    | .ok entry => [(s, movePlacement entry data)]
    | .error _ => []
  | _ => []

variable {policy : WorkspacePolicySnapshot} {zone : Zone}
  (hzone : PlanningReaders.zone policy.timezone = some zone)

include hzone

theorem createCalendarEntry_spaced_iff {data : CalendarEntryCreate} {recurrenceId : Option Uuid}
    {allowRepeatedBrief : Bool} (hpolicy : HasPolicy policy env)
    (hresolution : data.conflictResolution ≠ .warn)
    (h : createCalendarEntry s env data recurrenceId allowRepeatedBrief = .ok after) :
    ChannelsSpaced (calendarRules policy.generationPolicy zone) after.entries ↔
      ChannelsSpaced (calendarRules policy.generationPolicy zone) s.entries ∧
        SpreadFits (calendarRules policy.generationPolicy zone) s (entryPlacement data) := by
  obtain ⟨entry, _, hstatus, hchannel, ⟨found, hfound, htime⟩, hafter⟩ := createCalendarEntry_ok h
  rw [hpolicy found hfound] at htime
  have hentries : after.entries = s.entries ++ [entry] := by
    rcases hafter with ⟨_, rfl⟩ | ⟨brief, version, _, rfl⟩ <;> rfl
  have hlive : entry.status ≠ .cancelled := by
    rw [hstatus]
    decide
  have hfree := resolvedTime_free_iff hzone (entryPlacement data) hresolution htime
  rw [hentries, channelsSpaced_perm_iff (perm_append_singleton entry s.entries),
    channelsSpaced_cons_iff hlive, hchannel, ← otherEntries_none]
  exact and_congr_right fun _ => hfree

theorem moveCalendarEntry_spaced_iff {entryId : Uuid} {data : CalendarEntryMove} (hbooks : DeskBooks s)
    (hpolicy : HasPolicy policy env) (hresolution : data.conflictResolution ≠ .warn)
    (h : moveCalendarEntry s env entryId data = .ok after)
    (hspaced : ChannelsSpaced (calendarRules policy.generationPolicy zone) s.entries) :
    ∃ entry, entryOf s entryId = .ok entry ∧
      (ChannelsSpaced (calendarRules policy.generationPolicy zone) after.entries ↔
        SpreadFits (calendarRules policy.generationPolicy zone) s (movePlacement entry data)) := by
  obtain ⟨entry, hmem, rfl, hstatus, time, ⟨found, hfound, htime⟩, rfl⟩ := moveCalendarEntry_ok h
  rw [hpolicy found hfound] at htime
  refine ⟨entry, ?_, ?_⟩
  · unfold entryOf findRow
    rw [hbooks.entries.keyed.find?_eq hmem]
  · have hfree := resolvedTime_free_iff hzone (movePlacement entry data) hresolution htime
    rw [movePlacement, otherEntries_some] at hfree
    refine (channelsSpaced_updateRow_iff hbooks.entries.keyed hmem ?_ hstatus hspaced).trans hfree
    exact fun _ => rfl

section

variable (hpolicy : HasPolicy policy env)

include hpolicy

theorem createOccurrences_spaced_iff {data : RecurrenceCreate} {recurrenceId : Uuid}
    (hresolution : data.conflictResolution ≠ .warn) {times : List Int}
    (h : createOccurrences env data recurrenceId s times = .ok after) :
    ChannelsSpaced (calendarRules policy.generationPolicy zone) after.entries ↔
      ChannelsSpaced (calendarRules policy.generationPolicy zone) s.entries ∧
        ∀ found ∈ occurrencePlacements env data recurrenceId s times,
          SpreadFits (calendarRules policy.generationPolicy zone) found.1 found.2 := by
  induction times generalizing s with
  | nil =>
    cases h
    simp [occurrencePlacements]
  | cons scheduledAt rest ih =>
    obtain ⟨next, hnext, h⟩ := bind_ok h
    have hplaced := createCalendarEntry_spaced_iff hzone hpolicy hresolution hnext
    unfold occurrencePlacements
    simp only [hnext, forall_mem_cons]
    rw [ih h, hplaced, and_assoc]

theorem createItems_spaced_iff {proposal : MonthlyPlanProposal}
    {resolution : CalendarConflictResolution} (hresolution : resolution ≠ .warn)
    {items : List MonthlyPlanItem} (h : createItems env proposal resolution s items = .ok after) :
    ChannelsSpaced (calendarRules policy.generationPolicy zone) after.entries ↔
      ChannelsSpaced (calendarRules policy.generationPolicy zone) s.entries ∧
        ∀ found ∈ itemPlacements env proposal resolution s items,
          SpreadFits (calendarRules policy.generationPolicy zone) found.1 found.2 := by
  induction items generalizing s with
  | nil =>
    cases h
    simp [itemPlacements]
  | cons item rest ih =>
    obtain ⟨linked, hlinked, h⟩ := bind_ok h
    obtain ⟨next, hnext, h⟩ := bind_ok h
    obtain ⟨catalogue, nextId, _, heq⟩ := itemIdea_ok hlinked
    have hentries : linked.2.entries = s.entries := by rw [heq]
    have hplaced := createCalendarEntry_spaced_iff hzone hpolicy hresolution hnext
    rw [hentries] at hplaced
    unfold itemPlacements
    simp only [hlinked, hnext, forall_mem_cons]
    rw [ih h, hplaced, and_assoc]

theorem createRecurrence_spaced_iff {data : RecurrenceCreate}
    (hresolution : data.conflictResolution ≠ .warn) (h : createRecurrence s env data = .ok after)
    (hspaced : ChannelsSpaced (calendarRules policy.generationPolicy zone) s.entries) :
    ChannelsSpaced (calendarRules policy.generationPolicy zone) after.entries ↔
      ∀ found ∈ requestPlacements s env (.createRecurrence data),
        SpreadFits (calendarRules policy.generationPolicy zone) found.1 found.2 := by
  obtain ⟨_, _, h⟩ := bind_ok h
  obtain ⟨_, _, h⟩ := bind_ok h
  obtain ⟨local_zone, hlocal, h⟩ := bind_ok h
  unfold requestPlacements
  simp only [hlocal]
  rw [createOccurrences_spaced_iff hzone hpolicy hresolution h]
  exact and_iff_right hspaced

theorem approveMonthlyProposal_spaced_iff {proposalId : Uuid} {data : MonthlyPlanDecision}
    (hresolution : data.conflictResolution ≠ .warn)
    (h : approveMonthlyProposal s env proposalId data = .ok after)
    (hspaced : ChannelsSpaced (calendarRules policy.generationPolicy zone) s.entries) :
    ChannelsSpaced (calendarRules policy.generationPolicy zone) after.entries ↔
      ∀ found ∈ requestPlacements s env (.approveMonthlyProposal proposalId data),
        SpreadFits (calendarRules policy.generationPolicy zone) found.1 found.2 := by
  obtain ⟨proposal, hproposal, h⟩ := bind_ok h
  obtain ⟨_, _, h⟩ := bind_ok h
  obtain ⟨_, _, h⟩ := bind_ok h
  obtain ⟨_, _, h⟩ := bind_ok h
  obtain ⟨_, _, h⟩ := bind_ok h
  obtain ⟨placed, hplaced, h⟩ := bind_ok h
  obtain rfl := Except.ok.inj h
  unfold requestPlacements
  simp only [hproposal]
  rw [createItems_spaced_iff hzone hpolicy hresolution hplaced]
  exact and_iff_right hspaced

end

/-- Where every channel was spaced, an accepted request keeps it so exactly when all its
placements fit. -/
theorem performRequest_spaced_iff {request : DeskRequest} (hbooks : DeskBooks s)
    (hpolicy : HasPolicy policy env) (hresolution : request.resolution ≠ some .warn)
    (h : performRequest s env request = .ok after)
    (hspaced : ChannelsSpaced (calendarRules policy.generationPolicy zone) s.entries) :
    ChannelsSpaced (calendarRules policy.generationPolicy zone) after.entries ↔
      ∀ found ∈ requestPlacements s env request,
        SpreadFits (calendarRules policy.generationPolicy zone) found.1 found.2 := by
  have hsame : after.entries = s.entries →
      ChannelsSpaced (calendarRules policy.generationPolicy zone) after.entries := by
    intro heq
    rw [heq]
    exact hspaced
  have hnone : ∀ found ∈ ([] : List (PlanningDesk × Placement)),
      SpreadFits (calendarRules policy.generationPolicy zone) found.1 found.2 :=
    fun _ h => absurd h not_mem_nil
  cases request with
  | createBrief data => exact absurd h createBrief_raises
  | createBriefVersion briefId data => exact absurd h (createBriefVersion_raises hbooks.briefs.current)
  | transitionBrief briefId data command => exact absurd h transitionBrief_raises
  | decideBrief briefId data => exact iff_of_true (hsame (decideBrief_entries h)) hnone
  | createCalendarEntry data =>
    have hkind : data.conflictResolution ≠ .warn := fun heq => hresolution (congrArg some heq)
    rw [createCalendarEntry_spaced_iff hzone hpolicy hkind h, and_iff_right hspaced]
    unfold requestPlacements
    simp only [forall_mem_singleton]
  | createRecurrence data =>
    have hkind : data.conflictResolution ≠ .warn := fun heq => hresolution (congrArg some heq)
    exact createRecurrence_spaced_iff hzone hpolicy hkind h hspaced
  | approveMonthlyProposal proposalId data =>
    have hkind : data.conflictResolution ≠ .warn := fun heq => hresolution (congrArg some heq)
    exact approveMonthlyProposal_spaced_iff hzone hpolicy hkind h hspaced
  | moveCalendarEntry entryId data =>
    have hkind : data.conflictResolution ≠ .warn := fun heq => hresolution (congrArg some heq)
    obtain ⟨entry, hentry, hmoved⟩ := moveCalendarEntry_spaced_iff hzone hbooks hpolicy hkind h hspaced
    rw [hmoved]
    unfold requestPlacements
    simp only [hentry, forall_mem_singleton]
  | cancelCalendarEntry entryId lock =>
    refine iff_of_true ?_ hnone
    obtain ⟨entry, hmem, hentries⟩ := cancelCalendarEntry_entries h
    rw [hentries]
    exact hspaced.cancel hbooks.entries.keyed hmem (fun _ => rfl) rfl
  | rewriteCatalogue catalogue =>
    obtain rfl := Except.ok.inj h
    exact iff_of_true hspaced hnone

omit hzone

/-- A request under the policy that does not ask for mere warnings. -/
structure UnderPolicy (policy : WorkspacePolicySnapshot) (action : DeskAction) : Prop where
  policy : HasPolicy policy action.env
  resolution : action.request.resolution ≠ some .warn

def PlacementsFit (rules : CalendarRules) (s : PlanningDesk) (action : DeskAction) : Prop :=
  match performRequest s action.env action.request with
  | .ok _ => ∀ found ∈ requestPlacements s action.env action.request, SpreadFits rules found.1 found.2
  | .error _ => True

instance (rules : CalendarRules) (s : PlanningDesk) (action : DeskAction) :
    Decidable (PlacementsFit rules s action) := by
  unfold PlacementsFit
  split <;> infer_instance

/-- A refused request changes nothing. -/
def RefusedUnchanged (s : PlanningDesk) (action : DeskAction) : Prop :=
  ∀ failure, performRequest s action.env action.request = .error failure → deskStep s action = s

/-- Every state of a run keeps the rules in every channel. -/
structure CalendarKept (rules : CalendarRules) (actions : List DeskAction) : Prop where
  spaced : ∀ before, before <+: actions → ChannelsSpaced rules (run deskStep {} before).entries
  refused : Along deskStep RefusedUnchanged {} actions

theorem refusedUnchanged (s : PlanningDesk) (action : DeskAction) : RefusedUnchanged s action := by
  intro failure hfailure
  unfold deskStep
  rw [hfailure]

include hzone

theorem deskStep_spaced_iff {action : DeskAction} (hbooks : DeskBooks s) (haction : UnderPolicy policy action)
    (hspaced : ChannelsSpaced (calendarRules policy.generationPolicy zone) s.entries) :
    ChannelsSpaced (calendarRules policy.generationPolicy zone) (deskStep s action).entries ↔
      PlacementsFit (calendarRules policy.generationPolicy zone) s action := by
  unfold deskStep PlacementsFit
  cases hok : performRequest s action.env action.request with
  | ok after =>
    exact performRequest_spaced_iff hzone hbooks haction.policy haction.resolution hok hspaced
  | error failure => exact iff_of_true hspaced trivial

/-- A run without mere warnings keeps the calendar rules exactly when the placements of its
accepted requests fit. -/
theorem calendarKept_iff {actions : List DeskAction}
    (h : Along deskStep (fun _ action => UnderPolicy policy action) {} actions) :
    CalendarKept (calendarRules policy.generationPolicy zone) actions ↔
      Along deskStep (PlacementsFit (calendarRules policy.generationPolicy zone)) {} actions := by
  have hthroughout := throughout_iff_along_of_invariant deskStep
    (I := fun s => DeskBooks s ∧ ChannelsSpaced (calendarRules policy.generationPolicy zone) s.entries)
    (P := fun s => ChannelsSpaced (calendarRules policy.generationPolicy zone) s.entries)
    (Q := PlacementsFit (calendarRules policy.generationPolicy zone))
    (fun _ hs => hs.2)
    (fun _ _ hs haction => deskStep_spaced_iff hzone hs.1 haction hs.2)
    (fun _ action hs haction hfits => ⟨deskBooks_step hs.1 action,
      (deskStep_spaced_iff hzone hs.1 haction hs.2).mpr hfits⟩)
    ⟨deskBooks_empty, channelsSpaced_empty _⟩ h
  have hrefused : Along deskStep RefusedUnchanged {} actions :=
    along_of_invariant deskStep (I := fun _ => True) (P := fun _ _ => True)
      (fun _ _ _ _ => trivial) (fun s action _ _ => refusedUnchanged s action) trivial
      (h.imp deskStep fun _ _ _ => trivial)
  rw [← hthroughout]
  exact ⟨fun hkept => hkept.spaced, fun hspaced => ⟨hspaced, hrefused⟩⟩

end Readers

/-! ## A month of spacing -/

section Sample

attribute [local instance] sampleReaders

def spacingPolicy (minutes : Int) : WorkspacePolicySnapshot :=
  samplePolicy [] [("minimum_calendar_spacing_minutes", .int minutes)]

theorem undue (scheduledAt : Int) : ∀ due ∈ (none : Option Int), scheduledAt ≤ due :=
  fun _ hdue => by cases hdue

def entryAt (scheduledAt : Int) (resolution : CalendarConflictResolution) (minutes : Int) : DeskAction :=
  ⟨sampleEnv 7 (spacingPolicy minutes), .createCalendarEntry {
    title := some "title"
    channel := "blog"
    timezone := "UTC"
    scheduledAt := scheduledAt
    conflictResolution := resolution
    links_or_title := .inr (.inr (by decide))
    due_after := undue scheduledAt }⟩

theorem entryAt_under (scheduledAt : Int) {resolution : CalendarConflictResolution} (h : resolution ≠ .warn)
    (minutes : Int) : UnderPolicy (spacingPolicy minutes) (entryAt scheduledAt resolution minutes) where
  policy _ hfound := (Except.ok.inj hfound).symm
  resolution heq := h (Option.some.inj heq)

theorem entryAt_fits {scheduledAt : Int} {resolution : CalendarConflictResolution} {minutes : Int}
    (h : ∀ row ∈ s.entries, row.scheduledAt < scheduledAt + 32 * day) :
    PlacementsFit (calendarRules (spacingPolicy minutes).generationPolicy utc) s
      (entryAt scheduledAt resolution minutes) := by
  unfold PlacementsFit
  split
  · intro found hfound
    obtain rfl := mem_singleton.mp hfound
    apply spreadFits_of_none_later (minimumSpacing_le _ _)
    intro row hrow
    exact h row (mem_of_mem_filter (mem_of_mem_filter hrow))
  · trivial

/-- Two entries of one hour, the second one is spread. -/
def spreadRun : List DeskAction := [entryAt 0 .block 60, entryAt 0 .autoSpread 60]

theorem spreadRun_kept : CalendarKept (calendarRules (spacingPolicy 60).generationPolicy utc) spreadRun := by
  have hunder : Along deskStep (fun _ action => UnderPolicy (spacingPolicy 60) action) {}
      spreadRun :=
    ⟨entryAt_under 0 (by decide) 60, entryAt_under 0 (by decide) 60, trivial⟩
  have hzone : PlanningReaders.zone (spacingPolicy 60).timezone = some utc := rfl
  apply (calendarKept_iff hzone hunder).mpr
  refine ⟨entryAt_fits (by decide +kernel), entryAt_fits (by decide +kernel), trivial⟩

/-- An entry is spread by 30 days, to ten days before the next one. -/
def crossingRun : List DeskAction :=
  [entryAt 0 .block 43200, entryAt (40 * day) .block 43200, entryAt 0 .autoSpread 43200]

theorem crossingRun_not_kept :
    ¬ CalendarKept (calendarRules (spacingPolicy 43200).generationPolicy utc) crossingRun := by
  intro h
  have hclose : ¬ (liveIn (run deskStep {} crossingRun).entries "blog").Pairwise fun a b =>
      (calendarRules (spacingPolicy 43200).generationPolicy utc).minimumSpacing ≤
        |a.scheduledAt - b.scheduledAt| := by
    decide +kernel
  exact hclose (h.spaced crossingRun (prefix_refl _) "blog").apart

end Sample

end BlogOps.Planning
