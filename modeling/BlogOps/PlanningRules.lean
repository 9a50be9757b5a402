import Mathlib.Algebra.Order.Group.Abs
import Mathlib.Algebra.Order.Ring.Int
import Mathlib.Data.List.Basic
import Mathlib.Tactic.Ring

/-!
# Planning rules

The states of a content brief and the calendar rules: a conflict is looked for
among the slots of one channel, by distance and by workspace-local day, and
`AUTO_SPREAD` tries the hours after the requested time.  Instants are
microseconds since the epoch.
-/

namespace BlogOps.Planning

inductive BriefStatus where
  | draft | waitingReview | revisionRequested | approved | rejected | scheduled | archived
deriving DecidableEq, Repr

inductive BriefEvent where
  | submit | requestChanges | approveStage | approveFinal | reject | revise | schedule
  | unschedule | archive
deriving DecidableEq, Repr

def briefTransitions : List ((BriefStatus × BriefEvent) × BriefStatus) :=
  [((.draft, .submit), .waitingReview), ((.revisionRequested, .revise), .draft),
    ((.rejected, .revise), .draft),
    ((.waitingReview, .requestChanges), .revisionRequested),
    ((.waitingReview, .approveStage), .waitingReview),
    ((.waitingReview, .approveFinal), .approved),
    ((.waitingReview, .reject), .rejected),
    ((.approved, .schedule), .scheduled),
    ((.scheduled, .unschedule), .approved)]

/-- The next state, `none` for `InvalidPlanningTransition`. -/
def transitionBriefStatus (current : BriefStatus) (event : BriefEvent) : Option BriefStatus :=
  if event = .archive ∧ current ≠ .archived then some .archived
  else List.lookup (current, event) briefTransitions

def minute : Int := 60_000_000
def hour : Int := 60 * minute
def day : Int := 24 * hour

/-- A time zone: the offset of its local time at an instant, which of two equal local times the
instant has, and the offset of a local time. An offset is less than a day. -/
structure Zone where
  utcOffset : Int → Int
  fold : Int → Bool := fun _ => false
  wallOffset : Int → Bool → Int
  utcOffset_lt : ∀ instant, |utcOffset instant| < day

def Zone.wall (zone : Zone) (instant : Int) : Int := instant + zone.utcOffset instant

def Zone.localDate (zone : Zone) (instant : Int) : Int := zone.wall instant / day

structure CalendarSlot where
  entryId : Nat
  scheduledAt : Int
deriving DecidableEq, Repr

inductive ConflictKind where
  | minimumSpacing | dailyChannelCapacity
deriving DecidableEq, Repr

structure CalendarConflict where
  kind : ConflictKind
  conflictingEntryIds : List Nat
  dayCount : Nat
deriving DecidableEq, Repr

inductive CalendarConflictResolution where
  | block | warn | autoSpread
deriving DecidableEq, Repr

structure CalendarRules where
  minimumSpacing : Int
  maximumPerLocalDay : Nat
  zone : Zone

variable (rules : CalendarRules)

def sameDay (candidate : Int) (existing : List CalendarSlot) : List CalendarSlot :=
  existing.filter fun item => rules.zone.localDate item.scheduledAt = rules.zone.localDate candidate

def tooClose (candidate : Int) (existing : List CalendarSlot) : List CalendarSlot :=
  existing.filter fun item => |item.scheduledAt - candidate| < rules.minimumSpacing

def detectCalendarConflict (candidate : Int) (existing : List CalendarSlot) : Option CalendarConflict :=
  let sameDay := sameDay rules candidate existing
  let tooClose := tooClose rules candidate existing
  if tooClose ≠ [] then
    some {
      kind := .minimumSpacing
      conflictingEntryIds := tooClose.map (·.entryId)
      dayCount := sameDay.length }
  else if rules.maximumPerLocalDay ≤ sameDay.length then
    some {
      kind := .dailyChannelCapacity
      conflictingEntryIds := sameDay.map (·.entryId)
      dayCount := sameDay.length }
  else none

def spreadAttempts : Nat := 24 * 31

/-- The hours after `candidate`, the first one without a conflict. -/
def spreadSlot (rules : CalendarRules) (existing : List CalendarSlot) : Nat → Int → Option Int
  | 0, _ => none
  | attempts + 1, candidate =>
    if detectCalendarConflict rules (candidate + hour) existing = none then
      some (candidate + hour)
    else spreadSlot rules existing attempts (candidate + hour)

/-- The slot and the conflict of the requested time, `none` where no hour is free. -/
def resolveCalendarSlot (requested : Int) (existing : List CalendarSlot)
    (resolution : CalendarConflictResolution) : Option (Int × Option CalendarConflict) :=
  let conflict := detectCalendarConflict rules requested existing
  if conflict = none ∨ resolution ≠ .autoSpread then some (requested, conflict)
  else (spreadSlot rules existing spreadAttempts requested).map fun candidate => (candidate, conflict)

/-! ### What the rules say -/

section

variable {rules : CalendarRules} {candidate : Int} {existing : List CalendarSlot}

theorem detectCalendarConflict_eq_none : detectCalendarConflict rules candidate existing = none ↔
      (∀ item ∈ existing, rules.minimumSpacing ≤ |item.scheduledAt - candidate|) ∧
        (sameDay rules candidate existing).length < rules.maximumPerLocalDay := by
  have hclose : tooClose rules candidate existing = [] ↔
      ∀ item ∈ existing, rules.minimumSpacing ≤ |item.scheduledAt - candidate| := by
    unfold tooClose
    simp only [List.filter_eq_nil_iff, decide_eq_true_eq, not_lt]
  unfold detectCalendarConflict
  dsimp only
  rw [← hclose]
  split_ifs with hnear hfull
  · simp [hnear]
  · simp only [false_iff, not_and, not_lt]
    exact fun _ => hfull
  · exact iff_of_true rfl ⟨not_not.mp hnear, not_le.mp hfull⟩

/-- The spread finds the first hour without a conflict. -/
theorem spreadSlot_eq_some {attempts : Nat} {found : Int} :
    spreadSlot rules existing attempts candidate = some found ↔
      ∃ hours : Nat, 1 ≤ hours ∧ hours ≤ attempts ∧ found = candidate + hours * hour ∧
        detectCalendarConflict rules found existing = none ∧
        ∀ earlier : Nat, 1 ≤ earlier → earlier < hours →
          detectCalendarConflict rules (candidate + earlier * hour) existing ≠ none := by
  induction attempts generalizing candidate with
  | zero =>
    simp only [spreadSlot, reduceCtorEq, false_iff]
    rintro ⟨hours, hlow, hhigh, _⟩
    omega
  | succ attempts ih =>
    unfold spreadSlot
    split_ifs with hfree
    · constructor
      · intro h
        obtain rfl := Option.some.inj h
        refine ⟨1, le_rfl, by omega, by simp, hfree, fun earlier hlow hhigh => ?_⟩
        omega
      · rintro ⟨hours, hlow, _, rfl, _, hearlier⟩
        have hone : hours = 1 := by
          by_contra hne
          apply hearlier 1 le_rfl (by omega)
          simpa using hfree
        rw [hone]
        simp
    · rw [ih]
      constructor
      · rintro ⟨hours, hlow, hhigh, rfl, hfound, hearlier⟩
        refine ⟨hours + 1, by omega, by omega, by push_cast; ring, hfound, fun earlier hfirst hlast => ?_⟩
        rcases Nat.lt_or_ge 1 earlier with hmore | hone
        · have hprev := hearlier (earlier - 1) (by omega) (by omega)
          have heq : candidate + hour + ((earlier - 1 : Nat) : Int) * hour =
              candidate + earlier * hour := by
            rw [Nat.cast_sub (by omega)]
            push_cast
            ring
          rw [heq] at hprev
          exact hprev
        · obtain rfl : earlier = 1 := by omega
          simpa using hfree
      · rintro ⟨hours, hlow, hhigh, rfl, hfound, hearlier⟩
        have hmore : 1 < hours := by
          by_contra hle
          obtain rfl : hours = 1 := by omega
          apply hfree
          simpa using hfound
        have heq : ∀ later : Nat, candidate + hour + (later : Int) * hour =
            candidate + ((later + 1 : Nat) : Int) * hour := by
          intro later
          push_cast
          ring
        refine ⟨hours - 1, by omega, by omega, ?_, hfound, fun earlier hfirst hlast => ?_⟩
        · rw [heq, Nat.sub_add_cancel (by omega)]
        · rw [heq]
          exact hearlier (earlier + 1) (by omega) (by omega)

end

end BlogOps.Planning
