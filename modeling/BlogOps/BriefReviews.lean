import BlogOps.CalendarBriefs
import Mathlib.Data.Finset.Card

/-!
# Reviews of briefs

No run from the empty tables leaves a brief, since the creation of one raises when
it reads the row back.  In tables that have briefs no further one is approved, so
those that are keep the quorums of their stages.
-/

namespace BlogOps.Planning

open KeyedTables TransitionRuns

def Allowed (stage : ApprovalStage) (userId : Uuid) : Prop :=
  stage.approverUserIds = [] ∨ userId ∈ stage.approverUserIds

/-- Enough approvals of the version by different users that the stage allows. -/
structure QuorumOf (s : PlanningDesk) (version : BriefVersion) (stage : ApprovalStage)
    (rows : List BriefDecision) : Prop where
  rows_of : ∀ row ∈ rows, row ∈ s.decisions ∧ row.briefVersionId = version.id ∧ row.decision = .approve
  enough : stage.requiredApprovals ≤ rows.length
  users : (rows.map (·.decidedBy)).Nodup
  allowed : ∀ row ∈ rows, Allowed stage row.decidedBy

/-- Every stage has a quorum of its own. -/
def EveryQuorum (s : PlanningDesk) (version : BriefVersion) : Prop := ∃ rows : Nat → List BriefDecision,
    (∀ index stage, version.approvalStages[index]? = some stage → QuorumOf s version stage (rows index)) ∧
    ∀ index other, index ≠ other → List.Disjoint (rows index) (rows other)

def Placeable (status : BriefStatus) : Prop := status = .approved ∨ status = .scheduled

def ApprovedByAll (s : PlanningDesk) : Prop :=
  ∀ brief ∈ s.briefs, Placeable brief.status →
    ∀ version, CurrentVersion s.versions brief version → EveryQuorum s version

/-- Enough different approvers, where a stage lists them. -/
def EnoughApprovers (version : BriefVersion) : Prop :=
  ∀ stage ∈ version.approvalStages, stage.approverUserIds = [] ∨
    stage.requiredApprovals ≤ stage.approverUserIds.toFinset.card

/-- An approval of the brief by a user with a second factor. -/
def Approves (briefId : Uuid) (action : DeskAction) : Prop :=
  action.env.principal.authenticationMethod = "mfa" ∧ ∃ data : BriefDecisionRequest,
    data.decision = .approve ∧ action.request = .decideBrief briefId data

variable {s after : PlanningDesk}

/-- What a run leaves of the rows: versions stay, decisions are added to, and a brief keeps its
current version and changes its status only between approved and scheduled. -/
structure Settled (s after : PlanningDesk) : Prop where
  versions : after.versions = s.versions
  decisions : s.decisions <+: after.decisions
  briefs : ∀ row ∈ after.briefs, ∃ brief ∈ s.briefs, row.id = brief.id ∧
    row.currentVersionId = brief.currentVersionId ∧
    (row.status = brief.status ∨ Placeable row.status ∧ Placeable brief.status)

theorem Settled.refl (s : PlanningDesk) : Settled s s where
  versions := rfl
  decisions := List.prefix_rfl
  briefs row hrow := ⟨row, hrow, rfl, rfl, .inl rfl⟩

theorem Settled.trans {between : PlanningDesk} (h : Settled s between) (h' : Settled between after) :
    Settled s after where
  versions := h'.versions.trans h.versions
  decisions := h.decisions.trans h'.decisions
  briefs row hrow := by
    obtain ⟨middle, hmiddle, hid, hcurrent, hstatus⟩ := h'.briefs row hrow
    obtain ⟨brief, hbrief, hid', hcurrent', hstatus'⟩ := h.briefs middle hmiddle
    refine ⟨brief, hbrief, hid.trans hid', hcurrent.trans hcurrent', ?_⟩
    rcases hstatus with heq | ⟨hrow, hplaced⟩
    · rw [heq]
      exact hstatus'
    · rcases hstatus' with heq | ⟨_, hbriefPlaced⟩
      · exact .inr ⟨hrow, heq ▸ hplaced⟩
      · exact .inr ⟨hrow, hbriefPlaced⟩

theorem Settled.of_briefs (hversions : after.versions = s.versions)
    (hdecisions : after.decisions = s.decisions) (hbriefs : after.briefs = s.briefs) :
    Settled s after where
  versions := hversions
  decisions := hdecisions ▸ List.prefix_rfl
  briefs row hrow := ⟨row, hbriefs ▸ hrow, rfl, rfl, .inl rfl⟩

/-- One brief changes between approved and scheduled. -/
theorem Settled.restated {brief : ContentBrief} {status : BriefStatus} (hkeyed : Keyed (·.id) s.briefs)
    (hbrief : brief ∈ s.briefs) (hbefore : Placeable brief.status) (hafter : Placeable status)
    (hversions : after.versions = s.versions) (hdecisions : after.decisions = s.decisions)
    (hbriefs : after.briefs = updateRow (·.id) brief.id ({ · with status := status }) s.briefs) :
    Settled s after where
  versions := hversions
  decisions := hdecisions ▸ List.prefix_rfl
  briefs row hrow := by
    rw [hbriefs] at hrow
    rcases hkeyed.mem_updateRow hbrief hrow with rfl | ⟨hold, _⟩
    · exact ⟨brief, hbrief, rfl, rfl, .inr ⟨hafter, hbefore⟩⟩
    · exact ⟨row, hold, rfl, rfl, .inl rfl⟩

theorem settled_change (hbooks : DeskBooks s) (hchange : DeskChange s after) : Settled s after := by
  cases hchange with
  | kept decisions catalogue nextId _ =>
    exact ⟨rfl, List.prefix_append _ _, fun row hrow => ⟨row, hrow, rfl, rfl, .inl rfl⟩⟩
  | placedAlone entry _ _ _ => exact .of_briefs rfl rfl rfl
  | placedFor entry brief version _ _ hbrief =>
    unfold scheduledBriefs
    split_ifs with happroved
    · exact .restated hbooks.briefs.keyed hbrief.mem (.inl happroved) (.inr rfl) rfl rfl rfl
    · exact .of_briefs rfl rfl rfl
  | moved entry _ _ _ _ _ => exact .of_briefs rfl rfl rfl
  | cancelledAlone entry _ _ => exact .of_briefs rfl rfl rfl
  | cancelledFor entry brief _ hbrief _ =>
    unfold releasedBriefs
    split_ifs with hreleased
    · exact .restated hbooks.briefs.keyed hbrief (.inr hreleased.1) (.inl rfl) rfl rfl rfl
    · exact .of_briefs rfl rfl rfl

section Readers

variable [PlanningReaders]

theorem settled_run (hbooks : DeskBooks s) (actions : List DeskAction) :
    Settled s (run deskStep s actions) := by
  have hboth := invariant_run deskStep (I := fun current => DeskBooks current ∧ Settled s current)
    (fun current action hs => kept_by_step (I := fun current => DeskBooks current ∧ Settled s current)
      hs.1.briefs (fun _ _ hbefore hchange => ⟨deskBooks_change hbefore.1 hchange,
        hbefore.2.trans (settled_change hbefore.1 hchange)⟩) hs)
    ⟨hbooks, .refl s⟩ actions
  exact hboth.2

/-- A run from the empty tables leaves no brief. -/
theorem no_brief_left (actions : List DeskAction) : (run deskStep {} actions).briefs = [] := by
  refine List.eq_nil_iff_forall_not_mem.mpr fun row hrow => ?_
  obtain ⟨brief, hbrief, _⟩ := (settled_run deskBooks_empty actions).briefs row hrow
  exact absurd hbrief List.not_mem_nil

end Readers

section Sample

attribute [local instance] sampleReaders

/-- The first brief of a workspace. -/
example : createBrief {} (sampleEnv 7 (samplePolicy [] [])) sampleBrief =
    .error (.integrity "MissingGreenlet") := by
  decide +kernel

end Sample

section Readers

variable [PlanningReaders]

omit [PlanningReaders] in
theorem EveryQuorum.later {version : BriefVersion} (h : EveryQuorum s version)
    (hdecisions : s.decisions <+: after.decisions) : EveryQuorum after version := by
  obtain ⟨rows, hquorums, hdisjoint⟩ := h
  refine ⟨rows, fun index stage hstage => ?_, hdisjoint⟩
  obtain ⟨hof, henough, husers, hallowed⟩ := hquorums index stage hstage
  refine ⟨fun row hrow => ?_, henough, husers, hallowed⟩
  exact ⟨hdecisions.subset (hof row hrow).1, (hof row hrow).2⟩

omit [PlanningReaders] in
theorem Settled.approvedByAll (h : Settled s after) (happroved : ApprovedByAll s) : ApprovedByAll after := by
  intro row hrow hstatus version hversion
  obtain ⟨brief, hbrief, hid, hcurrent, hsame⟩ := h.briefs row hrow
  have hplaced : Placeable brief.status := by
    rcases hsame with heq | ⟨_, hbefore⟩
    · exact heq ▸ hstatus
    · exact hbefore
  have hold : CurrentVersion s.versions brief version :=
    ⟨h.versions ▸ hversion.mem, hcurrent ▸ hversion.current, hversion.briefId.trans hid⟩
  exact (happroved brief hbrief hplaced version hold).later h.decisions

/-- The brief is approved after some further approvals of it. -/
def Approvable (s : PlanningDesk) (briefId : Uuid) : Prop :=
  ∃ actions, (∀ action ∈ actions, Approves briefId action) ∧
    ∃ brief ∈ (run deskStep s actions).briefs, brief.id = briefId ∧ brief.status = .approved

/-- Every review of a version with enough approvers can be approved. -/
def ReviewsApprovable (s : PlanningDesk) : Prop :=
  ∀ brief ∈ s.briefs, brief.status = .waitingReview → ∀ version,
    CurrentVersion s.versions brief version → EnoughApprovers version → Approvable s brief.id

end Readers

end BlogOps.Planning
