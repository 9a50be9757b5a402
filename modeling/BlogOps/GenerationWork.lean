import BlogOps.GenerationPlan

/-!
# Working off a generation job

A worker claims the first step that is pending or retrying, completes it and
goes on.  The parent state follows the kind of the claimed step, so a queued
job can be worked off exactly when its unfinished steps are all claimable and
their kinds lead from `QUEUED` to the review along allowed transitions.
-/

namespace BlogOps.Generation

open Jobs KeyedTables TransitionRuns List

/-- The steps that are still to be completed, in the order of the plan. -/
def unfinished (job : GenerationJob) : List GenerationJobStep := job.steps.filter (·.state ≠ .succeeded)

/-- A worker that claims and completes steps until no step is left to claim. -/
def work (clock : Nat → Int) : Nat → GenerationJob →
    Except Failure (List GenerationJobStep × GenerationJob)
  | 0, job => .ok ([], job)
  | fuel + 1, job => do
    let (step, job) ← claimNextStep (clock (2 * fuel + 1)) job
    match step with
    | none => .ok ([], job)
    | some step => do
      let job ← completeStep (clock (2 * fuel)) step.id job
      let (steps, job) ← work clock fuel job
      .ok (step :: steps, job)

/-- The next claim takes the smallest-ordinal step that is not `SUCCEEDED`; claiming and
completing from there on takes every remaining step in the order of the ordinals, and the
result can be finalized for review. -/
structure Progresses (job : GenerationJob) : Prop where
  claims : ∀ now, ∃ step after, claimNextStep now job = .ok (some step, after) ∧
    step.id ∈ (unfinished job).map (·.id) ∧
    ∀ other ∈ unfinished job, step.ordinal ≤ other.ordinal
  completes : ∀ clock, ∃ claimed final, work clock (job.steps.length + 1) job = .ok (claimed, final) ∧
      claimed.map (·.id) = (unfinished job).map (·.id) ∧
      (claimed.Pairwise fun step other => step.ordinal < other.ordinal) ∧
      ∃ reviewed, enterWaitingReview final = .ok reviewed

/-- The parent states on the way through steps of these kinds. -/
def follow : JobState → List GenerationStepKind → Option JobState
  | state, [] => some state
  | state, kind :: kinds =>
    if stepJobState kind = state ∨ stepJobState kind ∈ allowedJobTransitions state then
      follow (stepJobState kind) kinds
    else none

def reviewable (state : JobState) : Bool :=
  state = .waitingReview || .waitingReview ∈ allowedJobTransitions state

/-- Steps of these kinds can be worked off from `state` and then reviewed. -/
def reachesReview (state : JobState) (kinds : List GenerationStepKind) : Bool :=
  (follow state kinds).any reviewable

variable {step : GenerationJobStep} {steps : List GenerationJobStep} {job : GenerationJob}
variable {kind : GenerationStepKind}

theorem claimable_unfinished (h : claimable step = true) : step.state ≠ .succeeded := by
  intro hstate
  simp [claimable, hstate] at h

theorem firstByOrdinal_ordered (h : steps.Pairwise fun step other => step.ordinal < other.ordinal) :
    firstByOrdinal steps = steps.head? := by
  induction steps with
  | nil => rfl
  | cons step rest ih =>
    obtain ⟨hstep, hrest⟩ := pairwise_cons.mp h
    unfold firstByOrdinal
    rw [ih hrest]
    cases rest with
    | nil => rfl
    | cons other rest =>
      have hlt := hstep other mem_cons_self
      simp only [head?_cons]
      rw [if_neg (by omega)]

theorem claimNextStep_eq (hplan : PlannedJob job)
    (hclaimable : ∀ step ∈ unfinished job, claimable step = true)
    (hstate : job.state ≠ .cancelRequested) (hlive : job.state ∉ terminalJobStates) (now : Int) :
    claimNextStep now job = (match unfinished job with
      | [] => .ok (none, job)
      | step :: _ => do
        let job ← enterStepState step job
        let job := updateStep step.id (claimedStep now) job
        .ok (some (claimedStep now step),
          { job with startedAt := job.startedAt <|> some now })) := by
  have hfilter : job.steps.filter claimable = unfinished job := by
    refine filter_congr fun step hstep => ?_
    rw [Bool.eq_iff_iff]
    constructor
    · intro h
      simpa using claimable_unfinished h
    · intro h
      exact hclaimable step (mem_filter.mpr ⟨hstep, h⟩)
  have hfirst : firstByOrdinal (unfinished job) = (unfinished job).head? :=
    firstByOrdinal_ordered (hplan.ordered.sublist filter_sublist)
  unfold claimNextStep
  rw [if_neg hstate, if_neg hlive, hfilter, hfirst]
  cases unfinished job <;> rfl

def live (state : JobState) : Prop := state ≠ .cancelRequested ∧ state ∉ terminalJobStates

theorem live_stepJobState (kind : GenerationStepKind) : live (stepJobState kind) := by
  cases kind <;> simp [live, stepJobState, terminalJobStates]

def succeededStep (now : Int) (step : GenerationJobStep) : GenerationJobStep :=
  { step with state := .succeeded, finishedAt := some now }

theorem completeStep_claimed (hplan : PlannedJob job) (hstep : step ∈ job.steps) (now now' : Int)
    (state : JobState) (startedAt : Option Int) : completeStep now' step.id { job with
        state := state
        startedAt := startedAt
        steps := updateRow (·.id) step.id (claimedStep now) job.steps } =
      .ok { job with
        state := state
        startedAt := startedAt
        steps := updateRow (·.id) step.id (fun row => succeededStep now' (claimedStep now row))
          job.steps } := by
  have hkeyed : Keyed (·.id) (updateRow (·.id) step.id (claimedStep now) job.steps) :=
    hplan.keyed.updateRow fun _ _ => rfl
  have hfind : (updateRow (·.id) step.id (claimedStep now) job.steps).find? (·.id = step.id) =
      some (claimedStep now step) :=
    hkeyed.find?_eq (mem_updateRow_of_mem hstep rfl)
  have htwice : updateRow (·.id) step.id (succeededStep now')
      (updateRow (·.id) step.id (claimedStep now) job.steps) =
        updateRow (·.id) step.id (fun row => succeededStep now' (claimedStep now row))
          job.steps := by
    simp only [updateRow, map_map]
    refine map_congr_left fun row _ => ?_
    by_cases hid : row.id = step.id <;> simp [hid, claimedStep]
  unfold completeStep stepOf
  simp only [hfind, bind, Except.bind]
  rw [← htwice]
  rfl

theorem unfinished_completed (hplan : PlannedJob job) {rest : List GenerationJobStep}
    (hunfinished : unfinished job = step :: rest) (now now' : Int) :
    (updateRow (·.id) step.id (fun row => succeededStep now' (claimedStep now row))
      job.steps).filter (·.state ≠ .succeeded) = rest := by
  have hkeyed : Keyed (·.id) (step :: rest) := by
    rw [← hunfinished]
    exact hplan.keyed.sublist filter_sublist
  have hne : ∀ other ∈ rest, other.id ≠ step.id := (Keyed.cons_iff.mp hkeyed).1
  have hfilter : (updateRow (·.id) step.id (fun row => succeededStep now' (claimedStep now row))
      job.steps).filter (·.state ≠ .succeeded) = (unfinished job).filter (·.id ≠ step.id) := by
    unfold unfinished updateRow
    rw [filter_filter]
    induction job.steps with
    | nil => rfl
    | cons row steps ih =>
      rw [map_cons]
      by_cases hid : row.id = step.id
      · rw [if_pos hid, filter_cons_of_neg (by simp [succeededStep]),
          filter_cons_of_neg (by simp [hid])]
        exact ih
      · by_cases hstate : row.state = .succeeded
        · rw [if_neg hid, filter_cons_of_neg (by simp [hstate]),
            filter_cons_of_neg (by simp [hstate])]
          exact ih
        · rw [if_neg hid, filter_cons_of_pos (by simp [hstate]),
            filter_cons_of_pos (by simp [hstate, hid])]
          exact congrArg (row :: ·) ih
  rw [hfilter, hunfinished, filter_cons_of_neg (by simp)]
  exact filter_eq_self.mpr fun other hother => by simpa using hne other hother

/-- One claim of the worker, when every unfinished step is claimable: it takes the first
unfinished step if its parent state may follow, and raises otherwise. -/
theorem claimNextStep_unfinished (hplan : PlannedJob job)
    (hclaimable : ∀ step ∈ unfinished job, claimable step = true) (hlive : live job.state)
    {rest : List GenerationJobStep} (hunfinished : unfinished job = step :: rest) (now : Int) :
    claimNextStep now job =
      if stepJobState step.stepKind = job.state ∨
          stepJobState step.stepKind ∈ allowedJobTransitions job.state then
        .ok (some (claimedStep now step), { job with
          state := stepJobState step.stepKind
          startedAt := job.startedAt <|> some now
          steps := updateRow (·.id) step.id (claimedStep now) job.steps })
      else .error (.app {
        code := "INVALID_JOB_TRANSITION"
        message := "작업 상태를 " ++ job.state.value ++ "에서 " ++
          (stepJobState step.stepKind).value ++ "(으)로 변경할 수 없습니다."
        statusCode := 409
        fields := [⟨"state", job.state.value ++ "->" ++
          (stepJobState step.stepKind).value⟩] }) := by
  rw [claimNextStep_eq hplan hclaimable hlive.1 hlive.2, hunfinished]
  simp only
  by_cases hsame : stepJobState step.stepKind = job.state
  · rw [if_pos (.inl hsame), hsame]
    simp only [enterStepState, hsame, ↓reduceIte, bind, Except.bind]
    rfl
  · by_cases hallowed : stepJobState step.stepKind ∈ allowedJobTransitions job.state
    · rw [if_pos (.inr hallowed)]
      simp only [enterStepState, hsame, ↓reduceIte, ensureTransition_eq hallowed, bind, Except.bind]
      rfl
    · rw [if_neg (by simp [hsame, hallowed])]
      simp only [enterStepState, hsame, ↓reduceIte, ensureTransition, ensureJobTransition,
        hallowed, bind, Except.bind, Except.mapError]

/-- Working off a job whose unfinished steps are all claimable follows their kinds. -/
theorem work_unfinished (clock : Nat → Int) {fuel : Nat} (hplan : PlannedJob job)
    (hclaimable : ∀ step ∈ unfinished job, claimable step = true) (hlive : live job.state)
    (hfuel : (unfinished job).length < fuel) :
    match follow job.state ((unfinished job).map (·.stepKind)) with
    | none => ∃ failure, work clock fuel job = .error failure
    | some last => ∃ claimed final, work clock fuel job = .ok (claimed, final) ∧
        claimed.map stepIdentity = (unfinished job).map stepIdentity ∧ final.state = last := by
  induction fuel generalizing job with
  | zero => omega
  | succ fuel ih =>
    cases hunfinished : unfinished job with
    | nil =>
      have hclaim := claimNextStep_eq hplan hclaimable hlive.1 hlive.2 (clock (2 * fuel + 1))
      rw [hunfinished] at hclaim
      simp only at hclaim
      refine ⟨[], job, ?_, rfl, rfl⟩
      unfold work
      rw [hclaim]
      rfl
    | cons step rest =>
      have hclaim := claimNextStep_unfinished hplan hclaimable hlive hunfinished
        (clock (2 * fuel + 1))
      rw [map_cons, follow]
      by_cases hedge : stepJobState step.stepKind = job.state ∨
          stepJobState step.stepKind ∈ allowedJobTransitions job.state
      · rw [if_pos hedge] at hclaim ⊢
        have hstep : step ∈ job.steps := by
          have hmem : step ∈ unfinished job := hunfinished ▸ mem_cons_self
          exact (mem_filter.mp hmem).1
        have hcomplete := completeStep_claimed hplan hstep (clock (2 * fuel + 1))
          (clock (2 * fuel)) (stepJobState step.stepKind)
          (job.startedAt <|> some (clock (2 * fuel + 1)))
        have hrest := unfinished_completed hplan hunfinished (clock (2 * fuel + 1))
          (clock (2 * fuel))
        set completed : GenerationJob := { job with
          state := stepJobState step.stepKind
          startedAt := job.startedAt <|> some (clock (2 * fuel + 1))
          steps := updateRow (·.id) step.id (fun row =>
            succeededStep (clock (2 * fuel)) (claimedStep (clock (2 * fuel + 1)) row)) job.steps }
          with hcompleted
        have hplan' : PlannedJob completed := hplan.of_identity (by
          refine map_updateRow ?_ _
          exact fun _ _ => rfl)
        have hunfinished' : unfinished completed = rest := hrest
        have hloop := @ih completed hplan'
          (by
            rw [hunfinished']
            exact fun other hother => hclaimable other (hunfinished ▸ mem_cons_of_mem _ hother))
          (live_stepJobState _)
          (by
            rw [hunfinished']
            rw [hunfinished, length_cons] at hfuel
            omega)
        rw [hunfinished'] at hloop
        have hwork : work clock (fuel + 1) job = (do
            let (steps, last) ← work clock fuel completed
            .ok (claimedStep (clock (2 * fuel + 1)) step :: steps, last)) := by
          conv_lhs => unfold work
          rw [hclaim]
          simp only [bind, Except.bind]
          rw [show (claimedStep (clock (2 * fuel + 1)) step).id = step.id from rfl, hcomplete]
        have hstate : completed.state = stepJobState step.stepKind := rfl
        rw [hstate] at hloop
        cases hfollow : follow (stepJobState step.stepKind) (rest.map (·.stepKind)) with
        | none =>
          rw [hfollow] at hloop
          obtain ⟨failure, hfailure⟩ := hloop
          exact ⟨failure, by rw [hwork, hfailure]; rfl⟩
        | some last =>
          rw [hfollow] at hloop
          obtain ⟨claimed, final, hok, hids, hlast⟩ := hloop
          refine ⟨_, final, by rw [hwork, hok]; rfl, ?_, hlast⟩
          rw [map_cons, map_cons, hids]
          rfl
      · rw [if_neg hedge] at hclaim ⊢
        obtain ⟨failure, hfailure⟩ : ∃ failure,
            claimNextStep (clock (2 * fuel + 1)) job = .error failure := ⟨_, hclaim⟩
        refine ⟨failure, ?_⟩
        unfold work
        rw [hfailure]
        rfl

/-- A worker completes only steps that were claimable when it started. -/
theorem work_claimable {clock : Nat → Int} {fuel : Nat} {final : GenerationJob}
    {claimed : List GenerationJobStep} (h : work clock fuel job = .ok (claimed, final)) :
    ∀ step ∈ claimed, ∃ row ∈ job.steps, row.id = step.id ∧ claimable row = true := by
  induction fuel generalizing job claimed with
  | zero =>
    cases h
    exact fun step hstep => absurd hstep not_mem_nil
  | succ fuel ih =>
    obtain ⟨⟨first, after⟩, hclaim, h⟩ := bind_ok h
    cases first with
    | none =>
      cases h
      exact fun step hstep => absurd hstep not_mem_nil
    | some first =>
      obtain ⟨completed, hcomplete, h⟩ := bind_ok h
      obtain ⟨⟨steps, last⟩, hloop, h⟩ := bind_ok h
      cases h
      cases claims_of_ok hclaim with
      | claimed row hlive hfirst hedge =>
        obtain ⟨hrow, hclaimable⟩ := mem_filter.mp (firstByOrdinal_mem hfirst)
        intro step hstep
        rcases mem_cons.mp hstep with rfl | hstep
        · exact ⟨row, hrow, rfl, hclaimable⟩
        -- A row that is claimable after the round was not touched by it.
        obtain ⟨later, hlater, hid, hclaimable'⟩ := ih hloop step hstep
        have hbefore : ∃ old ∈ updateRow (·.id) row.id
            (claimedStep (clock (2 * fuel + 1))) job.steps,
            old.id = later.id ∧ claimable old = true := by
          rcases completeStep_ok hcomplete with rfl | rfl
          · exact ⟨later, hlater, rfl, hclaimable'⟩
          · obtain ⟨old, hold, ⟨-, rfl⟩ | ⟨-, rfl⟩⟩ := mem_updateRow hlater
            · exact absurd hclaimable' (by simp [claimable])
            · exact ⟨later, hold, rfl, hclaimable'⟩
        obtain ⟨mid, hmid, hmidId, hmidClaimable⟩ := hbefore
        obtain ⟨old, hold, ⟨-, rfl⟩ | ⟨-, rfl⟩⟩ := mem_updateRow hmid
        · exact absurd hmidClaimable (by simp [claimable, claimedStep])
        · exact ⟨mid, hold, hmidId.trans hid, hmidClaimable⟩

def remains (job : GenerationJob) (kinds : List GenerationStepKind) : Prop :=
  ∃ step ∈ unfinished job, step.stepKind ∈ kinds

/-- What is left leads from `VALIDATE_INPUT` to the review: the three opening steps, and after
them either nothing or some section, some verification and some optimization. -/
structure LeadsToReview (job : GenerationJob) : Prop where
  validate : remains job [.validateInput]
  research : remains job [.research]
  plan : remains job [.planOutline]
  later : ¬ remains job [.generateSection, .verifyClaims, .verifyPolicy, .optimize, .prepareReview] ∨
    remains job [.generateSection] ∧ remains job [.verifyClaims, .verifyPolicy] ∧
      remains job [.optimize, .prepareReview]

def keep (b : Bool) (kind : GenerationStepKind) : List GenerationStepKind := if b then [kind] else []

/-- What is left of a plan, the first three kinds and the last four one by one. -/
def leftKinds (opening : Bool × Bool × Bool) (sections : Nat)
    (closing : Bool × Bool × Bool × Bool) : List GenerationStepKind :=
  keep opening.1 .validateInput ++ keep opening.2.1 .research ++ keep opening.2.2 .planOutline ++
    List.replicate sections .generateSection ++
    (keep closing.1 .verifyClaims ++ keep closing.2.1 .verifyPolicy ++
      keep closing.2.2.1 .optimize ++ keep closing.2.2.2 .prepareReview)

theorem follow_generating (sections : Nat) (kinds : List GenerationStepKind) :
    follow .generating (List.replicate sections .generateSection ++ kinds) =
      follow .generating kinds := by
  induction sections with
  | zero => rfl
  | succ sections ih =>
    rw [replicate_succ, cons_append, follow, if_pos (.inl rfl)]
    exact ih

theorem follow_sections {state : JobState} (hstate : state ≠ .generating) (sections : Nat)
    (kinds : List GenerationStepKind) :
    follow state (List.replicate (sections + 1) .generateSection ++ kinds) =
      if .generating ∈ allowedJobTransitions state then follow .generating kinds else none := by
  rw [replicate_succ, cons_append, follow]
  simp only [stepJobState, hstate.symm, false_or]
  split
  · exact follow_generating sections kinds
  · rfl

theorem reachesReview_leftKinds (opening : Bool × Bool × Bool) (sections : Nat)
    (closing : Bool × Bool × Bool × Bool) : reachesReview .queued (leftKinds opening sections closing) =
      (opening.1 && opening.2.1 && opening.2.2 &&
        (sections == 0 && !closing.1 && !closing.2.1 && !closing.2.2.1 && !closing.2.2.2 ||
          sections != 0 && (closing.1 || closing.2.1) && (closing.2.2.1 || closing.2.2.2))) := by
  obtain ⟨v, r, p⟩ := opening
  obtain ⟨c, q, o, w⟩ := closing
  unfold reachesReview leftKinds
  cases sections with
  | zero =>
    revert v r p c q o w
    decide
  | succ sections =>
    have hclosing : ∀ c q o w : Bool, (follow JobState.generating (keep c .verifyClaims ++
        keep q .verifyPolicy ++ keep o .optimize ++ keep w .prepareReview)).any reviewable =
          ((c || q) && (o || w)) := by
      decide
    have hsections := fun (state : JobState) (hstate : state ≠ .generating) =>
      follow_sections hstate sections (keep c .verifyClaims ++ keep q .verifyPolicy ++
        keep o .optimize ++ keep w .prepareReview)
    rw [append_assoc]
    simp only
    specialize hclosing c q o w
    generalize keep c .verifyClaims ++ keep q .verifyPolicy ++ keep o .optimize ++
      keep w .prepareReview = closing at hclosing hsections ⊢
    generalize List.replicate (sections + 1) .generateSection ++ closing = rest at hsections ⊢
    cases v <;> cases r <;> cases p <;>
      simp [keep, follow, stepJobState, allowedJobTransitions, hsections, hclosing]

theorem filter_kinds_cons {kinds : List GenerationStepKind}
    (h : steps.map (·.stepKind) = kind :: kinds) (p : GenerationJobStep → Bool) :
    ∃ b, ∃ rest : List GenerationJobStep, rest.map (·.stepKind) = kinds ∧ (steps.filter p).map (·.stepKind) =
      keep b kind ++ (rest.filter p).map (·.stepKind) := by
  cases steps with
  | nil => cases h
  | cons step rest =>
    obtain ⟨rfl, hrest⟩ := List.cons.inj h
    refine ⟨p step, rest, hrest, ?_⟩
    cases hp : p step <;> simp [keep, hp]

theorem filter_kinds_replicate {sections : Nat} {kinds : List GenerationStepKind}
    (h : steps.map (·.stepKind) = List.replicate sections kind ++ kinds) (p : GenerationJobStep → Bool) :
    ∃ left, ∃ rest : List GenerationJobStep, rest.map (·.stepKind) = kinds ∧
      (steps.filter p).map (·.stepKind) =
        List.replicate left kind ++ (rest.filter p).map (·.stepKind) := by
  induction sections generalizing steps with
  | zero => exact ⟨0, steps, h, rfl⟩
  | succ sections ih =>
    rw [replicate_succ, cons_append] at h
    obtain ⟨b, mid, hmid, hfilter⟩ := filter_kinds_cons h p
    obtain ⟨left, rest, hrest, hleft⟩ := ih hmid
    refine ⟨(keep b kind).length + left, rest, hrest, ?_⟩
    rw [hfilter, hleft]
    cases b
    · simp [keep]
    · simp [keep, Nat.add_comm 1 left, replicate_succ]

theorem PlannedJob.unfinished_kinds (h : PlannedJob job) : ∃ opening sections closing,
      (unfinished job).map (·.stepKind) = leftKinds opening sections closing := by
  obtain ⟨sections, hkinds⟩ := h.kinds
  unfold unfinished
  generalize (fun step : GenerationJobStep => decide (step.state ≠ .succeeded)) = p
  obtain ⟨v, s₁, h₁, hv⟩ := filter_kinds_cons hkinds p
  obtain ⟨r, s₂, h₂, hr⟩ := filter_kinds_cons h₁ p
  obtain ⟨o, s₃, h₃, ho⟩ := filter_kinds_cons h₂ p
  obtain ⟨left, s₄, h₄, hleft⟩ := filter_kinds_replicate h₃ p
  obtain ⟨c, s₅, h₅, hc⟩ := filter_kinds_cons h₄ p
  obtain ⟨q, s₆, h₆, hq⟩ := filter_kinds_cons h₅ p
  obtain ⟨z, s₇, h₇, hz⟩ := filter_kinds_cons h₆ p
  obtain ⟨w, s₈, h₈, hw⟩ := filter_kinds_cons h₇ p
  refine ⟨(v, r, o), left, (c, q, z, w), ?_⟩
  rw [hv, hr, ho, hleft, hc, hq, hz, hw, map_eq_nil_iff.mp h₈]
  simp [leftKinds]

theorem mem_keep {b : Bool} {other : GenerationStepKind} :
    other ∈ keep b kind ↔ b = true ∧ other = kind := by
  cases b <;> simp [keep]

theorem mem_leftKinds (v r p : Bool) (sections : Nat) (c q o w : Bool)
    (kind : GenerationStepKind) : kind ∈ leftKinds (v, r, p) sections (c, q, o, w) ↔
      match kind with
      | .validateInput => v = true
      | .research => r = true
      | .planOutline => p = true
      | .generateSection => sections ≠ 0
      | .verifyClaims => c = true
      | .verifyPolicy => q = true
      | .optimize => o = true
      | .prepareReview => w = true := by
  cases kind <;> simp [leftKinds, mem_keep, mem_replicate]

/-- The condition on the remaining kinds is exactly that they can be worked off. -/
theorem leadsToReview_iff (h : PlannedJob job) :
    LeadsToReview job ↔ reachesReview .queued ((unfinished job).map (·.stepKind)) = true := by
  obtain ⟨⟨v, r, p⟩, sections, ⟨c, q, o, w⟩, hkinds⟩ := h.unfinished_kinds
  have hremains : ∀ kinds, remains job kinds ↔
      ∃ kind ∈ kinds, kind ∈ leftKinds (v, r, p) sections (c, q, o, w) := by
    intro kinds
    rw [← hkinds]
    simp only [remains, mem_map]
    constructor
    · rintro ⟨step, hstep, hkind⟩
      exact ⟨step.stepKind, hkind, step, hstep, rfl⟩
    · rintro ⟨kind, hkind, step, hstep, rfl⟩
      exact ⟨step, hstep, hkind⟩
  rw [hkinds, reachesReview_leftKinds]
  constructor
  · rintro ⟨hv, hr, hp, hlater⟩
    simp [hremains, mem_leftKinds] at hv hr hp hlater
    simp [hv, hr, hp]
    tauto
  · intro hreaches
    simp at hreaches
    constructor <;> simp [hremains, mem_leftKinds] <;> tauto

theorem enterWaitingReview_ok_iff :
    (∃ reviewed, enterWaitingReview job = .ok reviewed) ↔ reviewable job.state = true := by
  unfold enterWaitingReview reviewable
  by_cases hsame : job.state = .waitingReview
  · simp [hsame]
  · by_cases hallowed : JobState.waitingReview ∈ allowedJobTransitions job.state
    · simp [hsame, hallowed, ensureTransition_eq hallowed, bind, Except.bind]
    · simp [hsame, hallowed, ensureTransition, ensureJobTransition, bind, Except.bind, Except.mapError]

/-- A queued job progresses exactly when its unfinished steps are all claimable and lead to
the review. -/
theorem progresses_iff (hplan : PlannedJob job) (hqueued : job.state = .queued) :
    Progresses job ↔ (∀ step ∈ unfinished job, claimable step = true) ∧ LeadsToReview job := by
  have hlive : live job.state := by simp [live, hqueued, terminalJobStates]
  have hlength : (unfinished job).length < job.steps.length + 1 :=
    Nat.lt_succ_of_le (length_filter_le _ _)
  have hordered : (unfinished job).Pairwise fun step other => step.ordinal < other.ordinal :=
    hplan.ordered.sublist filter_sublist
  constructor
  · intro hprogress
    obtain ⟨claimed, final, hwork, hids, -, hreview⟩ := hprogress.completes fun _ => 0
    have hclaimable : ∀ step ∈ unfinished job, claimable step = true := by
      intro step hstep
      have hid : step.id ∈ claimed.map (·.id) := hids ▸ mem_map_of_mem hstep
      obtain ⟨taken, htaken, hsame⟩ := mem_map.mp hid
      obtain ⟨row, hrow, hrowId, hrowClaimable⟩ := work_claimable hwork taken htaken
      have heq : row = step := hplan.keyed.eq_of_key_eq hrow (mem_filter.mp hstep).1
        (hrowId.trans hsame)
      exact heq ▸ hrowClaimable
    refine ⟨hclaimable, (leadsToReview_iff hplan).mpr ?_⟩
    have hfollow := work_unfinished (fun _ => 0) hplan hclaimable hlive hlength
    rw [hqueued] at hfollow
    unfold reachesReview
    cases hlast : follow .queued ((unfinished job).map (·.stepKind)) with
    | none =>
      rw [hlast] at hfollow
      obtain ⟨failure, hfailure⟩ := hfollow
      rw [hwork] at hfailure
      cases hfailure
    | some last =>
      rw [hlast] at hfollow
      obtain ⟨claimed', final', hwork', -, rfl⟩ := hfollow
      rw [hwork] at hwork'
      cases hwork'
      exact enterWaitingReview_ok_iff.mp hreview
  · rintro ⟨hclaimable, hleads⟩
    have hreaches := (leadsToReview_iff hplan).mp hleads
    unfold reachesReview at hreaches
    cases hlast : follow .queued ((unfinished job).map (·.stepKind)) with
    | none =>
      rw [hlast] at hreaches
      cases hreaches
    | some last =>
      rw [hlast, Option.any_some] at hreaches
      constructor
      · intro now
        obtain ⟨first, hfirst, -⟩ := hleads.validate
        cases hunfinished : unfinished job with
        | nil =>
          rw [hunfinished] at hfirst
          cases hfirst
        | cons step rest =>
          have hclaim := claimNextStep_unfinished hplan hclaimable hlive hunfinished now
          rw [hunfinished, map_cons, follow, ← hqueued] at hlast
          split at hlast
          · rw [if_pos ‹_›] at hclaim
            rw [hunfinished] at hordered
            refine ⟨_, _, hclaim, mem_cons_self, fun other hother => ?_⟩
            rcases mem_cons.mp hother with rfl | hother
            · exact le_rfl
            · exact ((pairwise_cons.mp hordered).1 other hother).le
          · cases hlast
      · intro clock
        have hfollow := work_unfinished clock hplan hclaimable hlive hlength
        rw [hqueued, hlast] at hfollow
        obtain ⟨claimed, final, hwork, hidentity, hstate⟩ := hfollow
        have hids := congrArg (List.map Prod.fst) hidentity
        have hordinals := congrArg (List.map fun row => row.2.2) hidentity
        rw [map_map, map_map] at hids hordinals
        refine ⟨claimed, final, hwork, hids, ?_, enterWaitingReview_ok_iff.mpr (hstate ▸ hreaches)⟩
        have hsorted := pairwise_map.mpr hordered
        rw [← show claimed.map (·.ordinal) = (unfinished job).map (·.ordinal) from hordinals]
          at hsorted
        exact pairwise_map.mp hsorted

end BlogOps.Generation
