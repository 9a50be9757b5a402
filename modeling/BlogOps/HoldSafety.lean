import BlogOps.PrivacyCompletion
import BlogOps.RetentionSweeps

/-!
# Deletion under legal holds

The holds of a workspace with its privacy requests and retention sweeps.  The
guard lock orders the changes of the holds and the deliveries that delete, so
that a delivery meets one set of holds; the clock runs on while it works.
-/

namespace BlogOps.Security

open EffectRules KeyedTables TransitionRuns List

structure HoldWorld where
  holds : List LegalHold := []
  requests : List PrivacySession := []
  sweeps : List SweepSession := []

inductive HoldStep where
  | createHold (id : Uuid) (now : Int) (subjectId : Uuid) (data : LegalHoldCreate)
  | releaseHold (now : Int) (subjectId holdId : Uuid) (reason : String)
  | createSweep (id workspaceId : Uuid) (now : Int) (idempotencyKey : String)
      (policies : List RetentionPolicyVersion)
  | sweep (sweepId : Uuid) (delivery : RetentionDelivery)
  | request (requestId : Uuid) (step : PrivacyStep)

/-- The delivery holds the guard lock: each of its queries reads the same holds. -/
def PrivacyDelivery.under (holds : List LegalHold) (d : PrivacyDelivery) : PrivacyDelivery :=
  { d with
    holds := holds
    turns := fun id => { d.turns id with holds := holds } }

/-- A plan is made without the lock, and may have read any holds. -/
def PrivacyStep.under (holds : List LegalHold) : PrivacyStep → PrivacyStep
  | .process delivery => .process (delivery.under holds)
  | step => step

def RetentionDelivery.under (holds : List LegalHold) (d : RetentionDelivery) : RetentionDelivery :=
  { d with holds := holds }

section Steps

variable [PrivacyHashes]

def newSweep (id workspaceId : Uuid) (now : Int) (idempotencyKey : String)
    (policy : RetentionPolicyVersion) (holds : List LegalHold) : RetentionSweep where
  id := id
  workspaceId := workspaceId
  policyVersionId := policy.id
  policyRules := policy.rules
  legalHoldSnapshot := activeLegalHoldSnapshot now holds
  legalHoldSnapshotHash := SecurityHashes.holdSnapshotHash (activeLegalHoldSnapshot now holds)
  idempotencyKey := idempotencyKey

def createRetentionSweep (id workspaceId : Uuid) (now : Int) (idempotencyKey : String)
    (policies : List RetentionPolicyVersion) (holds : List LegalHold) (sweeps : List SweepSession) :
    Except Failure (List SweepSession) :=
  if sweeps.any fun s => s.sweep.idempotencyKey = idempotencyKey then .ok sweeps
  else do
    let policy ← currentRetentionPolicy now policies
    require (∀ s ∈ sweeps, s.sweep.id ≠ id) (.integrity "security_retention_sweeps")
    .ok (sweeps ++ [{ sweep := newSweep id workspaceId now idempotencyKey policy holds }])

/-- What a refused call leaves. -/
def orUnchanged {α : Type} (before : α) : Except Failure α → α
  | .ok after => after
  | .error _ => before

def stepHolds (w : HoldWorld) : HoldStep → HoldWorld
  | .createHold id now subjectId data =>
      { w with
        holds := orUnchanged w.holds (createLegalHold id now subjectId data w.holds) }
  | .releaseHold now subjectId holdId reason =>
      { w with
        holds := orUnchanged w.holds (releaseLegalHold now subjectId holdId reason w.holds) }
  | .createSweep id workspaceId now idempotencyKey policies =>
      { w with
        sweeps := orUnchanged w.sweeps
          (createRetentionSweep id workspaceId now idempotencyKey policies w.holds w.sweeps) }
  | .sweep sweepId delivery =>
      { w with
        sweeps := updateRow (·.sweep.id) sweepId (fun s => deliverSweep s (delivery.under w.holds)) w.sweeps }
  | .request requestId step =>
      { w with
        requests := updateRow (·.request.id) requestId
          (fun s => stepPrivacy s (step.under w.holds)) w.requests }

/-- The kinds of actions that destroy data. -/
def deletionKinds : List PrivacyActionKind :=
  [.deleteDatabase, .deleteSearch, .deleteVector, .deleteObjects, .anonymizeAnalytics]

def isDeletion (kind : String) : Bool := kind ∈ deletionKinds.map PrivacyActionKind.value

/-- The calls that the step makes for the request. -/
def newCalls (holds : List LegalHold) (s : PrivacySession) (step : PrivacyStep) : List PrivacyCall :=
  (stepPrivacy s (step.under holds)).calls.drop s.calls.length

def newSweepCalls (holds : List LegalHold) (s : SweepSession) (d : RetentionDelivery) : List RetentionCall :=
  (deliverSweep s (d.under holds)).calls.drop s.calls.length

/-- Nothing is deleted under a hold: a step calls for a deletion only while no active hold matches
the request, and hands a retention executor exactly the holds that are active then. -/
def DeletesUnheld (w : HoldWorld) : HoldStep → Prop
  | .request requestId step => ∀ s ∈ w.requests, s.request.id = requestId →
      ∀ call ∈ newCalls w.holds s step, isDeletion call.kind = true →
        holdsMatching s.request call.calledAt w.holds = []
  | .sweep sweepId delivery => ∀ s ∈ w.sweeps, s.sweep.id = sweepId →
      ∀ call ∈ newSweepCalls w.holds s delivery,
        call.legalHoldSnapshot = activeLegalHoldSnapshot call.calledAt w.holds
  | _ => True

/-- The hashes of the snapshot of the sweep and of the active holds do not collide. -/
def HashTellsApart (w : HoldWorld) : HoldStep → Prop
  | .sweep sweepId delivery => ∀ s ∈ w.sweeps, s.sweep.id = sweepId →
      SecurityHashes.holdSnapshotHash (activeLegalHoldSnapshot delivery.now w.holds) =
        SecurityHashes.holdSnapshotHash s.sweep.legalHoldSnapshot →
      activeLegalHoldSnapshot delivery.now w.holds = s.sweep.legalHoldSnapshot
  | _ => True

/-- What the port and the policy answer makes an artifact. -/
def acceptedExport (turn : ActionTurn) : Bool :=
  match turn.exportResult with
  | .error _ => false
  | .ok result => validExport turn.checkedAt result &&
      match turn.maximumDownloads with
      | .error _ => false
      | .ok maximum => 0 < maximum

def buildsArtifact (turn : ActionTurn) (action : PrivacyAction) : Bool :=
  action.kind = PrivacyActionKind.exportData.value && acceptedExport turn

/-- The actions that the loop of a delivery reaches before a flush is refused; `artifact` says
whether the request has its export artifact. -/
def reachedActions (turns : Uuid → ActionTurn) : Bool → List PrivacyAction → List PrivacyAction
  | _, [] => []
  | artifact, action :: actions =>
    if action.state = .succeeded then reachedActions turns artifact actions
    else if (turns action.id).stored then
      action ::
        if !artifact && buildsArtifact (turns action.id) action && !(turns action.id).artifactStored then []
        else reachedActions turns (artifact || buildsArtifact (turns action.id) action) actions
    else []

/-- The delivery takes the turns of a request that is not a deletion. -/
structure TakesOther (s : PrivacySession) (d : PrivacyDelivery) : Prop where
  configured : d.configured = true
  queued : s.request.state = .queued
  kind : s.request.kind ≠ .delete

/-- The delivery takes the sweep to its executor. -/
structure TakesSweep (s : SweepSession) (d : RetentionDelivery) : Prop where
  configured : d.executor.isSome = true
  queued : s.sweep.state = .queued
  checked : checkSweep d s.sweep = .ok ()

/-- A delivery of a request that is not a deletion reaches no action that deletes while an active
hold matches the request, and none of a sweep reaches its executor with a hold that has expired
since the query. -/
def ReachesUnheld (w : HoldWorld) : HoldStep → Prop
  | .request requestId (.process d) => ∀ s ∈ w.requests, s.request.id = requestId → TakesOther s d →
        ∀ action ∈ reachedActions d.turns s.artifact.isSome (inSequence s.actions),
          isDeletion action.kind = true → holdsMatching s.request (d.turns action.id).calledAt w.holds = []
  | .sweep sweepId d => ∀ s ∈ w.sweeps, s.sweep.id = sweepId → TakesSweep s (d.under w.holds) →
        ∀ hold ∈ w.holds, hold.activeAt d.now = true → hold.activeAt d.calledAt = true
  | _ => True

end Steps

/-! ## Requests to delete -/

variable {now : Int} {d : PrivacyDelivery}

/-- A hold only expires. -/
theorem activeAt_earlier {later : Int} (h : now ≤ later) {hold : LegalHold}
    (hactive : hold.activeAt later = true) : hold.activeAt now = true := by
  unfold LegalHold.activeAt at *
  simp only [Bool.and_eq_true, Option.all_eq_true, decide_eq_true_eq] at *
  exact ⟨hactive.1, fun expiry hexpiry => lt_of_le_of_lt h (hactive.2 expiry hexpiry)⟩

theorem holdsMatching_later {request : PrivacyRequest} {later : Int} (h : now ≤ later)
    {holds : List LegalHold} (hnone : holdsMatching request now holds = []) :
    holdsMatching request later holds = [] := by
  unfold holdsMatching matchingLegalHolds at *
  rw [filter_eq_nil_iff] at *
  intro hold hhold hmatches
  simp only [Bool.and_eq_true] at hmatches
  refine hnone hold hhold ?_
  simp only [Bool.and_eq_true]
  exact ⟨activeAt_earlier h hmatches.1, hmatches.2⟩

/-- No active hold matches the request when the call is made. -/
def UnheldCall (request : PrivacyRequest) (holds : List LegalHold) (call : PrivacyCall) : Prop :=
  holdsMatching request call.calledAt holds = []

section Erasure

variable [PrivacyHashes] {holds : List LegalHold}

/-- A request to delete asks for the holds before each action. -/
theorem unheld_takeTurn {turn : ActionTurn} (hholds : turn.holds = holds) (action : PrivacyAction)
    {s : PrivacySession} (hkind : s.request.kind = .delete) :
    Ends (takeTurn turn action) s fun _ t => OnlyCalls (UnheldCall s.request holds) s t := by
  unfold takeTurn
  split
  · rw [ends_pure]
    exact refl_of _ s
  · rw [ends_bind]
    refine (keeps_flushPrivacy (P := UnheldCall s.request holds) turn.stored s).mono fun r t ht => ?_
    cases r with
    | error failure => exact ht
    | ok u =>
      rw [continues_ok, ends_bind, ends_get, continues_ok]
      refine ends_ite (fun _ => ?_) fun hfree => ?_
      · rw [ends_pure]
        exact ht
      · have hnone : holdsMatching s.request turn.now holds = [] := by
          rw [ht.request, hholds] at hfree
          exact not_not.mp fun hheld => hfree ⟨hkind, hheld⟩
        have hcall : UnheldCall s.request holds ⟨action.id, action.kind, turn.calledAt⟩ :=
          holdsMatching_later turn.now_le hnone
        have hexecuted : Keeps (OnlyCalls (UnheldCall s.request holds))
            (executeAction turn (startAction turn.startedAt action)) :=
          keeps_executeAction turn hcall
        refine (keeps_tryCatch hexecuted (fun _ => keeps_pure _) t).mono fun _ u hu => ?_
        exact trans_of (OnlyCalls (UnheldCall s.request holds)) ht hu

theorem unheld_takeTurns {turns : Uuid → ActionTurn} (hholds : ∀ id, (turns id).holds = holds)
    (actions : List PrivacyAction) {s : PrivacySession} (hkind : s.request.kind = .delete) :
    Ends (takeTurns turns actions) s fun _ t => OnlyCalls (UnheldCall s.request holds) s t := by
  induction actions generalizing s with
  | nil => exact refl_of (OnlyCalls (UnheldCall s.request holds)) s
  | cons action actions ih =>
    unfold takeTurns
    rw [ends_bind]
    refine (unheld_takeTurn (hholds action.id) action hkind).mono fun r t ht => ?_
    cases r with
    | error failure => exact ht
    | ok done =>
      rw [continues_ok, ends_bind]
      have hrest := ih (s := t) (by rw [ht.request]; exact hkind)
      rw [ht.request] at hrest
      refine hrest.mono fun r u hu => ?_
      have hsu := trans_of (OnlyCalls (UnheldCall s.request holds)) ht hu
      cases r with
      | ok rest => exact hsu
      | error failure => exact hsu

/-- Whatever a delivery of a request to delete calls for, no active hold matches the request. -/
theorem unheld_runPrivacy {s : PrivacySession} (husable : s.broken = false)
    (hkind : s.request.kind = .delete) (hholds : ∀ id, (d.turns id).holds = holds) :
    Ends (runPrivacy d) s fun _ t => MoreCalls (UnheldCall s.request holds) s t := by
  refine callsWith_runPrivacy (C := fun later => ∀ call ∈ later, UnheldCall s.request holds call)
    husable (fun _ => ?_) fun _ _ hcall => nomatch hcall
  exact (unheld_takeTurns hholds (inSequence s.actions) (s := processingSession d s) hkind).mono
    fun _ t ht => ht.calls

end Erasure

/-- The call of the executor that an action makes. -/
def callOf (turns : Uuid → ActionTurn) (action : PrivacyAction) : PrivacyCall :=
  ⟨action.id, action.kind, (turns action.id).calledAt⟩

/-- The calls for deletions among some calls. -/
def deletionsOf (calls : List PrivacyCall) : List PrivacyCall :=
  calls.filter fun call => isDeletion call.kind

theorem deletionsOf_append (calls more : List PrivacyCall) :
    deletionsOf (calls ++ more) = deletionsOf calls ++ deletionsOf more :=
  filter_append ..

theorem mem_deletionsOf {calls : List PrivacyCall} {call : PrivacyCall} :
    call ∈ deletionsOf calls ↔ call ∈ calls ∧ isDeletion call.kind = true :=
  mem_filter

theorem isDeletion_export : isDeletion PrivacyActionKind.exportData.value = false := by decide

/-- What the turn of an action that is due leaves of the session, where the request is not one to
delete and the flush before it is taken. -/
structure TurnLeaves (turn : ActionTurn) (action : PrivacyAction) (s t : PrivacySession) : Prop where
  request : t.request = s.request
  artifact : t.artifact.isSome = (s.artifact.isSome || buildsArtifact turn action)
  broken : t.broken = (!s.artifact.isSome && buildsArtifact turn action && !turn.artifactStored)
  calls : CallsWith (fun later =>
    deletionsOf later = deletionsOf [⟨action.id, action.kind, turn.calledAt⟩]) s t

section Other

variable {turn : ActionTurn} {action : PrivacyAction} {s : PrivacySession}

theorem flushPrivacy_ok (husable : s.broken = false) : flushPrivacy true s = .ok () s := by
  unfold flushPrivacy
  rw [bind_run_ok (get_run s), if_pos ⟨husable, rfl⟩]
  rfl

theorem flushPrivacy_refused (s : PrivacySession) :
    flushPrivacy false s = .error (.integrity "security_privacy") { s with broken := true } := by
  unfold flushPrivacy
  rw [bind_run_ok (get_run s), if_neg (by simp)]
  rfl

def calledSession (turn : ActionTurn) (action : PrivacyAction) (s : PrivacySession) : PrivacySession :=
  { s with calls := s.calls ++ [⟨action.id, action.kind, turn.calledAt⟩] }

theorem callExecutorFor_ends {α : Type} {answer : Except Failure α}
    {Q : Except Failure α → PrivacySession → Prop} (h : Q answer (calledSession turn action s)) :
    Ends (callExecutorFor ⟨action.id, action.kind, turn.calledAt⟩ answer) s Q := by
  unfold callExecutorFor
  rw [ends_bind, ends_modify, continues_ok, ends_ofExcept]
  exact h

/-- Nothing but the call is left where no artifact is built. -/
theorem turnLeaves_called (husable : s.broken = false) (hbuilds : buildsArtifact turn action = false) :
    TurnLeaves turn action s (calledSession turn action s) where
  request := rfl
  artifact := by simp [hbuilds, calledSession]
  broken := by simp [hbuilds, calledSession, husable]
  calls := ⟨[_], rfl, rfl⟩

variable [PrivacyHashes]

theorem buildExport_leaves (husable : s.broken = false)
    (hkind : action.kind = PrivacyActionKind.exportData.value) (hnone : s.artifact = none) :
    Ends (buildExport turn action) s fun _ t => TurnLeaves turn action s t := by
  have hrefused : acceptedExport turn = false →
      TurnLeaves turn action s (calledSession turn action s) := fun hanswers =>
    turnLeaves_called husable (by simp [buildsArtifact, hanswers])
  unfold buildExport
  rw [ends_bind]
  refine callExecutorFor_ends ?_
  cases hresult : turn.exportResult with
  | error failure => exact hrefused (by simp [acceptedExport, hresult])
  | ok result =>
    rw [continues_ok, ends_bind, ends_ofExcept]
    by_cases hvalid : validExport turn.checkedAt result = true
    · rw [require_of hvalid, continues_ok, ends_bind, ends_ofExcept]
      cases hmaximum : turn.maximumDownloads with
      | error failure => exact hrefused (by simp [acceptedExport, hresult, hmaximum])
      | ok maximum =>
        rw [continues_ok, ends_bind, ends_ofExcept]
        by_cases hpositive : 0 < maximum
        · have hbuilds : buildsArtifact turn action = true := by
            simp [buildsArtifact, acceptedExport, hkind, hresult, hmaximum, hvalid, hpositive]
          rw [require_of hpositive, continues_ok, ends_bind, ends_modify, continues_ok]
          have hflushed := flushPrivacy_ok (s := { calledSession turn action s with
            artifact := some (artifactOf turn.artifactId maximum result) }) husable
          cases hstored : turn.artifactStored with
          | true =>
            refine ends_bind_run_ok hflushed ?_
            rw [ends_pure]
            exact ⟨rfl, by simp [hbuilds], by simpa [hstored, calledSession] using husable, [_], rfl, rfl⟩
          | false =>
            refine ends_bind_run_error (flushPrivacy_refused _) ?_
            exact ⟨rfl, by simp [hbuilds], by simp [hbuilds, hnone, hstored], [_], rfl, rfl⟩
        · rw [require, if_neg hpositive, continues_error]
          exact hrefused (by simp [acceptedExport, hresult, hmaximum, hpositive])
    · rw [require, if_neg hvalid, continues_error]
      exact hrefused (by simp [acceptedExport, hresult, hvalid])

theorem executeAction_leaves (husable : s.broken = false) :
    Ends (executeAction turn action) s fun _ t => TurnLeaves turn action s t := by
  unfold executeAction
  by_cases hkind : action.kind = PrivacyActionKind.exportData.value
  · rw [if_pos hkind]
    unfold executeExportAction exportArtifact
    rw [ends_bind, ends_bind, ends_get, continues_ok]
    cases hartifact : s.artifact with
    | some artifact =>
      rw [ends_pure, continues_ok, ends_pure]
      refine ⟨rfl, by simp [hartifact], by simp [hartifact, husable], [], by simp, ?_⟩
      simp [deletionsOf, hkind, isDeletion_export]
    | none =>
      refine (buildExport_leaves husable hkind hartifact).mono fun r t ht => ?_
      cases r with
      | ok artifact => exact ht
      | error failure => exact ht
  · have hleaves : TurnLeaves turn action s (calledSession turn action s) :=
      turnLeaves_called husable (by simp [buildsArtifact, hkind])
    rw [if_neg hkind]
    unfold executePrivacyAction
    rw [ends_bind]
    refine callExecutorFor_ends ?_
    cases turn.execution with
    | error failure => exact hleaves
    | ok result =>
      rw [continues_ok, ends_bind, ends_ofExcept]
      cases require (validExecution action result = true) actionResultInvalid with
      | ok u => exact hleaves
      | error failure => exact hleaves

/-- The turn of an action that is due, of a request that is not one to delete. -/
theorem takeTurn_leaves (husable : s.broken = false) (hkind : s.request.kind ≠ .delete)
    (hdue : action.state ≠ .succeeded) (hstored : turn.stored = true) :
    Ends (takeTurn turn action) s fun r t => (∃ done, r = .ok done) ∧
      TurnLeaves turn action s t := by
  unfold takeTurn
  rw [if_neg hdue, hstored]
  refine ends_bind_run_ok (flushPrivacy_ok husable) ?_
  rw [ends_bind, ends_get, continues_ok, if_neg (fun hboth => hkind hboth.1), ends_tryCatch]
  have hleaves : Ends (executeAction turn (startAction turn.startedAt action)) s fun _ t =>
      TurnLeaves turn (startAction turn.startedAt action) s t := executeAction_leaves husable
  refine hleaves.mono fun r t ht => ?_
  have ht : TurnLeaves turn action s t := ⟨ht.request, ht.artifact, ht.broken, ht.calls⟩
  cases r with
  | ok done => exact ⟨⟨done, rfl⟩, ht⟩
  | error failure =>
    rw [handled_error, ends_pure]
    exact ⟨⟨_, rfl⟩, ht⟩

theorem takeTurn_done (hdone : action.state = .succeeded) : takeTurn turn action s = .ok action s := by
  unfold takeTurn
  rw [if_pos hdone]
  rfl

theorem takeTurn_refused (hdue : action.state ≠ .succeeded)
    (hrefused : s.broken = true ∨ turn.stored = false) :
    takeTurn turn action s = .error (.integrity "security_privacy") { s with broken := true } := by
  have hflush : flushPrivacy turn.stored s =
      .error (.integrity "security_privacy") { s with broken := true } := by
    unfold flushPrivacy
    rw [bind_run_ok (get_run s), if_neg]
    · rfl
    · rintro ⟨husable, hstored⟩
      rcases hrefused with h | h
      · simp [h] at husable
      · simp [h] at hstored
  unfold takeTurn
  rw [if_neg hdue]
  exact bind_run_error hflush _

/-- A session that has refused a flush makes no further call. -/
theorem takeTurns_broken (turns : Uuid → ActionTurn) (actions : List PrivacyAction)
    (hbroken : s.broken = true) : Ends (takeTurns turns actions) s fun _ t => t.calls = s.calls := by
  induction actions with
  | nil => rfl
  | cons action actions ih =>
    unfold takeTurns
    by_cases hdone : action.state = .succeeded
    · refine ends_bind_run_ok (takeTurn_done hdone) ?_
      rw [ends_bind]
      refine ih.mono fun r t ht => ?_
      cases r with
      | ok rest => exact ht
      | error failure => exact ht
    · exact ends_bind_run_error (takeTurn_refused hdone (.inl hbroken)) rfl

/-- The loop calls for the deletions of the actions that it reaches, in their order. -/
theorem deletions_takeTurns (turns : Uuid → ActionTurn) (actions : List PrivacyAction)
    (husable : s.broken = false) (hkind : s.request.kind ≠ .delete) :
    Ends (takeTurns turns actions) s fun _ t => CallsWith (fun later => deletionsOf later =
      deletionsOf ((reachedActions turns s.artifact.isSome actions).map (callOf turns))) s t := by
  induction actions generalizing s with
  | nil => exact ⟨[], by simp, rfl⟩
  | cons action actions ih =>
    unfold takeTurns reachedActions
    by_cases hdone : action.state = .succeeded
    · rw [if_pos hdone]
      refine ends_bind_run_ok (takeTurn_done hdone) ?_
      rw [ends_bind]
      refine (ih husable hkind).mono fun r t ht => ?_
      cases r with
      | ok rest => exact ht
      | error failure => exact ht
    · rw [if_neg hdone]
      cases hstored : (turns action.id).stored with
      | false =>
        refine ends_bind_run_error (takeTurn_refused hdone (.inr hstored)) ?_
        exact ⟨[], by simp, rfl⟩
      | true =>
        rw [if_pos rfl, ends_bind]
        refine (takeTurn_leaves husable hkind hdone hstored).mono fun r t ht => ?_
        obtain ⟨⟨done, rfl⟩, hleaves⟩ := ht
        obtain ⟨first, hfirst, hfirstDeletes⟩ := hleaves.calls
        rw [continues_ok, ends_bind, map_cons]
        have hcons : ∀ calls, deletionsOf (callOf turns action :: calls) =
            deletionsOf first ++ deletionsOf calls := fun calls => by
          rw [hfirstDeletes, ← deletionsOf_append]
          rfl
        cases hbroken : t.broken with
        | true =>
          have hstop := hbroken.symm.trans hleaves.broken
          rw [← hstop, if_pos rfl, map_nil, hcons]
          refine (takeTurns_broken turns actions hbroken).mono fun r u hu => ?_
          have hcalls : CallsWith (fun later => deletionsOf later =
              deletionsOf first ++ deletionsOf []) s u :=
            ⟨first, hu.trans hfirst, (append_nil _).symm⟩
          cases r with
          | ok rest => exact hcalls
          | error failure => exact hcalls
        | false =>
          have hgoes := hbroken.symm.trans hleaves.broken
          rw [← hgoes, if_neg (by simp), hcons, ← hleaves.artifact]
          refine (ih (s := t) hbroken (by rw [hleaves.request]; exact hkind)).mono fun r u hu => ?_
          obtain ⟨later, hlater, hdeletes⟩ := hu
          have hcalls : CallsWith (fun more => deletionsOf more = deletionsOf first ++
              deletionsOf ((reachedActions turns t.artifact.isSome actions).map (callOf turns))) s u := by
            refine ⟨first ++ later, by rw [hlater, hfirst, append_assoc], ?_⟩
            exact (deletionsOf_append first later).trans (congrArg (deletionsOf first ++ ·) hdeletes)
          cases r with
          | ok rest => exact hcalls
          | error failure => exact hcalls

/-- The deletions that a delivery of another request calls for. -/
theorem deletions_runPrivacy (husable : s.broken = false) (htakes : TakesOther s d) :
    Ends (runPrivacy d) s fun _ t => CallsWith (fun later => deletionsOf later =
      deletionsOf ((reachedActions d.turns s.artifact.isSome (inSequence s.actions)).map
        (callOf d.turns))) s t := by
  refine callsWith_runPrivacy husable (fun _ => ?_) fun hnot => absurd ?_ hnot
  · exact deletions_takeTurns d.turns (inSequence s.actions) (s := processingSession d s) husable htakes.kind
  · exact ⟨htakes.configured, htakes.queued, fun hheld => htakes.kind hheld.1⟩

end Other

/-! ## Steps of a request -/

section Requests

variable [PrivacyHashes] {holds : List LegalHold} {s : PrivacySession}

theorem newCalls_of_ends {C : List PrivacyCall → Prop} (step : PrivacyStep)
    (h : Ends (performPrivacy (step.under holds)) s fun _ t => CallsWith C s t) :
    C (newCalls holds s step) := by
  unfold newCalls stepPrivacy
  split
  · rename_i u after hreturned
    obtain ⟨later, hlater, hc⟩ := h.of_ok hreturned
    rw [hlater, drop_left]
    exact hc
  · rename_i failure after hraised
    obtain ⟨later, hlater, hc⟩ := h.of_error hraised
    simp only [hlater, drop_left]
    exact hc

/-- Any step but a delivery that takes the turns of another request is safe. -/
theorem unheld_newCalls (husable : s.broken = false) {step : PrivacyStep}
    (hnot : ∀ d, step = .process d → ¬ TakesOther s d) :
    ∀ call ∈ newCalls holds s step, UnheldCall s.request holds call := by
  refine newCalls_of_ends (C := fun later => ∀ call ∈ later, UnheldCall s.request holds call) step ?_
  cases step with
  | verify call => exact more_verify call s
  | plan call => exact more_plan call s
  | failRuntime code stored => exact more_failRuntime _ code stored s
  | cancel principal stored => exact more_cancel principal stored s
  | reject principal code stored => exact more_reject principal code stored s
  | process d =>
    by_cases hkind : s.request.kind = .delete
    · exact unheld_runPrivacy (d := d.under holds) husable hkind fun _ => rfl
    · refine callsWith_runPrivacy (d := d.under holds) husable (fun htakes => ?_)
        fun _ _ hcall => nomatch hcall
      exact absurd ⟨htakes.configured, htakes.queued, hkind⟩ (hnot d rfl)

omit [PrivacyHashes] in
theorem reachedActions_under (d : PrivacyDelivery) (artifact : Bool) (actions : List PrivacyAction) :
    reachedActions (d.under holds).turns artifact actions =
      reachedActions d.turns artifact actions := by
  induction actions generalizing artifact with
  | nil => rfl
  | cons action actions ih =>
    unfold reachedActions
    rw [ih, ih]
    rfl

theorem newCalls_of_other (husable : s.broken = false) (htakes : TakesOther s d) :
    deletionsOf (newCalls holds s (.process d)) =
      deletionsOf ((reachedActions d.turns s.artifact.isSome (inSequence s.actions)).map
        (callOf d.turns)) := by
  have hunder : TakesOther s (d.under holds) := ⟨htakes.configured, htakes.queued, htakes.kind⟩
  have hends := deletions_runPrivacy husable hunder
  rw [reachedActions_under] at hends
  exact newCalls_of_ends (.process d) hends

theorem unheld_iff_of_other (husable : s.broken = false) (htakes : TakesOther s d) :
    (∀ call ∈ newCalls holds s (.process d), isDeletion call.kind = true →
      holdsMatching s.request call.calledAt holds = []) ↔
    ∀ action ∈ reachedActions d.turns s.artifact.isSome (inSequence s.actions),
      isDeletion action.kind = true →
        holdsMatching s.request (d.turns action.id).calledAt holds = [] := by
  have hdeletions : deletionsOf (newCalls holds s (.process d)) = _ := newCalls_of_other husable htakes
  have hmem : ∀ call, call ∈ newCalls holds s (.process d) ∧ isDeletion call.kind = true ↔
      call ∈ (reachedActions d.turns s.artifact.isSome (inSequence s.actions)).map
        (callOf d.turns) ∧ isDeletion call.kind = true := fun call => by
    rw [← mem_deletionsOf, hdeletions, mem_deletionsOf]
  constructor
  · intro h action haction hdeletion
    obtain ⟨hcall, _⟩ := (hmem (callOf d.turns action)).mpr ⟨mem_map_of_mem haction, hdeletion⟩
    exact h _ hcall hdeletion
  · intro h call hcall hdeletion
    obtain ⟨hreached, _⟩ := (hmem call).mp ⟨hcall, hdeletion⟩
    obtain ⟨action, haction, rfl⟩ := mem_map.mp hreached
    exact h action haction hdeletion

end Requests

/-! ## Steps of a sweep -/

/-- As holds only expire, the snapshots of two moments are equal exactly when no hold that is active
at the first one has expired at the second. -/
theorem snapshot_eq_iff {later : Int} (h : now ≤ later) (holds : List LegalHold) :
    activeLegalHoldSnapshot later holds = activeLegalHoldSnapshot now holds ↔
      ∀ hold ∈ holds, hold.activeAt now = true → hold.activeAt later = true := by
  have hrest : holds.filter (·.activeAt later) =
      (holds.filter (·.activeAt now)).filter (·.activeAt later) := by
    rw [filter_filter]
    refine filter_congr fun hold _ => ?_
    cases hlater : hold.activeAt later with
    | false => rfl
    | true => rw [activeAt_earlier h hlater]; rfl
  constructor
  · intro hsame hold hhold hactive
    have hlength := congrArg length hsame
    simp only [activeLegalHoldSnapshot, length_map, length_mergeSort, hrest] at hlength
    have hkept := length_filter_eq_length_iff.mp hlength
    exact hkept hold (mem_filter.mpr ⟨hhold, hactive⟩)
  · intro hkept
    unfold activeLegalHoldSnapshot
    rw [hrest, filter_eq_self.mpr]
    intro hold hhold
    obtain ⟨hmem, hactive⟩ := mem_filter.mp hhold
    exact hkept hold hmem hactive

section Sweeps

variable [PrivacyHashes]

/-- The hash of a sweep is that of its own snapshot. -/
def SealedSweep (s : SweepSession) : Prop :=
  s.sweep.legalHoldSnapshotHash = SecurityHashes.holdSnapshotHash s.sweep.legalHoldSnapshot

/-- What a sweep is between the steps of its workspace. -/
structure SweepBooks (s : SweepSession) : Prop where
  rest : AtRest s
  sealed : SealedSweep s

variable {s : SweepSession} {d : RetentionDelivery}

/-- The call of the executor that a delivery makes: one at its time with the snapshot of the sweep
where it takes the sweep there, and none elsewhere. -/
theorem deliverSweep_calls (h : AtRest s) (d : RetentionDelivery) :
    TakesSweep s d ∧ (∃ answer, (deliverSweep s d).calls =
        s.calls ++ [⟨s.sweep.legalHoldSnapshot, d.calledAt, answer⟩]) ∨
      ¬ TakesSweep s d ∧ (deliverSweep s d).calls = s.calls := by
  have htakes : ∀ {answer}, Waiting s → Reaches s d answer → TakesSweep s d :=
    fun hwaiting hreach => ⟨by rw [hreach.executor]; rfl, hwaiting.queued, hreach.checked⟩
  rcases h with h | h
  · cases sweepEnd_of_waiting h d with
    | refused code hunreached hrun =>
      refine .inr ⟨fun htaken => ?_, by rw [commits_of_run hrun]; rfl⟩
      obtain ⟨answer, hanswer⟩ := Option.isSome_iff_exists.mp htaken.configured
      exact hunreached answer ⟨hanswer, htaken.checked⟩
    | raised failure hreach code hrun =>
      exact .inl ⟨htakes h hreach, _, by rw [commits_of_run hrun]; rfl⟩
    | complete results hreach hcomplete hrun =>
      exact .inl ⟨htakes h hreach, _, by rw [commits_of_run hrun]; rfl⟩
    | stopped results hreach hincomplete hstorable code hrun =>
      exact .inl ⟨htakes h hreach, _, by rw [commits_of_run hrun]; rfl⟩
    | rolledBack results hreach hunstorable hrun =>
      obtain ⟨failure, after, hrun, hcalls⟩ := hrun
      refine .inl ⟨htakes h hreach, .returned results, ?_⟩
      unfold deliverSweep
      rw [hrun]
      exact hcalls
  · rw [deliverSweep_over h]
    exact .inr ⟨fun htaken => h.closed (.inl htaken.queued), rfl⟩

theorem newSweepCalls_eq (h : AtRest s) (holds : List LegalHold) (d : RetentionDelivery) :
    TakesSweep s (d.under holds) ∧ (∃ answer, newSweepCalls holds s d =
        [⟨s.sweep.legalHoldSnapshot, d.calledAt, answer⟩]) ∨
      ¬ TakesSweep s (d.under holds) ∧ newSweepCalls holds s d = [] := by
  unfold newSweepCalls
  rcases deliverSweep_calls h (d.under holds) with ⟨htaken, answer, hcalls⟩ | ⟨htaken, hcalls⟩
  · refine .inl ⟨htaken, answer, ?_⟩
    rw [hcalls, drop_left]
    rfl
  · refine .inr ⟨htaken, ?_⟩
    rw [hcalls, drop_length]

/-- A delivery keeps the snapshot of a sweep and its hash. -/
theorem SweepBooks.deliver (h : SweepBooks s) (d : RetentionDelivery) : SweepBooks (deliverSweep s d) := by
  refine ⟨atRest_deliver h.rest d, ?_⟩
  have hsealed := h.sealed
  rcases h.rest with hwaiting | hover
  · unfold SealedSweep deliverSweep
    cases sweepEnd_of_waiting hwaiting d with
    | refused code hunreached hrun => rw [hrun]; exact hsealed
    | raised failure hreach code hrun => rw [hrun]; exact hsealed
    | complete results hreach hcomplete hrun => rw [hrun]; exact hsealed
    | stopped results hreach hincomplete hstorable code hrun => rw [hrun]; exact hsealed
    | rolledBack results hreach hunstorable hrun =>
      obtain ⟨failure, after, hrun, -⟩ := hrun
      rw [hrun]
      exact hsealed
  · rw [deliverSweep_over hover]
    exact hsealed

/-- A sweep that passes its checks has the hash of the active holds. -/
theorem hash_of_sealed (hs : SealedSweep s) (hchecked : checkSweep d s.sweep = .ok ()) :
    SecurityHashes.holdSnapshotHash (activeLegalHoldSnapshot d.now d.holds) =
      SecurityHashes.holdSnapshotHash s.sweep.legalHoldSnapshot := by
  unfold checkSweep at hchecked
  obtain ⟨_, _, hchecked⟩ := bind_ok hchecked
  obtain ⟨_, _, hchecked⟩ := bind_ok hchecked
  exact (require_ok hchecked).trans hs

/-- The executor of a sweep is handed the active holds exactly when none has expired since the
query. -/
theorem handed_iff (h : SweepBooks s) {holds : List LegalHold}
    (hhash : SecurityHashes.holdSnapshotHash (activeLegalHoldSnapshot d.now holds) =
        SecurityHashes.holdSnapshotHash s.sweep.legalHoldSnapshot →
      activeLegalHoldSnapshot d.now holds = s.sweep.legalHoldSnapshot) :
    (∀ call ∈ newSweepCalls holds s d,
        call.legalHoldSnapshot = activeLegalHoldSnapshot call.calledAt holds) ↔
      (TakesSweep s (d.under holds) →
        ∀ hold ∈ holds, hold.activeAt d.now = true → hold.activeAt d.calledAt = true) := by
  rcases newSweepCalls_eq h.rest holds d with ⟨htaken, answer, hcalls⟩ | ⟨htaken, hcalls⟩
  · have hsnapshot : activeLegalHoldSnapshot d.now holds = s.sweep.legalHoldSnapshot :=
      hhash (hash_of_sealed h.sealed htaken.checked)
    rw [hcalls, forall_mem_singleton, ← hsnapshot, ← snapshot_eq_iff d.now_le holds]
    exact ⟨fun hsame _ => hsame.symm, fun hsame => (hsame htaken).symm⟩
  · rw [hcalls]
    exact iff_of_true (by simp) fun h => absurd h htaken

end Sweeps

section Runs

variable [PrivacyHashes]

/-- A workspace whose requests have just been made, before its first sweep. -/
structure NewHoldWorld (w : HoldWorld) : Prop where
  requests : ∀ s ∈ w.requests, NewPrivacyRequest s
  sweeps : w.sweeps = []

structure HoldBooks (w : HoldWorld) : Prop where
  requests : ∀ s ∈ w.requests, PrivacyBooks s
  sweeps : ∀ s ∈ w.sweeps, SweepBooks s

variable {w : HoldWorld}

theorem NewHoldWorld.books (hw : NewHoldWorld w) : HoldBooks w where
  requests s hs := (hw.requests s hs).books
  sweeps s hs := by
    rw [hw.sweeps] at hs
    cases hs

theorem sweepBooks_create {id workspaceId : Uuid} {key : String}
    {policies : List RetentionPolicyVersion} {holds : List LegalHold}
    {sweeps after : List SweepSession} (hs : ∀ s ∈ sweeps, SweepBooks s)
    (h : createRetentionSweep id workspaceId now key policies holds sweeps = .ok after) :
    ∀ s ∈ after, SweepBooks s := by
  unfold createRetentionSweep at h
  split at h
  · cases h
    exact hs
  · obtain ⟨policy, _, h⟩ := bind_ok h
    obtain ⟨_, _, h⟩ := bind_ok h
    cases h
    intro s hmem
    rcases mem_append.mp hmem with hold | hnew
    · exact hs s hold
    · rw [mem_singleton.mp hnew]
      exact ⟨.inl ⟨rfl, rfl, rfl⟩, rfl⟩

theorem holdBooks_step (hw : HoldBooks w) (step : HoldStep) : HoldBooks (stepHolds w step) := by
  cases step with
  | createHold id now subjectId data => exact ⟨hw.requests, hw.sweeps⟩
  | releaseHold now subjectId holdId reason => exact ⟨hw.requests, hw.sweeps⟩
  | createSweep id workspaceId now key policies =>
    refine ⟨hw.requests, ?_⟩
    cases hcreated : createRetentionSweep id workspaceId now key policies w.holds w.sweeps with
    | ok after =>
      simp only [stepHolds, hcreated, orUnchanged]
      exact sweepBooks_create hw.sweeps hcreated
    | error failure =>
      simp only [stepHolds, hcreated, orUnchanged]
      exact hw.sweeps
  | sweep sweepId delivery =>
    refine ⟨hw.requests, fun s hs => ?_⟩
    obtain ⟨old, hold, ⟨_, rfl⟩ | ⟨_, rfl⟩⟩ := mem_updateRow hs
    · exact (hw.sweeps old hold).deliver _
    · exact hw.sweeps _ hold
  | request requestId step =>
    refine ⟨fun s hs => ?_, hw.sweeps⟩
    obtain ⟨old, hold, ⟨_, rfl⟩ | ⟨_, rfl⟩⟩ := mem_updateRow hs
    · exact (advances_step (hw.requests old hold) _).1
    · exact hw.requests _ hold

/-- The tests of a step decide whether it deletes under a hold. -/
theorem deletesUnheld_iff (hw : HoldBooks w) {step : HoldStep} (hhash : HashTellsApart w step) :
    DeletesUnheld w step ↔ ReachesUnheld w step := by
  cases step with
  | createHold id now subjectId data => exact Iff.rfl
  | releaseHold now subjectId holdId reason => exact Iff.rfl
  | createSweep id workspaceId now key policies => exact Iff.rfl
  | sweep sweepId delivery =>
    have hhanded := fun s hs hid => handed_iff (hw.sweeps s hs) (hhash s hs hid)
    exact forall₂_congr fun s hs => forall_congr' fun hid => hhanded s hs hid
  | request requestId step =>
    have hsafe : ∀ s ∈ w.requests, (∀ d, step = .process d → ¬ TakesOther s d) →
        ∀ call ∈ newCalls w.holds s step, isDeletion call.kind = true →
          holdsMatching s.request call.calledAt w.holds = [] := fun s hs hnot call hcall _ =>
      unheld_newCalls (hw.requests s hs).usable hnot call hcall
    cases step with
    | process d =>
      constructor
      · intro h s hs hid htakes
        exact (unheld_iff_of_other (hw.requests s hs).usable htakes).mp (h s hs hid)
      · intro h s hs hid
        by_cases htakes : TakesOther s d
        · exact (unheld_iff_of_other (hw.requests s hs).usable htakes).mpr (h s hs hid htakes)
        · refine hsafe s hs fun d' hd => ?_
          cases hd
          exact htakes
    | verify call => exact iff_of_true (fun s hs _ => hsafe s hs fun _ h => nomatch h) trivial
    | plan call => exact iff_of_true (fun s hs _ => hsafe s hs fun _ h => nomatch h) trivial
    | failRuntime code stored =>
      exact iff_of_true (fun s hs _ => hsafe s hs fun _ h => nomatch h) trivial
    | cancel principal stored =>
      exact iff_of_true (fun s hs _ => hsafe s hs fun _ h => nomatch h) trivial
    | reject principal code stored =>
      exact iff_of_true (fun s hs _ => hsafe s hs fun _ h => nomatch h) trivial

/-- Nothing is deleted under a hold in any order of steps, exactly when no delivery of a request
that is not a deletion reaches an action that deletes while an active hold matches the request, and
no hold expires between the query of a sweep and the call of its executor. -/
theorem nothing_deleted_under_hold_iff {w : HoldWorld} (hw : NewHoldWorld w) {steps : List HoldStep}
    (hhash : Along stepHolds HashTellsApart w steps) :
    Along stepHolds DeletesUnheld w steps ↔ Along stepHolds ReachesUnheld w steps :=
  along_iff_along_of_invariant (I := HoldBooks) stepHolds
    (fun _ _ hw hhash => deletesUnheld_iff hw hhash)
    (fun _ step hw _ _ => holdBooks_step hw step) hw.books hhash

end Runs

/-! ## A hold that expires during a sweep -/

attribute [local instance] samplePrivacyHashes

def sampleHold (expiresAt : Int) : LegalHoldCreate where
  externalMatterRef := "matter-1"
  title := "Litigation"
  reason := "Preserve everything"
  scopeSnapshot := { allWorkspace := true, json := "all" }
  evidenceObjectRefs := ["objects/hold"]
  expiresAt := some expiresAt

def sampleRestriction : PrivacySession where
  request := {
    id := 1, workspaceId := 2, requestedBy := 3, kind := .restrictProcessing
    subjectLocatorRef := "vault://subjects/3", subjectLocatorHash := sampleSha
    dataClasses := ["ACCOUNT"], createdAt := 0 }

def samplePolicy : RetentionPolicyVersion where
  id := 3
  version := 1
  rules := samplePolicyRules
  effectiveAt := 0

/-- The holds are queried at 10, and the executor is called at 12. -/
def sampleSweepDelivery : RetentionDelivery where
  now := 10
  startedAt := 11
  calledAt := 12
  now_le := by decide
  finishedAt := 30
  policies := [samplePolicy]
  holds := []
  executor := some (.returned [])

/-- A hold over the workspace, and the sweep that is made and delivered under it. -/
def sampleHoldSteps (expiresAt : Int) : List HoldStep := [.createHold 5 1 4 (sampleHold expiresAt),
    .createSweep 6 2 7 "sweep" [samplePolicy], .sweep 6 sampleSweepDelivery]

/-- The workspace before the sweep is delivered. -/
def sampleHoldWorld (expiresAt : Int) : HoldWorld :=
  run stepHolds { requests := [sampleRestriction] } ((sampleHoldSteps expiresAt).take 2)

theorem newHoldWorld_sample : NewHoldWorld { requests := [sampleRestriction] } where
  requests s hs := by
    rw [mem_singleton.mp hs]
    exact ⟨rfl, .inl rfl, rfl, rfl⟩
  sweeps := rfl

theorem hashTellsApart_sample (expiresAt : Int)
    (h : ∀ s ∈ (sampleHoldWorld expiresAt).sweeps,
      activeLegalHoldSnapshot 10 (sampleHoldWorld expiresAt).holds = s.sweep.legalHoldSnapshot) :
    Along stepHolds HashTellsApart { requests := [sampleRestriction] } (sampleHoldSteps expiresAt) :=
  ⟨trivial, trivial, fun s hs _ _ => h s hs, trivial⟩

/-- The hold outlasts the sweep. -/
theorem nothing_deleted_under_hold_sample :
    Along stepHolds DeletesUnheld { requests := [sampleRestriction] } (sampleHoldSteps 100) := by
  rw [nothing_deleted_under_hold_iff newHoldWorld_sample
    (hashTellsApart_sample 100 (by decide +kernel))]
  have hkept : ∀ hold ∈ (sampleHoldWorld 100).holds, hold.activeAt 10 = true →
      hold.activeAt 12 = true := by
    decide +kernel
  exact ⟨trivial, trivial, fun _ _ _ _ => hkept, trivial⟩

/-- The hold expires at 11, and the executor is handed it at 12. -/
theorem expired_hold_handed : NewHoldWorld {} ∧ ¬ Along stepHolds DeletesUnheld {} (sampleHoldSteps 11) := by
  refine ⟨⟨by simp, rfl⟩, fun h => ?_⟩
  have hhanded : ∀ s ∈ (run stepHolds {} ((sampleHoldSteps 11).take 2)).sweeps, s.sweep.id = 6 →
      ∀ call ∈ newSweepCalls (run stepHolds {} ((sampleHoldSteps 11).take 2)).holds s
        sampleSweepDelivery, call.legalHoldSnapshot = activeLegalHoldSnapshot call.calledAt
          (run stepHolds {} ((sampleHoldSteps 11).take 2)).holds := h.2.2.1
  revert hhanded
  decide +kernel

end BlogOps.Security
