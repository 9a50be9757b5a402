import BlogOps.PrivacyRequests
import Mathlib.Data.List.Range

/-!
# Completed privacy requests

What the turns of a delivery make of the actions, what one call makes of a
request, and what holds of a request over any order of calls.
-/

namespace BlogOps.Security

open EffectRules KeyedTables TransitionRuns List

/-- Neither the request nor its rows change, and every call of the executor that is made on the
way satisfies `P`. -/
structure OnlyCalls (P : PrivacyCall → Prop) (s t : PrivacySession) : Prop where
  request : t.request = s.request
  verifications : t.verifications = s.verifications
  actions : t.actions = s.actions
  certificates : t.certificates = s.certificates
  calls : ∃ later, t.calls = s.calls ++ later ∧ ∀ call ∈ later, P call

instance (P : PrivacyCall → Prop) : IsPreorder PrivacySession (OnlyCalls P) where
  refl _ := ⟨rfl, rfl, rfl, rfl, [], by simp, by simp⟩
  trans _ _ _ hst htu := by
    obtain ⟨first, hfirst, hp⟩ := hst.calls
    obtain ⟨second, hsecond, hq⟩ := htu.calls
    refine ⟨htu.request.trans hst.request, htu.verifications.trans hst.verifications,
      htu.actions.trans hst.actions, htu.certificates.trans hst.certificates,
      first ++ second, ?_, ?_⟩
    · rw [hsecond, hfirst, append_assoc]
    · intro call hcall
      rcases mem_append.mp hcall with h | h
      · exact hp call h
      · exact hq call h

section Frames

variable {P : PrivacyCall → Prop}

theorem keeps_raise {α : Type} (x : Except Failure α) :
    Keeps (OnlyCalls P) (MonadExcept.ofExcept x : PrivacyM α) := by
  intro s
  rw [ends_ofExcept]
  exact refl_of _ s

theorem keeps_flushPrivacy (stored : Bool) : Keeps (OnlyCalls P) (flushPrivacy stored) := by
  unfold flushPrivacy
  refine keeps_bind keeps_get fun s => keeps_ite (keeps_pure ()) ?_
  refine keeps_bind (keeps_modify fun s => ?_) fun _ => keeps_throw _
  exact ⟨rfl, rfl, rfl, rfl, [], by simp, by simp⟩

theorem keeps_callExecutorFor {α : Type} {call : PrivacyCall} (hcall : P call)
    (answer : Except Failure α) : Keeps (OnlyCalls P) (callExecutorFor call answer) := by
  unfold callExecutorFor
  refine keeps_bind (keeps_modify fun s => ?_) fun _ => keeps_raise answer
  exact ⟨rfl, rfl, rfl, rfl, [call], rfl, by simpa using hcall⟩

end Frames

/-- The attempts of an action are numbered from one to its count. -/
def Numbered (action : PrivacyAction) : Prop :=
  action.attempts.map (·.attemptNo) = List.range' 1 action.attemptCount

/-- The parts of an action that its plan has settled. -/
structure SamePlan (action other : PrivacyAction) : Prop where
  id : other.id = action.id
  sequence : other.sequence = action.sequence
  kind : other.kind = action.kind
  dataClasses : other.dataClasses = action.dataClasses

/-- The states in which a turn leaves an action. -/
def turnEnds : List PrivacyActionState := [.succeeded, .skippedLegalHold, .failed]

/-- What a turn makes of an action. -/
structure TakenTurn (action done : PrivacyAction) : Prop where
  plan : SamePlan action done
  ended : done.state ∈ turnEnds
  succeeded : action.state = .succeeded → done = action
  numbered : Numbered action → Numbered done

variable {action : PrivacyAction} {request : PrivacyRequest} {workspaceId : Uuid}
variable {target : PrivacyRequestState} {u : Unit} {stored : Bool} {actions : List PrivacyAction}
variable {kind : PrivacyActionKind} {classes : List String}

/-- One more attempt under the next number. -/
theorem numbered_append (h : Numbered action) (done : PrivacyAction)
    (attempt : PrivacyActionAttempt) (hattempts : done.attempts = action.attempts ++ [attempt])
    (hno : attempt.attemptNo = action.attemptCount + 1)
    (hcount : done.attemptCount = action.attemptCount + 1) : Numbered done := by
  unfold Numbered at *
  rw [hattempts, map_append, h, hcount, List.range'_1_concat]
  simp [hno, Nat.add_comm]

theorem takenTurn_skipped (now : Int) (h : action.state ≠ .succeeded) :
    TakenTurn action (skippedAction now action) where
  plan := ⟨rfl, rfl, rfl, rfl⟩
  ended := by simp [skippedAction, turnEnds]
  succeeded hsucceeded := absurd hsucceeded h
  numbered hnumbered := numbered_append hnumbered _ _ rfl rfl rfl

theorem takenTurn_failed (startedAt now : Int) (code errorClass : String) (h : action.state ≠ .succeeded) :
    TakenTurn action (failedAction now code errorClass (startAction startedAt action)) where
  plan := ⟨rfl, rfl, rfl, rfl⟩
  ended := by simp [failedAction, turnEnds]
  succeeded hsucceeded := absurd hsucceeded h
  numbered hnumbered := numbered_append hnumbered _ _ rfl rfl rfl

theorem takenTurn_succeeded (startedAt : Int) (ref : String) (affected : Int) (hash evidence : String)
    (due completedAt : Option Int) (h : action.state ≠ .succeeded) : TakenTurn action
      (succeededAction ref affected hash evidence due completedAt (startAction startedAt action)) where
  plan := ⟨rfl, rfl, rfl, rfl⟩
  ended := by simp [succeededAction, turnEnds]
  succeeded hsucceeded := absurd hsucceeded h
  numbered hnumbered := numbered_append hnumbered _ _ rfl rfl rfl

section Turns

variable [PrivacyHashes] {P : PrivacyCall → Prop}

theorem keeps_executeAction (turn : ActionTurn) (hcall : P ⟨action.id, action.kind, turn.calledAt⟩) :
    Keeps (OnlyCalls P) (executeAction turn action) := by
  have hbuild : Keeps (OnlyCalls P) (buildExport turn action) := by
    unfold buildExport
    refine keeps_bind (keeps_callExecutorFor hcall _) fun result => ?_
    refine keeps_bind (keeps_raise _) fun _ => keeps_bind (keeps_raise _) fun maximum => ?_
    refine keeps_bind (keeps_raise _) fun _ => keeps_bind (keeps_modify fun s => ?_) fun _ => ?_
    · exact ⟨rfl, rfl, rfl, rfl, [], by simp, by simp⟩
    · exact keeps_bind (keeps_flushPrivacy _) fun _ => keeps_pure _
  unfold executeAction
  refine keeps_ite ?_ ?_
  · unfold executeExportAction exportArtifact
    refine keeps_bind (keeps_bind keeps_get fun s => ?_) fun _ => keeps_pure _
    split
    · exact keeps_pure _
    · exact hbuild
  · unfold executePrivacyAction
    refine keeps_bind (keeps_callExecutorFor hcall _) fun _ => ?_
    exact keeps_bind (keeps_raise _) fun _ => keeps_pure _

theorem returns_executeAction (turn : ActionTurn) (h : action.state ≠ .succeeded) :
    Returns (TakenTurn action) (executeAction turn (startAction turn.startedAt action)) := by
  unfold executeAction
  refine returns_ite (fun _ => ?_) fun _ => ?_
  · unfold executeExportAction
    refine returns_bind (returns_any _) fun _ _ => returns_pure ?_
    exact takenTurn_succeeded _ _ _ _ _ _ _ h
  · unfold executePrivacyAction
    refine returns_bind (returns_any _) fun _ _ => returns_bind (returns_any _) fun _ _ => ?_
    exact returns_pure (takenTurn_succeeded _ _ _ _ _ _ _ h)

/-- A turn calls the executor only for its own action, and not once the action has succeeded. -/
theorem keeps_takeTurn (turn : ActionTurn) (action : PrivacyAction)
    (hcall : action.state ≠ .succeeded → P ⟨action.id, action.kind, turn.calledAt⟩) :
    Keeps (OnlyCalls P) (takeTurn turn action) := by
  unfold takeTurn
  split
  · exact keeps_pure _
  · rename_i hdue
    refine keeps_bind (keeps_flushPrivacy _) fun _ => keeps_bind keeps_get fun s => ?_
    refine keeps_ite (keeps_pure _) (keeps_tryCatch ?_ fun _ => keeps_pure _)
    exact keeps_executeAction turn (hcall hdue)

theorem returns_takeTurn (turn : ActionTurn) (action : PrivacyAction) :
    Returns (TakenTurn action) (takeTurn turn action) := by
  unfold takeTurn
  refine returns_ite (fun hdone => ?_) fun hdue => ?_
  · exact returns_pure ⟨⟨rfl, rfl, rfl, rfl⟩, by simp [hdone, turnEnds], fun _ => rfl, id⟩
  · refine returns_bind (returns_any _) fun _ _ => returns_bind (returns_any _) fun s _ => ?_
    refine returns_ite (fun _ => returns_pure (takenTurn_skipped _ hdue)) fun _ => ?_
    refine returns_tryCatch (returns_executeAction turn hdue) fun failure => ?_
    exact returns_pure (takenTurn_failed _ _ _ _ hdue)

/-- The loop takes the turns of the actions in their order. -/
theorem returns_takeTurns (turns : Uuid → ActionTurn) (actions : List PrivacyAction) :
    Returns (List.Forall₂ TakenTurn actions) (takeTurns turns actions) := by
  induction actions with
  | nil => exact returns_pure .nil
  | cons action actions ih =>
    refine returns_bind (returns_takeTurn _ action) fun done hdone => ?_
    exact returns_bind ih fun rest hrest => returns_pure (.cons hdone hrest)

theorem keeps_takeTurns (turns : Uuid → ActionTurn) (actions : List PrivacyAction)
    (hcall : ∀ action ∈ actions, action.state ≠ .succeeded →
      P ⟨action.id, action.kind, (turns action.id).calledAt⟩) :
    Keeps (OnlyCalls P) (takeTurns turns actions) := by
  induction actions with
  | nil => exact keeps_pure _
  | cons action actions ih =>
    refine keeps_bind (keeps_takeTurn _ action (hcall action mem_cons_self)) fun done => ?_
    refine keeps_bind (ih fun other hother => ?_) fun rest => keeps_pure _
    exact hcall other (mem_cons_of_mem _ hother)

end Turns

/-- Wherever the turns end, the move to the final state is one that the rules allow. -/
theorem completion_allowed {states : List PrivacyActionState} (h : ∀ state ∈ states, state ∈ turnEnds) :
    privacyCompletionState states ∈ privacyTransitions .processing := by
  unfold privacyCompletionState
  split_ifs with hnone hfailed hsucceeded hall hskipped
  · simp [privacyTransitions]
  · simp [privacyTransitions]
  · simp [privacyTransitions]
  · simp [privacyTransitions]
  · simp [privacyTransitions]
  · refine absurd (fun state hstate => ?_) hall
    have hended := h state hstate
    simp only [turnEnds, mem_cons, not_mem_nil, or_false] at hended
    rcases hended with rfl | rfl | rfl
    · exact .inl rfl
    · exact .inr rfl
    · exact absurd hstate hfailed

/-- A delivery completes a request only when every action has succeeded. -/
theorem completed_of_completionState {states : List PrivacyActionState}
    (h : privacyCompletionState states = .completed) :
    states ≠ [] ∧ ∀ state ∈ states, state = .succeeded := by
  unfold privacyCompletionState at h
  split_ifs at h with hnone hfailed hsucceeded hall hskipped
  refine ⟨hnone, fun state hstate => ?_⟩
  rcases hall state hstate with hdone | rfl
  · exact hdone
  · exact absurd hstate hskipped

/-! ## The books of a request -/

/-- The actions cover the kinds that the request needs, and all of its data classes. -/
def CoversRequest (request : PrivacyRequest) (actions : List PrivacyAction) : Prop :=
  (∀ kind ∈ requiredActionsForRequest request.kind, ∃ action ∈ actions, action.kind = kind.value) ∧
    ∀ dataClass ∈ request.dataClasses, ∃ action ∈ actions, dataClass ∈ action.dataClasses

def IdentityVerified (s : PrivacySession) : Prop :=
  ∃ verification ∈ s.verifications, verification.passed = true ∧
    s.request.verifiedAt = verification.verifiedAt

/-- The states a request can be in without having been verified. -/
def unverifiedStates : List PrivacyRequestState := [.identityPending, .rejected, .cancelled]

/-- What holds of a request between calls. -/
structure PrivacyBooks (s : PrivacySession) : Prop where
  usable : s.broken = false
  resting : s.request.state ≠ .processing
  verified : s.request.state ∉ unverifiedStates → IdentityVerified s
  keyed : Keyed (·.id) s.actions
  covered : s.actions = [] ∨ CoversRequest s.request s.actions
  numbered : ∀ action ∈ s.actions, Numbered action
  completed : s.request.state = .completed → s.actions ≠ [] ∧ ∀ action ∈ s.actions, action.state = .succeeded
  certified : s.request.state = .completed ∧ s.request.kind = .delete →
    ∃ certificate, s.certificates = [certificate] ∧ certificate.systemResults = s.actions.map systemResult
  uncertified : ¬ (s.request.state = .completed ∧ s.request.kind = .delete) → s.certificates = []

/-- Every call of the executor that is made on the way satisfies `P`. -/
def MoreCalls (P : PrivacyCall → Prop) (s t : PrivacySession) : Prop :=
  ∃ later, t.calls = s.calls ++ later ∧ ∀ call ∈ later, P call

instance (P : PrivacyCall → Prop) : IsPreorder PrivacySession (MoreCalls P) where
  refl _ := ⟨[], by simp, by simp⟩
  trans _ _ _ hst htu := by
    obtain ⟨first, hfirst, hp⟩ := hst
    obtain ⟨second, hsecond, hq⟩ := htu
    refine ⟨first ++ second, by rw [hsecond, hfirst, append_assoc], fun call hcall => ?_⟩
    rcases mem_append.mp hcall with h | h
    · exact hp call h
    · exact hq call h

/-- The call is for an action that has not succeeded. -/
def DueCall (s : PrivacySession) (call : PrivacyCall) : Prop :=
  ∃ action ∈ s.actions, action.id = call.actionId ∧ action.state ≠ .succeeded

/-- What every call keeps of the past: a succeeded action is not executed again and stays
succeeded, and a request that has ended stays as it ended. -/
structure KeepsDone (s t : PrivacySession) : Prop where
  calls : MoreCalls (DueCall s) s t
  succeeded : ∀ action ∈ s.actions, action.state = .succeeded → action ∈ t.actions
  ended : privacyTransitions s.request.state = [] → t.request = s.request

/-! ## The parts of a call -/

section Parts

variable {P : PrivacyCall → Prop} {s t : PrivacySession}

theorem OnlyCalls.moreCalls (h : OnlyCalls P s t) : MoreCalls P s t := h.calls

theorem moreCalls_of_eq (h : t.calls = s.calls) : MoreCalls P s t := ⟨[], by simp [h], by simp⟩

theorem more_raise {α : Type} (x : Except Failure α) :
    Keeps (MoreCalls P) (MonadExcept.ofExcept x : PrivacyM α) :=
  (keeps_raise x).mono fun _ _ h => h.moreCalls

theorem more_flush (stored : Bool) : Keeps (MoreCalls P) (flushPrivacy stored) :=
  (keeps_flushPrivacy stored).mono fun _ _ h => h.moreCalls

theorem more_modify {f : PrivacySession → PrivacySession} (h : ∀ s, (f s).calls = s.calls) :
    Keeps (MoreCalls P) (modify f : PrivacyM Unit) :=
  keeps_modify fun s => moreCalls_of_eq (h s)

theorem more_requestRow (workspaceId : Uuid) : Keeps (MoreCalls P) (requestRow workspaceId) := by
  unfold requestRow
  refine keeps_bind keeps_get fun s => keeps_ite (keeps_throw _) ?_
  exact keeps_bind (more_raise _) fun _ => keeps_pure _

theorem more_moveRequest (target : PrivacyRequestState) : Keeps (MoreCalls P) (moveRequest target) := by
  unfold moveRequest updateRequest
  exact keeps_bind keeps_get fun s => keeps_bind (more_raise _) fun _ => more_modify fun _ => rfl

theorem more_verify (call : VerificationCall) : Keeps (MoreCalls P) (verifyPrivacyRequest call) := by
  unfold verifyPrivacyRequest
  refine keeps_bind (more_requestRow _) fun request => keeps_bind (more_raise _) fun _ => ?_
  refine keeps_bind (more_raise _) fun _ => keeps_bind (more_raise _) fun result => ?_
  refine keeps_bind (more_raise _) fun _ => keeps_bind (more_modify fun _ => rfl) fun _ => ?_
  refine keeps_bind ?_ fun _ => more_flush _
  unfold applyVerification updateRequest
  refine keeps_ite (keeps_bind (more_moveRequest _) fun _ => ?_) (keeps_pure _)
  exact more_modify fun _ => rfl

theorem more_failRuntime (workspaceId : Uuid) (code : String)
    (stored : Bool) : Keeps (MoreCalls P) (failPrivacyRuntime workspaceId code stored) := by
  unfold failPrivacyRuntime beginProcessing endProcessing updateRequest
  refine keeps_bind (more_requestRow _) fun _ => keeps_bind ?_ fun _ => keeps_bind ?_ fun _ =>
    more_flush _
  · exact keeps_bind keeps_get fun _ => keeps_ite (more_moveRequest _) (keeps_pure _)
  · refine keeps_bind keeps_get fun _ => keeps_ite ?_ (keeps_pure _)
    exact keeps_bind (more_moveRequest _) fun _ => more_modify fun _ => rfl

theorem more_cancel (principal : PrivacyPrincipal) (stored : Bool) :
    Keeps (MoreCalls P) (cancelPrivacyRequest principal stored) := by
  unfold cancelPrivacyRequest
  refine keeps_bind (more_requestRow _) fun _ => keeps_bind (more_raise _) fun _ => ?_
  exact keeps_bind (more_moveRequest _) fun _ => more_flush _

theorem more_reject (principal : PrivacyPrincipal) (code : String)
    (stored : Bool) : Keeps (MoreCalls P) (rejectPrivacyRequest principal code stored) := by
  unfold rejectPrivacyRequest updateRequest
  refine keeps_bind (more_requestRow _) fun _ => keeps_bind (more_moveRequest _) fun _ => ?_
  exact keeps_bind (more_modify fun _ => rfl) fun _ => more_flush _

theorem of_requestRow (h : requestRow workspaceId s = .ok request t) : request = s.request ∧ t = s := by
  unfold requestRow at h
  rw [bind_run_ok (get_run s)] at h
  split at h
  · cases h
  · obtain ⟨_, _, hrequire, hreturned⟩ := of_bind_run_ok h
    obtain ⟨-, rfl⟩ := of_ofExcept_run_ok hrequire
    exact of_pure_run_ok hreturned

theorem of_moveRequest (h : moveRequest target s = .ok u t) : target ∈ privacyTransitions s.request.state ∧
      t = { s with request := { s.request with state := target } } := by
  unfold moveRequest at h
  rw [bind_run_ok (get_run s)] at h
  obtain ⟨_, _, hensure, hmoved⟩ := of_bind_run_ok h
  obtain ⟨hallowed, rfl⟩ := of_ofExcept_run_ok hensure
  exact ⟨require_ok hallowed, of_modify_run_ok hmoved⟩

theorem of_bind_requestRow {β : Type} {f : PrivacyRequest → PrivacyM β} {b : β}
    (h : (requestRow workspaceId >>= f) s = .ok b t) : f s.request s = .ok b t := by
  obtain ⟨request, after, hrow, hrest⟩ := of_bind_run_ok h
  obtain ⟨hrequest, hafter⟩ := of_requestRow hrow
  rwa [hrequest, hafter] at hrest

theorem of_bind_moveRequest {β : Type} {f : Unit → PrivacyM β} {b : β}
    (h : (moveRequest target >>= f) s = .ok b t) : target ∈ privacyTransitions s.request.state ∧
      f () { s with request := { s.request with state := target } } = .ok b t := by
  obtain ⟨u, after, hmove, hrest⟩ := of_bind_run_ok h
  obtain ⟨hallowed, hafter⟩ := of_moveRequest hmove
  exact ⟨hallowed, hafter ▸ hrest⟩

theorem of_flushPrivacy (h : flushPrivacy stored s = .ok u t) : t = s ∧ s.broken = false := by
  unfold flushPrivacy at h
  rw [bind_run_ok (get_run s)] at h
  split at h
  · rename_i hstored
    exact ⟨(of_pure_run_ok h).2, hstored.1⟩
  · cases h

theorem moveRequest_run (h : target ∈ privacyTransitions s.request.state) :
    moveRequest target s = .ok () { s with request := { s.request with state := target } } := by
  unfold moveRequest
  rw [bind_run_ok (get_run s), ensurePrivacyTransition, require_of h, bind_run_ok (ofExcept_run_ok () s)]
  rfl

theorem requestRow_run (h : s.broken = false) : requestRow s.request.workspaceId s = .ok s.request s := by
  unfold requestRow
  rw [bind_run_ok (get_run s), if_neg (by simp [h]), require_of rfl, bind_run_ok (ofExcept_run_ok () s)]
  rfl

/-- The session in which the turns are taken. -/
def processingSession (d : PrivacyDelivery) (s : PrivacySession) : PrivacySession :=
  { s with request := { s.request with
    state := .processing
    processingStartedAt := some d.now } }

variable [PrivacyHashes]

theorem processActions_run (d : PrivacyDelivery) (h : s.request.state = .queued) : processActions d s = (do
      let actions ← takeTurns d.turns (inSequence s.actions)
      concludeRequest d actions) (processingSession d s) := by
  have hmove : .processing ∈ privacyTransitions s.request.state := by
    simp [h, privacyTransitions]
  unfold processActions
  rw [bind_run_ok (moveRequest_run hmove), updateRequest, bind_run_ok (modify_run _ _),
    bind_run_ok (get_run _)]
  rfl

end Parts

/-! ## Changes of the state -/

/-- The call has changed the state of the request, and no row of it. -/
structure MovedTo (s t : PrivacySession) : Prop where
  kind : t.request.kind = s.request.kind
  dataClasses : t.request.dataClasses = s.request.dataClasses
  verifiedAt : t.request.verifiedAt = s.request.verifiedAt
  verifications : t.verifications = s.verifications
  actions : t.actions = s.actions
  certificates : t.certificates = s.certificates
  calls : t.calls = s.calls
  broken : t.broken = s.broken
  /-- The move starts in a state that can be left. -/
  left : privacyTransitions s.request.state ≠ []

theorem not_completed_of_left {s : PrivacySession} (h : privacyTransitions s.request.state ≠ []) :
    s.request.state ≠ .completed := by
  intro hstate
  rw [hstate] at h
  exact h rfl

/-- The books of a request that does not complete. -/
theorem PrivacyBooks.open_of {s t : PrivacySession} (hs : PrivacyBooks s)
    (hleft : privacyTransitions s.request.state ≠ []) (husable : t.broken = false)
    (hstate : t.request.state ≠ .processing ∧ t.request.state ≠ .completed)
    (hverified : t.request.state ∉ unverifiedStates → IdentityVerified t)
    (hkeyed : Keyed (·.id) t.actions) (hcovered : t.actions = [] ∨ CoversRequest t.request t.actions)
    (hnumbered : ∀ action ∈ t.actions, Numbered action)
    (hcertificates : t.certificates = s.certificates) : PrivacyBooks t where
  usable := husable
  resting := hstate.1
  verified := hverified
  keyed := hkeyed
  covered := hcovered
  numbered := hnumbered
  completed hcompleted := absurd hcompleted hstate.2
  certified hcompleted := absurd hcompleted.1 hstate.2
  uncertified _ := hcertificates.trans
    (hs.uncertified fun hcompleted => not_completed_of_left hleft hcompleted.1)

theorem CoversRequest.congr {other : PrivacyRequest} (h : CoversRequest request actions)
    (hkind : other.kind = request.kind) (hclasses : other.dataClasses = request.dataClasses) :
    CoversRequest other actions := by
  unfold CoversRequest
  rw [hkind, hclasses]
  exact h

section

variable {s t : PrivacySession} (h : MovedTo s t)

include h

theorem MovedTo.identityVerified (hs : IdentityVerified s) : IdentityVerified t := by
  obtain ⟨verification, hmem, hpassed, hat⟩ := hs
  exact ⟨verification, h.verifications ▸ hmem, hpassed, h.verifiedAt.trans hat⟩

theorem MovedTo.books (hs : PrivacyBooks s)
    (hstate : t.request.state ≠ .processing ∧ t.request.state ≠ .completed)
    (hverified : t.request.state ∉ unverifiedStates → s.request.state ∉ unverifiedStates) :
    PrivacyBooks t := by
  refine hs.open_of h.left (h.broken.trans hs.usable) hstate (fun hstate => ?_) ?_ ?_ ?_ h.certificates
  · exact h.identityVerified (hs.verified (hverified hstate))
  · rw [h.actions]
    exact hs.keyed
  · rw [h.actions]
    exact hs.covered.imp id fun hcovers => hcovers.congr h.kind h.dataClasses
  · rw [h.actions]
    exact hs.numbered

theorem MovedTo.keepsDone : KeepsDone s t where
  calls := ⟨[], by simp [h.calls], by simp⟩
  succeeded action haction _ := h.actions ▸ haction
  ended hended := absurd hended h.left

end

theorem keepsDone_refl (s : PrivacySession) : KeepsDone s s where
  calls := ⟨[], by simp, by simp⟩
  succeeded _ haction _ := haction
  ended _ := rfl

theorem ne_nil_of_target {current : PrivacyRequestState} (h : target ∈ privacyTransitions current) :
    privacyTransitions current ≠ [] :=
  ne_nil_of_mem h

/-- What a returned call leaves. -/
def Advances (s t : PrivacySession) : Prop := PrivacyBooks t ∧ KeepsDone s t

section

variable {s t : PrivacySession} (hs : PrivacyBooks s)

include hs

theorem advances_cancel {principal : PrivacyPrincipal}
    (h : cancelPrivacyRequest principal stored s = .ok u t) : Advances s t := by
  unfold cancelPrivacyRequest at h
  have hrow := of_bind_requestRow h
  obtain ⟨_, _, hmove⟩ := of_bind_ofExcept_ok hrow
  obtain ⟨hallowed, hflush⟩ := of_bind_moveRequest hmove
  rw [(of_flushPrivacy hflush).1]
  have hmoved : MovedTo s { s with request := { s.request with state := .cancelled } } :=
    ⟨rfl, rfl, rfl, rfl, rfl, rfl, rfl, rfl, ne_nil_of_target hallowed⟩
  exact ⟨hmoved.books hs ⟨by simp, by simp⟩ fun hstate => absurd (by simp [unverifiedStates]) hstate,
    hmoved.keepsDone⟩

theorem advances_reject {principal : PrivacyPrincipal} {code : String}
    (h : rejectPrivacyRequest principal code stored s = .ok u t) : Advances s t := by
  unfold rejectPrivacyRequest at h
  have hrow := of_bind_requestRow h
  obtain ⟨hallowed, hupdate⟩ := of_bind_moveRequest hrow
  rw [updateRequest, bind_run_ok (modify_run _ _)] at hupdate
  rw [(of_flushPrivacy hupdate).1]
  have hmoved : MovedTo s { s with request := { s.request with
      state := .rejected
      rejectionCode := some code } } :=
    ⟨rfl, rfl, rfl, rfl, rfl, rfl, rfl, rfl, ne_nil_of_target hallowed⟩
  exact ⟨hmoved.books hs ⟨by simp, by simp⟩ fun hstate => absurd (by simp [unverifiedStates]) hstate,
    hmoved.keepsDone⟩

theorem advances_failRuntime {code : String}
    (h : failPrivacyRuntime workspaceId code stored s = .ok u t) : Advances s t := by
  unfold failPrivacyRuntime at h
  have hrow := of_bind_requestRow h
  by_cases hqueued : s.request.state = .queued
  · have hbegin : beginProcessing s = .ok () { s with request := { s.request with
        state := .processing } } := by
      unfold beginProcessing
      rw [bind_run_ok (get_run s), if_pos hqueued]
      exact moveRequest_run (by simp [hqueued, privacyTransitions])
    have hend : endProcessing code { s with request := { s.request with state := .processing } } =
        .ok () { s with request := { s.request with
          state := .failed
          failureCode := some (clip code) } } := by
      unfold endProcessing
      rw [bind_run_ok (get_run _), if_pos rfl, bind_run_ok (moveRequest_run (by simp [privacyTransitions]))]
      rfl
    rw [bind_run_ok hbegin, bind_run_ok hend] at hrow
    rw [(of_flushPrivacy hrow).1]
    have hmoved : MovedTo s { s with request := { s.request with
        state := .failed
        failureCode := some (clip code) } } :=
      ⟨rfl, rfl, rfl, rfl, rfl, rfl, rfl, rfl, by simp [hqueued, privacyTransitions]⟩
    refine ⟨hmoved.books hs ⟨by simp, by simp⟩ fun _ => ?_, hmoved.keepsDone⟩
    simp [hqueued, unverifiedStates]
  · have hbegin : beginProcessing s = .ok () s := by
      unfold beginProcessing
      rw [bind_run_ok (get_run s), if_neg hqueued]
      rfl
    have hend : endProcessing code s = .ok () s := by
      unfold endProcessing
      rw [bind_run_ok (get_run s), if_neg hs.resting]
      rfl
    rw [bind_run_ok hbegin, bind_run_ok hend] at hrow
    rw [(of_flushPrivacy hrow).1]
    exact ⟨hs, keepsDone_refl s⟩

/-- A verification that passes is recorded before the request counts as verified. -/
theorem advances_verify {call : VerificationCall} (h : verifyPrivacyRequest call s = .ok u t) :
    Advances s t := by
  unfold verifyPrivacyRequest at h
  have hrow := of_bind_requestRow h
  obtain ⟨_, _, hpending⟩ := of_bind_ofExcept_ok hrow
  obtain ⟨_, hstate, hanswer⟩ := of_bind_ofExcept_ok hpending
  have hstate := require_ok hstate
  obtain ⟨result, _, hvalid⟩ := of_bind_ofExcept_ok hanswer
  obtain ⟨_, _, hrest⟩ := of_bind_ofExcept_ok hvalid
  rw [bind_run_ok (modify_run _ _)] at hrest
  have hleft : privacyTransitions s.request.state ≠ [] := by simp [hstate, privacyTransitions]
  unfold applyVerification at hrest
  by_cases hpassed : result.passed = true
  · rw [if_pos hpassed] at hrest
    obtain ⟨_, after, hmoved, hflush⟩ := of_bind_run_ok hrest
    obtain ⟨_, hupdate⟩ := of_bind_moveRequest hmoved
    have hafter := of_modify_run_ok hupdate
    rw [(of_flushPrivacy hflush).1, hafter]
    refine ⟨hs.open_of hleft hs.usable ⟨by simp, by simp⟩ (fun _ => ?_) hs.keyed ?_ hs.numbered rfl, ?_⟩
    · exact ⟨verificationEvent result, by simp, hpassed, rfl⟩
    · exact hs.covered.imp id fun hcovers => hcovers.congr rfl rfl
    · exact ⟨⟨[], by simp, by simp⟩, fun _ haction _ => haction, fun hended => absurd hended hleft⟩
  · rw [if_neg hpassed, bind_run_ok (pure_run _ _)] at hrest
    rw [(of_flushPrivacy hrest).1]
    refine ⟨hs.open_of hleft hs.usable ⟨?_, ?_⟩ (fun hverified => ?_) hs.keyed hs.covered hs.numbered rfl, ?_⟩
    · simp [hstate]
    · simp [hstate]
    · simp [hstate, unverifiedStates] at hverified
    · exact ⟨⟨[], by simp, by simp⟩, fun _ haction _ => haction, fun hended => absurd hended hleft⟩

end

theorem value_of_ofValue {value : String} (h : PrivacyActionKind.ofValue value = some kind) :
    kind.value = value := by
  unfold PrivacyActionKind.ofValue at h
  simpa using find?_some h

theorem kind_of_validatePlannedAction {item : PlannedPrivacyAction}
    (h : validatePlannedAction classes item = .ok kind) : item.kind = kind.value := by
  unfold validatePlannedAction at h
  split at h
  · cases h
  · rename_i found hfound
    obtain ⟨_, _, h⟩ := bind_ok h
    obtain ⟨_, _, h⟩ := bind_ok h
    cases h
    exact (value_of_ofValue hfound).symm

theorem exists_planned_of_mem {planned : List PlannedPrivacyAction} {kinds : List PrivacyActionKind}
    (h : planned.mapM (validatePlannedAction classes) = .ok kinds) (hkind : kind ∈ kinds) :
    ∃ item ∈ planned, item.kind = kind.value := by
  induction planned generalizing kinds with
  | nil =>
    cases h
    cases hkind
  | cons item planned ih =>
    rw [mapM_cons] at h
    obtain ⟨first, hfirst, h⟩ := bind_ok h
    obtain ⟨rest, hrest, h⟩ := bind_ok h
    cases h
    rcases mem_cons.mp hkind with rfl | hmem
    · exact ⟨item, mem_cons_self, kind_of_validatePlannedAction hfirst⟩
    · obtain ⟨other, hother, hvalue⟩ := ih hrest hmem
      exact ⟨other, mem_cons_of_mem _ hother, hvalue⟩

/-- A plan that passes has an action of every required kind, and one for every data class. -/
theorem covers_of_validateActionPlan {kind : PrivacyRequestKind}
    {planned : List PlannedPrivacyAction} (h : validateActionPlan kind classes planned = .ok ()) :
    (∀ required ∈ requiredActionsForRequest kind, ∃ item ∈ planned, item.kind = required.value) ∧
      ∀ dataClass ∈ classes, ∃ item ∈ planned, dataClass ∈ item.dataClasses := by
  unfold validateActionPlan at h
  obtain ⟨_, _, h⟩ := bind_ok h
  obtain ⟨kinds, hkinds, h⟩ := bind_ok h
  obtain ⟨hmissing, hclasses⟩ := require_ok h
  constructor
  · intro required hrequired
    have hplanned : required ∈ kinds := by
      simpa using filter_eq_nil_iff.mp hmissing required hrequired
    exact exists_planned_of_mem hkinds hplanned
  · intro dataClass hclass
    have hcovered : dataClass ∈ planned.flatMap (·.dataClasses) := by
      simpa using filter_eq_nil_iff.mp hclasses dataClass hclass
    exact mem_flatMap.mp hcovered

theorem resetAction_samePlan (action : PrivacyAction) : SamePlan action (resetAction action) := by
  unfold resetAction
  split <;> exact ⟨rfl, rfl, rfl, rfl⟩

theorem resetAction_numbered (h : Numbered action) : Numbered (resetAction action) := by
  unfold resetAction
  split
  · exact h
  · exact h

theorem resetAction_succeeded (h : action.state = .succeeded) : resetAction action = action := by
  unfold resetAction
  rw [if_neg (by simp [h])]

/-- Rows that keep what their plan has settled cover what they covered. -/
theorem CoversRequest.rewritten {after : List PrivacyAction} (h : CoversRequest request actions)
    (hrows : List.Forall₂ SamePlan actions after) : CoversRequest request after := by
  constructor
  · intro kind hkind
    obtain ⟨action, haction, hvalue⟩ := h.1 kind hkind
    obtain ⟨other, hother, hsame⟩ := exists_row_after hrows haction
    exact ⟨other, hother, hsame.kind.trans hvalue⟩
  · intro dataClass hclass
    obtain ⟨action, haction, hmem⟩ := h.2 dataClass hclass
    obtain ⟨other, hother, hsame⟩ := exists_row_after hrows haction
    exact ⟨other, hother, hsame.dataClasses.symm ▸ hmem⟩

section

variable {s t : PrivacySession} (hs : PrivacyBooks s)

include hs

theorem advances_holdRequest (h : holdRequest s = .ok u t) : Advances s t := by
  unfold holdRequest at h
  rw [bind_run_ok (get_run s)] at h
  by_cases hheld : s.request.state = .onHold
  · rw [if_pos hheld] at h
    rw [(of_pure_run_ok h).2]
    exact ⟨hs, keepsDone_refl s⟩
  · rw [if_neg hheld] at h
    obtain ⟨hallowed, rfl⟩ := of_moveRequest h
    have hmoved : MovedTo s { s with request := { s.request with state := .onHold } } :=
      ⟨rfl, rfl, rfl, rfl, rfl, rfl, rfl, rfl, ne_nil_of_target hallowed⟩
    refine ⟨hmoved.books hs ⟨by simp, by simp⟩ fun _ => ?_, hmoved.keepsDone⟩
    cases hstate : s.request.state <;> simp [hstate, privacyTransitions, unverifiedStates] at hallowed ⊢

theorem advances_requeueRequest (h : requeueRequest s = .ok u t) : Advances s t := by
  unfold requeueRequest at h
  rw [bind_run_ok (get_run s)] at h
  by_cases hstate : s.request.state = .failed ∨ s.request.state = .partly ∨ s.request.state = .onHold
  · rw [if_pos hstate] at h
    obtain ⟨hallowed, hmodify⟩ := of_bind_moveRequest h
    rw [of_modify_run_ok hmodify]
    have hrows : List.Forall₂ SamePlan s.actions (s.actions.map resetAction) :=
      List.forall₂_map_right_iff.mpr (List.forall₂_same.mpr fun action _ =>
        resetAction_samePlan action)
    have hdone : ∀ action ∈ s.actions, action.state = .succeeded →
        action ∈ s.actions.map resetAction := fun action haction hsucceeded =>
      mem_map.mpr ⟨action, haction, resetAction_succeeded hsucceeded⟩
    refine ⟨hs.open_of (ne_nil_of_target hallowed) hs.usable ⟨by simp, by simp⟩ (fun _ => ?_) ?_ ?_
      ?_ rfl, ⟨[], by simp, by simp⟩, hdone, fun hended => ?_⟩
    · exact hs.verified (by rcases hstate with h | h | h <;> simp [h, unverifiedStates])
    · unfold Keyed
      rw [map_eq_of_rewritten (f := (·.id)) hrows fun _ _ hsame => hsame.id]
      exact hs.keyed
    · refine hs.covered.imp (fun hnone => by rw [hnone]; rfl) fun hcovers => ?_
      exact (hcovers.congr rfl rfl).rewritten hrows
    · intro action haction
      obtain ⟨before, hbefore, rfl⟩ := mem_map.mp haction
      exact resetAction_numbered (hs.numbered before hbefore)
    · exact absurd hended (ne_nil_of_target hallowed)
  · rw [if_neg hstate] at h
    rw [(of_pure_run_ok h).2]
    exact ⟨hs, keepsDone_refl s⟩

end

section Planning

variable [PrivacyHashes]

section

variable {s t : PrivacySession} (hs : PrivacyBooks s) {call : PlanningCall}

include hs

/-- The first plan of a verified request. -/
theorem advances_planActions (hplannable : s.request.state ∈ plannableStates)
    (hnone : s.actions = []) (h : planActions call s = .ok u t) : Advances s t := by
  unfold planActions at h
  rw [bind_run_ok (get_run s)] at h
  obtain ⟨planned, _, hplan⟩ := of_bind_ofExcept_ok h
  obtain ⟨_, hvalid, hsequence⟩ := of_bind_ofExcept_ok hplan
  obtain ⟨_, _, hlocators⟩ := of_bind_ofExcept_ok hsequence
  obtain ⟨_, _, hids⟩ := of_bind_ofExcept_ok hlocators
  obtain ⟨_, hdistinct, hmodify⟩ := of_bind_ofExcept_ok hids
  have hdistinct := require_ok hdistinct
  rw [bind_run_ok (modify_run _ _)] at hmodify
  obtain ⟨hallowed, rfl⟩ := of_moveRequest hmodify
  have hverified : IdentityVerified s := by
    refine hs.verified fun hunverified => ?_
    simp only [plannableStates, mem_cons, not_mem_nil, or_false] at hplannable
    rcases hplannable with h | h | h | h <;> simp [h, unverifiedStates] at hunverified
  obtain ⟨hkinds, hclasses⟩ := covers_of_validateActionPlan hvalid
  refine ⟨hs.open_of (ne_nil_of_target hallowed) hs.usable ⟨by simp, by simp⟩ (fun _ => hverified)
    hdistinct (.inr ⟨fun kind hkind => ?_, fun dataClass hclass => ?_⟩)
    (fun action haction => ?_) rfl, ⟨[], by simp, by simp⟩, ?_, fun hended => ?_⟩
  · obtain ⟨item, hitem, hvalue⟩ := hkinds kind hkind
    exact ⟨_, mem_map_of_mem hitem, hvalue⟩
  · obtain ⟨item, hitem, hmem⟩ := hclasses dataClass hclass
    exact ⟨_, mem_map_of_mem hitem, hmem⟩
  · obtain ⟨item, _, rfl⟩ := mem_map.mp haction
    rfl
  · rw [hnone]
    exact fun action haction => nomatch haction
  · exact absurd hended (ne_nil_of_target hallowed)

theorem advances_plan (h : planPrivacyRequest call s = .ok u t) : Advances s t := by
  unfold planPrivacyRequest at h
  have hrow := of_bind_requestRow h
  obtain ⟨_, hplannable, hbody⟩ := of_bind_ofExcept_ok hrow
  obtain ⟨_, after, hdone, hflush⟩ := of_bind_run_ok hbody
  rw [(of_flushPrivacy hflush).1]
  unfold holdOrPlan at hdone
  rw [bind_run_ok (get_run s)] at hdone
  split at hdone
  · exact advances_holdRequest hs hdone
  · split at hdone
    · exact advances_requeueRequest hs hdone
    · rename_i hnone
      exact advances_planActions hs (require_ok hplannable) (not_not.mp hnone) hdone

end

end Planning

/-- An effect that raises has broken the session. -/
def BreaksOnError {α : Type} (x : PrivacyM α) : Prop :=
  ∀ s, Ends x s fun r t => ∀ failure, r = .error failure → t.broken = true

section Breaks

variable {α β : Type}

theorem breaks_pure (a : α) : BreaksOnError (pure a : PrivacyM α) := fun _ _ h => nomatch h

theorem breaks_bind {x : PrivacyM α} {f : α → PrivacyM β} (hx : BreaksOnError x)
    (hf : ∀ a, BreaksOnError (f a)) : BreaksOnError (x >>= f) := by
  intro s
  rw [ends_bind]
  refine (hx s).mono fun r t hr => ?_
  cases r with
  | ok a => exact hf a t
  | error e =>
    intro failure _
    exact hr e rfl

theorem breaks_get : BreaksOnError (get : PrivacyM PrivacySession) := fun _ _ h => nomatch h

theorem breaks_ite {p : Prop} [Decidable p] {x y : PrivacyM α} (hx : BreaksOnError x)
    (hy : BreaksOnError y) : BreaksOnError (if p then x else y) := by
  split
  · exact hx
  · exact hy

theorem breaks_flush (stored : Bool) : BreaksOnError (flushPrivacy stored) := by
  unfold flushPrivacy
  refine breaks_bind breaks_get fun s => breaks_ite (breaks_pure ()) fun t => ?_
  rw [ends_bind, ends_modify, continues_ok, ends_throw]
  exact fun _ _ => rfl

/-- What a handler answers without raising raises nothing. -/
theorem breaks_tryCatch (x : PrivacyM α) (handle : Failure → α) :
    BreaksOnError (tryCatch x fun failure => pure (handle failure)) := by
  intro s
  rw [ends_tryCatch]
  refine ends_intro (fun _ _ _ _ h => nomatch h) fun _ _ _ => ?_
  rw [handled_error, ends_pure]
  exact fun _ h => nomatch h

variable [PrivacyHashes]

theorem breaks_takeTurns (turns : Uuid → ActionTurn) (actions : List PrivacyAction) :
    BreaksOnError (takeTurns turns actions) := by
  induction actions with
  | nil => exact breaks_pure _
  | cons action actions ih =>
    refine breaks_bind ?_ fun _ => breaks_bind ih fun _ => breaks_pure _
    unfold takeTurn
    refine breaks_ite (breaks_pure _) (breaks_bind (breaks_flush _) fun _ => ?_)
    exact breaks_bind breaks_get fun _ => breaks_ite (breaks_pure _) (breaks_tryCatch _ _)

theorem breaks_closeRequest (finishedAt : Int) (actions : List PrivacyAction)
    (final : PrivacyRequestState) : BreaksOnError (closeRequest finishedAt actions final) := by
  have hmodify : ∀ f : PrivacySession → PrivacySession, BreaksOnError (modify f : PrivacyM Unit) :=
    fun _ _ _ h => nomatch h
  unfold closeRequest issueDeletionCertificate updateRequest
  refine breaks_bind breaks_get fun _ => breaks_ite (breaks_bind (hmodify _) fun _ => ?_) ?_
  · refine breaks_ite (breaks_bind breaks_get fun _ => ?_) (breaks_pure _)
    exact breaks_ite (hmodify _) (breaks_pure _)
  · exact breaks_ite (hmodify _) (breaks_pure _)

end Breaks

/-- What closing a request in its final state leaves. -/
structure Closes (done : List PrivacyAction) (final : PrivacyRequestState)
    (s t : PrivacySession) : Prop where
  state : t.request.state = s.request.state
  kind : t.request.kind = s.request.kind
  dataClasses : t.request.dataClasses = s.request.dataClasses
  verifiedAt : t.request.verifiedAt = s.request.verifiedAt
  verifications : t.verifications = s.verifications
  actions : t.actions = s.actions
  calls : t.calls = s.calls
  certified : final = .completed → s.request.kind = .delete → s.certificates = [] →
    ∃ certificate, t.certificates = [certificate] ∧ certificate.systemResults = done.map systemResult
  uncertified : ¬ (final = .completed ∧ s.request.kind = .delete) → t.certificates = s.certificates

section Closing

variable [PrivacyHashes]

theorem of_closeRequest {finishedAt : Int} {final : PrivacyRequestState} {s t : PrivacySession}
    (h : closeRequest finishedAt actions final s = .ok u t) : Closes actions final s t := by
  unfold closeRequest at h
  rw [bind_run_ok (get_run s)] at h
  by_cases hcompleted : final = .completed
  · rw [if_pos hcompleted, updateRequest, bind_run_ok (modify_run _ s)] at h
    by_cases hdelete : s.request.kind = .delete
    · rw [if_pos hdelete] at h
      unfold issueDeletionCertificate at h
      rw [bind_run_ok (get_run _)] at h
      by_cases hnone : s.certificates = []
      · rw [if_pos hnone] at h
        rw [of_modify_run_ok h]
        exact ⟨rfl, rfl, rfl, rfl, rfl, rfl, rfl, fun _ _ _ => ⟨_, rfl, rfl⟩,
          fun hnot => absurd ⟨hcompleted, hdelete⟩ hnot⟩
      · rw [if_neg hnone] at h
        rw [(of_pure_run_ok h).2]
        exact ⟨rfl, rfl, rfl, rfl, rfl, rfl, rfl, fun _ _ hnone' => absurd hnone' hnone, fun _ => rfl⟩
    · rw [if_neg hdelete] at h
      rw [(of_pure_run_ok h).2]
      exact ⟨rfl, rfl, rfl, rfl, rfl, rfl, rfl, fun _ hdelete' => absurd hdelete' hdelete, fun _ => rfl⟩
  · rw [if_neg hcompleted] at h
    split at h
    · rw [of_modify_run_ok h]
      exact ⟨rfl, rfl, rfl, rfl, rfl, rfl, rfl, fun hcompleted' => absurd hcompleted' hcompleted,
        fun _ => rfl⟩
    · rw [(of_pure_run_ok h).2]
      exact ⟨rfl, rfl, rfl, rfl, rfl, rfl, rfl, fun hcompleted' => absurd hcompleted' hcompleted,
        fun _ => rfl⟩

end Closing

theorem inSequence_perm (actions : List PrivacyAction) : (inSequence actions).Perm actions :=
  perm_insertionSort _ _

theorem CoversRequest.perm {other : List PrivacyAction} (h : CoversRequest request actions)
    (hperm : other.Perm actions) : CoversRequest request other := by
  constructor
  · intro kind hkind
    obtain ⟨action, haction, hvalue⟩ := h.1 kind hkind
    exact ⟨action, hperm.mem_iff.mpr haction, hvalue⟩
  · intro dataClass hclass
    obtain ⟨action, haction, hmem⟩ := h.2 dataClass hclass
    exact ⟨action, hperm.mem_iff.mpr haction, hmem⟩

section Conclusion

variable [PrivacyHashes] {s turned t : PrivacySession} {d : PrivacyDelivery}
  {done : List PrivacyAction} {P : PrivacyCall → Prop}

omit [PrivacyHashes] in
theorem states_of_takenTurns (h : List.Forall₂ TakenTurn actions done) :
    ∀ state ∈ done.map (·.state), state ∈ turnEnds := by
  intro state hstate
  obtain ⟨action, haction, rfl⟩ := mem_map.mp hstate
  obtain ⟨before, _, hturn⟩ := exists_row_before h haction
  exact hturn.ended

/-- What a delivery leaves that has taken its turns and commits. -/
theorem of_concludeRequest (h : concludeRequest d done turned = .ok u t) :
    t.broken = false ∧ Closes done (privacyCompletionState (done.map (·.state)))
      { turned with
        actions := done
        request := { turned.request with
          state := privacyCompletionState (done.map (·.state)) } } t := by
  unfold concludeRequest at h
  rw [bind_run_ok (modify_run _ _)] at h
  obtain ⟨_, hclose⟩ := of_bind_moveRequest h
  obtain ⟨_, closed, hclosed, hflush⟩ := of_bind_run_ok hclose
  obtain ⟨rfl, husable⟩ := of_flushPrivacy hflush
  exact ⟨husable, of_closeRequest hclosed⟩

theorem books_concludeRequest (hs : PrivacyBooks s) (hqueued : s.request.state = .queued)
    (hframe : OnlyCalls P (processingSession d s) turned)
    (hdone : List.Forall₂ TakenTurn (inSequence s.actions) done)
    (h : concludeRequest d done turned = .ok u t) : PrivacyBooks t := by
  obtain ⟨husable, hcloses⟩ := of_concludeRequest h
  have hended := states_of_takenTurns hdone
  have hfinal : t.request.state = privacyCompletionState (done.map (·.state)) := hcloses.state
  have hactions : t.actions = done := hcloses.actions
  have hkind : t.request.kind = s.request.kind := hcloses.kind.trans (congrArg (·.kind) hframe.request)
  have hclasses : t.request.dataClasses = s.request.dataClasses :=
    hcloses.dataClasses.trans (congrArg (·.dataClasses) hframe.request)
  have hcertificates : turned.certificates = [] :=
    hframe.certificates.trans (hs.uncertified fun hcompleted => by simp [hqueued] at hcompleted)
  have hplans : List.Forall₂ SamePlan (inSequence s.actions) done :=
    hdone.imp fun _ _ hturn => hturn.plan
  have hcompleted : t.request.state = .completed → t.actions ≠ [] ∧
      ∀ action ∈ t.actions, action.state = .succeeded := by
    intro hstate
    obtain ⟨hne, hall⟩ := completed_of_completionState (hfinal.symm.trans hstate)
    rw [hactions]
    refine ⟨fun hnone => hne (by rw [hnone]; rfl), fun action haction => ?_⟩
    exact hall _ (mem_map_of_mem haction)
  refine ⟨husable, fun hstate => ?_, fun _ => ?_, ?_, ?_, ?_, hcompleted, fun hcertified => ?_,
    fun huncertified => ?_⟩
  · have hallowed := completion_allowed hended
    rw [← hfinal, hstate] at hallowed
    simp [privacyTransitions] at hallowed
  · obtain ⟨verification, hmem, hpassed, hat⟩ := hs.verified (by simp [hqueued, unverifiedStates])
    refine ⟨verification, ?_, hpassed, ?_⟩
    · rw [hcloses.verifications]
      exact hframe.verifications ▸ hmem
    · exact (hcloses.verifiedAt.trans (congrArg (·.verifiedAt) hframe.request)).trans hat
  · unfold Keyed
    rw [hactions, map_eq_of_rewritten (f := (·.id)) hplans fun _ _ hsame => hsame.id]
    exact ((inSequence_perm s.actions).map _).nodup_iff.mpr hs.keyed
  · rw [hactions]
    rcases hs.covered with hnone | hcovers
    · have hempty : inSequence s.actions = [] := by
        rw [hnone]
        exact insertionSort_nil _
      rw [hempty] at hdone
      exact .inl (List.forall₂_nil_left_iff.mp hdone)
    · exact .inr (((hcovers.perm (inSequence_perm s.actions)).rewritten hplans).congr hkind hclasses)
  · intro action haction
    rw [hactions] at haction
    obtain ⟨before, hbefore, hturn⟩ := exists_row_before hdone haction
    exact hturn.numbered (hs.numbered before ((inSequence_perm s.actions).mem_iff.mp hbefore))
  · obtain ⟨certificate, hissued, hresults⟩ := hcloses.certified
      (hfinal.symm.trans hcertified.1) (hcloses.kind.symm.trans hcertified.2) hcertificates
    exact ⟨certificate, hissued, hresults.trans (by rw [hactions])⟩
  · refine (hcloses.uncertified fun hboth => huncertified ⟨?_, ?_⟩).trans hcertificates
    · exact hfinal.trans hboth.1
    · exact hcloses.kind.trans hboth.2

end Conclusion

section Delivery

variable [PrivacyHashes] {s t : PrivacySession} {d : PrivacyDelivery}

/-- A delivery that takes its turns and commits. -/
theorem advances_processActions (hs : PrivacyBooks s) (hqueued : s.request.state = .queued)
    (h : processActions d s = .ok u t) : Advances s t := by
  rw [processActions_run d hqueued] at h
  obtain ⟨done, turned, hturns, hconclude⟩ := of_bind_run_ok h
  have hdone : List.Forall₂ TakenTurn (inSequence s.actions) done :=
    (returns_takeTurns d.turns (inSequence s.actions) _).of_ok hturns done rfl
  have hdue : ∀ action ∈ inSequence s.actions, action.state ≠ .succeeded →
      DueCall s ⟨action.id, action.kind, (d.turns action.id).calledAt⟩ := fun action haction hdue =>
    ⟨action, (inSequence_perm s.actions).mem_iff.mp haction, rfl, hdue⟩
  have hframe : OnlyCalls (DueCall s) (processingSession d s) turned :=
    (keeps_takeTurns d.turns (inSequence s.actions) hdue _).of_ok hturns
  obtain ⟨_, hcloses⟩ := of_concludeRequest hconclude
  refine ⟨books_concludeRequest hs hqueued hframe hdone hconclude, ?_, ?_, fun hended => ?_⟩
  · obtain ⟨later, hcalls, hp⟩ := hframe.calls
    exact ⟨later, hcloses.calls.trans hcalls, hp⟩
  · intro action haction hsucceeded
    obtain ⟨other, hother, hturn⟩ :=
      exists_row_after hdone ((inSequence_perm s.actions).mem_iff.mpr haction)
    rw [hcloses.actions]
    exact hturn.succeeded hsucceeded ▸ hother
  · rw [hqueued] at hended
    simp [privacyTransitions] at hended

theorem advances_process (hs : PrivacyBooks s)
    (h : processPrivacyRequest d workspaceId s = .ok u t) : Advances s t := by
  unfold processPrivacyRequest at h
  have hrow := of_bind_requestRow h
  by_cases hqueued : s.request.state = .queued
  · rw [if_neg (not_not.mpr hqueued)] at hrow
    split at hrow
    · obtain ⟨hallowed, hflush⟩ := of_bind_moveRequest hrow
      rw [(of_flushPrivacy hflush).1]
      have hmoved : MovedTo s { s with request := { s.request with state := .onHold } } :=
        ⟨rfl, rfl, rfl, rfl, rfl, rfl, rfl, rfl, ne_nil_of_target hallowed⟩
      refine ⟨hmoved.books hs ⟨by simp, by simp⟩ fun _ => ?_, hmoved.keepsDone⟩
      simp [hqueued, unverifiedStates]
    · exact advances_processActions hs hqueued hrow
  · rw [if_pos hqueued] at hrow
    rw [(of_pure_run_ok hrow).2]
    exact ⟨hs, keepsDone_refl s⟩

/-- The move to the final state is allowed, so that only a flush can fail. -/
theorem broken_of_concludeRequest {done : List PrivacyAction} (hprocessing : s.request.state = .processing)
    (hended : ∀ state ∈ done.map (·.state), state ∈ turnEnds) {failure : Failure}
    (h : concludeRequest d done s = .error failure t) : t.broken = true := by
  have hallowed : privacyCompletionState (done.map (·.state)) ∈
      privacyTransitions s.request.state := by
    rw [hprocessing]
    exact completion_allowed hended
  unfold concludeRequest at h
  rw [bind_run_ok (modify_run _ _)] at h
  have hmoved := moveRequest_run (s := { s with actions := done }) hallowed
  rw [bind_run_ok hmoved] at h
  have hbreaks := breaks_bind (breaks_closeRequest d.finishedAt done
    (privacyCompletionState (done.map (·.state)))) fun _ => breaks_flush d.concluded
  exact (hbreaks _).of_error h failure rfl

/-- A delivery raises only where the session has refused a flush. -/
theorem broken_of_process (husable : s.broken = false) {failure : Failure}
    (h : processPrivacyRequest d s.request.workspaceId s = .error failure t) : t.broken = true := by
  unfold processPrivacyRequest at h
  rw [bind_run_ok (requestRow_run husable)] at h
  by_cases hqueued : s.request.state = .queued
  · rw [if_neg (not_not.mpr hqueued)] at h
    split at h
    · rw [bind_run_ok (moveRequest_run (by simp [hqueued, privacyTransitions]))] at h
      exact (breaks_flush d.concluded _).of_error h failure rfl
    · rw [processActions_run d hqueued] at h
      rcases of_bind_run_error h with hturns | ⟨done, turned, hturns, hconclude⟩
      · exact (breaks_takeTurns d.turns _ _).of_error hturns failure rfl
      · have hdone := (returns_takeTurns d.turns (inSequence s.actions) _).of_ok hturns done rfl
        have hframe := (keeps_takeTurns (P := fun _ => True) d.turns (inSequence s.actions)
          (fun _ _ _ => trivial) _).of_ok hturns
        refine broken_of_concludeRequest ?_ (states_of_takenTurns hdone) hconclude
        rw [hframe.request]
        rfl
  · rw [if_pos hqueued] at h
    cases h

theorem advances_runPrivacy (hs : PrivacyBooks s) (h : runPrivacy d s = .ok u t) : Advances s t := by
  unfold runPrivacy at h
  rw [bind_run_ok (get_run s)] at h
  split at h
  · cases hprocess : processPrivacyRequest d s.request.workspaceId s with
    | ok v after =>
      rw [tryCatch_run_ok hprocess] at h
      cases h
      exact advances_process hs hprocess
    | error failure after =>
      -- The handler meets the broken session and raises as well.
      rw [tryCatch_run_error hprocess] at h
      have hbroken := broken_of_process hs.usable hprocess
      unfold failPrivacyRuntime requestRow at h
      rw [bind_run_error (by rw [bind_run_ok (get_run after), if_pos hbroken, throw_run])] at h
      cases h
  · exact advances_failRuntime hs h

/-! ## Calls that raise -/

theorem more_plan {P : PrivacyCall → Prop} (call : PlanningCall) :
    Keeps (MoreCalls P) (planPrivacyRequest call) := by
  unfold planPrivacyRequest
  refine keeps_bind (more_requestRow _) fun request => keeps_bind (more_raise _) fun _ => ?_
  refine keeps_bind ?_ fun _ => more_flush _
  unfold holdOrPlan
  refine keeps_bind keeps_get fun s => keeps_ite ?_ (keeps_ite ?_ ?_)
  · unfold holdRequest
    exact keeps_bind keeps_get fun _ => keeps_ite (keeps_pure _) (more_moveRequest _)
  · unfold requeueRequest
    refine keeps_bind keeps_get fun _ => keeps_ite ?_ (keeps_pure _)
    exact keeps_bind (more_moveRequest _) fun _ => more_modify fun _ => rfl
  · unfold planActions
    refine keeps_bind keeps_get fun _ => keeps_bind (more_raise _) fun planned => ?_
    refine keeps_bind (more_raise _) fun _ => keeps_bind (more_raise _) fun _ => ?_
    refine keeps_bind (more_raise _) fun _ => keeps_bind (more_raise _) fun _ => ?_
    exact keeps_bind (more_modify fun _ => rfl) fun _ => more_moveRequest _

theorem more_concludeRequest {P : PrivacyCall → Prop} (done : List PrivacyAction) :
    Keeps (MoreCalls P) (concludeRequest d done) := by
  unfold concludeRequest closeRequest issueDeletionCertificate updateRequest
  refine keeps_bind (more_modify fun _ => rfl) fun _ => keeps_bind (more_moveRequest _) fun _ => ?_
  refine keeps_bind (keeps_bind keeps_get fun _ => keeps_ite ?_ ?_) fun _ => more_flush _
  · refine keeps_bind (more_modify fun _ => rfl) fun _ => keeps_ite ?_ (keeps_pure _)
    exact keeps_bind keeps_get fun _ => keeps_ite (more_modify fun _ => rfl) (keeps_pure _)
  · exact keeps_ite (more_modify fun _ => rfl) (keeps_pure _)

/-- The calls that are made on the way, in their order, satisfy `C`. -/
def CallsWith (C : List PrivacyCall → Prop) (s t : PrivacySession) : Prop :=
  ∃ later, t.calls = s.calls ++ later ∧ C later

variable {C : List PrivacyCall → Prop}

omit [PrivacyHashes] in
theorem CallsWith.same {u : PrivacySession} (h : CallsWith C s t)
    (htu : MoreCalls (fun _ => False) t u) : CallsWith C s u := by
  obtain ⟨later, hlater, hc⟩ := h
  obtain ⟨more, hmore, hnone⟩ := htu
  rw [eq_nil_iff_forall_not_mem.mpr hnone, append_nil] at hmore
  exact ⟨later, hmore.trans hlater, hc⟩

/-- The delivery comes to the loop over the actions. -/
structure TakesTurns (s : PrivacySession) (d : PrivacyDelivery) : Prop where
  configured : d.configured = true
  queued : s.request.state = .queued
  unheld : ¬ (s.request.kind = .delete ∧ holdsMatching s.request d.now d.holds ≠ [])

section

variable (husable : s.broken = false)

include husable

/-- The calls of a delivery are those of its turns, however it ends. -/
theorem callsWith_process (hconfigured : d.configured = true)
    (hturns : TakesTurns s d → Ends (takeTurns d.turns (inSequence s.actions))
      (processingSession d s) fun _ t => CallsWith C s t)
    (hnone : ¬ TakesTurns s d → C []) :
    Ends (processPrivacyRequest d s.request.workspaceId) s fun _ t => CallsWith C s t := by
  have hstart : ¬ TakesTurns s d → CallsWith C s s := fun hnot => ⟨[], by simp, hnone hnot⟩
  unfold processPrivacyRequest
  refine ends_bind_run_ok (requestRow_run husable) ?_
  refine ends_ite (fun hstate => ?_) fun hqueued => ends_ite (fun hheld => ?_) fun hunheld => ?_
  · rw [ends_pure]
    exact hstart fun htakes => hstate htakes.queued
  · have hkept := keeps_bind (more_moveRequest (P := fun _ => False) .onHold)
      (fun _ => more_flush d.concluded) s
    exact hkept.mono fun _ t ht => (hstart fun htakes => htakes.unheld hheld).same ht
  · have hends := hturns ⟨hconfigured, not_not.mp hqueued, hunheld⟩
    refine ends_of_run_eq (processActions_run d (not_not.mp hqueued)) ?_
    rw [ends_bind]
    refine hends.mono fun r t ht => ?_
    cases r with
    | ok done => exact (more_concludeRequest done t).mono fun _ u hu => ht.same hu
    | error failure => exact ht

theorem callsWith_runPrivacy
    (hturns : TakesTurns s d → Ends (takeTurns d.turns (inSequence s.actions))
      (processingSession d s) fun _ t => CallsWith C s t)
    (hnone : ¬ TakesTurns s d → C []) : Ends (runPrivacy d) s fun _ t => CallsWith C s t := by
  unfold runPrivacy
  rw [ends_bind, ends_get, continues_ok]
  refine ends_ite (fun hconfigured => ?_) fun hnot => ?_
  · rw [ends_tryCatch]
    refine (callsWith_process husable hconfigured hturns hnone).mono fun r t hr => ?_
    cases r with
    | ok a => exact hr
    | error failure => exact (more_failRuntime _ _ _ t).mono fun _ u hu => hr.same hu
  · have hstart : CallsWith C s s := ⟨[], by simp, hnone fun htakes => hnot htakes.configured⟩
    exact (more_failRuntime _ _ _ s).mono fun _ t ht => hstart.same ht

/-- However a delivery ends, it has called the executor only for actions that were due. -/
theorem calls_runPrivacy (d : PrivacyDelivery) :
    Ends (runPrivacy d) s fun _ t => MoreCalls (DueCall s) s t := by
  refine callsWith_runPrivacy (C := fun later => ∀ call ∈ later, DueCall s call) husable
    (fun _ => ?_) fun _ _ hcall => nomatch hcall
  refine (keeps_takeTurns (P := DueCall s) d.turns _ (fun action haction hdue => ?_) _).mono
    fun _ t ht => ht.calls
  exact ⟨action, (inSequence_perm _).mem_iff.mp haction, rfl, hdue⟩

theorem calls_performPrivacy (step : PrivacyStep) :
    Ends (performPrivacy step) s fun _ t => MoreCalls (DueCall s) s t := by
  cases step with
  | verify call => exact more_verify call s
  | plan call => exact more_plan call s
  | process delivery => exact calls_runPrivacy husable delivery
  | failRuntime code stored => exact more_failRuntime _ code stored s
  | cancel principal stored => exact more_cancel principal stored s
  | reject principal code stored => exact more_reject principal code stored s

end

/-- A call that returns advances the request, and one that raises leaves only its calls. -/
theorem advances_step (hs : PrivacyBooks s) (step : PrivacyStep) : Advances s (stepPrivacy s step) := by
  unfold stepPrivacy
  split
  · rename_i u after hreturned
    cases step with
    | verify call => exact advances_verify hs hreturned
    | plan call => exact advances_plan hs hreturned
    | process delivery => exact advances_runPrivacy hs hreturned
    | failRuntime code stored => exact advances_failRuntime hs hreturned
    | cancel principal stored => exact advances_cancel hs hreturned
    | reject principal code stored => exact advances_reject hs hreturned
  · rename_i failure after hraised
    have hcalls := (calls_performPrivacy hs.usable step).of_error hraised
    refine ⟨⟨hs.usable, hs.resting, hs.verified, hs.keyed, hs.covered, hs.numbered, hs.completed,
      hs.certified, hs.uncertified⟩, hcalls, fun action haction _ => haction, fun _ => rfl⟩

end Delivery

/-- A request as it is made: its subject has still to be verified, or the provider that sent it
has verified the subject. -/
structure NewPrivacyRequest (s : PrivacySession) : Prop where
  usable : s.broken = false
  started : s.request.state = .identityPending ∨ s.request.state = .verified ∧ IdentityVerified s
  actions : s.actions = []
  certificates : s.certificates = []

theorem NewPrivacyRequest.books {s : PrivacySession} (hs : NewPrivacyRequest s) : PrivacyBooks s := by
  have hopen : s.request.state ≠ .processing ∧ s.request.state ≠ .completed := by
    rcases hs.started with h | ⟨h, _⟩
    · simp [h]
    · simp [h]
  refine ⟨hs.usable, hopen.1, fun hverified => ?_, ?_, .inl hs.actions, ?_,
    fun h => absurd h hopen.2, fun h => absurd h.1 hopen.2, fun _ => hs.certificates⟩
  · rcases hs.started with h | ⟨_, hidentity⟩
    · simp [h, unverifiedStates] at hverified
    · exact hidentity
  · rw [hs.actions]
    exact nodup_nil
  · rw [hs.actions]
    exact fun action haction => nomatch haction

/-- What a request shows at any time. -/
structure SoundRequest (s : PrivacySession) : Prop where
  completed : s.request.state = .completed → IdentityVerified s ∧
    CoversRequest s.request s.actions ∧ s.actions ≠ [] ∧ ∀ action ∈ s.actions, action.state = .succeeded
  numbered : ∀ action ∈ s.actions, Numbered action
  certified : s.certificates ≠ [] ↔ s.request.state = .completed ∧ s.request.kind = .delete
  listed : ∀ certificate ∈ s.certificates, s.certificates = [certificate] ∧
    certificate.systemResults = s.actions.map systemResult

theorem PrivacyBooks.sound {s : PrivacySession} (hs : PrivacyBooks s) : SoundRequest s := by
  have hcertified : s.certificates ≠ [] → s.request.state = .completed ∧ s.request.kind = .delete :=
    fun hsome => by_contra fun hopen => hsome (hs.uncertified hopen)
  refine ⟨fun hcompleted => ?_, hs.numbered, ⟨hcertified, fun hboth => ?_⟩, fun certificate hmem => ?_⟩
  · obtain ⟨hne, hall⟩ := hs.completed hcompleted
    refine ⟨hs.verified (by simp [hcompleted, unverifiedStates]), ?_, hne, hall⟩
    exact hs.covered.resolve_left hne
  · obtain ⟨certificate, hissued, _⟩ := hs.certified hboth
    simp [hissued]
  · obtain ⟨issued, hissued, hresults⟩ := hs.certified (hcertified (ne_nil_of_mem hmem))
    rw [hissued] at hmem
    obtain rfl := mem_singleton.mp hmem
    exact ⟨hissued, hresults⟩

def endStates : List PrivacyRequestState := [.completed, .rejected, .cancelled]

/-- What later calls keep: a succeeded action is not executed again, and a request that has ended
stays as it is. -/
structure KeepsPast (s t : PrivacySession) : Prop where
  calls : ∃ later, t.calls = s.calls ++ later ∧ ∀ call ∈ later, ∀ action ∈ s.actions,
    action.state = .succeeded → action.id ≠ call.actionId
  succeeded : ∀ action ∈ s.actions, action.state = .succeeded → action ∈ t.actions
  ended : s.request.state ∈ endStates → t.request = s.request

theorem KeepsPast.refl (s : PrivacySession) : KeepsPast s s where
  calls := ⟨[], by simp, by simp⟩
  succeeded _ haction _ := haction
  ended _ := rfl

theorem KeepsPast.trans {s t u : PrivacySession} (hst : KeepsPast s t) (htu : KeepsPast t u) :
    KeepsPast s u := by
  obtain ⟨first, hfirst, hp⟩ := hst.calls
  obtain ⟨second, hsecond, hq⟩ := htu.calls
  refine ⟨⟨first ++ second, by rw [hsecond, hfirst, append_assoc], ?_⟩, ?_, fun hended => ?_⟩
  · intro call hcall action haction hsucceeded
    rcases mem_append.mp hcall with h | h
    · exact hp call h action haction hsucceeded
    · exact hq call h action (hst.succeeded action haction hsucceeded) hsucceeded
  · exact fun action haction hsucceeded =>
      htu.succeeded action (hst.succeeded action haction hsucceeded) hsucceeded
  · have hsame := hst.ended hended
    rw [htu.ended (hsame.symm ▸ hended), hsame]

theorem no_transitions_of_ended {state : PrivacyRequestState} (h : state ∈ endStates) :
    privacyTransitions state = [] := by
  simp only [endStates, mem_cons, not_mem_nil, or_false] at h
  rcases h with rfl | rfl | rfl <;> rfl

theorem KeepsDone.keepsPast {s t : PrivacySession} (hs : PrivacyBooks s) (h : KeepsDone s t) :
    KeepsPast s t := by
  obtain ⟨later, hcalls, hdue⟩ := h.calls
  refine ⟨⟨later, hcalls, fun call hcall action haction hsucceeded hid => ?_⟩, h.succeeded,
    fun hended => h.ended (no_transitions_of_ended hended)⟩
  obtain ⟨due, hmem, hcalled, hopen⟩ := hdue call hcall
  rw [hs.keyed.eq_of_key_eq haction hmem (hid.trans hcalled.symm)] at hsucceeded
  exact hopen hsucceeded

section Sound

variable [PrivacyHashes]

theorem books_run {s : PrivacySession} (hs : PrivacyBooks s) (steps : List PrivacyStep) :
    PrivacyBooks (run stepPrivacy s steps) :=
  invariant_run (I := PrivacyBooks) stepPrivacy (fun _ step h => (advances_step h step).1) hs steps

theorem keepsPast_run {s : PrivacySession} (hs : PrivacyBooks s) (steps : List PrivacyStep) :
    KeepsPast s (run stepPrivacy s steps) := by
  have hrun := relates_run (R := fun s t => PrivacyBooks s → PrivacyBooks t ∧ KeepsPast s t)
    stepPrivacy (fun s hs => ⟨hs, .refl s⟩)
    (fun s t u hst htu hs => ⟨(htu (hst hs).1).1, (hst hs).2.trans (htu (hst hs).1).2⟩)
    (fun s step hs => ⟨(advances_step hs step).1, (advances_step hs step).2.keepsPast hs⟩) s steps
  exact (hrun hs).2

/-- The last move of a delivery is allowed, whatever its turns have made of the actions. -/
theorem final_move_allowed {s turned : PrivacySession} {d : PrivacyDelivery} {done : List PrivacyAction}
    (h : takeTurns d.turns (inSequence s.actions) (processingSession d s) = .ok done turned) :
    ensurePrivacyTransition turned.request.state (privacyCompletionState (done.map (·.state))) =
      .ok () := by
  have hframe := (keeps_takeTurns (P := fun _ => True) d.turns (inSequence s.actions)
    (fun _ _ _ => trivial) _).of_ok h
  have hdone := (returns_takeTurns d.turns (inSequence s.actions) _).of_ok h done rfl
  have hprocessing : turned.request.state = .processing := by
    rw [hframe.request]
    rfl
  rw [hprocessing]
  exact require_of (completion_allowed (states_of_takenTurns hdone)) _

/-- A completed request did everything once: over any order of calls it completes only verified and
with all its actions succeeded, its certificate lists exactly these, a succeeded action is not
executed again, the last move of a delivery is allowed, and a request that has ended stays so. -/
theorem privacy_request_sound {s : PrivacySession} (hs : NewPrivacyRequest s) (steps : List PrivacyStep) :
    SoundRequest (run stepPrivacy s steps) ∧
      (∀ more, KeepsPast (run stepPrivacy s steps) (run stepPrivacy s (steps ++ more))) ∧
      ∀ (d : PrivacyDelivery) (done : List PrivacyAction) (turned : PrivacySession),
        takeTurns d.turns (inSequence (run stepPrivacy s steps).actions)
          (processingSession d (run stepPrivacy s steps)) = .ok done turned →
        ensurePrivacyTransition turned.request.state
          (privacyCompletionState (done.map (·.state))) = .ok () := by
  have hbooks := books_run hs.books steps
  refine ⟨hbooks.sound, fun more => ?_, fun d done turned hturns => final_move_allowed hturns⟩
  rw [run_append]
  exact keepsPast_run hbooks more

end Sound

abbrev samplePrivacyHashes : PrivacyHashes where
  jsonHash _ := String.ofList (List.replicate 64 'a')
  holdSnapshotHash entries := toString entries.length
  redactMetadata metadata := metadata
  planHash item := item.kind
  idempotencyKey requestId sequence _ := "privacy:" ++ toString requestId ++ ":" ++ toString sequence
  certificateHash _ _ _ _ := String.ofList (List.replicate 64 'b')

attribute [local instance] samplePrivacyHashes

def sampleErasure : PrivacySession where
  request := {
    id := 1, workspaceId := 2, requestedBy := 3, kind := .delete
    subjectLocatorRef := "vault://subjects/3", subjectLocatorHash := "c", dataClasses := ["ACCOUNT"]
    createdAt := 0 }

def sampleIdentity : IdentityVerificationResult where
  passed := true
  providerReference := "idp:7"
  assuranceLevel := "HIGH"
  evidenceHash := String.ofList (List.replicate 64 'd')
  failureCode := none
  verifiedAt := some 5

def sampleErasurePlan : List PlannedPrivacyAction :=
  [.deleteDatabase, .deleteSearch, .deleteVector, .deleteObjects, .revokeCredentials,
    .anonymizeAnalytics, .scheduleBackupErasure].mapIdx fun i (kind : PrivacyActionKind) => {
      kind := kind.value, dataClasses := ["ACCOUNT"], targetSystem := "primary"
      targetLocatorRef := "vault://targets", sequence := i + 1, planMetadata := "{}" }

def sampleActionTurn : ActionTurn where
  holds := []
  now := 20
  startedAt := 20
  calledAt := 21
  checkedAt := 30
  stored := true
  execution := .ok {
    providerOperationRef := "op", affectedRecords := 1, resultManifest := "{}"
    manifestIsObject := true, resultManifestHash := String.ofList (List.replicate 64 'a')
    evidenceObjectRef := "objects/1", completedAt := some 25, backupErasureDueAt := some (some 90) }
  exportResult := .error (.integrity "unused")
  maximumDownloads := .ok 1
  artifactId := 9
  artifactStored := true
  errorClass := "TimeoutError"
  now_le := by decide

def sampleErasureSteps : List PrivacyStep := [.verify {
      principal := ⟨2, 3, false⟩, answer := .ok sampleIdentity, now := 6, stored := true },
    .plan {
      principal := ⟨2, 3, true⟩, holds := [], now := 10, planned := .ok sampleErasurePlan
      newId := fun sequence => 100 + sequence.toNat, stored := true },
    .process {
      configured := true, holds := [], now := 20, turns := fun _ => sampleActionTurn
      finishedAt := 40, concluded := true, failureStored := true }]

theorem sampleErasure_new : NewPrivacyRequest sampleErasure where
  usable := rfl
  started := .inl rfl
  actions := rfl
  certificates := rfl

theorem privacy_request_sound_sample : SoundRequest (run stepPrivacy sampleErasure sampleErasureSteps) ∧
      (run stepPrivacy sampleErasure sampleErasureSteps).request.state = .completed :=
  ⟨(privacy_request_sound sampleErasure_new sampleErasureSteps).1, by decide +kernel⟩

end BlogOps.Security
