import BlogOps.WebhookDeliveries

/-!
# Runs of the webhook task

How one run of `_run_webhook_delivery` ends, with one case for each way through `execute_delivery`
and the handler around it.
-/

namespace BlogOps.Developer

open EffectRules KeyedTables Outbound List

variable {t : WebhookSession}

section Run

variable {texts : WebhookTexts} {env : WorkerEnvironment} {s : WebhookSession}

/-- A session that has just read its rows. -/
structure Opened (s : WebhookSession) : Prop where
  added : s.added = []
  usable : s.broken = false

theorem opened_session (s : WebhookDesk) (delivery : WebhookDelivery) :
    Opened (s.session delivery) := ⟨rfl, rfl⟩

/-- The delivery is open and due, and its endpoint is active. -/
structure Due (env : WorkerEnvironment) (delivery : WebhookDelivery) (endpoint : WebhookEndpoint) :
    Prop where
  isOpen : delivery.state ∈ openStates
  due : delivery.nextAttemptAt ≤ env.now
  active : endpoint.state = .active

/-- The request that a due delivery sends. -/
def preparedRequest (texts : WebhookTexts) (env : WorkerEnvironment) (s : WebhookSession) :
    Option WebhookTransportRequest :=
  (prepareRequest texts env s.delivery s.endpoint).toOption

def sentBy (texts : WebhookTexts) (env : WorkerEnvironment) (s : WebhookSession) : List Send :=
  (preparedRequest texts env s).toList.map fun request =>
    ⟨s.delivery.id, s.delivery.manualReplayCount, env.now, request⟩

def WebhookSession.afterSend (texts : WebhookTexts) (env : WorkerEnvironment)
    (s : WebhookSession) : WebhookSession :=
  { s with sends := s.sends ++ sentBy texts env s }

/-- The result that a due delivery goes on with. -/
def resultOf (texts : WebhookTexts) (env : WorkerEnvironment) (s : WebhookSession) : WebhookTransportResult :=
  match prepareRequest texts env s.delivery s.endpoint with
  | .error failure => failedResult failure
  | .ok _ => acceptedResult env.answer

theorem sendRequest_run : sendRequest env (prepareRequest texts env s.delivery s.endpoint) s =
    .ok (resultOf texts env s) (s.afterSend texts env) := by
  unfold WebhookSession.afterSend sentBy preparedRequest resultOf
  cases prepareRequest texts env s.delivery s.endpoint with
  | error failure =>
    show EStateM.Result.ok _ s = EStateM.Result.ok _ { s with sends := s.sends ++ [] }
    rw [append_nil]
  | ok request => rfl

theorem flush_ok (husable : s.broken = false) (h : storableSession s = true) : flush s = .ok () s := by
  show (if s.broken = true then throw pendingRollback else _ : WebhookM Unit) s = _
  rw [if_neg (Bool.eq_false_iff.1 husable), if_pos h]
  rfl

theorem flush_error (husable : s.broken = false) (h : storableSession s = false) :
    flush s = .error (.integrity "flush") { s with broken := true } := by
  show (if s.broken = true then throw pendingRollback else _ : WebhookM Unit) s = _
  rw [if_neg (Bool.eq_false_iff.1 husable), if_neg (Bool.eq_false_iff.1 h)]
  rfl

theorem flush_broken (hbroken : s.broken = true) : flush s = .error pendingRollback s := by
  show (if s.broken = true then throw pendingRollback else _ : WebhookM Unit) s = _
  rw [if_pos hbroken]
  rfl

theorem storable_opened (h : Opened s) : storableSession s = true := by
  unfold storableSession
  rw [h.added]
  rfl

def settledDelivery (env : WorkerEnvironment) (result : WebhookTransportResult)
    (outcome : WebhookAttemptOutcome) (next : Int) (delivery : WebhookDelivery) : WebhookDelivery :=
  match outcome with
  | .succeeded => delivery.count.deliver env.now
  | .retryableFailure => (delivery.count.await (resultCode result)).schedule next
  | .finalFailure => delivery.count.deadLetter env.now (resultCode result)

def settledEndpoint (now : Int) (outcome : WebhookAttemptOutcome) (endpoint : WebhookEndpoint) :
    WebhookEndpoint :=
  closeEndpoint now (if outcome = .succeeded then endpoint.recover else endpoint.fail)

/-- The session after a complete attempt. -/
def WebhookSession.settle (env : WorkerEnvironment) (result : WebhookTransportResult)
    (outcome : WebhookAttemptOutcome) (next : Int) (s : WebhookSession) : WebhookSession :=
  { s with
    delivery := settledDelivery env result outcome next s.delivery
    endpoint := settledEndpoint env.now outcome s.endpoint
    added := s.added ++ [attemptRow env s.delivery s.endpoint result outcome] }

/-- The session in which the next attempt could not be scheduled. -/
def WebhookSession.interrupt (env : WorkerEnvironment) (result : WebhookTransportResult)
    (s : WebhookSession) : WebhookSession :=
  (s.addAttempt env result .retryableFailure).change (·.await (resultCode result)) id

variable {failure : Failure} {result : WebhookTransportResult} {judged : Bool × Bool} {next : Int}
variable {outcome : WebhookAttemptOutcome}

theorem recordResult_unjudged (h : judgeResult texts s.delivery.retryPolicySnapshot result = .error failure) :
    recordResult texts env result s = .error failure s := by
  unfold recordResult
  rw [bind_run_ok (get_run s), h]
  rfl

theorem recordResult_judged (h : judgeResult texts s.delivery.retryPolicySnapshot result = .ok judged) :
    recordResult texts env result s = recordOutcome texts env result (attemptOutcome judged.1
      judged.2 (s.delivery.cycleAttemptCount + 1) s.delivery.maxAttempts) s := by
  unfold recordResult
  rw [bind_run_ok (get_run s), h, bind_run_ok (ofExcept_run_ok judged s)]

/-- The next attempt is computed from the row that the attempt has been counted on. -/
theorem awaitRetry_run {scheduled : Except Failure Int}
    (h : nextAttempt texts env.now s.delivery (s.delivery.cycleAttemptCount + 1) = scheduled) :
    awaitRetry texts env result (s.addAttempt env result .retryableFailure) =
      (do
        let next ← MonadExcept.ofExcept scheduled
        modify fun s => s.change (·.schedule next) (·.fail) : WebhookM Unit)
        (s.interrupt env result) := by
  subst h
  rfl

theorem recordResult_unscheduled
    (hjudged : judgeResult texts s.delivery.retryPolicySnapshot result = .ok judged)
    (houtcome : attemptOutcome judged.1 judged.2 (s.delivery.cycleAttemptCount + 1)
      s.delivery.maxAttempts = .retryableFailure)
    (hnext : nextAttempt texts env.now s.delivery (s.delivery.cycleAttemptCount + 1) =
      .error failure) :
    recordResult texts env result s = .error failure (s.interrupt env result) := by
  have hawaited : settleDelivery texts env result .retryableFailure
      (s.addAttempt env result .retryableFailure) = .error failure (s.interrupt env result) :=
    awaitRetry_run hnext
  rw [recordResult_judged hjudged, houtcome]
  unfold recordOutcome
  rw [bind_run_ok (modify_run _ _)]
  exact bind_run_error hawaited _

theorem settleDelivery_run
    (hnext : outcome = .retryableFailure → nextAttempt texts env.now s.delivery
      (s.delivery.cycleAttemptCount + 1) = .ok next) :
    settleDelivery texts env result outcome (s.addAttempt env result outcome) = .ok ()
      { s with
        delivery := settledDelivery env result outcome next s.delivery
        endpoint := if outcome = .succeeded then s.endpoint.recover else s.endpoint.fail
        added := s.added ++ [attemptRow env s.delivery s.endpoint result outcome] } := by
  cases outcome with
  | succeeded => rfl
  | finalFailure => rfl
  | retryableFailure => exact awaitRetry_run (hnext rfl)

theorem recordResult_settled
    (hjudged : judgeResult texts s.delivery.retryPolicySnapshot result = .ok judged)
    (houtcome : attemptOutcome judged.1 judged.2 (s.delivery.cycleAttemptCount + 1)
      s.delivery.maxAttempts = outcome)
    (hnext : outcome = .retryableFailure → nextAttempt texts env.now s.delivery
      (s.delivery.cycleAttemptCount + 1) = .ok next) :
    recordResult texts env result s = flush (s.settle env result outcome next) := by
  rw [recordResult_judged hjudged, houtcome]
  unfold recordOutcome
  rw [bind_run_ok (modify_run _ _), bind_run_ok (settleDelivery_run hnext), bind_run_ok (modify_run _ _)]
  rfl

/-- The attempt row of a due delivery can be stored. -/
def recordable (texts : WebhookTexts) (env : WorkerEnvironment) (s : WebhookSession) : Bool :=
  storableAttempt (attemptRow env s.delivery s.endpoint (resultOf texts env s) .succeeded)

theorem storable_added (hopened : Opened s) (outcome : WebhookAttemptOutcome)
    (hadded : t.added = s.added ++ [attemptRow env s.delivery s.endpoint (resultOf texts env s) outcome]) :
    storableSession t = recordable texts env s := by
  unfold storableSession
  rw [hadded, hopened.added]
  exact Bool.and_true _

theorem executeDelivery_due (h : Due env s.delivery s.endpoint) : executeDelivery texts env s =
      recordResult texts env (resultOf texts env s) (s.afterSend texts env) := by
  have hdue : ¬env.now < s.delivery.nextAttemptAt := Int.not_lt.2 h.due
  unfold executeDelivery
  rw [bind_run_ok (get_run s), if_neg (not_not.2 h.isOpen), if_neg hdue, if_neg (not_not.2 h.active),
    bind_run_ok sendRequest_run]

/-- How a run of the task ends: whether it commits, and what it leaves. -/
inductive RunEnd (texts : WebhookTexts) (env : WorkerEnvironment) (s : WebhookSession) :
    Bool → WebhookSession → Prop where
  | idle (h : s.delivery.state ∉ openStates ∨ env.now < s.delivery.nextAttemptAt) :
    RunEnd texts env s true s
  | cancelled (hopen : s.delivery.state ∈ openStates) (hdue : s.delivery.nextAttemptAt ≤ env.now)
    (hclosed : s.endpoint.state ≠ .active) : RunEnd texts env s true (s.change (·.cancel) id)
  | refused (hdue : Due env s.delivery s.endpoint) (hunstorable : recordable texts env s = false) :
    RunEnd texts env s false (s.afterSend texts env)
  | unjudged {failure : Failure} (hdue : Due env s.delivery s.endpoint)
    (hjudged : judgeResult texts s.delivery.retryPolicySnapshot (resultOf texts env s) = .error failure) :
    RunEnd texts env s true ((s.afterSend texts env).change
      (·.deadLetter env.now (storedCode (failureCode failure))) id)
  | unscheduled {judged : Bool × Bool} {failure : Failure} (hdue : Due env s.delivery s.endpoint)
    (hjudged : judgeResult texts s.delivery.retryPolicySnapshot (resultOf texts env s) = .ok judged)
    (houtcome : attemptOutcome judged.1 judged.2 (s.delivery.cycleAttemptCount + 1)
      s.delivery.maxAttempts = .retryableFailure)
    (hnext : nextAttempt texts env.now s.delivery (s.delivery.cycleAttemptCount + 1) =
      .error failure) (hstorable : recordable texts env s = true) :
    RunEnd texts env s true (((s.afterSend texts env).interrupt env (resultOf texts env s)).change
      (·.deadLetter env.now (storedCode (failureCode failure))) id)
  | settled {judged : Bool × Bool} {outcome : WebhookAttemptOutcome} {next : Int}
    (hdue : Due env s.delivery s.endpoint)
    (hjudged : judgeResult texts s.delivery.retryPolicySnapshot (resultOf texts env s) = .ok judged)
    (houtcome : attemptOutcome judged.1 judged.2 (s.delivery.cycleAttemptCount + 1)
      s.delivery.maxAttempts = outcome)
    (hnext : outcome = .retryableFailure →
      nextAttempt texts env.now s.delivery (s.delivery.cycleAttemptCount + 1) = .ok next)
    (hstorable : recordable texts env s = true) :
    RunEnd texts env s true ((s.afterSend texts env).settle env (resultOf texts env s) outcome next)

/-- What a run leaves once it is committed or rolled back. -/
def left (s : WebhookSession) (result : EStateM.Result Failure WebhookSession Unit) : Bool × WebhookSession :=
  match result with
  | .ok _ t => (true, t)
  | .error _ t => (false, { s with sends := t.sends })

/-- A session that cannot be flushed is rolled back. -/
theorem run_unstorable (hexecuted : executeDelivery texts env s = .error failure t)
    (hflush : ∃ e u, flush t = .error e u ∧ u.sends = t.sends) :
    ∃ e u, runWebhookDelivery texts env s = .error e u ∧ u.sends = t.sends := by
  obtain ⟨e, u, hflush, hsends⟩ := hflush
  refine ⟨e, u, ?_, hsends⟩
  unfold runWebhookDelivery
  rw [tryCatch_run_error hexecuted]
  exact bind_run_error hflush _

theorem run_failed (hexecuted : executeDelivery texts env s = .error failure t)
    (husable : t.broken = false) (hstorable : storableSession t = true)
    (hopen : t.delivery.state ∈ openStates) : runWebhookDelivery texts env s =
      .ok () (t.change (·.deadLetter env.now (storedCode (failureCode failure))) id) := by
  unfold runWebhookDelivery
  rw [tryCatch_run_error hexecuted]
  unfold failDelivery
  rw [bind_run_ok (flush_ok husable hstorable), bind_run_ok (get_run t), if_neg (not_not.2 hopen),
    bind_run_ok (modify_run _ t)]
  exact flush_ok husable hstorable

theorem runEnd_of_ok (hrun : runWebhookDelivery texts env s = .ok () t) (h : RunEnd texts env s true t) :
    RunEnd texts env s (left s (runWebhookDelivery texts env s)).1
      (left s (runWebhookDelivery texts env s)).2 := by
  rw [hrun]
  exact h

theorem runEnd_refused (hrun : runWebhookDelivery texts env s = .error failure t)
    (hsends : t.sends = (s.afterSend texts env).sends) (hdue : Due env s.delivery s.endpoint)
    (hunstorable : recordable texts env s = false) :
    RunEnd texts env s (left s (runWebhookDelivery texts env s)).1
      (left s (runWebhookDelivery texts env s)).2 := by
  rw [hrun]
  show RunEnd texts env s false { s with sends := t.sends }
  rw [hsends]
  exact .refused hdue hunstorable

section

variable (hopened : Opened s) (hdue : Due env s.delivery s.endpoint)
    (hjudged : judgeResult texts s.delivery.retryPolicySnapshot (resultOf texts env s) = .ok judged)

include hopened hdue hjudged

theorem runEnd_settled
    (houtcome : attemptOutcome judged.1 judged.2 (s.delivery.cycleAttemptCount + 1)
      s.delivery.maxAttempts = outcome)
    (hnext : outcome = .retryableFailure → nextAttempt texts env.now s.delivery
      (s.delivery.cycleAttemptCount + 1) = .ok next)
    (hexecuted : executeDelivery texts env s = flush
      ((s.afterSend texts env).settle env (resultOf texts env s) outcome next)) :
    RunEnd texts env s (left s (runWebhookDelivery texts env s)).1
      (left s (runWebhookDelivery texts env s)).2 := by
  let t := (s.afterSend texts env).settle env (resultOf texts env s) outcome next
  have husable : t.broken = false := hopened.usable
  have hadded : storableSession t = recordable texts env s := storable_added hopened outcome rfl
  cases hstorable : recordable texts env s with
  | true =>
    rw [flush_ok husable (hadded.trans hstorable)] at hexecuted
    exact runEnd_of_ok (tryCatch_run_ok hexecuted _) (.settled hdue hjudged houtcome hnext hstorable)
  | false =>
    rw [flush_error husable (hadded.trans hstorable)] at hexecuted
    obtain ⟨e, u, hrun, hsends⟩ := run_unstorable hexecuted ⟨_, _, flush_broken rfl, rfl⟩
    exact runEnd_refused hrun hsends hdue hstorable

theorem runEnd_unscheduled
    (houtcome : attemptOutcome judged.1 judged.2 (s.delivery.cycleAttemptCount + 1)
      s.delivery.maxAttempts = .retryableFailure)
    (hnext : nextAttempt texts env.now s.delivery (s.delivery.cycleAttemptCount + 1) =
      .error failure)
    (hexecuted : executeDelivery texts env s = .error failure
      ((s.afterSend texts env).interrupt env (resultOf texts env s))) :
    RunEnd texts env s (left s (runWebhookDelivery texts env s)).1
      (left s (runWebhookDelivery texts env s)).2 := by
  let t := (s.afterSend texts env).interrupt env (resultOf texts env s)
  have husable : t.broken = false := hopened.usable
  have hadded : storableSession t = recordable texts env s :=
    storable_added hopened .retryableFailure rfl
  cases hstorable : recordable texts env s with
  | true =>
    have hopen : t.delivery.state ∈ openStates := by
      show WebhookDeliveryState.retryWait ∈ openStates
      decide
    exact runEnd_of_ok (run_failed hexecuted husable (hadded.trans hstorable) hopen)
      (.unscheduled hdue hjudged houtcome hnext hstorable)
  | false =>
    obtain ⟨e, u, hrun, hsends⟩ :=
      run_unstorable hexecuted ⟨_, _, flush_error husable (hadded.trans hstorable), rfl⟩
    exact runEnd_refused hrun hsends hdue hstorable

end

/-- The next attempt, where there is none to compute any number. -/
theorem exists_next {scheduled : Except Failure Int}
    (h : outcome = .retryableFailure → ∃ next, scheduled = .ok next) :
    ∃ next, outcome = .retryableFailure → scheduled = .ok next := by
  by_cases houtcome : outcome = .retryableFailure
  · obtain ⟨next, hnext⟩ := h houtcome
    exact ⟨next, fun _ => hnext⟩
  · exact ⟨0, fun h => absurd h houtcome⟩

theorem runEnd_due (hopened : Opened s) (hdue : Due env s.delivery s.endpoint) :
    RunEnd texts env s (left s (runWebhookDelivery texts env s)).1
      (left s (runWebhookDelivery texts env s)).2 := by
  have hexecuted := @executeDelivery_due texts env s hdue
  have husable : (s.afterSend texts env).broken = false := hopened.usable
  cases hjudged : judgeResult texts s.delivery.retryPolicySnapshot (resultOf texts env s) with
  | error failure =>
    rw [recordResult_unjudged (s := s.afterSend texts env) hjudged] at hexecuted
    have hstorable : storableSession (s.afterSend texts env) = true :=
      storable_opened ⟨hopened.added, husable⟩
    exact runEnd_of_ok (run_failed hexecuted husable hstorable hdue.isOpen) (.unjudged hdue hjudged)
  | ok judged =>
    by_cases hscheduled : attemptOutcome judged.1 judged.2 (s.delivery.cycleAttemptCount + 1)
        s.delivery.maxAttempts = .retryableFailure →
      ∃ next, nextAttempt texts env.now s.delivery (s.delivery.cycleAttemptCount + 1) = .ok next
    · obtain ⟨next, hnext⟩ := exists_next hscheduled
      rw [recordResult_settled (s := s.afterSend texts env) hjudged rfl hnext] at hexecuted
      exact runEnd_settled hopened hdue hjudged rfl hnext hexecuted
    · obtain ⟨houtcome, hnone⟩ := Classical.not_imp.1 hscheduled
      cases hnext : nextAttempt texts env.now s.delivery (s.delivery.cycleAttemptCount + 1) with
      | ok next => exact absurd ⟨next, hnext⟩ hnone
      | error failure =>
        rw [recordResult_unscheduled (s := s.afterSend texts env) hjudged houtcome hnext] at hexecuted
        exact runEnd_unscheduled hopened hdue hjudged houtcome hnext hexecuted

theorem runWebhookDelivery_ends (hopened : Opened s) :
    RunEnd texts env s (left s (runWebhookDelivery texts env s)).1
      (left s (runWebhookDelivery texts env s)).2 := by
  by_cases hopen : s.delivery.state ∈ openStates
  · by_cases hdue : s.delivery.nextAttemptAt ≤ env.now
    · by_cases hactive : s.endpoint.state = .active
      · exact runEnd_due hopened ⟨hopen, hdue, hactive⟩
      · have hexecuted : executeDelivery texts env s = .ok () (s.change (·.cancel) id) := by
          unfold executeDelivery
          rw [bind_run_ok (get_run s), if_neg (not_not.2 hopen), if_neg (Int.not_lt.2 hdue),
            if_pos hactive, bind_run_ok (modify_run _ s)]
          exact flush_ok hopened.usable (storable_opened ⟨hopened.added, hopened.usable⟩)
        exact runEnd_of_ok (tryCatch_run_ok hexecuted _) (.cancelled hopen hdue hactive)
    · have hexecuted : executeDelivery texts env s = .ok () s := by
        unfold executeDelivery
        rw [bind_run_ok (get_run s), if_neg (not_not.2 hopen), if_pos (Int.not_le.1 hdue)]
        rfl
      exact runEnd_of_ok (tryCatch_run_ok hexecuted _) (.idle (.inr (Int.not_le.1 hdue)))
  · have hexecuted : executeDelivery texts env s = .ok () s := by
      unfold executeDelivery
      rw [bind_run_ok (get_run s), if_pos hopen]
      rfl
    exact runEnd_of_ok (tryCatch_run_ok hexecuted _) (.idle (.inl hopen))

end Run

section Desk

variable {texts : WebhookTexts} {env : WorkerEnvironment} {s : WebhookDesk}
variable {delivery : WebhookDelivery} {id : Uuid}

theorem find_mem (h : s.find id = some delivery) : delivery ∈ s.deliveries ∧ delivery.id = id := by
  refine ⟨mem_of_find?_eq_some h, ?_⟩
  simpa using find?_some h

/-- The columns of a delivery that nothing ever changes. -/
structure SamePlan (d e : WebhookDelivery) : Prop where
  id : e.id = d.id
  policy : e.retryPolicySnapshot = d.retryPolicySnapshot
  maxAttempts : e.maxAttempts = d.maxAttempts
  limit : e.manualReplayLimit = d.manualReplayLimit

theorem RunEnd.samePlan {s : WebhookSession} {committed : Bool}
    (h : RunEnd texts env s committed t) : SamePlan s.delivery t.delivery := by
  cases h with
  | idle h => exact ⟨rfl, rfl, rfl, rfl⟩
  | cancelled hopen hdue hclosed => exact ⟨rfl, rfl, rfl, rfl⟩
  | refused hdue hunstorable => exact ⟨rfl, rfl, rfl, rfl⟩
  | unjudged hdue hjudged => exact ⟨rfl, rfl, rfl, rfl⟩
  | unscheduled hdue hjudged houtcome hnext hstorable => exact ⟨rfl, rfl, rfl, rfl⟩
  | settled hdue hjudged houtcome hnext hstorable =>
    rename_i outcome next
    cases outcome <;> exact ⟨rfl, rfl, rfl, rfl⟩

/-- A rolled back run leaves what a committed one with unchanged rows would. -/
theorem rollBack_eq_commit (hkeyed : Keyed WebhookDelivery.id s.deliveries)
    (hmem : delivery ∈ s.deliveries) (after : WebhookSession) :
    s.rollBack after = s.commit { s.session delivery with sends := after.sends } := by
  have hdeliveries : updateRow WebhookDelivery.id delivery.id (fun _ => delivery) s.deliveries =
      s.deliveries := by
    unfold updateRow
    refine (map_congr_left fun row hrow => ?_).trans (map_id _)
    split
    · next hid => exact (hkeyed.eq_of_key_eq hrow hmem hid).symm
    · rfl
  unfold WebhookDesk.rollBack WebhookDesk.commit
  simp only [WebhookDesk.session, append_nil, hdeliveries]

/-- A delivery of the task leaves the desk with one delivery after a run. -/
theorem deliverWebhook_found (hkeyed : Keyed WebhookDelivery.id s.deliveries)
    (hfind : s.find id = some delivery) : deliverWebhook texts s id env = s.commit
      (left (s.session delivery) (runWebhookDelivery texts env (s.session delivery))).2 := by
  unfold deliverWebhook
  rw [hfind]
  dsimp only
  cases runWebhookDelivery texts env (s.session delivery) with
  | ok u after => rfl
  | error failure after => exact rollBack_eq_commit hkeyed (find_mem hfind).1 after

theorem deliverWebhook_absent (hfind : s.find id = none) : deliverWebhook texts s id env = s := by
  unfold deliverWebhook
  rw [hfind]

end Desk

end BlogOps.Developer
