import BlogOps.WebhookSends

/-!
# Webhook sends and their attempts

What a committed run of the task leaves for the request it sent: one attempt row, the state that the
policy gives to the result, and the failures of the endpoint since its last success.
-/

namespace BlogOps.Developer

open KeyedTables TransitionRuns List

/-- The attempts of the endpoint after its last success. -/
def failuresSince (attempts : List WebhookDeliveryAttempt) : Nat :=
  (attempts.reverse.takeWhile (·.outcome ≠ .succeeded)).length

theorem failuresSince_append (attempts : List WebhookDeliveryAttempt)
    (row : WebhookDeliveryAttempt) : failuresSince (attempts ++ [row]) =
      if row.outcome = .succeeded then 0 else failuresSince attempts + 1 := by
  unfold failuresSince
  rw [reverse_append, reverse_singleton, singleton_append, takeWhile_cons]
  by_cases h : row.outcome = .succeeded <;> simp [h]

def inSuccessRange (texts : WebhookTexts) (policy : RetryPolicy) (status : Option Int) : Bool :=
  status.any fun status =>
    (policy.successStatusMin.bind texts.int).any (· ≤ status) &&
      (policy.successStatusMax.bind texts.int).any (status ≤ ·)

def retryableUnder (texts : WebhookTexts) (policy : RetryPolicy) (result : WebhookTransportResult) : Bool :=
  result.transportErrorCode.isSome || result.statusCode.any fun status =>
    (policy.retryableStatuses.getD []).any fun value => texts.int value = some status

/-- The state that the policy gives to a delivery for the result of an attempt. -/
def expectedState (texts : WebhookTexts) (d : WebhookDelivery) (result : WebhookTransportResult) :
    WebhookDeliveryState :=
  if inSuccessRange texts d.retryPolicySnapshot result.statusCode = true then .delivered
  else if retryableUnder texts d.retryPolicySnapshot result = true ∧
      d.cycleAttemptCount + 1 < d.maxAttempts then .retryWait
  else .deadLettered

variable {result : WebhookTransportResult}

section Judgement

variable {texts : WebhookTexts} {policy : RetryPolicy}

theorem readInt_ok {value : Option String} {n : Int} (h : readInt texts value = .ok n) :
    value.bind texts.int = some n := by
  unfold readInt at h
  split at h
  · next hread =>
    cases h
    exact hread
  · cases h

/-- The keys and the numbers that an accepted policy has. -/
structure ReadablePolicy (texts : WebhookTexts) (policy : RetryPolicy) (minimum maximum : Int) :
    Prop where
  keys : policy.successStatusMin.isSome = true ∧ policy.successStatusMax.isSome = true ∧
    policy.retryableStatuses.isSome = true
  minimum : readInt texts policy.successStatusMin = .ok minimum
  maximum : readInt texts policy.successStatusMax = .ok maximum

theorem readable_of_complete (h : completeRetryPolicy texts policy = .ok ()) :
    ∃ minimum maximum, ReadablePolicy texts policy minimum maximum := by
  obtain ⟨_, hkeys, h⟩ := bind_ok h
  obtain ⟨base, -, h⟩ := bind_ok h
  obtain ⟨longest, -, h⟩ := bind_ok h
  obtain ⟨jitter, -, h⟩ := bind_ok h
  obtain ⟨_, -, h⟩ := bind_ok h
  obtain ⟨minimum, hminimum, h⟩ := bind_ok h
  obtain ⟨maximum, hmaximum, h⟩ := bind_ok h
  exact ⟨minimum, maximum, (require_ok hkeys).2.2.2, hminimum, hmaximum⟩

variable {maximum minimum : Int}

theorem isSuccess_eq (h : ReadablePolicy texts policy minimum maximum) (status : Option Int) :
    isSuccess texts policy status = .ok (inSuccessRange texts policy status) := by
  cases status with
  | none => rfl
  | some status =>
    simp only [isSuccess, inSuccessRange, h.minimum, h.maximum, readInt_ok h.minimum,
      readInt_ok h.maximum, Option.any_some]
    by_cases hlow : minimum ≤ status
    · simp [hlow, Except.map, bind, Except.bind]
    · simp [hlow, bind, Except.bind]

/-- Statuses are read until the first that does not convert. -/
theorem readStatuses_eq (values : List String) : (values.mapM fun value => readInt texts (some value)) =
      if ∀ value ∈ values, (texts.int value).isSome = true then .ok (values.filterMap texts.int)
      else .error .validationError := by
  induction values with
  | nil => rfl
  | cons value rest ih =>
    rw [mapM_cons, ih]
    cases hvalue : texts.int value with
    | none => simp [readInt, hvalue, bind, Except.bind]
    | some n =>
      by_cases hrest : ∀ value ∈ rest, (texts.int value).isSome = true
      · rw [if_pos hrest, if_pos (forall_mem_cons.2 ⟨hvalue ▸ rfl, hrest⟩),
          filterMap_cons_some hvalue]
        simp only [readInt, Option.bind_some, hvalue]
        rfl
      · rw [if_neg hrest, if_neg fun h => hrest (forall_mem_cons.1 h).2]
        simp only [readInt, Option.bind_some, hvalue]
        rfl

/-- The statuses of the policy that the result is compared with all convert. -/
def StatusesConvert (texts : WebhookTexts) (policy : RetryPolicy) (result : WebhookTransportResult) : Prop :=
  result.transportErrorCode = none →
    ∀ value ∈ policy.retryableStatuses.getD [], (texts.int value).isSome = true

theorem retryable_eq (h : StatusesConvert texts policy result) :
    isRetryable texts policy result = .ok (retryableUnder texts policy result) := by
  unfold isRetryable retryableUnder isRetryableStatus
  cases hcode : result.transportErrorCode with
  | some code => rfl
  | none =>
    rw [readStatuses_eq, if_pos (h hcode), if_neg (by simp)]
    show Except.ok _ = Except.ok _
    cases result.statusCode with
    | none => rfl
    | some status =>
      simp [any_eq, mem_filterMap]

/-- An accepted policy judges every result whose statuses convert, and no other. -/
theorem judgeResult_eq (h : ReadablePolicy texts policy minimum maximum)
    (hconvert : StatusesConvert texts policy result) : judgeResult texts policy result = .ok
      (inSuccessRange texts policy result.statusCode, retryableUnder texts policy result) := by
  unfold judgeResult
  rw [require_of h.keys, bind_of_ok rfl, isSuccess_eq h, bind_of_ok rfl, retryable_eq hconvert]
  rfl

theorem judgeResult_error (h : ReadablePolicy texts policy minimum maximum)
    (hconvert : ¬StatusesConvert texts policy result) :
    ∃ failure, judgeResult texts policy result = .error failure := by
  obtain ⟨hcode, hvalues⟩ := Classical.not_imp.1 hconvert
  refine ⟨.validationError, ?_⟩
  unfold judgeResult isRetryable isRetryableStatus
  rw [require_of h.keys, bind_of_ok rfl, isSuccess_eq h, bind_of_ok rfl, hcode, readStatuses_eq,
    if_neg hvalues]
  rfl

end Judgement

/-- Nothing that the worker computes after the send raises: the statuses it compares with convert,
and a result that is to be retried has a next attempt. -/
structure Computable (texts : WebhookTexts) (env : WorkerEnvironment) (s : WebhookSession) :
    Prop where
  statuses : StatusesConvert texts s.delivery.retryPolicySnapshot (resultOf texts env s)
  schedule : recordable texts env s = true →
    expectedState texts s.delivery (resultOf texts env s) = .retryWait →
      ∃ next, nextAttempt texts env.now s.delivery (s.delivery.cycleAttemptCount + 1) = .ok next

/-- The books after a run: one attempt row, the state the policy gives, and the failures of the
endpoint with what follows from their number. -/
structure Accounted (texts : WebhookTexts) (env : WorkerEnvironment) (s t : WebhookDesk)
    (delivery : WebhookDelivery) : Prop where
  row : ∃ row, t.attempts = s.attempts ++ [row] ∧ row.deliveryId = delivery.id
  state : ∃ after, t.find delivery.id = some after ∧
    after.state = expectedState texts delivery (resultOf texts env (s.session delivery))
  failures : t.endpoint.failureCount = failuresSince t.attempts
  disabled : t.endpoint.state = .disabled ↔ t.endpoint.failureDisableThreshold ≤ failuresSince t.attempts

/-- The failure count is right, and the endpoint is active below its threshold. -/
structure EndpointBooks (texts : WebhookTexts) (s : WebhookDesk) : Prop where
  desk : DeskInvariant s
  counted : s.endpoint.failureCount = failuresSince s.attempts
  state : s.endpoint.state =
    if s.endpoint.failureDisableThreshold ≤ s.endpoint.failureCount then .disabled else .active
  policies : ∀ delivery ∈ s.deliveries, completeRetryPolicy texts delivery.retryPolicySnapshot = .ok ()

section Runs

variable {texts : WebhookTexts} {env : WorkerEnvironment} {s : WebhookDesk}
  {delivery : WebhookDelivery} {t : WebhookSession} {outcome : WebhookAttemptOutcome} {next : Int}

/-- The state that an attempt leaves its delivery in. -/
def outcomeState : WebhookAttemptOutcome → WebhookDeliveryState
  | .succeeded => .delivered
  | .retryableFailure => .retryWait
  | .finalFailure => .deadLettered

theorem state_settledDelivery (env : WorkerEnvironment) (result : WebhookTransportResult)
    (outcome : WebhookAttemptOutcome) (next : Int) (d : WebhookDelivery) :
    (settledDelivery env result outcome next d).state = outcomeState outcome := by
  cases outcome <;> rfl

theorem outcomeState_eq_expected {d : WebhookDelivery}
    (houtcome : attemptOutcome (inSuccessRange texts d.retryPolicySnapshot result.statusCode)
      (retryableUnder texts d.retryPolicySnapshot result) (d.cycleAttemptCount + 1) d.maxAttempts =
      outcome) : outcomeState outcome = expectedState texts d result := by
  subst houtcome
  unfold attemptOutcome expectedState
  split
  · rfl
  · split
    · rfl
    · rfl

theorem retry_of_state {outcome : WebhookAttemptOutcome} (h : outcomeState outcome = .retryWait) :
    outcome = .retryableFailure := by
  cases outcome with
  | succeeded => cases h
  | retryableFailure => rfl
  | finalFailure => cases h

/-- The count and the state of the endpoint after an attempt. -/
theorem settledEndpoint_books {endpoint : WebhookEndpoint} {attempts : List WebhookDeliveryAttempt}
    {row : WebhookDeliveryAttempt} (hcounted : endpoint.failureCount = failuresSince attempts)
    (hactive : endpoint.state = .active) (now : Int) :
    (settledEndpoint now row.outcome endpoint).failureCount = failuresSince (attempts ++ [row]) ∧
      (settledEndpoint now row.outcome endpoint).state =
        if endpoint.failureDisableThreshold ≤
            (settledEndpoint now row.outcome endpoint).failureCount then .disabled
        else .active := by
  rw [failuresSince_append]
  unfold settledEndpoint closeEndpoint
  by_cases houtcome : row.outcome = .succeeded
  · rw [if_pos houtcome, if_pos houtcome]
    split
    · next hthreshold => exact ⟨rfl, (if_pos hthreshold).symm⟩
    · next hthreshold => exact ⟨rfl, hactive.trans (if_neg hthreshold).symm⟩
  · rw [if_neg houtcome, if_neg houtcome, ← hcounted]
    split
    · next hthreshold => exact ⟨rfl, (if_pos hthreshold).symm⟩
    · next hthreshold => exact ⟨rfl, hactive.trans (if_neg hthreshold).symm⟩

theorem threshold_settledEndpoint (now : Int) (outcome : WebhookAttemptOutcome)
    (endpoint : WebhookEndpoint) : (settledEndpoint now outcome endpoint).failureDisableThreshold =
      endpoint.failureDisableThreshold := by
  unfold settledEndpoint closeEndpoint
  split <;> split <;> rfl

theorem find_commit (h : DeskInvariant s) (hmem : delivery ∈ s.deliveries) {sent : List Send}
    (hplan : SamePlan delivery t.delivery) (hadds : Adds (s.session delivery) t sent) :
    (s.commit t).find delivery.id = some t.delivery := by
  have hkeyed : Keyed WebhookDelivery.id (s.commit t).deliveries :=
    (invariant_commit h hmem hadds).keyed
  have hrow : t.delivery ∈ (s.commit t).deliveries := mem_updateRow_of_mem hmem hplan.id.symm
  unfold WebhookDesk.find
  rw [← hplan.id]
  exact hkeyed.find?_eq hrow

theorem accounted_settled (h : EndpointBooks texts s) (hmem : delivery ∈ s.deliveries)
    (hactive : s.endpoint.state = .active) {sent : List Send}
    (hsettled : t = ((s.session delivery).afterSend texts env).settle env
      (resultOf texts env (s.session delivery)) outcome next)
    (hadds : Adds (s.session delivery) t sent) (hplan : SamePlan delivery t.delivery)
    (hstate : t.delivery.state = expectedState texts delivery
      (resultOf texts env (s.session delivery))) :
    Accounted texts env s (s.commit t) delivery ∧ (s.commit t).endpoint.state =
        if (s.commit t).endpoint.failureDisableThreshold ≤ (s.commit t).endpoint.failureCount
          then .disabled else .active := by
  let row := attemptRow env delivery s.endpoint (resultOf texts env (s.session delivery)) outcome
  have hattempts : (s.commit t).attempts = s.attempts ++ [row] := by
    rw [hsettled]
    rfl
  have hendpoint : (s.commit t).endpoint = settledEndpoint env.now row.outcome s.endpoint := by
    rw [hsettled]
    rfl
  obtain ⟨hcount, hclosed⟩ := @settledEndpoint_books _ _ row h.counted hactive env.now
  rw [← hattempts] at hcount
  have hthreshold : (s.commit t).endpoint.failureDisableThreshold =
      s.endpoint.failureDisableThreshold := by
    rw [hendpoint]
    exact threshold_settledEndpoint _ _ _
  rw [← hendpoint] at hcount hclosed
  rw [hthreshold]
  refine ⟨⟨⟨row, hattempts, rfl⟩, ⟨t.delivery, find_commit h.desk hmem hplan hadds, hstate⟩, hcount,
    ?_⟩, hclosed⟩
  rw [hclosed, hthreshold, hcount]
  split
  · next hreached => exact ⟨fun _ => hreached, fun _ => rfl⟩
  · next hbelow => exact ⟨nofun, fun hreached => absurd hreached hbelow⟩

theorem RunEnd.untouched_of_not_due {committed : Bool}
    (hend : RunEnd texts env (s.session delivery) committed t)
    (hdue : ¬Due env delivery s.endpoint) : t.endpoint = s.endpoint ∧ t.added = [] := by
  cases hend with
  | idle hidle => exact ⟨rfl, rfl⟩
  | cancelled hopen hlate hclosed => exact ⟨rfl, rfl⟩
  | refused hdue' hunstorable => exact absurd hdue' hdue
  | unjudged hdue' hjudged => exact absurd hdue' hdue
  | unscheduled hdue' hjudged houtcome hnext hstorable => exact absurd hdue' hdue
  | settled hdue' hjudged houtcome hnext hstorable => exact absurd hdue' hdue

/-- Under a policy that the schema accepts, a computable run of a due delivery records its attempt
unless it is rolled back. -/
theorem RunEnd.settled_of_computable {committed : Bool}
    (hpolicy : completeRetryPolicy texts delivery.retryPolicySnapshot = .ok ())
    (hend : RunEnd texts env (s.session delivery) committed t)
    (hdue : Due env delivery s.endpoint) (hcomputable : Computable texts env (s.session delivery)) :
    t = (s.session delivery).afterSend texts env ∧ committed = false ∨ ∃ outcome next,
      t = ((s.session delivery).afterSend texts env).settle env
        (resultOf texts env (s.session delivery)) outcome next ∧
      t.delivery.state = expectedState texts delivery (resultOf texts env (s.session delivery)) := by
  obtain ⟨minimum, maximum, hreadable⟩ := readable_of_complete hpolicy
  have hjudge : judgeResult texts delivery.retryPolicySnapshot
      (resultOf texts env (s.session delivery)) = .ok _ :=
    judgeResult_eq hreadable hcomputable.statuses
  cases hend with
  | idle hidle =>
    rcases hidle with hclosed | hearly
    · exact absurd hdue.isOpen hclosed
    · exact absurd hearly (Int.not_lt.2 hdue.due)
  | cancelled hopen hlate hclosed => exact absurd hdue.active hclosed
  | refused hdue' hunstorable => exact .inl ⟨rfl, rfl⟩
  | unjudged hdue' hjudged => cases hjudge.symm.trans hjudged
  | unscheduled hdue' hjudged houtcome hnext hstorable =>
    cases hjudge.symm.trans hjudged
    obtain ⟨next, hscheduled⟩ := hcomputable.schedule hstorable (outcomeState_eq_expected houtcome).symm
    cases hnext.symm.trans hscheduled
  | settled hdue' hjudged houtcome hnext hstorable =>
    cases hjudge.symm.trans hjudged
    exact .inr ⟨_, _, rfl, (state_settledDelivery _ _ _ _ _).trans (outcomeState_eq_expected houtcome)⟩

end Runs

/-- What the worker computes for the deliveries that are due raises nothing. -/
def AttemptsComputable (texts : WebhookTexts) (s : WebhookDesk) : WebhookAction → Prop
  | .deliver id env => ∀ delivery, s.find id = some delivery → Due env delivery s.endpoint →
      Computable texts env (s.session delivery)
  | _ => True

/-- The run of the task for the delivery sends a request and commits. -/
def SendsAndCommits (texts : WebhookTexts) (s : WebhookDesk) (id : Uuid) (env : WorkerEnvironment)
    (delivery : WebhookDelivery) : Prop :=
  s.find id = some delivery ∧ (stepWebhook texts s (.deliver id env)).sends ≠ s.sends ∧
    (left (s.session delivery) (runWebhookDelivery texts env (s.session delivery))).1 = true

def SendsAccounted (texts : WebhookTexts) (s : WebhookDesk) : WebhookAction → Prop
  | .deliver id env => ∀ delivery, SendsAndCommits texts s id env delivery →
      Accounted texts env s (stepWebhook texts s (.deliver id env)) delivery
  | _ => True

section Claim

variable {texts : WebhookTexts} {s : WebhookDesk}

theorem policies_commit (h : EndpointBooks texts s) {delivery : WebhookDelivery}
    (hmem : delivery ∈ s.deliveries) {t : WebhookSession} (hplan : SamePlan delivery t.delivery) :
    ∀ row ∈ (s.commit t).deliveries, completeRetryPolicy texts row.retryPolicySnapshot = .ok () := by
  intro row hrow
  obtain ⟨old, hold, ⟨-, rfl⟩ | ⟨-, rfl⟩⟩ := mem_updateRow hrow
  · rw [hplan.policy]
    exact h.policies delivery hmem
  · exact h.policies row hold

theorem books_step (h : EndpointBooks texts s) {a : WebhookAction}
    (hcomputable : AttemptsComputable texts s a) : EndpointBooks texts (stepWebhook texts s a) := by
  have hcase := stepWebhook_cases texts h.desk a
  have hdesk := invariant_step h.desk hcase
  generalize stepWebhook texts s a = u at hcase hdesk ⊢
  cases hcase with
  | unchanged a => exact h
  | created haccepted hfresh =>
    refine ⟨hdesk, h.counted, h.state, fun row hrow => ?_⟩
    rcases mem_append.1 hrow with hrow | hrow
    · exact h.policies row hrow
    · rw [mem_singleton.1 hrow]
      exact haccepted.2.2
  | replayed hfind hlimit hactive =>
    refine ⟨hdesk, h.counted, h.state, fun row hrow => ?_⟩
    obtain ⟨old, hold, ⟨-, rfl⟩ | ⟨-, rfl⟩⟩ := mem_updateRow hrow
    · exact h.policies old hold
    · exact h.policies row hold
  | delivered hfind hend hadds =>
    rename_i id env delivery t committed sent
    have hmem := (find_mem hfind).1
    have hpolicies := policies_commit h hmem hend.samePlan
    by_cases hdue : Due env delivery s.endpoint
    · rcases hend.settled_of_computable (h.policies delivery hmem) hdue
        (hcomputable delivery hfind hdue) with ⟨hlost, -⟩ | ⟨outcome, next, hsettled, hstate⟩
      · have hattempts : (s.commit t).attempts = s.attempts := by
          rw [hlost]
          exact append_nil _
        have hendpoint : (s.commit t).endpoint = s.endpoint := by
          rw [hlost]
          rfl
        exact ⟨hdesk, by rw [hendpoint, hattempts, h.counted], hendpoint ▸ h.state, hpolicies⟩
      · obtain ⟨haccounted, hclosed⟩ :=
          accounted_settled h hmem hdue.active hsettled hadds hend.samePlan hstate
        exact ⟨hdesk, haccounted.failures, hclosed, hpolicies⟩
    · have hunchanged : t.endpoint = s.endpoint ∧ t.added = [] := hend.untouched_of_not_due hdue
      have hattempts : (s.commit t).attempts = s.attempts := by
        show s.attempts ++ t.added = s.attempts
        rw [hunchanged.2, append_nil]
      have hendpoint : (s.commit t).endpoint = s.endpoint := hunchanged.1
      exact ⟨hdesk, by rw [hendpoint, hattempts, h.counted], hendpoint ▸ h.state, hpolicies⟩

section

variable {id : Uuid} {env : WorkerEnvironment} {delivery : WebhookDelivery}

theorem SendsAndCommits.runEnd (h : DeskInvariant s) (hsends : SendsAndCommits texts s id env delivery) :
    ∃ t, stepWebhook texts s (.deliver id env) = s.commit t ∧
      RunEnd texts env (s.session delivery) true t ∧ t.sends ≠ (s.session delivery).sends := by
  obtain ⟨hfind, hsent, hcommitted⟩ := hsends
  have hend : RunEnd texts env (s.session delivery) _ _ :=
    runWebhookDelivery_ends (opened_session s delivery)
  have hstep : stepWebhook texts s (.deliver id env) = s.commit _ := deliverWebhook_found h.keyed hfind
  rw [hcommitted] at hend
  rw [hstep] at hsent
  exact ⟨_, hstep, hend, hsent⟩

/-- A run that sends and commits is accounted for if and only if nothing raises after the send. -/
theorem accounted_iff_computable (h : EndpointBooks texts s)
    (hsends : SendsAndCommits texts s id env delivery) :
    Accounted texts env s (stepWebhook texts s (.deliver id env)) delivery ↔
      Computable texts env (s.session delivery) := by
  have hmem := (find_mem hsends.1).1
  obtain ⟨t, hstep, hend, hsent⟩ := hsends.runEnd h.desk
  obtain ⟨sent, hadds⟩ := hend.adds (opened_session s delivery)
  have hplan := hend.samePlan
  have hdue := (hend.due_of_sent hsent).1
  rw [hstep]
  constructor
  · intro haccounted
    obtain ⟨minimum, maximum, hreadable⟩ := readable_of_complete (h.policies delivery hmem)
    obtain ⟨row, hattempts, -⟩ := haccounted.row
    obtain ⟨after, hfind, hexpected⟩ := haccounted.state
    rw [find_commit h.desk hmem hplan hadds] at hfind
    obtain rfl := Option.some.inj hfind
    cases hend with
    | idle hidle => exact absurd rfl hsent
    | cancelled hopen hlate hclosed => exact absurd rfl hsent
    | unjudged hdue' hjudged =>
      -- no row is added
      have hsame : s.attempts ++ [] = s.attempts ++ [row] := hattempts
      cases append_cancel_left hsame
    | unscheduled hdue' hjudged houtcome hnext hstorable =>
      by_cases hconvert : StatusesConvert texts delivery.retryPolicySnapshot
          (resultOf texts env (s.session delivery))
      · cases (judgeResult_eq hreadable hconvert).symm.trans hjudged
        -- the delivery is dead-lettered, but the policy retries the result
        cases hexpected.trans (outcomeState_eq_expected houtcome).symm
      · obtain ⟨failure, hfailure⟩ := judgeResult_error hreadable hconvert
        cases hfailure.symm.trans hjudged
    | settled hdue' hjudged houtcome hnext hstorable =>
      by_cases hconvert : StatusesConvert texts delivery.retryPolicySnapshot
          (resultOf texts env (s.session delivery))
      · rename_i outcome next
        cases (judgeResult_eq hreadable hconvert).symm.trans hjudged
        exact ⟨hconvert, fun _ hretry => ⟨next, hnext
          (retry_of_state ((outcomeState_eq_expected houtcome).trans hretry))⟩⟩
      · obtain ⟨failure, hfailure⟩ := judgeResult_error hreadable hconvert
        cases hfailure.symm.trans hjudged
  · intro hcomputable
    rcases hend.settled_of_computable (h.policies delivery hmem) hdue hcomputable with
      ⟨-, hlost⟩ | ⟨outcome, next, hsettled, hstate⟩
    · cases hlost
    · exact (accounted_settled h hmem hdue.active hsettled hadds hplan hstate).1

end

theorem books_registered (hs : Registered s) : EndpointBooks texts s := by
  refine ⟨invariant_registered hs, ?_, ?_, ?_⟩
  · rw [hs.failureCount, hs.attempts]
    rfl
  · rw [hs.active, hs.failureCount, if_neg (Nat.not_le.2 hs.threshold)]
  · intro delivery hdelivery
    rw [hs.deliveries] at hdelivery
    cases hdelivery

/-- Over every run of a registered endpoint's deliveries in which nothing raises that the worker
computes for a due delivery, every committed run that sent a request is accounted for; and such a run
of one more delivery is accounted for if and only if nothing raises in it. -/
theorem webhook_sends_accounted (hs : Registered s) (actions : List WebhookAction)
    (h : Along (stepWebhook texts) (AttemptsComputable texts) s actions) :
    Along (stepWebhook texts) (SendsAccounted texts) s actions ∧
    ∀ (id : Uuid) (env : WorkerEnvironment) (delivery : WebhookDelivery),
      SendsAndCommits texts (run (stepWebhook texts) s actions) id env delivery →
      (Accounted texts env (run (stepWebhook texts) s actions)
          (stepWebhook texts (run (stepWebhook texts) s actions) (.deliver id env)) delivery ↔
        Computable texts env ((run (stepWebhook texts) s actions).session delivery)) := by
  have hbooks : EndpointBooks texts s := books_registered hs
  refine ⟨?_, fun id env delivery hsends => ?_⟩
  · refine along_of_invariant (I := EndpointBooks texts) (stepWebhook texts)
      (fun s a hb ha => books_step hb ha) (fun s a hb ha => ?_) hbooks h
    cases a with
    | create id data now => trivial
    | replay id now => trivial
    | deliver id env =>
      intro delivery hsends
      obtain ⟨t, -, hend, hsent⟩ := hsends.runEnd hb.desk
      exact (accounted_iff_computable hb hsends).2 (ha delivery hsends.1 (hend.due_of_sent hsent).1)
  · exact accounted_iff_computable (invariant_along (I := EndpointBooks texts) (stepWebhook texts)
      (fun s a hb ha => books_step hb ha) hbooks h) hsends

/-- In such a run the endpoint counts the attempts since its last success, and is disabled exactly
when they reach its threshold. -/
theorem breaker_follows_attempts (hs : Registered s) (actions : List WebhookAction)
    (h : Along (stepWebhook texts) (AttemptsComputable texts) s actions) :
    let t := run (stepWebhook texts) s actions
    t.endpoint.failureCount = failuresSince t.attempts ∧
      (t.endpoint.state = .disabled ↔ t.endpoint.failureDisableThreshold ≤ failuresSince t.attempts) := by
  have hbooks := invariant_along (I := EndpointBooks texts) (stepWebhook texts)
    (fun s a hb ha => books_step hb ha) (books_registered hs) h
  refine ⟨hbooks.counted, ?_⟩
  rw [← hbooks.counted, hbooks.state]
  split_ifs with hreached <;> simp [hreached]

end Claim

/-- The event of the sample with a retryable status that is no number. -/
def unreadableData : WebhookEventCreate :=
  { sampleData with retryPolicy := { samplePolicy with retryableStatuses := some ["null"] } }

def deliveredOnce (data : WebhookEventCreate) : List WebhookAction :=
  [.create 1 data 0, .deliver 1 (sampleEnvironment (sampleAnswer 200 "ok"))]

theorem sendsAndCommits_sample (data : WebhookEventCreate)
    (hdata : data = sampleData ∨ data = unreadableData) : SendsAndCommits sampleWebhookTexts
      (run (stepWebhook sampleWebhookTexts) sampleWebhookDesk [.create 1 data 0]) 1
      (sampleEnvironment (sampleAnswer 200 "ok")) (newDelivery 1 data 0) := by
  rcases hdata with rfl | rfl
  · exact ⟨by decide +kernel, by decide +kernel, by decide +kernel⟩
  · exact ⟨by decide +kernel, by decide +kernel, by decide +kernel⟩

/-- The policy of the sample is readable, and a last attempt is not scheduled again. -/
theorem computable_once {s : WebhookDesk} {env : WorkerEnvironment} {delivery : WebhookDelivery}
    (hpolicy : delivery.retryPolicySnapshot = samplePolicy)
    (honce : delivery.maxAttempts ≤ delivery.cycleAttemptCount + 1) :
    Computable sampleWebhookTexts env (s.session delivery) := by
  refine ⟨fun _ value hvalue => ?_, fun _ hretry => ?_⟩
  · replace hvalue : value ∈ delivery.retryPolicySnapshot.retryableStatuses.getD [] := hvalue
    rw [hpolicy] at hvalue
    rw [mem_singleton.1 hvalue]
    decide
  · replace hretry : expectedState sampleWebhookTexts delivery _ = .retryWait := hretry
    unfold expectedState at hretry
    split_ifs at hretry with hsuccess hagain
    exact absurd hagain.2 (by omega)

theorem webhook_sends_accounted_sample :
    Accounted sampleWebhookTexts (sampleEnvironment (sampleAnswer 200 "ok"))
      (run (stepWebhook sampleWebhookTexts) sampleWebhookDesk [.create 1 sampleData 0])
      (stepWebhook sampleWebhookTexts
        (run (stepWebhook sampleWebhookTexts) sampleWebhookDesk [.create 1 sampleData 0])
        (.deliver 1 (sampleEnvironment (sampleAnswer 200 "ok")))) (newDelivery 1 sampleData 0) := by
  have hsends := sendsAndCommits_sample sampleData (.inl rfl)
  exact ((webhook_sends_accounted registered_sample [.create 1 sampleData 0]
    ⟨trivial, trivial⟩).2 1 _ _ hsends).2 (computable_once rfl (by decide))

/-- An event of the sample, created and delivered. -/
def sendsOf (id : Uuid) (sourceEventId : String) (status : Int) : List WebhookAction :=
  [.create id { sampleData with event := { sampleData.event with sourceEventId } } 0,
    .deliver id (sampleEnvironment (sampleAnswer status "answer"))]

/-- The endpoint of the sample with a threshold of two. -/
def guardedDesk : WebhookDesk :=
  { sampleWebhookDesk with
    endpoint := { sampleWebhookDesk.endpoint with failureDisableThreshold := 2 } }

/-- A failure and a success, and then as many failures as the threshold says. -/
def failingEndpoint : List WebhookAction :=
  sendsOf 1 "event-1" 500 ++ sendsOf 2 "event-2" 200 ++ sendsOf 3 "event-3" 500 ++
    sendsOf 4 "event-4" 500

theorem attemptsComputable_once {s : WebhookDesk} {id : Uuid} {env : WorkerEnvironment}
    (honce : (s.find id).all (fun delivery => delivery.retryPolicySnapshot = samplePolicy ∧
      delivery.maxAttempts ≤ delivery.cycleAttemptCount + 1) = true) :
    AttemptsComputable sampleWebhookTexts s (.deliver id env) := by
  intro delivery hfind _
  rw [hfind] at honce
  obtain ⟨hpolicy, hattempts⟩ := of_decide_eq_true honce
  exact computable_once hpolicy hattempts

theorem failingEndpoint_computable : Along (stepWebhook sampleWebhookTexts)
    (AttemptsComputable sampleWebhookTexts) guardedDesk failingEndpoint :=
  ⟨trivial, attemptsComputable_once (by decide +kernel),
    trivial, attemptsComputable_once (by decide +kernel),
    trivial, attemptsComputable_once (by decide +kernel),
    trivial, attemptsComputable_once (by decide +kernel), trivial⟩

theorem breaker_follows_attempts_sample :
    let t := run (stepWebhook sampleWebhookTexts) guardedDesk failingEndpoint
    t.attempts.length = 4 ∧ t.endpoint.failureCount = 2 ∧ t.endpoint.state = .disabled := by
  have hregistered : Registered guardedDesk := ⟨rfl, rfl, by decide, rfl, rfl, rfl⟩
  obtain ⟨hcount, hstate⟩ := breaker_follows_attempts hregistered failingEndpoint
    failingEndpoint_computable
  obtain ⟨hattempts, hfailures, hthreshold⟩ :
      let t := run (stepWebhook sampleWebhookTexts) guardedDesk failingEndpoint
      t.attempts.length = 4 ∧ failuresSince t.attempts = 2 ∧ t.endpoint.failureDisableThreshold = 2 := by
    decide +kernel
  refine ⟨hattempts, hcount.trans hfailures, hstate.2 ?_⟩
  rw [hfailures, hthreshold]

/-- A policy that the schema accepts lists a status that is no number: the request is sent and
answered with success, and the delivery is dead-lettered without an attempt. -/
theorem webhook_send_unaccounted : unreadableData.Accepted sampleWebhookTexts ∧
    SendsAndCommits sampleWebhookTexts
      (run (stepWebhook sampleWebhookTexts) sampleWebhookDesk [.create 1 unreadableData 0]) 1
      (sampleEnvironment (sampleAnswer 200 "ok")) (newDelivery 1 unreadableData 0) ∧
    ¬Accounted sampleWebhookTexts (sampleEnvironment (sampleAnswer 200 "ok"))
      (run (stepWebhook sampleWebhookTexts) sampleWebhookDesk [.create 1 unreadableData 0])
      (run (stepWebhook sampleWebhookTexts) sampleWebhookDesk (deliveredOnce unreadableData))
      (newDelivery 1 unreadableData 0) := by
  refine ⟨by decide +kernel, sendsAndCommits_sample unreadableData (.inr rfl), fun h => ?_⟩
  obtain ⟨row, hrow, -⟩ := h.row
  have hnone : (run (stepWebhook sampleWebhookTexts) sampleWebhookDesk
      (deliveredOnce unreadableData)).attempts = [] := by
    decide +kernel
  rw [hnone] at hrow
  exact absurd hrow.symm (append_ne_nil_of_right_ne_nil _ (cons_ne_nil _ _))

end BlogOps.Developer
